import Perftools.Registry

/-!
# Detecting whether interval timers are shared

The first `RegisterThread` arms the timer of its thread; the second looks at the timer of its
own thread and concludes `TIMERS_SHARED` if it runs, `TIMERS_SEPARATE` otherwise. Only
`RegisterThread` and `Reset` change `timer_sharing_`, and the callback hooks touch a timer only
in `TIMERS_SHARED`, so nothing else around the two calls disturbs the experiment.
-/

namespace Perftools

open ProfileHandler

/-- A handler over the interval timer source, built while every timer of the scope is disarmed. -/
def freshTimerHandler (fr : Option (List Char)) (scope : TimerScope) :
    ProfileHandler TimerProfileEventSource :=
  ProfileHandler.new fr (TimerProfileEventSource.init (IntervalTimers.disarmed scope))

/-- The sharing mode that detection should find for a scope. -/
def TimerScope.detected : TimerScope → TimerSharing
  | .processShared => .shared
  | .perThread => .separate

/-- `setitimer` accepts the interval `StartTimer` sets at frequency `f`. -/
def SetitimerAccepts (f : ℤ) : Prop := (TimerProfileEventSource.startTimerValue f).Valid

instance : DecidablePred SetitimerAccepts := fun f =>
  inferInstanceAs (Decidable (TimerProfileEventSource.startTimerValue f).Valid)

@[simp] theorem freshTimerHandler_eventSource (fr : Option (List Char)) (scope : TimerScope) :
    (freshTimerHandler fr scope).eventSource =
      TimerProfileEventSource.init (IntervalTimers.disarmed scope) := rfl

@[simp] theorem freshTimerHandler_frequency (fr : Option (List Char)) (scope : TimerScope) :
    (freshTimerHandler fr scope).frequency = frequencyFromEnv fr := rfl

namespace Event

def registersThread : Event → Option ThreadId
  | .registerThread t => some t
  | _ => none

def isReset : Event → Bool
  | .reset _ => true
  | _ => false

end Event

namespace TimerProfileEventSource

variable {src : TimerProfileEventSource} {c : Caller}

theorem armed_startTimer (hv : SetitimerAccepts c.frequency)
    (hr : (startTimerValue c.frequency).running = true) (k : ℕ) :
    (src.startTimer c).timers.armed k =
      if k = src.timers.scope.slot c.thread then true else src.timers.armed k := by
  rw [startTimer, IntervalTimers.armed_setitimer _ _ hv, hr]

theorem armed_stopTimer (k : ℕ) :
    (src.stopTimer c).timers.armed k =
      if k = src.timers.scope.slot c.thread then false else src.timers.armed k := by
  rw [stopTimer, IntervalTimers.armed_setitimer _ _ (by decide)]
  rfl

@[simp] theorem startTimer_scope : (src.startTimer c).timers.scope = src.timers.scope := by
  simp [startTimer]

@[simp] theorem stopTimer_scope : (src.stopTimer c).timers.scope = src.timers.scope := by
  simp [stopTimer]

theorem isTimerRunning_eq : src.isTimerRunning c = src.timers.armed (src.timers.scope.slot c.thread) :=
  rfl

@[simp] theorem registerThread_scope (n : ℤ) :
    (registerThread c n src).timers.scope = src.timers.scope := by
  unfold registerThread; split <;> (try split) <;> (try split) <;> simp

@[simp] theorem registeredCallback_scope (n : ℤ) :
    (registeredCallback c n src).timers.scope = src.timers.scope := by
  unfold registeredCallback; split <;> simp

@[simp] theorem unregisteredCallback_scope (n : ℤ) :
    (unregisteredCallback c n src).timers.scope = src.timers.scope := by
  unfold unregisteredCallback; split <;> simp

@[simp] theorem reset_scope : (reset c src).timers.scope = src.timers.scope := by
  unfold reset; split <;> simp

theorem registerThread_untouched (h : src.timerSharing = .untouched) (n : ℤ) :
    registerThread c n src = { src.startTimer c with timerSharing := .oneSet } := by
  simp [registerThread, h]

theorem registerThread_oneSet_timerSharing (h : src.timerSharing = .oneSet) (n : ℤ) :
    (registerThread c n src).timerSharing =
      if src.isTimerRunning c then .shared else .separate := by
  simp only [registerThread, h]
  split_ifs <;> rfl

end TimerProfileEventSource

section Runs

variable {s s' : ProfileHandler TimerProfileEventSource}

theorem step_quiet {e : Event} (hs : s.step timerSource e = .ok s')
    (hq : e.registersThread = none ∧ e.isReset = false) :
    s'.eventSource.timerSharing = s.eventSource.timerSharing ∧
      (s.eventSource.timerSharing ≠ .shared → s'.eventSource = s.eventSource) := by
  cases e with
  | registerThread t => simp [Event.registersThread] at hq
  | reset t => simp [Event.isReset] at hq
  | registerCallback t callback callbackArg =>
    cases hs
    exact ⟨by simp [timerSource], fun h => by
      simp [timerSource, TimerProfileEventSource.registeredCallback_of_ne_shared h]⟩
  | unregisterCallback t p =>
    obtain ⟨-, -, rfl⟩ := unregisterCallback_eq_ok timerSource hs
    exact ⟨by simp [timerSource], fun h => by
      simp [timerSource, TimerProfileEventSource.unregisteredCallback_of_ne_shared h]⟩
  | getState t => cases hs; simp
  | signal =>
    simp only [ProfileHandler.step] at hs
    split at hs <;> cases hs <;> exact ⟨rfl, fun _ => rfl⟩

theorem run_quiet {h : List Event} (hs : s.run timerSource h = .ok s')
    (hq : ∀ e ∈ h, e.registersThread = none ∧ e.isReset = false) :
    s'.eventSource.timerSharing = s.eventSource.timerSharing ∧
      (s.eventSource.timerSharing ≠ .shared → s'.eventSource = s.eventSource) := by
  induction h generalizing s with
  | nil => cases hs; exact ⟨rfl, fun _ => rfl⟩
  | cons e h ih =>
    obtain ⟨s₁, h₁, h₂⟩ := Outcome.bind_eq_ok.mp hs
    obtain ⟨e₁, f₁⟩ := step_quiet h₁ (hq e (List.mem_cons_self e h))
    obtain ⟨e₂, f₂⟩ := ih h₂ fun e he => hq e (List.mem_cons_of_mem _ he)
    exact ⟨e₂.trans e₁, fun hne => (f₂ (e₁ ▸ hne)).trans (f₁ hne)⟩

theorem run_decided {h : List Event} (hs : s.run timerSource h = .ok s')
    (hq : ∀ e ∈ h, e.isReset = false)
    (hd : s.eventSource.timerSharing = .shared ∨ s.eventSource.timerSharing = .separate) :
    s'.eventSource.timerSharing = s.eventSource.timerSharing := by
  induction h generalizing s with
  | nil => cases hs; rfl
  | cons e h ih =>
    obtain ⟨s₁, h₁, h₂⟩ := Outcome.bind_eq_ok.mp hs
    have e₁ : s₁.eventSource.timerSharing = s.eventSource.timerSharing := by
      cases hrt : e.registersThread with
      | none => exact (step_quiet h₁ ⟨hrt, hq e (List.mem_cons_self e h)⟩).1
      | some t =>
        cases e <;> simp [Event.registersThread] at hrt
        cases h₁
        exact TimerProfileEventSource.registerThread_timerSharing_of_decided hd _ _
    rw [← e₁] at hd ⊢
    exact ih h₂ (fun e he => hq e (List.mem_cons_of_mem _ he)) hd

/-- From `TIMERS_UNTOUCHED`, the second `RegisterThread` finds `TIMERS_SHARED` iff it reads a
running timer. -/
theorem detects_from_untouched {h₀ h₁ h₂ : List Event} {a b : ThreadId}
    (hun : s.eventSource.timerSharing = .untouched)
    (hf : 1 ≤ s.frequency ∧ s.frequency ≤ kMaxFrequency) (hset : SetitimerAccepts s.frequency)
    (h₀q : ∀ e ∈ h₀, e.registersThread = none ∧ e.isReset = false)
    (h₁q : ∀ e ∈ h₁, e.registersThread = none ∧ e.isReset = false)
    (h₂q : ∀ e ∈ h₂, e.isReset = false)
    (hs : s.run timerSource (h₀ ++ .registerThread a :: h₁ ++ .registerThread b :: h₂) = .ok s') :
    s'.eventSource.timerSharing =
      let scope := s.eventSource.timers.scope
      if scope.slot b = scope.slot a ∨ s.eventSource.timers.armed (scope.slot b) then .shared
      else .separate := by
  rw [run_append, Outcome.bind_eq_ok] at hs
  obtain ⟨s₂, hs₂, hs⟩ := hs
  rw [run_cons, ProfileHandler.step, Outcome.ok_bind] at hs
  rw [run_append, Outcome.bind_eq_ok] at hs₂
  obtain ⟨s₀, hs₀, hs₂⟩ := hs₂
  rw [run_cons, ProfileHandler.step, Outcome.ok_bind] at hs₂
  have e₀ := (run_quiet hs₀ h₀q).2 (by rw [hun]; decide)
  have f₀ := run_frequency timerSource hs₀
  have hsrc₁ : (s₀.registerThread timerSource a).eventSource =
      { s.eventSource.startTimer ⟨a, s.frequency⟩ with timerSharing := .oneSet } := by
    simp [timerSource, e₀, f₀, caller, TimerProfileEventSource.registerThread_untouched hun]
  have e₂ := (run_quiet hs₂ h₁q).2 (by rw [hsrc₁]; simp)
  have hone : s₂.eventSource.timerSharing = .oneSet := by rw [e₂, hsrc₁]
  have htimers : s₂.eventSource.timers = (s.eventSource.startTimer ⟨a, s.frequency⟩).timers := by
    rw [e₂, hsrc₁]
  -- the timer the second call reads is the one the first armed, or it was already running
  have hread : s₂.eventSource.isTimerRunning (s₂.caller b) = true ↔
      s.eventSource.timers.scope.slot b = s.eventSource.timers.scope.slot a ∨
        s.eventSource.timers.armed (s.eventSource.timers.scope.slot b) = true := by
    rw [TimerProfileEventSource.isTimerRunning_eq, htimers,
      TimerProfileEventSource.startTimer_scope, TimerProfileEventSource.armed_startTimer hset
        (startTimerValue_running hf.1 hf.2)]
    split_ifs <;> simp_all [caller]
  have hdet : (s₂.registerThread timerSource b).eventSource.timerSharing =
      if s.eventSource.timers.scope.slot b = s.eventSource.timers.scope.slot a ∨
          s.eventSource.timers.armed (s.eventSource.timers.scope.slot b) then .shared
      else .separate := by
    show (TimerProfileEventSource.registerThread (s₂.caller b) s₂.callbackCount
      s₂.eventSource).timerSharing = _
    rw [TimerProfileEventSource.registerThread_oneSet_timerSharing hone]
    simp only [hread]
  rw [← hdet]
  exact run_decided hs h₂q (by rw [hdet]; split <;> simp)

end Runs

/-- The first two `RegisterThread` calls from distinct threads find the scope of the timers. -/
theorem detection_correct (fr : Option (List Char)) (scope : TimerScope)
    (hset : SetitimerAccepts (frequencyFromEnv fr)) {h₀ h₁ h₂ : List Event} {a b : ThreadId}
    (hab : a ≠ b) (h₀q : ∀ e ∈ h₀, e.registersThread = none ∧ e.isReset = false)
    (h₁q : ∀ e ∈ h₁, e.registersThread = none ∧ e.isReset = false)
    (h₂q : ∀ e ∈ h₂, e.isReset = false) {s : ProfileHandler TimerProfileEventSource}
    (hs : (freshTimerHandler fr scope).run timerSource
      (h₀ ++ .registerThread a :: h₁ ++ .registerThread b :: h₂) = .ok s) :
    s.eventSource.timerSharing = scope.detected := by
  rw [detects_from_untouched rfl (frequencyFromEnv_mem fr) hset h₀q h₁q h₂q hs]
  cases scope <;> simp [TimerProfileEventSource.init, TimerScope.slot, TimerScope.detected, hab.symm]

theorem detection_on_per_thread_timers :
    let h := [Event.registerCallback 1 10 11] ++ .registerThread 1 :: [.getState 1] ++
      .registerThread 2 :: [.registerThread 3]
    let s₀ := freshTimerHandler none .perThread
    s₀.run timerSource h = .ok (s₀.run timerSource h).state ∧
      (s₀.run timerSource h).state.eventSource.timerSharing = .separate := by
  intro h s₀
  have hrun : s₀.run timerSource h = .ok (s₀.run timerSource h).state := rfl
  exact ⟨hrun, detection_correct none .perThread (by decide) (by decide) (by decide) (by decide)
    (by decide) hrun⟩

end Perftools
