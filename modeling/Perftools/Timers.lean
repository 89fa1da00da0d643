import Perftools.Detection

/-!
# The timers the sharing mode leaves running

After the detection a shared timer runs iff callbacks are registered, and with per-thread timers
every thread registered since the last `Reset` has its timer running. Four paths keep this, one
per hook of the source, while the count does not wrap. All of it rests on `setitimer` accepting
the interval `StartTimer` sets; at frequency 1 it does not, and no timer ever runs.
-/

namespace Perftools

open ProfileHandler

namespace Event

def threadsAfter (ts : List ThreadId) : Event → List ThreadId
  | .registerThread t => ts ++ [t]
  | .reset _ => []
  | _ => ts

end Event

/-- The threads that called `RegisterThread` since construction or the last `Reset`. -/
def threadsSinceReset (h : List Event) : List ThreadId := h.foldl Event.threadsAfter []

@[simp] theorem threadsSinceReset_append_singleton (h : List Event) (e : Event) :
    threadsSinceReset (h ++ [e]) = Event.threadsAfter (threadsSinceReset h) e := by
  simp [threadsSinceReset]

/-- The timers are as the sharing mode asks, given the callback count and the threads registered
since `Reset`. -/
def TimersMatch (src : TimerProfileEventSource) (count : ℤ) (threads : List ThreadId) : Prop :=
  match src.timerSharing with
  | .untouched => threads = []
  | .oneSet => ∃ a, threads = [a] ∧ src.timers.armed (src.timers.scope.slot a) = true
  | .shared => src.timers.scope = .processShared → (src.timers.armed 0 = true ↔ 0 < count)
  | .separate => src.timers.scope = .perThread → ∀ t ∈ threads, src.timers.armed t = true

namespace TimersMatch

open TimerProfileEventSource

variable {src : TimerProfileEventSource} {c : Caller} {n : ℤ} {ts : List ThreadId}

theorem of_ne_shared (hsh : src.timerSharing ≠ .shared) (hm : TimersMatch src n ts) (m : ℤ) :
    TimersMatch src m ts := by
  revert hsh hm
  unfold TimersMatch
  cases src.timerSharing <;> simp

theorem registerThread (hm : TimersMatch src n ts) (hv : SetitimerAccepts c.frequency)
    (hr : (startTimerValue c.frequency).running = true) (hn : 0 ≤ n) :
    TimersMatch (TimerProfileEventSource.registerThread c n src) n (ts ++ [c.thread]) := by
  unfold TimersMatch at hm ⊢
  cases hsh : src.timerSharing with
  | untouched =>
    rw [hsh] at hm
    subst hm
    simp [registerThread_untouched hsh, armed_startTimer hv hr]
  | oneSet =>
    rw [hsh] at hm
    obtain ⟨a, rfl, ha⟩ := hm
    simp only [TimerProfileEventSource.registerThread, hsh, isTimerRunning_eq]
    split_ifs with hrun hn0
    · simp [armed_stopTimer, hn0]
      intro hsc
      simp [hsc, TimerScope.slot]
    · intro hsc
      dsimp only at hsc
      simp only [hsc, TimerScope.slot] at hrun
      simp only [hrun, true_iff]
      omega
    · intro hsc
      simp only [startTimer_scope] at hsc
      simp only [hsc, TimerScope.slot] at hrun ha
      have hab : a ≠ c.thread := fun h => by simp_all
      simp [armed_startTimer hv hr, hsc, TimerScope.slot, ha, hab]
  | shared => simpa [TimerProfileEventSource.registerThread, hsh] using hm
  | separate =>
    rw [hsh] at hm
    simp only [TimerProfileEventSource.registerThread, hsh, startTimer_timerSharing,
      startTimer_scope, armed_startTimer hv hr]
    intro hsc t ht
    simp only [hsc, TimerScope.slot]
    split_ifs with htc
    · rfl
    · simp only [List.mem_append, List.mem_singleton] at ht
      exact hm hsc t (ht.resolve_right htc)

theorem registeredCallback (hm : TimersMatch src n ts) (hv : SetitimerAccepts c.frequency)
    (hr : (startTimerValue c.frequency).running = true) (hn : 0 ≤ n) :
    TimersMatch (TimerProfileEventSource.registeredCallback c (n + 1) src) (n + 1) ts := by
  by_cases hsh : src.timerSharing = .shared
  · unfold TimersMatch at hm ⊢
    simp only [registeredCallback_timerSharing, hsh] at hm ⊢
    intro hsc
    rw [registeredCallback_scope] at hsc
    simp only [TimerProfileEventSource.registeredCallback, hsh, and_true]
    split_ifs with h1
    · simp [armed_startTimer hv hr, hsc, TimerScope.slot]
      omega
    · simp only [hm hsc]
      omega
  · rw [registeredCallback_of_ne_shared hsh]
    exact hm.of_ne_shared hsh _

theorem unregisteredCallback (hm : TimersMatch src n ts) (hn : 0 < n) :
    TimersMatch (TimerProfileEventSource.unregisteredCallback c (n - 1) src) (n - 1) ts := by
  by_cases hsh : src.timerSharing = .shared
  · unfold TimersMatch at hm ⊢
    simp only [unregisteredCallback_timerSharing, hsh] at hm ⊢
    intro hsc
    rw [unregisteredCallback_scope] at hsc
    simp only [TimerProfileEventSource.unregisteredCallback, hsh, and_true]
    split_ifs with h1
    · simp [armed_stopTimer, hsc, TimerScope.slot, h1]
    · simp only [hm hsc]
      omega
  · rw [unregisteredCallback_of_ne_shared hsh]
    exact hm.of_ne_shared hsh _

theorem reset : TimersMatch (TimerProfileEventSource.reset c src) 0 [] := by
  simp [TimersMatch]

end TimersMatch

section Invariant

variable {s s' : ProfileHandler TimerProfileEventSource}

theorem TimersMatch.step {h : List Event} {e : Event}
    (hm : TimersMatch s.eventSource s.callbackCount (threadsSinceReset h))
    (hv : SetitimerAccepts s.frequency)
    (hr : (TimerProfileEventSource.startTimerValue s.frequency).running = true)
    (hn : 0 ≤ s.callbackCount) (hs : s.step timerSource e = .ok s')
    (hreg : ∀ t callback callbackArg, e = .registerCallback t callback callbackArg →
      toInt32 (s.callbackCount + 1) = s.callbackCount + 1) :
    TimersMatch s'.eventSource s'.callbackCount (threadsSinceReset (h ++ [e])) := by
  rw [threadsSinceReset_append_singleton]
  cases e with
  | registerThread t => cases hs; exact hm.registerThread (c := s.caller t) hv hr hn
  | registerCallback t callback callbackArg =>
    cases hs
    simp only [registerCallback_eq, hreg t callback callbackArg rfl]
    exact hm.registeredCallback (c := s.caller t) hv hr hn
  | unregisterCallback t p =>
    obtain ⟨-, hpos, rfl⟩ := unregisterCallback_eq_ok timerSource hs
    rw [removeCallback_eq]
    exact hm.unregisteredCallback (c := s.caller t) hpos
  | reset t => cases hs; exact TimersMatch.reset
  | getState t => cases hs; rw [getState_eq]; exact hm
  | signal sig info ucontext errno =>
    simp only [ProfileHandler.step] at hs
    split at hs <;> cases hs <;> exact hm

theorem TimersMatch.run {n : ℕ} {h₀ h : List Event} (hr : Refines n h₀ s)
    (hc : s.callbackCount = (liveTokens n h₀).length)
    (hm : TimersMatch s.eventSource s.callbackCount (threadsSinceReset h₀))
    (hv : SetitimerAccepts s.frequency) (hf : 1 ≤ s.frequency ∧ s.frequency ≤ kMaxFrequency)
    (hs : s.run timerSource h = .ok s') (hb : FewCallbacks n (h₀ ++ h)) :
    TimersMatch s'.eventSource s'.callbackCount (threadsSinceReset (h₀ ++ h)) :=
  (hr.run_induction timerSource (fun h s₁ => s₁.frequency = s.frequency ∧
      TimersMatch s₁.eventSource s₁.callbackCount (threadsSinceReset h))
    (fun {_ _ _ _} _ hc₁ hs₁ hb₁ ⟨hf₁, hm₁⟩ => ⟨(step_frequency timerSource hs₁).trans hf₁,
      hm₁.step (hf₁ ▸ hv) (hf₁ ▸ startTimerValue_running hf.1 hf.2) (by omega) hs₁
        fun t callback callbackArg he => by
          subst he
          simp [liveTokens_append_singleton, Event.discards, Event.registered] at hb₁
          exact toInt32_of_le_of_lt (by omega) (by omega)⟩)
    hc ⟨rfl, hm⟩ hs hb).2

end Invariant

/-- No timer of the source is running. -/
def AllDisarmed (src : TimerProfileEventSource) : Prop := ∀ k, src.timers.armed k = false

namespace AllDisarmed

open TimerProfileEventSource

variable {src : TimerProfileEventSource} {c : Caller}

theorem startTimer (hd : AllDisarmed src) (h : ¬ SetitimerAccepts c.frequency) :
    AllDisarmed (src.startTimer c) := by
  simpa [AllDisarmed, TimerProfileEventSource.startTimer, IntervalTimers.setitimer,
    show ¬ (startTimerValue c.frequency).Valid from h] using hd

theorem stopTimer (hd : AllDisarmed src) : AllDisarmed (src.stopTimer c) := fun k => by
  rw [armed_stopTimer]
  split <;> simp [hd k]

theorem registerThread (hd : AllDisarmed src) (h : ¬ SetitimerAccepts c.frequency) (n : ℤ) :
    AllDisarmed (TimerProfileEventSource.registerThread c n src) := by
  unfold TimerProfileEventSource.registerThread
  split
  · exact hd.startTimer h
  · split_ifs
    · exact stopTimer hd
    · exact hd
    · exact AllDisarmed.startTimer hd h
  · exact hd
  · exact hd.startTimer h

theorem registeredCallback (hd : AllDisarmed src) (h : ¬ SetitimerAccepts c.frequency) (n : ℤ) :
    AllDisarmed (TimerProfileEventSource.registeredCallback c n src) := by
  unfold TimerProfileEventSource.registeredCallback
  split_ifs
  · exact hd.startTimer h
  · exact hd

theorem unregisteredCallback (hd : AllDisarmed src) (n : ℤ) :
    AllDisarmed (TimerProfileEventSource.unregisteredCallback c n src) := by
  unfold TimerProfileEventSource.unregisteredCallback
  split_ifs
  · exact hd.stopTimer
  · exact hd

theorem reset (hd : AllDisarmed src) : AllDisarmed (TimerProfileEventSource.reset c src) := by
  unfold TimerProfileEventSource.reset
  split_ifs
  · exact hd.stopTimer
  · exact hd

end AllDisarmed

theorem AllDisarmed.step {s s' : ProfileHandler TimerProfileEventSource} {e : Event}
    (hd : AllDisarmed s.eventSource) (h : ¬ SetitimerAccepts s.frequency)
    (hs : s.step timerSource e = .ok s') : AllDisarmed s'.eventSource := by
  cases e with
  | registerThread t => cases hs; exact hd.registerThread (c := s.caller t) h _
  | registerCallback t callback callbackArg =>
    cases hs; exact hd.registeredCallback (c := s.caller t) h _
  | unregisterCallback t p =>
    obtain ⟨-, -, rfl⟩ := unregisterCallback_eq_ok timerSource hs
    rw [removeCallback_eq]
    exact hd.unregisteredCallback _
  | reset t => cases hs; exact hd.reset
  | getState t => cases hs; rw [getState_eq]; exact hd
  | signal sig info ucontext errno =>
    simp only [ProfileHandler.step] at hs
    split at hs <;> cases hs <;> exact hd

theorem AllDisarmed.run {s s' : ProfileHandler TimerProfileEventSource} {h : List Event}
    (hd : AllDisarmed s.eventSource) (hf : ¬ SetitimerAccepts s.frequency)
    (hs : s.run timerSource h = .ok s') : AllDisarmed s'.eventSource := by
  induction h generalizing s with
  | nil => cases hs; exact hd
  | cons e h ih =>
    obtain ⟨s₁, h₁, h₂⟩ := Outcome.bind_eq_ok.mp hs
    exact ih (hd.step hf h₁) (by rwa [step_frequency timerSource h₁]) h₂

/-- With `CPUPROFILE_FREQUENCY=1` no timer is ever armed along any history from construction. -/
theorem frequency_one_never_arms_timer (scope : TimerScope) (h : List Event)
    (s : ProfileHandler TimerProfileEventSource)
    (hrun : (freshTimerHandler (some ['1']) scope).run timerSource h = .ok s) :
    s.frequency = 1 ∧ ∀ k, s.eventSource.timers.armed k = false := by
  have hf : s.frequency = 1 :=
    (run_frequency timerSource hrun).trans (by rw [freshTimerHandler_frequency]; decide)
  refine ⟨hf, AllDisarmed.run (fun k => ?_) ?_ hrun⟩
  · simp [TimerProfileEventSource.init]
  · rw [freshTimerHandler_frequency, show frequencyFromEnv (some ['1']) = 1 by decide]
    exact startTimerValue_one_invalid

theorem frequency_one_after_registration :
    let h := [Event.registerThread 1, .registerCallback 1 10 11, .registerThread 2]
    let s₀ := freshTimerHandler (some ['1']) .processShared
    s₀.run timerSource h = .ok (s₀.run timerSource h).state ∧
      (s₀.run timerSource h).state.eventSource.timers.armed 0 = false := by
  intro h s₀
  have hrun : s₀.run timerSource h = .ok (s₀.run timerSource h).state := rfl
  exact ⟨hrun, (frequency_one_never_arms_timer .processShared h _ hrun).2 0⟩

end Perftools
