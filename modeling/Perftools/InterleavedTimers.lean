import Perftools.SourceOrder
import Perftools.Timers

/-!
# The timers and their detection under every interleaving

Over the interval timer source, the abstract machine keeps the timers as the sharing mode asks
(`TimersMatch.op`) and runs the detection experiment as the sequential model does
(`replay_detects`), whatever order the operations come in. The interleaving model is that
machine whenever `control_lock_` is free, so both carry over to every interleaving; the
`RegisterThread` calls count in the order they gave `control_lock_` back.
-/

namespace Perftools

def threadsAfterOp (ts : List ThreadId) (x : OpKind × ℕ × ThreadId) : List ThreadId :=
  match x.1 with
  | .registerThread => ts ++ [x.2.2]
  | .reset => []
  | .registerCallback | .unregisterCallback | .getState => ts

/-- The threads whose `RegisterThread` completed since the last completed `Reset`. -/
def registeredSinceReset (H : List (OpKind × ℕ × ThreadId)) : List ThreadId :=
  H.foldl threadsAfterOp []

def completedRegistrations (H : List (OpKind × ℕ × ThreadId)) : ℕ :=
  H.countP fun x => decide (x.1 = .registerCallback)

@[simp] theorem registeredSinceReset_append_singleton (H : List (OpKind × ℕ × ThreadId))
    (x : OpKind × ℕ × ThreadId) :
    registeredSinceReset (H ++ [x]) = threadsAfterOp (registeredSinceReset H) x := by
  simp [registeredSinceReset]

theorem completedRegistrations_append_singleton (H : List (OpKind × ℕ × ThreadId)) (k : OpKind)
    (τ : ℕ) (t : ThreadId) :
    completedRegistrations (H ++ [(k, τ, t)]) =
      completedRegistrations H + if k = .registerCallback then 1 else 0 := by
  simp [completedRegistrations, List.countP_append, List.countP_cons]

theorem OpKind.apply_length {k : OpKind} {τ : ℕ} {r r' : Registry} (h : k.apply τ r = some r') :
    r'.callbacks.length ≤ r.callbacks.length + if k = .registerCallback then 1 else 0 := by
  cases k
  case unregisterCallback =>
    by_cases hc : τ ∈ r.callbacks ∧ 0 < r.callbackCount
    · rw [OpKind.apply, if_pos hc] at h
      cases h
      exact (List.length_erase_le _ _).trans (Nat.le_add_right _ _)
    · rw [OpKind.apply, if_neg hc] at h
      cases h
  all_goals cases h; simp

namespace TimersMatch

variable {c : Caller} {τ : ℕ} {k : OpKind} {g g' : Registry × TimerProfileEventSource}
  {ts : List ThreadId}

theorem op (hm : TimersMatch g.2 g.1.callbackCount ts) (hv : SetitimerAccepts c.frequency)
    (hr : (TimerProfileEventSource.startTimerValue c.frequency).running = true)
    (hc : g.1.Counted) (hlen : g.1.callbacks.length < 2 ^ 31)
    (hreg : k = .registerCallback → g.1.callbacks.length + 1 < 2 ^ 31)
    (hrun : k.run timerSource c τ g = some g') :
    TimersMatch g'.2 g'.1.callbackCount (threadsAfterOp ts (k, τ, c.thread)) := by
  obtain ⟨r, src⟩ := g
  dsimp only at hm hc hlen hreg
  obtain ⟨r', ha, rfl⟩ := Option.map_eq_some'.mp hrun
  have hcount : r.callbackCount = r.callbacks.length :=
    hc.trans (toInt32_of_le_of_lt (by omega) (by exact_mod_cast hlen))
  cases k
  case registerThread =>
    cases ha
    exact hm.registerThread hv hr (by omega)
  case registerCallback =>
    cases ha
    have hsucc : toInt32 (r.callbackCount + 1) = r.callbackCount + 1 :=
      toInt32_of_le_of_lt (by omega) (by rw [hcount]; exact_mod_cast hreg rfl)
    show TimersMatch (TimerProfileEventSource.registeredCallback c (toInt32 (r.callbackCount + 1))
      src) (toInt32 (r.callbackCount + 1)) ts
    rw [hsucc]
    exact hm.registeredCallback hv hr (by omega)
  case unregisterCallback =>
    by_cases h : τ ∈ r.callbacks ∧ 0 < r.callbackCount
    · rw [OpKind.apply, if_pos h] at ha
      cases ha
      exact hm.unregisteredCallback h.2
    · rw [OpKind.apply, if_neg h] at ha
      cases ha
  case reset =>
    cases ha
    exact TimersMatch.reset
  case getState =>
    cases ha
    exact hm

end TimersMatch

section Replay

variable {fr : Option (List Char)} {scope : TimerScope}

theorem replay_timersMatch (hset : SetitimerAccepts (frequencyFromEnv fr))
    {H : List (OpKind × ℕ × ThreadId)} {g : Registry × TimerProfileEventSource}
    (hfew : completedRegistrations H < 2 ^ 31)
    (hr : (sourceGuard timerSource).replay (frequencyFromEnv fr)
      ((freshTimerHandler fr scope).registry, TimerProfileEventSource.init (.disarmed scope)) H =
        some g) :
    g.1.Good ∧ g.1.callbacks.length ≤ completedRegistrations H ∧ g.2.timers.scope = scope ∧
      TimersMatch g.2 g.1.callbackCount (registeredSinceReset H) := by
  induction H using List.reverseRecOn generalizing g with
  | nil =>
    cases hr
    exact ⟨registry_new_good fr _, le_refl 0, rfl, rfl⟩
  | append_singleton H x ih =>
    obtain ⟨k, τ, t⟩ := x
    rw [completedRegistrations_append_singleton] at hfew
    have hH : completedRegistrations H < 2 ^ 31 := by split_ifs at hfew <;> omega
    rw [Guard.replay_append_singleton] at hr
    obtain ⟨g₁, h₁, h₂⟩ := Option.bind_eq_some.mp hr
    obtain ⟨hg, hlen, hsc, hm⟩ := ih hH h₁
    obtain ⟨r', ha, rfl⟩ := Option.map_eq_some'.mp h₂
    have hgrow := OpKind.apply_length ha
    rw [completedRegistrations_append_singleton, registeredSinceReset_append_singleton]
    refine ⟨OpKind.apply_good hg ha, by dsimp only; split_ifs at hgrow ⊢ <;> omega, ?_, ?_⟩
    · cases k <;> simp [OpKind.hook, timerSource, hsc]
    · exact TimersMatch.op hm hset (startTimerValue_running (frequencyFromEnv_mem fr).1
        (frequencyFromEnv_mem fr).2) hg.1 (by omega) (fun hk => by subst hk; simp at hfew; omega)
        h₂

end Replay

/-- Under every interleaving, with `control_lock_` free the timers match the sharing mode, as in
the sequential model. -/
theorem timers_match_sharing_interleaved (fr : Option (List Char)) (scope : TimerScope)
    (hset : SetitimerAccepts (frequencyFromEnv fr)) (c : Config TimerProfileEventSource)
    (H : List (OpKind × ℕ × ThreadId))
    (hc : Config.Trace timerSource (Config.init fr (TimerProfileEventSource.init (.disarmed scope)))
      c H)
    (hfree : c.controlLock = none) (hfew : completedRegistrations H < 2 ^ 31) :
    (scope = .processShared → c.handler.eventSource.timerSharing = .shared →
      (c.handler.eventSource.timers.armed 0 = true ↔ 0 < c.handler.callbackCount)) ∧
    (scope = .perThread → c.handler.eventSource.timerSharing = .separate →
      ∀ t ∈ registeredSinceReset H, c.handler.eventSource.timers.armed t = true) := by
  obtain ⟨-, -, hsc, hm⟩ :=
    replay_timersMatch hset hfew ((sourceGuard_sound timerSource_ticksReadOnly).linearizable hc hfree)
  dsimp only [sourceGuard, ProfileHandler.registry] at hsc hm
  unfold TimersMatch at hm
  constructor
  · rintro rfl hsh
    rw [hsh] at hm
    exact hm hsc
  · rintro rfl hsh
    rw [hsh] at hm
    exact hm hsc

theorem timers_after_interleaved_registrations :
    let c₀ := Config.init none (TimerProfileEventSource.init (.disarmed .perThread))
    let as := [Action.call 1 .registerThread, .call 2 .registerThread, .mutate 2, .mutate 2,
      .mutate 2, .mutate 2, .mutate 1, .mutate 1, .mutate 1, .mutate 1,
      .call 1 (.registerCallback 10 11), .mutate 1, .mutate 1, .mutate 1, .mutate 1, .mutate 1,
      .mutate 1, .mutate 1, .mutate 1, .mutate 1, .mutate 1, .mutate 1]
    let c := (c₀.runActions timerSource as).getD c₀
    let H := c₀.traceOf timerSource as
    c₀.runActions timerSource as = some c ∧ c.controlLock = none ∧ completedRegistrations H < 2 ^ 31 ∧
      registeredSinceReset H = [2, 1] ∧ c.handler.eventSource.timerSharing = .separate ∧
      ∀ t ∈ registeredSinceReset H, c.handler.eventSource.timers.armed t = true := by
  intro c₀ as c H
  have hrun : c₀.runActions timerSource as = some c := rfl
  have ht := Config.Trace.refl.runActions hrun
  rw [List.nil_append] at ht
  have hfree : c.controlLock = none := by decide
  have hfew : completedRegistrations H < 2 ^ 31 := by decide
  have hsep : c.handler.eventSource.timerSharing = .separate := by decide
  exact ⟨hrun, hfree, hfew, by decide, hsep,
    (timers_match_sharing_interleaved none .perThread (by decide) c H ht hfree hfew).2 rfl hsep⟩

/-! ## The detection experiment -/

section Detection

variable {c : Caller} {τ : ℕ} {k : OpKind} {f : ℤ} {g g' a₀ : Registry × TimerProfileEventSource}
  {H : List (OpKind × ℕ × ThreadId)}

theorem OpKind.run_quiet (hk : k ≠ .registerThread ∧ k ≠ .reset)
    (h : k.run timerSource c τ g = some g') :
    g'.2.timerSharing = g.2.timerSharing ∧ (g.2.timerSharing ≠ .shared → g'.2 = g.2) := by
  obtain ⟨r', -, rfl⟩ := Option.map_eq_some'.mp h
  cases k
  · exact absurd rfl hk.1
  · exact ⟨by simp [OpKind.hook, timerSource],
      fun hs => TimerProfileEventSource.registeredCallback_of_ne_shared hs _ _⟩
  · exact ⟨by simp [OpKind.hook, timerSource],
      fun hs => TimerProfileEventSource.unregisteredCallback_of_ne_shared hs _ _⟩
  · exact absurd rfl hk.2
  · exact ⟨rfl, fun _ => rfl⟩

theorem replay_quiet (hq : ∀ x ∈ H, x.1 ≠ .registerThread ∧ x.1 ≠ .reset)
    (h : (sourceGuard timerSource).replay f a₀ H = some g) :
    g.2.timerSharing = a₀.2.timerSharing ∧ (a₀.2.timerSharing ≠ .shared → g.2 = a₀.2) := by
  induction H generalizing a₀ with
  | nil => cases h; exact ⟨rfl, fun _ => rfl⟩
  | cons x H ih =>
    obtain ⟨a₁, h₁, h₂⟩ := Option.bind_eq_some.mp h
    obtain ⟨e₁, f₁⟩ := OpKind.run_quiet (hq x (List.mem_cons_self x H)) h₁
    obtain ⟨e₂, f₂⟩ := ih (fun x hx => hq x (List.mem_cons_of_mem _ hx)) h₂
    exact ⟨e₂.trans e₁, fun hne => (f₂ (e₁ ▸ hne)).trans (f₁ hne)⟩

theorem replay_decided (hq : ∀ x ∈ H, x.1 ≠ .reset)
    (hd : a₀.2.timerSharing = .shared ∨ a₀.2.timerSharing = .separate)
    (h : (sourceGuard timerSource).replay f a₀ H = some g) : g.2.timerSharing = a₀.2.timerSharing := by
  induction H generalizing a₀ with
  | nil => cases h; rfl
  | cons x H ih =>
    obtain ⟨a₁, h₁, h₂⟩ := Option.bind_eq_some.mp h
    have e₁ : a₁.2.timerSharing = a₀.2.timerSharing := by
      by_cases hrt : x.1 = .registerThread
      · obtain ⟨r', -, rfl⟩ := Option.map_eq_some'.mp h₁
        rw [hrt]
        exact TimerProfileEventSource.registerThread_timerSharing_of_decided hd _ _
      · exact (OpKind.run_quiet ⟨hrt, hq x (List.mem_cons_self x H)⟩ h₁).1
    rw [← e₁] at hd ⊢
    exact ih (fun x hx => hq x (List.mem_cons_of_mem _ hx)) hd h₂

theorem replay_scope (h : (sourceGuard timerSource).replay f a₀ H = some g) :
    g.2.timers.scope = a₀.2.timers.scope := by
  induction H generalizing a₀ with
  | nil => cases h; rfl
  | cons x H ih =>
    obtain ⟨a₁, h₁, h₂⟩ := Option.bind_eq_some.mp h
    obtain ⟨r', -, rfl⟩ := Option.map_eq_some'.mp h₁
    rw [ih h₂]
    cases x.1 <;> simp [OpKind.hook, timerSource]

theorem replay_reset_untouched {τ : ℕ} {r : ThreadId}
    (h : (sourceGuard timerSource).replay f a₀ (H ++ [(.reset, τ, r)]) = some g) :
    g.2.timerSharing = .untouched := by
  rw [Guard.replay_append_singleton] at h
  obtain ⟨g₁, -, h⟩ := Option.bind_eq_some.mp h
  cases h
  rfl

/-- From `TIMERS_UNTOUCHED` on the abstract machine, the second `RegisterThread` finds
`TIMERS_SHARED` iff it reads a running timer. -/
theorem replay_detects (hf : 1 ≤ f ∧ f ≤ kMaxFrequency) (hset : SetitimerAccepts f)
    {H₀ H₁ H₂ : List (OpKind × ℕ × ThreadId)} {a b : ThreadId} {τa τb : ℕ}
    (hun : a₀.2.timerSharing = .untouched)
    (h₀q : ∀ x ∈ H₀, x.1 ≠ .registerThread ∧ x.1 ≠ .reset)
    (h₁q : ∀ x ∈ H₁, x.1 ≠ .registerThread ∧ x.1 ≠ .reset) (h₂q : ∀ x ∈ H₂, x.1 ≠ .reset)
    (h : (sourceGuard timerSource).replay f a₀
      (H₀ ++ (.registerThread, τa, a) :: H₁ ++ (.registerThread, τb, b) :: H₂) = some g) :
    g.2.timerSharing =
      let scope := a₀.2.timers.scope
      if scope.slot b = scope.slot a ∨ a₀.2.timers.armed (scope.slot b) then .shared
      else .separate := by
  simp only [List.append_assoc, List.cons_append, Guard.replay_append, Guard.replay_cons] at h
  obtain ⟨g₁, hs₀, h⟩ := Option.bind_eq_some.mp h
  obtain ⟨g₂, hsa, h⟩ := Option.bind_eq_some.mp h
  obtain ⟨g₃, hs₁, h⟩ := Option.bind_eq_some.mp h
  obtain ⟨g₄, hsb, hs₂⟩ := Option.bind_eq_some.mp h
  have e₀ := (replay_quiet h₀q hs₀).2 (by rw [hun]; decide)
  obtain rfl : (g₁.1, TimerProfileEventSource.registerThread ⟨a, f⟩ g₁.1.callbackCount g₁.2) = g₂ :=
    Option.some_injective _ hsa
  obtain rfl : (g₃.1, TimerProfileEventSource.registerThread ⟨b, f⟩ g₃.1.callbackCount g₃.2) = g₄ :=
    Option.some_injective _ hsb
  have hsrc₂ : TimerProfileEventSource.registerThread ⟨a, f⟩ g₁.1.callbackCount g₁.2 =
      { a₀.2.startTimer ⟨a, f⟩ with timerSharing := .oneSet } := by
    rw [e₀, TimerProfileEventSource.registerThread_untouched hun]
  have e₂ : g₃.2 = { a₀.2.startTimer ⟨a, f⟩ with timerSharing := .oneSet } := by
    rw [(replay_quiet h₁q hs₁).2 (by simp [hsrc₂])]
    exact hsrc₂
  -- the timer the second call reads is the one the first armed, or it was already running
  have hread : g₃.2.isTimerRunning ⟨b, f⟩ = true ↔
      a₀.2.timers.scope.slot b = a₀.2.timers.scope.slot a ∨
        a₀.2.timers.armed (a₀.2.timers.scope.slot b) = true := by
    rw [TimerProfileEventSource.isTimerRunning_eq, e₂]
    simp only [TimerProfileEventSource.startTimer_scope]
    rw [TimerProfileEventSource.armed_startTimer hset (startTimerValue_running hf.1 hf.2)]
    split_ifs with hab <;> simp only [hab, true_or, false_or]
  have hdet : (TimerProfileEventSource.registerThread ⟨b, f⟩ g₃.1.callbackCount g₃.2).timerSharing =
      if a₀.2.timers.scope.slot b = a₀.2.timers.scope.slot a ∨
          a₀.2.timers.armed (a₀.2.timers.scope.slot b) then .shared
      else .separate := by
    rw [TimerProfileEventSource.registerThread_oneSet_timerSharing (by rw [e₂])]
    simp only [hread]
  rw [← hdet]
  exact replay_decided h₂q (by dsimp only; rw [hdet]; split <;> simp) hs₂

end Detection

/-- Under every interleaving, the first two `RegisterThread` calls to complete find the scope of
the timers. -/
theorem detection_interleaved (fr : Option (List Char)) (scope : TimerScope)
    (hset : SetitimerAccepts (frequencyFromEnv fr)) {H₀ H₁ H₂ : List (OpKind × ℕ × ThreadId)}
    {a b : ThreadId} {τa τb : ℕ} (hab : a ≠ b)
    (h₀q : ∀ x ∈ H₀, x.1 ≠ .registerThread ∧ x.1 ≠ .reset)
    (h₁q : ∀ x ∈ H₁, x.1 ≠ .registerThread ∧ x.1 ≠ .reset) (h₂q : ∀ x ∈ H₂, x.1 ≠ .reset)
    (c : Config TimerProfileEventSource)
    (hc : Config.Trace timerSource (Config.init fr (TimerProfileEventSource.init (.disarmed scope)))
      c (H₀ ++ (.registerThread, τa, a) :: H₁ ++ (.registerThread, τb, b) :: H₂))
    (hfree : c.controlLock = none) :
    c.handler.eventSource.timerSharing = scope.detected := by
  have h := (sourceGuard_sound timerSource_ticksReadOnly).linearizable hc hfree
  rw [show c.handler.eventSource.timerSharing =
      ((sourceGuard timerSource).view c.handler).2.timerSharing from rfl,
    replay_detects (frequencyFromEnv_mem fr) hset rfl h₀q h₁q h₂q h]
  cases scope <;> simp [sourceGuard, ProfileHandler.new, ProfileHandler.disableHandler,
    TimerProfileEventSource.init, TimerScope.slot,
    TimerScope.detected, hab.symm]

theorem detection_with_overlapping_registrations :
    let c₀ := Config.init none (TimerProfileEventSource.init (.disarmed .perThread))
    let as := [Action.call 1 .registerThread, .call 2 .registerThread, .mutate 2, .mutate 2,
      .mutate 2, .mutate 2, .mutate 1, .mutate 1, .mutate 1, .mutate 1]
    let c := (c₀.runActions timerSource as).getD c₀
    c₀.runActions timerSource as = some c ∧
      c₀.traceOf timerSource as = [] ++ (.registerThread, 0, 2) :: [] ++ (.registerThread, 0, 1) :: [] ∧
      c.controlLock = none ∧ c.handler.eventSource.timerSharing = .separate := by
  intro c₀ as c
  have hrun : c₀.runActions timerSource as = some c := rfl
  have ht := Config.Trace.refl.runActions hrun
  have hH : c₀.traceOf timerSource as =
      [] ++ (.registerThread, 0, 2) :: [] ++ (.registerThread, 0, 1) :: [] := by decide
  rw [List.nil_append, hH] at ht
  have hfree : c.controlLock = none := by decide
  exact ⟨hrun, hH, hfree, detection_interleaved none .perThread (by decide) (by decide)
    (by decide) (by decide) (by decide) c ht hfree⟩

/-- Under every interleaving, the detection after the last completed `Reset` finds the fresh mode
unless an old timer runs. -/
theorem redetection_interleaved (fr : Option (List Char)) (scope : TimerScope)
    (hset : SetitimerAccepts (frequencyFromEnv fr)) {H₀ H₁ H₂ H₃ : List (OpKind × ℕ × ThreadId)}
    {r a b : ThreadId} {τr τa τb : ℕ} (hab : a ≠ b)
    (h₁q : ∀ x ∈ H₁, x.1 ≠ .registerThread ∧ x.1 ≠ .reset)
    (h₂q : ∀ x ∈ H₂, x.1 ≠ .registerThread ∧ x.1 ≠ .reset) (h₃q : ∀ x ∈ H₃, x.1 ≠ .reset)
    (c : Config TimerProfileEventSource)
    (hc : Config.Trace timerSource (Config.init fr (TimerProfileEventSource.init (.disarmed scope)))
      c (H₀ ++ (.reset, τr, r) :: H₁ ++ (.registerThread, τa, a) :: H₂ ++
        (.registerThread, τb, b) :: H₃))
    (hfree : c.controlLock = none) :
    ∃ g₀, (sourceGuard timerSource).replay (frequencyFromEnv fr)
        ((freshTimerHandler fr scope).registry, TimerProfileEventSource.init (.disarmed scope))
        (H₀ ++ [(.reset, τr, r)]) = some g₀ ∧
      c.handler.eventSource.timerSharing =
        if scope = .perThread ∧ g₀.2.timers.armed b = true then .shared else scope.detected := by
  have h := (sourceGuard_sound timerSource_ticksReadOnly).linearizable hc hfree
  rw [show H₀ ++ (.reset, τr, r) :: H₁ ++ (.registerThread, τa, a) :: H₂ ++
      (.registerThread, τb, b) :: H₃ = (H₀ ++ [(.reset, τr, r)]) ++
        (H₁ ++ (.registerThread, τa, a) :: H₂ ++ (.registerThread, τb, b) :: H₃) by simp,
    Guard.replay_append] at h
  obtain ⟨g₀, hg₀, h⟩ := Option.bind_eq_some.mp h
  have hsc : g₀.2.timers.scope = scope := replay_scope hg₀
  refine ⟨g₀, hg₀, ?_⟩
  rw [show c.handler.eventSource.timerSharing =
      ((sourceGuard timerSource).view c.handler).2.timerSharing from rfl,
    replay_detects (frequencyFromEnv_mem fr) hset (replay_reset_untouched hg₀) h₁q h₂q h₃q h, hsc]
  cases scope <;> simp [TimerScope.slot, TimerScope.detected, hab.symm]

theorem redetection_after_interleaved_reset :
    let c₀ := Config.init none (TimerProfileEventSource.init (.disarmed .perThread))
    let as := [Action.call 1 .registerThread, .mutate 1, .mutate 1, .mutate 1, .mutate 1,
      .call 2 .registerThread, .mutate 2, .mutate 2, .mutate 2, .mutate 2,
      .call 1 .reset, .mutate 1, .mutate 1, .mutate 1, .mutate 1, .mutate 1, .mutate 1, .mutate 1,
      .mutate 1, .mutate 1,
      .call 1 .registerThread, .mutate 1, .mutate 1, .mutate 1, .mutate 1,
      .call 2 .registerThread, .mutate 2, .mutate 2, .mutate 2, .mutate 2]
    let c := (c₀.runActions timerSource as).getD c₀
    c₀.runActions timerSource as = some c ∧
      c₀.traceOf timerSource as = [(.registerThread, 0, 1), (.registerThread, 0, 2)] ++
        (.reset, 0, 1) :: [] ++ (.registerThread, 0, 1) :: [] ++ (.registerThread, 0, 2) :: [] ∧
      c.controlLock = none ∧ c.handler.eventSource.timerSharing = .shared ∧
      ∃ g₀, (sourceGuard timerSource).replay (frequencyFromEnv none)
          ((freshTimerHandler none .perThread).registry,
            TimerProfileEventSource.init (.disarmed .perThread))
          ([(.registerThread, 0, 1), (.registerThread, 0, 2)] ++ [(.reset, 0, 1)]) = some g₀ ∧
        c.handler.eventSource.timerSharing =
          if TimerScope.perThread = .perThread ∧ g₀.2.timers.armed 2 = true then .shared
          else TimerScope.perThread.detected := by
  intro c₀ as c
  have hrun : c₀.runActions timerSource as = some c := rfl
  have ht := Config.Trace.refl.runActions hrun
  have hH : c₀.traceOf timerSource as = [(.registerThread, 0, 1), (.registerThread, 0, 2)] ++
      (.reset, 0, 1) :: [] ++ (.registerThread, 0, 1) :: [] ++ (.registerThread, 0, 2) :: [] := by
    decide
  rw [List.nil_append, hH] at ht
  have hfree : c.controlLock = none := by decide
  exact ⟨hrun, hH, hfree, by decide, redetection_interleaved none .perThread (by decide)
    (by decide) (by decide) (by decide) (by decide) c ht hfree⟩

end Perftools
