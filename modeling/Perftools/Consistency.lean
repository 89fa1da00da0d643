import Perftools.Guarded
import Perftools.Linearize
import Perftools.Disposition

/-!
# The operations take effect one at a time, under every interleaving

The statements of an operation together do to the registry what the operation does
(`OpKind.program_onRegistry`), and only the holder of `control_lock_` writes it, so the registry
is a part of the handler that `control_lock_` guards over every event source
(`registryGuard_sound`). Whenever `control_lock_` is free it is therefore the abstract machine's
after the completed operations. The same steps show the locking rule the comments of
`profile-handler.cc` state for `callbacks_`: only a thread holding both locks writes it.
-/

namespace Perftools

/-- What a statement does to the registry, for a thread with token `τ`; `none` if its check fails. -/
def Stmt.onRegistry (τ : ℕ) (r : Registry) : Stmt → Option Registry
  | .disableHandler => some { r with disposition := .sigIgn, eventsEnabled := false }
  | .enableHandler => some { r with disposition := .signalHandler, eventsEnabled := true }
  | .enableIfCallbacks =>
    some (if 0 < r.callbackCount then
      { r with disposition := .signalHandler, eventsEnabled := true } else r)
  | .pushBack => some { r with callbacks := r.callbacks ++ [τ] }
  | .incrementCount => some { r with callbackCount := toInt32 (r.callbackCount + 1) }
  | .findToken => if τ ∈ r.callbacks then some r else none
  | .checkCount => if 0 < r.callbackCount then some r else none
  | .eraseToken => some { r with callbacks := r.callbacks.erase τ }
  | .decrementCount => some { r with callbackCount := r.callbackCount - 1 }
  | .clearCallbacks => some { r with callbacks := [] }
  | .zeroCount => some { r with callbackCount := 0 }
  | .newToken | .lockControl | .unlockControl | .lockSignal | .unlockSignal | .registerThread
  | .registeredCallback | .deleteToken | .unregisteredCallback | .resetSource | .readInterrupts
  | .readState => some r

theorem Stmt.onRegistry_callbacks {s : Stmt} {τ : ℕ} {r r' : Registry} (hc : s.critical = false)
    (he : s.onRegistry τ r = some r') : r'.callbacks = r.callbacks := by
  cases s <;> simp only [Stmt.onRegistry] at he <;> (try split_ifs at he) <;> cases he <;>
    first | rfl | cases hc

theorem OpKind.program_onRegistry (τ : ℕ) (r : Registry) (k : OpKind) :
    k.program.foldlM (fun r s => s.onRegistry τ r) r = k.apply τ r := by
  cases k
  -- the operations without a branch compute to the same registry
  case registerThread | registerCallback | reset => rfl
  all_goals simp only [OpKind.program, List.foldlM_cons, List.foldlM_nil, Stmt.onRegistry,
    Option.bind_eq_bind, Option.some_bind, OpKind.apply]
  case unregisterCallback =>
    by_cases h₁ : τ ∈ r.callbacks
    · by_cases h₂ : 0 < r.callbackCount
      · by_cases h₃ : 0 < r.callbackCount - 1 <;> simp only [h₁, h₂, h₃, and_self, ↓reduceIte,
          Option.some_bind, decide_True, decide_False] <;> rfl
      · simp only [h₁, h₂, and_false, ↓reduceIte, Option.some_bind, Option.none_bind]
    · simp only [h₁, false_and, ↓reduceIte, Option.some_bind, Option.none_bind]
  case getState =>
    by_cases h : 0 < r.callbackCount <;>
      simp only [h, ↓reduceIte, decide_True, decide_False] <;> rfl

section

variable {σ : Type} (E : ProfileEventSource σ)

theorem Stmt.effect_registry {s : Stmt} {t : ThreadId} {h h' : ProfileHandler σ}
    {l l' : Locals} (he : s.effect E t (h, l) = .ok (h', l')) :
    s.onRegistry l.token h.registry = some h'.registry := by
  cases s <;> simp only [Stmt.effect] at he <;> (try split_ifs at he with hc) <;> cases he <;>
    first
    | rfl
    | simp [Stmt.onRegistry, ProfileHandler.registry, ProfileHandler.enableHandler, hc]

end

/-- The registry as a part of the handler that only the holder of `control_lock_` writes. -/
def registryGuard (σ : Type) : Guard σ Registry where
  view := ProfileHandler.registry
  stmt _ τ s r := s.onRegistry τ r
  op _ τ k r := k.apply τ r
  cleared r := { r with callbacks := [] }

theorem registryGuard_sound {σ : Type} (E : ProfileEventSource σ) : (registryGuard σ).Sound E where
  effect he := Stmt.effect_registry E he
  skip _ _ _ s hs := by
    simp only [Stmt.skipped, List.mem_cons, List.mem_nil_iff, or_false] at hs
    rcases hs with rfl | rfl | rfl | rfl | rfl <;> rfl
  clear _ _ _ := rfl
  round _ _ _ := rfl
  exit h hL := by simp only [registryGuard, ProfileHandler.registry, hL]
  ticks _ := rfl
  interrupts _ _ := rfl
  program _ τ k r := OpKind.program_onRegistry τ r k

theorem registryGuard_replay {σ : Type} (f : ℤ) (r : Registry) (H : List (OpKind × ℕ × ThreadId)) :
    (registryGuard σ).replay f r H = r.replay (H.map fun x => (x.1, x.2.1)) := by
  induction H generalizing r with
  | nil => rfl
  | cons x H ih =>
    show ((x.1.apply x.2.1 r).bind fun r' => (registryGuard σ).replay f r' H) =
      (x.1.apply x.2.1 r).bind fun r' => r'.replay (H.map fun x => (x.1, x.2.1))
    cases x.1.apply x.2.1 r with
    | none => rfl
    | some r' => exact ih r'

namespace Config

variable {σ : Type} {E : ProfileEventSource σ} {c c' : Config σ} {t : ThreadId} {k : OpKind}
  {pc : ℕ}

theorem exec_callbacks {s : Stmt} (he : c.exec E t k pc s = some c')
    (hne : c'.handler.callbacks ≠ c.handler.callbacks) : s.critical = true := by
  by_cases hp : s ∈ [.lockControl, .unlockControl, .lockSignal, .unlockSignal, .clearCallbacks]
  · simp only [List.mem_cons, List.mem_nil_iff, or_false] at hp
    rcases hp with rfl | rfl | rfl | rfl | rfl
    all_goals first | rfl | simp only [Config.exec] at he
    all_goals ((try split_ifs at he); cases he; exact absurd rfl hne)
  rw [exec_plain hp] at he
  split at he <;> cases he
  · by_contra hc
    exact hne (Stmt.onRegistry_callbacks (Bool.not_eq_true _ ▸ hc) (Stmt.effect_registry E ‹_›))
  · exact absurd rfl hne

theorem handle_callbacks {hp : HandlerPc} (he : c.handle E t hp = some c') :
    c'.handler.callbacks = c.handler.callbacks := by
  cases hp <;> simp only [Config.handle] at he <;> (try split_ifs at he) <;> cases he <;> rfl

theorem step_callbacks (hi : c.protocol.Inv) {a : Action} (hs : c.step E a = some c')
    (hne : c'.handler.callbacks ≠ c.handler.callbacks) :
    ∃ t, a = .mutate t ∧ c.controlLock = some t ∧ c.signalLock = some (.mutator t) := by
  cases a with
  | call t op =>
    simp only [Config.step] at hs
    split_ifs at hs
    cases hs
    exact absurd rfl hne
  | mutate t =>
    simp only [Config.step] at hs
    split at hs
    · next k pc _ hth _ =>
      simp only [Config.mutate] at hs
      split at hs
      · next s hs' =>
        have hsig := OpKind.holdsSignal_of_critical hs' (exec_callbacks hs hne)
        refine ⟨t, rfl, (controlLock_iff hi hth).2
          (OpKind.holdsControl_of_masked (OpKind.masked_of_holdsSignal hsig)), (hi.signal _).2 ?_⟩
        simp [Protocol.signalHeld, protocol, hth, hsig]
      · cases hs
        exact absurd rfl hne
    · cases hs
  | deliver t =>
    simp only [Config.step] at hs
    split at hs <;> cases hs <;> exact absurd rfl hne
  | handle t =>
    simp only [Config.step] at hs
    split at hs
    · exact absurd (handle_callbacks hs) hne
    · cases hs

end Config

/-- Under every interleaving, whenever `control_lock_` is free the registry is the replay of the
completed operations in lock order. -/
theorem registry_linearizable {σ : Type} (E : ProfileEventSource σ) (fr : Option (List Char))
    (source : σ) (c : Config σ) (H : List (OpKind × ℕ × ThreadId))
    (hc : Config.Trace E (Config.init fr source) c H) (hfree : c.controlLock = none) :
    (ProfileHandler.new fr source).registry.replay (H.map fun x => (x.1, x.2.1)) =
      some c.handler.registry := by
  rw [← registryGuard_replay (frequencyFromEnv fr)]
  exact (registryGuard_sound E).linearizable hc hfree

theorem registrations_in_lock_order :
    let c₀ := Config.init none (TimerProfileEventSource.init (.disarmed .perThread))
    let as := [Action.call 1 (.registerCallback 10 11), .mutate 1,
      .call 2 (.registerCallback 20 21), .mutate 2, .mutate 2, .mutate 2, .mutate 2, .mutate 2,
      .mutate 2, .mutate 2, .mutate 2, .mutate 2, .mutate 2,
      .mutate 1, .mutate 1, .mutate 1, .mutate 1, .mutate 1, .mutate 1, .mutate 1, .mutate 1,
      .mutate 1]
    let c := (c₀.runActions timerSource as).getD c₀
    let H := c₀.traceOf timerSource as
    c₀.runActions timerSource as = some c ∧ c.controlLock = none ∧
      H = [(.registerCallback, 1, 2), (.registerCallback, 0, 1)] ∧ c.handler.callbacks = [1, 0] ∧
      (ProfileHandler.new none (TimerProfileEventSource.init (.disarmed .perThread))).registry.replay
        (H.map fun x => (x.1, x.2.1)) = some c.handler.registry := by
  intro c₀ as c H
  have hrun : c₀.runActions timerSource as = some c := rfl
  have ht := Config.Trace.refl.runActions hrun
  rw [List.nil_append] at ht
  exact ⟨hrun, by decide, by decide, by decide,
    registry_linearizable timerSource none _ c H ht (by decide)⟩

theorem Registry.replay_append_reset (r : Registry) (hist₀ hist₁ : List (OpKind × ℕ)) (τ : ℕ) :
    r.replay (hist₀ ++ (.reset, τ) :: hist₁) =
      (r.replay hist₀).bind fun _ => Registry.replay ⟨[], 0, .sigIgn, false⟩ hist₁ := by
  simp only [Registry.replay, List.foldlM_append, List.foldlM_cons, Option.bind_eq_bind]
  rfl

/-- Under every interleaving, after a completed `Reset` the registry is the replay of what
completed after it. -/
theorem registry_after_reset {σ : Type} (E : ProfileEventSource σ) (fr : Option (List Char))
    (source : σ) (c : Config σ) {H₀ H₁ : List (OpKind × ℕ × ThreadId)} {τ : ℕ} {r : ThreadId}
    (hc : Config.Trace E (Config.init fr source) c (H₀ ++ (.reset, τ, r) :: H₁))
    (hfree : c.controlLock = none) :
    (ProfileHandler.new fr source).registry.replay (H₁.map fun x => (x.1, x.2.1)) =
      some c.handler.registry := by
  have hr := (registryGuard_sound E).linearizable hc hfree
  rw [registryGuard_replay, List.map_append, List.map_cons, Registry.replay_append_reset] at hr
  obtain ⟨-, -, hr⟩ := Option.bind_eq_some.mp hr
  exact hr

theorem registration_after_reset :
    let c₀ := Config.init none (TimerProfileEventSource.init (.disarmed .perThread))
    let as := [Action.call 1 (.registerCallback 10 11), .mutate 1, .mutate 1, .mutate 1,
      .mutate 1, .mutate 1, .mutate 1, .mutate 1, .mutate 1, .mutate 1, .mutate 1, .mutate 1,
      .call 2 .reset, .mutate 2, .mutate 2, .mutate 2, .mutate 2, .mutate 2, .mutate 2, .mutate 2,
      .mutate 2, .mutate 2,
      .call 1 (.registerCallback 12 13), .mutate 1, .mutate 1, .mutate 1, .mutate 1, .mutate 1,
      .mutate 1, .mutate 1, .mutate 1, .mutate 1, .mutate 1, .mutate 1]
    let c := (c₀.runActions timerSource as).getD c₀
    c₀.runActions timerSource as = some c ∧ c.controlLock = none ∧
      c₀.traceOf timerSource as =
        [(.registerCallback, 0, 1), (.reset, 0, 2), (.registerCallback, 1, 1)] ∧
      c.handler.callbacks = [1] ∧
      (ProfileHandler.new none (TimerProfileEventSource.init (.disarmed .perThread))).registry.replay
        [(.registerCallback, 1)] = some c.handler.registry := by
  intro c₀ as c
  have hrun : c₀.runActions timerSource as = some c := rfl
  have hH : c₀.traceOf timerSource as =
      [(.registerCallback, 0, 1), (.reset, 0, 2), (.registerCallback, 1, 1)] := by decide
  have ht := Config.Trace.refl.runActions hrun
  rw [List.nil_append, hH] at ht
  exact ⟨hrun, by decide, hH, by decide, @registry_after_reset _ timerSource none _ c
    [(.registerCallback, 0, 1)] [(.registerCallback, 1, 1)] 0 2 ht (by decide)⟩

/-- Under every interleaving, with `control_lock_` free the count is the `int32` number of callbacks. -/
theorem registry_consistent {σ : Type} (E : ProfileEventSource σ) (fr : Option (List Char))
    (source : σ) (c : Config σ) (hc : Config.Reachable E (Config.init fr source) c)
    (hfree : c.controlLock = none) :
    c.handler.callbackCount = toInt32 c.handler.callbacks.length ∧
      (c.handler.callbacks.length < 2 ^ 31 →
        c.handler.callbackCount = c.handler.callbacks.length ∧ DispositionTracks c.handler) := by
  obtain ⟨H, hH⟩ := hc.exists_trace
  have hr := (registryGuard_sound E).linearizable hH hfree
  rw [registryGuard_replay] at hr
  obtain ⟨hcount, htrack⟩ := Registry.replay_good (registry_new_good fr source) hr
  refine ⟨hcount, fun hlt => ?_⟩
  have hsmall : c.handler.callbackCount = c.handler.callbacks.length :=
    hcount.trans (toInt32_of_le_of_lt (by omega) (by exact_mod_cast hlt))
  rcases htrack with htrack | ⟨-, -, -, hwrap⟩
  · exact ⟨hsmall, htrack⟩
  · exact absurd hwrap (not_le.mpr hlt)

theorem registry_between_registrations :
    let c₀ := Config.init none (TimerProfileEventSource.init (.disarmed .perThread))
    let as := [Action.call 1 (.registerCallback 10 11), .mutate 1, .mutate 1, .mutate 1,
      .mutate 1, .mutate 1, .mutate 1, .mutate 1, .mutate 1, .mutate 1, .mutate 1, .mutate 1,
      .call 2 (.registerCallback 20 21), .mutate 2]
    let c := (c₀.runActions timerSource as).getD c₀
    c₀.runActions timerSource as = some c ∧ c.threads 2 = some (.registerCallback, 1) ∧
      c.handler.callbacks.length = 1 ∧
      c.handler.callbackCount = c.handler.callbacks.length ∧ DispositionTracks c.handler := by
  intro c₀ as c
  have hrun : c₀.runActions timerSource as = some c := rfl
  exact ⟨hrun, by decide, by decide, (registry_consistent timerSource none _ c
    (Config.Reachable.refl.runActions timerSource hrun) (by decide)).2 (by decide)⟩

/-- Under every interleaving, only a thread holding both locks changes `callbacks_`. -/
theorem callbacks_written_under_both_locks {σ : Type} (E : ProfileEventSource σ)
    (fr : Option (List Char)) (source : σ) (c c' : Config σ) (a : Action)
    (hc : Config.Reachable E (Config.init fr source) c) (hs : c.step E a = some c')
    (hne : c'.handler.callbacks ≠ c.handler.callbacks) :
    ∃ t, a = .mutate t ∧ c.controlLock = some t ∧ c.signalLock = some (.mutator t) :=
  Config.step_callbacks hc.inv hs hne

theorem push_back_under_both_locks :
    let c₀ := Config.init none (TimerProfileEventSource.init (.disarmed .perThread))
    let as := [Action.call 1 (.registerCallback 10 11), .mutate 1, .mutate 1, .mutate 1, .mutate 1]
    let c := (c₀.runActions timerSource as).getD c₀
    let c' := (c.step timerSource (.mutate 1)).getD c
    c.step timerSource (.mutate 1) = some c' ∧ c'.handler.callbacks ≠ c.handler.callbacks ∧
      ∃ t, Action.mutate 1 = .mutate t ∧ c.controlLock = some t ∧
        c.signalLock = some (.mutator t) := by
  intro c₀ as c c'
  have hrun : c₀.runActions timerSource as = some c := rfl
  have hstep : c.step timerSource (.mutate 1) = some c' := rfl
  exact ⟨hstep, by decide, callbacks_written_under_both_locks timerSource none _ c c' _
    (Config.Reachable.refl.runActions timerSource hrun) hstep (by decide)⟩

end Perftools
