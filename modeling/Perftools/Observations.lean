import Perftools.Consistency
import Perftools.LiveTokens
import Perftools.Serial

/-!
# What the callers see takes effect at the same place

Each completed operation takes effect at the point it gave `control_lock_` back, and what the
callers see is read at the same place. `GetState` reads the count while it holds the lock, so
the count it returns is the abstract machine's right after its own entry (`Config.Snapshot`).
The process ends only at the two checks of `UnregisterCallback`, which run under
`control_lock_` before the operation changes anything, exactly where the abstract machine
rejects the token.
-/

namespace Perftools

namespace OpKind

theorem checkCount_at : ∀ k : OpKind, ∀ pc < k.program.length,
    k.program[pc]? = some .checkCount → k = .unregisterCallback ∧ pc = 2 := by
  intro k; cases k <;> decide

end OpKind

theorem Guard.Reached.unique {σ α : Type} {G : Guard σ α} {c : Caller} {τ : ℕ} {a₁ a a' : α}
    {k : OpKind} {pc : ℕ} (h : G.Reached c τ a₁ k pc a) (h' : G.Reached c τ a₁ k pc a')
    (hs : k.program[pc]? ≠ some .clearCallbacks) : a = a' := by
  obtain ⟨x, hx, rfl | ⟨hc, -⟩⟩ := h
  · obtain ⟨x', hx', rfl | ⟨hc, -⟩⟩ := h'
    · exact Option.some_injective _ (hx.symm.trans hx')
    · exact absurd hc hs
  · exact absurd hc hs

theorem registryGuard_reached_checks {σ : Type} {c : Caller} {τ : ℕ} {a₁ r : Registry} {pc : ℕ}
    (h : (registryGuard σ).Reached c τ a₁ .unregisterCallback pc r) (hpc : pc = 1 ∨ pc = 2) :
    r = a₁ ∧ (pc = 2 → τ ∈ a₁.callbacks) := by
  obtain ⟨x, hx, rfl | ⟨hc, -⟩⟩ := h
  · rcases hpc with rfl | rfl
    · exact ⟨(Option.some_injective _ hx).symm, by omega⟩
    · simp only [Guard.upTo, OpKind.program, List.take, List.foldlM_cons, List.foldlM_nil,
        registryGuard, Stmt.onRegistry, Option.bind_eq_bind, Option.some_bind] at hx
      split_ifs at hx with hmem
      · exact ⟨(Option.some_injective _ hx).symm, fun _ => hmem⟩
      · cases hx
  · rcases hpc with rfl | rfl <;> cases hc

namespace Config

variable {σ : Type} {E : ProfileEventSource σ} {c c' : Config σ} {t u : ThreadId} {k : OpKind}
  {pc : ℕ}

theorem exec_threads {s : Stmt} (hth : c.threads u = some (k, pc))
    (he : c.exec E u k pc s = some c') :
    c'.threads u = some (k, pc + 1) ∨
      (s = .clearCallbacks ∨ s = .findToken ∨ s = .checkCount) ∧ c'.threads u = some (k, pc) := by
  by_cases hp : s ∈ [.lockControl, .unlockControl, .lockSignal, .unlockSignal, .clearCallbacks]
  · simp only [List.mem_cons, List.mem_nil_iff, or_false] at hp
    rcases hp with rfl | rfl | rfl | rfl | rfl <;> simp only [exec] at he <;>
      (try split at he) <;> cases he <;>
      first
      | exact .inl (Function.update_same _ _ _)
      | exact .inr ⟨.inl rfl, Function.update_same _ _ _⟩
  rw [exec_plain hp] at he
  split at he <;> cases he
  · exact .inl (Function.update_same _ _ _)
  · exact .inr ⟨.inr (Stmt.effect_fatal E ‹_›).1, hth⟩

theorem exec_frame {s : Stmt} (he : c.exec E u k pc s = some c') (htu : t ≠ u) :
    c'.threads t = c.threads t ∧ c'.locals t = c.locals t := by
  by_cases hp : s ∈ [.lockControl, .unlockControl, .lockSignal, .unlockSignal, .clearCallbacks]
  · simp only [List.mem_cons, List.mem_nil_iff, or_false] at hp
    rcases hp with rfl | rfl | rfl | rfl | rfl <;> simp only [exec] at he <;>
      (try split at he) <;> cases he <;> exact ⟨Function.update_noteq htu _ _, rfl⟩
  rw [exec_plain hp] at he
  split at he <;> cases he
  · exact ⟨Function.update_noteq htu _ _, Function.update_noteq htu _ _⟩
  · exact ⟨rfl, rfl⟩

theorem exec_halts {s : Stmt} (he : c.exec E u k pc s = some c') (hh : c'.halted ≠ c.halted) :
    ∃ msg y, s.effect E u (c.handler, c.locals u) = .fatal msg y ∧
      c' = { c with halted := some msg } := by
  by_cases hp : s ∈ [.lockControl, .unlockControl, .lockSignal, .unlockSignal, .clearCallbacks]
  · simp only [List.mem_cons, List.mem_nil_iff, or_false] at hp
    rcases hp with rfl | rfl | rfl | rfl | rfl <;> simp only [exec] at he <;>
      (try split at he) <;> cases he <;> exact absurd rfl hh
  rw [exec_plain hp] at he
  split at he <;> cases he
  · exact absurd rfl hh
  · exact ⟨_, _, ‹_›, rfl⟩

theorem call_threads {op : Op} (hs : c.step E (.call t op) = some c') :
    c'.threads t = some (op.kind, 0) := by
  simp only [step] at hs
  split_ifs at hs
  cases hs
  exact Function.update_same _ _ _

theorem mutate_cases (hs : c.step E (.mutate t) = some c') :
    ∃ k pc, c.threads t = some (k, pc) ∧ c.halted = none ∧
      ((∃ s, k.program[pc]? = some s ∧ c.exec E t k pc s = some c') ∨
        c' = { c with threads := Function.update c.threads t none }) := by
  simp only [step] at hs
  split at hs
  · next k pc hh hth _ =>
    simp only [mutate] at hs
    split at hs
    · exact ⟨k, pc, hth, hh, .inl ⟨_, ‹_›, hs⟩⟩
    · cases hs
      exact ⟨k, pc, hth, hh, .inr rfl⟩
  · cases hs

theorem step_frame {a : Action} (hs : c.step E a = some c') (hc : ∀ op, a ≠ .call t op)
    (hm : a ≠ .mutate t) : c'.threads t = c.threads t ∧ c'.locals t = c.locals t := by
  cases a with
  | call u op =>
    have htu : t ≠ u := fun h => hc op (h ▸ rfl)
    simp only [step] at hs
    split_ifs at hs
    cases hs
    exact ⟨Function.update_noteq htu _ _, Function.update_noteq htu _ _⟩
  | mutate u =>
    have htu : t ≠ u := fun h => hm (h ▸ rfl)
    simp only [step] at hs
    split at hs
    · simp only [mutate] at hs
      split at hs
      · exact exec_frame hs htu
      · cases hs
        exact ⟨Function.update_noteq htu _ _, rfl⟩
    · cases hs
  | deliver u => simp only [step] at hs; split at hs <;> cases hs <;> exact ⟨rfl, rfl⟩
  | handle u =>
    simp only [step] at hs
    split at hs
    · obtain ⟨h₁, -, -, h₄⟩ := handle_heap hs
      exact ⟨congrFun h₁ t, congrFun h₄ t⟩
    · cases hs

theorem mem_completesBy (hi : c.protocol.Inv) {a : Action} {x : OpKind × ℕ × ThreadId}
    (hx : x ∈ c.completesBy a) : a = .mutate x.2.2 ∧ c.controlLock = some x.2.2 := by
  cases a with
  | mutate u =>
    simp only [completesBy] at hx
    split at hx
    · next k pc hth =>
      split_ifs at hx with hs
      · obtain rfl := List.mem_singleton.mp hx
        have hd := OpKind.stmt_disciplined hs
        simp only [Stmt.disciplined, Bool.and_eq_true] at hd
        exact ⟨rfl, (controlLock_iff hi hth).2 hd.1⟩
      · cases hx
    · cases hx
  | _ => simp [completesBy] at hx

theorem halts_cases {a : Action} (hs : c.step E a = some c') (hh : c'.halted ≠ none) :
    (∃ t, a = .mutate t) ∨ c.handler.disposition = .sigDfl := by
  cases a with
  | call t op =>
    simp only [step] at hs
    split_ifs at hs with h
    cases hs
    exact absurd h.1 hh
  | mutate t => exact .inl ⟨t, rfl⟩
  | deliver t =>
    simp only [step] at hs
    split at hs
    · cases hs
      exact absurd ‹_› hh
    · exact .inr ‹_›
    · cases hs
  | handle t =>
    simp only [step] at hs
    split at hs
    · rename_i hp hnone _
      cases hp <;> simp only [handle] at hs <;> (try split_ifs at hs) <;> cases hs <;>
        exact absurd hnone hh
    · cases hs

/-- What `GetState` on thread `t` holds once it has read the count: the replay at its own entry of
the completed operations. -/
def Snapshot (f : ℤ) (r₀ : Registry) (H : List (OpKind × ℕ × ThreadId)) (c : Config σ)
    (t : ThreadId) : Prop :=
  (c.threads t = some (.getState, 7) →
    (c.locals t).state.frequency = f ∧ (c.locals t).state.callbackCount = c.handler.callbackCount) ∧
  (c.threads t = some (.getState, 8) → (c.locals t).state.frequency = f ∧
    ∃ H₁ H₂ r, H = H₁ ++ (.getState, (c.locals t).token, t) :: H₂ ∧ (∀ x ∈ H₂, x.2.2 ≠ t) ∧
      (registryGuard σ).replay f r₀ (H₁ ++ [(.getState, (c.locals t).token, t)]) = some r ∧
      (c.locals t).state.callbackCount = r.callbackCount)

namespace Snapshot

variable {f : ℤ} {r₀ : Registry} {H : List (OpKind × ℕ × ThreadId)} {a : Action}

theorem own (hl : (registryGuard σ).Inv f r₀ H c)
    (hl' : (registryGuard σ).Inv f r₀ (H ++ c.completesBy (.mutate t)) c')
    (hsn : Snapshot f r₀ H c t) (hs : c.step E (.mutate t) = some c') :
    Snapshot f r₀ (H ++ c.completesBy (.mutate t)) c' t := by
  obtain ⟨k, pc, hth, -, ⟨s, hs', he⟩ | rfl⟩ := mutate_cases hs
  swap
  · refine ⟨fun h => ?_, fun h => ?_⟩ <;> simp at h
  refine ⟨fun ht => ?_, fun ht => ?_⟩
  · rcases exec_threads hth he with h | ⟨hst, h⟩ <;> rw [ht] at h <;>
      obtain ⟨rfl, hpc⟩ := Prod.mk.inj (Option.some_injective _ h)
    · -- reading `frequency_` and `callback_count_`
      obtain rfl : pc = 6 := by omega
      cases hs'
      rw [exec_plain (by decide)] at he
      cases he
      simp only [Function.update_same, and_true]
      exact hl.frequency
    · subst hpc
      cases hs'
      rcases hst with h | h | h <;> cases h
  · rcases exec_threads hth he with h | ⟨-, h⟩ <;> rw [ht] at h <;>
      obtain ⟨rfl, hpc⟩ := Prod.mk.inj (Option.some_injective _ h)
    · -- giving `control_lock_` back: its entry is the last one
      obtain rfl : pc = 7 := by omega
      cases hs'
      obtain ⟨hf, hcount⟩ := hsn.1 hth
      have hs7 : OpKind.getState.program[7]? = some .unlockControl := rfl
      cases he
      rw [completesBy_mutate hth hs7, if_pos rfl] at hl' ⊢
      exact ⟨hf, H, [], _, rfl, fun _ h => absurd h (List.not_mem_nil _), hl'.free rfl, hcount⟩
    · subst hpc
      cases hs'

theorem other (hi : c.protocol.Inv) (hi' : c'.protocol.Inv) (hl : (registryGuard σ).Inv f r₀ H c)
    (hl' : (registryGuard σ).Inv f r₀ (H ++ c.completesBy a) c') (hsn : Snapshot f r₀ H c t)
    (hs : c.step E a = some c') (hc : ∀ op, a ≠ .call t op) (hm : a ≠ .mutate t) :
    Snapshot f r₀ (H ++ c.completesBy a) c' t := by
  obtain ⟨hth, hloc⟩ := step_frame hs hc hm
  unfold Snapshot
  rw [hth, hloc]
  have hnot : ∀ x ∈ c.completesBy a, x.2.2 ≠ t := fun x hx h =>
    hm ((mem_completesBy hi hx).1.trans (h ▸ rfl))
  refine ⟨fun ht => ?_, fun ht => ?_⟩
  · -- `control_lock_` stays with `GetState`, so no operation completes and the count stays
    have hown : c.controlLock = some t := (controlLock_iff hi ht).2 (by decide)
    have hown' : c'.controlLock = some t := (controlLock_iff hi' (hth.trans ht)).2 (by decide)
    have hnil : c.completesBy a = [] := List.eq_nil_iff_forall_not_mem.mpr fun x hx =>
      hnot x hx (Option.some_injective _ ((mem_completesBy hi hx).2.symm.trans hown))
    obtain ⟨a₁, hr, hre⟩ := hl.held t _ _ hown ht
    obtain ⟨a₁', hr', hre'⟩ := hl'.held t _ _ hown' (hth.trans ht)
    rw [hnil, List.append_nil, hr] at hr'
    cases hr'
    rw [hloc] at hre'
    obtain ⟨hf, hcount⟩ := hsn.1 ht
    exact ⟨hf, hcount.trans (congrArg Registry.callbackCount (hre.unique hre' (by decide)))⟩
  · obtain ⟨hf, H₁, H₂, r, rfl, hH₂, hr, hcount⟩ := hsn.2 ht
    refine ⟨hf, H₁, H₂ ++ c.completesBy a, r, by simp, fun x hx => ?_, hr, hcount⟩
    rcases List.mem_append.mp hx with hx | hx
    · exact hH₂ x hx
    · exact hnot x hx

theorem step (hi : c.protocol.Inv) (hi' : c'.protocol.Inv) (hl : (registryGuard σ).Inv f r₀ H c)
    (hl' : (registryGuard σ).Inv f r₀ (H ++ c.completesBy a) c')
    (hsn : ∀ t, Snapshot f r₀ H c t) (hs : c.step E a = some c') (t : ThreadId) :
    Snapshot f r₀ (H ++ c.completesBy a) c' t := by
  by_cases hm : a = .mutate t
  · subst hm
    exact own hl hl' (hsn t) hs
  by_cases hc : ∃ op, a = .call t op
  · obtain ⟨op, rfl⟩ := hc
    unfold Snapshot
    rw [call_threads hs]
    exact ⟨fun h => absurd h (by simp), fun h => absurd h (by simp)⟩
  exact other hi hi' hl hl' (hsn t) hs (fun op h => hc ⟨op, h⟩) hm

end Snapshot

theorem Trace.snapshot {fr : Option (List Char)} {source : σ} {H : List (OpKind × ℕ × ThreadId)}
    (ht : Trace E (init fr source) c H) (t : ThreadId) :
    Snapshot (frequencyFromEnv fr) (ProfileHandler.new fr source).registry H c t := by
  induction ht generalizing t with
  | refl => exact ⟨fun h => (by cases h), fun h => (by cases h)⟩
  | step a hr hs ih =>
    exact Snapshot.step hr.reachable.inv (hr.reachable.step a hs).inv
      ((registryGuard_sound E).trace_inv hr) ((registryGuard_sound E).trace_inv (hr.step a hs)) ih
      hs t

end Config

/-- Under every interleaving, `GetState` returns the constructor's frequency and the count of the
replay at its own entry. -/
theorem getState_returns_linearized {σ : Type} (E : ProfileEventSource σ) (fr : Option (List Char))
    (source : σ) (c : Config σ) (H : List (OpKind × ℕ × ThreadId))
    (hc : Config.Trace E (Config.init fr source) c H) (t : ThreadId)
    (hret : c.threads t = some (.getState, OpKind.getState.program.length)) :
    (c.locals t).state.frequency = frequencyFromEnv fr ∧
      ∃ H₁ H₂ r, H = H₁ ++ (.getState, (c.locals t).token, t) :: H₂ ∧ (∀ x ∈ H₂, x.2.2 ≠ t) ∧
        (ProfileHandler.new fr source).registry.replay
          ((H₁ ++ [(.getState, (c.locals t).token, t)]).map fun x => (x.1, x.2.1)) = some r ∧
        (c.locals t).state.callbackCount = r.callbackCount := by
  obtain ⟨hf, H₁, H₂, r, hH, hnot, hr, hcount⟩ := (hc.snapshot t).2 hret
  refine ⟨hf, H₁, H₂, r, hH, hnot, ?_, hcount⟩
  rwa [← registryGuard_replay (frequencyFromEnv fr)]

theorem get_state_before_registration :
    let c₀ := Config.init none (TimerProfileEventSource.init (.disarmed .perThread))
    let as := [Action.call 1 (.registerCallback 10 11), .mutate 1, .call 2 .getState, .mutate 2,
      .mutate 2, .mutate 2, .mutate 2, .mutate 2, .mutate 2, .mutate 2, .mutate 2, .mutate 1,
      .mutate 1, .mutate 1, .mutate 1, .mutate 1, .mutate 1, .mutate 1, .mutate 1, .mutate 1]
    let c := (c₀.runActions timerSource as).getD c₀
    let H := c₀.traceOf timerSource as
    c₀.runActions timerSource as = some c ∧
      H = [(.getState, 0, 2), (.registerCallback, 0, 1)] ∧ c.handler.callbackCount = 1 ∧
      (c.locals 2).state.callbackCount = 0 ∧
      ((c.locals 2).state.frequency = frequencyFromEnv none ∧
        ∃ H₁ H₂ r, H = H₁ ++ (.getState, (c.locals 2).token, 2) :: H₂ ∧ (∀ x ∈ H₂, x.2.2 ≠ 2) ∧
          (ProfileHandler.new none (TimerProfileEventSource.init (.disarmed .perThread))).registry.replay
            ((H₁ ++ [(.getState, (c.locals 2).token, 2)]).map fun x => (x.1, x.2.1)) = some r ∧
          (c.locals 2).state.callbackCount = r.callbackCount) := by
  intro c₀ as c H
  have hrun : c₀.runActions timerSource as = some c := rfl
  have ht := Config.Trace.refl.runActions hrun
  rw [List.nil_append] at ht
  exact ⟨hrun, by decide, by decide, by decide,
    getState_returns_linearized timerSource none _ c H ht 2 (by decide)⟩

/-- Under every interleaving, the process ends only at the two checks of `UnregisterCallback`, as
the replay decides them. -/
theorem halts_only_on_rejected_unregistration {σ : Type} (E : ProfileEventSource σ)
    (fr : Option (List Char)) (source : σ) (c c' : Config σ) (H : List (OpKind × ℕ × ThreadId))
    (hc : Config.Trace E (Config.init fr source) c H) (a : Action) (hs : c.step E a = some c')
    (hh : c'.halted ≠ none) :
    ∃ t pc r, a = .mutate t ∧ c.threads t = some (.unregisterCallback, pc) ∧
      (ProfileHandler.new fr source).registry.replay (H.map fun x => (x.1, x.2.1)) = some r ∧
      ((c'.halted = some "Invalid token" ∧ (c.locals t).token ∉ r.callbacks) ∨
        (c'.halted = some "Invalid callback count" ∧ (c.locals t).token ∈ r.callbacks ∧
          r.callbackCount ≤ 0)) := by
  have hi := hc.reachable.inv
  have hl := (registryGuard_sound E).trace_inv hc
  rw [← @registryGuard_replay σ (frequencyFromEnv fr)]
  obtain ⟨t, rfl⟩ := (Config.halts_cases hs hh).resolve_right hi.noDfl
  obtain ⟨k, pc, hth, hnone, ⟨s, hs', he⟩ | rfl⟩ := Config.mutate_cases hs
  swap
  · exact absurd hnone hh
  obtain ⟨msg, y, hf, rfl⟩ := Config.exec_halts he (by rw [hnone]; exact hh)
  have hpc := (List.getElem?_eq_some_iff.mp hs').1
  rcases (Stmt.effect_fatal E hf).1 with rfl | rfl
  · -- the search of `callbacks_`
    obtain ⟨rfl, rfl⟩ := OpKind.findToken_at k pc hpc hs'
    have hown := (Config.controlLock_iff hi hth).2 (by decide)
    obtain ⟨a₁, hr, hre⟩ := hl.held t _ _ hown hth
    obtain ⟨rfl, -⟩ := registryGuard_reached_checks hre (.inl rfl)
    simp only [Stmt.effect] at hf
    split_ifs at hf with hmem
    cases hf
    exact ⟨t, 1, _, rfl, hth, hr, .inl ⟨rfl, hmem⟩⟩
  · -- the check of `callback_count_`
    obtain ⟨rfl, rfl⟩ := OpKind.checkCount_at k pc hpc hs'
    have hown := (Config.controlLock_iff hi hth).2 (by decide)
    obtain ⟨a₁, hr, hre⟩ := hl.held t _ _ hown hth
    obtain ⟨rfl, hmem⟩ := registryGuard_reached_checks hre (.inr rfl)
    simp only [Stmt.effect] at hf
    split_ifs at hf with hpos
    cases hf
    exact ⟨t, 2, _, rfl, hth, hr, .inr ⟨rfl, hmem rfl, not_lt.mp hpos⟩⟩

theorem unregister_before_push_halts :
    let c₀ := Config.init none (TimerProfileEventSource.init (.disarmed .perThread))
    let as := [Action.call 2 (.registerCallback 10 11), .mutate 2, .call 1 (.unregisterCallback 0),
      .mutate 1]
    let c := (c₀.runActions timerSource as).getD c₀
    let c' := (c.step timerSource (.mutate 1)).getD c
    let H := c₀.traceOf timerSource as
    c₀.runActions timerSource as = some c ∧ c.step timerSource (.mutate 1) = some c' ∧
      (c.handler.tokens.cells 0).isSome ∧ c'.halted = some "Invalid token" ∧
      ∃ t pc r, Action.mutate 1 = .mutate t ∧ c.threads t = some (.unregisterCallback, pc) ∧
        (ProfileHandler.new none
          (TimerProfileEventSource.init (.disarmed .perThread))).registry.replay
            (H.map fun x => (x.1, x.2.1)) = some r ∧
        ((c'.halted = some "Invalid token" ∧ (c.locals t).token ∉ r.callbacks) ∨
          (c'.halted = some "Invalid callback count" ∧ (c.locals t).token ∈ r.callbacks ∧
            r.callbackCount ≤ 0)) := by
  intro c₀ as c c' H
  have hrun : c₀.runActions timerSource as = some c := rfl
  have hstep : c.step timerSource (.mutate 1) = some c' := rfl
  have ht := Config.Trace.refl.runActions hrun
  rw [List.nil_append] at ht
  exact ⟨hrun, hstep, by decide, by decide, halts_only_on_rejected_unregistration timerSource none _
    c c' H ht (.mutate 1) hstep (by decide)⟩

end Perftools
