import Perftools.Interleaving

/-!
# No deadlock on the spin locks

`SignalHandler` spins on `signal_lock_`; an operation spins on `control_lock_` and then on
`signal_lock_`. Whoever holds `signal_lock_` can always move: a mutator is not interrupted, and
`SignalHandler` spins only before it takes the lock. Whoever holds `control_lock_` waits at most
for `signal_lock_`.
-/

namespace Perftools

namespace Config

variable {σ : Type} (E : ProfileEventSource σ) {c : Config σ} {t : ThreadId}

theorem exec_isSome {k : OpKind} {pc : ℕ} {s : Stmt}
    (hcl : s = .lockControl → c.controlLock = none) (hsl : s = .lockSignal → c.signalLock = none) :
    (c.exec E t k pc s).isSome := by
  cases s
  case lockControl => rw [exec, if_pos (hcl rfl)]; rfl
  case lockSignal => rw [exec, if_pos (hsl rfl)]; rfl
  case clearCallbacks | findToken | checkCount => simp only [exec]; split <;> rfl
  all_goals rfl

theorem handle_isSome {hp : HandlerPc} (hh : c.halted = none) (hhd : c.handlers t = some hp)
    (hsl : hp = .lockSignal → c.signalLock = none) : (c.step E (.handle t)).isSome := by
  cases hp <;> simp_all [step, handle]

theorem mutate_isSome {k : OpKind} {pc : ℕ} (hh : c.halted = none)
    (hth : c.threads t = some (k, pc)) (hhd : c.handlers t = none)
    (hcl : k.program[pc]? = some .lockControl → c.controlLock = none)
    (hsl : k.program[pc]? = some .lockSignal → c.signalLock = none) :
    (c.step E (.mutate t)).isSome := by
  simp only [step, hh, hth, hhd, mutate]
  split
  · next s hs => exact exec_isSome E (fun h => hcl (h ▸ hs)) fun h => hsl (h ▸ hs)
  · rfl

variable {E}

theorem signalHolder_moves (hi : c.protocol.Inv) (hh : c.halted = none) {x : Holder}
    (hx : c.signalLock = some x) :
    ∃ t, (c.step E (.mutate t)).isSome ∨ (c.step E (.handle t)).isSome := by
  have hheld := (hi.signal x).1 hx
  cases x with
  | handler u =>
    simp only [Protocol.signalHeld, Protocol.any_eq_true, protocol] at hheld
    obtain ⟨hp, hhd, hsig⟩ := hheld
    exact ⟨u, .inr (handle_isSome E hh hhd (by rintro rfl; cases hsig))⟩
  | mutator u =>
    simp only [Protocol.signalHeld, Protocol.any_eq_true, protocol] at hheld
    obtain ⟨⟨k, pc⟩, hth, hsig⟩ := hheld
    have hhd : c.handlers u = none := by
      by_contra hne
      exact hi.noSelf u hne hx
    have hctl := OpKind.holdsControl_of_masked (OpKind.masked_of_holdsSignal hsig)
    refine ⟨u, .inl (mutate_isSome E hh hth hhd (fun hs => ?_) fun hs => ?_)⟩
    · have := OpKind.stmt_disciplined hs
      simp [Stmt.disciplined, hctl] at this
    · have := OpKind.stmt_disciplined hs
      simp [Stmt.disciplined, hsig] at this

theorem controlHolder_moves (hi : c.protocol.Inv) (hh : c.halted = none) {u : ThreadId}
    (hu : c.controlLock = some u) (hs : c.signalLock = none) :
    ∃ t, (c.step E (.mutate t)).isSome ∨ (c.step E (.handle t)).isSome := by
  have hheld := (hi.control u).1 hu
  simp only [Protocol.controlHeld, Protocol.any_eq_true, protocol] at hheld
  obtain ⟨⟨k, pc⟩, hth, hctl⟩ := hheld
  cases hhd : c.handlers u with
  | some hp => exact ⟨u, .inr (handle_isSome E hh hhd fun _ => hs)⟩
  | none =>
    refine ⟨u, .inl (mutate_isSome E hh hth hhd (fun hs' => ?_) fun _ => hs)⟩
    have := OpKind.stmt_disciplined hs'
    simp [Stmt.disciplined, hctl] at this

end Config

/-- While the process runs and some party is in the profiler, some thread can take a step. -/
theorem some_party_can_step {σ : Type} (E : ProfileEventSource σ) (fr : Option (List Char))
    (source : σ) (c : Config σ) (hc : Config.Reachable E (Config.init fr source) c)
    (hh : c.halted = none) (hbusy : ∃ t, c.threads t ≠ none ∨ c.handlers t ≠ none) :
    ∃ t, (c.step E (.mutate t)).isSome ∨ (c.step E (.handle t)).isSome := by
  have hi := hc.inv
  cases hs : c.signalLock with
  | some x => exact Config.signalHolder_moves hi hh hs
  | none =>
    cases hcl : c.controlLock with
    | some u => exact Config.controlHolder_moves hi hh hcl hs
    | none =>
      obtain ⟨t, ht⟩ := hbusy
      cases hhd : c.handlers t with
      | some hp => exact ⟨t, .inr (Config.handle_isSome E hh hhd fun _ => hs)⟩
      | none =>
        obtain ⟨⟨k, pc⟩, hth⟩ := Option.ne_none_iff_exists'.mp (ht.resolve_right (by simp [hhd]))
        exact ⟨t, .inl (Config.mutate_isSome E hh hth hhd (fun _ => hcl) fun _ => hs)⟩

theorem handler_waits_on_get_state :
    let c₀ := Config.init none (TimerProfileEventSource.init (.disarmed .perThread))
    let as := [Action.call 1 (.registerCallback 10 11), .mutate 1, .mutate 1, .mutate 1,
      .mutate 1, .mutate 1, .mutate 1, .mutate 1, .mutate 1, .mutate 1, .mutate 1, .mutate 1,
      .deliver 2, .call 1 .getState, .mutate 1, .mutate 1, .mutate 1]
    let c := (c₀.runActions timerSource as).getD c₀
    c₀.runActions timerSource as = some c ∧ c.handlers 2 = some .lockSignal ∧
      c.signalLock = some (.mutator 1) ∧
      ∃ t, (c.step timerSource (.mutate t)).isSome ∨ (c.step timerSource (.handle t)).isSome := by
  intro c₀ as c
  have hrun : c₀.runActions timerSource as = some c := rfl
  exact ⟨hrun, by decide, by decide, some_party_can_step timerSource none _ c
    (Config.Reachable.refl.runActions timerSource hrun) (by decide) ⟨2, .inr (by decide)⟩⟩

end Perftools
