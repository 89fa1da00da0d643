import Perftools.Interleaving

/-!
# What `control_lock_` guards takes effect one operation at a time

A part of the handler that only statements under `control_lock_` write is a `Guard`: what a
statement and a whole operation do to it, for the calling thread and its token. When the guard
is `Sound`, another thread only allocates a token or takes the free lock, and `SignalHandler`
only reads the ticks, so along every run (`Config.Trace`) the part is, whenever `control_lock_`
is free, what the completed operations made of it one after another in the order they gave
the lock back (`Guard.Sound.linearizable`).
-/

namespace Perftools

/-- A part `α` of the handler that only statements under `control_lock_` write. -/
structure Guard (σ α : Type) where
  view : ProfileHandler σ → α
  stmt : Caller → ℕ → Stmt → α → Option α
  op : Caller → ℕ → OpKind → α → Option α
  cleared : α → α

def Stmt.skipped : List Stmt := [.newToken, .lockControl, .unlockControl, .lockSignal, .unlockSignal]

namespace OpKind

theorem lockControl_prefix : ∀ k : OpKind, ∀ pc < k.program.length,
    k.program[pc]? = some .lockControl → ∀ s ∈ k.program.take (pc + 1), s ∈ Stmt.skipped := by
  intro k; cases k <;> decide

theorem unlockControl_last : ∀ k : OpKind, ∀ pc < k.program.length,
    k.program[pc]? = some .unlockControl → pc + 1 = k.program.length := by
  intro k; cases k <;> decide

theorem newToken_at : ∀ k : OpKind, ∀ pc < k.program.length,
    k.program[pc]? = some .newToken → k = .registerCallback ∧ pc = 0 := by
  intro k; cases k <;> decide

end OpKind

namespace Stmt

variable {σ : Type} (E : ProfileEventSource σ)

theorem effect_token {s : Stmt} {t : ThreadId} {h h' : ProfileHandler σ} {l l' : Locals}
    (he : s.effect E t (h, l) = .ok (h', l')) (hs : s ≠ .newToken) : l'.token = l.token := by
  cases s <;> simp only [effect] at he <;> (try split_ifs at he) <;> cases he <;>
    first | rfl | exact absurd rfl hs

theorem effect_frequency {s : Stmt} {t : ThreadId} {h h' : ProfileHandler σ} {l l' : Locals}
    (he : s.effect E t (h, l) = .ok (h', l')) : h'.frequency = h.frequency := by
  cases s <;> simp only [effect] at he <;> (try split_ifs at he) <;> cases he <;> rfl

end Stmt

namespace Guard

variable {σ α : Type} (G : Guard σ α)

def upTo (c : Caller) (τ : ℕ) (a : α) (k : OpKind) (pc : ℕ) : Option α :=
  (k.program.take pc).foldlM (fun a s => G.stmt c τ s a) a

/-- Completed operations one after another, with their tokens and threads; `none` once one fails. -/
def replay (f : ℤ) (a : α) (H : List (OpKind × ℕ × ThreadId)) : Option α :=
  H.foldlM (fun a x => G.op ⟨x.2.2, f⟩ x.2.1 x.1 a) a

@[simp] theorem replay_nil (f : ℤ) (a : α) : G.replay f a [] = some a := rfl

theorem replay_cons (f : ℤ) (a : α) (x : OpKind × ℕ × ThreadId) (H : List (OpKind × ℕ × ThreadId)) :
    G.replay f a (x :: H) = (G.op ⟨x.2.2, f⟩ x.2.1 x.1 a).bind fun a' => G.replay f a' H := rfl

theorem replay_append (f : ℤ) (a : α) (H H' : List (OpKind × ℕ × ThreadId)) :
    G.replay f a (H ++ H') = (G.replay f a H).bind fun a' => G.replay f a' H' := by
  simp [replay, List.foldlM_append]

theorem replay_append_singleton (f : ℤ) (a : α) (H : List (OpKind × ℕ × ThreadId)) (k : OpKind)
    (τ : ℕ) (t : ThreadId) :
    G.replay f a (H ++ [(k, τ, t)]) = (G.replay f a H).bind (G.op ⟨t, f⟩ τ k) := by
  simp [replay, List.foldlM_append]

theorem upTo_succ {c : Caller} {τ : ℕ} {a : α} {k : OpKind} {pc : ℕ} {s : Stmt}
    (hs : k.program[pc]? = some s) :
    G.upTo c τ a k (pc + 1) = (G.upTo c τ a k pc).bind (G.stmt c τ s) := by
  simp [upTo, List.take_succ, hs, List.foldlM_append]

/-- `a` is what the statements of `k` before `pc` leave of `a₁`, up to the callbacks `Reset` still
has to delete. -/
def Reached (c : Caller) (τ : ℕ) (a₁ : α) (k : OpKind) (pc : ℕ) (a : α) : Prop :=
  ∃ a', G.upTo c τ a₁ k pc = some a' ∧
    (a = a' ∨ k.program[pc]? = some .clearCallbacks ∧ G.cleared a = G.cleared a')

/-- The guard follows the statements of every operation over the event source `E`. -/
structure Sound (E : ProfileEventSource σ) : Prop where
  effect : ∀ {s : Stmt} {t : ThreadId} {h h' : ProfileHandler σ} {l l' : Locals},
    s.effect E t (h, l) = .ok (h', l') → G.stmt (h.caller t) l.token s (G.view h) = some (G.view h')
  skip : ∀ c τ a, ∀ s ∈ Stmt.skipped, G.stmt c τ s a = some a
  clear : ∀ c τ a, G.stmt c τ .clearCallbacks a = some (G.cleared a)
  round : ∀ (h : ProfileHandler σ) T L,
    G.cleared (G.view { h with tokens := T, callbacks := L }) = G.cleared (G.view h)
  exit : ∀ h : ProfileHandler σ, h.callbacks = [] → G.cleared (G.view h) = G.view h
  ticks : ∀ h : ProfileHandler σ,
    G.view { h with eventSource := (E.getTicksSinceLastCall h.eventSource).2 } = G.view h
  interrupts : ∀ (h : ProfileHandler σ) n, G.view { h with interrupts := n } = G.view h
  program : ∀ c τ k a, k.program.foldlM (fun a s => G.stmt c τ s a) a = G.op c τ k a

variable {G} {E : ProfileEventSource σ} (hG : G.Sound E)
include hG

theorem Sound.foldlM_skipped {c : Caller} {τ : ℕ} {L : List Stmt}
    (hL : ∀ s ∈ L, s ∈ Stmt.skipped) (a : α) : L.foldlM (fun a s => G.stmt c τ s a) a = some a := by
  induction L generalizing a with
  | nil => rfl
  | cons s L ih =>
    rw [List.foldlM_cons, hG.skip c τ a s (hL s (List.mem_cons_self s L))]
    exact ih (fun s hs => hL s (List.mem_cons_of_mem _ hs)) a

theorem Sound.upTo_of_skipped {c : Caller} {τ : ℕ} {k : OpKind} {pc : ℕ}
    (hL : ∀ s ∈ k.program.take pc, s ∈ Stmt.skipped) (a : α) : G.upTo c τ a k pc = some a :=
  hG.foldlM_skipped hL a

theorem Sound.upTo_length (c : Caller) (τ : ℕ) (a : α) (k : OpKind) :
    G.upTo c τ a k k.program.length = G.op c τ k a := by
  rw [upTo, List.take_length, hG.program]

namespace Reached

variable {c : Caller} {τ : ℕ} {a₁ a a'' : α} {k : OpKind} {pc : ℕ} {s : Stmt}

theorem of_lockControl (hs : k.program[pc]? = some .lockControl) : G.Reached c τ a k (pc + 1) a :=
  ⟨a, hG.upTo_of_skipped
    (OpKind.lockControl_prefix k pc (List.getElem?_eq_some_iff.mp hs).1 hs) a, .inl rfl⟩

theorem step (hr : G.Reached c τ a₁ k pc a) (hs : k.program[pc]? = some s)
    (he : G.stmt c τ s a = some a'') : G.Reached c τ a₁ k (pc + 1) a'' := by
  obtain ⟨a', ha', h⟩ := hr
  rcases h with rfl | ⟨hc, hw⟩
  · exact ⟨a'', by rw [G.upTo_succ hs, ha', Option.some_bind, he], .inl rfl⟩
  · obtain rfl : s = .clearCallbacks := Option.some_injective _ (hs.symm.trans hc)
    rw [hG.clear] at he
    cases he
    exact ⟨_, by rw [G.upTo_succ hs, ha', Option.some_bind, hG.clear], .inl hw⟩

omit hG in
theorem round (hr : G.Reached c τ a₁ k pc a) (hs : k.program[pc]? = some .clearCallbacks)
    (hw : G.cleared a'' = G.cleared a) : G.Reached c τ a₁ k pc a'' := by
  obtain ⟨a', ha', h⟩ := hr
  refine ⟨a', ha', .inr ⟨hs, hw.trans ?_⟩⟩
  rcases h with rfl | ⟨-, h⟩
  · rfl
  · exact h

theorem exit (hr : G.Reached c τ a₁ k pc a) (hs : k.program[pc]? = some .clearCallbacks)
    (hx : G.cleared a = a) : G.Reached c τ a₁ k (pc + 1) a := by
  have h := hr.step hG hs (hG.clear c τ a)
  rwa [hx] at h

theorem newToken {τ' : ℕ} (hs : k.program[pc]? = some .newToken)
    (hr : G.Reached c τ a₁ k (pc + 1) a) : G.Reached c τ' a₁ k (pc + 1) a := by
  obtain ⟨rfl, rfl⟩ := OpKind.newToken_at k pc (List.getElem?_eq_some_iff.mp hs).1 hs
  obtain ⟨a', ha', h⟩ := hr
  have hfirst : ∀ τ'', G.upTo c τ'' a₁ .registerCallback 1 = some a₁ := fun _ =>
    hG.upTo_of_skipped (by decide) a₁
  exact ⟨a', (hfirst τ').trans ((hfirst τ).symm.trans ha'), h⟩

theorem effect {t : ThreadId} {h h' : ProfileHandler σ} {l l' : Locals}
    (hs : k.program[pc]? = some s) (hr : G.Reached (h.caller t) l.token a₁ k pc (G.view h))
    (he : s.effect E t (h, l) = .ok (h', l')) :
    G.Reached (h.caller t) l'.token a₁ k (pc + 1) (G.view h') := by
  by_cases hnt : s = .newToken
  · subst hnt
    exact newToken hG hs (hr.step hG hs (hG.effect he))
  · rw [Stmt.effect_token E he hnt]
    exact hr.step hG hs (hG.effect he)

theorem release (hr : G.Reached c τ a₁ k pc a) (hs : k.program[pc]? = some .unlockControl) :
    G.op c τ k a₁ = some a := by
  obtain ⟨a', ha', h | ⟨hc, -⟩⟩ := hr
  · subst h
    rw [← hG.upTo_length, ← OpKind.unlockControl_last k pc (List.getElem?_eq_some_iff.mp hs).1 hs,
      G.upTo_succ hs, ha', Option.some_bind, hG.skip c τ a .unlockControl (by decide)]
  · cases hs.symm.trans hc

end Reached

end Guard

namespace Config

variable {σ : Type} {E : ProfileEventSource σ} {c c' c₀ : Config σ} {t : ThreadId} {k : OpKind}
  {pc : ℕ}

/-- The operation thread `t` completes when the action gives `control_lock_` back. -/
def completesBy (c : Config σ) : Action → List (OpKind × ℕ × ThreadId)
  | .mutate t =>
    match c.threads t with
    | some (k, pc) =>
      if k.program[pc]? = some .unlockControl then [(k, (c.locals t).token, t)] else []
    | none => []
  | _ => []

theorem completesBy_mutate {s : Stmt} (hth : c.threads t = some (k, pc))
    (hs : k.program[pc]? = some s) :
    c.completesBy (.mutate t) = if s = .unlockControl then [(k, (c.locals t).token, t)] else [] := by
  simp [completesBy, hth, hs]

variable (E) in
/-- The configurations reachable from `c₀`, with the operations completed on the way in lock order. -/
inductive Trace (c₀ : Config σ) : Config σ → List (OpKind × ℕ × ThreadId) → Prop
  | refl : Trace c₀ c₀ []
  | step {c c' : Config σ} {H : List (OpKind × ℕ × ThreadId)} (a : Action) :
      Trace c₀ c H → c.step E a = some c' → Trace c₀ c' (H ++ c.completesBy a)

theorem Trace.reachable {H : List (OpKind × ℕ × ThreadId)} (h : Trace E c₀ c H) :
    Reachable E c₀ c := by
  induction h with
  | refl => exact .refl
  | step a _ hs ih => exact ih.step a hs

theorem Reachable.exists_trace (h : Reachable E c₀ c) : ∃ H, Trace E c₀ c H := by
  induction h with
  | refl => exact ⟨[], .refl⟩
  | step a _ hs ih =>
    obtain ⟨H, hH⟩ := ih
    exact ⟨_, .step a hH hs⟩

variable (E) in
def traceOf (c : Config σ) : List Action → List (OpKind × ℕ × ThreadId)
  | [] => []
  | a :: as => c.completesBy a ++ match c.step E a with
    | some c' => c'.traceOf as
    | none => []

theorem Trace.runActions {H : List (OpKind × ℕ × ThreadId)} (hr : Trace E c₀ c H)
    {as : List Action} (h : c.runActions E as = some c') : Trace E c₀ c' (H ++ c.traceOf E as) := by
  induction as generalizing c H with
  | nil => cases h; simpa [traceOf] using hr
  | cons a as ih =>
    obtain ⟨c₁, h₁, h₂⟩ := Option.bind_eq_some.mp h
    simpa [traceOf, h₁] using ih (hr.step a h₁) h₂

theorem controlLock_iff (hi : c.protocol.Inv) (hth : c.threads t = some (k, pc)) :
    c.controlLock = some t ↔ k.holdsControl pc = true := by
  simpa [Protocol.controlHeld, protocol, hth] using hi.control t

theorem controlLock_ne_of_idle (hi : c.protocol.Inv) (hth : c.threads t = none) :
    c.controlLock ≠ some t := by
  simpa [Protocol.controlHeld, protocol, hth] using hi.control t

theorem handle_frequency {hp : HandlerPc} (he : c.handle E t hp = some c') :
    c'.handler.frequency = c.handler.frequency := by
  cases hp <;> simp only [handle] at he <;> (try split_ifs at he) <;> cases he <;> rfl

theorem step_frequency {a : Action} (hs : c.step E a = some c') :
    c'.handler.frequency = c.handler.frequency := by
  cases a with
  | call t op => simp only [step] at hs; split_ifs at hs; cases hs; rfl
  | mutate t =>
    simp only [step] at hs
    split at hs
    · simp only [mutate] at hs
      split at hs
      · next s _ =>
        by_cases hp : s ∈ [.lockControl, .unlockControl, .lockSignal, .unlockSignal, .clearCallbacks]
        · simp only [List.mem_cons, List.mem_nil_iff, or_false] at hp
          rcases hp with rfl | rfl | rfl | rfl | rfl <;> simp only [exec] at hs <;>
            first | (cases hs; rfl) | (split at hs <;> cases hs <;> rfl)
        · rw [exec_plain hp] at hs
          split at hs <;> cases hs
          · exact Stmt.effect_frequency E ‹_›
          · rfl
      · cases hs; rfl
    · cases hs
  | deliver t => simp only [step] at hs; split at hs <;> cases hs <;> rfl
  | handle t =>
    simp only [step] at hs
    split at hs
    · exact handle_frequency hs
    · cases hs

end Config

namespace Guard

variable {σ α : Type} {E : ProfileEventSource σ} {G : Guard σ α} {c c' : Config σ} {t : ThreadId}
  {k : OpKind} {pc : ℕ} {f : ℤ} {a₀ : α} {H : List (OpKind × ℕ × ThreadId)}

/-- The part while `control_lock_` is free, and what its holder's statements have made of it. -/
structure Inv (G : Guard σ α) (f : ℤ) (a₀ : α) (H : List (OpKind × ℕ × ThreadId)) (c : Config σ) :
    Prop where
  frequency : c.handler.frequency = f
  free : c.controlLock = none → G.replay f a₀ H = some (G.view c.handler)
  held : ∀ u k pc, c.controlLock = some u → c.threads u = some (k, pc) →
    ∃ a₁, G.replay f a₀ H = some a₁ ∧
      G.Reached ⟨u, f⟩ (c.locals u).token a₁ k pc (G.view c.handler)

namespace Inv

theorem frame (hl : G.Inv f a₀ H c) (hv : G.view c'.handler = G.view c.handler)
    (hf : c'.handler.frequency = c.handler.frequency) (hcl : c'.controlLock = c.controlLock)
    (hu : ∀ u, c.controlLock = some u → c'.threads u = c.threads u ∧ c'.locals u = c.locals u) :
    G.Inv f a₀ H c' where
  frequency := hf.trans hl.frequency
  free h := hv ▸ hl.free (hcl ▸ h)
  held u k pc hu' hth := by
    rw [hcl] at hu'
    obtain ⟨h₁, h₂⟩ := hu u hu'
    rw [hv, h₂]
    exact hl.held u k pc hu' (h₁ ▸ hth)

theorem other (hl : G.Inv f a₀ H c) (hown : c.controlLock ≠ some t)
    (hv : G.view c'.handler = G.view c.handler) (hf : c'.handler.frequency = c.handler.frequency)
    (hcl : c'.controlLock = c.controlLock)
    (hu : ∀ u, u ≠ t → c'.threads u = c.threads u ∧ c'.locals u = c.locals u) :
    G.Inv f a₀ H c' :=
  hl.frame hv hf hcl fun u hu' => hu u fun h => hown (h ▸ hu')

theorem of_free (hf : c.handler.frequency = f) (hcl : c.controlLock = none)
    (hr : G.replay f a₀ H = some (G.view c.handler)) : G.Inv f a₀ H c where
  frequency := hf
  free _ := hr
  held _ _ _ h := by rw [hcl] at h; cases h

theorem of_held (hf : c.handler.frequency = f) (hcl : c.controlLock = some t)
    (hth : c.threads t = some (k, pc))
    (hat : ∃ a₁, G.replay f a₀ H = some a₁ ∧
      G.Reached ⟨t, f⟩ (c.locals t).token a₁ k pc (G.view c.handler)) : G.Inv f a₀ H c where
  frequency := hf
  free h := by rw [hcl] at h; cases h
  held u k' pc' hu hth' := by
    obtain rfl : u = t := Option.some_injective _ (hu.symm.trans hcl)
    obtain ⟨rfl, rfl⟩ := Prod.mk.inj (Option.some_injective _ (hth'.symm.trans hth))
    exact hat

variable (hG : G.Sound E)
include hG

theorem exec_held {s : Stmt} (hf : c.handler.frequency = f) (hcl : c.controlLock = some t)
    (hth : c.threads t = some (k, pc)) (hs : k.program[pc]? = some s) (hu : s ≠ .unlockControl)
    {a₁ : α} (hr₁ : G.replay f a₀ H = some a₁)
    (hat : G.Reached ⟨t, f⟩ (c.locals t).token a₁ k pc (G.view c.handler))
    (he : c.exec E t k pc s = some c') : G.Inv f a₀ H c' := by
  subst hf
  by_cases hp : s ∈ [.lockControl, .unlockControl, .lockSignal, .unlockSignal, .clearCallbacks]
  · simp only [List.mem_cons, List.mem_nil_iff, or_false] at hp
    rcases hp with rfl | rfl | rfl | rfl | rfl <;> simp only [Config.exec] at he
    · rw [if_neg (by simp [hcl])] at he; cases he
    · exact absurd rfl hu
    · split_ifs at he
      cases he
      exact .of_held rfl hcl (Function.update_same _ _ _)
        ⟨a₁, hr₁, hat.step hG hs (hG.skip _ _ _ _ (by decide))⟩
    · cases he
      exact .of_held rfl hcl (Function.update_same _ _ _)
        ⟨a₁, hr₁, hat.step hG hs (hG.skip _ _ _ _ (by decide))⟩
    · split at he <;> cases he
      · exact .of_held rfl hcl (Function.update_same _ _ _)
          ⟨a₁, hr₁, hat.exit hG hs (hG.exit _ ‹_›)⟩
      · exact .of_held rfl hcl (Function.update_same _ _ _)
          ⟨a₁, hr₁, hat.round hs (hG.round _ _ _)⟩
  rw [Config.exec_plain hp] at he
  split at he <;> cases he
  · next h l hx =>
    refine .of_held (Stmt.effect_frequency E hx) hcl (Function.update_same _ _ _) ⟨a₁, hr₁, ?_⟩
    show G.Reached _ (Function.update c.locals t l t).token a₁ k (pc + 1) (G.view h)
    rw [Function.update_same]
    exact Reached.effect hG hs hat hx
  · exact .of_held rfl hcl hth ⟨a₁, hr₁, hat⟩

theorem exec {s : Stmt} (hi : c.protocol.Inv) (hl : G.Inv f a₀ H c)
    (hth : c.threads t = some (k, pc)) (hs : k.program[pc]? = some s) (hu : s ≠ .unlockControl)
    (he : c.exec E t k pc s = some c') : G.Inv f a₀ H c' := by
  by_cases hown : c.controlLock = some t
  · obtain ⟨a₁, hr₁, hat⟩ := hl.held t k pc hown hth
    exact exec_held hG hl.frequency hown hth hs hu hr₁ hat he
  have hctl : k.holdsControl pc = false := by
    simpa [Config.controlLock_iff hi hth] using hown
  have hm : k.masked pc = false := by
    simpa [hctl] using mt (@OpKind.holdsControl_of_masked k pc)
  have hsig : k.holdsSignal pc = false := by
    simpa [hm] using mt (@OpKind.masked_of_holdsSignal k pc)
  have hd := OpKind.stmt_disciplined hs
  rw [hctl, hsig, hm] at hd
  cases s <;> simp only [Stmt.disciplined, Bool.not_false, Bool.false_and,
    Bool.false_eq_true] at hd <;> simp only [Config.exec] at he
  · -- the allocation of a token, which the part does not hold
    split at he <;> cases he
    · next h l hx =>
      have hv := (hG.effect hx).symm.trans (hG.skip _ _ _ _ (by decide))
      exact hl.other hown (Option.some_injective _ hv) (Stmt.effect_frequency E hx) rfl
        fun u hu => ⟨Function.update_noteq hu _ _, Function.update_noteq hu _ _⟩
    · exact hl.frame rfl rfl rfl fun _ _ => ⟨rfl, rfl⟩
  · -- taking `control_lock_`, which is free
    split_ifs at he with hfree
    cases he
    exact .of_held hl.frequency rfl (Function.update_same _ _ _)
      ⟨_, hl.free hfree, Reached.of_lockControl hG hs⟩

theorem release (hi : c.protocol.Inv) (hl : G.Inv f a₀ H c) (hth : c.threads t = some (k, pc))
    (hs : k.program[pc]? = some .unlockControl) (he : c.exec E t k pc .unlockControl = some c') :
    G.Inv f a₀ (H ++ [(k, (c.locals t).token, t)]) c' := by
  have hown : c.controlLock = some t := by
    have hd := OpKind.stmt_disciplined hs
    simp only [Stmt.disciplined, Bool.and_eq_true] at hd
    exact (Config.controlLock_iff hi hth).2 hd.1
  obtain ⟨a₁, hr₁, hat⟩ := hl.held t k pc hown hth
  cases he
  refine .of_free hl.frequency rfl ?_
  rw [replay_append_singleton, hr₁, Option.some_bind, hat.release hG hs]
  rfl

theorem handle (hl : G.Inv f a₀ H c) {hp : HandlerPc} (he : c.handle E t hp = some c') :
    G.Inv f a₀ H c' := by
  cases hp <;> simp only [Config.handle] at he <;> (try split_ifs at he) <;> cases he
  all_goals first
    | exact hl.frame rfl rfl rfl fun _ _ => ⟨rfl, rfl⟩
    | exact hl.frame (hG.ticks _) rfl rfl fun _ _ => ⟨rfl, rfl⟩
    | exact hl.frame (hG.interrupts _ _) rfl rfl fun _ _ => ⟨rfl, rfl⟩

theorem step (hi : c.protocol.Inv) (hl : G.Inv f a₀ H c) {a : Action}
    (hs : c.step E a = some c') : G.Inv f a₀ (H ++ c.completesBy a) c' := by
  cases a with
  | call t op =>
    rw [show c.completesBy (.call t op) = [] from rfl, List.append_nil]
    simp only [Config.step] at hs
    split_ifs at hs with h
    cases hs
    exact hl.other (Config.controlLock_ne_of_idle hi h.2.1) rfl rfl rfl fun u hu =>
      ⟨Function.update_noteq hu _ _, Function.update_noteq hu _ _⟩
  | mutate t =>
    simp only [Config.step] at hs
    split at hs
    · next k pc _ hth _ =>
      simp only [Config.mutate] at hs
      split at hs
      · next s hs' =>
        rw [Config.completesBy_mutate hth hs']
        split_ifs with hu
        · subst hu
          exact release hG hi hl hth hs' hs
        · rw [List.append_nil]
          exact exec hG hi hl hth hs' hu hs
      · next hs' =>
        cases hs
        rw [show c.completesBy (.mutate t) = [] by simp [Config.completesBy, hth, hs'],
          List.append_nil]
        have hnone : c.controlLock ≠ some t := fun h => by
          rw [Config.controlLock_iff hi hth, OpKind.holdsControl_of_none hs'] at h
          cases h
        exact hl.other hnone rfl rfl rfl fun u hu => ⟨Function.update_noteq hu _ _, rfl⟩
    · cases hs
  | deliver t =>
    rw [show c.completesBy (.deliver t) = [] from rfl, List.append_nil]
    simp only [Config.step] at hs
    split at hs <;> cases hs <;> exact hl.frame rfl rfl rfl fun _ _ => ⟨rfl, rfl⟩
  | handle t =>
    rw [show c.completesBy (.handle t) = [] from rfl, List.append_nil]
    simp only [Config.step] at hs
    split at hs
    · exact handle hG hl hs
    · cases hs

end Inv

variable (hG : G.Sound E)
include hG

theorem Sound.trace_inv {fr : Option (List Char)} {source : σ} {c : Config σ}
    (ht : Config.Trace E (Config.init fr source) c H) :
    G.Inv (frequencyFromEnv fr) (G.view (ProfileHandler.new fr source)) H c := by
  induction ht with
  | refl => exact .of_free rfl rfl rfl
  | step a hr hs ih => exact ih.step hG hr.reachable.inv hs

/-- With `control_lock_` free, the part is what the completed operations made of it, in lock order. -/
theorem Sound.linearizable {fr : Option (List Char)} {source : σ} {c : Config σ}
    (ht : Config.Trace E (Config.init fr source) c H) (hfree : c.controlLock = none) :
    G.replay (frequencyFromEnv fr) (G.view (ProfileHandler.new fr source)) H =
      some (G.view c.handler) :=
  (hG.trace_inv ht).free hfree

end Guard

end Perftools
