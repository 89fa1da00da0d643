import Mathlib.Data.List.Nodup
import Perftools.Linearize

/-!
# The walk of `SignalHandler` reaches only live tokens

`RegisterCallback` allocates its token before it takes `control_lock_`, `UnregisterCallback`
deletes its token one statement before it erases it from `callbacks_`, and the loop of `Reset`
deletes and erases one callback a round. Along every run (`Config.TokensLive`) every token in
`callbacks_` is live but one a thread has deleted and not erased yet, and that thread holds both
locks until it has erased it; so the walk of `SignalHandler` reaches only live tokens.
-/

namespace Perftools

/-- What a thread holds of the token heap. -/
inductive HoldKind
  | none  -- nothing
  | pending  -- the token it allocated and has not pushed onto `callbacks_` yet
  | found  -- the registered token it found and has not deleted yet
  | deleted  -- that token, deleted and not erased from `callbacks_` yet
  deriving DecidableEq, Repr

/-- What a thread at statement `pc` of `k` holds, with the token in its locals. -/
def OpKind.holdKind : OpKind → ℕ → HoldKind
  | .registerCallback, pc => if 1 ≤ pc ∧ pc ≤ 4 then .pending else .none
  | .unregisterCallback, pc =>
    if pc = 6 then .deleted else if 2 ≤ pc ∧ pc ≤ 5 then .found else .none
  | .registerThread, _ | .reset, _ | .getState, _ => .none

def holdKindAt : Option (OpKind × ℕ) → HoldKind
  | some (k, pc) => k.holdKind pc
  | none => .none

namespace OpKind

theorem holdKind_plain : ∀ k : OpKind, ∀ pc < k.program.length,
    k.program[pc]? ∈ [some .newToken, some .pushBack, some .findToken, some .deleteToken,
      some .eraseToken] ∨ k.holdKind (pc + 1) = k.holdKind pc := by
  intro k; cases k <;> decide

theorem holdsLocks_of_holdKind : ∀ k : OpKind, ∀ pc < k.program.length,
    (k.holdKind pc = .found ∨ k.holdKind pc = .deleted → k.holdsControl pc = true) ∧
      (k.holdKind pc = .deleted → k.holdsSignal pc = true) := by
  intro k; cases k <;> decide

theorem pushBack_at : ∀ k : OpKind, ∀ pc < k.program.length,
    k.program[pc]? = some .pushBack → k = .registerCallback ∧ pc = 4 := by
  intro k; cases k <;> decide

theorem findToken_at : ∀ k : OpKind, ∀ pc < k.program.length,
    k.program[pc]? = some .findToken → k = .unregisterCallback ∧ pc = 1 := by
  intro k; cases k <;> decide

theorem deleteToken_at : ∀ k : OpKind, ∀ pc < k.program.length,
    k.program[pc]? = some .deleteToken → k = .unregisterCallback ∧ pc = 5 := by
  intro k; cases k <;> decide

theorem eraseToken_at : ∀ k : OpKind, ∀ pc < k.program.length,
    k.program[pc]? = some .eraseToken → k = .unregisterCallback ∧ pc = 6 := by
  intro k; cases k <;> decide

theorem clearCallbacks_at : ∀ k : OpKind, ∀ pc < k.program.length,
    k.program[pc]? = some .clearCallbacks → k = .reset ∧ pc = 3 := by
  intro k; cases k <;> decide

theorem holdKind_of_none {k : OpKind} {pc : ℕ} (h : k.program[pc]? = none) :
    k.holdKind pc = .none := by
  have hpc := List.getElem?_eq_none_iff.mp h
  cases k <;> simp only [program, List.length_cons, List.length_nil] at hpc <;>
    simp only [holdKind] <;> split_ifs <;> first | rfl | omega

theorem holdKind_zero (k : OpKind) : k.holdKind 0 = .none := by
  cases k <;> rfl

end OpKind

theorem TokenHeap.lt_next_of_isSome {T : TokenHeap} {p : ℕ} (h : (T.cells p).isSome) :
    p < T.next := by
  by_contra hp
  rw [T.fresh p (not_lt.mp hp)] at h
  cases h

/-- The heap `T`, `callbacks_` as `L`, what each thread holds and the token in its locals. -/
structure CallbacksLive (T : TokenHeap) (L : List ℕ) (hold : ThreadId → HoldKind)
    (tok : ThreadId → ℕ) : Prop where
  nodup : L.Nodup
  allocated : ∀ p ∈ L, p < T.next
  live : ∀ p ∈ L, (T.cells p).isSome ∨ ∃ u, hold u = .deleted ∧ tok u = p
  pending : ∀ u, hold u = .pending → (T.cells (tok u)).isSome ∧ tok u ∉ L
  distinct : ∀ u v, u ≠ v → hold u = .pending → hold v = .pending → tok u ≠ tok v
  found : ∀ u, hold u = .found ∨ hold u = .deleted → tok u ∈ L

namespace CallbacksLive

variable {T : TokenHeap} {L : List ℕ} {hold : ThreadId → HoldKind} {tok : ThreadId → ℕ}
  {t : ThreadId}

theorem update_ne {u : ThreadId} {a b : HoldKind} (h : Function.update hold t a u = b)
    (hab : a ≠ b) : u ≠ t ∧ hold u = b := by
  by_cases hut : u = t
  · subst hut
    rw [Function.update_same] at h
    exact absurd h hab
  · rw [Function.update_noteq hut] at h
    exact ⟨hut, h⟩

theorem idle (hl : CallbacksLive T L hold tok) (ht : hold t = .none) (τ : ℕ) :
    CallbacksLive T L hold (Function.update tok t τ) := by
  have hne : ∀ u, hold u ≠ .none → u ≠ t := fun u hu h => hu (h ▸ ht)
  refine ⟨hl.nodup, hl.allocated, fun p hp => ?_, fun u hu => ?_, fun u v huv hu hv => ?_,
    fun u hu => ?_⟩
  · rcases hl.live p hp with h | ⟨u, hu, rfl⟩
    · exact .inl h
    · exact .inr ⟨u, hu, Function.update_noteq (hne u (by rw [hu]; decide)) _ _⟩
  · rw [Function.update_noteq (hne u (by rw [hu]; decide))]
    exact hl.pending u hu
  · rw [Function.update_noteq (hne u (by rw [hu]; decide)),
      Function.update_noteq (hne v (by rw [hv]; decide))]
    exact hl.distinct u v huv hu hv
  · rw [Function.update_noteq (hne u (by rcases hu with hu | hu <;> rw [hu] <;> decide))]
    exact hl.found u hu

theorem alloc (hl : CallbacksLive T L hold tok) (ht : hold t = .none) (x : ProfileHandlerToken) :
    CallbacksLive (T.new x).2 L (Function.update hold t .pending)
      (Function.update tok t T.next) := by
  have hne : ∀ u, hold u ≠ .none → u ≠ t := fun u hu h => hu (h ▸ ht)
  have hcells : ∀ p, (T.cells p).isSome → ((T.new x).2.cells p).isSome := fun p hp => by
    rw [TokenHeap.new_cells, if_neg (TokenHeap.lt_next_of_isSome hp).ne]
    exact hp
  refine ⟨hl.nodup, fun p hp => (hl.allocated p hp).trans (Nat.lt_succ_self _),
    fun p hp => ?_, fun u hu => ?_, fun u v huv hu hv => ?_, fun u hu => ?_⟩
  · rcases hl.live p hp with h | ⟨u, hu, rfl⟩
    · exact .inl (hcells _ h)
    · have hut := hne u (by rw [hu]; decide)
      exact .inr ⟨u, by rw [Function.update_noteq hut, hu], Function.update_noteq hut _ _⟩
  · by_cases hut : u = t
    · subst hut
      rw [Function.update_same]
      exact ⟨by simp [TokenHeap.new_cells], fun h => (hl.allocated _ h).false⟩
    · rw [Function.update_noteq hut] at hu ⊢
      exact ⟨hcells _ (hl.pending u hu).1, (hl.pending u hu).2⟩
  · -- the fresh address differs from every token already held
    have fresh : ∀ w, hold w = .pending → tok w ≠ T.next := fun w h =>
      (TokenHeap.lt_next_of_isSome (hl.pending w h).1).ne
    simp only [Function.update_apply] at hu hv ⊢
    split_ifs at hu hv ⊢ with hut hvt hvt
    · exact absurd (hut.trans hvt.symm) huv
    · exact (fresh v hv).symm
    · exact fresh u hu
    · exact hl.distinct u v huv hu hv
  · by_cases hut : u = t
    · subst hut
      simp at hu
    · rw [Function.update_noteq hut] at hu ⊢
      exact hl.found u hu

theorem push (hl : CallbacksLive T L hold tok) (ht : hold t = .pending) :
    CallbacksLive T (L ++ [tok t]) (Function.update hold t .none) tok := by
  have hne : ∀ u, hold u ≠ .pending → u ≠ t := fun u hu h => hu (h ▸ ht)
  have hlive := hl.pending t ht
  refine ⟨hl.nodup.append (List.nodup_singleton _) (List.disjoint_singleton.mpr hlive.2),
    fun p hp => ?_, fun p hp => ?_, fun u hu => ?_, fun u v huv hu hv => ?_, fun u hu => ?_⟩
  · rcases List.mem_append.mp hp with hp | hp
    · exact hl.allocated p hp
    · rw [List.mem_singleton.mp hp]
      exact TokenHeap.lt_next_of_isSome hlive.1
  · rcases List.mem_append.mp hp with hp | hp
    · rcases hl.live p hp with h | ⟨u, hu, rfl⟩
      · exact .inl h
      · exact .inr ⟨u, by rw [Function.update_noteq (hne u (by rw [hu]; decide)), hu], rfl⟩
    · rw [List.mem_singleton.mp hp]
      exact .inl hlive.1
  · obtain ⟨hut, hu⟩ := update_ne hu (by decide)
    refine ⟨(hl.pending u hu).1, fun hm => ?_⟩
    rcases List.mem_append.mp hm with hm | hm
    · exact (hl.pending u hu).2 hm
    · exact hl.distinct u t hut hu ht (List.mem_singleton.mp hm)
  · exact hl.distinct u v huv (update_ne hu (by decide)).2 (update_ne hv (by decide)).2
  · have hut : u ≠ t := fun h => by subst h; simp at hu
    rw [Function.update_noteq hut] at hu
    exact List.mem_append_left _ (hl.found u hu)

theorem find (hl : CallbacksLive T L hold tok) (ht : hold t = .none) (hp : tok t ∈ L) :
    CallbacksLive T L (Function.update hold t .found) tok := by
  have hne : ∀ u, hold u ≠ .none → u ≠ t := fun u hu h => hu (h ▸ ht)
  refine ⟨hl.nodup, hl.allocated, fun p hp => ?_, fun u hu => ?_, fun u v huv hu hv => ?_,
    fun u hu => ?_⟩
  · rcases hl.live p hp with h | ⟨u, hu, rfl⟩
    · exact .inl h
    · exact .inr ⟨u, by rw [Function.update_noteq (hne u (by rw [hu]; decide)), hu], rfl⟩
  · exact hl.pending u (update_ne hu (by decide)).2
  · exact hl.distinct u v huv (update_ne hu (by decide)).2 (update_ne hv (by decide)).2
  · by_cases hut : u = t
    · subst hut
      exact hp
    · rw [Function.update_noteq hut] at hu
      exact hl.found u hu

theorem delete (hl : CallbacksLive T L hold tok) (ht : hold t = .found) :
    CallbacksLive (T.delete (tok t)) L (Function.update hold t .deleted) tok := by
  have hne : ∀ u, hold u ≠ .found → u ≠ t := fun u hu h => hu (h ▸ ht)
  have hmem := hl.found t (.inl ht)
  refine ⟨hl.nodup, hl.allocated, fun p hp => ?_, fun u hu => ?_, fun u v huv hu hv => ?_,
    fun u hu => ?_⟩
  · by_cases hpt : p = tok t
    · exact .inr ⟨t, Function.update_same _ _ _, hpt.symm⟩
    rcases hl.live p hp with h | ⟨u, hu, rfl⟩
    · rw [TokenHeap.delete_cells, if_neg hpt]
      exact .inl h
    · exact .inr ⟨u, by rw [Function.update_noteq (hne u (by rw [hu]; decide)), hu], rfl⟩
  · obtain ⟨-, hu⟩ := update_ne hu (by decide)
    have hne' : tok u ≠ tok t := fun h => (hl.pending u hu).2 (h ▸ hmem)
    rw [TokenHeap.delete_cells, if_neg hne']
    exact hl.pending u hu
  · exact hl.distinct u v huv (update_ne hu (by decide)).2 (update_ne hv (by decide)).2
  · by_cases hut : u = t
    · subst hut
      exact hmem
    · rw [Function.update_noteq hut] at hu
      exact hl.found u hu

theorem erase (hl : CallbacksLive T L hold tok) (ht : hold t = .deleted)
    (hothers : ∀ u, u ≠ t → hold u = .none ∨ hold u = .pending) :
    CallbacksLive T (L.erase (tok t)) (Function.update hold t .none) tok := by
  have hheld : ∀ u, hold u = .found ∨ hold u = .deleted → u = t := fun u hu => by
    by_contra hut
    rcases hothers u hut with h | h <;> rcases hu with hu | hu <;> rw [hu] at h <;> cases h
  refine ⟨hl.nodup.erase _, fun p hp => hl.allocated p (List.mem_of_mem_erase hp),
    fun p hp => ?_, fun u hu => ?_, fun u v huv hu hv => ?_, fun u hu => ?_⟩
  · obtain ⟨hpt, hp⟩ := (hl.nodup.mem_erase_iff).mp hp
    rcases hl.live p hp with h | ⟨u, hu, rfl⟩
    · exact .inl h
    · exact absurd (congrArg tok (hheld u (.inr hu))) hpt
  · obtain ⟨-, hu⟩ := update_ne hu (by decide)
    exact ⟨(hl.pending u hu).1, fun hm => (hl.pending u hu).2 (List.mem_of_mem_erase hm)⟩
  · exact hl.distinct u v huv (update_ne hu (by decide)).2 (update_ne hv (by decide)).2
  · have hut : u ≠ t := fun h => by subst h; simp at hu
    rw [Function.update_noteq hut] at hu
    exact absurd (hheld u hu) hut

theorem clear {p : ℕ} {rest : List ℕ} (hl : CallbacksLive T (p :: rest) hold tok)
    (hothers : ∀ u, hold u = .none ∨ hold u = .pending) :
    CallbacksLive (T.delete p) rest hold tok := by
  have hp := (List.nodup_cons.mp hl.nodup).1
  refine ⟨(List.nodup_cons.mp hl.nodup).2, fun q hq => hl.allocated q (List.mem_cons_of_mem _ hq),
    fun q hq => ?_, fun u hu => ?_, hl.distinct, fun u hu => ?_⟩
  · have hqp : q ≠ p := fun h => hp (h ▸ hq)
    rcases hl.live q (List.mem_cons_of_mem _ hq) with h | ⟨u, hu, -⟩
    · rw [TokenHeap.delete_cells, if_neg hqp]
      exact .inl h
    · rcases hothers u with h | h <;> rw [hu] at h <;> cases h
  · obtain ⟨hlive, hnot⟩ := hl.pending u hu
    have hup : tok u ≠ p := fun h => hnot (h ▸ List.mem_cons_self _ _)
    rw [TokenHeap.delete_cells, if_neg hup]
    exact ⟨hlive, fun hm => hnot (List.mem_cons_of_mem _ hm)⟩
  · rcases hothers u with h | h <;> rcases hu with hu | hu <;> rw [hu] at h <;> cases h

end CallbacksLive

theorem Stmt.effect_heap {σ : Type} (E : ProfileEventSource σ) {s : Stmt} {t : ThreadId}
    {h h' : ProfileHandler σ} {l l' : Locals} (he : s.effect E t (h, l) = .ok (h', l'))
    (hs : s ∉ [.newToken, .pushBack, .deleteToken, .eraseToken, .clearCallbacks]) :
    h'.tokens = h.tokens ∧ h'.callbacks = h.callbacks := by
  cases s <;> simp only [Stmt.effect] at he <;> (try split_ifs at he) <;> cases he <;>
    first | exact ⟨rfl, rfl⟩ | exact absurd (by decide) hs

namespace Config

variable {σ : Type} {E : ProfileEventSource σ} {c c' : Config σ} {t : ThreadId} {k : OpKind}
  {pc : ℕ}

def holdKind (c : Config σ) (u : ThreadId) : HoldKind := holdKindAt (c.threads u)

/-- The invariant of the heap of tokens and `callbacks_` in a configuration. -/
def TokensLive (c : Config σ) : Prop :=
  CallbacksLive c.handler.tokens c.handler.callbacks c.holdKind fun u => (c.locals u).token

theorem holdKind_of_threads {x : Option (OpKind × ℕ)}
    (h : c'.threads = Function.update c.threads t x) :
    c'.holdKind = Function.update c.holdKind t (holdKindAt x) := by
  funext u
  simp only [holdKind, h, Function.update_apply]
  split <;> rfl

theorem holdKind_of_controlLock (hi : c.protocol.Inv) (hown : c.controlLock = some t)
    {u : ThreadId} (hu : u ≠ t) : c.holdKind u = .none ∨ c.holdKind u = .pending := by
  unfold holdKind
  cases hth : c.threads u with
  | none => exact .inl rfl
  | some x =>
    obtain ⟨k, pc⟩ := x
    have hctl : k.holdsControl pc = false := by
      rw [← Bool.not_eq_true, ← controlLock_iff hi hth, hown]
      exact fun h => hu (Option.some_injective _ h).symm
    show k.holdKind pc = .none ∨ k.holdKind pc = .pending
    cases hk : k.holdKind pc
    · exact .inl rfl
    · exact .inr rfl
    all_goals
      rcases Nat.lt_or_ge pc k.program.length with hpc | hpc
      · have := (OpKind.holdsLocks_of_holdKind k pc hpc).1 (by simp [hk])
        rw [hctl] at this
        cases this
      · rw [OpKind.holdKind_of_none (List.getElem?_eq_none_iff.mpr hpc)] at hk
        cases hk

theorem tokensLive_iff {T : TokenHeap} {L : List ℕ} {x : Option (OpKind × ℕ)} {τ : ℕ}
    (hthr : c'.threads = Function.update c.threads t x) (hT : c'.handler.tokens = T)
    (hL : c'.handler.callbacks = L)
    (hloc : ∀ u, (c'.locals u).token = Function.update (fun u => (c.locals u).token) t τ u) :
    c'.TokensLive ↔ CallbacksLive T L (Function.update c.holdKind t (holdKindAt x))
      (Function.update (fun u => (c.locals u).token) t τ) := by
  unfold TokensLive
  rw [holdKind_of_threads hthr, hT, hL, show (fun u => (c'.locals u).token) = _ from funext hloc]

theorem TokensLive.of_hold {T : TokenHeap} {L : List ℕ} {x : Option (OpKind × ℕ)}
    (hthr : c'.threads = Function.update c.threads t x) (hT : c'.handler.tokens = T)
    (hL : c'.handler.callbacks = L) (hloc : ∀ u, (c'.locals u).token = (c.locals u).token)
    (h : CallbacksLive T L (Function.update c.holdKind t (holdKindAt x)) fun u => (c.locals u).token) :
    c'.TokensLive := by
  have hτ : ∀ u, (c'.locals u).token =
      Function.update (fun u => (c.locals u).token) t (c.locals t).token u := fun u => by
    rw [hloc, Function.update_eq_self]
  rw [tokensLive_iff hthr hT hL hτ, Function.update_eq_self]
  exact h

theorem TokensLive.of_heap {T : TokenHeap} {L : List ℕ} {x : Option (OpKind × ℕ)}
    (hthr : c'.threads = Function.update c.threads t x) (hx : holdKindAt x = c.holdKind t)
    (hT : c'.handler.tokens = T) (hL : c'.handler.callbacks = L)
    (hloc : ∀ u, (c'.locals u).token = (c.locals u).token)
    (h : CallbacksLive T L c.holdKind fun u => (c.locals u).token) : c'.TokensLive :=
  TokensLive.of_hold hthr hT hL hloc (by rw [hx, Function.update_eq_self]; exact h)

theorem token_update (L : ThreadId → Locals) (t : ThreadId) (l : Locals) (u : ThreadId) :
    (Function.update L t l u).token = Function.update (fun u => (L u).token) t l.token u :=
  Function.apply_update (fun _ l => Locals.token l) L t l u

theorem TokensLive.frame (hl : c.TokensLive) (hthr : c'.threads = c.threads)
    (hT : c'.handler.tokens = c.handler.tokens) (hL : c'.handler.callbacks = c.handler.callbacks)
    (hloc : ∀ u, (c'.locals u).token = (c.locals u).token) : c'.TokensLive := by
  have hk : c'.holdKind = c.holdKind := funext fun u => by simp only [holdKind, hthr]
  unfold TokensLive
  rw [hk, hT, hL, show (fun u => (c'.locals u).token) = _ from funext hloc]
  exact hl

theorem locks_of_deleted (hi : c.protocol.Inv) {u : ThreadId} (hu : c.holdKind u = .deleted) :
    c.controlLock = some u ∧ c.signalLock = some (.mutator u) := by
  unfold holdKind at hu
  cases hth : c.threads u with
  | none => rw [hth] at hu; cases hu
  | some x =>
    obtain ⟨k, pc⟩ := x
    rw [hth] at hu
    have hpc : pc < k.program.length := by
      by_contra h
      rw [holdKindAt, OpKind.holdKind_of_none (List.getElem?_eq_none_iff.mpr (not_lt.mp h))] at hu
      cases hu
    have hlocks := OpKind.holdsLocks_of_holdKind k pc hpc
    refine ⟨(controlLock_iff hi hth).2 (hlocks.1 (.inr hu)), (hi.signal _).2 ?_⟩
    simp [Protocol.signalHeld, protocol, hth, hlocks.2 hu]

theorem handle_heap {hp : HandlerPc} (he : c.handle E t hp = some c') :
    c'.threads = c.threads ∧ c'.handler.tokens = c.handler.tokens ∧
      c'.handler.callbacks = c.handler.callbacks ∧ c'.locals = c.locals := by
  cases hp <;> simp only [handle] at he <;> (try split_ifs at he) <;> cases he <;>
    exact ⟨rfl, rfl, rfl, rfl⟩

variable (E)

theorem TokensLive.exec {s : Stmt} (hi : c.protocol.Inv) (hl : c.TokensLive)
    (hth : c.threads t = some (k, pc)) (hs : k.program[pc]? = some s)
    (he : c.exec E t k pc s = some c') : c'.TokensLive := by
  have hpc : pc < k.program.length := (List.getElem?_eq_some_iff.mp hs).1
  have hkt : c.holdKind t = k.holdKind pc := by simp only [holdKind, hth, holdKindAt]
  have hmove : s ∉ [.newToken, .pushBack, .findToken, .deleteToken, .eraseToken] →
      holdKindAt (some (k, pc + 1)) = c.holdKind t := fun h => by
    rw [hkt]
    refine (OpKind.holdKind_plain k pc hpc).resolve_left ?_
    rw [hs]
    simpa using h
  by_cases hp : s ∈ [.lockControl, .unlockControl, .lockSignal, .unlockSignal, .clearCallbacks]
  · simp only [List.mem_cons, List.mem_nil_iff, or_false] at hp
    -- the locks move, and nothing the invariant reads
    rcases hp with rfl | rfl | rfl | rfl | rfl <;> simp only [Config.exec] at he <;> try
      ((try split_ifs at he); cases he; exact .of_heap rfl (hmove (by decide)) rfl rfl (fun _ => rfl) hl)
    · obtain ⟨rfl, rfl⟩ := OpKind.clearCallbacks_at k pc hpc hs
      split at he <;> cases he
      · exact TokensLive.of_heap rfl (hmove (by decide)) rfl rfl (fun _ => rfl) hl
      · rename_i p rest hcb
        -- a round of the loop of `Reset`, under `control_lock_`
        have hown : c.controlLock = some t := (controlLock_iff hi hth).2 (by decide)
        have hl' : CallbacksLive c.handler.tokens (p :: rest) c.holdKind
            (fun u => (c.locals u).token) := hcb ▸ hl
        refine TokensLive.of_heap rfl hkt.symm rfl rfl (fun _ => rfl) (hl'.clear fun u => ?_)
        by_cases hu : u = t
        · exact .inl (hu ▸ hkt)
        · exact holdKind_of_controlLock hi hown hu
  rw [exec_plain hp] at he
  split at he <;> cases he
  · rename_i h' l' hx
    by_cases hsp : s ∈ [.newToken, .pushBack, .findToken, .deleteToken, .eraseToken]
    · simp only [List.mem_cons, List.mem_nil_iff, or_false] at hsp
      have hsame : ∀ u, (Function.update c.locals t (c.locals t) u).token = (c.locals u).token :=
        fun u => by rw [Function.update_eq_self]
      rcases hsp with rfl | rfl | rfl | rfl | rfl
      · -- the allocation of the token, before `control_lock_`
        obtain ⟨rfl, rfl⟩ := OpKind.newToken_at k pc hpc hs
        simp only [Stmt.effect] at hx
        cases hx
        exact (tokensLive_iff rfl rfl rfl (token_update c.locals t _)).2
          (hl.alloc (hkt.trans (OpKind.holdKind_zero _)) _)
      · obtain ⟨rfl, rfl⟩ := OpKind.pushBack_at k pc hpc hs
        simp only [Stmt.effect] at hx
        cases hx
        exact TokensLive.of_hold rfl rfl rfl hsame (hl.push hkt)
      · obtain ⟨rfl, rfl⟩ := OpKind.findToken_at k pc hpc hs
        simp only [Stmt.effect] at hx
        split_ifs at hx with hmem
        cases hx
        exact TokensLive.of_hold rfl rfl rfl hsame (hl.find hkt hmem)
      · obtain ⟨rfl, rfl⟩ := OpKind.deleteToken_at k pc hpc hs
        simp only [Stmt.effect] at hx
        cases hx
        exact TokensLive.of_hold rfl rfl rfl hsame (hl.delete hkt)
      · obtain ⟨rfl, rfl⟩ := OpKind.eraseToken_at k pc hpc hs
        simp only [Stmt.effect] at hx
        cases hx
        have hown : c.controlLock = some t := (controlLock_iff hi hth).2 (by decide)
        exact TokensLive.of_hold rfl rfl rfl hsame
          (hl.erase hkt fun u hu => holdKind_of_controlLock hi hown hu)
    · have hnt : s ≠ .newToken := fun h => hsp (by rw [h]; decide)
      obtain ⟨hT, hL⟩ := Stmt.effect_heap E hx (by revert hp hsp; cases s <;> decide)
      refine TokensLive.of_heap rfl (hmove hsp) hT hL (fun u => ?_) hl
      show (Function.update c.locals t l' u).token = _
      by_cases hu : u = t
      · subst hu
        rw [Function.update_same]
        exact Stmt.effect_token E hx hnt
      · rw [Function.update_noteq hu]
  · exact hl.frame rfl rfl rfl fun _ => rfl

variable {E}

theorem TokensLive.step (hi : c.protocol.Inv) (hl : c.TokensLive) {a : Action}
    (hs : c.step E a = some c') : c'.TokensLive := by
  cases a with
  | call t op =>
    simp only [Config.step] at hs
    split_ifs at hs with h
    cases hs
    have ht : c.holdKind t = .none := by simp only [holdKind, h.2.1, holdKindAt]
    refine (tokensLive_iff rfl rfl rfl (token_update c.locals t op.locals)).2 ?_
    rw [show holdKindAt (some (op.kind, 0)) = c.holdKind t from
      (OpKind.holdKind_zero _).trans ht.symm, Function.update_eq_self]
    exact hl.idle ht _
  | mutate t =>
    simp only [Config.step] at hs
    split at hs
    · rename_i k pc _ hth _
      simp only [Config.mutate] at hs
      split at hs
      · exact hl.exec E hi hth ‹_› hs
      · cases hs
        refine TokensLive.of_heap rfl ?_ rfl rfl (fun _ => rfl) hl
        simp only [holdKind, hth, holdKindAt, OpKind.holdKind_of_none ‹_›]
    · cases hs
  | deliver t =>
    simp only [Config.step] at hs
    split at hs <;> cases hs <;> exact hl.frame rfl rfl rfl fun _ => rfl
  | handle t =>
    simp only [Config.step] at hs
    split at hs
    · obtain ⟨h₁, h₂, h₃, h₄⟩ := handle_heap hs
      exact hl.frame h₁ h₂ h₃ fun u => by rw [h₄]
    · cases hs

theorem init_tokensLive (fr : Option (List Char)) (source : σ) : (init fr source).TokensLive where
  nodup := List.nodup_nil
  allocated _ h := by cases h
  live _ h := by cases h
  pending _ h := by cases h
  distinct _ _ _ h := by cases h
  found _ h := by rcases h with h | h <;> cases h

theorem Reachable.tokensLive {fr : Option (List Char)} {source : σ}
    (hc : Reachable E (init fr source) c) : c.TokensLive := by
  induction hc with
  | refl => exact init_tokensLive fr source
  | step a hr hs ih => exact ih.step hr.inv hs

end Config

/-- Under every interleaving, `callbacks_` has no duplicates and every token the walk of
`SignalHandler` reaches is live. -/
theorem walk_reaches_live_tokens {σ : Type} (E : ProfileEventSource σ) (fr : Option (List Char))
    (source : σ) (c : Config σ) (hc : Config.Reachable E (Config.init fr source) c) :
    c.handler.callbacks.Nodup ∧
      (∀ t i p, c.handlers t = some (.walk i) → c.handler.callbacks[i]? = some p →
        (c.handler.tokens.cells p).isSome) ∧
      (c.controlLock = none → ∀ p ∈ c.handler.callbacks, (c.handler.tokens.cells p).isSome) := by
  have hl := hc.tokensLive
  have hi := hc.inv
  refine ⟨hl.nodup, fun t i p hw hp => ?_, fun hfree p hp => ?_⟩
  · rcases hl.live p (List.getElem?_mem hp) with h | ⟨u, hu, -⟩
    · exact h
    · have hsig : c.signalLock = some (.handler t) :=
        (hi.signal _).2 (by simp [Protocol.signalHeld, Config.protocol, hw, HandlerPc.holdsSignal])
      rw [(Config.locks_of_deleted hi hu).2] at hsig
      cases hsig
  · rcases hl.live p hp with h | ⟨u, hu, -⟩
    · exact h
    · rw [(Config.locks_of_deleted hi hu).1] at hfree
      cases hfree

theorem walk_after_registration :
    let c₀ := Config.init none (TimerProfileEventSource.init (.disarmed .perThread))
    let as := [Action.call 1 (.registerCallback 10 11), .mutate 1, .mutate 1, .mutate 1,
      .mutate 1, .mutate 1, .mutate 1, .mutate 1, .mutate 1, .mutate 1, .mutate 1, .mutate 1,
      .deliver 2, .handle 2, .handle 2, .handle 2]
    let c := (c₀.runActions timerSource as).getD c₀
    c₀.runActions timerSource as = some c ∧ c.handlers 2 = some (.walk 0) ∧
      c.handler.callbacks[0]? = some 0 ∧ (c.handler.tokens.cells 0).isSome := by
  intro c₀ as c
  have hrun : c₀.runActions timerSource as = some c := rfl
  have hw : c.handlers 2 = some (.walk 0) := by decide
  have hp : c.handler.callbacks[0]? = some 0 := by decide
  exact ⟨hrun, hw, hp, (walk_reaches_live_tokens timerSource none _ c
    (Config.Reachable.refl.runActions timerSource hrun)).2.1 2 0 0 hw hp⟩

end Perftools
