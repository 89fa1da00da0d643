import Mathlib.Tactic.NormNum
import Mathlib.Tactic.SplitIfs
import Mathlib.Logic.Function.Basic
import Mathlib.Data.List.Basic
import Mathlib.Data.Option.Basic
import Mathlib.Data.Nat.Cast.Basic
import Mathlib.Data.Int.Cast.Lemmas
import Mathlib.Order.Basic

/-!
# Machine integers, signal dispositions, tokens and outcomes

The vocabulary shared by the model of `profile-handler.cc`. The counters of `ProfileHandler`
are `int32` and `int64` fields; `++` on them is two's complement arithmetic, written here as
`toInt32` and `toInt64` of the mathematical result. A token is a `ProfileHandlerToken*` from
`operator new`: the heap of tokens hands out fresh addresses and `delete` frees a cell. A
fatal check (`RAW_CHECK`, `RAW_LOG(FATAL, ...)`) ends the process; `Outcome.fatal` keeps its
message and the state in which it fired.
-/

namespace Perftools

abbrev ThreadId := ℕ

/-- The `int32` value of a two's complement computation. -/
def toInt32 (x : ℤ) : ℤ := (x + 2 ^ 31) % 2 ^ 32 - 2 ^ 31

/-- The `int64` value of a two's complement computation. -/
def toInt64 (x : ℤ) : ℤ := (x + 2 ^ 63) % 2 ^ 64 - 2 ^ 63

theorem toInt32_of_le_of_lt {x : ℤ} (h₁ : -2 ^ 31 ≤ x) (h₂ : x < 2 ^ 31) : toInt32 x = x := by
  unfold toInt32; omega

theorem toInt32_toInt32_add (x y : ℤ) : toInt32 (toInt32 x + y) = toInt32 (x + y) := by
  unfold toInt32; omega

theorem toInt64_of_le_of_lt {x : ℤ} (h₁ : -2 ^ 63 ≤ x) (h₂ : x < 2 ^ 63) : toInt64 x = x := by
  unfold toInt64; omega

/-- The disposition of a signal: `SIG_DFL`, `SIG_IGN` or `ProfileHandler::SignalHandler`. -/
inductive Disposition
  | sigDfl
  | sigIgn
  | signalHandler
  deriving DecidableEq, Repr

/-- A registered callback: the function and its argument, both opaque addresses. -/
structure ProfileHandlerToken where
  callback : ℕ
  callbackArg : ℕ
  deriving DecidableEq, Repr

/-- The cells of the token heap; none from the fresh address `next` on is allocated. -/
structure TokenHeap where
  next : ℕ
  cells : ℕ → Option ProfileHandlerToken
  fresh : ∀ p, next ≤ p → cells p = none

namespace TokenHeap

def empty : TokenHeap := ⟨0, fun _ => none, fun _ _ => rfl⟩

/-- `new ProfileHandlerToken(cb, cb_arg)`: the fresh address and the heap after it. -/
def new (h : TokenHeap) (tok : ProfileHandlerToken) : ℕ × TokenHeap :=
  (h.next, ⟨h.next + 1, Function.update h.cells h.next (some tok), fun p hp => by
    rw [Function.update_noteq (by omega)]
    exact h.fresh p (by omega)⟩)

/-- `delete` of the token at address `p`. -/
def delete (h : TokenHeap) (p : ℕ) : TokenHeap :=
  ⟨h.next, Function.update h.cells p none, fun q hq => by
    rw [Function.update_apply]
    split_ifs
    · rfl
    · exact h.fresh q hq⟩

@[simp] theorem new_fst (h : TokenHeap) (tok) : (h.new tok).1 = h.next := rfl

@[simp] theorem new_next (h : TokenHeap) (tok) : (h.new tok).2.next = h.next + 1 := rfl

theorem new_cells (h : TokenHeap) (tok) (q : ℕ) :
    (h.new tok).2.cells q = if q = h.next then some tok else h.cells q := by
  simp [new, Function.update_apply]

@[simp] theorem delete_next (h : TokenHeap) (p : ℕ) : (h.delete p).next = h.next := rfl

theorem delete_cells (h : TokenHeap) (p q : ℕ) :
    (h.delete p).cells q = if q = p then none else h.cells q := by
  simp [delete, Function.update_apply]

@[simp] theorem foldl_delete_next (h : TokenHeap) (ps : List ℕ) :
    (ps.foldl delete h).next = h.next := by
  induction ps generalizing h with
  | nil => rfl
  | cons p ps ih => exact (ih _).trans (delete_next h p)

end TokenHeap

/-- An operation returns, or a fatal check ends the process in state `s`. -/
inductive Outcome (α : Type)
  | ok (s : α)
  | fatal (msg : String) (s : α)

namespace Outcome

variable {α : Type}

def bind (o : Outcome α) (f : α → Outcome α) : Outcome α :=
  match o with
  | .ok s => f s
  | .fatal msg s => .fatal msg s

def state : Outcome α → α
  | .ok s => s
  | .fatal _ s => s

@[simp] theorem ok_bind (s : α) (f : α → Outcome α) : (ok s).bind f = f s := rfl

@[simp] theorem fatal_bind (msg : String) (s : α) (f : α → Outcome α) :
    (fatal msg s).bind f = fatal msg s := rfl

@[simp] theorem bind_ok (o : Outcome α) : o.bind ok = o := by cases o <;> rfl

theorem bind_eq_ok {o : Outcome α} {f : α → Outcome α} {s : α} :
    o.bind f = ok s ↔ ∃ s', o = ok s' ∧ f s' = ok s := by
  cases o <;> simp [bind]

/-- Both return, or both stop at the same fatal check, in states related by `R`. -/
def Rel {β : Type} (R : α → β → Prop) : Outcome α → Outcome β → Prop
  | .ok a, .ok b => R a b
  | .fatal m a, .fatal m' b => m = m' ∧ R a b
  | _, _ => False

theorem Rel.bind {β : Type} {R : α → β → Prop} {o₁ : Outcome α} {o₂ : Outcome β}
    {f : α → Outcome α} {g : β → Outcome β} (ho : Rel R o₁ o₂)
    (hfg : ∀ a b, R a b → Rel R (f a) (g b)) : Rel R (o₁.bind f) (o₂.bind g) :=
  match o₁, o₂, ho with
  | .ok a, .ok b, h => hfg a b h
  | .fatal _ _, .fatal _ _, h => h

end Outcome

end Perftools
