import Perftools.Basic

/-!
# The locking protocol

The public operations run as sequences of statements (`OpKind.program`) at the grain at which
threads interleave, and `SignalHandler` runs on the thread the signal interrupts (`HandlerPc`).
`Protocol` is what the locks see of a configuration, and `Protocol.Step` every move the code can
make at that level. Every step keeps `Protocol.Inv`: each lock is held by the party whose
position says so, and no thread runs `SignalHandler` while its own code holds `signal_lock_`.
It rests on the lock discipline of the five programs, checked statement by statement.
-/

namespace Perftools

/-- The statements of the public operations. -/
inductive Stmt
  | newToken  -- `new ProfileHandlerToken(callback, callback_arg)`
  | lockControl  -- `SpinLockHolder cl(&control_lock_)`
  | unlockControl  -- the end of the scope of `cl`
  | disableHandler
  | enableHandler
  | enableIfCallbacks  -- `if (callback_count_ > 0) EnableHandler()`
  | lockSignal  -- `SpinLockHolder sl(&signal_lock_)`
  | unlockSignal  -- the end of the scope of `sl`
  | registerThread  -- `event_source_->RegisterThread(callback_count_)`
  | pushBack  -- `callbacks_.push_back(token)`
  | incrementCount  -- `++callback_count_`
  | registeredCallback  -- `event_source_->RegisteredCallback(callback_count_)`
  | findToken  -- the search of `callbacks_` for `token`, `RAW_LOG(FATAL, "Invalid token")` if absent
  | checkCount  -- `RAW_CHECK(callback_count_ > 0, "Invalid callback count")`
  | deleteToken  -- `delete *it`
  | eraseToken  -- `callbacks_.erase(it)`
  | decrementCount  -- `--callback_count_`
  | unregisteredCallback  -- `event_source_->UnregisteredCallback(callback_count_)`
  | clearCallbacks  -- one round of the loop of `Reset` that deletes and erases the first callback
  | zeroCount  -- `callback_count_ = 0`
  | resetSource  -- `event_source_->Reset()`
  | readInterrupts  -- `state->interrupts = interrupts_`
  | readState  -- `state->frequency = frequency_; state->callback_count = callback_count_`
  deriving DecidableEq, Repr

inductive OpKind
  | registerThread
  | registerCallback
  | unregisterCallback
  | reset
  | getState
  deriving DecidableEq, Repr

/-- The statements of each operation, in the order of `profile-handler.cc`. -/
def OpKind.program : OpKind → List Stmt
  | .registerThread => [.lockControl, .registerThread, .unlockControl]
  | .registerCallback => [.newToken, .lockControl, .disableHandler, .lockSignal, .pushBack,
      .unlockSignal, .incrementCount, .registeredCallback, .enableHandler, .unlockControl]
  | .unregisterCallback => [.lockControl, .findToken, .checkCount, .disableHandler,
      .lockSignal, .deleteToken, .eraseToken, .unlockSignal, .decrementCount,
      .enableIfCallbacks, .unregisteredCallback, .unlockControl]
  | .reset => [.lockControl, .disableHandler, .lockSignal, .clearCallbacks, .unlockSignal,
      .zeroCount, .resetSource, .unlockControl]
  | .getState => [.lockControl, .disableHandler, .lockSignal, .readInterrupts, .unlockSignal,
      .enableIfCallbacks, .readState, .unlockControl]

namespace Stmt

/-- The statement writes `callbacks_` or reads `interrupts_`. -/
def critical : Stmt → Bool
  | .pushBack | .deleteToken | .eraseToken | .clearCallbacks | .readInterrupts => true
  | _ => false

def setsControl : Stmt → Bool → Bool
  | .lockControl, _ => true
  | .unlockControl, _ => false
  | _, b => b

def setsSignal : Stmt → Bool → Bool
  | .lockSignal, _ => true
  | .unlockSignal, _ => false
  | _, b => b

def setsMasked : Stmt → Bool → Bool
  | .disableHandler, _ => true
  | .enableHandler, _ | .enableIfCallbacks, _ | .unlockControl, _ => false
  | _, b => b

/-- The lock discipline at one statement, given the locks held and whether the handler is off. -/
def disciplined (s : Stmt) (control signal masked : Bool) : Bool :=
  match s with
  | .newToken => true
  | .lockControl => !control
  | .unlockControl => control && !signal
  | .lockSignal => masked && !signal
  | .unlockSignal => signal
  | _ => control

/-- `control_lock_` after the statement runs on thread `t`: `none` when it must spin. -/
def controlAfter (t : ThreadId) : Stmt → Option ThreadId → Option (Option ThreadId)
  | .lockControl, l => if l = none then some (some t) else none
  | .unlockControl, _ => some none
  | _, l => some l

end Stmt

/-- Who holds `signal_lock_`: the code of a thread, or `SignalHandler` running on it. -/
inductive Holder
  | mutator (t : ThreadId)
  | handler (t : ThreadId)
  deriving DecidableEq, Repr

namespace Stmt

def signalAfter (t : ThreadId) : Stmt → Option Holder → Option (Option Holder)
  | .lockSignal, l => if l = none then some (some (.mutator t)) else none
  | .unlockSignal, _ => some none
  | _, l => some l

theorem controlAfter_of_not_mem {s : Stmt} {t : ThreadId} {l : Option ThreadId}
    (hs : s ∉ [.lockControl, .unlockControl, .lockSignal, .unlockSignal, .clearCallbacks]) :
    s.controlAfter t l = some l := by
  cases s <;> first | rfl | exact absurd (by decide) hs

theorem signalAfter_of_not_mem {s : Stmt} {t : ThreadId} {l : Option Holder}
    (hs : s ∉ [.lockControl, .unlockControl, .lockSignal, .unlockSignal, .clearCallbacks]) :
    s.signalAfter t l = some l := by
  cases s <;> first | rfl | exact absurd (by decide) hs

def DispositionAfter : Stmt → Disposition → Disposition → Prop
  | .disableHandler, _, d' => d' = .sigIgn
  | .enableHandler, _, d' => d' = .signalHandler
  | .enableIfCallbacks, d, d' => d' = .signalHandler ∨ d' = d
  | _, d, d' => d' = d

def PcAfter (s : Stmt) (pc pc' : ℕ) : Prop := pc' = pc + 1 ∨ (s = .clearCallbacks ∧ pc' = pc)

theorem control_cases {s : Stmt} {t : ThreadId} {l cl : Option ThreadId} {c sg m : Bool}
    (hcl : s.controlAfter t l = some cl) (hd : s.disciplined c sg m = true) :
    (l = none ∧ cl = some t ∧ s.setsControl c = true) ∨
      (c = true ∧ cl = none ∧ s.setsControl c = false) ∨ (cl = l ∧ s.setsControl c = c) := by
  cases s <;> simp_all [controlAfter, setsControl, disciplined]

theorem signal_cases {s : Stmt} {t : ThreadId} {l sl : Option Holder} {c sg m : Bool}
    (hsl : s.signalAfter t l = some sl) (hd : s.disciplined c sg m = true) :
    (l = none ∧ sl = some (.mutator t) ∧ s.setsSignal sg = true) ∨
      (sg = true ∧ sl = none ∧ s.setsSignal sg = false) ∨ (sl = l ∧ s.setsSignal sg = sg) := by
  cases s <;> simp_all [signalAfter, setsSignal, disciplined]

theorem mask_cases {s : Stmt} {d₀ d : Disposition} {c sg m : Bool}
    (hdisp : s.DispositionAfter d₀ d) (hd : s.disciplined c sg m = true) :
    d = .sigIgn ∨ (d = d₀ ∧ s.setsMasked m = m) ∨ (s.setsMasked m = false ∧ c = true) := by
  cases s <;> simp_all [DispositionAfter, setsMasked, disciplined]

theorem dispositionAfter_ne_sigDfl {s : Stmt} {d₀ d : Disposition}
    (hdisp : s.DispositionAfter d₀ d) (h₀ : d₀ ≠ .sigDfl) : d ≠ .sigDfl := by
  cases s <;> simp only [DispositionAfter] at hdisp <;> first
    | (subst hdisp; first | exact h₀ | exact nofun)
    | (rcases hdisp with rfl | rfl <;> first | exact h₀ | exact nofun)

end Stmt

def flagAfter (f : Stmt → Bool → Bool) (ss : List Stmt) : Bool := ss.foldl (fun b s => f s b) false

theorem flagAfter_take_succ (f : Stmt → Bool → Bool) {prog : List Stmt} {pc : ℕ} {s : Stmt}
    (h : prog[pc]? = some s) :
    flagAfter f (prog.take (pc + 1)) = f s (flagAfter f (prog.take pc)) := by
  rw [List.take_succ, h]
  simp [flagAfter, List.foldl_append]

namespace OpKind

def holdsControl (k : OpKind) (pc : ℕ) : Bool := flagAfter Stmt.setsControl (k.program.take pc)

def holdsSignal (k : OpKind) (pc : ℕ) : Bool := flagAfter Stmt.setsSignal (k.program.take pc)

def masked (k : OpKind) (pc : ℕ) : Bool := flagAfter Stmt.setsMasked (k.program.take pc)

/-- The program keeps the lock discipline and touches `callbacks_` only under `signal_lock_`. -/
def Disciplined (k : OpKind) : Prop :=
  (∀ pc < k.program.length, (k.program[pc]?).all fun s =>
    s.disciplined (k.holdsControl pc) (k.holdsSignal pc) (k.masked pc) &&
      (!s.critical || k.holdsSignal pc)) ∧
  (∀ pc ≤ k.program.length,
    (!k.holdsSignal pc || k.masked pc) && (!k.masked pc || k.holdsControl pc)) ∧
  k.holdsControl k.program.length = false ∧ k.holdsSignal k.program.length = false

instance : DecidablePred Disciplined := fun k => by unfold Disciplined; infer_instance

theorem disciplined (k : OpKind) : k.Disciplined := by
  cases k <;> decide

variable {k : OpKind} {pc pc' : ℕ} {s : Stmt}

theorem stmt_disciplined (hs : k.program[pc]? = some s) :
    s.disciplined (k.holdsControl pc) (k.holdsSignal pc) (k.masked pc) = true := by
  have hpc : pc < k.program.length := (List.getElem?_eq_some_iff.mp hs).1
  have := k.disciplined.1 pc hpc
  simp only [hs, Option.all_some, Bool.and_eq_true] at this
  exact this.1

theorem holdsSignal_of_critical (hs : k.program[pc]? = some s) (hc : s.critical = true) :
    k.holdsSignal pc = true := by
  have hpc : pc < k.program.length := (List.getElem?_eq_some_iff.mp hs).1
  have := k.disciplined.1 pc hpc
  simp only [hs, Option.all_some, Bool.and_eq_true, hc, Bool.not_true, Bool.false_or] at this
  exact this.2

theorem take_of_le (h : k.program.length ≤ pc) : k.program.take pc = k.program :=
  List.take_of_length_le h

theorem masked_of_holdsSignal (h : k.holdsSignal pc = true) : k.masked pc = true := by
  rcases Nat.le_total pc k.program.length with hpc | hpc
  · have := k.disciplined.2.1 pc hpc
    simp_all
  · have := k.disciplined.2.1 _ le_rfl
    simp_all [holdsSignal, masked, take_of_le hpc, List.take_length]

theorem holdsControl_of_masked (h : k.masked pc = true) : k.holdsControl pc = true := by
  rcases Nat.le_total pc k.program.length with hpc | hpc
  · have := k.disciplined.2.1 pc hpc
    simp_all
  · have := k.disciplined.2.1 _ le_rfl
    simp_all [holdsControl, masked, take_of_le hpc, List.take_length]

theorem holdsControl_of_none (h : k.program[pc]? = none) : k.holdsControl pc = false := by
  have hpc := List.getElem?_eq_none_iff.mp h
  have := k.disciplined.2.2.1
  rwa [holdsControl, take_of_le hpc, ← List.take_length (l := k.program)]

theorem holdsSignal_of_none (h : k.program[pc]? = none) : k.holdsSignal pc = false := by
  have hpc := List.getElem?_eq_none_iff.mp h
  have := k.disciplined.2.2.2
  rwa [holdsSignal, take_of_le hpc, ← List.take_length (l := k.program)]

theorem flag_after {f : Stmt → Bool → Bool} (hf : ∀ b, f .clearCallbacks b = b)
    (hs : k.program[pc]? = some s) (hp : s.PcAfter pc pc') :
    flagAfter f (k.program.take pc') = f s (flagAfter f (k.program.take pc)) := by
  rcases hp with rfl | ⟨rfl, rfl⟩
  · exact flagAfter_take_succ f hs
  · exact (hf _).symm

theorem holdsControl_after (hs : k.program[pc]? = some s) (hp : s.PcAfter pc pc') :
    k.holdsControl pc' = s.setsControl (k.holdsControl pc) :=
  flag_after (fun _ => rfl) hs hp

theorem holdsSignal_after (hs : k.program[pc]? = some s) (hp : s.PcAfter pc pc') :
    k.holdsSignal pc' = s.setsSignal (k.holdsSignal pc) :=
  flag_after (fun _ => rfl) hs hp

theorem masked_after (hs : k.program[pc]? = some s) (hp : s.PcAfter pc pc') :
    k.masked pc' = s.setsMasked (k.masked pc) :=
  flag_after (fun _ => rfl) hs hp

end OpKind

/-- Where `SignalHandler` is on the thread it interrupted (after saving `errno`). -/
inductive HandlerPc
  | lockSignal  -- `SpinLockHolder sl(&instance_->signal_lock_)`
  | getTicks  -- `ticks = instance_->event_source_->GetTicksSinceLastCall()`
  | increment  -- `++instance_->interrupts_`
  | walk (i : ℕ)  -- the walk of `callbacks_`, at the callback in position `i`
  | unlockSignal  -- the end of the scope of `sl`
  | restoreErrno  -- `errno = saved_errno` and the return
  deriving DecidableEq, Repr

namespace HandlerPc

def holdsSignal : HandlerPc → Bool
  | .getTicks | .increment | .walk _ | .unlockSignal => true
  | _ => false

def critical : HandlerPc → Bool
  | .increment | .walk _ => true
  | _ => false

def Next : HandlerPc → Option HandlerPc → Prop
  | .lockSignal, q => q = some .getTicks
  | .getTicks, q => q = some .increment
  | .increment, q => q = some (.walk 0) ∨ q = some .unlockSignal
  | .walk i, q => q = some (.walk (i + 1)) ∨ q = some .unlockSignal
  | .unlockSignal, q => q = some .restoreErrno
  | .restoreErrno, q => q = none

def signalAfter (t : ThreadId) : HandlerPc → Option Holder → Option (Option Holder)
  | .lockSignal, l => if l = none then some (some (.handler t)) else none
  | .unlockSignal, _ => some none
  | _, l => some l

theorem signal_cases {hp : HandlerPc} {q : Option HandlerPc} {t : ThreadId}
    {l sl : Option Holder} (hsl : hp.signalAfter t l = some sl) (hn : hp.Next q) :
    (l = none ∧ sl = some (.handler t) ∧ q.any holdsSignal = true) ∨
      (hp.holdsSignal = true ∧ sl = none ∧ q.any holdsSignal = false) ∨
      (sl = l ∧ q.any holdsSignal = hp.holdsSignal) := by
  cases hp <;> simp only [Next] at hn <;>
    (first | subst hn | rcases hn with rfl | rfl) <;> simp_all [signalAfter, holdsSignal]

end HandlerPc

/-- What the locks see of a configuration. -/
structure Protocol where
  controlLock : Option ThreadId
  signalLock : Option Holder
  disposition : Disposition
  threads : ThreadId → Option (OpKind × ℕ)
  handlers : ThreadId → Option HandlerPc

namespace Protocol

/-- The moves of the code at the level of the locks. -/
inductive Step : Protocol → Protocol → Prop
  | call {p : Protocol} {t : ThreadId} (k : OpKind) :
      p.threads t = none → p.handlers t = none →
      Step p { p with threads := Function.update p.threads t (some (k, 0)) }
  | finish {p : Protocol} {t : ThreadId} {k : OpKind} {pc : ℕ} :
      p.threads t = some (k, pc) → p.handlers t = none → k.program[pc]? = none →
      Step p { p with threads := Function.update p.threads t none }
  | exec {p : Protocol} {t : ThreadId} {k : OpKind} {pc pc' : ℕ} {s : Stmt}
      {cl : Option ThreadId} {sl : Option Holder} {d : Disposition} :
      p.threads t = some (k, pc) → p.handlers t = none → k.program[pc]? = some s →
      s.controlAfter t p.controlLock = some cl → s.signalAfter t p.signalLock = some sl →
      s.DispositionAfter p.disposition d → s.PcAfter pc pc' →
      Step p ⟨cl, sl, d, Function.update p.threads t (some (k, pc')), p.handlers⟩
  | deliver {p : Protocol} {t : ThreadId} :
      p.handlers t = none → p.disposition = .signalHandler →
      Step p { p with handlers := Function.update p.handlers t (some .lockSignal) }
  | handle {p : Protocol} {t : ThreadId} {hp : HandlerPc} {q : Option HandlerPc}
      {sl : Option Holder} :
      p.handlers t = some hp → hp.signalAfter t p.signalLock = some sl → hp.Next q →
      Step p { p with signalLock := sl, handlers := Function.update p.handlers t q }

def controlHeld (p : Protocol) (t : ThreadId) : Bool :=
  (p.threads t).any fun x => x.1.holdsControl x.2

def signalHeld (p : Protocol) : Holder → Bool
  | .mutator t => (p.threads t).any fun x => x.1.holdsSignal x.2
  | .handler t => (p.handlers t).any HandlerPc.holdsSignal

def maskedBy (p : Protocol) (t : ThreadId) : Bool :=
  (p.threads t).any fun x => x.1.masked x.2

def critical (p : Protocol) : Holder → Bool
  | .mutator t => (p.threads t).any fun x => (x.1.program[x.2]?).any Stmt.critical
  | .handler t => (p.handlers t).any HandlerPc.critical

/-- The invariant of the protocol. -/
structure Inv (p : Protocol) : Prop where
  control : ∀ t, p.controlLock = some t ↔ p.controlHeld t = true
  signal : ∀ h, p.signalLock = some h ↔ p.signalHeld h = true
  masked : ∀ t, p.maskedBy t = true → p.disposition = .sigIgn
  noSelf : ∀ t, p.handlers t ≠ none → p.signalLock ≠ some (.mutator t)
  noDfl : p.disposition ≠ .sigDfl

theorem lock_consistent {X : Type} {l l' : Option X} {held held' : X → Bool} (x : X) (b b' : Bool)
    (hinv : ∀ y, l = some y ↔ held y = true) (hother : ∀ y, y ≠ x → held' y = held y)
    (hb : held x = b) (hb' : held' x = b')
    (hx : (l = none ∧ l' = some x ∧ b' = true) ∨ (b = true ∧ l' = none ∧ b' = false) ∨
      (l' = l ∧ b' = b)) :
    ∀ y, l' = some y ↔ held' y = true := by
  subst hb hb'
  intro y
  by_cases hy : y = x
  · subst hy
    rcases hx with ⟨-, rfl, h⟩ | ⟨-, rfl, h⟩ | ⟨rfl, h⟩
    · simp [h]
    · simp [h]
    · rw [h]; exact hinv y
  · rw [hother y hy]
    rcases hx with ⟨hl, rfl, -⟩ | ⟨hh, rfl, -⟩ | ⟨rfl, -⟩
    · rw [← hinv y, hl]; simp [Ne.symm hy]
    · rw [← hinv y, (hinv x).2 hh]; simp [Ne.symm hy]
    · exact hinv y

theorem any_eq_true {α : Type} {f : α → Bool} {o : Option α} :
    o.any f = true ↔ ∃ a, o = some a ∧ f a = true := by
  cases o <;> simp

variable {p : Protocol}

theorem Inv.maskedBy_controlHeld (hi : p.Inv) {t : ThreadId} (h : p.maskedBy t = true) :
    p.controlLock = some t := by
  rw [hi.control]
  simp only [maskedBy, controlHeld, any_eq_true] at h ⊢
  obtain ⟨x, hx, hm⟩ := h
  exact ⟨x, hx, OpKind.holdsControl_of_masked hm⟩

theorem Inv.call (hi : p.Inv) {t : ThreadId} (k : OpKind) (hth : p.threads t = none) :
    Inv { p with threads := Function.update p.threads t (some (k, 0)) } where
  control := lock_consistent t false false hi.control
    (fun y hy => by simp [controlHeld, Function.update_noteq hy])
    (by simp [controlHeld, hth]) (by simp [controlHeld, OpKind.holdsControl, flagAfter])
    (.inr (.inr ⟨rfl, rfl⟩))
  signal := lock_consistent (Holder.mutator t) false false hi.signal
    (fun y hy => by cases y <;> simp_all [signalHeld, Function.update_noteq])
    (by simp [signalHeld, hth]) (by simp [signalHeld, OpKind.holdsSignal, flagAfter])
    (.inr (.inr ⟨rfl, rfl⟩))
  masked t' h := by
    by_cases ht : t' = t
    · subst ht; simp [maskedBy, OpKind.masked, flagAfter] at h
    · exact hi.masked t' (by simpa [maskedBy, Function.update_noteq ht] using h)
  noSelf := hi.noSelf
  noDfl := hi.noDfl

theorem Inv.finish (hi : p.Inv) {t : ThreadId} {k : OpKind} {pc : ℕ}
    (hth : p.threads t = some (k, pc)) (hk : k.program[pc]? = none) :
    Inv { p with threads := Function.update p.threads t none } where
  control := lock_consistent t false false hi.control
    (fun y hy => by simp [controlHeld, Function.update_noteq hy])
    (by simp [controlHeld, hth, OpKind.holdsControl_of_none hk]) (by simp [controlHeld])
    (.inr (.inr ⟨rfl, rfl⟩))
  signal := lock_consistent (Holder.mutator t) false false hi.signal
    (fun y hy => by cases y <;> simp_all [signalHeld, Function.update_noteq])
    (by simp [signalHeld, hth, OpKind.holdsSignal_of_none hk]) (by simp [signalHeld])
    (.inr (.inr ⟨rfl, rfl⟩))
  masked t' h := by
    by_cases ht : t' = t
    · subst ht; simp [maskedBy] at h
    · exact hi.masked t' (by simpa [maskedBy, Function.update_noteq ht] using h)
  noSelf := hi.noSelf
  noDfl := hi.noDfl

theorem Inv.exec (hi : p.Inv) {t : ThreadId} {k : OpKind} {pc pc' : ℕ} {s : Stmt}
    {cl : Option ThreadId} {sl : Option Holder} {d : Disposition}
    (hth : p.threads t = some (k, pc)) (hhd : p.handlers t = none)
    (hs : k.program[pc]? = some s) (hcl : s.controlAfter t p.controlLock = some cl)
    (hsl : s.signalAfter t p.signalLock = some sl) (hd : s.DispositionAfter p.disposition d)
    (hpc : s.PcAfter pc pc') :
    Inv ⟨cl, sl, d, Function.update p.threads t (some (k, pc')), p.handlers⟩ := by
  have hdisc := OpKind.stmt_disciplined hs
  have hC : p.controlHeld t = k.holdsControl pc := by simp [controlHeld, hth]
  have hS : p.signalHeld (.mutator t) = k.holdsSignal pc := by simp [signalHeld, hth]
  refine ⟨?control, ?signal, ?masked, ?noSelf, ?noDfl⟩
  case control =>
    exact lock_consistent t _ _ hi.control
      (fun y hy => by simp [controlHeld, Function.update_noteq hy]) hC
      (by simp [controlHeld, OpKind.holdsControl_after hs hpc]) (Stmt.control_cases hcl hdisc)
  case signal =>
    exact lock_consistent (Holder.mutator t) _ _ hi.signal
      (fun y hy => by cases y <;> simp_all [signalHeld, Function.update_noteq]) hS
      (by simp [signalHeld, OpKind.holdsSignal_after hs hpc]) (Stmt.signal_cases hsl hdisc)
  case masked =>
    intro t' h
    rcases Stmt.mask_cases hd hdisc with hig | ⟨rfl, hm⟩ | ⟨hm, hc⟩
    · exact hig
    · by_cases ht : t' = t
      · subst ht
        simp only [maskedBy, Function.update_same, Option.any_some,
          OpKind.masked_after hs hpc, hm] at h
        exact hi.masked t' (by simpa [maskedBy, hth] using h)
      · exact hi.masked t' (by simpa [maskedBy, Function.update_noteq ht] using h)
    · by_cases ht : t' = t
      · subst ht
        simp [maskedBy, OpKind.masked_after hs hpc, hm] at h
      · have h₁ := hi.maskedBy_controlHeld (by simpa [maskedBy, Function.update_noteq ht] using h)
        have h₂ := (hi.control t).2 (hC.trans hc)
        exact absurd (Option.some_injective _ (h₁.symm.trans h₂)) ht
  case noSelf =>
    intro t' ht'
    rcases Stmt.signal_cases hsl hdisc with ⟨-, rfl, -⟩ | ⟨-, rfl, -⟩ | ⟨rfl, -⟩
    · intro h
      cases h
      exact ht' hhd
    · simp
    · exact hi.noSelf t' ht'
  case noDfl => exact Stmt.dispositionAfter_ne_sigDfl hd hi.noDfl

theorem Inv.deliver (hi : p.Inv) {t : ThreadId} (hhd : p.handlers t = none)
    (hdisp : p.disposition = .signalHandler) :
    Inv { p with handlers := Function.update p.handlers t (some .lockSignal) } where
  control := hi.control
  signal := lock_consistent (Holder.handler t) false false hi.signal
    (fun y hy => by cases y <;> simp_all [signalHeld, Function.update_noteq])
    (by simp [signalHeld, hhd]) (by simp [signalHeld, HandlerPc.holdsSignal])
    (.inr (.inr ⟨rfl, rfl⟩))
  masked := hi.masked
  noSelf t' ht' h := by
    by_cases ht : t' = t
    · subst ht
      have hheld := (hi.signal _).1 h
      simp only [signalHeld, any_eq_true] at hheld
      obtain ⟨x, hx, hsig⟩ := hheld
      have := hi.masked t' (by simp [maskedBy, hx, OpKind.masked_of_holdsSignal hsig])
      rw [hdisp] at this
      exact nomatch this
    · exact hi.noSelf t' (by simpa [Function.update_noteq ht] using ht') h
  noDfl := hi.noDfl

theorem Inv.handle (hi : p.Inv) {t : ThreadId} {hp : HandlerPc} {q : Option HandlerPc}
    {sl : Option Holder} (hhd : p.handlers t = some hp)
    (hsl : hp.signalAfter t p.signalLock = some sl) (hn : hp.Next q) :
    Inv { p with signalLock := sl, handlers := Function.update p.handlers t q } where
  control := hi.control
  signal := lock_consistent (Holder.handler t) _ _ hi.signal
    (fun y hy => by cases y <;> simp_all [signalHeld, Function.update_noteq])
    (by simp [signalHeld, hhd]) (by simp [signalHeld]) (HandlerPc.signal_cases hsl hn)
  masked := hi.masked
  noSelf t' ht' := by
    rcases HandlerPc.signal_cases hsl hn with ⟨-, rfl, -⟩ | ⟨-, rfl, -⟩ | ⟨rfl, -⟩
    · simp
    · simp
    · by_cases ht : t' = t
      · subst ht; exact hi.noSelf t' (by simp [hhd])
      · exact hi.noSelf t' (by simpa [Function.update_noteq ht] using ht')
  noDfl := hi.noDfl

theorem Inv.step {p p' : Protocol} (hi : p.Inv) (hs : Step p p') : p'.Inv := by
  cases hs with
  | call k hth _ => exact hi.call k hth
  | finish hth _ hk => exact hi.finish hth hk
  | exec hth hhd hs hcl hsl hd hpc => exact hi.exec hth hhd hs hcl hsl hd hpc
  | deliver hhd hdisp => exact hi.deliver hhd hdisp
  | handle hhd hsl hn => exact hi.handle hhd hsl hn

theorem Inv.critical_holds (hi : p.Inv) {h : Holder} (hc : p.critical h = true) :
    p.signalLock = some h := by
  rw [hi.signal]
  cases h with
  | mutator t =>
    simp only [critical, signalHeld, any_eq_true] at hc ⊢
    obtain ⟨x, hx, s, hs, hcs⟩ := hc
    exact ⟨x, hx, OpKind.holdsSignal_of_critical hs hcs⟩
  | handler t =>
    simp only [critical, signalHeld, any_eq_true] at hc ⊢
    obtain ⟨hp, hx, hcs⟩ := hc
    refine ⟨hp, hx, ?_⟩
    cases hp <;> simp_all [HandlerPc.critical, HandlerPc.holdsSignal]

end Protocol

end Perftools
