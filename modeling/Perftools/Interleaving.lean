import Perftools.Handler
import Perftools.Protocol

/-!
# Every interleaving of the operations and the signal

A configuration holds the handler, the two spin locks, where each thread is in its operation
with its locals, and where `SignalHandler` is on each thread it interrupted. `Config.step` takes
one action: a call, a statement or return, a delivery of the signal, or a step of
`SignalHandler`. Every step is a move of the locks (`Config.step_protocol`), so every reachable
configuration keeps `Protocol.Inv`.
-/

namespace Perftools

/-- The locals of a thread's operation: the arguments, the token and the snapshot of `GetState`. -/
structure Locals where
  callback : ℕ
  callbackArg : ℕ
  token : ℕ
  state : ProfileHandlerState

def Locals.empty : Locals := ⟨0, 0, 0, ⟨0, 0, 0⟩⟩

/-- A call of a public operation with its arguments. -/
inductive Op
  | registerThread
  | registerCallback (callback callbackArg : ℕ)
  | unregisterCallback (token : ℕ)
  | reset
  | getState
  deriving DecidableEq, Repr

namespace Op

def kind : Op → OpKind
  | .registerThread => .registerThread
  | .registerCallback .. => .registerCallback
  | .unregisterCallback _ => .unregisterCallback
  | .reset => .reset
  | .getState => .getState

def locals : Op → Locals
  | .registerCallback callback callbackArg =>
    { Locals.empty with callback := callback, callbackArg := callbackArg }
  | .unregisterCallback token => { Locals.empty with token := token }
  | _ => Locals.empty

end Op

/-- A configuration of the process. -/
structure Config (σ : Type) where
  handler : ProfileHandler σ
  controlLock : Option ThreadId
  signalLock : Option Holder
  threads : ThreadId → Option (OpKind × ℕ)
  locals : ThreadId → Locals
  handlers : ThreadId → Option HandlerPc
  ticks : ThreadId → UInt32
  halted : Option String

inductive Action
  | call (t : ThreadId) (op : Op)
  | mutate (t : ThreadId)
  | deliver (t : ThreadId)
  | handle (t : ThreadId)
  deriving DecidableEq, Repr

namespace Config

variable {σ : Type} (E : ProfileEventSource σ)

/-- The process once the constructor has run: no thread in the profiler. -/
def init (fr : Option (List Char)) (source : σ) : Config σ :=
  ⟨ProfileHandler.new fr source, none, none, fun _ => none, fun _ => Locals.empty,
    fun _ => none, fun _ => 0, none⟩

def protocol (c : Config σ) : Protocol :=
  ⟨c.controlLock, c.signalLock, c.handler.disposition, c.threads, c.handlers⟩

def goto (c : Config σ) (t : ThreadId) (k : OpKind) (pc : ℕ) : Config σ :=
  { c with threads := Function.update c.threads t (some (k, pc)) }

end Config

namespace Stmt

variable {σ : Type} (E : ProfileEventSource σ)

/-- What statement `s` does on thread `t` to the handler and its locals; `fatal` ends the process. -/
def effect (t : ThreadId) : Stmt → ProfileHandler σ × Locals → Outcome (ProfileHandler σ × Locals)
  | .newToken, (h, l) =>
    let alloc := h.tokens.new ⟨l.callback, l.callbackArg⟩
    .ok ({ h with tokens := alloc.2 }, { l with token := alloc.1 })
  | .disableHandler, (h, l) => .ok (h.disableHandler, l)
  | .enableHandler, (h, l) => .ok (h.enableHandler, l)
  | .enableIfCallbacks, (h, l) => .ok (if 0 < h.callbackCount then h.enableHandler else h, l)
  | .registerThread, (h, l) => .ok (h.registerThread E t, l)
  | .pushBack, (h, l) => .ok ({ h with callbacks := h.callbacks ++ [l.token] }, l)
  | .incrementCount, (h, l) => .ok ({ h with callbackCount := toInt32 (h.callbackCount + 1) }, l)
  | .registeredCallback, (h, l) =>
    .ok ({ h with eventSource := E.registeredCallback (h.caller t) h.callbackCount h.eventSource }, l)
  | .findToken, (h, l) =>
    if l.token ∈ h.callbacks then .ok (h, l) else .fatal "Invalid token" (h, l)
  | .checkCount, (h, l) =>
    if 0 < h.callbackCount then .ok (h, l) else .fatal "Invalid callback count" (h, l)
  | .deleteToken, (h, l) => .ok ({ h with tokens := h.tokens.delete l.token }, l)
  | .eraseToken, (h, l) => .ok ({ h with callbacks := h.callbacks.erase l.token }, l)
  | .decrementCount, (h, l) => .ok ({ h with callbackCount := h.callbackCount - 1 }, l)
  | .unregisteredCallback, (h, l) =>
    .ok ({ h with
      eventSource := E.unregisteredCallback (h.caller t) h.callbackCount h.eventSource }, l)
  | .clearCallbacks, (h, l) =>
    .ok ({ h with tokens := h.callbacks.foldl TokenHeap.delete h.tokens, callbacks := [] }, l)
  | .zeroCount, (h, l) => .ok ({ h with callbackCount := 0 }, l)
  | .resetSource, (h, l) => .ok ({ h with eventSource := E.reset (h.caller t) h.eventSource }, l)
  | .readInterrupts, (h, l) => .ok (h, { l with state := { l.state with interrupts := h.interrupts } })
  | .readState, (h, l) =>
    .ok (h, { l with state := { l.state with
      frequency := h.frequency, callbackCount := h.callbackCount } })
  | .lockControl, x | .unlockControl, x | .lockSignal, x | .unlockSignal, x => .ok x

theorem effect_disposition {t : ThreadId} {s : Stmt} {x y : ProfileHandler σ × Locals}
    (h : s.effect E t x = .ok y) : s.DispositionAfter x.1.disposition y.1.disposition := by
  obtain ⟨h₀, l⟩ := x
  cases s <;> simp only [effect] at h <;> (try split_ifs at h) <;> cases h <;>
    simp [DispositionAfter, ProfileHandler.disableHandler, ProfileHandler.enableHandler]

end Stmt

namespace Config

variable {σ : Type} (E : ProfileEventSource σ)

/-- Thread `t` runs statement `s` at position `pc` of `k`; `none` when it spins on a lock. -/
def exec (c : Config σ) (t : ThreadId) (k : OpKind) (pc : ℕ) : Stmt → Option (Config σ)
  | .lockControl =>
    if c.controlLock = none then some { c.goto t k (pc + 1) with controlLock := some t }
    else none
  | .unlockControl => some { c.goto t k (pc + 1) with controlLock := none }
  | .lockSignal =>
    if c.signalLock = none then some { c.goto t k (pc + 1) with signalLock := some (.mutator t) }
    else none
  | .unlockSignal => some { c.goto t k (pc + 1) with signalLock := none }
  | .clearCallbacks =>
    match c.handler.callbacks with
    | [] => some (c.goto t k (pc + 1))
    | p :: rest =>
      some { c.goto t k pc with
        handler := { c.handler with tokens := c.handler.tokens.delete p, callbacks := rest } }
  | s =>
    match s.effect E t (c.handler, c.locals t) with
    | .ok (h, l) =>
      some { c.goto t k (pc + 1) with handler := h, locals := Function.update c.locals t l }
    | .fatal msg _ => some { c with halted := some msg }

def mutate (c : Config σ) (t : ThreadId) (k : OpKind) (pc : ℕ) : Option (Config σ) :=
  match k.program[pc]? with
  | some s => c.exec E t k pc s
  | none => some { c with threads := Function.update c.threads t none }

/-- `SignalHandler` on thread `t` takes a step from `hp`; `none` when it spins. -/
def handle (c : Config σ) (t : ThreadId) : HandlerPc → Option (Config σ)
  | .lockSignal =>
    if c.signalLock = none then
      some { c with
        signalLock := some (.handler t)
        handlers := Function.update c.handlers t (some .getTicks) }
    else none
  | .getTicks =>
    let read := E.getTicksSinceLastCall c.handler.eventSource
    some { c with
      handler := { c.handler with eventSource := read.2 }
      ticks := Function.update c.ticks t read.1
      handlers := Function.update c.handlers t (some .increment) }
  | .increment =>
    some { c with
      handler := { c.handler with interrupts := toInt64 (c.handler.interrupts + 1) }
      handlers := Function.update c.handlers t
        (some (if c.ticks t ≠ 0 then .walk 0 else .unlockSignal)) }
  | .walk i =>
    some { c with
      handlers := Function.update c.handlers t
        (some (if i < c.handler.callbacks.length then .walk (i + 1) else .unlockSignal)) }
  | .unlockSignal =>
    some { c with
      signalLock := none
      handlers := Function.update c.handlers t (some .restoreErrno) }
  | .restoreErrno => some { c with handlers := Function.update c.handlers t none }

/-- One action; `none` when it cannot happen now. -/
def step (c : Config σ) : Action → Option (Config σ)
  | .call t op =>
    if c.halted = none ∧ c.threads t = none ∧ c.handlers t = none then
      some { c with
        threads := Function.update c.threads t (some (op.kind, 0))
        locals := Function.update c.locals t op.locals }
    else none
  | .mutate t =>
    match c.halted, c.threads t, c.handlers t with
    | none, some (k, pc), none => c.mutate E t k pc
    | _, _, _ => none
  | .deliver t =>
    match c.halted, c.handlers t, c.handler.disposition with
    | none, none, .signalHandler =>
      some { c with handlers := Function.update c.handlers t (some .lockSignal) }
    | none, none, .sigDfl => some { c with halted := some "SIG_DFL" }
    | _, _, _ => none
  | .handle t =>
    match c.halted, c.handlers t with
    | none, some hp => c.handle E t hp
    | _, _ => none

inductive Reachable (c₀ : Config σ) : Config σ → Prop
  | refl : Reachable c₀ c₀
  | step {c c' : Config σ} (a : Action) : Reachable c₀ c → c.step E a = some c' → Reachable c₀ c'

def runActions (c : Config σ) : List Action → Option (Config σ)
  | [] => some c
  | a :: as => (c.step E a).bind fun c' => c'.runActions as

theorem Reachable.runActions {c₀ c c' : Config σ} (hc : Reachable E c₀ c) {as : List Action}
    (h : c.runActions E as = some c') : Reachable E c₀ c' := by
  induction as generalizing c with
  | nil => cases h; exact hc
  | cons a as ih =>
    obtain ⟨c₁, h₁, h₂⟩ := Option.bind_eq_some.mp h
    exact ih (hc.step a h₁) h₂

variable {E} {c c' : Config σ} {t : ThreadId}

theorem exec_plain {k : OpKind} {pc : ℕ} {s : Stmt}
    (hs : s ∉ [.lockControl, .unlockControl, .lockSignal, .unlockSignal, .clearCallbacks]) :
    c.exec E t k pc s = match s.effect E t (c.handler, c.locals t) with
      | .ok (h, l) =>
        some { c.goto t k (pc + 1) with handler := h, locals := Function.update c.locals t l }
      | .fatal msg _ => some { c with halted := some msg } := by
  cases s <;> first | rfl | exact absurd (by decide) hs

theorem exec_protocol {k : OpKind} {pc : ℕ} {s : Stmt} (hth : c.threads t = some (k, pc))
    (hhd : c.handlers t = none) (hs : k.program[pc]? = some s) (he : c.exec E t k pc s = some c') :
    Protocol.Step c.protocol c'.protocol ∨ c'.protocol = c.protocol := by
  by_cases hp : s ∈ [.lockControl, .unlockControl, .lockSignal, .unlockSignal, .clearCallbacks]
  · simp only [List.mem_cons, List.mem_nil_iff, or_false] at hp
    rcases hp with rfl | rfl | rfl | rfl | rfl <;> simp only [exec] at he
    · split at he
      · cases he
        exact .inl (.exec hth hhd hs (by simp [Stmt.controlAfter, protocol, *]) rfl rfl (.inl rfl))
      · cases he
    · cases he; exact .inl (.exec hth hhd hs rfl rfl rfl (.inl rfl))
    · split at he
      · cases he
        exact .inl (.exec hth hhd hs rfl (by simp [Stmt.signalAfter, protocol, *]) rfl (.inl rfl))
      · cases he
    · cases he; exact .inl (.exec hth hhd hs rfl rfl rfl (.inl rfl))
    · split at he <;> cases he
      · exact .inl (.exec hth hhd hs rfl rfl rfl (.inl rfl))
      · exact .inl (.exec hth hhd hs rfl rfl rfl (.inr ⟨rfl, rfl⟩))
  rw [exec_plain hp] at he
  split at he <;> cases he
  · exact .inl (.exec hth hhd hs (Stmt.controlAfter_of_not_mem hp)
      (Stmt.signalAfter_of_not_mem hp) (Stmt.effect_disposition E ‹_›) (.inl rfl))
  · exact .inr rfl

theorem handle_protocol {hp : HandlerPc} (hhd : c.handlers t = some hp)
    (he : c.handle E t hp = some c') : Protocol.Step c.protocol c'.protocol := by
  cases hp <;> simp only [handle] at he
  case lockSignal =>
    split at he
    · cases he; exact .handle hhd (by simp [HandlerPc.signalAfter, protocol, *]) rfl
    · cases he
  case increment =>
    cases he
    refine .handle hhd rfl ?_
    show _ ∨ _
    split
    · exact .inl rfl
    · exact .inr rfl
  case walk i =>
    cases he
    refine .handle hhd rfl ?_
    show _ ∨ _
    split
    · exact .inl rfl
    · exact .inr rfl
  all_goals cases he; exact .handle hhd rfl rfl

theorem step_protocol {a : Action} (hs : c.step E a = some c') :
    Protocol.Step c.protocol c'.protocol ∨ c'.protocol = c.protocol := by
  cases a with
  | call t op =>
    simp only [step] at hs
    split_ifs at hs with h
    cases hs
    exact .inl (.call op.kind h.2.1 h.2.2)
  | mutate t =>
    simp only [step] at hs
    split at hs
    · rename_i k pc _ hth hhd
      simp only [mutate] at hs
      split at hs
      · exact exec_protocol hth hhd ‹_› hs
      · cases hs; exact .inl (.finish hth hhd ‹_›)
    · cases hs
  | deliver t =>
    simp only [step] at hs
    split at hs
    · cases hs; exact .inl (.deliver ‹_› ‹_›)
    · cases hs; exact .inr rfl
    · cases hs
  | handle t =>
    simp only [step] at hs
    split at hs
    · exact .inl (handle_protocol ‹_› hs)
    · cases hs

theorem init_inv (fr : Option (List Char)) (source : σ) : (init fr source).protocol.Inv where
  control t := by simp [init, protocol, Protocol.controlHeld]
  signal h := by cases h <;> simp [init, protocol, Protocol.signalHeld]
  masked t h := by simp [init, protocol, Protocol.maskedBy] at h
  noSelf t h := by simp [init, protocol] at h
  noDfl := by simp [init, protocol, ProfileHandler.new, ProfileHandler.disableHandler]

theorem Reachable.inv {fr : Option (List Char)} {source : σ}
    (hc : Reachable E (init fr source) c) : c.protocol.Inv := by
  induction hc with
  | refl => exact init_inv fr source
  | step a _ hs ih =>
    rcases step_protocol hs with h | h
    · exact ih.step h
    · rwa [h]

end Config

/-- Under every interleaving, no thread runs `SignalHandler` while its own code holds
`signal_lock_`, and the walk never overlaps a write. -/
theorem signal_protocol_safe {σ : Type} (E : ProfileEventSource σ) (fr : Option (List Char))
    (source : σ) (c : Config σ) (hc : Config.Reachable E (Config.init fr source) c) :
    (∀ t, c.handlers t ≠ none → c.signalLock ≠ some (.mutator t)) ∧
    (∀ t, c.signalLock = some (.mutator t) →
      c.controlLock = some t ∧ c.handler.disposition = .sigIgn) ∧
    (∀ h h', c.protocol.critical h = true → c.protocol.critical h' = true → h = h') := by
  have hi := hc.inv
  refine ⟨hi.noSelf, fun t ht => ?_, fun h h' hh hh' => ?_⟩
  · have hheld := (hi.signal _).1 ht
    simp only [Protocol.signalHeld, Protocol.any_eq_true] at hheld
    obtain ⟨x, hx, hsig⟩ := hheld
    have hm : c.protocol.maskedBy t = true := by
      simp [Protocol.maskedBy, hx, OpKind.masked_of_holdsSignal hsig]
    exact ⟨hi.maskedBy_controlHeld hm, hi.masked t hm⟩
  · exact Option.some_injective _ ((hi.critical_holds hh).symm.trans (hi.critical_holds hh'))

theorem protocol_with_handler_walking :
    let c₀ := Config.init none (TimerProfileEventSource.init (.disarmed .perThread))
    let as := [Action.call 1 (.registerCallback 10 11), .mutate 1, .mutate 1, .mutate 1,
      .mutate 1, .mutate 1, .mutate 1, .mutate 1, .mutate 1, .mutate 1, .mutate 1, .mutate 1,
      .deliver 2, .handle 2, .handle 2, .handle 2, .call 1 .getState, .mutate 1, .mutate 1]
    let c := (c₀.runActions timerSource as).getD c₀
    c₀.runActions timerSource as = some c ∧ c.protocol.critical (.handler 2) = true ∧
      c.handler.disposition = .sigIgn ∧ c.signalLock ≠ some (.mutator 2) := by
  intro c₀ as c
  have hrun : c₀.runActions timerSource as = some c := rfl
  exact ⟨hrun, by decide, by decide, (signal_protocol_safe timerSource none _ c
    (Config.Reachable.refl.runActions timerSource hrun)).1 2 (by decide)⟩

end Perftools
