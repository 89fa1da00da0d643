import Perftools.Frequency

/-!
# The profile handler

`ProfileHandler` holds the fields of the class and the process state its operations touch: the
heap of tokens, the disposition of the signal and the suppression switch of the event source.
Each public operation is one step, translated from its body in `profile-handler.cc`; the
interleaving of their statements is in `Perftools.Interleaving`. A history of `Event`s is run
by `run`, which stops at the first fatal check.
-/

namespace Perftools

/-- The state of the `ProfileHandler` singleton. -/
structure ProfileHandler (σ : Type) where
  interrupts : ℤ
  frequency : ℤ
  callbackCount : ℤ
  callbacks : List ℕ
  tokens : TokenHeap
  disposition : Disposition
  eventsEnabled : Bool
  eventSource : σ

/-- The snapshot `GetState` fills in (`ProfileHandlerState`). -/
structure ProfileHandlerState where
  interrupts : ℤ
  frequency : ℤ
  callbackCount : ℤ
  deriving DecidableEq, Repr

/-- One call `callback(sig, sinfo, ucontext, ticks, callback_arg)`. -/
structure Invocation where
  callback : ℕ
  sig : ℕ
  info : ℕ
  ucontext : ℕ
  ticks : UInt32
  callbackArg : ℕ
  deriving DecidableEq, Repr

structure Delivery (σ : Type) where
  invocations : List Invocation
  errno : ℤ
  handler : ProfileHandler σ

/-- The public API called from a thread, and deliveries of the timer signal. -/
inductive Event
  | registerThread (t : ThreadId)
  | registerCallback (t : ThreadId) (callback callbackArg : ℕ)
  | unregisterCallback (t : ThreadId) (token : ℕ)
  | reset (t : ThreadId)
  | getState (t : ThreadId)
  | signal (sig info ucontext : ℕ) (errno : ℤ)
  deriving DecidableEq, Repr

namespace ProfileHandler

variable {σ : Type} (E : ProfileEventSource σ)

def caller (s : ProfileHandler σ) (t : ThreadId) : Caller := ⟨t, s.frequency⟩

/-- `EnableHandler()`: `EnableEvents()` and `sigaction(GetSignal(), SignalHandler)`. -/
def enableHandler (s : ProfileHandler σ) : ProfileHandler σ :=
  { s with eventsEnabled := true, disposition := .signalHandler }

/-- `DisableHandler()`: `DisableEvents()` and `sigaction(GetSignal(), SIG_IGN)`. -/
def disableHandler (s : ProfileHandler σ) : ProfileHandler σ :=
  { s with eventsEnabled := false, disposition := .sigIgn }

/-- The constructor; the signal had its default disposition before it. -/
def new (fr : Option (List Char)) (source : σ) : ProfileHandler σ :=
  disableHandler ⟨0, frequencyFromEnv fr, 0, [], TokenHeap.empty, .sigDfl, false, source⟩

def registerThread (t : ThreadId) (s : ProfileHandler σ) : ProfileHandler σ :=
  { s with eventSource := E.registerThread (s.caller t) s.callbackCount s.eventSource }

/-- `RegisterCallback(callback, callback_arg)` from thread `t`: the token and the handler. -/
def registerCallback (t : ThreadId) (callback callbackArg : ℕ) (s : ProfileHandler σ) :
    ℕ × ProfileHandler σ :=
  let alloc := s.tokens.new ⟨callback, callbackArg⟩
  let s := disableHandler { s with tokens := alloc.2 }
  let s := { s with callbacks := s.callbacks ++ [alloc.1] }
  let s := { s with callbackCount := toInt32 (s.callbackCount + 1) }
  let s := { s with eventSource := E.registeredCallback (s.caller t) s.callbackCount s.eventSource }
  (alloc.1, enableHandler s)

/-- The body of `UnregisterCallback` once it has found `token` and passed its count check. -/
def removeCallback (t : ThreadId) (token : ℕ) (s : ProfileHandler σ) : ProfileHandler σ :=
  let s := disableHandler s
  let s := { s with tokens := s.tokens.delete token, callbacks := s.callbacks.erase token }
  let s := { s with callbackCount := s.callbackCount - 1 }
  let s := if 0 < s.callbackCount then enableHandler s else s
  { s with eventSource := E.unregisteredCallback (s.caller t) s.callbackCount s.eventSource }

/-- `UnregisterCallback(token)`; the search stops at the first entry equal to `token`, the one
`erase` removes. -/
def unregisterCallback (t : ThreadId) (token : ℕ) (s : ProfileHandler σ) :
    Outcome (ProfileHandler σ) :=
  if token ∈ s.callbacks then
    if 0 < s.callbackCount then .ok (s.removeCallback E t token)
    else .fatal "Invalid callback count" s
  else .fatal "Invalid token" s

def reset (t : ThreadId) (s : ProfileHandler σ) : ProfileHandler σ :=
  let s := disableHandler s
  let s := { s with tokens := s.callbacks.foldl TokenHeap.delete s.tokens, callbacks := [] }
  let s := { s with callbackCount := 0 }
  { s with eventSource := E.reset (s.caller t) s.eventSource }

/-- `GetState(state)`: the snapshot and the handler after it. -/
def getState (s : ProfileHandler σ) : ProfileHandlerState × ProfileHandler σ :=
  let s := disableHandler s
  let interrupts := s.interrupts
  let s := if 0 < s.callbackCount then enableHandler s else s
  (⟨interrupts, s.frequency, s.callbackCount⟩, s)

def invocations (s : ProfileHandler σ) (sig info ucontext : ℕ) (ticks : UInt32) :
    List Invocation :=
  s.callbacks.filterMap fun p =>
    (s.tokens.cells p).map fun tok => ⟨tok.callback, sig, info, ucontext, ticks, tok.callbackArg⟩

/-- The part of `SignalHandler` that reads the ticks and increments `interrupts_`. -/
def tick (s : ProfileHandler σ) : UInt32 × ProfileHandler σ :=
  let read := E.getTicksSinceLastCall s.eventSource
  (read.1, { s with eventSource := read.2, interrupts := toInt64 (s.interrupts + 1) })

/-- `ProfileHandler::SignalHandler(sig, sinfo, ucontext)` entered with `errno`. -/
def signalHandler (sig info ucontext : ℕ) (errno : ℤ) (s : ProfileHandler σ) : Delivery σ :=
  let savedErrno := errno
  let s' := (s.tick E).2
  let ticks := (s.tick E).1
  ⟨if ticks ≠ 0 then s'.invocations sig info ucontext ticks else [], savedErrno, s'⟩

/-- One event; an ignored signal is discarded and one with its default action ends the process. -/
def step (s : ProfileHandler σ) : Event → Outcome (ProfileHandler σ)
  | .registerThread t => .ok (s.registerThread E t)
  | .registerCallback t callback callbackArg => .ok (s.registerCallback E t callback callbackArg).2
  | .unregisterCallback t token => s.unregisterCallback E t token
  | .reset t => .ok (s.reset E t)
  | .getState _ => .ok s.getState.2
  | .signal .. =>
    match s.disposition with
    | .signalHandler => .ok (s.tick E).2
    | .sigIgn => .ok s
    | .sigDfl => .fatal "SIG_DFL" s

def run (s : ProfileHandler σ) : List Event → Outcome (ProfileHandler σ)
  | [] => .ok s
  | e :: es => (s.step E e).bind fun s' => s'.run es

@[simp] theorem registerThread_eq (t : ThreadId) (s : ProfileHandler σ) :
    s.registerThread E t =
      { s with eventSource := E.registerThread (s.caller t) s.callbackCount s.eventSource } := rfl

@[simp] theorem registerCallback_eq (t : ThreadId) (callback callbackArg : ℕ) (s : ProfileHandler σ) :
    s.registerCallback E t callback callbackArg =
      (s.tokens.next, { s with
        tokens := (s.tokens.new ⟨callback, callbackArg⟩).2
        callbacks := s.callbacks ++ [s.tokens.next]
        callbackCount := toInt32 (s.callbackCount + 1)
        disposition := .signalHandler
        eventsEnabled := true
        eventSource := E.registeredCallback (s.caller t) (toInt32 (s.callbackCount + 1))
          s.eventSource }) := rfl

@[simp] theorem removeCallback_eq (t : ThreadId) (token : ℕ) (s : ProfileHandler σ) :
    s.removeCallback E t token =
      { s with
        tokens := s.tokens.delete token
        callbacks := s.callbacks.erase token
        callbackCount := s.callbackCount - 1
        disposition := if 0 < s.callbackCount - 1 then .signalHandler else .sigIgn
        eventsEnabled := decide (0 < s.callbackCount - 1)
        eventSource := E.unregisteredCallback (s.caller t) (s.callbackCount - 1) s.eventSource } := by
  by_cases hc : 0 < s.callbackCount - 1 <;>
    simp [removeCallback, enableHandler, disableHandler, caller, hc]

@[simp] theorem reset_eq (t : ThreadId) (s : ProfileHandler σ) :
    s.reset E t =
      { s with
        tokens := s.callbacks.foldl TokenHeap.delete s.tokens
        callbacks := []
        callbackCount := 0
        disposition := .sigIgn
        eventsEnabled := false
        eventSource := E.reset (s.caller t) s.eventSource } := rfl

@[simp] theorem getState_eq (s : ProfileHandler σ) :
    s.getState =
      (⟨s.interrupts, s.frequency, s.callbackCount⟩, { s with
        disposition := if 0 < s.callbackCount then .signalHandler else .sigIgn
        eventsEnabled := decide (0 < s.callbackCount) }) := by
  by_cases hc : 0 < s.callbackCount <;> simp [getState, enableHandler, disableHandler, hc]

@[simp] theorem tick_eq (s : ProfileHandler σ) :
    s.tick E = ((E.getTicksSinceLastCall s.eventSource).1, { s with
      eventSource := (E.getTicksSinceLastCall s.eventSource).2
      interrupts := toInt64 (s.interrupts + 1) }) := rfl

theorem unregisterCallback_eq_ok {t : ThreadId} {token : ℕ} {s s' : ProfileHandler σ}
    (h : s.unregisterCallback E t token = .ok s') :
    token ∈ s.callbacks ∧ 0 < s.callbackCount ∧ s' = s.removeCallback E t token := by
  unfold unregisterCallback at h
  split_ifs at h with h₁ h₂
  cases h
  exact ⟨h₁, h₂, rfl⟩

@[simp] theorem run_nil (s : ProfileHandler σ) : s.run E [] = .ok s := rfl

theorem run_cons (s : ProfileHandler σ) (e : Event) (es : List Event) :
    s.run E (e :: es) = (s.step E e).bind fun s' => s'.run E es := rfl

theorem run_append (s : ProfileHandler σ) (h₁ h₂ : List Event) :
    s.run E (h₁ ++ h₂) = (s.run E h₁).bind fun s' => s'.run E h₂ := by
  induction h₁ generalizing s with
  | nil => rfl
  | cons e h₁ ih =>
    rw [List.cons_append, run_cons, run_cons]
    cases s.step E e <;> simp [ih]

theorem run_append_singleton (s : ProfileHandler σ) (h : List Event) (e : Event) :
    s.run E (h ++ [e]) = (s.run E h).bind fun s' => s'.step E e := by
  rw [run_append]
  cases s.run E h <;> simp [run_cons]

theorem step_frequency {s s' : ProfileHandler σ} {e : Event} (hs : s.step E e = .ok s') :
    s'.frequency = s.frequency := by
  cases e with
  | unregisterCallback t p => obtain ⟨-, -, rfl⟩ := unregisterCallback_eq_ok E hs; simp
  | signal => simp only [step] at hs; split at hs <;> cases hs <;> rfl
  | _ => cases hs; simp

theorem run_frequency {s s' : ProfileHandler σ} {h : List Event} (hs : s.run E h = .ok s') :
    s'.frequency = s.frequency := by
  induction h generalizing s with
  | nil => cases hs; rfl
  | cons e h ih =>
    obtain ⟨s₁, h₁, h₂⟩ := Outcome.bind_eq_ok.mp hs
    exact (ih h₂).trans (step_frequency E h₁)

end ProfileHandler

end Perftools
