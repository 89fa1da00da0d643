import Perftools.Consistency

/-!
# The event source sees the operations one at a time

The hooks `RegisterThread`, `RegisteredCallback`, `UnregisteredCallback` and `Reset` of the
event source run under `control_lock_`, each with the count its operation left. Only
`SignalHandler` calls the source without the lock, through `GetTicksSinceLastCall`; when that
call leaves the source as it is, as for the interval timer source, the registry and the source
together are a part that `control_lock_` guards (`sourceGuard_sound`).
-/

namespace Perftools

section

variable {σ : Type} (E : ProfileEventSource σ)

/-- `GetTicksSinceLastCall` leaves the state of the source as it is. -/
def ProfileEventSource.TicksReadOnly : Prop := ∀ s, (E.getTicksSinceLastCall s).2 = s

/-- What a statement does to the event source, for the calling thread `c`, over the registry `r`. -/
def Stmt.onSource (c : Caller) (r : Registry) : Stmt → σ → σ
  | .registerThread => E.registerThread c r.callbackCount
  | .registeredCallback => E.registeredCallback c r.callbackCount
  | .unregisteredCallback => E.unregisteredCallback c r.callbackCount
  | .resetSource => E.reset c
  | .newToken | .lockControl | .unlockControl | .disableHandler | .enableHandler
  | .enableIfCallbacks | .lockSignal | .unlockSignal | .pushBack | .incrementCount | .findToken
  | .checkCount | .deleteToken | .eraseToken | .decrementCount | .clearCallbacks | .zeroCount
  | .readInterrupts | .readState => id

/-- The hook each operation calls on the source, with the count `n` it passes. -/
def OpKind.hook (c : Caller) (n : ℤ) : OpKind → σ → σ
  | .registerThread => E.registerThread c n
  | .registerCallback => E.registeredCallback c n
  | .unregisterCallback => E.unregisteredCallback c n
  | .reset => E.reset c
  | .getState => id

/-- What operation `k` does to the registry, then to the source with the count it leaves. -/
def OpKind.run (c : Caller) (τ : ℕ) (k : OpKind) (g : Registry × σ) : Option (Registry × σ) :=
  (k.apply τ g.1).map fun r => (r, k.hook E c r.callbackCount g.2)

def sourceGuard : Guard σ (Registry × σ) where
  view h := (h.registry, h.eventSource)
  stmt c τ s g := (s.onRegistry τ g.1).map fun r => (r, s.onSource E c g.1 g.2)
  op c τ k g := k.run E c τ g
  cleared g := ({ g.1 with callbacks := [] }, g.2)

theorem Stmt.effect_source {s : Stmt} {t : ThreadId} {h h' : ProfileHandler σ} {l l' : Locals}
    (he : s.effect E t (h, l) = .ok (h', l')) :
    h'.eventSource = s.onSource E (h.caller t) h.registry h.eventSource := by
  cases s <;> simp only [Stmt.effect] at he <;> (try split_ifs at he) <;> cases he <;> rfl

theorem OpKind.program_onGuarded (c : Caller) (τ : ℕ) (k : OpKind) (r : Registry) (src : σ) :
    k.program.foldlM (fun g s => (sourceGuard E).stmt c τ s g) (r, src) =
      k.run E c τ (r, src) := by
  cases k
  -- the operations without a branch compute to the same pair
  case registerThread | registerCallback | reset => rfl
  all_goals simp only [sourceGuard, OpKind.program, List.foldlM_cons, List.foldlM_nil,
    Stmt.onRegistry, Stmt.onSource, Option.map_some', Option.bind_eq_bind, Option.some_bind,
    OpKind.run, OpKind.apply, OpKind.hook, id]
  case unregisterCallback =>
    by_cases h₁ : τ ∈ r.callbacks
    · by_cases h₂ : 0 < r.callbackCount
      · by_cases h₃ : 0 < r.callbackCount - 1 <;> simp only [h₁, h₂, h₃, and_self, ↓reduceIte,
          Option.map_some', Option.some_bind, decide_True, decide_False] <;> rfl
      · simp only [h₁, h₂, and_false, ↓reduceIte, Option.map_some', Option.map_none',
          Option.some_bind, Option.none_bind]
    · simp only [h₁, false_and, ↓reduceIte, Option.map_none', Option.none_bind]
  case getState =>
    by_cases h : 0 < r.callbackCount <;>
      simp only [h, ↓reduceIte, decide_True, decide_False, Option.map_some'] <;> rfl

variable {E}

theorem sourceGuard_sound (hE : E.TicksReadOnly) : (sourceGuard E).Sound E where
  effect he := by
    dsimp only [sourceGuard]
    rw [Stmt.effect_registry E he, Option.map_some', Stmt.effect_source E he]
  skip _ _ _ s hs := by
    simp only [Stmt.skipped, List.mem_cons, List.mem_nil_iff, or_false] at hs
    rcases hs with rfl | rfl | rfl | rfl | rfl <;> rfl
  clear _ _ _ := rfl
  round _ _ _ := rfl
  exit h hL := by simp only [sourceGuard, ProfileHandler.registry, hL]
  ticks h := by
    show (h.registry, (E.getTicksSinceLastCall h.eventSource).2) = (h.registry, h.eventSource)
    rw [hE]
  interrupts _ _ := rfl
  program c τ k g := OpKind.program_onGuarded E c τ k g.1 g.2

end

theorem timerSource_ticksReadOnly : timerSource.TicksReadOnly := fun _ => rfl

/-- Under every interleaving, over a source whose tick read leaves it, the registry and source are
the replay in lock order. -/
theorem handler_source_linearizable {σ : Type} (E : ProfileEventSource σ)
    (hE : E.TicksReadOnly) (fr : Option (List Char)) (source : σ) (c : Config σ)
    (H : List (OpKind × ℕ × ThreadId)) (hc : Config.Trace E (Config.init fr source) c H)
    (hfree : c.controlLock = none) :
    (sourceGuard E).replay (frequencyFromEnv fr) ((ProfileHandler.new fr source).registry, source) H =
      some (c.handler.registry, c.handler.eventSource) :=
  (sourceGuard_sound hE).linearizable hc hfree

theorem threads_registered_in_lock_order :
    let c₀ := Config.init none (TimerProfileEventSource.init (.disarmed .perThread))
    let as := [Action.call 1 .registerThread, .call 2 .registerThread, .mutate 2, .mutate 2,
      .mutate 2, .mutate 2, .mutate 1, .mutate 1, .mutate 1, .mutate 1]
    let c := (c₀.runActions timerSource as).getD c₀
    let H := c₀.traceOf timerSource as
    c₀.runActions timerSource as = some c ∧ c.controlLock = none ∧
      H = [(.registerThread, 0, 2), (.registerThread, 0, 1)] ∧
      c.handler.eventSource.timerSharing = .separate ∧
      (sourceGuard timerSource).replay (frequencyFromEnv none)
        ((ProfileHandler.new none (TimerProfileEventSource.init (.disarmed .perThread))).registry,
          TimerProfileEventSource.init (.disarmed .perThread)) H =
        some (c.handler.registry, c.handler.eventSource) := by
  intro c₀ as c H
  have hrun : c₀.runActions timerSource as = some c := rfl
  have ht := Config.Trace.refl.runActions hrun
  rw [List.nil_append] at ht
  exact ⟨hrun, by decide, by decide, by decide, handler_source_linearizable timerSource
    timerSource_ticksReadOnly none _ c H ht (by decide)⟩

/-! ## The sequential model takes the same steps -/

/-- The operation an event calls, with its token and thread; `none` for a delivery of the signal. -/
def Event.call {σ : Type} (s : ProfileHandler σ) : Event → Option (OpKind × ℕ × ThreadId)
  | .registerThread t => some (.registerThread, 0, t)
  | .registerCallback t .. => some (.registerCallback, s.tokens.next, t)
  | .unregisterCallback t token => some (.unregisterCallback, token, t)
  | .reset t => some (.reset, 0, t)
  | .getState t => some (.getState, 0, t)
  | .signal .. => none

def Outcome.guarded {σ : Type} : Outcome (ProfileHandler σ) → Option (Registry × σ)
  | .ok s => some (s.registry, s.eventSource)
  | .fatal .. => none

theorem ProfileHandler.step_guarded {σ : Type} {E : ProfileEventSource σ} (hE : E.TicksReadOnly)
    (s : ProfileHandler σ) (e : Event) :
    (s.step E e).guarded = match e.call s with
      | some (k, τ, t) => k.run E (s.caller t) τ (s.registry, s.eventSource)
      | none => if s.disposition = .sigDfl then none else some (s.registry, s.eventSource) := by
  cases e with
  | unregisterCallback t token =>
    simp only [step, unregisterCallback, Event.call, OpKind.run, OpKind.apply, registry]
    by_cases h₁ : token ∈ s.callbacks <;> by_cases h₂ : 0 < s.callbackCount <;>
      simp [h₁, h₂, Outcome.guarded, registry, OpKind.hook, caller]
  | signal sig info ucontext errno =>
    simp only [step, Event.call]
    cases s.disposition <;> simp [Outcome.guarded, registry, hE s.eventSource]
  | getState t =>
    simp only [step, getState_eq, Event.call, OpKind.run, OpKind.apply, Outcome.guarded, registry,
      Option.map_some', OpKind.hook, id]
  | _ => rfl

end Perftools
