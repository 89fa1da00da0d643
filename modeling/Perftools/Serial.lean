import Perftools.Interleaving

/-!
# Operations that do not overlap

When operations and deliveries do not overlap, the interleaving model computes what the
sequential model computes. A thread running alone performs the effects of its statements one
after another (`Config.runs_alone`), and the statements of each operation compose to the
operation of the sequential model (`Stmt.runAll_program`); a delivery handled alone runs
`SignalHandler` to its end (`Config.deliver_alone`).
-/

namespace Perftools

def Outcome.fst {α β : Type} : Outcome (α × β) → Outcome α
  | .ok x => .ok x.1
  | .fatal msg x => .fatal msg x.1

/-- The event of the sequential model for a call of `op` on thread `t`. -/
def Op.event (op : Op) (t : ThreadId) : Event :=
  match op with
  | .registerThread => .registerThread t
  | .registerCallback callback callbackArg => .registerCallback t callback callbackArg
  | .unregisterCallback token => .unregisterCallback t token
  | .reset => .reset t
  | .getState => .getState t

namespace Stmt

variable {σ : Type} (E : ProfileEventSource σ)

/-- Statements run one after another on thread `t`. -/
def runAll (t : ThreadId) : List Stmt → ProfileHandler σ × Locals →
    Outcome (ProfileHandler σ × Locals)
  | [], x => .ok x
  | s :: ss, x => (s.effect E t x).bind (runAll t ss)

theorem runAll_program (h : ProfileHandler σ) (t : ThreadId) (op : Op) :
    (runAll E t op.kind.program (h, op.locals)).fst = h.step E (op.event t) := by
  cases op with
  | unregisterCallback token =>
    simp only [runAll, effect, Op.kind, OpKind.program, Op.locals, Op.event, ProfileHandler.step,
      ProfileHandler.unregisterCallback]
    by_cases hm : token ∈ h.callbacks
    · by_cases hc : 0 < h.callbackCount
      · simp [hm, hc, Locals.empty, Outcome.fst, Outcome.bind, ProfileHandler.removeCallback]
      · simp [hm, hc, Locals.empty, Outcome.fst, Outcome.bind]
    · simp [hm, Locals.empty, Outcome.fst, Outcome.bind]
  | _ => rfl

theorem effect_fatal {t : ThreadId} {s : Stmt} {x y : ProfileHandler σ × Locals} {msg : String}
    (h : s.effect E t x = .fatal msg y) : (s = .findToken ∨ s = .checkCount) ∧ y = x := by
  obtain ⟨h₀, l⟩ := x
  cases s <;> simp only [effect] at h <;> (try split_ifs at h) <;> cases h <;> simp

end Stmt

namespace Config

variable {σ : Type} (E : ProfileEventSource σ) {c c₁ c' : Config σ} {t : ThreadId} {k : OpKind}
  {pc : ℕ}

def outcome (c : Config σ) : Outcome (ProfileHandler σ) :=
  match c.halted with
  | none => .ok c.handler
  | some msg => .fatal msg c.handler

/-- The process runs, no lock is held and no thread is in the profiler. -/
structure Quiet (c : Config σ) : Prop where
  halted : c.halted = none
  control : c.controlLock = none
  signal : c.signalLock = none
  threads : ∀ t, c.threads t = none
  handlers : ∀ t, c.handlers t = none

structure At (c : Config σ) (t : ThreadId) (k : OpKind) (pc : ℕ) : Prop where
  halted : c.halted = none
  thread : c.threads t = some (k, pc)
  handler : c.handlers t = none
  control : c.controlLock = if k.holdsControl pc then some t else none
  signal : c.signalLock = if k.holdsSignal pc then some (.mutator t) else none

/-- Where thread `t` ends from `c` when its statements give `o`: out of the profiler, or stopped. -/
def EndsAs (c c' : Config σ) (t : ThreadId) : Outcome (ProfileHandler σ × Locals) → Prop
  | .ok (h, _) => c'.halted = none ∧ c'.handler = h ∧ c'.controlLock = none ∧
      c'.signalLock = none ∧ c'.threads = Function.update c.threads t none ∧
      c'.handlers = c.handlers
  | .fatal msg (h, _) => c'.halted = some msg ∧ c'.handler = h

theorem EndsAs.frame {x : Option (OpKind × ℕ)} {o : Outcome (ProfileHandler σ × Locals)}
    (he : EndsAs c₁ c' t o) (hth : c₁.threads = Function.update c.threads t x)
    (hhd : c₁.handlers = c.handlers) : EndsAs c c' t o :=
  match o, he with
  | .ok (_, _), ⟨h₁, h₂, h₃, h₄, h₅, h₆⟩ =>
    ⟨h₁, h₂, h₃, h₄, by rw [h₅, hth, Function.update_idem], h₆.trans hhd⟩
  | .fatal _ (_, _), he => he

theorem EndsAs.outcome {o : Outcome (ProfileHandler σ × Locals)} (he : EndsAs c c' t o) :
    c'.outcome = o.fst :=
  match o, he with
  | .ok (_, _), ⟨h₁, h₂, _⟩ => by simp [Config.outcome, h₁, h₂, Outcome.fst]
  | .fatal _ (_, _), ⟨h₁, h₂⟩ => by simp [Config.outcome, h₁, h₂, Outcome.fst]

theorem EndsAs.quiet {o : Outcome (ProfileHandler σ × Locals)} (he : EndsAs c c' t o)
    (hth : ∀ u, u ≠ t → c.threads u = none) (hhd : ∀ u, c.handlers u = none)
    (hh : c'.halted = none) : c'.Quiet :=
  match o, he with
  | .ok (_, _), ⟨h₁, _, h₃, h₄, h₅, h₆⟩ => by
    refine ⟨h₁, h₃, h₄, fun u => ?_, by rw [h₆]; exact hhd⟩
    rw [h₅]
    by_cases hu : u = t
    · subst hu; simp
    · simp [hu, hth u hu]
  | .fatal _ (_, _), ⟨h₁, _⟩ => absurd (h₁.symm.trans hh) nofun

theorem runActions_append (c : Config σ) (as bs : List Action) :
    c.runActions E (as ++ bs) = (c.runActions E as).bind fun c' => c'.runActions E bs := by
  induction as generalizing c with
  | nil => rfl
  | cons a as ih =>
    simp only [List.cons_append, runActions]
    cases c.step E a <;> simp [ih]

theorem runActions_mutate (hh : c.halted = none) (hth : c.threads t = some (k, pc))
    (hhd : c.handlers t = none) (as : List Action) :
    c.runActions E (.mutate t :: as) = (c.mutate E t k pc).bind fun c' => c'.runActions E as := by
  simp [runActions, step, hh, hth, hhd]

theorem runActions_handle {hp : HandlerPc} (hh : c.halted = none)
    (hhd : c.handlers t = some hp) (as : List Action) :
    c.runActions E (.handle t :: as) = (c.handle E t hp).bind fun c' => c'.runActions E as := by
  simp [runActions, step, hh, hhd]

theorem with_callbacks_nil {h : ProfileHandler σ} (hc : h.callbacks = []) :
    { h with tokens := h.tokens, callbacks := [] } = h := by
  cases h; simp_all

theorem clear_rounds (hs : k.program[pc]? = some .clearCallbacks) :
    ∀ (L : List ℕ) (c : Config σ), c.handler.callbacks = L → c.halted = none →
      c.threads t = some (k, pc) → c.handlers t = none →
      c.runActions E (List.replicate (L.length + 1) (.mutate t)) =
        some { c with
          threads := Function.update c.threads t (some (k, pc + 1))
          handler := { c.handler with
            tokens := L.foldl TokenHeap.delete c.handler.tokens, callbacks := [] } } := by
  intro L
  induction L with
  | nil =>
    intro c hL hh hth hhd
    rw [List.length_nil, List.replicate_succ, runActions_mutate E hh hth hhd]
    simp [mutate, hs, exec, hL, goto, runActions, with_callbacks_nil hL]
  | cons p L ih =>
    intro c hL hh hth hhd
    rw [List.length_cons, List.replicate_succ, runActions_mutate E hh hth hhd]
    simp only [mutate, hs, exec, hL, Option.some_bind]
    refine (ih _ ?_ ?_ ?_ ?_).trans ?_
    · rfl
    · exact hh
    · simp [goto]
    · simpa [goto] using hhd
    · simp [goto]

theorem runActions_one {s : Stmt} (hs : k.program[pc]? = some s) (hc : c.At t k pc) :
    c.runActions E (List.replicate 1 (.mutate t)) = c.exec E t k pc s := by
  rw [List.replicate_one, runActions_mutate E hc.halted hc.thread hc.handler]
  simp [mutate, hs, runActions]

theorem stmt_plain {s : Stmt} {h : ProfileHandler σ} {l : Locals}
    (hs : k.program[pc]? = some s) (hc : c.At t k pc)
    (hx : c.exec E t k pc s =
      some { c.goto t k (pc + 1) with handler := h, locals := Function.update c.locals t l })
    (h₁ : s.setsControl (k.holdsControl pc) = k.holdsControl pc)
    (h₂ : s.setsSignal (k.holdsSignal pc) = k.holdsSignal pc) :
    ∃ m c₁, c.runActions E (List.replicate m (.mutate t)) = some c₁ ∧ c₁.At t k (pc + 1) ∧
      c₁.handler = h ∧ c₁.locals t = l ∧
      c₁.threads = Function.update c.threads t (some (k, pc + 1)) ∧ c₁.handlers = c.handlers :=
  ⟨1, _, (runActions_one E hs hc).trans hx,
    ⟨hc.halted, Function.update_same _ _ _, hc.handler,
      by rw [OpKind.holdsControl_after hs (Or.inl rfl), h₁]; exact hc.control,
      by rw [OpKind.holdsSignal_after hs (Or.inl rfl), h₂]; exact hc.signal⟩,
    rfl, Function.update_same _ _ _, rfl, rfl⟩

theorem stmt_alone {s : Stmt} (hs : k.program[pc]? = some s) (hc : c.At t k pc) :
    ∃ m c₁, c.runActions E (List.replicate m (.mutate t)) = some c₁ ∧
      match s.effect E t (c.handler, c.locals t) with
      | .ok (h, l) => c₁.At t k (pc + 1) ∧ c₁.handler = h ∧ c₁.locals t = l ∧
          c₁.threads = Function.update c.threads t (some (k, pc + 1)) ∧ c₁.handlers = c.handlers
      | .fatal msg (h, _) => c₁.halted = some msg ∧ c₁.handler = h := by
  have hdisc := OpKind.stmt_disciplined hs
  have hC := OpKind.holdsControl_after hs (Or.inl rfl)
  have hS := OpKind.holdsSignal_after hs (Or.inl rfl)
  have hm := runActions_one E hs hc
  have hcl := hc.control
  have hsl := hc.signal
  rcases he : s.effect E t (c.handler, c.locals t) with ⟨h, l⟩ | ⟨msg, h, l⟩
  · have hth : (c.goto t k (pc + 1)).threads t = some (k, pc + 1) := Function.update_same _ _ _
    cases s
    case lockControl =>
      cases he
      have h0 : c.controlLock = none := by
        rw [hcl, show k.holdsControl pc = false by simpa [Stmt.disciplined] using hdisc]; rfl
      exact ⟨1, { c.goto t k (pc + 1) with controlLock := some t }, by rw [hm, exec, if_pos h0],
        ⟨hc.halted, hth, hc.handler, by rw [hC]; rfl, by rw [hS]; exact hsl⟩, rfl, rfl, rfl, rfl⟩
    case unlockControl =>
      cases he
      exact ⟨1, { c.goto t k (pc + 1) with controlLock := none }, by rw [hm, exec],
        ⟨hc.halted, hth, hc.handler, by rw [hC]; rfl, by rw [hS]; exact hsl⟩, rfl, rfl, rfl, rfl⟩
    case lockSignal =>
      cases he
      have h0 : c.signalLock = none := by
        rw [hsl, show k.holdsSignal pc = false by simp_all [Stmt.disciplined]]; rfl
      exact ⟨1, { c.goto t k (pc + 1) with signalLock := some (.mutator t) },
        by rw [hm, exec, if_pos h0], ⟨hc.halted, hth, hc.handler, by rw [hC]; exact hcl,
        by rw [hS]; rfl⟩, rfl, rfl, rfl, rfl⟩
    case unlockSignal =>
      cases he
      exact ⟨1, { c.goto t k (pc + 1) with signalLock := none }, by rw [hm, exec],
        ⟨hc.halted, hth, hc.handler, by rw [hC]; exact hcl, by rw [hS]; rfl⟩, rfl, rfl, rfl, rfl⟩
    case clearCallbacks =>
      cases he
      exact ⟨_, _, clear_rounds E hs _ c rfl hc.halted hc.thread hc.handler,
        ⟨hc.halted, Function.update_same _ _ _, hc.handler, by rw [hC]; exact hcl,
        by rw [hS]; exact hsl⟩, rfl, rfl, rfl, rfl⟩
    all_goals exact stmt_plain E hs hc (by first | (cases he; rfl) | simp only [exec, he]) rfl rfl
  · obtain ⟨hs', hy⟩ := Stmt.effect_fatal E he
    obtain ⟨rfl, rfl⟩ := Prod.ext_iff.mp hy
    refine ⟨1, { c with halted := some msg }, ?_, rfl, rfl⟩
    rw [hm]
    rcases hs' with rfl | rfl <;> simp only [exec, he]

theorem runs_alone : ∀ (n pc : ℕ) (c : Config σ), pc + n = k.program.length → c.At t k pc →
    ∃ m c', c.runActions E (List.replicate m (.mutate t)) = some c' ∧
      EndsAs c c' t (Stmt.runAll E t (k.program.drop pc) (c.handler, c.locals t)) := by
  intro n
  induction n with
  | zero =>
    intro pc c hlen hc
    have hnone : k.program[pc]? = none := List.getElem?_eq_none_iff.mpr (by omega)
    have hcl := hc.control
    have hsl := hc.signal
    rw [OpKind.holdsControl_of_none hnone] at hcl
    rw [OpKind.holdsSignal_of_none hnone] at hsl
    refine ⟨1, { c with threads := Function.update c.threads t none }, ?_, ?_⟩
    · rw [List.replicate_one, runActions_mutate E hc.halted hc.thread hc.handler]
      simp [mutate, hnone, runActions]
    · rw [List.drop_eq_nil_of_le (by omega)]
      exact ⟨hc.halted, rfl, by simpa using hcl, by simpa using hsl, rfl, rfl⟩
  | succ n ih =>
    intro pc c hlen hc
    have hpc : pc < k.program.length := by omega
    rw [List.drop_eq_getElem_cons hpc, Stmt.runAll]
    obtain ⟨m, c₁, hr, hc₁⟩ := stmt_alone E (List.getElem?_eq_getElem hpc) hc
    revert hc₁
    rcases Stmt.effect E t k.program[pc] (c.handler, c.locals t) with ⟨h, l⟩ | ⟨msg, h, l⟩
    · rintro ⟨hc₁, rfl, rfl, hth, hhd⟩
      obtain ⟨m', c', hr', he'⟩ := ih (pc + 1) c₁ (by omega) hc₁
      refine ⟨m + m', c', by rw [List.replicate_add, runActions_append, hr]; exact hr', ?_⟩
      exact he'.frame hth hhd
    · exact fun hc₁ => ⟨m, c₁, hr, hc₁⟩

theorem call_alone (hc : c.Quiet) (t : ThreadId) (op : Op) :
    ∃ as c', c.runActions E as = some c' ∧ c'.outcome = c.handler.step E (op.event t) ∧
      (c'.halted = none → c'.Quiet) := by
  let c₀ : Config σ := { c with
    threads := Function.update c.threads t (some (op.kind, 0))
    locals := Function.update c.locals t op.locals }
  have h₀ : c₀.At t op.kind 0 :=
    ⟨hc.halted, by simp [c₀], hc.handlers t,
      by simp [c₀, hc.control, OpKind.holdsControl, flagAfter],
      by simp [c₀, hc.signal, OpKind.holdsSignal, flagAfter]⟩
  obtain ⟨m, c', hr, he⟩ := runs_alone E op.kind.program.length 0 c₀ (by simp) h₀
  refine ⟨.call t op :: List.replicate m (.mutate t), c', ?_, ?_, ?_⟩
  · rw [runActions, step, if_pos ⟨hc.halted, hc.threads t, hc.handlers t⟩, Option.some_bind]
    exact hr
  · rw [he.outcome, ← Stmt.runAll_program E c.handler t op]
    simp [c₀]
  · exact he.quiet (fun u hu => by simp [c₀, hu, hc.threads u]) hc.handlers

theorem walk_rounds : ∀ (n i : ℕ) (c : Config σ), i + n = c.handler.callbacks.length →
    c.halted = none → c.handlers t = some (.walk i) →
    c.runActions E (List.replicate (n + 1) (.handle t)) =
      some { c with handlers := Function.update c.handlers t (some .unlockSignal) } := by
  intro n
  induction n with
  | zero =>
    intro i c hi hh hhd
    simp [runActions, step, hh, hhd, handle, show ¬ i < c.handler.callbacks.length by omega]
  | succ n ih =>
    intro i c hi hh hhd
    rw [List.replicate_succ, runActions_handle E hh hhd]
    simp only [handle, if_pos (show i < c.handler.callbacks.length by omega), Option.some_bind]
    refine (ih (i + 1) _ ?_ ?_ ?_).trans ?_
    · simp only; omega
    · exact hh
    · simp
    · simp

theorem deliver_alone (hc : c.Quiet) (t : ThreadId) (sig info ucontext : ℕ) (errno : ℤ) :
    ∃ as c', c.runActions E as = some c' ∧
      c'.outcome = c.handler.step E (.signal sig info ucontext errno) ∧
      (c'.halted = none → c'.Quiet) := by
  cases hd : c.handler.disposition with
  | sigDfl =>
    exact ⟨[.deliver t], { c with halted := some "SIG_DFL" },
      by simp [runActions, step, hc.halted, hc.handlers t, hd],
      by simp [outcome, ProfileHandler.step, hd], by simp⟩
  | sigIgn => exact ⟨[], c, rfl, by simp [outcome, hc.halted, ProfileHandler.step, hd], fun _ => hc⟩
  | signalHandler =>
    let read := E.getTicksSinceLastCall c.handler.eventSource
    -- after the lock, the read of the ticks and the increment of `interrupts_`
    let c₁ : Config σ := { c with
      handler := (c.handler.tick E).2
      ticks := Function.update c.ticks t read.1
      signalLock := some (.handler t)
      handlers := Function.update c.handlers t
        (some (if read.1 ≠ 0 then .walk 0 else .unlockSignal)) }
    have h₁ : c.runActions E [.deliver t, .handle t, .handle t, .handle t] = some c₁ := by
      simp only [runActions, step, handle, hc.halted, hc.handlers t, hc.signal, hd,
        Function.update_same, Function.update_idem, Option.some_bind, if_true, c₁, read,
        ProfileHandler.tick_eq]
    -- after the walk, if the ticks were not zero
    obtain ⟨n, h₂⟩ : ∃ n, c₁.runActions E (List.replicate n (.handle t)) =
        some { c₁ with handlers := Function.update c.handlers t (some .unlockSignal) } := by
      by_cases h0 : read.1 = 0
      · exact ⟨0, by simp [c₁, h0, runActions]⟩
      · refine ⟨_, (walk_rounds E c.handler.callbacks.length 0 c₁ (Nat.zero_add _)
          hc.halted (by simp only [c₁, Function.update_same, if_pos h0])).trans ?_⟩
        simp only [c₁, Function.update_idem]
    refine ⟨[.deliver t, .handle t, .handle t, .handle t] ++ List.replicate n (.handle t) ++
      [.handle t, .handle t], { c with handler := (c.handler.tick E).2, ticks := c₁.ticks },
      ?_, by simp [outcome, hc.halted, ProfileHandler.step, hd],
      fun _ => ⟨hc.halted, hc.control, hc.signal, hc.threads, hc.handlers⟩⟩
    rw [runActions_append, runActions_append, h₁, Option.some_bind, h₂, Option.some_bind]
    simp only [runActions, step, handle, hc.halted, hc.signal, c₁, Function.update_same,
      Function.update_idem, Option.some_bind, Option.some.injEq, Config.mk.injEq,
      Function.update_eq_self_iff, hc.handlers t, and_self]

theorem event_alone (hc : c.Quiet) (e : Event) :
    ∃ as c', c.runActions E as = some c' ∧ c'.outcome = c.handler.step E e ∧
      (c'.halted = none → c'.Quiet) := by
  cases e with
  | registerThread t => exact call_alone E hc t .registerThread
  | registerCallback t callback callbackArg =>
    exact call_alone E hc t (.registerCallback callback callbackArg)
  | unregisterCallback t token => exact call_alone E hc t (.unregisterCallback token)
  | reset t => exact call_alone E hc t .reset
  | getState t => exact call_alone E hc t .getState
  | signal sig info ucontext errno => exact deliver_alone E hc 0 sig info ucontext errno

theorem runs_serially (h : List Event) : ∀ c : Config σ, c.Quiet →
    ∃ as c', c.runActions E as = some c' ∧ c'.outcome = c.handler.run E h ∧
      (c'.halted = none → c'.Quiet) := by
  induction h with
  | nil => exact fun c hc => ⟨[], c, rfl, by simp [outcome, hc.halted], fun _ => hc⟩
  | cons e h ih =>
    intro c hc
    obtain ⟨as₁, c₁, hr₁, ho₁, hq₁⟩ := event_alone E hc e
    rw [ProfileHandler.run_cons, ← ho₁]
    cases hh : c₁.halted with
    | none =>
      obtain ⟨as₂, c', hr₂, ho₂, hq₂⟩ := ih c₁ (hq₁ hh)
      refine ⟨as₁ ++ as₂, c', by rw [runActions_append, hr₁]; exact hr₂, ?_, hq₂⟩
      rw [show c₁.outcome = .ok c₁.handler by simp [outcome, hh]]
      exact ho₂
    | some msg =>
      exact ⟨as₁, c₁, hr₁, by simp [outcome, hh, Outcome.bind], by simp [hh]⟩

theorem init_quiet (fr : Option (List Char)) (source : σ) : (init fr source).Quiet :=
  ⟨rfl, rfl, rfl, fun _ => rfl, fun _ => rfl⟩

end Config

/-- Every history of the sequential model is a run of the interleaving model in which nothing
overlaps, ending alike. -/
theorem serial_schedule {σ : Type} (E : ProfileEventSource σ) (fr : Option (List Char))
    (source : σ) (h : List Event) :
    ∃ as c, (Config.init fr source).runActions E as = some c ∧
      c.outcome = (ProfileHandler.new fr source).run E h ∧ (c.halted = none → c.Quiet) :=
  Config.runs_serially E h _ (Config.init_quiet fr source)

end Perftools
