import Perftools.Timers

/-!
# What `Reset` restores

`Reset` empties the registry and returns `timer_sharing_` to `TIMERS_UNTOUCHED`. A continuation
run after it, with the tokens it passes renamed, runs as on a fresh handler (`ShiftedRegistry`).
The timers are another matter: `TimerProfileEventSource::Reset` stops a timer only in
`TIMERS_SHARED`, so per-thread timers keep running and the next detection reads them.
-/

namespace Perftools

open ProfileHandler

namespace Event

/-- The event on a heap whose addresses start `m` later: the token it passes is shifted. -/
def shift (m : ℕ) : Event → Event
  | .unregisterCallback t token => .unregisterCallback t (token + m)
  | e => e

end Event

section

variable {σ : Type} (E : ProfileEventSource σ)

/-- The registry of `r` is that of `f` with every address shifted by `m`. -/
structure ShiftedRegistry (m : ℕ) (r f : ProfileHandler σ) : Prop where
  callbacks_eq : r.callbacks = f.callbacks.map (· + m)
  count_eq : r.callbackCount = f.callbackCount
  disposition_eq : r.disposition = f.disposition
  eventsEnabled_eq : r.eventsEnabled = f.eventsEnabled
  next_eq : r.tokens.next = f.tokens.next + m
  cells_eq : ∀ p, r.tokens.cells (p + m) = f.tokens.cells p

variable {m : ℕ} {r f : ProfileHandler σ}

theorem foldl_delete_shifted {hr hf : TokenHeap} (hc : ∀ p, hr.cells (p + m) = hf.cells p)
    (L : List ℕ) (p : ℕ) :
    ((L.map (· + m)).foldl TokenHeap.delete hr).cells (p + m) =
      (L.foldl TokenHeap.delete hf).cells p := by
  induction L generalizing hr hf with
  | nil => exact hc p
  | cons q L ih =>
    exact ih fun p => by simp [TokenHeap.delete_cells, hc p]

theorem ShiftedRegistry.step (hs : ShiftedRegistry m r f) (e : Event) :
    Outcome.Rel (ShiftedRegistry m) (r.step E (e.shift m)) (f.step E e) := by
  cases e with
  | registerThread t => exact ⟨hs.1, hs.2, hs.3, hs.4, hs.5, hs.6⟩
  | registerCallback t callback callbackArg =>
    show ShiftedRegistry m (r.registerCallback E t callback callbackArg).2
      (f.registerCallback E t callback callbackArg).2
    simp only [registerCallback_eq]
    refine ⟨by simp [hs.callbacks_eq, hs.next_eq], by simp [hs.count_eq], rfl, rfl,
      by simp [hs.next_eq]; omega, fun p => ?_⟩
    simp [TokenHeap.new_cells, hs.next_eq, hs.cells_eq]
  | unregisterCallback t p =>
    have hmem : p + m ∈ r.callbacks ↔ p ∈ f.callbacks := by simp [hs.callbacks_eq]
    simp only [Event.shift, ProfileHandler.step, unregisterCallback, hmem, hs.count_eq]
    split_ifs with hp
    · show ShiftedRegistry m (r.removeCallback E t (p + m)) (f.removeCallback E t p)
      simp only [removeCallback_eq]
      refine ⟨?_, by simp [hs.count_eq], by simp [hs.count_eq], by simp [hs.count_eq],
        by simp [hs.next_eq], fun q => ?_⟩
      · rw [hs.callbacks_eq, ← List.map_erase (add_left_injective m)]
      · simp [TokenHeap.delete_cells, hs.cells_eq]
    · exact ⟨rfl, hs⟩
    · exact ⟨rfl, hs⟩
  | reset t =>
    show ShiftedRegistry m (r.reset E t) (f.reset E t)
    simp only [reset_eq]
    refine ⟨rfl, rfl, rfl, rfl, by simp [hs.next_eq], fun p => ?_⟩
    rw [hs.callbacks_eq]
    exact foldl_delete_shifted hs.cells_eq f.callbacks p
  | getState t =>
    show ShiftedRegistry m r.getState.2 f.getState.2
    simp only [getState_eq]
    exact ⟨hs.1, hs.2, by simp [hs.count_eq], by simp [hs.count_eq], hs.5, hs.6⟩
  | signal sig info ucontext errno =>
    simp only [Event.shift, ProfileHandler.step, hs.disposition_eq]
    split
    · exact ⟨hs.1, hs.2, hs.3, hs.4, hs.5, hs.6⟩
    · exact hs
    · exact ⟨rfl, hs⟩

theorem ShiftedRegistry.run (hs : ShiftedRegistry m r f) (c : List Event) :
    Outcome.Rel (ShiftedRegistry m) (r.run E (c.map (Event.shift m))) (f.run E c) := by
  induction c generalizing r f with
  | nil => exact hs
  | cons e c ih =>
    rw [List.map_cons, run_cons, run_cons]
    exact (hs.step E e).bind fun _ _ h => ih h

end

end Perftools
