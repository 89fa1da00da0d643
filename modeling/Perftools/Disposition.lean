import Perftools.Registry

/-!
# The signal disposition follows the callback count

Every public operation ends with `SignalHandler` installed exactly when callbacks remain, and
the suppression switch of the event source moves with it. This holds along every history from
construction while the count does not wrap; at `2^31` registrations it does, and the handler
stays installed over a negative count.
-/

namespace Perftools

open ProfileHandler

variable {σ : Type} (E : ProfileEventSource σ)

/-- The disposition and the suppression switch are those the callback count asks for. -/
def DispositionTracks (s : ProfileHandler σ) : Prop :=
  s.disposition = (if 0 < s.callbackCount then .signalHandler else .sigIgn) ∧
    s.eventsEnabled = decide (0 < s.callbackCount)

theorem DispositionTracks.step {s s' : ProfileHandler σ} {e : Event} (hd : DispositionTracks s)
    (hs : s.step E e = .ok s')
    (hreg : ∀ t callback callbackArg, e = .registerCallback t callback callbackArg →
      0 < s'.callbackCount) :
    DispositionTracks s' := by
  cases e with
  | registerCallback t callback callbackArg =>
    have hpos := hreg t callback callbackArg rfl
    cases hs
    simp only [registerCallback_eq] at hpos
    simp [DispositionTracks, hpos]
  | unregisterCallback t p =>
    obtain ⟨-, -, rfl⟩ := unregisterCallback_eq_ok E hs
    simp [DispositionTracks]
  | reset t => cases hs; simp [DispositionTracks]
  | registerThread t => cases hs; exact hd
  | getState t => cases hs; simp [DispositionTracks]
  | signal sig info ucontext errno =>
    simp only [ProfileHandler.step] at hs
    split at hs <;> cases hs <;> exact hd

theorem DispositionTracks.run {n : ℕ} {h₀ h : List Event} {s s' : ProfileHandler σ}
    (hr : Refines n h₀ s) (hc : s.callbackCount = (liveTokens n h₀).length)
    (hd : DispositionTracks s) (hs : s.run E h = .ok s') (hb : FewCallbacks n (h₀ ++ h)) :
    DispositionTracks s' :=
  hr.run_induction E (fun _ s => DispositionTracks s) (fun hr hc hs hb hd =>
    hd.step E hs fun t callback callbackArg he => by
      subst he
      simp [hr.count_step E hc hs hb, liveTokens_append_singleton, Event.discards,
        Event.registered]) hc hd hs hb

end Perftools
