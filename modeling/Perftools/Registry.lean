import Perftools.Handler

/-!
# The registry of callbacks

What `callbacks_` is meant to hold, said without the code: the tokens `RegisterCallback`
returned and no later `UnregisterCallback` or `Reset` discarded, in registration order
(`liveTokens`). Tokens are fresh addresses handed out in order, so a history alone names them.
Every run keeps the registry refining this list (`Refines.run`), and with fewer than `2^31`
live tokens `callback_count_` is its length.
-/

namespace Perftools

open ProfileHandler

namespace Event

/-- After the event, the token at address `k` is no longer live. -/
def discards (k : ℕ) : Event → Bool
  | .unregisterCallback _ token => token == k
  | .reset _ => true
  | _ => false

def registered (k : ℕ) : Event → List (ℕ × ProfileHandlerToken)
  | .registerCallback _ callback callbackArg => [(k, ⟨callback, callbackArg⟩)]
  | _ => []

end Event

def registrations : List Event → ℕ
  | [] => 0
  | .registerCallback .. :: h => registrations h + 1
  | _ :: h => registrations h

/-- The tokens live after a history whose registrations got the addresses `n`, `n + 1`, ... -/
def liveTokens (n : ℕ) : List Event → List (ℕ × ProfileHandlerToken)
  | [] => []
  | .registerCallback _ callback callbackArg :: h =>
    (if h.any (·.discards n) then [] else [(n, ⟨callback, callbackArg⟩)]) ++ liveTokens (n + 1) h
  | _ :: h => liveTokens n h

@[simp] theorem registrations_append_singleton (h : List Event) (e : Event) :
    registrations (h ++ [e]) = registrations h + (e.registered 0).length := by
  induction h with
  | nil => cases e <;> rfl
  | cons e' h ih =>
    cases e' <;> simp [registrations, ih]
    omega

theorem liveTokens_append_singleton (n : ℕ) (h : List Event) (e : Event) :
    liveTokens n (h ++ [e]) =
      (liveTokens n h).filter (fun x => !e.discards x.1) ++ e.registered (n + registrations h) := by
  induction h generalizing n with
  | nil => cases e <;> simp [liveTokens, registrations, Event.registered]
  | cons e' h ih =>
    cases e' with
    | registerCallback t callback callbackArg =>
      have hn : n + 1 + registrations h = n + (registrations h + 1) := by omega
      by_cases hh : h.any (·.discards n) <;> by_cases he : e.discards n <;>
        simp [liveTokens, registrations, ih, hn, hh, he, List.filter_append]
    | _ => simp [liveTokens, registrations, ih]

theorem mem_liveTokens {n : ℕ} {h : List Event} {x : ℕ × ProfileHandlerToken}
    (hx : x ∈ liveTokens n h) : n ≤ x.1 ∧ x.1 < n + registrations h := by
  induction h generalizing n with
  | nil => simp [liveTokens] at hx
  | cons e h ih =>
    cases e with
    | registerCallback t callback callbackArg =>
      simp only [liveTokens, List.mem_append] at hx
      rcases hx with hx | hx
      · split_ifs at hx
        · cases hx
        · obtain rfl := List.mem_singleton.mp hx
          simp [registrations]
      · have := ih hx; simp only [registrations]; omega
    | _ => exact ih hx

theorem liveTokens_pairwise (n : ℕ) (h : List Event) :
    ((liveTokens n h).map Prod.fst).Pairwise (· < ·) := by
  induction h generalizing n with
  | nil => simp [liveTokens]
  | cons e h ih =>
    cases e with
    | registerCallback t callback callbackArg =>
      simp only [liveTokens, List.map_append, List.pairwise_append]
      refine ⟨by split_ifs <;> simp, ih (n + 1), fun a ha b hb => ?_⟩
      have ha' : a = n := by
        split_ifs at ha
        · cases ha
        · simpa using ha
      obtain ⟨x, hx, rfl⟩ := List.mem_map.mp hb
      exact ha' ▸ (mem_liveTokens hx).1
    | _ => exact ih n

theorem liveTokens_nodup (n : ℕ) (h : List Event) : ((liveTokens n h).map Prod.fst).Nodup :=
  (liveTokens_pairwise n h).imp (fun hab => Nat.ne_of_lt hab)

theorem map_fst_erase {L : List (ℕ × ProfileHandlerToken)} (hL : (L.map Prod.fst).Nodup) (p : ℕ) :
    (L.map Prod.fst).erase p = (L.filter fun x => !(p == x.1)).map Prod.fst := by
  rw [hL.erase_eq_filter, List.filter_map]
  congr 1
  apply List.filter_congr
  intro x _
  by_cases hx : x.1 = p
  · simp [hx]
  · have hx' : p ≠ x.1 := fun h => hx h.symm
    simp [bne, hx, hx']

section

variable {σ : Type} (E : ProfileEventSource σ)

/-- `callbacks_` lists the tokens live after `h`, and the heap holds what each registered. -/
structure Refines (n : ℕ) (h : List Event) (s : ProfileHandler σ) : Prop where
  callbacks_eq : s.callbacks = (liveTokens n h).map Prod.fst
  next_eq : s.tokens.next = n + registrations h
  cells_eq : ∀ x ∈ liveTokens n h, s.tokens.cells x.1 = some x.2

theorem Refines.nil {s : ProfileHandler σ} (hs : s.callbacks = []) :
    Refines s.tokens.next [] s :=
  ⟨by simpa [liveTokens] using hs, rfl, by simp [liveTokens]⟩

theorem Refines.quiet {n : ℕ} {h : List Event} {s s' : ProfileHandler σ} {e : Event}
    (hr : Refines n h s) (hd : ∀ k, e.discards k = false) (hn : ∀ k, e.registered k = [])
    (hc : s'.callbacks = s.callbacks) (ht : s'.tokens = s.tokens) : Refines n (h ++ [e]) s' := by
  have hl : liveTokens n (h ++ [e]) = liveTokens n h := by
    simp [liveTokens_append_singleton, hd, hn]
  have hreg : registrations (h ++ [e]) = registrations h := by simp [hn]
  exact ⟨by rw [hl, hc, hr.callbacks_eq], by rw [hreg, ht, hr.next_eq],
    by rw [hl, ht]; exact hr.cells_eq⟩

theorem Refines.step {n : ℕ} {h : List Event} {s s' : ProfileHandler σ} {e : Event}
    (hr : Refines n h s) (hs : s.step E e = .ok s') : Refines n (h ++ [e]) s' := by
  have hlive := liveTokens_append_singleton n h e
  cases e with
  | registerCallback t callback callbackArg =>
    cases hs
    refine ⟨?_, ?_, ?_⟩
    · simp [hlive, hr.callbacks_eq, hr.next_eq, Event.discards, Event.registered]
    · simp [hr.next_eq, Event.registered]; omega
    · intro x hx
      simp only [hlive, Event.discards, Bool.not_false, List.filter_true, Event.registered,
        List.mem_append, List.mem_singleton] at hx
      rcases hx with hx | rfl
      · have := (mem_liveTokens hx).2
        simp [TokenHeap.new_cells, hr.next_eq, hr.cells_eq x hx]; omega
      · simp [TokenHeap.new_cells, hr.next_eq]
  | unregisterCallback t p =>
    obtain ⟨-, -, rfl⟩ := unregisterCallback_eq_ok E hs
    refine ⟨?_, by simp [hr.next_eq, Event.registered], ?_⟩
    · simp [hlive, hr.callbacks_eq, Event.discards, Event.registered,
        map_fst_erase (liveTokens_nodup n h)]
    · intro x hx
      simp only [hlive, Event.discards, Event.registered, List.append_nil, List.mem_filter,
        Bool.not_eq_true', beq_eq_false_iff_ne] at hx
      simp [TokenHeap.delete_cells, Ne.symm hx.2, hr.cells_eq x hx.1]
  | reset t =>
    cases hs
    exact ⟨by simp [hlive, Event.discards, Event.registered],
      by simp [hr.next_eq, Event.registered], by simp [hlive, Event.discards, Event.registered]⟩
  | registerThread t => cases hs; exact hr.quiet (fun _ => rfl) (fun _ => rfl) rfl rfl
  | getState t => cases hs; exact hr.quiet (fun _ => rfl) (fun _ => rfl) (by simp) (by simp)
  | signal sig info ucontext errno =>
    simp only [ProfileHandler.step] at hs
    split at hs <;> cases hs <;> exact hr.quiet (fun _ => rfl) (fun _ => rfl) rfl rfl

theorem Refines.run {n : ℕ} {h₀ h : List Event} {s s' : ProfileHandler σ}
    (hr : Refines n h₀ s) (hs : s.run E h = .ok s') : Refines n (h₀ ++ h) s' := by
  induction h generalizing h₀ s with
  | nil => cases hs; simpa using hr
  | cons e h ih =>
    obtain ⟨s₁, h₁, h₂⟩ := Outcome.bind_eq_ok.mp hs
    simpa using ih (hr.step E h₁) h₂

/-- What the callers promise: fewer than `2^31` callbacks are live at every point of the history. -/
def FewCallbacks (n : ℕ) (h : List Event) : Prop := ∀ k, (liveTokens n (h.take k)).length < 2 ^ 31

theorem length_liveTokens_le (n : ℕ) (h : List Event) : (liveTokens n h).length ≤ h.length := by
  induction h generalizing n with
  | nil => simp [liveTokens]
  | cons e h ih =>
    cases e with
    | registerCallback t callback callbackArg =>
      have := ih (n + 1)
      simp only [liveTokens, List.length_append, List.length_cons]
      split_ifs <;> simp <;> omega
    | _ => exact (ih n).trans (Nat.le_succ _)

theorem FewCallbacks.of_length {n : ℕ} {h : List Event} (hh : h.length < 2 ^ 31) :
    FewCallbacks n h := fun k =>
  ((length_liveTokens_le n _).trans (List.length_take_le' k h)).trans_lt hh

theorem FewCallbacks.prefix {n : ℕ} {h₁ h₂ : List Event} (hb : FewCallbacks n (h₁ ++ h₂)) :
    (liveTokens n h₁).length < 2 ^ 31 := by
  simpa [List.take_left] using hb h₁.length

theorem length_filter_of_mem {L : List (ℕ × ProfileHandlerToken)} (hL : (L.map Prod.fst).Nodup)
    {p : ℕ} (hp : p ∈ L.map Prod.fst) : (L.filter fun x => !(p == x.1)).length = L.length - 1 := by
  have := congrArg List.length (map_fst_erase hL p)
  rw [List.length_erase_of_mem hp, List.length_map, List.length_map] at this
  exact this.symm

theorem Refines.count_step {n : ℕ} {h : List Event} {s s' : ProfileHandler σ} {e : Event}
    (hr : Refines n h s) (hc : s.callbackCount = (liveTokens n h).length)
    (hs : s.step E e = .ok s') (hb : (liveTokens n (h ++ [e])).length < 2 ^ 31) :
    s'.callbackCount = (liveTokens n (h ++ [e])).length := by
  rw [liveTokens_append_singleton] at hb ⊢
  cases e with
  | registerCallback t callback callbackArg =>
    cases hs
    simp only [Event.discards, Bool.not_false, List.filter_true, Event.registered,
      List.length_append, List.length_singleton] at hb ⊢
    simp only [registerCallback_eq, hc]
    exact toInt32_of_le_of_lt (by omega) (by push_cast; omega)
  | unregisterCallback t p =>
    obtain ⟨hp, -, rfl⟩ := unregisterCallback_eq_ok E hs
    rw [hr.callbacks_eq] at hp
    simp [Event.discards, Event.registered, hc, length_filter_of_mem (liveTokens_nodup n h) hp]
    have := List.length_pos_of_mem hp
    simp only [List.length_map] at this
    omega
  | reset t => cases hs; simp [Event.discards, Event.registered]
  | registerThread t => cases hs; simpa [Event.discards, Event.registered] using hc
  | getState t => cases hs; simpa [Event.discards, Event.registered] using hc
  | signal sig info ucontext errno =>
    simp only [ProfileHandler.step] at hs
    split at hs <;> cases hs <;> simpa [Event.discards, Event.registered] using hc

theorem Refines.run_induction {n : ℕ} (P : List Event → ProfileHandler σ → Prop)
    (hP : ∀ {h s s' e}, Refines n h s → s.callbackCount = (liveTokens n h).length →
      s.step E e = .ok s' → (liveTokens n (h ++ [e])).length < 2 ^ 31 → P h s → P (h ++ [e]) s')
    {h₀ h : List Event} {s s' : ProfileHandler σ} (hr : Refines n h₀ s)
    (hc : s.callbackCount = (liveTokens n h₀).length) (hp : P h₀ s) (hs : s.run E h = .ok s')
    (hb : FewCallbacks n (h₀ ++ h)) : P (h₀ ++ h) s' := by
  induction h generalizing h₀ s with
  | nil => cases hs; simpa using hp
  | cons e h ih =>
    obtain ⟨s₁, h₁, h₂⟩ := Outcome.bind_eq_ok.mp hs
    have hb' : FewCallbacks n ((h₀ ++ [e]) ++ h) := by simpa using hb
    simpa using ih (hr.step E h₁) (hr.count_step E hc h₁ hb'.prefix)
      (hP hr hc h₁ hb'.prefix hp) h₂ hb'

theorem Refines.run_count {n : ℕ} {h₀ h : List Event} {s s' : ProfileHandler σ}
    (hr : Refines n h₀ s) (hc : s.callbackCount = (liveTokens n h₀).length)
    (hs : s.run E h = .ok s') (hb : FewCallbacks n (h₀ ++ h)) :
    s'.callbackCount = (liveTokens n (h₀ ++ h)).length :=
  hr.run_induction E (fun h s => s.callbackCount = (liveTokens n h).length)
    (fun hr hc hs hb _ => hr.count_step E hc hs hb) hc hc hs hb

theorem refines_new (fr : Option (List Char)) (source : σ) :
    Refines 0 [] (ProfileHandler.new fr source) :=
  Refines.nil (s := ProfileHandler.new fr source) rfl

/-- With fewer than `2^31` callbacks live, `callbacks_` is the live tokens, which are the handles
`RegisterCallback` returned, and `UnregisterCallback` removes exactly the one it is given. -/
theorem registry_refines_live_tokens (fr : Option (List Char)) (source : σ) (h : List Event)
    (s : ProfileHandler σ) (hrun : (ProfileHandler.new fr source).run E h = .ok s)
    (hfew : FewCallbacks 0 h) :
    s.callbacks = (liveTokens 0 h).map Prod.fst ∧ s.callbacks.Nodup ∧
      s.callbackCount = s.callbacks.length ∧
      (∀ t callback callbackArg, (s.registerCallback E t callback callbackArg).1 ∉ s.callbacks ∧
        liveTokens 0 (h ++ [.registerCallback t callback callbackArg]) = liveTokens 0 h ++
          [((s.registerCallback E t callback callbackArg).1, ⟨callback, callbackArg⟩)]) ∧
      (∀ t p, p ∈ (liveTokens 0 h).map Prod.fst → ∃ s', s.unregisterCallback E t p = .ok s' ∧
        s'.callbacks = s.callbacks.filter (fun q => q ≠ p) ∧ s.tokens.cells p ≠ none ∧
        s'.tokens.cells p = none ∧ ∀ q, q ≠ p → s'.tokens.cells q = s.tokens.cells q) ∧
      (∀ t p, p ∉ (liveTokens 0 h).map Prod.fst →
        s.unregisterCallback E t p = .fatal "Invalid token" s) ∧
      (∀ t p s', s.unregisterCallback E t p ≠ .fatal "Invalid callback count" s') := by
  have hr : Refines 0 h s := by simpa using (refines_new fr source).run E hrun
  have hc : s.callbackCount = (liveTokens 0 h).length := by
    simpa using (refines_new fr source).run_count E rfl hrun (by simpa using hfew)
  have hnodup : s.callbacks.Nodup := hr.callbacks_eq ▸ liveTokens_nodup 0 h
  have hlen : s.callbackCount = s.callbacks.length := by simp [hc, hr.callbacks_eq]
  have hpos : ∀ p, p ∈ s.callbacks → 0 < s.callbackCount := fun p hp => by
    have := List.length_pos_of_mem hp; omega
  refine ⟨hr.callbacks_eq, hnodup, hlen, ?_, ?_, ?_, ?_⟩
  · -- the token handed back is the next fresh address, the one the history gives it
    intro t callback callbackArg
    simp only [registerCallback_eq, hr.next_eq, Nat.zero_add]
    refine ⟨fun hm => ?_, by simp [liveTokens_append_singleton, Event.discards, Event.registered]⟩
    obtain ⟨x, hx, hx1⟩ := List.mem_map.mp (hr.callbacks_eq ▸ hm)
    have := (mem_liveTokens hx).2
    omega
  · intro t p hp
    rw [← hr.callbacks_eq] at hp
    obtain ⟨x, hx, rfl⟩ := List.mem_map.mp (hr.callbacks_eq ▸ hp)
    refine ⟨s.removeCallback E t x.1, by simp [unregisterCallback, hp, hpos _ hp], ?_,
      by simp [hr.cells_eq x hx], ?_, ?_⟩
    · simp only [removeCallback_eq, hnodup.erase_eq_filter]
      exact List.filter_congr fun q _ => by by_cases hq : q = x.1 <;> simp [hq]
    · simp [TokenHeap.delete_cells]
    · intro q hq
      simp [TokenHeap.delete_cells, hq]
  · intro t p hp
    rw [← hr.callbacks_eq] at hp
    simp [unregisterCallback, hp]
  · intro t p s'
    unfold unregisterCallback
    split_ifs with hp hc'
    · exact Outcome.noConfusion
    · exact absurd (hpos p hp) hc'
    · simp

theorem registry_after_two_registrations :
    let h := [Event.registerCallback 1 10 11, .registerCallback 2 20 21, .unregisterCallback 1 0]
    let s₀ := ProfileHandler.new none (TimerProfileEventSource.init (.disarmed .processShared))
    s₀.run timerSource h = .ok (s₀.run timerSource h).state ∧ FewCallbacks 0 h ∧
      (s₀.run timerSource h).state.callbacks = [1] ∧
      (s₀.run timerSource h).state.callbackCount = 1 := by
  intro h s₀
  have hrun : s₀.run timerSource h = .ok (s₀.run timerSource h).state := rfl
  have hfew : FewCallbacks 0 h := FewCallbacks.of_length (by decide)
  have hreg := registry_refines_live_tokens timerSource none _ h _ hrun hfew
  exact ⟨hrun, hfew, hreg.1.trans (by decide), hreg.2.2.1.trans (by decide)⟩

end

end Perftools
