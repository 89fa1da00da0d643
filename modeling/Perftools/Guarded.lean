import Perftools.Handler
import Perftools.Protocol

/-!
# What `control_lock_` guards

`control_lock_` guards `callbacks_`, `callback_count_`, and the disposition and switch that
`EnableHandler` and `DisableHandler` set (`Registry`). Each public operation acts on it as
`OpKind.apply` says; this is the abstract machine that the sequential model and the
interleaving model are both held to. Every operation keeps the registry `Good`: the count is
the number of callbacks as an `int32`, and the disposition follows it unless it has wrapped.
-/

namespace Perftools

/-- What `control_lock_` guards in the handler. -/
structure Registry where
  callbacks : List ℕ
  callbackCount : ℤ
  disposition : Disposition
  eventsEnabled : Bool

def ProfileHandler.registry {σ : Type} (h : ProfileHandler σ) : Registry :=
  ⟨h.callbacks, h.callbackCount, h.disposition, h.eventsEnabled⟩

/-- What operation `k` does to the registry, given its token `τ`; `none` when a check fails. -/
def OpKind.apply (τ : ℕ) (r : Registry) : OpKind → Option Registry
  | .registerThread => some r
  | .registerCallback =>
    some ⟨r.callbacks ++ [τ], toInt32 (r.callbackCount + 1), .signalHandler, true⟩
  | .unregisterCallback =>
    if τ ∈ r.callbacks ∧ 0 < r.callbackCount then
      some ⟨r.callbacks.erase τ, r.callbackCount - 1,
        if 0 < r.callbackCount - 1 then .signalHandler else .sigIgn,
        decide (0 < r.callbackCount - 1)⟩
    else none
  | .reset => some ⟨[], 0, .sigIgn, false⟩
  | .getState =>
    some { r with
      disposition := if 0 < r.callbackCount then .signalHandler else .sigIgn
      eventsEnabled := decide (0 < r.callbackCount) }

namespace Registry

/-- Operations one after another, each with its token; `none` once a check fails. -/
def replay (r : Registry) (hist : List (OpKind × ℕ)) : Option Registry :=
  hist.foldlM (fun r x => x.1.apply x.2 r) r

@[simp] theorem replay_nil (r : Registry) : r.replay [] = some r := rfl

theorem replay_append_singleton (r : Registry) (hist : List (OpKind × ℕ)) (k : OpKind) (τ : ℕ) :
    r.replay (hist ++ [(k, τ)]) = (r.replay hist).bind fun r => k.apply τ r := by
  simp [replay, List.foldlM_append]

def Counted (r : Registry) : Prop := r.callbackCount = toInt32 r.callbacks.length

def Tracks (r : Registry) : Prop :=
  r.disposition = (if 0 < r.callbackCount then .signalHandler else .sigIgn) ∧
    r.eventsEnabled = decide (0 < r.callbackCount)

/-- The handler is installed though the count has wrapped past `2^31 - 1` callbacks. -/
def Wrapped (r : Registry) : Prop :=
  r.disposition = .signalHandler ∧ r.eventsEnabled = true ∧ r.callbackCount ≤ 0 ∧
    2 ^ 31 ≤ r.callbacks.length

/-- The registry between operations. -/
def Good (r : Registry) : Prop := r.Counted ∧ (r.Tracks ∨ r.Wrapped)

end Registry

theorem toInt32_zero : toInt32 0 = 0 := toInt32_of_le_of_lt (by norm_num) (by norm_num)

theorem toInt32_pos {n : ℤ} (h₀ : 0 < n) (h₁ : n < 2 ^ 31) : 0 < toInt32 n := by
  unfold toInt32; omega

theorem toInt32_pred {x : ℤ} (h : 0 < toInt32 x) : toInt32 x - 1 = toInt32 (x - 1) := by
  unfold toInt32 at *; omega

namespace Registry

variable {r : Registry}

theorem good_of_tracks (hc : r.Counted) (hd : r.disposition =
    (if 0 < r.callbackCount then .signalHandler else .sigIgn))
    (he : r.eventsEnabled = decide (0 < r.callbackCount)) : r.Good :=
  ⟨hc, .inl ⟨hd, he⟩⟩

theorem good_of_installed (hd : r.disposition = .signalHandler) (he : r.eventsEnabled = true)
    (hne : r.callbacks ≠ []) (hc : r.Counted) : r.Good := by
  refine ⟨hc, ?_⟩
  by_cases hpos : 0 < r.callbackCount
  · exact .inl ⟨by simp [hd, hpos], by simp [he, hpos]⟩
  · refine .inr ⟨hd, he, not_lt.mp hpos, Nat.le_of_not_lt fun hlt => hpos ?_⟩
    have hlen : 0 < r.callbacks.length := List.length_pos.mpr hne
    rw [hc]
    exact toInt32_pos (by omega) (by omega)

end Registry

theorem OpKind.apply_good {k : OpKind} {τ : ℕ} {r r' : Registry} (hg : r.Good)
    (h : k.apply τ r = some r') : r'.Good := by
  cases k <;> simp only [OpKind.apply] at h
  case registerThread => cases h; exact hg
  case registerCallback =>
    cases h
    refine Registry.good_of_installed rfl rfl (by simp) ?_
    simp only [Registry.Counted, List.length_append, List.length_singleton, Nat.cast_add,
      Nat.cast_one]
    rw [hg.1, toInt32_toInt32_add]
  case unregisterCallback =>
    by_cases hc : τ ∈ r.callbacks ∧ 0 < r.callbackCount
    · rw [if_pos hc] at h
      cases h
      refine Registry.good_of_tracks ?_ rfl rfl
      simp only [Registry.Counted]
      rw [List.length_erase_of_mem hc.1, Nat.cast_pred (List.length_pos_of_mem hc.1), hg.1,
        toInt32_pred (hg.1 ▸ hc.2)]
    · rw [if_neg hc] at h
      cases h
  case reset => cases h; exact Registry.good_of_tracks (toInt32_zero.symm) rfl rfl
  case getState => cases h; exact Registry.good_of_tracks hg.1 rfl rfl

theorem Registry.replay_good {r r' : Registry} {hist : List (OpKind × ℕ)} (hg : r.Good)
    (h : r.replay hist = some r') : r'.Good := by
  induction hist generalizing r with
  | nil => cases h; exact hg
  | cons x hist ih =>
    obtain ⟨r₁, h₁, h₂⟩ := Option.bind_eq_some.mp h
    exact ih (OpKind.apply_good hg h₁) h₂

theorem registry_new_good {σ : Type} (fr : Option (List Char)) (source : σ) :
    (ProfileHandler.new fr source).registry.Good :=
  Registry.good_of_tracks toInt32_zero.symm rfl rfl

/-! ## The sequential model takes the steps of the abstract machine -/

def Outcome.registry {σ : Type} : Outcome (ProfileHandler σ) → Option Registry
  | .ok s => some s.registry
  | .fatal .. => none

/-- The operation an event calls, with the token it registers or unregisters. -/
def Event.operation {σ : Type} (s : ProfileHandler σ) : Event → Option (OpKind × ℕ)
  | .registerThread _ => some (.registerThread, 0)
  | .registerCallback .. => some (.registerCallback, s.tokens.next)
  | .unregisterCallback _ token => some (.unregisterCallback, token)
  | .reset _ => some (.reset, 0)
  | .getState _ => some (.getState, 0)
  | .signal .. => none

theorem ProfileHandler.step_registry {σ : Type} (E : ProfileEventSource σ) (s : ProfileHandler σ)
    (e : Event) :
    (s.step E e).registry = match e.operation s with
      | some (k, τ) => k.apply τ s.registry
      | none => if s.disposition = .sigDfl then none else some s.registry := by
  cases e with
  | unregisterCallback t token =>
    simp only [step, unregisterCallback, Event.operation, OpKind.apply, registry]
    by_cases h₁ : token ∈ s.callbacks <;> by_cases h₂ : 0 < s.callbackCount <;>
      simp [h₁, h₂, Outcome.registry, registry]
  | signal sig info ucontext errno =>
    simp only [step, Event.operation]
    cases s.disposition <;> rfl
  | getState t =>
    simp only [step, getState_eq, Event.operation, OpKind.apply, Outcome.registry, registry]
  | _ => rfl

end Perftools
