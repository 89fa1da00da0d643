import Perftools.EventSource

/-!
# The sampling frequency and the timer interval

The constructor reads `CPUPROFILE_FREQUENCY` with `sscanf(fr, "%u%c", &frequency_, &junk)`: the
`%u` of glibc on LP64 reads blanks, a sign and digits with `strtoul` and stores the low 32 bits,
which the `int32` `frequency_` reads back signed. The value is kept when exactly one field is
converted and it is positive, clamped to `kMaxFrequency`. `StartTimer` puts a period of
`1000000 / frequency_` microseconds in `tv_usec`, which `setitimer` refuses at frequency 1.
-/

namespace Perftools

/-- `isspace` in the C locale. -/
def isSpace (c : Char) : Bool := c.toNat = 32 || (9 ≤ c.toNat && c.toNat ≤ 13)

def isDigit (c : Char) : Bool := 48 ≤ c.toNat && c.toNat ≤ 57

def digitsValue (ds : List Char) : ℕ := ds.foldl (fun n d => 10 * n + (d.toNat - 48)) 0

/-- `strtoul` of a sign and a magnitude, as an `unsigned long` of 64 bits. -/
def strtoul (neg : Bool) (v : ℕ) : ℕ :=
  if 2 ^ 64 ≤ v then 2 ^ 64 - 1 else if neg then (2 ^ 64 - v) % 2 ^ 64 else v

def scanSign : List Char → Bool × List Char
  | [] => (false, [])
  | c :: r => if c = '+' then (false, r) else if c = '-' then (true, r) else (false, c :: r)

/-- The `%u` conversion: the bits it stores and the rest, or `none` on a matching failure. -/
def scanUnsigned (s : List Char) : Option (ℕ × List Char) :=
  let (neg, s) := scanSign (s.dropWhile isSpace)
  let digits := s.takeWhile isDigit
  if digits = [] then none
  else some (strtoul neg (digitsValue digits) % 2 ^ 32, s.dropWhile isDigit)

/-- `sscanf(fr, "%u%c", &frequency_, &junk)`: its result and what `%u` stored in `frequency_`. -/
def sscanfFrequency (fr : List Char) : ℤ × Option ℤ :=
  match scanUnsigned fr with
  | none => (if fr.dropWhile isSpace = [] then -1 else 0, none)
  | some (u, rest) => (if rest = [] then 1 else 2, some (toInt32 u))

def kMaxFrequency : ℤ := 4000

def kDefaultFrequency : ℤ := 100

/-- The `frequency_` the constructor sets from `CPUPROFILE_FREQUENCY` (`none` when unset). -/
def frequencyFromEnv (fr : Option (List Char)) : ℤ :=
  match fr.map sscanfFrequency with
  | some (1, some f) =>
    if 0 < f then (if f > kMaxFrequency then kMaxFrequency else f) else kDefaultFrequency
  | _ => kDefaultFrequency

theorem frequencyFromEnv_mem (fr : Option (List Char)) :
    1 ≤ frequencyFromEnv fr ∧ frequencyFromEnv fr ≤ kMaxFrequency := by
  unfold frequencyFromEnv kMaxFrequency kDefaultFrequency
  split
  · split_ifs <;> omega
  · omega

theorem dropWhile_isSpace_append {ws rest : List Char} (hws : ∀ c ∈ ws, isSpace c = true)
    (hrest : ∀ c ∈ rest.head?, isSpace c = false) :
    (ws ++ rest).dropWhile isSpace = rest := by
  induction ws with
  | nil =>
    cases rest with
    | nil => rfl
    | cons c r => simp [List.dropWhile, hrest c rfl]
  | cons w ws ih =>
    simp only [List.cons_append, List.dropWhile, hws w (List.mem_cons_self _ _)]
    exact ih fun c hc => hws c (List.mem_cons_of_mem _ hc)

theorem isSpace_of_isDigit {c : Char} (h : isDigit c = true) : isSpace c = false := by
  simp only [isDigit, isSpace, Bool.and_eq_true, decide_eq_true_eq, Bool.or_eq_false_iff,
    decide_eq_false_iff_not, Bool.and_eq_false_imp] at h ⊢
  omega

theorem scanSign_of_isDigit {c : Char} (h : isDigit c = true) (r : List Char) :
    scanSign (c :: r) = (false, c :: r) := by
  have hp : c ≠ '+' := by rintro rfl; simp [isDigit] at h
  have hm : c ≠ '-' := by rintro rfl; simp [isDigit] at h
  simp [scanSign, hp, hm]

/-- A numeral: blanks, an optional plus sign, and a non-empty run of digits, then nothing. -/
structure Numeral where
  blanks : List Char
  plus : Bool
  digits : List Char
  blanks_space : ∀ c ∈ blanks, isSpace c = true
  digits_digit : ∀ c ∈ digits, isDigit c = true
  digits_ne_nil : digits ≠ []

def Numeral.text (n : Numeral) : List Char :=
  n.blanks ++ (if n.plus then ['+'] else []) ++ n.digits

def Numeral.value (n : Numeral) : ℕ := digitsValue n.digits

theorem scanUnsigned_text (n : Numeral) :
    scanUnsigned n.text = some (strtoul false n.value % 2 ^ 32, []) := by
  obtain ⟨c, r, hcr⟩ := List.exists_cons_of_ne_nil n.digits_ne_nil
  have hc : isDigit c = true := n.digits_digit c (hcr ▸ List.mem_cons_self c r)
  have hsign : scanSign ((if n.plus then ['+'] else []) ++ n.digits) = (false, n.digits) := by
    cases n.plus
    · simpa [hcr] using scanSign_of_isDigit hc r
    · rfl
  have hfirst : ∀ d ∈ ((if n.plus then ['+'] else []) ++ n.digits).head?, isSpace d = false := by
    cases n.plus
    · simpa [hcr] using isSpace_of_isDigit hc
    · simp [isSpace]
  simp only [scanUnsigned, Numeral.text, List.append_assoc,
    dropWhile_isSpace_append n.blanks_space hfirst, hsign,
    List.takeWhile_eq_self_iff.mpr n.digits_digit, n.digits_ne_nil, ↓reduceIte,
    List.dropWhile_eq_nil_iff.mpr n.digits_digit, Numeral.value]

theorem frequencyFromEnv_numeral (n : Numeral) :
    frequencyFromEnv (some n.text) =
      let f := toInt32 ((strtoul false n.value % 2 ^ 32 : ℕ) : ℤ)
      if 0 < f then (if f > kMaxFrequency then kMaxFrequency else f) else kDefaultFrequency := by
  simp only [frequencyFromEnv, Option.map_some', sscanfFrequency, scanUnsigned_text, ↓reduceIte]

theorem strtoul_false_of_lt {v : ℕ} (h : v < 2 ^ 64) : strtoul false v = v := by
  rw [strtoul, if_neg (Nat.not_le.mpr h)]
  rfl

/-- Below `2^31` a positive numeral sets its value, clamped to `kMaxFrequency`. -/
theorem frequencyFromEnv_numeral_of_lt (n : Numeral) (h₀ : 0 < n.value) (h₁ : n.value < 2 ^ 31) :
    frequencyFromEnv (some n.text) = min (n.value : ℤ) kMaxFrequency := by
  have h : toInt32 (strtoul false n.value % 2 ^ 32 : ℕ) = n.value := by
    rw [strtoul_false_of_lt (by omega)]; unfold toInt32; omega
  rw [frequencyFromEnv_numeral]
  simp only [h, min_def, kMaxFrequency, kDefaultFrequency]
  split_ifs <;> omega

theorem frequency_of_numeral_250 :
    let n : Numeral := ⟨[' '], true, ['2', '5', '0'], by decide, by decide, by decide⟩
    0 < n.value ∧ n.value < 2 ^ 31 ∧ frequencyFromEnv (some n.text) = 250 := by
  intro n
  exact ⟨by decide, by decide, (frequencyFromEnv_numeral_of_lt n (by decide) (by decide)).trans
    (by decide)⟩

/-- From `2^31` to `2^32 - 1` the stored `int32` is negative and the default is used. -/
theorem frequencyFromEnv_numeral_of_ge (n : Numeral) (h₀ : 2 ^ 31 ≤ n.value) (h₁ : n.value < 2 ^ 32) :
    frequencyFromEnv (some n.text) = kDefaultFrequency := by
  have h : toInt32 (strtoul false n.value % 2 ^ 32 : ℕ) = n.value - 2 ^ 32 := by
    rw [strtoul_false_of_lt (by omega)]; unfold toInt32; omega
  rw [frequencyFromEnv_numeral]
  simp only [h]
  rw [if_neg (by omega)]

theorem frequency_of_numeral_3000000000 :
    let n : Numeral :=
      ⟨[], false, ['3', '0', '0', '0', '0', '0', '0', '0', '0', '0'], by decide, by decide, by decide⟩
    2 ^ 31 ≤ n.value ∧ n.value < 2 ^ 32 ∧ frequencyFromEnv (some n.text) = kDefaultFrequency := by
  intro n
  exact ⟨by decide, by decide, frequencyFromEnv_numeral_of_ge n (by decide) (by decide)⟩

theorem scanSign_sound {s r : List Char} {neg : Bool} (h : scanSign s = (neg, r)) :
    ∃ sg, s = sg ++ r ∧ (sg = [] ∨ sg = ['+'] ∨ sg = ['-']) ∧ neg = decide (sg = ['-']) := by
  cases s with
  | nil => cases h; exact ⟨[], rfl, .inl rfl, rfl⟩
  | cons c r' =>
    simp only [scanSign] at h
    split_ifs at h with hp hm
    · cases h; subst hp; exact ⟨['+'], rfl, .inr (.inl rfl), by decide⟩
    · cases h; subst hm; exact ⟨['-'], rfl, .inr (.inr rfl), by decide⟩
    · cases h; exact ⟨[], rfl, .inl rfl, rfl⟩

theorem scanUnsigned_complete {ws sg ds : List Char} (hws : ∀ c ∈ ws, isSpace c = true)
    (hsg : sg = [] ∨ sg = ['+'] ∨ sg = ['-']) (hne : ds ≠ []) (hds : ∀ c ∈ ds, isDigit c = true) :
    scanUnsigned (ws ++ sg ++ ds) =
      some (strtoul (decide (sg = ['-'])) (digitsValue ds) % 2 ^ 32, []) := by
  obtain ⟨c, r, rfl⟩ := List.exists_cons_of_ne_nil hne
  have hc := hds c (List.mem_cons_self c r)
  have hsign : scanSign (sg ++ c :: r) = (decide (sg = ['-']), c :: r) := by
    rcases hsg with rfl | rfl | rfl
    · exact scanSign_of_isDigit hc r
    · rfl
    · rfl
  have hfirst : ∀ d ∈ (sg ++ c :: r).head?, isSpace d = false := by
    rcases hsg with rfl | rfl | rfl
    · simpa using isSpace_of_isDigit hc
    · simp [isSpace]
    · simp [isSpace]
  simp only [scanUnsigned, List.append_assoc, dropWhile_isSpace_append hws hfirst, hsign,
    List.takeWhile_eq_self_iff.mpr hds, hne, ↓reduceIte, List.dropWhile_eq_nil_iff.mpr hds]

theorem scanUnsigned_sound {s : List Char} {u : ℕ} (h : scanUnsigned s = some (u, [])) :
    ∃ ws sg ds, s = ws ++ sg ++ ds ∧ (∀ c ∈ ws, isSpace c = true) ∧
      (sg = [] ∨ sg = ['+'] ∨ sg = ['-']) ∧ ds ≠ [] ∧ (∀ c ∈ ds, isDigit c = true) ∧
      u = strtoul (decide (sg = ['-'])) (digitsValue ds) % 2 ^ 32 := by
  unfold scanUnsigned at h
  generalize hp : scanSign (s.dropWhile isSpace) = p at h
  obtain ⟨neg, r⟩ := p
  obtain ⟨sg, hr, hsg, rfl⟩ := scanSign_sound hp
  simp only at h
  split_ifs at h with hd
  obtain ⟨rfl, hrest⟩ := Prod.mk.inj (Option.some_injective _ h)
  have hall : ∀ c ∈ r, isDigit c = true := List.dropWhile_eq_nil_iff.mp hrest
  rw [List.takeWhile_eq_self_iff.mpr hall] at hd ⊢
  refine ⟨s.takeWhile isSpace, sg, r, ?_, fun c hc => List.mem_takeWhile_imp hc, hsg, hd, hall, rfl⟩
  rw [List.append_assoc, ← hr, List.takeWhile_append_dropWhile]

/-- `%u%c` converts exactly one field iff the text is blanks, a sign and digits; the value is the
low 32 bits of `strtoul`. -/
theorem sscanfFrequency_eq_one_iff (s : List Char) (f : ℤ) :
    sscanfFrequency s = (1, some f) ↔
      ∃ ws sg ds, s = ws ++ sg ++ ds ∧ (∀ c ∈ ws, isSpace c = true) ∧
        (sg = [] ∨ sg = ['+'] ∨ sg = ['-']) ∧ ds ≠ [] ∧ (∀ c ∈ ds, isDigit c = true) ∧
        f = toInt32 (strtoul (decide (sg = ['-'])) (digitsValue ds) % 2 ^ 32 : ℕ) := by
  constructor
  · intro h
    unfold sscanfFrequency at h
    split at h
    · cases (Prod.mk.inj h).2
    · rename_i u rest hs
      obtain ⟨hone, hf⟩ := Prod.mk.inj h
      split_ifs at hone with hrest
      · subst hrest
        obtain ⟨ws, sg, ds, rfl, hws, hsg, hne, hds, rfl⟩ := scanUnsigned_sound hs
        exact ⟨ws, sg, ds, rfl, hws, hsg, hne, hds, (Option.some_injective _ hf).symm⟩
      · cases hone
  · rintro ⟨ws, sg, ds, rfl, hws, hsg, hne, hds, hf⟩
    rw [sscanfFrequency, scanUnsigned_complete hws hsg hne hds, hf]
    rfl

/-- After a minus sign `%u` stores `2^32 - v`, a positive `int32` only when `2^31 < v`. -/
theorem frequencyFromEnv_minus {ws ds : List Char} (hws : ∀ c ∈ ws, isSpace c = true)
    (hne : ds ≠ []) (hds : ∀ c ∈ ds, isDigit c = true) (h₀ : 0 < digitsValue ds)
    (h₁ : digitsValue ds < 2 ^ 32) :
    frequencyFromEnv (some (ws ++ '-' :: ds)) =
      if 2 ^ 31 < digitsValue ds then min (2 ^ 32 - digitsValue ds : ℤ) kMaxFrequency
      else kDefaultFrequency := by
  have hscan := scanUnsigned_complete hws (.inr (.inr rfl)) hne hds
  have hu : strtoul (decide (['-'] = ['-'])) (digitsValue ds) % 2 ^ 32 = 2 ^ 32 - digitsValue ds := by
    rw [strtoul, if_neg (by omega), if_pos (by decide)]
    omega
  rw [hu, List.append_assoc, List.singleton_append] at hscan
  simp only [frequencyFromEnv, Option.map_some', sscanfFrequency, hscan, ↓reduceIte]
  unfold toInt32 kMaxFrequency kDefaultFrequency
  split_ifs <;> omega

theorem frequency_of_minus_4294967295 :
    let ds := ['4', '2', '9', '4', '9', '6', '7', '2', '9', '5']
    ds ≠ [] ∧ (∀ c ∈ ds, isDigit c = true) ∧ 0 < digitsValue ds ∧ digitsValue ds < 2 ^ 32 ∧
      frequencyFromEnv (some ([] ++ '-' :: ds)) = 1 := by
  intro ds
  exact ⟨by decide, by decide, by decide, by decide, (frequencyFromEnv_minus (by decide) (by decide)
    (by decide) (by decide) (by decide)).trans (by decide)⟩

theorem tdiv_startTimer {f : ℤ} (h₁ : 1 ≤ f) (h₂ : f ≤ kMaxFrequency) :
    Int.tdiv 1000000 f = 1000000 / f ∧ 250 ≤ 1000000 / f := by
  unfold kMaxFrequency at h₂
  exact ⟨Int.tdiv_eq_ediv (by decide) (by omega),
    (Int.le_ediv_iff_mul_le (by omega)).mpr (by omega)⟩

theorem startTimerValue_running {f : ℤ} (h₁ : 1 ≤ f) (h₂ : f ≤ kMaxFrequency) :
    (TimerProfileEventSource.startTimerValue f).running = true := by
  obtain ⟨hq, hlo⟩ := tdiv_startTimer h₁ h₂
  simp only [TimerProfileEventSource.startTimerValue, Itimerval.running, hq, bne_iff_ne, ne_eq,
    Bool.or_eq_true, decide_eq_true_eq]
  omega

theorem startTimerValue_valid {f : ℤ} (h₁ : 2 ≤ f) (h₂ : f ≤ kMaxFrequency) :
    (TimerProfileEventSource.startTimerValue f).Valid ∧
      (TimerProfileEventSource.startTimerValue f).itInterval = ⟨0, 1000000 / f⟩ ∧
      (TimerProfileEventSource.startTimerValue f).itValue = ⟨0, 1000000 / f⟩ := by
  obtain ⟨hq, hlo⟩ := tdiv_startTimer (by omega) h₂
  have hhi : 1000000 / f < 1000000 := (Int.ediv_lt_iff_lt_mul (by omega)).mpr (by omega)
  refine ⟨?_, by simp [TimerProfileEventSource.startTimerValue, hq],
    by simp [TimerProfileEventSource.startTimerValue, hq]⟩
  simp only [TimerProfileEventSource.startTimerValue, Itimerval.Valid, Timeval.Valid, hq]
  omega

-- at the default frequency the timer fires every 10000 microseconds
example : (TimerProfileEventSource.startTimerValue kDefaultFrequency).itInterval = ⟨0, 10000⟩ :=
  (startTimerValue_valid (by decide) (by decide)).2.1.trans (by decide)

/-- At frequency 1 the whole second is put in `tv_usec`, which `setitimer` refuses. -/
theorem startTimerValue_one_invalid : ¬ (TimerProfileEventSource.startTimerValue 1).Valid := by
  decide

end Perftools
