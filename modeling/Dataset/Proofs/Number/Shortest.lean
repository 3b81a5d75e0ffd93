import Dataset.Number.Shortest
import Dataset.Number.Double
import Dataset.Proofs.Number.Rounding
import Dataset.Proofs.Text.Digits
import Mathlib.Data.List.TakeWhile
import Mathlib.Data.Nat.Digits.Lemmas
import Mathlib.Tactic.NormNum.Pow

/-!
# The fewest digits that read back

Among the decimal numbers that round to a number of 64 bits the search finds one of the fewest digits.

* `Dyadic.ReadsBack`: a number rounds to a number of 64 bits (`Interval.holds_iff`);
* `decimalExponent_spec`: the power of ten below a quotient;
* `Decimal.toRat`, `ofScaled_spec`: the value of a decimal number;
* `neighbour?_spec`: one grid; `search_spec`: all of them, one after another;
* **`shortest_spec`**: the search ends at a number that reads back;
* **`shortest_eq`**: a decimal number of up to 15 digits that reads back is the one that is found.
-/

namespace Dataset.Number

open Text (decimalValue)

/-! ## 1. Numbers that read back -/

/-- A number with all its bits, or with the least exponent. -/
structure Dyadic.Canonical (d : Dyadic) : Prop where
  mant_pos : 0 < d.mant
  mant_lt : d.mant < 2 ^ 53
  least_le : Double.leastExp ≤ d.exp
  normal : Double.leastExp < d.exp → 2 ^ 52 ≤ d.mant

/-- A number is rounded to `d`: it lies between the middles of the steps down and up from `d`, or on one
    of them if `d` is even. -/
structure Dyadic.ReadsBack (d : Dyadic) (x : ℚ) : Prop where
  low : d.toRat - d.below Double.bits Double.leastExp ≤ x
  high : x ≤ d.toRat + d.above
  even : x = d.toRat - d.below Double.bits Double.leastExp ∨ x = d.toRat + d.above → d.mant % 2 = 0

theorem IsNearest.canonical {x : ℚ} {d : Dyadic} (h : IsNearest Double.bits Double.leastExp x d) :
    d.Canonical := ⟨h.mant_pos, h.mant_lt, h.least_le, h.normal⟩

theorem IsNearest.readsBack {x : ℚ} {d : Dyadic} (h : IsNearest Double.bits Double.leastExp x d) :
    d.ReadsBack x := ⟨h.low, h.high, h.even⟩

variable {d : Dyadic}

theorem Dyadic.Canonical.step_le (h : d.Canonical) : (2 : ℚ) ^ d.exp ≤ d.toRat := by
  have one : (1 : ℚ) ≤ d.mant := by exact_mod_cast h.mant_pos
  exact le_mul_of_one_le_left (by positivity) one

theorem Dyadic.Canonical.toRat_pos (h : d.Canonical) : 0 < d.toRat :=
  lt_of_lt_of_le (by positivity) h.step_le

theorem Dyadic.above_pos (d : Dyadic) : 0 < d.above := by
  unfold above
  positivity

/-- What reads back is at most half a step away. -/
theorem Dyadic.ReadsBack.abs_sub_le {x : ℚ} (h : d.ReadsBack x) : |x - d.toRat| ≤ 2 ^ d.exp / 2 := by
  have low := h.low
  have high := h.high
  have below := IsNearest.below_le Double.bits Double.leastExp d
  rw [Dyadic.above] at high
  rw [abs_le]
  constructor <;> linarith

theorem Dyadic.ReadsBack.pos {x : ℚ} (h : d.ReadsBack x) (canonical : d.Canonical) : 0 < x := by
  have step := canonical.step_le
  have pos := canonical.toRat_pos
  have := (abs_le.1 h.abs_sub_le).1
  linarith

/-- What is below a number reads back unless it is too far below. -/
theorem Dyadic.readsBack_or_below {x : ℚ} (d : Dyadic) (down : x ≤ d.toRat) :
    d.ReadsBack x ∨ d.below Double.bits Double.leastExp ≤ d.toRat - x := by
  have above := d.above_pos
  rcases lt_or_ge (d.toRat - d.below Double.bits Double.leastExp) x with inside | outside
  · exact .inl ⟨inside.le, by linarith, fun tie => tie.elim (fun low => by linarith) fun high => by linarith⟩
  · exact .inr (by linarith)

theorem Dyadic.readsBack_or_above {x : ℚ} (d : Dyadic) (up : d.toRat ≤ x) :
    d.ReadsBack x ∨ d.above ≤ x - d.toRat := by
  have below := IsNearest.below_pos Double.bits Double.leastExp d
  rcases lt_or_ge x (d.toRat + d.above) with inside | outside
  · exact .inl ⟨by linarith, inside.le, fun tie => tie.elim (fun low => by linarith) fun high => by linarith⟩
  · exact .inr (by linarith)

/-- Points of a binary and of a decimal grid are compared in whole numbers. -/
theorem exists_scale (g k : Int) : ∃ f : ℚ, 0 < f ∧ ∀ c n : Nat,
    ((c * (Nat.pow 10 (-k).toNat * Nat.pow 2 g.toNat) : Nat) : ℚ) = c * 2 ^ g * f ∧
      ((n * Nat.pow 10 k.toNat * Nat.pow 2 (-g).toNat : Nat) : ℚ) = n * 10 ^ k * f := by
  refine ⟨10 ^ (-k).toNat * 2 ^ (-g).toNat, by positivity, fun c n => ?_⟩
  rw [← pow_toNat_div_pow_toNat 2 g, ← pow_toNat_div_pow_toNat 10 k]
  simp only [Nat.pow_eq]
  push_cast
  constructor <;> field_simp

theorem intervalOf_low (h : d.Canonical) :
    ((intervalOf d).low : ℚ) * 2 ^ (intervalOf d).grid =
      d.toRat - d.below Double.bits Double.leastExp := by
  have some_mant := h.mant_pos
  simp only [intervalOf, Dyadic.below, Bool.and_eq_true, decide_eq_true_eq, Nat.pow_eq,
    two_zpow_sub_two, Dyadic.toRat]
  split_ifs <;> rw [Nat.cast_sub (by omega)] <;> push_cast <;> ring

theorem intervalOf_high (d : Dyadic) :
    ((intervalOf d).high : ℚ) * 2 ^ (intervalOf d).grid = d.toRat + d.above := by
  simp only [intervalOf, Dyadic.above, two_zpow_sub_two, Dyadic.toRat]
  push_cast
  ring

/-- **A point lies in the interval of a number exactly if it reads back.** -/
theorem Interval.holds_iff (h : d.Canonical) (n : Nat) (k : Int) :
    (intervalOf d).holds n k = true ↔ d.ReadsBack (n * 10 ^ k) := by
  obtain ⟨f, pos, scale⟩ := exists_scale (intervalOf d).grid k
  obtain ⟨low, point⟩ := scale (intervalOf d).low n
  obtain ⟨high, -⟩ := scale (intervalOf d).high n
  rw [intervalOf_low h] at low
  rw [intervalOf_high] at high
  have closed : (intervalOf d).closed = decide (d.mant % 2 = 0) := rfl
  unfold holds
  simp only [closed, decide_eq_true_eq]
  generalize (intervalOf d).low * (Nat.pow 10 (-k).toNat * Nat.pow 2 (intervalOf d).grid.toNat) = a at *
  generalize (intervalOf d).high * (Nat.pow 10 (-k).toNat * Nat.pow 2 (intervalOf d).grid.toNat) = b at *
  generalize n * Nat.pow 10 k.toNat * Nat.pow 2 (-(intervalOf d).grid).toNat = p at *
  have lower : (a ≤ p ↔ d.toRat - d.below Double.bits Double.leastExp ≤ n * 10 ^ k) ∧
      (a < p ↔ d.toRat - d.below Double.bits Double.leastExp < n * 10 ^ k) := by
    rw [← Nat.cast_le (α := ℚ), ← Nat.cast_lt (α := ℚ), low, point, mul_le_mul_iff_left₀ pos,
      mul_lt_mul_iff_left₀ pos]
    exact ⟨Iff.rfl, Iff.rfl⟩
  have upper : (p ≤ b ↔ (n * 10 ^ k : ℚ) ≤ d.toRat + d.above) ∧
      (p < b ↔ (n * 10 ^ k : ℚ) < d.toRat + d.above) := by
    rw [← Nat.cast_le (α := ℚ), ← Nat.cast_lt (α := ℚ), high, point, mul_le_mul_iff_left₀ pos,
      mul_lt_mul_iff_left₀ pos]
    exact ⟨Iff.rfl, Iff.rfl⟩
  split_ifs with even
  · rw [Bool.and_eq_true, decide_eq_true_eq, decide_eq_true_eq, lower.1, upper.1]
    exact ⟨fun ⟨l, u⟩ => ⟨l, u, fun _ => even⟩, fun r => ⟨r.low, r.high⟩⟩
  · rw [Bool.and_eq_true, decide_eq_true_eq, decide_eq_true_eq, lower.2, upper.2]
    refine ⟨fun ⟨l, u⟩ => ⟨l.le, u.le, fun tie => ?_⟩, fun r => ⟨?_, ?_⟩⟩
    · exact tie.elim (fun e => absurd e l.ne') fun e => absurd e u.ne
    · exact lt_of_le_of_ne r.low fun tie => even (r.even (.inl tie.symm))
    · exact lt_of_le_of_ne r.high fun tie => even (r.even (.inr tie))

/-! ## 2. Decimal digits -/

theorem length_digitsOf {n : Nat} (some_n : 0 < n) :
    10 ^ ((digitsOf n).length - 1) ≤ n ∧ n < 10 ^ (digitsOf n).length := by
  have pos : 0 < (digitsOf n).length := List.length_pos_iff.2 Nat.toDigits_ne_nil
  have fits {k : Nat} (some_k : 0 < k) : (digitsOf n).length ≤ k ↔ n < 10 ^ k :=
    Nat.length_toDigits_le_iff (by decide) some_k
  refine ⟨?_, (fits pos).1 le_rfl⟩
  rcases Nat.eq_zero_or_pos ((digitsOf n).length - 1) with one | more
  · rw [one]
    exact some_n
  · exact not_lt.1 fun small => absurd ((fits more).2 small) (by omega)

/-- **The decimal exponent of a quotient is that of the power of ten below it.** -/
theorem decimalExponent_spec {num den : Nat} (some_num : 0 < num) (pos : 0 < den) :
    (10 : ℚ) ^ decimalExponent num den ≤ num / den ∧
      (num : ℚ) / den < 10 ^ (decimalExponent num den + 1) := by
  have den_pos : (0 : ℚ) < den := by exact_mod_cast pos
  have num_pos : (0 : ℚ) < num := by exact_mod_cast some_num
  unfold decimalExponent
  split_ifs with large
  · have some_q : 0 < num / den := Nat.div_pos large pos
    obtain ⟨low, high⟩ := length_digitsOf some_q
    have some_digits : 0 < (digitsOf (num / den)).length := List.length_pos_iff.2 Nat.toDigits_ne_nil
    generalize (digitsOf (num / den)).length = l at *
    have exp : Int.ofNat l - 1 = ((l - 1 : Nat) : Int) := by
      rw [Int.ofNat_eq_natCast]
      omega
    rw [Int.sub_add_cancel, exp, Int.ofNat_eq_natCast, zpow_natCast, zpow_natCast, le_div_iff₀ den_pos,
      div_lt_iff₀ den_pos]
    have below := (Nat.le_div_iff_mul_le pos).1 low
    have above := (Nat.div_lt_iff_lt_mul pos).1 high
    exact ⟨by exact_mod_cast below, by exact_mod_cast above⟩
  · -- the exponent is read off the reciprocal, rounded up and less one
    have ceil : (den + num - 1) / num - 1 = (den - 1) / num := by
      rw [show den + num - 1 = den - 1 + num by omega, Nat.add_div_right _ some_num, Nat.succ_sub_one]
    rw [ceil]
    have some_q : 0 < (den - 1) / num := Nat.div_pos (by omega) some_num
    obtain ⟨low, high⟩ := length_digitsOf some_q
    have some_digits : 0 < (digitsOf ((den - 1) / num)).length :=
      List.length_pos_iff.2 Nat.toDigits_ne_nil
    generalize (digitsOf ((den - 1) / num)).length = l at *
    have exp : -(Int.ofNat l) + 1 = -((l - 1 : Nat) : Int) := by
      rw [Int.ofNat_eq_natCast]
      omega
    have below := (Nat.le_div_iff_mul_le some_num).1 low
    have above := (Nat.div_lt_iff_lt_mul some_num).1 high
    rw [exp, Int.ofNat_eq_natCast, zpow_neg, zpow_neg, zpow_natCast, zpow_natCast, inv_eq_one_div,
      inv_eq_one_div, div_le_div_iff₀ (by positivity) den_pos, div_lt_div_iff₀ den_pos (by positivity)]
    have below' : 10 ^ (l - 1) * num < den := by omega
    have above' : den ≤ 10 ^ l * num := by omega
    constructor
    · rw [one_mul, mul_comm]
      exact_mod_cast above'
    · rw [one_mul, mul_comm]
      exact_mod_cast below'

/-- The value of a decimal number: its digits as one number, of which the first stands at its place. -/
def Decimal.toRat (d : Decimal) : ℚ :=
  decimalValue d.digits * 10 ^ (d.exp + 1 - d.digits.length)

theorem withoutTrailingZeros_append (s : List Char) :
    ∃ j, s = withoutTrailingZeros s ++ List.replicate j '0' := by
  have zeros : ∀ c ∈ s.reverse.takeWhile (· == '0'), c = '0' :=
    fun c hc => by simpa using List.mem_takeWhile_imp hc
  have split := congrArg List.reverse (List.takeWhile_append_dropWhile (p := (· == '0')) (l := s.reverse))
  rw [List.reverse_append, List.reverse_reverse, List.eq_replicate_of_mem zeros,
    List.reverse_replicate] at split
  exact ⟨_, split.symm⟩

/-- No number but zero starts with a zero. -/
theorem head?_digitsOf {n : Nat} (some_n : 0 < n) : (digitsOf n).head? ≠ some '0' := by
  induction n using Nat.strong_induction_on with
  | _ n ih =>
    have small : ∀ m < 10, 0 < m → Nat.digitChar m ≠ '0' := by decide
    rw [digitsOf, Nat.toDigits_eq_if (by decide)]
    split_ifs with one
    · simpa using small n one some_n
    · obtain ⟨c, cs, first⟩ := List.exists_cons_of_ne_nil (Nat.toDigits_ne_nil (n := n / 10) (b := 10))
      have := ih (n / 10) (by omega) (by omega)
      rw [digitsOf, first] at this
      rw [first]
      exact this

/-- The digits of a decimal number that is written: there is one, and the first is no zero. -/
structure Decimal.Proper (d : Decimal) : Prop where
  given : d.digits ≠ []
  all_digits : ∀ c ∈ d.digits, Text.isDigit c = true
  leads : d.digits.head? ≠ some '0'

/-- **Digits at a power of ten have the value that they stand for**, with or without zeros at the end. -/
theorem ofScaled_spec {n : Nat} (some_n : 0 < n) (k : Int) :
    (Decimal.ofScaled n k).toRat = n * 10 ^ k ∧ (Decimal.ofScaled n k).Proper := by
  obtain ⟨j, split⟩ := withoutTrailingZeros_append (digitsOf n)
  have value : decimalValue (withoutTrailingZeros (digitsOf n)) * 10 ^ j = n := by
    have := Text.decimalValue_toDigits n
    rw [← digitsOf, split, Text.decimalValue_append, Text.decimalValue_replicate_zero,
      List.length_replicate, Nat.add_zero] at this
    exact this
  have given : withoutTrailingZeros (digitsOf n) ≠ [] := fun empty => by
    rw [empty, decimalValue, List.foldl_nil, Nat.zero_mul] at value
    omega
  have length := congrArg List.length split
  rw [List.length_append, List.length_replicate] at length
  refine ⟨?_, given, fun c hc => ?_, ?_⟩
  · have exp : k + Int.ofNat (digitsOf n).length - 1 + 1 -
        ((withoutTrailingZeros (digitsOf n)).length : Int) = k + j := by
      rw [Int.ofNat_eq_natCast]
      omega
    simp only [Decimal.toRat, Decimal.ofScaled, exp]
    rw [zpow_add₀ (by norm_num), zpow_natCast, mul_left_comm, mul_comm]
    congr 1
    exact_mod_cast value
  · exact Text.isDigit_of_mem_toDigits (split ▸ List.mem_append_left _ hc)
  · have leads := head?_digitsOf some_n
    rw [split, List.head?_append_of_ne_nil _ given] at leads
    exact leads

/-! ## 3. The search -/

/-- The point of a grid at the value of an interval, or below it. -/
def Interval.floorAt (i : Interval) (k : Int) : Nat :=
  i.value * Nat.pow 2 i.grid.toNat * Nat.pow 10 (-k).toNat /
    (Nat.pow 2 (-i.grid).toNat * Nat.pow 10 k.toNat)

/-- The number lies between this point and the next. -/
theorem floorAt_intervalOf (d : Dyadic) (k : Int) :
    (intervalOf d).floorAt k * 10 ^ k ≤ d.toRat ∧
      d.toRat < ((intervalOf d).floorAt k + 1 : Nat) * 10 ^ k := by
  have ten : (0 : ℚ) < 10 ^ k := by positivity
  have value : ((intervalOf d).value : ℚ) * 2 ^ (intervalOf d).grid = d.toRat := by
    simp only [intervalOf, Dyadic.toRat, two_zpow_sub_two]
    push_cast
    ring
  unfold Interval.floorAt
  generalize hnum : (intervalOf d).value * Nat.pow 2 (intervalOf d).grid.toNat *
    Nat.pow 10 (-k).toNat = num
  generalize hden : Nat.pow 2 (-(intervalOf d).grid).toNat * Nat.pow 10 k.toNat = den
  have pos : 0 < den := hden ▸ Nat.mul_pos (Nat.pow_pos (by decide)) (Nat.pow_pos (by decide))
  have den_pos : (0 : ℚ) < den := by exact_mod_cast pos
  have quotient : (num : ℚ) / den = d.toRat / 10 ^ k := by
    rw [← value, ← pow_toNat_div_pow_toNat 2, ← pow_toNat_div_pow_toNat 10, ← hnum, ← hden]
    simp only [Nat.pow_eq]
    push_cast
    field_simp
  rw [← le_div_iff₀ ten, ← div_lt_iff₀ ten, ← quotient, le_div_iff₀ den_pos, div_lt_iff₀ den_pos]
  constructor
  · exact_mod_cast Nat.div_mul_le_self num den
  · have next := Nat.lt_div_mul_add pos (a := num)
    rw [← Nat.succ_mul] at next
    exact_mod_cast next

/-- What is nearest to a quotient is one of its neighbours. -/
theorem nearestNat_cases (num den : Nat) :
    nearestNat num den = num / den ∨ nearestNat num den = num / den + 1 := by
  unfold nearestNat
  rcases Nat.mod_two_eq_zero_or_one (num / den) with two | two
  all_goals
    simp only [two]
    split_ifs <;> simp

/-- A neighbour that is chosen lies in the interval. -/
theorem holds_of_neighbour? {i : Interval} {k : Int} {m : Nat} (h : neighbour? i k = some m) :
    i.holds m k = true := by
  simp only [neighbour?] at h
  split at h
  · rename_i first second
    rw [← Option.some.inj h]
    rcases nearestNat_cases (i.value * Nat.pow 2 i.grid.toNat * Nat.pow 10 (-k).toNat)
      (Nat.pow 2 (-i.grid).toNat * Nat.pow 10 k.toNat) with same | same
    · rw [same, first]
    · rw [same, second]
  · rename_i first second
    exact Option.some.inj h ▸ first
  · rename_i first second
    exact Option.some.inj h ▸ second
  · cases h

/-- One is chosen if there is one in the interval. -/
theorem isSome_neighbour? {i : Interval} {k : Int}
    (h : i.holds (i.floorAt k) k = true ∨ i.holds (i.floorAt k + 1) k = true) :
    (neighbour? i k).isSome = true := by
  unfold Interval.floorAt at h
  simp only [neighbour?]
  split
  · rfl
  · rfl
  · rfl
  · rename_i first second
    rw [first, second] at h
    simp at h

/-- **One grid: the neighbours of a number on it are tried, and one that reads back is found if there is
    one.** -/
theorem neighbour?_spec (h : d.Canonical) (k : Int) :
    ∃ n : Nat, n * 10 ^ k ≤ d.toRat ∧ d.toRat < (n + 1 : Nat) * 10 ^ k ∧
      (∀ m, neighbour? (intervalOf d) k = some m → d.ReadsBack (m * 10 ^ k)) ∧
      (d.ReadsBack (n * 10 ^ k) ∨ d.ReadsBack ((n + 1 : Nat) * 10 ^ k) →
        (neighbour? (intervalOf d) k).isSome = true) := by
  obtain ⟨low, high⟩ := floorAt_intervalOf d k
  refine ⟨(intervalOf d).floorAt k, low, high, fun m found => ?_, fun either => ?_⟩
  · exact (Interval.holds_iff h m k).1 (holds_of_neighbour? found)
  · rw [← Interval.holds_iff h, ← Interval.holds_iff h] at either
    exact isSome_neighbour? either

/-- The search goes from the coarse grids to the fine ones, up to the first on which a number is
    found. -/
theorem search_spec {i : Interval} {top : Int} {places p : Nat} (from_places : places ≤ p) {more : Nat}
    (within : p < places + more) (found : (neighbour? i (top - Int.ofNat p + 1)).isSome = true) :
    ∃ q n, q ≤ p ∧ neighbour? i (top - Int.ofNat q + 1) = some n ∧
      search i top places more = Decimal.ofScaled n (top - Int.ofNat q + 1) := by
  induction more generalizing places with
  | zero => omega
  | succ more ih =>
    rw [search]
    cases here : neighbour? i (top - Int.ofNat places + 1) with
    | some n => exact ⟨places, n, from_places, here, rfl⟩
    | none =>
      have later : places ≠ p := fun same => by
        rw [← same, here] at found
        cases found
      exact ih (by omega) (by omega)

/-! ## 4. What the search finds -/

/-- The decimal exponent of a number that is not zero. -/
def Dyadic.top (d : Dyadic) : Int := decimalExponent d.ratio.1 d.ratio.2

theorem Dyadic.Canonical.top_spec (h : d.Canonical) :
    (10 : ℚ) ^ d.top ≤ d.toRat ∧ d.toRat < 10 ^ (d.top + 1) := by
  have quotient := d.ratio_div
  have num : 0 < d.ratio.1 := by
    refine Nat.pos_of_ne_zero fun none => ?_
    rw [none, Nat.cast_zero, zero_div] at quotient
    exact h.toRat_pos.ne quotient
  rw [← quotient]
  exact decimalExponent_spec num d.ratio_pos

/-- With 17 digits, one of the neighbours of a number reads back: they are closer to each other than the
    middles of the steps down and up. -/
theorem isSome_neighbour?_mostDigits (h : d.Canonical) :
    (neighbour? (intervalOf d) (d.top - Int.ofNat mostDigits + 1)).isSome = true := by
  obtain ⟨n, low, high, -, found⟩ := neighbour?_spec h (d.top - Int.ofNat mostDigits + 1)
  refine found ?_
  obtain ⟨top, -⟩ := h.top_spec
  have step : (0 : ℚ) < 2 ^ d.exp := by positivity
  have places : (10 : ℚ) ^ (d.top - Int.ofNat mostDigits + 1) * 10 ^ 16 = 10 ^ d.top := by
    rw [← zpow_natCast, ← zpow_add₀ (by norm_num)]
    congr 1
    rw [mostDigits, Int.ofNat_eq_natCast]
    omega
  have mant : (d.mant : ℚ) ≤ 2 ^ 53 := by exact_mod_cast h.mant_lt.le
  have wide := mul_le_mul_of_nonneg_right mant step.le
  have value : d.toRat = d.mant * 2 ^ d.exp := rfl
  rcases d.readsBack_or_below low with back | far
  · exact .inl back
  rcases d.readsBack_or_above high.le with back | far'
  · exact .inr back
  exfalso
  push_cast at far far'
  unfold Dyadic.above at far'
  unfold Dyadic.below at far
  split_ifs at far with power
  · have whole : (d.mant : ℚ) = 2 ^ 52 := by exact_mod_cast power.1
    rw [whole] at value
    linarith
  · linarith

/-- If a number is found with some count of digits, then the search ends there or with fewer. -/
theorem shortest_found (h : d.Canonical) {p : Nat} (some_p : 1 ≤ p ∧ p < 1 + mostDigits)
    (found : (neighbour? (intervalOf d) (d.top - Int.ofNat p + 1)).isSome = true) :
    ∃ q n : Nat, q ≤ p ∧ shortest d = Decimal.ofScaled n (d.top - Int.ofNat q + 1) ∧
      d.ReadsBack (n * 10 ^ (d.top - Int.ofNat q + 1)) ∧ 0 < n := by
  obtain ⟨q, n, earlier, here, same⟩ := search_spec some_p.1 some_p.2 found
  obtain ⟨-, -, -, back, -⟩ := neighbour?_spec h (d.top - Int.ofNat q + 1)
  have reads := back n here
  refine ⟨q, n, earlier, same, reads, Nat.pos_of_ne_zero fun none => ?_⟩
  have pos := reads.pos h
  rw [none, Nat.cast_zero, zero_mul] at pos
  exact pos.false

/-- **The search ends at a number that reads back.** -/
theorem shortest_spec (h : d.Canonical) :
    (shortest d).Proper ∧ d.ReadsBack (shortest d).toRat := by
  obtain ⟨q, n, -, same, reads, pos⟩ := shortest_found h (by decide) (isSome_neighbour?_mostDigits h)
  obtain ⟨value, proper⟩ := ofScaled_spec pos (d.top - Int.ofNat q + 1)
  rw [same, value]
  exact ⟨proper, reads⟩

/-- A decimal number of up to 15 digits that reads back stands on the grid of 15 digits. -/
theorem exists_onGrid (h : d.Canonical) (full : 2 ^ 52 ≤ d.mant) {n : Nat} {k : Int} (few : n < 10 ^ 15)
    (reads : d.ReadsBack (n * 10 ^ k)) :
    ∃ m : Nat, (n * 10 ^ k : ℚ) = m * 10 ^ (d.top - Int.ofNat 15 + 1) := by
  rcases le_or_gt (d.top - Int.ofNat 15 + 1) k with fine | coarse
  · obtain ⟨i, hi⟩ := Int.eq_ofNat_of_zero_le (by omega : 0 ≤ k - (d.top - Int.ofNat 15 + 1))
    refine ⟨n * 10 ^ i, ?_⟩
    generalize d.top - Int.ofNat 15 + 1 = g at *
    push_cast
    rw [mul_assoc, ← zpow_natCast, ← zpow_add₀ (by norm_num), ← hi, Int.sub_add_cancel]
  · -- a number of so few digits on a finer grid is too far below the power of ten to read back
    exfalso
    obtain ⟨top, -⟩ := h.top_spec
    have step : (0 : ℚ) < 2 ^ d.exp := by positivity
    have near := (abs_le.1 reads.abs_sub_le).1
    have full' : (2 : ℚ) ^ 52 ≤ d.mant := by exact_mod_cast full
    have wide := mul_le_mul_of_nonneg_right full' step.le
    have value : d.toRat = d.mant * 2 ^ d.exp := rfl
    have ten : (0 : ℚ) < 10 ^ k := by positivity
    have few' : (n : ℚ) + 1 ≤ 10 ^ 15 := by exact_mod_cast few
    have low := mul_le_mul_of_nonneg_right few' ten.le
    have high : (10 : ℚ) ^ 15 * 10 ^ k ≤ 10 ^ d.top := by
      rw [← zpow_natCast, ← zpow_add₀ (by norm_num)]
      refine zpow_le_zpow_right₀ (by norm_num) ?_
      rw [Int.ofNat_eq_natCast] at coarse
      omega
    linarith

/-- The grid of 15 digits is wider than the steps of a number with all its bits. -/
theorem step_lt_place (h : d.Canonical) (full : 2 ^ 52 ≤ d.mant) :
    (2 : ℚ) ^ d.exp < 10 ^ (d.top - Int.ofNat 15 + 1) := by
  obtain ⟨-, top⟩ := h.top_spec
  have step : (0 : ℚ) < 2 ^ d.exp := by positivity
  have full' : (2 : ℚ) ^ 52 ≤ d.mant := by exact_mod_cast full
  have wide := mul_le_mul_of_nonneg_right full' step.le
  have value : d.toRat = d.mant * 2 ^ d.exp := rfl
  have places : (10 : ℚ) ^ (d.top - Int.ofNat 15 + 1) * 10 ^ 15 = 10 ^ (d.top + 1) := by
    rw [← zpow_natCast, ← zpow_add₀ (by norm_num)]
    congr 1
    rw [Int.ofNat_eq_natCast]
    omega
  linarith

theorem lt_of_place {g : Int} {m n : Nat} (h : (m * 10 ^ g : ℚ) < n * 10 ^ g) : m < n := by
  exact_mod_cast lt_of_mul_lt_mul_right h (by positivity)

/-- What reads back is a neighbour of the number on every grid that is wider than its steps. -/
theorem Dyadic.ReadsBack.neighbour {g : Int} {m n : Nat} (reads : d.ReadsBack (m * 10 ^ g))
    (wide : (2 : ℚ) ^ d.exp < 10 ^ g) (low : n * 10 ^ g ≤ d.toRat)
    (high : d.toRat < (n + 1 : Nat) * 10 ^ g) : m = n ∨ m = n + 1 := by
  have step : (0 : ℚ) < 2 ^ d.exp := by positivity
  obtain ⟨near, near'⟩ := abs_le.1 reads.abs_sub_le
  have above : m < n + 1 + 1 := by
    refine lt_of_place (g := g) ?_
    rw [Nat.cast_add_one, add_one_mul]
    linarith
  have below : n < m + 1 := by
    refine lt_of_place (g := g) ?_
    rw [Nat.cast_add_one, add_one_mul]
    linarith
  omega

/-- No two numbers of a grid that is wider than the steps read back. -/
theorem Dyadic.ReadsBack.eq {g : Int} {m n : Nat} (reads : d.ReadsBack (m * 10 ^ g))
    (reads' : d.ReadsBack (n * 10 ^ g)) (wide : (2 : ℚ) ^ d.exp < 10 ^ g) : m = n := by
  obtain ⟨near, near'⟩ := abs_le.1 reads.abs_sub_le
  obtain ⟨far, far'⟩ := abs_le.1 reads'.abs_sub_le
  have one : m < n + 1 := by
    refine lt_of_place (g := g) ?_
    rw [Nat.cast_add_one, add_one_mul]
    linarith
  have two : n < m + 1 := by
    refine lt_of_place (g := g) ?_
    rw [Nat.cast_add_one, add_one_mul]
    linarith
  omega

/-- **A decimal number of up to 15 digits is found by the search if it reads back**: no other number of
    so few digits does. -/
theorem shortest_eq (h : d.Canonical) (full : 2 ^ 52 ≤ d.mant) {n : Nat} {k : Int} (few : n < 10 ^ 15)
    (reads : d.ReadsBack (n * 10 ^ k)) : (shortest d).toRat = n * 10 ^ k := by
  obtain ⟨m, onGrid⟩ := exists_onGrid h full few reads
  rw [onGrid] at reads ⊢
  have wide := step_lt_place h full
  -- the number is one of the neighbours, so the search ends on this grid at the latest
  have onTime : (neighbour? (intervalOf d) (d.top - Int.ofNat 15 + 1)).isSome = true := by
    obtain ⟨n, low, high, -, found⟩ := neighbour?_spec h (d.top - Int.ofNat 15 + 1)
    refine found ?_
    rcases reads.neighbour wide low high with rfl | rfl
    · exact .inl reads
    · exact .inr reads
  obtain ⟨q, n', earlier, same, reads', pos⟩ := shortest_found h (by decide) onTime
  rw [same, (ofScaled_spec pos _).1]
  have coarser : (n' * 10 ^ (d.top - Int.ofNat q + 1) : ℚ) =
      (n' * 10 ^ (15 - q) : Nat) * 10 ^ (d.top - Int.ofNat 15 + 1) := by
    rw [Nat.cast_mul, Nat.cast_pow, Nat.cast_ofNat, mul_assoc, ← zpow_natCast,
      ← zpow_add₀ (by norm_num)]
    congr 2
    simp only [Int.ofNat_eq_natCast]
    omega
  rw [coarser] at reads' ⊢
  rw [reads'.eq reads wide]

end Dataset.Number
