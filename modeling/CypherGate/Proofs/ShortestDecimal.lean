import CypherGate.Proofs.Rounding
import Mathlib.Algebra.Order.Field.Power
import Mathlib.Tactic.FieldSimp
/-!
# The shortest decimal of a magnitude

Every magnitude has a decimal of at most seventeen digits that rounds to it, and the search finds one.
Reading a decimal gives the magnitude that its value rounds to, however the decimal is written.
-/
namespace CypherGate.Binary64

def Decimal.value (d : Decimal) : ℚ := d.coefficient * (10 : ℚ) ^ d.exponent

theorem Decimal.value_nonneg (d : Decimal) : 0 ≤ d.value := by
  unfold value
  positivity

theorem Decimal.reduced_value (d : Decimal) : d.reduced.value = d.value := by
  induction d using Decimal.reduced.induct with
  | case1 d h ih =>
    rw [Decimal.reduced, dif_pos h, ih]
    have tenfold : d.coefficient = 10 * (d.coefficient / 10) := by omega
    unfold Decimal.value
    conv_rhs => rw [tenfold]
    rw [zpow_add_one₀ (by norm_num)]
    push_cast
    ring
  | case2 d h => rw [Decimal.reduced, dif_neg h]

theorem ten_zpow_of_neg {e : ℤ} (h : e < 0) : (10 : ℚ) ^ e = 1 / (10 ^ e.natAbs : ℕ) := by
  obtain ⟨k, rfl⟩ : ∃ k : ℕ, e = -k := ⟨e.natAbs, by omega⟩
  rw [Int.natAbs_neg, Int.natAbs_natCast, zpow_neg, zpow_natCast, one_div]
  push_cast
  rfl

theorem ten_zpow_of_nonneg {e : ℤ} (h : 0 ≤ e) : (10 : ℚ) ^ e = (10 ^ e.natAbs : ℕ) := by
  obtain ⟨k, rfl⟩ := Int.eq_ofNat_of_zero_le h
  rw [Int.natAbs_natCast, zpow_natCast]
  push_cast
  rfl

theorem lt_ten_pow_decimalLength (n : Nat) : n < 10 ^ decimalLength n := by
  induction n using decimalLength.induct with
  | case1 => simp [decimalLength]
  | case2 n h ih =>
    rw [decimalLength, if_neg h, pow_succ]
    omega

theorem ten_pow_decimalLength_le {n : Nat} (h : 0 < n) : 10 ^ decimalLength n ≤ 10 * n := by
  induction n using decimalLength.induct with
  | case1 => cases h
  | case2 n nonzero ih =>
    rw [decimalLength, if_neg nonzero, pow_succ]
    by_cases small : n / 10 = 0
    · rw [small, decimalLength, if_pos rfl]
      omega
    · have := ih (by omega)
      omega

theorem Decimal.value_lt (d : Decimal) :
    d.value < (10 : ℚ) ^ ((decimalLength d.coefficient : ℤ) + d.exponent) := by
  have less : (d.coefficient : ℚ) < 10 ^ decimalLength d.coefficient := by
    exact_mod_cast lt_ten_pow_decimalLength d.coefficient
  rw [zpow_add₀ (by norm_num), zpow_natCast]
  exact mul_lt_mul_of_pos_right less (by positivity)

theorem Decimal.le_value {d : Decimal} (h : 0 < d.coefficient) :
    (10 : ℚ) ^ ((decimalLength d.coefficient : ℤ) + d.exponent) ≤ 10 * d.value := by
  have le : (10 ^ decimalLength d.coefficient : ℚ) ≤ 10 * d.coefficient := by
    exact_mod_cast ten_pow_decimalLength_le h
  unfold value
  rw [zpow_add₀ (by norm_num), zpow_natCast, ← mul_assoc]
  exact mul_le_mul_of_nonneg_right le (by positivity)

theorem Rounds.one_le {n : Nat} {x : ℚ} (h : Rounds n x) (pos : 0 < n) : 1 ≤ 2 * x := by
  have large : (1 : ℚ) ≤ units n := by
    exact_mod_cast Nat.lt_of_le_of_lt (Nat.zero_le _) (units_strictMono pos)
  have low := h.low
  have before : (0 : ℚ) ≤ units (n - 1) := by positivity
  linarith

theorem Rounds.le_limit {n : Nat} {x : ℚ} (h : Rounds n x) (finite : n < magnitudeCount) :
    x ≤ units magnitudeCount := by
  have this_le : (units n : ℚ) ≤ units magnitudeCount := by
    exact_mod_cast units_strictMono.monotone finite.le
  have next_le : (units (n + 1) : ℚ) ≤ units magnitudeCount := by
    exact_mod_cast units_strictMono.monotone finite
  have high := h.high
  linarith

theorem inUnits_value_of_coefficient_eq_zero {d : Decimal} (h : d.coefficient = 0) :
    inUnits d.value = 0 := by
  unfold inUnits Decimal.value
  rw [h, Nat.cast_zero, zero_mul, zero_mul]

theorem Rounds.eq_zero_of_coefficient {d : Decimal} {n : Nat} (h : Rounds n (inUnits d.value))
    (zero : d.coefficient = 0) : n = 0 := by
  by_contra nonzero
  have low := h.one_le (Nat.pos_of_ne_zero nonzero)
  rw [inUnits_value_of_coefficient_eq_zero zero, mul_zero] at low
  exact absurd low (by norm_num)

theorem Rounds.eq_zero_of_size {d : Decimal} {n : Nat} (h : Rounds n (inUnits d.value))
    (size : (decimalLength d.coefficient : ℤ) + d.exponent < -330) : n = 0 := by
  by_contra nonzero
  have low := h.one_le (Nat.pos_of_ne_zero nonzero)
  have less : d.value < (10 : ℚ) ^ (-331 : ℤ) :=
    d.value_lt.trans_le (zpow_le_zpow_right₀ (by norm_num) (by omega))
  have scale : 2 * Nat.pow 2 1074 < 10 ^ 331 := by decide +kernel
  have scale' : (2 * Nat.pow 2 1074 : ℚ) ≤ (10 : ℚ) ^ (331 : ℤ) := by exact_mod_cast scale.le
  have : (1 : ℚ) < 1 :=
    calc (1 : ℚ) ≤ 2 * inUnits d.value := low
      _ = d.value * (2 * Nat.pow 2 1074) := by
        unfold inUnits
        ring
      _ ≤ d.value * (10 : ℚ) ^ (331 : ℤ) := mul_le_mul_of_nonneg_left scale' d.value_nonneg
      _ < (10 : ℚ) ^ (-331 : ℤ) * (10 : ℚ) ^ (331 : ℤ) :=
        mul_lt_mul_of_pos_right less (by positivity)
      _ = 1 := by
        rw [← zpow_add₀ (by norm_num)]
        rfl
  exact lt_irrefl 1 this

theorem Rounds.size_le {d : Decimal} {n : Nat} (h : Rounds n (inUnits d.value))
    (finite : n < magnitudeCount) (nonzero : d.coefficient ≠ 0) :
    (decimalLength d.coefficient : ℤ) + d.exponent ≤ 310 := by
  by_contra size
  have limit := h.le_limit finite
  have large : (10 : ℚ) ^ (311 : ℤ) ≤ 10 * d.value :=
    (zpow_le_zpow_right₀ (by norm_num) (by omega)).trans
      (Decimal.le_value (Nat.pos_of_ne_zero nonzero))
  have scale : 10 * units magnitudeCount < 10 ^ 311 * Nat.pow 2 1074 := by decide +kernel
  have scale' : (10 * units magnitudeCount : ℚ) < (10 : ℚ) ^ (311 : ℤ) * Nat.pow 2 1074 := by
    exact_mod_cast scale
  have : (10 : ℚ) ^ (311 : ℤ) * Nat.pow 2 1074 ≤ 10 * d.value * Nat.pow 2 1074 :=
    mul_le_mul_of_nonneg_right large (Nat.cast_nonneg _)
  unfold inUnits at limit
  linarith

theorem ofDecimal_of_rounds {d : Decimal} {n : Nat} (h : Rounds n (inUnits d.value))
    (finite : n < magnitudeCount) (negative : Bool) :
    ofDecimal negative d.coefficient d.exponent = .finite negative ⟨n, finite⟩ := by
  have computed : ∀ num den : Nat, 0 < den → (num / den : ℚ) = d.value →
      ofQuotient negative num den = .finite negative ⟨n, finite⟩ := by
    intro num den pos same
    have rounds := nearest_rounds num pos
    rw [same] at rounds
    unfold ofQuotient ofMagnitude
    rw [rounds.unique h, dif_pos finite]
  have small : d.coefficient = 0 ∨ (decimalLength d.coefficient : ℤ) + d.exponent < -330 →
      n = 0 := by
    rintro (zero | tiny)
    · exact h.eq_zero_of_coefficient zero
    · exact h.eq_zero_of_size tiny
  unfold ofDecimal
  simp only [Nat.pow_eq]
  split
  · obtain rfl := small ‹_›
    rfl
  · have moderate := h.size_le finite (by tauto)
    rw [if_neg (by omega)]
    split
    · refine computed _ _ (by positivity) ?_
      rw [Decimal.value, ten_zpow_of_neg ‹_›, mul_one_div]
    · refine computed _ _ Nat.one_pos ?_
      rw [Decimal.value, ten_zpow_of_nonneg (by omega)]
      push_cast
      ring

/-! ## Grids -/

theorem gridScale_pos (e : ℤ) : 0 < (gridScale e).1 ∧ 0 < (gridScale e).2 := by
  unfold gridScale
  simp only [Nat.pow_eq]
  split <;> constructor <;> positivity

theorem ten_zpow_eq_gridScale (e : ℤ) : (10 : ℚ) ^ e = (gridScale e).1 / (gridScale e).2 := by
  unfold gridScale
  simp only [Nat.pow_eq]
  split
  · rw [ten_zpow_of_neg ‹_›]
    push_cast
    rfl
  · rw [ten_zpow_of_nonneg (by omega)]
    push_cast
    ring

theorem roundsTo_iff (n : Nat) (d : Decimal) : roundsTo n d ↔ Rounds n (inUnits d.value) := by
  obtain ⟨-, one_pos⟩ := gridScale_pos d.exponent
  have one_pos' : (0 : ℚ) < (gridScale d.exponent).2 := by exact_mod_cast one_pos
  have double : Nat.pow 2 1075 = 2 * Nat.pow 2 1074 := by decide +kernel
  unfold roundsTo inUnits Decimal.value
  rw [double, ten_zpow_eq_gridScale]
  generalize Nat.pow 2 1074 = unit
  generalize gridScale d.exponent = scale at *
  clear double
  simp only
  generalize value_eq : d.coefficient * scale.1 * (2 * unit) = value
  have scaled : (value : ℚ) = 2 * (d.coefficient * (scale.1 / scale.2) * unit) * scale.2 := by
    rw [← value_eq]
    push_cast
    field_simp
  generalize (d.coefficient * (scale.1 / scale.2) * unit : ℚ) = x at *
  have le_iff : ∀ k : Nat, k * scale.2 ≤ value ↔ (k : ℚ) ≤ 2 * x := by
    intro k
    rw [← mul_le_mul_iff_of_pos_right one_pos', ← scaled]
    norm_cast
  have ge_iff : ∀ k : Nat, value ≤ k * scale.2 ↔ 2 * x ≤ (k : ℚ) := by
    intro k
    rw [← mul_le_mul_iff_of_pos_right one_pos', ← scaled]
    norm_cast
  by_cases even : n % 2 = 0
  · simp only [if_pos even, Bool.and_eq_true, decide_eq_true_eq, le_iff, ge_iff, Nat.cast_add]
    constructor
    · rintro ⟨low, high⟩
      exact ⟨low, high, fun _ => even⟩
    · intro h
      exact ⟨h.low, h.high⟩
  · simp only [if_neg even, Bool.and_eq_true, decide_eq_true_eq, ← Nat.not_le, le_iff, ge_iff,
      Nat.cast_add, not_le]
    constructor
    · rintro ⟨low, high⟩
      exact ⟨low.le, high.le, fun tie => tie.elim (absurd · low.ne') (absurd · high.ne)⟩
    · intro h
      constructor
      · exact lt_of_le_of_ne h.low fun tie => even (h.ties (.inl tie.symm))
      · exact lt_of_le_of_ne h.high fun tie => even (h.ties (.inr tie))

theorem rounds_of_onGrid? {n : Nat} {e : ℤ} {d : Decimal} (h : onGrid? n e = some d) :
    Rounds n (inUnits d.value) := by
  rw [← roundsTo_iff]
  unfold onGrid? at h
  simp only at h
  split at h
  next => cases h
  next below _ =>
    obtain rfl := Option.some.inj h
    exact below
  next _ above =>
    obtain rfl := Option.some.inj h
    exact above
  next below above =>
    obtain rfl := Option.some.inj h
    unfold roundHalfEven
    simp only
    split
    · exact below
    · exact above

theorem Rounds.of_le_units {n : Nat} {x : ℚ} (le : x ≤ units n)
    (low : (units n + units (n - 1) : ℚ) < 2 * x) : Rounds n x := by
  have next : (units n : ℚ) < units (n + 1) := by exact_mod_cast units_lt_succ n
  refine ⟨low.le, by linarith, ?_⟩
  rintro (tie | tie)
  · exact absurd tie low.ne'
  · linarith

theorem Rounds.of_units_le {n : Nat} {x : ℚ} (le : (units n : ℚ) ≤ x)
    (high : 2 * x < units n + units (n + 1)) : Rounds n x := by
  have before : (units (n - 1) : ℚ) ≤ units n := by
    exact_mod_cast units_strictMono.monotone (Nat.sub_le n 1)
  refine ⟨by linarith, high.le, ?_⟩
  rintro (tie | tie)
  · have same : (units (n - 1) : ℚ) = units n := by linarith
    have : n - 1 = n := units_strictMono.injective (by exact_mod_cast same)
    omega
  · exact absurd tie high.ne

/-- Where a grid yields nothing, the magnitude is between two of its multiples that both miss it. -/
theorem missed_of_onGrid? {n : Nat} {e : ℤ} (h : onGrid? n e = none) :
    ∃ k : Nat, ¬Rounds n (k * inUnits ((10 : ℚ) ^ e)) ∧
      ¬Rounds n ((k + 1 : ℕ) * inUnits ((10 : ℚ) ^ e)) ∧
      (k : ℚ) * inUnits ((10 : ℚ) ^ e) ≤ units n ∧
      (units n : ℚ) < (k + 1 : ℕ) * inUnits ((10 : ℚ) ^ e) := by
  have multiple : ∀ k : Nat, roundsTo n ⟨k, e⟩ = false →
      ¬Rounds n (k * inUnits ((10 : ℚ) ^ e)) := by
    intro k missed rounds
    have same : inUnits (Decimal.value ⟨k, e⟩) = k * inUnits ((10 : ℚ) ^ e) := by
      unfold inUnits Decimal.value
      ring
    rw [← same, ← roundsTo_iff, missed] at rounds
    cases rounds
  obtain ⟨grid_pos, one_pos⟩ := gridScale_pos e
  have one_pos' : (0 : ℚ) < (gridScale e).2 := by exact_mod_cast one_pos
  have step_pos := Nat.mul_pos grid_pos unit_pos
  unfold onGrid? at h
  simp only at h
  split at h
  next below above =>
    refine ⟨_, multiple _ below, multiple _ above, ?_⟩
    rw [inUnits, ten_zpow_eq_gridScale]
    generalize Nat.pow 2 1074 = unit at *
    have le := Nat.div_mul_le_self (units n * (gridScale e).2) ((gridScale e).1 * unit)
    have lt := Nat.lt_mul_div_succ (units n * (gridScale e).2) step_pos
    rw [Nat.mul_comm ((gridScale e).1 * unit)] at lt
    constructor
    · rw [div_mul_eq_mul_div, mul_div_assoc', div_le_iff₀ one_pos']
      exact_mod_cast le
    · rw [div_mul_eq_mul_div, mul_div_assoc', lt_div_iff₀ one_pos']
      exact_mod_cast lt
  all_goals cases h

/-- A grid finer than the distance between the neighbours of a magnitude has a decimal for it. -/
theorem onGrid?_isSome {n : Nat} {e : ℤ}
    (fine : 2 * inUnits ((10 : ℚ) ^ e) + units (n - 1) < units (n + 1)) : (onGrid? n e).isSome := by
  by_contra none
  obtain ⟨k, miss_below, miss_above, le, lt⟩ := missed_of_onGrid? (Option.not_isSome_iff_eq_none.mp none)
  have below : 2 * (k * inUnits ((10 : ℚ) ^ e)) ≤ units n + units (n - 1) :=
    not_lt.mp fun low => miss_below (.of_le_units le low)
  have above : (units n + units (n + 1) : ℚ) ≤ 2 * ((k + 1 : ℕ) * inUnits ((10 : ℚ) ^ e)) :=
    not_lt.mp fun high => miss_above (.of_units_le lt.le high)
  push_cast at above
  linarith

theorem ten_zpow_length_le {n unit k : Nat} (pos : 0 < n) (unit_pos : 0 < unit)
    (le : unit ≤ Nat.pow 10 k) :
    (10 : ℚ) ^ ((decimalLength (n * Nat.pow 10 k / unit) : ℤ) - (k + 1 : ℕ)) * unit ≤ n := by
  have first : 0 < n * Nat.pow 10 k / unit :=
    Nat.div_pos (le.trans (Nat.le_mul_of_pos_left _ pos)) unit_pos
  have length := ten_pow_decimalLength_le first
  have bound := Nat.div_mul_le_self (n * Nat.pow 10 k) unit
  rw [Nat.pow_eq] at length bound ⊢
  generalize n * 10 ^ k / unit = quotient at *
  have scaled : 10 ^ decimalLength quotient * unit ≤ n * 10 ^ (k + 1) :=
    calc 10 ^ decimalLength quotient * unit ≤ 10 * quotient * unit := Nat.mul_le_mul_right _ length
      _ = 10 * (quotient * unit) := Nat.mul_assoc ..
      _ ≤ 10 * (n * 10 ^ k) := Nat.mul_le_mul_left _ bound
      _ = n * 10 ^ (k + 1) := by ring
  rw [zpow_sub₀ (by norm_num), zpow_natCast, zpow_natCast, div_mul_eq_mul_div,
    div_le_iff₀ (by positivity)]
  exact_mod_cast scaled

theorem inUnits_leadingExponent {n : Nat} (h : 0 < n) :
    inUnits ((10 : ℚ) ^ leadingExponent n) ≤ units n := by
  have large : 0 < units n := Nat.lt_of_le_of_lt (Nat.zero_le _) (units_strictMono h)
  have below : Nat.pow 2 1074 ≤ Nat.pow 10 330 := by decide +kernel
  exact ten_zpow_length_le large unit_pos below

theorem shortest_rounds (n : Nat) : Rounds n (inUnits (shortest n).value) := by
  unfold shortest
  split
  next zero =>
    have nothing : inUnits (Decimal.value ⟨0, 0⟩) = 0 := inUnits_value_of_coefficient_eq_zero rfl
    rw [nothing, zero]
    constructor <;> simp
  next nonzero =>
    have pos := Nat.pos_of_ne_zero nonzero
    have finest : (onGrid? n (leadingExponent n - 16)).isSome := by
      apply onGrid?_isSome
      have spread : (2 * units n + 10 ^ 16 * units (n - 1) : ℚ) < 10 ^ 16 * units (n + 1) := by
        exact_mod_cast two_mul_units_lt pos
      have lead := inUnits_leadingExponent pos
      have tenth : inUnits ((10 : ℚ) ^ leadingExponent n) =
          10 ^ 16 * inUnits ((10 : ℚ) ^ (leadingExponent n - 16)) := by
        unfold inUnits
        rw [← mul_assoc, ← zpow_natCast (10 : ℚ) 16, ← zpow_add₀ (by norm_num)]
        congr 2
        omega
      linarith
    have found : (((List.range 17).map fun (k : Nat) => leadingExponent n - (k : ℤ)).findSome?
        (onGrid? n)).isSome := by
      rw [List.findSome?_isSome_iff]
      exact ⟨leadingExponent n - 16, List.mem_map.mpr ⟨16, by decide, rfl⟩, finest⟩
    obtain ⟨d, hd⟩ := Option.isSome_iff_exists.mp found
    obtain ⟨e, -, he⟩ := List.exists_of_findSome?_eq_some hd
    simp only [hd, Option.getD_some, Decimal.reduced_value]
    exact rounds_of_onGrid? he

theorem shortest_of_coefficient_eq_zero {n : Nat} (h : (shortest n).coefficient = 0) :
    shortest n = ⟨0, 0⟩ := by
  have zero : n = 0 := (shortest_rounds n).eq_zero_of_coefficient h
  rw [zero]
  rfl

end CypherGate.Binary64
