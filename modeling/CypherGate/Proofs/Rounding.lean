import CypherGate.Number.Shortest
import Mathlib.Tactic.Linarith
import Mathlib.Tactic.Positivity
import Mathlib.Tactic.Ring
/-!
# Rounding to a magnitude

A magnitude is a mantissa on places of some width. A value rounds to a magnitude if it lies between the
midpoints to its two neighbours; a midpoint belongs to the even one. Every value rounds to one magnitude
only, which is the one that `nearest` computes.
-/
namespace CypherGate.Binary64

/-- A mantissa of 53 bits, whose leading bit is set unless its places are the smallest. -/
def IsMantissa (places m : Nat) : Prop := (places = 0 ∨ 2 ^ 52 ≤ m) ∧ m < 2 ^ 53

theorem exists_mantissa (n : Nat) : ∃ s m, IsMantissa s m ∧ n = s * 2 ^ 52 + m := by
  refine ⟨n / 2 ^ 52 - 1, n - (n / 2 ^ 52 - 1) * 2 ^ 52, ?_, ?_⟩
  · unfold IsMantissa
    omega
  · omega

theorem units_of_mantissa {s m : Nat} (normal : s = 0 ∨ 2 ^ 52 ≤ m) (h : m ≤ 2 ^ 53) :
    units (s * 2 ^ 52 + m) = m * 2 ^ s := by
  unfold units
  simp only [Nat.pow_eq]
  rcases Nat.lt_or_ge m (2 ^ 52) with small | large
  · obtain rfl : s = 0 := normal.resolve_right (by omega)
    rw [if_pos (by omega)]
    omega
  · rw [if_neg (by omega)]
    rcases Nat.lt_or_ge m (2 ^ 53) with below | top
    · have place : (s * 2 ^ 52 + m) / 2 ^ 52 - 1 = s := by omega
      have mantissa : 2 ^ 52 + (s * 2 ^ 52 + m) % 2 ^ 52 = m := by omega
      rw [place, mantissa]
    · obtain rfl : m = 2 ^ 53 := Nat.le_antisymm h top
      have place : (s * 2 ^ 52 + 2 ^ 53) / 2 ^ 52 - 1 = s + 1 := by omega
      have mantissa : 2 ^ 52 + (s * 2 ^ 52 + 2 ^ 53) % 2 ^ 52 = 2 ^ 52 := by omega
      rw [place, mantissa, pow_succ]
      omega

theorem units_succ_of_mantissa {s m : Nat} (h : IsMantissa s m) :
    units (s * 2 ^ 52 + m + 1) = (m + 1) * 2 ^ s := by
  obtain ⟨normal, small⟩ := h
  rw [Nat.add_assoc]
  exact units_of_mantissa (by omega) (by omega)

theorem units_pred_of_mantissa {s m : Nat} (same : s = 0 ∨ 2 ^ 52 ≤ m) (h : m < 2 ^ 53) :
    units (s * 2 ^ 52 + (m + 1) - 1) = m * 2 ^ s := by
  rw [← Nat.add_assoc, Nat.add_sub_cancel]
  exact units_of_mantissa same h.le

theorem units_lt_succ (n : Nat) : units n < units (n + 1) := by
  obtain ⟨s, m, mantissa, rfl⟩ := exists_mantissa n
  rw [units_of_mantissa mantissa.1 mantissa.2.le, units_succ_of_mantissa mantissa]
  exact Nat.mul_lt_mul_of_pos_right (Nat.lt_succ_self m) (Nat.two_pow_pos s)

theorem units_strictMono : StrictMono units := strictMono_nat_of_lt_succ units_lt_succ

@[simp] theorem units_zero : units 0 = 0 := by decide

/-- The neighbours of a magnitude are apart by far more than its value divided by `10 ^ 16`, so that
seventeen digits tell it from both. -/
theorem two_mul_units_lt {n : Nat} (h : 0 < n) :
    2 * units n + 10 ^ 16 * units (n - 1) < 10 ^ 16 * units (n + 1) := by
  obtain ⟨s, m, mantissa, rfl⟩ := exists_mantissa n
  rw [units_succ_of_mantissa mantissa, units_of_mantissa mantissa.1 mantissa.2.le]
  obtain ⟨normal, small⟩ := mantissa
  have positive : 0 < 2 ^ s := Nat.two_pow_pos s
  by_cases boundary : s = 0 ∨ 2 ^ 52 < m
  · obtain ⟨k, rfl⟩ : ∃ k, m = k + 1 := ⟨m - 1, by omega⟩
    rw [units_pred_of_mantissa (by omega) (by omega)]
    nlinarith
  · obtain ⟨t, rfl⟩ : ∃ t, s = t + 1 := ⟨s - 1, by omega⟩
    obtain rfl : m = 2 ^ 52 := by omega
    have before : units ((t + 1) * 2 ^ 52 + 2 ^ 52 - 1) = (2 ^ 53 - 1) * 2 ^ t := by
      rw [show (t + 1) * 2 ^ 52 + 2 ^ 52 - 1 = t * 2 ^ 52 + (2 ^ 53 - 1) by omega]
      exact units_of_mantissa (by omega) (by omega)
    rw [before, pow_succ]
    have := Nat.two_pow_pos t
    omega

/-- What rounding to the nearest magnitude means: the value, in units, lies between the midpoints to
the two neighbours, and on a midpoint only if the magnitude is even. -/
structure Rounds (n : Nat) (x : ℚ) : Prop where
  low : (units n + units (n - 1) : ℚ) ≤ 2 * x
  high : 2 * x ≤ units n + units (n + 1)
  ties : 2 * x = units n + units (n - 1) ∨ 2 * x = units n + units (n + 1) → n % 2 = 0

namespace Rounds

variable {n r : Nat} {x : ℚ}

theorem not_lt (h : Rounds n x) (k : Rounds r x) : ¬n < r := by
  intro lt
  have upper : units (n + 1) ≤ units r := units_strictMono.monotone (by omega)
  have lower : units n ≤ units (r - 1) := units_strictMono.monotone (by omega)
  have upper' : (units (n + 1) : ℚ) ≤ units r := by exact_mod_cast upper
  have lower' : (units n : ℚ) ≤ units (r - 1) := by exact_mod_cast lower
  have from_n := h.high
  have from_r := k.low
  have even_n := h.ties (.inr (by linarith))
  have even_r := k.ties (.inl (by linarith))
  have same : (units (n + 1) : ℚ) = units r := by linarith
  have next : n + 1 = r := units_strictMono.injective (by exact_mod_cast same)
  omega

theorem unique (h : Rounds n x) (k : Rounds r x) : n = r :=
  Nat.le_antisymm (Nat.le_of_not_lt (k.not_lt h)) (Nat.le_of_not_lt (h.not_lt k))

section

variable {s m : Nat}

theorem cast_units_of_mantissa (normal : s = 0 ∨ 2 ^ 52 ≤ m) (top : m ≤ 2 ^ 53) :
    (units (s * 2 ^ 52 + m) : ℚ) = m * 2 ^ s := by
  exact_mod_cast units_of_mantissa normal top

theorem le_upper (normal : s = 0 ∨ 2 ^ 52 ≤ m) (top : m ≤ 2 ^ 53) (fits : x < 2 ^ 53 * 2 ^ s)
    (high : 2 * x ≤ (2 * m + 1) * 2 ^ s) (ties : 2 * x = (2 * m + 1) * 2 ^ s → m % 2 = 0) :
    2 * x ≤ units (s * 2 ^ 52 + m) + units (s * 2 ^ 52 + m + 1) ∧
      (2 * x = units (s * 2 ^ 52 + m) + units (s * 2 ^ 52 + m + 1) → m % 2 = 0) := by
  have value := cast_units_of_mantissa normal top
  rcases Nat.lt_or_ge m (2 ^ 53) with below | largest
  · rw [value, units_succ_of_mantissa ⟨normal, below⟩]
    push_cast
    constructor
    · linarith
    · intro tie
      exact ties (by linarith)
  · have less : (units (s * 2 ^ 52 + m) : ℚ) < units (s * 2 ^ 52 + m + 1) := by
      exact_mod_cast units_lt_succ _
    have : (m : ℚ) = 2 ^ 53 := by exact_mod_cast Nat.le_antisymm top largest
    rw [this] at value
    constructor
    · linarith
    · intro tie
      linarith

theorem lower_le (normal : s = 0 ∨ 2 ^ 52 ≤ m) (top : m ≤ 2 ^ 53) (nonneg : 0 ≤ x)
    (large : s = 0 ∨ 2 ^ 52 * 2 ^ s ≤ x) (low : (2 * m - 1) * 2 ^ s ≤ 2 * x)
    (ties : 2 * x = (2 * m - 1) * 2 ^ s → m % 2 = 0) :
    (units (s * 2 ^ 52 + m) : ℚ) + units (s * 2 ^ 52 + m - 1) ≤ 2 * x ∧
      (2 * x = units (s * 2 ^ 52 + m) + units (s * 2 ^ 52 + m - 1) → m % 2 = 0) := by
  have value := cast_units_of_mantissa normal top
  by_cases boundary : s = 0 ∨ 2 ^ 52 < m
  · cases m with
    | zero =>
      obtain rfl : s = 0 := by omega
      constructor
      · simpa using nonneg
      · intro tie
        rfl
    | succ k =>
      rw [value, units_pred_of_mantissa (by omega) (by omega)]
      push_cast at low ties ⊢
      constructor
      · linarith
      · intro tie
        exact ties (by linarith)
  · have least : m = 2 ^ 52 := by omega
    have less : (units (s * 2 ^ 52 + m - 1) : ℚ) < units (s * 2 ^ 52 + m) := by
      exact_mod_cast units_strictMono (by omega)
    have large' := large.resolve_left (by omega)
    have : (m : ℚ) = 2 ^ 52 := by exact_mod_cast least
    rw [this] at value
    constructor
    · linarith
    · intro tie
      linarith

theorem of_mantissa (nonneg : 0 ≤ x) (large : s = 0 ∨ 2 ^ 52 * 2 ^ s ≤ x)
    (fits : x < 2 ^ 53 * 2 ^ s) (low : (2 * m - 1) * 2 ^ s ≤ 2 * x)
    (high : 2 * x ≤ (2 * m + 1) * 2 ^ s)
    (ties : 2 * x = (2 * m - 1) * 2 ^ s ∨ 2 * x = (2 * m + 1) * 2 ^ s → m % 2 = 0) :
    Rounds (s * 2 ^ 52 + m) x := by
  have positive : (0 : ℚ) < 2 ^ s := by positivity
  have normal : s = 0 ∨ 2 ^ 52 ≤ m := by
    refine large.imp_right fun le => ?_
    have : (2 ^ 53 : ℚ) * 2 ^ s ≤ (2 * m + 1) * 2 ^ s := by linarith
    have : (2 ^ 53 : ℚ) ≤ 2 * m + 1 := le_of_mul_le_mul_right this positive
    have : 2 ^ 53 ≤ 2 * m + 1 := by exact_mod_cast this
    omega
  have top : m ≤ 2 ^ 53 := by
    have : (2 * m - 1 : ℚ) * 2 ^ s < 2 ^ 54 * 2 ^ s := by linarith
    have : (2 * m - 1 : ℚ) < 2 ^ 54 := lt_of_mul_lt_mul_right this positive.le
    have : (2 * m : ℚ) < 2 ^ 54 + 1 := by linarith
    have : 2 * m < 2 ^ 54 + 1 := by exact_mod_cast this
    omega
  have parity : (s * 2 ^ 52 + m) % 2 = m % 2 := by omega
  have above := le_upper normal top fits high fun tie => ties (.inr tie)
  have below := lower_le normal top nonneg large low fun tie => ties (.inl tie)
  rw [← parity] at above below
  exact ⟨below.1, above.1, fun tie => tie.elim below.2 above.2⟩

end

end Rounds

theorem roundHalfEven_spec (a : Nat) {b : Nat} (h : 0 < b) :
    2 * roundHalfEven a b * b ≤ 2 * a + b ∧ 2 * a ≤ (2 * roundHalfEven a b + 1) * b ∧
      (2 * roundHalfEven a b * b = 2 * a + b ∨ 2 * a = (2 * roundHalfEven a b + 1) * b →
        roundHalfEven a b % 2 = 0) := by
  have division := Nat.div_add_mod a b
  have rest := Nat.mod_lt a h
  unfold roundHalfEven
  simp only
  generalize a / b = q at *
  generalize a % b = r at *
  have down : 2 * q * b = 2 * (b * q) := by ring
  have up : 2 * (q + 1) * b = 2 * (b * q) + 2 * b := by ring
  split
  · rw [Nat.add_mul, down]
    omega
  · rw [Nat.add_mul, up]
    omega

/-- A value as a multiple of the smallest magnitude. -/
def inUnits (value : ℚ) : ℚ := value * Nat.pow 2 1074

theorem unit_pos : 0 < Nat.pow 2 1074 := by decide +kernel

/-- The places of a quotient: a mantissa of 53 bits holds it, and 52 bits do not unless the places are
the smallest. -/
theorem places_bounds (scaled : Nat) {den : Nat} (h : 0 < den) :
    scaled < 2 ^ 53 * 2 ^ ((scaled / den).log2 - 52) * den ∧
      ((scaled / den).log2 - 52 = 0 ∨ 2 ^ 52 * 2 ^ ((scaled / den).log2 - 52) * den ≤ scaled) := by
  generalize places_eq : (scaled / den).log2 - 52 = places
  constructor
  · have : scaled / den < 2 ^ (53 + places) := by
      by_cases zero : scaled / den = 0
      · rw [zero]
        positivity
      · exact (Nat.log2_lt zero).mp (by omega)
    rw [pow_add] at this
    exact (Nat.div_lt_iff_lt_mul h).mp this
  · rcases Nat.eq_zero_or_pos places with zero | pos
    · exact .inl zero
    · have nonzero : scaled / den ≠ 0 := by
        intro zero
        rw [zero] at places_eq
        simp at places_eq
        omega
      have : 2 ^ (52 + places) ≤ scaled / den := by
        rw [show 52 + places = (scaled / den).log2 by omega]
        exact Nat.log2_self_le nonzero
      rw [pow_add] at this
      exact .inr ((Nat.le_div_iff_mul_le h).mp this)

theorem nearest_rounds (num : Nat) {den : Nat} (h : 0 < den) :
    Rounds (nearest num den) (inUnits (num / den)) := by
  unfold nearest inUnits
  generalize Nat.pow 2 1074 = one
  have cast : (num / den * one : ℚ) = (num * one : ℕ) / den := by
    push_cast
    ring
  rw [cast]
  generalize num * one = scaled
  simp only [Nat.pow_eq]
  have den_pos : (0 : ℚ) < den := by exact_mod_cast h
  obtain ⟨below, above⟩ := places_bounds scaled h
  generalize (scaled / den).log2 - 52 = places at *
  have step_pos : 0 < den * 2 ^ places := by positivity
  obtain ⟨low, high, ties⟩ := roundHalfEven_spec scaled step_pos
  generalize roundHalfEven scaled (den * 2 ^ places) = m at *
  have low' : (2 * m * (den * 2 ^ places) : ℚ) ≤ 2 * scaled + den * 2 ^ places := by
    exact_mod_cast low
  have high' : (2 * scaled : ℚ) ≤ (2 * m + 1) * (den * 2 ^ places) := by exact_mod_cast high
  apply Rounds.of_mantissa
  · positivity
  · refine above.imp_right fun le => ?_
    rw [le_div_iff₀ den_pos]
    exact_mod_cast le
  · rw [div_lt_iff₀ den_pos]
    exact_mod_cast below
  · rw [mul_div_assoc', le_div_iff₀ den_pos]
    linarith
  · rw [mul_div_assoc', div_le_iff₀ den_pos]
    linarith
  · rw [mul_div_assoc', div_eq_iff den_pos.ne', div_eq_iff den_pos.ne']
    rintro (tie | tie)
    · refine ties (.inl ?_)
      have : (2 * m * (den * 2 ^ places) : ℚ) = 2 * scaled + den * 2 ^ places := by linarith
      exact_mod_cast this
    · refine ties (.inr ?_)
      have : (2 * scaled : ℚ) = (2 * m + 1) * (den * 2 ^ places) := by linarith
      exact_mod_cast this

end CypherGate.Binary64
