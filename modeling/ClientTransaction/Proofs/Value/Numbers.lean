import ClientTransaction.Double
import Mathlib.Order.Monotone.Basic
import Mathlib.Tactic.Ring

/-!
# Value.Numbers — floats are equal when they stand for the same number

A pattern of bits stands for a number unless it is a NaN. Every finite number is a multiple of the
least positive one, so it is an integer in this unit. Two patterns of which neither is a NaN stand
for the same number exactly if they are the same or both are a zero, and this is how floats are
compared.
-/

namespace ClientTransaction.Double

/-! ## What a pattern stands for -/

/-- A number that is not a NaN. -/
inductive Number
  /-- A multiple of the least positive number. -/
  | finite (units : Int)
  | infinite (negative : Bool)
  deriving DecidableEq, Repr

/-- The absolute value of a finite number in units of the least positive one. -/
def units (d : Double) : Nat :=
  d.significand * 2 ^ (d.exponent + 1074).toNat

/-- What the pattern stands for, if it is not a NaN. -/
def number? (d : Double) : Option Number :=
  if d.isNaN then none
  else if d.isFinite then some (.finite (if d.isNegative then -d.units else d.units))
  else some (.infinite d.isNegative)

/-! ## Magnitudes -/

/-- The absolute value of the number of a magnitude. -/
def unitsOf (magnitude : Nat) : Nat :=
  if magnitude < 2 ^ 52 then magnitude
  else (2 ^ 52 + magnitude % 2 ^ 52) * 2 ^ (magnitude / 2 ^ 52 - 1)

theorem units_eq_unitsOf (d : Double) : d.units = unitsOf d.magnitude := by
  by_cases hsmall : d.magnitude < 2 ^ 52
  · have hexponent : (d.exponent + 1074).toNat = 0 := by
      simp only [exponent, Nat.pow_eq, hsmall, if_true]
      rfl
    simp only [units, unitsOf, significand, hexponent, Nat.pow_eq, hsmall, if_true, pow_zero,
      mul_one]
  · have hexponent : (d.exponent + 1074).toNat = d.magnitude / 2 ^ 52 - 1 := by
      simp only [exponent, Nat.pow_eq, hsmall, if_false]
      omega
    simp only [units, unitsOf, significand, hexponent, Nat.pow_eq, hsmall, if_false]

/-- The next magnitude belongs to a greater number, also where the exponent is carried into. -/
theorem unitsOf_lt_succ (m : Nat) : unitsOf m < unitsOf (m + 1) := by
  by_cases hsmall : m + 1 < 2 ^ 52
  · have hm : m < 2 ^ 52 := by omega
    simp only [unitsOf, hsmall, hm, if_true]
    exact Nat.lt_succ_self m
  by_cases hfirst : m < 2 ^ 52
  · -- The first number with an exponent of its own follows the last one without.
    obtain rfl : m = 2 ^ 52 - 1 := by omega
    decide
  have hm1 : ¬ m + 1 < 2 ^ 52 := hsmall
  by_cases hcarry : m % 2 ^ 52 + 1 < 2 ^ 52
  · have hquot : (m + 1) / 2 ^ 52 = m / 2 ^ 52 := by omega
    have hrem : (m + 1) % 2 ^ 52 = m % 2 ^ 52 + 1 := by omega
    simp only [unitsOf, hfirst, hm1, if_false, hquot, hrem]
    exact Nat.mul_lt_mul_of_pos_right (by omega) (Nat.two_pow_pos _)
  · have hquot : (m + 1) / 2 ^ 52 - 1 = m / 2 ^ 52 - 1 + 1 := by omega
    have hrem : (m + 1) % 2 ^ 52 = 0 := by omega
    simp only [unitsOf, hfirst, hm1, if_false, hquot, hrem]
    calc
      (2 ^ 52 + m % 2 ^ 52) * 2 ^ (m / 2 ^ 52 - 1)
          < (2 ^ 52 + 2 ^ 52) * 2 ^ (m / 2 ^ 52 - 1) :=
            Nat.mul_lt_mul_of_pos_right (by omega) (Nat.two_pow_pos _)
      _ = (2 ^ 52 + 0) * 2 ^ (m / 2 ^ 52 - 1 + 1) := by ring

theorem unitsOf_strictMono : StrictMono unitsOf :=
  strictMono_nat_of_lt_succ unitsOf_lt_succ

/-- Numbers of different magnitudes are different. -/
theorem units_eq_iff {d e : Double} : d.units = e.units ↔ d.magnitude = e.magnitude := by
  simp only [units_eq_unitsOf]
  exact unitsOf_strictMono.injective.eq_iff

theorem units_eq_zero_iff {d : Double} : d.units = 0 ↔ d.magnitude = 0 := by
  have hzero : unitsOf 0 = 0 := by decide
  rw [units_eq_unitsOf, ← hzero]
  exact unitsOf_strictMono.injective.eq_iff

/-! ## Equality -/

/-- A pattern is its sign and its magnitude. -/
theorem eq_iff {d e : Double} :
    d = e ↔ d.isNegative = e.isNegative ∧ d.magnitude = e.magnitude := by
  constructor
  · rintro rfl
    exact ⟨rfl, rfl⟩
  · rintro ⟨hsign, hmagnitude⟩
    have hsign' : 2 ^ 63 ≤ d.bits.toNat ↔ 2 ^ 63 ≤ e.bits.toNat := by
      simpa [isNegative] using hsign
    have hmagnitude' : d.bits.toNat % 2 ^ 63 = e.bits.toNat % 2 ^ 63 := hmagnitude
    have hd := d.bits.toNat_lt
    have he := e.bits.toNat_lt
    have hbits : d.bits.toNat = e.bits.toNat := by omega
    cases d
    cases e
    exact congrArg mk (UInt64.toNat_inj.1 hbits)

theorem numEq_iff_eq_or_zero {d e : Double} : d.numEq e = true ↔
    d.isNaN = false ∧ e.isNaN = false ∧ (d = e ∨ d.isZero = true ∧ e.isZero = true) := by
  have hbits : (d.bits == e.bits) = true ↔ d = e := by
    rw [beq_iff_eq]
    exact ⟨fun h => by cases d; cases e; exact congrArg mk h, congrArg bits⟩
  simp only [numEq, Bool.and_eq_true, Bool.not_eq_true', Bool.or_eq_true, hbits, and_assoc]

/-- Whether two signed integers are the same is a matter of their signs and absolute values. -/
theorem signed_eq_iff {s t : Bool} {m n : Nat} :
    (if s then -(m : Int) else m) = (if t then -(n : Int) else n) ↔
      m = n ∧ (s = t ∨ m = 0) := by
  cases s <;> cases t <;> simp <;> omega

section

variable {d e : Double}

theorem isZero_iff : d.isZero = true ↔ d.magnitude = 0 := by
  simp [isZero]

theorem isFinite_iff : d.isFinite = true ↔ d.magnitude < infinityMagnitude := by
  simp [isFinite]

theorem isNaN_of_isZero (h : d.isZero = true) : d.isNaN = false := by
  simp [isNaN, isZero_iff.1 h]

/-- There is only one infinite magnitude. -/
theorem magnitude_of_infinite (hn : d.isNaN = false) (hf : ¬ d.isFinite = true) :
    d.magnitude = infinityMagnitude := by
  have hle : d.magnitude ≤ infinityMagnitude := by simpa [isNaN] using hn
  have hge : infinityMagnitude ≤ d.magnitude := by simpa [isFinite] using hf
  exact Nat.le_antisymm hle hge

theorem number?_of_finite (hn : d.isNaN = false) (hf : d.isFinite = true) :
    d.number? = some (.finite (if d.isNegative then -d.units else d.units)) := by
  simp [number?, hn, hf]

theorem number?_of_infinite (hn : d.isNaN = false) (hf : ¬ d.isFinite = true) :
    d.number? = some (.infinite d.isNegative) := by
  simp [number?, hn, hf]

/-- Two patterns stand for the same number exactly if they agree but for the sign of a zero. -/
theorem number?_eq_iff (hd : d.isNaN = false) (he : e.isNaN = false) :
    d.number? = e.number? ↔ d = e ∨ d.isZero = true ∧ e.isZero = true := by
  have hpos : infinityMagnitude ≠ 0 := by decide
  rw [eq_iff, isZero_iff, isZero_iff]
  by_cases hdf : d.isFinite = true <;> by_cases hef : e.isFinite = true
  · rw [number?_of_finite hd hdf, number?_of_finite he hef, Option.some.injEq, Number.finite.injEq,
      signed_eq_iff, units_eq_iff, units_eq_zero_iff]
    constructor
    · rintro ⟨hm, hs | hz⟩
      · exact .inl ⟨hs, hm⟩
      · exact .inr ⟨hz, hm ▸ hz⟩
    · rintro (⟨hs, hm⟩ | ⟨hz, hz'⟩)
      · exact ⟨hm, .inl hs⟩
      · exact ⟨hz.trans hz'.symm, .inr hz⟩
  · -- No finite number has the magnitude of infinity.
    have hlt := isFinite_iff.1 hdf
    have hmagnitude := magnitude_of_infinite he hef
    rw [number?_of_finite hd hdf, number?_of_infinite he hef]
    simp only [Option.some.injEq, reduceCtorEq, false_iff]
    omega
  · have hlt := isFinite_iff.1 hef
    have hmagnitude := magnitude_of_infinite hd hdf
    rw [number?_of_infinite hd hdf, number?_of_finite he hef]
    simp only [Option.some.injEq, reduceCtorEq, false_iff]
    omega
  · have hsame := magnitude_of_infinite hd hdf
    have hsame' := magnitude_of_infinite he hef
    rw [number?_of_infinite hd hdf, number?_of_infinite he hef]
    simp [hsame, hsame', hpos]

/-- Floats are equal exactly if they stand for the same number. -/
theorem numEq_iff_number : d.numEq e = true ↔ ∃ x, d.number? = some x ∧ e.number? = some x := by
  have hnone {f : Double} (hf : f.isNaN = true) : f.number? = none := by simp [number?, hf]
  have hsome {f : Double} (hf : f.isNaN = false) : ∃ x, f.number? = some x := by
    by_cases hfinite : f.isFinite = true
    · exact ⟨_, number?_of_finite hf hfinite⟩
    · exact ⟨_, number?_of_infinite hf hfinite⟩
  rw [numEq_iff_eq_or_zero]
  constructor
  · rintro ⟨hd, he, hagree⟩
    obtain ⟨x, hx⟩ := hsome hd
    exact ⟨x, hx, ((number?_eq_iff hd he).2 hagree).symm.trans hx⟩
  · rintro ⟨x, hdx, hex⟩
    have hd : d.isNaN = false := Bool.eq_false_iff.2 fun h => by simp [hnone h] at hdx
    have he : e.isNaN = false := Bool.eq_false_iff.2 fun h => by simp [hnone h] at hex
    exact ⟨hd, he, (number?_eq_iff hd he).1 (hdx.trans hex.symm)⟩

end

/-- The two zeros stand for one number, and the least positive number is another one. -/
example :
    (mk 0x8000000000000000).number? = (mk 0).number? ∧
      (mk 1).number? = some (.finite 1) ∧ (mk 0x7ff8000000000000).number? = none := by
  decide

end ClientTransaction.Double
