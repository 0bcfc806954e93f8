/-!
# Double — floating-point numbers by their bit patterns

A `Double` is the 64-bit pattern of an IEEE-754 binary64 number. Comparison and rounding are defined
on the pattern in exact natural-number arithmetic, so that equality of values can be reasoned about
without a model of floating-point hardware.
-/

namespace ClientTransaction

/-- A binary64 number: one sign bit, eleven exponent bits, fifty-two fraction bits. -/
structure Double where
  bits : UInt64
  deriving DecidableEq, Repr, Inhabited

namespace Double

/-- The pattern without its sign bit; it orders the non-negative numbers. -/
def magnitude (d : Double) : Nat :=
  d.bits.toNat % Nat.pow 2 63

def isNegative (d : Double) : Bool :=
  Nat.pow 2 63 ≤ d.bits.toNat

/-- The magnitude of infinity; every larger magnitude is a NaN. -/
def infinityMagnitude : Nat :=
  0x7ff * Nat.pow 2 52

def isNaN (d : Double) : Bool :=
  infinityMagnitude < d.magnitude

def isFinite (d : Double) : Bool :=
  d.magnitude < infinityMagnitude

def isZero (d : Double) : Bool :=
  d.magnitude == 0

/-- Numeric equality: a NaN equals nothing, the two zeros equal each other. -/
def numEq (a b : Double) : Bool :=
  !a.isNaN && !b.isNaN && (a.bits == b.bits || (a.isZero && b.isZero))

/-! ## The exact value of a finite number -/

/-- The integer `m` of the value `m · 2 ^ exponent`. -/
def significand (d : Double) : Nat :=
  if d.magnitude < Nat.pow 2 52 then d.magnitude else Nat.pow 2 52 + d.magnitude % Nat.pow 2 52

/-- The exponent of the value `significand · 2 ^ exponent`. -/
def exponent (d : Double) : Int :=
  if d.magnitude < Nat.pow 2 52 then -1074 else (d.magnitude / Nat.pow 2 52 : Nat) - 1075

/-- The absolute value of a finite number as a fraction. -/
def absRatio (d : Double) : Nat × Nat :=
  if 0 ≤ d.exponent then
    (d.significand * Nat.pow 2 d.exponent.toNat, 1)
  else
    (d.significand, Nat.pow 2 (-d.exponent).toNat)

/-! ## Rounding -/

/-- The quotient rounded to the nearest integer, a half to the even neighbour. -/
def roundHalfEven (num den : Nat) : Nat :=
  let q := num / den
  let r := 2 * (num % den)
  if r < den then q
  else if den < r then q + 1
  else q + q % 2

/-- The number with the given magnitude and sign. -/
def ofMagnitude (negative : Bool) (magnitude : Nat) : Double :=
  ⟨UInt64.ofNat (magnitude + if negative then Nat.pow 2 63 else 0)⟩

/-- The least exponent `e ≥ -1074` for which `num / den` is below `2 ^ (e + 53)`. -/
def unitExponent (num den : Nat) : Int :=
  -- The logarithms fix the exponent up to one.
  let e : Int := (Nat.log2 num : Int) - Nat.log2 den - 53
  let fits (e : Int) : Bool :=
    if 0 ≤ e + 53 then num < den * Nat.pow 2 (e + 53).toNat
    else num * Nat.pow 2 (-(e + 53)).toNat < den
  max (-1074) (if fits e then e else e + 1)

/-- The number nearest to `± num / den`, ties to even, infinity when it is out of range. -/
def ofRatio (negative : Bool) (num den : Nat) : Double :=
  if num = 0 then ofMagnitude negative 0
  else
    let e := unitExponent num den
    let m := if 0 ≤ e then roundHalfEven num (den * Nat.pow 2 e.toNat)
      else roundHalfEven (num * Nat.pow 2 (-e).toNat) den
    -- A significand of `2 ^ 53` carries into the exponent by itself.
    let magnitude := if m < Nat.pow 2 52 then m else (e + 1074).toNat * Nat.pow 2 52 + m
    ofMagnitude negative (min magnitude infinityMagnitude)

/-- The number nearest to an integer. -/
def ofInt (i : Int) : Double :=
  ofRatio (i < 0) i.natAbs 1

/-- The product of two non-negative finite numbers, rounded once. -/
def scaleUp (a b : Double) : Double :=
  ofRatio false (a.absRatio.1 * b.absRatio.1) (a.absRatio.2 * b.absRatio.2)

/-- The quotient of two positive finite numbers, rounded once. -/
def scaleDown (a b : Double) : Double :=
  ofRatio false (a.absRatio.1 * b.absRatio.2) (a.absRatio.2 * b.absRatio.1)

def neg (d : Double) : Double :=
  ⟨d.bits ^^^ 0x8000000000000000⟩

end Double

end ClientTransaction
