import ClientTransaction.Double
import ClientTransaction.Json.Reader

/-!
# Json.Number — what a spelled number denotes

A number without fraction and exponent is an integer if 64 bits can hold it. Any other number is a
float. A float is computed from its digits with at most two roundings: the digits as an integer of
64 bits, then one multiplication or division by a power of ten.
-/

namespace ClientTransaction.Json

/-- A number: an integer of 64 bits, signed or unsigned, or a float. -/
inductive Number
  | integer (i : Int)
  | float (d : Double)
  deriving Repr

namespace Number

def digitValue (c : Char) : Nat :=
  c.toNat - '0'.toNat

/-- Appends decimal digits to `significand` as long as it stays below `2 ^ 64`; the digits that do
not fit are returned. -/
def accumulate (significand : Nat) : List Char → Nat × List Char
  | c :: rest =>
      let next := significand * 10 + digitValue c
      if next < Nat.pow 2 64 then accumulate next rest else (significand, c :: rest)
  | [] => (significand, [])

/-- The greatest power of ten that a float can hold. -/
def greatestPower : Nat :=
  308

def powerOfTen (n : Nat) : Double :=
  Double.ofRatio false (Nat.pow 10 n) 1

/-- Division by `10 ^ n`, in steps of the greatest power. Two such steps bring every number below
`2 ^ 64` to zero, so four of them always suffice. -/
def divideByPower : Nat → Double → Nat → Double
  | 0, d, _ => d
  | steps + 1, d, n =>
      if d.isZero then d
      else if n ≤ greatestPower then d.scaleDown (powerOfTen n)
      else divideByPower steps (d.scaleDown (powerOfTen greatestPower)) (n - greatestPower)

/-- The float `significand · 10 ^ exponent`, unless it is out of range. -/
def ofParts? (significand : Nat) (exponent : Int) : Option Double :=
  -- The first rounding; the second is that of the product or quotient.
  let d := Double.ofInt significand
  if d.isZero then some d
  else if exponent < 0 then some (divideByPower 4 d exponent.natAbs)
  else if exponent.toNat ≤ greatestPower then
    let product := d.scaleUp (powerOfTen exponent.toNat)
    if product.isFinite then some product else none
  else none

/-- The value of an exponent part; an absent one is zero. -/
def exponentValue (cs : List Char) : Int :=
  let value (digits : List Char) : Int := (digits.foldl (fun n c => n * 10 + digitValue c) 0 : Nat)
  match cs with
  | _ :: '-' :: digits => -value digits
  | _ :: '+' :: digits => value digits
  | _ :: digits => value digits
  | [] => 0

/-- An unsigned number. Digits of the integer part that do not fit count into the exponent, digits
of the fraction that do not fit are ignored. -/
def ofUnsigned? (negative : Bool) (spelling : List Char) : Option Number :=
  let (significand, excess) := accumulate 0 (spelling.takeWhile Char.isDigit)
  let float? (significand : Nat) (exponent : Int) : Option Number :=
    (ofParts? significand exponent).map fun d => .float (if negative then d.neg else d)
  match spelling.dropWhile Char.isDigit with
  | [] =>
      if excess ≠ [] then float? significand excess.length
      else if negative then
        -- Minus zero is a float, and so is what a signed integer cannot hold.
        if significand = 0 ∨ Nat.pow 2 63 < significand then float? significand 0
        else some (.integer (-significand))
      else some (.integer significand)
  | '.' :: rest =>
      let digits := rest.takeWhile Char.isDigit
      let (significand, ignored) := accumulate significand digits
      let places := digits.length - ignored.length
      let exponent := exponentValue (rest.dropWhile Char.isDigit)
      float? significand (excess.length - (places : Int) + exponent)
  | exponent => float? significand (excess.length + exponentValue exponent)

/-- The number that a spelling denotes; `none` when it is too large for a float. -/
def ofSpelling? (spelling : List Char) : Option Number :=
  match spelling with
  | '-' :: rest => ofUnsigned? true rest
  | rest => ofUnsigned? false rest

def toInt64? : Number → Option Int64
  | .integer i =>
      if -0x8000000000000000 ≤ i ∧ i < 0x8000000000000000 then some (Int64.ofInt i) else none
  | .float _ => none

def toByte? : Number → Option UInt8
  | .integer i => if 0 ≤ i ∧ i < 256 then some (UInt8.ofNat i.toNat) else none
  | .float _ => none

/-- Every number is a float; an integer is rounded. -/
def toDouble : Number → Double
  | .integer i => Double.ofInt i
  | .float d => d

end Number

end ClientTransaction.Json
