import ClientTransaction.Double

/-!
# Decimal.Shortest — the fewest digits that read back

A binary64 number is written with the fewest significant digits whose decimal value rounds to it,
and, among those of that length, with the nearest. `Scientific` is the outcome: an integer and a
power of ten. The layout of digits, mark and exponent is a record of its own, because it belongs to
the format that is written.
-/

namespace ClientTransaction.Decimal

/-- The value `digits · 10 ^ exponent`, where `digits` does not end in zero. -/
structure Scientific where
  digits : Nat
  exponent : Int
  deriving DecidableEq, Repr

namespace Scientific

/-- Moves trailing zeros of the digits into the exponent; `fuel` bounds their number. -/
def normalize : Nat → Nat → Int → Scientific
  | fuel + 1, digits, exponent =>
      if digits ≠ 0 ∧ digits % 10 = 0 then normalize fuel (digits / 10) (exponent + 1)
      else ⟨digits, exponent⟩
  | 0, digits, exponent => ⟨digits, exponent⟩

end Scientific

/-- The reals that round to a positive finite number: `low / den` to `high / den`, around
`value / den`. The ends belong to the interval exactly when the significand is even. -/
structure Interval where
  low : Nat
  value : Nat
  high : Nat
  den : Nat
  closed : Bool
  deriving Repr

namespace Interval

/-- In quarters of the last place the interval is two wide on either side; below a power of two the
numbers stand twice as close, and it is one. -/
def ofDouble (d : Double) : Interval :=
  let m := d.significand
  -- Below the least normal number the numbers stand as close as above it, so it is not narrow.
  let narrow := d.magnitude % Nat.pow 2 52 = 0 ∧ Nat.pow 2 53 ≤ d.magnitude
  let e := d.exponent - 2
  let scale := if 0 ≤ e then Nat.pow 2 e.toNat else 1
  { low := (4 * m - if narrow then 1 else 2) * scale
    value := 4 * m * scale
    high := (4 * m + 2) * scale
    den := if 0 ≤ e then 1 else Nat.pow 2 (-e).toNat
    closed := m % 2 = 0 }

/-- Whether `digits · 10 ^ exponent` lies in the interval. -/
def contains (i : Interval) (digits : Nat) (exponent : Int) : Bool :=
  let scaled := if 0 ≤ exponent then digits * Nat.pow 10 exponent.toNat * i.den else digits * i.den
  let unit := if 0 ≤ exponent then 1 else Nat.pow 10 (-exponent).toNat
  if i.closed then i.low * unit ≤ scaled && scaled ≤ i.high * unit
  else i.low * unit < scaled && scaled < i.high * unit

/-- The value's integer quotient by `10 ^ exponent`, and the order of the remainder and one half. -/
def quotient (i : Interval) (exponent : Int) : Nat × Ordering :=
  let num := if 0 ≤ exponent then i.value else i.value * Nat.pow 10 (-exponent).toNat
  let den := if 0 ≤ exponent then i.den * Nat.pow 10 exponent.toNat else i.den
  (num / den, compare (2 * (num % den)) den)

/-- The exponent of the value's leading decimal digit. -/
def leadingExponent (i : Interval) : Int :=
  if i.den ≤ i.value then
    (Nat.toDigits 10 (i.value / i.den)).length - 1
  else
    let places := (Nat.toDigits 10 (i.den / i.value)).length
    if i.den ≤ Nat.pow 10 (places - 1) * i.value then -((places - 1 : Nat) : Int)
    else -(places : Int)

/-- The neighbour of the value with `count` significant digits that lies in the interval, if any:
of two the nearer, and of two equally near the even one. -/
def candidate? (i : Interval) (lead : Int) (count : Nat) : Option Scientific :=
  let exponent := lead - ((count : Int) - 1)
  let (below, half) := i.quotient exponent
  let above := below + 1
  match i.contains below exponent, i.contains above exponent with
  | false, false => none
  | true, false => some (Scientific.normalize 17 below exponent)
  | false, true => some (Scientific.normalize 17 above exponent)
  | true, true =>
      let nearer := match half with
        | .lt => below
        | .gt => above
        | .eq => if below % 2 = 0 then below else above
      some (Scientific.normalize 17 nearer exponent)

end Interval

/-- The shortest decimal that reads back as `d`, for a positive finite `d`. Seventeen digits always
suffice, so the default stands for no number. -/
def shortest (d : Double) : Scientific :=
  let i := Interval.ofDouble d
  let lead := i.leadingExponent
  ((List.range' 1 17).findSome? (i.candidate? lead ·)).getD ⟨d.significand, 0⟩

/-! ## Layout -/

/-- How a format spells a number: the leading exponents that are written positionally, and whether
a positive exponent has a sign. -/
structure Layout where
  leastPositional : Int
  greatestPositional : Int
  plusSign : Bool

namespace Layout

/-- The text of a positive decimal. Positional texts always have a decimal point. -/
def render (layout : Layout) (s : Scientific) : String :=
  let digits := Nat.toDigits 10 s.digits
  let lead := s.exponent + digits.length - 1
  if layout.leastPositional ≤ lead ∧ lead ≤ layout.greatestPositional then
    -- The point stands after the digits, between them, or before them.
    if 0 ≤ s.exponent then
      String.ofList (digits ++ List.replicate s.exponent.toNat '0' ++ ['.', '0'])
    else if 0 ≤ lead then
      String.ofList (digits.take (lead.toNat + 1) ++ '.' :: digits.drop (lead.toNat + 1))
    else
      String.ofList ('0' :: '.' :: List.replicate (-lead - 1).toNat '0' ++ digits)
  else
    let mantissa := match digits with
      | [d] => [d]
      | d :: rest => d :: '.' :: rest
      | [] => []
    let sign := if lead < 0 then ['-'] else if layout.plusSign then ['+'] else []
    String.ofList (mantissa ++ 'e' :: sign ++ Nat.toDigits 10 lead.natAbs)

/-- The text of a finite number. -/
def renderDouble (layout : Layout) (d : Double) : String :=
  let sign := if d.isNegative then "-" else ""
  let abs := Double.ofMagnitude false d.magnitude
  if d.isZero then sign ++ "0.0" else sign ++ layout.render (shortest abs)

end Layout

end ClientTransaction.Decimal
