import ClientTransaction.Double
import ClientTransaction.Toml.Text

/-!
# Toml.Scalar — numbers, booleans and dates

Integers are of 64 bits, floats must not exceed the greatest finite one, and dates must exist in the
calendar. Digits may be separated by single underscores.
-/

namespace ClientTransaction.Toml

/-! ## Digits -/

def digitsToNat (base : Nat) (digits : List Char) : Nat :=
  digits.foldl (fun n c => n * base + (Json.hexValue? c).getD 0) 0

/-- The digits that follow, with single underscores between them; those before are in `collected`,
in reverse. -/
def readMoreDigits (isDigit : Char → Bool) (collected : List Char) : List Char → Read (List Char)
  | '_' :: c :: rest => if isDigit c then readMoreDigits isDigit (c :: collected) rest else none
  | c :: rest =>
      if isDigit c then readMoreDigits isDigit (c :: collected) rest
      else if c == '_' then none
      else some (collected.reverse, c :: rest)
  | [] => some (collected.reverse, [])

/-- One digit or more. -/
def readDigits (isDigit : Char → Bool) (cs : List Char) : Read (List Char) :=
  match cs with
  | c :: rest => if isDigit c then readMoreDigits isDigit [c] rest else none
  | [] => none

/-- An optional sign, and whether it is a minus. -/
def readSign (cs : List Char) : Bool × List Char :=
  match cs with
  | '+' :: rest => (false, rest)
  | '-' :: rest => (true, rest)
  | cs => (false, cs)

/-! ## Integers -/

/-- Decimal digits without leading zeros. -/
def readDecimal (cs : List Char) : Read (List Char) :=
  match cs with
  | '0' :: rest => some (['0'], rest)
  | cs => readDigits Char.isDigit cs

def inRange (i : Int) : Bool :=
  -0x8000000000000000 ≤ i && i < 0x8000000000000000

/-- An unsigned integer in another base, after its two characters of introduction. -/
def readRadix (base : Nat) (cs : List Char) : Read Scalar :=
  let isDigit (c : Char) : Bool := (Json.hexValue? c).any (· < base)
  match readDigits isDigit cs with
  | some (digits, rest) =>
      let n := digitsToNat base digits
      if inRange n then some (.integer n, rest) else none
  | none => none

def readInteger (cs : List Char) : Read Scalar :=
  match cs with
  | '0' :: 'x' :: rest => readRadix 16 rest
  | '0' :: 'o' :: rest => readRadix 8 rest
  | '0' :: 'b' :: rest => readRadix 2 rest
  | cs =>
      let (negative, cs) := readSign cs
      match readDecimal cs with
      | some (digits, rest) =>
          let n : Int := digitsToNat 10 digits
          let i := if negative then -n else n
          if inRange i then some (.integer i, rest) else none
      | none => none

/-! ## Floats -/

/-- Whether `digits · 10 ^ exponent` rounds to infinity. -/
def overflows (digits : Nat) (exponent : Int) : Bool :=
  if digits = 0 then false
  else
    -- Far from the bound the size decides, so that no huge power is computed.
    let size := (Nat.toDigits 10 digits).length + exponent
    if size < 300 then false
    else if 310 < size then true
    else
      let d := if 0 ≤ exponent then Double.ofRatio false (digits * Nat.pow 10 exponent.toNat) 1
        else Double.ofRatio false digits (Nat.pow 10 (-exponent).toNat)
      !d.isFinite

/-- An optional exponent part, and whether there is one. -/
def readExponentPart (cs : List Char) : Read (Option Int) :=
  let after (rest : List Char) : Read (Option Int) :=
    let (negative, rest) := readSign rest
    (readDigits Char.isDigit rest).map fun (digits, rest) =>
      let n : Int := digitsToNat 10 digits
      (some (if negative then -n else n), rest)
  match cs with
  | 'e' :: rest | 'E' :: rest => after rest
  | cs => some (none, cs)

/-- A number with a fraction, an exponent or both. -/
def readFinite (cs : List Char) : Option (Scalar × List Char) := do
  let (negative, cs) := readSign cs
  let (integer, cs) ← readDecimal cs
  let (fraction, cs) ← match cs with
    | '.' :: rest => readDigits Char.isDigit rest
    | cs => some ([], cs)
  let (exponent, cs) ← readExponentPart cs
  -- Without either it is an integer.
  if fraction.isEmpty && exponent.isNone then none
  else if !negative &&
      overflows (digitsToNat 10 (integer ++ fraction)) (exponent.getD 0 - fraction.length) then none
  else some (.float, cs)

/-- Infinity, or what is not a number. -/
def readSpecial (cs : List Char) : Read Scalar :=
  match (readSign cs).2 with
  | 'i' :: 'n' :: 'f' :: rest => some (.float, rest)
  | 'n' :: 'a' :: 'n' :: rest => some (.float, rest)
  | _ => none

/-! ## Dates and times -/

/-- A number of exactly `count` digits between two bounds. -/
def readFixed (count low high : Nat) (cs : List Char) : Read Nat :=
  let digits := cs.take count
  let n := digitsToNat 10 digits
  if digits.length = count ∧ digits.all Char.isDigit ∧ low ≤ n ∧ n ≤ high then
    some (n, cs.drop count)
  else none

def readMark (mark : Char) (cs : List Char) : Option (List Char) :=
  match cs with
  | c :: rest => if c = mark then some rest else none
  | [] => none

def daysIn (year month : Nat) : Nat :=
  let leap := year % 4 = 0 ∧ (year % 100 ≠ 0 ∨ year % 400 = 0)
  match month with
  | 2 => if leap then 29 else 28
  | 4 | 6 | 9 | 11 => 30
  | _ => 31

/-- The characters after a date. -/
def afterDate? (cs : List Char) : Option (List Char) := do
  let (year, cs) ← readFixed 4 0 9999 cs
  let (month, cs) ← readFixed 2 1 12 (← readMark '-' cs)
  let (_, cs) ← readFixed 2 1 (daysIn year month) (← readMark '-' cs)
  return cs

/-- The characters after a time of day. -/
def afterTime? (cs : List Char) : Option (List Char) := do
  let (_, cs) ← readFixed 2 0 23 cs
  let (_, cs) ← readFixed 2 0 59 (← readMark ':' cs)
  let (_, cs) ← readFixed 2 0 60 (← readMark ':' cs)
  match cs with
  | '.' :: d :: rest => if d.isDigit then some (rest.dropWhile Char.isDigit) else some cs
  | cs => some cs

/-- The characters after an optional offset from universal time. -/
def afterOffset? (cs : List Char) : Option (List Char) :=
  let hours (rest : List Char) : Option (List Char) := do
    let (_, cs) ← readFixed 2 0 23 rest
    let (_, cs) ← readFixed 2 0 59 (← readMark ':' cs)
    return cs
  match cs with
  | 'Z' :: rest | 'z' :: rest => some rest
  | '+' :: rest | '-' :: rest => hours rest
  | cs => some cs

/-- The characters after the time that may follow a date. -/
def afterDateTime? (cs : List Char) : Option (List Char) :=
  match cs with
  | c :: rest =>
      if c == 'T' || c == 't' || c == ' ' then
        -- A blank after a date need not begin a time.
        match readFixed 2 0 23 rest with
        | some (_, ':' :: _) => (afterTime? rest).bind afterOffset?
        | _ => some cs
      else some cs
  | [] => some []

/-- A date, a date with a time, or a time. -/
def readDateTime (cs : List Char) : Read Scalar :=
  match afterDate? cs with
  | some rest => (afterDateTime? rest).map fun rest => (.dateTime, rest)
  | none => (afterTime? cs).map fun rest => (.dateTime, rest)

/-! ## All -/

/-- A number or a date. -/
def readNumber (cs : List Char) : Read Scalar :=
  (readDateTime cs).orElse fun _ =>
    (readFinite cs).orElse fun _ =>
      (readSpecial cs).orElse fun _ => readInteger cs

def readScalar (cs : List Char) : Read Scalar :=
  match cs with
  | 't' :: 'r' :: 'u' :: 'e' :: rest => some (.boolean true, rest)
  | 'f' :: 'a' :: 'l' :: 's' :: 'e' :: rest => some (.boolean false, rest)
  | cs => readNumber cs

end ClientTransaction.Toml
