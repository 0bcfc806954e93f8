import ClientTransaction.Decimal.Shortest

/-!
# Json.Text — writing JSON

Texts are written with the escapes that JSON requires and no others, numbers with the fewest digits
that read back, and nothing is written between tokens.
-/

namespace ClientTransaction.Json

/-- Two hexadecimal digits of a number below 256. -/
def hexPair (n : Nat) : List Char :=
  [Nat.digitChar (n / 16), Nat.digitChar (n % 16)]

/-- The spelling of one character inside a text: the quote, the backslash and the controls below the
space are escaped. -/
def escapeChar (c : Char) : List Char :=
  match c with
  | '"' => ['\\', '"']
  | '\\' => ['\\', '\\']
  | '\x08' => ['\\', 'b']
  | '\t' => ['\\', 't']
  | '\n' => ['\\', 'n']
  | '\x0c' => ['\\', 'f']
  | '\r' => ['\\', 'r']
  | c => if c.toNat < 0x20 then '\\' :: 'u' :: '0' :: '0' :: hexPair c.toNat else [c]

def writeString (s : String) : String :=
  String.ofList ('"' :: s.toList.flatMap escapeChar ++ ['"'])

/-- Numbers are positional from a hundred-thousandth up to below ten quadrillion, and positive
exponents have a sign. -/
def numberLayout : Decimal.Layout :=
  { leastPositional := -5, greatestPositional := 15, plusSign := true }

/-- A number, or `null` for what is not finite. -/
def writeDouble (d : Double) : String :=
  if d.isFinite then numberLayout.renderDouble d else "null"

def writeBool (b : Bool) : String :=
  if b then "true" else "false"

def writeArray (items : List String) : String :=
  "[" ++ ",".intercalate items ++ "]"

/-- An object with these entries, each value already written. -/
def writeObject (entries : List (String × String)) : String :=
  "\x7b" ++ ",".intercalate (entries.map fun (k, v) => writeString k ++ ":" ++ v) ++ "\x7d"

end ClientTransaction.Json
