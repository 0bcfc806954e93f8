import ClientTransaction.Json

/-!
# Json.Reader — from text to document

A recursive descent over the characters. `Json.read?` accepts exactly the texts that hold one value
between blanks. The readers of values carry a bound on their remaining calls; every two calls
consume a character, so the bound that `read?` computes from the text is never reached.
-/

namespace ClientTransaction.Json

/-- What a reader returns: its result and the characters after it, or `none` for a bad text. -/
abbrev Read (α : Type) :=
  Option (α × List Char)

def isBlank (c : Char) : Bool :=
  c == ' ' || c == '\n' || c == '\t' || c == '\r'

def skipBlanks (cs : List Char) : List Char :=
  cs.dropWhile isBlank

/-! ## Numbers -/

/-- One digit or more. -/
def readDigits (cs : List Char) : Read (List Char) :=
  match cs.takeWhile Char.isDigit with
  | [] => none
  | digits => some (digits, cs.dropWhile Char.isDigit)

/-- An optional fraction: a point and digits. -/
def readFraction (cs : List Char) : Read (List Char) :=
  match cs with
  | '.' :: rest => (readDigits rest).map fun (digits, rest) => ('.' :: digits, rest)
  | cs => some ([], cs)

/-- An optional exponent: a mark, an optional sign and digits. -/
def readExponent (cs : List Char) : Read (List Char) :=
  let signed (mark : Char) (cs : List Char) : Read (List Char) :=
    match cs with
    | '+' :: rest => (readDigits rest).map fun (digits, rest) => (mark :: '+' :: digits, rest)
    | '-' :: rest => (readDigits rest).map fun (digits, rest) => (mark :: '-' :: digits, rest)
    | cs => (readDigits cs).map fun (digits, rest) => (mark :: digits, rest)
  match cs with
  | 'e' :: rest => signed 'e' rest
  | 'E' :: rest => signed 'E' rest
  | cs => some ([], cs)

/-- An integer part without leading zeros. -/
def readInteger (cs : List Char) : Read (List Char) :=
  match readDigits cs with
  -- A zero stands alone.
  | some ('0' :: _ :: _, _) => none
  | result => result

/-- The spelling of an unsigned number. -/
def readUnsigned (cs : List Char) : Option (List Char × List Char) := do
  let (integer, cs) ← readInteger cs
  let (fraction, cs) ← readFraction cs
  let (exponent, cs) ← readExponent cs
  return (integer ++ fraction ++ exponent, cs)

/-- The spelling of a number. -/
def readNumber (cs : List Char) : Read (List Char) :=
  match cs with
  | '-' :: rest => (readUnsigned rest).map fun (spelling, rest) => ('-' :: spelling, rest)
  | cs => readUnsigned cs

/-! ## Texts -/

def hexValue? (c : Char) : Option Nat :=
  if '0' ≤ c ∧ c ≤ '9' then some (c.toNat - '0'.toNat)
  else if 'a' ≤ c ∧ c ≤ 'f' then some (c.toNat - 'a'.toNat + 10)
  else if 'A' ≤ c ∧ c ≤ 'F' then some (c.toNat - 'A'.toNat + 10)
  else none

/-- The number that four hexadecimal digits spell. -/
def hexUnit? (a b c d : Char) : Option Nat := do
  let a ← hexValue? a
  let b ← hexValue? b
  let c ← hexValue? c
  let d ← hexValue? d
  return ((a * 16 + b) * 16 + c) * 16 + d

def isHighSurrogate (n : Nat) : Bool :=
  0xd800 ≤ n && n ≤ 0xdbff

def isLowSurrogate (n : Nat) : Bool :=
  0xdc00 ≤ n && n ≤ 0xdfff

def combineSurrogates (high low : Nat) : Char :=
  Char.ofNat (0x10000 + (high - 0xd800) * 0x400 + (low - 0xdc00))

/-- The character of an escape of one letter. -/
def shortEscape? (c : Char) : Option Char :=
  match c with
  | '"' => some '"'
  | '\\' => some '\\'
  | '/' => some '/'
  | 'b' => some '\x08'
  | 'f' => some '\x0c'
  | 'n' => some '\n'
  | 'r' => some '\r'
  | 't' => some '\t'
  | _ => none

/-- The characters up to the closing quote, collected in reverse; `meaningful` tells whether no half
of a surrogate pair has been met. -/
def readStringTail (meaningful : Bool) (collected : List Char) : List Char → Read (Option String)
  | '"' :: rest =>
      some (if meaningful then some (String.ofList collected.reverse) else none, rest)
  | '\\' :: 'u' :: a :: b :: c :: d :: rest =>
      match hexUnit? a b c d with
      | none => none
      | some unit =>
          -- A high half must be followed by a low one, and a low half may not come first. The text
          -- goes on all the same: one that is only skipped may hold anything.
          if isHighSurrogate unit then
            match rest with
            | '\\' :: 'u' :: a' :: b' :: c' :: d' :: rest' =>
                match hexUnit? a' b' c' d' with
                | none => none
                | some next =>
                    if isLowSurrogate next then
                      readStringTail meaningful (combineSurrogates unit next :: collected) rest'
                    else
                      -- Both escapes are used up, whatever the second one stands for.
                      readStringTail false collected rest'
            | rest => readStringTail false collected rest
          else if isLowSurrogate unit then
            readStringTail false collected rest
          else
            readStringTail meaningful (Char.ofNat unit :: collected) rest
  | '\\' :: c :: rest =>
      match shortEscape? c with
      | none => none
      | some e => readStringTail meaningful (e :: collected) rest
  | c :: rest =>
      if c = '\\' ∨ c.toNat < 0x20 then none else readStringTail meaningful (c :: collected) rest
  | [] => none

/-! ## Values -/

/-- A fixed word and the value it stands for. -/
def readWord (word : List Char) (value : Json) (cs : List Char) : Read Json :=
  if word.isPrefixOf cs then some (value, cs.drop word.length) else none

mutual

/-- A value; blanks before it are skipped. -/
def readValue : Nat → List Char → Read Json
  | 0, _ => none
  | fuel + 1, cs =>
      match skipBlanks cs with
      | '"' :: rest => (readStringTail true [] rest).map fun (text, rest) => (.string text, rest)
      | '[' :: rest =>
          match skipBlanks rest with
          | ']' :: rest => some (.array [], rest)
          | rest => readItems fuel [] rest
      | '\x7b' :: rest =>
          match skipBlanks rest with
          | '\x7d' :: rest => some (.object [], rest)
          | rest => readEntries fuel [] rest
      | 'n' :: rest => readWord ['u', 'l', 'l'] .null rest
      | 't' :: rest => readWord ['r', 'u', 'e'] (.bool true) rest
      | 'f' :: rest => readWord ['a', 'l', 's', 'e'] (.bool false) rest
      | rest => (readNumber rest).map fun (spelling, rest) => (.number spelling, rest)

/-- The items of an array from the next one on; those before it are in `items`, in reverse. -/
def readItems : Nat → List Json → List Char → Read Json
  | 0, _, _ => none
  | fuel + 1, items, cs =>
      match readValue fuel cs with
      | none => none
      | some (item, rest) =>
          match skipBlanks rest with
          | ',' :: rest => readItems fuel (item :: items) rest
          | ']' :: rest => some (.array (item :: items).reverse, rest)
          | _ => none

/-- The entries of an object from the next one on; those before it are in `entries`, in reverse. -/
def readEntries : Nat → List (Option String × Json) → List Char → Read Json
  | 0, _, _ => none
  | fuel + 1, entries, cs =>
      match skipBlanks cs with
      | '"' :: rest =>
          match readStringTail true [] rest with
          | none => none
          | some (key, rest) =>
              match skipBlanks rest with
              | ':' :: rest =>
                  match readValue fuel rest with
                  | none => none
                  | some (value, rest) =>
                      match skipBlanks rest with
                      | ',' :: rest => readEntries fuel ((key, value) :: entries) rest
                      | '\x7d' :: rest => some (.object ((key, value) :: entries).reverse, rest)
                      | _ => none
              | _ => none
      | _ => none

end

/-- The one value that a text holds. -/
def read? (text : String) : Option Json :=
  let cs := text.toList
  match readValue (2 * cs.length + 2) cs with
  | some (value, rest) => if (skipBlanks rest).isEmpty then some value else none
  | none => none

end ClientTransaction.Json
