import ClientTransaction.Json.Reader
import ClientTransaction.Toml

/-!
# Toml.Text — blanks, comments, strings and keys

Readers take the characters from some place on and return what they read and the characters after
it, or `none` where the text is malformed.
-/

namespace ClientTransaction.Toml

abbrev Read (α : Type) :=
  Option (α × List Char)

/-! ## Blanks and comments -/

def isBlank (c : Char) : Bool :=
  c == ' ' || c == '\t'

def skipBlanks (cs : List Char) : List Char :=
  cs.dropWhile isBlank

/-- A character other than a control, the tab apart. -/
def isPlain (c : Char) : Bool :=
  c == '\t' || (0x20 ≤ c.toNat && c.toNat != 0x7f)

/-- The characters after a line end, if there is one. -/
def newline? : List Char → Option (List Char)
  | '\n' :: rest => some rest
  | '\r' :: '\n' :: rest => some rest
  | _ => none

/-- Skips a comment. -/
def skipComment (cs : List Char) : List Char :=
  match cs with
  | '#' :: rest => rest.dropWhile isPlain
  | cs => cs

/-- The characters after the end of a line that may hold a comment. -/
def lineEnd? (cs : List Char) : Option (List Char) :=
  match skipComment (skipBlanks cs) with
  | [] => some []
  | rest => newline? rest

/-- Skips blanks and line ends. -/
def skipLines : List Char → List Char
  | '\n' :: rest => skipLines rest
  | '\r' :: '\n' :: rest => skipLines rest
  | c :: rest => if isBlank c then skipLines rest else c :: rest
  | [] => []

/-- Skips blanks, line ends and comments; `inComment` tells that a comment is being skipped. -/
def skipInArray (inComment : Bool) : List Char → List Char
  | '\n' :: rest => skipInArray false rest
  | '\r' :: '\n' :: rest => skipInArray false rest
  | c :: rest =>
      if inComment && isPlain c then skipInArray true rest
      else if !inComment && isBlank c then skipInArray false rest
      else if !inComment && c == '#' then skipInArray true rest
      else c :: rest
  | [] => []

/-! ## Strings -/

/-- The character with a code point, if there is one. -/
def charOf? (n : Nat) : Option Char :=
  if n < 0xd800 ∨ (0xdfff < n ∧ n < 0x110000) then some (Char.ofNat n) else none

/-- The character that hexadecimal digits name. -/
def charOfHex? (digits : List Char) : Option Char := do
  let values ← digits.mapM Json.hexValue?
  charOf? (values.foldl (fun n v => n * 16 + v) 0)

def shortEscape? (c : Char) : Option Char :=
  match c with
  | 'b' => some '\x08'
  | 't' => some '\t'
  | 'n' => some '\n'
  | 'f' => some '\x0c'
  | 'r' => some '\r'
  | '"' => some '"'
  | '\\' => some '\\'
  | _ => none

/-- What follows a backslash: the character that it stands for. -/
def readEscape (cs : List Char) : Read Char :=
  match cs with
  | 'u' :: rest =>
      if rest.length < 4 then none
      else (charOfHex? (rest.take 4)).map fun c => (c, rest.drop 4)
  | 'U' :: rest =>
      if rest.length < 8 then none
      else (charOfHex? (rest.take 8)).map fun c => (c, rest.drop 8)
  | c :: rest => (shortEscape? c).map fun e => (e, rest)
  | [] => none

/-- The rest of a string in double quotes on one line; `fuel` bounds its characters. -/
def readBasicTail : Nat → List Char → List Char → Read String
  | 0, _, _ => none
  | fuel + 1, collected, cs =>
      match cs with
      | '"' :: rest => some (String.ofList collected.reverse, rest)
      | '\\' :: rest =>
          match readEscape rest with
          | some (c, rest) => readBasicTail fuel (c :: collected) rest
          | none => none
      | c :: rest => if isPlain c then readBasicTail fuel (c :: collected) rest else none
      | [] => none

/-- The rest of a string in single quotes on one line. -/
def readLiteralTail (cs : List Char) : Read String :=
  let text := cs.takeWhile fun c => isPlain c && c != '\''
  match cs.drop text.length with
  | '\'' :: rest => some (String.ofList text, rest)
  | _ => none

/-- The number of quotes at the start. -/
def leadingQuotes (quote : Char) (cs : List Char) : Nat :=
  (cs.takeWhile (· == quote)).length

/-- The rest of a string of several lines, in three quotes of the given kind. Up to two quotes may
stand inside, also right before the closing ones. A backslash escapes only between double quotes; at
the end of a line it joins the line to the next text. -/
def readLongTail (quote : Char) : Nat → List Char → List Char → Read String
  | 0, _, _ => none
  | fuel + 1, collected, cs =>
      let quotes := leadingQuotes quote cs
      if 3 ≤ quotes then
        -- The last three quotes close the string, and up to two before them belong to it.
        let extra := min 2 (quotes - 3)
        some (String.ofList (List.replicate extra quote ++ collected).reverse, cs.drop (extra + 3))
      else
        match newline? cs, cs with
        | some rest, _ => readLongTail quote fuel ('\n' :: collected) rest
        | none, '\\' :: rest =>
            -- Between single quotes a backslash is a character like any other.
            if quote == '\'' then readLongTail quote fuel ('\\' :: collected) rest
            else
              match newline? (skipBlanks rest), readEscape rest with
              | some rest, _ => readLongTail quote fuel collected (skipLines rest)
              | none, some (c, rest) => readLongTail quote fuel (c :: collected) rest
              | none, none => none
        | none, c :: rest =>
            if isPlain c then readLongTail quote fuel (c :: collected) rest else none
        | none, [] => none

/-- A string on one line. -/
def readShortString (cs : List Char) : Read String :=
  match cs with
  | '"' :: rest => readBasicTail (rest.length + 1) [] rest
  | '\'' :: rest => readLiteralTail rest
  | _ => none

/-- A string on one line or on several; a line end right after the opening quotes does not count. -/
def readString (cs : List Char) : Read String :=
  let long (quote : Char) (rest : List Char) : Read String :=
    let rest := (newline? rest).getD rest
    readLongTail quote (rest.length + 1) [] rest
  match cs with
  | '"' :: '"' :: '"' :: rest => long '"' rest
  | '\'' :: '\'' :: '\'' :: rest => long '\'' rest
  | cs => readShortString cs

/-! ## Keys -/

def isKeyChar (c : Char) : Bool :=
  c.isAlphanum || c == '_' || c == '-'

/-- A key without dots. -/
def readSimpleKey (cs : List Char) : Read String :=
  match cs with
  | '"' :: _ | '\'' :: _ => readShortString cs
  | cs =>
      match cs.takeWhile isKeyChar with
      | [] => none
      | key => some (String.ofList key, cs.dropWhile isKeyChar)

/-- The parts of a key, with blanks around them; `parts` bounds their number. -/
def readKeyParts : Nat → List Char → Read (List String)
  | 0, _ => none
  | parts + 1, cs =>
      match readSimpleKey (skipBlanks cs) with
      | none => none
      | some (key, rest) =>
          match skipBlanks rest with
          | '.' :: rest => (readKeyParts parts rest).map fun (keys, rest) => (key :: keys, rest)
          | rest => some ([key], rest)

/-- A key of one part or more. -/
def readKey (cs : List Char) : Read (List String) :=
  readKeyParts depthLimit cs

end ClientTransaction.Toml
