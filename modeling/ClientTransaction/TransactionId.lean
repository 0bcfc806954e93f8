import ClientTransaction.Json.Text
import ClientTransaction.Json.Reader

/-!
# TransactionId — identifiers of 128 bits

A transaction is known to its owner by an identifier of sixteen bytes, written as thirty-two
hexadecimal digits in groups of eight, four, four, four and twelve.
-/

namespace ClientTransaction

structure TransactionId where
  bytes : List UInt8
  size : bytes.length = 16 := by rfl
  deriving DecidableEq, Repr

namespace TransactionId

/-! ## Writing -/

/-- The digits in groups, separated by hyphens. -/
def hyphenated (id : TransactionId) : String :=
  let group (start count : Nat) : List Char :=
    ((id.bytes.drop start).take count).flatMap fun b => Json.hexPair b.toNat
  String.ofList
    (group 0 4 ++ '-' :: group 4 2 ++ '-' :: group 6 2 ++ '-' :: group 8 2 ++ '-' :: group 10 6)

/-- The text shown to a user. -/
def display (id : TransactionId) : String :=
  "tx:" ++ id.hyphenated

/-! ## Reading -/

/-- The bytes that pairs of hexadecimal digits spell, in either case. -/
def bytesOfHex? : List Char → Option (List UInt8)
  | [] => some []
  | [_] => none
  | a :: b :: rest =>
      match Json.hexValue? a, Json.hexValue? b, bytesOfHex? rest with
      | some a, some b, some bytes => some (UInt8.ofNat (a * 16 + b) :: bytes)
      | _, _, _ => none

def ofBytes? (bytes : List UInt8) : Option TransactionId :=
  if h : bytes.length = 16 then some ⟨bytes, h⟩ else none

/-- Digits without hyphens. -/
def ofSimple? (cs : List Char) : Option TransactionId :=
  (bytesOfHex? cs).bind ofBytes?

/-- Digits in five groups. -/
def ofHyphenated? (cs : List Char) : Option TransactionId :=
  if cs.length = 36 ∧ [8, 13, 18, 23].all (fun i => cs[i]? = some '-') then
    ofSimple? (cs.take 8 ++ (cs.drop 9).take 4 ++ (cs.drop 14).take 4 ++ (cs.drop 19).take 4 ++
      cs.drop 24)
  else none

/-- An identifier by any of its spellings: thirty-two digits; groups with hyphens; these in braces;
or these after a scheme, whose letters may be of either case. -/
def ofString? (text : String) : Option TransactionId :=
  let cs := text.toList
  if cs.length = 32 then ofSimple? cs
  else if cs.length = 36 then ofHyphenated? cs
  else if cs.length = 38 ∧ cs.head? = some '\x7b' ∧ cs.getLast? = some '\x7d' then
    ofHyphenated? ((cs.drop 1).take 36)
  else if cs.length = 45 ∧ (cs.take 9).map Char.toLower = "urn:uuid:".toList then
    ofHyphenated? (cs.drop 9)
  else none

/-! ## Making

The identifiers of the fourth version have 122 free bits. Numbered transactions fill them with their
number times an odd constant, so different numbers below `2 ^ 122` get different identifiers. -/

/-- The high half of the byte that holds the version. -/
def version (id : TransactionId) : Nat :=
  (id.bytes.getD 6 0).toNat / 16

/-- The top two bits of the byte that holds the variant. -/
def variant (id : TransactionId) : Nat :=
  (id.bytes.getD 8 0).toNat / 64

/-- The identifier of the `n`-th transaction. -/
def nth (n : Nat) : TransactionId :=
  let free := ((n + 1) * 0x2b7e151628aed2a6abf7158809cf4f3) % Nat.pow 2 122
  let byte (shift : Nat) : UInt8 := UInt8.ofNat (free / Nat.pow 2 shift % 256)
  { bytes := [byte 0, byte 8, byte 16, byte 24, byte 32, byte 40,
      UInt8.ofNat (0x40 + free / Nat.pow 2 48 % 16), byte 52,
      UInt8.ofNat (0x80 + free / Nat.pow 2 60 % 64), byte 66,
      byte 74, byte 82, byte 90, byte 98, byte 106, byte 114] }

end TransactionId

end ClientTransaction
