import ClientTransaction.Double

/-!
# Value — parameters and metadata

Statements carry parameters and replies carry metadata; both are maps from names to values. A map
is a list of entries. The maps that this library builds hold each key once and list their keys in
ascending order.
-/

namespace ClientTransaction

/-- What a parameter or a metadata entry can hold. -/
inductive Value
  | null
  | bool (b : Bool)
  | int (i : Int64)
  | float (d : Double)
  | string (s : String)
  | bytes (bs : List UInt8)
  | list (items : List Value)
  | map (entries : List (String × Value))
  deriving Repr, Inhabited

/-- Named values: the parameters of a statement, or the metadata of a reply. -/
abbrev Params :=
  List (String × Value)

namespace Params

def get? (params : Params) (key : String) : Option Value :=
  params.lookup key

/-- Sets `key`, keeping the keys in ascending order; an earlier value under `key` is replaced. -/
def insert (key : String) (value : Value) : Params → Params
  | [] => [(key, value)]
  | (k, v) :: rest =>
      if k = key then (key, value) :: rest
      else if key < k then (key, value) :: (k, v) :: rest
      else (k, v) :: insert key value rest

/-- The map with these entries, the last one of a repeated key. -/
def ofList (entries : List (String × Value)) : Params :=
  entries.foldl (fun params (k, v) => params.insert k v) []

end Params

namespace Value

/-- The name of the value's type. -/
def typeName : Value → String
  | .null => "Null"
  | .bool _ => "Bool"
  | .int _ => "Int"
  | .float _ => "Float"
  | .string _ => "String"
  | .bytes _ => "Bytes"
  | .list _ => "List"
  | .map _ => "Map"

def isNull : Value → Bool
  | .null => true
  | _ => false

def asBool? : Value → Option Bool
  | .bool b => some b
  | _ => none

def asInt? : Value → Option Int64
  | .int i => some i
  | _ => none

def asString? : Value → Option String
  | .string s => some s
  | _ => none

def asList? : Value → Option (List Value)
  | .list items => some items
  | _ => none

def asMap? : Value → Option Params
  | .map entries => some entries
  | _ => none

/-! ## Equality

Values of different types are never equal, floats are compared as numbers, and maps are compared as
finite maps: the same number of entries, and each entry of the first found in the second. -/

mutual

/-- Equality of values; it is not reflexive, because a NaN equals nothing. -/
def equals : Value → Value → Bool
  | .null, .null => true
  | .bool a, .bool b => a == b
  | .int a, .int b => a == b
  | .float a, .float b => a.numEq b
  | .string a, .string b => a == b
  | .bytes a, .bytes b => a == b
  | .list xs, .list ys => equalsEach xs ys
  | .map xs, .map ys => xs.length == ys.length && includedIn xs ys
  | _, _ => false

/-- Equality item by item, of lists of one length. -/
def equalsEach : List Value → List Value → Bool
  | [], [] => true
  | x :: xs, y :: ys => x.equals y && equalsEach xs ys
  | _, _ => false

/-- Each entry of the first map has an equal value under its key in the second. -/
def includedIn : List (String × Value) → List (String × Value) → Bool
  | [], _ => true
  | (k, v) :: rest, ys =>
      (match ys.lookup k with
        | some w => v.equals w
        | none => false) && includedIn rest ys

end

end Value

end ClientTransaction
