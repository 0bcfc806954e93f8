import ClientTransaction.Value
import ClientTransaction.Json.Text
import ClientTransaction.Json.Number

/-!
# Value.Tagged — values as JSON

A value is written as an object with one entry, from the name of its type to its content. Null has
no content and is written as its name alone. Reading is strict about types, except that an integer
may stand for a float.
-/

namespace ClientTransaction.Value

/-! ## Writing -/

mutual

/-- The value in its tagged form. Maps are written in the order of their entries. -/
def toJson : Value → String
  | .null => Json.writeString "Null"
  | .bool b => Json.writeObject [("Bool", Json.writeBool b)]
  | .int i => Json.writeObject [("Int", toString i.toInt)]
  | .float d => Json.writeObject [("Float", Json.writeDouble d)]
  | .string s => Json.writeObject [("String", Json.writeString s)]
  | .bytes bs => Json.writeObject [("Bytes", Json.writeArray (bs.map fun b => toString b.toNat))]
  | .list items => Json.writeObject [("List", Json.writeArray (eachToJson items))]
  | .map entries => Json.writeObject [("Map", Json.writeObject (entriesToJson entries))]

def eachToJson : List Value → List String
  | [] => []
  | v :: rest => v.toJson :: eachToJson rest

def entriesToJson : List (String × Value) → List (String × String)
  | [] => []
  | (k, v) :: rest => (k, v.toJson) :: entriesToJson rest

end

/-! ## Reading

`room` is the number of arrays and objects that may still be entered. -/

/-- The bytes that an array of numbers spells. -/
def bytesOfJson? : List Json → Option (List UInt8)
  | [] => some []
  | .number spelling :: rest => do
      let number ← Json.Number.ofSpelling? spelling
      let byte ← number.toByte?
      let bytes ← bytesOfJson? rest
      return byte :: bytes
  | _ :: _ => none

mutual

def ofJson? (room : Nat) : Json → Option Value
  | .string (some "Null") => some .null
  | .object [(some name, content)] =>
      match room with
      | 0 => none
      | room + 1 => contentOfJson? room name content
  | _ => none

/-- The value of the type called `name` that `content` spells. -/
def contentOfJson? (room : Nat) (name : String) : Json → Option Value
  | .null => if name = "Null" then some .null else none
  | .bool b => if name = "Bool" then some (.bool b) else none
  | .number spelling =>
      match Json.Number.ofSpelling? spelling with
      | none => none
      | some number =>
          if name = "Int" then number.toInt64?.map .int
          else if name = "Float" then some (.float number.toDouble)
          else none
  | .string text => if name = "String" then text.map .string else none
  | .array items =>
      match room with
      | 0 => none
      | room + 1 =>
          if name = "Bytes" then (bytesOfJson? items).map .bytes
          else if name = "List" then (eachOfJson? room items).map .list
          else none
  | .object entries =>
      match room with
      | 0 => none
      | room + 1 =>
          if name = "Map" then
            (entriesOfJson? room entries).map fun entries => .map (Params.ofList entries)
          else none

def eachOfJson? (room : Nat) : List Json → Option (List Value)
  | [] => some []
  | item :: rest =>
      match ofJson? room item, eachOfJson? room rest with
      | some v, some vs => some (v :: vs)
      | _, _ => none

def entriesOfJson? (room : Nat) : List (Option String × Json) → Option (List (String × Value))
  | [] => some []
  | (key, content) :: rest =>
      match key, ofJson? room content, entriesOfJson? room rest with
      | some k, some v, some entries => some ((k, v) :: entries)
      | _, _, _ => none

end

/-- The value that a JSON text holds in the tagged form. -/
def decode? (text : String) : Option Value :=
  (Json.read? text).bind (ofJson? Json.depthLimit)

end ClientTransaction.Value
