import StorageLayout.Contract
import StorageLayout.Json.Shape

/-!
# Contracts and types as JSON

Types are written as a case and its value, declarations and contracts as records. They are
taken as written: names may be empty and may repeat.
-/

namespace StorageLayout

open Json

namespace SolidityType

def kindName : SolidityType → String
  | bool => "bool"
  | uint _ => "uint"
  | int _ => "int"
  | address => "address"
  | fixedBytes _ => "fixedBytes"
  | bytes => "bytes"
  | string => "string"
  | mapping => "mapping"
  | dynamicArray => "dynamicArray"
  | other _ => "other"

def toJson (t : SolidityType) : Json :=
  let kind := ("kind", Json.string t.kindName)
  match t with
  | uint bits | int bits => .object [kind, ("value", .int bits)]
  | fixedBytes width => .object [kind, ("value", .int width)]
  | other name => .object [kind, ("value", .string name)]
  | _ => .object [kind]

/-- A case without a value; its value is left out or null. -/
def ofUnit (t : SolidityType) : Option Json → Except ShapeError SolidityType
  | none | some .null => .ok t
  | some got => .error (.wrongType got (.record t.kindName))

def ofCase (kind : String) (value : Option Json) : Except ShapeError SolidityType := do
  match kind with
  | "bool" => ofUnit bool value
  | "uint" => return uint (← decodeNat 16 (← required "value" value))
  | "int" => return int (← decodeNat 16 (← required "value" value))
  | "address" => ofUnit address value
  | "fixedBytes" => return fixedBytes (← decodeNat 8 (← required "value" value))
  | "bytes" => ofUnit bytes value
  | "string" => ofUnit string value
  | "mapping" => ofUnit mapping value
  | "dynamicArray" => ofUnit dynamicArray value
  | "other" => return other (← decodeText (← required "value" value))
  | _ => .error (.unknownVariant kind)

/-- The name of a case as a member: a string, or the key of an object whose only member is
null. As an item it is always a string. -/
def decodeKind : Decoder String
  | .object [(kind, .null)] => .ok kind
  | value => decodeText value

def shape : RecordShape where
  name := "SolidityType"
  fields := 2

/-- An object of `kind` and `value`, or an array of the two. -/
def decode : Decoder SolidityType :=
  decodeRecord shape
    (fun members => do
      let kind ← required "kind" (← member? members "kind" decodeKind)
      ofCase kind (members.lookup "value"))
    (fun items => do
      let kind ← item shape items 0 decodeText
      let value ← item shape items 1 .ok
      ofCase kind value)

end SolidityType

namespace Declaration

def toJson (d : Declaration) : Json :=
  .object [("name", .string d.name), ("typeName", .string d.typeName),
    ("isConstant", .bool d.isConstant), ("isImmutable", .bool d.isImmutable)]

def shape : RecordShape where
  name := "Declaration"
  fields := 4

/-- The flags may be left out. -/
def decode : Decoder Declaration :=
  decodeRecord shape
    (fun members => do
      let isConstant ← member? members "isConstant" decodeBool
      let isImmutable ← member? members "isImmutable" decodeBool
      let name ← member? members "name" decodeText
      let typeName ← member? members "typeName" decodeText
      return {
        name := ← required "name" name
        typeName := ← required "typeName" typeName
        isConstant := isConstant.getD false
        isImmutable := isImmutable.getD false })
    (fun items => do
      return {
        name := ← item shape items 0 decodeText
        typeName := ← item shape items 1 decodeText
        isConstant := ← itemOr false items 2 decodeBool
        isImmutable := ← itemOr false items 3 decodeBool })

end Declaration

namespace Contract

def toJson (c : Contract) : Json :=
  .object [("name", .string c.name), ("variables", .array (c.declarations.map (·.toJson)))]

def shape : RecordShape where
  name := "Contract"
  fields := 2

/-- The declarations may be left out. -/
def decode : Decoder Contract :=
  decodeRecord shape
    (fun members => do
      let name ← member? members "name" decodeText
      let declarations ← member? members "variables" (decodeList Declaration.decode)
      return { name := ← required "name" name, declarations := declarations.getD [] })
    (fun items => do
      return {
        name := ← item shape items 0 decodeText
        declarations := ← itemOr [] items 1 (decodeList Declaration.decode) })

end Contract

end StorageLayout
