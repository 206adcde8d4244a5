import StorageLayout.Json.Printer
import StorageLayout.Text.Unprintable

/-!
# Taking JSON values apart

A value read from outside is checked against the shape it should have. A record may be written
as an object, whose unknown members do not matter, or as an array of its fields in order.
-/

namespace StorageLayout.Json

inductive Expected where
  | text
  | boolean
  | sequence
  /-- A whole number of so many bits without a sign. -/
  | unsigned (bits : Nat)
  /-- A whole number of so many bits with a sign. -/
  | signed (bits : Nat)
  | float
  | record (name : String)
  deriving DecidableEq, Repr

def Expected.render : Expected → String
  | text => "a string"
  | boolean => "a boolean"
  | sequence => "a sequence"
  | unsigned bits => s!"u{bits}"
  | signed bits => s!"i{bits}"
  | float => "f64"
  | record name => s!"struct {name}"

inductive ShapeError where
  | wrongType (got : Json) (expected : Expected)
  | outOfRange (got : Int) (expected : Expected)
  | missingField (field : String)
  | unknownField (field : String)
  /-- An array of `length` items stands for a record of more fields. -/
  | tooShort (length : Nat) (record : String) (fields : Nat)
  /-- An array of `length` items stands for a record of fewer fields. -/
  | tooLong (length : Nat)
  | unknownVariant (got : String)

def describe : Json → String
  | null => "null"
  | bool b => s!"boolean `{b}`"
  | int n => s!"integer `{n}`"
  | float x => s!"floating point `{floatText x}`"
  | string s => s!"string {Text.quoted s}"
  | array _ => "sequence"
  | object _ => "map"

def ShapeError.message : ShapeError → String
  | wrongType got expected => s!"invalid type: {got.describe}, expected {expected.render}"
  | outOfRange got expected => s!"invalid value: integer `{got}`, expected {expected.render}"
  | missingField field => s!"missing field `{field}`"
  | unknownField field => s!"unknown field `{field}`"
  | tooShort length record fields =>
    s!"invalid length {length}, expected struct {record} with {fields} elements"
  | tooLong length => s!"invalid length {length}, expected fewer elements in array"
  | unknownVariant got => s!"unknown variant `{got}`"

abbrev Decoder (α : Type) := Json → Except ShapeError α

def decodeText : Decoder String
  | string s => .ok s
  | got => .error (.wrongType got .text)

def decodeBool : Decoder Bool
  | bool b => .ok b
  | got => .error (.wrongType got .boolean)

/-- A whole number without a sign, below `2 ^ bits`. -/
def decodeNat (bits : Nat) : Decoder Nat
  | int n =>
    if 0 ≤ n ∧ n < Nat.pow 2 bits then .ok n.toNat else .error (.outOfRange n (.unsigned bits))
  | got => .error (.wrongType got (.unsigned bits))

/-- A whole number of `bits` bits with a sign. -/
def decodeInt (bits : Nat) : Decoder Int
  | int n =>
    if -(Nat.pow 2 (bits - 1) : Int) ≤ n ∧ n < Nat.pow 2 (bits - 1) then .ok n
    else .error (.outOfRange n (.signed bits))
  | got => .error (.wrongType got (.signed bits))

def decodeFloat : Decoder Float
  | int n => .ok (.ofInt n)
  | float x => .ok x
  | got => .error (.wrongType got .float)

/-- All items in order, up to the first that fails. -/
def decodeList {α : Type} (item : Decoder α) : Decoder (List α)
  | array xs => xs.mapM item
  | got => .error (.wrongType got .sequence)

def member? {α : Type} (members : List (String × Json)) (field : String) (decode : Decoder α) :
    Except ShapeError (Option α) :=
  match members.lookup field with
  | some value => (decode value).map some
  | none => .ok none

def required {α : Type} (field : String) : Option α → Except ShapeError α
  | some value => .ok value
  | none => .error (.missingField field)

/-- Refuse members that are none of the fields. -/
def refuseUnknown (fields : List String) (members : List (String × Json)) :
    Except ShapeError Unit :=
  match members.find? (!fields.contains ·.1) with
  | some m => .error (.unknownField m.1)
  | none => .ok ()

structure RecordShape where
  name : String
  fields : Nat

/-- The item that stands for a field, counted from zero. -/
def item {α : Type} (shape : RecordShape) (items : List Json) (index : Nat)
    (decode : Decoder α) : Except ShapeError α :=
  match items[index]? with
  | some value => decode value
  | none => .error (.tooShort index shape.name shape.fields)

/-- The item that stands for a field, which may be left off the end. -/
def itemOr {α : Type} (missing : α) (items : List Json) (index : Nat) (decode : Decoder α) :
    Except ShapeError α :=
  match items[index]? with
  | some value => decode value
  | none => .ok missing

/-- What becomes of the items of an array that come after the fields of a record. -/
inductive Surplus where
  | refused
  | ignored
  deriving DecidableEq, Repr

def checkSurplus (surplus : Surplus) (shape : RecordShape) (items : List Json) :
    Except ShapeError Unit :=
  if surplus = .refused ∧ shape.fields < items.length then .error (.tooLong items.length)
  else .ok ()

def decodeRecordWith {α : Type} (surplus : Surplus) (shape : RecordShape)
    (ofMembers : List (String × Json) → Except ShapeError α)
    (ofItems : List Json → Except ShapeError α) : Decoder α
  | object members => ofMembers members
  | array items => do
    let value ← ofItems items
    checkSurplus surplus shape items
    return value
  | got => .error (.wrongType got (.record shape.name))

/-- A record from an object or an array of no more items than fields. -/
def decodeRecord {α : Type} (shape : RecordShape)
    (ofMembers : List (String × Json) → Except ShapeError α)
    (ofItems : List Json → Except ShapeError α) : Decoder α :=
  decodeRecordWith .refused shape ofMembers ofItems

end StorageLayout.Json
