import StorageLayout.Json.Shape
import StorageLayout.Layout.Usage

/-!
# Layouts as JSON

A layout is taken as it is written: nothing is computed anew. Reading one for use also checks
that each variable starts within its slot and has a size a slot can hold.
-/

namespace StorageLayout

open Json

namespace Variable

def toJson (v : Variable) : Json :=
  .object [("name", .string v.name), ("type", .string v.typeName), ("slot", .int v.slot),
    ("offset", .int v.offset), ("size", .int v.size),
    ("isStateVariable", .bool v.isStateVariable), ("packed", .bool v.packed)]

def shape : RecordShape where
  name := "StorageVariable"
  fields := 7

/-- Members are read in ascending order of keys, then missing ones are looked for. -/
def ofMembers (members : List (String × Json)) : Except ShapeError Variable := do
  let isStateVariable ← member? members "isStateVariable" decodeBool
  let name ← member? members "name" decodeText
  let offset ← member? members "offset" (decodeNat 8)
  let packed ← member? members "packed" decodeBool
  let size ← member? members "size" (decodeNat 8)
  let slot ← member? members "slot" (decodeNat 64)
  let typeName ← member? members "type" decodeText
  return {
    name := ← required "name" name
    typeName := ← required "type" typeName
    slot := ← required "slot" slot
    offset := ← required "offset" offset
    size := ← required "size" size
    isStateVariable := ← required "isStateVariable" isStateVariable
    packed := ← required "packed" packed }

def ofItems (items : List Json) : Except ShapeError Variable := do
  return {
    name := ← item shape items 0 decodeText
    typeName := ← item shape items 1 decodeText
    slot := ← item shape items 2 (decodeNat 64)
    offset := ← item shape items 3 (decodeNat 8)
    size := ← item shape items 4 (decodeNat 8)
    isStateVariable := ← item shape items 5 decodeBool
    packed := ← item shape items 6 decodeBool }

def decode : Decoder Variable :=
  decodeRecord shape ofMembers ofItems

end Variable

namespace Layout

def toJson (m : Layout) : Json :=
  .object [("contractName", .string m.contractName),
    ("variables", .array (m.vars.map (·.toJson))), ("totalSlots", .int m.totalSlots),
    ("packedSlots", .array (m.packedSlots.map fun (s : Nat) => .int s))]

def shape : RecordShape where
  name := "SlotMapping"
  fields := 4

def ofMembers (members : List (String × Json)) : Except ShapeError Layout := do
  let contractName ← member? members "contractName" decodeText
  let packedSlots ← member? members "packedSlots" (decodeList (decodeNat 64))
  let totalSlots ← member? members "totalSlots" (decodeNat 64)
  let vars ← member? members "variables" (decodeList Variable.decode)
  return {
    contractName := ← required "contractName" contractName
    vars := ← required "variables" vars
    totalSlots := ← required "totalSlots" totalSlots
    packedSlots := ← required "packedSlots" packedSlots }

def ofItems (items : List Json) : Except ShapeError Layout := do
  return {
    contractName := ← item shape items 0 decodeText
    vars := ← item shape items 1 (decodeList Variable.decode)
    totalSlots := ← item shape items 2 (decodeNat 64)
    packedSlots := ← item shape items 3 (decodeList (decodeNat 64)) }

/-- The layout as it is written. -/
def decode : Decoder Layout :=
  decodeRecord shape ofMembers ofItems

end Layout

inductive LayoutError where
  | shape (cause : ShapeError)
  | offsetOutside (name : String) (offset : Nat)
  | sizeOutside (name : String) (size : Nat)

def LayoutError.message (e : LayoutError) : String :=
  "invalid slot mapping: " ++
    match e with
    | shape cause => cause.message
    | offsetOutside name offset =>
      s!"variable '{name}': offset {offset} is outside 0..={slotBytes - 1}"
    | sizeOutside name size => s!"variable '{name}': size {size} is outside 1..={slotBytes}"

/-- The variable starts within its slot and has a size a slot can hold. -/
def Variable.InRange (v : Variable) : Prop :=
  v.offset < slotBytes ∧ 1 ≤ v.size ∧ v.size ≤ slotBytes

instance (v : Variable) : Decidable v.InRange :=
  inferInstanceAs (Decidable (_ ∧ _ ∧ _))

/-- What is out of range, the offset first. -/
def Variable.rangeError? (v : Variable) : Option LayoutError :=
  if slotBytes ≤ v.offset then some (.offsetOutside v.name v.offset)
  else if v.size = 0 ∨ slotBytes < v.size then some (.sizeOutside v.name v.size)
  else none

theorem Variable.rangeError?_eq_none_iff {v : Variable} :
    v.rangeError? = none ↔ v.InRange := by
  unfold rangeError? InRange
  split
  · simp only [reduceCtorEq, false_iff]
    omega
  · split
    · simp only [reduceCtorEq, false_iff]
      omega
    · simp only [true_iff]
      omega

/-- The layout a value stands for, refused at its first variable that is out of range. -/
def Layout.load (value : Json) : Except LayoutError Layout :=
  match Layout.decode value with
  | .error cause => .error (.shape cause)
  | .ok m =>
    match m.vars.findSome? (·.rangeError?) with
    | some e => .error e
    | none => .ok m

def Overfill.toJson (o : Overfill) : Json :=
  .object [("slot", .int o.slot), ("occupants", .array (o.occupants.map (·.toJson))),
    ("totalBytes", .int o.totalBytes), ("overruns", .array (o.overruns.map .string))]

end StorageLayout
