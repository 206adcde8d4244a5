import StorageLayout.Text.Basic
import StorageLayout.TypeName.Spacing

/-!
# Types of state variables

A type as far as storage is concerned: how many bytes a variable of it takes within its own
slot. Dynamic types keep their contents elsewhere and leave a header of a full slot. What the
table does not know (structs, enums, contracts, fixed-size arrays, misspellings) is given a
full slot, so that nothing else is packed over it.
-/

namespace StorageLayout

def slotBytes : Nat := 32

inductive SolidityType where
  | bool
  /-- Unsigned integer of a width in bits. -/
  | uint (bits : Nat)
  /-- Signed integer of a width in bits. -/
  | int (bits : Nat)
  | address
  /-- `bytes1` to `bytes32`. -/
  | fixedBytes (width : Nat)
  | bytes
  | string
  | mapping
  | dynamicArray
  /-- Any other name, in tidy spacing. -/
  | other (name : String)
  deriving DecidableEq, Repr

namespace SolidityType

/-- The number a text of decimal digits denotes; one plus sign may stand before the digits. -/
def numeral? (s : List Char) : Option Nat :=
  let digits := if s.head? = some '+' then s.tail else s
  if digits ≠ [] ∧ digits.all Char.isDigit then
    some (Text.numeral 10 digits)
  else none

/-- An integer width: a multiple of eight from 8 to 256, written without a leading zero. -/
def integerWidth? (s : List Char) : Option Nat := do
  let bits ← numeral? s
  guard (8 ≤ bits ∧ bits ≤ 256 ∧ bits % 8 = 0 ∧ s.head? ≠ some '0')
  return bits

/-- A byte width: 1 to 32, written without a leading zero. -/
def byteWidth? (s : List Char) : Option Nat := do
  let width ← numeral? s
  guard (1 ≤ width ∧ width ≤ slotBytes ∧ s.head? ≠ some '0')
  return width

def dropStem? (stem : String) (s : List Char) : Option (List Char) :=
  if stem.toList.isPrefixOf s then some (s.drop stem.length) else none

/-- The type a name in tidy spacing denotes when it is neither a mapping nor a dynamic array. -/
def ofElementaryName (s : List Char) : SolidityType :=
  if s = "bool".toList then .bool
  else if s = "address".toList ∨ s = "address payable".toList then .address
  else if s = "bytes".toList then .bytes
  else if s = "string".toList then .string
  else if s = "uint".toList then .uint 256
  else if s = "int".toList then .int 256
  else
    match (dropStem? "uint" s).bind integerWidth?, (dropStem? "int" s).bind integerWidth?,
      (dropStem? "bytes" s).bind byteWidth? with
    | some bits, _, _ => .uint bits
    | none, some bits, _ => .int bits
    | none, none, some width => .fixedBytes width
    | none, none, none => .other (String.ofList s)

/-- The type a name denotes, however it is spaced. Every name denotes one. -/
def ofName (name : String) : SolidityType :=
  let s := TypeName.tidy name.toList
  if "mapping(".toList.isPrefixOf s then .mapping
  else if "[]".toList.isSuffixOf s then .dynamicArray
  else ofElementaryName s

/-- Bytes a variable of the type takes within its slot. An integer's bytes are counted in one
byte. -/
def size : SolidityType → Nat
  | bool => 1
  | uint bits | int bits => bits / 8 % 256
  | address => 20
  | fixedBytes width => width
  | bytes | string | mapping | dynamicArray | other _ => slotBytes

def isDynamic : SolidityType → Bool
  | bytes | string | mapping | dynamicArray => true
  | _ => false

def isUnknown : SolidityType → Bool
  | other _ => true
  | _ => false

def render : SolidityType → String
  | bool => "bool"
  | uint bits => "uint" ++ toString bits
  | int bits => "int" ++ toString bits
  | address => "address"
  | fixedBytes width => "bytes" ++ toString width
  | bytes => "bytes"
  | string => "string"
  | mapping => "mapping"
  | dynamicArray => "dynamic array"
  | other name => name

def sizeOfName (name : String) : Nat :=
  (ofName name).size

end SolidityType

end StorageLayout
