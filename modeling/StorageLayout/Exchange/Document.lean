import StorageLayout.Exchange.Contract
import StorageLayout.Text.Basic

/-!
# Documents of contracts

A document is an object with a list of contracts, or a single contract. It is what tools that
know the source code hand over, so it is read with care: names and types must be there, and no
two variables of a contract share a name.
-/

namespace StorageLayout

structure Document where
  contracts : List Contract
  deriving DecidableEq, Repr

inductive DeclarationFault where
  | missingName
  | missingType (name : String)
  | notBoolean (field : String) (got : Json)
  | duplicateName (name : String)

inductive DocumentError where
  | missingField (field : String)
  | invalidDeclaration (contract : String) (index : Nat) (fault : DeclarationFault)
  | contractNotFound (name : String) (available : List String)
  | noContracts
  | ambiguousContract (available : List String)

def DeclarationFault.message : DeclarationFault → String
  | missingName => "missing 'name' field"
  | missingType name => s!"'{name}' is missing 'typeName'"
  | notBoolean field got => s!"'{field}' must be a boolean, got {got.compact}"
  | duplicateName name => s!"duplicate variable name '{name}'"

def DocumentError.message : DocumentError → String
  | missingField field => s!"document missing required field: '{field}'"
  | invalidDeclaration contract index fault =>
    s!"contract '{contract}', variable #{index}: {fault.message}"
  | contractNotFound name available =>
    s!"contract '{name}' not found (available: " ++ ", ".intercalate available ++ ")"
  | noContracts => "document contains no contracts"
  | ambiguousContract available =>
    "document contains several contracts (" ++ ", ".intercalate available ++
      "); select one by name"

namespace Declaration

/-- A string member that passes the check. -/
def textMember? (value : Json) (field : String) (check : String → Bool) : Option String :=
  ((value.get? field).bind Json.asString?).filter check

/-- A flag, false when it is left out or null. -/
def flagOf (value : Json) (field : String) : Except DeclarationFault Bool :=
  match value.get? field with
  | none | some .null => .ok false
  | some (.bool b) => .ok b
  | some got => .error (.notBoolean field got)

/-- The key the type stands under: `typeName`, or `type` where that is absent. -/
def typeKey (value : Json) : String :=
  if (value.get? "typeName").isSome then "typeName" else "type"

def ofDocument (value : Json) : Except DeclarationFault Declaration := do
  let some name := textMember? value "name" (· ≠ "") | .error .missingName
  let some typeName := textMember? value (typeKey value) (!Text.allBlank ·)
    | .error (.missingType name)
  let isConstant ← flagOf value "isConstant"
  let isImmutable ← flagOf value "isImmutable"
  return { name, typeName, isConstant, isImmutable }

end Declaration

namespace Contract

/-- The declarations at `index` and after, up to the first that fails. -/
def declarationsFrom (contract : String) (index : Nat) :
    List Json → Except DocumentError (List Declaration)
  | [] => .ok []
  | x :: xs =>
    match Declaration.ofDocument x with
    | .error fault => .error (.invalidDeclaration contract index fault)
    | .ok d => (declarationsFrom contract (index + 1) xs).map (d :: ·)

/-- The index and the name of the first declaration at `index` or after whose name came
before. -/
def duplicateFrom? (seen : List String) (index : Nat) : List Declaration → Option (Nat × String)
  | [] => none
  | d :: ds =>
    if d.name ∈ seen then some (index, d.name)
    else duplicateFrom? (d.name :: seen) (index + 1) ds

/-- The JSON values of a contract's declarations; none when they are left out or null. -/
def declarationValues (value : Json) (contract : String) : Except DocumentError (List Json) :=
  match value.get? "variables" with
  | none | some .null => .ok []
  | some (.array xs) => .ok xs
  | some _ => .error (.missingField s!"{contract}.variables")

def ofDocument (value : Json) : Except DocumentError Contract := do
  let some name := (value.get? "name").bind Json.asString? | .error (.missingField "name")
  let declarations ← declarationsFrom name 0 (← declarationValues value name)
  match duplicateFrom? [] 0 declarations with
  | some (index, d) => .error (.invalidDeclaration name index (.duplicateName d))
  | none => return { name, declarations }

end Contract

namespace Document

def toJson (d : Document) : Json :=
  .object [("contracts", .array (d.contracts.map (·.toJson)))]

def ofJson (value : Json) : Except DocumentError Document :=
  match value.get? "contracts" with
  | some (.array xs) => (xs.mapM Contract.ofDocument).map Document.mk
  | some _ => .error (.missingField "contracts")
  | none => (Contract.ofDocument value).map fun c => ⟨[c]⟩

def contractNames (d : Document) : List String :=
  d.contracts.map (·.name)

/-- The first contract of the name. -/
def contract (d : Document) (name : String) : Except DocumentError Contract :=
  match d.contracts.find? (·.name = name) with
  | some c => .ok c
  | none => .error (.contractNotFound name d.contractNames)

/-- The only contract. -/
def single (d : Document) : Except DocumentError Contract :=
  match d.contracts with
  | [] => .error .noContracts
  | [c] => .ok c
  | _ => .error (.ambiguousContract d.contractNames)

/-- The contract of the name, or without a name the only contract. -/
def select (d : Document) : Option String → Except DocumentError Contract
  | some name => d.contract name
  | none => d.single

end Document

end StorageLayout
