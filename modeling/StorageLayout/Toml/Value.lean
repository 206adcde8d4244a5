import StorageLayout.Json.Value

/-!
# TOML values and tables

How a table came to be decides what may still be added to it: only dotted keys add to a table
that dotted keys made, a header may follow the headers of tables within its own, and an inline
table is complete from the start.
-/

namespace StorageLayout.Toml

inductive Fault where
  | unexpected
  | badText
  | badWord (word : String)
  | duplicateKey (key : String)
  | notATable (key : String)
  | tooDeep
  deriving DecidableEq, Repr

def Fault.message : Fault → String
  | unexpected => "unexpected character"
  | badText => "invalid string"
  | badWord word => s!"invalid value {word}"
  | duplicateKey key => s!"duplicate key {key}"
  | notATable key => s!"{key} is not a table"
  | tooDeep => "recursion limit exceeded"

inductive Value where
  | string (text : String)
  | integer (value : Int)
  | float (value : Float)
  | boolean (value : Bool)
  /-- A date, a time or both, as written. -/
  | moment (text : String)
  | array (items : List Value)
  /-- An inline table; `dotted` if dotted keys made it within another one. -/
  | inline (dotted : Bool) (entries : List (String × Value))

/-- How a table came to be. -/
inductive Origin where
  /-- It has a header, or is the document itself. -/
  | header
  /-- The header of a table within it implies it. -/
  | implied
  /-- Dotted keys imply it. -/
  | dotted
  deriving DecidableEq, Repr

inductive Node where
  | value (value : Value)
  | table (origin : Origin) (entries : List (String × Node))
  /-- The tables of an array of tables, the last one first. -/
  | tables (elements : List (List (String × Node)))

/-- The entries with a new value for a key, at its place or at the end. -/
def setEntry {α : Type} (key : String) (value : α) : List (String × α) → List (String × α)
  | [] => [(key, value)]
  | e :: es => if e.1 = key then (key, value) :: es else e :: setEntry key value es

namespace Value

/-- Enter a value into an inline table under a dotted key. Of the tables within it, the key only
passes through those that dotted keys made. -/
def insert (key : String) (value : Value) : List String → List (String × Value) →
    Except Fault (List (String × Value))
  | [], entries =>
    if (entries.lookup key).isSome then .error (.duplicateKey key)
    else .ok (entries ++ [(key, value)])
  | p :: path, entries =>
    match entries.lookup p with
    | none => do
      let inner ← insert key value path []
      return entries ++ [(p, .inline true inner)]
    | some (.inline true inner) => do
      let inner ← insert key value path inner
      return setEntry p (.inline true inner) entries
    | some _ => .error (.duplicateKey p)

mutual

/-- The value as JSON; a date or a time becomes its text. -/
def toJson : Value → Json
  | string text => .string text
  | integer n => .int n
  | float x => .float x
  | boolean b => .bool b
  | moment text => .string text
  | array items => .array (toJsonList items)
  | inline _ entries => .object (toJsonEntries entries)

def toJsonList : List Value → List Json
  | [] => []
  | v :: vs => v.toJson :: toJsonList vs

def toJsonEntries : List (String × Value) → List (String × Json)
  | [] => []
  | (key, v) :: es => (key, v.toJson) :: toJsonEntries es

end

end Value

namespace Node

abbrev Entries := List (String × Node)

/-- Enter a value under a dotted key, which only passes through tables that dotted keys
made. -/
def insert (key : String) (value : Value) : List String → Entries → Except Fault Entries
  | [], entries =>
    if (entries.lookup key).isSome then .error (.duplicateKey key)
    else .ok (entries ++ [(key, .value value)])
  | p :: path, entries =>
    match entries.lookup p with
    | none => do
      let inner ← insert key value path []
      return entries ++ [(p, .table .dotted inner)]
    | some (.table .dotted inner) => do
      let inner ← insert key value path inner
      return setEntry p (.table .dotted inner) entries
    | some _ => .error (.duplicateKey p)

/-- Change what stands under the key of a header, making the tables on the way to it. -/
def update (key : String) (change : Option Node → Except Fault Node) : List String → Entries →
    Except Fault Entries
  | [], entries => do
    let node ← change (entries.lookup key)
    return setEntry key node entries
  | p :: path, entries =>
    match entries.lookup p with
    | none => do
      let inner ← update key change path []
      return setEntry p (.table .implied inner) entries
    | some (.table origin inner) => do
      let inner ← update key change path inner
      return setEntry p (.table origin inner) entries
    | some (.tables (last :: others)) => do
      let inner ← update key change path last
      return setEntry p (.tables (inner :: others)) entries
    | some _ => .error (.notATable p)

mutual

def toJson : Node → Json
  | value v => v.toJson
  | table _ entries => .object (toJsonEntries entries)
  | tables elements => .array (toJsonElements elements).reverse

def toJsonEntries : List (String × Node) → List (String × Json)
  | [] => []
  | (key, n) :: es => (key, n.toJson) :: toJsonEntries es

def toJsonElements : List (List (String × Node)) → List Json
  | [] => []
  | es :: rest => .object (toJsonEntries es) :: toJsonElements rest

end

end Node

end StorageLayout.Toml
