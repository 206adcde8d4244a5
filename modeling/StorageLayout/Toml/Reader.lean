import StorageLayout.Toml.Text
import StorageLayout.Toml.Word

/-!
# Reading TOML documents

A document is a sequence of key-value lines and table headers. Arrays and inline tables nest
less than 80 deep, and a dotted key has less than 80 parts.
-/

namespace StorageLayout.Toml

def isBareKeyChar (c : Char) : Bool :=
  c.isAlphanum || c = '-' || c = '_'

def keyPart (s : List Char) : Except Fault (String × List Char) :=
  let bare := s.takeWhile isBareKeyChar
  if bare ≠ [] then .ok (String.ofList bare, s.dropWhile isBareKeyChar) else oneLine s

/-- The parts of a key, blanks around each of them skipped. -/
def keyParts : Nat → Reader (List String)
  | 0, _ => .error .tooDeep
  | room + 1, s => do
    let (part, rest) ← keyPart (skipSpacing s)
    match skipSpacing rest with
    | '.' :: rest => do
      let (parts, rest) ← keyParts room rest
      return (part :: parts, rest)
    | rest => return ([part], rest)

/-- Arrays, inline tables and the parts of keys stay below this number. -/
def depthLimit : Nat := 80

/-- A key: the way to a table, and the last part. -/
structure Key where
  path : List String
  last : String
  deriving DecidableEq, Repr

def key (s : List Char) : Except Fault (Key × List Char) := do
  let (parts, rest) ← keyParts (depthLimit - 1) s
  return (⟨parts.dropLast, parts.getLastD ""⟩, rest)

def expect (c : Char) : List Char → Except Fault (List Char)
  | [] => .error .unexpected
  | d :: rest => if c = d then .ok rest else .error .unexpected

def keyValue (value : Reader Value) (s : List Char) :
    Except Fault ((Key × Value) × List Char) := do
  let (key, rest) ← key s
  let rest ← expect '=' rest
  let (v, rest) ← value (skipSpacing rest)
  return ((key, v), rest)

/-- The text behind blanks, line ends and comments. -/
def skipTrivia : Nat → List Char → List Char
  | 0, s => s
  | fuel + 1, s =>
    match skipLines s with
    | '#' :: rest => skipTrivia fuel (rest.dropWhile isPlain)
    | rest => rest

/-- The rest of an array, in front of an item or of its end. A comma may follow the last
item. The fuel is no less than the length of the text. -/
def items (value : Reader Value) : Nat → Reader (List Value)
  | 0, _ => .error .unexpected
  | fuel + 1, s =>
    match skipTrivia fuel s with
    | [] => .error .unexpected
    | c :: rest =>
      if c = ']' then .ok ([], rest)
      else do
        let (v, rest) ← value (c :: rest)
        match skipTrivia fuel rest with
        | ',' :: rest => do
          let (vs, rest) ← items value fuel rest
          return (v :: vs, rest)
        | ']' :: rest => return ([v], rest)
        | _ => .error .unexpected

/-- The rest of an inline table, in front of an entry. -/
def entries (value : Reader Value) : Nat → Reader (List (Key × Value))
  | 0, _ => .error .unexpected
  | fuel + 1, s => do
    let (entry, rest) ← keyValue value s
    match skipSpacing rest with
    | ',' :: rest => do
      let (es, rest) ← entries value fuel rest
      return (entry :: es, rest)
    | '\x7d' :: rest => return ([entry], rest)
    | _ => .error .unexpected

/-- The rest of an inline table, behind its opening brace. -/
def inlineTable (value : Reader Value) (s : List Char) : Except Fault (Value × List Char) := do
  let (es, rest) ←
    match skipSpacing s with
    | '\x7d' :: rest => .ok ([], rest)
    | _ => entries value s.length s
  let table ← es.foldlM (fun t e => Value.insert e.1.last e.2 e.1.path t) []
  return (.inline false table, rest)

def endsWord (c : Char) : Bool :=
  isSpacing c || c = '\n' || c = '\r' || c = '#' || c = ',' || c = ']' || c = '\x7d'

/-- A word; a time may follow a date behind a space. -/
def word (s : List Char) : Except Fault (Value × List Char) :=
  let w := s.takeWhile (!endsWord ·)
  let rest := s.dropWhile (!endsWord ·)
  let (w, rest) :=
    match rest with
    | ' ' :: d :: after =>
      if Word.date? w = some [] ∧ d.isDigit then
        (w ++ ' ' :: (d :: after).takeWhile (!endsWord ·), (d :: after).dropWhile (!endsWord ·))
      else (w, rest)
    | _ => (w, rest)
  match Word.read? w with
  | some v => .ok (v, rest)
  | none => .error (.badWord (String.ofList w))

/-- A value, nesting no deeper than there is room. -/
def value : Nat → Reader Value
  | _, [] => .error .unexpected
  | room, c :: rest =>
    if c = '"' ∨ c = '\'' then do
      let (t, rest) ← text (c :: rest)
      return (.string t, rest)
    else if c = '[' then
      match room with
      | 0 => .error .tooDeep
      | room + 1 => do
        let (vs, rest) ← items (value room) (rest.length + 1) rest
        return (.array vs, rest)
    else if c = '\x7b' then
      match room with
      | 0 => .error .tooDeep
      | room + 1 => inlineTable (value room) rest
    else word (c :: rest)

/-- A part of a document between line ends. -/
inductive Statement where
  | entry (key : Key) (value : Value)
  /-- A header; `isElement` if it adds a table to an array of tables. -/
  | header (isElement : Bool) (key : Key)

/-- A statement in front of which no blanks stand, up to the end of its line. -/
def statement : Reader Statement
  | '[' :: '[' :: rest => do
    let (key, rest) ← key rest
    let rest ← endOfLine (← expect ']' (← expect ']' rest))
    return (.header true key, rest)
  | '[' :: rest => do
    let (key, rest) ← key rest
    let rest ← endOfLine (← expect ']' rest)
    return (.header false key, rest)
  | s => do
    let ((key, v), rest) ← keyValue (value (depthLimit - 1)) s
    let rest ← endOfLine rest
    return (.entry key v, rest)

def statements : Nat → List Char → Except Fault (List Statement)
  | 0, _ => .error .unexpected
  | fuel + 1, s =>
    match skipSpacing s with
    | [] => .ok []
    | c :: rest =>
      if c = '#' ∨ c = '\n' ∨ c = '\r' then do
        statements fuel (← endOfLine (c :: rest))
      else do
        let (st, rest) ← statement (c :: rest)
        return st :: (← statements fuel rest)

/-- A header with the entries below it; the entries in front of all headers have none. -/
structure Section where
  header : Option (Bool × Key)
  /-- The last entry first. -/
  entries : List (Key × Value)

/-- The sections of a document, the last one first. -/
def sections (sts : List Statement) : List Section :=
  sts.foldl (fun acc st =>
    match st, acc with
    | .header isElement key, _ => ⟨some (isElement, key), []⟩ :: acc
    | .entry key v, sec :: older => { sec with entries := (key, v) :: sec.entries } :: older
    | .entry key v, [] => [⟨none, [(key, v)]⟩]) [⟨none, []⟩]

def Section.fill (sec : Section) (table : Node.Entries) : Except Fault Node.Entries :=
  sec.entries.reverse.foldlM (fun t e => Node.insert e.1.last e.2 e.1.path t) table

/-- What stands under the key of the section's header from now on. A table with a header may
only have been implied by the headers of tables within it so far. -/
def Section.place (sec : Section) (isElement : Bool) (last : String) :
    Option Node → Except Fault Node
  | none => do
    let table ← sec.fill []
    return if isElement then .tables [table] else .table .header table
  | some (.tables elements) =>
    if isElement then do
      let table ← sec.fill []
      return .tables (table :: elements)
    else .error (.duplicateKey last)
  | some (.table .implied inner) =>
    if isElement then .error (.duplicateKey last)
    else do
      let table ← sec.fill inner
      return .table .header table
  | some _ => .error (.duplicateKey last)

def Section.enter (document : Node.Entries) (sec : Section) : Except Fault Node.Entries :=
  match sec.header with
  | none => sec.fill document
  | some (isElement, key) =>
    Node.update key.last (sec.place isElement key.last) key.path document

/-- The document a text stands for. A byte order mark at its start is skipped. -/
def read (s : String) : Except Fault Node.Entries := do
  let cs := s.toList
  let cs := if cs.head? = some '\ufeff' then cs.tail else cs
  let sts ← statements (cs.length + 1) cs
  (sections sts).reverse.foldlM Section.enter []

end StorageLayout.Toml
