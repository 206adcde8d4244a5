import StorageLayout.Text.Basic
import StorageLayout.Toml.Value

/-!
# Characters, blanks and strings of TOML

Each reader takes what it reads from the head of a text and returns the rest.
-/

namespace StorageLayout.Toml

/-- Takes a value from the head of a text. -/
abbrev Reader (α : Type) := List Char → Except Fault (α × List Char)

/-- Characters of comments and literal strings: all but controls other than the tab. -/
def isPlain (c : Char) : Bool :=
  c = '\t' || (32 ≤ c.toNat && c.toNat ≠ 127)

def isSpacing (c : Char) : Bool :=
  c = ' ' || c = '\t'

def skipSpacing (s : List Char) : List Char :=
  s.dropWhile isSpacing

/-- The text behind a line end. A carriage return is part of a line end only before a line
feed. -/
def lineEnd? : List Char → Option (List Char)
  | '\n' :: rest => some rest
  | '\r' :: '\n' :: rest => some rest
  | _ => none

/-- The text behind a comment, up to the end of its line; the same text if none stands there. -/
def skipComment : List Char → List Char
  | '#' :: rest => rest.dropWhile isPlain
  | s => s

/-- The text behind blanks, a comment and a line end, or nothing at the end of all. -/
def endOfLine (s : List Char) : Except Fault (List Char) :=
  let rest := skipComment (skipSpacing s)
  match rest, lineEnd? rest with
  | [], _ => .ok []
  | _, some rest => .ok rest
  | _, none => .error .unexpected

def codePoint? (digits : List Char) : Option Char := do
  guard (digits.all fun c => (Text.digit? c).isSome)
  let code := Text.numeral 16 digits
  guard (code < 0xd800 ∨ (0xdfff < code ∧ code < 0x110000))
  return Char.ofNat code

/-- The character behind a backslash that is no line continuation. -/
def escape : Reader Char
  | 'u' :: a :: b :: c :: d :: rest =>
    match codePoint? [a, b, c, d] with
    | some char => .ok (char, rest)
    | none => .error .badText
  | 'U' :: a :: b :: c :: d :: e :: f :: g :: h :: rest =>
    match codePoint? [a, b, c, d, e, f, g, h] with
    | some char => .ok (char, rest)
    | none => .error .badText
  | 'b' :: rest => .ok ('\x08', rest)
  | 't' :: rest => .ok ('\t', rest)
  | 'n' :: rest => .ok ('\n', rest)
  | 'f' :: rest => .ok ('\x0c', rest)
  | 'r' :: rest => .ok ('\r', rest)
  | '"' :: rest => .ok ('"', rest)
  | '\\' :: rest => .ok ('\\', rest)
  | _ => .error .badText

def skipLines : List Char → List Char
  | '\r' :: '\n' :: rest => skipLines rest
  | c :: rest => if c = '\n' ∨ isSpacing c then skipLines rest else c :: rest
  | [] => []

/-- The text behind a backslash that continues a line: blanks, a line end, and all blanks and
line ends after it. -/
def continuation? (s : List Char) : Option (List Char) :=
  (lineEnd? (skipSpacing s)).map skipLines

/-- How a string ends and whether backslashes escape. -/
structure Quoting where
  quote : Char
  escapes : Bool
  /-- Three quotes end the string, and line ends are part of it. -/
  multiline : Bool

/-- The rest of a one-line string, behind its first quote. -/
def lineText (q : Quoting) : Nat → List Char → Reader (List Char)
  | 0, _, _ => .error .badText
  | fuel + 1, read, s =>
    match s with
    | [] => .error .badText
    | c :: rest =>
      if c = q.quote then .ok (read.reverse, rest)
      else if c = '\\' ∧ q.escapes then do
        let (char, rest) ← escape rest
        lineText q fuel (char :: read) rest
      else if isPlain c then lineText q fuel (c :: read) rest
      else .error .badText

/-- The rest of a multi-line string, behind its first three quotes. Of up to five quotes at its
end the last three close it. -/
def linesText (q : Quoting) : Nat → List Char → Reader (List Char)
  | 0, _, _ => .error .badText
  | fuel + 1, read, s =>
    match s with
    | [] => .error .badText
    | c :: rest =>
      if c = q.quote then
        let quotes := (s.takeWhile (· = q.quote)).length
        if quotes < 3 then linesText q fuel (c :: read) rest
        else
          let inside := min (quotes - 3) 2
          .ok (read.reverse ++ List.replicate inside q.quote, s.drop (inside + 3))
      else if c = '\\' ∧ q.escapes then
        match continuation? rest with
        | some rest => linesText q fuel read rest
        | none => do
          let (char, rest) ← escape rest
          linesText q fuel (char :: read) rest
      else
        match lineEnd? s with
        | some rest => linesText q fuel ('\n' :: read) rest
        | none => if isPlain c then linesText q fuel (c :: read) rest else .error .badText

def oneLine : Reader String
  | [] => .error .unexpected
  | c :: rest =>
    if c = '"' ∨ c = '\'' then do
      let (read, rest) ← lineText ⟨c, c = '"', false⟩ (rest.length + 1) [] rest
      return (String.ofList read, rest)
    else .error .unexpected

/-- A string of any kind. A line end right behind three opening quotes does not belong to it. -/
def text (s : List Char) : Except Fault (String × List Char) :=
  match s with
  | a :: b :: c :: rest =>
    if (a = '"' ∨ a = '\'') ∧ b = a ∧ c = a then do
      let rest := (lineEnd? rest).getD rest
      let (read, rest) ← linesText ⟨a, a = '"', true⟩ (rest.length + 1) [] rest
      return (String.ofList read, rest)
    else oneLine s
  | _ => oneLine s

end StorageLayout.Toml
