import StorageLayout.Decimal.Text
import StorageLayout.Json.Value

/-!
# Printing JSON values

`compact` writes a value without any blanks, `pretty` with one member or item a line and two
spaces for each level. Only quotes, backslashes and the characters below U+0020 are escaped in
strings.
-/

namespace StorageLayout.Json

/-- Floating-point numbers have the fewest digits that read back; they are written without an
exponent from `1e-5` to below `1e16`, and a whole one ends in `.0`. -/
def numberStyle : Decimal.NumberStyle where
  leastPlain := some (-5)
  greatestPlain := some 15
  keepsPoint := true
  tie := .toEven

/-- The text of a floating-point number; what is no number is null. -/
def floatText (x : Float) : String :=
  if x.isFinite then numberStyle.render x else "null"

def escapeChar (c : Char) : List Char :=
  match c with
  | '"' => ['\\', '"']
  | '\\' => ['\\', '\\']
  | '\x08' => ['\\', 'b']
  | '\x0c' => ['\\', 'f']
  | '\n' => ['\\', 'n']
  | '\r' => ['\\', 'r']
  | '\t' => ['\\', 't']
  | _ =>
    if c.toNat < 32 then
      ['\\', 'u', '0', '0'] ++ [Nat.digitChar (c.toNat / 16), Nat.digitChar (c.toNat % 16)]
    else [c]

def quote (s : String) : String :=
  String.ofList ('"' :: s.toList.flatMap escapeChar ++ ['"'])

/-- The value as a one-line text, unless it is an array or an object with contents. -/
def leaf : Json → String
  | null => "null"
  | bool b => if b then "true" else "false"
  | int n => toString n
  | float x => floatText x
  | string s => quote s
  | array _ => "[]"
  | object _ => "\x7b\x7d"

mutual

/-- The value without blanks. -/
def compact : Json → String
  | array (x :: xs) => "[" ++ x.compact ++ compactItems xs ++ "]"
  | object ((key, value) :: ms) =>
    "\x7b" ++ quote key ++ ":" ++ value.compact ++ compactMembers ms ++ "\x7d"
  | other => other.leaf

def compactItems : List Json → String
  | [] => ""
  | x :: xs => "," ++ x.compact ++ compactItems xs

def compactMembers : List (String × Json) → String
  | [] => ""
  | (key, value) :: ms => "," ++ quote key ++ ":" ++ value.compact ++ compactMembers ms

end

def newLine (level : Nat) : String :=
  "\n" ++ String.ofList (List.replicate (2 * level) ' ')

mutual

/-- The value in lines, its own first line standing at `level`. -/
def prettyAt (level : Nat) : Json → String
  | array (x :: xs) =>
    "[" ++ newLine (level + 1) ++ prettyAt (level + 1) x ++ prettyItems (level + 1) xs ++
      newLine level ++ "]"
  | object ((key, value) :: ms) =>
    "\x7b" ++ newLine (level + 1) ++ quote key ++ ": " ++ prettyAt (level + 1) value ++
      prettyMembers (level + 1) ms ++ newLine level ++ "\x7d"
  | other => other.leaf

def prettyItems (level : Nat) : List Json → String
  | [] => ""
  | x :: xs => "," ++ newLine level ++ prettyAt level x ++ prettyItems level xs

def prettyMembers (level : Nat) : List (String × Json) → String
  | [] => ""
  | (key, value) :: ms =>
    "," ++ newLine level ++ quote key ++ ": " ++ prettyAt level value ++ prettyMembers level ms

end

def pretty (value : Json) : String :=
  prettyAt 0 value

end StorageLayout.Json
