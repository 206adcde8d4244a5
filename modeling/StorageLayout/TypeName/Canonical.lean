import StorageLayout.Text.Alphanumeric
import StorageLayout.Text.Basic

/-!
# Canonical spelling of a type name

Two spellings name one type when they have the same tokens, up to the aliases `uint`, `int` and
`address payable`. `canonical` writes the tokens of a name in one way: aliases resolved, and a
space only between two words.
-/

namespace StorageLayout.TypeName

open Text

/-- A word of letters, numerals and the marks an identifier or a path may hold, or one other
character that is not blank. -/
inductive Token where
  | word (chars : List Char)
  | mark (char : Char)
  deriving DecidableEq, Repr

def isWordChar (c : Char) : Bool :=
  isAlphanumeric c || c = '_' || c = '$' || c = '.'

/-- Put `c` in front of a leading word, or start a word of its own. -/
def Token.consWord (c : Char) : List Token → List Token
  | .word w :: ts => .word (c :: w) :: ts
  | ts => .word [c] :: ts

/-- The tokens of a text: its maximal words and its marks, in order. -/
def tokens : List Char → List Token
  | [] => []
  | c :: cs =>
    if isWordChar c then
      if cs.head?.any isWordChar then Token.consWord c (tokens cs) else .word [c] :: tokens cs
    else if isBlank c then tokens cs
    else .mark c :: tokens cs

def unabbreviate (w : List Char) : List Char :=
  if w = "uint".toList then "uint256".toList
  else if w = "int".toList then "int256".toList
  else w

/-- Write tokens after `before`, the word that ends the text so far if a word ends it. A
`payable` after `address` is left out, and a space parts two words. -/
def spellAfter (before : Option (List Char)) : List Token → List Char
  | [] => []
  | .mark c :: ts => c :: spellAfter none ts
  | .word w :: ts =>
    if w = "payable".toList ∧ before = some "address".toList then spellAfter before ts
    else (if before.isSome then [' '] else []) ++ unabbreviate w ++ spellAfter (some w) ts

def spell (ts : List Token) : List Char :=
  spellAfter none ts

def canonical (name : String) : String :=
  String.ofList (spell (tokens name.toList))

end StorageLayout.TypeName
