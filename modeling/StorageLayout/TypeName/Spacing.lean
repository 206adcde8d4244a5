import StorageLayout.Text.Basic

/-!
# Spacing of a type name

A type name may be written with any blanks. `tidy` leaves one space between words and none
beside a bracket that needs none: `mapping (address => uint)` becomes `mapping(address => uint)`
and `uint256 [ ]` becomes `uint256[]`.
-/

namespace StorageLayout.TypeName

open Text

/-- The words of the text with one space between neighbours. -/
def collapse (s : List Char) : List Char :=
  [' '].intercalate (words s)

/-- A space after such a character is dropped. -/
def isOpening (c : Char) : Bool :=
  c = '(' || c = '['

/-- A space before such a character is dropped. -/
def isBracket (c : Char) : Bool :=
  c = '(' || c = ')' || c = '[' || c = ']'

/-- Drop each space that follows an opening bracket or precedes a bracket, where `before` is
the character in front of the text. -/
def tightenAfter (before : Char) : List Char → List Char
  | [] => []
  | c :: cs =>
    if c = ' ' && (cs.head?.any isBracket || isOpening before) then tightenAfter c cs
    else c :: tightenAfter c cs

/-- The text without the spaces that brackets make superfluous. -/
def tighten (s : List Char) : List Char :=
  tightenAfter ' ' s

def tidy (s : List Char) : List Char :=
  tighten (collapse s)

end StorageLayout.TypeName
