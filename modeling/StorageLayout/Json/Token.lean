import StorageLayout.Json.Number

/-!
# Tokens of JSON texts

A text is cut into brackets, separators and atoms by a machine that takes one character at a
time. Between tokens stand spaces, tabs and line ends.
-/

namespace StorageLayout.Json

inductive Fault where
  | badCharacter (char : Char)
  | badEscape
  | badWord (word : String)
  | unfinishedText
  | unexpectedToken
  | unfinished
  | tooDeep
  deriving DecidableEq, Repr

def Fault.message : Fault → String
  | badCharacter c => s!"unexpected character {c.toNat}"
  | badEscape => "invalid escape"
  | badWord w => s!"invalid word {w}"
  | unfinishedText => "unfinished string"
  | unexpectedToken => "unexpected token"
  | unfinished => "unexpected end"
  | tooDeep => "recursion limit exceeded"

inductive Token where
  | openArray
  | closeArray
  | openObject
  | closeObject
  | colon
  | comma
  /-- A string, a number or one of the three words. -/
  | atom (value : Json)

namespace Token

def ofChar? : Char → Option Token
  | '[' => some openArray
  | ']' => some closeArray
  | '\x7b' => some openObject
  | '\x7d' => some closeObject
  | ':' => some colon
  | ',' => some comma
  | _ => none

/-- The atom a run of characters without quotes stands for. -/
def ofWord (word : List Char) : Except Fault Token :=
  if word = "true".toList then .ok (.atom (.bool true))
  else if word = "false".toList then .ok (.atom (.bool false))
  else if word = "null".toList then .ok (.atom .null)
  else
    match Number.read? word with
    | some value => .ok (.atom value)
    | none => .error (.badWord (String.ofList word))

end Token

def isSpacing (c : Char) : Bool :=
  c = ' ' || c = '\t' || c = '\n' || c = '\r'

def unescape? : Char → Option Char
  | '"' => some '"'
  | '\\' => some '\\'
  | '/' => some '/'
  | 'b' => some '\x08'
  | 'f' => some '\x0c'
  | 'n' => some '\n'
  | 'r' => some '\r'
  | 't' => some '\t'
  | _ => none

/-- What the characters read last belong to. In each list the last character comes first. -/
inductive Mode where
  | between
  | word (read : List Char)
  | text (read : List Char)
  /-- Behind a backslash. -/
  | escape (read : List Char)
  /-- Behind the first half of a character outside the basic plane. -/
  | half (read : List Char) (high : Nat)
  /-- Behind that half and a backslash. -/
  | halfEscape (read : List Char) (high : Nat)
  /-- Among the four hexadecimal digits of a code unit. -/
  | unit (read : List Char) (high : Option Nat) (value count : Nat)

/-- The tokens found so far, the last one first, and the state of the next. -/
structure Lexer where
  mode : Mode
  tokens : List Token

namespace Lexer

def start : Lexer where
  mode := .between
  tokens := []

/-- Take a character that begins a token or stands between two. -/
def beginToken (tokens : List Token) (c : Char) : Lexer :=
  match Token.ofChar? c with
  | some t => { mode := .between, tokens := t :: tokens }
  | none =>
    if isSpacing c then { mode := .between, tokens }
    else if c = '"' then { mode := .text [], tokens }
    else { mode := .word [c], tokens }

/-- A code unit is complete: a character, or half of one. -/
def endUnit (tokens : List Token) (read : List Char) (high : Option Nat) (value : Nat) :
    Except Fault Lexer :=
  match high with
  | some h =>
    if 0xdc00 ≤ value ∧ value ≤ 0xdfff then
      let code := 0x10000 + (h - 0xd800) * 0x400 + (value - 0xdc00)
      .ok { mode := .text (Char.ofNat code :: read), tokens }
    else .error .badEscape
  | none =>
    if 0xd800 ≤ value ∧ value ≤ 0xdbff then .ok { mode := .half read value, tokens }
    else if 0xdc00 ≤ value ∧ value ≤ 0xdfff then .error .badEscape
    else .ok { mode := .text (Char.ofNat value :: read), tokens }

def step (l : Lexer) (c : Char) : Except Fault Lexer :=
  match l.mode with
  | .between => .ok (beginToken l.tokens c)
  | .word read =>
    if (Token.ofChar? c).isSome ∨ isSpacing c ∨ c = '"' then do
      let t ← Token.ofWord read.reverse
      return beginToken (t :: l.tokens) c
    else .ok { l with mode := .word (c :: read) }
  | .text read =>
    if c = '"' then
      let t := Token.atom (.string (String.ofList read.reverse))
      .ok { mode := .between, tokens := t :: l.tokens }
    else if c = '\\' then .ok { l with mode := .escape read }
    else if c.toNat < 32 then .error (.badCharacter c)
    else .ok { l with mode := .text (c :: read) }
  | .escape read =>
    if c = 'u' then .ok { l with mode := .unit read none 0 0 }
    else
      match unescape? c with
      | some d => .ok { l with mode := .text (d :: read) }
      | none => .error .badEscape
  | .half read high =>
    if c = '\\' then .ok { l with mode := .halfEscape read high } else .error .badEscape
  | .halfEscape read high =>
    if c = 'u' then .ok { l with mode := .unit read (some high) 0 0 } else .error .badEscape
  | .unit read high value count =>
    match Text.digit? c with
    | none => .error .badEscape
    | some d =>
      if count = 3 then endUnit l.tokens read high (16 * value + d)
      else .ok { l with mode := .unit read high (16 * value + d) (count + 1) }

/-- The tokens, in order, when the text ends here. -/
def finish (l : Lexer) : Except Fault (List Token) :=
  match l.mode with
  | .between => .ok l.tokens.reverse
  | .word read => do
    let t ← Token.ofWord read.reverse
    return (t :: l.tokens).reverse
  | _ => .error .unfinishedText

end Lexer

def tokens (s : String) : Except Fault (List Token) := do
  let l ← s.toList.foldlM Lexer.step .start
  l.finish

end StorageLayout.Json
