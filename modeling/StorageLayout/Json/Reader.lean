import StorageLayout.Json.Token

/-!
# Reading JSON texts

The tokens drive a machine with a stack of open arrays and objects. The members of an object
end up in ascending order of keys, and of members with one key the last stays. At most 127
arrays and objects are open at once.
-/

namespace StorageLayout.Json

/-- An array or object that is still open. -/
inductive Frame where
  /-- The items so far, the last one first. -/
  | array (items : List Json)
  | object (members : List (String × Json))
  /-- An object whose next value belongs to a key. -/
  | member (members : List (String × Json)) (key : String)

/-- What the next token may be. -/
inductive Want where
  | value
  /-- A value, or the end of the array just opened. -/
  | valueOrEnd
  | key
  /-- A key, or the end of the object just opened. -/
  | keyOrEnd
  | colon
  /-- A comma or the end of the innermost array or object. -/
  | commaOrEnd
  /-- The value is complete. -/
  | nothing (result : Json)

structure Machine where
  frames : List Frame
  want : Want

namespace Machine

def start : Machine where
  frames := []
  want := .value

/-- The most arrays and objects that may be open. -/
def maxDepth : Nat := 127

/-- A value is complete: it goes into the innermost frame. -/
def put (value : Json) : List Frame → Except Fault Machine
  | [] => .ok { frames := [], want := .nothing value }
  | .array items :: fs => .ok { frames := .array (value :: items) :: fs, want := .commaOrEnd }
  | .member members key :: fs =>
    .ok { frames := .object (insertMember key value members) :: fs, want := .commaOrEnd }
  | .object _ :: _ => .error .unexpectedToken

def openFrame (frame : Frame) (want : Want) (frames : List Frame) : Except Fault Machine :=
  if frames.length < maxDepth then .ok { frames := frame :: frames, want }
  else .error .tooDeep

def beginValue (frames : List Frame) : Token → Except Fault Machine
  | .atom value => put value frames
  | .openArray => openFrame (.array []) .valueOrEnd frames
  | .openObject => openFrame (.object []) .keyOrEnd frames
  | _ => .error .unexpectedToken

def beginMember : List Frame → Token → Except Fault Machine
  | .object members :: fs, .atom (.string key) =>
    .ok { frames := .member members key :: fs, want := .colon }
  | _, _ => .error .unexpectedToken

/-- Close the innermost frame, if the token is the one that closes it. -/
def close : List Frame → Token → Except Fault Machine
  | .array items :: fs, .closeArray => put (.array items.reverse) fs
  | .object members :: fs, .closeObject => put (.object members) fs
  | _, _ => .error .unexpectedToken

/-- Take the token behind a value in the innermost frame. -/
def continueFrame (frames : List Frame) (t : Token) : Except Fault Machine :=
  match frames, t with
  | .array _ :: _, .comma => .ok { frames, want := .value }
  | .object _ :: _, .comma => .ok { frames, want := .key }
  | _, _ => close frames t

def step (m : Machine) (t : Token) : Except Fault Machine :=
  match m.want, t with
  | .value, _ => beginValue m.frames t
  | .valueOrEnd, .closeArray => close m.frames t
  | .valueOrEnd, _ => beginValue m.frames t
  | .key, _ => beginMember m.frames t
  | .keyOrEnd, .closeObject => close m.frames t
  | .keyOrEnd, _ => beginMember m.frames t
  | .colon, .colon => .ok { m with want := .value }
  | .colon, _ => .error .unexpectedToken
  | .commaOrEnd, _ => continueFrame m.frames t
  | .nothing _, _ => .error .unexpectedToken

end Machine

def read (s : String) : Except Fault Json := do
  let m ← (← tokens s).foldlM Machine.step .start
  match m.want with
  | .nothing result => .ok result
  | _ => .error .unfinished

end StorageLayout.Json
