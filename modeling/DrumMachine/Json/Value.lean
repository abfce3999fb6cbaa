import DrumMachine.Json.Token

/-!
# Reading JSON

A value is put together from tokens one at a time, with the arrays and objects that are open kept on
a stack.
-/

namespace DrumMachine

/-- A JSON value. A string that is not made of characters has no text, and a number written other
than in digits alone is only known to be one. An object keeps all its fields in order. -/
inductive JsonValue where
  | null
  | boolean (value : Bool)
  | number (natural? : Option Nat)
  | string (text? : Option String)
  | array (items : List JsonValue)
  | object (fields : List (Option String × JsonValue))
deriving Inhabited

namespace JsonText

/-- An array or object that is open, its content latest first. -/
inductive Frame where
  | array (items : List JsonValue)
  | object (fields : List (Option String × JsonValue)) (key : Option String)
deriving Inhabited

inductive Expect where
  | value
  | valueOrEnd
  | key (fields : List (Option String × JsonValue))
  | keyOrEnd
  | colon (fields : List (Option String × JsonValue)) (key : Option String)
  | more
  | nothing (result : JsonValue)
deriving Inhabited

structure Reader where
  stack : List Frame := []
  expect : Expect := .value
deriving Inhabited

namespace Reader

/-- Hand a complete value to what is open around it. -/
def give (value : JsonValue) : List Frame → Reader
  | [] => ⟨[], .nothing value⟩
  | .array items :: rest => ⟨.array (value :: items) :: rest, .more⟩
  | .object fields key :: rest => ⟨.object ((key, value) :: fields) key :: rest, .more⟩

def word? (content : List UInt8) : Option JsonValue :=
  if content = "null".toUTF8.toList then some .null
  else if content = "true".toUTF8.toList then some (.boolean true)
  else if content = "false".toUTF8.toList then some (.boolean false)
  else if isNumber content then some (.number (natural? content))
  else none

def startValue (stack : List Frame) : Token → Option Reader
  | .openArray => some ⟨.array [] :: stack, .valueOrEnd⟩
  | .openObject => some ⟨stack, .keyOrEnd⟩
  | .string content => (pieces? content).map fun pieces => give (.string (text? pieces)) stack
  | .word content => (word? content).map fun value => give value stack
  | _ => none

/-- Take a token that has to be a key of an object with the given fields. -/
def takeKey (stack : List Frame) (fields : List (Option String × JsonValue)) :
    Token → Option Reader
  | .string content => (pieces? content).map fun pieces => ⟨stack, .colon fields (text? pieces)⟩
  | _ => none

def feed (reader : Reader) (token : Token) : Option Reader :=
  match reader.expect with
  | .value => startValue reader.stack token
  | .valueOrEnd =>
    match token, reader.stack with
    | .closeArray, _ :: rest => some (give (.array []) rest)
    | token, stack => startValue stack token
  | .key fields => takeKey reader.stack fields token
  | .keyOrEnd =>
    if token = .closeObject then some (give (.object []) reader.stack)
    else takeKey reader.stack [] token
  | .colon fields key =>
    if token = .colon then some ⟨.object fields key :: reader.stack, .value⟩ else none
  | .more =>
    match token, reader.stack with
    | .comma, .array items :: rest => some ⟨.array items :: rest, .value⟩
    | .comma, .object fields _ :: rest => some ⟨rest, .key fields⟩
    | .closeArray, .array items :: rest => some (give (.array items.reverse) rest)
    | .closeObject, .object fields _ :: rest => some (give (.object fields.reverse) rest)
    | _, _ => none
  | .nothing _ => none

end Reader

def parse (bytes : List UInt8) : Option JsonValue := do
  match (← (← tokenize bytes).foldlM Reader.feed {}).expect with
  | .nothing result => return result
  | _ => none

end JsonText

end DrumMachine
