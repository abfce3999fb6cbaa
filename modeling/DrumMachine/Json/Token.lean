/-!
# Tokens of JSON

JSON text is taken byte by byte. The punctuation marks are tokens of their own; literals and numbers
are runs of the characters they are made of, checked when they end; a string is everything up to the
next quote that is not escaped.
-/

namespace DrumMachine.JsonText

inductive Token where
  | openObject
  | closeObject
  | openArray
  | closeArray
  | colon
  | comma
  | string (content : List UInt8)
  | word (content : List UInt8)
deriving DecidableEq, Inhabited, Repr

def Token.ofMark? (byte : UInt8) : Option Token :=
  if byte = 0x7b then some .openObject
  else if byte = 0x7d then some .closeObject
  else if byte = 0x5b then some .openArray
  else if byte = 0x5d then some .closeArray
  else if byte = 0x3a then some .colon
  else if byte = 0x2c then some .comma
  else none

/-- Space, line feed, carriage return or tab. -/
def isBlank (byte : UInt8) : Bool := byte == 0x20 || byte == 0x0a || byte == 0x0d || byte == 0x09

def quote : UInt8 := 0x22

def backslash : UInt8 := 0x5c

/-- What the scanner is inside of; content is kept in reverse. -/
inductive Scanner.Mode where
  | between
  | word (content : List UInt8)
  | string (content : List UInt8)
  | escape (content : List UInt8)
deriving DecidableEq, Inhabited, Repr

/-- The tokens completed, latest first, and what is unfinished. -/
structure Scanner where
  done : List Token := []
  mode : Scanner.Mode := .between
deriving DecidableEq, Inhabited, Repr

namespace Scanner

def start (done : List Token) (byte : UInt8) : Scanner :=
  if isBlank byte then ⟨done, .between⟩
  else match Token.ofMark? byte with
    | some token => ⟨token :: done, .between⟩
    | none => if byte = quote then ⟨done, .string []⟩ else ⟨done, .word [byte]⟩

def feed (s : Scanner) (byte : UInt8) : Scanner :=
  match s.mode with
  | .between => start s.done byte
  | .word content =>
    if isBlank byte || (Token.ofMark? byte).isSome || byte == quote then
      start (.word content.reverse :: s.done) byte
    else ⟨s.done, .word (byte :: content)⟩
  | .string content =>
    if byte = quote then ⟨.string content.reverse :: s.done, .between⟩
    else if byte = backslash then ⟨s.done, .escape (byte :: content)⟩
    else ⟨s.done, .string (byte :: content)⟩
  | .escape content => ⟨s.done, .string (byte :: content)⟩

/-- The tokens in order, unless the text ends inside a string. -/
def finish (s : Scanner) : Option (List Token) :=
  match s.mode with
  | .between => some s.done.reverse
  | .word content => some (.word content.reverse :: s.done).reverse
  | .string _ | .escape _ => none

end Scanner

def tokenize (bytes : List UInt8) : Option (List Token) := (bytes.foldl Scanner.feed {}).finish

/-! ### Strings -/

/-- A part of a string: a byte that stands for itself, or a 16-bit unit given by its number. -/
inductive Piece where
  | byte (value : UInt8)
  | unit (value : Nat)
deriving DecidableEq, Repr

def hexDigit? (byte : UInt8) : Option Nat :=
  let n := byte.toNat
  if 0x30 ≤ n ∧ n ≤ 0x39 then some (n - 0x30)
  else if 0x41 ≤ n ∧ n ≤ 0x46 then some (n - 0x41 + 10)
  else if 0x61 ≤ n ∧ n ≤ 0x66 then some (n - 0x61 + 10)
  else none

/-- The byte that an escape of two characters stands for. -/
def escaped? (byte : UInt8) : Option UInt8 :=
  if byte = quote || byte = backslash || byte = 0x2f then some byte
  else if byte = 0x62 then some 0x08
  else if byte = 0x66 then some 0x0c
  else if byte = 0x6e then some 0x0a
  else if byte = 0x72 then some 0x0d
  else if byte = 0x74 then some 0x09
  else none

/-- The parts of a string's content, unless it holds a control or an escape that does not exist. -/
def pieces? : List UInt8 → Option (List Piece)
  | [] => some []
  | 0x5c :: 0x75 :: a :: b :: c :: d :: rest => do
    let unit := ((← hexDigit? a) * 16 + (← hexDigit? b)) * 16 + (← hexDigit? c)
    return .unit (unit * 16 + (← hexDigit? d)) :: (← pieces? rest)
  | 0x5c :: byte :: rest => do return .byte (← escaped? byte) :: (← pieces? rest)
  | byte :: rest => do
    if byte < 0x20 then none else return .byte byte :: (← pieces? rest)

/-- The bytes of the parts; two units that form a surrogate pair are one character, and no other
surrogate is a character. -/
def assemble? : List Piece → Option (List UInt8)
  | [] => some []
  | .byte byte :: rest => do return byte :: (← assemble? rest)
  | .unit high :: .unit low :: rest =>
    if 0xd800 ≤ high ∧ high < 0xdc00 then
      if 0xdc00 ≤ low ∧ low < 0xe000 then do
        let c := Char.ofNat (0x10000 + (high - 0xd800) * 0x400 + (low - 0xdc00))
        return c.toString.toUTF8.toList ++ (← assemble? rest)
      else none
    else if 0xdc00 ≤ high ∧ high < 0xe000 then none
    else do return (Char.ofNat high).toString.toUTF8.toList ++ (← assemble? (.unit low :: rest))
  | .unit unit :: rest =>
    if 0xd800 ≤ unit ∧ unit < 0xe000 then none
    else do return (Char.ofNat unit).toString.toUTF8.toList ++ (← assemble? rest)

def text? (pieces : List Piece) : Option String := do
  String.fromUTF8? (ByteArray.mk (← assemble? pieces).toArray)

/-! ### Numbers -/

def isDigit (byte : UInt8) : Bool := 0x30 ≤ byte && byte ≤ 0x39

def isExponent : List UInt8 → Bool
  | [] => true
  | mark :: rest =>
    let digits := match rest with
      | sign :: digits => if sign = 0x2b || sign = 0x2d then digits else rest
      | [] => []
    (mark = 0x65 || mark = 0x45) && !digits.isEmpty && digits.all isDigit

def isFraction : List UInt8 → Bool
  | 0x2e :: rest => (rest.takeWhile isDigit).length > 0 && isExponent (rest.dropWhile isDigit)
  | rest => isExponent rest

/-- Zero, or digits that do not start with it. -/
def isWhole (digits : List UInt8) : Bool :=
  match digits with
  | [] => false
  | 0x30 :: rest => rest.isEmpty
  | _ => true

def isMagnitude (content : List UInt8) : Bool :=
  isWhole (content.takeWhile isDigit) && isFraction (content.dropWhile isDigit)

def isNumber : List UInt8 → Bool
  | 0x2d :: rest => isMagnitude rest
  | content => isMagnitude content

/-- The value of a number that consists of digits alone. -/
def natural? (content : List UInt8) : Option Nat :=
  if content.all isDigit then
    some (content.foldl (fun value byte => value * 10 + (byte.toNat - 0x30)) 0)
  else none

end DrumMachine.JsonText
