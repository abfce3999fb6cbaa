import DrumMachine.Text.Blank
import DrumMachine.Text.Quoted

/-!
# Tokens of a document

A document is read as a sequence of brackets, parentheses, equals signs and texts. A text is written
bare, as a run of characters that neither separate nor delimit, or between double quotes, where it
may hold anything but a quote. `Scanner` consumes a document one character at a time and counts its
lines.
-/

namespace DrumMachine.Document

inductive Token where
  | openSection
  | closeSection
  | openList
  | closeList
  | equals
  | text (content : String)
deriving DecidableEq, Inhabited, Repr

def Token.shown : Token → String
  | .openSection => "`[`"
  | .closeSection => "`]`"
  | .openList => "`(`"
  | .closeList => "`)`"
  | .equals => "`=`"
  | .text content => Text.quoted content

def Token.ofMark? : Char → Option Token
  | '[' => some .openSection
  | ']' => some .closeSection
  | '(' => some .openList
  | ')' => some .closeList
  | '=' => some .equals
  | _ => none

/-- The character ends a bare text. -/
def isDelimiter (c : Char) : Bool := Text.isBlank c || (Token.ofMark? c).isSome

/-- A token and the line it starts on, counted from one. -/
structure Located where
  token : Token
  line : Nat
deriving DecidableEq, Inhabited, Repr

inductive Scanner.Mode where
  | between
  | bare (content : String)
  | quoted (content : String) (start : Nat)
deriving DecidableEq, Inhabited, Repr

/-- The state after part of a document: the tokens it completed, latest first, the current line, and
what is unfinished. -/
structure Scanner where
  done : List Located := []
  line : Nat := 1
  mode : Scanner.Mode := .between
deriving DecidableEq, Inhabited, Repr

namespace Scanner

/-- Complete a token that starts on `line`. -/
def emit (s : Scanner) (token : Token) (line : Nat) : Scanner :=
  ⟨⟨token, line⟩ :: s.done, s.line, .between⟩

def start (s : Scanner) (c : Char) : Scanner :=
  if c = '\n' then ⟨s.done, s.line + 1, .between⟩
  else if Text.isBlank c then ⟨s.done, s.line, .between⟩
  else match Token.ofMark? c with
    | some token => s.emit token s.line
    | none =>
      if c = '"' then ⟨s.done, s.line, .quoted "" s.line⟩
      else ⟨s.done, s.line, .bare (String.singleton c)⟩

def feed (s : Scanner) (c : Char) : Scanner :=
  match s.mode with
  | .between => s.start c
  | .bare content =>
    if isDelimiter c then (s.emit (.text content) s.line).start c
    else ⟨s.done, s.line, .bare (content.push c)⟩
  | .quoted content start =>
    if c = '"' then s.emit (.text content) start
    else ⟨s.done, if c = '\n' then s.line + 1 else s.line, .quoted (content.push c) start⟩

/-- Where the document ends: its tokens in order, or the line of a quote that was never closed. -/
def finish (s : Scanner) : Except Nat (List Located) :=
  match s.mode with
  | .between => .ok s.done.reverse
  | .bare content => .ok (s.emit (.text content) s.line).done.reverse
  | .quoted _ start => .error start

end Scanner

/-- The tokens of a document, or the line of its unclosed quote. -/
def tokenize (source : String) : Except Nat (List Located) :=
  (source.toList.foldl Scanner.feed {}).finish

end DrumMachine.Document
