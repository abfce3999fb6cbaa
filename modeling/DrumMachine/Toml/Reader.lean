import DrumMachine.Toml.Scalar
import DrumMachine.Toml.Value

/-!
# Reading TOML

A TOML document is read expression by expression: headers choose a table, and keys with values go
into the table chosen last. What cannot be read, or defines something twice, is no document at all.
-/

namespace DrumMachine.Toml

abbrev Chars := List Char

def isSpace (c : Char) : Bool := c == ' ' || c == '\t'

/-- A control character other than a tab. -/
def isControl (c : Char) : Bool := (c.toNat < 0x20 && c != '\t') || c.toNat == 0x7f

def skipSpace (cs : Chars) : Chars := cs.dropWhile isSpace

def lineEnd? : Chars → Option Chars
  | '\n' :: rest => some rest
  | '\r' :: '\n' :: rest => some rest
  | _ => none

def skipVoid (inComment : Bool) : Chars → Option Chars
  | [] => some []
  | '\n' :: rest => skipVoid false rest
  | '\r' :: '\n' :: rest => skipVoid false rest
  | c :: rest =>
    if inComment then (if isControl c then none else skipVoid true rest)
    else if isSpace c then skipVoid false rest
    else if c = '#' then skipVoid true rest
    else some (c :: rest)

/-- What follows the rest of a line on which nothing but a comment may stand. -/
def endLine (cs : Chars) : Option Chars :=
  match skipSpace cs with
  | [] => some []
  | '#' :: rest =>
    let comment := rest.takeWhile fun c => c != '\n' && c != '\r'
    if comment.any isControl then none
    else match rest.drop comment.length with
      | [] => some []
      | after => lineEnd? after
  | after => lineEnd? after

/-! ### Strings -/

def hexValue? (word : List Char) : Option Nat :=
  if word.all isHexDigit then
    some (word.foldl (fun value c =>
      value * 16 + (if c.isDigit then c.toNat - '0'.toNat else c.toLower.toNat - 'a'.toNat + 10)) 0)
  else none

/-- The character given by a fixed number of hexadecimal digits, and what follows. -/
def codePoint? (count : Nat) (cs : Chars) : Option (Char × Chars) := do
  let word := cs.take count
  if word.length ≠ count then none
  let code ← hexValue? word
  if h : code.isValidChar then return (Char.ofNatAux code h, cs.drop count) else none

/-- The character that an escape stands for, from behind its backslash. -/
def escape? : Chars → Option (Char × Chars)
  | 'b' :: rest => some ('\x08', rest)
  | 't' :: rest => some ('\t', rest)
  | 'n' :: rest => some ('\n', rest)
  | 'f' :: rest => some ('\x0c', rest)
  | 'r' :: rest => some ('\r', rest)
  | 'e' :: rest => some ('\x1b', rest)
  | '"' :: rest => some ('"', rest)
  | '\\' :: rest => some ('\\', rest)
  | 'x' :: rest => codePoint? 2 rest
  | 'u' :: rest => codePoint? 4 rest
  | 'U' :: rest => codePoint? 8 rest
  | _ => none

/-- The rest of a string in one pair of quotes. -/
def basicString : Nat → List Char → Chars → Option (String × Chars)
  | 0, _, _ => none
  | fuel + 1, done, cs =>
    match cs with
    | [] => none
    | '"' :: rest => some (String.ofList done.reverse, rest)
    | '\\' :: rest => do
      let (c, rest) ← escape? rest
      basicString fuel (c :: done) rest
    | c :: rest => if isControl c then none else basicString fuel (c :: done) rest

/-- The rest of a string in one pair of apostrophes. -/
def literalString (done : List Char) : Chars → Option (String × Chars)
  | [] => none
  | c :: rest =>
    if c = '\x27' then some (String.ofList done.reverse, rest)
    else if isControl c then none
    else literalString (c :: done) rest

def skipFolded : Chars → Chars
  | '\r' :: '\n' :: rest => skipFolded rest
  | c :: rest => if isSpace c || c == '\n' then skipFolded rest else c :: rest
  | [] => []

/-- A run of marks in a string of several lines, of which three end the string; up to two more
belong to it. -/
def closing? (mark : Char) (done : List Char) (cs : Chars) :
    Option (Option String × List Char × Chars) :=
  let count := (cs.takeWhile (· == mark)).length
  if count < 3 then
    some (none, List.replicate count mark ++ done, cs.drop count)
  else if count ≤ 5 then
    some (some (String.ofList (List.replicate (count - 3) mark ++ done).reverse), [], cs.drop count)
  else none

/-- The rest of a string of several lines between three marks each, with or without escapes. -/
def longString (mark : Char) (escapes : Bool) : Nat → List Char → Chars → Option (String × Chars)
  | 0, _, _ => none
  | fuel + 1, done, cs =>
    match cs with
    | [] => none
    | '\n' :: rest => longString mark escapes fuel ('\n' :: done) rest
    | '\r' :: '\n' :: rest => longString mark escapes fuel ('\n' :: '\r' :: done) rest
    | c :: rest =>
      if c = mark then
        match closing? mark done cs with
        | none => none
        | some (some text, _, after) => some (text, after)
        | some (none, done, after) => longString mark escapes fuel done after
      else if escapes && c == '\\' then
        match lineEnd? (skipSpace rest) with
        | some after => longString mark escapes fuel done (skipFolded after)
        | none =>
          match escape? rest with
          | some (c, after) => longString mark escapes fuel (c :: done) after
          | none => none
      else if isControl c then none
      else longString mark escapes fuel (c :: done) rest

/-- The line end right behind the opening of a long string does not count. -/
def trimFirst (cs : Chars) : Chars := (lineEnd? cs).getD cs

def string? (cs : Chars) : Option (String × Chars) :=
  match cs with
  | '"' :: '"' :: '"' :: rest => longString '"' true cs.length [] (trimFirst rest)
  | '"' :: rest => basicString cs.length [] rest
  | '\x27' :: '\x27' :: '\x27' :: rest => longString '\x27' false cs.length [] (trimFirst rest)
  | '\x27' :: rest => literalString [] rest
  | _ => none

/-! ### Keys -/

def isKeyChar (c : Char) : Bool := c.isAlphanum || c == '_' || c == '-'

/-- One part of a key: a word, or a string on one line. -/
def keyPart? (cs : Chars) : Option (String × Chars) :=
  match cs with
  | '"' :: rest => basicString cs.length [] rest
  | '\x27' :: rest => literalString [] rest
  | _ =>
    let word := cs.takeWhile isKeyChar
    if word.isEmpty then none else some (String.ofList word, cs.drop word.length)

/-- A key of parts with dots between them, and what follows it and its spaces. -/
def key? : Nat → Chars → Option (List String × Chars)
  | 0, _ => none
  | fuel + 1, cs => do
    let (part, rest) ← keyPart? (skipSpace cs)
    match skipSpace rest with
    | '.' :: rest =>
      let (parts, rest) ← key? fuel rest
      return (part :: parts, rest)
    | rest => return ([part], rest)

/-! ### Values -/

def isWordChar (c : Char) : Bool :=
  c.isAlphanum || c == '_' || c == '+' || c == '-' || c == ':' || c == '.'

/-- A word, with the time that follows a date behind one space. -/
def word (cs : Chars) : Chars :=
  let first := cs.takeWhile isWordChar
  match cs.drop first.length with
  | ' ' :: next :: rest =>
    if isDate first && next.isDigit then first ++ ' ' :: (next :: rest).takeWhile isWordChar
    else first
  | _ => first

def scalar? (cs : Chars) : Option (TomlValue × Chars) :=
  let word := word cs
  let rest := cs.drop word.length
  if word = "true".toList then some (.boolean true, rest)
  else if word = "false".toList then some (.boolean false, rest)
  else if isInteger word || isFloat word then some (.number (String.ofList word), rest)
  else if isTime word then some (.time (String.ofList word), rest)
  else none

mutual

/-- A value at the front of a text. The fuel is no less than the length of the text. -/
def value? : Nat → Chars → Option (TomlValue × Chars)
  | 0, _ => none
  | fuel + 1, cs =>
    match cs with
    | '[' :: rest => do
      let (items, rest) ← items? fuel (← skipVoid false rest)
      return (.array items, rest)
    | '\x7b' :: rest => do
      let (entries, rest) ← entries? fuel [] (← skipVoid false rest)
      return (.table .braces entries, rest)
    | '"' :: _ | '\x27' :: _ => (string? cs).map fun (text, rest) => (.string text, rest)
    | _ => scalar? cs

def items? : Nat → Chars → Option (List TomlValue × Chars)
  | 0, _ => none
  | fuel + 1, cs =>
    match cs with
    | ']' :: rest => some ([], rest)
    | _ => do
      let (item, rest) ← value? fuel cs
      match ← skipVoid false rest with
      | ',' :: rest =>
        let (items, rest) ← items? fuel (← skipVoid false rest)
        return (item :: items, rest)
      | ']' :: rest => return ([item], rest)
      | _ => none

/-- The entries of a table in braces up to its end, after those in `done`. -/
def entries? : Nat → Entries → Chars → Option (Entries × Chars)
  | 0, _, _ => none
  | fuel + 1, done, cs =>
    match cs with
    | '\x7d' :: rest => some (done, rest)
    | _ => do
      let (key, rest) ← key? cs.length cs
      match ← skipVoid false rest with
      | '=' :: rest =>
        let (value, rest) ← value? fuel (← skipVoid false rest)
        let done ← define key value done
        match ← skipVoid false rest with
        | ',' :: rest => entries? fuel done (← skipVoid false rest)
        | '\x7d' :: rest => return (done, rest)
        | _ => none
      | _ => none

end

/-! ### Documents -/

/-- What the expressions so far have built, and the header that counts for the next one. -/
structure Reader where
  root : Entries := []
  header : List String := []
deriving Inhabited

/-- A header that chooses a table. -/
def tableHeader? (reader : Reader) (cs : Chars) : Option (Reader × Chars) := do
  let (key, rest) ← key? cs.length cs
  match rest with
  | ']' :: rest => return (⟨← descend openTable key reader.root, key⟩, ← endLine rest)
  | _ => none

/-- A header that starts another table of an array. -/
def arrayHeader? (reader : Reader) (cs : Chars) : Option (Reader × Chars) := do
  let (key, rest) ← key? cs.length cs
  match rest with
  | ']' :: ']' :: rest => return (⟨← descend appendTable key reader.root, key⟩, ← endLine rest)
  | _ => none

def keyValue? (reader : Reader) (cs : Chars) : Option (Reader × Chars) := do
  let (key, rest) ← key? cs.length cs
  match rest with
  | '=' :: rest =>
    let (value, rest) ← value? rest.length (skipSpace rest)
    return ({ reader with root := ← defineUnder reader.header key value reader.root },
      ← endLine rest)
  | _ => none

/-- All expressions of a text. The fuel is more than the length of the text. -/
def expressions? : Nat → Reader → Chars → Option Entries
  | 0, _, _ => none
  | fuel + 1, reader, cs => do
    match ← skipVoid false cs with
    | [] => return reader.root
    | '[' :: '[' :: rest =>
      let (reader, rest) ← arrayHeader? reader rest
      expressions? fuel reader rest
    | '[' :: rest =>
      let (reader, rest) ← tableHeader? reader rest
      expressions? fuel reader rest
    | cs =>
      let (reader, rest) ← keyValue? reader cs
      expressions? fuel reader rest

/-- What a document holds, without the mark that may stand before it. -/
def parse (source : String) : Option Entries :=
  let cs := match source.toList with
    | '\ufeff' :: rest => rest
    | cs => cs
  expressions? (cs.length + 1) {} cs

end DrumMachine.Toml
