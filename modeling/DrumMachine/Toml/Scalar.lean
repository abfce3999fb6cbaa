/-!
# TOML numbers and times

Which words are numbers, dates and times.
-/

namespace DrumMachine.Toml

/-- Digits of a kind, where an underscore may stand between two of them. -/
def isDigits (digit : Char → Bool) : List Char → Bool
  | [] => false
  | [c] => digit c
  | '_' :: _ => false
  | c :: '_' :: rest => digit c && isDigits digit rest
  | c :: rest => digit c && isDigits digit rest

def isHexDigit (c : Char) : Bool :=
  c.isDigit || ('a' ≤ c && c ≤ 'f') || ('A' ≤ c && c ≤ 'F')

def unsigned : List Char → List Char
  | '+' :: rest => rest
  | '-' :: rest => rest
  | word => word

/-- A decimal number that does not start with a zero, unless it is zero. -/
def isDecimal : List Char → Bool
  | ['0'] => true
  | '0' :: _ => false
  | word => isDigits Char.isDigit word

def isInteger : List Char → Bool
  | '0' :: 'x' :: rest => isDigits isHexDigit rest
  | '0' :: 'o' :: rest => isDigits (fun c => '0' ≤ c && c ≤ '7') rest
  | '0' :: 'b' :: rest => isDigits (fun c => c == '0' || c == '1') rest
  | word => isDecimal (unsigned word)

def isExponent : List Char → Bool
  | [] => true
  | mark :: rest => (mark == 'e' || mark == 'E') && isDigits Char.isDigit (unsigned rest)

def isMark (c : Char) : Bool := c == 'e' || c == 'E'

def isFloat (word : List Char) : Bool :=
  let magnitude := unsigned word
  if magnitude == "inf".toList || magnitude == "nan".toList then true
  else
    let whole := magnitude.takeWhile fun c => c != '.' && !isMark c
    match magnitude.dropWhile fun c => c != '.' && !isMark c with
    | [] => false
    | '.' :: rest =>
      isDecimal whole && isDigits Char.isDigit (rest.takeWhile fun c => !isMark c) &&
        isExponent (rest.dropWhile fun c => !isMark c)
    | exponent => isDecimal whole && isExponent exponent

/-- The value of digits alone, if there are as many as given. -/
def digits? (count : Nat) (word : List Char) : Option Nat :=
  if word.length = count && word.all Char.isDigit then
    some (word.foldl (fun value c => value * 10 + (c.toNat - '0'.toNat)) 0)
  else none

def daysInMonth (year month : Nat) : Nat :=
  if month = 2 then
    (if year % 4 = 0 && (year % 100 != 0 || year % 400 = 0) then 29 else 28)
  else if month = 4 || month = 6 || month = 9 || month = 11 then 30
  else 31

/-- A day of the calendar, as in `1979-05-27`. -/
def isDate (word : List Char) : Bool :=
  match digits? 4 (word.take 4), digits? 2 ((word.drop 5).take 2), digits? 2 (word.drop 8) with
  | some year, some month, some day =>
    (word.drop 4).head? == some '-' && (word.drop 7).head? == some '-' &&
      1 ≤ month && month ≤ 12 && 1 ≤ day && day ≤ daysInMonth year month
  | _, _, _ => false

/-- Hours and minutes, as in `07:32`. -/
def isClock (word : List Char) : Bool :=
  match digits? 2 (word.take 2), digits? 2 (word.drop 3) with
  | some hour, some minute => (word.drop 2).head? == some ':' && hour ≤ 23 && minute ≤ 59
  | _, _ => false

/-- A time of day; the seconds may be left out, or be split. -/
def isTimeOfDay (word : List Char) : Bool :=
  isClock (word.take 5) &&
    match word.drop 5 with
    | [] => true
    | ':' :: rest =>
      (match digits? 2 (rest.take 2) with
        | some second => second ≤ 60
        | none => false) &&
        match rest.drop 2 with
        | [] => true
        | '.' :: fraction => !fraction.isEmpty && fraction.all Char.isDigit
        | _ => false
    | _ => false

/-- A time of day with or without its distance from universal time. -/
def isZonedTime (word : List Char) : Bool :=
  let time := word.takeWhile fun c => c.isDigit || c == ':' || c == '.'
  isTimeOfDay time &&
    match word.drop time.length with
    | [] => true
    | ['Z'] => true
    | ['z'] => true
    | sign :: offset => (sign == '+' || sign == '-') && isClock offset

/-- A date, a time of day, or both with a mark between them. -/
def isTime (word : List Char) : Bool :=
  isTimeOfDay word ||
    (isDate (word.take 10) &&
      match word.drop 10 with
      | [] => true
      | mark :: rest => (mark == 'T' || mark == 't' || mark == ' ') && isZonedTime rest)

end DrumMachine.Toml
