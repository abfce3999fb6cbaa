/-!
# TOML values

The tree that a TOML document builds up. A table remembers how it came about, because that decides
what may still be added to it: a table in braces is complete, a table with a header of its own
cannot get a second one, and dotted keys extend only tables that no header has claimed.
-/

namespace DrumMachine

/-- How a table came about. -/
inductive TomlOrigin where
  | implied
  | dotted
  | header
  | braces
deriving DecidableEq, Inhabited, Repr

/-- A TOML value. Numbers and times are kept as written; `tables` is an array that grows by headers,
its latest table first. -/
inductive TomlValue where
  | string (text : String)
  | boolean (value : Bool)
  | number (text : String)
  | time (text : String)
  | array (items : List TomlValue)
  | table (origin : TomlOrigin) (entries : List (String × TomlValue))
  | tables (items : List TomlValue)
deriving Inhabited

namespace Toml

abbrev Entries := List (String × TomlValue)

def replace (entries : Entries) (key : String) (value : TomlValue) : Entries :=
  entries.map fun entry => if entry.1 == key then (key, value) else entry

def define : List String → TomlValue → Entries → Option Entries
  | [], _, _ => none
  | [key], value, entries =>
    match entries.lookup key with
    | none => some (entries ++ [(key, value)])
    | some _ => none
  | key :: rest, value, entries =>
    match entries.lookup key with
    | none => (define rest value []).map fun inner => entries ++ [(key, .table .dotted inner)]
    | some (.table origin inner) =>
      if origin = .dotted || origin = .implied then
        (define rest value inner).map fun inner => replace entries key (.table origin inner)
      else none
    | some _ => none

/-- Change the table that a header's path leads to, given what happens at its last key. Of an array
of tables the latest is meant, and missing tables on the way are implied. -/
def descend (atLast : String → Entries → Option Entries) : List String → Entries → Option Entries
  | [], _ => none
  | [key], entries => atLast key entries
  | key :: rest, entries =>
    match entries.lookup key with
    | none => (descend atLast rest []).map fun inner => entries ++ [(key, .table .implied inner)]
    | some (.table origin inner) =>
      if origin = .braces then none
      else (descend atLast rest inner).map fun inner => replace entries key (.table origin inner)
    | some (.tables (.table origin inner :: before)) =>
      (descend atLast rest inner).map fun inner =>
        replace entries key (.tables (.table origin inner :: before))
    | some _ => none

/-- What a header in single brackets does at its last key. -/
def openTable (key : String) (entries : Entries) : Option Entries :=
  match entries.lookup key with
  | none => some (entries ++ [(key, .table .header [])])
  | some (.table .implied inner) => some (replace entries key (.table .header inner))
  | some _ => none

/-- What a header in double brackets does at its last key. -/
def appendTable (key : String) (entries : Entries) : Option Entries :=
  match entries.lookup key with
  | none => some (entries ++ [(key, .tables [.table .header []])])
  | some (.tables items) => some (replace entries key (.tables (.table .header [] :: items)))
  | some _ => none

/-- Put a value under a dotted key of the table at a header's last key. -/
def defineAt (keys : List String) (value : TomlValue) (key : String) (entries : Entries) :
    Option Entries :=
  match entries.lookup key with
  | some (.table origin inner) =>
    (define keys value inner).map fun inner => replace entries key (.table origin inner)
  | some (.tables (.table origin inner :: before)) =>
    (define keys value inner).map fun inner =>
      replace entries key (.tables (.table origin inner :: before))
  | _ => none

/-- Put a value under a dotted key of the table with the given header, or of the root. -/
def defineUnder (header : List String) (keys : List String) (value : TomlValue)
    (entries : Entries) : Option Entries :=
  if header.isEmpty then define keys value entries else descend (defineAt keys value) header entries

end Toml

end DrumMachine
