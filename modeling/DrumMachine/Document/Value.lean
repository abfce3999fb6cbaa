/-!
# Values of a document

A document is a sequence of named sections, each a sequence of named values. A value is a piece of
text, a list of values, or, inside a list, a named value of its own.
-/

namespace DrumMachine

/-- A setting's value. `option` gives its inner value a name and occurs as an item of a list. -/
inductive Value where
  | scalar (text : String)
  | list (items : List Value)
  | option (name : String) (value : Value)
deriving Inhabited, Repr

structure Entry where
  name : String
  value : Value
deriving Inhabited, Repr

structure Section where
  name : String
  entries : List Entry
deriving Inhabited, Repr

namespace Value

inductive Kind where
  | scalar
  | list
  | option
deriving DecidableEq, Repr

def Kind.label : Kind → String
  | .scalar => "scalar"
  | .list => "list"
  | .option => "option"

def kind : Value → Kind
  | .scalar _ => .scalar
  | .list _ => .list
  | .option _ _ => .option

def scalar? : Value → Option String
  | .scalar text => some text
  | _ => none

mutual

/-- Every scalar in the value from left to right, each with the name of the nearest option around
it, or with `key` where there is none. -/
def leaves (key : Option String) : Value → List (Option String × String)
  | .scalar text => [(key, text)]
  | .list items => leavesOfItems key items
  | .option name value => value.leaves (some name)

def leavesOfItems (key : Option String) : List Value → List (Option String × String)
  | [] => []
  | item :: rest => item.leaves key ++ leavesOfItems key rest

end

mutual

/-- How deep lists stand inside lists: zero for a value without any. -/
def nesting : Value → Nat
  | .scalar _ => 0
  | .list items => nestingOfItems items + 1
  | .option _ value => value.nesting

def nestingOfItems : List Value → Nat
  | [] => 0
  | item :: rest => max item.nesting (nestingOfItems rest)

end

mutual

/-- Equality of values, decided by going through both side by side. -/
def decEq : (left right : Value) → Decidable (left = right)
  | .scalar text, .scalar text' =>
    if h : text = text' then .isTrue (by rw [h]) else .isFalse fun heq => h (Value.scalar.inj heq)
  | .list items, .list items' =>
    match decEqItems items items' with
    | .isTrue h => .isTrue (by rw [h])
    | .isFalse h => .isFalse fun heq => h (Value.list.inj heq)
  | .option name value, .option name' value' =>
    if h : name = name' then
      match decEq value value' with
      | .isTrue hvalue => .isTrue (by rw [h, hvalue])
      | .isFalse hvalue => .isFalse fun heq => hvalue (Value.option.inj heq).2
    else .isFalse fun heq => h (Value.option.inj heq).1
  | .scalar _, .list _ | .scalar _, .option _ _ | .list _, .scalar _ | .list _, .option _ _
  | .option _ _, .scalar _ | .option _ _, .list _ => .isFalse Value.noConfusion

def decEqItems : (left right : List Value) → Decidable (left = right)
  | [], [] => .isTrue rfl
  | [], _ :: _ => .isFalse (List.cons_ne_nil _ _).symm
  | _ :: _, [] => .isFalse (List.cons_ne_nil _ _)
  | item :: rest, item' :: rest' =>
    match decEq item item', decEqItems rest rest' with
    | .isTrue h, .isTrue hrest => .isTrue (by rw [h, hrest])
    | .isFalse h, _ => .isFalse fun heq => h (List.cons.inj heq).1
    | _, .isFalse hrest => .isFalse fun heq => hrest (List.cons.inj heq).2

end

instance : DecidableEq Value := decEq

end Value

deriving instance DecidableEq for Entry
deriving instance DecidableEq for Section

end DrumMachine
