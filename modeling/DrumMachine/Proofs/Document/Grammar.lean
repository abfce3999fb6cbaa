import DrumMachine.Document.Reader

/-!
# The grammar of sections

`Value.tokens` and `Section.tokens` spell values and sections in tokens. `Section.Readable` says which
sections can be spelled so that they are read back: no option is the value of an entry or of another
option, and no more than `maxNesting` lists stand inside each other.
-/

namespace DrumMachine

open Document (Token maxNesting)

namespace Value

mutual

/-- The tokens that spell a value. -/
def tokens : Value → List Token
  | .scalar text => [.text text]
  | .list items => .openList :: (tokensOfItems items ++ [.closeList])
  | .option name value => .text name :: .equals :: value.tokens

def tokensOfItems : List Value → List Token
  | [] => []
  | item :: rest => item.tokens ++ tokensOfItems rest

end

mutual

/-- The scalars and option names of a value. -/
def texts : Value → List String
  | .scalar text => [text]
  | .list items => textsOfItems items
  | .option name value => name :: value.texts

def textsOfItems : List Value → List String
  | [] => []
  | item :: rest => item.texts ++ textsOfItems rest

end

mutual

/-- No option in the value is the value of another option. -/
def NamedOnce : Value → Prop
  | .scalar _ => True
  | .list items => NamedOnceItems items
  | .option _ value => value.kind ≠ .option ∧ value.NamedOnce

def NamedOnceItems : List Value → Prop
  | [] => True
  | item :: rest => item.NamedOnce ∧ NamedOnceItems rest

end

/-- The value of an entry as the reader accepts it. -/
structure Readable (value : Value) : Prop where
  kind_ne : value.kind ≠ .option
  namedOnce : value.NamedOnce
  nesting_le : value.nesting ≤ maxNesting

/-- An item of a list around which `depth` lists are open. -/
structure FitsAt (depth : Nat) (item : Value) : Prop where
  namedOnce : item.NamedOnce
  nesting_le : depth + item.nesting ≤ maxNesting

theorem readable_scalar (text : String) : (Value.scalar text).Readable :=
  ⟨by simp [kind], trivial, Nat.zero_le _⟩

theorem tokensOfItems_append (items rest : List Value) :
    tokensOfItems (items ++ rest) = tokensOfItems items ++ tokensOfItems rest := by
  induction items with
  | nil => rfl
  | cons item items ih => simp [tokensOfItems, ih]

theorem namedOnceItems_iff {items : List Value} :
    NamedOnceItems items ↔ ∀ item ∈ items, item.NamedOnce := by
  induction items with
  | nil => simp [NamedOnceItems]
  | cons item items ih => simp [NamedOnceItems, ih]

theorem nestingOfItems_le_iff {items : List Value} {n : Nat} :
    nestingOfItems items ≤ n ↔ ∀ item ∈ items, item.nesting ≤ n := by
  induction items with
  | nil => simp [nestingOfItems]
  | cons item items ih => rw [nestingOfItems, Nat.max_le, ih, List.forall_mem_cons]

mutual

theorem mem_texts_iff (text : String) :
    ∀ value : Value, text ∈ value.texts ↔ .text text ∈ value.tokens
  | .scalar _ => by simp [texts, tokens]
  | .list items => by simp [texts, tokens, mem_textsOfItems_iff text items]
  | .option _ value => by simp [texts, tokens, mem_texts_iff text value]

theorem mem_textsOfItems_iff (text : String) :
    ∀ items : List Value, text ∈ textsOfItems items ↔ .text text ∈ tokensOfItems items
  | [] => by simp [textsOfItems, tokensOfItems]
  | item :: rest => by
    simp [textsOfItems, tokensOfItems, mem_texts_iff text item, mem_textsOfItems_iff text rest]

end

theorem exists_tokens_eq_cons (value : Value) :
    ∃ token rest, value.tokens = token :: rest ∧ token ≠ .equals := by
  cases value with
  | scalar text => exact ⟨.text text, [], rfl, by simp⟩
  | list items => exact ⟨.openList, _, rfl, by simp⟩
  | option name value => exact ⟨.text name, _, rfl, by simp⟩

/-- What comes after a scalar in a list is never an equals sign. -/
theorem exists_tokensOfItems_append_eq_cons (items : List Value) :
    ∃ token rest, tokensOfItems items ++ [.closeList] = token :: rest ∧ token ≠ .equals := by
  cases items with
  | nil => exact ⟨.closeList, [], rfl, by simp⟩
  | cons item items =>
    obtain ⟨token, rest, htokens, htoken⟩ := exists_tokens_eq_cons item
    exact ⟨token, rest ++ (tokensOfItems items ++ [.closeList]), by simp [tokensOfItems, htokens],
      htoken⟩

end Value

def Entry.tokens (entry : Entry) : List Token := .text entry.name :: .equals :: entry.value.tokens

namespace Section

def tokens (sec : Section) : List Token :=
  .openSection :: .text sec.name :: .closeSection :: sec.entries.flatMap Entry.tokens

/-- A section as the reader accepts it. -/
def Readable (sec : Section) : Prop := ∀ entry ∈ sec.entries, entry.value.Readable

end Section

end DrumMachine
