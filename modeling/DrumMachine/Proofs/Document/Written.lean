import DrumMachine.Proofs.Document.Grammar
import DrumMachine.Proofs.Document.Layout

/-!
# What the writer writes is a layout

Whatever stands behind a written value, entry or section begins with a delimiter, so a layout of the
rest extends to a layout of the whole, provided that the texts are legible.
-/

namespace DrumMachine

/-- The name of a section, and all names and scalars in it. -/
def Section.texts (sec : Section) : List String :=
  sec.name :: sec.entries.flatMap fun entry => entry.name :: entry.value.texts

namespace Document

open Value (textsOfItems tokensOfItems)

variable {cs : List Char} {tokens : List Token}

theorem atBoundary_writeItems {items : List Value} (hcs : AtBoundary cs) :
    AtBoundary ((writeItems items).toList ++ cs) := by
  cases items with
  | nil => simpa [writeItems] using hcs
  | cons item items =>
    have hspace : isDelimiter ' ' = true := by decide
    simpa [writeItems, AtBoundary] using hspace

/-- A name and an equals sign in front of a value. -/
theorem layout_name {name : String} (hname : Legible name) (rest : Layout cs tokens) :
    Layout ((writeText name).toList ++ (" = ".toList ++ cs)) (.text name :: .equals :: tokens) := by
  have hspace : AtBoundary (" = ".toList ++ cs) := by
    show isDelimiter ' ' = true
    decide
  exact layout_writeText hname hspace (.blank (by decide) (.mark rfl (.blank (by decide) rest)))

mutual

theorem layout_writeValue : ∀ {value : Value} {cs : List Char} {tokens : List Token},
    (∀ text ∈ value.texts, Legible text) → AtBoundary cs → Layout cs tokens →
      Layout ((writeValue value).toList ++ cs) (value.tokens ++ tokens)
  | .scalar text, _, _, h, hcs, rest => layout_writeText (h text (List.mem_singleton_self text)) hcs rest
  | .list items, cs, tokens, h, _, rest => by
    have hend : Layout (" )".toList ++ cs) (.closeList :: tokens) := .blank (by decide) (.mark rfl rest)
    have hspace : AtBoundary (" )".toList ++ cs) := by
      show isDelimiter ' ' = true
      decide
    have hitems := Layout.mark (c := '(') rfl (layout_writeItems h hspace hend)
    simpa [writeValue, Value.tokens] using hitems
  | .option name value, cs, tokens, h, hcs, rest => by
    have hvalue := layout_writeValue (fun text htext => h text (List.mem_cons_of_mem _ htext)) hcs rest
    have hname := layout_name (h name (List.mem_cons_self ..)) hvalue
    simpa [writeValue, Value.tokens] using hname

theorem layout_writeItems : ∀ {items : List Value} {cs : List Char} {tokens : List Token},
    (∀ text ∈ textsOfItems items, Legible text) → AtBoundary cs → Layout cs tokens →
      Layout ((writeItems items).toList ++ cs) (tokensOfItems items ++ tokens)
  | [], _, _, _, _, rest => by simpa [writeItems, tokensOfItems] using rest
  | item :: items, cs, tokens, h, hcs, rest => by
    have hitems := layout_writeItems
      (fun text htext => h text (List.mem_append_right item.texts htext)) hcs rest
    have hitem := layout_writeValue
      (fun text htext => h text (List.mem_append_left (textsOfItems items) htext))
      (atBoundary_writeItems hcs) hitems
    have hspace := Layout.blank (c := ' ') (by decide) hitem
    simpa [writeItems, tokensOfItems] using hspace

end

/-- The line spells its entry, whatever follows it. -/
def LaysOut (line : Entry → String) (entry : Entry) : Prop :=
  ∀ (cs : List Char) (tokens : List Token), Layout cs tokens →
    Layout ((line entry).toList ++ cs) (entry.tokens ++ tokens)

theorem laysOut_writeEntry {entry : Entry} (hname : Legible entry.name)
    (hvalue : ∀ text ∈ entry.value.texts, Legible text) : LaysOut writeEntry entry := by
  intro cs tokens rest
  have hend : Layout ("\n".toList ++ cs) tokens := .blank (by decide) rest
  have hnewline : AtBoundary ("\n".toList ++ cs) := by
    show isDelimiter '\n' = true
    decide
  have hentry := layout_name hname (layout_writeValue hvalue hnewline hend)
  simpa [writeEntry, Entry.tokens] using hentry

theorem laysOut_writeGridEntry {name glyphs : String} (hname : Legible name)
    (hglyphs : '"' ∉ glyphs.toList) : LaysOut writeGridEntry ⟨name, .scalar glyphs⟩ := by
  intro cs tokens rest
  have hend : Layout ("\n".toList ++ cs) tokens := .blank (by decide) rest
  have hentry := layout_name hname (layout_quoted hglyphs hend)
  simpa [writeGridEntry, Entry.tokens, Value.tokens] using hentry

theorem layout_lines {line : Entry → String} {entries : List Entry}
    (h : ∀ entry ∈ entries, LaysOut line entry) (rest : Layout cs tokens) :
    Layout ((entries.map line).flatMap String.toList ++ cs)
      (entries.flatMap Entry.tokens ++ tokens) := by
  induction entries with
  | nil => exact rest
  | cons entry entries ih =>
    have hlines := ih fun other hother => h other (List.mem_cons_of_mem _ hother)
    simpa using h entry (List.mem_cons_self ..) _ _ hlines

theorem layout_writeSection {line : Entry → String} {sec : Section} (hname : Legible sec.name)
    (hline : ∀ entry ∈ sec.entries, LaysOut line entry) (rest : Layout cs tokens) :
    Layout ((writeSection line sec).toList ++ cs) (sec.tokens ++ tokens) := by
  have hlines := layout_lines hline rest
  have hclose := Layout.mark (c := ']') rfl (.blank (c := '\n') (by decide) hlines)
  have hbracket : AtBoundary (']' :: '\n' :: ((sec.entries.map line).flatMap String.toList ++ cs)) := by
    show isDelimiter ']' = true
    decide
  have hsection := Layout.mark (c := '[') rfl (layout_writeText hname hbracket hclose)
  simpa [writeSection, Section.tokens, String.toList_join] using hsection

/-- Sections with a blank line in front of each. -/
theorem layout_writeSections {line : Entry → String} {sections : List Section}
    (hname : ∀ sec ∈ sections, Legible sec.name)
    (hline : ∀ sec ∈ sections, ∀ entry ∈ sec.entries, LaysOut line entry) :
    Layout ((sections.map fun sec => "\n" ++ writeSection line sec).flatMap String.toList)
      (sections.flatMap Section.tokens) := by
  induction sections with
  | nil => exact .done
  | cons sec sections ih =>
    have hrest := ih (fun other hother => hname other (List.mem_cons_of_mem _ hother))
      fun other hother => hline other (List.mem_cons_of_mem _ hother)
    have hsection := layout_writeSection (hname sec (List.mem_cons_self ..))
      (hline sec (List.mem_cons_self ..)) hrest
    simpa using Layout.blank (c := '\n') (by decide) hsection

end Document

end DrumMachine
