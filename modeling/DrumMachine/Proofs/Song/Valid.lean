import DrumMachine.Song.Builder

/-!
# Valid sections

Which sections are accepted does not depend on the song they are added to: the shape of their entries
decides it, in each role by a rule of its own (`Section.Valid`).
-/

namespace DrumMachine

namespace Value

/-- The item sets something of a sample. -/
def SetsSample : Value → Prop
  | .option key value =>
    ((key = "path" ∨ key = "volume" ∨ key = "stereo") ∧ value.kind = .scalar) ∨ key = "params"
  | _ => False

/-- The item sets a tempo. -/
def SetsTempo : Value → Prop
  | .option key value => key = "bpm" ∧ value.kind = .scalar
  | _ => False

/-- The value is written in glyphs. -/
def IsGrid : Value → Prop
  | .scalar glyphs => ∀ c ∈ glyphs.toList, Grid.isFiller c = true ∨ (Beat.ofGlyph? c).isSome = true
  | _ => False

/-- The value names phrases in an order. -/
def IsOrder : Value → Prop
  | .scalar _ => True
  | .list items => ∀ item ∈ items, item.kind = .scalar
  | .option _ _ => False

/-- All that the value lists has a shape. -/
def Lists (shape : Value → Prop) : Value → Prop
  | .list items => ∀ item ∈ items, shape item
  | _ => False

end Value

/-- The entry can stand in a section with this role. -/
def Entry.Valid (entry : Entry) : Section.Role → Prop
  | .samples => entry.value.Lists Value.SetsSample
  | .arrangement =>
    if entry.name = Section.outputName then entry.value.IsOrder
    else entry.value.Lists Value.SetsTempo
  | .phrase _ => entry.value.IsGrid

def Section.Valid (sec : Section) : Prop :=
  ∀ entry ∈ sec.entries, entry.Valid (Section.role sec.name)

theorem Beat.ofGlyph?_of_isFiller {c : Char} (h : Grid.isFiller c = true) : Beat.ofGlyph? c = none := by
  simp only [Grid.isFiller, Bool.or_eq_true, beq_iff_eq] at h
  rcases h with ((rfl | rfl) | rfl) | rfl <;> rfl

/-- Characters make a grid if each is a glyph or filler, and then it has the beats of the glyphs. -/
theorem Grid.readFrom_eq_ok_iff {cs : List Char} {done beats : List Beat} :
    Grid.readFrom done cs = .ok beats ↔
      (∀ c ∈ cs, Grid.isFiller c = true ∨ (Beat.ofGlyph? c).isSome = true) ∧
        beats = done.reverse ++ cs.filterMap Beat.ofGlyph? := by
  induction cs generalizing done with
  | nil =>
    rw [Grid.readFrom, Except.ok.injEq, eq_comm]
    simp
  | cons c cs ih =>
    rw [Grid.readFrom, List.forall_mem_cons]
    by_cases hfiller : Grid.isFiller c = true
    · rw [if_pos hfiller, ih, List.filterMap_cons_none (Beat.ofGlyph?_of_isFiller hfiller)]
      simp [hfiller]
    · rw [if_neg hfiller]
      cases hglyph : Beat.ofGlyph? c with
      | none => simp [hfiller]
      | some beat =>
        rw [List.filterMap_cons_some hglyph]
        simp [ih]

namespace Song

namespace Outcome

variable {σ α : Type} {step : σ → α → Outcome σ} {state : σ}

theorem each_nil : each step state [] = ⟨state, none⟩ := rfl

theorem each_cons_of_none {next : σ} {item : α} {rest : List α}
    (h : step state item = ⟨next, none⟩) : each step state (item :: rest) = each step next rest := by
  rw [each, h]

theorem each_cons_of_fault?_eq_none {item : α} {rest : List α}
    (h : (step state item).fault? = none) :
    each step state (item :: rest) = each step (step state item).state rest := by
  cases houtcome : step state item with
  | mk next fault? =>
    rw [houtcome] at h
    obtain rfl : fault? = none := h
    exact each_cons_of_none houtcome

theorem fault?_each_cons_of_fault {item : α} {rest : List α} {fault : Fault}
    (h : (step state item).fault? = some fault) :
    (each step state (item :: rest)).fault? = some fault := by
  rw [each]
  cases houtcome : step state item with
  | mk next fault? =>
    rw [houtcome] at h
    obtain rfl : fault? = some fault := h
    rfl

/-- Where the items alone decide about faults, a run is without fault if all of them are. -/
theorem fault?_each_eq_none_iff {p : α → Prop}
    (hstep : ∀ state item, (step state item).fault? = none ↔ p item) {items : List α} :
    (each step state items).fault? = none ↔ ∀ item ∈ items, p item := by
  induction items generalizing state with
  | nil => simp [each_nil]
  | cons item rest ih =>
    rw [List.forall_mem_cons, ← hstep state item]
    cases hfault : (step state item).fault? with
    | none => simp [each_cons_of_fault?_eq_none hfault, ih]
    | some fault => simp [fault?_each_cons_of_fault hfault]

end Outcome

theorem fault?_addSampleField_eq_none_iff (entry : String) (sample : Sample) (field : Value) :
    (addSampleField entry sample field).fault? = none ↔ field.SetsSample := by
  cases field with
  | scalar text => simp [addSampleField, Value.SetsSample]
  | list items => simp [addSampleField, Value.SetsSample]
  | option key value =>
    unfold addSampleField Value.SetsSample
    dsimp only
    by_cases hpath : key = "path"
    · subst hpath
      cases value <;> simp [Value.kind]
    by_cases hvolume : key = "volume"
    · subst hvolume
      cases value <;> simp [Value.kind]
    by_cases hstereo : key = "stereo"
    · subst hstereo
      cases value <;> simp [Value.kind]
    by_cases hparams : key = "params" <;> simp [hpath, hvolume, hstereo, hparams]

theorem fault?_addSample_eq_none_iff (song : Song) (entry : Entry) :
    (addSample song entry).fault? = none ↔ entry.Valid .samples := by
  obtain ⟨name, value⟩ := entry
  cases value with
  | scalar text => simp [addSample, Entry.Valid, Value.Lists]
  | option key value => simp [addSample, Entry.Valid, Value.Lists]
  | list fields =>
    exact Outcome.fault?_each_eq_none_iff fun sample field =>
      fault?_addSampleField_eq_none_iff name sample field

theorem fault?_addOutput_eq_none_iff (song : Song) (items : List Value) :
    (addOutput song items).fault? = none ↔ ∀ item ∈ items, item.kind = .scalar := by
  rw [addOutput, Option.map_eq_none_iff, List.find?_eq_none]
  refine forall₂_congr fun item _ => ?_
  cases item <;> simp [Value.scalar?, Value.kind]

theorem fault?_addPhraseField_eq_none_iff (entry : String) (phrase : Phrase) (field : Value) :
    (addPhraseField entry phrase field).fault? = none ↔ field.SetsTempo := by
  cases field with
  | scalar text => simp [addPhraseField, Value.SetsTempo]
  | list items => simp [addPhraseField, Value.SetsTempo]
  | option key value =>
    unfold addPhraseField Value.SetsTempo
    dsimp only
    by_cases hbpm : key = "bpm"
    · subst hbpm
      cases value <;> simp [Value.kind]
    · simp [hbpm]

theorem fault?_addArrangement_eq_none_iff (song : Song) (entry : Entry) :
    (addArrangement song entry).fault? = none ↔ entry.Valid .arrangement := by
  obtain ⟨name, value⟩ := entry
  rw [Entry.Valid, addArrangement]
  split
  · cases value with
    | scalar text => simp [Value.IsOrder]
    | list items => exact fault?_addOutput_eq_none_iff song items
    | option key value => simp [Value.IsOrder]
  · cases value with
    | scalar text => simp [Value.Lists]
    | list fields =>
      exact Outcome.fault?_each_eq_none_iff fun phrase field =>
        fault?_addPhraseField_eq_none_iff name phrase field
    | option key value => simp [Value.Lists]

theorem fault?_addGrid_eq_none_iff (name : String) (phrase : Phrase) (entry : Entry) :
    (addGrid name phrase entry).fault? = none ↔ entry.value.IsGrid := by
  obtain ⟨track, value⟩ := entry
  cases value with
  | list items => simp [addGrid, Value.IsGrid]
  | option key value => simp [addGrid, Value.IsGrid]
  | scalar glyphs =>
    unfold addGrid Value.IsGrid
    dsimp only
    cases hread : Grid.read glyphs with
    | ok beats => simpa using (Grid.readFrom_eq_ok_iff.1 hread).1
    | error glyph =>
      have hne : ¬∃ beats, Grid.read glyphs = .ok beats := by simp [hread]
      simp only [reduceCtorEq, false_iff]
      exact fun hall => hne ⟨_, Grid.readFrom_eq_ok_iff.2 ⟨hall, rfl⟩⟩

/-- A section is accepted exactly if it is valid, whatever the song. -/
theorem fault?_add_eq_none_iff (song : Song) (sec : Section) :
    (song.add sec).fault? = none ↔ sec.Valid := by
  rw [Section.Valid, add]
  cases hrole : Section.role sec.name with
  | samples => exact Outcome.fault?_each_eq_none_iff fault?_addSample_eq_none_iff
  | arrangement => exact Outcome.fault?_each_eq_none_iff fault?_addArrangement_eq_none_iff
  | phrase name => exact Outcome.fault?_each_eq_none_iff (fault?_addGrid_eq_none_iff name)

theorem fault?_addAll_eq_none_iff (song : Song) (sections : List Section) :
    (song.addAll sections).fault? = none ↔ ∀ sec ∈ sections, sec.Valid :=
  Outcome.fault?_each_eq_none_iff fault?_add_eq_none_iff

end Song

end DrumMachine
