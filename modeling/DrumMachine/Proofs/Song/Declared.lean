import DrumMachine.Proofs.Document.Reading
import DrumMachine.Proofs.Document.Written
import DrumMachine.Proofs.NameTable
import DrumMachine.Song.Builder

/-!
# What a document can declare

Every song that a document declares is `Declared`: its texts can stand in a document, its parameter
trees can stand in a list, the reserved section names name no phrase with grids, and the phrase named
like the order of play keeps the tempo it was made with. Each section that is added keeps this,
whatever fault ends it.
-/

namespace DrumMachine

open Document (Legible maxNesting)

/-- A parameter tree as a field of a sample can give it: one list is open around it. -/
structure Value.IsParameters (tree : Value) : Prop where
  legible : ∀ text ∈ tree.texts, Legible text
  kind_ne : tree.kind ≠ .option
  fits : tree.FitsAt 1

structure Sample.Declared (sample : Sample) : Prop where
  path : Legible sample.path
  effect : Legible sample.effect.name
  params : ∀ tree, sample.effect.params = some tree → tree.IsParameters
  idle : sample.effect.running = none

structure Phrase.Declared (name : String) (phrase : Phrase) : Prop where
  legible : ∀ track beats, phrase.beats.get? track = some beats → Legible track
  reserved : Section.role name ≠ .phrase name → phrase.beats = ∅
  output : name = Section.outputName → phrase.bpm = 120

structure Song.Declared (song : Song) : Prop where
  samples : ∀ name sample, song.samples.get? name = some sample → Legible name ∧ sample.Declared
  phrases : ∀ name phrase, song.phrases.get? name = some phrase →
    Legible name ∧ phrase.Declared name
  output : ∀ name ∈ song.output, Legible name

/-- A section that stands in a document. -/
structure Section.Stands (sec : Section) : Prop where
  readable : sec.Readable
  legible : ∀ text ∈ sec.texts, Legible text

theorem Section.Stands.of_entries {name : String} {entries : List Entry} (hname : Legible name)
    (hentries : ∀ entry ∈ entries, Legible entry.name ∧ entry.value.Readable ∧
      ∀ text ∈ entry.value.texts, Legible text) : Section.Stands ⟨name, entries⟩ := by
  refine ⟨fun entry hentry => (hentries entry hentry).2.1, fun text htext => ?_⟩
  rcases List.mem_cons.1 htext with rfl | htext
  · exact hname
  · obtain ⟨entry, hentry, htext⟩ := List.mem_flatMap.1 htext
    obtain ⟨hentryName, -, hvalue⟩ := hentries entry hentry
    rcases List.mem_cons.1 htext with rfl | htext
    · exact hentryName
    · exact hvalue text htext

/-- A value that is an item of the list that is an entry's value. -/
structure Value.StandsAsField (field : Value) : Prop where
  fits : field.FitsAt 1
  legible : ∀ text ∈ field.texts, Legible text

theorem Value.mem_textsOfItems {items : List Value} {text : String} :
    text ∈ textsOfItems items ↔ ∃ item ∈ items, text ∈ item.texts := by
  induction items with
  | nil => simp [textsOfItems]
  | cons item items ih => simp [textsOfItems, ih]

/-- A list stands as an entry's value if and only if each of its items stands as a field. -/
theorem Value.list_stands_iff {items : List Value} :
    ((Value.list items).Readable ∧ ∀ text ∈ (Value.list items).texts, Legible text) ↔
      ∀ item ∈ items, item.StandsAsField := by
  constructor
  · rintro ⟨hreadable, hlegible⟩ item hitem
    have hle := hreadable.nesting_le
    rw [nesting] at hle
    have hnesting := nestingOfItems_le_iff.1 (Nat.le_refl _) item hitem
    have honce := namedOnceItems_iff.1 hreadable.namedOnce item hitem
    exact ⟨⟨honce, by omega⟩, fun text htext =>
      hlegible text (mem_textsOfItems.2 ⟨item, hitem, htext⟩)⟩
  · intro h
    have hnesting : nestingOfItems items ≤ maxNesting - 1 := by
      refine nestingOfItems_le_iff.2 fun item hitem => ?_
      have hle := (h item hitem).fits.nesting_le
      omega
    refine ⟨⟨by simp [kind], namedOnceItems_iff.2 fun item hitem => (h item hitem).fits.namedOnce, ?_⟩,
      fun text htext => ?_⟩
    · rw [nesting, maxNesting]
      rw [maxNesting] at hnesting
      omega
    · obtain ⟨item, hitem, htext⟩ := mem_textsOfItems.1 htext
      exact (h item hitem).legible text htext

namespace Song

theorem Outcome.state_each {σ α : Type} {step : σ → α → Outcome σ} {p : σ → Prop}
    {items : List α} (hstep : ∀ state, p state → ∀ item ∈ items, p (step state item).state)
    {state : σ} (h : p state) : p (Outcome.each step state items).state := by
  induction items generalizing state with
  | nil => exact h
  | cons item rest ih =>
    have hnext := hstep state h item (List.mem_cons_self ..)
    rw [each]
    split
    · rename_i next heq
      rw [heq] at hnext
      exact ih (fun state hstate other hother => hstep state hstate other
        (List.mem_cons_of_mem _ hother)) hnext
    · rename_i next fault heq
      rw [heq] at hnext
      exact hnext

/-! ### Samples -/

theorem declared_default : Sample.Declared {} :=
  ⟨by decide, by decide, fun _ h => absurd h (by simp), rfl⟩

theorem declared_addSampleField (entry : String) {sample : Sample} {field : Value}
    (h : sample.Declared) (hfield : field.StandsAsField) :
    (addSampleField entry sample field).state.Declared := by
  unfold addSampleField
  split
  · rename_i key value
    have hvalue : ∀ text ∈ value.texts, Legible text := fun text htext =>
      hfield.legible text (List.mem_cons_of_mem _ htext)
    split
    · split
      · exact ⟨hvalue _ (List.mem_singleton_self _), h.effect, h.params, h.idle⟩
      · exact h
    · split
      · split
        · exact ⟨h.path, h.effect, h.params, h.idle⟩
        · exact h
      · split
        · split
          · exact ⟨h.path, hvalue _ (List.mem_singleton_self _), h.params, rfl⟩
          · exact h
        · split
          · refine ⟨h.path, h.effect, fun tree htree => ?_, rfl⟩
            obtain rfl := Option.some.inj htree
            have ⟨hkind, honce⟩ := hfield.fits.namedOnce
            exact ⟨hvalue, hkind, honce, hfield.fits.nesting_le⟩
          · exact h
  · exact h

theorem declared_addSample {song : Song} {entry : Entry} (h : song.Declared)
    (hname : Legible entry.name) (hvalue : entry.value.Readable)
    (hlegible : ∀ text ∈ entry.value.texts, Legible text) :
    (addSample song entry).state.Declared := by
  unfold addSample
  split
  · rename_i fields heq
    rw [heq] at hvalue hlegible
    have hfields := Value.list_stands_iff.1 ⟨hvalue, hlegible⟩
    have hsample : Sample.Declared ((song.samples.get? entry.name).getD {}) := by
      cases hget : song.samples.get? entry.name with
      | none => exact declared_default
      | some sample => exact (h.samples _ _ hget).2
    refine ⟨NameTable.forall_get?_alter h.samples ⟨hname, ?_⟩, h.phrases, h.output⟩
    exact Outcome.state_each (fun sample hsample field hfield =>
      declared_addSampleField entry.name hsample (hfields field hfield)) hsample
  · exact h

/-! ### Phrases -/

theorem declared_defaultPhrase (name : String) : Phrase.Declared name {} :=
  ⟨fun _ _ hget => absurd hget (by simp), fun _ => rfl, fun _ => rfl⟩

theorem declared_phrase {song : Song} (h : song.Declared) (name : String) :
    Phrase.Declared name ((song.phrases.get? name).getD {}) := by
  cases hget : song.phrases.get? name with
  | none => exact declared_defaultPhrase name
  | some phrase => exact (h.phrases _ _ hget).2

theorem declared_addPhraseField {name : String} {phrase : Phrase} (field : Value)
    (h : phrase.Declared name) (hname : name ≠ Section.outputName) :
    (addPhraseField name phrase field).state.Declared name := by
  unfold addPhraseField
  split
  · split
    · split
      · exact ⟨h.legible, h.reserved, fun heq => absurd heq hname⟩
      · exact h
    · exact h
  · exact h

theorem declared_addOutput {song : Song} {items : List Value} (h : song.Declared)
    (hitems : ∀ item ∈ items, item.StandsAsField) : (addOutput song items).state.Declared := by
  refine ⟨h.samples, h.phrases, fun name hname => ?_⟩
  rcases List.mem_append.1 hname with hname | hname
  · exact h.output name hname
  · obtain ⟨item, hitem, hscalar⟩ := List.mem_filterMap.1 hname
    have hlegible := (hitems item ((List.takeWhile_sublist _).subset hitem)).legible
    cases item with
    | scalar text =>
      obtain rfl := Option.some.inj hscalar
      exact hlegible _ (List.mem_singleton_self _)
    | _ => exact absurd hscalar (by simp [Value.scalar?])

theorem declared_addArrangement {song : Song} {entry : Entry} (h : song.Declared)
    (hname : Legible entry.name) (hvalue : entry.value.Readable)
    (hlegible : ∀ text ∈ entry.value.texts, Legible text) :
    (addArrangement song entry).state.Declared := by
  unfold addArrangement
  split
  · split
    · rename_i name heq
      rw [heq] at hlegible
      refine ⟨h.samples, h.phrases, fun other hother => ?_⟩
      rcases List.mem_append.1 hother with hother | hother
      · exact h.output other hother
      · exact hlegible other hother
    · rename_i items heq
      rw [heq] at hvalue hlegible
      exact declared_addOutput h (Value.list_stands_iff.1 ⟨hvalue, hlegible⟩)
    · exact h
  · rename_i hentry
    split
    · refine ⟨h.samples, NameTable.forall_get?_alter h.phrases ⟨hname, ?_⟩, h.output⟩
      exact Outcome.state_each (p := Phrase.Declared entry.name)
        (fun phrase hphrase field _ => declared_addPhraseField field hphrase hentry)
        (declared_phrase h entry.name)
    · exact h

theorem declared_addGrid {name : String} {phrase : Phrase} {entry : Entry}
    (h : phrase.Declared name) (hrole : Section.role name = .phrase name)
    (hentry : Legible entry.name) : (addGrid name phrase entry).state.Declared name := by
  unfold addGrid
  split
  · split
    · refine ⟨NameTable.forall_get?_alter h.legible hentry, fun hne => absurd hrole hne, h.output⟩
    · exact h
  · exact h

theorem declared_addGrids {song : Song} {sec : Section} (h : song.Declared) (hsec : sec.Stands)
    (hrole : Section.role sec.name = .phrase sec.name) :
    ((Outcome.each (addGrid sec.name) ((song.phrases.get? sec.name).getD {}) sec.entries).map
      fun phrase => { song with phrases := song.phrases.insert sec.name phrase }).state.Declared := by
  have hname := hsec.legible sec.name (List.mem_cons_self ..)
  refine ⟨h.samples, NameTable.forall_get?_alter h.phrases ⟨hname, ?_⟩, h.output⟩
  refine Outcome.state_each (p := Phrase.Declared sec.name) (fun phrase hphrase entry hentry => ?_)
    (declared_phrase h sec.name)
  have hmem : entry.name ∈ sec.texts :=
    List.mem_cons_of_mem _ (List.mem_flatMap.2 ⟨entry, hentry, List.mem_cons_self ..⟩)
  exact declared_addGrid hphrase hrole (hsec.legible entry.name hmem)

theorem role_eq_phrase {name phrase : String} (h : Section.role name = .phrase phrase) :
    phrase = name := by
  unfold Section.role at h
  split at h
  · exact absurd h (by simp)
  · split at h
    · exact absurd h (by simp)
    · exact (Section.Role.phrase.inj h).symm

/-! ### Whole documents -/

theorem declared_add {song : Song} {sec : Section} (h : song.Declared) (hsec : sec.Stands) :
    (song.add sec).state.Declared := by
  have hentry : ∀ entry ∈ sec.entries, ∀ text ∈ entry.name :: entry.value.texts, Legible text :=
    fun entry hentry text htext => hsec.legible text
      (List.mem_cons_of_mem _ (List.mem_flatMap.2 ⟨entry, hentry, htext⟩))
  have hname : ∀ entry ∈ sec.entries, Legible entry.name := fun entry hmem =>
    hentry entry hmem entry.name (List.mem_cons_self ..)
  have hvalue : ∀ entry ∈ sec.entries, ∀ text ∈ entry.value.texts, Legible text :=
    fun entry hmem text htext => hentry entry hmem text (List.mem_cons_of_mem _ htext)
  unfold add
  split
  · exact Outcome.state_each (fun song hsong entry hmem =>
      declared_addSample hsong (hname entry hmem) (hsec.readable entry hmem) (hvalue entry hmem)) h
  · exact Outcome.state_each (fun song hsong entry hmem =>
      declared_addArrangement hsong (hname entry hmem) (hsec.readable entry hmem)
        (hvalue entry hmem)) h
  · rename_i phrase hrole
    obtain rfl := role_eq_phrase hrole
    exact declared_addGrids h hsec hrole

theorem declared_empty : Song.Declared {} :=
  ⟨fun _ _ hget => absurd hget (by simp), fun _ _ hget => absurd hget (by simp),
    fun _ hmem => absurd hmem (List.not_mem_nil)⟩

theorem mem_tokens_of_mem_texts {sec : Section} {text : String} (h : text ∈ sec.texts) :
    .text text ∈ sec.tokens := by
  rcases List.mem_cons.1 h with rfl | h
  · simp [Section.tokens]
  · obtain ⟨entry, hentry, htext⟩ := List.mem_flatMap.1 h
    have htoken : .text text ∈ entry.tokens := by
      rcases List.mem_cons.1 htext with rfl | htext
      · exact List.mem_cons_self ..
      · exact List.mem_cons_of_mem _ (List.mem_cons_of_mem _ ((Value.mem_texts_iff _ _).1 htext))
    exact List.mem_cons_of_mem _ (List.mem_cons_of_mem _ (List.mem_cons_of_mem _
      (List.mem_flatMap.2 ⟨entry, hentry, htoken⟩)))

theorem stands_of_parse {source : String} {sections : List Section}
    (h : Document.parse source = .ok sections) : ∀ sec ∈ sections, sec.Stands := by
  have ⟨hlayout, hreadable⟩ := Document.parse_eq_ok_iff.1 h
  intro sec hsec
  refine ⟨hreadable sec hsec, fun text htext => ?_⟩
  exact Document.legible_of_layout hlayout text
    (List.mem_flatMap.2 ⟨sec, hsec, mem_tokens_of_mem_texts htext⟩)

theorem build_eq_ok_iff {sections : List Section} {song : Song} :
    build sections = .ok song ↔ addAll {} sections = ⟨song, none⟩ := by
  unfold build
  split
  · rename_i built heq
    rw [heq]
    simp
  · rename_i built fault heq
    rw [heq]
    simp

theorem compile_eq_ok_iff {source : String} {song : Song} :
    compile source = .ok song ↔
      ∃ sections, Document.parse source = .ok sections ∧ build sections = .ok song := by
  unfold compile
  cases hparse : Document.parse source with
  | error error => simp
  | ok sections =>
    cases hbuild : build sections with
    | error fault => simp [hbuild]
    | ok built => simp [hbuild]

theorem declared_of_compile {source : String} {song : Song} (h : compile source = .ok song) :
    song.Declared := by
  obtain ⟨sections, hparse, hbuild⟩ := compile_eq_ok_iff.1 h
  have hstands := stands_of_parse hparse
  have hdeclared : (addAll {} sections).state.Declared :=
    Outcome.state_each (fun song hsong sec hsec => declared_add hsong (hstands sec hsec))
      declared_empty
  rwa [build_eq_ok_iff.1 hbuild] at hdeclared

end Song

end DrumMachine
