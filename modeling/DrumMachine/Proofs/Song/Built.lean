import DrumMachine.Proofs.Song.Reading
import DrumMachine.Proofs.Song.Valid
import Mathlib.Data.List.TakeWhile

/-!
# Building follows the reading

Adding valid sections to a song gives the one song that the sections say
(`reading_iff_of_addAll`). Fields and grids are taken one by one here, in the order they stand in.
-/

namespace DrumMachine

namespace Section

theorem entriesIn_singleton (role : Role) (name : String) (entries : List Entry) :
    entriesIn role [⟨name, entries⟩] = if Section.role name = role then entries else [] := by
  by_cases hrole : Section.role name = role
  · simp [entriesIn, hrole]
  · simp [entriesIn, hrole]

end Section

namespace Song

/-! ### Fields and grids -/

theorem addSampleField_of_setsSample {field : Value} (h : field.SetsSample) (entry : String)
    (sample : Sample) : addSampleField entry sample field = ⟨sample.withFields [field], none⟩ := by
  cases field with
  | scalar text => exact absurd h id
  | list items => exact absurd h id
  | option key value =>
    rcases h with ⟨hkey, hvalue⟩ | rfl
    · cases value with
      | list items => exact absurd hvalue (by simp [Value.kind])
      | option inner value => exact absurd hvalue (by simp [Value.kind])
      | scalar text =>
        rcases hkey with rfl | rfl | rfl
        all_goals
          simp [addSampleField, Sample.withFields, Value.last?, Value.lastText?,
            Value.lastNumber?, Value.setting?, Value.scalar?]
    · simp [addSampleField, Sample.withFields, Value.last?, Value.lastText?,
        Value.lastNumber?, Value.setting?]

theorem each_addSampleField {fields : List Value} (h : ∀ field ∈ fields, field.SetsSample)
    (entry : String) (sample : Sample) :
    Outcome.each (addSampleField entry) sample fields = ⟨sample.withFields fields, none⟩ := by
  induction fields generalizing sample with
  | nil => rfl
  | cons field fields ih =>
    have ⟨hfield, hfields⟩ := List.forall_mem_cons.1 h
    have hstep := addSampleField_of_setsSample hfield entry sample
    rw [Outcome.each_cons_of_none hstep, ih hfields,
      ← Sample.withFields_append, List.singleton_append]

theorem addPhraseField_of_setsTempo {field : Value} (h : field.SetsTempo) (entry : String)
    (phrase : Phrase) : addPhraseField entry phrase field =
      ⟨{ phrase with bpm := (Value.lastNumber? "bpm" [field]).getD phrase.bpm }, none⟩ := by
  cases field with
  | scalar text => exact absurd h id
  | list items => exact absurd h id
  | option key value =>
    obtain ⟨rfl, hvalue⟩ := h
    cases value with
    | list items => exact absurd hvalue (by simp [Value.kind])
    | option inner value => exact absurd hvalue (by simp [Value.kind])
    | scalar text =>
      simp [addPhraseField, Value.lastText?, Value.lastNumber?, Value.setting?, Value.scalar?]

theorem each_addPhraseField {fields : List Value} (h : ∀ field ∈ fields, field.SetsTempo)
    (entry : String) (phrase : Phrase) :
    Outcome.each (addPhraseField entry) phrase fields =
      ⟨{ phrase with bpm := (Value.lastNumber? "bpm" fields).getD phrase.bpm }, none⟩ := by
  induction fields generalizing phrase with
  | nil => rfl
  | cons field fields ih =>
    have ⟨hfield, hfields⟩ := List.forall_mem_cons.1 h
    have hstep := addPhraseField_of_setsTempo hfield entry phrase
    rw [Outcome.each_cons_of_none hstep, ih hfields, Value.getD_getD, ← Value.lastNumber?_append, List.singleton_append]

theorem addGrid_of_isGrid {entry : Entry} (h : entry.value.IsGrid) (name : String)
    (phrase : Phrase) : ∃ table : NameTable (List Beat),
      addGrid name phrase entry = ⟨{ phrase with beats := table }, none⟩ ∧
        ∀ track, table.get? track =
          Grid.extended (phrase.beats.get? track) (Entry.under track [entry]) := by
  obtain ⟨own, value⟩ := entry
  cases value with
  | list items => exact absurd h id
  | option key value => exact absurd h id
  | scalar glyphs =>
    have hread : Grid.read glyphs = .ok (Value.beats (.scalar glyphs)) :=
      Grid.readFrom_eq_ok_iff.2 ⟨h, rfl⟩
    refine ⟨phrase.beats.alter own fun grid => grid.getD [] ++ Value.beats (.scalar glyphs), ?_, ?_⟩
    · simp only [addGrid, hread]
    · intro track
      rw [NameTable.get?_alter]
      by_cases htrack : track = own
      · simp [htrack, Grid.extended, Entry.under]
      · simp [htrack, Ne.symm htrack, Grid.extended, Entry.under]

theorem each_addGrid_of_isGrid {entries : List Entry} (h : ∀ entry ∈ entries, entry.value.IsGrid)
    (name : String) (phrase : Phrase) : ∃ table : NameTable (List Beat),
      Outcome.each (addGrid name) phrase entries = ⟨{ phrase with beats := table }, none⟩ ∧
        ∀ track, table.get? track =
          Grid.extended (phrase.beats.get? track) (Entry.under track entries) := by
  induction entries generalizing phrase with
  | nil => exact ⟨phrase.beats, rfl, fun track => rfl⟩
  | cons entry entries ih =>
    have ⟨hentry, hentries⟩ := List.forall_mem_cons.1 h
    obtain ⟨mid, hstep, hmid⟩ := addGrid_of_isGrid hentry name phrase
    obtain ⟨table, heach, htable⟩ := ih hentries { phrase with beats := mid }
    refine ⟨table, ?_, fun track => ?_⟩
    · rw [Outcome.each_cons_of_none hstep, heach]
    · rw [htable, hmid, ← Grid.extended_append, ← Entry.under_append, List.singleton_append]

/-! ### Entries -/

variable {song : Song} {name : String}

theorem addSample_of_valid {entry : Entry} (h : entry.Valid .samples) (song : Song) :
    addSample song entry = ⟨{ song with
      samples := song.samples.insert entry.name
        ((song.sampleAt entry.name).withFields entry.value.items) }, none⟩ := by
  obtain ⟨own, value⟩ := entry
  cases value with
  | scalar text => exact absurd h id
  | option key value => exact absurd h id
  | list fields =>
    have hfields := each_addSampleField h own (song.sampleAt own)
    simp only [sampleAt] at hfields
    simp only [addSample, hfields, Outcome.map]
    rfl

theorem reading_addSample (hrole : Section.role name = .samples) {entry : Entry}
    (h : entry.Valid .samples) : Reading song [⟨name, [entry]⟩] (addSample song entry).state := by
  rw [addSample_of_valid h]
  refine ⟨fun other => ?_, fun other => ?_, fun other => ?_, fun other => ?_, fun other track => ?_, ?_⟩
  · rw [NameTable.contains_insert]
    simp [Section.entriesIn_singleton, hrole, eq_comm (a := entry.name)]
  · rw [sampleAt, NameTable.getD_insert]
    by_cases hname : other = entry.name
    · simp [Section.entriesIn_singleton, hrole, hname, Entry.fieldsUnder, Entry.under]
    · simp [Section.entriesIn_singleton, hrole, hname, Ne.symm hname, Entry.fieldsUnder, Entry.under,
        sampleAt]
  · simp [Section.tempoEntries, Section.entriesIn_singleton, hrole]
  · simp [Section.tempoEntries, Section.entriesIn_singleton, hrole, phraseAt]
  · simp [Section.entriesIn_singleton, hrole, phraseAt]
  · simp [Section.orderEntries, Section.entriesIn_singleton, hrole]

theorem addArrangement_of_isOrder {entry : Entry} (hname : entry.name = Section.outputName)
    (h : entry.value.IsOrder) (song : Song) : addArrangement song entry =
      ⟨{ song with output := song.output ++ entry.value.order }, none⟩ := by
  obtain ⟨own, value⟩ := entry
  obtain rfl : own = Section.outputName := hname
  cases value with
  | scalar text => rfl
  | option key value => exact absurd h id
  | list items =>
    have hfault : (addOutput song items).fault? = none := (fault?_addOutput_eq_none_iff song items).2 h
    have htake : (items.takeWhile fun item => item.scalar?.isSome) = items := by
      refine List.takeWhile_eq_self_iff.2 fun item hitem => ?_
      have hkind := h item hitem
      cases item with
      | scalar text => rfl
      | list inner => exact absurd hkind (by simp [Value.kind])
      | option key value => exact absurd hkind (by simp [Value.kind])
    have hadd : addArrangement song ⟨Section.outputName, .list items⟩ =
        ⟨{ song with output := song.output ++
            (items.takeWhile fun item => item.scalar?.isSome).filterMap Value.scalar? },
          (addOutput song items).fault?⟩ := rfl
    rw [hadd, hfault, htake]
    rfl

theorem addArrangement_of_lists {entry : Entry} (hname : entry.name ≠ Section.outputName)
    (h : entry.value.Lists Value.SetsTempo) (song : Song) :
    addArrangement song entry = ⟨{ song with
      phrases := song.phrases.insert entry.name { song.phraseAt entry.name with
        bpm := (Value.lastNumber? "bpm" entry.value.items).getD (song.phraseAt entry.name).bpm } },
      none⟩ := by
  obtain ⟨own, value⟩ := entry
  cases value with
  | scalar text => exact absurd h id
  | option key value => exact absurd h id
  | list fields =>
    have hfields := each_addPhraseField h own (song.phraseAt own)
    simp only [phraseAt] at hfields
    rw [addArrangement, if_neg hname]
    simp only [hfields, Outcome.map]
    rfl

theorem reading_addArrangement (hrole : Section.role name = .arrangement) {entry : Entry}
    (h : entry.Valid .arrangement) :
    Reading song [⟨name, [entry]⟩] (addArrangement song entry).state := by
  rw [Entry.Valid] at h
  split at h
  · rename_i hname
    rw [addArrangement_of_isOrder hname h]
    refine ⟨fun other => ?_, fun other => ?_, fun other => ?_, fun other => ?_,
      fun other track => ?_, ?_⟩
    · simp [Section.entriesIn_singleton, hrole]
    · simp [Section.entriesIn_singleton, hrole, sampleAt]
    · simp [Section.tempoEntries, Section.entriesIn_singleton, hrole, hname]
    · simp [Section.tempoEntries, Section.entriesIn_singleton, hrole, hname, phraseAt]
    · simp [Section.entriesIn_singleton, hrole, phraseAt]
    · simp [Section.orderEntries, Section.entriesIn_singleton, hrole, hname]
  · rename_i hname
    rw [addArrangement_of_lists hname h]
    refine ⟨fun other => ?_, fun other => ?_, fun other => ?_, fun other => ?_,
      fun other track => ?_, ?_⟩
    · simp [Section.entriesIn_singleton, hrole]
    · simp [Section.entriesIn_singleton, hrole, sampleAt]
    · rw [NameTable.contains_insert]
      simp [Section.tempoEntries, Section.entriesIn_singleton, hrole, hname,
        eq_comm (a := entry.name)]
    · rw [phraseAt, NameTable.getD_insert]
      by_cases hother : other = entry.name
      · simp [Section.tempoEntries, Section.entriesIn_singleton, hrole, hname, hother,
          Entry.fieldsUnder, Entry.under]
      · simp [Section.tempoEntries, Section.entriesIn_singleton, hrole, hname, hother,
          Ne.symm hother, Entry.fieldsUnder, Entry.under, phraseAt]
    · rw [phraseAt, NameTable.getD_insert]
      by_cases hother : other = entry.name
      · simp [Section.entriesIn_singleton, hrole, hother]
      · simp [Section.entriesIn_singleton, hrole, hother, phraseAt]
    · simp [Section.orderEntries, Section.entriesIn_singleton, hrole, hname]

/-- The entries of one section are read one after the other. -/
theorem reading_each {step : Song → Entry → Outcome Song} {entries : List Entry}
    (hname : ∀ phrase, Section.role name ≠ .phrase phrase)
    (hfault : ∀ song, ∀ entry ∈ entries, (step song entry).fault? = none)
    (hstep : ∀ song, ∀ entry ∈ entries, Reading song [⟨name, [entry]⟩] (step song entry).state)
    (song : Song) : Reading song [⟨name, entries⟩] (Outcome.each step song entries).state := by
  induction entries generalizing song with
  | nil =>
    refine (Reading.nil song).congr (fun role => ?_) fun phrase => ?_
    · simp [Section.entriesIn]
    · simp [hname]
  | cons entry rest ih =>
    have hfirst := hstep song entry (List.mem_cons_self ..)
    have hrest := ih (fun song other hother => hfault song other (List.mem_cons_of_mem _ hother))
      (fun song other hother => hstep song other (List.mem_cons_of_mem _ hother))
      (step song entry).state
    rw [Outcome.each_cons_of_fault?_eq_none (hfault song entry (List.mem_cons_self ..))]
    refine (hfirst.append hrest).congr (fun role => ?_) fun phrase => ?_
    · rw [Section.entriesIn_append, Section.entriesIn_singleton, Section.entriesIn_singleton,
        Section.entriesIn_singleton]
      split
      · rfl
      · rfl
    · simp [hname]

/-! ### Sections -/

theorem reading_addGrids {phrase : String} {entries : List Entry}
    (hrole : Section.role name = .phrase phrase)
    (h : ∀ entry ∈ entries, entry.value.IsGrid) (song : Song) :
    Reading song [⟨name, entries⟩] { song with
      phrases := song.phrases.insert phrase
        (Outcome.each (addGrid phrase) (song.phraseAt phrase) entries).state } := by
  obtain ⟨table, heach, htable⟩ := each_addGrid_of_isGrid h phrase (song.phraseAt phrase)
  rw [heach]
  refine ⟨fun other => ?_, fun other => ?_, fun other => ?_, fun other => ?_, fun other track => ?_, ?_⟩
  · simp [Section.entriesIn_singleton, hrole]
  · simp [Section.entriesIn_singleton, hrole, sampleAt]
  · rw [NameTable.contains_insert]
    simp [Section.tempoEntries, Section.entriesIn_singleton, hrole, eq_comm (a := phrase)]
  · rw [phraseAt, NameTable.getD_insert]
    by_cases hother : other = phrase
    · simp [Section.tempoEntries, Section.entriesIn_singleton, hrole, hother]
    · simp [Section.tempoEntries, Section.entriesIn_singleton, hrole, hother, phraseAt]
  · rw [phraseAt, NameTable.getD_insert]
    by_cases hother : other = phrase
    · simp [Section.entriesIn_singleton, hrole, hother, htable]
    · simp [Section.entriesIn_singleton, hrole, hother, Ne.symm hother, phraseAt]
  · simp [Section.orderEntries, Section.entriesIn_singleton, hrole]

theorem reading_add {sec : Section} (h : sec.Valid) (song : Song) :
    Reading song [sec] (song.add sec).state := by
  obtain ⟨name, entries⟩ := sec
  rw [Section.Valid] at h
  rw [add]
  cases hrole : Section.role name with
  | samples =>
    rw [hrole] at h
    exact reading_each (fun phrase => by simp [hrole])
      (fun song entry hentry => (fault?_addSample_eq_none_iff song entry).2 (h entry hentry))
      (fun song entry hentry => reading_addSample hrole (h entry hentry)) song
  | arrangement =>
    rw [hrole] at h
    exact reading_each (fun phrase => by simp [hrole])
      (fun song entry hentry => (fault?_addArrangement_eq_none_iff song entry).2 (h entry hentry))
      (fun song entry hentry => reading_addArrangement hrole (h entry hentry)) song
  | phrase phrase =>
    rw [hrole] at h
    exact reading_addGrids hrole h song

theorem reading_addAll {sections : List Section} (h : ∀ sec ∈ sections, sec.Valid) (song : Song) :
    Reading song sections (song.addAll sections).state := by
  induction sections generalizing song with
  | nil => exact .nil song
  | cons sec sections ih =>
    have ⟨hsec, hsections⟩ := List.forall_mem_cons.1 h
    have hfault := (fault?_add_eq_none_iff song sec).2 hsec
    rw [addAll, Outcome.each_cons_of_fault?_eq_none hfault]
    exact (reading_add hsec song).append (ih hsections _)

/-- Sections that are accepted are valid, so nothing in them is passed over, and the song that they
lead to is the only one that they say. -/
theorem reading_iff_of_addAll {song next : Song} {sections : List Section}
    (h : song.addAll sections = ⟨next, none⟩) :
    (∀ sec ∈ sections, sec.Valid) ∧ ∀ other, Reading song sections other ↔ other = next := by
  have hvalid := (fault?_addAll_eq_none_iff song sections).1 (by rw [h])
  have hreading := reading_addAll hvalid song
  rw [h] at hreading
  refine ⟨hvalid, fun other => ⟨fun hother => hother.unique hreading, ?_⟩⟩
  rintro rfl
  exact hreading

/-- Fields of one sample and grids of one phrase, spread over sections and out of order. -/
theorem reading_interleaved :
    let sections : List Section :=
      [⟨"WHO", [⟨"kick", .list [.option "params" (.scalar "-20"),
          .option "path" (.scalar "a.wav")]⟩]⟩,
        ⟨"A", [⟨"kick", .scalar "! ."⟩]⟩,
        ⟨"WHAT", [⟨"Output", .list [.scalar "A"]⟩, ⟨"A", .list [.option "bpm" (.scalar "90")]⟩]⟩,
        ⟨"WHO", [⟨"kick", .list [.option "stereo" (.scalar "chorus"),
          .option "path" (.scalar "b.wav")]⟩]⟩,
        ⟨"A", [⟨"kick", .scalar "-"⟩]⟩]
    let next : Song :=
      { samples := (∅ : NameTable Sample).insert "kick"
          { path := "b.wav", effect := { name := "chorus", params := some (.scalar "-20") } }
        phrases := (∅ : NameTable Phrase).insert "A"
          { bpm := 90
            beats := (∅ : NameTable (List Beat)).insert "kick" [.full, .rest, .half] }
        output := ["A"] }
    addAll {} sections = ⟨next, none⟩ ∧ Reading {} sections next := by
  intro sections next
  have hadd : addAll {} sections = ⟨next, none⟩ := by rfl
  exact ⟨hadd, ((reading_iff_of_addAll hadd).2 next).2 rfl⟩

end Song

end DrumMachine
