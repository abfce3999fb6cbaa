import DrumMachine.Proofs.Song.Glyphs
import DrumMachine.Proofs.Song.Valid
import DrumMachine.Proofs.Song.Written

/-!
# Adding the sections of a song

The sections of a song that a document can declare, added to the empty song, give the song back. Only
a phrase that is named like the order of play and has no grids is lost: its tempo cannot be written,
and no section is written for it.
-/

namespace DrumMachine

theorem NameTable.isEmpty_iff {α : Type} {table : NameTable α} :
    table.isEmpty = true ↔ table = ∅ := by
  constructor
  · intro h
    exact NameTable.ext_entries (List.isEmpty_iff.1 h)
  · rintro rfl
    rfl

namespace Song

namespace Outcome

variable {σ α : Type} {step : σ → α → Outcome σ}

/-- Items that each put one value into a table, as long as the table has not changed at its name. -/
theorem each_insertAll {β : Type} (wrap : NameTable β → σ) {line : String × β → α}
    {start : NameTable β} {entries : List (String × β)}
    (hentries : entries.Pairwise fun a b => a.1 < b.1)
    (hstep : ∀ entry ∈ entries, ∀ table : NameTable β, table.get? entry.1 = start.get? entry.1 →
      step (wrap table) (line entry) = ⟨wrap (table.insert entry.1 entry.2), none⟩) :
    each step (wrap start) (entries.map line) = ⟨wrap (start.insertAll entries), none⟩ := by
  induction entries generalizing start with
  | nil => rfl
  | cons entry rest ih =>
    have ⟨hentry, hrest⟩ := List.pairwise_cons.1 hentries
    rw [List.map_cons, each_cons_of_none (hstep entry (List.mem_cons_self ..) start rfl)]
    refine (ih hrest fun other hother table htable => ?_).trans (by rw [NameTable.insertAll,
      NameTable.insertAll, List.foldl_cons])
    have hne : other.1 ≠ entry.1 := fun heq => String.lt_irrefl _ (heq ▸ hentry other hother)
    rw [NameTable.get?_insert_of_ne start entry.2 hne] at htable
    exact hstep other (List.mem_cons_of_mem _ hother) table htable

end Outcome

/-- The song without the phrase that is named like the order of play, if that has no grids. -/
def withoutEmptyOutput (song : Song) : Song :=
  { song with phrases := song.phrases.filter fun name phrase =>
      !(name == Section.outputName && phrase.beats.isEmpty) }

/-- The phrases as the section for the order of play declares them. -/
def arranged (song : Song) : NameTable Phrase :=
  (song.phrases.filter fun name _ => name ≠ Section.outputName).map fun _ phrase =>
    { bpm := phrase.bpm }

/-- The phrases that have grids. -/
def gridded (song : Song) : NameTable Phrase :=
  song.phrases.filter fun _ phrase => !phrase.beats.isEmpty

variable {song : Song}

/-! ### Samples -/

theorem each_sampleFields {sample : Sample} (h : sample.Declared) (entry : String) :
    Outcome.each (addSampleField entry) {} (sampleFields sample) = ⟨sample, none⟩ := by
  obtain ⟨path, volume, name, params, running⟩ := sample
  obtain rfl : running = none := h.idle
  have hvolume : Text.lenientInt volume.toInt.repr = volume := Text.lenientInt_toString volume
  cases params with
  | none => simp [sampleFields, Outcome.each, addSampleField, hvolume]
  | some tree => simp [sampleFields, Outcome.each, addSampleField, hvolume]

theorem add_samplesSection (h : song.Declared) :
    add {} song.samplesSection = ⟨{ samples := song.samples }, none⟩ := by
  have hstep : ∀ entry ∈ song.samples.entries, ∀ table : NameTable Sample,
      table.get? entry.1 = (∅ : NameTable Sample).get? entry.1 →
      addSample { samples := table } ⟨entry.1, .list (sampleFields entry.2)⟩ =
        ⟨{ samples := table.insert entry.1 entry.2 }, none⟩ := by
    intro entry hentry table htable
    have hdeclared := (NameTable.forall_get?_iff.1 h.samples entry hentry).2
    rw [NameTable.get?_empty] at htable
    simp only [addSample, htable, Option.getD_none, each_sampleFields hdeclared, Outcome.map]
  have heach := Outcome.each_insertAll (fun table => ({ samples := table } : Song))
    song.samples.increasing hstep
  rwa [NameTable.insertAll_entries] at heach

/-! ### The order of play and the tempos -/

theorem addOutput_scalars (song : Song) (names : List String) :
    addOutput song (names.map Value.scalar) =
      ⟨{ song with output := song.output ++ names }, none⟩ := by
  have htake : ((names.map Value.scalar).takeWhile fun item => item.scalar?.isSome) =
      names.map Value.scalar :=
    List.takeWhile_eq_self_iff.2 fun item hitem => by
      obtain ⟨name, -, rfl⟩ := List.mem_map.1 hitem
      rfl
  have hfind : ((names.map Value.scalar).find? fun item => !item.scalar?.isSome) = none :=
    List.find?_eq_none.2 fun item hitem => by
      obtain ⟨name, -, rfl⟩ := List.mem_map.1 hitem
      simp [Value.scalar?]
  have hnames : (names.map Value.scalar).filterMap Value.scalar? = names := by
    rw [List.filterMap_map]
    exact List.filterMap_some
  simp only [addOutput, htake, hfind, hnames, Option.map_none]

theorem add_arrangementSection (samples : NameTable Sample) :
    add { samples } song.arrangementSection =
      ⟨{ samples, phrases := song.arranged, output := song.output }, none⟩ := by
  have houtput : addArrangement { samples }
      ⟨Section.outputName, .list (song.output.map Value.scalar)⟩ =
        ⟨{ samples, output := song.output }, none⟩ := by
    rw [addArrangement, if_pos rfl]
    exact addOutput_scalars { samples } song.output
  have hstep : ∀ entry ∈ song.arranged.entries, ∀ table : NameTable Phrase,
      table.get? entry.1 = (∅ : NameTable Phrase).get? entry.1 →
      addArrangement { samples, phrases := table, output := song.output }
          ⟨entry.1, .list [.option "bpm" (.scalar (toString entry.2.bpm.toInt))]⟩ =
        ⟨{ samples, phrases := table.insert entry.1 entry.2, output := song.output }, none⟩ := by
    intro entry hentry table htable
    obtain ⟨⟨name, phrase⟩, hphrase, rfl⟩ := List.mem_map.1 hentry
    have hname : name ≠ Section.outputName := by simpa using (List.mem_filter.1 hphrase).2
    have hbpm : Text.lenientInt phrase.bpm.toInt.repr = phrase.bpm :=
      Text.lenientInt_toString phrase.bpm
    rw [NameTable.get?_empty] at htable
    simp only [addArrangement, if_neg hname, htable, Option.getD_none]
    simp [Outcome.each, addPhraseField, Outcome.map, hbpm]
  have heach := Outcome.each_insertAll
    (fun table => ({ samples, phrases := table, output := song.output } : Song))
    song.arranged.increasing hstep
  rw [NameTable.insertAll_entries] at heach
  have hentries : song.arrangementSection.entries =
      ⟨Section.outputName, .list (song.output.map Value.scalar)⟩ :: song.arranged.entries.map
        fun entry => ⟨entry.1, .list [.option "bpm" (.scalar (toString entry.2.bpm.toInt))]⟩ := by
    simp only [arrangementSection, arranged, NameTable.map, NameTable.filter, List.map_map]
    rfl
  have hrole : Section.role song.arrangementSection.name = .arrangement := rfl
  simp only [add, hrole, hentries]
  exact (Outcome.each_cons_of_none houtput).trans heach

/-! ### Grids -/

theorem each_addGrid (name : String) (phrase : Phrase) :
    Outcome.each (addGrid name) { bpm := phrase.bpm }
        (phrase.beats.entries.map fun entry => ⟨entry.1, .scalar (Grid.write entry.2)⟩) =
      ⟨phrase, none⟩ := by
  have hstep : ∀ entry ∈ phrase.beats.entries, ∀ table : NameTable (List Beat),
      table.get? entry.1 = (∅ : NameTable (List Beat)).get? entry.1 →
      addGrid name { bpm := phrase.bpm, beats := table }
          ⟨entry.1, .scalar (Grid.write entry.2)⟩ =
        ⟨{ bpm := phrase.bpm, beats := table.insert entry.1 entry.2 }, none⟩ := by
    intro entry _ table htable
    rw [NameTable.get?_empty] at htable
    have halter : (table.alter entry.1 fun grid => grid.getD [] ++ entry.2) =
        table.insert entry.1 entry.2 := by
      refine NameTable.ext_get? fun other => ?_
      by_cases hother : other = entry.1
      · subst hother
        rw [NameTable.get?_alter_self, NameTable.get?_insert_self, htable]
        rfl
      · rw [NameTable.get?_alter_of_ne table _ hother, NameTable.get?_insert_of_ne table _ hother]
    simp only [addGrid, Grid.read_write, halter]
  have heach := Outcome.each_insertAll
    (fun table => ({ bpm := phrase.bpm, beats := table } : Phrase))
    phrase.beats.increasing hstep
  rwa [NameTable.insertAll_entries] at heach

/-- Before its grids are added, a phrase that has some stands with its tempo alone, or is not there
because its tempo is the one it is made with. -/
theorem arranged_get?_getD (h : song.Declared) {name : String} {phrase : Phrase}
    (hget : song.phrases.get? name = some phrase) :
    (song.arranged.get? name).getD {} = { bpm := phrase.bpm } := by
  rw [arranged, NameTable.get?_map, NameTable.get?_filter, hget]
  by_cases hname : name = Section.outputName
  · rw [Option.filter_some, if_neg (by simp [hname]), (h.phrases name phrase hget).2.output hname]
    rfl
  · rw [Option.filter_some, if_pos (by simp [hname])]
    rfl

theorem each_gridSections (h : song.Declared) (samples : NameTable Sample) (output : List String) :
    Outcome.each add { samples, phrases := song.arranged, output } song.gridSections =
      ⟨{ samples, phrases := song.arranged.insertAll song.gridded.entries, output }, none⟩ := by
  refine Outcome.each_insertAll
    (fun table => ({ samples, phrases := table, output } : Song))
    song.gridded.increasing fun entry hentry table htable => ?_
  obtain ⟨name, phrase⟩ := entry
  have ⟨hmem, hbeats⟩ := List.mem_filter.1 hentry
  have hget : song.phrases.get? name = some phrase := NameTable.get?_eq_some_iff.2 hmem
  have hrole : Section.role name = .phrase name := by
    by_contra hne
    have hempty := (h.phrases name phrase hget).2.reserved hne
    simp [NameTable.isEmpty_iff.2 hempty] at hbeats
  simp only at htable
  simp only [add, hrole, htable, arranged_get?_getD h hget, each_addGrid, Outcome.map]

/-! ### Whole songs -/

theorem insertAll_gridded (song : Song) :
    song.arranged.insertAll song.gridded.entries = song.withoutEmptyOutput.phrases := by
  refine NameTable.ext_get? fun name => ?_
  rw [NameTable.get?_insertAll song.gridded.increasing, withoutEmptyOutput, NameTable.get?_filter]
  show (song.gridded.get? name).or (song.arranged.get? name) = _
  rw [gridded, arranged, NameTable.get?_filter, NameTable.get?_map, NameTable.get?_filter]
  cases hget : song.phrases.get? name with
  | none => rfl
  | some phrase =>
    cases hbeats : phrase.beats.isEmpty with
    | false => simp [Option.filter_some, hbeats]
    | true =>
      -- nothing but its tempo is declared of a phrase without grids
      have htempo : ({ bpm := phrase.bpm } : Phrase) = phrase := by
        obtain ⟨bpm, beats⟩ := phrase
        obtain rfl : beats = ∅ := NameTable.isEmpty_iff.1 hbeats
        rfl
      by_cases hname : name = Section.outputName
      · simp [Option.filter_some, hbeats, hname]
      · simp [Option.filter_some, hbeats, hname, htempo]

theorem build_sections (h : song.Declared) :
    build song.sections = .ok song.withoutEmptyOutput := by
  rw [build_eq_ok_iff, addAll, sections, Outcome.each_cons_of_none (add_samplesSection h),
    Outcome.each_cons_of_none (add_arrangementSection song.samples),
    each_gridSections h song.samples song.output, insertAll_gridded]
  rfl

theorem compile_write (h : song.Declared) : compile song.write = .ok song.withoutEmptyOutput :=
  compile_eq_ok_iff.2 ⟨song.sections, parse_write h, build_sections h⟩

end Song

end DrumMachine
