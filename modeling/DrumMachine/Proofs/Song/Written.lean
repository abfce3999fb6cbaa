import DrumMachine.Proofs.Song.Declared
import DrumMachine.Proofs.Text.Numeral
import DrumMachine.Song.Writer

/-!
# The document of a song

If a song is one that a document can declare, the document written for it is laid out as the song's
sections, and reading it gives these sections.
-/

namespace DrumMachine

open Document (Legible Layout)

/-! ### Texts of the writer -/

theorem Grid.quote_not_mem_write (beats : List Beat) : '"' ∉ (Grid.write beats).toList := by
  rw [Grid.write, String.toList_ofList, List.mem_map]
  rintro ⟨beat, -, heq⟩
  cases beat
  all_goals exact absurd heq (by decide)

theorem Document.legible_toString_int (n : Int) : Legible (toString n) := by
  have hdigits : ∀ k : Nat, '"' ∉ Nat.toDigits 10 k := fun k hmem =>
    absurd (Nat.isDigit_of_mem_toDigits (by decide) (by decide) hmem) (by decide)
  apply Document.legible_of_not_mem
  rw [Int.toString_eq_repr, Int.repr_eq_if]
  split
  · rw [Nat.toList_repr]
    exact hdigits _
  · rw [String.toList_append, Nat.toList_repr, List.mem_append, not_or]
    exact ⟨by decide, hdigits _⟩

namespace Song

variable {song : Song}

/-! ### The sections stand in a document -/

theorem standsAsField_scalar {text : String} (h : Legible text) :
    (Value.scalar text).StandsAsField :=
  ⟨⟨trivial, by rw [Value.nesting, Document.maxNesting]; omega⟩, fun other hother => by
    rw [List.mem_singleton.1 hother]
    exact h⟩

theorem standsAsField_option {name : String} {tree : Value} (hname : Legible name)
    (h : tree.IsParameters) : (Value.option name tree).StandsAsField := by
  refine ⟨⟨⟨h.kind_ne, h.fits.namedOnce⟩, h.fits.nesting_le⟩, fun text htext => ?_⟩
  rcases List.mem_cons.1 htext with rfl | htext
  · exact hname
  · exact h.legible text htext

theorem isParameters_scalar {text : String} (h : Legible text) :
    (Value.scalar text).IsParameters :=
  ⟨(standsAsField_scalar h).legible, by simp [Value.kind], (standsAsField_scalar h).fits⟩

theorem standsAsField_of_mem_sampleFields {sample : Sample} (h : sample.Declared) :
    ∀ field ∈ sampleFields sample, field.StandsAsField := by
  intro field hfield
  rcases List.mem_append.1 hfield with hfield | hfield
  · rcases List.mem_cons.1 hfield with rfl | hfield
    · exact standsAsField_option (by decide) (isParameters_scalar h.path)
    · rcases List.mem_cons.1 hfield with rfl | hfield
      · exact standsAsField_option (by decide)
          (isParameters_scalar (Document.legible_toString_int sample.volume.toInt))
      · obtain rfl := List.mem_singleton.1 hfield
        exact standsAsField_option (by decide) (isParameters_scalar h.effect)
  · rw [Option.mem_toList, Option.map_eq_some_iff] at hfield
    obtain ⟨tree, htree, rfl⟩ := hfield
    exact standsAsField_option (by decide) (h.params tree htree)

theorem stands_samplesSection (h : song.Declared) : song.samplesSection.Stands := by
  have hentry : ∀ entry ∈ song.samplesSection.entries, Legible entry.name ∧
      entry.value.Readable ∧ ∀ text ∈ entry.value.texts, Legible text := by
    intro entry hmem
    obtain ⟨⟨name, sample⟩, hsample, rfl⟩ := List.mem_map.1 hmem
    have ⟨hname, hdeclared⟩ := NameTable.forall_get?_iff.1 h.samples _ hsample
    exact ⟨hname, Value.list_stands_iff.2 (standsAsField_of_mem_sampleFields hdeclared)⟩
  exact .of_entries (by decide) hentry

theorem stands_arrangementSection (h : song.Declared) : song.arrangementSection.Stands := by
  refine .of_entries (by decide) fun entry hmem => ?_
  rcases List.mem_cons.1 hmem with rfl | hmem
  · have houtput : Legible Section.outputName := by decide
    refine ⟨houtput, Value.list_stands_iff.2 fun item hitem => ?_⟩
    obtain ⟨name, hname, rfl⟩ := List.mem_map.1 hitem
    exact standsAsField_scalar (h.output name hname)
  · obtain ⟨⟨name, phrase⟩, hphrase, rfl⟩ := List.mem_map.1 hmem
    have hname := NameTable.forall_get?_iff.1 h.phrases _ (List.mem_filter.1 hphrase).1
    refine ⟨hname.1, Value.list_stands_iff.2 fun item hitem => ?_⟩
    obtain rfl := List.mem_singleton.1 hitem
    exact standsAsField_option (by decide)
      (isParameters_scalar (Document.legible_toString_int phrase.bpm.toInt))

theorem stands_of_mem_gridSections (h : song.Declared) :
    ∀ sec ∈ song.gridSections, sec.Stands := by
  intro sec hsec
  obtain ⟨⟨name, phrase⟩, hphrase, rfl⟩ := List.mem_map.1 hsec
  have ⟨hname, hdeclared⟩ := NameTable.forall_get?_iff.1 h.phrases _ (List.mem_filter.1 hphrase).1
  refine .of_entries hname fun entry hmem => ?_
  obtain ⟨⟨track, beats⟩, hbeats, rfl⟩ := List.mem_map.1 hmem
  refine ⟨NameTable.forall_get?_iff.1 hdeclared.legible _ hbeats, Value.readable_scalar _, ?_⟩
  intro text htext
  obtain rfl := List.mem_singleton.1 htext
  exact Document.legible_of_not_mem (Grid.quote_not_mem_write beats)

/-! ### The written document -/

theorem laysOut_entry {sec : Section} (h : sec.Stands) :
    ∀ entry ∈ sec.entries, Document.LaysOut Document.writeEntry entry := by
  intro entry hentry
  have hlegible : ∀ text ∈ entry.name :: entry.value.texts, Legible text := fun text htext =>
    h.legible text (List.mem_cons_of_mem _ (List.mem_flatMap.2 ⟨entry, hentry, htext⟩))
  exact Document.laysOut_writeEntry (hlegible _ (List.mem_cons_self ..))
    fun text htext => hlegible text (List.mem_cons_of_mem _ htext)

theorem laysOut_gridEntry (h : song.Declared) :
    ∀ sec ∈ song.gridSections, ∀ entry ∈ sec.entries,
      Document.LaysOut Document.writeGridEntry entry := by
  intro sec hsec entry hentry
  have hstands := stands_of_mem_gridSections h sec hsec
  have hname : Legible entry.name := hstands.legible _
    (List.mem_cons_of_mem _ (List.mem_flatMap.2 ⟨entry, hentry, List.mem_cons_self ..⟩))
  obtain ⟨⟨name, phrase⟩, -, rfl⟩ := List.mem_map.1 hsec
  obtain ⟨⟨track, beats⟩, -, rfl⟩ := List.mem_map.1 hentry
  exact Document.laysOut_writeGridEntry hname (Grid.quote_not_mem_write beats)

theorem layout_write (h : song.Declared) :
    Layout song.write.toList (song.sections.flatMap Section.tokens) := by
  have hsamples := stands_samplesSection h
  have harrangement := stands_arrangementSection h
  have hgrids := Document.layout_writeSections
    (fun sec hsec => (stands_of_mem_gridSections h sec hsec).legible _ (List.mem_cons_self ..))
    (laysOut_gridEntry h)
  have htail := Document.layout_writeSection (harrangement.legible _ (List.mem_cons_self ..))
    (laysOut_entry harrangement) hgrids
  have hall := Document.layout_writeSection (hsamples.legible _ (List.mem_cons_self ..))
    (laysOut_entry hsamples) (.blank (c := '\n') (by decide) htail)
  simpa [write, sections, String.toList_join] using hall

theorem parse_write (h : song.Declared) : Document.parse song.write = .ok song.sections := by
  refine Document.parse_eq_ok_iff.2 ⟨layout_write h, fun sec hsec => ?_⟩
  rcases List.mem_cons.1 hsec with rfl | hsec
  · exact (stands_samplesSection h).readable
  · rcases List.mem_cons.1 hsec with rfl | hsec
    · exact (stands_arrangementSection h).readable
    · exact (stands_of_mem_gridSections h sec hsec).readable

end Song

end DrumMachine
