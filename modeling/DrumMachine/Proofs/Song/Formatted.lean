import DrumMachine.Proofs.Song.Saved

/-!
# Formatting twice

The document written for a song does not show a phrase that is named like the order of play and has no
grids, so the song that is read back, which is without it, is written the same. Whatever document is
formatted, formatting what was printed prints it again.
-/

namespace DrumMachine.Song

theorem arrangementSection_withoutEmptyOutput (song : Song) :
    song.withoutEmptyOutput.arrangementSection = song.arrangementSection := by
  have hentries : (song.withoutEmptyOutput.phrases.entries.filter fun entry =>
      entry.1 ≠ Section.outputName) =
        song.phrases.entries.filter fun entry => entry.1 ≠ Section.outputName := by
    rw [withoutEmptyOutput, NameTable.filter, List.filter_filter]
    refine List.filter_congr fun entry _ => ?_
    by_cases hname : entry.1 = Section.outputName
    · simp [hname]
    · simp [hname]
  rw [arrangementSection, arrangementSection]
  exact congrArg _ (congrArg _ (congrArg _ hentries))

theorem gridSections_withoutEmptyOutput (song : Song) :
    song.withoutEmptyOutput.gridSections = song.gridSections := by
  have hentries : (song.withoutEmptyOutput.phrases.entries.filter fun entry =>
      !entry.2.beats.isEmpty) = song.phrases.entries.filter fun entry => !entry.2.beats.isEmpty := by
    rw [withoutEmptyOutput, NameTable.filter, List.filter_filter]
    refine List.filter_congr fun entry _ => ?_
    cases entry.2.beats.isEmpty with
    | false => simp
    | true => simp
  rw [gridSections, gridSections]
  exact congrArg _ hentries

theorem write_withoutEmptyOutput (song : Song) : song.withoutEmptyOutput.write = song.write := by
  rw [write, write, arrangementSection_withoutEmptyOutput, gridSections_withoutEmptyOutput]
  rfl

/-- Only a phrase that is named like the order of play and has no grids is left out. -/
theorem get?_withoutEmptyOutput (song : Song) (name : String) :
    song.withoutEmptyOutput.phrases.get? name = song.phrases.get? name ∨
      name = Section.outputName ∧ song.withoutEmptyOutput.phrases.get? name = none ∧
        ∃ phrase, song.phrases.get? name = some phrase ∧ phrase.beats = ∅ := by
  rw [withoutEmptyOutput, NameTable.get?_filter]
  cases hget : song.phrases.get? name with
  | none => exact .inl rfl
  | some phrase =>
    by_cases hleft : name = Section.outputName ∧ phrase.beats = ∅
    · obtain ⟨rfl, hempty⟩ := hleft
      refine .inr ⟨rfl, ?_, phrase, rfl, hempty⟩
      rw [Option.filter_some, if_neg (by simp [NameTable.isEmpty_iff.2 hempty])]
    · have hkeep : (!(name == Section.outputName && phrase.beats.isEmpty)) = true := by
        rw [Bool.not_eq_true', ← Bool.not_eq_true, Bool.and_eq_true, beq_iff_eq,
          NameTable.isEmpty_iff]
        exact hleft
      exact .inl (by rw [Option.filter_some, if_pos hkeep])

/-- What is written for a compiled song compiles again, to a song that is written the same. It has all
of the first but for a phrase that is named like the order of play and has no grids. So the formatter
prints what it has printed once more. -/
theorem compile_write_fixed {source : String} {song : Song} (h : compile source = .ok song) :
    (∃ read, compile song.write = .ok read ∧ read.write = song.write ∧
      read.samples = song.samples ∧ read.output = song.output ∧
      ∀ name, read.phrases.get? name = song.phrases.get? name ∨
        name = Section.outputName ∧ read.phrases.get? name = none ∧
          ∃ phrase, song.phrases.get? name = some phrase ∧ phrase.beats = ∅) ∧
    ∀ surroundings config input tree next, Cli.InputHolds surroundings input source tree next →
      (Cli.runCommand surroundings config (.format input)).run tree = (.ok song.write, next) ∧
        ∀ later settings reread before after, Cli.InputHolds later reread song.write before after →
          (Cli.runCommand later settings (.format reread)).run before =
            (.ok song.write, after) := by
  have hread := compile_write (declared_of_compile h)
  have hwrite := write_withoutEmptyOutput song
  refine ⟨⟨_, hread, hwrite, rfl, rfl, get?_withoutEmptyOutput song⟩, ?_⟩
  intro surroundings config input tree next hinput
  refine ⟨Cli.run_format config hinput h, fun later settings reread before after hprinted => ?_⟩
  rw [Cli.run_format settings hprinted hread, hwrite]

theorem compile_write_fixed_without_output :
    ∃ song read, compile "[Output]\n[A]\nkick = /_" = .ok song ∧
      song.phrases.contains Section.outputName = true ∧ compile song.write = .ok read ∧
      read.write = song.write ∧ read.phrases.get? "A" = song.phrases.get? "A" := by
  let phrase : Phrase := { beats := (∅ : NameTable (List Beat)).insert "kick" [.half, .stop] }
  have hcompile : compile "[Output]\n[A]\nkick = /_" =
      .ok { phrases := ((∅ : NameTable Phrase).insert "Output" {}).insert "A" phrase } := rfl
  obtain ⟨⟨read, hread, hwrite, -, -, hphrases⟩, -⟩ := compile_write_fixed hcompile
  refine ⟨_, read, hcompile, rfl, hread, hwrite, ?_⟩
  exact (hphrases "A").resolve_right fun h => absurd h.1 (by decide)

end DrumMachine.Song
