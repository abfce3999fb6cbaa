import DrumMachine.Cli.Run
import DrumMachine.Proofs.Files.Tree
import DrumMachine.Proofs.Song.RoundTrip

/-!
# Songs that were compiled, stored and formatted

Storing or formatting a song that was compiled keeps everything but a phrase that is named like the
order of play and has no grids.
-/

namespace DrumMachine

theorem fromUTF8?_toUTF8 (text : String) : String.fromUTF8? text.toUTF8 = some text := by
  rw [String.fromUTF8?, String.toUTF8_eq_toByteArray, dif_pos text.isValidUTF8]
  rfl

theorem Tree.run_readText_of_read {path source : String} {tree : Tree}
    (h : tree.read path = .ok source.toUTF8) :
    (Disk.readText path : StateM Tree (Except FileError String)).run tree = (.ok source, tree) := by
  have hread := run_read path tree
  rw [h] at hread
  unfold Disk.readText
  rw [run_bind_of_run hread]
  simp only [fromUTF8?_toUTF8]
  rfl

namespace Song

theorem replace_of_save {path : String} {song : Song} {tree next : Tree}
    (h : (save path song : StateM Tree (Except Failure Unit)).run tree = (.ok (), next)) :
    ∃ mid : Tree, mid.replace path song.write.toUTF8 = .ok next :=
  Tree.exists_replace_of_run h

theorem load_of_save {path : String} {song read : Song} {tree next : Tree}
    (h : (save path song : StateM Tree (Except Failure Unit)).run tree = (.ok (), next))
    (hread : compile song.write = .ok read) :
    (load path : StateM Tree (Except Failure Song)).run next = (.ok read, next) := by
  obtain ⟨mid, hreplace⟩ := replace_of_save h
  unfold load
  rw [Tree.run_bind_of_run (Tree.run_readText_of_read (Tree.read_of_replace hreplace))]
  simp only [hread]
  rfl

end Song

/-! ### Formatting -/

namespace Cli

/-- The command's input holds the text; reading it leads to the next tree. -/
def InputHolds (surroundings : Surroundings (StateM Tree)) (input source : String)
    (tree next : Tree) : Prop :=
  if input = "-" then surroundings.readInput.run tree = (.ok source.toUTF8, next)
  else tree.read input = .ok source.toUTF8 ∧ next = tree

variable {surroundings : Surroundings (StateM Tree)} {input source : String} {tree next : Tree}
  {song : Song}

theorem run_openEngine (h : InputHolds surroundings input source tree next)
    (hcompile : Song.compile source = .ok song) :
    ∃ engine : Engine, engine.song = song ∧
      (openEngine surroundings input).run tree = (.ok engine, next) := by
  unfold InputHolds at h
  unfold openEngine
  split at h
  · rename_i hinput
    rw [if_pos hinput]
    unfold readEngine
    rw [Tree.run_bind_of_run h]
    simp only [fromUTF8?_toUTF8, Engine.ofDocument, hcompile]
    exact ⟨_, rfl, rfl⟩
  · rename_i hinput
    obtain ⟨hread, rfl⟩ := h
    rw [if_neg hinput]
    have hfile : (Engine.ofFile input : StateM Tree (Except Engine.Error Engine)).run next =
        (.ok ⟨song, Path.directory input⟩, next) := by
      unfold Engine.ofFile
      rw [Tree.run_bind_of_run (Tree.run_readText_of_read hread)]
      simp only [Engine.ofDocument, hcompile]
      rfl
    rw [Tree.run_bind_of_run hfile]
    exact ⟨_, rfl, rfl⟩

theorem run_format (config : Config) (h : InputHolds surroundings input source tree next)
    (hcompile : Song.compile source = .ok song) :
    (runCommand surroundings config (.format input)).run tree = (.ok song.write, next) := by
  obtain ⟨engine, rfl, hengine⟩ := run_openEngine h hcompile
  unfold runCommand withEngine
  rw [Tree.run_bind_of_run hengine]
  rfl

end Cli

namespace Song

/-- What is compiled, stored or formatted, and compiled again, is the same up to an empty phrase that
is named like the order of play. -/
theorem compile_write_of_compile {source : String} {song : Song} (h : compile source = .ok song) :
    compile song.write = .ok song.withoutEmptyOutput ∧
    (compile song.write = .ok song ↔ ∀ phrase,
      song.phrases.get? Section.outputName = some phrase → phrase.beats ≠ ∅) ∧
    (∀ path tree next,
      (save path song : StateM Tree (Except Failure Unit)).run tree = (.ok (), next) →
        (load path : StateM Tree (Except Failure Song)).run next =
          (.ok song.withoutEmptyOutput, next)) ∧
    ∀ surroundings config input tree next, Cli.InputHolds surroundings input source tree next →
      ∃ printed, (Cli.runCommand surroundings config (.format input)).run tree =
          (.ok printed, next) ∧
        compile printed = .ok song.withoutEmptyOutput := by
  have hwrite := compile_write (declared_of_compile h)
  refine ⟨hwrite, ?_, fun path tree next hsave => load_of_save hsave hwrite,
    fun surroundings config input tree next hinput =>
      ⟨song.write, Cli.run_format config hinput h, hwrite⟩⟩
  rw [hwrite, Except.ok.injEq, withoutEmptyOutput_eq_self_iff]

theorem compile_write_of_grids : ∃ song, compile "[Output]\nkick = !." = .ok song ∧
    compile song.write = .ok song := by
  let phrase : Phrase := { beats := (∅ : NameTable (List Beat)).insert "kick" [.full, .rest] }
  have hcompile : compile "[Output]\nkick = !." =
      .ok { phrases := (∅ : NameTable Phrase).insert "Output" phrase } := rfl
  refine ⟨_, hcompile, (compile_write_of_compile hcompile).2.1.2 fun other hget => ?_⟩
  obtain rfl : phrase = other := Option.some.inj hget
  exact fun hempty => absurd (congrArg NameTable.size hempty) (by decide)

/-- A section for that phrase without grids is accepted, and lost. -/
theorem compile_write_of_no_grids : ∃ song, compile "[Output]" = .ok song ∧
    song.phrases.contains Section.outputName = true ∧ compile song.write = .ok {} ∧
      compile song.write ≠ .ok song := by
  have hcompile : compile "[Output]" = .ok { phrases := (∅ : NameTable Phrase).insert "Output" {} } :=
    rfl
  have hwrite := compile_write (declared_of_compile hcompile)
  refine ⟨_, hcompile, rfl, hwrite, fun heq => ?_⟩
  rw [heq] at hwrite
  exact withoutEmptyOutput_eq_self_iff.1 (Except.ok.inj hwrite).symm {} rfl rfl

end Song

end DrumMachine
