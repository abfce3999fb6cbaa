import DrumMachine.Export
import DrumMachine.Proofs.Files.Tree
import Mathlib.Data.List.Forall2

/-!
# Exports that succeed

Waves are loaded from the files of the samples. If writing sound succeeds, the file holds all of it
when the writing is over. If rendering a song succeeds, its waves were loaded, its tracks were
written and the summary tells of these tracks.
-/

namespace DrumMachine.Export

theorem run_loadWave {path : String} {tree : Tree} {bytes : ByteArray}
    (h : tree.read path = .ok bytes) :
    (loadWave path : StateM Tree (Except Wave.LoadError Wave)).run tree =
      (Wave.decode path bytes.toList, tree) := by
  rw [loadWave, Tree.run_bind_of_run (Tree.run_read _ _), h]
  rfl

/-- Files that hold waves are loaded in order, and stay as they are. -/
theorem run_loadEach {base : String} {samples : List (String × Sample)}
    {waves : List (String × Wave)} {tree : Tree}
    (h : List.Forall₂ (fun entry loaded => loaded.1 = entry.1 ∧
      ∃ bytes, tree.read (samplePath base entry.2.path) = .ok bytes ∧
        Wave.decode (samplePath base entry.2.path) bytes.toList = .ok loaded.2) samples waves) :
    (loadEach base samples : StateM Tree (Except Wave.LoadError (List (String × Wave)))).run tree =
      (.ok waves, tree) := by
  induction h with
  | nil => rfl
  | @cons entry loaded samples waves hentry hrest ih =>
    obtain ⟨name, sample⟩ := entry
    obtain ⟨_, wave⟩ := loaded
    obtain ⟨rfl, bytes, hread, hdecode⟩ := hentry
    have hload : (loadWave (samplePath base sample.path) :
        StateM Tree (Except Wave.LoadError Wave)).run tree = (.ok wave, tree) := by
      rw [run_loadWave hread, hdecode]
    rw [loadEach, Tree.run_bind_of_run hload]
    dsimp only
    rw [Tree.run_bind_of_run ih]
    rfl

theorem read_of_writeWave {path : String} {sound : Stereo} {encoding : Wave.Encoding}
    {tree next : Tree}
    (h : (writeWave path sound encoding : StateM Tree (Except Failure Unit)).run tree =
      (.ok (), next)) :
    next.read path = .ok (Wave.encodeStereo encoding sound) := by
  obtain ⟨mid, hmid⟩ := Tree.exists_replace_of_run h
  exact Tree.read_of_replace hmid

theorem read_of_writeTracks {tracks : List Track} {path : String} {encoding : Wave.Encoding}
    {files : List String} {tree next : Tree}
    (h : (writeTracks tracks path .unified encoding :
      StateM Tree (Except Failure (List String))).run tree = (.ok files, next)) :
    files = [path] ∧
      next.read path = .ok (Wave.encodeStereo encoding (Mixdown.unified tracks)) := by
  unfold writeTracks at h
  obtain ⟨result, last, hwave, h⟩ := Tree.exists_run_of_bind h
  cases result with
  | error failure => exact absurd (congrArg Prod.fst h) (by intro heq; cases heq)
  | ok written =>
    obtain rfl : last = next := congrArg Prod.snd h
    exact ⟨(Except.ok.inj (congrArg Prod.fst h)).symm, read_of_writeWave hwave⟩

theorem exists_run_of_renderSong {song : Song} {base : String} {options : RenderOptions}
    {tree next : Tree} {summary : RenderSummary}
    (h : (renderSong song base options : StateM Tree (Except RenderError RenderSummary)).run tree =
      (.ok summary, next)) :
    ∃ waves mid, (loadWaves song base :
        StateM Tree (Except Wave.LoadError (NameTable Wave))).run tree = (.ok waves, mid) ∧
      (writeTracks (Playback.renderTracks song waves options.parallel) options.output options.mode
        options.encoding : StateM Tree (Except Failure (List String))).run mid =
          (.ok summary.files, next) ∧
      summary.frames = Track.longest (Playback.renderTracks song waves options.parallel) := by
  unfold renderSong at h
  obtain ⟨loaded, mid, hload, h⟩ := Tree.exists_run_of_bind h
  cases loaded with
  | error error => exact absurd (congrArg Prod.fst h) (by intro heq; cases heq)
  | ok waves =>
    obtain ⟨written, last, hwrite, h⟩ := Tree.exists_run_of_bind h
    cases written with
    | error failure => exact absurd (congrArg Prod.fst h) (by intro heq; cases heq)
    | ok files =>
      obtain rfl : last = next := congrArg Prod.snd h
      obtain rfl : _ = summary := Except.ok.inj (congrArg Prod.fst h)
      exact ⟨waves, mid, hload, hwrite, rfl⟩

end DrumMachine.Export
