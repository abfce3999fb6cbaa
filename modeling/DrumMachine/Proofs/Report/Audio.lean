import DrumMachine.Proofs.Playback.Length
import DrumMachine.Proofs.Wave.Header

/-!
# The sound that a report identifies

The digest of the sound in a report is taken of bytes that are put together for it, and the file of a
rendered song is written on its own. Both channels of a mix have the same length, so neither loses a
frame, and the bytes are the same.
-/

namespace DrumMachine

namespace Stereo

/-- The bytes of the frames in order: a left sample and a right one, four bytes each. -/
def bytes (sound : Stereo) : List UInt8 :=
  (sound.left.toList.zip sound.right.toList).flatMap fun (left, right) =>
    Wave.littleEndian 4 left.toBits.toNat ++ Wave.littleEndian 4 right.toBits.toNat

theorem flatMap_interleaved (sound : Stereo) :
    sound.interleaved.toList.flatMap (Wave.encodeSample .float32) = sound.bytes := by
  rw [toList_interleaved, List.flatMap_assoc]
  rfl

theorem toByteArray_bytes (sound : Stereo) :
    sound.bytes.toByteArray = Wave.encodeData .float32 sound.interleaved ByteArray.empty := by
  refine ByteArray.ext (Array.toList_inj.1 ?_)
  rw [Wave.data_encodeData, flatMap_interleaved, List.toList_data_toByteArray]
  rfl

variable {sound : Stereo} {count : Nat}

theorem length_bytes (hleft : sound.left.size = count) (hright : sound.right.size = count) :
    sound.bytes.length = 8 * count := by
  rw [← flatMap_interleaved, Wave.length_flatMap_encodeSample, Array.length_toList,
    size_interleaved hleft hright, Nat.mul_right_comm]
  rfl

end Stereo

/-- A file of two channels in floating-point samples. Its data chunk comes last and holds these
bytes, which are as many as its head says and make up that many frames. -/
structure Wave.HoldsFrames (file : ByteArray) (frames : Nat) (data : List UInt8) : Prop where
  length : data.length = 8 * frames
  toList : file.toList = header .float32 2 (8 * frames) ++ data
  readHeader : readHeader file.toList = .ok (.written .float32 2, 2 * frames, data)

theorem Wave.holdsFrames_encodeStereo {sound : Stereo} {count : Nat}
    (hleft : sound.left.size = count) (hright : sound.right.size = count)
    (hsize : 8 * count < 2 ^ 32) :
    HoldsFrames (encodeStereo .float32 sound) count sound.bytes := by
  have hcount := Stereo.size_interleaved hleft hright
  have hbytes : sound.interleaved.size * Encoding.width .float32 = 8 * count := by
    rw [hcount, Nat.mul_right_comm]
    rfl
  refine ⟨Stereo.length_bytes hleft hright, ?_, ?_⟩
  · rw [toList_eq_data, encodeStereo, data_encode, Stereo.flatMap_interleaved, hbytes]
  · rw [encodeStereo, readHeader_encode .float32 (by decide) (by decide) ⟨count, hcount⟩
      (by rwa [hbytes]), Stereo.flatMap_interleaved, hcount]

namespace Report

theorem unified_renderTracks (song : Song) (waves : NameTable Wave) (parallel other : Bool) :
    Mixdown.unified (Playback.renderTracks song waves parallel) =
      Mixdown.unified (Playback.renderTracks song waves other) := by
  rw [Playback.renderTracks_eq_map, Playback.renderTracks_eq_map]

/-- The digest of a report is that of the data chunk of any file that the song is exported to: of
both channels of the mix, frame by frame, nothing left out. The frames in the file are those of the
report and of the summary of the rendering. -/
theorem audioHash_of_export (song : Song) (waves : NameTable Wave)
    (hsize : 8 * (ofSong song waves).frames < 2 ^ 32) (parallel : Bool) :
    let report := ofSong song waves
    let mix := Mixdown.unified (Playback.renderTracks song waves parallel)
    mix.left.size = report.frames ∧ mix.right.size = report.frames ∧
    report.audioHash = Sha256.hex mix.bytes.toByteArray ∧
    (∀ path files (tree next : Tree),
      (Export.writeTracks (Playback.renderTracks song waves parallel) path .unified .float32 :
        StateM Tree (Except Failure (List String))).run tree = (.ok files, next) →
      files = [path] ∧
        ∃ file, next.read path = .ok file ∧ Wave.HoldsFrames file report.frames mix.bytes) ∧
    ∀ base (options : RenderOptions) summary (tree loaded next : Tree),
      (Export.loadWaves song base :
        StateM Tree (Except Wave.LoadError (NameTable Wave))).run tree = (.ok waves, loaded) →
      options.mode = .unified → options.encoding = .float32 →
      (Export.renderSong song base options :
        StateM Tree (Except RenderError RenderSummary)).run tree = (.ok summary, next) →
      summary.files = [options.output] ∧ summary.frames = report.frames ∧
        ∃ file, next.read options.output = .ok file ∧
          Wave.HoldsFrames file report.frames mix.bytes := by
  intro report mix
  have hmix : ∀ other, Mixdown.unified (Playback.renderTracks song waves other) = mix :=
    fun other => unified_renderTracks song waves other parallel
  have hframes : ∀ other, Track.longest (Playback.renderTracks song waves other) = report.frames :=
    fun other => by
      rw [← Mixdown.frames_unified, unified_renderTracks song waves other false]
      rfl
  have hleft : mix.left.size = report.frames :=
    (Mixdown.frames_unified _).trans (hframes parallel)
  have hright : mix.right.size = report.frames :=
    (Mixdown.size_right_unified _).trans (hframes parallel)
  have hfile := Wave.holdsFrames_encodeStereo hleft hright hsize
  refine ⟨hleft, hright, ?_, ?_, ?_⟩
  · rw [Stereo.toByteArray_bytes, ← hmix false]
    rfl
  · intro path files tree next hrun
    obtain ⟨hfiles, hread⟩ := Export.read_of_writeTracks hrun
    exact ⟨hfiles, _, hread, hfile⟩
  · intro base options summary tree loaded next hload hmode hencoding hrun
    obtain ⟨others, mid, hothers, hwrite, hsummary⟩ := Export.exists_run_of_renderSong hrun
    obtain rfl : waves = others :=
      Except.ok.inj (congrArg Prod.fst (hload.symm.trans hothers))
    rw [hmode, hencoding] at hwrite
    obtain ⟨hfiles, hread⟩ := Export.read_of_writeTracks hwrite
    rw [hmix] at hread
    exact ⟨hfiles, hsummary.trans (hframes _), _, hread, hfile⟩

/-- Two tracks of one file, the second one longer: the song is rendered, and its file is the one that
the report identifies. -/
theorem audioHash_of_two_tracks :
    ∃ (song : Song) (waves : NameTable Wave) (summary : RenderSummary) (tree loaded next : Tree)
      (file : ByteArray),
      song.samples.size = 2 ∧ 8 * (ofSong song waves).frames < 2 ^ 32 ∧
      (Export.loadWaves song "" :
        StateM Tree (Except Wave.LoadError (NameTable Wave))).run tree = (.ok waves, loaded) ∧
      (Export.renderSong song "" {} :
        StateM Tree (Except RenderError RenderSummary)).run tree = (.ok summary, next) ∧
      summary.frames = 2 ∧ next.read "test.wav" = .ok file ∧
      Wave.HoldsFrames file 2 (Mixdown.unified (Playback.renderTracks song waves true)).bytes ∧
      (ofSong song waves).audioHash =
        Sha256.hex (Mixdown.unified (Playback.renderTracks song waves true)).bytes.toByteArray := by
  let song : Song :=
    { samples := NameTable.ofList
        [("k", { path := "k.wav", volume := 100 }), ("s", { path := "k.wav", volume := 50 })]
      phrases := (∅ : NameTable Phrase).insert "A"
        { bpm := 2646000, beats := NameTable.ofList [("k", [.full]), ("s", [.rest, .full])] }
      output := ["A"] }
  let wave : Wave := #[Wave.decodeSample .float32 (Wave.encodeSample .float32 1)]
  let waves := [("k", wave), ("s", wave)]
  let tree : Tree := ({} : Tree).putFile ["k.wav"] (Wave.encodeMono .float32 #[1])
  have hframes : (ofSong song (.ofList waves)).frames = 2 := by
    refine (Mixdown.frames_unified _).trans ?_
    rw [Playback.longest_renderTracks]
    decide
  have hsize : 8 * (ofSong song (.ofList waves)).frames < 2 ^ 32 := by
    rw [hframes]
    decide
  have hdecode : Wave.decode "k.wav" (Wave.encodeMono .float32 #[1]).toList = .ok wave := by
    rw [Wave.decode, Wave.encodeMono, Wave.readHeader_encode .float32 (by decide) (by decide)
      ⟨1, rfl⟩ (by decide)]
    rfl
  have hload : (Export.loadWaves song "" :
      StateM Tree (Except Wave.LoadError (NameTable Wave))).run tree =
        (.ok (.ofList waves), tree) := by
    have heach : (Export.loadEach "" song.samples.entries :
        StateM Tree (Except Wave.LoadError (List (String × Wave)))).run tree = (.ok waves, tree) :=
      Export.run_loadEach (.cons ⟨rfl, _, rfl, hdecode⟩ (.cons ⟨rfl, _, rfl, hdecode⟩ .nil))
    rw [Export.loadWaves, Tree.run_bind_of_run heach]
    rfl
  obtain ⟨summary, next, hrun⟩ : ∃ summary next, (Export.renderSong song "" {} :
      StateM Tree (Except RenderError RenderSummary)).run tree = (.ok summary, next) := by
    rw [Export.renderSong, Tree.run_bind_of_run hload]
    exact ⟨_, _, rfl⟩
  obtain ⟨-, -, hhash, -, hexport⟩ := audioHash_of_export song (.ofList waves) hsize true
  obtain ⟨-, hsummary, file, hread, hfile⟩ :=
    hexport "" {} summary tree tree next hload rfl rfl hrun
  rw [hframes] at hsummary hfile
  exact ⟨song, .ofList waves, summary, tree, tree, next, file, rfl, hsize, hload, hrun, hsummary,
    hread, hfile, hhash⟩

end Report

end DrumMachine
