import DrumMachine.Proofs.Export
import DrumMachine.Proofs.Playback.Alignment
import DrumMachine.Proofs.Playback.Mixdown
import DrumMachine.Report

/-!
# How long a rendered song is

A song is as long as its phrases, and a phrase as long as its longest grid, whoever plays it. What is
rendered is as long as its longest track. A track that jumps to the end of a phrase does not write
the silence that it jumps over before something follows, so the two differ if no track plays the end
of the song out.
-/

namespace DrumMachine

/-- Every track with a grid in a phrase that is played is that of a sample. -/
def Song.DeclaresGrids (song : Song) : Prop :=
  ∀ name ∈ song.output, ∀ phrase, song.phrases.get? name = some phrase →
    ∀ track ∈ phrase.beats.names, track ∈ song.samples.names

namespace Playback

/-- The track's channels come to the end of the step: it has no grid there, or one with beats that is
as long as the step. -/
def Step.PlaysOut (track : String) (step : Step) : Prop :=
  ∃ phrase, step.phrase? = some phrase ∧ ∀ beats, phrase.beats.get? track = some beats →
    beats ≠ [] ∧ beats.length * step.samplesPerBeat = step.span

/-- The track plays a step out after which no time passes. -/
def ReachesEnd (track : String) (steps : List Step) : Prop :=
  ∃ before step after, steps = before ++ step :: after ∧ step.PlaysOut track ∧ totalSpan after = 0

/-! ### Where a track ends -/

theorem finish_le_totalSpan (track : String) (steps : List Step) :
    finish track steps ≤ totalSpan steps := by
  obtain ⟨hfollows, hcursor, hsize⟩ := Player.follows_steps track default #[] steps
  rw [← hsize, ← hcursor]
  exact hfollows.left_le

theorem finish_append_of_no_grid {track name : String} {phrase : Phrase}
    (h : phrase.beats.get? track = none) (steps : List Step) :
    finish track (steps ++ [⟨name, some phrase⟩]) =
      totalSpan steps + Step.span ⟨name, some phrase⟩ := by
  rw [finish_append, Step.runs_of_no_grid h]
  rfl

theorem finish_append_of_grid {track name : String} {phrase : Phrase} {beats : List Beat}
    (h : phrase.beats.get? track = some beats) (hne : beats ≠ []) (steps : List Step) :
    finish track (steps ++ [⟨name, some phrase⟩]) =
      totalSpan steps + beats.length * Step.samplesPerBeat ⟨name, some phrase⟩ := by
  have hpos : 0 < beats.length := List.length_pos_iff.2 hne
  rw [finish_append, Step.runs_of_grid h, beatRuns, List.getLast?_mapIdx,
    List.getLast?_eq_some_getLast hne]
  show totalSpan steps + (beats.length - 1) * _ + _ = _
  rw [Nat.add_assoc, ← Nat.succ_mul, Nat.succ_eq_add_one, Nat.sub_add_cancel hpos]

theorem finish_append_of_playsOut {track : String} {step : Step} (h : step.PlaysOut track)
    (steps : List Step) : finish track (steps ++ [step]) = totalSpan (steps ++ [step]) := by
  obtain ⟨name, phrase?⟩ := step
  obtain ⟨phrase, rfl, hgrids⟩ := h
  rw [totalSpan_append]
  cases hgrid : phrase.beats.get? track with
  | none => exact finish_append_of_no_grid hgrid steps
  | some beats =>
    obtain ⟨hne, hlength⟩ := hgrids beats hgrid
    rw [finish_append_of_grid hgrid hne, hlength]

/-- A step that a track does not play out leaves its end where it is, or puts it inside the step. -/
theorem finish_append_of_not_playsOut {track : String} {step : Step} (h : ¬step.PlaysOut track)
    (steps : List Step) :
    finish track (steps ++ [step]) = finish track steps ∨
      totalSpan steps ≤ finish track (steps ++ [step]) ∧
        finish track (steps ++ [step]) < totalSpan steps + step.span := by
  obtain ⟨name, phrase?⟩ := step
  cases phrase? with
  | none =>
    left
    rw [finish_append]
    rfl
  | some phrase =>
    cases hgrid : phrase.beats.get? track with
    | none =>
      refine absurd ⟨phrase, rfl, fun beats hbeats => ?_⟩ h
      rw [hgrid] at hbeats
      exact absurd hbeats (by simp)
    | some beats =>
      by_cases hne : beats = []
      · left
        rw [finish_append, Step.runs_of_grid hgrid, hne]
        rfl
      · right
        have hshort : beats.length * Step.samplesPerBeat ⟨name, some phrase⟩ ≠
            Step.span ⟨name, some phrase⟩ := by
          intro hlength
          refine h ⟨phrase, rfl, fun other hother => ?_⟩
          obtain rfl : beats = other := Option.some.inj (hgrid.symm.trans hother)
          exact ⟨hne, hlength⟩
        have hle := Player.grid_le_span hgrid name
        rw [finish_append_of_grid hgrid hne]
        omega

theorem reachesEnd_append_of_not_playsOut {track : String} {step : Step}
    (h : ¬step.PlaysOut track) (steps : List Step) :
    ReachesEnd track (steps ++ [step]) ↔ ReachesEnd track steps ∧ step.span = 0 := by
  constructor
  · rintro ⟨before, last, after, heq, hlast, hafter⟩
    rcases List.eq_nil_or_concat after with rfl | ⟨rest, other, rfl⟩
    · obtain ⟨-, rfl⟩ := List.append_singleton_inj.1 heq
      exact absurd hlast h
    · rw [List.concat_eq_append, ← List.cons_append, ← List.append_assoc,
        List.append_singleton_inj] at heq
      obtain ⟨rfl, rfl⟩ := heq
      rw [List.concat_eq_append, totalSpan_append] at hafter
      exact ⟨⟨before, last, rest, rfl, hlast, by omega⟩, by omega⟩
  · rintro ⟨⟨before, last, after, rfl, hlast, hafter⟩, hspan⟩
    refine ⟨before, last, after ++ [step], by simp, hlast, ?_⟩
    rw [totalSpan_append, hafter, hspan]

/-- A track ends where the steps do exactly if it plays them out. -/
theorem finish_eq_totalSpan_iff (track : String) (steps : List Step) :
    finish track steps = totalSpan steps ↔ totalSpan steps = 0 ∨ ReachesEnd track steps := by
  induction steps using List.reverseRecOn with
  | nil => exact ⟨fun _ => .inl rfl, fun _ => rfl⟩
  | append_singleton steps step ih =>
    by_cases hplays : step.PlaysOut track
    · refine ⟨fun _ => .inr ⟨steps, step, [], rfl, hplays, rfl⟩, fun _ => ?_⟩
      exact finish_append_of_playsOut hplays steps
    · have hle := finish_le_totalSpan track steps
      rw [reachesEnd_append_of_not_playsOut hplays, totalSpan_append]
      rcases finish_append_of_not_playsOut hplays steps with hfinish | ⟨hstart, hfinish⟩
      · have hsame : finish track (steps ++ [step]) = totalSpan steps + step.span ↔
            finish track steps = totalSpan steps ∧ step.span = 0 := by omega
        rw [hsame, ih]
        constructor
        · rintro ⟨hzero | hreaches, hspan⟩
          · exact .inl (by omega)
          · exact .inr ⟨hreaches, hspan⟩
        · rintro (hzero | ⟨hreaches, hspan⟩)
          · exact ⟨.inl (by omega), by omega⟩
          · exact ⟨.inr hreaches, hspan⟩
      · -- the end is inside the step, so time passes that the track does not play out
        constructor
        · intro heq
          omega
        · rintro (hzero | ⟨-, hspan⟩)
          · omega
          · omega

/-! ### Who plays the end out -/

theorem foldl_max_eq_or_mem (counts : List Nat) (bound : Nat) :
    counts.foldl max bound = bound ∨ counts.foldl max bound ∈ counts := by
  induction counts generalizing bound with
  | nil => exact .inl rfl
  | cons count counts ih =>
    rw [List.foldl_cons]
    rcases ih (max bound count) with heq | hmem
    · rw [heq]
      rcases Nat.le_total bound count with hle | hle
      · rw [Nat.max_eq_right hle]
        exact .inr (List.mem_cons_self ..)
      · exact .inl (Nat.max_eq_left hle)
    · exact .inr (List.mem_cons_of_mem _ hmem)

/-- A phrase with beats is as long as one of its grids. -/
theorem exists_longest_grid {phrase : Phrase} (h : phrase.beatCount ≠ 0) :
    ∃ track beats, phrase.beats.get? track = some beats ∧ beats.length = phrase.beatCount := by
  have hmem := (foldl_max_eq_or_mem (phrase.beats.values.map List.length) 0).resolve_left h
  obtain ⟨beats, hbeats, hlength⟩ := List.mem_map.1 hmem
  obtain ⟨⟨track, beats⟩, hentry, rfl⟩ := List.mem_map.1 hbeats
  exact ⟨track, beats, NameTable.get?_eq_some_iff.2 hentry, hlength⟩

/-- The longest grid of a step that takes time plays it out. -/
theorem Step.exists_playsOut {step : Step} (h : step.span ≠ 0) :
    ∃ phrase, step.phrase? = some phrase ∧ ∃ track ∈ phrase.beats.names, step.PlaysOut track := by
  obtain ⟨name, phrase?⟩ := step
  cases phrase? with
  | none => exact absurd rfl h
  | some phrase =>
    have hcount : phrase.beatCount ≠ 0 := fun hzero => h (by
      show phrase.beatCount * _ = 0
      rw [hzero, Nat.zero_mul])
    obtain ⟨track, beats, hbeats, hlength⟩ := exists_longest_grid hcount
    have hentry := NameTable.get?_eq_some_iff.1 hbeats
    refine ⟨phrase, rfl, track, List.mem_map.2 ⟨_, hentry, rfl⟩, phrase, rfl, ?_⟩
    intro other hother
    rw [hbeats] at hother
    obtain rfl : beats = other := Option.some.inj hother
    refine ⟨fun hnil => hcount ?_, ?_⟩
    · rw [← hlength, hnil, List.length_nil]
    · rw [hlength]
      rfl

theorem exists_last_of_totalSpan {steps : List Step} (h : totalSpan steps ≠ 0) :
    ∃ before step after, steps = before ++ step :: after ∧ step.span ≠ 0 ∧ totalSpan after = 0 := by
  induction steps using List.reverseRecOn with
  | nil => exact absurd rfl h
  | append_singleton steps step ih =>
    by_cases hspan : step.span = 0
    · rw [totalSpan_append, hspan, Nat.add_zero] at h
      obtain ⟨before, last, after, rfl, hlast, hafter⟩ := ih h
      refine ⟨before, last, after ++ [step], by simp, hlast, ?_⟩
      rw [totalSpan_append, hafter, hspan]
    · exact ⟨steps, step, [], rfl, hspan, rfl⟩

theorem exists_reachesEnd {song : Song} (h : song.DeclaresGrids)
    (hspan : totalSpan (steps song) ≠ 0) :
    ∃ name ∈ song.samples.names, ReachesEnd name (steps song) := by
  obtain ⟨before, step, after, heq, hstep, hafter⟩ := exists_last_of_totalSpan hspan
  obtain ⟨phrase, hphrase, track, htrack, hplays⟩ := Step.exists_playsOut hstep
  have hmem : step ∈ steps song := by
    rw [heq]
    exact List.mem_append_right _ (List.mem_cons_self ..)
  obtain ⟨name, hname, rfl⟩ := List.mem_map.1 hmem
  exact ⟨track, h name hname phrase hphrase track htrack, before, _, after, heq, hplays, hafter⟩

/-! ### The longest track -/

theorem frames_trackOf (waves : NameTable Wave) (steps : List Step) (entry : String × Sample) :
    (trackOf waves steps entry).frames = finish entry.1 steps :=
  (Player.follows_steps entry.1 entry.2 _ steps).2.2

theorem longest_renderTracks (song : Song) (waves : NameTable Wave) (parallel : Bool) :
    Track.longest (renderTracks song waves parallel) =
      (song.samples.names.map fun name => finish name (steps song)).foldl max 0 := by
  rw [renderTracks_eq_map, Track.longest, List.map_map, NameTable.names, List.map_map]
  congr 1
  exact List.map_congr_left fun entry _ => frames_trackOf waves (steps song) entry

/-- How long the tracks are does not depend on what sounds on them. -/
theorem longest_eq_longest (song : Song) (waves others : NameTable Wave) (parallel other : Bool) :
    Track.longest (renderTracks song waves parallel) =
      Track.longest (renderTracks song others other) := by
  rw [longest_renderTracks, longest_renderTracks]

theorem longest_le_totalSpan (song : Song) (waves : NameTable Wave) (parallel : Bool) :
    Track.longest (renderTracks song waves parallel) ≤ totalSpan (steps song) := by
  rw [longest_renderTracks]
  rcases foldl_max_eq_or_mem (song.samples.names.map fun name => finish name (steps song)) 0 with
    hzero | hmem
  · rw [hzero]
    exact Nat.zero_le _
  · obtain ⟨name, -, hname⟩ := List.mem_map.1 hmem
    rw [← hname]
    exact finish_le_totalSpan name (steps song)

theorem longest_eq_totalSpan_iff (song : Song) (waves : NameTable Wave) (parallel : Bool) :
    Track.longest (renderTracks song waves parallel) = totalSpan (steps song) ↔
      totalSpan (steps song) = 0 ∨ ∃ name ∈ song.samples.names, ReachesEnd name (steps song) := by
  have hle := longest_le_totalSpan song waves parallel
  rw [longest_renderTracks] at hle ⊢
  constructor
  · intro heq
    rcases foldl_max_eq_or_mem (song.samples.names.map fun name => finish name (steps song)) 0 with
      hzero | hmem
    · exact .inl (heq.symm.trans hzero)
    · obtain ⟨name, hname, hfinish⟩ := List.mem_map.1 hmem
      have hend := (finish_eq_totalSpan_iff name (steps song)).1 (hfinish.trans heq)
      exact hend.imp_right fun hreaches => ⟨name, hname, hreaches⟩
  · rintro (hzero | ⟨name, hname, hreaches⟩)
    · omega
    · have hfinish := (finish_eq_totalSpan_iff name (steps song)).2 (.inr hreaches)
      refine Nat.le_antisymm hle (Player.le_foldl_max (.inr ?_))
      exact List.mem_map.2 ⟨name, hname, hfinish⟩

end Playback

/-! ### Mixes, reports and summaries -/

theorem Export.frames_of_renderSong {song : Song} {base : String} {options : RenderOptions}
    {tree next : Tree} {summary : RenderSummary}
    (h : (renderSong song base options : StateM Tree (Except RenderError RenderSummary)).run tree =
      (.ok summary, next)) :
    ∃ waves, summary.frames = Track.longest (Playback.renderTracks song waves options.parallel) := by
  obtain ⟨waves, -, -, -, hframes⟩ := exists_run_of_renderSong h
  exact ⟨waves, hframes⟩

namespace Playback

/-- What is rendered is never longer than the song, whatever is counted, and it is as long exactly if
the track of some sample plays the song out. It is if every grid that is played is that of a sample. -/
theorem longest_eq_totalSamples_iff (song : Song)
    (hspan : ∀ step ∈ steps song, step.span ≤ Tempo.maxSpan) (waves : NameTable Wave)
    (parallel : Bool) :
    let frames := Track.longest (renderTracks song waves parallel)
    frames ≤ song.totalSamples ∧
    (frames = song.totalSamples ↔
      song.totalSamples = 0 ∨ ∃ name ∈ song.samples.names, ReachesEnd name (steps song)) ∧
    (song.DeclaresGrids → frames = song.totalSamples) ∧
    (Mixdown.unified (renderTracks song waves parallel)).frames = frames ∧
    (Report.ofSong song waves).frames = frames ∧
    ∀ base options (tree next : Tree) (summary : RenderSummary),
      (Export.renderSong song base options :
        StateM Tree (Except RenderError RenderSummary)).run tree = (.ok summary, next) →
      summary.frames = frames := by
  intro frames
  have htotal := totalSpan_steps hspan
  have hiff := longest_eq_totalSpan_iff song waves parallel
  rw [htotal] at hiff
  refine ⟨?_, hiff, fun hdeclares => ?_, Mixdown.frames_unified _, ?_, ?_⟩
  · rw [← htotal]
    exact longest_le_totalSpan song waves parallel
  · apply hiff.2
    by_cases hzero : song.totalSamples = 0
    · exact .inl hzero
    · rw [← htotal] at hzero
      exact .inr (exists_reachesEnd hdeclares hzero)
  · show (Mixdown.unified (renderTracks song waves false)).frames = frames
    rw [Mixdown.frames_unified]
    exact longest_eq_longest song waves waves false parallel
  · intro base options tree next summary hrun
    obtain ⟨loaded, hframes⟩ := Export.frames_of_renderSong hrun
    rw [hframes]
    exact longest_eq_longest song loaded waves options.parallel parallel

/-- A sample with a grid of full length plays the end of a song out. -/
theorem longest_of_full_grid :
    let grids := NameTable.ofList [("ghost", [Beat.rest]), ("k", [.full, .rest])]
    let song : Song :=
      { samples := (∅ : NameTable Sample).insert "k" { path := "k.wav", volume := 100 }
        phrases := (∅ : NameTable Phrase).insert "A" { bpm := 2646000, beats := grids }
        output := ["A", "Z"] }
    (∀ step ∈ steps song, step.span ≤ Tempo.maxSpan) ∧ song.totalSamples = 2 ∧
      Track.longest (renderTracks song ∅ true) = song.totalSamples ∧
      (Report.ofSong song ∅).frames = song.totalSamples := by
  intro grids song
  have hspan : ∀ step ∈ steps song, step.span ≤ Tempo.maxSpan := by decide
  have hplays : Step.PlaysOut "k" ⟨"A", song.phrases.get? "A"⟩ := by
    refine ⟨⟨2646000, grids⟩, by decide, fun beats hbeats => ?_⟩
    have hgrid : grids.get? "k" = some [.full, .rest] := by decide
    obtain rfl : [Beat.full, .rest] = beats := Option.some.inj (hgrid.symm.trans hbeats)
    exact ⟨by decide, by decide⟩
  obtain ⟨-, hiff, -, -, hreport, -⟩ := longest_eq_totalSamples_iff song hspan ∅ true
  have hframes := hiff.2 (.inr ⟨"k", by decide, [], _, [⟨"Z", none⟩], rfl, hplays, rfl⟩)
  exact ⟨hspan, by decide, hframes, hreport.trans hframes⟩

/-- If only a track that is no sample's has a grid of full length, the end of it is not rendered. -/
theorem longest_lt_of_undeclared_grid :
    let grids := NameTable.ofList [("ghost", [Beat.rest, .rest]), ("k", [.full])]
    let song : Song :=
      { samples := (∅ : NameTable Sample).insert "k" { path := "k.wav", volume := 100 }
        phrases := (∅ : NameTable Phrase).insert "A" { bpm := 2646000, beats := grids }
        output := ["A"] }
    song.samples.names ≠ [] ∧ song.totalSamples = 2 ∧
      Track.longest (renderTracks song ∅ false) = 1 := by
  decide

end Playback

end DrumMachine
