import DrumMachine.Proofs.Playback.EmptySteps

/-!
# Tracks keep together

Wherever its grids end, a track's cursor is at the end of a phrase when the phrase is over, and that
is where the song's own account of its length puts it. In between, a track writes each place of its
channels at most once, and only places within the phrase that it is playing.
-/

namespace DrumMachine

/-- The song that ends after a number of steps. -/
def Song.upTo (song : Song) (count : Nat) : Song := { song with output := song.output.take count }

namespace Playback

/-! ### Spans of steps and of names -/

theorem spanOf_eq_min (song : Song) (name : String) :
    song.spanOf name = min (Step.span ⟨name, song.phrases.get? name⟩) Tempo.maxSpan := by
  rw [Song.spanOf]
  cases song.phrases.get? name with
  | none => exact (Nat.zero_min _).symm
  | some phrase => rfl

/-- Steps and names agree on a song's length if no phrase is longer than can be told. -/
theorem totalSpan_steps {song : Song} (h : ∀ step ∈ steps song, step.span ≤ Tempo.maxSpan) :
    totalSpan (steps song) = song.totalSamples := by
  obtain ⟨samples, phrases, output⟩ := song
  induction output with
  | nil => rfl
  | cons name output ih =>
    have hname := spanOf_eq_min ⟨samples, phrases, name :: output⟩ name
    rw [Nat.min_eq_left (h _ (List.mem_cons_self ..))] at hname
    have hrest := ih fun step hstep => h step (List.mem_cons_of_mem _ hstep)
    show Step.span ⟨name, phrases.get? name⟩ + totalSpan (steps ⟨samples, phrases, output⟩) =
      Song.spanOf ⟨samples, phrases, name :: output⟩ name +
        Song.totalSamples ⟨samples, phrases, output⟩
    rw [hname, hrest]

theorem steps_upTo (song : Song) (count : Nat) :
    steps (song.upTo count) = (steps song).take count :=
  List.map_take

/-! ### The places of a timeline -/

/-- The slots of events, each as a place in the left and in the right channel. -/
def places (events : List Event) : List (Nat × Nat) :=
  (events.filterMap Event.time?).map fun time => (time, time)

theorem places_append (events more : List Event) :
    places (events ++ more) = places events ++ places more := by
  rw [places, List.filterMap_append, List.map_append]
  rfl

theorem places_eq_map_voices (events : List Event) :
    places events = (voices events).map fun slot => (slot.1, slot.1) := by
  rw [places, ← map_fst_voices, List.map_map]
  rfl

theorem mem_places {place : Nat × Nat} {events : List Event} (h : place ∈ places events) :
    place.1 = place.2 ∧ .slot place.1 ∈ events := by
  obtain ⟨time, htime, rfl⟩ := List.mem_map.1 h
  obtain ⟨event, hevent, htime⟩ := List.mem_filterMap.1 htime
  cases event with
  | strike beat => exact absurd htime (by simp [Event.time?])
  | slot other =>
    obtain rfl : other = time := Option.some.inj htime
    exact ⟨rfl, hevent⟩

theorem Run.slot_mem_events {run : Run} {time : Nat} (h : .slot time ∈ run.events) :
    run.start ≤ time ∧ time < run.finish := by
  rw [Run.events, List.mem_append] at h
  rcases h with h | h
  · obtain ⟨strike, -, heq⟩ := Option.map_eq_some_iff.1 (Option.mem_toList.1 h)
    exact absurd heq (by simp)
  · obtain ⟨other, hother, heq⟩ := List.mem_map.1 h
    obtain rfl : other = time := Event.slot.inj heq
    have ⟨hstart, hfinish⟩ := List.mem_range'_1.1 hother
    exact ⟨hstart, hfinish⟩

theorem mem_beatRuns {length start : Nat} {beats : List Beat} {run : Run}
    (h : run ∈ beatRuns length start beats) :
    start ≤ run.start ∧ run.finish ≤ start + beats.length * length := by
  obtain ⟨index, hindex, rfl⟩ := List.mem_mapIdx.1 h
  have hle : (index + 1) * length ≤ beats.length * length := Nat.mul_le_mul_right length hindex
  rw [Nat.add_mul, Nat.one_mul] at hle
  refine ⟨Nat.le_add_right _ _, ?_⟩
  show start + index * length + length ≤ start + beats.length * length
  omega

/-- The runs of a step do not leave the step's span. -/
theorem Step.mem_runs {track : String} {start : Nat} {step : Step} {run : Run}
    (h : run ∈ step.runs track start) : start ≤ run.start ∧ run.finish ≤ start + step.span := by
  obtain ⟨name, phrase?⟩ := step
  cases phrase? with
  | none => exact absurd h List.not_mem_nil
  | some phrase =>
    cases hgrid : phrase.beats.get? track with
    | none =>
      rw [Step.runs_of_no_grid hgrid, List.mem_singleton] at h
      subst h
      exact ⟨Nat.le_refl _, Nat.le_refl _⟩
    | some beats =>
      rw [Step.runs_of_grid hgrid] at h
      have ⟨hstart, hfinish⟩ := mem_beatRuns h
      have hspan := Player.grid_le_span hgrid name
      exact ⟨hstart, by omega⟩

theorem mem_places_runs {track : String} {start : Nat} {step : Step} {place : Nat × Nat}
    (h : place ∈ places ((step.runs track start).flatMap Run.events)) :
    place.1 = place.2 ∧ start ≤ place.1 ∧ place.1 < start + step.span := by
  obtain ⟨hsame, hslot⟩ := mem_places h
  obtain ⟨run, hrun, hevent⟩ := List.mem_flatMap.1 hslot
  have ⟨hstart, hfinish⟩ := Run.slot_mem_events hevent
  have ⟨hfirst, hlast⟩ := Step.mem_runs hrun
  exact ⟨hsame, by omega, by omega⟩

/-! ### Players whose writes are recorded -/

/-- A player with the places that its ticks have written to, in the left and in the right channel.
A tick writes where the channels end; the silence that fills a gap before it is not recorded. -/
structure Recorder where
  player : Player
  written : List (Nat × Nat) := []

namespace Recorder

def tick (recorder : Recorder) : Recorder where
  player := recorder.player.tick
  written := recorder.written ++ [(recorder.player.left.size, recorder.player.right.size)]

def tickMany : Nat → Recorder → Recorder
  | 0, recorder => recorder
  | count + 1, recorder => tickMany count recorder.tick

def pad (recorder : Recorder) : Recorder := { recorder with player := recorder.player.pad }

def strike (recorder : Recorder) (beat : Beat) : Recorder :=
  { recorder with player := recorder.player.strike beat }

def emit (recorder : Recorder) (count : Nat) : Recorder := tickMany count recorder.pad

def playBeat (length : Nat) (recorder : Recorder) (beat : Beat) : Recorder :=
  (recorder.strike beat).emit length

def play (track : String) (recorder : Recorder) (step : Step) : Recorder :=
  match step.phrase? with
  | none => recorder
  | some phrase =>
    let finish := recorder.player.cursor + step.span
    let played :=
      match phrase.beats.get? track with
      | none => recorder.emit step.span
      | some beats => beats.foldl (playBeat step.samplesPerBeat) recorder
    { played with player := { played.player with cursor := finish } }

/-- The steps played for one sample of a song. -/
def run (waves : NameTable Wave) (entry : String × Sample) (steps : List Step) : Recorder :=
  steps.foldl (play entry.1) ⟨.start entry.2 ((waves.get? entry.1).getD #[]), []⟩

/-! ### Recording does not change what is played -/

theorem player_tickMany (count : Nat) (recorder : Recorder) :
    (tickMany count recorder).player = recorder.player.tickMany count := by
  induction count generalizing recorder with
  | zero => rfl
  | succ count ih => exact ih recorder.tick

theorem player_emit (recorder : Recorder) (count : Nat) :
    (recorder.emit count).player = recorder.player.emit count :=
  player_tickMany count _

theorem player_playBeat (length : Nat) (recorder : Recorder) (beat : Beat) :
    (recorder.playBeat length beat).player = recorder.player.playBeat length beat :=
  player_emit (recorder.strike beat) length

theorem player_playBeats (length : Nat) (beats : List Beat) (recorder : Recorder) :
    (beats.foldl (playBeat length) recorder).player =
      beats.foldl (Player.playBeat length) recorder.player := by
  induction beats generalizing recorder with
  | nil => rfl
  | cons beat beats ih =>
    rw [List.foldl_cons, List.foldl_cons, ih, player_playBeat]

theorem player_play (track : String) (recorder : Recorder) (step : Step) :
    (recorder.play track step).player = recorder.player.play track step := by
  obtain ⟨name, phrase?⟩ := step
  cases phrase? with
  | none => rfl
  | some phrase =>
    cases hgrid : phrase.beats.get? track with
    | none =>
      rw [Player.play_of_no_grid hgrid, play]
      simp only [hgrid, player_emit]
    | some beats =>
      rw [Player.play_of_grid hgrid, play]
      simp only [hgrid, player_playBeats]

theorem run_append (waves : NameTable Wave) (entry : String × Sample) (steps : List Step)
    (step : Step) :
    run waves entry (steps ++ [step]) = (run waves entry steps).play entry.1 step :=
  List.foldl_append ..

theorem player_run (waves : NameTable Wave) (entry : String × Sample) (steps : List Step) :
    (run waves entry steps).player =
      steps.foldl (Player.play entry.1) (.start entry.2 ((waves.get? entry.1).getD #[])) := by
  induction steps using List.reverseRecOn with
  | nil => rfl
  | append_singleton steps step ih =>
    rw [run_append, player_play, ih, List.foldl_append]
    rfl

theorem toTrack_run (waves : NameTable Wave) (entry : String × Sample) (steps : List Step) :
    (run waves entry steps).player.toTrack entry.1 = trackOf waves steps entry := by
  rw [player_run]
  rfl

/-! ### What is recorded -/

variable {sample : Sample} {wave : Wave} {events : List Event} {recorder : Recorder}

theorem written_tickMany (h : recorder.player.Follows sample wave events) (count : Nat)
    (hfull : recorder.player.left.size = recorder.player.cursor) :
    (tickMany count recorder).written = recorder.written ++
      places ((List.range' recorder.player.cursor count).map .slot) := by
  induction count generalizing recorder events with
  | zero => exact (List.append_nil _).symm
  | succ count ih =>
    have hcursor := Player.cursor_tick recorder.player
    have htick : recorder.tick.player.Follows sample wave
        (events ++ [.slot recorder.player.cursor]) := h.tick hfull
    have hnext := ih htick (by rw [tick, Player.size_tick, hcursor, hfull])
    rw [tickMany, hnext, tick, hcursor, h.right_eq, hfull, List.range'_succ, List.append_assoc]
    rfl

theorem written_emit (h : recorder.player.Follows sample wave events) (count : Nat) :
    (recorder.emit count).written = recorder.written ++
      places ((List.range' recorder.player.cursor count).map .slot) := by
  have hpad : recorder.pad.player.Follows sample wave events := h.pad
  exact written_tickMany hpad count (Player.size_pad h.left_le)

theorem written_playBeat (h : recorder.player.Follows sample wave events) (beat : Beat)
    (length : Nat) :
    (recorder.playBeat length beat).written = recorder.written ++
      places (Run.events ⟨some beat, recorder.player.cursor, length⟩) := by
  have hstrike : (recorder.strike beat).player.Follows sample wave (events ++ [.strike beat]) :=
    h.strike beat
  have hemit := written_emit hstrike length
  rw [strike, Player.cursor_strike] at hemit
  exact hemit

theorem written_playBeats (h : recorder.player.Follows sample wave events) (length : Nat)
    (beats : List Beat) :
    (beats.foldl (playBeat length) recorder).written = recorder.written ++
      places ((beatRuns length recorder.player.cursor beats).flatMap Run.events) := by
  induction beats generalizing recorder events with
  | nil => exact (List.append_nil _).symm
  | cons beat beats ih =>
    have hbeat := h.playBeat beat length
    rw [← player_playBeat] at hbeat
    rw [List.foldl_cons, ih hbeat.follows, written_playBeat h, hbeat.cursor_eq, beatRuns_cons,
      List.flatMap_cons, places_append, List.append_assoc]

/-- A step writes at the slots of its runs. -/
theorem written_play (h : recorder.player.Follows sample wave events) (track : String)
    (step : Step) :
    (recorder.play track step).written = recorder.written ++
      places ((step.runs track recorder.player.cursor).flatMap Run.events) := by
  obtain ⟨name, phrase?⟩ := step
  cases phrase? with
  | none => exact (List.append_nil _).symm
  | some phrase =>
    cases hgrid : phrase.beats.get? track with
    | none =>
      rw [Step.runs_of_no_grid hgrid, play]
      simp only [hgrid, List.flatMap_singleton]
      exact written_emit h _
    | some beats =>
      rw [Step.runs_of_grid hgrid, play]
      simp only [hgrid]
      exact written_playBeats h _ beats

theorem follows_run (waves : NameTable Wave) (entry : String × Sample) (steps : List Step) :
    let recorder := run waves entry steps
    recorder.player.Follows entry.2 ((waves.get? entry.1).getD #[]) (Playback.events entry.1 steps) ∧
      recorder.player.cursor = totalSpan steps ∧
      recorder.written = places (Playback.events entry.1 steps) := by
  have hfollows := Player.follows_steps entry.1 entry.2 ((waves.get? entry.1).getD #[])
  simp only [player_run]
  refine ⟨(hfollows steps).1, (hfollows steps).2.1, ?_⟩
  induction steps using List.reverseRecOn with
  | nil => rfl
  | append_singleton steps step ih =>
    have hbefore := hfollows steps
    rw [← player_run] at hbefore
    rw [run_append, written_play hbefore.1, ih, hbefore.2.1, events_append, places_append]

/-- Nothing is heard where nothing was written. -/
theorem silent_of_not_written (waves : NameTable Wave) (entry : String × Sample)
    (steps : List Step) (time : Nat) (h : (time, time) ∉ (run waves entry steps).written) :
    (run waves entry steps).player.frameAt time = .silence := by
  obtain ⟨hfollows, -, hwritten⟩ := follows_run waves entry steps
  refine hfollows.silent time fun tone htone heq => h ?_
  obtain ⟨slot, hslot, htime⟩ := Player.mem_voices_of_mem_tones htone
  rw [hwritten, places_eq_map_voices]
  exact List.mem_map.2 ⟨slot, hslot, by rw [htime, heq]⟩

theorem nodup_written (waves : NameTable Wave) (entry : String × Sample) (steps : List Step) :
    ((run waves entry steps).written.map Prod.fst).Nodup := by
  obtain ⟨hfollows, -, hwritten⟩ := follows_run waves entry steps
  rw [hwritten, places_eq_map_voices, List.map_map]
  exact (List.pairwise_map.2 hfollows.increasing).imp fun hlt => Nat.ne_of_lt hlt

theorem lt_size_of_mem_written {waves : NameTable Wave} {entry : String × Sample}
    {steps : List Step} {place : Nat × Nat} (h : place ∈ (run waves entry steps).written) :
    place.1 < (run waves entry steps).player.left.size := by
  obtain ⟨hfollows, -, hwritten⟩ := follows_run waves entry steps
  rw [hwritten, places_eq_map_voices] at h
  obtain ⟨slot, hslot, rfl⟩ := List.mem_map.1 h
  exact hfollows.slot_lt slot hslot

/-- One step more writes only within its own span. -/
theorem exists_written_run_append (waves : NameTable Wave) (entry : String × Sample)
    (steps : List Step) (step : Step) :
    let before := run waves entry steps
    let after := run waves entry (steps ++ [step])
    ∃ fresh, after.written = before.written ++ fresh ∧
      ∀ place ∈ fresh, place.1 = place.2 ∧ before.player.cursor ≤ place.1 ∧
        place.1 < after.player.cursor := by
  obtain ⟨hfollows, hcursor, -⟩ := follows_run waves entry steps
  obtain ⟨-, hend, -⟩ := follows_run waves entry (steps ++ [step])
  have hwritten := written_play hfollows entry.1 step
  rw [← run_append] at hwritten
  refine ⟨_, hwritten, fun place hplace => ?_⟩
  rw [hend, hcursor, totalSpan_append]
  rw [hcursor] at hplace
  exact mem_places_runs hplace

/-- After any number of steps every track's cursor is where the song that ends there would end. The
next step writes each place once, in both channels alike, at places that no step wrote before and
that lie within its phrase. -/
theorem run_take_aligned (song : Song) (waves : NameTable Wave) (count : Nat)
    (hspan : ∀ step ∈ (steps song).take count, step.span ≤ Tempo.maxSpan) :
    (∀ parallel, renderTracks song waves parallel =
      song.samples.entries.map fun entry =>
        (run waves entry (steps song)).player.toTrack entry.1) ∧
    (song.upTo count).totalSamples =
      ((song.output.take count).map song.spanOf).foldr (· + ·) 0 ∧
    ∀ entry : String × Sample,
      let before := run waves entry ((steps song).take count)
      let after := run waves entry ((steps song).take (count + 1))
      before.player = ((steps song).take count).foldl (Player.play entry.1)
        (.start entry.2 ((waves.get? entry.1).getD #[])) ∧
      before.player.cursor = (song.upTo count).totalSamples ∧
      before.player.right.size = before.player.left.size ∧
      before.player.left.size ≤ before.player.cursor ∧
      (∃ fresh, after.written = before.written ++ fresh ∧
        ∀ place ∈ fresh, place.1 = place.2 ∧ before.player.cursor ≤ place.1 ∧
          place.1 < after.player.cursor ∧ place.1 < after.player.left.size) ∧
      (after.written.map Prod.fst).Nodup ∧
      ∀ time, (time, time) ∉ after.written → after.player.frameAt time = .silence := by
  refine ⟨fun parallel => ?_, rfl, fun entry => ?_⟩
  · rw [renderTracks_eq_map]
    exact List.map_congr_left fun entry _ => (toTrack_run waves entry (steps song)).symm
  · obtain ⟨hfollows, hcursor, -⟩ := follows_run waves entry ((steps song).take count)
    have htotal : totalSpan ((steps song).take count) = (song.upTo count).totalSamples := by
      rw [← steps_upTo] at hspan ⊢
      exact totalSpan_steps hspan
    refine ⟨player_run waves entry _, hcursor.trans htotal, hfollows.right_eq, hfollows.left_le, ?_,
      nodup_written waves entry _, silent_of_not_written waves entry _⟩
    cases hstep : (steps song)[count]? with
    | none =>
      -- the song is over, and nothing more is written
      refine ⟨[], ?_, fun place hplace => absurd hplace List.not_mem_nil⟩
      rw [List.take_add_one, hstep, Option.toList_none, List.append_nil, List.append_nil]
    | some step =>
      rw [List.take_add_one, hstep, Option.toList_some]
      obtain ⟨fresh, hwritten, hfresh⟩ :=
        exists_written_run_append waves entry ((steps song).take count) step
      refine ⟨fresh, hwritten, fun place hplace => ?_⟩
      obtain ⟨hsame, hstart, hfinish⟩ := hfresh place hplace
      refine ⟨hsame, hstart, hfinish, lt_size_of_mem_written ?_⟩
      rw [hwritten]
      exact List.mem_append_right _ hplace

/-- A track whose grid is shorter than its phrase jumps to where the phrase ends. -/
theorem run_take_short_grid :
    let grids := NameTable.ofList [("h", [Beat.full, .rest, .rest]), ("k", [.full])]
    let sample : Sample := { path := "k.wav", volume := 100 }
    let song : Song :=
      { samples := (∅ : NameTable Sample).insert "k" sample
        phrases := (∅ : NameTable Phrase).insert "A" { bpm := 2646000, beats := grids }
        output := ["A", "A"] }
    let before := run ∅ ("k", sample) ((steps song).take 1)
    let after := run ∅ ("k", sample) ((steps song).take 2)
    (∀ step ∈ (steps song).take 1, step.span ≤ Tempo.maxSpan) ∧
      before.player.cursor = (song.upTo 1).totalSamples ∧ (song.upTo 1).totalSamples = 3 ∧
      before.written = [(0, 0)] ∧ after.written = [(0, 0), (3, 3)] ∧
      (after.written.map Prod.fst).Nodup := by
  intro grids sample song before after
  have hspan : ∀ step ∈ (steps song).take 1, step.span ≤ Tempo.maxSpan := by decide
  obtain ⟨-, -, haligned⟩ := run_take_aligned song ∅ 1 hspan
  obtain ⟨-, hcursor, -, -, -, hnodup, -⟩ := haligned ("k", sample)
  exact ⟨hspan, hcursor, by decide, by decide, by decide, hnodup⟩

end Recorder

end Playback

end DrumMachine
