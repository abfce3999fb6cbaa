import DrumMachine.Proofs.Playback.Length

/-!
# Phrases joined into one

A phrase whose grids all end where it ends can be joined with the one after it: the joined phrase
plays every track as the two do (`play_followedBy`), so nothing can be heard of the place where a
phrase ends. What is playing there, its effect and the silence left by short grids before it are all
carried across.
-/

namespace DrumMachine

/-- The phrase that plays one phrase and then another of the same tempo: on every track the grids
follow one another. -/
def Phrase.followedBy (first second : Phrase) : Phrase where
  bpm := first.bpm
  beats := first.beats.map fun track grid => grid ++ (second.beats.get? track).getD []

/-- The song with a joined phrase under a name, and an order of play. -/
def Song.withJoined (song : Song) (name : String) (first second : Phrase) (output : List String) :
    Song :=
  { song with phrases := song.phrases.insert name (first.followedBy second), output := output }

/-- All grids are as long as the phrase. -/
def Phrase.IsFull (phrase : Phrase) : Prop :=
  ∀ grid ∈ phrase.beats.values, grid.length = phrase.beatCount

/-- The phrases have grids for the same tracks. -/
def Phrase.SameTracks (first second : Phrase) : Prop := first.beats.names = second.beats.names

namespace Playback

variable {first second : Phrase} {track : String}

/-! ### The grids of a joined phrase -/

theorem get?_followedBy_of_none (h : first.beats.get? track = none) :
    (first.followedBy second).beats.get? track = none := by
  rw [Phrase.followedBy, NameTable.get?_map, h, Option.map_none]

theorem get?_followedBy_of_some {grid more : List Beat} (h : first.beats.get? track = some grid)
    (hmore : second.beats.get? track = some more) :
    (first.followedBy second).beats.get? track = some (grid ++ more) := by
  rw [Phrase.followedBy, NameTable.get?_map, h, hmore, Option.map_some, Option.getD_some]

/-- A track has a grid in both phrases or in none. -/
theorem grids_of_sameTracks (h : first.SameTracks second) (track : String) :
    (first.beats.get? track = none ∧ second.beats.get? track = none) ∨
      ∃ grid more, first.beats.get? track = some grid ∧ second.beats.get? track = some more := by
  have htrack : track ∈ first.beats.names ↔ track ∈ second.beats.names := by rw [h]
  rw [NameTable.mem_names_iff, NameTable.mem_names_iff] at htrack
  cases hfirst : first.beats.get? track with
  | none =>
    cases hsecond : second.beats.get? track with
    | none => exact .inl ⟨rfl, rfl⟩
    | some more =>
      obtain ⟨grid, hgrid⟩ := htrack.2 ⟨more, hsecond⟩
      exact absurd (hfirst.symm.trans hgrid) (by simp)
  | some grid =>
    obtain ⟨more, hmore⟩ := htrack.1 ⟨grid, hfirst⟩
    exact .inr ⟨grid, more, rfl, hmore⟩

theorem length_of_isFull (h : first.IsFull) {grid : List Beat}
    (hgrid : first.beats.get? track = some grid) : grid.length = first.beatCount :=
  h grid (List.mem_map.2 ⟨(track, grid), NameTable.get?_eq_some_iff.1 hgrid, rfl⟩)

theorem add_length_le_beatCount (htracks : first.SameTracks second) (hfull : first.IsFull)
    {grid : List Beat} (hgrid : first.beats.get? track = some grid) :
    first.beatCount + ((second.beats.get? track).getD []).length ≤
      (first.followedBy second).beatCount := by
  rcases grids_of_sameTracks htracks track with ⟨hnone, -⟩ | ⟨other, more, hother, hsecond⟩
  · rw [hnone] at hgrid
    exact absurd hgrid (by simp)
  · have hle := Player.length_le_beatCount (get?_followedBy_of_some hother hsecond)
    rw [List.length_append, length_of_isFull hfull hother] at hle
    rw [hsecond, Option.getD_some]
    exact hle

theorem beatCount_followedBy (htracks : first.SameTracks second) (hfull : first.IsFull) :
    (first.followedBy second).beatCount = first.beatCount + second.beatCount := by
  apply Nat.le_antisymm
  · by_cases hcount : (first.followedBy second).beatCount = 0
    · omega
    · obtain ⟨track, beats, hbeats, hlength⟩ := exists_longest_grid hcount
      rcases grids_of_sameTracks htracks track with ⟨hfirst, -⟩ | ⟨grid, more, hfirst, hsecond⟩
      · rw [get?_followedBy_of_none hfirst] at hbeats
        exact absurd hbeats (by simp)
      · rw [get?_followedBy_of_some hfirst hsecond] at hbeats
        obtain rfl : grid ++ more = beats := Option.some.inj hbeats
        have hgrid := Player.length_le_beatCount hfirst
        have hmore := Player.length_le_beatCount hsecond
        rw [List.length_append] at hlength
        omega
  · by_cases hmore : second.beatCount = 0
    · by_cases hcount : first.beatCount = 0
      · omega
      · obtain ⟨track, grid, hgrid, -⟩ := exists_longest_grid hcount
        have hle := add_length_le_beatCount htracks hfull hgrid
        omega
    · -- the longest grid of the second phrase comes after a full one of the first
      obtain ⟨track, more, hsecond, hlength⟩ := exists_longest_grid hmore
      rcases grids_of_sameTracks htracks track with ⟨-, hnone⟩ | ⟨grid, other, hfirst, hother⟩
      · rw [hnone] at hsecond
        exact absurd hsecond (by simp)
      · obtain rfl : other = more := Option.some.inj (hother.symm.trans hsecond)
        have hle := add_length_le_beatCount htracks hfull hfirst
        rw [hother, Option.getD_some] at hle
        omega

theorem span_followedBy (hbpm : first.bpm = second.bpm) (htracks : first.SameTracks second)
    (hfull : first.IsFull) (name a b : String) :
    Step.span ⟨name, some (first.followedBy second)⟩ =
      Step.span ⟨a, some first⟩ + Step.span ⟨b, some second⟩ := by
  show (first.followedBy second).beatCount * Tempo.samplesPerBeat first.bpm =
    first.beatCount * Tempo.samplesPerBeat first.bpm +
      second.beatCount * Tempo.samplesPerBeat second.bpm
  rw [beatCount_followedBy htracks hfull, Nat.add_mul, hbpm]

/-! ### Slots in a row -/

namespace Player

variable {sample : Sample} {wave : Wave} {events : List Event} {player : Player}

theorem tickMany_add (count more : Nat) (player : Player) :
    tickMany (count + more) player = tickMany more (tickMany count player) := by
  induction count generalizing player with
  | zero => rw [Nat.zero_add, tickMany]
  | succ count ih => rw [Nat.succ_add, tickMany, tickMany, ih]

/-- Channels that reach to the cursor need no silence. -/
theorem pad_eq_self (hleft : player.left.size = player.cursor)
    (hright : player.right.size = player.cursor) : player.pad = player := by
  obtain ⟨tune, scale, effect, position, gain, cursor, left, right⟩ := player
  obtain rfl : left.size = cursor := hleft
  have hright : right.size = left.size := hright
  simp [pad, hright]

/-- Slots emitted in two runs are the same as in one. -/
theorem Follows.emit_emit (h : player.Follows sample wave events) (count more : Nat) :
    (player.emit count).emit more = player.emit (count + more) := by
  have hemit := h.emit count
  have hleft : (player.emit count).left.size = (player.emit count).cursor :=
    hemit.size_eq.trans hemit.cursor_eq.symm
  have hright : (player.emit count).right.size = (player.emit count).cursor :=
    hemit.follows.right_eq.trans hleft
  rw [Player.emit, pad_eq_self hleft hright, Player.emit, Player.emit, tickMany_add]

theorem moveTo_cursor {time : Nat} (h : player.cursor = time) :
    { player with cursor := time } = player := by
  subst h
  rfl

/-- The joined phrase is played as the two phrases one after the other. -/
theorem Follows.play_followedBy (h : player.Follows sample wave events)
    (hbpm : first.bpm = second.bpm) (htracks : first.SameTracks second) (hfull : first.IsFull)
    (name a b : String) :
    player.play track ⟨name, some (first.followedBy second)⟩ =
      (player.play track ⟨a, some first⟩).play track ⟨b, some second⟩ := by
  have hspan := span_followedBy hbpm htracks hfull name a b
  rcases grids_of_sameTracks htracks track with ⟨hfirst, hsecond⟩ | ⟨grid, more, hfirst, hsecond⟩
  · have hemit := h.emit (Step.span ⟨a, some first⟩)
    have hplayed : player.play track ⟨a, some first⟩ = player.emit (Step.span ⟨a, some first⟩) := by
      rw [play_of_no_grid hfirst]
      exact moveTo_cursor hemit.cursor_eq
    rw [play_of_no_grid (get?_followedBy_of_none hfirst), hplayed, play_of_no_grid hsecond,
      h.emit_emit, hemit.cursor_eq, hspan, Nat.add_assoc]
  · -- a full grid ends at the end of its phrase, so there is no gap to jump over
    have hlength : grid.length * Step.samplesPerBeat ⟨a, some first⟩ = Step.span ⟨a, some first⟩ := by
      rw [length_of_isFull hfull hfirst]
      rfl
    have hplayed : player.play track ⟨a, some first⟩ =
        grid.foldl (Player.playBeat (Step.samplesPerBeat ⟨a, some first⟩)) player := by
      rw [play_of_grid hfirst]
      apply moveTo_cursor
      rw [(h.playBeats _ grid).2.1, hlength]
    have hcursor : (player.play track ⟨a, some first⟩).cursor =
        player.cursor + Step.span ⟨a, some first⟩ := (h.play track ⟨a, some first⟩).2.1
    have hbeat : Step.samplesPerBeat ⟨b, some second⟩ = Step.samplesPerBeat ⟨a, some first⟩ :=
      congrArg Tempo.samplesPerBeat hbpm.symm
    rw [play_of_grid (get?_followedBy_of_some hfirst hsecond), play_of_grid hsecond, hcursor, hspan,
      hplayed, hbeat, Nat.add_assoc, List.foldl_append]
    rfl

end Player

/-! ### Songs -/

/-- Away from the joined phrase's name the song's steps are what they were. -/
theorem map_steps_insert {song : Song} {name : String} {phrase : Phrase} {output : List String}
    (h : name ∉ output) :
    output.map (fun other => (⟨other, (song.phrases.insert name phrase).get? other⟩ : Step)) =
      output.map fun other => ⟨other, song.phrases.get? other⟩ := by
  apply List.map_congr_left
  intro other hother
  have hne : other ≠ name := fun heq => h (heq ▸ hother)
  rw [NameTable.get?_insert_of_ne song.phrases phrase hne]

theorem steps_withJoined {song : Song} {name : String} {before after : List String}
    (hbefore : name ∉ before) (hafter : name ∉ after) :
    steps (song.withJoined name first second (before ++ name :: after)) =
      before.map (fun other => ⟨other, song.phrases.get? other⟩) ++
        ⟨name, some (first.followedBy second)⟩ ::
          after.map fun other => ⟨other, song.phrases.get? other⟩ := by
  rw [steps, Song.withJoined, List.map_append, List.map_cons, NameTable.get?_insert_self,
    map_steps_insert hbefore, map_steps_insert hafter]

/-- Two phrases that follow each other in the order of play can be joined into one, if they have the
same tempo and the same tracks and every grid of the first one is full: whatever the samples, their
effects and their waves are, every track stays the same, sample by sample. -/
theorem renderTracks_withJoined {song : Song} {a b name : String} {first second : Phrase}
    {before after : List String} (houtput : song.output = before ++ a :: b :: after)
    (hfirst : song.phrases.get? a = some first) (hsecond : song.phrases.get? b = some second)
    (hbpm : first.bpm = second.bpm) (htracks : first.SameTracks second) (hfull : first.IsFull)
    (hbefore : name ∉ before) (hafter : name ∉ after) (waves : NameTable Wave) (parallel : Bool) :
    renderTracks (song.withJoined name first second (before ++ name :: after)) waves parallel =
      renderTracks song waves parallel := by
  have hsteps : steps song = before.map (fun other => ⟨other, song.phrases.get? other⟩) ++
      ⟨a, some first⟩ :: ⟨b, some second⟩ ::
        after.map fun other => ⟨other, song.phrases.get? other⟩ := by
    rw [steps, houtput, List.map_append, List.map_cons, List.map_cons, hfirst, hsecond]
  rw [renderTracks_eq_map, renderTracks_eq_map, steps_withJoined hbefore hafter, hsteps]
  apply List.map_congr_left
  intro entry _
  have hfollows := (Player.follows_steps entry.1 entry.2 ((waves.get? entry.1).getD #[])
    (before.map fun other => ⟨other, song.phrases.get? other⟩)).1
  rw [trackOf, trackOf, renderTrack, renderTrack, List.foldl_append, List.foldl_append,
    List.foldl_cons, List.foldl_cons, List.foldl_cons,
    hfollows.play_followedBy hbpm htracks hfull name a b]

/-- A full phrase and a ragged one, with a track that jumps, one that is cut off, and one that has no
grid in them and plays on. -/
theorem renderTracks_withJoined_ragged :
    let grids (k h : List Beat) := NameTable.ofList [("h", h), ("k", k)]
    let first : Phrase := { bpm := 1323000, beats := grids [.full, .rest] [.half, .stop] }
    let second : Phrase := { bpm := 1323000, beats := grids [.half] [.rest, .full, .rest] }
    let start : Phrase := { bpm := 1323000, beats := NameTable.ofList [("k", [.rest]), ("p", [.full])] }
    let song : Song :=
      { samples := NameTable.ofList [("h", { volume := 100 }), ("k", { volume := 100 }),
          ("p", { volume := 100, effect := { name := "reverb" } })]
        phrases := NameTable.ofList [("A", first), ("B", second), ("S", start)]
        output := ["S", "A", "B", "S"] }
    let waves := NameTable.ofList [("h", #[1, 2, 3, 4]), ("k", #[1, 2, 3, 4, 5]), ("p", #[1, 2, 3])]
    song.output = ["S"] ++ "A" :: "B" :: ["S"] ∧ song.phrases.get? "A" = some first ∧
      song.phrases.get? "B" = some second ∧ first.bpm = second.bpm ∧ first.SameTracks second ∧
      first.IsFull ∧ "AB" ∉ ["S"] ∧
      renderTracks (song.withJoined "AB" first second ["S", "AB", "S"]) waves false =
        renderTracks song waves false := by
  intro grids first second start song waves
  have hfirst : song.phrases.get? "A" = some first := by decide
  have hsecond : song.phrases.get? "B" = some second := by decide
  have htracks : first.SameTracks second := by
    show first.beats.names = second.beats.names
    decide
  have hfull : first.IsFull := by
    show ∀ grid ∈ first.beats.values, grid.length = first.beatCount
    decide
  have hname : "AB" ∉ ["S"] := by decide
  exact ⟨rfl, hfirst, hsecond, rfl, htracks, hfull, hname,
    renderTracks_withJoined rfl hfirst hsecond rfl htracks hfull hname hname waves false⟩

end Playback

end DrumMachine
