import DrumMachine.Proofs.Effect.Frames
import DrumMachine.Proofs.NameTable
import DrumMachine.Proofs.Playback.Timeline
import Mathlib.Data.List.Induction

/-!
# The player follows the timeline

After any events of a timeline, a player is about to play what the timeline says is heard, its effect
has been fed with the samples that sounded, and its channels hold the frames that the effect yielded
at the slots where they sounded, with silence everywhere else.
-/

namespace DrumMachine.Playback

/-- The effect of a sample as it starts. -/
def fresh (sample : Sample) : Effect := Effect.instantiate sample.effect.name sample.effect.params

/-- The slots at which a sample's wave sounds after some events, and what sounds there. -/
def tones (sample : Sample) (wave : Wave) (events : List Event) : List (Nat × Float32) :=
  sounds wave sample.volumeScale (voices events)

namespace Player

def frameAt (player : Player) (time : Nat) : Frame :=
  ⟨player.left[time]?.getD 0, player.right[time]?.getD 0⟩

/-- What the player is playing is the voice. At the end of the wave a position stays. -/
def Plays (player : Player) : Option Voice → Prop
  | none => player.position = none
  | some voice =>
    player.position = some (min voice.position player.wave.size) ∧ player.gain = voice.gain

/-- The player of a sample has come through the events. -/
structure Follows (sample : Sample) (wave : Wave) (events : List Event) (player : Player) :
    Prop where
  wave_eq : player.wave = wave
  volume_eq : player.volume = sample.volumeScale
  effect_eq : player.effect.effect =
    (fresh sample).after ((tones sample wave events).map Prod.snd)
  plays : player.Plays (heard events)
  slot_lt : ∀ slot ∈ voices events, slot.1 < player.left.size
  increasing : (voices events).Pairwise fun a b => a.1 < b.1
  left_le : player.left.size ≤ player.cursor
  right_eq : player.right.size = player.left.size
  frames_eq : (tones sample wave events).map (fun tone => player.frameAt tone.1) =
    (fresh sample).frames ((tones sample wave events).map Prod.snd)
  silent : ∀ time, (∀ tone ∈ tones sample wave events, tone.1 ≠ time) →
    player.frameAt time = .silence

variable {sample : Sample} {wave : Wave} {events : List Event} {player : Player}

/-! ### Strikes -/

theorem tones_append_strike (sample : Sample) (wave : Wave) (events : List Event) (beat : Beat) :
    tones sample wave (events ++ [.strike beat]) = tones sample wave events := by
  rw [tones, voices_append, List.append_nil]
  rfl

theorem plays_strike (h : player.Plays (heard events)) (beat : Beat) :
    (player.strike beat).Plays (heard (events ++ [.strike beat])) := by
  rw [heard_append_strike]
  cases beat with
  | rest => exact h
  | stop => exact rfl
  | half => exact ⟨congrArg some (Nat.zero_min _).symm, rfl⟩
  | full => exact ⟨congrArg some (Nat.zero_min _).symm, rfl⟩

theorem Follows.strike (h : player.Follows sample wave events) (beat : Beat) :
    (player.strike beat).Follows sample wave (events ++ [.strike beat]) := by
  have hplays := plays_strike h.plays beat
  have htones := tones_append_strike sample wave events beat
  have hvoices : voices (events ++ [.strike beat]) = voices events := by
    rw [voices_append, List.append_nil]
  obtain ⟨hwave, hvolume, heffect, -, hslot, hincreasing, hleft, hright, hframes, hsilent⟩ := h
  cases beat
  all_goals
    refine ⟨hwave, hvolume, ?_, hplays, ?_, ?_, hleft, hright, ?_, ?_⟩
    · rw [htones]
      exact heffect
    · rw [hvoices]
      exact hslot
    · rw [hvoices]
      exact hincreasing
    · rw [htones]
      exact hframes
    · rw [htones]
      exact hsilent

/-! ### Silence up to the cursor -/

theorem getD_append_replicate (channel : Array Float32) (count time : Nat) :
    (channel ++ Array.replicate count 0)[time]?.getD 0 = channel[time]?.getD 0 := by
  by_cases htime : time < channel.size
  · rw [Array.getElem?_append_left htime]
  · have hle : channel.size ≤ time := by omega
    rw [Array.getElem?_append_right hle, Array.getElem?_eq_none hle, Array.getElem?_replicate]
    split
    · rfl
    · rfl

theorem frameAt_pad (player : Player) (time : Nat) :
    player.pad.frameAt time = player.frameAt time := by
  show Frame.mk _ _ = _
  rw [frameAt, ← getD_append_replicate player.left (player.cursor - player.left.size),
    ← getD_append_replicate player.right (player.cursor - player.right.size)]
  rfl

theorem size_pad (h : player.left.size ≤ player.cursor) :
    player.pad.left.size = player.cursor := by
  have hsize : player.pad.left.size = player.left.size + (player.cursor - player.left.size) := by
    show (player.left ++ Array.replicate _ 0).size = _
    rw [Array.size_append, Array.size_replicate]
  omega

theorem Follows.pad (h : player.Follows sample wave events) :
    player.pad.Follows sample wave events := by
  have hsize := size_pad h.left_le
  have hright : player.pad.right.size = player.pad.left.size := by
    show (player.right ++ Array.replicate _ 0).size = (player.left ++ Array.replicate _ 0).size
    rw [Array.size_append, Array.size_append, Array.size_replicate, Array.size_replicate, h.right_eq]
  refine ⟨h.wave_eq, h.volume_eq, h.effect_eq, ?_, fun slot hslot => ?_, h.increasing,
    Nat.le_of_eq hsize, hright, ?_, fun time htime => ?_⟩
  · exact h.plays
  · have hlt := h.slot_lt slot hslot
    have hle := h.left_le
    omega
  · simp only [frameAt_pad]
    exact h.frames_eq
  · rw [frameAt_pad]
    exact h.silent time htime

/-! ### Slots -/

/-- What emitting a frame does to a player, whatever becomes of the sample and the effect. -/
structure Emits (player : Player) (frame : Frame) (next : Player) : Prop where
  wave_eq : next.wave = player.wave
  volume_eq : next.volume = player.volume
  cursor_eq : next.cursor = player.cursor + 1
  left_eq : next.left = player.left.push frame.left
  right_eq : next.right = player.right.push frame.right

theorem Emits.frameAt_eq {frame : Frame} {next : Player} (h : player.Emits frame next)
    (hright : player.right.size = player.left.size) (time : Nat) :
    next.frameAt time = if time = player.left.size then frame else player.frameAt time := by
  rw [frameAt, h.left_eq, h.right_eq, Array.getElem?_push, Array.getElem?_push, hright]
  split
  · rfl
  · rfl

theorem tones_append_slot (sample : Sample) (wave : Wave) (events : List Event) (time : Nat) :
    tones sample wave (events ++ [.slot time]) = tones sample wave events ++
      (((heard events).bind (Voice.mono? wave sample.volumeScale)).map
        fun mono => (time, mono)).toList := by
  rw [tones, voices_append, sounds, List.filterMap_append]
  refine congrArg (tones sample wave events ++ ·) ?_
  rw [List.filterMap_cons]
  cases (heard events).bind (Voice.mono? wave sample.volumeScale) with
  | none => rfl
  | some mono => rfl

theorem tick_of_silent {voice? : Option Voice} {volume : Float32} (h : player.Plays voice?)
    (hmono : voice?.bind (Voice.mono? player.wave volume) = none) :
    player.Emits .silence player.tick ∧ player.tick.effect = player.effect ∧
      player.tick.Plays (voice?.map fun voice => ⟨voice.gain, voice.position + 1⟩) := by
  obtain ⟨tune, scale, effect, position, gain, cursor, left, right⟩ := player
  cases voice? with
  | none =>
    obtain rfl : position = none := h
    exact ⟨⟨rfl, rfl, rfl, rfl, rfl⟩, rfl, rfl⟩
  | some voice =>
    have hend : tune.size ≤ voice.position := by
      rw [Option.bind_some, Voice.mono?, Option.map_eq_none_iff, Array.getElem?_eq_none_iff] at hmono
      exact hmono
    obtain ⟨hposition, hgain⟩ := h
    obtain rfl : position = some tune.size := by
      rw [← show min voice.position tune.size = tune.size by omega]
      exact hposition
    have htick : tick ⟨tune, scale, effect, some tune.size, gain, cursor, left, right⟩ =
        ⟨tune, scale, effect, some tune.size, gain, cursor + 1, left.push 0, right.push 0⟩ := by
      rw [tick, dif_neg (Nat.lt_irrefl _)]
    rw [htick]
    refine ⟨⟨rfl, rfl, rfl, rfl, rfl⟩, rfl, ?_, hgain⟩
    show some tune.size = some (min (voice.position + 1) tune.size)
    rw [show min (voice.position + 1) tune.size = tune.size by omega]

theorem tick_of_mono {voice : Voice} {mono : Float32} (h : player.Plays (some voice))
    (hmono : voice.mono? player.wave player.volume = some mono) :
    player.Emits (player.effect.apply mono).1 player.tick ∧
      player.tick.effect = (player.effect.apply mono).2 ∧
      player.tick.Plays (some ⟨voice.gain, voice.position + 1⟩) := by
  obtain ⟨tune, scale, effect, position, gain, cursor, left, right⟩ := player
  rw [Voice.mono?, Option.map_eq_some_iff] at hmono
  obtain ⟨value, hvalue, rfl⟩ := hmono
  obtain ⟨hlt, hget⟩ := Array.getElem?_eq_some_iff.1 hvalue
  have hlt : voice.position < tune.size := hlt
  obtain ⟨hposition, hgain⟩ := h
  obtain rfl : position = some voice.position := by
    rw [← show min voice.position tune.size = voice.position by omega]
    exact hposition
  obtain rfl : gain = voice.gain := hgain
  have htick : tick ⟨tune, scale, effect, some voice.position, voice.gain, cursor, left, right⟩ =
      ⟨tune, scale, (effect.apply (voice.gain * value * scale)).2, some (voice.position + 1),
        voice.gain, cursor + 1, left.push (effect.apply (voice.gain * value * scale)).1.left,
        right.push (effect.apply (voice.gain * value * scale)).1.right⟩ := by
    rw [tick, dif_pos hlt]
    simp only [← hget]
  rw [htick]
  refine ⟨⟨rfl, rfl, rfl, rfl, rfl⟩, rfl, ?_, rfl⟩
  show some (voice.position + 1) = some (min (voice.position + 1) tune.size)
  rw [show min (voice.position + 1) tune.size = voice.position + 1 by omega]

theorem mem_voices_of_mem_tones {tone : Nat × Float32} (h : tone ∈ tones sample wave events) :
    ∃ slot ∈ voices events, slot.1 = tone.1 := by
  obtain ⟨slot, hslot, htone⟩ := List.mem_filterMap.1 h
  obtain ⟨mono, -, rfl⟩ := Option.map_eq_some_iff.1 htone
  exact ⟨slot, hslot, rfl⟩

theorem slot_lt_append (h : player.Follows sample wave events)
    (hfull : player.left.size = player.cursor) :
    ∀ slot ∈ voices (events ++ [.slot player.cursor]), slot.1 < player.cursor + 1 := by
  intro slot hslot
  rw [voices_append] at hslot
  rcases List.mem_append.1 hslot with hslot | hslot
  · have hlt := h.slot_lt slot hslot
    omega
  · rw [List.mem_singleton.1 hslot]
    exact Nat.lt_succ_self _

theorem increasing_append (h : player.Follows sample wave events)
    (hfull : player.left.size = player.cursor) :
    (voices (events ++ [.slot player.cursor])).Pairwise fun a b => a.1 < b.1 := by
  rw [voices_append]
  refine List.pairwise_append.2 ⟨h.increasing, List.pairwise_singleton _ _, ?_⟩
  intro slot hslot last hlast
  rw [List.mem_singleton.1 hlast]
  exact hfull ▸ h.slot_lt slot hslot

/-- The frames of earlier slots stay as they are. -/
theorem map_frameAt_of_emits {frame : Frame} {next : Player} (h : player.Follows sample wave events)
    (hnext : player.Emits frame next) :
    (tones sample wave events).map (fun tone => next.frameAt tone.1) =
      (tones sample wave events).map fun tone => player.frameAt tone.1 := by
  refine List.map_congr_left fun tone htone => ?_
  obtain ⟨slot, hslot, heq⟩ := mem_voices_of_mem_tones htone
  have hlt := h.slot_lt slot hslot
  rw [hnext.frameAt_eq h.right_eq, if_neg (by omega)]

/-- The effect's part in a slot: it is fed and yields the frame, or it is left alone. -/
def Answers (effect : Effect) (mono? : Option Float32) (frame : Frame) (next : Effect) : Prop :=
  match mono? with
  | none => frame = .silence ∧ next = effect
  | some mono => frame = (effect.process mono).1 ∧ next = (effect.process mono).2

/-- One slot more: what sounds there, if anything does, is the effect's answer. -/
theorem Follows.emits {frame : Frame} {next : Player} (h : player.Follows sample wave events)
    (hfull : player.left.size = player.cursor) (hnext : player.Emits frame next)
    (hplays : next.Plays (heard (events ++ [.slot player.cursor])))
    (hanswers : Answers player.effect.effect
      ((heard events).bind (Voice.mono? wave sample.volumeScale)) frame next.effect.effect) :
    next.Follows sample wave (events ++ [.slot player.cursor]) := by
  have hframeAt := hnext.frameAt_eq h.right_eq
  have hearlier := map_frameAt_of_emits h hnext
  have htones := tones_append_slot sample wave events player.cursor
  have hleft : next.left.size = player.cursor + 1 := by
    rw [hnext.left_eq, Array.size_push, hfull]
  have hright : next.right.size = player.cursor + 1 := by
    rw [hnext.right_eq, Array.size_push, h.right_eq, hfull]
  have hslot := slot_lt_append h hfull
  rw [← hleft] at hslot
  have hincreasing := increasing_append h hfull
  rw [h.effect_eq] at hanswers
  have hend : next.left.size ≤ next.cursor := Nat.le_of_eq (hleft.trans hnext.cursor_eq.symm)
  have hwave := hnext.wave_eq.trans h.wave_eq
  have hvolume := hnext.volume_eq.trans h.volume_eq
  cases hmono : (heard events).bind (Voice.mono? wave sample.volumeScale) with
  | none =>
    rw [hmono] at hanswers
    rw [hmono, Option.map_none, Option.toList_none, List.append_nil] at htones
    obtain ⟨rfl, heffect⟩ := hanswers
    refine ⟨hwave, hvolume, ?_, hplays, hslot, hincreasing, hend, hright.trans hleft.symm, ?_,
      fun time htime => ?_⟩
    · rw [htones, heffect]
    · rw [htones, hearlier, h.frames_eq]
    · rw [htones] at htime
      rw [hframeAt]
      split
      · rfl
      · exact h.silent time htime
  | some mono =>
    rw [hmono] at hanswers
    rw [hmono, Option.map_some, Option.toList_some] at htones
    obtain ⟨rfl, heffect⟩ := hanswers
    refine ⟨hwave, hvolume, ?_, hplays, hslot, hincreasing, hend, hright.trans hleft.symm, ?_,
      fun time htime => ?_⟩
    · rw [htones, List.map_append, List.map_singleton, Effect.after_append, heffect]
    · rw [htones, List.map_append, List.map_append, List.map_singleton, List.map_singleton,
        Effect.frames_append, hearlier, h.frames_eq, hframeAt, if_pos hfull.symm]
    · rw [htones] at htime
      have hne : time ≠ player.left.size := fun heq =>
        htime _ (List.mem_append_right _ (List.mem_singleton_self _)) (hfull.symm.trans heq.symm)
      rw [hframeAt, if_neg hne]
      exact h.silent time fun tone htone => htime tone (List.mem_append_left _ htone)

theorem Follows.tick (h : player.Follows sample wave events)
    (hfull : player.left.size = player.cursor) :
    player.tick.Follows sample wave (events ++ [.slot player.cursor]) := by
  have hheard := heard_append_slot events player.cursor
  cases hmono : (heard events).bind (Voice.mono? wave sample.volumeScale) with
  | none =>
    have ⟨hemits, heffect, hplays⟩ := tick_of_silent h.plays (h.wave_eq ▸ hmono)
    rw [← hheard] at hplays
    refine h.emits hfull hemits hplays ?_
    rw [hmono, heffect]
    exact ⟨rfl, rfl⟩
  | some mono =>
    obtain ⟨voice, hvoice, hsample⟩ := Option.bind_eq_some_iff.1 hmono
    rw [← h.wave_eq, ← h.volume_eq] at hsample
    have ⟨hemits, heffect, hplays⟩ := tick_of_mono (hvoice ▸ h.plays) hsample
    rw [hvoice, Option.map_some] at hheard
    rw [← hheard] at hplays
    refine h.emits hfull hemits hplays ?_
    rw [hmono, heffect, Effect.Binding.apply_eq]
    exact ⟨rfl, rfl⟩

theorem cursor_tick (player : Player) : player.tick.cursor = player.cursor + 1 := by
  obtain ⟨tune, scale, effect, position, gain, cursor, left, right⟩ := player
  cases position with
  | none => rfl
  | some index =>
    rw [Player.tick]
    split
    · rfl
    · rfl

theorem size_tick (player : Player) : player.tick.left.size = player.left.size + 1 := by
  obtain ⟨tune, scale, effect, position, gain, cursor, left, right⟩ := player
  cases position with
  | none => exact Array.size_push _
  | some index =>
    rw [Player.tick]
    split
    · exact Array.size_push _
    · exact Array.size_push _

/-! ### Runs -/

theorem Follows.tickMany (count : Nat) (h : player.Follows sample wave events)
    (hfull : player.left.size = player.cursor) :
    (tickMany count player).Follows sample wave
        (events ++ (List.range' player.cursor count).map Event.slot) ∧
      (tickMany count player).left.size = player.cursor + count ∧
      (tickMany count player).cursor = player.cursor + count := by
  induction count generalizing player events with
  | zero =>
    rw [List.range'_zero, List.map_nil, List.append_nil]
    exact ⟨h, hfull, rfl⟩
  | succ count ih =>
    have hcursor := cursor_tick player
    have hnext := ih (h.tick hfull) (by rw [size_tick, hcursor, hfull])
    rw [hcursor, List.append_assoc] at hnext
    rw [List.range'_succ, List.map_cons, Player.tickMany]
    obtain ⟨hfollows, hsize, hend⟩ := hnext
    exact ⟨hfollows, by omega, by omega⟩

theorem cursor_strike (player : Player) (beat : Beat) :
    (player.strike beat).cursor = player.cursor := by
  cases beat
  all_goals rfl

/-- The player has come through the events, and its channels reach to where it is. -/
structure Arrives (sample : Sample) (wave : Wave) (events : List Event) (time : Nat)
    (player : Player) : Prop where
  follows : player.Follows sample wave events
  cursor_eq : player.cursor = time
  size_eq : player.left.size = time

theorem Follows.emit (h : player.Follows sample wave events) (count : Nat) :
    (player.emit count).Arrives sample wave
      (events ++ (List.range' player.cursor count).map Event.slot) (player.cursor + count) := by
  obtain ⟨hfollows, hsize, hcursor⟩ := h.pad.tickMany count (size_pad h.left_le)
  exact ⟨hfollows, hcursor, hsize⟩

theorem Follows.playBeat (h : player.Follows sample wave events) (beat : Beat) (length : Nat) :
    (playBeat length player beat).Arrives sample wave
      (events ++ Run.events ⟨some beat, player.cursor, length⟩) (player.cursor + length) := by
  have hemit := (h.strike beat).emit length
  rw [cursor_strike, List.append_assoc] at hemit
  exact hemit

theorem Follows.playBeats (h : player.Follows sample wave events) (length : Nat)
    (beats : List Beat) :
    let runs := beatRuns length player.cursor beats
    let played := beats.foldl (Player.playBeat length) player
    played.Follows sample wave (events ++ runs.flatMap Run.events) ∧
      played.cursor = player.cursor + beats.length * length ∧
      played.left.size = (runs.getLast?.map Run.finish).getD player.left.size := by
  induction beats generalizing player events with
  | nil =>
    refine ⟨?_, by simp, rfl⟩
    show player.Follows sample wave (events ++ [])
    rwa [List.append_nil]
  | cons beat beats ih =>
    have hbeat := h.playBeat beat length
    obtain ⟨hfollows, hcursor, hsize⟩ := ih hbeat.follows
    rw [hbeat.cursor_eq] at hfollows hcursor hsize
    rw [beatRuns_cons, List.foldl_cons]
    refine ⟨?_, ?_, ?_⟩
    · rw [List.flatMap_cons, ← List.append_assoc]
      exact hfollows
    · rw [hcursor, List.length_cons, Nat.add_mul, Nat.one_mul]
      omega
    · rw [hsize, hbeat.size_eq, List.getLast?_cons]
      cases (beatRuns length (player.cursor + length) beats).getLast? with
      | none => rfl
      | some run => rfl

/-! ### Steps -/

theorem Follows.moveTo {time : Nat} (h : player.Follows sample wave events)
    (htime : player.left.size ≤ time) :
    Player.Follows sample wave events { player with cursor := time } :=
  ⟨h.wave_eq, h.volume_eq, h.effect_eq, h.plays, h.slot_lt, h.increasing, htime, h.right_eq,
    h.frames_eq, h.silent⟩

theorem le_foldl_max {n bound : Nat} {counts : List Nat} (h : n ≤ bound ∨ n ∈ counts) :
    n ≤ counts.foldl max bound := by
  induction counts generalizing bound with
  | nil => exact h.resolve_right List.not_mem_nil
  | cons count counts ih =>
    rw [List.foldl_cons]
    rcases h with h | h
    · exact ih (.inl (Nat.le_trans h (Nat.le_max_left ..)))
    · rcases List.mem_cons.1 h with rfl | h
      · exact ih (.inl (Nat.le_max_right ..))
      · exact ih (.inr h)

theorem length_le_beatCount {phrase : Phrase} {track : String} {beats : List Beat}
    (h : phrase.beats.get? track = some beats) : beats.length ≤ phrase.beatCount := by
  have hmem : beats.length ∈ phrase.beats.values.map List.length :=
    List.mem_map_of_mem (List.mem_map.2 ⟨(track, beats), NameTable.get?_eq_some_iff.1 h, rfl⟩)
  exact le_foldl_max (.inr hmem)

/-- A grid ends where its phrase does, or before. -/
theorem grid_le_span {phrase : Phrase} {track : String} {beats : List Beat}
    (h : phrase.beats.get? track = some beats) (name : String) :
    beats.length * Step.samplesPerBeat ⟨name, some phrase⟩ ≤ Step.span ⟨name, some phrase⟩ :=
  Nat.mul_le_mul_right _ (length_le_beatCount h)

theorem play_of_no_grid {phrase : Phrase} {track : String} (h : phrase.beats.get? track = none)
    (name : String) (player : Player) :
    player.play track ⟨name, some phrase⟩ =
      { player.emit (Step.span ⟨name, some phrase⟩) with
        cursor := player.cursor + Step.span ⟨name, some phrase⟩ } := by
  rw [Player.play]
  simp only [h]

theorem play_of_grid {phrase : Phrase} {track : String} {beats : List Beat}
    (h : phrase.beats.get? track = some beats) (name : String) (player : Player) :
    player.play track ⟨name, some phrase⟩ =
      { beats.foldl (Player.playBeat (Step.samplesPerBeat ⟨name, some phrase⟩)) player with
        cursor := player.cursor + Step.span ⟨name, some phrase⟩ } := by
  rw [Player.play]
  simp only [h]

theorem Follows.play (h : player.Follows sample wave events) (track : String) (step : Step) :
    let runs := step.runs track player.cursor
    let played := player.play track step
    played.Follows sample wave (events ++ runs.flatMap Run.events) ∧
      played.cursor = player.cursor + step.span ∧
      played.left.size = (runs.getLast?.map Run.finish).getD player.left.size := by
  obtain ⟨name, phrase?⟩ := step
  cases phrase? with
  | none =>
    refine ⟨?_, rfl, rfl⟩
    show player.Follows sample wave (events ++ [])
    rwa [List.append_nil]
  | some phrase =>
    cases hgrid : phrase.beats.get? track with
    | none =>
      have hemit := h.emit (Step.span ⟨name, some phrase⟩)
      have hmoved := hemit.follows.moveTo (Nat.le_of_eq hemit.size_eq)
      rw [Step.runs_of_no_grid hgrid, play_of_no_grid hgrid]
      refine ⟨?_, rfl, hemit.size_eq⟩
      rw [List.flatMap_singleton]
      exact hmoved
    | some beats =>
      have hspan := grid_le_span hgrid name
      obtain ⟨hfollows, hcursor, hsize⟩ :=
        h.playBeats (Step.samplesPerBeat ⟨name, some phrase⟩) beats
      have hle := hfollows.left_le
      rw [Step.runs_of_grid hgrid, play_of_grid hgrid]
      exact ⟨hfollows.moveTo (by omega), rfl, hsize⟩

theorem follows_start (sample : Sample) (wave : Wave) :
    (Player.start sample wave).Follows sample wave [] :=
  ⟨rfl, rfl, rfl, rfl, fun _ hslot => absurd hslot List.not_mem_nil, .nil, Nat.le_refl _, rfl, rfl,
    fun _ _ => rfl⟩

theorem follows_steps (track : String) (sample : Sample) (wave : Wave) (steps : List Step) :
    let played := steps.foldl (Player.play track) (.start sample wave)
    played.Follows sample wave (Playback.events track steps) ∧
      played.cursor = totalSpan steps ∧ played.left.size = finish track steps := by
  induction steps using List.reverseRecOn with
  | nil => exact ⟨follows_start sample wave, rfl, rfl⟩
  | append_singleton steps step ih =>
    obtain ⟨hfollows, hcursor, hsize⟩ := ih
    obtain ⟨hnext, hend, hlast⟩ := hfollows.play track step
    rw [hcursor] at hnext hend hlast
    rw [List.foldl_append, List.foldl_cons, List.foldl_nil]
    refine ⟨?_, ?_, ?_⟩
    · rw [events_append]
      exact hnext
    · rw [totalSpan_append]
      exact hend
    · rw [hlast, hsize, finish_append]

/-- What is in the channels depends on the tones and the effect as it starts, and on nothing else. -/
theorem Follows.frameAt_eq {twin : Sample} {tune : Wave} {others : List Event} {other : Player}
    (h : player.Follows sample wave events) (hother : other.Follows twin tune others)
    (hfresh : fresh sample = fresh twin) (htones : tones sample wave events = tones twin tune others)
    (time : Nat) : player.frameAt time = other.frameAt time := by
  have hframes := hother.frames_eq
  rw [← htones, ← hfresh, ← h.frames_eq] at hframes
  -- the times at which something sounds are the same, and elsewhere both are silent
  by_cases hsound : ∃ tone ∈ tones sample wave events, tone.1 = time
  · obtain ⟨tone, htone, rfl⟩ := hsound
    exact (List.map_inj_left.1 hframes tone htone).symm
  · have hsilent : ∀ tone ∈ tones sample wave events, tone.1 ≠ time :=
      fun tone htone heq => hsound ⟨tone, htone, heq⟩
    rw [h.silent time hsilent, hother.silent time (htones ▸ hsilent)]

end Player

/-- What a track sounds like, by its timeline. -/
theorem renderTrack_eq_timeline (name : String) (sample : Sample) (wave : Wave)
    (steps : List Step) :
    let track := renderTrack name sample wave steps
    let slots := voices (events name steps)
    let tones := sounds wave sample.volumeScale slots
    let effect := Effect.instantiate sample.effect.name sample.effect.params
    track.left.size = finish name steps ∧ track.right.size = finish name steps ∧
    slots.Pairwise (fun a b => a.1 < b.1) ∧ (∀ slot ∈ slots, slot.1 < finish name steps) ∧
    tones.map (fun tone => track.frameAt tone.1) = effect.frames (tones.map Prod.snd) ∧
    ∀ time, (∀ tone ∈ tones, tone.1 ≠ time) → track.frameAt time = .silence := by
  obtain ⟨hfollows, -, hsize⟩ := Player.follows_steps name sample wave steps
  refine ⟨hsize, hfollows.right_eq.trans hsize, hfollows.increasing, ?_, hfollows.frames_eq,
    hfollows.silent⟩
  rw [← hsize]
  exact hfollows.slot_lt

end DrumMachine.Playback
