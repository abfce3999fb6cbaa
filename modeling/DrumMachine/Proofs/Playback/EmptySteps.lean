import DrumMachine.Proofs.Playback.Simulation
import Mathlib.Data.List.Forall2
import Mathlib.Data.List.Nodup

/-!
# Steps that last no time

A name that no phrase has does nothing to a track. A phrase whose tempo is not positive emits no
slots, but its grid strikes, so what plays at the next slot can be another voice.
-/

namespace DrumMachine

open Playback

/-- No phrase has the name, or its tempo is not positive. -/
def Song.lastsNoTime (song : Song) (name : String) : Bool :=
  match song.phrases.get? name with
  | none => true
  | some phrase => phrase.bpm.toInt ≤ 0

/-- The song without the names in its order of play that last no time. -/
def Song.withoutEmptySteps (song : Song) : Song :=
  { song with output := song.output.filter fun name => !song.lastsNoTime name }

/-- The song without the names in its order of play that no phrase has. -/
def Song.withoutDangling (song : Song) : Song :=
  { song with output := song.output.filter fun name => song.phrases.contains name }

/-- The tracks sound alike; silence at their ends does not matter. -/
def Track.SameSignal (left right : Track) : Prop :=
  left.name = right.name ∧ ∀ time, left.frameAt time = right.frameAt time

namespace Playback

def Step.isEmpty (step : Step) : Bool :=
  match step.phrase? with
  | none => true
  | some phrase => phrase.bpm.toInt ≤ 0

/-- The steps that are not empty. -/
def kept (steps : List Step) : List Step := steps.filter fun step => !step.isEmpty

theorem steps_withoutEmptySteps (song : Song) :
    steps song.withoutEmptySteps = kept (steps song) := by
  rw [steps, kept, steps, List.filter_map]
  rfl

theorem steps_withoutDangling (song : Song) :
    steps song.withoutDangling = (steps song).filter fun step => step.phrase?.isSome := by
  rw [steps, steps, List.filter_map]
  rfl

/-! ### Slots without the empty steps -/

def Event.time? : Event → Option Nat
  | .strike _ => none
  | .slot time => some time

theorem map_fst_voices (events : List Event) :
    (voices events).map Prod.fst = events.filterMap Event.time? := by
  induction events using List.reverseRecOn with
  | nil => rfl
  | append_singleton events event ih =>
    rw [voices_append, List.map_append, ih, List.filterMap_append]
    cases event with
    | strike beat => rfl
    | slot time => rfl

theorem samplesPerBeat_of_isEmpty {step : Step} (h : step.isEmpty = true) :
    step.samplesPerBeat = 0 := by
  obtain ⟨name, phrase?⟩ := step
  cases phrase? with
  | none => rfl
  | some phrase =>
    have hbpm : phrase.bpm.toInt ≤ 0 := of_decide_eq_true h
    show Tempo.samplesPerBeat phrase.bpm = 0
    rw [Tempo.samplesPerBeat, if_neg (by omega)]

theorem span_of_isEmpty {step : Step} (h : step.isEmpty = true) : step.span = 0 := by
  have hbeat := samplesPerBeat_of_isEmpty h
  obtain ⟨name, phrase?⟩ := step
  cases phrase? with
  | none => rfl
  | some phrase =>
    show phrase.beatCount * Step.samplesPerBeat ⟨name, some phrase⟩ = 0
    rw [hbeat, Nat.mul_zero]

theorem slots_beatRuns_zero (start : Nat) (beats : List Beat) :
    ((beatRuns 0 start beats).flatMap Run.events).filterMap Event.time? = [] := by
  induction beats generalizing start with
  | nil => rfl
  | cons beat beats ih =>
    rw [beatRuns_cons, List.flatMap_cons, List.filterMap_append, ih, List.append_nil]
    rfl

theorem slots_of_isEmpty (track : String) (start : Nat) {step : Step} (h : step.isEmpty = true) :
    ((step.runs track start).flatMap Run.events).filterMap Event.time? = [] := by
  have hbeat := samplesPerBeat_of_isEmpty h
  have hspan := span_of_isEmpty h
  unfold Step.runs
  split
  · rfl
  · split
    · rw [hspan]
      rfl
    · rw [hbeat]
      exact slots_beatRuns_zero start _

theorem kept_append (steps : List Step) (step : Step) :
    kept (steps ++ [step]) = if step.isEmpty then kept steps else kept steps ++ [step] := by
  rw [kept, List.filter_append]
  cases hempty : step.isEmpty with
  | true => simp [hempty, kept]
  | false => simp [hempty, kept]

theorem totalSpan_kept (steps : List Step) : totalSpan (kept steps) = totalSpan steps := by
  induction steps using List.reverseRecOn with
  | nil => rfl
  | append_singleton steps step ih =>
    rw [kept_append, totalSpan_append]
    split
    · rename_i hempty
      rw [span_of_isEmpty hempty, ih, Nat.add_zero]
    · rw [totalSpan_append, ih]

theorem slots_kept (track : String) (steps : List Step) :
    (events track (kept steps)).filterMap Event.time? =
      (events track steps).filterMap Event.time? := by
  induction steps using List.reverseRecOn with
  | nil => rfl
  | append_singleton steps step ih =>
    rw [kept_append, events_append, List.filterMap_append]
    split
    · rename_i hempty
      rw [slots_of_isEmpty track _ hempty, List.append_nil, ih]
    · rw [events_append, List.filterMap_append, totalSpan_kept, ih]

/-! ### The same voices, the same sound -/

variable {sample : Sample} {wave : Wave} {left right : List Event} {player other : Player}

theorem sameSignal_of_voices_eq {name : String} {steps : List Step}
    (h : voices (events name steps) = voices (events name (kept steps))) (sample : Sample)
    (wave : Wave) : Track.SameSignal (renderTrack name sample wave steps)
      (renderTrack name sample wave (kept steps)) := by
  have hsteps := (Player.follows_steps name sample wave steps).1
  have hkept := (Player.follows_steps name sample wave (kept steps)).1
  have htones : tones sample wave (events name steps) =
      tones sample wave (events name (kept steps)) := by rw [tones, h, tones]
  exact ⟨rfl, fun time => hsteps.frameAt_eq hkept rfl htones time⟩

/-! ### Waves that tell voices apart -/

/-- A sample that is played as it is. -/
def plain : Sample := { volume := 100 }

/-- A wave that does not change before it ends. -/
def flat (size : Nat) : Wave := Array.replicate size 1

/-- What a voice makes of a flat wave. -/
def probe (size : Nat) (voice? : Option Voice) : Frame :=
  match voice?.bind (Voice.mono? (flat size) plain.volumeScale) with
  | none => .silence
  | some mono => .mono mono

theorem eq_of_fst_eq (h : (voices left).Pairwise fun a b => a.1 < b.1) :
    ∀ slot ∈ voices left, ∀ slot' ∈ voices left, slot.1 = slot'.1 → slot = slot' := by
  have hnodup : ((voices left).map Prod.fst).Nodup :=
    (List.pairwise_map.2 h).imp fun hlt => Nat.ne_of_lt hlt
  intro slot hslot slot' hslot' heq
  exact List.inj_on_of_nodup_map hnodup hslot hslot' heq

theorem frameAt_eq_probe {size : Nat} (h : player.Follows plain (flat size) left) :
    ∀ slot ∈ voices left, player.frameAt slot.1 = probe size slot.2 := by
  intro slot hslot
  have hframes := h.frames_eq
  rw [show fresh plain = .pan ⟨0⟩ from rfl, Effect.frames_pan, List.map_map] at hframes
  cases hmono : slot.2.bind (Voice.mono? (flat size) plain.volumeScale) with
  | none =>
    have hsilent : player.frameAt slot.1 = .silence := by
      refine h.silent slot.1 fun tone htone heq => ?_
      obtain ⟨slot', hslot', hsome⟩ := List.mem_filterMap.1 htone
      obtain ⟨mono, hbind, rfl⟩ := Option.map_eq_some_iff.1 hsome
      rw [eq_of_fst_eq h.increasing slot' hslot' slot hslot heq, hmono] at hbind
      exact absurd hbind (by simp)
    rw [hsilent, probe, hmono]
  | some mono =>
    have htone : (slot.1, mono) ∈ tones plain (flat size) left :=
      List.mem_filterMap.2 ⟨slot, hslot, by rw [hmono]; rfl⟩
    rw [List.map_inj_left.1 hframes _ htone, probe, hmono]
    rfl

theorem probe_some (size : Nat) (voice : Voice) :
    probe size (some voice) =
      if voice.position < size then .mono (voice.gain * 1 * plain.volumeScale) else .silence := by
  rw [probe, Option.bind_some, Voice.mono?, flat, Array.getElem?_replicate]
  by_cases hlt : voice.position < size
  · rw [if_pos hlt, if_pos hlt, Option.map_some]
  · rw [if_neg hlt, if_neg hlt, Option.map_none]

/-- A beat starts a sample at one of two gains. -/
def Voice.Struck (voice : Voice) : Prop := voice.gain = 0.5 ∨ voice.gain = 1

theorem struck_of_heard {before : List Event} {voice : Voice} (h : heard before = some voice) :
    voice.Struck := by
  obtain ⟨strike, -, hgain⟩ := Option.bind_eq_some_iff.1 h
  obtain ⟨gain, hbeat, rfl⟩ := Option.map_eq_some_iff.1 hgain
  cases hstrike : strike.1 with
  | half =>
    rw [hstrike] at hbeat
    exact .inl (Option.some.inj hbeat).symm
  | full =>
    rw [hstrike] at hbeat
    exact .inr (Option.some.inj hbeat).symm
  | rest =>
    rw [hstrike] at hbeat
    exact absurd hbeat (by simp [Beat.gain?])
  | stop =>
    rw [hstrike] at hbeat
    exact absurd hbeat (by simp [Beat.gain?])

theorem mono_ne_silence {voice : Voice} (h : voice.Struck) :
    Frame.mono (voice.gain * 1 * plain.volumeScale) ≠ .silence := by
  rcases h with h | h
  · rw [h]
    decide
  · rw [h]
    decide

theorem gain_eq_of_mono_eq {voice other : Voice} (h : voice.Struck) (hother : other.Struck)
    (heq : Frame.mono (voice.gain * 1 * plain.volumeScale) =
      Frame.mono (other.gain * 1 * plain.volumeScale)) : voice.gain = other.gain := by
  rcases h with h | h
  · rcases hother with hother | hother
    · rw [h, hother]
    · rw [h, hother] at heq
      exact absurd heq (by decide)
  · rcases hother with hother | hother
    · rw [h, hother] at heq
      exact absurd heq (by decide)
    · rw [h, hother]

/-- Of two voices, a wave that ends right after the one that is less far on tells them apart. -/
theorem voice_eq_of_probe_eq {voice other : Voice} (h : voice.Struck) (hother : other.Struck)
    (hprobe : ∀ size, probe size (some voice) = probe size (some other)) : voice = other := by
  have hposition : voice.position = other.position := by
    rcases Nat.lt_trichotomy voice.position other.position with hlt | heq | hlt
    · have hsize := hprobe (voice.position + 1)
      rw [probe_some, probe_some, if_pos (by omega), if_neg (by omega)] at hsize
      exact absurd hsize (mono_ne_silence h)
    · exact heq
    · have hsize := hprobe (other.position + 1)
      rw [probe_some, probe_some, if_neg (by omega), if_pos (by omega)] at hsize
      exact absurd hsize.symm (mono_ne_silence hother)
  have hgain : voice.gain = other.gain := by
    have hsize := hprobe (voice.position + 1)
    rw [probe_some, probe_some, if_pos (by omega), if_pos (by omega)] at hsize
    exact gain_eq_of_mono_eq h hother hsize
  obtain ⟨gain, position⟩ := voice
  obtain ⟨gain', position'⟩ := other
  obtain rfl : gain = gain' := hgain
  obtain rfl : position = position' := hposition
  rfl

theorem heard_eq_of_probe_eq {before before' : List Event}
    (h : ∀ size, probe size (heard before) = probe size (heard before')) :
    heard before = heard before' := by
  cases hleft : heard before with
  | none =>
    cases hright : heard before' with
    | none => rfl
    | some other =>
      have hsize := h (other.position + 1)
      rw [hleft, hright, probe_some, if_pos (Nat.lt_succ_self _)] at hsize
      exact absurd hsize.symm (mono_ne_silence (struck_of_heard hright))
  | some voice =>
    cases hright : heard before' with
    | none =>
      have hsize := h (voice.position + 1)
      rw [hleft, hright, probe_some, if_pos (Nat.lt_succ_self _)] at hsize
      exact absurd hsize (mono_ne_silence (struck_of_heard hleft))
    | some other =>
      rw [hleft, hright] at h
      rw [voice_eq_of_probe_eq (struck_of_heard hleft) (struck_of_heard hright) h]

theorem exists_heard_of_mem_voices {slot : Nat × Option Voice} (h : slot ∈ voices left) :
    ∃ before, slot.2 = heard before := by
  obtain ⟨index, -, hslot⟩ := List.mem_filterMap.1 h
  split at hslot
  · rw [← Option.some.inj hslot]
    exact ⟨_, rfl⟩
  · exact absurd hslot (by simp)

/-- Two timelines with the same slots that no flat wave tells apart have the same voices. -/
theorem voices_eq_of_probe_eq (hslots : (voices left).map Prod.fst = (voices right).map Prod.fst)
    (h : ∀ size, ∀ slot ∈ voices left, ∀ slot' ∈ voices right, slot.1 = slot'.1 →
      probe size slot.2 = probe size slot'.2) : voices left = voices right := by
  have hlength : (voices left).length = (voices right).length := by
    simpa using congrArg List.length hslots
  refine List.ext_getElem hlength fun index hindex hindex' => ?_
  have htime : (voices left)[index].1 = (voices right)[index].1 := by
    have hget := congrArg (fun times => times[index]?) hslots
    simpa [hindex, hindex'] using hget
  obtain ⟨before, hbefore⟩ := exists_heard_of_mem_voices (List.getElem_mem hindex)
  obtain ⟨before', hbefore'⟩ := exists_heard_of_mem_voices (List.getElem_mem hindex')
  have hprobe := fun size => h size _ (List.getElem_mem hindex) _ (List.getElem_mem hindex') htime
  rw [hbefore, hbefore'] at hprobe
  refine Prod.ext htime ?_
  rw [hbefore, hbefore', heard_eq_of_probe_eq hprobe]

theorem voices_eq_of_sameSignal {name : String} {steps : List Step}
    (h : ∀ size, Track.SameSignal (renderTrack name plain (flat size) steps)
      (renderTrack name plain (flat size) (kept steps))) :
    voices (events name steps) = voices (events name (kept steps)) := by
  refine voices_eq_of_probe_eq ?_ fun size slot hslot slot' hslot' htime => ?_
  · rw [map_fst_voices, map_fst_voices, slots_kept]
  · have hsteps := (Player.follows_steps name plain (flat size) steps).1
    have hkept := (Player.follows_steps name plain (flat size) (kept steps)).1
    -- both tracks hold what the wave makes of their voices, and they sound alike
    rw [← frameAt_eq_probe hsteps slot hslot, ← frameAt_eq_probe hkept slot' hslot', ← htime]
    exact (h size).2 slot.1

/-! ### Songs -/

theorem foldl_play_filter (track : String) (steps : List Step) (player : Player) :
    (steps.filter fun step => step.phrase?.isSome).foldl (Player.play track) player =
      steps.foldl (Player.play track) player := by
  induction steps generalizing player with
  | nil => rfl
  | cons step steps ih =>
    obtain ⟨name, phrase?⟩ := step
    cases phrase? with
    | none => exact ih player
    | some phrase => exact ih _

theorem forall₂_sameSignal_iff (song : Song) (waves : NameTable Wave) (parallel : Bool) :
    List.Forall₂ Track.SameSignal (renderTracks song waves parallel)
        (renderTracks song.withoutEmptySteps waves parallel) ↔
      ∀ entry ∈ song.samples.entries, Track.SameSignal (trackOf waves (steps song) entry)
        (trackOf waves (kept (steps song)) entry) := by
  rw [renderTracks_eq_map, renderTracks_eq_map, steps_withoutEmptySteps, List.forall₂_map_left_iff,
    List.forall₂_map_right_iff]
  exact List.forall₂_same

/-- Deleting the names that no phrase has changes nothing. Deleting those of phrases whose tempo is
not positive as well changes no track, whatever the samples and their waves are, exactly if at every
slot the same voice plays. -/
theorem sameSignal_withoutEmptySteps_iff (song : Song) :
    (∀ waves parallel,
      renderTracks song.withoutDangling waves parallel = renderTracks song waves parallel) ∧
    ((∀ (samples : NameTable Sample) (waves : NameTable Wave) (parallel : Bool),
        samples.names = song.samples.names →
        let declared : Song := { song with samples := samples }
        List.Forall₂ Track.SameSignal (renderTracks declared waves parallel)
          (renderTracks declared.withoutEmptySteps waves parallel)) ↔
      ∀ name ∈ song.samples.names,
        voices (events name (steps song)) = voices (events name (steps song.withoutEmptySteps))) := by
  refine ⟨fun waves parallel => ?_, ?_⟩
  · rw [renderTracks_eq_map, renderTracks_eq_map]
    refine List.map_congr_left fun entry _ => ?_
    rw [trackOf, trackOf, renderTrack, renderTrack, steps_withoutDangling, foldl_play_filter]
  · rw [steps_withoutEmptySteps]
    constructor
    · intro h name hname
      refine voices_eq_of_sameSignal fun size => ?_
      obtain ⟨⟨track, sample⟩, hentry, rfl⟩ := List.mem_map.1 hname
      let waves := song.samples.map fun _ _ => flat size
      have hnames : (song.samples.map fun _ _ => plain).names = song.samples.names := by
        rw [NameTable.names, NameTable.map, List.map_map]
        rfl
      have hsame := h (song.samples.map fun _ _ => plain) waves false hnames
      have hmem : (track, plain) ∈ (song.samples.map fun _ _ => plain).entries :=
        List.mem_map.2 ⟨(track, sample), hentry, rfl⟩
      have hwave : waves.get? track = some (flat size) :=
        NameTable.get?_eq_some_iff.2 (List.mem_map.2 ⟨(track, sample), hentry, rfl⟩)
      have htrack := (forall₂_sameSignal_iff _ _ _).1 hsame (track, plain) hmem
      rw [trackOf, trackOf, hwave] at htrack
      exact htrack
    · intro h samples waves parallel hnames
      refine (forall₂_sameSignal_iff _ _ _).2 fun entry hentry => ?_
      have hname : entry.1 ∈ song.samples.names := hnames ▸ List.mem_map.2 ⟨entry, hentry, rfl⟩
      exact sameSignal_of_voices_eq (h entry.1 hname) entry.2 _

/-- A phrase without tempo strikes, and its strike sounds in the phrase after it. -/
theorem not_sameSignal_of_strike :
    let grid (beat : Beat) : NameTable (List Beat) := (∅ : NameTable (List Beat)).insert "k" [beat]
    let song : Song :=
      { samples := (∅ : NameTable Sample).insert "k" { path := "k.wav", volume := 100 }
        phrases := NameTable.ofList
          [("A", { bpm := 2646000, beats := grid .rest }), ("Z", { bpm := 0, beats := grid .full })]
        output := ["Z", "A"] }
    let waves : NameTable Wave := (∅ : NameTable Wave).insert "k" #[1]
    ¬List.Forall₂ Track.SameSignal (renderTracks song waves false)
      (renderTracks song.withoutEmptySteps waves false) := by
  intro grid song waves h
  have hsame := (forall₂_sameSignal_iff song waves false).1 h
    ("k", { path := "k.wav", volume := 100 }) (List.mem_singleton_self _)
  exact absurd (hsame.2 0) (by decide)

end Playback

end DrumMachine
