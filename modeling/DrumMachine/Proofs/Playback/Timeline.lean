import DrumMachine.Playback.Track
import Mathlib.Data.List.Basic

/-!
# What happens to a track, by time

The order of play, read as a timeline: each step starts where the spans of the steps before it end,
each beat of a grid strikes at its place, and slots are emitted after it. At a slot sounds what the
latest strike started, as far on as slots have been emitted since; time that passes without slots
does not move it.
-/

namespace DrumMachine

/-- The frame at a time; past the end of the channels there is silence. -/
def Track.frameAt (track : Track) (time : Nat) : Frame :=
  ⟨track.left[time]?.getD 0, track.right[time]?.getD 0⟩

namespace Playback

/-- What can happen to a track. -/
inductive Event where
  | strike (beat : Beat)
  | slot (time : Nat)
deriving DecidableEq, Repr

namespace Event

/-- The strike ends what was playing before. -/
def cuts : Event → Bool
  | .strike beat => beat != .rest
  | .slot _ => false

def isSlot : Event → Bool
  | .strike _ => false
  | .slot _ => true

end Event

/-- A strike, if there is one, and the slots emitted after it, one after the other. -/
structure Run where
  strike? : Option Beat
  start : Nat
  length : Nat

namespace Run

def finish (run : Run) : Nat := run.start + run.length

def events (run : Run) : List Event :=
  (run.strike?.map Event.strike).toList ++ (List.range' run.start run.length).map Event.slot

end Run

/-- The runs of beats of one length, the first of which starts at a given time. -/
def beatRuns (length start : Nat) (beats : List Beat) : List Run :=
  beats.mapIdx fun index beat => ⟨some beat, start + index * length, length⟩

/-- The runs of a step that starts at a given time. -/
def Step.runs (track : String) (start : Nat) (step : Step) : List Run :=
  match step.phrase? with
  | none => []
  | some phrase =>
    match phrase.beats.get? track with
    | none => [⟨none, start, step.span⟩]
    | some beats => beatRuns step.samplesPerBeat start beats

/-- The samples that steps last together. -/
def totalSpan (steps : List Step) : Nat := (steps.map Step.span).foldr (· + ·) 0

/-- The runs of a track: a step starts after the spans of the steps before it. -/
def runs (track : String) (steps : List Step) : List Run :=
  steps.zipIdx.flatMap fun entry => entry.1.runs track (totalSpan (steps.take entry.2))

def events (track : String) (steps : List Step) : List Event :=
  (runs track steps).flatMap Run.events

/-- Where the last run ends. -/
def finish (track : String) (steps : List Step) : Nat :=
  ((runs track steps).getLast?.map Run.finish).getD 0

/-- The latest strike that is no rest, with the number of slots emitted since. -/
def latest (before : List Event) : Option (Beat × Nat) :=
  let since := before.reverse.takeWhile fun event => !event.cuts
  match before.reverse.dropWhile fun event => !event.cuts with
  | .strike beat :: _ => some (beat, since.countP Event.isSlot)
  | _ => none

/-- How loud a wave is played, and how far it is on. -/
structure Voice where
  gain : Float32
  position : Nat
deriving DecidableEq

/-- What plays after some events, unless the latest strike was a stop. -/
def heard (before : List Event) : Option Voice :=
  (latest before).bind fun strike => strike.1.gain?.map fun gain => ⟨gain, strike.2⟩

/-- Every slot in the order of events, with what plays there. -/
def voices (events : List Event) : List (Nat × Option Voice) :=
  (List.range events.length).filterMap fun index =>
    match events[index]? with
    | some (Event.slot time) => some (time, heard (events.take index))
    | _ => none

/-- The sample of the wave that a voice has come to, if it has not come to the end. -/
def Voice.mono? (wave : Wave) (volume : Float32) (voice : Voice) : Option Float32 :=
  wave[voice.position]?.map fun sample => voice.gain * sample * volume

/-- The slots at which a wave sounds, with its samples. -/
def sounds (wave : Wave) (volume : Float32) (slots : List (Nat × Option Voice)) :
    List (Nat × Float32) :=
  slots.filterMap fun slot => (slot.2.bind (Voice.mono? wave volume)).map fun mono => (slot.1, mono)

/-! ### Steps with and without a grid -/

theorem Step.runs_of_no_grid {phrase : Phrase} {track : String}
    (h : phrase.beats.get? track = none) (name : String) (start : Nat) :
    Step.runs track start ⟨name, some phrase⟩ =
      [⟨none, start, Step.span ⟨name, some phrase⟩⟩] := by
  rw [Step.runs]
  simp only [h]

theorem Step.runs_of_grid {phrase : Phrase} {track : String} {beats : List Beat}
    (h : phrase.beats.get? track = some beats) (name : String) (start : Nat) :
    Step.runs track start ⟨name, some phrase⟩ =
      beatRuns (Step.samplesPerBeat ⟨name, some phrase⟩) start beats := by
  rw [Step.runs]
  simp only [h]

/-! ### One more event -/

theorem latest_append_strike (before : List Event) (beat : Beat) :
    latest (before ++ [.strike beat]) = if beat = .rest then latest before else some (beat, 0) := by
  cases beat
  all_goals simp [latest, Event.cuts, Event.isSlot]

theorem latest_append_slot (before : List Event) (time : Nat) :
    latest (before ++ [.slot time]) = (latest before).map fun strike => (strike.1, strike.2 + 1) := by
  simp only [latest, List.reverse_append, List.reverse_singleton, List.singleton_append,
    List.takeWhile_cons, List.dropWhile_cons, Event.cuts, Bool.not_false, if_true,
    List.countP_cons, Event.isSlot]
  split
  · rfl
  · rfl

theorem heard_append_strike (before : List Event) (beat : Beat) :
    heard (before ++ [.strike beat]) =
      if beat = .rest then heard before else beat.gain?.map fun gain => ⟨gain, 0⟩ := by
  rw [heard, latest_append_strike]
  split
  · rfl
  · rfl

theorem heard_append_slot (before : List Event) (time : Nat) :
    heard (before ++ [.slot time]) =
      (heard before).map fun voice => ⟨voice.gain, voice.position + 1⟩ := by
  rw [heard, heard, latest_append_slot]
  cases latest before with
  | none => rfl
  | some strike =>
    obtain ⟨beat, count⟩ := strike
    cases beat
    all_goals rfl

theorem voices_append (events : List Event) (event : Event) :
    voices (events ++ [event]) = voices events ++
      match event with
      | .slot time => [(time, heard events)]
      | .strike _ => [] := by
  have hlast : (events ++ [event])[events.length]? = some event := by simp
  have htake : (events ++ [event]).take events.length = events := by simp
  rw [voices, List.length_append, List.length_singleton, List.range_succ, List.filterMap_append]
  congr 1
  · refine List.filterMap_congr fun index hindex => ?_
    have hlt : index < events.length := List.mem_range.1 hindex
    rw [List.getElem?_append_left hlt, List.take_append_of_le_length (Nat.le_of_lt hlt)]
  · simp only [List.filterMap_cons, List.filterMap_nil, hlast, htake]
    cases event with
    | strike beat => rfl
    | slot time => rfl

/-! ### One more step -/

theorem beatRuns_cons (length start : Nat) (beat : Beat) (beats : List Beat) :
    beatRuns length start (beat :: beats) =
      ⟨some beat, start, length⟩ :: beatRuns length (start + length) beats := by
  rw [beatRuns, List.mapIdx_cons, Nat.zero_mul, Nat.add_zero, beatRuns]
  congr 2
  funext index other
  rw [Nat.add_mul, Nat.one_mul, Nat.add_assoc, Nat.add_comm length]

theorem totalSpan_append (steps : List Step) (step : Step) :
    totalSpan (steps ++ [step]) = totalSpan steps + step.span := by
  induction steps with
  | nil => simp [totalSpan]
  | cons first steps ih =>
    show first.span + totalSpan (steps ++ [step]) = first.span + totalSpan steps + step.span
    rw [ih, Nat.add_assoc]

theorem runs_append (track : String) (steps : List Step) (step : Step) :
    runs track (steps ++ [step]) =
      runs track steps ++ step.runs track (totalSpan steps) := by
  rw [runs, List.zipIdx_append, List.flatMap_append]
  congr 1
  · refine List.flatMap_congr fun entry hentry => ?_
    have hlt := (List.mem_zipIdx' hentry).1
    rw [List.take_append_of_le_length (Nat.le_of_lt hlt)]
  · simp

theorem events_append (track : String) (steps : List Step) (step : Step) :
    events track (steps ++ [step]) =
      events track steps ++ (step.runs track (totalSpan steps)).flatMap Run.events := by
  rw [events, runs_append, List.flatMap_append]
  rfl

theorem finish_append (track : String) (steps : List Step) (step : Step) :
    finish track (steps ++ [step]) =
      ((step.runs track (totalSpan steps)).getLast?.map Run.finish).getD (finish track steps) := by
  rw [finish, runs_append, List.getLast?_append]
  cases (step.runs track (totalSpan steps)).getLast? with
  | none => rfl
  | some run => rfl

end Playback

end DrumMachine
