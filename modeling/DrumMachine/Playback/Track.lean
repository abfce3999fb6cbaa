import DrumMachine.Song.Basic

/-!
# Playing a track

A track is played phrase by phrase in the order that the song gives. On each beat of its grid the
track's sample may start anew or stop; between beats it goes on, through the track's own effect, and
it goes on through phrases that have no grid for the track. When a grid is shorter than its phrase
the track jumps to the phrase's end, and the sample goes on from where it was.
-/

namespace DrumMachine

abbrev Wave := Array Float32

structure Track where
  name : String
  left : Array Float32 := #[]
  right : Array Float32 := #[]
deriving DecidableEq, Inhabited

namespace Track

/-- The length of a track is that of its left channel. -/
def frames (track : Track) : Nat := track.left.size

def longest (tracks : List Track) : Nat := (tracks.map frames).foldl max 0

end Track

namespace Playback

/-- One entry of the order of play with the phrase that it names, if there is one. -/
structure Step where
  name : String
  phrase? : Option Phrase
deriving DecidableEq, Inhabited

namespace Step

def samplesPerBeat (step : Step) : Nat :=
  match step.phrase? with
  | some phrase => Tempo.samplesPerBeat phrase.bpm
  | none => 0

def span (step : Step) : Nat :=
  match step.phrase? with
  | some phrase => phrase.beatCount * Tempo.samplesPerBeat phrase.bpm
  | none => 0

end Step

def steps (song : Song) : List Step := song.output.map fun name => ⟨name, song.phrases.get? name⟩

/-- A track in the course of being played. The channels reach to the last sample emitted, and
`cursor` is where the next one goes. -/
structure Player where
  wave : Wave
  volume : Float32
  effect : Effect.Binding
  position : Option Nat := none
  gain : Float32 := 0
  cursor : Nat := 0
  left : Array Float32 := #[]
  right : Array Float32 := #[]

namespace Player

/-- A track before its first phrase, with a fresh effect. -/
def start (sample : Sample) (wave : Wave) : Player where
  wave := wave
  volume := sample.volumeScale
  effect := sample.effect.unbound

/-- What a beat does to the sample that is playing. -/
def strike (player : Player) (beat : Beat) : Player :=
  match beat with
  | .rest => player
  | .stop => { player with position := none, gain := 0 }
  | .half | .full => { player with position := some 0, gain := beat.gain?.getD 0 }

/-- Append silence up to the cursor. -/
def pad : Player → Player
  | ⟨wave, volume, effect, position, gain, cursor, left, right⟩ =>
    let left := left ++ Array.replicate (cursor - left.size) 0
    let right := right ++ Array.replicate (cursor - right.size) 0
    ⟨wave, volume, effect, position, gain, cursor, left, right⟩

def tick : Player → Player
  | ⟨wave, volume, effect, position, gain, cursor, left, right⟩ =>
    match position with
    | none => ⟨wave, volume, effect, none, gain, cursor + 1, left.push 0, right.push 0⟩
    | some index =>
      if h : index < wave.size then
        let (frame, effect) := effect.apply (gain * wave[index] * volume)
        ⟨wave, volume, effect, some (index + 1), gain, cursor + 1,
          left.push frame.left, right.push frame.right⟩
      else ⟨wave, volume, effect, some index, gain, cursor + 1, left.push 0, right.push 0⟩

def tickMany : Nat → Player → Player
  | 0, player => player
  | count + 1, player => tickMany count player.tick

/-- Fill the channels up to the cursor and append a number of samples there. -/
def emit (player : Player) (count : Nat) : Player := tickMany count player.pad

def playBeat (length : Nat) (player : Player) (beat : Beat) : Player :=
  (player.strike beat).emit length

/-- Play one step of the song and go on from its end. -/
def play (track : String) (player : Player) (step : Step) : Player :=
  match step.phrase? with
  | none => player
  | some phrase =>
    let finish := player.cursor + step.span
    let played :=
      match phrase.beats.get? track with
      | none => player.emit step.span
      | some beats => beats.foldl (playBeat step.samplesPerBeat) player
    { played with cursor := finish }

def toTrack (player : Player) (name : String) : Track := ⟨name, player.left, player.right⟩

end Player

def renderTrack (name : String) (sample : Sample) (wave : Wave) (steps : List Step) : Track :=
  (steps.foldl (Player.play name) (.start sample wave)).toTrack name

/-- The track of one sample of a song. A sample without a wave is silent. -/
def trackOf (waves : NameTable Wave) (steps : List Step) (entry : String × Sample) : Track :=
  renderTrack entry.1 entry.2 ((waves.get? entry.1).getD #[]) steps

/-- Every sample's track, in the order of names. Tracks do not depend on each other, so they may be
played at the same time. -/
def renderTracks (song : Song) (waves : NameTable Wave) (parallel : Bool) : List Track :=
  let steps := steps song
  if parallel then
    let tasks := song.samples.entries.map fun entry => Task.spawn fun _ => trackOf waves steps entry
    tasks.map Task.get
  else song.samples.entries.map (trackOf waves steps)

theorem renderTracks_eq_map (song : Song) (waves : NameTable Wave) (parallel : Bool) :
    renderTracks song waves parallel =
      song.samples.entries.map (trackOf waves (steps song)) := by
  cases parallel with
  | false => rfl
  | true => simp [renderTracks, Task.spawn]

end Playback

end DrumMachine
