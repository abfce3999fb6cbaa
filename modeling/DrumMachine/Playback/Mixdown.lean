import DrumMachine.Playback.Track

/-!
# Mixdown

Tracks are brought together by adding them up, or each is kept on its own; either way every channel
is filled with silence to the length of the longest track and bent softly into the range from -1 to
1.
-/

namespace DrumMachine

structure Stereo where
  left : Array Float32 := #[]
  right : Array Float32 := #[]
deriving DecidableEq, Inhabited

namespace Stereo

def frames (sound : Stereo) : Nat := sound.left.size

/-- The samples in the order of time, left before right. -/
def interleaved (sound : Stereo) : Array Float32 :=
  (sound.left.zip sound.right).foldl (fun samples pair => (samples.push pair.1).push pair.2) #[]

end Stereo

namespace Mixdown

/-- The channel cut or filled with silence to a number of samples. -/
def fit (count : Nat) (channel : Array Float32) : Array Float32 :=
  channel.take count ++ Array.replicate (count - channel.size) 0

/-- Add a channel onto a mix, as far as both reach; the mix keeps its length. -/
def addOnto (mix channel : Array Float32) : Array Float32 :=
  mix.mapIdx fun index sample =>
    match channel[index]? with
    | some other => sample + other
    | none => sample

/-- The sum of channels, added in order to silence. -/
def sum (count : Nat) (channels : List (Array Float32)) : Array Float32 :=
  channels.foldl addOnto (Array.replicate count 0)

def softClip (channel : Array Float32) : Array Float32 := channel.map Float32.tanh

def unified (tracks : List Track) : Stereo :=
  let count := Track.longest tracks
  ⟨softClip (sum count (tracks.map Track.left)), softClip (sum count (tracks.map Track.right))⟩

def split (tracks : List Track) : List (String × Stereo) :=
  let count := Track.longest tracks
  tracks.map fun track =>
    (track.name, ⟨softClip (fit count track.left), softClip (fit count track.right)⟩)

end Mixdown

end DrumMachine
