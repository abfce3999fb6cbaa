import DrumMachine.Effect.Binding
import DrumMachine.NameTable
import DrumMachine.Playback.Tempo
import DrumMachine.Song.Beat

/-!
# Songs

A song declares samples, phrases made of one grid of beats per track, and the order in which phrases
are played. The order may name phrases that are not declared; they last no time.
-/

namespace DrumMachine

/-- A sound file with the volume, in percent, and the effect it is played with. -/
structure Sample where
  path : String := ""
  volume : Int32 := 0
  effect : Effect.Binding := {}
deriving Inhabited

namespace Sample

/-- The volume as a factor. -/
def volumeScale (sample : Sample) : Float32 := Float32.ofInt sample.volume.toInt / 100

def unbound (sample : Sample) : Sample := { sample with effect := sample.effect.unbound }

/-- The two declare the same sample; running effects do not matter. -/
def declaresSame (left right : Sample) : Bool :=
  left.path == right.path && left.volume == right.volume &&
    left.effect.declaresSame right.effect

end Sample

/-- A tempo and a grid for each track that plays. -/
structure Phrase where
  bpm : Int32 := 120
  beats : NameTable (List Beat) := ∅
deriving DecidableEq, Inhabited

namespace Phrase

/-- The beats of the longest grid. -/
def beatCount (phrase : Phrase) : Nat := (phrase.beats.values.map List.length).foldl max 0

def span (phrase : Phrase) : Nat := Tempo.beatsToSamples phrase.beatCount phrase.bpm

end Phrase

structure Song where
  samples : NameTable Sample := ∅
  phrases : NameTable Phrase := ∅
  output : List String := []
deriving Inhabited

namespace Song

def spanOf (song : Song) (name : String) : Nat :=
  match song.phrases.get? name with
  | some phrase => phrase.span
  | none => 0

def totalSamples (song : Song) : Nat := (song.output.map song.spanOf).foldr (· + ·) 0

/-- The names in the order of play that no phrase has. -/
def dangling (song : Song) : List String :=
  song.output.filter fun name => !song.phrases.contains name

/-- The same song with no effect running. -/
def unbound (song : Song) : Song :=
  { song with samples := song.samples.map fun _ sample => sample.unbound }

/-- The two declare the same song; running effects do not matter. -/
def declaresSame (left right : Song) : Bool :=
  left.samples.names == right.samples.names &&
    (left.samples.values.zip right.samples.values).all (fun pair => pair.1.declaresSame pair.2) &&
    left.phrases == right.phrases && left.output == right.output

end Song

end DrumMachine
