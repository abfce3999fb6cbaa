import DrumMachine.Effect.Chorus
import DrumMachine.Playback.Track

/-!
# A synthesised drum kit

Three sounds made from sine tones and noise that die away exponentially. The noise comes from a
generator with a fixed seed, so a sound is the same each time it is made.
-/

namespace DrumMachine.Kit

open Chorus (fullCircle)

/-- Samples per second. -/
def rate : Float32 := Float32.ofNat Tempo.sampleRate

def timeOf (index : Nat) : Float32 := Float32.ofNat index / rate

/-- What is left of a sound that dies away at a rate per second. -/
def decay (speed time : Float32) : Float32 := (-time * speed).exp

/-! ### Kick -/

/-- The frequency falls from 155 Hz towards 45 Hz. -/
def kickFrequency (time : Float32) : Float32 := 45 + 110 * decay 30 time

/-- The angle one sample later, within one turn. -/
def advance (phase frequency : Float32) : Float32 :=
  let phase := phase + fullCircle * frequency / rate
  if fullCircle ≤ phase then phase - fullCircle else phase

def kick : Wave :=
  ((List.range (Tempo.sampleRate * 3 / 10)).foldl (fun (state : Float32 × Wave) index =>
    let time := timeOf index
    let phase := advance state.1 (kickFrequency time)
    (phase, state.2.push (phase.sin * decay 9 time * 0.9))) (0, #[])).2

/-! ### Noise -/

/-- The next state of the generator: three shifts, each added without carry. -/
def scramble (state : UInt32) : UInt32 :=
  let state := state ^^^ (state <<< 13)
  let state := state ^^^ (state >>> 17)
  state ^^^ (state <<< 5)

/-- The sample from -1 to 1 that a state stands for. -/
def grain (state : UInt32) : Float32 := state.toFloat32 / UInt32.toFloat32 0xffffffff * 2 - 1

def noise : Nat → UInt32 → List Float32
  | 0, _ => []
  | count + 1, state =>
    let state := scramble state
    grain state :: noise count state

/-! ### Snare and hat -/

/-- Noise over a tone of 190 Hz. -/
def snareSample (grain : Float32) (index : Nat) : Float32 :=
  let time := timeOf index
  (grain * 0.6 + (fullCircle * 190 * time).sin * 0.4) * decay 22 time * 0.8

def snare : Wave :=
  ((noise (Tempo.sampleRate / 5) 0x5eed1234).mapIdx fun index grain =>
    snareSample grain index).toArray

/-- The differences of neighbouring samples, the first to silence. They keep the high tones. -/
def differences (samples : List Float32) : List Float32 :=
  List.zipWith (· - ·) samples (0 :: samples)

def hatSample (bright : Float32) (index : Nat) : Float32 := bright * 0.35 * decay 80 (timeOf index)

def hat : Wave :=
  ((differences (noise (Tempo.sampleRate / 20) 0x0badcafe)).mapIdx fun index bright =>
    hatSample bright index).toArray

end DrumMachine.Kit
