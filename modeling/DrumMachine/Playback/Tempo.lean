/-!
# Tempo

How many samples a beat lasts. A beat is a whole number of samples, the same for every track, so
phrases end together. A tempo that is not positive gives beats of no length.
-/

namespace DrumMachine.Tempo

/-- Samples per second. -/
def sampleRate : Nat := 44100

/-- The longest span that can be told. -/
def maxSpan : Nat := 0xffffffffffffffff

/-- Samples of one beat, with the fraction dropped. -/
def samplesPerBeat (bpm : Int32) : Nat :=
  if 0 < bpm.toInt then sampleRate * 60 / bpm.toInt.toNat else 0

/-- Samples of a number of beats, up to the longest span. -/
def beatsToSamples (beats : Nat) (bpm : Int32) : Nat := min (beats * samplesPerBeat bpm) maxSpan

def seconds (samples : Nat) : Float := Float.ofNat samples / Float.ofNat sampleRate

end DrumMachine.Tempo
