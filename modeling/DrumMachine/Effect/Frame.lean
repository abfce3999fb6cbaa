/-!
# Stereo frames and channel levels

The two samples that sound at one moment, and the gains by which effects place a mono signal between
the channels. All arithmetic is IEEE single precision in the order written.
-/

namespace DrumMachine

/-- One sample for each ear. -/
structure Frame where
  left : Float32
  right : Float32
deriving DecidableEq, Inhabited, Repr

namespace Frame

def silence : Frame := ⟨0, 0⟩

def mono (sample : Float32) : Frame := ⟨sample, sample⟩

end Frame

namespace Level

/-- The number, or the end of the range that it lies beyond. -/
def clamp (low high n : Int) : Int := max low (min n high)

theorem toNat_clamp_le (n : Int) : (clamp 0 100 n).toNat ≤ 100 := by
  rw [clamp]
  omega

/-- A setting from 0 to 100 as a factor from 0 to 1. -/
def percent (n : Int) : Float32 := Float32.ofInt (clamp 0 100 n) / 100

/-- A place between the channels, from -100 at the left to 100 at the right. -/
def clampPan (pan : Int) : Int := clamp (-100) 100 pan

/-- What is left for the far channel, in percent. -/
def farPercent (pan : Int) : Float32 := Float32.ofInt (100 - pan.natAbs)

/-- The gains of the left and the right channel: the far side is attenuated by the pan, the near
side stays as it is. -/
def panGains (pan : Int) : Float32 × Float32 :=
  let far := farPercent pan / 100
  if pan < 0 then (1, far) else if 0 < pan then (far, 1) else (1, 1)

end Level

end DrumMachine
