import DrumMachine.Effect.DelayLine
import DrumMachine.Effect.Frame

/-!
# Reverb

After a predelay the signal goes through two all-pass stages and two comb stages on each channel;
the combs feed each channel from the history of the other. The result is mixed with the dry signal.
-/

namespace DrumMachine

structure Reverb.Settings where
  delay : Int := 0
  pan : Int := 0
  level : Int := 30
  decay : Int := 50
deriving DecidableEq, Repr

/-- Take one setting; other names are ignored. -/
def Reverb.Settings.assign (settings : Reverb.Settings) (key : Option String) (value : Int) :
    Reverb.Settings :=
  match key with
  | some "delay" => { settings with delay := value }
  | some "pan" => { settings with pan := value }
  | some "level" => { settings with level := value }
  | some "decay" => { settings with decay := value }
  | _ => settings

/-- The samples that each line of a reverb remembers. -/
abbrev Reverb.memory : Nat := 512

structure Reverb.Stage where
  left : DelayLine Reverb.memory
  right : DelayLine Reverb.memory

structure Reverb where
  predelay : DelayLine Reverb.memory
  delay : Nat
  firstAllPass : Reverb.Stage
  secondAllPass : Reverb.Stage
  longComb : Reverb.Stage
  shortComb : Reverb.Stage
  pan : Int
  level : Float32
  decay : Float32

namespace Reverb

/-- The feedback delays of the two comb stages. -/
def longBack : Nat := 220
def shortBack : Nat := 75

/-- The greatest feedback factor, which keeps the tail from growing. -/
def maxDecay : Float32 := 0.99

def Stage.silent : Stage := ⟨.silent memory, .silent memory⟩

def ofSettings (settings : Settings) : Reverb where
  predelay := .silent memory
  delay := (Level.clamp 0 100 settings.delay).toNat * (memory - 1) / 100
  firstAllPass := .silent
  secondAllPass := .silent
  longComb := .silent
  shortComb := .silent
  pan := Level.clampPan settings.pan
  level := Level.percent settings.level
  decay :=
    let decay := Level.percent settings.decay
    if maxDecay < decay then maxDecay else decay

/-- One step of an all-pass filter, whose line holds what was fed to it `memory` steps ago. -/
def allPass (decay : Float32) (line : DelayLine memory) (sample : Float32) :
    Float32 × DelayLine memory :=
  let out := line.tap (memory - 1) - decay * sample
  (out, line.push (sample + decay * out))

/-- An all-pass filter on each channel. -/
def Stage.allPass (decay : Float32) : Stage → Frame → Frame × Stage
  | ⟨left, right⟩, wet =>
    let (outLeft, left) := Reverb.allPass decay left wet.left
    let (outRight, right) := Reverb.allPass decay right wet.right
    (⟨outLeft, outRight⟩, ⟨left, right⟩)

/-- A comb filter on each channel, fed by what the other one put out `back` steps ago. -/
def Stage.crossComb (decay : Float32) (back : Nat) : Stage → Frame → Frame × Stage
  | ⟨left, right⟩, wet =>
    let outLeft := wet.left + decay * right.tap (back - 1)
    let outRight := wet.right + decay * left.tap (back - 1)
    (⟨outLeft, outRight⟩, ⟨left.push outLeft, right.push outRight⟩)

def mix (pan : Int) (level : Float32) (sample : Float32) (wet : Frame) : Frame :=
  let gains := Level.panGains pan
  let dry := 1 - level
  ⟨level * wet.left + dry * gains.1 * sample, level * wet.right + dry * gains.2 * sample⟩

def process : Reverb → Float32 → Frame × Reverb
  | ⟨predelay, delay, firstAllPass, secondAllPass, longComb, shortComb, pan, level, decay⟩,
      sample =>
    let predelay := predelay.push sample
    let wet := Frame.mono (predelay.tap delay)
    let (wet, firstAllPass) := firstAllPass.allPass decay wet
    let (wet, secondAllPass) := secondAllPass.allPass decay wet
    let (wet, longComb) := longComb.crossComb decay longBack wet
    let (wet, shortComb) := shortComb.crossComb decay shortBack wet
    (mix pan level sample wet,
      ⟨predelay, delay, firstAllPass, secondAllPass, longComb, shortComb, pan, level, decay⟩)

end Reverb

end DrumMachine
