import DrumMachine.Effect.DelayLine
import DrumMachine.Effect.Frame

/-!
# Chorus

Adds two echoes of the signal, one at the delay and one at twice the delay, each leaning to one
side. A slow oscillator sweeps `modulatedDelay` around the delay; the echoes themselves stay where
they are.
-/

namespace DrumMachine

structure Chorus.Settings where
  delay : Int := 10
  pan : Int := 0
  amount : Int := 50
  speed : Int := 10
  depth : Int := 10
deriving DecidableEq, Repr

/-- Take one setting; other names are ignored. -/
def Chorus.Settings.assign (settings : Chorus.Settings) (key : Option String) (value : Int) :
    Chorus.Settings :=
  match key with
  | some "delay" => { settings with delay := value }
  | some "pan" => { settings with pan := value }
  | some "amount" => { settings with amount := value }
  | some "speed" => { settings with speed := value }
  | some "depth" => { settings with depth := value }
  | _ => settings

/-- The samples that a chorus remembers. -/
abbrev Chorus.memory : Nat := 4096

/-- Steps of the oscillator in one turn. -/
def Chorus.turn : Nat := 44100

structure Chorus where
  line : DelayLine Chorus.memory
  delay : Nat
  pan : Int
  amount : Float32
  depth : Float32
  speed : Nat
  phase : Nat
  modulatedDelay : Float32

namespace Chorus

/-- The longest delay whose double is still remembered. -/
def maxDelay : Nat := memory / 2 - 1

/-- The weight of an echo on its own side. -/
def nearWeight : Float32 := 0.67

/-- The weight of an echo on the other side. -/
def farWeight : Float32 := 0.33

def fullCircle : Float32 := 6.2831853071795864769

def ofSettings (settings : Settings) : Chorus where
  line := .silent memory
  delay := (Level.clamp 0 100 settings.delay).toNat * maxDelay / 100
  pan := Level.clampPan settings.pan
  amount := Level.percent settings.amount
  depth := Level.percent settings.depth
  speed := (Level.clamp 0 100 settings.speed).toNat
  phase := 0
  modulatedDelay := 0

/-- One output frame from the sample and its two echoes. -/
def mix (pan : Int) (amount : Float32) (sample echo second : Float32) : Frame :=
  let direct := (1 - amount / 2) * sample
  let gains := Level.panGains pan
  let near := amount * nearWeight
  let far := amount * farWeight
  let half := amount / 2
  if pan < 0 then
    ⟨gains.1 * direct + near * echo + far * second, gains.2 * direct + far * echo + near * second⟩
  else if 0 < pan then
    ⟨gains.1 * direct + far * echo + near * second, gains.2 * direct + near * echo + far * second⟩
  else .mono (direct + half * echo + half * second)

/-- The delay as the oscillator moves it at one phase. -/
def sweep (delay : Nat) (depth : Float32) (phase : Nat) : Float32 :=
  let lfo := depth * (fullCircle * Float32.ofNat phase / Float32.ofNat turn).sin
  Float32.ofNat delay * (1 + lfo)

def process : Chorus → Float32 → Frame × Chorus
  | ⟨line, delay, pan, amount, depth, speed, phase, _⟩, sample =>
    let line := line.push sample
    let frame := mix pan amount sample (line.tap delay) (line.tap (2 * delay))
    let phase := (phase + speed) % turn
    (frame, ⟨line, delay, pan, amount, depth, speed, phase, sweep delay depth phase⟩)

end Chorus

end DrumMachine
