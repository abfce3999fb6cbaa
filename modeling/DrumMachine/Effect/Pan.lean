import DrumMachine.Effect.Frame

/-!
# Pan

Places a mono signal between the channels by turning down the far one.
-/

namespace DrumMachine

structure Pan.Settings where
  pan : Int := 0
deriving DecidableEq, Repr

/-- Take one setting; a value without a name is the pan itself. -/
def Pan.Settings.assign (settings : Pan.Settings) (key : Option String) (value : Int) :
    Pan.Settings :=
  match key with
  | none | some "pan" => { settings with pan := value }
  | some _ => settings

structure Pan where
  pan : Int
deriving DecidableEq, Repr

namespace Pan

def ofSettings (settings : Settings) : Pan := ⟨Level.clampPan settings.pan⟩

def process (effect : Pan) (sample : Float32) : Frame :=
  let far := sample * Level.farPercent effect.pan / 100
  if effect.pan < 0 then ⟨sample, far⟩
  else if 0 < effect.pan then ⟨far, sample⟩
  else .mono sample

end Pan

end DrumMachine
