import DrumMachine.Document.Value
import DrumMachine.Effect.Chorus
import DrumMachine.Effect.Pan
import DrumMachine.Effect.Reverb
import DrumMachine.Text.Numeral

/-!
# Effects by name

A track's stereo effect is chosen by a name and set up from a parameter tree: each scalar of the
tree is a number for the setting that the nearest option around it names, and the last one given
counts. A name that no effect has stands for a pan in the middle.
-/

namespace DrumMachine

inductive Plugin where
  | pan
  | chorus
  | reverb
deriving DecidableEq, Repr

namespace Plugin

def name : Plugin → String
  | .pan => "pan"
  | .chorus => "chorus"
  | .reverb => "reverb"

def all : List Plugin := [.pan, .chorus, .reverb]

def ofName? (name : String) : Option Plugin := all.find? (·.name = name)

def unknownMessage (name : String) : String := "unknown stereo plugin: " ++ name

end Plugin

inductive Effect where
  | pan (effect : Pan)
  | chorus (effect : Chorus)
  | reverb (effect : Reverb)

namespace Effect

/-- The numbers given in a parameter tree, in order, with the names they are given for. -/
def parameters (params : Option Value) : List (Option String × Int) :=
  match params with
  | none => []
  | some tree => (tree.leaves none).map fun leaf => (leaf.1, (Text.lenientInt leaf.2).toInt)

/-- Apply all numbers of a parameter tree to settings, in order. -/
def configure {σ : Type} (assign : σ → Option String → Int → σ) (settings : σ)
    (params : Option Value) : σ :=
  (parameters params).foldl (fun settings given => assign settings given.1 given.2) settings

def ofPlugin (plugin : Plugin) (params : Option Value) : Effect :=
  match plugin with
  | .pan => .pan (.ofSettings (configure Pan.Settings.assign {} params))
  | .chorus => .chorus (.ofSettings (configure Chorus.Settings.assign {} params))
  | .reverb => .reverb (.ofSettings (configure Reverb.Settings.assign {} params))

def instantiate (name : String) (params : Option Value) : Effect :=
  match Plugin.ofName? name with
  | some plugin => ofPlugin plugin params
  | none => .pan (.ofSettings {})

def plugin : Effect → Plugin
  | .pan _ => .pan
  | .chorus _ => .chorus
  | .reverb _ => .reverb

/-- The frame for one sample, and the effect that goes on from there. -/
def process : Effect → Float32 → Frame × Effect
  | .pan effect, sample => (effect.process sample, .pan effect)
  | .chorus effect, sample =>
    let (frame, effect) := effect.process sample
    (frame, .chorus effect)
  | .reverb effect, sample =>
    let (frame, effect) := effect.process sample
    (frame, .reverb effect)

end Effect

end DrumMachine
