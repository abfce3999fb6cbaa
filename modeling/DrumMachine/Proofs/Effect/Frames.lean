import DrumMachine.Effect.Basic

/-!
# Samples in a row

An effect fed with samples one after the other, by the frames it yields and by what it has become.
-/

namespace DrumMachine.Effect

/-- The frames for samples fed in order. -/
def frames : Effect → List Float32 → List Frame
  | _, [] => []
  | effect, sample :: rest => (effect.process sample).1 :: (effect.process sample).2.frames rest

/-- The effect after samples fed in order. -/
def after : Effect → List Float32 → Effect
  | effect, [] => effect
  | effect, sample :: rest => (effect.process sample).2.after rest

theorem frames_append (effect : Effect) (samples : List Float32) (last : Float32) :
    effect.frames (samples ++ [last]) =
      effect.frames samples ++ [((effect.after samples).process last).1] := by
  induction samples generalizing effect with
  | nil => rfl
  | cons sample rest ih =>
    rw [List.cons_append, frames, frames, after, ih, List.cons_append]

theorem after_append (effect : Effect) (samples : List Float32) (last : Float32) :
    effect.after (samples ++ [last]) = ((effect.after samples).process last).2 := by
  induction samples generalizing effect with
  | nil => rfl
  | cons sample rest ih => rw [List.cons_append, after, after, ih]

/-- A pan remembers nothing. -/
theorem frames_pan (pan : Pan) (samples : List Float32) :
    (Effect.pan pan).frames samples = samples.map pan.process := by
  induction samples with
  | nil => rfl
  | cons sample rest ih =>
    rw [frames, List.map_cons, ← ih]
    rfl

end DrumMachine.Effect
