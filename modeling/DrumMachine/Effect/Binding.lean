import DrumMachine.Effect.Basic

/-!
# Effect bindings

What a sample declares as its effect, together with the effect itself once it has been used: the
first sample applied builds it from the name and parameters of that moment, and later samples go on
with it whatever the declaration becomes.
-/

namespace DrumMachine

structure Effect.Binding where
  name : String := "pan"
  params : Option Value := none
  running : Option Effect := none

namespace Effect.Binding

instance : Inhabited Binding := ⟨{}⟩

def unbound (binding : Binding) : Binding := ⟨binding.name, binding.params, none⟩

/-- The two declare the same effect; what is running does not matter. -/
def declaresSame (left right : Binding) : Bool :=
  left.name == right.name && left.params == right.params

/-- The running effect, or the one that starts now. -/
def effect (binding : Binding) : Effect :=
  binding.running.getD (instantiate binding.name binding.params)

/-- Process a sample, starting the effect if it is the first. -/
def apply : Binding → Float32 → Frame × Binding
  | ⟨name, params, running⟩, sample =>
    let (frame, effect) :=
      (match running with
        | some effect => effect
        | none => instantiate name params).process sample
    (frame, ⟨name, params, some effect⟩)

theorem apply_eq (binding : Binding) (sample : Float32) :
    binding.apply sample =
      ((binding.effect.process sample).1,
        { binding with running := some (binding.effect.process sample).2 }) := by
  obtain ⟨name, params, running⟩ := binding
  cases running <;> rfl

end Effect.Binding

end DrumMachine
