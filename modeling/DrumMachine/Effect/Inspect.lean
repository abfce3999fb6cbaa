import DrumMachine.Effect.Binding
import DrumMachine.Text.Quoted

/-!
# Inspecting effect bindings

One line that tells all of a binding but the inside of its running effect, for messages to
developers.
-/

namespace DrumMachine

mutual

def Value.inspect : Value → String
  | .scalar text => "Scalar(" ++ Text.quoted text ++ ")"
  | .list items => "List([" ++ Value.inspectItems items ++ "])"
  | .option name value =>
    "Option(OptionNode \x7b name: " ++ Text.quoted name ++ ", value: " ++ value.inspect ++ " \x7d)"

def Value.inspectItems : List Value → String
  | [] => ""
  | [item] => item.inspect
  | item :: rest => item.inspect ++ ", " ++ Value.inspectItems rest

end

/-- A binding's name and parameters, and whether its effect is running. -/
def Effect.Binding.inspect (binding : Effect.Binding) : String :=
  let params := match binding.params with
    | none => "None"
    | some value => "Some(" ++ value.inspect ++ ")"
  "EffectBinding \x7b name: " ++ Text.quoted binding.name ++ ", params: " ++ params ++
    ", instantiated: " ++ (if binding.running.isSome then "true" else "false") ++ " \x7d"

end DrumMachine
