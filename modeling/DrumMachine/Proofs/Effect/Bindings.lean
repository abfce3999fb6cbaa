import DrumMachine.Effect.Binding
import DrumMachine.Proofs.Effect.Frames
import Mathlib.Data.List.DropRight
import Mathlib.Data.List.Forall2

/-!
# Bindings in use

Bindings can be played through, written to, copied, and copied without what is running in them, in any
order. What a binding gives is decided by what has happened to it and to the ones that it was made of
(`Binding.History`): since it was unbound last, all its frames come from one effect, which its first
sample started from the fields of that moment (`History.Describes`, `describes_run`).
-/

namespace DrumMachine.Effect.Binding

/-- What can be done with a binding. The last two make another binding of it. -/
inductive Action where
  | apply (sample : Float32)
  | rename (name : String)
  | setParams (params : Option Value)
  | clone
  | unbound

namespace Action

def sample? : Action → Option Float32
  | .apply sample => some sample
  | _ => none

def name? : Action → Option String
  | .rename name => some name
  | _ => none

def params? : Action → Option (Option Value)
  | .setParams params => some params
  | _ => none

def isUnbound : Action → Bool
  | .unbound => true
  | _ => false

/-- The result is another binding, and the one it is made of stays as it is. -/
def makesAnother : Action → Bool
  | .clone | .unbound => true
  | _ => false

end Action

/-- The frame that an action gives, if it gives one, and the binding that comes of it. -/
def act (binding : Binding) : Action → Option Frame × Binding
  | .apply sample =>
    let (frame, next) := binding.apply sample
    (some frame, next)
  | .rename name => (none, { binding with name := name })
  | .setParams params => (none, { binding with params := params })
  | .clone => (none, binding)
  | .unbound => (none, binding.unbound)

/-! ### Several bindings -/

/-- An action on one of several bindings. -/
structure Call where
  index : Nat
  action : Action

namespace Call

/-- Put what comes of an action in the place of what it was done with, or after all others if it is
another one. Where there is nothing, nothing is done. -/
def place {α : Type} (call : Call) (items : List α) (result : α → α) : List α :=
  match items[call.index]? with
  | none => items
  | some item =>
    if call.action.makesAnother then items ++ [result item] else items.set call.index (result item)

def answer (call : Call) (bindings : List Binding) : Option Frame :=
  bindings[call.index]?.bind fun binding => (binding.act call.action).1

def next (call : Call) (bindings : List Binding) : List Binding :=
  call.place bindings fun binding => (binding.act call.action).2

end Call

/-- The bindings after calls. -/
def run (bindings : List Binding) (calls : List Call) : List Binding :=
  calls.foldl (fun bindings call => call.next bindings) bindings

/-- The calls, each with the frame that it gives. -/
def answered : List Binding → List Call → List (Call × Option Frame)
  | _, [] => []
  | bindings, call :: rest => (call, call.answer bindings) :: answered (call.next bindings) rest

/-! ### Histories -/

/-- The actions that led to a binding, with the frames that they gave: first those of the binding that
it was made of. -/
abbrev History := List (Action × Option Frame)

/-- A call is kept in the history of what comes of it. -/
def Call.record (histories : List History) (call : Call) (frame? : Option Frame) : List History :=
  call.place histories fun history => history ++ [(call.action, frame?)]

/-- The histories of all bindings after calls, when there was one binding in the beginning. -/
def historiesOf (calls : List (Call × Option Frame)) : List History :=
  calls.foldl (fun histories answered => answered.1.record histories answered.2) [[]]

namespace History

/-- The name given last. -/
def name (first : String) (history : History) : String :=
  (history.filterMap fun event => event.1.name?).getLast?.getD first

/-- The parameters given last. -/
def params (first : Option Value) (history : History) : Option Value :=
  (history.filterMap fun event => event.1.params?).getLast?.getD first

def samples (history : History) : List Float32 := history.filterMap fun event => event.1.sample?

def frames (history : History) : List Frame := history.filterMap Prod.snd

/-- What has happened since the binding was unbound last. -/
def current (history : History) : History := history.rtakeWhile fun event => !event.1.isUnbound

/-- What had happened when the first sample since then was applied; without one it is everything. -/
def beforeUse (history : History) : History :=
  history.rdropWhile (fun event => !event.1.isUnbound) ++
    (current history).takeWhile fun event => event.1.sample?.isNone

/-- The effect with the name and the parameters in force at the first sample since the binding was
unbound last. -/
def effect (start : Binding) (history : History) : Effect :=
  instantiate (name start.name (beforeUse history)) (params start.params (beforeUse history))

/-- The frames since the binding was unbound last are those of one effect that was fed the samples since
then, and if there were any, what it has become is running. -/
structure Runs (start : Binding) (history : History) (running : Option Effect) : Prop where
  frames_eq : frames (current history) = (effect start history).frames (samples (current history))
  running_eq : running =
    if samples (current history) = [] then none
    else some ((effect start history).after (samples (current history)))

/-- The history explains a binding that came of one without a running effect. -/
structure Describes (start : Binding) (history : History) (binding : Binding) : Prop where
  name_eq : binding.name = name start.name history
  params_eq : binding.params = params start.params history
  runs : Runs start history binding.running

/-! ### One event more -/

variable {history : History} {event : Action × Option Frame}

theorem samples_append (history : History) (event : Action × Option Frame) :
    samples (history ++ [event]) = samples history ++ event.1.sample?.toList := by
  rw [samples, List.filterMap_append, List.filterMap_cons]
  cases event.1.sample? with
  | none => rfl
  | some sample => rfl

theorem frames_append (history : History) (event : Action × Option Frame) :
    frames (history ++ [event]) = frames history ++ event.2.toList := by
  rw [frames, List.filterMap_append, List.filterMap_cons]
  cases event.2 with
  | none => rfl
  | some frame => rfl

theorem name_append (first : String) (history : History) (event : Action × Option Frame) :
    name first (history ++ [event]) = event.1.name?.getD (name first history) := by
  rw [name, List.filterMap_append, List.filterMap_cons, List.getLast?_append]
  cases event.1.name? with
  | none => rfl
  | some given => rfl

theorem params_append (first : Option Value) (history : History) (event : Action × Option Frame) :
    params first (history ++ [event]) = event.1.params?.getD (params first history) := by
  rw [params, List.filterMap_append, List.filterMap_cons, List.getLast?_append]
  cases event.1.params? with
  | none => rfl
  | some given => rfl

theorem current_append (h : event.1.isUnbound = false) :
    current (history ++ [event]) = current history ++ [event] :=
  List.rtakeWhile_concat_pos _ _ _ (by rw [h]; rfl)

theorem current_append_of_isUnbound (h : event.1.isUnbound = true) :
    current (history ++ [event]) = [] :=
  List.rtakeWhile_concat_neg _ _ _ (by rw [h]; exact Bool.false_ne_true)

theorem all_silent_iff :
    (∀ event ∈ history, event.1.sample?.isNone = true) ↔ samples history = [] := by
  rw [samples, List.filterMap_eq_nil_iff]
  simp only [Option.isNone_iff_eq_none]

/-- As long as no sample was applied, everything happens before the first one. -/
theorem beforeUse_of_unused (h : samples (current history) = []) : beforeUse history = history := by
  rw [beforeUse, List.takeWhile_eq_self_iff.2 (all_silent_iff.2 h)]
  exact List.rdropWhile_append_rtakeWhile

/-- Neither the first sample nor anything after it happens before it. -/
theorem beforeUse_append (h : event.1.isUnbound = false)
    (hused : samples (current (history ++ [event])) ≠ []) :
    beforeUse (history ++ [event]) = beforeUse history := by
  have hkept : (history ++ [event]).rdropWhile (fun event => !event.1.isUnbound) =
      history.rdropWhile fun event => !event.1.isUnbound :=
    List.rdropWhile_concat_pos _ _ _ (by rw [h]; rfl)
  rw [current_append h, samples_append] at hused
  rw [beforeUse, hkept, current_append h, List.takeWhile_append, beforeUse]
  split
  · rename_i hlength
    have hpart : (current history).takeWhile (fun event => event.1.sample?.isNone) <+:
        current history := List.takeWhile_prefix _
    have hall := hpart.eq_of_length hlength
    have hunused := all_silent_iff.1 (List.takeWhile_eq_self_iff.1 hall)
    rw [hunused, List.nil_append] at hused
    have hsample : ¬event.1.sample?.isNone = true := fun hnone =>
      hused (by rw [Option.isNone_iff_eq_none.1 hnone, Option.toList_none])
    have hstop : [event].takeWhile (fun event => event.1.sample?.isNone) = [] :=
      List.takeWhile_cons_of_neg hsample
    rw [hstop, List.append_nil, hall]
  · rfl

example (first second : Float32) (left right : Frame) :
    beforeUse [(.rename "reverb", none), (.unbound, none), (.apply first, some left),
      (.rename "chorus", none), (.apply second, some right)] =
      [(.rename "reverb", none), (.unbound, none)] := rfl

/-! ### One action more -/

variable {start binding : Binding} {running : Option Effect}

/-- An event that neither applies a sample nor unbinds leaves what is running as it is. -/
theorem Runs.append_silent (h : Runs start history running) (hunbound : event.1.isUnbound = false)
    (hsample : event.1.sample? = none) (hframe : event.2 = none) :
    Runs start (history ++ [event]) running := by
  have hsamples : samples (current (history ++ [event])) = samples (current history) := by
    rw [current_append hunbound, samples_append, hsample, Option.toList_none, List.append_nil]
  have hframes : frames (current (history ++ [event])) = frames (current history) := by
    rw [current_append hunbound, frames_append, hframe, Option.toList_none, List.append_nil]
  obtain ⟨hsound, hrunning⟩ := h
  rw [← hsamples, ← hframes] at hsound
  rw [← hsamples] at hrunning
  by_cases hunused : samples (current (history ++ [event])) = []
  · rw [hunused] at hsound
    rw [if_pos hunused] at hrunning
    refine ⟨?_, ?_⟩
    · rw [hunused, hsound]
      rfl
    · rw [if_pos hunused, hrunning]
  · have heffect : effect start (history ++ [event]) = effect start history := by
      rw [effect, beforeUse_append hunbound hunused, effect]
    rw [← heffect] at hsound hrunning
    exact ⟨hsound, hrunning⟩

/-- What processes the next sample has processed all those before it. -/
theorem Describes.effect_eq (h : history.Describes start binding) :
    binding.effect = (effect start history).after (samples (current history)) := by
  rw [Binding.effect, h.runs.running_eq]
  split
  · rename_i hunused
    rw [hunused, h.name_eq, h.params_eq, effect, beforeUse_of_unused hunused]
    rfl
  · rfl

theorem Describes.append_sample (h : history.Describes start binding) (sample : Float32) :
    let event := (Action.apply sample, some (binding.effect.process sample).1)
    Runs start (history ++ [event]) (some (binding.effect.process sample).2) := by
  intro event
  have hsamples : samples (current (history ++ [event])) = samples (current history) ++ [sample] := by
    rw [current_append rfl, samples_append]
    rfl
  have hframes : frames (current (history ++ [event])) =
      frames (current history) ++ [(binding.effect.process sample).1] := by
    rw [current_append rfl, frames_append]
    rfl
  have hused : samples (current (history ++ [event])) ≠ [] := by
    rw [hsamples]
    exact List.append_ne_nil_of_right_ne_nil _ (List.cons_ne_nil _ _)
  have heffect : effect start (history ++ [event]) = effect start history := by
    rw [effect, beforeUse_append rfl hused, effect]
  refine ⟨?_, ?_⟩
  · rw [hframes, hsamples, heffect, Effect.frames_append, h.runs.frames_eq, h.effect_eq]
  · rw [if_neg hused, hsamples, heffect, Effect.after_append, h.effect_eq]

/-- An unbound binding starts anew. -/
theorem runs_of_unbound (start : Binding) (history : History) :
    Runs start (history ++ [(.unbound, none)]) none := by
  have hcurrent : current (history ++ [(.unbound, none)]) = [] := current_append_of_isUnbound rfl
  refine ⟨?_, ?_⟩
  · rw [hcurrent]
    rfl
  · rw [hcurrent]
    exact (if_pos rfl).symm

/-- Whatever is done with a binding, its history and that action describe what comes of it. -/
theorem Describes.act (h : history.Describes start binding) (action : Action) :
    Describes start (history ++ [(action, (binding.act action).1)]) (binding.act action).2 := by
  have hname := name_append start.name history (action, (binding.act action).1)
  have hparams := params_append start.params history (action, (binding.act action).1)
  rw [← h.name_eq] at hname
  rw [← h.params_eq] at hparams
  cases action with
  | apply sample =>
    have hact : binding.act (.apply sample) = (some (binding.effect.process sample).1,
        { binding with running := some (binding.effect.process sample).2 }) := by
      rw [Binding.act, apply_eq]
    rw [hact] at hname hparams ⊢
    exact ⟨hname.symm, hparams.symm, h.append_sample sample⟩
  | rename given => exact ⟨hname.symm, hparams.symm, h.runs.append_silent rfl rfl rfl⟩
  | setParams given => exact ⟨hname.symm, hparams.symm, h.runs.append_silent rfl rfl rfl⟩
  | clone => exact ⟨hname.symm, hparams.symm, h.runs.append_silent rfl rfl rfl⟩
  | unbound => exact ⟨hname.symm, hparams.symm, runs_of_unbound start history⟩

end History

/-! ### Calls -/

section

variable {α β : Type} {related : α → β → Prop} {left : List α} {right : List β}

theorem forall₂_getElem? (h : List.Forall₂ related left right) (index : Nat) :
    (left[index]? = none ∧ right[index]? = none) ∨
      ∃ a b, left[index]? = some a ∧ right[index]? = some b ∧ related a b := by
  induction h generalizing index with
  | nil => exact .inl ⟨rfl, rfl⟩
  | cons hfirst hrest ih =>
    cases index with
    | zero => exact .inr ⟨_, _, rfl, rfl, hfirst⟩
    | succ index => exact ih index

theorem forall₂_set (h : List.Forall₂ related left right) {a : α} {b : β} (hab : related a b)
    (index : Nat) : List.Forall₂ related (left.set index a) (right.set index b) := by
  induction h generalizing index with
  | nil => exact .nil
  | cons hfirst hrest ih =>
    cases index with
    | zero => exact .cons hab hrest
    | succ index => exact .cons hfirst (ih index)

end

variable {start : Binding} {histories : List History} {bindings : List Binding}

/-- A call changes the binding that it is on, or adds one: the others, and what their histories say, stay
as they are. -/
theorem describes_next (h : List.Forall₂ (History.Describes start) histories bindings)
    (call : Call) :
    List.Forall₂ (History.Describes start) (call.record histories (call.answer bindings))
      (call.next bindings) := by
  rcases forall₂_getElem? h call.index with
    ⟨hhistory, hbinding⟩ | ⟨history, binding, hhistory, hbinding, hdescribes⟩
  · rw [Call.next, Call.record, Call.place, Call.place, hhistory, hbinding]
    exact h
  · have hanswer : call.answer bindings = (binding.act call.action).1 := by
      rw [Call.answer, hbinding, Option.bind_some]
    have hact := hdescribes.act call.action
    rw [Call.next, Call.record, Call.place, Call.place, hhistory, hbinding, hanswer]
    cases hanother : call.action.makesAnother with
    | true => exact List.rel_append h (.cons hact .nil)
    | false => exact forall₂_set h hact call.index

theorem describes_calls (h : List.Forall₂ (History.Describes start) histories bindings)
    (calls : List Call) :
    List.Forall₂ (History.Describes start)
      ((answered bindings calls).foldl
        (fun histories answered => answered.1.record histories answered.2) histories)
      (run bindings calls) := by
  induction calls generalizing histories bindings with
  | nil => exact h
  | cons call calls ih => exact ih (describes_next h call)

/-- In whatever order a binding, copies of it and their copies are used: the frames that one of them has
given since it was unbound last are those of a single effect, started from the fields in force at the
first of these samples and fed them in order. This effect is what is running in it, and its fields are
those given last. -/
theorem describes_run (name : String) (params : Option Value) (calls : List Call) :
    let start : Binding := ⟨name, params, none⟩
    List.Forall₂ (History.Describes start) (historiesOf (answered [start] calls))
      (run [start] calls) := by
  intro start
  have hstart : History.Describes start [] start := ⟨rfl, rfl, rfl, rfl⟩
  exact describes_calls (.cons hstart .nil) calls

end DrumMachine.Effect.Binding
