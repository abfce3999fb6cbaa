import DrumMachine.Effect.DelayLine
import DrumMachine.Proofs.Effect.Frames
import Mathlib.Logic.ExistsUnique

/-!
# Delay lines as histories

A delay line is a window on the signal that was pushed into it: its taps are the signal's last values,
however often the ring has been overwritten (`DelayLine.Records`). So an effect made of delay lines
can be described by its signals over all time, of which each line only keeps what is still needed.
-/

namespace DrumMachine

/-- The value of a signal a number of steps before a time; before the signal there is silence. -/
def past (signal : Nat → Float32) (time back : Nat) : Float32 :=
  if back ≤ time then signal (time - back) else 0

theorem past_zero (signal : Nat → Float32) (time : Nat) : past signal time 0 = signal time := by
  rw [past, if_pos (Nat.zero_le time), Nat.sub_zero]

theorem past_succ_succ (signal : Nat → Float32) (time back : Nat) :
    past signal (time + 1) (back + 1) = past signal time back := by
  by_cases hback : back ≤ time
  · rw [past, past, if_pos hback, if_pos (by omega), Nat.add_sub_add_right]
  · rw [past, past, if_neg hback, if_neg (by omega)]

/-- What lies back is decided by the values before the time. -/
theorem past_congr {signal other : Nat → Float32} {time back : Nat} (hback : 0 < back)
    (h : ∀ earlier < time, signal earlier = other earlier) :
    past signal time back = past other time back := by
  by_cases hle : back ≤ time
  · rw [past, past, if_pos hle, if_pos hle]
    apply h
    omega
  · rw [past, past, if_neg hle, if_neg hle]

namespace DelayLine

variable {size : Nat}

/-! ### Slots of the ring -/

theorem next_eq_mod {slot : Nat} (h : slot < size) : next size slot = (slot + 1) % size := by
  rw [next]
  split
  · rename_i hlt
    rw [Nat.mod_eq_of_lt hlt]
  · rename_i hlt
    rw [show slot + 1 = size by omega, Nat.mod_self]

theorem slotOf_eq (line : DelayLine size) (age : Nat) :
    line.slotOf age = (line.head + size - (age + 1)) % size := rfl

/-- After a push, ages are counted back from the slot that was written. -/
theorem slotOf_push (line : DelayLine size) (sample : Float32) {age : Nat} (h : age < size) :
    (line.push sample).slotOf age = (line.head + size - age) % size := by
  have hhead := line.head_lt
  show (next size line.head + size - (age + 1)) % size = (line.head + size - age) % size
  rw [next]
  split
  · rw [show line.head + 1 + size - (age + 1) = line.head + size - age by omega]
  · rw [show 0 + size - (age + 1) = size - (age + 1) by omega,
      show line.head + size - age = size - (age + 1) + size by omega, Nat.add_mod_right]

/-- The slots of younger values are not overwritten. -/
theorem slotOf_ne_head (line : DelayLine size) {age : Nat} (h : age + 1 < size) :
    line.slotOf age ≠ line.head := by
  have hhead := line.head_lt
  rw [slotOf_eq]
  by_cases hwrap : age + 1 ≤ line.head
  · rw [show line.head + size - (age + 1) = line.head - (age + 1) + size by omega,
      Nat.add_mod_right, Nat.mod_eq_of_lt (by omega)]
    omega
  · rw [Nat.mod_eq_of_lt (by omega)]
    omega

/-! ### Taps -/

theorem tap_eq_getElem (line : DelayLine size) {age slot : Nat} (hslot : slot < size)
    (h : line.slotOf age = slot) : line.tap age = line.slots[slot] := by
  subst h
  rfl

theorem tap_silent (positive : 0 < size) (age : Nat) : (silent size positive).tap age = 0 := by
  rw [tap_eq_getElem _ (slotOf_lt _ age) rfl]
  exact Vector.getElem_replicate (slotOf_lt _ age)

theorem tap_push_zero (line : DelayLine size) (sample : Float32) :
    (line.push sample).tap 0 = sample := by
  have hhead := line.head_lt
  have hslot : (line.push sample).slotOf 0 = line.head := by
    rw [slotOf_push line sample (by omega), Nat.sub_zero, Nat.add_mod_right,
      Nat.mod_eq_of_lt hhead]
  rw [tap_eq_getElem _ hhead hslot]
  exact Vector.getElem_set_self hhead

theorem tap_push_succ (line : DelayLine size) (sample : Float32) {age : Nat} (h : age + 1 < size) :
    (line.push sample).tap (age + 1) = line.tap age := by
  have hslot : (line.push sample).slotOf (age + 1) = line.slotOf age := slotOf_push line sample h
  have hne := line.slotOf_ne_head h
  rw [tap_eq_getElem _ (line.slotOf_lt age) hslot, tap_eq_getElem line (line.slotOf_lt age) rfl]
  exact Vector.getElem_set_ne line.head_lt (line.slotOf_lt age) hne.symm

/-! ### Histories -/

/-- The line holds what is still kept of a signal that has been pushed up to a time. -/
structure Records (line : DelayLine size) (signal : Nat → Float32) (time : Nat) : Prop where
  head_eq : line.head = time % size
  tap_eq : ∀ age < size, line.tap age = past signal time (age + 1)

theorem records_silent (positive : 0 < size) (signal : Nat → Float32) :
    (silent size positive).Records signal 0 where
  head_eq := (Nat.zero_mod size).symm
  tap_eq age _ := by
    rw [tap_silent, past, if_neg (Nat.not_succ_le_zero age)]

theorem Records.push {line : DelayLine size} {signal : Nat → Float32} {time : Nat}
    (h : line.Records signal time) : (line.push (signal time)).Records signal (time + 1) where
  head_eq := by
    show next size line.head = _
    rw [next_eq_mod line.head_lt, h.head_eq, Nat.mod_add_mod]
  tap_eq age hage := by
    rw [past_succ_succ]
    cases age with
    | zero => rw [tap_push_zero, past_zero]
    | succ age => rw [tap_push_succ line _ hage, h.tap_eq age (by omega)]

/-- What lies back in the signal, read right after its latest value was pushed. -/
theorem Records.tap_push {line : DelayLine size} {signal : Nat → Float32} {time back : Nat}
    (h : line.Records signal time) (hback : back < size) :
    (line.push (signal time)).tap back = past signal time back := by
  rw [h.push.tap_eq back hback, past_succ_succ]

/-- What lies back in the signal, read before its next value is pushed. -/
theorem Records.tap_before {line : DelayLine size} {signal : Nat → Float32} {time back : Nat}
    (h : line.Records signal time) (hpos : 0 < back) (hback : back ≤ size) :
    line.tap (back - 1) = past signal time back := by
  rw [h.tap_eq (back - 1) (by omega), Nat.sub_add_cancel hpos]

end DelayLine

/-! ### Feedback -/

section

variable {α : Type} [Inhabited α]

/-- The signal whose value at each time is computed from its earlier values. -/
def solution (step : (Nat → α) → Nat → α) (time : Nat) : α :=
  step (fun earlier => if _hlt : earlier < time then solution step earlier else default) time
termination_by time

/-- Feedback that only looks back determines a signal. -/
theorem existsUnique_of_causal {step : (Nat → α) → Nat → α}
    (hcausal : ∀ signal other time, (∀ earlier < time, signal earlier = other earlier) →
      step signal time = step other time) :
    ∃! signal : Nat → α, ∀ time, signal time = step signal time := by
  have hsolution : ∀ time, solution step time = step (solution step) time := by
    intro time
    rw [solution]
    apply hcausal
    intro earlier hearlier
    exact dif_pos hearlier
  refine ⟨solution step, hsolution, fun other hother => ?_⟩
  funext time
  induction time using Nat.strongRecOn with
  | ind time ih => rw [hother, hsolution, hcausal _ _ time ih]

end

/-! ### Runs of an effect -/

/-- What one sample keeps and yields at each time, all samples up to a time keep and yield. -/
theorem Effect.frames_of_step {σ : Type} {effect : σ → Effect} {holds : Nat → σ → Prop}
    {input : Nat → Float32} {output : Nat → Frame}
    (hstep : ∀ time state, holds time state → ∃ next,
      (effect state).process (input time) = (output time, effect next) ∧ holds (time + 1) next)
    {start : σ} (hstart : holds 0 start) (time : Nat) :
    (effect start).frames ((List.range time).map input) = (List.range time).map output ∧
      ∃ state, (effect start).after ((List.range time).map input) = effect state ∧
        holds time state := by
  induction time with
  | zero => exact ⟨rfl, start, rfl, hstart⟩
  | succ time ih =>
    obtain ⟨hframes, state, hafter, hholds⟩ := ih
    obtain ⟨next, hprocess, hnext⟩ := hstep time state hholds
    rw [List.range_succ, List.map_append, List.map_singleton, frames_append, after_append, hframes,
      hafter, hprocess]
    refine ⟨?_, next, rfl, hnext⟩
    rw [List.map_append, List.map_singleton]

/-- Samples as a signal, with silence after their end. -/
def signalOf (samples : List Float32) (time : Nat) : Float32 := samples.getD time 0

theorem map_signalOf (samples : List Float32) :
    (List.range samples.length).map (signalOf samples) = samples := by
  apply List.ext_getElem
  · rw [List.length_map, List.length_range]
  · intro time _ htime
    simp [signalOf, htime]

end DrumMachine
