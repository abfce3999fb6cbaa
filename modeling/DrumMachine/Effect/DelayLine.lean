/-!
# Delay lines

A delay line remembers the samples most recently pushed into it, in a ring that is overwritten from
its oldest end. `tap age` reads the sample pushed `age` pushes before the latest one; before
anything was pushed the line is silent.
-/

namespace DrumMachine

/-- A ring of `size` samples; `head` is the slot that the next push overwrites. -/
structure DelayLine (size : Nat) where
  slots : Vector Float32 size
  head : Nat
  head_lt : head < size

namespace DelayLine

variable {size : Nat}

/-- The line that has only heard silence. -/
def silent (size : Nat) (positive : 0 < size := by decide) : DelayLine size :=
  ⟨.replicate size 0, 0, positive⟩

/-- The slot after one, around the ring. -/
def next (size slot : Nat) : Nat := if slot + 1 < size then slot + 1 else 0

theorem next_lt {slot : Nat} (h : slot < size) : next size slot < size := by
  unfold next
  split <;> omega

/-- Record a sample in place of the oldest one. -/
def push : DelayLine size → Float32 → DelayLine size
  | ⟨slots, head, head_lt⟩, sample => ⟨slots.set head sample, next size head, next_lt head_lt⟩

/-- The slot pushed `age` pushes before the latest one. -/
def slotOf (line : DelayLine size) (age : Nat) : Nat := (line.head + size - (age + 1)) % size

theorem slotOf_lt (line : DelayLine size) (age : Nat) : line.slotOf age < size :=
  Nat.mod_lt _ (Nat.lt_of_le_of_lt (Nat.zero_le _) line.head_lt)

/-- The sample pushed `age` pushes before the latest one, for an age below `size`. -/
def tap (line : DelayLine size) (age : Nat) : Float32 :=
  line.slots.get ⟨line.slotOf age, line.slotOf_lt age⟩

end DelayLine

end DrumMachine
