import DrumMachine.Effect.Chorus
import DrumMachine.Proofs.Effect.History

/-!
# The echoes of a chorus

A chorus adds to each sample what was heard one delay and two delays before it, as if it remembered
everything (`frames_eq_echoes`), with weights that depend on the side it is panned to (`mix_eq`). Twice
the longest delay still lies within its ring, so neither tap ever meets a slot that has been
overwritten.
-/

namespace DrumMachine.Chorus

/-! ### One frame -/

/-- The near channel takes more of the first echo than of the second one, and the far channel, which is
attenuated, more of the second one. With the pan in the middle both channels are the same. -/
theorem mix_eq (pan : Int) (amount sample echo second : Float32) :
    let direct := (1 - amount / 2) * sample
    let attenuation := Float32.ofInt (100 - pan.natAbs) / 100
    mix pan amount sample echo second =
      if pan < 0 then
        ⟨1 * direct + amount * 0.67 * echo + amount * 0.33 * second,
          attenuation * direct + amount * 0.33 * echo + amount * 0.67 * second⟩
      else if 0 < pan then
        ⟨attenuation * direct + amount * 0.33 * echo + amount * 0.67 * second,
          1 * direct + amount * 0.67 * echo + amount * 0.33 * second⟩
      else
        ⟨direct + amount / 2 * echo + amount / 2 * second,
          direct + amount / 2 * echo + amount / 2 * second⟩ := by
  intro direct attenuation
  rcases Int.lt_trichotomy pan 0 with hleft | rfl | hright
  · rw [mix, Level.panGains, if_pos hleft, if_pos hleft, if_pos hleft]
    rfl
  · rfl
  · have hleft : ¬pan < 0 := by omega
    rw [mix, Level.panGains, if_neg hleft, if_pos hright, if_neg hleft, if_pos hright,
      if_neg hleft, if_pos hright]
    rfl

/-! ### Samples one after another -/

/-- Both echoes are younger than the ring is long. -/
theorem two_delay_ofSettings_lt (settings : Settings) : 2 * (ofSettings settings).delay < memory := by
  have hpercent := Level.toNat_clamp_le settings.delay
  show 2 * ((Level.clamp 0 100 settings.delay).toNat * 2047 / 100) < 4096
  omega

/-- The chorus with some settings has been fed a signal up to a time. -/
structure Follows (settings : Settings) (signal : Nat → Float32) (time : Nat) (chorus : Chorus) :
    Prop where
  line : chorus.line.Records signal time
  delay_eq : chorus.delay = (ofSettings settings).delay
  pan_eq : chorus.pan = (ofSettings settings).pan
  amount_eq : chorus.amount = (ofSettings settings).amount
  speed_le : chorus.speed ≤ 100
  phase_lt : chorus.phase < turn

theorem follows_start (settings : Settings) (signal : Nat → Float32) :
    Follows settings signal 0 (ofSettings settings) where
  line := DelayLine.records_silent (by decide) signal
  delay_eq := rfl
  pan_eq := rfl
  amount_eq := rfl
  speed_le := Level.toNat_clamp_le settings.speed
  phase_lt := by
    show 0 < turn
    decide

/-- A sample with its echoes in a signal that is remembered for ever. -/
def echoed (settings : Settings) (signal : Nat → Float32) (time : Nat) : Frame :=
  mix (ofSettings settings).pan (ofSettings settings).amount (signal time)
    (past signal time (ofSettings settings).delay) (past signal time (2 * (ofSettings settings).delay))

/-- One sample more: the taps are the signal's values one and two delays ago. -/
theorem Follows.process {settings : Settings} {signal : Nat → Float32} {time : Nat}
    {chorus : Chorus} (h : chorus.Follows settings signal time) :
    (chorus.process (signal time)).1 = echoed settings signal time ∧
      (chorus.process (signal time)).2.Follows settings signal (time + 1) := by
  have hlong := two_delay_ofSettings_lt settings
  have hfirst := h.line.tap_push (show (ofSettings settings).delay < memory by omega)
  have hsecond := h.line.tap_push hlong
  have hpush := h.line.push
  obtain ⟨line, delay, pan, amount, depth, speed, phase, modulated⟩ := chorus
  obtain ⟨-, rfl, rfl, rfl, hspeed, -⟩ := h
  constructor
  · show mix _ _ _ ((line.push (signal time)).tap _) ((line.push (signal time)).tap _) = _
    rw [hfirst, hsecond]
    rfl
  · exact ⟨hpush, rfl, rfl, rfl, hspeed, Nat.mod_lt _ (by decide)⟩

/-- All samples, fed to a fresh chorus in order. -/
theorem follows_samples (settings : Settings) (samples : List Float32) :
    (Effect.chorus (ofSettings settings)).frames samples =
        (List.range samples.length).map (echoed settings (signalOf samples)) ∧
      ∃ chorus, (Effect.chorus (ofSettings settings)).after samples = .chorus chorus ∧
        chorus.Follows settings (signalOf samples) samples.length := by
  have hstep : ∀ time chorus, Follows settings (signalOf samples) time chorus → ∃ next,
      (Effect.chorus chorus).process (signalOf samples time) =
        (echoed settings (signalOf samples) time, .chorus next) ∧
        Follows settings (signalOf samples) (time + 1) next := by
    intro time chorus h
    obtain ⟨hframe, hnext⟩ := h.process
    exact ⟨_, by rw [← hframe]; rfl, hnext⟩
  have hrun := Effect.frames_of_step hstep (follows_start settings _) samples.length
  rwa [map_signalOf] at hrun

/-- Frame by frame, a fresh chorus adds to each sample those that lie one delay and two delays before
it, with silence before the first one, however many samples there are. Which echo weighs more on a side,
and which side is attenuated, is told by the sign of the pan; the speed and the depth of its oscillator
do not matter. Its taps stay in the ring, and its phase below a turn. -/
theorem frames_eq_echoes (settings : Settings) (samples : List Float32) :
    let start := Effect.chorus (ofSettings settings)
    let x := signalOf samples
    let delay := (Level.clamp 0 100 settings.delay).toNat * 2047 / 100
    let pan := Level.clamp (-100) 100 settings.pan
    let amount := Float32.ofInt (Level.clamp 0 100 settings.amount) / 100
    let attenuation := Float32.ofInt (100 - pan.natAbs) / 100
    (start.frames samples = (List.range samples.length).map fun time =>
      let direct := (1 - amount / 2) * x time
      let echo := past x time delay
      let second := past x time (2 * delay)
      if pan < 0 then
        ⟨1 * direct + amount * 0.67 * echo + amount * 0.33 * second,
          attenuation * direct + amount * 0.33 * echo + amount * 0.67 * second⟩
      else if 0 < pan then
        ⟨attenuation * direct + amount * 0.33 * echo + amount * 0.67 * second,
          1 * direct + amount * 0.67 * echo + amount * 0.33 * second⟩
      else
        ⟨direct + amount / 2 * echo + amount / 2 * second,
          direct + amount / 2 * echo + amount / 2 * second⟩) ∧
    (∀ speed depth,
      (Effect.chorus (ofSettings { settings with speed := speed, depth := depth })).frames samples =
        start.frames samples) ∧
    ∃ chorus, start.after samples = .chorus chorus ∧ chorus.phase < 44100 ∧ chorus.speed ≤ 100 ∧
      chorus.delay = delay ∧ chorus.line.head = samples.length % 4096 ∧
      ∀ sample, ∀ back ∈ [delay, 2 * delay], back ≤ chorus.line.head + 4096 ∧
        (chorus.line.push sample).slotOf back = (chorus.line.head + 4096 - back) % 4096 ∧
        (chorus.line.push sample).slotOf back < 4096 := by
  intro start x delay pan amount attenuation
  obtain ⟨hframes, chorus, hafter, hchorus⟩ := follows_samples settings samples
  refine ⟨?_, fun speed depth => ?_, chorus, hafter, hchorus.phase_lt, hchorus.speed_le,
    hchorus.delay_eq, hchorus.line.head_eq, fun sample back hback => ?_⟩
  · rw [hframes]
    exact List.map_congr_left fun time _ => mix_eq ..
  · exact (follows_samples { settings with speed := speed, depth := depth } samples).1.trans
      hframes.symm
  · have hlong : 2 * delay < 4096 := two_delay_ofSettings_lt settings
    have hlt : back < 4096 := by
      simp only [List.mem_cons, List.not_mem_nil, or_false] at hback
      omega
    exact ⟨by omega, chorus.line.slotOf_push sample hlt, DelayLine.slotOf_lt _ _⟩

end DrumMachine.Chorus
