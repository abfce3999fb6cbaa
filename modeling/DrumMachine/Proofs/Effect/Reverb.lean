import DrumMachine.Effect.Reverb
import DrumMachine.Proofs.Effect.History

/-!
# The difference equations of a reverb

A reverb computes, sample by sample, the one family of signals that its difference equations determine
(`Signals.Solve`, `existsUnique_solve`): each delay line keeps as much of a signal as the equations
still refer to (`Follows`), in whichever order it is read and written. So its frames are those of a
reverb that remembers everything (`frames_eq_equations`).
-/

namespace DrumMachine

/-- The two channels. -/
inductive Side where
  | left
  | right
deriving DecidableEq

def Side.other : Side → Side
  | .left => .right
  | .right => .left

namespace Reverb

/-- The signals on both channels at one time. -/
def frameOf (signals : Side → Nat → Float32) (time : Nat) : Frame :=
  ⟨signals .left time, signals .right time⟩

/-! ### Equations -/

/-- An all-pass filter: `fed` is what goes into its line, and comes back `memory` samples later. -/
structure AllPasses (decay : Float32) (input fed output : Nat → Float32) : Prop where
  output_eq : ∀ time, output time = past fed time 512 - decay * input time
  fed_eq : ∀ time, fed time = input time + decay * output time

/-- Comb filters on both channels, each fed by what the other one put out. -/
def CrossCombs (decay : Float32) (back : Nat) (input output : Side → Nat → Float32) : Prop :=
  ∀ side time, output side time = input side time + decay * past (output side.other) time back

/-- All signals of a reverb, after the predelay and after each stage. -/
structure Signals where
  wet : Nat → Float32
  firstFed : Side → Nat → Float32
  first : Side → Nat → Float32
  secondFed : Side → Nat → Float32
  second : Side → Nat → Float32
  long : Side → Nat → Float32
  short : Side → Nat → Float32

/-- The equations of a reverb that is fed a signal. -/
structure Signals.Solve (delay : Nat) (decay : Float32) (input : Nat → Float32)
    (signals : Signals) : Prop where
  wet : ∀ time, signals.wet time = past input time delay
  first : ∀ side, AllPasses decay signals.wet (signals.firstFed side) (signals.first side)
  second : ∀ side,
    AllPasses decay (signals.first side) (signals.secondFed side) (signals.second side)
  long : CrossCombs decay 220 signals.second signals.long
  short : CrossCombs decay 75 signals.long signals.short

/-! ### Solutions -/

theorem existsUnique_allPasses (decay : Float32) (input : Nat → Float32) :
    ∃ fed output, AllPasses decay input fed output ∧
      ∀ fed' output', AllPasses decay input fed' output' → fed' = fed ∧ output' = output := by
  -- with the output put in its place, what is fed depends on its own past alone
  have hcausal : ∀ (signal other : Nat → Float32) time,
      (∀ earlier < time, signal earlier = other earlier) →
      input time + decay * (past signal time 512 - decay * input time) =
        input time + decay * (past other time 512 - decay * input time) := by
    intro signal other time h
    rw [past_congr (by decide) h]
  obtain ⟨fed, hfed, hunique⟩ := existsUnique_of_causal hcausal
  refine ⟨fed, fun time => past fed time 512 - decay * input time, ⟨fun _ => rfl, hfed⟩, ?_⟩
  intro fed' output' h
  have hfed' : fed' = fed := hunique fed' fun time => by rw [h.fed_eq, h.output_eq]
  refine ⟨hfed', ?_⟩
  funext time
  rw [h.output_eq, hfed']

theorem existsUnique_crossCombs (decay : Float32) {back : Nat} (hback : 0 < back)
    (input : Side → Nat → Float32) :
    ∃ output, CrossCombs decay back input output ∧
      ∀ output', CrossCombs decay back input output' → output' = output := by
  -- each channel feeds the other, so both are solved for at once
  have hcausal : ∀ (signal other : Nat → Side → Float32) time,
      (∀ earlier < time, signal earlier = other earlier) →
      (fun side : Side =>
          input side time + decay * past (fun earlier => signal earlier side.other) time back) =
        fun side =>
          input side time + decay * past (fun earlier => other earlier side.other) time back := by
    intro signal other time h
    funext side
    rw [past_congr hback fun earlier hearlier => congrFun (h earlier hearlier) side.other]
  obtain ⟨output, houtput, hunique⟩ := existsUnique_of_causal hcausal
  refine ⟨fun side time => output time side, fun side time => congrFun (houtput time) side, ?_⟩
  intro output' h
  have heq := hunique (fun time side => output' side time) fun time => funext fun side => h side time
  funext side time
  exact congrFun (congrFun heq time) side

/-- The equations have one solution. -/
theorem existsUnique_solve (delay : Nat) (decay : Float32) (input : Nat → Float32) :
    ∃ signals : Signals, signals.Solve delay decay input ∧
      ∀ other : Signals, other.Solve delay decay input → other = signals := by
  let wet := fun time => past input time delay
  obtain ⟨firstFed, first, hfirst, hfirst'⟩ := existsUnique_allPasses decay wet
  obtain ⟨secondFed, second, hsecond, hsecond'⟩ := existsUnique_allPasses decay first
  obtain ⟨long, hlong, hlong'⟩ := existsUnique_crossCombs decay (show 0 < 220 by decide) fun _ => second
  obtain ⟨short, hshort, hshort'⟩ := existsUnique_crossCombs decay (show 0 < 75 by decide) long
  refine ⟨⟨wet, fun _ => firstFed, fun _ => first, fun _ => secondFed, fun _ => second, long, short⟩,
    ⟨fun _ => rfl, fun _ => hfirst, fun _ => hsecond, hlong, hshort⟩, ?_⟩
  rintro ⟨wet', firstFed', first', secondFed', second', long', short'⟩ h
  obtain rfl : wet' = wet := funext h.wet
  obtain rfl : firstFed' = fun _ => firstFed := funext fun side => (hfirst' _ _ (h.first side)).1
  obtain rfl : first' = fun _ => first := funext fun side => (hfirst' _ _ (h.first side)).2
  obtain rfl : secondFed' = fun _ => secondFed := funext fun side => (hsecond' _ _ (h.second side)).1
  obtain rfl : second' = fun _ => second := funext fun side => (hsecond' _ _ (h.second side)).2
  obtain rfl : long' = long := hlong' _ h.long
  obtain rfl : short' = short := hshort' _ h.short
  rfl

/-! ### Stages -/

/-- The delay line of one channel. -/
def Stage.on (stage : Stage) : Side → DelayLine memory
  | .left => stage.left
  | .right => stage.right

/-- The stage after a value of each channel was pushed. -/
def Stage.push (stage : Stage) (values : Side → Float32) : Stage :=
  ⟨stage.left.push (values .left), stage.right.push (values .right)⟩

/-- The lines of both channels have been pushed their signals up to a time. -/
def Stage.Records (stage : Stage) (signals : Side → Nat → Float32) (time : Nat) : Prop :=
  ∀ side, (stage.on side).Records (signals side) time

variable {stage : Stage} {input fed output : Side → Nat → Float32} {time : Nat} {decay : Float32}

theorem Stage.records_silent (signals : Side → Nat → Float32) : Stage.silent.Records signals 0 := by
  intro side
  cases side with
  | left => exact DelayLine.records_silent (by decide) _
  | right => exact DelayLine.records_silent (by decide) _

theorem Stage.Records.push {signals : Side → Nat → Float32} (h : stage.Records signals time) :
    (stage.push fun side => signals side time).Records signals (time + 1) := by
  intro side
  cases side with
  | left => exact (h .left).push
  | right => exact (h .right).push

theorem allPass_of_records {line : DelayLine memory} {input fed output : Nat → Float32}
    (h : line.Records fed time) (hfilter : AllPasses decay input fed output) :
    Reverb.allPass decay line (input time) = (output time, line.push (fed time)) := by
  have htap : line.tap (memory - 1) = past fed time 512 :=
    h.tap_before (by decide) (Nat.le_refl memory)
  rw [Reverb.allPass, htap, ← hfilter.output_eq, ← hfilter.fed_eq]

/-- The old value is read from the slot that is about to be overwritten. -/
theorem Stage.allPass_of_records (h : stage.Records fed time)
    (hfilter : ∀ side, AllPasses decay (input side) (fed side) (output side)) :
    stage.allPass decay (frameOf input time) =
      (frameOf output time, stage.push fun side => fed side time) := by
  have hleft := Reverb.allPass_of_records (h .left) (hfilter .left)
  have hright := Reverb.allPass_of_records (h .right) (hfilter .right)
  obtain ⟨left, right⟩ := stage
  simp only [Stage.on] at hleft hright
  simp only [Stage.allPass, frameOf, hleft, hright]
  rfl

/-- Both channels are read before either is written. -/
theorem Stage.crossComb_of_records {back : Nat} (hpos : 0 < back) (hback : back ≤ memory)
    (h : stage.Records output time) (hfilter : CrossCombs decay back input output) :
    stage.crossComb decay back (frameOf input time) =
      (frameOf output time, stage.push fun side => output side time) := by
  have hleft := (h .left).tap_before hpos hback
  have hright := (h .right).tap_before hpos hback
  obtain ⟨left, right⟩ := stage
  simp only [Stage.on] at hleft hright
  have houtLeft : output .left time = input .left time + decay * past (output .right) time back :=
    hfilter .left time
  have houtRight : output .right time = input .right time + decay * past (output .left) time back :=
    hfilter .right time
  simp only [Stage.crossComb, frameOf, hleft, hright, ← houtLeft, ← houtRight]
  rfl

/-! ### Runs -/

/-- The nine lines of a reverb. -/
def lines (reverb : Reverb) : List (DelayLine memory) :=
  [reverb.predelay, reverb.firstAllPass.left, reverb.firstAllPass.right,
    reverb.secondAllPass.left, reverb.secondAllPass.right, reverb.longComb.left,
    reverb.longComb.right, reverb.shortComb.left, reverb.shortComb.right]

/-- The reverb with some settings has been fed a signal up to a time. -/
structure Follows (settings : Settings) (input : Nat → Float32) (signals : Signals) (time : Nat)
    (reverb : Reverb) : Prop where
  predelay : reverb.predelay.Records input time
  firstAllPass : reverb.firstAllPass.Records signals.firstFed time
  secondAllPass : reverb.secondAllPass.Records signals.secondFed time
  longComb : reverb.longComb.Records signals.long time
  shortComb : reverb.shortComb.Records signals.short time
  delay_eq : reverb.delay = (ofSettings settings).delay
  pan_eq : reverb.pan = (ofSettings settings).pan
  level_eq : reverb.level = (ofSettings settings).level
  decay_eq : reverb.decay = (ofSettings settings).decay

theorem follows_start (settings : Settings) (input : Nat → Float32) (signals : Signals) :
    Follows settings input signals 0 (ofSettings settings) where
  predelay := DelayLine.records_silent (by decide) input
  firstAllPass := Stage.records_silent _
  secondAllPass := Stage.records_silent _
  longComb := Stage.records_silent _
  shortComb := Stage.records_silent _
  delay_eq := rfl
  pan_eq := rfl
  level_eq := rfl
  decay_eq := rfl

/-- The predelay is shorter than its line. -/
theorem delay_ofSettings_lt (settings : Settings) : (ofSettings settings).delay < memory := by
  have hpercent := Level.toNat_clamp_le settings.delay
  show (Level.clamp 0 100 settings.delay).toNat * 511 / 100 < 512
  omega

/-- One sample more: all stages put out the signals' values at its time. -/
theorem Follows.process {settings : Settings} {input : Nat → Float32} {signals : Signals}
    {time : Nat} {reverb : Reverb} (h : reverb.Follows settings input signals time)
    (hsolve : signals.Solve (ofSettings settings).delay (ofSettings settings).decay input) :
    (reverb.process (input time)).1 =
        mix (ofSettings settings).pan (ofSettings settings).level (input time)
          (frameOf signals.short time) ∧
      (reverb.process (input time)).2.Follows settings input signals (time + 1) := by
  obtain ⟨predelay, delay, firstAllPass, secondAllPass, longComb, shortComb, pan, level, decay⟩ :=
    reverb
  obtain ⟨hpredelay, hfirst, hsecond, hlong, hshort, rfl, rfl, rfl, rfl⟩ := h
  have hwet : Frame.mono ((predelay.push (input time)).tap (ofSettings settings).delay) =
      frameOf (fun _ => signals.wet) time := by
    rw [hpredelay.tap_push (delay_ofSettings_lt settings), ← hsolve.wet]
    rfl
  have hfirstOut := Stage.allPass_of_records hfirst hsolve.first
  have hsecondOut := Stage.allPass_of_records hsecond hsolve.second
  have hlongOut :=
    Stage.crossComb_of_records (show 0 < longBack by decide) (by decide) hlong hsolve.long
  have hshortOut :=
    Stage.crossComb_of_records (show 0 < shortBack by decide) (by decide) hshort hsolve.short
  simp only [Reverb.process, hwet, hfirstOut, hsecondOut, hlongOut, hshortOut, true_and]
  exact ⟨hpredelay.push, hfirst.push, hsecond.push, hlong.push, hshort.push, rfl, rfl, rfl, rfl⟩

/-- All lines have been pushed as many values as there were samples. -/
theorem Follows.head_eq {settings : Settings} {input : Nat → Float32} {signals : Signals}
    {time : Nat} {reverb : Reverb} (h : reverb.Follows settings input signals time) :
    ∀ line ∈ reverb.lines, line.head = time % memory := by
  intro line hline
  simp only [lines, List.mem_cons, List.not_mem_nil, or_false] at hline
  obtain rfl | rfl | rfl | rfl | rfl | rfl | rfl | rfl | rfl := hline
  · exact h.predelay.head_eq
  · exact (h.firstAllPass .left).head_eq
  · exact (h.firstAllPass .right).head_eq
  · exact (h.secondAllPass .left).head_eq
  · exact (h.secondAllPass .right).head_eq
  · exact (h.longComb .left).head_eq
  · exact (h.longComb .right).head_eq
  · exact (h.shortComb .left).head_eq
  · exact (h.shortComb .right).head_eq

/-- All samples, fed to a fresh reverb in order. -/
theorem follows_samples (settings : Settings) (samples : List Float32) {signals : Signals}
    (hsolve : signals.Solve (ofSettings settings).delay (ofSettings settings).decay
      (signalOf samples)) :
    (Effect.reverb (ofSettings settings)).frames samples =
        (List.range samples.length).map (fun time =>
          mix (ofSettings settings).pan (ofSettings settings).level (signalOf samples time)
            (frameOf signals.short time)) ∧
      ∃ reverb, (Effect.reverb (ofSettings settings)).after samples = .reverb reverb ∧
        reverb.Follows settings (signalOf samples) signals samples.length := by
  have hstep : ∀ time reverb, Follows settings (signalOf samples) signals time reverb →
      ∃ next, (Effect.reverb reverb).process (signalOf samples time) =
        (mix (ofSettings settings).pan (ofSettings settings).level (signalOf samples time)
          (frameOf signals.short time), .reverb next) ∧
        Follows settings (signalOf samples) signals (time + 1) next := by
    intro time reverb h
    obtain ⟨hframe, hnext⟩ := h.process hsolve
    exact ⟨_, by rw [← hframe]; rfl, hnext⟩
  have hrun := Effect.frames_of_step hstep (follows_start settings _ signals) samples.length
  rwa [map_signalOf] at hrun

/-- Frame by frame, a fresh reverb mixes each sample with the last of the signals that its equations
determine, with silence before the first sample, however many samples there are. Each line is read and
written inside its ring, at places counted back from one slot that moves on with each sample. -/
theorem frames_eq_equations (settings : Settings) (samples : List Float32) :
    let start := Effect.reverb (ofSettings settings)
    let x := signalOf samples
    let delay := (Level.clamp 0 100 settings.delay).toNat * 511 / 100
    let decay := if maxDecay < Level.percent settings.decay then maxDecay
      else Level.percent settings.decay
    let level := Level.percent settings.level
    let gains := Level.panGains (Level.clampPan settings.pan)
    (∃ signals : Signals, signals.Solve delay decay x ∧
      (∀ other : Signals, other.Solve delay decay x → other = signals) ∧
      start.frames samples = (List.range samples.length).map fun time =>
        ⟨level * signals.short .left time + (1 - level) * gains.1 * x time,
          level * signals.short .right time + (1 - level) * gains.2 * x time⟩) ∧
    ∃ reverb, start.after samples = .reverb reverb ∧ reverb.delay = delay ∧
      (∀ line ∈ reverb.lines, line.head = samples.length % 512 ∧
        ∀ back ∈ [512, 220, 75], back ≤ line.head + 512 ∧
          line.slotOf (back - 1) = (line.head + 512 - back) % 512 ∧ line.slotOf (back - 1) < 512) ∧
      ∀ sample, delay ≤ reverb.predelay.head + 512 ∧
        (reverb.predelay.push sample).slotOf delay = (reverb.predelay.head + 512 - delay) % 512 ∧
        (reverb.predelay.push sample).slotOf delay < 512 := by
  intro start x delay decay level gains
  have hdelay : delay < 512 := delay_ofSettings_lt settings
  obtain ⟨signals, hsolve, hunique⟩ := existsUnique_solve delay decay x
  obtain ⟨hframes, reverb, hafter, hreverb⟩ := follows_samples settings samples hsolve
  refine ⟨⟨signals, hsolve, hunique, hframes⟩, reverb, hafter, hreverb.delay_eq,
    fun line hline => ⟨hreverb.head_eq line hline, fun back hback => ?_⟩, fun sample => ?_⟩
  · have hrange : 0 < back ∧ back ≤ 512 := by
      simp only [List.mem_cons, List.not_mem_nil, or_false] at hback
      omega
    refine ⟨by omega, ?_, DelayLine.slotOf_lt _ _⟩
    rw [DelayLine.slotOf_eq, Nat.sub_add_cancel hrange.1]
  · exact ⟨by omega, reverb.predelay.slotOf_push sample hdelay, DelayLine.slotOf_lt _ _⟩

end Reverb

end DrumMachine
