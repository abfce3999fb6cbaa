import DrumMachine.Effect.Reverb
import DrumMachine.Proofs.Effect.Frames

/-!
# The two channels of a reverb

Each comb of a reverb feeds a channel with what the other one put out, and still the channels never
come apart: while both remember the same they are fed the same (`Balanced.process`), and a reverb starts
with silence on both. What it adds to the signal is the same on both sides, so all that tells them apart
is the pan of the dry signal (`channels_agree`).
-/

namespace DrumMachine.Reverb

/-! ### One stage -/

/-- A stage with the same memory on both channels. -/
def Stage.double (line : DelayLine memory) : Stage := ⟨line, line⟩

theorem Stage.exists_eq_double {stage : Stage} (h : stage.left = stage.right) :
    ∃ line, stage = .double line := by
  obtain ⟨left, right⟩ := stage
  obtain rfl : left = right := h
  exact ⟨left, rfl⟩

theorem Stage.allPass_double (decay : Float32) (line : DelayLine memory) (sample : Float32) :
    (Stage.double line).allPass decay (.mono sample) =
      (.mono (Reverb.allPass decay line sample).1, .double (Reverb.allPass decay line sample).2) :=
  rfl

/-- What a channel is fed from the other one is what it would be fed from itself. -/
theorem Stage.crossComb_double (decay : Float32) (back : Nat) (line : DelayLine memory)
    (sample : Float32) :
    (Stage.double line).crossComb decay back (.mono sample) =
      (.mono (sample + decay * line.tap (back - 1)),
        .double (line.push (sample + decay * line.tap (back - 1)))) :=
  rfl

/-! ### One sample -/

/-- What the stages make of a sample, before it is mixed with the dry signal. -/
def wet (reverb : Reverb) (sample : Float32) : Frame :=
  let wet := Frame.mono ((reverb.predelay.push sample).tap reverb.delay)
  let wet := (reverb.firstAllPass.allPass reverb.decay wet).1
  let wet := (reverb.secondAllPass.allPass reverb.decay wet).1
  let wet := (reverb.longComb.crossComb reverb.decay longBack wet).1
  (reverb.shortComb.crossComb reverb.decay shortBack wet).1

theorem process_eq_mix (reverb : Reverb) (sample : Float32) :
    (reverb.process sample).1 = mix reverb.pan reverb.level sample (reverb.wet sample) := rfl

def stages (reverb : Reverb) : List Stage :=
  [reverb.firstAllPass, reverb.secondAllPass, reverb.longComb, reverb.shortComb]

/-- Both channels of every stage remember the same. -/
structure Balanced (reverb : Reverb) : Prop where
  firstAllPass : reverb.firstAllPass.left = reverb.firstAllPass.right
  secondAllPass : reverb.secondAllPass.left = reverb.secondAllPass.right
  longComb : reverb.longComb.left = reverb.longComb.right
  shortComb : reverb.shortComb.left = reverb.shortComb.right

theorem balanced_ofSettings (settings : Settings) : (ofSettings settings).Balanced :=
  ⟨rfl, rfl, rfl, rfl⟩

variable {reverb : Reverb}

theorem Balanced.map_stages (h : reverb.Balanced) :
    reverb.stages.map Stage.left = reverb.stages.map Stage.right := by
  simp only [stages, List.map_cons, List.map_nil, h.firstAllPass, h.secondAllPass, h.longComb,
    h.shortComb]

/-- The same goes through all stages on both channels, and the same is left in them. -/
theorem Balanced.process (h : reverb.Balanced) (sample : Float32) :
    (reverb.wet sample).left = (reverb.wet sample).right ∧
      (reverb.process sample).2.Balanced := by
  obtain ⟨predelay, delay, firstAllPass, secondAllPass, longComb, shortComb, pan, level, decay⟩ :=
    reverb
  obtain ⟨first, rfl⟩ := Stage.exists_eq_double h.firstAllPass
  obtain ⟨second, rfl⟩ := Stage.exists_eq_double h.secondAllPass
  obtain ⟨long, rfl⟩ := Stage.exists_eq_double h.longComb
  obtain ⟨short, rfl⟩ := Stage.exists_eq_double h.shortComb
  simp only [wet, Reverb.process, Stage.allPass_double, Stage.crossComb_double]
  exact ⟨rfl, rfl, rfl, rfl, rfl⟩

/-- With the pan in the middle the dry signal is the same on both channels as well. -/
theorem left_mix_zero {wet : Frame} (h : wet.left = wet.right) (level sample : Float32) :
    (mix 0 level sample wet).left = (mix 0 level sample wet).right := by
  have hgains : Level.panGains 0 = (1, 1) := rfl
  simp only [mix, hgains, h]

/-! ### All samples -/

theorem Balanced.after (h : reverb.Balanced) (samples : List Float32) :
    ∃ next, (Effect.reverb reverb).after samples = .reverb next ∧ next.Balanced ∧
      next.pan = reverb.pan ∧ next.level = reverb.level := by
  induction samples generalizing reverb with
  | nil => exact ⟨reverb, rfl, h, rfl, rfl⟩
  | cons sample rest ih => exact ih (h.process sample).2

theorem Balanced.frames (h : reverb.Balanced) (hpan : reverb.pan = 0) (samples : List Float32) :
    ((Effect.reverb reverb).frames samples).map Frame.left =
      ((Effect.reverb reverb).frames samples).map Frame.right := by
  induction samples generalizing reverb with
  | nil => rfl
  | cons sample rest ih =>
    obtain ⟨hwet, hnext⟩ := h.process sample
    have hframe : (reverb.process sample).1.left = (reverb.process sample).1.right := by
      rw [process_eq_mix, hpan]
      exact left_mix_zero hwet reverb.level sample
    have hrest := ih hnext hpan
    rw [Effect.frames, List.map_cons, List.map_cons]
    exact List.cons_eq_cons.2 ⟨hframe, hrest⟩

/-- However a reverb is set and whatever it has been fed, the channels of each stage hold the same, and
so what is mixed into the next sample is the same on both sides. With the pan in the middle both sides
sound the same all along. -/
theorem channels_agree (settings : Settings) (samples : List Float32) :
    (∃ reverb, (Effect.reverb (ofSettings settings)).after samples = .reverb reverb ∧
      reverb.stages.map Stage.left = reverb.stages.map Stage.right ∧
      ∀ sample, (reverb.wet sample).left = (reverb.wet sample).right ∧
        (reverb.process sample).1 =
          mix (Level.clampPan settings.pan) (Level.percent settings.level) sample
            (reverb.wet sample)) ∧
    let centred := Effect.reverb (ofSettings { settings with pan := 0 })
    (centred.frames samples).map Frame.left = (centred.frames samples).map Frame.right := by
  constructor
  · obtain ⟨reverb, hafter, hbalanced, hpan, hlevel⟩ :=
      (balanced_ofSettings settings).after samples
    refine ⟨reverb, hafter, hbalanced.map_stages, fun sample => ⟨(hbalanced.process sample).1, ?_⟩⟩
    rw [process_eq_mix, hpan, hlevel]
    rfl
  · exact (balanced_ofSettings _).frames rfl samples

end DrumMachine.Reverb
