import DrumMachine.Proofs.Playback.Simulation
import Mathlib.Data.List.Forall2

/-!
# Songs that declare alike

A track is played with an effect of its own, started from what the song declares. So what has become of
the song's own effects cannot be heard, however much was played through them before, and a name that no
effect has stands for a pan in the middle, whatever parameters come with it.
-/

namespace DrumMachine

namespace Effect.Binding

/-- No effect has the name. -/
def IsUnknown (binding : Binding) : Prop := Plugin.ofName? binding.name = none

/-- A pan without parameters. -/
def IsPlainPan (binding : Binding) : Prop := binding.name = "pan" ∧ binding.params = none

/-- The two declare the same effect, or one of them a plain pan and the other one that there is not;
what is running does not matter. -/
def DeclaresAlike (left right : Binding) : Prop :=
  (left.name = right.name ∧ left.params = right.params) ∨
    (left.IsUnknown ∧ right.IsPlainPan) ∨ (left.IsPlainPan ∧ right.IsUnknown)

/-- The binding after samples were processed with it, one after the other. -/
def applied (binding : Binding) (samples : List Float32) : Binding :=
  samples.foldl (fun binding sample => (binding.apply sample).2) binding

theorem instantiate_of_isUnknown {binding : Binding} (h : binding.IsUnknown) :
    instantiate binding.name binding.params = .pan ⟨0⟩ := by
  have hname : Plugin.ofName? binding.name = none := h
  rw [instantiate, hname]
  rfl

theorem instantiate_of_isPlainPan {binding : Binding} (h : binding.IsPlainPan) :
    instantiate binding.name binding.params = .pan ⟨0⟩ := by
  rw [h.1, h.2]
  rfl

theorem DeclaresAlike.instantiate_eq {left right : Binding} (h : left.DeclaresAlike right) :
    instantiate left.name left.params = instantiate right.name right.params := by
  rcases h with ⟨hname, hparams⟩ | ⟨hleft, hright⟩ | ⟨hleft, hright⟩
  · rw [hname, hparams]
  · rw [instantiate_of_isUnknown hleft, instantiate_of_isPlainPan hright]
  · rw [instantiate_of_isPlainPan hleft, instantiate_of_isUnknown hright]

theorem applied_declaration (binding : Binding) (samples : List Float32) :
    (binding.applied samples).name = binding.name ∧
      (binding.applied samples).params = binding.params := by
  induction samples generalizing binding with
  | nil => exact ⟨rfl, rfl⟩
  | cons sample rest ih =>
    have hrest := ih (binding.apply sample).2
    rw [applied, List.foldl_cons]
    exact ⟨hrest.1.trans (by rw [apply_eq]), hrest.2.trans (by rw [apply_eq])⟩

end Effect.Binding

/-- The two are declared under the same name, with the same file, the same volume and effects that
declare alike. -/
def Sample.DeclaresAlike (left right : String × Sample) : Prop :=
  left.1 = right.1 ∧ left.2.path = right.2.path ∧ left.2.volume = right.2.volume ∧
    left.2.effect.DeclaresAlike right.2.effect

/-- The two declare the same phrases in the same order, and samples that declare alike. -/
structure Song.DeclaresAlike (left right : Song) : Prop where
  samples : List.Forall₂ Sample.DeclaresAlike left.samples.entries right.samples.entries
  phrases : left.phrases = right.phrases
  output : left.output = right.output

/-- The song after its samples' effects were tried out, each with the input given for its name. -/
def Song.previewed (song : Song) (inputs : String → List Float32) : Song :=
  { song with
    samples := song.samples.map fun name sample =>
      { sample with effect := sample.effect.applied (inputs name) } }

theorem Song.declaresAlike_previewed (song : Song) (inputs : String → List Float32) :
    (song.previewed inputs).DeclaresAlike song where
  samples := by
    show List.Forall₂ _ (song.samples.entries.map _) song.samples.entries
    rw [List.forall₂_map_left_iff, List.forall₂_same]
    intro entry _
    exact ⟨rfl, rfl, rfl, .inl (Effect.Binding.applied_declaration _ _)⟩
  phrases := rfl
  output := rfl

namespace Playback

/-! ### One track -/

/-- A channel is determined by its length and what is read from it. -/
theorem channel_ext {left right : Array Float32} (hsize : left.size = right.size)
    (h : ∀ time : Nat, left[time]?.getD 0 = right[time]?.getD 0) : left = right := by
  refine Array.ext hsize fun time hleft hright => ?_
  have htime := h time
  rwa [Array.getElem?_eq_getElem hleft, Array.getElem?_eq_getElem hright] at htime

theorem renderTrack_congr {sample other : Sample} (hvolume : sample.volume = other.volume)
    (hfresh : fresh sample = fresh other) (name : String) (wave : Wave) (steps : List Step) :
    renderTrack name sample wave steps = renderTrack name other wave steps := by
  obtain ⟨hfollows, -, hsize⟩ := Player.follows_steps name sample wave steps
  obtain ⟨hother, -, hend⟩ := Player.follows_steps name other wave steps
  have htones : tones sample wave (events name steps) = tones other wave (events name steps) := by
    rw [tones, Sample.volumeScale, hvolume, tones, Sample.volumeScale]
  have hframes := hfollows.frameAt_eq hother hfresh htones
  have hleft := channel_ext (hsize.trans hend.symm) fun time => congrArg Frame.left (hframes time)
  have hright := channel_ext
    ((hfollows.right_eq.trans hsize).trans (hother.right_eq.trans hend).symm)
    fun time => congrArg Frame.right (hframes time)
  rw [renderTrack, Player.toTrack, hleft, hright]
  rfl

/-- Whatever is heard at a time is silence or one of the frames that the effect yields. -/
theorem Player.Follows.frameAt_eq_or_mem {sample : Sample} {wave : Wave} {events : List Event}
    {player : Player} (h : player.Follows sample wave events) (time : Nat) :
    player.frameAt time = .silence ∨
      player.frameAt time ∈ (fresh sample).frames ((tones sample wave events).map Prod.snd) := by
  by_cases hsound : ∃ tone ∈ tones sample wave events, tone.1 = time
  · obtain ⟨tone, htone, rfl⟩ := hsound
    rw [← h.frames_eq]
    exact .inr (List.mem_map_of_mem htone)
  · exact .inl (h.silent time fun tone htone heq => hsound ⟨tone, htone, heq⟩)

/-- A pan in the middle gives both channels the same. -/
theorem left_renderTrack_of_centred {sample : Sample} (h : fresh sample = .pan ⟨0⟩) (name : String)
    (wave : Wave) (steps : List Step) :
    (renderTrack name sample wave steps).left = (renderTrack name sample wave steps).right := by
  obtain ⟨hfollows, -, -⟩ := Player.follows_steps name sample wave steps
  refine channel_ext hfollows.right_eq.symm fun time => ?_
  have hframe := hfollows.frameAt_eq_or_mem time
  rw [h, Effect.frames_pan, List.mem_map] at hframe
  rcases hframe with hsilent | ⟨mono, -, hmono⟩
  · exact (congrArg Frame.left hsilent).trans (congrArg Frame.right hsilent).symm
  · exact (congrArg Frame.left hmono).symm.trans (congrArg Frame.right hmono)

/-! ### All tracks -/

theorem trackOf_eq {left right : String × Sample} (h : Sample.DeclaresAlike left right)
    (waves : NameTable Wave) (steps : List Step) :
    trackOf waves steps left = trackOf waves steps right := by
  obtain ⟨hname, -, hvolume, heffect⟩ := h
  rw [trackOf, trackOf, hname]
  exact renderTrack_congr hvolume heffect.instantiate_eq _ _ _

theorem renderTracks_eq {left right : Song} (h : left.DeclaresAlike right)
    (waves : NameTable Wave) (parallel other : Bool) :
    renderTracks left waves parallel = renderTracks right waves other := by
  have hsteps : steps left = steps right := by rw [steps, h.output, h.phrases, steps]
  rw [renderTracks_eq_map, renderTracks_eq_map, hsteps, ← List.forall₂_eq_eq_eq,
    List.forall₂_map_left_iff, List.forall₂_map_right_iff]
  exact h.samples.imp fun entry other hentry => trackOf_eq hentry waves (steps right)

/-- Songs that declare alike are rendered alike, whatever is running in them, also after their effects
were tried out with any input. A name that no effect has leaves its track in the middle. -/
theorem renderTracks_of_declaresAlike {left right : Song} (h : left.DeclaresAlike right)
    (waves : NameTable Wave) (parallel other : Bool) :
    renderTracks left waves parallel = renderTracks right waves other ∧
    (∀ inputs inputs', renderTracks (left.previewed inputs) waves parallel =
      renderTracks (right.previewed inputs') waves other) ∧
    ∀ entry ∈ left.samples.entries, entry.2.effect.IsUnknown →
      (trackOf waves (steps left) entry).left = (trackOf waves (steps left) entry).right := by
  refine ⟨renderTracks_eq h waves parallel other, fun inputs inputs' => ?_,
    fun entry _ hunknown => ?_⟩
  · rw [renderTracks_eq (left.declaresAlike_previewed inputs) waves parallel parallel,
      renderTracks_eq (right.declaresAlike_previewed inputs') waves other other]
    exact renderTracks_eq h waves parallel other
  · exact left_renderTrack_of_centred (Effect.Binding.instantiate_of_isUnknown hunknown) _ _ _

/-- One effect has been running, and the name of the other one is misspelled. -/
theorem renderTracks_of_misspelled_effect :
    let used := (Effect.Binding.apply { name := "chorus" } 1).2
    let misspelled : Effect.Binding := { name := "reverbb", params := some (.scalar "-100") }
    let samples (first second : Effect.Binding) : List (String × Sample) :=
      [("k", { path := "k.wav", volume := 100, effect := first }),
        ("s", { path := "s.wav", volume := 50, effect := second })]
    let song (first second : Effect.Binding) : Song :=
      { samples := ⟨samples first second, List.pairwise_pair.2 (show "k" < "s" by decide)⟩
        phrases := (∅ : NameTable Phrase).insert "A"
          { beats := NameTable.ofList [("k", [.full]), ("s", [.rest, .half])] }
        output := ["A", "A"] }
    let waves := NameTable.ofList [("k", #[1, 0.5]), ("s", #[0.25])]
    used.running.isSome = true ∧
    (song used misspelled).DeclaresAlike (song { name := "chorus" } {}) ∧
    renderTracks (song used misspelled) waves true =
      renderTracks (song { name := "chorus" } {}) waves false ∧
    let track := trackOf waves (steps (song used misspelled))
      ("s", { path := "s.wav", volume := 50, effect := misspelled })
    track.left = track.right := by
  intro used misspelled samples song waves
  have hunknown : misspelled.IsUnknown := by
    show Plugin.ofName? "reverbb" = none
    decide
  have hsamples : List.Forall₂ Sample.DeclaresAlike (samples used misspelled)
      (samples { name := "chorus" } {}) :=
    .cons ⟨rfl, rfl, rfl, .inl ⟨rfl, rfl⟩⟩
      (.cons ⟨rfl, rfl, rfl, .inr (.inl ⟨hunknown, rfl, rfl⟩)⟩ .nil)
  have halike : (song used misspelled).DeclaresAlike (song { name := "chorus" } {}) :=
    ⟨hsamples, rfl, rfl⟩
  obtain ⟨hequal, -, hcentred⟩ := renderTracks_of_declaresAlike halike waves true false
  exact ⟨rfl, halike, hequal,
    hcentred _ (List.mem_cons_of_mem _ (List.mem_singleton_self _)) hunknown⟩

end Playback

end DrumMachine
