import DrumMachine.Playback.Mixdown
import Mathlib.Data.List.Forall2

/-!
# Mixes, sample by sample

A mix is built channel by channel, adding up arrays that may be shorter or longer than it. What comes
out at an index depends on what the tracks hold at that index and on nothing else: it is the sum of what
those of them hold that reach so far (`unified_left`, `unified_right`), or what the one track holds with
silence after its end (`split_eq_map`). Interleaving loses no sample of two channels that end together.
-/

namespace DrumMachine

theorem Track.longest_eq_max (tracks : List Track) :
    longest tracks = (tracks.map fun track => track.left.size).max?.getD 0 := by
  cases tracks with
  | nil => rfl
  | cons track tracks =>
    rw [List.map_cons, List.max?_cons', Option.getD_some, longest, List.map_cons, List.foldl_cons,
      Nat.zero_max]
    rfl

namespace Mixdown

/-! ### Sums -/

/-- What channels hold at an index, added in their order to silence; those that end before it are left
out. -/
def sumAt (channels : List (Array Float32)) (index : Nat) : Float32 :=
  (channels.filterMap fun channel => channel[index]?).foldl (· + ·) 0

theorem getElem?_addOnto (mix channel : Array Float32) (index : Nat) :
    (addOnto mix channel)[index]? =
      mix[index]?.map fun sample => channel[index]?.toList.foldl (· + ·) sample := by
  rw [addOnto, Array.getElem?_mapIdx]
  cases channel[index]? with
  | none => rfl
  | some other => rfl

/-- A mix gets longer or shorter by no channel, and each index is summed on its own. -/
theorem getElem?_foldl_addOnto (channels : List (Array Float32)) (mix : Array Float32)
    (index : Nat) :
    (channels.foldl addOnto mix)[index]? = mix[index]?.map fun sample =>
      (channels.filterMap fun channel => channel[index]?).foldl (· + ·) sample := by
  induction channels generalizing mix with
  | nil => simp
  | cons channel channels ih =>
    rw [List.foldl_cons, ih, getElem?_addOnto, Option.map_map]
    congr 1
    funext sample
    rw [List.filterMap_cons]
    cases channel[index]? with
    | none => rfl
    | some other => rfl

theorem sum_eq_ofFn (count : Nat) (channels : List (Array Float32)) :
    sum count channels = Array.ofFn fun index : Fin count => sumAt channels index := by
  refine Array.ext_getElem? fun index => ?_
  rw [sum, getElem?_foldl_addOnto, Array.getElem?_replicate, Array.getElem?_ofFn]
  split
  · rfl
  · rfl

theorem fit_eq_ofFn (count : Nat) (channel : Array Float32) :
    fit count channel = Array.ofFn fun index : Fin count => channel[index]?.getD 0 := by
  refine Array.ext_getElem? fun index => ?_
  rw [fit, Array.take_eq_extract, Array.getElem?_append, Array.size_extract, Array.getElem?_ofFn]
  by_cases hcount : index < count
  · rw [dif_pos hcount]
    by_cases hend : index < channel.size
    · rw [if_pos (by omega), Array.getElem?_extract, if_pos (by omega), Nat.zero_add]
      simp [hend]
    · have hnone : channel[index]? = none := Array.getElem?_eq_none (by omega)
      rw [if_neg (by omega), Array.getElem?_replicate, if_pos (by omega)]
      simp [hnone]
  · rw [dif_neg hcount, if_neg (by omega), Array.getElem?_replicate, if_neg (by omega)]

theorem softClip_ofFn (count : Nat) (sampleAt : Fin count → Float32) :
    softClip (Array.ofFn sampleAt) = Array.ofFn fun index => (sampleAt index).tanh := by
  rw [softClip, Array.map_ofFn]
  rfl

theorem softClip_sum (count : Nat) (channels : List (Array Float32)) :
    softClip (sum count channels) =
      Array.ofFn fun index : Fin count => (sumAt channels index).tanh := by
  rw [sum_eq_ofFn, softClip_ofFn]

theorem softClip_fit (count : Nat) (channel : Array Float32) :
    softClip (fit count channel) =
      Array.ofFn fun index : Fin count => (channel[index]?.getD 0).tanh := by
  rw [fit_eq_ofFn, softClip_ofFn]

/-! ### Mixes -/

variable (tracks : List Track)

theorem unified_left :
    (unified tracks).left = Array.ofFn fun index : Fin (Track.longest tracks) =>
      (sumAt (tracks.map Track.left) index).tanh :=
  softClip_sum _ _

theorem unified_right :
    (unified tracks).right = Array.ofFn fun index : Fin (Track.longest tracks) =>
      (sumAt (tracks.map Track.right) index).tanh :=
  softClip_sum _ _

theorem frames_unified : (unified tracks).frames = Track.longest tracks := by
  rw [Stereo.frames, unified_left, Array.size_ofFn]

theorem size_right_unified : (unified tracks).right.size = Track.longest tracks := by
  rw [unified_right, Array.size_ofFn]

theorem split_eq_map :
    split tracks = tracks.map fun track =>
      (track.name,
        ⟨Array.ofFn fun index : Fin (Track.longest tracks) => (track.left[index]?.getD 0).tanh,
          Array.ofFn fun index : Fin (Track.longest tracks) => (track.right[index]?.getD 0).tanh⟩) := by
  simp only [split, softClip_fit]

end Mixdown

/-! ### Interleaving -/

namespace Stereo

theorem toList_foldl_push (frames : List (Float32 × Float32)) (before : Array Float32) :
    (frames.foldl (fun samples pair => (samples.push pair.1).push pair.2) before).toList =
      before.toList ++ frames.flatMap fun (left, right) => [left, right] := by
  induction frames generalizing before with
  | nil => exact (List.append_nil _).symm
  | cons frame frames ih =>
    rw [List.foldl_cons, ih, List.flatMap_cons, Array.toList_push, Array.toList_push,
      List.append_assoc, List.append_assoc]
    rfl

theorem toList_interleaved (sound : Stereo) :
    sound.interleaved.toList =
      (sound.left.toList.zip sound.right.toList).flatMap fun (left, right) => [left, right] := by
  rw [interleaved, ← Array.foldl_toList, toList_foldl_push, Array.toList_zip]
  rfl

/-- In a row of pairs the first of a pair stands at twice its index, and the second after it. -/
theorem getElem?_flatMap_pair (frames : List (Float32 × Float32)) (index : Nat) :
    let row := frames.flatMap fun (left, right) => [left, right]
    row[2 * index]? = (frames.map Prod.fst)[index]? ∧
      row[2 * index + 1]? = (frames.map Prod.snd)[index]? := by
  induction frames generalizing index with
  | nil => exact ⟨rfl, rfl⟩
  | cons frame frames ih =>
    cases index with
    | zero => exact ⟨rfl, rfl⟩
    | succ index => exact ih index

variable {sound : Stereo} {count : Nat}

theorem size_interleaved (hleft : sound.left.size = count) (hright : sound.right.size = count) :
    sound.interleaved.size = 2 * count := by
  have hzip : (sound.left.toList.zip sound.right.toList).length = count := by
    rw [List.length_zip, Array.length_toList, Array.length_toList, hleft, hright, Nat.min_self]
  rw [← Array.length_toList, toList_interleaved]
  simp only [List.length_flatMap, List.length_cons, List.length_nil, List.map_const',
    List.sum_replicate_nat, hzip]
  exact Nat.mul_comm count 2

/-- Interleaving keeps every sample of both channels: a left one at twice its index, and the right one
after it. -/
structure Interleaves (sound : Stereo) (count : Nat) : Prop where
  size_eq : sound.interleaved.size = 2 * count
  left_eq : ∀ index, sound.interleaved[2 * index]? = sound.left[index]?
  right_eq : ∀ index, sound.interleaved[2 * index + 1]? = sound.right[index]?

theorem interleaves_of_size_eq (hleft : sound.left.size = count)
    (hright : sound.right.size = count) : sound.Interleaves count := by
  have hlength : sound.left.toList.length = sound.right.toList.length := by
    rw [Array.length_toList, Array.length_toList, hleft, hright]
  have hpairs := getElem?_flatMap_pair (sound.left.toList.zip sound.right.toList)
  rw [List.map_fst_zip (Nat.le_of_eq hlength), List.map_snd_zip (Nat.le_of_eq hlength.symm),
    ← toList_interleaved] at hpairs
  simp only [Array.getElem?_toList] at hpairs
  exact ⟨size_interleaved hleft hright, fun index => (hpairs index).1,
    fun index => (hpairs index).2⟩

end Stereo

namespace Mixdown

/-- Every mix is as long as the longest left channel on both sides. At each index the one mix bends the
sum of the tracks that reach so far, in their order, and of the mixes of single tracks each bends its own
track's sample, or silence past the track's end; interleaved, each sample of either side comes once. -/
theorem mixes_eq_ofFn (tracks : List Track) :
    let count := (tracks.map fun track => track.left.size).max?.getD 0
    let mix := unified tracks
    (mix.left = (Array.ofFn fun index : Fin count =>
        (sumAt (tracks.map Track.left) index).tanh) ∧
      mix.right = (Array.ofFn fun index : Fin count =>
        (sumAt (tracks.map Track.right) index).tanh) ∧
      mix.Interleaves count) ∧
    List.Forall₂ (fun track (part : String × Stereo) =>
      part.1 = track.name ∧
      part.2.left = (Array.ofFn fun index : Fin count => (track.left[index]?.getD 0).tanh) ∧
      part.2.right = (Array.ofFn fun index : Fin count => (track.right[index]?.getD 0).tanh) ∧
      part.2.Interleaves count) tracks (split tracks) := by
  rw [← Track.longest_eq_max]
  refine ⟨⟨unified_left tracks, unified_right tracks, ?_⟩, ?_⟩
  · exact Stereo.interleaves_of_size_eq (frames_unified tracks) (size_right_unified tracks)
  · rw [split_eq_map, List.forall₂_map_right_iff, List.forall₂_same]
    intro track _
    exact ⟨rfl, rfl, rfl, Stereo.interleaves_of_size_eq Array.size_ofFn Array.size_ofFn⟩

end Mixdown

end DrumMachine
