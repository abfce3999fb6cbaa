import DrumMachine.Text.Numeral
import Mathlib.Data.List.TakeWhile

/-!
# Reading numbers back

Capping the magnitude at every digit gives the same number as capping it once at the end, so the
decimal text of any 32-bit integer is read as that integer (`lenientInt_toString`).
-/

namespace DrumMachine.Text

theorem magnitude_min (value : Nat) (cs : List Char) :
    magnitude (min value magnitudeCap) cs =
      min (Nat.ofDigitChars 10 (cs.takeWhile Char.isDigit) value) magnitudeCap := by
  induction cs generalizing value with
  | nil => rfl
  | cons c cs ih =>
    rw [magnitude, List.takeWhile_cons]
    by_cases hc : c.isDigit = true
    · have hcap : min (min value magnitudeCap * 10 + (c.toNat - '0'.toNat)) magnitudeCap =
          min (10 * value + (c.toNat - '0'.toNat)) magnitudeCap := by
        omega
      rw [if_pos hc, if_pos hc, Nat.ofDigitChars_cons, hcap, ih]
    · rw [if_neg hc, if_neg hc, Nat.ofDigitChars_nil]

theorem magnitude_toDigits (n : Nat) : magnitude 0 (Nat.toDigits 10 n) = min n magnitudeCap := by
  have hdigits : (Nat.toDigits 10 n).takeWhile Char.isDigit = Nat.toDigits 10 n :=
    List.takeWhile_eq_self_iff.2 fun c hc => Nat.isDigit_of_mem_toDigits (by decide) (by decide) hc
  have h := magnitude_min 0 (Nat.toDigits 10 n)
  rwa [hdigits, Nat.ofDigitChars_ten_toDigits] at h

theorem isBlank_of_isDigit {c : Char} (h : c.isDigit = true) : isBlank c = false := by
  have ⟨hlow, hhigh⟩ : 48 ≤ c.toNat ∧ c.toNat ≤ 57 := by
    simpa [Char.isDigit, UInt32.le_iff_toNat_le] using h
  simp only [isBlank, Bool.or_eq_false_iff, Bool.and_eq_false_iff, decide_eq_false_iff_not,
    beq_eq_false_iff_ne]
  omega

theorem lenientInt_of_head {text : String} {c : Char} {cs : List Char} (h : text.toList = c :: cs)
    (hc : c.isDigit = true) : lenientInt text = saturate (magnitude 0 text.toList) := by
  have hdrop : text.toList.dropWhile isBlank = c :: cs := by
    rw [h, List.dropWhile_cons, if_neg (by rw [isBlank_of_isDigit hc]; decide)]
  rw [lenientInt, hdrop, h]
  split
  · rename_i digits heq
    obtain ⟨rfl, -⟩ := List.cons.inj heq
    exact absurd hc (by decide)
  · rename_i digits heq
    obtain ⟨rfl, -⟩ := List.cons.inj heq
    exact absurd hc (by decide)
  · rfl

theorem saturate_toInt (n : Int32) : saturate n.toInt = n := by
  have hlow := n.le_toInt
  have hhigh := n.toInt_lt
  have hrange : max (-0x80000000) (min n.toInt 0x7fffffff) = n.toInt := by omega
  rw [saturate, hrange, Int32.ofInt_toInt]

theorem lenientInt_toString (n : Int32) : lenientInt (toString n.toInt) = n := by
  have hlow := n.le_toInt
  have hhigh := n.toInt_lt
  rw [Int.toString_eq_repr, Int.repr_eq_if]
  split
  · rename_i hn
    have hlist : n.toInt.toNat.repr.toList = Nat.toDigits 10 n.toInt.toNat := Nat.toList_repr
    obtain ⟨c, cs, hcs⟩ := List.exists_cons_of_ne_nil (Nat.toDigits_ne_nil (n := n.toInt.toNat) (b := 10))
    have hc : c.isDigit = true :=
      Nat.isDigit_of_mem_toDigits (by decide) (by decide) (hcs ▸ List.mem_cons_self ..)
    have hvalue : ((min n.toInt.toNat magnitudeCap : Nat) : Int) = n.toInt := by
      rw [magnitudeCap]
      omega
    rw [lenientInt_of_head (hlist.trans hcs) hc, hlist, magnitude_toDigits, hvalue, saturate_toInt]
  · rename_i hn
    have hlist : ("-" ++ (-n.toInt).toNat.repr).toList = '-' :: Nat.toDigits 10 (-n.toInt).toNat := by
      rw [String.toList_append, Nat.toList_repr]
      rfl
    have hvalue : -((min (-n.toInt).toNat magnitudeCap : Nat) : Int) = n.toInt := by
      rw [magnitudeCap]
      omega
    rw [lenientInt, hlist, List.dropWhile_cons, if_neg (by decide)]
    simp only
    rw [magnitude_toDigits, hvalue, saturate_toInt]

end DrumMachine.Text
