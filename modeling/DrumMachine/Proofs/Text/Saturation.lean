import DrumMachine.Proofs.Text.Words

/-!
# What a text is worth as a number

A text falls apart in one way into white space, a sign, digits and a rest (`Numeral`). What it is read
as is the 32-bit integer nearest to what its sign and digits say (`lenientInt_saturates`).
-/

namespace DrumMachine.Text

/-- A text taken apart: white space, at most one sign, digits, and what follows. Each part goes as far
as it can. -/
@[ext]
structure Numeral (text : String) where
  blanks : List Char
  sign : Option Char
  digits : List Char
  rest : List Char
  text_eq : text.toList = blanks ++ (sign.toList ++ (digits ++ rest))
  blanks_mem : ∀ c ∈ blanks, isBlank c = true
  sign_mem : ∀ c ∈ sign, c = '-' ∨ c = '+'
  digits_mem : ∀ c ∈ digits, c.isDigit = true
  blanks_end : ∀ c ∈ (sign.toList ++ (digits ++ rest)).head?, isBlank c = false
  sign_end : sign = none → ∀ c ∈ (digits ++ rest).head?, c ≠ '-' ∧ c ≠ '+'
  digits_end : ∀ c ∈ rest.head?, c.isDigit = false

/-- What the numeral is worth, however great that is. -/
def Numeral.value {text : String} (numeral : Numeral text) : Int :=
  let n : Int := Nat.ofDigitChars 10 numeral.digits 0
  if numeral.sign = some '-' then -n else n

/-! ### Parts that go as far as they can -/

theorem span_append {p : Char → Bool} {front back : List Char}
    (hfront : ∀ c ∈ front, p c = true) (hback : ∀ c ∈ back.head?, p c = false) :
    (front ++ back).takeWhile p = front ∧ (front ++ back).dropWhile p = back := by
  rw [List.takeWhile_append_of_pos hfront, List.dropWhile_append_of_pos hfront]
  cases back with
  | nil => exact ⟨List.append_nil _, rfl⟩
  | cons c back =>
    have hc : ¬p c = true := by
      rw [hback c rfl]
      exact Bool.false_ne_true
    rw [List.takeWhile_cons_of_neg hc, List.dropWhile_cons_of_neg hc]
    exact ⟨List.append_nil _, rfl⟩

theorem dropWhile_end (p : Char → Bool) (cs : List Char) :
    ∀ c ∈ (cs.dropWhile p).head?, p c = false := by
  intro c hc
  have h := List.head?_dropWhile_not p cs
  rw [Option.mem_def.1 hc] at h
  simpa using h

theorem splitSign_append {sign : Option Char} {tail : List Char}
    (hsign : ∀ c ∈ sign, c = '-' ∨ c = '+')
    (htail : sign = none → ∀ c ∈ tail.head?, c ≠ '-' ∧ c ≠ '+') :
    splitSign (sign.toList ++ tail) = (decide (sign = some '-'), tail) := by
  cases sign with
  | none =>
    rw [Option.toList_none, List.nil_append, splitSign]
    · rfl
    · rintro digits rfl
      exact (htail rfl '-' rfl).1 rfl
    · rintro digits rfl
      exact (htail rfl '+' rfl).2 rfl
  | some c =>
    rcases hsign c rfl with rfl | rfl
    · rfl
    · rfl

theorem exists_sign (cs : List Char) :
    ∃ (sign : Option Char) (tail : List Char), cs = sign.toList ++ tail ∧
      (∀ c ∈ sign, c = '-' ∨ c = '+') ∧
      (sign = none → ∀ c ∈ tail.head?, c ≠ '-' ∧ c ≠ '+') := by
  by_cases h : ∃ c ∈ cs.head?, c = '-' ∨ c = '+'
  · obtain ⟨c, hc, hsign⟩ := h
    obtain ⟨tail, rfl⟩ := List.head?_eq_some_iff.1 hc
    refine ⟨some c, tail, rfl, ?_, ?_⟩
    · intro d hd
      obtain rfl := Option.some.inj hd
      exact hsign
    · intro hnone
      exact absurd hnone (Option.some_ne_none c)
  · refine ⟨none, cs, rfl, ?_, ?_⟩
    · intro c hc
      exact absurd hc (Option.not_mem_none c)
    · intro _ c hc
      exact ⟨fun heq => h ⟨c, hc, .inl heq⟩, fun heq => h ⟨c, hc, .inr heq⟩⟩

namespace Numeral

variable {text : String}

protected theorem nonempty (text : String) : Nonempty (Numeral text) := by
  obtain ⟨sign, tail, htail, hsign, hend⟩ := exists_sign (text.toList.dropWhile isBlank)
  have htext : text.toList = text.toList.takeWhile isBlank ++
      (sign.toList ++ (tail.takeWhile Char.isDigit ++ tail.dropWhile Char.isDigit)) := by
    rw [List.takeWhile_append_dropWhile, ← htail, List.takeWhile_append_dropWhile]
  have hblanks := dropWhile_end isBlank text.toList
  rw [htail, ← List.takeWhile_append_dropWhile (p := Char.isDigit) (l := tail)] at hblanks
  rw [← List.takeWhile_append_dropWhile (p := Char.isDigit) (l := tail)] at hend
  exact ⟨⟨_, sign, _, _, htext, fun c => List.mem_takeWhile_imp, hsign,
    fun c => List.mem_takeWhile_imp, hblanks, hend, dropWhile_end Char.isDigit tail⟩⟩

/-- The parts are found from the front, each as far as it goes. -/
theorem parts_eq (numeral : Numeral text) :
    numeral.blanks = text.toList.takeWhile isBlank ∧
      splitSign (text.toList.dropWhile isBlank) =
        (decide (numeral.sign = some '-'), numeral.digits ++ numeral.rest) ∧
      (numeral.digits ++ numeral.rest).takeWhile Char.isDigit = numeral.digits := by
  obtain ⟨hblanks, htail⟩ := span_append numeral.blanks_mem numeral.blanks_end
  obtain ⟨hdigits, -⟩ := span_append numeral.digits_mem numeral.digits_end
  rw [numeral.text_eq, hblanks, htail, splitSign_append numeral.sign_mem numeral.sign_end]
  exact ⟨rfl, rfl, hdigits⟩

protected theorem unique (numeral other : Numeral text) : other = numeral := by
  obtain ⟨hblanks, hsplit, hdigits⟩ := numeral.parts_eq
  obtain ⟨hblanks', hsplit', hdigits'⟩ := other.parts_eq
  have htail : other.digits ++ other.rest = numeral.digits ++ numeral.rest :=
    (Prod.mk.inj (hsplit'.symm.trans hsplit)).2
  have hsign : other.sign = numeral.sign := by
    have htext := other.text_eq.symm.trans numeral.text_eq
    rw [hblanks, hblanks', List.append_cancel_left_eq, htail, List.append_cancel_right_eq] at htext
    simpa using congrArg List.head? htext
  have hdigit : other.digits = numeral.digits := by
    rw [← hdigits, ← hdigits', htail]
  have hrest : other.rest = numeral.rest := by
    rw [hdigit] at htail
    exact List.append_cancel_left htail
  exact Numeral.ext (hblanks'.trans hblanks.symm) hsign hdigit hrest

/-- It makes no difference that the digits are counted up to a limit only, which is beyond all 32-bit
integers but the least one. -/
theorem lenientInt_eq_saturate (numeral : Numeral text) :
    lenientInt text = saturate numeral.value := by
  obtain ⟨-, hsplit, hdigits⟩ := numeral.parts_eq
  have hmagnitude : magnitude 0 (numeral.digits ++ numeral.rest) =
      min (Nat.ofDigitChars 10 numeral.digits 0) magnitudeCap := by
    have h := magnitude_min 0 (numeral.digits ++ numeral.rest)
    rwa [Nat.zero_min, hdigits] at h
  have hcap : magnitudeCap = 0x80000000 := rfl
  rw [lenientInt_eq, hsplit, signedMagnitude, hmagnitude, saturate, saturate, value]
  congr 1
  by_cases hsign : numeral.sign = some '-'
  · rw [if_pos (decide_eq_true hsign), if_pos hsign]
    omega
  · rw [if_neg (by simpa using hsign), if_neg hsign]
    omega

end Numeral

/-- Every text falls apart in one way and is read as the integer nearest to what it is worth, all of
whose digits count. Reading it byte by byte and counting in words never fails and gives the same, and
the decimal text of an integer is read as that integer. -/
theorem lenientInt_saturates :
    (∀ text, ∃ numeral : Numeral text, (∀ other : Numeral text, other = numeral) ∧
      (lenientInt text).toInt = max (-0x80000000) (min numeral.value 0x7fffffff)) ∧
    (∀ text, lenientInt? text = some (lenientInt text)) ∧
    ∀ n : Int32, lenientInt (toString n.toInt) = n := by
  refine ⟨?_, lenientInt?_eq, lenientInt_toString⟩
  intro text
  obtain ⟨numeral⟩ := Numeral.nonempty text
  refine ⟨numeral, numeral.unique, ?_⟩
  rw [numeral.lenientInt_eq_saturate, toInt_saturate]

example : lenientInt " \n-99999999999 bpm" = -0x80000000 ∧ lenientInt "+-7" = 0 := by
  decide

end DrumMachine.Text
