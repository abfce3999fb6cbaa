import DrumMachine.Proofs.Text.Numeral

/-!
# Numerals in bytes and words

A numeral can be read from the bytes of a text and counted in 64-bit words (`lenientInt?`). Two things
could then go wrong: a text could be cut inside a character, and a word could overflow. Neither ever
happens, because a sign is a single byte and the count is cut off at every digit, so the result is
always that of reading characters and counting without bounds (`lenientInt?_eq`).
-/

namespace DrumMachine.Text

/-- The bytes in which a text is stored. -/
def bytes (text : String) : List UInt8 := text.toByteArray.data.toList

/-- The text behind some bytes, unless they end inside a character. -/
def dropBytes? (text : String) (count : Nat) : Option String :=
  if h : (⟨count⟩ : String.Pos.Raw).IsValid text then
    some (text.sliceFrom (text.pos ⟨count⟩ h)).copy
  else none

/-- Whether a text begins with a minus, and what is behind its sign if it has one. -/
def splitSign? (text : String) : Option (Bool × String) :=
  match (bytes text).head? with
  | some 0x2d => (dropBytes? text 1).map (true, ·)
  | some 0x2b => (dropBytes? text 1).map (false, ·)
  | _ => some (false, text)

def isDigitByte (byte : UInt8) : Bool := 0x30 ≤ byte && byte ≤ 0x39

/-- What a digit is worth, unless the byte comes before all digits. -/
def digit? (byte : UInt8) : Option UInt8 := if 0x30 ≤ byte then some (byte - 0x30) else none

/-- The integer as a 64-bit word, unless it is out of range. -/
def word? (n : Int) : Option Int64 :=
  if -0x8000000000000000 ≤ n ∧ n < 0x8000000000000000 then some (.ofInt n) else none

/-- Digits worth `value` and one more, but never more than the magnitude of the least 32-bit
integer. -/
def addDigit? (value : Int64) (byte : UInt8) : Option Int64 :=
  (digit? byte).bind fun digit =>
    (word? (value.toInt * 10)).bind fun tens =>
      (word? (tens.toInt + digit.toNat)).map fun sum => min sum 0x80000000

/-- The word in 32 bits, or zero if it is out of range. -/
def narrow (value : Int64) : Int32 :=
  if -0x80000000 ≤ value.toInt ∧ value.toInt < 0x80000000 then .ofInt value.toInt else 0

/-- The number at the front of what is behind a sign. -/
def signedInt? (negative : Bool) (digits : String) : Option Int32 :=
  (((bytes digits).takeWhile isDigitByte).foldlM addDigit? 0).bind fun value =>
    (if negative then word? (-value.toInt) else some value).map fun signed =>
      narrow (max (-0x80000000) (min signed 0x7fffffff))

/-- A text read as a number, unless it is cut inside a character or a word overflows. -/
def lenientInt? (text : String) : Option Int32 :=
  (splitSign? (String.ofList (text.toList.dropWhile isBlank))).bind fun part =>
    signedInt? part.1 part.2

/-! ### Characters and their bytes -/

theorem bytes_ofList (cs : List Char) :
    bytes (String.ofList cs) = cs.flatMap String.utf8EncodeChar := by
  rw [bytes, String.toByteArray_ofList, List.utf8Encode, List.toList_data_toByteArray]

theorem utf8EncodeChar_of_lt {c : Char} (h : c.toNat < 0x80) :
    String.utf8EncodeChar c = [UInt8.ofNat c.toNat] := by
  rw [String.utf8EncodeChar]
  exact if_pos (Nat.le_of_lt_succ h)

/-- The first byte of any other character is none of the bytes that are characters of their own. -/
theorem exists_lead_of_le {c : Char} (h : 0x80 ≤ c.toNat) :
    ∃ lead more, String.utf8EncodeChar c = lead :: more ∧ 0x80 ≤ lead.toNat := by
  have hlong : ¬c.val.toNat ≤ 0x7f := Nat.not_le.2 h
  have hlead {n : Nat} (hn : 0x80 ≤ n % 256) : 0x80 ≤ (UInt8.ofNat n).toNat := by
    rw [UInt8.toNat_ofNat']
    exact hn
  simp only [String.utf8EncodeChar, if_neg hlong]
  split
  · exact ⟨_, _, rfl, hlead (by omega)⟩
  · split
    · exact ⟨_, _, rfl, hlead (by omega)⟩
    · exact ⟨_, _, rfl, hlead (by omega)⟩

theorem isDigit_iff {c : Char} : c.isDigit = true ↔ 0x30 ≤ c.toNat ∧ c.toNat ≤ 0x39 := by
  simp [Char.isDigit, UInt32.le_iff_toNat_le]

theorem isDigitByte_iff {byte : UInt8} :
    isDigitByte byte = true ↔ 0x30 ≤ byte.toNat ∧ byte.toNat ≤ 0x39 := by
  simp [isDigitByte, UInt8.le_iff_toNat_le]

/-- The digits at the front of a text are a byte each, and no other byte is among them. -/
theorem takeWhile_isDigitByte (cs : List Char) :
    (cs.flatMap String.utf8EncodeChar).takeWhile isDigitByte =
      (cs.takeWhile Char.isDigit).map fun c => UInt8.ofNat c.toNat := by
  induction cs with
  | nil => rfl
  | cons c cs ih =>
    rw [List.flatMap_cons, List.takeWhile_cons]
    by_cases hshort : c.toNat < 0x80
    · have hbyte : isDigitByte (UInt8.ofNat c.toNat) = c.isDigit := by
        rw [Bool.eq_iff_iff, isDigitByte_iff, isDigit_iff, UInt8.toNat_ofNat']
        omega
      rw [utf8EncodeChar_of_lt hshort, List.singleton_append, List.takeWhile_cons, hbyte, ih]
      split <;> rfl
    · obtain ⟨lead, more, hbytes, hlead⟩ := exists_lead_of_le (Nat.not_lt.1 hshort)
      have hbyte : ¬isDigitByte lead = true := by
        rw [isDigitByte_iff]
        omega
      have hdigit : ¬c.isDigit = true := by
        rw [isDigit_iff]
        omega
      rw [hbytes, List.cons_append, List.takeWhile_cons, if_neg hbyte, if_neg hdigit, List.map_nil]

theorem head?_bytes_eq_iff (cs : List Char) {c : Char} (hc : c.toNat < 0x80) :
    (cs.flatMap String.utf8EncodeChar).head? = some (UInt8.ofNat c.toNat) ↔
      cs.head? = some c := by
  cases cs with
  | nil => simp
  | cons d cs =>
    rw [List.flatMap_cons, List.head?_cons, Option.some.injEq, ← Char.toNat_inj]
    by_cases hshort : d.toNat < 0x80
    · rw [utf8EncodeChar_of_lt hshort, List.singleton_append, List.head?_cons, Option.some.injEq,
        ← UInt8.toNat_inj, UInt8.toNat_ofNat', UInt8.toNat_ofNat']
      omega
    · obtain ⟨lead, more, hbytes, hlead⟩ := exists_lead_of_le (Nat.not_lt.1 hshort)
      rw [hbytes, List.cons_append, List.head?_cons, Option.some.injEq, ← UInt8.toNat_inj,
        UInt8.toNat_ofNat']
      omega

/-- One byte behind the start of such a character is where the next one starts. -/
theorem dropBytes?_one {c : Char} (hc : c.toNat < 0x80) (cs : List Char) :
    dropBytes? (String.ofList (c :: cs)) 1 = some (String.ofList cs) := by
  have hsize : c.utf8Size = 1 := by
    rw [← String.length_utf8EncodeChar, utf8EncodeChar_of_lt hc]
    rfl
  have htext : String.ofList (c :: cs) = String.singleton c ++ String.ofList cs := by
    apply String.toList_injective
    simp
  have hoffset : (⟨1⟩ : String.Pos.Raw) = (String.singleton c).rawEndPos := by
    simp [String.Pos.Raw.ext_iff, hsize]
  have hvalid : (⟨1⟩ : String.Pos.Raw).IsValid (String.ofList (c :: cs)) :=
    String.Pos.Raw.isValid_iff_exists_append.2 ⟨_, _, htext, hoffset⟩
  have hsplits : (String.pos (String.ofList (c :: cs)) ⟨1⟩ hvalid).Splits (String.singleton c)
      (String.ofList cs) := ⟨htext, hoffset⟩
  rw [dropBytes?, dif_pos hvalid, (String.Pos.splits _).eq_right hsplits]

/-! ### Signs -/

/-- Whether characters begin with a minus, and what is behind their sign if they have one. -/
def splitSign : List Char → Bool × List Char
  | '-' :: digits => (true, digits)
  | '+' :: digits => (false, digits)
  | digits => (false, digits)

theorem splitSign?_ofList (cs : List Char) :
    splitSign? (String.ofList cs) = some ((splitSign cs).1, String.ofList (splitSign cs).2) := by
  have hminus := head?_bytes_eq_iff cs (show '-'.toNat < 0x80 by decide)
  have hplus := head?_bytes_eq_iff cs (show '+'.toNat < 0x80 by decide)
  rw [splitSign?, bytes_ofList]
  split
  · rename_i h
    obtain ⟨digits, rfl⟩ := List.head?_eq_some_iff.1 (hminus.1 h)
    rw [dropBytes?_one (by decide)]
    rfl
  · rename_i h
    obtain ⟨digits, rfl⟩ := List.head?_eq_some_iff.1 (hplus.1 h)
    rw [dropBytes?_one (by decide)]
    rfl
  · rename_i hother hother'
    unfold splitSign
    split
    · exact absurd (hminus.2 rfl) hother
    · exact absurd (hplus.2 rfl) hother'
    · rfl

/-- The number at the front of what is behind a sign. -/
def signedMagnitude (part : Bool × List Char) : Int :=
  if part.1 then -(magnitude 0 part.2 : Int) else magnitude 0 part.2

theorem lenientInt_eq (text : String) :
    lenientInt text = saturate (signedMagnitude (splitSign (text.toList.dropWhile isBlank))) := by
  rw [lenientInt]
  split
  · rename_i digits h
    rw [h]
    rfl
  · rename_i digits h
    rw [h]
    rfl
  · rename_i hminus hplus
    rw [splitSign]
    · rfl
    · exact hminus
    · exact hplus

/-! ### Counting in words -/

theorem word?_of_mem {n : Int} (hlow : -0x8000000000000000 ≤ n) (hhigh : n < 0x8000000000000000) :
    word? n = some (.ofInt n) := if_pos ⟨hlow, hhigh⟩

theorem toInt_ofInt_of_mem {n : Int} (hlow : -0x8000000000000000 ≤ n)
    (hhigh : n < 0x8000000000000000) : (Int64.ofInt n).toInt = n :=
  Int64.toInt_ofInt_of_le hlow hhigh

theorem toInt_min (a b : Int64) : (min a b).toInt = min a.toInt b.toInt := by
  change (if a ≤ b then a else b).toInt = _
  split
  · rename_i h
    rw [Int64.le_iff_toInt_le] at h
    omega
  · rename_i h
    rw [Int64.le_iff_toInt_le] at h
    omega

theorem toInt_max (a b : Int64) : (max a b).toInt = max a.toInt b.toInt := by
  change (if a ≤ b then b else a).toInt = _
  split
  · rename_i h
    rw [Int64.le_iff_toInt_le] at h
    omega
  · rename_i h
    rw [Int64.le_iff_toInt_le] at h
    omega

/-- As long as the digits before are counted up to the limit only, one digit more leaves no word. -/
theorem addDigit?_eq {value : Nat} (hvalue : value ≤ magnitudeCap) {c : Char}
    (hc : c.isDigit = true) :
    addDigit? (.ofInt value) (UInt8.ofNat c.toNat) =
      some (.ofInt (min (value * 10 + (c.toNat - '0'.toNat)) magnitudeCap : Nat)) := by
  obtain ⟨hlow, hhigh⟩ := isDigit_iff.1 hc
  have hcap : magnitudeCap = 0x80000000 := rfl
  have hcapWord : (0x80000000 : Int64).toInt = (magnitudeCap : Int) := rfl
  have hzero : '0'.toNat = 0x30 := rfl
  have hbyte : (UInt8.ofNat c.toNat).toNat = c.toNat := by
    rw [UInt8.toNat_ofNat']
    omega
  have hle : 0x30 ≤ UInt8.ofNat c.toNat := by
    rw [UInt8.le_iff_toNat_le, hbyte]
    exact hlow
  have hdigit : (UInt8.ofNat c.toNat - 0x30).toNat = c.toNat - '0'.toNat := by
    rw [UInt8.toNat_sub_of_le _ _ hle, hbyte]
    rfl
  have hstart : (Int64.ofInt value).toInt = value := toInt_ofInt_of_mem (by omega) (by omega)
  have htens : (Int64.ofInt (value * 10 : Int)).toInt = value * 10 :=
    toInt_ofInt_of_mem (by omega) (by omega)
  have hmin : min (.ofInt (value * 10 + (c.toNat - '0'.toNat : Nat) : Int)) 0x80000000 =
      Int64.ofInt (min (value * 10 + (c.toNat - '0'.toNat)) magnitudeCap : Nat) := by
    rw [← Int64.toInt_inj, toInt_min, toInt_ofInt_of_mem (by omega) (by omega),
      toInt_ofInt_of_mem (by omega) (by omega), hcapWord]
    omega
  rw [addDigit?, digit?, if_pos hle, Option.bind_some, hdigit, hstart,
    word?_of_mem (by omega) (by omega), Option.bind_some, htens,
    word?_of_mem (by omega) (by omega), Option.map_some, hmin]

theorem foldlM_addDigit? {value : Nat} (hvalue : value ≤ magnitudeCap) (cs : List Char) :
    ((cs.takeWhile Char.isDigit).map fun c => UInt8.ofNat c.toNat).foldlM addDigit?
      (Int64.ofInt value) = some (.ofInt (magnitude value cs : Nat)) := by
  induction cs generalizing value with
  | nil => rfl
  | cons c cs ih =>
    rw [List.takeWhile_cons, magnitude]
    by_cases hc : c.isDigit = true
    · rw [if_pos hc, if_pos hc, List.map_cons, List.foldlM_cons, addDigit?_eq hvalue hc]
      exact ih (Nat.min_le_right ..)
    · rw [if_neg hc, if_neg hc]
      rfl

theorem magnitude_le (cs : List Char) : magnitude 0 cs ≤ magnitudeCap := by
  have h := magnitude_min 0 cs
  rw [Nat.zero_min] at h
  rw [h]
  exact Nat.min_le_right ..

theorem narrow_clamp (value : Int64) :
    narrow (max (-0x80000000) (min value 0x7fffffff)) = saturate value.toInt := by
  have hclamp : (max (-0x80000000) (min value 0x7fffffff) : Int64).toInt =
      max (-0x80000000) (min value.toInt 0x7fffffff) := by
    rw [toInt_max, toInt_min]
    rfl
  rw [narrow, hclamp, if_pos (by omega), saturate]

theorem signedInt?_ofList (negative : Bool) (digits : List Char) :
    signedInt? negative (String.ofList digits) =
      some (saturate (signedMagnitude (negative, digits))) := by
  have hle : magnitude 0 digits ≤ 0x80000000 := magnitude_le digits
  have hvalue : (Int64.ofInt (magnitude 0 digits : Nat)).toInt = magnitude 0 digits :=
    toInt_ofInt_of_mem (by omega) (by omega)
  have hfold := foldlM_addDigit? (Nat.zero_le _) digits
  have hzero : Int64.ofInt (0 : Nat) = 0 := rfl
  rw [signedInt?, bytes_ofList, takeWhile_isDigitByte, ← hzero, hfold, Option.bind_some,
    signedMagnitude]
  cases negative with
  | false =>
    rw [if_neg Bool.false_ne_true, if_neg Bool.false_ne_true, Option.map_some, narrow_clamp, hvalue]
  | true =>
    rw [if_pos rfl, if_pos rfl, hvalue, word?_of_mem (by omega) (by omega), Option.map_some,
      narrow_clamp, toInt_ofInt_of_mem (by omega) (by omega)]

theorem lenientInt?_eq (text : String) : lenientInt? text = some (lenientInt text) := by
  rw [lenientInt?, splitSign?_ofList, Option.bind_some, signedInt?_ofList, lenientInt_eq]

end DrumMachine.Text
