import DrumMachine.Document.Writer

/-!
# How a document spells its tokens

`Layout` is the grammar of tokens, read off the page: blanks may stand anywhere, a mark is one
character, a text stands in quotes or bare, and a bare text reaches as far as it can. The scanner is
followed through blanks, marks and texts, with the tokens it completes and the lines it counts. What a
text can be is read off the two ways to write one (`Legible`).
-/

namespace DrumMachine.Document

/-- A bare text could not go on here. -/
def AtBoundary : List Char → Prop
  | [] => True
  | c :: _ => isDelimiter c = true

/-- The characters of a text that can be written bare. -/
structure IsBare (text : List Char) : Prop where
  ne_nil : text ≠ []
  head_ne : text.head? ≠ some '"'
  plain : ∀ c ∈ text, isDelimiter c = false

/-- The characters spell the tokens. -/
inductive Layout : List Char → List Token → Prop where
  | done : Layout [] []
  | blank {c : Char} {cs : List Char} {tokens : List Token} (hc : Text.isBlank c = true)
      (rest : Layout cs tokens) : Layout (c :: cs) tokens
  | mark {c : Char} {cs : List Char} {token : Token} {tokens : List Token}
      (hc : Token.ofMark? c = some token) (rest : Layout cs tokens) :
      Layout (c :: cs) (token :: tokens)
  | quoted {text cs : List Char} {tokens : List Token} (htext : '"' ∉ text)
      (rest : Layout cs tokens) :
      Layout ('"' :: (text ++ '"' :: cs)) (.text (String.ofList text) :: tokens)
  | bare {text cs : List Char} {tokens : List Token} (htext : IsBare text)
      (hcs : AtBoundary cs) (rest : Layout cs tokens) :
      Layout (text ++ cs) (.text (String.ofList text) :: tokens)

/-! ### Single characters -/

theorem isBlank_of_isDelimiter {c : Char} (h : isDelimiter c = true)
    (hmark : Token.ofMark? c = none) : Text.isBlank c = true := by
  rwa [isDelimiter, hmark, Option.isSome_none, Bool.or_false] at h

theorem isBlank_of_ofMark? {c : Char} {token : Token} (h : Token.ofMark? c = some token) :
    Text.isBlank c = false := by
  unfold Token.ofMark? at h
  split at h
  all_goals first | rfl | exact absurd h.symm (Option.some_ne_none _)

theorem ofMark?_ne_text (c : Char) (text : String) : Token.ofMark? c ≠ some (.text text) := by
  unfold Token.ofMark?
  split <;> simp

/-! ### What the scanner does with one character -/

namespace Scanner

theorem push_append_ofList (content : String) (c : Char) (text : List Char) :
    content.push c ++ String.ofList text = content ++ String.ofList (c :: text) := by
  apply String.toList_injective
  simp

/-- The outcome once all characters are taken. -/
def scan (s : Scanner) (cs : List Char) : Except Nat (List Located) := (cs.foldl feed s).finish

theorem scan_cons (s : Scanner) (c : Char) (cs : List Char) :
    s.scan (c :: cs) = (s.feed c).scan cs := rfl

theorem start_of_isBlank (s : Scanner) {c : Char} (h : Text.isBlank c = true) :
    s.start c = ⟨s.done, s.line + [c].count '\n', .between⟩ := by
  by_cases hc : c = '\n'
  · rw [start, if_pos hc, hc, List.count_singleton_self]
  · rw [start, if_neg hc, if_pos h, List.count_eq_zero.2 (by simpa using Ne.symm hc), Nat.add_zero]

theorem start_of_ofMark? (s : Scanner) {c : Char} {token : Token}
    (h : Token.ofMark? c = some token) : s.start c = s.emit token s.line := by
  have hblank := isBlank_of_ofMark? h
  have hc : c ≠ '\n' := by
    rintro rfl
    exact absurd hblank (by decide)
  rw [start, if_neg hc, if_neg (by rw [hblank]; decide), h]

theorem start_quote (s : Scanner) : s.start '"' = ⟨s.done, s.line, .quoted "" s.line⟩ := rfl

theorem start_of_plain (s : Scanner) {c : Char} (h : isDelimiter c = false) (hc : c ≠ '"') :
    s.start c = ⟨s.done, s.line, .bare (String.singleton c)⟩ := by
  have ⟨hblank, hmark⟩ := Bool.or_eq_false_iff.1 h
  have hnewline : c ≠ '\n' := by
    rintro rfl
    exact absurd hblank (by decide)
  have hnone : Token.ofMark? c = none := 
    Option.isNone_iff_eq_none.1 (Option.isSome_eq_false_iff.1 hmark)
  rw [start, if_neg hnewline, if_neg (by rw [hblank]; decide), hnone]
  exact if_neg hc

/-- At its end a bare text is complete, whatever comes next. -/
theorem scan_bare_of_atBoundary {done : List Located} {line : Nat} {content : String}
    {cs : List Char} (h : AtBoundary cs) :
    scan ⟨done, line, .bare content⟩ cs = scan ⟨⟨.text content, line⟩ :: done, line, .between⟩ cs := by
  cases cs with
  | nil => rfl
  | cons c cs =>
    have hc : isDelimiter c = true := h
    rw [scan_cons, scan_cons, feed, feed]
    simp only
    rw [if_pos hc]
    rfl

theorem scan_bare_append {done : List Located} {line : Nat} {text : List Char}
    (h : ∀ c ∈ text, isDelimiter c = false) (content : String) (cs : List Char) :
    scan ⟨done, line, .bare content⟩ (text ++ cs) =
      scan ⟨done, line, .bare (content ++ String.ofList text)⟩ cs := by
  induction text generalizing content with
  | nil => simp
  | cons c text ih =>
    have hc := h c (List.mem_cons_self ..)
    have hfeed : feed ⟨done, line, .bare content⟩ c = ⟨done, line, .bare (content.push c)⟩ := by
      rw [feed]
      simp only
      rw [if_neg (by rw [hc]; decide)]
    rw [List.cons_append, scan_cons, hfeed, ih (fun d hd => h d (List.mem_cons_of_mem _ hd)),
      push_append_ofList]

theorem scan_quoted_append {text : List Char} (h : '"' ∉ text) (done : List Located)
    (content : String) (start line : Nat) (cs : List Char) :
    scan ⟨done, line, .quoted content start⟩ (text ++ '"' :: cs) =
      scan ⟨⟨.text (content ++ String.ofList text), start⟩ :: done, line + text.count '\n',
        .between⟩ cs := by
  induction text generalizing content line with
  | nil =>
    rw [List.nil_append, scan_cons, feed]
    simp [emit]
  | cons c text ih =>
    have hc : c ≠ '"' := fun heq => h (heq ▸ List.mem_cons_self ..)
    have htext : '"' ∉ text := fun hmem => h (List.mem_cons_of_mem _ hmem)
    have hline : (if c = '\n' then line + 1 else line) + text.count '\n' =
        line + (c :: text).count '\n' := by
      by_cases hnewline : c = '\n'
      · rw [if_pos hnewline, hnewline, List.count_cons_self, Nat.add_right_comm, Nat.add_assoc]
      · rw [if_neg hnewline, List.count_cons_of_ne hnewline]
    rw [List.cons_append, scan_cons, feed]
    simp only
    rw [if_neg hc, ih htext, hline, push_append_ofList]

end Scanner

/-! ### Texts -/

/-- A text that can stand in a document: if it holds a quote at all, it can stand bare. -/
def Legible (text : String) : Prop :=
  text.toList.head? ≠ some '"' ∧ ¬('"' ∈ text.toList ∧ ∃ c ∈ text.toList, isDelimiter c = true)

instance : DecidablePred Legible := fun _ => inferInstanceAs (Decidable (_ ∧ _))

theorem legible_of_not_mem {text : String} (h : '"' ∉ text.toList) : Legible text :=
  ⟨fun hhead => h (List.mem_of_mem_head? hhead), fun hboth => h hboth.1⟩

theorem IsBare.legible {text : String} (h : IsBare text.toList) : Legible text := by
  refine ⟨h.head_ne, ?_⟩
  rintro ⟨-, c, hc, hdelim⟩
  rw [h.plain c hc] at hdelim
  exact absurd hdelim (by decide)

theorem Legible.isBare {text : String} (h : Legible text) (hquotes : needsQuotes text = false) :
    IsBare text.toList := by
  have ⟨hempty, hplain⟩ := Bool.or_eq_false_iff.1 hquotes
  refine ⟨fun hnil => ?_, h.1, fun c hc => ?_⟩
  · rw [String.toList_eq_nil_iff.1 hnil] at hempty
    exact absurd hempty (by decide)
  · exact Bool.eq_false_iff.2 (List.any_eq_false.1 hplain c hc)

theorem Legible.quote_not_mem {text : String} (h : Legible text) (hquotes : needsQuotes text = true) :
    '"' ∉ text.toList := by
  intro hmem
  rcases Bool.or_eq_true_iff.1 hquotes with hempty | hdelim
  · rw [String.isEmpty_iff.1 hempty] at hmem
    exact absurd hmem (by decide)
  · exact h.2 ⟨hmem, List.any_eq_true.1 hdelim⟩

/-- Whatever a document is laid out as, its texts can be written again. -/
theorem legible_of_layout {cs : List Char} {tokens : List Token} (h : Layout cs tokens) :
    ∀ text, .text text ∈ tokens → Legible text := by
  induction h with
  | done =>
    intro text hmem
    exact absurd hmem (List.not_mem_nil)
  | blank _ _ ih => exact ih
  | mark hc _ ih =>
    intro text hmem
    rcases List.mem_cons.1 hmem with rfl | hmem
    · exact absurd hc (ofMark?_ne_text _ text)
    · exact ih text hmem
  | quoted htext _ ih =>
    intro text hmem
    rcases List.mem_cons.1 hmem with heq | hmem
    · rw [Token.text.inj heq]
      exact legible_of_not_mem (by rwa [String.toList_ofList])
    · exact ih text hmem
  | bare htext _ _ ih =>
    intro text hmem
    rcases List.mem_cons.1 hmem with heq | hmem
    · rw [Token.text.inj heq]
      exact IsBare.legible (by rwa [String.toList_ofList])
    · exact ih text hmem

theorem layout_quoted {text : String} {cs : List Char} {tokens : List Token}
    (h : '"' ∉ text.toList) (rest : Layout cs tokens) :
    Layout ((writeQuoted text).toList ++ cs) (.text text :: tokens) := by
  have hlayout := Layout.quoted h rest
  rw [String.ofList_toList] at hlayout
  simpa [writeQuoted] using hlayout

theorem layout_writeText {text : String} {cs : List Char} {tokens : List Token} (h : Legible text)
    (hcs : AtBoundary cs) (rest : Layout cs tokens) :
    Layout ((writeText text).toList ++ cs) (.text text :: tokens) := by
  unfold writeText
  split
  · rename_i hquotes
    exact layout_quoted (h.quote_not_mem hquotes) rest
  · rename_i hquotes
    have hlayout := Layout.bare (h.isBare (Bool.eq_false_iff.2 hquotes)) hcs rest
    rwa [String.ofList_toList] at hlayout

end DrumMachine.Document
