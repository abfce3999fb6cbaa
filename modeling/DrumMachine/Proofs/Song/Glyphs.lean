import DrumMachine.Proofs.Song.Valid

/-!
# Grids and the texts that write them

A text writes a grid if it is made of glyphs and fillers, and the first character that is neither is
what is wrong with it otherwise. Texts are read piece by piece (`read_append`), fillers may stand
anywhere (`read_of_spaced`), and the beats keep all of a text but its fillers and which of two glyphs
was written for a beat (`toList_write_of_read`).
-/

namespace DrumMachine.Grid

/-- The characters that write beats. -/
def glyphs : List Char := ['.', '-', '/', '!', ':', '_']

/-- The characters that may stand between glyphs. -/
def fillers : List Char := [' ', '\t', '\r', '\n']

/-- The glyph that is written for the beat that a glyph is read as. -/
def plain : Char → Char
  | '/' => '-'
  | '_' => ':'
  | c => c

/-- The text is made of the characters by putting fillers anywhere between them. -/
inductive Spaced : (cs text : List Char) → Prop where
  | done : Spaced [] []
  | filler {c : Char} {cs text : List Char} (hc : c ∈ fillers) (rest : Spaced cs text) :
      Spaced cs (c :: text)
  | keep (c : Char) {cs text : List Char} (rest : Spaced cs text) : Spaced (c :: cs) (c :: text)

/-! ### Characters -/

theorem mem_fillers_iff {c : Char} : c ∈ fillers ↔ isFiller c = true := by
  simp [fillers, isFiller, or_assoc]

theorem mem_glyphs_iff {c : Char} : c ∈ glyphs ↔ (Beat.ofGlyph? c).isSome = true := by
  constructor
  · intro h
    simp only [glyphs, List.mem_cons, List.not_mem_nil, or_false] at h
    rcases h with rfl | rfl | rfl | rfl | rfl | rfl
    all_goals decide
  · refine fun h => Decidable.byContradiction fun hc => ?_
    simp only [glyphs, List.mem_cons, List.not_mem_nil, or_false, not_or] at hc
    simp [Beat.ofGlyph?, hc] at h

theorem glyph_eq_plain {c : Char} {beat : Beat} (h : Beat.ofGlyph? c = some beat) :
    beat.glyph = plain c := by
  have hc : c ∈ glyphs := mem_glyphs_iff.2 (Option.isSome_of_eq_some h)
  simp only [glyphs, List.mem_cons, List.not_mem_nil, or_false] at hc
  rcases hc with rfl | rfl | rfl | rfl | rfl | rfl
  all_goals
    obtain rfl := Option.some.inj h
    rfl

/-! ### Reading -/

theorem read_eq_ok_iff {text : String} {beats : List Beat} :
    read text = .ok beats ↔
      (∀ c ∈ text.toList, c ∈ fillers ∨ c ∈ glyphs) ∧
        beats = text.toList.filterMap Beat.ofGlyph? := by
  rw [read, readFrom_eq_ok_iff]
  simp only [mem_fillers_iff, mem_glyphs_iff]
  rfl

theorem readFrom_eq_error_iff {cs : List Char} {done : List Beat} {c : Char} :
    readFrom done cs = .error c ↔ cs.find? (fun c => c ∉ fillers ∧ c ∉ glyphs) = some c := by
  induction cs generalizing done with
  | nil => simp [readFrom]
  | cons d cs ih =>
    rw [readFrom, List.find?_cons]
    by_cases hfiller : d ∈ fillers
    · rw [if_pos (mem_fillers_iff.1 hfiller), decide_eq_false fun hstray => hstray.1 hfiller]
      exact ih
    · rw [if_neg (mt mem_fillers_iff.2 hfiller)]
      cases hglyph : Beat.ofGlyph? d with
      | some beat =>
        have hmem : d ∈ glyphs := mem_glyphs_iff.2 (Option.isSome_of_eq_some hglyph)
        rw [decide_eq_false fun hstray => hstray.2 hmem]
        exact ih
      | none =>
        have hstray : d ∉ glyphs := by
          rw [mem_glyphs_iff, hglyph]
          exact Bool.false_ne_true
        rw [decide_eq_true ⟨hfiller, hstray⟩, Except.error.injEq, Option.some.injEq]

theorem read_eq_error_iff {text : String} {c : Char} :
    read text = .error c ↔ ∃ front back, text.toList = front ++ c :: back ∧
      (c ∉ fillers ∧ c ∉ glyphs) ∧ ∀ d ∈ front, d ∈ fillers ∨ d ∈ glyphs := by
  rw [read, readFrom_eq_error_iff, List.find?_eq_some_iff_append]
  constructor
  · rintro ⟨hstray, front, back, htext, hfront⟩
    refine ⟨front, back, htext, of_decide_eq_true hstray, ?_⟩
    intro d hd
    simpa [Decidable.or_iff_not_imp_left] using hfront d hd
  · rintro ⟨front, back, htext, hstray, hfront⟩
    refine ⟨decide_eq_true hstray, front, back, htext, ?_⟩
    intro d hd
    simpa [Decidable.or_iff_not_imp_left] using hfront d hd

/-- Beats read before are put in front. -/
theorem readFrom_eq_map (done : List Beat) (cs : List Char) :
    readFrom done cs = (readFrom [] cs).map (done.reverse ++ ·) := by
  induction cs generalizing done with
  | nil => exact congrArg Except.ok (List.append_nil _).symm
  | cons c cs ih =>
    rw [readFrom, readFrom]
    split
    · exact ih done
    · cases Beat.ofGlyph? c with
      | none => rfl
      | some beat =>
        simp only
        rw [ih (beat :: done), ih [beat]]
        cases readFrom [] cs with
        | error stray => rfl
        | ok beats => simp [Except.map]

theorem readFrom_append (done : List Beat) (front back : List Char) :
    readFrom done (front ++ back) =
      (readFrom done front).bind fun beats => readFrom beats.reverse back := by
  induction front generalizing done with
  | nil =>
    change readFrom done back = readFrom done.reverse.reverse back
    rw [List.reverse_reverse]
  | cons c front ih =>
    rw [List.cons_append, readFrom, readFrom]
    split
    · exact ih done
    · cases Beat.ofGlyph? c with
      | none => rfl
      | some beat => exact ih (beat :: done)

theorem read_append (first second : String) :
    read (first ++ second) = (do
      let beats ← read first
      let more ← read second
      return beats ++ more) := by
  rw [read, String.toList_append, readFrom_append, read, read]
  cases readFrom [] first.toList with
  | error c => rfl
  | ok beats =>
    change readFrom beats.reverse second.toList = _
    rw [readFrom_eq_map, List.reverse_reverse]
    rfl

/-! ### Writing -/

theorem toList_write (beats : List Beat) : (write beats).toList = beats.map Beat.glyph := by
  rw [write, String.toList_ofList]

theorem read_write (beats : List Beat) : read (write beats) = .ok beats := by
  have hglyphs : (beats.map Beat.glyph).filterMap Beat.ofGlyph? = beats := by
    rw [List.filterMap_map, funext (f := Beat.ofGlyph? ∘ Beat.glyph) Beat.ofGlyph?_glyph]
    exact List.filterMap_some
  rw [read, toList_write]
  refine readFrom_eq_ok_iff.2 ⟨fun c hc => ?_, hglyphs.symm⟩
  obtain ⟨beat, -, rfl⟩ := List.mem_map.1 hc
  rw [Beat.ofGlyph?_glyph]
  exact .inr rfl

theorem Spaced.mem {cs text : List Char} (h : Spaced cs text) {c : Char} (hc : c ∈ text) :
    c ∈ fillers ∨ c ∈ cs := by
  induction h with
  | done => exact .inr hc
  | filler hfiller rest ih =>
    rcases List.mem_cons.1 hc with rfl | hc
    · exact .inl hfiller
    · exact ih hc
  | keep d rest ih =>
    rcases List.mem_cons.1 hc with rfl | hc
    · exact .inr (List.mem_cons_self ..)
    · exact (ih hc).imp_right (List.mem_cons_of_mem d)

theorem Spaced.filterMap_eq {cs text : List Char} (h : Spaced cs text) :
    text.filterMap Beat.ofGlyph? = cs.filterMap Beat.ofGlyph? := by
  induction h with
  | done => rfl
  | filler hfiller rest ih =>
    rw [List.filterMap_cons_none (Beat.ofGlyph?_of_isFiller (mem_fillers_iff.1 hfiller)), ih]
  | keep c rest ih => rw [List.filterMap_cons, List.filterMap_cons, ih]

theorem read_of_spaced {beats : List Beat} {text : String}
    (h : Spaced (write beats).toList text.toList) : read text = .ok beats := by
  obtain ⟨hmem, hbeats⟩ := read_eq_ok_iff.1 (read_write beats)
  refine read_eq_ok_iff.2 ⟨?_, ?_⟩
  · intro c hc
    rcases h.mem hc with hfiller | hc
    · exact .inl hfiller
    · exact hmem c hc
  · rw [h.filterMap_eq]
    exact hbeats

theorem map_glyph_filterMap {cs : List Char} (h : ∀ c ∈ cs, c ∈ fillers ∨ c ∈ glyphs) :
    (cs.filterMap Beat.ofGlyph?).map Beat.glyph = (cs.filter (· ∉ fillers)).map plain := by
  induction cs with
  | nil => rfl
  | cons c cs ih =>
    obtain ⟨hc, hcs⟩ := List.forall_mem_cons.1 h
    by_cases hfiller : c ∈ fillers
    · rw [List.filterMap_cons_none (Beat.ofGlyph?_of_isFiller (mem_fillers_iff.1 hfiller)),
        List.filter_cons, if_neg (by simpa using hfiller), ih hcs]
    · obtain ⟨beat, hbeat⟩ :=
        Option.isSome_iff_exists.1 (mem_glyphs_iff.1 (hc.resolve_left hfiller))
      rw [List.filterMap_cons_some hbeat, List.filter_cons, if_pos (decide_eq_true hfiller),
        List.map_cons, List.map_cons, glyph_eq_plain hbeat, ih hcs]

theorem toList_write_of_read {text : String} {beats : List Beat} (h : read text = .ok beats) :
    (write beats).toList = (text.toList.filter (· ∉ fillers)).map plain := by
  obtain ⟨hmem, rfl⟩ := read_eq_ok_iff.1 h
  rw [toList_write, map_glyph_filterMap hmem]

/-- A text of glyphs and fillers is read as beats, and any other one fails with the first character
that is neither. The beats of two texts in a row are those of one and then the other, beats are read
back from what writes them with fillers put in anywhere, and beats that were read are written as the
text was, without its fillers and in the glyphs that are used for writing. -/
theorem read_write_faithful :
    (∀ text, (∃ beats, read text = .ok beats) ↔
      ∀ c ∈ text.toList, c ∈ fillers ∨ c ∈ glyphs) ∧
    (∀ text c, read text = .error c ↔ ∃ front back, text.toList = front ++ c :: back ∧
      (c ∉ fillers ∧ c ∉ glyphs) ∧ ∀ d ∈ front, d ∈ fillers ∨ d ∈ glyphs) ∧
    (∀ first second, read (first ++ second) = (do
      let beats ← read first
      let more ← read second
      return beats ++ more)) ∧
    (∀ beats text, Spaced (write beats).toList text.toList → read text = .ok beats) ∧
    ∀ text beats, read text = .ok beats →
      (write beats).toList = (text.toList.filter (· ∉ fillers)).map plain := by
  refine ⟨?_, fun _ _ => read_eq_error_iff, read_append, fun _ _ => read_of_spaced,
    fun _ _ => toList_write_of_read⟩
  intro text
  constructor
  · rintro ⟨beats, h⟩
    exact (read_eq_ok_iff.1 h).1
  · intro h
    exact ⟨_, read_eq_ok_iff.2 ⟨h, rfl⟩⟩

theorem read_write_faithful_spaced :
    let beats : List Beat := [.full, .half, .stop]
    Spaced (write beats).toList "\t! -\n:".toList ∧ read "\t! -\n:" = .ok beats ∧
      read "\t! /\n_" = .ok beats ∧
      (write beats).toList = ("\t! /\n_".toList.filter (· ∉ fillers)).map plain := by
  have hspaced : Spaced (write [.full, .half, .stop]).toList "\t! -\n:".toList :=
    .filler (by decide) (.keep _ (.filler (by decide) (.keep _ (.filler (by decide)
      (.keep _ .done)))))
  have hread : read "\t! /\n_" = .ok [.full, .half, .stop] := by rfl
  exact ⟨hspaced, read_write_faithful.2.2.2.1 _ _ hspaced, hread,
    read_write_faithful.2.2.2.2 _ _ hread⟩

end DrumMachine.Grid
