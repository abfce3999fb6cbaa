import DrumMachine.Files.Path
import DrumMachine.Proofs.Files.Tree
import Mathlib.Data.List.DropRight

/-!
# Paths with another file name

A path is a beginning and parts, and two paths are the same if they have the same beginning and the
same parts that say something. A path whose last name is changed to another keeps its parent
(`parent?_withFileName`) and has that name (`fileName?_withFileName`), as long as the name is one:
with a slash in it, it would be several. A text that is put in front of the extension leaves a name
a name, unless it has a slash (`isFileName_insert`).
-/

namespace DrumMachine.Path

/-! ### Parts -/

theorem parts_append (cs ds : List Char) : parts (cs ++ '/' :: ds) = parts cs ++ parts ds := by
  induction cs with
  | nil => rfl
  | cons c cs ih =>
    rw [List.cons_append, parts, parts, ih]
    split
    · rfl
    · obtain ⟨part, others, hparts⟩ := List.exists_cons_of_ne_nil (parts_ne_nil cs)
      rw [hparts]
      rfl

theorem parts_of_not_mem {cs : List Char} (h : '/' ∉ cs) : parts cs = [cs] := by
  induction cs with
  | nil => rfl
  | cons c cs ih =>
    rw [List.mem_cons, not_or] at h
    rw [parts, if_neg (Ne.symm h.1), ih h.2]

theorem slash_not_mem_of_mem_parts {cs part : List Char} (h : part ∈ parts cs) : '/' ∉ part := by
  induction cs generalizing part with
  | nil =>
    rw [List.mem_singleton.1 h]
    exact List.not_mem_nil
  | cons c cs ih =>
    rw [parts] at h
    split at h
    · rcases List.mem_cons.1 h with rfl | h
      · exact List.not_mem_nil
      · exact ih h
    · rename_i hc
      split at h
      · rename_i hparts
        exact absurd hparts (parts_ne_nil cs)
      · rename_i first others hparts
        rw [hparts] at ih
        rcases List.mem_cons.1 h with rfl | h
        · rw [List.mem_cons, not_or]
          exact ⟨Ne.symm hc, ih List.mem_cons_self⟩
        · exact ih (List.mem_cons_of_mem _ h)

theorem ofParts_cons_cons (part next : List Char) (others : List (List Char)) :
    ofParts (part :: next :: others) = part ++ '/' :: ofParts (next :: others) := rfl

theorem parts_ofParts {segments : List (List Char)} (hne : segments ≠ [])
    (h : ∀ part ∈ segments, '/' ∉ part) : parts (ofParts segments) = segments := by
  induction segments with
  | nil => exact absurd rfl hne
  | cons part others ih =>
    obtain ⟨hpart, hothers⟩ := List.forall_mem_cons.1 h
    cases others with
    | nil => exact parts_of_not_mem hpart
    | cons next others =>
      rw [ofParts_cons_cons, parts_append, parts_of_not_mem hpart,
        ih (List.cons_ne_nil _ _) hothers]
      rfl

theorem ofParts_append {segments others : List (List Char)} (h : segments ≠ [])
    (hothers : others ≠ []) :
    ofParts (segments ++ others) = ofParts segments ++ '/' :: ofParts others := by
  induction segments with
  | nil => exact absurd rfl h
  | cons part segments ih =>
    cases segments with
    | nil =>
      obtain ⟨next, others, rfl⟩ := List.exists_cons_of_ne_nil hothers
      rfl
    | cons next segments =>
      change part ++ '/' :: ofParts (next :: segments ++ others) = _
      rw [ih (List.cons_ne_nil _ _), ofParts_cons_cons, List.append_assoc, List.cons_append]

/-! ### The beginning of a path -/

theorem ofSplit (cs : List Char) : (split cs).1 ++ ofParts (split cs).2 = cs := by
  fun_cases split cs with
  | case1 rest => simp [ofParts_parts]
  | case2 => rfl
  | case3 rest => simp [ofParts_parts]
  | case4 => simp [ofParts_parts]

theorem split_append {cs : List Char} (h : cs ≠ []) (ds : List Char) :
    split (cs ++ '/' :: ds) = ((split cs).1, (split cs).2 ++ parts ds) := by
  fun_cases split cs with
  | case1 rest => rw [List.cons_append, split, parts_append]
  | case2 => rfl
  | case3 rest => rw [List.cons_append, List.cons_append, split, ← List.cons_append, parts_append]
  | case4 cs hroot hdot hhere =>
    obtain ⟨c, rest, rfl⟩ := List.exists_cons_of_ne_nil h
    rw [split, parts_append]
    · rintro _ ⟨⟩
      exact hroot rest rfl
    · intro heq
      exact List.append_ne_nil_of_right_ne_nil _ (List.cons_ne_nil _ _) (List.cons.inj heq).2
    · intro after heq
      obtain ⟨rfl, hrest⟩ := List.cons.inj heq
      cases rest with
      | nil => exact hdot rfl
      | cons next rest =>
        obtain ⟨rfl, -⟩ := List.cons.inj hrest
        exact hhere rest rfl

theorem split_start (cs : List Char) : split (split cs).1 = ((split cs).1, [[]]) := by
  fun_cases split cs <;> rfl

theorem exists_parts_eq (cs : List Char) : ∃ ds, (split cs).2 = parts ds := by
  fun_cases split cs with
  | case1 rest => exact ⟨rest, rfl⟩
  | case2 => exact ⟨[], rfl⟩
  | case3 rest => exact ⟨'/' :: rest, rfl⟩
  | case4 => exact ⟨cs, rfl⟩

theorem slash_not_mem_of_mem_split (cs : List Char) {part : List Char}
    (h : part ∈ (split cs).2) : '/' ∉ part := by
  obtain ⟨ds, hds⟩ := exists_parts_eq cs
  rw [hds] at h
  exact slash_not_mem_of_mem_parts h

/-! ### Names and parents -/

/-- The parts up to the last that says something. -/
def trimmed (segments : List (List Char)) : List (List Char) := segments.rdropWhile isVoid

theorem trimmed_append_of_void {part : List Char} (h : isVoid part = true)
    (segments : List (List Char)) : trimmed (segments ++ [part]) = trimmed segments :=
  List.rdropWhile_concat_pos isVoid segments part h

theorem trimmed_append {part : List Char} (h : isVoid part = false)
    (segments : List (List Char)) : trimmed (segments ++ [part]) = segments ++ [part] :=
  List.rdropWhile_concat_neg isVoid segments part (by rw [h]; decide)

theorem significant_eq (segments : List (List Char)) :
    significant segments = (trimmed segments).reverse := by
  rw [significant, trimmed, List.rdropWhile, List.reverse_reverse]

theorem trimmed_trimmed (segments : List (List Char)) :
    trimmed (trimmed segments) = trimmed segments :=
  List.rdropWhile_idempotent isVoid segments

theorem isVoid_getLast_trimmed {segments : List (List Char)} (h : trimmed segments ≠ []) :
    isVoid ((trimmed segments).getLast h) = false :=
  Bool.eq_false_iff.2 (List.rdropWhile_last_not isVoid segments h)

theorem ofParts_trimmed_eq_nil {segments : List (List Char)} (h : ofParts (trimmed segments) = []) :
    trimmed segments = [] := by
  have htrimmed := trimmed_trimmed segments
  cases hsegments : trimmed segments with
  | nil => rfl
  | cons part others =>
    rw [hsegments] at h htrimmed
    cases others with
    | nil =>
      obtain rfl : part = [] := h
      exact absurd htrimmed (by decide)
    | cons next others =>
      rw [ofParts_cons_cons] at h
      exact absurd h (List.append_ne_nil_of_right_ne_nil _ (List.cons_ne_nil _ _))

/-- The text of a parent is taken apart as the whole path was. -/
theorem split_parent {cs start : List Char} {above rest : List (List Char)}
    (h : split cs = (start, trimmed above ++ rest)) (hrest : rest ≠ []) :
    (split (start ++ ofParts (trimmed above))).1 = start ∧
      trimmed (split (start ++ ofParts (trimmed above))).2 = trimmed above := by
  by_cases hne : trimmed above = []
  · have hstart := split_start cs
    rw [h] at hstart
    rw [hne, ofParts, List.append_nil, hstart]
    exact ⟨rfl, rfl⟩
  · have hparent : start ++ ofParts (trimmed above) ≠ [] := fun heq =>
      hne (ofParts_trimmed_eq_nil (List.append_eq_nil_iff.1 heq).2)
    have hcs : cs = (start ++ ofParts (trimmed above)) ++ '/' :: ofParts rest := by
      rw [← ofSplit cs, h, ofParts_append hne hrest, List.append_assoc]
    have hslash : ∀ part ∈ rest, '/' ∉ part := fun part hpart =>
      slash_not_mem_of_mem_split cs (h ▸ List.mem_append_right _ hpart)
    have hsplit := split_append hparent (ofParts rest)
    rw [← hcs, h, parts_ofParts hrest hslash] at hsplit
    obtain ⟨hstart, habove⟩ := Prod.mk.inj hsplit
    rw [← List.append_cancel_right habove, trimmed_trimmed]
    exact ⟨hstart.symm, rfl⟩

/-- No part of the path is left over behind its last name. -/
def IsTrimmed (path : String) : Prop :=
  path.toList = (split path.toList).1 ++ ofParts (trimmed (split path.toList).2)

theorem exists_of_fileName? {path name : String} (h : fileName? path = some name) :
    ∃ segments, trimmed (split path.toList).2 = segments ++ [name.toList] ∧
      parent? path =
        some (String.ofList ((split path.toList).1 ++ ofParts (trimmed segments))) := by
  rw [fileName?, significant_eq] at h
  rw [parent?]
  dsimp only
  rw [significant_eq]
  cases hparts : (trimmed (split path.toList).2).reverse with
  | nil =>
    rw [hparts] at h
    cases h
  | cons part above =>
    rw [hparts] at h
    simp only at h
    split at h
    · cases h
    · obtain rfl := Option.some.inj h
      refine ⟨above.reverse, ?_, ?_⟩
      · rw [String.toList_ofList, ← List.reverse_cons, ← hparts, List.reverse_reverse]
      · rw [trimmed, List.rdropWhile, List.reverse_reverse]

theorem exists_parent?_trimmed {path name : String} (h : fileName? path = some name) :
    ∃ parent, parent? path = some parent ∧ IsTrimmed parent := by
  obtain ⟨segments, hsegments, hparent⟩ := exists_of_fileName? h
  obtain ⟨rest, hrest⟩ : trimmed segments <+: segments := List.rdropWhile_prefix isVoid segments
  obtain ⟨after, hafter⟩ : trimmed (split path.toList).2 <+: (split path.toList).2 :=
    List.rdropWhile_prefix isVoid _
  have hsplit : split path.toList =
      ((split path.toList).1, trimmed segments ++ (rest ++ [name.toList] ++ after)) := by
    rw [← List.append_assoc, ← List.append_assoc, hrest, ← hsegments, hafter]
  obtain ⟨hstart, habove⟩ := split_parent hsplit (by simp)
  refine ⟨_, hparent, ?_⟩
  rw [IsTrimmed, String.toList_ofList, hstart, habove]

/-- The name stands for an entry of a directory. -/
structure IsFileName (name : String) : Prop where
  slash_not_mem : '/' ∉ name.toList
  isVoid_eq : isVoid name.toList = false
  ne_up : name ≠ ".."

variable {name : String}

theorem split_of_not_mem {cs : List Char} (hslash : '/' ∉ cs) (hvoid : isVoid cs = false) :
    split cs = ([], [cs]) := by
  fun_cases split cs with
  | case1 rest => exact absurd List.mem_cons_self hslash
  | case2 => exact absurd hvoid (by decide)
  | case3 rest => exact absurd (List.mem_cons_of_mem _ List.mem_cons_self) hslash
  | case4 => rw [parts_of_not_mem hslash]

theorem isAbsolute_of_not_mem (h : '/' ∉ name.toList) : isAbsolute name = false := by
  rw [isAbsolute, beq_eq_false_iff_ne]
  exact fun hhead => h (List.mem_of_head? hhead)

/-- A name below a path comes behind all that the path says. -/
theorem split_join (h : IsFileName name) (path : String) :
    ∃ segments, split (join path name).toList =
        ((split path.toList).1, segments ++ [name.toList]) ∧
      trimmed segments = trimmed (split path.toList).2 := by
  have hparts := parts_of_not_mem h.slash_not_mem
  rw [join, isAbsolute_of_not_mem h.slash_not_mem, if_neg Bool.false_ne_true]
  by_cases hpath : path = ""
  · subst hpath
    refine ⟨[], ?_, rfl⟩
    exact split_of_not_mem h.slash_not_mem h.isVoid_eq
  · have hcs : path.toList ≠ [] := fun heq => hpath (String.toList_eq_nil_iff.1 heq)
    by_cases hopen : path.toList.getLast? = some '/'
    · obtain ⟨before, hbefore⟩ := List.getLast?_eq_some_iff.1 hopen
      rw [if_pos (by simp [hopen]), String.toList_append, hbefore, List.append_assoc,
        List.singleton_append]
      by_cases hroot : before = []
      · subst hroot
        exact ⟨[], by rw [List.nil_append, split, hparts]; rfl, rfl⟩
      · refine ⟨(split before).2, ?_, ?_⟩
        · rw [split_append hroot, split_append hroot, hparts]
        · rw [split_append hroot]
          exact (trimmed_append_of_void rfl _).symm
    · refine ⟨(split path.toList).2, ?_, rfl⟩
      rw [if_neg (by simp [hpath, hopen]), String.toList_append, String.toList_append,
        List.append_assoc]
      change split (path.toList ++ '/' :: name.toList) = _
      rw [split_append hcs, hparts]

theorem fileName?_join (h : IsFileName name) (path : String) :
    fileName? (join path name) = some name := by
  obtain ⟨segments, hsplit, -⟩ := split_join h path
  have hup : name.toList ≠ ['.', '.'] := fun heq =>
    h.ne_up (String.toList_inj.1 heq)
  rw [fileName?, hsplit, significant_eq, trimmed_append h.isVoid_eq, List.reverse_append]
  change (if name.toList = ['.', '.'] then none else some (String.ofList name.toList)) = _
  rw [if_neg hup, String.ofList_toList]

theorem parent?_join (h : IsFileName name) {path : String} (hpath : IsTrimmed path) :
    parent? (join path name) = some path := by
  obtain ⟨segments, hsplit, htrimmed⟩ := split_join h path
  rw [parent?, hsplit]
  dsimp only
  rw [significant_eq, trimmed_append h.isVoid_eq, List.reverse_append]
  change some (String.ofList ((split path.toList).1 ++ ofParts (trimmed segments))) = _
  rw [htrimmed, ← hpath, String.ofList_toList]

theorem withFileName_eq {path old : String} (h : fileName? path = some old) (name : String) :
    withFileName path name = join ((parent? path).getD path) name := by
  rw [withFileName, h]

theorem fileName?_withFileName (h : IsFileName name) (path : String) :
    fileName? (withFileName path name) = some name := by
  unfold withFileName
  split
  · exact fileName?_join h _
  · exact fileName?_join h _

theorem parent?_withFileName {path old : String} (hpath : fileName? path = some old)
    (h : IsFileName name) : parent? (withFileName path name) = parent? path := by
  obtain ⟨parent, hparent, htrimmed⟩ := exists_parent?_trimmed hpath
  rw [withFileName_eq hpath, hparent]
  exact parent?_join h htrimmed

theorem directory_eq {path parent : String} (h : parent? path = some parent) :
    directory path = if parent = "" then "." else parent := by
  rw [directory, h]
  by_cases hparent : parent = ""
  · subst hparent
    rfl
  · rw [if_neg hparent]
    split
    · rename_i heq
      cases heq
    · rename_i heq
      exact absurd (Option.some.inj heq) hparent
    · rename_i heq
      exact (Option.some.inj heq).symm

/-! ### Paths that are the same -/

/-- The beginning of a path and the parts that say something. -/
def components (path : String) : List Char × List (List Char) :=
  ((split path.toList).1, (split path.toList).2.filter fun part => !isVoid part)

/-- The paths say the same. -/
def Same (path other : String) : Prop := components path = components other

instance (path other : String) : Decidable (Same path other) := inferInstanceAs (Decidable (_ = _))

theorem head?_significant (segments : List (List Char)) :
    (significant segments).head? = (segments.filter fun part => !isVoid part).getLast? := by
  rw [significant, List.getLast?_eq_head?_reverse, ← List.filter_reverse, List.head?_filter,
    List.find?_eq_head?_dropWhile_not]
  simp only [Bool.not_not]

theorem fileName?_eq_head? (path : String) :
    fileName? path = (significant (split path.toList).2).head?.bind fun part =>
      if part = ['.', '.'] then none else some (String.ofList part) := by
  rw [fileName?]
  cases significant (split path.toList).2 <;> rfl

theorem Same.fileName?_eq {path other : String} (h : Same path other) :
    fileName? path = fileName? other := by
  have hlast : (significant (split path.toList).2).head? =
      (significant (split other.toList).2).head? := by
    rw [head?_significant, head?_significant]
    exact congrArg (·.2.getLast?) h
  rw [fileName?_eq_head?, fileName?_eq_head?, hlast]

theorem slash_not_mem_of_fileName? {path : String} (h : fileName? path = some name) :
    '/' ∉ name.toList := by
  obtain ⟨segments, hsegments, -⟩ := exists_of_fileName? h
  have hmem : name.toList ∈ (split path.toList).2 :=
    (List.rdropWhile_prefix isVoid _).subset (hsegments ▸ by simp : name.toList ∈ trimmed _)
  exact slash_not_mem_of_mem_split _ hmem

theorem isFileName_of_fileName? {path : String} (h : fileName? path = some name) :
    IsFileName name := by
  refine ⟨slash_not_mem_of_fileName? h, ?_, ?_⟩
  · obtain ⟨segments, hsegments, -⟩ := exists_of_fileName? h
    have hne : trimmed (split path.toList).2 ≠ [] := by
      rw [hsegments]
      exact List.append_ne_nil_of_right_ne_nil _ (List.cons_ne_nil _ _)
    simpa only [hsegments, List.getLast_append_singleton] using isVoid_getLast_trimmed hne
  · rintro rfl
    rw [fileName?] at h
    split at h
    · split at h
      · cases h
      · rename_i part _ _ hup
        have hpart : String.ofList part = ".." := Option.some.inj h
        refine hup ?_
        rw [← String.toList_ofList (l := part), hpart]
        rfl
    · cases h

/-! ### Stems and extensions -/

/-- The dot and the extension. -/
def ending : Option (List Char) → List Char
  | none => []
  | some extension => '.' :: extension

/-- The name in two: the last dot that is not in front begins its ending. -/
structure IsCut (name stem ending : List Char) : Prop where
  append_eq : stem ++ ending = name
  stem_ne_nil : stem ≠ []
  ending_eq : (ending = [] ∧ '.' ∉ name.tail) ∨
    ∃ extension, ending = '.' :: extension ∧ '.' ∉ extension

theorem isCut_cutExtension {cs : List Char} (h : cs ≠ []) :
    IsCut cs (cutExtension cs).1 (ending (cutExtension cs).2) := by
  have hafter : '.' ∉ (cs.reverse.takeWhile (· ≠ '.')).reverse := by
    rw [List.mem_reverse]
    intro hmem
    exact absurd (List.mem_takeWhile_imp hmem) (by decide)
  have hcut := List.takeWhile_append_dropWhile (p := (· ≠ '.')) (l := cs.reverse)
  rw [cutExtension]
  split
  · rename_i c before hdrop
    have hc := List.head?_dropWhile_not (· ≠ '.') cs.reverse
    rw [hdrop] at hc
    obtain rfl : c = '.' := by simpa using hc
    have hcs : before.reverse ++ '.' :: (cs.reverse.takeWhile (· ≠ '.')).reverse = cs := by
      rw [hdrop] at hcut
      have hreverse := congrArg List.reverse hcut
      rwa [List.reverse_append, List.reverse_cons, List.append_assoc, List.singleton_append,
        List.reverse_reverse] at hreverse
    by_cases hbefore : before = []
    · subst hbefore
      refine ⟨List.append_nil _, h, .inl ⟨rfl, ?_⟩⟩
      rw [← hcs]
      exact hafter
    · rw [if_neg (by simpa using hbefore)]
      exact ⟨hcs, by simpa using hbefore, .inr ⟨_, rfl, hafter⟩⟩
  · rename_i hdrop
    rw [hdrop, List.append_nil] at hcut
    refine ⟨List.append_nil _, h, .inl ⟨rfl, fun hmem => hafter ?_⟩⟩
    rw [hcut, List.reverse_reverse]
    exact List.mem_of_mem_tail hmem

variable {stem ending track : List Char}

theorem isFileName_insert (h : IsFileName name) (hcut : IsCut name.toList stem ending)
    (htrack : '/' ∉ track) : IsFileName (String.ofList (stem ++ track ++ ending)) := by
  have hslash := h.slash_not_mem
  rw [← hcut.append_eq, List.mem_append, not_or] at hslash
  -- A name is no shorter with a text in it, so if that is a dot or two the name was as well.
  have hdots : ∀ count, count ≤ 2 → stem ++ track ++ ending ≠ List.replicate count '.' := by
    intro count hcount heq
    obtain ⟨hlength, hall⟩ := List.eq_replicate_iff.1 heq
    have hname : name.toList = List.replicate name.toList.length '.' := by
      refine List.eq_replicate_iff.2 ⟨rfl, fun c hc => hall c ?_⟩
      rw [← hcut.append_eq, List.mem_append] at hc
      simp only [List.mem_append]
      exact hc.elim (fun hc => .inl (.inl hc)) .inr
    have hpos := List.length_pos_iff.2 hcut.stem_ne_nil
    have hsum := congrArg List.length hcut.append_eq
    rw [List.length_append] at hlength hsum
    rw [List.length_append] at hlength
    obtain hone | htwo : name.toList.length = 1 ∨ name.toList.length = 2 := by omega
    · rw [hone] at hname
      exact absurd (hname ▸ h.isVoid_eq) (by decide)
    · rw [htwo] at hname
      exact h.ne_up (String.toList_inj.1 hname)
  refine ⟨?_, ?_, ?_⟩
  · rw [String.toList_ofList, List.mem_append, List.mem_append, not_or, not_or]
    exact ⟨⟨hslash.1, htrack⟩, hslash.2⟩
  · rw [String.toList_ofList, isVoid, Bool.or_eq_false_iff, beq_eq_false_iff_ne,
      beq_eq_false_iff_ne]
    exact ⟨fun hnil => hcut.stem_ne_nil (List.append_eq_nil_iff.1
      (List.append_eq_nil_iff.1 hnil).1).1, hdots 1 (by decide)⟩
  · intro heq
    exact hdots 2 (by decide) (String.ofList_injective heq)

theorem insert_injective {track other : List Char}
    (h : stem ++ track ++ ending = stem ++ other ++ ending) : track = other :=
  List.append_cancel_left (List.append_cancel_right h)

end DrumMachine.Path
