import DrumMachine.Document.Reader
import DrumMachine.Proofs.Document.Layout
import Mathlib.Data.List.Chain

/-!
# Documents as they are printed

A `Page` prints tokens one after the other: blanks, then a spelling of the token, and blanks again
at the end. How many blanks there are, and whether a text stands in quotes that need not, makes no
difference to the tokens that are read back (`tokenize_printed`), and each of them is found on the
line where its spelling begins (`tokenize_lines`). A document that is no page is one with a last
quote that opens a text and is never closed.
-/

namespace DrumMachine.Document

/-- The characters spell the token: a mark is one character, a text stands bare or in quotes. -/
inductive Spells : List Char → Token → Prop where
  | mark {c : Char} {token : Token} (h : Token.ofMark? c = some token) : Spells [c] token
  | bare {text : List Char} (h : IsBare text) : Spells text (.text (String.ofList text))
  | quoted {text : List Char} (h : '"' ∉ text) :
      Spells ('"' :: (text ++ ['"'])) (.text (String.ofList text))

/-- A token as it is printed, with the blanks in front of it. -/
structure Piece where
  blanks : List Char
  spelling : List Char
  token : Token
  isBlank : ∀ c ∈ blanks, Text.isBlank c = true
  spells : Spells spelling token

namespace Piece

def chars (piece : Piece) : List Char := piece.blanks ++ piece.spelling

/-- No text directly follows a bare one. -/
def Parted (piece next : Piece) : Prop :=
  IsBare piece.spelling → (∃ text, next.token = .text text) → next.blanks ≠ []

/-- The characters of pieces in a row. -/
def run (pieces : List Piece) : List Char := pieces.flatMap chars

theorem run_cons (piece : Piece) (pieces : List Piece) :
    run (piece :: pieces) = piece.chars ++ run pieces := rfl

end Piece

structure Page where
  pieces : List Piece
  tail : List Char
  parted : pieces.IsChain Piece.Parted
  isBlank : ∀ c ∈ tail, Text.isBlank c = true

namespace Page

def chars (page : Page) : List Char := Piece.run page.pieces ++ page.tail

def source (page : Page) : String := String.ofList page.chars

def tokens (page : Page) : List Token := page.pieces.map Piece.token

/-- The page breaks off in a bare text. -/
def EndsBare (page : Page) : Prop :=
  page.tail = [] ∧ ∃ piece, page.pieces.getLast? = some piece ∧ IsBare piece.spelling

/-- The number of characters before the spelling of the token with this number. -/
def start (page : Page) (index : Nat) : Nat :=
  (Piece.run (page.pieces.take index)).length +
    (page.pieces[index]?.elim 0 fun piece => piece.blanks.length)

end Page

/-- The line of the character with this number: one more than there are line ends before it. -/
def lineAt (source : String) (index : Nat) : Nat := 1 + (source.toList.take index).count '\n'

namespace Page

/-- The tokens of a page, each with the line of the first character of its spelling. -/
def located (page : Page) : List Located :=
  page.pieces.mapIdx fun index piece => ⟨piece.token, lineAt page.source (page.start index)⟩

end Page

/-! ### Line ends in spellings -/

theorem newline_not_mem_of_plain {text : List Char} (h : ∀ c ∈ text, isDelimiter c = false) :
    '\n' ∉ text := by
  intro hmem
  exact absurd (h _ hmem) (by decide)

theorem isDelimiter_of_isBlank {c : Char} (h : Text.isBlank c = true) : isDelimiter c = true := by
  rw [isDelimiter, h, Bool.true_or]

theorem isDelimiter_of_ofMark? {c : Char} {token : Token} (h : Token.ofMark? c = some token) :
    isDelimiter c = true := by
  rw [isDelimiter, h, Option.isSome_some, Bool.or_true]

/-! ### Bare texts end where they have to -/

/-- Every bare text among the pieces ends where it could not go on. -/
def Parts : List Piece → List Char → Prop
  | [], _ => True
  | piece :: pieces, cs =>
    (IsBare piece.spelling → AtBoundary (Piece.run pieces ++ cs)) ∧ Parts pieces cs

theorem atBoundary_append {blanks : List Char} (h : ∀ c ∈ blanks, Text.isBlank c = true)
    (hne : blanks ≠ []) (cs : List Char) : AtBoundary (blanks ++ cs) := by
  obtain ⟨c, blanks, rfl⟩ := List.exists_cons_of_ne_nil hne
  exact isDelimiter_of_isBlank (h c (List.mem_cons_self ..))

/-- A piece begins with a delimiter, unless it is a text without blanks in front of it. -/
theorem Piece.atBoundary_iff (piece : Piece) (cs : List Char) :
    AtBoundary (piece.chars ++ cs) ↔ ((∃ text, piece.token = .text text) → piece.blanks ≠ []) := by
  obtain ⟨blanks, spelling, token, hblank, hspells⟩ := piece
  cases blanks with
  | cons c blanks =>
    have hc := hblank c (List.mem_cons_self ..)
    exact iff_of_true (isDelimiter_of_isBlank hc) fun _ => List.cons_ne_nil c blanks
  | nil =>
    rw [chars, List.nil_append]
    cases hspells with
    | mark h =>
      refine iff_of_true (isDelimiter_of_ofMark? h) ?_
      rintro ⟨text, rfl⟩
      exact absurd h (ofMark?_ne_text _ text)
    | bare h =>
      obtain ⟨c, text, rfl⟩ := List.exists_cons_of_ne_nil h.ne_nil
      refine iff_of_false ?_ fun hparted => hparted ⟨_, rfl⟩ rfl
      intro hdelim
      have hplain := h.plain c (List.mem_cons_self ..)
      rw [show isDelimiter c = true from hdelim] at hplain
      exact absurd hplain (by decide)
    | quoted h =>
      refine iff_of_false ?_ fun hparted => hparted ⟨_, rfl⟩ rfl
      intro hdelim
      exact absurd (show isDelimiter '"' = true from hdelim) (by decide)

theorem parts_iff (pieces : List Piece) (cs : List Char) :
    Parts pieces cs ↔ pieces.IsChain Piece.Parted ∧
      ∀ piece, pieces.getLast? = some piece → IsBare piece.spelling → AtBoundary cs := by
  induction pieces with
  | nil => simp [Parts]
  | cons piece pieces ih =>
    rw [Parts, ih, List.isChain_cons]
    cases pieces with
    | nil => simp [Piece.run]
    | cons next pieces =>
      rw [Piece.run_cons, List.append_assoc, Piece.atBoundary_iff]
      simp [Piece.Parted, and_assoc]

/-! ### Scanning pieces -/

namespace Scanner

variable {done : List Located} {line : Nat} {cs : List Char}

theorem scan_blanks {blanks : List Char} (h : ∀ c ∈ blanks, Text.isBlank c = true) :
    scan ⟨done, line, .between⟩ (blanks ++ cs) =
      scan ⟨done, line + blanks.count '\n', .between⟩ cs := by
  induction blanks generalizing line with
  | nil => rfl
  | cons c blanks ih =>
    have ⟨hc, hblanks⟩ := List.forall_mem_cons.1 h
    rw [List.cons_append, scan_cons, feed]
    simp only
    rw [start_of_isBlank _ hc, ih hblanks, Nat.add_assoc, ← List.count_append]
    rfl

theorem scan_bare {text : List Char} (h : IsBare text) (hcs : AtBoundary cs) :
    scan ⟨done, line, .between⟩ (text ++ cs) =
      scan ⟨⟨.text (String.ofList text), line⟩ :: done, line, .between⟩ cs := by
  obtain ⟨c, text, rfl⟩ := List.exists_cons_of_ne_nil h.ne_nil
  have hc : c ≠ '"' := fun heq => h.head_ne (by rw [heq]; rfl)
  have ⟨hplain, htext⟩ := List.forall_mem_cons.1 h.plain
  rw [List.cons_append, scan_cons, feed, start_of_plain _ hplain hc, scan_bare_append htext,
    scan_bare_of_atBoundary hcs, String.singleton_eq_ofList, ← String.ofList_append,
    List.singleton_append]

theorem scan_spelling {spelling : List Char} {token : Token} (h : Spells spelling token)
    (hcs : IsBare spelling → AtBoundary cs) :
    scan ⟨done, line, .between⟩ (spelling ++ cs) =
      scan ⟨⟨token, line⟩ :: done, line + spelling.count '\n', .between⟩ cs := by
  cases h with
  | @mark c token h =>
    have hc : '\n' ∉ [c] := by
      rw [List.mem_singleton]
      rintro rfl
      exact absurd (isBlank_of_ofMark? h) (by decide)
    rw [List.singleton_append, scan_cons, feed, start_of_ofMark? _ h, emit, List.count_eq_zero.2 hc]
    rfl
  | bare h =>
    rw [scan_bare h (hcs h), List.count_eq_zero.2 (newline_not_mem_of_plain h.plain)]
    rfl
  | @quoted text h =>
    have hcount : ('"' :: (text ++ ['"'])).count '\n' = text.count '\n' := by
      simp [List.count_append]
    rw [List.cons_append, List.append_assoc, List.singleton_append, scan_cons, feed, start_quote,
      scan_quoted_append h, String.empty_append, hcount]

/-- The tokens of pieces that begin on `line`. -/
def locate (line : Nat) : List Piece → List Located
  | [] => []
  | piece :: pieces =>
    ⟨piece.token, line + piece.blanks.count '\n'⟩ ::
      locate (line + piece.chars.count '\n') pieces

theorem scan_run {pieces : List Piece} (h : Parts pieces cs) :
    scan ⟨done, line, .between⟩ (Piece.run pieces ++ cs) =
      scan ⟨(locate line pieces).reverse ++ done, line + (Piece.run pieces).count '\n', .between⟩
        cs := by
  induction pieces generalizing done line with
  | nil => rfl
  | cons piece pieces ih =>
    have ⟨hpiece, hpieces⟩ := h
    rw [Piece.run_cons, Piece.chars, List.append_assoc, List.append_assoc,
      scan_blanks piece.isBlank, scan_spelling piece.spells hpiece, ih hpieces, locate,
      List.reverse_cons, List.append_assoc, Piece.chars]
    simp only [List.count_append, Nat.add_assoc, List.singleton_append]

theorem scan_unclosed {text : List Char} (h : '"' ∉ text) {content : String} {start : Nat} :
    scan ⟨done, line, .quoted content start⟩ text = .error start := by
  induction text generalizing content line with
  | nil => rfl
  | cons c text ih =>
    have hc : c ≠ '"' := fun heq => h (heq ▸ List.mem_cons_self ..)
    rw [scan_cons, feed]
    simp only
    rw [if_neg hc]
    exact ih fun hmem => h (List.mem_cons_of_mem _ hmem)

end Scanner

/-! ### Where the tokens of a page begin -/

theorem Scanner.getElem?_locate (before : List Char) (pieces : List Piece) (index : Nat) :
    (locate (1 + before.count '\n') pieces)[index]? =
      pieces[index]?.map fun piece =>
        ⟨piece.token,
          1 + (before ++ (Piece.run (pieces.take index) ++ piece.blanks)).count '\n'⟩ := by
  induction pieces generalizing before index with
  | nil => rfl
  | cons piece pieces ih =>
    cases index with
    | zero =>
      rw [locate, Nat.add_assoc, ← List.count_append]
      rfl
    | succ index =>
      rw [locate, List.getElem?_cons_succ, List.getElem?_cons_succ, Nat.add_assoc,
        ← List.count_append, ih, List.take_succ_cons, Piece.run_cons]
      simp only [List.append_assoc]

namespace Page

variable {page : Page}

theorem chars_eq {index : Nat} {piece : Piece} (h : page.pieces[index]? = some piece) :
    ∃ after, page.chars =
      Piece.run (page.pieces.take index) ++ piece.blanks ++ (piece.spelling ++ after) := by
  obtain ⟨hindex, rfl⟩ := List.getElem?_eq_some_iff.1 h
  refine ⟨Piece.run (page.pieces.drop (index + 1)) ++ page.tail, ?_⟩
  have hrun : Piece.run page.pieces = Piece.run (page.pieces.take index) ++
      (page.pieces[index].chars ++ Piece.run (page.pieces.drop (index + 1))) := by
    rw [← Piece.run_cons, ← List.drop_eq_getElem_cons, Piece.run, Piece.run, Piece.run,
      ← List.flatMap_append, List.take_append_drop]
  rw [chars, hrun, Piece.chars]
  simp only [List.append_assoc]

theorem start_eq {index : Nat} {piece : Piece} (h : page.pieces[index]? = some piece) :
    page.start index = (Piece.run (page.pieces.take index) ++ piece.blanks).length := by
  rw [start, h, List.length_append]
  rfl

theorem take_start {index : Nat} {piece : Piece} (h : page.pieces[index]? = some piece) :
    page.chars.take (page.start index) = Piece.run (page.pieces.take index) ++ piece.blanks := by
  obtain ⟨after, hchars⟩ := chars_eq h
  rw [start_eq h, hchars, List.take_left]

/-- The spelling of a token stands where the token is said to begin. -/
theorem spelling_isPrefix {index : Nat} {piece : Piece} (h : page.pieces[index]? = some piece) :
    piece.spelling <+: page.chars.drop (page.start index) := by
  obtain ⟨after, hchars⟩ := chars_eq h
  rw [start_eq h, hchars, List.drop_left]
  exact List.prefix_append _ _

theorem located_eq_locate (page : Page) : page.located = Scanner.locate 1 page.pieces := by
  apply List.ext_getElem?
  intro index
  rw [located, List.getElem?_mapIdx, ← Nat.add_zero 1,
    ← List.count_nil (a := '\n'), Scanner.getElem?_locate]
  cases h : page.pieces[index]? with
  | none => rfl
  | some piece =>
    rw [Option.map_some, Option.map_some, lineAt, source, String.toList_ofList, take_start h]
    rfl

theorem map_token_located (page : Page) : page.located.map Located.token = page.tokens := by
  apply List.ext_getElem?
  intro index
  rw [located, tokens, List.getElem?_map, List.getElem?_map, List.getElem?_mapIdx]
  cases page.pieces[index]? <;> rfl

/-- The tokens of a page with their lines, one by one. -/
theorem located_eq_iff {located : List Located} :
    page.located = located ↔ located.length = page.pieces.length ∧
      ∀ (index : Nat) (piece : Piece), page.pieces[index]? = some piece →
        located[index]? = some ⟨piece.token, lineAt page.source (page.start index)⟩ := by
  constructor
  · rintro rfl
    refine ⟨List.length_mapIdx, fun index piece hpiece => ?_⟩
    rw [Page.located, List.getElem?_mapIdx, hpiece]
    rfl
  · rintro ⟨hlength, h⟩
    apply List.ext_getElem?
    intro index
    cases hpiece : page.pieces[index]? with
    | some piece =>
      rw [h index piece hpiece, Page.located, List.getElem?_mapIdx, hpiece]
      rfl
    | none =>
      have hindex := List.getElem?_eq_none_iff.1 hpiece
      rw [List.getElem?_eq_none, List.getElem?_eq_none (hlength ▸ hindex)]
      rwa [Page.located, List.length_mapIdx]

theorem parts (page : Page) : Parts page.pieces (page.tail ++ []) := by
  rw [parts_iff]
  refine ⟨page.parted, fun _ _ _ => ?_⟩
  by_cases htail : page.tail = []
  · rw [htail]
    exact trivial
  · exact atBoundary_append page.isBlank htail []

theorem parts_of_not_endsBare (page : Page) (h : ¬page.EndsBare) (cs : List Char) :
    Parts page.pieces (page.tail ++ cs) := by
  rw [parts_iff]
  refine ⟨page.parted, fun piece hpiece hbare => ?_⟩
  exact atBoundary_append page.isBlank (fun htail => h ⟨htail, piece, hpiece, hbare⟩) cs

/-- The tokens of a page are read back, each with the line it is printed on. -/
theorem tokenize_source (page : Page) : tokenize page.source = .ok page.located := by
  have hscan : Scanner.scan {} _ = _ := Scanner.scan_run page.parts
  rw [Scanner.scan_blanks page.isBlank, List.append_nil, List.append_nil] at hscan
  rw [tokenize, source, String.toList_ofList, located_eq_locate, chars]
  refine hscan.trans ?_
  exact congrArg Except.ok (List.reverse_reverse _)

theorem tokenize_unclosed (page : Page) {text : List Char} (hpage : ¬page.EndsBare)
    (htext : '"' ∉ text) :
    tokenize (String.ofList (page.chars ++ '"' :: text)) =
      .error (1 + page.chars.count '\n') := by
  have hscan : Scanner.scan {} _ = _ :=
    Scanner.scan_run (page.parts_of_not_endsBare hpage ('"' :: text))
  rw [Scanner.scan_blanks page.isBlank, Scanner.scan_cons, Scanner.feed, Scanner.start_quote,
    Scanner.scan_unclosed htext, Nat.add_assoc, ← List.count_append] at hscan
  rw [tokenize, String.toList_ofList, chars, List.append_assoc]
  exact hscan

end Page

/-! ### Every document is printed -/

theorem layout_blanks {blanks cs : List Char} {tokens : List Token}
    (h : ∀ c ∈ blanks, Text.isBlank c = true) (rest : Layout cs tokens) :
    Layout (blanks ++ cs) tokens := by
  induction blanks with
  | nil => exact rest
  | cons c blanks ih =>
    have ⟨hc, hblanks⟩ := List.forall_mem_cons.1 h
    exact .blank hc (ih hblanks)

theorem Spells.layout {spelling cs : List Char} {token : Token} {tokens : List Token}
    (h : Spells spelling token) (hcs : IsBare spelling → AtBoundary cs) (rest : Layout cs tokens) :
    Layout (spelling ++ cs) (token :: tokens) := by
  cases h with
  | mark h => exact .mark h rest
  | bare h => exact .bare h (hcs h) rest
  | quoted h =>
    rw [List.cons_append, List.append_assoc, List.singleton_append]
    exact .quoted h rest

/-- The characters before `ending` print the tokens. -/
def Prints (cs : List Char) (tokens : List Token) (ending : List Char) : Prop :=
  ∃ pieces tail, pieces.map Piece.token = tokens ∧ cs = Piece.run pieces ++ (tail ++ ending) ∧
    Parts pieces (tail ++ ending) ∧ ∀ c ∈ tail, Text.isBlank c = true

namespace Prints

variable {cs ending : List Char} {tokens : List Token}

theorem done (ending : List Char) : Prints ending [] ending :=
  ⟨[], [], rfl, rfl, trivial, List.forall_mem_nil _⟩

theorem blank {c : Char} (hc : Text.isBlank c = true) (h : Prints cs tokens ending) :
    Prints (c :: cs) tokens ending := by
  obtain ⟨pieces, tail, rfl, rfl, hparts, htail⟩ := h
  cases pieces with
  | nil => exact ⟨[], c :: tail, rfl, rfl, trivial, List.forall_mem_cons.2 ⟨hc, htail⟩⟩
  | cons piece pieces =>
    let first : Piece := { piece with
      blanks := c :: piece.blanks
      isBlank := List.forall_mem_cons.2 ⟨hc, piece.isBlank⟩ }
    exact ⟨first :: pieces, tail, rfl, rfl, hparts, htail⟩

theorem spelled {spelling : List Char} {token : Token} (hspells : Spells spelling token)
    (hcs : IsBare spelling → AtBoundary cs) (h : Prints cs tokens ending) :
    Prints (spelling ++ cs) (token :: tokens) ending := by
  obtain ⟨pieces, tail, rfl, rfl, hparts, htail⟩ := h
  let piece : Piece := ⟨[], spelling, token, List.forall_mem_nil _, hspells⟩
  exact ⟨piece :: pieces, tail, rfl, (List.append_assoc ..).symm, ⟨hcs, hparts⟩, htail⟩

theorem mark {c : Char} {token : Token} (hc : Token.ofMark? c = some token)
    (h : Prints cs tokens ending) : Prints (c :: cs) (token :: tokens) ending := by
  refine spelled (.mark hc) (fun hbare => ?_) h
  have hplain := hbare.plain c (List.mem_singleton_self c)
  rw [isDelimiter_of_ofMark? hc] at hplain
  exact absurd hplain (by decide)

theorem quoted {text : List Char} (htext : '"' ∉ text) (h : Prints cs tokens ending) :
    Prints ('"' :: (text ++ '"' :: cs)) (.text (String.ofList text) :: tokens) ending := by
  have hspelled := spelled (.quoted htext) (fun hbare => absurd rfl hbare.head_ne) h
  rwa [List.cons_append, List.append_assoc, List.singleton_append] at hspelled

theorem of_layout (h : Layout cs tokens) : Prints cs tokens [] := by
  induction h with
  | done => exact .done []
  | blank hc _ ih => exact .blank hc ih
  | mark hc _ ih => exact .mark hc ih
  | quoted htext _ ih => exact .quoted htext ih
  | bare htext hcs _ ih => exact .spelled (.bare htext) (fun _ => hcs) ih

theorem layout (h : Prints cs tokens []) : Layout cs tokens := by
  obtain ⟨pieces, tail, rfl, rfl, hparts, htail⟩ := h
  induction pieces with
  | nil => exact (layout_blanks htail .done : Layout (tail ++ []) [])
  | cons piece pieces ih =>
    have ⟨hpiece, hpieces⟩ := hparts
    rw [Piece.run_cons, Piece.chars, List.append_assoc, List.append_assoc]
    exact layout_blanks piece.isBlank (piece.spells.layout hpiece (ih hpieces))

end Prints

/-- Some plain characters are all of a bare text. -/
theorem exists_isBare {c : Char} (hc : isDelimiter c = false) (hquote : c ≠ '"') (cs : List Char) :
    ∃ text after, c :: cs = text ++ after ∧ IsBare text ∧ AtBoundary after ∧
      after.length ≤ cs.length := by
  refine ⟨c :: cs.takeWhile fun d => !isDelimiter d, cs.dropWhile fun d => !isDelimiter d, ?_,
    ⟨List.cons_ne_nil _ _, fun heq => hquote (Option.some.inj heq), ?_⟩, ?_,
    (List.dropWhile_sublist _).length_le⟩
  · rw [List.cons_append, List.takeWhile_append_dropWhile]
  · refine List.forall_mem_cons.2 ⟨hc, fun d hd => ?_⟩
    simpa using List.all_eq_true.1 List.all_takeWhile d hd
  · have hhead := List.head?_dropWhile_not (fun d => !isDelimiter d) cs
    cases hdrop : cs.dropWhile fun d => !isDelimiter d with
    | nil => exact trivial
    | cons d after =>
      rw [hdrop] at hhead
      simpa [AtBoundary] using hhead

/-- Tokens are printed up to the end of a document, or up to a quote that is never closed. -/
theorem exists_prints (cs : List Char) : ∃ tokens ending,
    Prints cs tokens ending ∧ (ending = [] ∨ ∃ text, ending = '"' :: text ∧ '"' ∉ text) := by
  induction hlength : cs.length using Nat.strong_induction_on generalizing cs with
  | _ length ih =>
    subst hlength
    cases cs with
    | nil => exact ⟨[], [], .done [], .inl rfl⟩
    | cons c cs =>
      have hrest (after : List Char) (h : after.length ≤ cs.length) :=
        ih after.length (Nat.lt_succ_of_le h) after rfl
      cases hdelim : isDelimiter c with
      | true =>
        obtain ⟨tokens, ending, hprints, hending⟩ := hrest cs (Nat.le_refl _)
        cases hmark : Token.ofMark? c with
        | none =>
          exact ⟨tokens, ending, hprints.blank (isBlank_of_isDelimiter hdelim hmark), hending⟩
        | some token => exact ⟨token :: tokens, ending, hprints.mark hmark, hending⟩
      | false =>
        by_cases hquote : c = '"'
        · subst hquote
          by_cases hclosed : '"' ∈ cs
          · obtain ⟨text, after, rfl, htext⟩ := List.eq_append_cons_of_mem hclosed
            obtain ⟨tokens, ending, hprints, hending⟩ := hrest after (by simp; omega)
            exact ⟨_, ending, hprints.quoted htext, hending⟩
          · exact ⟨[], '"' :: cs, .done _, .inr ⟨cs, rfl, hclosed⟩⟩
        · obtain ⟨text, after, heq, hbare, hafter, hlength⟩ := exists_isBare hdelim hquote cs
          obtain ⟨tokens, ending, hprints, hending⟩ := hrest after hlength
          rw [heq]
          exact ⟨_, ending, hprints.spelled (.bare hbare) fun _ => hafter, hending⟩

theorem Page.prints (page : Page) : Prints page.chars page.tokens [] :=
  ⟨page.pieces, page.tail, rfl, by rw [List.append_nil]; rfl, page.parts, page.isBlank⟩

theorem Page.exists_of_prints {source : String} {tokens : List Token}
    (h : Prints source.toList tokens []) :
    ∃ page : Page, page.source = source ∧ page.tokens = tokens := by
  obtain ⟨pieces, tail, rfl, hsource, hparts, htail⟩ := h
  rw [List.append_nil] at hsource
  refine ⟨⟨pieces, tail, ((parts_iff _ _).1 hparts).1, htail⟩, ?_, rfl⟩
  rw [Page.source, Page.chars, ← hsource, String.ofList_toList]

theorem Page.exists_of_prints_unclosed {source : String} {tokens : List Token} {text : List Char}
    (h : Prints source.toList tokens ('"' :: text)) : ∃ page : Page,
      ¬page.EndsBare ∧ source = String.ofList (page.chars ++ '"' :: text) := by
  obtain ⟨pieces, tail, rfl, hsource, hparts, htail⟩ := h
  have ⟨hparted, hlast⟩ := (parts_iff _ _).1 hparts
  refine ⟨⟨pieces, tail, hparted, htail⟩, ?_, ?_⟩
  · rintro ⟨rfl, piece, hpiece, hbare⟩
    exact absurd (show isDelimiter '"' = true from hlast piece hpiece hbare) (by decide)
  · rw [Page.chars, List.append_assoc, ← hsource, String.ofList_toList]

/-- A document is a page, or a page and a quote that is never closed. -/
theorem exists_page_or_unclosed (source : String) :
    (∃ page : Page, page.source = source) ∨ ∃ (page : Page) (text : List Char),
      ¬page.EndsBare ∧ '"' ∉ text ∧ source = String.ofList (page.chars ++ '"' :: text) := by
  obtain ⟨tokens, ending, hprints, rfl | ⟨text, rfl, htext⟩⟩ := exists_prints source.toList
  · obtain ⟨page, hsource, -⟩ := Page.exists_of_prints hprints
    exact .inl ⟨page, hsource⟩
  · obtain ⟨page, hends, hsource⟩ := Page.exists_of_prints_unclosed hprints
    exact .inr ⟨page, text, hends, htext, hsource⟩

theorem tokenize_eq_ok_iff {source : String} {located : List Located} :
    tokenize source = .ok located ↔
      ∃ page : Page, page.source = source ∧ page.located = located := by
  constructor
  · intro h
    rcases exists_page_or_unclosed source with ⟨page, rfl⟩ | ⟨page, text, hends, htext, rfl⟩
    · rw [page.tokenize_source] at h
      exact ⟨page, rfl, Except.ok.inj h⟩
    · rw [page.tokenize_unclosed hends htext] at h
      exact absurd h (by simp)
  · rintro ⟨page, rfl, rfl⟩
    exact page.tokenize_source

theorem tokenize_eq_error_iff {source : String} {line : Nat} :
    tokenize source = .error line ↔ ∃ (page : Page) (text : List Char), ¬page.EndsBare ∧
      '"' ∉ text ∧ source = String.ofList (page.chars ++ '"' :: text) ∧
        line = 1 + page.chars.count '\n' := by
  constructor
  · intro h
    rcases exists_page_or_unclosed source with ⟨page, rfl⟩ | ⟨page, text, hends, htext, rfl⟩
    · rw [page.tokenize_source] at h
      exact absurd h (by simp)
    · rw [page.tokenize_unclosed hends htext] at h
      exact ⟨page, text, hends, htext, rfl, (Except.error.inj h).symm⟩
  · rintro ⟨page, text, hends, htext, rfl, rfl⟩
    exact page.tokenize_unclosed hends htext

/-- The tokens that the scanner finds are those of the document's layout, and it finds some whenever
the document has one. -/
theorem tokenize_iff_layout {source : String} {tokens : List Token} :
    (∃ located, tokenize source = .ok located ∧ located.map Located.token = tokens) ↔
      Layout source.toList tokens := by
  constructor
  · rintro ⟨located, h, rfl⟩
    obtain ⟨page, rfl, rfl⟩ := tokenize_eq_ok_iff.1 h
    rw [page.map_token_located, Page.source, String.toList_ofList]
    exact page.prints.layout
  · intro h
    obtain ⟨page, hsource, rfl⟩ := Page.exists_of_prints (.of_layout h)
    exact ⟨page.located, tokenize_eq_ok_iff.2 ⟨page, hsource, rfl⟩, page.map_token_located⟩

theorem Spells.bare_or_quoted {spelling : List Char} {text : String}
    (h : Spells spelling (.text text)) : IsBare text.toList ∨ '"' ∉ text.toList := by
  generalize htoken : Token.text text = token at h
  cases h with
  | mark hmark => exact absurd (htoken ▸ hmark) (ofMark?_ne_text _ text)
  | bare hbare =>
    rw [Token.text.inj htoken, String.toList_ofList]
    exact .inl hbare
  | quoted hquote =>
    rw [Token.text.inj htoken, String.toList_ofList]
    exact .inr hquote

/-- Whatever blanks stand between its tokens and whichever of its texts are quoted, a page is read
as its tokens. Every text that is found in a document can be printed, bare or quoted, and a document
that is no page fails for a quote that is never closed, the only way to fail. -/
theorem tokenize_printed :
    (∀ page : Page, ∃ located,
      tokenize page.source = .ok located ∧ located.map Located.token = page.tokens) ∧
    (∀ source located text, tokenize source = .ok located →
      .text text ∈ located.map Located.token → IsBare text.toList ∨ '"' ∉ text.toList) ∧
    ∀ source, (¬∃ page : Page, page.source = source) ↔
      ∃ line, tokenize source = .error line ∧ parse source = .error (.unterminatedString line) := by
  refine ⟨fun page => ⟨_, page.tokenize_source, page.map_token_located⟩, ?_, ?_⟩
  · intro source located text h htext
    obtain ⟨page, -, rfl⟩ := tokenize_eq_ok_iff.1 h
    rw [page.map_token_located, Page.tokens, List.mem_map] at htext
    obtain ⟨piece, -, htoken⟩ := htext
    exact (htoken ▸ piece.spells : Spells piece.spelling (.text text)).bare_or_quoted
  · intro source
    constructor
    · intro hpage
      cases h : tokenize source with
      | ok located =>
        obtain ⟨page, hsource, -⟩ := tokenize_eq_ok_iff.1 h
        exact absurd ⟨page, hsource⟩ hpage
      | error line => exact ⟨line, rfl, by rw [parse, h]⟩
    · rintro ⟨line, h, -⟩ ⟨page, rfl⟩
      rw [page.tokenize_source] at h
      exact absurd h (by simp)

/-- A document is read if it is a page, and each token is then found on the line of the character
where its spelling begins. If it is not, the line reported is that of the one quote that opens a
text and has no quote after it. -/
theorem tokenize_lines (source : String) :
    (∀ located, tokenize source = .ok located ↔
      ∃ page : Page, page.source = source ∧ located.length = page.pieces.length ∧
        ∀ index piece, page.pieces[index]? = some piece →
          piece.spelling <+: source.toList.drop (page.start index) ∧
            located[index]? = some ⟨piece.token, lineAt source (page.start index)⟩) ∧
    ∀ line, tokenize source = .error line ↔
      ∃ (page : Page) (text : List Char), ¬page.EndsBare ∧ '"' ∉ text ∧
        source.toList = page.chars ++ '"' :: text ∧ line = lineAt source page.chars.length := by
  constructor
  · intro located
    rw [tokenize_eq_ok_iff]
    refine exists_congr fun page => and_congr_right ?_
    rintro rfl
    rw [Page.located_eq_iff, Page.source, String.toList_ofList]
    refine and_congr_right fun _ => forall_congr' fun index => forall_congr' fun piece => ?_
    exact ⟨fun h hpiece => ⟨page.spelling_isPrefix hpiece, h hpiece⟩, fun h hpiece => (h hpiece).2⟩
  · intro line
    rw [tokenize_eq_error_iff]
    refine exists_congr fun page => exists_congr fun text => and_congr_right fun _ =>
      and_congr_right fun _ => ?_
    constructor
    · rintro ⟨rfl, rfl⟩
      rw [lineAt, String.toList_ofList, List.take_left]
      exact ⟨rfl, rfl⟩
    · rintro ⟨hsource, rfl⟩
      rw [lineAt, hsource, List.take_left, ← hsource, String.ofList_toList]
      exact ⟨rfl, rfl⟩

example : tokenize "a \"b\nc\" d" = .ok [⟨.text "a", 1⟩, ⟨.text "b\nc", 1⟩, ⟨.text "d", 2⟩] := by
  decide

end DrumMachine.Document
