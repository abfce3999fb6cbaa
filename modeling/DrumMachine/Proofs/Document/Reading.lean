import DrumMachine.Proofs.Document.Grammar
import DrumMachine.Proofs.Document.Page

/-!
# The reader is the inverse of the grammar

The reader accepts exactly the tokens of readable sections, and returns these sections
(`parse_eq_ok_iff`). One direction follows the reader along the tokens of a value (`Reads`); the
other keeps, through every step it can take (`Step`), the tokens it has taken so far
(`Reader.tokens`) and that all it has built is readable (`Reader.Fits`).
-/

namespace DrumMachine

open Document (Token maxNesting)

namespace Document

open Value (tokensOfItems)

namespace Reader

/-! ### The reader follows the tokens -/

/-- The tokens lead from one state to the other, on whatever lines they stand. -/
def Reads (reader : Reader) (tokens : List Token) (next : Reader) : Prop :=
  ∀ located : List Located, located.map Located.token = tokens → reader.feedAll located = .ok next

theorem Reads.nil (reader : Reader) : reader.Reads [] reader := by
  intro located h
  rw [List.map_eq_nil_iff.1 h]
  rfl

theorem Reads.cons (mid : Reader) {reader next : Reader} {token : Token} {tokens : List Token}
    (hfeed : ∀ line, reader.feed ⟨token, line⟩ = .ok mid) (h : mid.Reads tokens next) :
    reader.Reads (token :: tokens) next := by
  intro located hlocated
  obtain ⟨⟨_, line⟩, rest, rfl, rfl, hrest⟩ := List.map_eq_cons_iff.1 hlocated
  rw [feedAll, hfeed line]
  exact h rest hrest

theorem feedAll_append {reader mid : Reader} {located : List Located}
    (h : reader.feedAll located = .ok mid) (rest : List Located) :
    reader.feedAll (located ++ rest) = mid.feedAll rest := by
  induction located generalizing reader with
  | nil =>
    rw [feedAll] at h
    rw [Except.ok.inj h]
    rfl
  | cons found located ih =>
    rw [feedAll] at h
    rw [List.cons_append, feedAll]
    split at h
    · exact ih h
    · exact absurd h (by simp)

theorem Reads.append {reader mid next : Reader} {tokens rest : List Token}
    (h : reader.Reads tokens mid) (hrest : mid.Reads rest next) :
    reader.Reads (tokens ++ rest) next := by
  intro located hlocated
  obtain ⟨front, back, rfl, hfront, hback⟩ := List.map_eq_append_iff.1 hlocated
  rw [feedAll_append (h front hfront)]
  exact hrest back hback

variable {done : List Section} {nest : Nest}

/-- A text was a scalar if no equals sign follows it. -/
theorem Reads.word {text : String} {token : Token} {tokens : List Token} {next : Reader}
    (hne : token ≠ .equals)
    (h : Reads ⟨done, .items (nest.add (.scalar text))⟩ (token :: tokens) next) :
    Reads ⟨done, .word nest text⟩ (token :: tokens) next := by
  intro located hlocated
  obtain ⟨⟨_, line⟩, rest, rfl, rfl, hrest⟩ := List.map_eq_cons_iff.1 hlocated
  have hitems := h _ hlocated
  rw [feedAll, feed] at hitems ⊢
  rwa [advance, if_neg hne]

/-- A text and an equals sign name the option whose value comes next. -/
theorem Reads.optionName {name : String} {tokens : List Token} {next : Reader}
    (h : Reads ⟨done, .optionValue nest name⟩ tokens next) :
    Reads ⟨done, .items nest⟩ (.text name :: .equals :: tokens) next :=
  .cons ⟨done, .word nest name⟩ (fun _ => rfl)
    (.cons ⟨done, .optionValue nest name⟩ (fun _ => rfl) h)

/-- A text and an equals sign name the entry whose value comes next. -/
theorem Reads.entryName {draft : Draft} {name : String} {tokens : List Token} {next : Reader}
    (h : Reads ⟨done, .entryValue draft name⟩ tokens next) :
    Reads ⟨done, .entries draft⟩ (.text name :: .equals :: tokens) next :=
  .cons ⟨done, .entryEquals draft name⟩ (fun _ => rfl)
    (.cons ⟨done, .entryValue draft name⟩ (fun _ => rfl) h)

theorem openList_of_lt {name? : Option String} {line : Nat} (h : nest.depth < maxNesting) :
    openList nest name? line = .ok (.items (nest.enter name?)) := if_pos h

/-- A list inside a list leads back to the outer one, with the inner one as its latest item. -/
theorem Reads.innerList (reader : Reader) {nest : Nest} {name? : Option String}
    {items : List Value} (hdepth : nest.depth < maxNesting)
    (hopen : ∀ line, reader.feed ⟨.openList, line⟩ =
      (openList nest name? line).map fun place => ⟨done, place⟩)
    (hinner : Reads ⟨done, .items (nest.enter name?)⟩ (tokensOfItems items ++ [.closeList])
      ⟨done, Nest.leave { nest.enter name? with items := items.reverse ++ [] }⟩) :
    reader.Reads (Value.list items).tokens ⟨done, .items (nest.add (match name? with
      | none => .list items
      | some name => .option name (.list items)))⟩ := by
  refine .cons ⟨done, .items (nest.enter name?)⟩ (fun line => ?_) ?_
  · rw [hopen, openList_of_lt hdepth]
    rfl
  · rw [List.append_nil] at hinner
    cases name? <;> simpa [Nest.leave, Nest.enter, Nest.add] using hinner

theorem FitsAt.nesting_inner {depth : Nat} {items : List Value}
    (h : Value.FitsAt depth (.list items)) : ∀ item ∈ items, item.FitsAt (depth + 1) := by
  intro item hitem
  have hle := h.nesting_le
  rw [Value.nesting] at hle
  have hitems := Value.nestingOfItems_le_iff.1 (Nat.le_refl _) item hitem
  exact ⟨Value.namedOnceItems_iff.1 h.namedOnce item hitem, by omega⟩

/-- Items and the end of their list lead out of the list, with the items in it. -/
theorem reads_items : ∀ {items : List Value} (nest : Nest),
    (∀ item ∈ items, item.FitsAt nest.depth) →
      Reads ⟨done, .items nest⟩ (tokensOfItems items ++ [.closeList])
        ⟨done, Nest.leave { nest with items := items.reverse ++ nest.items }⟩
  | [], nest, _ => .cons ⟨done, nest.leave⟩ (fun _ => rfl) (.nil _)
  | .scalar text :: rest, nest, h => by
    have hrest := reads_items (nest.add (.scalar text))
      fun item hitem => h item (List.mem_cons_of_mem _ hitem)
    obtain ⟨token, tokens, htokens, hne⟩ := Value.exists_tokensOfItems_append_eq_cons rest
    rw [htokens] at hrest
    have hword : Reads ⟨done, .items nest⟩ (.text text :: (tokensOfItems rest ++ [.closeList])) _ :=
      .cons ⟨done, .word nest text⟩ (fun _ => rfl) (htokens ▸ hrest.word hne)
    simpa [tokensOfItems, Value.tokens, Nest.add] using hword
  | .list inner :: rest, nest, h => by
    have hfits := h _ (List.mem_cons_self ..)
    have hdepth : nest.depth < maxNesting := by
      have hle := hfits.nesting_le
      rw [Value.nesting] at hle
      omega
    have hinner := Reads.innerList ⟨done, .items nest⟩ hdepth (fun _ => rfl)
      (reads_items (nest.enter none) (FitsAt.nesting_inner hfits))
    have hrest := reads_items (nest.add (.list inner))
      fun item hitem => h item (List.mem_cons_of_mem _ hitem)
    simpa [tokensOfItems, Nest.add] using hinner.append hrest
  | .option name (.scalar text) :: rest, nest, h => by
    have hrest := reads_items (nest.add (.option name (.scalar text)))
      fun item hitem => h item (List.mem_cons_of_mem _ hitem)
    have hvalue : Reads ⟨done, .optionValue nest name⟩
        (.text text :: (tokensOfItems rest ++ [.closeList])) _ :=
      .cons ⟨done, .items (nest.add (.option name (.scalar text)))⟩ (fun _ => rfl) hrest
    simpa [tokensOfItems, Value.tokens, Nest.add] using hvalue.optionName
  | .option name (.list inner) :: rest, nest, h => by
    have hfits : Value.FitsAt nest.depth (.list inner) :=
      ⟨(h _ (List.mem_cons_self ..)).namedOnce.2, (h _ (List.mem_cons_self ..)).nesting_le⟩
    have hdepth : nest.depth < maxNesting := by
      have hle := hfits.nesting_le
      rw [Value.nesting] at hle
      omega
    have hinner := Reads.innerList ⟨done, .optionValue nest name⟩ hdepth (fun _ => rfl)
      (reads_items (nest.enter (some name)) (FitsAt.nesting_inner hfits))
    have hrest := reads_items (nest.add (.option name (.list inner)))
      fun item hitem => h item (List.mem_cons_of_mem _ hitem)
    simpa [tokensOfItems, Value.tokens, Nest.add] using (hinner.append hrest).optionName
  | .option _ (.option _ _) :: _, _, h => by
    exact absurd rfl (h _ (List.mem_cons_self ..)).namedOnce.1

/-- The value of an entry leads to the end of the entry. -/
theorem reads_value {draft : Draft} {name : String} :
    ∀ {value : Value}, value.Readable →
      Reads ⟨done, .entryValue draft name⟩ value.tokens ⟨done, .entries (draft.add name value)⟩
  | .scalar text, _ =>
    .cons ⟨done, .entries (draft.add name (.scalar text))⟩ (fun _ => rfl) (.nil _)
  | .list items, h => by
    have hitems : Reads ⟨done, .items ⟨draft, name, [], []⟩⟩ (tokensOfItems items ++ _) _ :=
      reads_items _ fun item hitem => ⟨Value.namedOnceItems_iff.1 h.namedOnce item hitem, by
        have hle := h.nesting_le
        have hitem := Value.nestingOfItems_le_iff.1 (Nat.le_refl _) item hitem
        rw [Value.nesting] at hle
        simp only [Nest.depth, List.length_nil]
        omega⟩
    exact .cons ⟨done, .items ⟨draft, name, [], []⟩⟩ (fun _ => rfl)
      (by simpa [Nest.leave] using hitems)
  | .option _ _, h => absurd rfl h.kind_ne

theorem reads_entries {entries : List Entry} (h : ∀ entry ∈ entries, entry.value.Readable)
    (draft : Draft) :
    Reads ⟨done, .entries draft⟩ (entries.flatMap Entry.tokens)
      ⟨done, .entries ⟨draft.name, entries.reverse ++ draft.entries⟩⟩ := by
  induction entries generalizing draft with
  | nil => exact .nil _
  | cons entry entries ih =>
    have hvalue : Reads ⟨done, .entryValue draft entry.name⟩ entry.value.tokens _ :=
      reads_value (h entry (List.mem_cons_self ..))
    have hrest := ih (fun other hother => h other (List.mem_cons_of_mem _ hother))
      (draft.add entry.name entry.value)
    simpa [Entry.tokens, Draft.add] using (hvalue.append hrest).entryName

/-- After its opening bracket a section leads to the end of its last entry. -/
theorem reads_section (done : List Section) {sec : Section} (h : sec.Readable) :
    Reads ⟨done, .header⟩
      (.text sec.name :: .closeSection :: sec.entries.flatMap Entry.tokens)
      ⟨done, .entries ⟨sec.name, sec.entries.reverse⟩⟩ := by
  refine .cons ⟨done, .headerEnd sec.name⟩ (fun _ => rfl)
    (.cons ⟨done, .entries ⟨sec.name, []⟩⟩ (fun _ => rfl) ?_)
  simpa using reads_entries h ⟨sec.name, []⟩

theorem exists_reads_sections {sections : List Section} (h : ∀ sec ∈ sections, sec.Readable)
    (done : List Section) (draft : Draft) :
    ∃ next, Reads ⟨done, .entries draft⟩ (sections.flatMap Section.tokens) next ∧
      next.finish = .ok (done.reverse ++ draft.toSection :: sections) := by
  induction sections generalizing done draft with
  | nil => exact ⟨_, .nil _, by simp [finish]⟩
  | cons sec sections ih =>
    obtain ⟨next, hreads, hfinish⟩ :=
      ih (fun other hother => h other (List.mem_cons_of_mem _ hother)) (draft.toSection :: done)
        ⟨sec.name, sec.entries.reverse⟩
    have hsec := reads_section (draft.toSection :: done) (h sec (List.mem_cons_self ..))
    refine ⟨next, .cons ⟨draft.toSection :: done, .header⟩ (fun _ => rfl) (hsec.append hreads), ?_⟩
    rw [hfinish]
    simp [Draft.toSection]

theorem readSections_of_tokens {sections : List Section} (h : ∀ sec ∈ sections, sec.Readable)
    {located : List Located} (htokens : located.map Located.token = sections.flatMap Section.tokens) :
    readSections located = .ok sections := by
  cases sections with
  | nil =>
    rw [List.map_eq_nil_iff.1 htokens]
    rfl
  | cons sec sections =>
    obtain ⟨next, hreads, hfinish⟩ :=
      exists_reads_sections (fun other hother => h other (List.mem_cons_of_mem _ hother)) []
        ⟨sec.name, sec.entries.reverse⟩
    have hsec := reads_section [] (h sec (List.mem_cons_self ..))
    have hall : Reads {} ((sec :: sections).flatMap Section.tokens) next :=
      .cons ⟨[], .header⟩ (fun _ => rfl) (hsec.append hreads)
    rw [readSections, hall located htokens]
    simpa [Draft.toSection] using hfinish

/-! ### The tokens taken so far -/

/-- What the reader does with a token that it accepts. -/
inductive Step : Reader → Token → Reader → Prop where
  | openFirst {done : List Section} : Step ⟨done, .outside⟩ .openSection ⟨done, .header⟩
  | sectionName {done : List Section} {name : String} :
      Step ⟨done, .header⟩ (.text name) ⟨done, .headerEnd name⟩
  | closeHeader {done : List Section} {name : String} :
      Step ⟨done, .headerEnd name⟩ .closeSection ⟨done, .entries ⟨name, []⟩⟩
  | openNext {done : List Section} {draft : Draft} :
      Step ⟨done, .entries draft⟩ .openSection ⟨draft.toSection :: done, .header⟩
  | entryName {done : List Section} {draft : Draft} {name : String} :
      Step ⟨done, .entries draft⟩ (.text name) ⟨done, .entryEquals draft name⟩
  | entryEquals {done : List Section} {draft : Draft} {name : String} :
      Step ⟨done, .entryEquals draft name⟩ .equals ⟨done, .entryValue draft name⟩
  | entryScalar {done : List Section} {draft : Draft} {name content : String} :
      Step ⟨done, .entryValue draft name⟩ (.text content)
        ⟨done, .entries (draft.add name (.scalar content))⟩
  | entryList {done : List Section} {draft : Draft} {name : String} :
      Step ⟨done, .entryValue draft name⟩ .openList ⟨done, .items ⟨draft, name, [], []⟩⟩
  | itemClose {done : List Section} {nest : Nest} :
      Step ⟨done, .items nest⟩ .closeList ⟨done, nest.leave⟩
  | itemOpen {done : List Section} {nest : Nest} (hdepth : nest.depth < maxNesting) :
      Step ⟨done, .items nest⟩ .openList ⟨done, .items (nest.enter none)⟩
  | itemText {done : List Section} {nest : Nest} {content : String} :
      Step ⟨done, .items nest⟩ (.text content) ⟨done, .word nest content⟩
  | wordEquals {done : List Section} {nest : Nest} {text : String} :
      Step ⟨done, .word nest text⟩ .equals ⟨done, .optionValue nest text⟩
  | wordItem {done : List Section} {nest : Nest} {text : String} {token : Token} {next : Reader}
      (h : Step ⟨done, .items (nest.add (.scalar text))⟩ token next) :
      Step ⟨done, .word nest text⟩ token next
  | optionScalar {done : List Section} {nest : Nest} {name content : String} :
      Step ⟨done, .optionValue nest name⟩ (.text content)
        ⟨done, .items (nest.add (.option name (.scalar content)))⟩
  | optionList {done : List Section} {nest : Nest} {name : String}
      (hdepth : nest.depth < maxNesting) :
      Step ⟨done, .optionValue nest name⟩ .openList ⟨done, .items (nest.enter (some name))⟩

theorem openList_eq_ok {nest : Nest} {name? : Option String} {line : Nat} {place : Place}
    (h : openList nest name? line = .ok place) :
    nest.depth < maxNesting ∧ place = .items (nest.enter name?) := by
  unfold openList at h
  split at h
  · rename_i hdepth
    exact ⟨hdepth, (Except.ok.inj h).symm⟩
  · exact absurd h (by simp)

theorem step_of_listItem {found : Located} {place : Place}
    (h : listItem nest found = .ok place) : Step ⟨done, .items nest⟩ found.token ⟨done, place⟩ := by
  obtain ⟨token, line⟩ := found
  cases token with
  | closeList =>
    obtain rfl := Except.ok.inj h
    exact .itemClose
  | openList =>
    obtain ⟨hdepth, rfl⟩ := openList_eq_ok h
    exact .itemOpen hdepth
  | text content =>
    obtain rfl := Except.ok.inj h
    exact .itemText
  | openSection | closeSection | equals => exact absurd h (by simp [listItem])

theorem step_of_advance {place after : Place} {found : Located}
    (h : advance place found = .ok after) :
    Step ⟨done, place⟩ found.token ⟨completed ⟨done, place⟩ found, after⟩ := by
  obtain ⟨token, line⟩ := found
  cases place with
  | outside =>
    cases token with
    | openSection =>
      obtain rfl := Except.ok.inj h
      exact .openFirst
    | _ => exact absurd h (by simp [advance])
  | header =>
    cases token with
    | text name =>
      obtain rfl := Except.ok.inj h
      exact .sectionName
    | _ => exact absurd h (by simp [advance])
  | headerEnd name =>
    cases token with
    | closeSection =>
      obtain rfl := Except.ok.inj h
      exact .closeHeader
    | _ => exact absurd h (by simp [advance])
  | entries draft =>
    cases token with
    | openSection =>
      obtain rfl := Except.ok.inj h
      exact .openNext
    | text name =>
      obtain rfl := Except.ok.inj h
      exact .entryName
    | _ => exact absurd h (by simp [advance])
  | entryEquals draft name =>
    cases token with
    | equals =>
      obtain rfl := Except.ok.inj h
      exact .entryEquals
    | _ => exact absurd h (by simp [advance])
  | entryValue draft name =>
    cases token with
    | openList =>
      obtain rfl := Except.ok.inj h
      exact .entryList
    | text content =>
      obtain rfl := Except.ok.inj h
      exact .entryScalar
    | _ => exact absurd h (by simp [advance])
  | items nest => exact step_of_listItem h
  | word nest text =>
    by_cases htoken : token = .equals
    · subst htoken
      obtain rfl := Except.ok.inj h
      exact .wordEquals
    · rw [advance, if_neg htoken] at h
      exact .wordItem (step_of_listItem h)
  | optionValue nest name =>
    cases token with
    | openList =>
      obtain ⟨hdepth, rfl⟩ := openList_eq_ok h
      exact .optionList hdepth
    | text content =>
      obtain rfl := Except.ok.inj h
      exact .optionScalar
    | _ => exact absurd h (by simp [advance])

theorem step_of_feed {reader next : Reader} {found : Located} (h : reader.feed found = .ok next) :
    Step reader found.token next := by
  obtain ⟨done, place⟩ := reader
  unfold feed at h
  cases hadvance : advance place found with
  | error error => exact absurd (hadvance ▸ h) (by simp [Except.map])
  | ok after =>
    rw [hadvance] at h
    obtain rfl := Except.ok.inj h
    exact step_of_advance hadvance

end Reader

def Waiting.tokens (waiting : Waiting) : List Token :=
  .openList :: (tokensOfItems waiting.items.reverse ++
    match waiting.name? with
    | none => []
    | some name => [.text name, .equals])

def Nest.tokens (nest : Nest) : List Token :=
  nest.draft.toSection.tokens ++ .text nest.entry :: .equals ::
    (nest.waiting.reverse.flatMap Waiting.tokens ++ .openList :: tokensOfItems nest.items.reverse)

def Place.tokens : Place → List Token
  | .outside => []
  | .header => [.openSection]
  | .headerEnd name => [.openSection, .text name]
  | .entries draft => draft.toSection.tokens
  | .entryEquals draft name => draft.toSection.tokens ++ [.text name]
  | .entryValue draft name => draft.toSection.tokens ++ [.text name, .equals]
  | .items nest => nest.tokens
  | .word nest text => nest.tokens ++ [.text text]
  | .optionValue nest name => nest.tokens ++ [.text name, .equals]

/-- The tokens that brought the reader here. -/
def Reader.tokens (reader : Reader) : List Token :=
  reader.done.reverse.flatMap Section.tokens ++ reader.place.tokens

theorem Draft.tokens_add (draft : Draft) (name : String) (value : Value) :
    (draft.add name value).toSection.tokens =
      draft.toSection.tokens ++ .text name :: .equals :: value.tokens := by
  simp [add, toSection, Section.tokens, Entry.tokens]

theorem Nest.tokens_add (nest : Nest) (item : Value) :
    (nest.add item).tokens = nest.tokens ++ item.tokens := by
  simp [tokens, add, Value.tokensOfItems_append, tokensOfItems]

theorem Nest.tokens_enter (nest : Nest) (name? : Option String) :
    (nest.enter name?).tokens = nest.tokens ++ (match name? with
      | none => [.openList]
      | some name => [.text name, .equals, .openList]) := by
  cases name? <;> simp [tokens, enter, Waiting.tokens, tokensOfItems]

theorem Nest.tokens_leave (nest : Nest) : nest.leave.tokens = nest.tokens ++ [.closeList] := by
  obtain ⟨draft, entry, waiting, items⟩ := nest
  cases waiting with
  | nil => simp [leave, Place.tokens, Draft.tokens_add, tokens, Value.tokens]
  | cons outer waiting =>
    obtain ⟨outerItems, name?⟩ := outer
    cases name? <;>
      simp [leave, Place.tokens, tokens, Waiting.tokens, Value.tokensOfItems_append, tokensOfItems,
        Value.tokens]

namespace Reader

theorem Step.tokens_eq {reader next : Reader} {token : Token} (h : Step reader token next) :
    next.tokens = reader.tokens ++ [token] := by
  induction h with
  | wordItem _ ih => simpa [tokens, Place.tokens, Nest.tokens_add, Value.tokens] using ih
  | itemClose =>
    rw [tokens, Nest.tokens_leave, ← List.append_assoc]
    rfl
  | itemOpen | optionList => simp [tokens, Place.tokens, Nest.tokens_enter]
  | entryScalar => simp [tokens, Place.tokens, Draft.tokens_add, Value.tokens]
  | optionScalar => simp [tokens, Place.tokens, Nest.tokens_add, Value.tokens]
  | entryList => simp [tokens, Place.tokens, Nest.tokens, tokensOfItems]
  | openNext | closeHeader =>
    simp [tokens, Place.tokens, Section.tokens, Draft.toSection]
  | _ => simp [tokens, Place.tokens]

end Reader

/-! ### What the reader builds is readable -/

/-- The items of waiting lists fit the depth at which their list is open. -/
def WaitingFits : List Waiting → Prop
  | [] => True
  | waiting :: outer =>
    (∀ item ∈ waiting.items, item.FitsAt (outer.length + 1)) ∧ WaitingFits outer

structure Nest.Fits (nest : Nest) : Prop where
  draft : nest.draft.toSection.Readable
  depth_le : nest.depth ≤ maxNesting
  items : ∀ item ∈ nest.items, item.FitsAt nest.depth
  waiting : WaitingFits nest.waiting

def Place.Fits : Place → Prop
  | .outside | .header | .headerEnd _ => True
  | .entries draft | .entryEquals draft _ | .entryValue draft _ => draft.toSection.Readable
  | .items nest | .word nest _ | .optionValue nest _ => nest.Fits

structure Reader.Fits (reader : Reader) : Prop where
  done : ∀ sec ∈ reader.done, sec.Readable
  place : reader.place.Fits

theorem Draft.readable_add {draft : Draft} {value : Value} (h : draft.toSection.Readable)
    (hvalue : value.Readable) (name : String) : (draft.add name value).toSection.Readable := by
  intro entry hentry
  rcases List.mem_cons.1 (List.mem_reverse.1 hentry) with rfl | hentry
  · exact hvalue
  · exact h entry (List.mem_reverse.2 hentry)

namespace Nest.Fits

theorem add {nest : Nest} (h : nest.Fits) {item : Value} (hitem : item.FitsAt nest.depth) :
    (nest.add item).Fits :=
  ⟨h.draft, h.depth_le, List.forall_mem_cons.2 ⟨hitem, h.items⟩, h.waiting⟩

theorem add_scalar {nest : Nest} (h : nest.Fits) (text : String) : (nest.add (.scalar text)).Fits :=
  h.add ⟨trivial, h.depth_le⟩

theorem enter {nest : Nest} (h : nest.Fits) (hdepth : nest.depth < maxNesting)
    (name? : Option String) : (nest.enter name?).Fits :=
  ⟨h.draft, hdepth, by simp [Nest.enter], h.items, h.waiting⟩

theorem nesting_closed {nest : Nest} (h : nest.Fits) :
    (Value.list nest.items.reverse).NamedOnce ∧
      nest.waiting.length + (Value.list nest.items.reverse).nesting ≤ maxNesting := by
  have hdepth := h.depth_le
  refine ⟨Value.namedOnceItems_iff.2 fun item hitem =>
    (h.items item (List.mem_reverse.1 hitem)).namedOnce, ?_⟩
  have hitems : Value.nestingOfItems nest.items.reverse ≤ maxNesting - nest.depth := by
    refine Value.nestingOfItems_le_iff.2 fun item hitem => ?_
    have hle := (h.items item (List.mem_reverse.1 hitem)).nesting_le
    omega
  rw [Nest.depth] at hdepth hitems
  rw [Value.nesting]
  omega

theorem leave {nest : Nest} (h : nest.Fits) : nest.leave.Fits := by
  obtain ⟨honce, hle⟩ := h.nesting_closed
  obtain ⟨draft, entry, waiting, items⟩ := nest
  cases waiting with
  | nil =>
    have hclosed : (Value.list items.reverse).Readable :=
      ⟨by simp [Value.kind], honce, by simpa using hle⟩
    exact Draft.readable_add h.draft hclosed entry
  | cons outer waiting =>
    obtain ⟨outerItems, name?⟩ := outer
    obtain ⟨houter, hwaiting⟩ := h.waiting
    have hdepth : waiting.length + 1 ≤ maxNesting := Nat.le_of_succ_le h.depth_le
    cases name? with
    | none => exact ⟨h.draft, hdepth, List.forall_mem_cons.2 ⟨⟨honce, hle⟩, houter⟩, hwaiting⟩
    | some name =>
      refine ⟨h.draft, hdepth, List.forall_mem_cons.2 ⟨⟨⟨?_, honce⟩, hle⟩, houter⟩, hwaiting⟩
      simp [Value.kind]

end Nest.Fits

namespace Reader

theorem Step.fits {reader next : Reader} {token : Token} (h : Step reader token next)
    (hfits : reader.Fits) : next.Fits := by
  induction h with
  | openFirst | sectionName => exact ⟨hfits.done, trivial⟩
  | closeHeader => exact ⟨hfits.done, by simp [Place.Fits, Draft.toSection, Section.Readable]⟩
  | openNext => exact ⟨List.forall_mem_cons.2 ⟨hfits.place, hfits.done⟩, trivial⟩
  | entryName | entryEquals | itemText | wordEquals => exact ⟨hfits.done, hfits.place⟩
  | entryScalar =>
    exact ⟨hfits.done, Draft.readable_add hfits.place (Value.readable_scalar _) _⟩
  | entryList =>
    exact ⟨hfits.done, hfits.place, by simp [Nest.depth, maxNesting], by simp, trivial⟩
  | itemClose => exact ⟨hfits.done, Nest.Fits.leave hfits.place⟩
  | itemOpen hdepth | optionList hdepth => exact ⟨hfits.done, Nest.Fits.enter hfits.place hdepth _⟩
  | wordItem _ ih => exact ih ⟨hfits.done, Nest.Fits.add_scalar hfits.place _⟩
  | optionScalar =>
    have hnest : Nest.Fits _ := hfits.place
    exact ⟨hfits.done, hnest.add ⟨⟨by simp [Value.kind], trivial⟩, hnest.depth_le⟩⟩

theorem feedAll_sound {located : List Located} {reader next : Reader}
    (h : reader.feedAll located = .ok next) (hfits : reader.Fits) :
    next.tokens = reader.tokens ++ located.map Located.token ∧ next.Fits := by
  induction located generalizing reader with
  | nil =>
    obtain rfl := Except.ok.inj h
    exact ⟨by simp, hfits⟩
  | cons found located ih =>
    rw [feedAll] at h
    split at h
    · rename_i mid hfeed
      have hstep := step_of_feed hfeed
      have ⟨htokens, hnext⟩ := ih h (hstep.fits hfits)
      refine ⟨?_, hnext⟩
      rw [htokens, hstep.tokens_eq, List.map_cons, List.append_assoc, List.singleton_append]
    · exact absurd h (by simp)

theorem finish_sound {reader : Reader} {sections : List Section}
    (h : reader.finish = .ok sections) (hfits : reader.Fits) :
    reader.tokens = sections.flatMap Section.tokens ∧ ∀ sec ∈ sections, sec.Readable := by
  obtain ⟨done, place⟩ := reader
  cases place with
  | outside =>
    obtain rfl := Except.ok.inj h
    exact ⟨by simp [tokens, Place.tokens], fun sec hsec => hfits.done sec (List.mem_reverse.1 hsec)⟩
  | entries draft =>
    obtain rfl := Except.ok.inj h
    refine ⟨by simp [tokens, Place.tokens], fun sec hsec => ?_⟩
    rcases List.mem_cons.1 (List.mem_reverse.1 hsec) with rfl | hsec
    · exact hfits.place
    · exact hfits.done sec hsec
  | _ => exact absurd h (by simp [finish])

end Reader

theorem readSections_eq_ok_iff {located : List Located} {sections : List Section} :
    readSections located = .ok sections ↔
      located.map Located.token = sections.flatMap Section.tokens ∧
        ∀ sec ∈ sections, sec.Readable := by
  constructor
  · intro h
    unfold readSections at h
    split at h
    · rename_i reader hfeed
      have ⟨htokens, hfits⟩ := Reader.feedAll_sound hfeed ⟨by simp, trivial⟩
      have ⟨hfinish, hreadable⟩ := Reader.finish_sound h hfits
      exact ⟨htokens.symm.trans hfinish, hreadable⟩
    · exact absurd h (by simp)
  · rintro ⟨htokens, hreadable⟩
    exact Reader.readSections_of_tokens hreadable htokens

/-- A document is accepted exactly if it is laid out as the tokens of readable sections, and then it
stands for these sections. -/
theorem parse_eq_ok_iff {source : String} {sections : List Section} :
    parse source = .ok sections ↔
      Layout source.toList (sections.flatMap Section.tokens) ∧ ∀ sec ∈ sections, sec.Readable := by
  rw [← tokenize_iff_layout]
  constructor
  · intro h
    unfold parse at h
    split at h
    · rename_i located htokenize
      have ⟨htokens, hreadable⟩ := readSections_eq_ok_iff.1 h
      exact ⟨⟨located, htokenize, htokens⟩, hreadable⟩
    · exact absurd h (by simp)
  · rintro ⟨⟨located, htokenize, htokens⟩, hreadable⟩
    rw [parse, htokenize]
    exact readSections_eq_ok_iff.2 ⟨htokens, hreadable⟩

end Document

end DrumMachine
