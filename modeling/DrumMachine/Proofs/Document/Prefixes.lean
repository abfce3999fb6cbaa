import DrumMachine.Proofs.Document.Reading

/-!
# Where a document goes wrong

Whatever the reader has taken so far can be completed: a header, an entry or an option gets an empty
text, and every open list is closed. So a token that the reader refuses is the first one after which
nothing helps, and it is the one that the fault names (`explains_of_parse`).
-/

namespace DrumMachine.Document

/-- The tokens are those of a whole document. -/
def Accepted (located : List Located) : Prop := ∃ sections, readSections located = .ok sections

/-- Some document begins with the tokens. -/
def Extendable (located : List Located) : Prop := ∃ rest, Accepted (located ++ rest)

/-- The token at an index is the first one after which no document is possible. -/
structure FirstImpossible (located : List Located) (index : Nat) (found : Located) : Prop where
  at_index : located[index]? = some found
  before : Extendable (located.take index)
  through : ¬Extendable (located.take (index + 1))

namespace Error

/-- The fault is one of this token, and says where it stands and, where it shows a token, this one. -/
def Blames (found : Located) : Error → Prop
  | .unexpectedToken line _ token => line = found.line ∧ token = found.token
  | .tooDeep line => line = found.line ∧ found.token = .openList
  | .unexpectedEnd _ | .unterminatedString _ => False

/-- What a fault says about tokens that are not those of a document. -/
def Explains (located : List Located) : Error → Prop
  | .unexpectedEnd _ => ¬Accepted located ∧ Extendable located
  | .unterminatedString _ => False
  | error => ∃ index found, error.Blames found ∧ FirstImpossible located index found

end Error

/-! ### Completions -/

/-- Tokens that complete a document from a place on. -/
def Place.completion : Place → List Token
  | .outside | .entries _ => []
  | .header => [.text "", .closeSection]
  | .headerEnd _ => [.closeSection]
  | .entryEquals .. => [.equals, .text ""]
  | .entryValue .. => [.text ""]
  | .items nest | .word nest _ => List.replicate nest.depth .closeList
  | .optionValue nest _ => .text "" :: List.replicate nest.depth .closeList

namespace Reader

theorem exists_reads_closeLists (done : List Section) (nest : Nest) :
    ∃ draft, Reads ⟨done, .items nest⟩ (List.replicate nest.depth .closeList)
      ⟨done, .entries draft⟩ := by
  obtain ⟨draft, entry, waiting, items⟩ := nest
  induction waiting generalizing items with
  | nil => exact ⟨_, .cons ⟨done, .entries _⟩ (fun _ => rfl) (.nil _)⟩
  | cons outer waiting ih =>
    obtain ⟨outerItems, name?⟩ := outer
    cases name? with
    | none =>
      obtain ⟨closed, hclosed⟩ := ih (.list items.reverse :: outerItems)
      exact ⟨closed, .cons _ (fun _ => rfl) hclosed⟩
    | some name =>
      obtain ⟨closed, hclosed⟩ := ih (.option name (.list items.reverse) :: outerItems)
      exact ⟨closed, .cons _ (fun _ => rfl) hclosed⟩

/-- An open word is a scalar if its list is closed after it. -/
theorem exists_reads_word (done : List Section) (nest : Nest) (text : String) :
    ∃ draft, Reads ⟨done, .word nest text⟩ (List.replicate nest.depth .closeList)
      ⟨done, .entries draft⟩ := by
  obtain ⟨draft, hreads⟩ := exists_reads_closeLists done (nest.add (.scalar text))
  exact ⟨draft, .word (by simp) hreads⟩

theorem exists_reads_completion (reader : Reader) :
    ∃ next sections, Reads reader reader.place.completion next ∧ next.finish = .ok sections := by
  obtain ⟨done, place⟩ := reader
  have hentries : ∀ {tokens : List Token}, (∃ draft, Reads ⟨done, place⟩ tokens ⟨done, .entries draft⟩) →
      ∃ next sections, Reads ⟨done, place⟩ tokens next ∧ next.finish = .ok sections :=
    fun ⟨_, hreads⟩ => ⟨_, _, hreads, rfl⟩
  cases place with
  | outside => exact ⟨_, _, .nil _, rfl⟩
  | header =>
    exact hentries ⟨⟨"", []⟩, .cons ⟨done, .headerEnd ""⟩ (fun _ => rfl)
      (.cons _ (fun _ => rfl) (.nil _))⟩
  | headerEnd name => exact hentries ⟨⟨name, []⟩, .cons _ (fun _ => rfl) (.nil _)⟩
  | entries draft => exact hentries ⟨draft, .nil _⟩
  | entryEquals draft name =>
    exact hentries ⟨draft.add name (.scalar ""), .cons ⟨done, .entryValue draft name⟩ (fun _ => rfl)
      (.cons _ (fun _ => rfl) (.nil _))⟩
  | entryValue draft name =>
    exact hentries ⟨draft.add name (.scalar ""), .cons _ (fun _ => rfl) (.nil _)⟩
  | items nest => exact hentries (exists_reads_closeLists done nest)
  | word nest text => exact hentries (exists_reads_word done nest text)
  | optionValue nest name =>
    obtain ⟨draft, hreads⟩ := exists_reads_closeLists done (nest.add (.option name (.scalar "")))
    exact hentries ⟨draft, .cons _ (fun _ => rfl) hreads⟩

end Reader

theorem extendable_of_feedAll {located : List Located} {reader : Reader}
    (h : Reader.feedAll {} located = .ok reader) : Extendable located := by
  obtain ⟨next, sections, hreads, hfinish⟩ := reader.exists_reads_completion
  let rest := reader.place.completion.map fun token => (⟨token, 1⟩ : Located)
  have hrest : rest.map Located.token = reader.place.completion := by
    rw [List.map_map]
    exact List.map_id _
  refine ⟨rest, sections, ?_⟩
  rw [readSections, Reader.feedAll_append h, hreads rest hrest]
  exact hfinish

/-! ### Faults -/

namespace Reader

theorem blames_of_openList {nest : Nest} {name? : Option String} {found : Located} {error : Error}
    (hfound : found.token = .openList) (h : openList nest name? found.line = .error error) :
    error.Blames found := by
  unfold openList at h
  split at h
  · exact absurd h (by simp)
  · obtain rfl := Except.error.inj h
    exact ⟨rfl, hfound⟩

theorem blames_of_listItem {nest : Nest} {found : Located} {error : Error}
    (h : listItem nest found = .error error) : error.Blames found := by
  obtain ⟨token, line⟩ := found
  cases token with
  | closeList | text content => exact absurd h (by simp [listItem])
  | openList => exact blames_of_openList rfl h
  | openSection | closeSection | equals =>
    obtain rfl := Except.error.inj h
    exact ⟨rfl, rfl⟩

theorem blames_of_advance {place : Place} {found : Located} {error : Error}
    (h : advance place found = .error error) : error.Blames found := by
  have hunexpected : ∀ {expected : Expected},
      (Except.error (.unexpectedToken found.line expected found.token) : Except Error Place) =
        .error error → error.Blames found := fun heq => Except.error.inj heq ▸ ⟨rfl, rfl⟩
  obtain ⟨token, line⟩ := found
  cases place with
  | items nest => exact blames_of_listItem h
  | word nest text =>
    by_cases htoken : token = .equals
    · subst htoken
      exact absurd h (by simp [advance])
    · rw [advance, if_neg htoken] at h
      exact blames_of_listItem h
  | optionValue nest name =>
    cases token with
    | text content => exact absurd h (by simp [advance])
    | openList => exact blames_of_openList rfl h
    | _ => exact hunexpected h
  | outside =>
    cases token with
    | openSection => exact absurd h (by simp [advance])
    | _ => exact hunexpected h
  | header =>
    cases token with
    | text name => exact absurd h (by simp [advance])
    | _ => exact hunexpected h
  | headerEnd name =>
    cases token with
    | closeSection => exact absurd h (by simp [advance])
    | _ => exact hunexpected h
  | entries draft =>
    cases token with
    | text | openSection => exact absurd h (by simp [advance])
    | _ => exact hunexpected h
  | entryEquals draft name =>
    cases token with
    | equals => exact absurd h (by simp [advance])
    | _ => exact hunexpected h
  | entryValue draft name =>
    cases token with
    | text | openList => exact absurd h (by simp [advance])
    | _ => exact hunexpected h

theorem blames_of_feed {reader : Reader} {found : Located} {error : Error}
    (h : reader.feed found = .error error) : error.Blames found := by
  rw [feed] at h
  cases hadvance : advance reader.place found with
  | ok place => exact absurd h (by simp [hadvance, Except.map])
  | error other =>
    rw [hadvance] at h
    obtain rfl := Except.error.inj h
    exact blames_of_advance hadvance

/-- A run that fails takes some tokens and then refuses one. -/
theorem exists_refused_of_feedAll {located : List Located} {reader : Reader} {error : Error}
    (h : reader.feedAll located = .error error) :
    ∃ before found after mid, located = before ++ found :: after ∧
      reader.feedAll before = .ok mid ∧ mid.feed found = .error error := by
  induction located generalizing reader with
  | nil => exact absurd h (by simp [feedAll])
  | cons found located ih =>
    rw [feedAll] at h
    cases hfeed : reader.feed found with
    | error other =>
      rw [hfeed] at h
      obtain rfl := Except.error.inj h
      exact ⟨[], found, located, reader, rfl, rfl, hfeed⟩
    | ok next =>
      rw [hfeed] at h
      obtain ⟨before, refused, after, mid, rfl, hbefore, hrefused⟩ := ih h
      refine ⟨found :: before, refused, after, mid, rfl, ?_, hrefused⟩
      rw [feedAll, hfeed]
      exact hbefore

theorem exists_unexpectedEnd_of_finish {reader : Reader} {error : Error}
    (h : reader.finish = .error error) : ∃ expected, error = .unexpectedEnd expected := by
  obtain ⟨done, place⟩ := reader
  cases place with
  | outside | entries => exact absurd h (by simp [finish])
  | _ => exact ⟨_, (Except.error.inj h).symm⟩

end Reader

/-- Nothing helps after a token that was refused. -/
theorem not_extendable_of_refused {before : List Located} {found : Located} {reader : Reader}
    {error : Error} (hbefore : Reader.feedAll {} before = .ok reader)
    (hfound : reader.feed found = .error error) : ¬Extendable (before ++ [found]) := by
  rintro ⟨rest, sections, hread⟩
  rw [List.append_assoc, readSections, Reader.feedAll_append hbefore, List.singleton_append,
    Reader.feedAll, hfound] at hread
  exact absurd hread (by simp)

theorem firstImpossible_of_refused {before after : List Located} {found : Located} {reader : Reader}
    {error : Error} (hbefore : Reader.feedAll {} before = .ok reader)
    (hfound : reader.feed found = .error error) :
    FirstImpossible (before ++ found :: after) before.length found where
  at_index := by simp
  before := by
    rw [List.take_left]
    exact extendable_of_feedAll hbefore
  through := by
    rw [List.take_length_add_append, List.take_succ_cons, List.take_zero]
    exact not_extendable_of_refused hbefore hfound

theorem Error.Blames.explains {located : List Located} {index : Nat} {found : Located} {error : Error}
    (h : error.Blames found) (hfirst : FirstImpossible located index found) :
    error.Explains located := by
  cases error with
  | unexpectedToken | tooDeep => exact ⟨index, found, h, hfirst⟩
  | unexpectedEnd | unterminatedString => exact absurd h id

theorem explains_of_readSections {located : List Located} {error : Error}
    (h : readSections located = .error error) : error.Explains located := by
  have hrefused : ¬Accepted located := fun ⟨sections, hread⟩ => by simp [h] at hread
  unfold readSections at h
  cases hfeed : Reader.feedAll {} located with
  | error other =>
    rw [hfeed] at h
    obtain rfl := Except.error.inj h
    obtain ⟨before, found, after, mid, rfl, hbefore, hfound⟩ :=
      Reader.exists_refused_of_feedAll hfeed
    exact (Reader.blames_of_feed hfound).explains (firstImpossible_of_refused hbefore hfound)
  | ok reader =>
    rw [hfeed] at h
    obtain ⟨expected, rfl⟩ := Reader.exists_unexpectedEnd_of_finish h
    exact ⟨hrefused, extendable_of_feedAll hfeed⟩

/-- Where the reader fails at a token, some document begins with the tokens before it and none with
this one as well; where it fails at the end, some document goes on from there; and where it succeeds
no token is left over. -/
theorem explains_of_parse {source : String} {located : List Located}
    (h : tokenize source = .ok located) :
    (∀ error, parse source = .error error → error.Explains located) ∧
    ∀ sections, parse source = .ok sections →
      Accepted located ∧ located.map Located.token = sections.flatMap Section.tokens := by
  have hparse : parse source = readSections located := by
    rw [parse, h]
  rw [hparse]
  exact ⟨fun error => explains_of_readSections, fun sections hread =>
    ⟨⟨sections, hread⟩, (readSections_eq_ok_iff.1 hread).1⟩⟩

theorem explains_of_parse_stray_equals :
    ∃ located index, tokenize "[A]\nkick = ( a.wav )\n= oops" = .ok located ∧
      parse "[A]\nkick = ( a.wav )\n= oops" = .error (.unexpectedToken 3 .optionName .equals) ∧
      FirstImpossible located index ⟨.equals, 3⟩ := by
  have htokenize : tokenize "[A]\nkick = ( a.wav )\n= oops" = .ok
      [⟨.openSection, 1⟩, ⟨.text "A", 1⟩, ⟨.closeSection, 1⟩, ⟨.text "kick", 2⟩, ⟨.equals, 2⟩,
        ⟨.openList, 2⟩, ⟨.text "a.wav", 2⟩, ⟨.closeList, 2⟩, ⟨.equals, 3⟩, ⟨.text "oops", 3⟩] := rfl
  have hparse : parse "[A]\nkick = ( a.wav )\n= oops" =
      .error (.unexpectedToken 3 .optionName .equals) := rfl
  obtain ⟨index, ⟨token, line⟩, ⟨rfl, rfl⟩, hfirst⟩ := (explains_of_parse htokenize).1 _ hparse
  exact ⟨_, index, htokenize, hparse, hfirst⟩

end DrumMachine.Document
