import DrumMachine.Proofs.Song.Built
import DrumMachine.Proofs.Song.Faults

/-!
# What a faulty section leaves behind

A section that is cut off right before its first faulty node (`Section.cut`) can be added to any song
without a fault, and it makes the song that the whole section leaves behind (`add_cut`). No setting
is ever half made, since an item or an entry that fails does so before it changes anything.
-/

namespace DrumMachine

/-- The items before the first that has a faulty node, and what is kept of that one. -/
def cutAt {α : Type} (nodes : α → List Node) (keep : α → List α) : List α → List α
  | [] => []
  | item :: rest =>
    if (nodes item).findSome? Node.fault? = none then item :: cutAt nodes keep rest else keep item

/-- The nodes of an item in the list of an entry, where entries are lists of items. -/
def Entry.itemNodes (role : Section.Role) (name : String) (item : Value) : List Node :=
  match role with
  | .samples => Node.ofField Section.samplesName name .sampleSetting item
  | .arrangement =>
    if name = Section.outputName then [.orderItem item]
    else Node.ofField Section.arrangementName name .tempoSetting item
  | .phrase _ => []

/-- What is kept of a faulty entry: the items of its list before the first faulty one. A value that is
no list is dropped with its entry, and so is a grid. -/
def Entry.cut (role : Section.Role) (entry : Entry) : List Entry :=
  match role, entry.value with
  | .phrase _, _ => []
  | role, .list items =>
    [⟨entry.name, .list (cutAt (Entry.itemNodes role entry.name) (fun _ => []) items)⟩]
  | _, _ => []

theorem Entry.itemNodes_of_ne {name : String} (hname : name ≠ Section.outputName) :
    Entry.itemNodes .arrangement name =
      Node.ofField Section.arrangementName name .tempoSetting := by
  funext item
  rw [Entry.itemNodes, if_neg hname]

/-- The section up to its first faulty node. -/
def Section.cut (sec : Section) : Section where
  name := sec.name
  entries := cutAt (Entry.nodes (Section.role sec.name)) (Entry.cut (Section.role sec.name)) sec.entries

/-! ### The first faulty item -/

section

variable {α : Type} {nodes : α → List Node} {fault : Song.Fault}

theorem findSome?_flatMap_append (items : List α) {item : α} (rest : List α)
    (hitems : (items.flatMap nodes).findSome? Node.fault? = none)
    (hitem : (nodes item).findSome? Node.fault? = some fault) :
    ((items ++ item :: rest).flatMap nodes).findSome? Node.fault? = some fault := by
  rw [List.flatMap_append, List.findSome?_append, hitems, Option.none_or, List.flatMap_cons,
    List.findSome?_append, hitem, Option.some_or]

/-- Among items with a fault there is a first one, and the fault is its own. -/
theorem exists_first_faulty {items : List α}
    (h : (items.flatMap nodes).findSome? Node.fault? = some fault) :
    ∃ before item after, items = before ++ item :: after ∧
      (before.flatMap nodes).findSome? Node.fault? = none ∧
      (nodes item).findSome? Node.fault? = some fault := by
  induction items with
  | nil => exact absurd h (by simp)
  | cons first rest ih =>
    rw [List.flatMap_cons, List.findSome?_append] at h
    cases hfirst : (nodes first).findSome? Node.fault? with
    | some other =>
      rw [hfirst, Option.some_or] at h
      exact ⟨[], first, rest, rfl, rfl, hfirst.trans h⟩
    | none =>
      rw [hfirst, Option.none_or] at h
      obtain ⟨before, item, after, rfl, hbefore, hitem⟩ := ih h
      refine ⟨first :: before, item, after, rfl, ?_, hitem⟩
      rw [List.flatMap_cons, List.findSome?_append, hfirst, hbefore, Option.none_or]

theorem cutAt_append (keep : α → List α) {items : List α} {item : α} (rest : List α)
    (hitems : (items.flatMap nodes).findSome? Node.fault? = none)
    (hitem : (nodes item).findSome? Node.fault? = some fault) :
    cutAt nodes keep (items ++ item :: rest) = items ++ keep item := by
  induction items with
  | nil =>
    rw [List.nil_append, cutAt, if_neg (by rw [hitem]; simp), List.nil_append]
  | cons first items ih =>
    rw [List.flatMap_cons, List.findSome?_append, Option.or_eq_none_iff] at hitems
    rw [List.cons_append, cutAt, if_pos hitems.1, ih hitems.2, List.cons_append]

end

namespace Song

namespace Outcome

variable {σ α : Type} {step : σ → α → Outcome σ} {state : σ}

theorem each_cons_of_fault {item : α} {rest : List α} {fault : Fault}
    (h : (step state item).fault? = some fault) :
    each step state (item :: rest) = step state item := by
  rw [each]
  cases houtcome : step state item with
  | mk next fault? =>
    rw [houtcome] at h
    obtain rfl : fault? = some fault := h
    rfl

/-- Where what is kept of a faulty item does what the item does before it fails, the items cut off at
their first fault do what all of them do. -/
theorem each_cutAt {nodes : α → List Node} (keep : α → List α)
    (hstep : ∀ state item, (step state item).fault? = (nodes item).findSome? Node.fault?)
    (hkeep : ∀ state item fault, (step state item).fault? = some fault →
      each step state (keep item) = ⟨(step state item).state, none⟩)
    (state : σ) (items : List α) :
    each step state (cutAt nodes keep items) = ⟨(each step state items).state, none⟩ := by
  induction items generalizing state with
  | nil => rfl
  | cons item rest ih =>
    rw [cutAt, ← hstep state item]
    cases hfault : (step state item).fault? with
    | none =>
      rw [if_pos rfl, each_cons_of_fault?_eq_none hfault, each_cons_of_fault?_eq_none hfault]
      exact ih _
    | some fault =>
      rw [if_neg (by simp), each_cons_of_fault hfault]
      exact hkeep state item fault hfault

end Outcome

/-! ### Items and entries that fail -/

theorem state_addSampleField_of_fault {entry : String} {sample : Sample} {field : Value}
    {fault : Fault} (h : (addSampleField entry sample field).fault? = some fault) :
    (addSampleField entry sample field).state = sample := by
  unfold addSampleField at h ⊢
  cases field with
  | scalar text => rfl
  | list items => rfl
  | option key value =>
    dsimp only at h ⊢
    by_cases hparams : key = "params"
    · subst hparams
      exact absurd h (by simp)
    · -- the other settings fail only where their value is no text, and then they set nothing
      rw [if_neg hparams] at h ⊢
      cases value with
      | scalar text =>
        split_ifs at h ⊢
        rfl
      | list items =>
        split_ifs
        all_goals rfl
      | option inner value =>
        split_ifs
        all_goals rfl

theorem state_addPhraseField_of_fault {entry : String} {phrase : Phrase} {field : Value}
    {fault : Fault} (h : (addPhraseField entry phrase field).fault? = some fault) :
    (addPhraseField entry phrase field).state = phrase := by
  unfold addPhraseField at h ⊢
  cases field with
  | scalar text => rfl
  | list items => rfl
  | option key value =>
    dsimp only at h ⊢
    cases value with
    | scalar text =>
      split_ifs at h ⊢
      rfl
    | list items =>
      split_ifs
      all_goals rfl
    | option inner value =>
      split_ifs
      all_goals rfl

theorem state_addGrid_of_fault {name : String} {phrase : Phrase} {entry : Entry} {fault : Fault}
    (h : (addGrid name phrase entry).fault? = some fault) :
    (addGrid name phrase entry).state = phrase := by
  obtain ⟨track, value⟩ := entry
  unfold addGrid at h ⊢
  cases value with
  | list items => rfl
  | option key value => rfl
  | scalar glyphs =>
    dsimp only at h ⊢
    cases hread : Grid.read glyphs with
    | error glyph => rfl
    | ok beats =>
      rw [hread] at h
      exact absurd h (by simp)

/-- Names in the order of play are taken up to the first item that is none. -/
theorem cutAt_orderItem (items : List Value) :
    cutAt (fun item => [Node.orderItem item]) (fun _ => []) items =
      items.takeWhile fun item => item.scalar?.isSome := by
  induction items with
  | nil => rfl
  | cons item items ih =>
    cases item with
    | scalar text => exact congrArg (Value.scalar text :: ·) ih
    | list inner => rfl
    | option key value => rfl

theorem isOrder_takeWhile (items : List Value) :
    (Value.list (items.takeWhile fun item => item.scalar?.isSome)).IsOrder := by
  intro item hitem
  have hscalar := List.mem_takeWhile_imp (p := fun item : Value => item.scalar?.isSome) hitem
  cases item with
  | scalar text => rfl
  | list inner => exact absurd hscalar (by simp [Value.scalar?])
  | option key value => exact absurd hscalar (by simp [Value.scalar?])

theorem each_cut_samples (song : Song) (entry : Entry) {fault : Fault}
    (h : (addSample song entry).fault? = some fault) :
    Outcome.each addSample song (entry.cut .samples) = ⟨(addSample song entry).state, none⟩ := by
  obtain ⟨name, value⟩ := entry
  cases value with
  | scalar text => rfl
  | option key value => rfl
  | list fields =>
    have hfields := Outcome.each_cutAt (fun _ => []) (fault?_addSampleField name)
      (fun sample field fault hfault => by rw [state_addSampleField_of_fault hfault]; rfl)
      ((song.samples.get? name).getD {}) fields
    apply Outcome.each_cons_of_none
    exact congrArg (Outcome.map fun sample =>
      { song with samples := song.samples.insert name sample }) hfields

theorem each_cut_arrangement (song : Song) (entry : Entry) {fault : Fault}
    (h : (addArrangement song entry).fault? = some fault) :
    Outcome.each addArrangement song (entry.cut .arrangement) =
      ⟨(addArrangement song entry).state, none⟩ := by
  obtain ⟨name, value⟩ := entry
  by_cases hname : name = Section.outputName
  · subst hname
    cases value with
    | scalar text => exact absurd h (by simp [addArrangement])
    | option key value => rfl
    | list items =>
      have hitems : Entry.itemNodes .arrangement Section.outputName =
          fun item => [Node.orderItem item] := rfl
      apply Outcome.each_cons_of_none
      rw [hitems, cutAt_orderItem, addArrangement_of_isOrder rfl (isOrder_takeWhile items)]
      rfl
  · rw [addArrangement, if_neg hname] at h ⊢
    cases value with
    | scalar text => rfl
    | option key value => rfl
    | list fields =>
      have hfields := Outcome.each_cutAt (fun _ => []) (fault?_addPhraseField name)
        (fun phrase field fault hfault => by rw [state_addPhraseField_of_fault hfault]; rfl)
        ((song.phrases.get? name).getD {}) fields
      apply Outcome.each_cons_of_none
      rw [addArrangement, if_neg hname, Entry.itemNodes_of_ne hname]
      exact congrArg (Outcome.map fun phrase =>
        { song with phrases := song.phrases.insert name phrase }) hfields

/-! ### Sections -/

/-- A section cut off at its first fault makes the song that the whole section leaves behind. -/
theorem add_cut (song : Song) (sec : Section) : song.add sec.cut = ⟨(song.add sec).state, none⟩ := by
  rw [add, add, Section.cut]
  cases Section.role sec.name with
  | samples =>
    exact Outcome.each_cutAt (Entry.cut .samples) fault?_addSample
      (fun song entry fault => each_cut_samples song entry) song sec.entries
  | arrangement =>
    exact Outcome.each_cutAt (Entry.cut .arrangement) fault?_addArrangement
      (fun song entry fault => each_cut_arrangement song entry) song sec.entries
  | phrase name =>
    have hgrids := Outcome.each_cutAt (Entry.cut (.phrase name)) (fault?_addGrid name)
      (fun phrase entry fault hfault => by rw [state_addGrid_of_fault hfault]; rfl)
      ((song.phrases.get? name).getD {}) sec.entries
    exact congrArg (Outcome.map fun phrase =>
      { song with phrases := song.phrases.insert name phrase }) hgrids

/-! ### Where the first fault is -/

/-- Of an entry that lists items, the items decide about its fault. -/
theorem findSome?_nodes_list {role : Section.Role} (hrole : ∀ phrase, role ≠ .phrase phrase)
    (name : String) (items : List Value) :
    (Entry.nodes role ⟨name, .list items⟩).findSome? Node.fault? =
      (items.flatMap (Entry.itemNodes role name)).findSome? Node.fault? := by
  cases role with
  | phrase phrase => exact absurd rfl (hrole phrase)
  | samples => rfl
  | arrangement =>
    by_cases hname : name = Section.outputName
    · subst hname
      have hnodes : Entry.nodes .arrangement ⟨Section.outputName, .list items⟩ =
          .order (.list items) :: items.map .orderItem := rfl
      rw [hnodes, List.map_eq_flatMap]
      rfl
    · rw [Entry.nodes, if_neg hname, Entry.itemNodes_of_ne hname]
      rfl

/-- What is kept of an entry that lists items, by the first faulty one. -/
theorem exists_cut_list {role : Section.Role} (hrole : ∀ phrase, role ≠ .phrase phrase)
    {name : String} {items : List Value} {fault : Fault}
    (h : (Entry.nodes role ⟨name, .list items⟩).findSome? Node.fault? = some fault) :
    ∃ done item rest, items = done ++ item :: rest ∧
      Entry.cut role ⟨name, .list items⟩ = [⟨name, .list done⟩] ∧
      (Entry.nodes role ⟨name, .list (done ++ [item])⟩).findSome? Node.fault? = some fault := by
  rw [findSome?_nodes_list hrole] at h
  obtain ⟨done, item, rest, rfl, hdone, hitem⟩ := exists_first_faulty h
  refine ⟨done, item, rest, rfl, ?_, ?_⟩
  · have hcut := cutAt_append (fun _ => []) rest hdone hitem
    rw [List.append_nil] at hcut
    cases role with
    | phrase phrase => exact absurd rfl (hrole phrase)
    | samples => exact congrArg (fun kept => [Entry.mk name (.list kept)]) hcut
    | arrangement => exact congrArg (fun kept => [Entry.mk name (.list kept)]) hcut
  · rw [findSome?_nodes_list hrole]
    exact findSome?_flatMap_append done [] hdone hitem

theorem cut_eq_nil {role : Section.Role} {entry : Entry}
    (h : (∃ phrase, role = .phrase phrase) ∨ ∀ items, entry.value ≠ .list items) :
    entry.cut role = [] := by
  obtain ⟨name, value⟩ := entry
  rcases h with ⟨phrase, rfl⟩ | hvalue
  · rfl
  · cases value with
    | list items => exact absurd rfl (hvalue items)
    | scalar text => cases role <;> rfl
    | option key value => cases role <;> rfl

/-- The failing sample is left with what its earlier fields say. -/
theorem sampleAt_add_of_cut {song : Song} {name own : String} {before after : List Entry}
    {done items : List Value} (hrole : Section.role name = .samples)
    (hcut : Section.cut ⟨name, before ++ ⟨own, .list items⟩ :: after⟩ =
      ⟨name, before ++ [⟨own, .list done⟩]⟩) :
    (song.add ⟨name, before ++ ⟨own, .list items⟩ :: after⟩).state.sampleAt own =
      (song.sampleAt own).withFields (Entry.fieldsUnder own before ++ done) := by
  have hadd := add_cut song ⟨name, before ++ ⟨own, .list items⟩ :: after⟩
  rw [hcut] at hadd
  have hvalid : Section.Valid ⟨name, before ++ [⟨own, .list done⟩]⟩ :=
    (fault?_add_eq_none_iff song _).1 (congrArg Outcome.fault? hadd)
  have hreading := (reading_add hvalid song).sample own
  rw [congrArg Outcome.state hadd, Section.entriesIn_singleton, if_pos hrole,
    Entry.fieldsUnder_append] at hreading
  rw [hreading]
  simp [Entry.fieldsUnder, Entry.under, Value.items]

/-- What a failing section leaves behind is what it makes when it is cut off at its first fault, and
that makes no fault. The first fault is in the first entry with which the section, up to there, fails;
an entry that is no list of items, or a grid, is dropped, and of a list the items stay before the
first with which it fails. So a failing sample has the path, the volume, the effect and its parameters
as its earlier fields say. -/
theorem add_cut_at_first_fault {song : Song} {sec : Section} {fault : Fault}
    (h : (song.add sec).fault? = some fault) :
    let role := Section.role sec.name
    song.add sec.cut = ⟨(song.add sec).state, none⟩ ∧
    ∃ before entry after, sec.entries = before ++ entry :: after ∧
      sec.cut = ⟨sec.name, before ++ entry.cut role⟩ ∧
      (song.add ⟨sec.name, before⟩).fault? = none ∧
      (song.add ⟨sec.name, before ++ [entry]⟩).fault? = some fault ∧
      ((∃ phrase, role = .phrase phrase) ∨ (∀ items, entry.value ≠ .list items) →
        entry.cut role = []) ∧
      ∀ items, entry.value = .list items → (∀ phrase, role ≠ .phrase phrase) →
        ∃ done item rest, items = done ++ item :: rest ∧
          entry.cut role = [⟨entry.name, .list done⟩] ∧
          (song.add ⟨sec.name, before ++ [⟨entry.name, .list (done ++ [item])⟩]⟩).fault? =
            some fault ∧
          (role = .samples → (song.add sec).state.sampleAt entry.name =
            (song.sampleAt entry.name).withFields
              (Entry.fieldsUnder entry.name before ++ done)) := by
  intro role
  obtain ⟨name, entries⟩ := sec
  have hnodes := h
  rw [fault?_add] at hnodes
  obtain ⟨before, entry, after, rfl, hbefore, hentry⟩ := exists_first_faulty hnodes
  have hcut : Section.cut ⟨name, before ++ entry :: after⟩ = ⟨name, before ++ entry.cut role⟩ :=
    congrArg (Section.mk name) (cutAt_append (Entry.cut role) after hbefore hentry)
  refine ⟨add_cut song _, before, entry, after, rfl, hcut, ?_, ?_, cut_eq_nil, ?_⟩
  · rw [fault?_add]
    exact hbefore
  · rw [fault?_add]
    exact findSome?_flatMap_append before [] hbefore hentry
  · intro items hvalue hrole
    obtain ⟨own, value⟩ := entry
    obtain rfl : value = .list items := hvalue
    obtain ⟨done, item, rest, hitems, hkept, hitem⟩ := exists_cut_list hrole hentry
    refine ⟨done, item, rest, hitems, hkept, ?_, fun hsamples => ?_⟩
    · rw [fault?_add]
      exact findSome?_flatMap_append before [] hbefore hitem
    · rw [hkept] at hcut
      exact sampleAt_add_of_cut hsamples hcut

/-- A sample whose volume is a list keeps the effect and the parameters given before it. -/
theorem add_cut_at_volume :
    let hat : Entry := ⟨"hat", .list [.option "path" (.scalar "h.wav")]⟩
    let effect : List Value :=
      [.option "stereo" (.scalar "chorus"), .option "params" (.scalar "30")]
    let faulty : List Value := [.option "volume" (.list []), .option "stereo" (.scalar "pan")]
    let sec : Section := ⟨"WHO", [hat, ⟨"kick", .list (effect ++ faulty)⟩, ⟨"snare", .list []⟩]⟩
    (add {} sec).fault? = some (.unexpectedKind "WHO" "volume" .scalar .list) ∧
      add {} ⟨"WHO", [hat, ⟨"kick", .list effect⟩]⟩ = ⟨(add {} sec).state, none⟩ := by
  intro hat effect faulty sec
  have hfault : (add {} sec).fault? = some (.unexpectedKind "WHO" "volume" .scalar .list) := rfl
  have hcut : sec.cut = ⟨"WHO", [hat, ⟨"kick", .list effect⟩]⟩ := by decide
  exact ⟨hfault, hcut ▸ (add_cut_at_first_fault hfault).1⟩

end Song

end DrumMachine
