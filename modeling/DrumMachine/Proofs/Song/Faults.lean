import DrumMachine.Engine
import DrumMachine.Proofs.Song.Glyphs
import DrumMachine.Proofs.Song.Reading
import DrumMachine.Proofs.Song.Valid

/-!
# The fault of a section

Each node of a section has a place that says what is allowed there: a list of fields, a setting, a
name in the order of play, a glyph (`Section.nodes`). What is wrong with a node can be told from the
node alone (`Node.fault?`), and the fault of a section is that of the first node, in the order of the
document, with which something is wrong (`fault?_add`). So an engine keeps exactly the valid ones
among the sections that it is offered (`Engine.addAll_filter_valid`).
-/

namespace DrumMachine

/-- A node of a section in its place. -/
inductive Node where
  | fields (place name : String) (value : Value)
  | field (place name : String) (item : Value)
  | sampleSetting (key : String) (value : Value)
  | tempoSetting (key : String) (value : Value)
  | order (value : Value)
  | orderItem (item : Value)
  | grid (phrase track : String) (value : Value)
  | glyph (phrase track : String) (c : Char)

/-- The characters that a grid is written in. -/
def Grid.alphabet : List Char := ['.', '-', '/', '!', ':', '_', ' ', '\t', '\r', '\n']

namespace Node

/-- What is wrong with a value that should have some shape. -/
def shapeFault? (place key : String) (expected : Song.Shape) (allowed : List Value.Kind)
    (value : Value) : Option Song.Fault :=
  if value.kind ∈ allowed then none
  else some (.unexpectedKind place key expected value.kind)

/-- What is wrong with a setting of a text, where only some settings are known. -/
def settingFault? (place : String) (known : List String) (key : String) (value : Value) :
    Option Song.Fault :=
  if key ∈ known then shapeFault? place key .scalar [.scalar] value
  else some (.unknownKey place key)

/-- What is wrong with the node, whatever is wrong inside it. -/
def fault? : Node → Option Song.Fault
  | .fields place name value => shapeFault? place name .list [.list] value
  | .field place name item => shapeFault? place name .option [.option] item
  | .sampleSetting key value =>
    if key = "params" then none
    else settingFault? Section.samplesName ["path", "volume", "stereo"] key value
  | .tempoSetting key value => settingFault? Section.arrangementName ["bpm"] key value
  | .order value =>
    shapeFault? Section.arrangementName Section.outputName .scalarOrList [.scalar, .list] value
  | .orderItem item =>
    shapeFault? Section.arrangementName Section.outputName .scalar [.scalar] item
  | .grid phrase track value =>
    if value.kind = .scalar then none else some (.notImplemented phrase track value.kind)
  | .glyph phrase track c =>
    if c ∈ Grid.alphabet then none else some (.unknownBeat phrase track c)

/-- An item of a list of fields, with the setting that it holds. -/
def ofField (place name : String) (setting : String → Value → Node) (item : Value) : List Node :=
  .field place name item :: match item with
    | .option key value => [setting key value]
    | _ => []

/-- A value that lists fields. -/
def ofFields (place name : String) (setting : String → Value → Node) (value : Value) : List Node :=
  .fields place name value :: value.items.flatMap (ofField place name setting)

end Node

/-- The nodes of an entry in a section with some role, each before what is inside it. -/
def Entry.nodes (role : Section.Role) (entry : Entry) : List Node :=
  match role with
  | .samples => Node.ofFields Section.samplesName entry.name .sampleSetting entry.value
  | .arrangement =>
    if entry.name = Section.outputName then
      .order entry.value :: entry.value.items.map .orderItem
    else Node.ofFields Section.arrangementName entry.name .tempoSetting entry.value
  | .phrase phrase =>
    .grid phrase entry.name entry.value ::
      (entry.value.scalar?.getD "").toList.map (.glyph phrase entry.name)

/-- The nodes of a section in the order of the document. -/
def Section.nodes (sec : Section) : List Node :=
  sec.entries.flatMap (Entry.nodes (Section.role sec.name))

/-! ### Glyphs -/

theorem Grid.mem_alphabet_iff {c : Char} :
    c ∈ alphabet ↔ isFiller c = true ∨ (Beat.ofGlyph? c).isSome = true := by
  have halphabet : alphabet = glyphs ++ fillers := rfl
  rw [halphabet, List.mem_append, mem_glyphs_iff, mem_fillers_iff, or_comm]

/-- Reading a grid stops at the first character that is not allowed in it. -/
theorem Grid.findSome?_glyphs (phrase track : String) (done : List Beat) (cs : List Char) :
    (cs.map (Node.glyph phrase track)).findSome? Node.fault? =
      match Grid.readFrom done cs with
      | .ok _ => none
      | .error c => some (.unknownBeat phrase track c) := by
  induction cs generalizing done with
  | nil => rfl
  | cons c cs ih =>
    rw [List.map_cons, List.findSome?_cons, Node.fault?, readFrom]
    by_cases hfiller : isFiller c = true
    · rw [if_pos (mem_alphabet_iff.2 (.inl hfiller)), if_pos hfiller]
      exact ih done
    · rw [if_neg hfiller]
      cases hglyph : Beat.ofGlyph? c with
      | some beat =>
        rw [if_pos (mem_alphabet_iff.2 (.inr (by rw [hglyph]; rfl)))]
        exact ih (beat :: done)
      | none =>
        have hstray : c ∉ alphabet := fun hmem => by
          simpa [hfiller, hglyph] using mem_alphabet_iff.1 hmem
        rw [if_neg hstray]

namespace Song

/-- Where the nodes of an item decide about its fault, those of all items decide about a run's. -/
theorem Outcome.fault?_each {σ α : Type} {step : σ → α → Outcome σ} {nodes : α → List Node}
    (hstep : ∀ state item, (step state item).fault? = (nodes item).findSome? Node.fault?)
    (state : σ) (items : List α) :
    (each step state items).fault? = (items.flatMap nodes).findSome? Node.fault? := by
  induction items generalizing state with
  | nil => rfl
  | cons item rest ih =>
    rw [List.flatMap_cons, List.findSome?_append, ← hstep state item]
    cases hfault : (step state item).fault? with
    | none => rw [each_cons_of_fault?_eq_none hfault, ih, Option.none_or]
    | some fault => rw [fault?_each_cons_of_fault hfault, Option.some_or]

/-! ### Entries -/

theorem fault?_addSampleField (entry : String) (sample : Sample) (field : Value) :
    (addSampleField entry sample field).fault? =
      (Node.ofField Section.samplesName entry .sampleSetting field).findSome? Node.fault? := by
  cases field with
  | scalar text => rfl
  | list items => rfl
  | option key value =>
    by_cases hpath : key = "path"
    · subst hpath
      cases value <;> rfl
    by_cases hvolume : key = "volume"
    · subst hvolume
      cases value <;> rfl
    by_cases hstereo : key = "stereo"
    · subst hstereo
      cases value <;> rfl
    by_cases hparams : key = "params"
    · subst hparams
      rfl
    simp [addSampleField, Node.ofField, Node.fault?, Node.shapeFault?, Node.settingFault?,
      Value.kind, hpath, hvolume, hstereo, hparams]

theorem fault?_addPhraseField (entry : String) (phrase : Phrase) (field : Value) :
    (addPhraseField entry phrase field).fault? =
      (Node.ofField Section.arrangementName entry .tempoSetting field).findSome? Node.fault? := by
  cases field with
  | scalar text => rfl
  | list items => rfl
  | option key value =>
    by_cases hbpm : key = "bpm"
    · subst hbpm
      cases value <;> rfl
    · simp [addPhraseField, Node.ofField, Node.fault?, Node.shapeFault?, Node.settingFault?,
        Value.kind, hbpm]

theorem fault?_addOutput (song : Song) (items : List Value) :
    (addOutput song items).fault? = (items.map Node.orderItem).findSome? Node.fault? := by
  rw [addOutput]
  induction items with
  | nil => rfl
  | cons item items ih =>
    cases item with
    | scalar text => exact ih
    | list inner => rfl
    | option key value => rfl

theorem fault?_addSample (song : Song) (entry : Entry) :
    (addSample song entry).fault? = (entry.nodes .samples).findSome? Node.fault? := by
  obtain ⟨name, value⟩ := entry
  cases value with
  | scalar text => rfl
  | option key value => rfl
  | list fields => exact Outcome.fault?_each (fault?_addSampleField name) _ fields

theorem fault?_addArrangement (song : Song) (entry : Entry) :
    (addArrangement song entry).fault? = (entry.nodes .arrangement).findSome? Node.fault? := by
  obtain ⟨name, value⟩ := entry
  by_cases hname : name = Section.outputName
  · subst hname
    cases value with
    | scalar text => rfl
    | option key value => rfl
    | list items => exact fault?_addOutput song items
  · rw [addArrangement, if_neg hname, Entry.nodes, if_neg hname]
    cases value with
    | scalar text => rfl
    | option key value => rfl
    | list fields => exact Outcome.fault?_each (fault?_addPhraseField name) _ fields

theorem fault?_addGrid (name : String) (phrase : Phrase) (entry : Entry) :
    (addGrid name phrase entry).fault? = (entry.nodes (.phrase name)).findSome? Node.fault? := by
  obtain ⟨track, value⟩ := entry
  cases value with
  | list items => rfl
  | option key value => rfl
  | scalar glyphs =>
    have hglyphs := Grid.findSome?_glyphs name track [] glyphs.toList
    rw [Entry.nodes, List.findSome?_cons]
    refine Eq.trans ?_ hglyphs.symm
    rw [← Grid.read]
    unfold addGrid
    dsimp only
    cases Grid.read glyphs with
    | ok beats => rfl
    | error glyph => rfl

/-! ### Sections -/

/-- The fault of a section is that of its first faulty node, whatever the song. -/
theorem fault?_add (song : Song) (sec : Section) :
    (song.add sec).fault? = sec.nodes.findSome? Node.fault? := by
  rw [add, Section.nodes]
  cases Section.role sec.name with
  | samples => exact Outcome.fault?_each fault?_addSample song sec.entries
  | arrangement => exact Outcome.fault?_each fault?_addArrangement song sec.entries
  | phrase name => exact Outcome.fault?_each (fault?_addGrid name) _ sec.entries

end Song

/-- The sections without a faulty node are the valid ones. -/
theorem Section.findSome?_nodes_eq_none_iff {sec : Section} :
    sec.nodes.findSome? Node.fault? = none ↔ sec.Valid := by
  rw [← Song.fault?_add {} sec, Song.fault?_add_eq_none_iff]

instance : DecidablePred Section.Valid := fun _ =>
  decidable_of_iff _ Section.findSome?_nodes_eq_none_iff

/-! ### Engines -/

namespace Engine

/-- The engine after it was offered a section, whatever it answered. -/
def offer (engine : Engine) (sec : Section) : Engine :=
  match engine.addSection sec with
  | .ok next => next
  | .error _ => engine

/-- The engine after it was offered sections one after the other. -/
def offerAll (engine : Engine) (sections : List Section) : Engine := sections.foldl offer engine

theorem addSection_of_valid {sec : Section} (h : sec.Valid) (engine : Engine) :
    engine.addSection sec = .ok { engine with song := (engine.song.add sec).state } := by
  have hfault := (Song.fault?_add_eq_none_iff engine.song sec).2 h
  cases hadd : engine.song.add sec with
  | mk next fault? =>
    rw [hadd] at hfault
    obtain rfl : fault? = none := hfault
    simp only [addSection, Song.add?, hadd]

theorem addSection_eq_error_iff {engine : Engine} {sec : Section} {fault : Song.Fault} :
    engine.addSection sec = .error fault ↔ (engine.song.add sec).fault? = some fault := by
  cases hadd : engine.song.add sec with
  | mk next fault? =>
    cases fault? with
    | none => simp [addSection, Song.add?, hadd]
    | some other => simp [addSection, Song.add?, hadd]

theorem offer_of_valid {sec : Section} (h : sec.Valid) (engine : Engine) :
    engine.offer sec = { engine with song := (engine.song.add sec).state } := by
  rw [offer, addSection_of_valid h]

theorem offer_of_not_valid {sec : Section} (h : ¬sec.Valid) (engine : Engine) :
    engine.offer sec = engine := by
  cases hfault : (engine.song.add sec).fault? with
  | none => exact absurd ((Song.fault?_add_eq_none_iff engine.song sec).1 hfault) h
  | some fault => rw [offer, addSection_eq_error_iff.2 hfault]

/-- What an engine was offered leaves the song that the valid sections make. -/
theorem addAll_filter_valid (engine : Engine) (sections : List Section) :
    engine.song.addAll (sections.filter Section.Valid) = ⟨(engine.offerAll sections).song, none⟩ := by
  induction sections generalizing engine with
  | nil => rfl
  | cons sec sections ih =>
    have hrest := ih (engine.offer sec)
    by_cases hvalid : sec.Valid
    · rw [offer_of_valid hvalid] at hrest
      rw [List.filter_cons_of_pos (by simpa using hvalid), Song.addAll,
        Song.Outcome.each_cons_of_fault?_eq_none
          ((Song.fault?_add_eq_none_iff engine.song sec).2 hvalid)]
      rw [offerAll, List.foldl_cons, offer_of_valid hvalid]
      exact hrest
    · rw [offer_of_not_valid hvalid] at hrest
      rw [List.filter_cons_of_neg (by simpa using hvalid), offerAll, List.foldl_cons,
        offer_of_not_valid hvalid]
      exact hrest

theorem base_offerAll (engine : Engine) (sections : List Section) :
    (engine.offerAll sections).base = engine.base := by
  induction sections generalizing engine with
  | nil => rfl
  | cons sec sections ih =>
    rw [offerAll, List.foldl_cons]
    refine (ih (engine.offer sec)).trans ?_
    by_cases hvalid : sec.Valid
    · rw [offer_of_valid hvalid]
    · rw [offer_of_not_valid hvalid]

end Engine

namespace Song

/-- Adding a section fails exactly if the section is not valid, whatever the song, and then with the
fault of the first node in the order of the document with which something is wrong. An engine answers
the same, keeps what it was if a section fails, and so ends with the song that the valid sections
among those offered to it make without a fault. -/
theorem fault?_add_first :
    (∀ (song : Song) (sec : Section),
      ((song.add sec).fault? = none ↔ sec.Valid) ∧
      ∀ fault, (song.add sec).fault? = some fault ↔
        ∃ before node after, sec.nodes = before ++ node :: after ∧ node.fault? = some fault ∧
          ∀ earlier ∈ before, earlier.fault? = none) ∧
    (∀ glyphs, (Value.scalar glyphs).IsGrid ↔ ∀ c ∈ glyphs.toList, c ∈ Grid.alphabet) ∧
    ∀ engine : Engine,
      (∀ sec fault, engine.addSection sec = .error fault ↔
        (engine.song.add sec).fault? = some fault) ∧
      ∀ sections : List Section,
        engine.song.addAll (sections.filter Section.Valid) =
          ⟨(engine.offerAll sections).song, none⟩ ∧
        (engine.offerAll sections).base = engine.base := by
  refine ⟨fun song sec => ⟨fault?_add_eq_none_iff song sec, fun fault => ?_⟩, fun glyphs => ?_,
    fun engine => ⟨fun sec fault => Engine.addSection_eq_error_iff, fun sections =>
      ⟨engine.addAll_filter_valid sections, engine.base_offerAll sections⟩⟩⟩
  · rw [fault?_add, List.findSome?_eq_some_iff]
  · exact forall₂_congr fun c _ => Grid.mem_alphabet_iff.symm

end Song

end DrumMachine
