import DrumMachine.Proofs.NameTable
import DrumMachine.Song.Builder

/-!
# What sections say about a song

Read as declarations, sections say for each sample what was given last for each of its fields, for
each phrase its last tempo and all the glyphs of each track, and which phrases are played after the
others (`Song.Reading`). What they say depends neither on the order in which the fields of a sample
follow each other nor on how entries are spread over sections, so readings compose
(`Song.Reading.append`), and they leave no choice (`Song.Reading.unique`).
-/

namespace DrumMachine

namespace Value

/-- The items of a list; other values have none. -/
def items : Value → List Value
  | .list items => items
  | _ => []

/-- The value that an item gives for a setting, if it is an option of that name. -/
def setting? (key : String) : Value → Option Value
  | .option name value => if name = key then some value else none
  | _ => none

/-- The beats that a value writes, glyph by glyph. -/
def beats : Value → List Beat
  | .scalar glyphs => glyphs.toList.filterMap Beat.ofGlyph?
  | _ => []

/-- The phrases that a value names. -/
def order : Value → List String
  | .scalar name => [name]
  | .list items => items.filterMap scalar?
  | .option _ _ => []

/-- The value given last for a setting. -/
def last? (key : String) (fields : List Value) : Option Value :=
  (fields.filterMap (setting? key)).getLast?

/-- The text given last for a setting. -/
def lastText? (key : String) (fields : List Value) : Option String :=
  (fields.filterMap fun field => (field.setting? key).bind scalar?).getLast?

/-- The number given last for a setting. -/
def lastNumber? (key : String) (fields : List Value) : Option Int32 :=
  (lastText? key fields).map Text.lenientInt

theorem last?_append (key : String) (fields more : List Value) :
    last? key (fields ++ more) = (last? key more).or (last? key fields) := by
  rw [last?, List.filterMap_append, List.getLast?_append]
  rfl

theorem lastText?_append (key : String) (fields more : List Value) :
    lastText? key (fields ++ more) = (lastText? key more).or (lastText? key fields) := by
  rw [lastText?, List.filterMap_append, List.getLast?_append]
  rfl

@[simp] theorem lastNumber?_nil (key : String) : lastNumber? key [] = none := rfl

theorem lastNumber?_append (key : String) (fields more : List Value) :
    lastNumber? key (fields ++ more) = (lastNumber? key more).or (lastNumber? key fields) := by
  rw [lastNumber?, lastText?_append, Option.map_or]
  rfl

theorem getD_getD {α : Type} (last first : Option α) (fill : α) :
    last.getD (first.getD fill) = (last.or first).getD fill := by
  cases last with
  | none => rfl
  | some value => rfl

end Value

/-- What stands under one name in some entries, in order. -/
def Entry.under (name : String) (entries : List Entry) : List Value :=
  (entries.filter fun entry => entry.name = name).map Entry.value

/-- The items of all lists that stand under one name. -/
def Entry.fieldsUnder (name : String) (entries : List Entry) : List Value :=
  (Entry.under name entries).flatMap Value.items

@[simp] theorem Entry.under_nil (name : String) : Entry.under name [] = [] := rfl

@[simp] theorem Entry.fieldsUnder_nil (name : String) : Entry.fieldsUnder name [] = [] := rfl

theorem Entry.under_append (name : String) (entries more : List Entry) :
    Entry.under name (entries ++ more) = Entry.under name entries ++ Entry.under name more := by
  simp [Entry.under]

theorem Entry.fieldsUnder_append (name : String) (entries more : List Entry) :
    Entry.fieldsUnder name (entries ++ more) =
      Entry.fieldsUnder name entries ++ Entry.fieldsUnder name more := by
  simp [Entry.fieldsUnder, Entry.under_append]

namespace Section

/-- The entries of all sections that have a role, in the order of the document. -/
def entriesIn (role : Role) (sections : List Section) : List Entry :=
  (sections.filter fun sec => Section.role sec.name = role).flatMap Section.entries

/-- The entries that declare phrases with their tempos. -/
def tempoEntries (sections : List Section) : List Entry :=
  (entriesIn .arrangement sections).filter fun entry => entry.name ≠ outputName

/-- The entries that give the order of play. -/
def orderEntries (sections : List Section) : List Entry :=
  (entriesIn .arrangement sections).filter fun entry => entry.name = outputName

theorem entriesIn_append (role : Role) (sections more : List Section) :
    entriesIn role (sections ++ more) = entriesIn role sections ++ entriesIn role more := by
  simp [entriesIn]

theorem tempoEntries_append (sections more : List Section) :
    tempoEntries (sections ++ more) = tempoEntries sections ++ tempoEntries more := by
  simp [tempoEntries, entriesIn_append]

theorem orderEntries_append (sections more : List Section) :
    orderEntries (sections ++ more) = orderEntries sections ++ orderEntries more := by
  simp [orderEntries, entriesIn_append]

end Section

namespace Sample

/-- The sample with each field as it is given last; what is not given stays. A sample for which an
effect or its parameters are given has no effect running. -/
def withFields (sample : Sample) (fields : List Value) : Sample where
  path := (Value.lastText? "path" fields).getD sample.path
  volume := (Value.lastNumber? "volume" fields).getD sample.volume
  effect :=
    { name := (Value.lastText? "stereo" fields).getD sample.effect.name
      params := (Value.last? "params" fields).or sample.effect.params
      running :=
        if (Value.lastText? "stereo" fields).isSome || (Value.last? "params" fields).isSome then none
        else sample.effect.running }

@[simp] theorem withFields_nil (sample : Sample) : sample.withFields [] = sample := rfl

theorem withFields_append (sample : Sample) (fields more : List Value) :
    sample.withFields (fields ++ more) = (sample.withFields fields).withFields more := by
  unfold withFields
  simp only [Value.lastText?_append, Value.lastNumber?_append, Value.last?_append, Value.getD_getD,
    Option.or_assoc, Option.isSome_or]
  congr 2
  -- an effect is left running by both lists together exactly if each of them leaves it
  cases (Value.lastText? "stereo" more).isSome <;> cases (Value.last? "params" more).isSome <;>
    simp

end Sample

/-- A grid with everything appended that is given for its track; a track for which nothing is given
gets none. -/
def Grid.extended (grid? : Option (List Beat)) (given : List Value) : Option (List Beat) :=
  if given = [] then grid? else some (grid?.getD [] ++ given.flatMap Value.beats)

@[simp] theorem Grid.extended_nil (grid? : Option (List Beat)) : Grid.extended grid? [] = grid? := rfl

theorem Grid.extended_append (grid? : Option (List Beat)) (given more : List Value) :
    Grid.extended grid? (given ++ more) = Grid.extended (Grid.extended grid? given) more := by
  unfold Grid.extended
  by_cases hmore : more = []
  · simp [hmore]
  · by_cases hgiven : given = []
    · simp [hgiven]
    · simp [hgiven, hmore]

namespace Song

/-- The sample of a name, or the one that is declared if nothing is said of it. -/
def sampleAt (song : Song) (name : String) : Sample := (song.samples.get? name).getD {}

/-- The phrase of a name, or the one that is declared if nothing is said of it. -/
def phraseAt (song : Song) (name : String) : Phrase := (song.phrases.get? name).getD {}

/-- What sections that are added to a song say of the song with them. -/
structure Reading (song : Song) (sections : List Section) (next : Song) : Prop where
  samples : ∀ name, next.samples.contains name = true ↔ song.samples.contains name = true ∨
    ∃ entry ∈ Section.entriesIn .samples sections, entry.name = name
  sample : ∀ name, next.sampleAt name =
    (song.sampleAt name).withFields (Entry.fieldsUnder name (Section.entriesIn .samples sections))
  phrases : ∀ name, next.phrases.contains name = true ↔ song.phrases.contains name = true ∨
    (∃ entry ∈ Section.tempoEntries sections, entry.name = name) ∨
    ∃ sec ∈ sections, Section.role sec.name = .phrase name
  bpm : ∀ name, (next.phraseAt name).bpm =
    (Value.lastNumber? "bpm" (Entry.fieldsUnder name (Section.tempoEntries sections))).getD
      (song.phraseAt name).bpm
  beats : ∀ name track, (next.phraseAt name).beats.get? track =
    Grid.extended ((song.phraseAt name).beats.get? track)
      (Entry.under track (Section.entriesIn (.phrase name) sections))
  output : next.output =
    song.output ++ (Section.orderEntries sections).flatMap fun entry => entry.value.order

namespace Reading

variable {song mid next other : Song} {sections more : List Section}

/-- Sections say the same if they say the same in each role. -/
theorem congr (h : Reading song sections next)
    (hentries : ∀ role, Section.entriesIn role sections = Section.entriesIn role more)
    (hphrases : ∀ name, (∃ sec ∈ sections, Section.role sec.name = .phrase name) ↔
      ∃ sec ∈ more, Section.role sec.name = .phrase name) : Reading song more next := by
  have htempo : Section.tempoEntries sections = Section.tempoEntries more := by
    rw [Section.tempoEntries, hentries, Section.tempoEntries]
  have horder : Section.orderEntries sections = Section.orderEntries more := by
    rw [Section.orderEntries, hentries, Section.orderEntries]
  refine ⟨?_, ?_, ?_, ?_, ?_, ?_⟩
  · simpa only [hentries] using h.samples
  · simpa only [hentries] using h.sample
  · simpa only [htempo, hphrases] using h.phrases
  · simpa only [htempo] using h.bpm
  · simpa only [hentries] using h.beats
  · simpa only [horder] using h.output

theorem nil (song : Song) : Reading song [] song where
  samples name := by simp [Section.entriesIn]
  sample name := by simp [Section.entriesIn]
  phrases name := by simp [Section.tempoEntries, Section.entriesIn]
  bpm name := by simp [Section.tempoEntries, Section.entriesIn]
  beats name track := by simp [Section.entriesIn]
  output := by simp [Section.orderEntries, Section.entriesIn]

theorem append (h : Reading song sections mid) (hmore : Reading mid more next) :
    Reading song (sections ++ more) next := by
  refine ⟨fun name => ?_, fun name => ?_, fun name => ?_, fun name => ?_, fun name track => ?_, ?_⟩
  · rw [hmore.samples, h.samples, Section.entriesIn_append]
    simp only [List.mem_append, or_and_right, exists_or, or_assoc]
  · rw [hmore.sample, h.sample, Section.entriesIn_append, Entry.fieldsUnder_append,
      Sample.withFields_append]
  · rw [hmore.phrases, h.phrases, Section.tempoEntries_append]
    simp only [List.mem_append, or_and_right, exists_or]
    rw [or_assoc, or_or_or_comm]
  · rw [hmore.bpm, h.bpm, Section.tempoEntries_append, Entry.fieldsUnder_append,
      Value.lastNumber?_append, Value.getD_getD]
  · rw [hmore.beats, h.beats, Section.entriesIn_append, Entry.under_append, Grid.extended_append]
  · rw [hmore.output, h.output, Section.orderEntries_append, List.flatMap_append, List.append_assoc]

/-- There is only one song of which the sections say what they say. -/
theorem unique (h : Reading song sections next) (hother : Reading song sections other) :
    next = other := by
  have hsamples : next.samples = other.samples := by
    refine NameTable.ext_getD {} (fun name => ?_) fun name => ?_
    · rw [h.samples, hother.samples]
    · exact (h.sample name).trans (hother.sample name).symm
  have hphrases : next.phrases = other.phrases := by
    refine NameTable.ext_getD {} (fun name => ?_) fun name => ?_
    · rw [h.phrases, hother.phrases]
    · have hbpm := (h.bpm name).trans (hother.bpm name).symm
      have hbeats : (next.phraseAt name).beats = (other.phraseAt name).beats :=
        NameTable.ext_get? fun track => (h.beats name track).trans (hother.beats name track).symm
      show next.phraseAt name = other.phraseAt name
      cases hphrase : next.phraseAt name with
      | mk bpm beats =>
        rw [hphrase] at hbpm hbeats
        obtain rfl : bpm = (other.phraseAt name).bpm := hbpm
        obtain rfl : beats = (other.phraseAt name).beats := hbeats
        rfl
  have houtput : next.output = other.output := h.output.trans hother.output.symm
  obtain ⟨samples, phrases, output⟩ := next
  obtain rfl : samples = other.samples := hsamples
  obtain rfl : phrases = other.phrases := hphrases
  obtain rfl : output = other.output := houtput
  rfl

end Reading

end Song

end DrumMachine
