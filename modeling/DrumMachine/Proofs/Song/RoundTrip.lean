import DrumMachine.Proofs.Song.Rebuilt

/-!
# Which songs survive being written

The document written for a song declares that song again exactly if the song is `Writable`. Such a
song, with no effect running, is one that a document can declare, and its phrase named like the order
of play, if there is one, has grids.
-/

namespace DrumMachine

open Document (Legible maxNesting)

/-- The texts of a sample's declaration. -/
def Sample.texts (sample : Sample) : List String :=
  sample.path :: sample.effect.name :: (sample.effect.params.map Value.texts).getD []

theorem Sample.Declared.legible {sample : Sample} (h : sample.Declared) :
    ∀ text ∈ sample.texts, Legible text := by
  intro text htext
  rcases List.mem_cons.1 htext with rfl | htext
  · exact h.path
  · rcases List.mem_cons.1 htext with rfl | htext
    · exact h.effect
    · cases htree : sample.effect.params with
      | none => simp [htree] at htext
      | some tree =>
        rw [htree] at htext
        exact (h.params tree htree).legible text htext

theorem Sample.declaresSame_iff {left right : Sample} :
    left.declaresSame right = true ↔ left.unbound = right.unbound := by
  obtain ⟨path, volume, effect, params, running⟩ := left
  obtain ⟨path', volume', effect', params', running'⟩ := right
  simp [Sample.declaresSame, Sample.unbound, Effect.Binding.declaresSame, Effect.Binding.unbound,
    and_assoc]

namespace Song

/-- All names and scalars of a song. -/
def texts (song : Song) : List String :=
  (song.samples.entries.flatMap fun entry => entry.1 :: entry.2.texts) ++
    (song.phrases.entries.flatMap fun entry => entry.1 :: entry.2.beats.names) ++ song.output

/-- The tree is the parameters of a sample's effect. -/
def HasParameters (song : Song) (tree : Value) : Prop :=
  ∃ name sample, song.samples.get? name = some sample ∧ sample.effect.params = some tree

/-- The song comes back from the document written for it. -/
structure Writable (song : Song) : Prop where
  legible : ∀ text ∈ song.texts, Legible text
  reserved : ∀ name ∈ [Section.samplesName, Section.arrangementName],
    ∀ phrase, song.phrases.get? name = some phrase → phrase.beats = ∅
  output : ∀ phrase, song.phrases.get? Section.outputName = some phrase →
    phrase.bpm = 120 ∧ phrase.beats ≠ ∅
  namedOnce : ∀ tree, song.HasParameters tree → tree.kind ≠ .option ∧ tree.NamedOnce
  nesting_le : ∀ tree, song.HasParameters tree → tree.nesting ≤ 255

variable {song : Song}

/-! ### Songs without running effects -/

theorem unbound_get? (song : Song) (name : String) :
    song.unbound.samples.get? name = (song.samples.get? name).map Sample.unbound :=
  NameTable.get?_map _ song.samples name

theorem unbound_write (song : Song) : song.unbound.write = song.write := by
  have hsamples : song.unbound.samplesSection = song.samplesSection := by
    simp only [samplesSection, unbound, NameTable.map, List.map_map]
    rfl
  simp only [write, hsamples]
  rfl

theorem unbound_eq_self (h : song.Declared) : song.unbound = song := by
  have hsamples : song.unbound.samples = song.samples := by
    refine NameTable.ext_get? fun name => ?_
    rw [unbound_get?]
    cases hget : song.samples.get? name with
    | none => rfl
    | some sample =>
      obtain ⟨path, volume, effect, params, running⟩ := sample
      obtain rfl : running = none := (h.samples name _ hget).2.idle
      rfl
  rw [unbound] at hsamples ⊢
  simp only at hsamples
  rw [hsamples]

theorem entries_declareSame_iff (left right : List (String × Sample)) :
    (left.map (·.1) = right.map (·.1) ∧ ((left.map (·.2)).zip (right.map (·.2))).all
        (fun pair => pair.1.declaresSame pair.2) = true) ↔
      left.map (fun entry => (entry.1, entry.2.unbound)) =
        right.map (fun entry => (entry.1, entry.2.unbound)) := by
  induction left generalizing right with
  | nil => cases right <;> simp
  | cons entry left ih =>
    cases right with
    | nil => simp
    | cons entry' right =>
      have hrest := ih right
      simp only [List.map_cons, List.zip_cons_cons, List.all_cons, List.cons.injEq,
        Bool.and_eq_true, Sample.declaresSame_iff, Prod.mk.injEq, ← hrest]
      constructor
      · rintro ⟨⟨hname, hnames⟩, hsample, hsamples⟩
        exact ⟨⟨hname, hsample⟩, hnames, hsamples⟩
      · rintro ⟨⟨hname, hsample⟩, hnames, hsamples⟩
        exact ⟨⟨hname, hnames⟩, hsample, hsamples⟩

theorem declaresSame_iff {left right : Song} :
    left.declaresSame right = true ↔ left.unbound = right.unbound := by
  have hsamples : left.unbound.samples = right.unbound.samples ↔
      left.unbound.samples.entries = right.unbound.samples.entries :=
    ⟨congrArg NameTable.entries, NameTable.ext_entries⟩
  have hentries := entries_declareSame_iff left.samples.entries right.samples.entries
  have hunbound : left.unbound = right.unbound ↔ left.unbound.samples = right.unbound.samples ∧
      left.phrases = right.phrases ∧ left.output = right.output := by
    rw [unbound, unbound, Song.mk.injEq]
  rw [hunbound, hsamples]
  simp only [unbound, NameTable.map, ← hentries, declaresSame, NameTable.names, NameTable.values,
    Bool.and_eq_true, beq_iff_eq, and_assoc]

/-! ### Writable songs -/

theorem texts_of_samples {name : String} {sample : Sample}
    (h : song.samples.get? name = some sample) :
    ∀ text ∈ name :: sample.texts, text ∈ song.texts := by
  intro text htext
  refine List.mem_append_left _ (List.mem_append_left _ ?_)
  exact List.mem_flatMap.2 ⟨(name, sample), NameTable.get?_eq_some_iff.1 h, htext⟩

theorem texts_of_phrases {name : String} {phrase : Phrase}
    (h : song.phrases.get? name = some phrase) :
    ∀ text ∈ name :: phrase.beats.names, text ∈ song.texts := by
  intro text htext
  refine List.mem_append_left _ (List.mem_append_right _ ?_)
  exact List.mem_flatMap.2 ⟨(name, phrase), NameTable.get?_eq_some_iff.1 h, htext⟩

theorem role_ne_phrase_iff {name : String} :
    Section.role name ≠ .phrase name ↔ name ∈ [Section.samplesName, Section.arrangementName] := by
  unfold Section.role
  split
  · rename_i hname
    simp [hname]
  · rename_i hsamples
    split
    · rename_i hname
      simp [hname]
    · rename_i harrangement
      simp [hsamples, harrangement]

theorem declared_unbound (h : song.Writable) : song.unbound.Declared := by
  refine ⟨fun name sample hget => ?_, fun name phrase hget => ?_, fun name hname =>
    h.legible name (List.mem_append_right _ hname)⟩
  · rw [unbound_get?, Option.map_eq_some_iff] at hget
    obtain ⟨bound, hbound, rfl⟩ := hget
    have hlegible := fun text htext => h.legible text (texts_of_samples hbound text htext)
    refine ⟨hlegible name (by simp), ⟨hlegible _ (by simp [Sample.texts, Sample.unbound]),
      hlegible _ (by simp [Sample.texts, Sample.unbound, Effect.Binding.unbound]),
      fun tree htree => ?_, rfl⟩⟩
    have htree : bound.effect.params = some tree := htree
    have hhas : song.HasParameters tree := ⟨name, bound, hbound, htree⟩
    have ⟨hkind, honce⟩ := h.namedOnce tree hhas
    have hnesting := h.nesting_le tree hhas
    refine ⟨fun text htext => hlegible text ?_, hkind, honce, by rw [maxNesting]; omega⟩
    simp [Sample.texts, htree, htext]
  · have hget : song.phrases.get? name = some phrase := hget
    have hlegible := fun text htext => h.legible text (texts_of_phrases hget text htext)
    refine ⟨hlegible name (by simp), ⟨fun track beats hbeats => hlegible track ?_, fun hrole => ?_,
      fun hname => ?_⟩⟩
    · exact List.mem_cons_of_mem _ (List.mem_map.2
        ⟨(track, beats), NameTable.get?_eq_some_iff.1 hbeats, rfl⟩)
    · exact h.reserved name (role_ne_phrase_iff.1 hrole) phrase hget
    · subst hname
      exact (h.output phrase hget).1

theorem withoutEmptyOutput_eq_self_iff :
    song.withoutEmptyOutput = song ↔
      ∀ phrase, song.phrases.get? Section.outputName = some phrase → phrase.beats ≠ ∅ := by
  have hget : ∀ name, song.withoutEmptyOutput.phrases.get? name =
      (song.phrases.get? name).filter
        fun phrase => !(name == Section.outputName && phrase.beats.isEmpty) :=
    fun name => NameTable.get?_filter _ song.phrases name
  constructor
  · intro h phrase hphrase hempty
    have hsome := hget Section.outputName
    rw [h, hphrase, Option.filter_some, if_neg (by simp [NameTable.isEmpty_iff.2 hempty])] at hsome
    exact absurd hsome (Option.some_ne_none _)
  · intro h
    have hphrases : song.withoutEmptyOutput.phrases = song.phrases := by
      refine NameTable.ext_get? fun name => ?_
      rw [hget]
      cases hphrase : song.phrases.get? name with
      | none => rfl
      | some phrase =>
        refine if_pos ?_
        rw [Bool.not_eq_true', Bool.and_eq_false_iff, beq_eq_false_iff_ne]
        by_cases hname : name = Section.outputName
        · subst hname
          exact .inr (Bool.eq_false_iff.2 fun hempty =>
            h phrase hphrase (NameTable.isEmpty_iff.1 hempty))
        · exact .inl hname
    rw [withoutEmptyOutput] at hphrases ⊢
    simp only at hphrases
    rw [hphrases]

theorem legible_of_mem_texts (h : song.Declared) : ∀ text ∈ song.texts, Legible text := by
  intro text htext
  rcases List.mem_append.1 htext with htext | htext
  · rcases List.mem_append.1 htext with htext | htext
    · obtain ⟨⟨name, sample⟩, hmem, htext⟩ := List.mem_flatMap.1 htext
      have ⟨hname, hsample⟩ := h.samples name sample (NameTable.get?_eq_some_iff.2 hmem)
      rcases List.mem_cons.1 htext with rfl | htext
      · exact hname
      · exact hsample.legible text htext
    · obtain ⟨⟨name, phrase⟩, hmem, htext⟩ := List.mem_flatMap.1 htext
      have ⟨hname, hphrase⟩ := h.phrases name phrase (NameTable.get?_eq_some_iff.2 hmem)
      rcases List.mem_cons.1 htext with rfl | htext
      · exact hname
      · obtain ⟨⟨track, beats⟩, hbeats, rfl⟩ := List.mem_map.1 htext
        exact hphrase.legible track beats (NameTable.get?_eq_some_iff.2 hbeats)
  · exact h.output text htext

theorem unbound_texts (song : Song) : song.unbound.texts = song.texts := by
  simp only [texts, unbound, NameTable.map, List.flatMap_map]
  rfl

theorem writable_of_declared (h : song.unbound.Declared)
    (houtput : song.withoutEmptyOutput = song) : song.Writable := by
  have hsamples : ∀ name sample, song.samples.get? name = some sample →
      sample.unbound.Declared := fun name sample hget =>
    (h.samples name sample.unbound (by rw [unbound_get?, hget]; rfl)).2
  refine ⟨fun text htext => ?_, fun name hname phrase hget => ?_, fun phrase hget => ?_, ?_, ?_⟩
  · rw [← unbound_texts] at htext
    exact legible_of_mem_texts h text htext
  · exact (h.phrases name phrase hget).2.reserved (role_ne_phrase_iff.2 hname)
  · exact ⟨(h.phrases _ phrase hget).2.output rfl,
      withoutEmptyOutput_eq_self_iff.1 houtput phrase hget⟩
  · rintro tree ⟨name, sample, hget, htree⟩
    have hparams := (hsamples name sample hget).params tree htree
    exact ⟨hparams.kind_ne, hparams.fits.namedOnce⟩
  · rintro tree ⟨name, sample, hget, htree⟩
    have hnesting := ((hsamples name sample hget).params tree htree).fits.nesting_le
    rw [maxNesting] at hnesting
    omega

theorem exists_compile_write_iff (song : Song) :
    (∃ read, compile song.write = .ok read ∧ read.declaresSame song = true) ↔ song.Writable := by
  constructor
  · rintro ⟨read, hcompile, hsame⟩
    have hdeclared := declared_of_compile hcompile
    have hread : song.unbound = read := by
      rw [← declaresSame_iff.1 hsame, unbound_eq_self hdeclared]
    -- what was read is written as the same document, so it is read again
    have hwritten := compile_write hdeclared
    rw [← hread, unbound_write, hcompile, ← hread] at hwritten
    have houtput := withoutEmptyOutput_eq_self_iff.1 (Except.ok.inj hwritten).symm
    exact writable_of_declared (hread ▸ hdeclared) (withoutEmptyOutput_eq_self_iff.2 houtput)
  · intro h
    have hdeclared := declared_unbound h
    have houtput : song.unbound.withoutEmptyOutput = song.unbound :=
      withoutEmptyOutput_eq_self_iff.2 fun phrase hget => (h.output phrase hget).2
    have hwritten := compile_write hdeclared
    rw [unbound_write, houtput] at hwritten
    refine ⟨song.unbound, hwritten, declaresSame_iff.2 ?_⟩
    exact unbound_eq_self hdeclared

end Song

end DrumMachine
