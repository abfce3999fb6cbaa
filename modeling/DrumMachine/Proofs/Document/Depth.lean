import DrumMachine.Proofs.Document.Reading
import Mathlib.Data.List.Induction

/-!
# Where the reader stands in a document

The reader stands inside as many lists as it has taken opening parentheses without their closing
ones, so it is in none whenever it comes to an entry. Together with the grammar this says which
documents are accepted, and that every token goes to the section, entry and list it stands in.
-/

namespace DrumMachine.Document

/-- The number of lists that are open, which the reader holds against `maxNesting`. -/
def Place.depth : Place → Nat
  | .items nest | .word nest _ | .optionValue nest _ => nest.depth
  | _ => 0

theorem Nest.depth_leave (nest : Nest) : nest.leave.depth + 1 = nest.depth := by
  obtain ⟨draft, entry, waiting, items⟩ := nest
  cases waiting with
  | nil => rfl
  | cons outer waiting => rfl

namespace Reader

theorem Step.depth_eq {reader next : Reader} {token : Token} (h : Step reader token next) :
    next.place.depth + [token].count .closeList = reader.place.depth + [token].count .openList := by
  induction h with
  | wordItem _ ih => exact ih
  | itemClose =>
    rw [Place.depth, ← Nest.depth_leave]
    simp
  | _ => simp [Place.depth, Nest.depth, Nest.enter, Nest.add]

/-- Lists that were opened and not closed are open. -/
theorem depth_of_feedAll {located : List Located} {reader next : Reader}
    (h : reader.feedAll located = .ok next) :
    next.place.depth + (located.map Located.token).count .closeList =
      reader.place.depth + (located.map Located.token).count .openList := by
  induction located generalizing reader with
  | nil =>
    obtain rfl := Except.ok.inj h
    rfl
  | cons found located ih =>
    rw [feedAll] at h
    split at h
    · rename_i mid hfeed
      have hrest := ih h
      have hstep := (step_of_feed hfeed).depth_eq
      rw [List.map_cons, ← List.singleton_append, List.count_append, List.count_append]
      omega
    · exact absurd h (by simp)

/-- Sections lead to the end of the last entry of the last one. -/
theorem reads_sections {sections : List Section} {sec : Section}
    (h : ∀ other ∈ sections, other.Readable) (hsec : sec.Readable) :
    Reads {} (sections.flatMap Section.tokens ++ sec.tokens)
      ⟨sections.reverse, .entries ⟨sec.name, sec.entries.reverse⟩⟩ := by
  induction sections using List.reverseRecOn generalizing sec with
  | nil => exact .cons ⟨[], .header⟩ (fun _ => rfl) (reads_section [] hsec)
  | append_singleton sections last ih =>
    have hlast := ih (fun other hother => h other (List.mem_append_left _ hother))
      (h last (List.mem_append_right _ (List.mem_singleton_self _)))
    have hopen : Reads ⟨sections.reverse, .entries ⟨last.name, last.entries.reverse⟩⟩ sec.tokens
        ⟨last :: sections.reverse, .entries ⟨sec.name, sec.entries.reverse⟩⟩ := by
      refine .cons ⟨last :: sections.reverse, .header⟩ (fun _ => ?_) (reads_section _ hsec)
      simp [feed, advance, completed, Except.map, Draft.toSection]
    simpa using hlast.append hopen

end Reader

theorem eq_of_tokens_eq {sections others : List Section} (h : ∀ sec ∈ sections, sec.Readable)
    (hothers : ∀ sec ∈ others, sec.Readable)
    (heq : sections.flatMap Section.tokens = others.flatMap Section.tokens) : sections = others := by
  let located := (sections.flatMap Section.tokens).map fun token => (⟨token, 1⟩ : Located)
  have htokens : located.map Located.token = sections.flatMap Section.tokens := by
    rw [List.map_map]
    exact List.map_id _
  have hread := readSections_eq_ok_iff.2 ⟨htokens, h⟩
  have hreadOther := readSections_eq_ok_iff.2 ⟨htokens.trans heq, hothers⟩
  exact Except.ok.inj (hread.symm.trans hreadOther)

/-- The tokens of a document in front of one entry of one section. -/
def tokensBefore (sections : List Section) (name : String) (entries : List Entry) : List Token :=
  sections.flatMap Section.tokens ++ Section.tokens ⟨name, entries⟩

theorem flatMap_tokens_split {sections after : List Section} {sec : Section}
    {entries rest : List Entry} {entry : Entry} (h : sec.entries = entries ++ entry :: rest) :
    (sections ++ sec :: after).flatMap Section.tokens =
      tokensBefore sections sec.name entries ++ (entry.tokens ++
        (rest.flatMap Entry.tokens ++ after.flatMap Section.tokens)) := by
  simp [tokensBefore, Section.tokens, h]

/-- A document is accepted exactly if its tokens spell readable sections, and then it stands for
these. Tokens spell the sections of one document only. Before each entry of each section the reader
has put every entry before it into its section, and no list is open. -/
theorem parse_eq_ok_iff_tokens (source : String) (sections : List Section) :
    (parse source = .ok sections ↔
      (∃ located, tokenize source = .ok located ∧
        located.map Located.token = sections.flatMap Section.tokens) ∧
      ∀ sec ∈ sections, sec.Readable) ∧
    (∀ others : List Section, (∀ sec ∈ sections, sec.Readable) → (∀ sec ∈ others, sec.Readable) →
      sections.flatMap Section.tokens = others.flatMap Section.tokens → sections = others) ∧
    (∀ located, tokenize source = .ok located → parse source = .ok sections →
      ∀ before sec after entries entry rest,
        sections = before ++ sec :: after → sec.entries = entries ++ entry :: rest →
        ∃ front back reader, located = front ++ back ∧
          front.map Located.token = tokensBefore before sec.name entries ∧
          Reader.feedAll {} front = .ok reader ∧
          reader = ⟨before.reverse, .entries ⟨sec.name, entries.reverse⟩⟩ ∧
          reader.place.depth = 0 ∧
          (front.map Located.token).count .openList =
            (front.map Located.token).count .closeList) := by
  refine ⟨?_, fun others h hothers heq => eq_of_tokens_eq h hothers heq, ?_⟩
  · rw [parse_eq_ok_iff, tokenize_iff_layout]
  · intro located htokenize hparse before sec after entries entry rest hsections hentries
    have hread : readSections located = .ok sections := by
      rwa [parse, htokenize] at hparse
    obtain ⟨htokens, hreadable⟩ := readSections_eq_ok_iff.1 hread
    rw [hsections, flatMap_tokens_split hentries] at htokens
    obtain ⟨front, back, rfl, hfront, -⟩ := List.map_eq_append_iff.1 htokens
    rw [hsections] at hreadable
    have hbefore : ∀ other ∈ before, other.Readable := fun other hother =>
      hreadable other (List.mem_append_left _ hother)
    have hsec : Section.Readable ⟨sec.name, entries⟩ := fun other hother =>
      hreadable sec (List.mem_append_right _ (List.mem_cons_self ..)) other
        (hentries ▸ List.mem_append_left _ hother)
    have hfeed := Reader.reads_sections hbefore hsec front hfront
    have hdepth := Reader.depth_of_feedAll hfeed
    refine ⟨front, back, _, rfl, hfront, hfeed, rfl, rfl, ?_⟩
    simp only [Place.depth, Nat.zero_add] at hdepth
    exact hdepth.symm

end DrumMachine.Document
