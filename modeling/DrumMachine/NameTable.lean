/-!
# Tables indexed by names

Samples, phrases and the grids of a phrase are looked up by name and listed in the order of their
names, character by character. A `NameTable` keeps its entries in that order with each name once, so
two tables that answer every lookup alike are equal (`NameTable.ext_get?`).
-/

namespace DrumMachine

universe u v

/-- Values listed under distinct names in increasing order. -/
structure NameTable (α : Type u) where
  entries : List (String × α)
  increasing : entries.Pairwise fun a b => a.1 < b.1

namespace NameTable

variable {α : Type u} {β : Type v}

def empty : NameTable α := ⟨[], .nil⟩

instance : EmptyCollection (NameTable α) := ⟨empty⟩
instance : Inhabited (NameTable α) := ⟨empty⟩

/-- Change the value under one name of an ordered list, or put a new one in its place. -/
def place (name : String) (change : Option α → α) : List (String × α) → List (String × α)
  | [] => [(name, change none)]
  | entry :: rest =>
    if name < entry.1 then (name, change none) :: entry :: rest
    else if name = entry.1 then (name, change (some entry.2)) :: rest
    else entry :: place name change rest

theorem fst_of_mem_place {name : String} {change : Option α → α} {entry : String × α} :
    ∀ {entries : List (String × α)}, entry ∈ place name change entries →
      entry.1 = name ∨ ∃ old ∈ entries, old.1 = entry.1
  | [], h => by
    simp only [place, List.mem_singleton] at h
    exact .inl (by rw [h])
  | first :: rest, h => by
    simp only [place] at h
    split at h
    · rcases List.mem_cons.1 h with rfl | h
      · exact .inl rfl
      · exact .inr ⟨entry, h, rfl⟩
    · split at h
      · rcases List.mem_cons.1 h with rfl | h
        · exact .inl rfl
        · exact .inr ⟨entry, List.mem_cons_of_mem _ h, rfl⟩
      · rcases List.mem_cons.1 h with rfl | h
        · exact .inr ⟨entry, List.mem_cons_self .., rfl⟩
        · rcases fst_of_mem_place h with h | ⟨old, hold, heq⟩
          · exact .inl h
          · exact .inr ⟨old, List.mem_cons_of_mem _ hold, heq⟩

theorem lt_of_not_lt_of_ne {a b : String} (hlt : ¬a < b) (hne : a ≠ b) : b < a := by
  rcases String.le_total a b with h | h
  · exact absurd (String.le_antisymm h (String.not_lt.1 hlt)) hne
  · exact String.not_le.1 fun hab => hne (String.le_antisymm hab h)

theorem increasing_place (name : String) (change : Option α → α) :
    ∀ {entries : List (String × α)}, entries.Pairwise (fun a b => a.1 < b.1) →
      (place name change entries).Pairwise fun a b => a.1 < b.1
  | [], _ => List.pairwise_singleton _ _
  | first :: rest, h => by
    have ⟨hfirst, hrest⟩ := List.pairwise_cons.1 h
    simp only [place]
    split
    · rename_i hlt
      refine List.pairwise_cons.2 ⟨fun entry hentry => ?_, h⟩
      rcases List.mem_cons.1 hentry with rfl | hentry
      · exact hlt
      · exact String.lt_trans hlt (hfirst entry hentry)
    · rename_i hlt
      split
      · rename_i heq
        exact List.pairwise_cons.2 ⟨fun entry hentry => heq ▸ hfirst entry hentry, hrest⟩
      · rename_i hne
        refine List.pairwise_cons.2 ⟨fun entry hentry => ?_, increasing_place name change hrest⟩
        rcases fst_of_mem_place hentry with heq | ⟨old, hold, heq⟩
        · exact heq ▸ lt_of_not_lt_of_ne hlt hne
        · exact heq ▸ hfirst old hold

/-- The table with the value under `name` changed; `change` is given `none` where there is no value
yet. -/
def alter (table : NameTable α) (name : String) (change : Option α → α) : NameTable α :=
  ⟨place name change table.entries, increasing_place name change table.increasing⟩

/-- The table with `value` under `name`, whatever was there. -/
def insert (table : NameTable α) (name : String) (value : α) : NameTable α :=
  table.alter name fun _ => value

def get? (table : NameTable α) (name : String) : Option α := table.entries.lookup name

def contains (table : NameTable α) (name : String) : Bool := (table.get? name).isSome

def size (table : NameTable α) : Nat := table.entries.length

def isEmpty (table : NameTable α) : Bool := table.entries.isEmpty

def names (table : NameTable α) : List String := table.entries.map (·.1)

def values (table : NameTable α) : List α := table.entries.map (·.2)

/-- The later of two values given for one name counts. -/
def ofList (entries : List (String × α)) : NameTable α :=
  entries.foldl (fun table entry => table.insert entry.1 entry.2) ∅

def map (f : String → α → β) (table : NameTable α) : NameTable β :=
  ⟨table.entries.map fun entry => (entry.1, f entry.1 entry.2),
    List.pairwise_map.2 table.increasing⟩

/-! ### Lookup -/

@[simp] theorem get?_empty (name : String) : (∅ : NameTable α).get? name = none := rfl

theorem lookup_cons_of_eq {name : String} {entry : String × α} (rest : List (String × α))
    (heq : name = entry.1) : (entry :: rest).lookup name = some entry.2 := by
  obtain ⟨key, value⟩ := entry
  subst heq
  exact List.lookup_cons_self

theorem lookup_cons_of_ne {name : String} {entry : String × α} (rest : List (String × α))
    (hne : name ≠ entry.1) : (entry :: rest).lookup name = rest.lookup name := by
  obtain ⟨key, value⟩ := entry
  rw [List.lookup_cons, beq_eq_false_iff_ne.2 hne]

theorem lookup_eq_none {name : String} :
    ∀ {entries : List (String × α)}, (∀ entry ∈ entries, name < entry.1) →
      entries.lookup name = none
  | [], _ => rfl
  | entry :: rest, h => by
    have hne : name ≠ entry.1 := fun heq =>
      String.lt_irrefl name (by simpa [← heq] using h entry (List.mem_cons_self ..))
    rw [lookup_cons_of_ne rest hne]
    exact lookup_eq_none fun other hother => h other (List.mem_cons_of_mem _ hother)

theorem lookup_place_self (name : String) (change : Option α → α) :
    ∀ {entries : List (String × α)}, entries.Pairwise (fun a b => a.1 < b.1) →
      (place name change entries).lookup name = some (change (entries.lookup name))
  | [], _ => lookup_cons_of_eq [] rfl
  | first :: rest, h => by
    have ⟨hfirst, hrest⟩ := List.pairwise_cons.1 h
    simp only [place]
    split
    · rename_i hlt
      have hnone : (first :: rest).lookup name = none := lookup_eq_none fun entry hentry => by
        rcases List.mem_cons.1 hentry with rfl | hentry
        · exact hlt
        · exact String.lt_trans hlt (hfirst entry hentry)
      rw [hnone]
      exact lookup_cons_of_eq _ rfl
    · split
      · rename_i heq
        rw [lookup_cons_of_eq rest heq]
        exact lookup_cons_of_eq rest rfl
      · rename_i hne
        rw [lookup_cons_of_ne _ hne, lookup_cons_of_ne rest hne]
        exact lookup_place_self name change hrest

theorem lookup_place_of_ne {name other : String} (change : Option α → α) (hne : other ≠ name) :
    ∀ {entries : List (String × α)}, (place name change entries).lookup other =
      entries.lookup other
  | [] => lookup_cons_of_ne [] hne
  | first :: rest => by
    simp only [place]
    split
    · exact lookup_cons_of_ne _ hne
    · split
      · rename_i heq
        rw [lookup_cons_of_ne rest hne, lookup_cons_of_ne rest (heq ▸ hne)]
      · by_cases heq : other = first.1
        · rw [lookup_cons_of_eq _ heq, lookup_cons_of_eq rest heq]
        · rw [lookup_cons_of_ne _ heq, lookup_cons_of_ne rest heq]
          exact lookup_place_of_ne change hne

@[simp] theorem get?_alter_self (table : NameTable α) (name : String) (change : Option α → α) :
    (table.alter name change).get? name = some (change (table.get? name)) :=
  lookup_place_self name change table.increasing

theorem get?_alter_of_ne (table : NameTable α) {name other : String} (change : Option α → α)
    (hne : other ≠ name) : (table.alter name change).get? other = table.get? other :=
  lookup_place_of_ne change hne

@[simp] theorem get?_insert_self (table : NameTable α) (name : String) (value : α) :
    (table.insert name value).get? name = some value :=
  get?_alter_self ..

theorem get?_insert_of_ne (table : NameTable α) {name other : String} (value : α)
    (hne : other ≠ name) : (table.insert name value).get? other = table.get? other :=
  get?_alter_of_ne _ _ hne

/-- The first names of two tables that answer alike are not in increasing order. -/
theorem not_lt_of_lookup_eq {x y : String × α} {xs ys : List (String × α)}
    (hy : ∀ entry ∈ ys, y.1 < entry.1)
    (h : ∀ name, (x :: xs).lookup name = (y :: ys).lookup name) : ¬x.1 < y.1 := by
  intro hlt
  have hnone : (y :: ys).lookup x.1 = none := lookup_eq_none fun entry hentry => by
    rcases List.mem_cons.1 hentry with rfl | hentry
    · exact hlt
    · exact String.lt_trans hlt (hy entry hentry)
  have hsome := h x.1
  rw [hnone, lookup_cons_of_eq xs rfl] at hsome
  exact Option.some_ne_none _ hsome

theorem entries_eq_of_lookup_eq {left right : List (String × α)}
    (hleft : left.Pairwise fun a b => a.1 < b.1) (hright : right.Pairwise fun a b => a.1 < b.1)
    (h : ∀ name, left.lookup name = right.lookup name) : left = right := by
  induction left generalizing right with
  | nil =>
    cases right with
    | nil => rfl
    | cons b bs =>
      have hsome := h b.1
      rw [lookup_cons_of_eq bs rfl] at hsome
      exact absurd hsome.symm (Option.some_ne_none _)
  | cons a as ih =>
    cases right with
    | nil =>
      have hsome := h a.1
      rw [lookup_cons_of_eq as rfl] at hsome
      exact absurd hsome (Option.some_ne_none _)
    | cons b bs =>
      have ⟨ha, has⟩ := List.pairwise_cons.1 hleft
      have ⟨hb, hbs⟩ := List.pairwise_cons.1 hright
      have hname : a.1 = b.1 :=
        String.le_antisymm (String.not_lt.1 (not_lt_of_lookup_eq ha fun name => (h name).symm))
          (String.not_lt.1 (not_lt_of_lookup_eq hb h))
      have hvalue : a.2 = b.2 := by
        have hsome := h a.1
        rw [lookup_cons_of_eq as rfl, lookup_cons_of_eq bs hname] at hsome
        exact Option.some.inj hsome
      have htails : ∀ name, as.lookup name = bs.lookup name := by
        intro name
        by_cases heq : name = a.1
        · rw [heq, lookup_eq_none ha, hname, lookup_eq_none hb]
        · have hrest := h name
          rwa [lookup_cons_of_ne as heq, lookup_cons_of_ne bs (hname ▸ heq)] at hrest
      rw [Prod.ext hname hvalue, ih has hbs htails]

theorem ext_get? {left right : NameTable α} (h : ∀ name, left.get? name = right.get? name) :
    left = right := by
  obtain ⟨entries, increasing⟩ := left
  obtain ⟨entries', increasing'⟩ := right
  have heq : entries = entries' := entries_eq_of_lookup_eq increasing increasing' h
  subst heq
  rfl

theorem ext_entries {left right : NameTable α} (h : left.entries = right.entries) :
    left = right := by
  cases left
  cases right
  subst h
  rfl

instance [DecidableEq α] : DecidableEq (NameTable α) := fun left right =>
  if h : left.entries = right.entries then .isTrue (ext_entries h)
  else .isFalse fun heq => h (heq ▸ rfl)

end NameTable

end DrumMachine
