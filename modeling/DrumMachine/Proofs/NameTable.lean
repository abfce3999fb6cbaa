import DrumMachine.NameTable

/-!
# Tables as functions of names

A table is determined by its lookups, so operations on tables are described by what they do to
lookups. Entries inserted in increasing order stand in front of what the table had.
-/

namespace DrumMachine.NameTable

universe u v

variable {α : Type u} {β : Type v}

theorem lookup_eq_some_iff {name : String} {value : α} :
    ∀ {entries : List (String × α)}, entries.Pairwise (fun a b => a.1 < b.1) →
      (entries.lookup name = some value ↔ (name, value) ∈ entries)
  | [], _ => by simp
  | entry :: rest, h => by
    have ⟨hentry, hrest⟩ := List.pairwise_cons.1 h
    by_cases heq : name = entry.1
    · subst heq
      rw [lookup_cons_of_eq rest rfl, List.mem_cons, Option.some.injEq]
      constructor
      · rintro rfl
        exact .inl rfl
      · rintro (hmem | hmem)
        · rw [← hmem]
        · exact absurd (hentry _ hmem) (String.lt_irrefl _)
    · rw [lookup_cons_of_ne rest heq, lookup_eq_some_iff hrest, List.mem_cons]
      exact ⟨.inr, fun hmem => hmem.resolve_left fun hpair => heq (congrArg Prod.fst hpair)⟩

theorem get?_eq_some_iff {table : NameTable α} {name : String} {value : α} :
    table.get? name = some value ↔ (name, value) ∈ table.entries :=
  lookup_eq_some_iff table.increasing

theorem mem_names_iff {table : NameTable α} {name : String} :
    name ∈ table.names ↔ ∃ value, table.get? name = some value := by
  rw [names, List.mem_map]
  constructor
  · rintro ⟨⟨_, value⟩, hmem, rfl⟩
    exact ⟨value, get?_eq_some_iff.2 hmem⟩
  · rintro ⟨value, hget⟩
    exact ⟨(name, value), get?_eq_some_iff.1 hget, rfl⟩

theorem forall_get?_iff {table : NameTable α} {p : String → α → Prop} :
    (∀ name value, table.get? name = some value → p name value) ↔
      ∀ entry ∈ table.entries, p entry.1 entry.2 :=
  ⟨fun h entry hentry => h entry.1 entry.2 (get?_eq_some_iff.2 hentry),
    fun h name value hget => h (name, value) (get?_eq_some_iff.1 hget)⟩

/-- What holds of all values but the one changed holds of all values of the changed table. -/
theorem forall_get?_alter {table : NameTable α} {p : String → α → Prop} {name : String}
    {change : Option α → α} (h : ∀ other value, table.get? other = some value → p other value)
    (hname : p name (change (table.get? name))) :
    ∀ other value, (table.alter name change).get? other = some value → p other value := by
  intro other value hget
  by_cases heq : other = name
  · subst heq
    rw [get?_alter_self] at hget
    exact Option.some.inj hget ▸ hname
  · rw [get?_alter_of_ne table change heq] at hget
    exact h other value hget

theorem get?_alter (table : NameTable α) (name : String) (change : Option α → α) (other : String) :
    (table.alter name change).get? other =
      if other = name then some (change (table.get? name)) else table.get? other := by
  split
  · rename_i heq
    rw [heq, get?_alter_self]
  · rename_i hne
    rw [get?_alter_of_ne table change hne]

theorem contains_insert {table : NameTable α} {name other : String} {value : α} :
    (table.insert name value).contains other = true ↔
      table.contains other = true ∨ other = name := by
  rw [contains, insert, get?_alter]
  split
  · rename_i heq
    simp [heq]
  · rename_i hne
    simp [hne, contains]

theorem getD_insert (table : NameTable α) (name : String) (value : α) (other : String) (fill : α) :
    ((table.insert name value).get? other).getD fill =
      if other = name then value else (table.get? other).getD fill := by
  rw [insert, get?_alter]
  split
  · rfl
  · rfl

/-- A table is determined by the names that it has and the values under them. -/
theorem ext_getD {left right : NameTable α} (fill : α)
    (hnames : ∀ name, left.contains name = true ↔ right.contains name = true)
    (hvalues : ∀ name, (left.get? name).getD fill = (right.get? name).getD fill) : left = right := by
  refine ext_get? fun name => ?_
  have hname := hnames name
  have hvalue := hvalues name
  rw [contains, contains] at hname
  cases hleft : left.get? name with
  | none =>
    cases hright : right.get? name with
    | none => rfl
    | some value => simp [hleft, hright] at hname
  | some value =>
    cases hright : right.get? name with
    | none => simp [hleft, hright] at hname
    | some other => simpa [hleft, hright] using hvalue

/-! ### Maps, selections and insertions -/

theorem get?_map (f : String → α → β) (table : NameTable α) (name : String) :
    (table.map f).get? name = (table.get? name).map (f name) := by
  refine Option.ext fun value => ?_
  rw [get?_eq_some_iff, map, List.mem_map, Option.map_eq_some_iff]
  constructor
  · rintro ⟨⟨other, old⟩, hmem, heq⟩
    obtain ⟨rfl, rfl⟩ := Prod.mk.inj heq
    exact ⟨old, get?_eq_some_iff.2 hmem, rfl⟩
  · rintro ⟨old, hget, rfl⟩
    exact ⟨(name, old), get?_eq_some_iff.1 hget, rfl⟩

/-- The entries that a test selects. -/
def filter (keep : String → α → Bool) (table : NameTable α) : NameTable α :=
  ⟨table.entries.filter fun entry => keep entry.1 entry.2, table.increasing.filter _⟩

theorem get?_filter (keep : String → α → Bool) (table : NameTable α) (name : String) :
    (table.filter keep).get? name = (table.get? name).filter (keep name) := by
  refine Option.ext fun value => ?_
  rw [get?_eq_some_iff, filter, List.mem_filter, Option.filter_eq_some_iff, get?_eq_some_iff]

/-- Insert entries one after the other. -/
def insertAll (table : NameTable α) (entries : List (String × α)) : NameTable α :=
  entries.foldl (fun table entry => table.insert entry.1 entry.2) table

theorem get?_insertAll {entries : List (String × α)}
    (h : entries.Pairwise fun a b => a.1 < b.1) (table : NameTable α) (name : String) :
    (table.insertAll entries).get? name = (entries.lookup name).or (table.get? name) := by
  induction entries generalizing table with
  | nil => rfl
  | cons entry rest ih =>
    have ⟨hentry, hrest⟩ := List.pairwise_cons.1 h
    rw [insertAll, List.foldl_cons]
    refine (ih hrest (table.insert entry.1 entry.2)).trans ?_
    by_cases heq : name = entry.1
    · subst heq
      rw [lookup_eq_none hentry, get?_insert_self, lookup_cons_of_eq rest rfl]
      rfl
    · rw [get?_insert_of_ne table entry.2 heq, lookup_cons_of_ne rest heq]

theorem insertAll_entries (table : NameTable α) :
    (∅ : NameTable α).insertAll table.entries = table := by
  refine ext_get? fun name => ?_
  rw [get?_insertAll table.increasing, get?_empty, Option.or_none]
  rfl

end DrumMachine.NameTable
