import DrumMachine.Document.Value

/-!
# The leaves of a value

Each text in a value stands at the end of one route, down through items of lists and into options
(`textAt?`). Going through the leaves of a value visits every such route once, from left to right, and
pairs its text with the name of the option that the route enters last (`visits_leaves`).
-/

namespace DrumMachine.Value

/-- One step down: to an item of a list, or into an option. -/
inductive Step where
  | item (index : Nat)
  | inside (name : String)
deriving DecidableEq, Repr

def Step.name? : Step → Option String
  | .item _ => none
  | .inside name => some name

/-- The steps down from a value to something in it. -/
abbrev Route := List Step

/-- The name of the option entered last. -/
def Route.key? (route : Route) : Option String := (route.filterMap Step.name?).getLast?

/-- One route turns to an earlier item where the other one turns to a later item. -/
inductive Route.Before : Route → Route → Prop where
  | turn {index later : Nat} (h : index < later) (route other : Route) :
      Before (.item index :: route) (.item later :: other)
  | step (step : Step) {route other : Route} (h : Before route other) :
      Before (step :: route) (step :: other)

/-- The text to which a route leads. -/
def textAt? : Value → Route → Option String
  | .scalar text, [] => some text
  | .list items, .item index :: route => items[index]?.bind fun item => item.textAt? route
  | .option name value, .inside entered :: route =>
    if entered = name then value.textAt? route else none
  | _, _ => none

mutual

/-- All texts of a value with the routes to them. -/
def sites : Value → List (Route × String)
  | .scalar text => [([], text)]
  | .list items => sitesOfItems 0 items
  | .option name value => value.sites.map fun site => (.inside name :: site.1, site.2)

/-- The texts of the items that follow each other from some index on. -/
def sitesOfItems (index : Nat) : List Value → List (Route × String)
  | [] => []
  | item :: rest =>
    (item.sites.map fun site => (.item index :: site.1, site.2)) ++ sitesOfItems (index + 1) rest

end

/-- The leaves are the texts at the ends of all routes, each paired with the last option's name, once
and from left to right. -/
def Visits (value : Value) (leaves : List (Option String × String)) : Prop :=
  ∃ sites : List (Route × String), leaves = (sites.map fun site => (site.1.key?, site.2)) ∧
    (sites.Pairwise fun site later => site.1.Before later.1) ∧
    ∀ route text, (route, text) ∈ sites ↔ value.textAt? route = some text

/-! ### Keys -/

namespace Route

theorem key?_inside (name : String) (route : Route) :
    key? (.inside name :: route) = route.key?.or (some name) := by
  have hnames : (Step.inside name :: route).filterMap Step.name? =
      name :: route.filterMap Step.name? := rfl
  rw [key?, key?, hnames, List.getLast?_cons]
  cases (route.filterMap Step.name?).getLast? with
  | none => rfl
  | some last => rfl

end Route

mutual

theorem leaves_eq_map (key : Option String) :
    ∀ value : Value, value.leaves key = value.sites.map fun site => (site.1.key?.or key, site.2)
  | .scalar _ => rfl
  | .list items => leavesOfItems_eq_map key items 0
  | .option name value => by
    rw [leaves, sites, leaves_eq_map (some name) value, List.map_map]
    refine List.map_congr_left fun site _ => ?_
    rw [Function.comp_apply, Route.key?_inside, Option.or_assoc, Option.some_or]

theorem leavesOfItems_eq_map (key : Option String) : ∀ (items : List Value) (index : Nat),
    leavesOfItems key items = (sitesOfItems index items).map fun site => (site.1.key?.or key, site.2)
  | [], _ => rfl
  | item :: rest, index => by
    rw [leavesOfItems, sitesOfItems, leaves_eq_map key item, leavesOfItems_eq_map key rest (index + 1),
      List.map_append, List.map_map]
    rfl

end

/-! ### Routes -/

theorem textAt?_list_eq_some_iff {items : List Value} {route : Route} {text : String} :
    (list items).textAt? route = some text ↔ ∃ index item below, items[index]? = some item ∧
      route = .item index :: below ∧ item.textAt? below = some text := by
  constructor
  · intro h
    cases route with
    | nil => exact absurd h (by simp [textAt?])
    | cons step below =>
      cases step with
      | item index =>
        obtain ⟨item, hitem, htext⟩ := Option.bind_eq_some_iff.1 h
        exact ⟨index, item, below, hitem, rfl, htext⟩
      | inside name => exact absurd h (by simp [textAt?])
  · rintro ⟨index, item, below, hitem, rfl, htext⟩
    rw [textAt?, hitem, Option.bind_some, htext]

theorem textAt?_option_eq_some_iff {name : String} {value : Value} {route : Route} {text : String} :
    (option name value).textAt? route = some text ↔
      ∃ below, route = .inside name :: below ∧ value.textAt? below = some text := by
  constructor
  · intro h
    cases route with
    | nil => exact absurd h (by simp [textAt?])
    | cons step below =>
      cases step with
      | item index => exact absurd h (by simp [textAt?])
      | inside entered =>
        obtain ⟨rfl, htext⟩ := Option.ite_none_right_eq_some.1 h
        exact ⟨below, rfl, htext⟩
  · rintro ⟨below, rfl, htext⟩
    rw [textAt?, if_pos rfl, htext]

mutual

theorem mem_sites_iff (route : Route) (text : String) : ∀ value : Value,
    (route, text) ∈ value.sites ↔ value.textAt? route = some text
  | .scalar content => by
    cases route with
    | nil => simp [sites, textAt?, eq_comm]
    | cons step route => simp [sites, textAt?]
  | .list items => by
    rw [sites, mem_sitesOfItems_iff route text items 0, textAt?_list_eq_some_iff]
    simp only [Nat.zero_add]
  | .option name value => by
    rw [sites, textAt?_option_eq_some_iff]
    constructor
    · intro h
      obtain ⟨⟨below, content⟩, hsite, heq⟩ := List.mem_map.1 h
      obtain ⟨rfl, rfl⟩ := Prod.mk.inj heq
      exact ⟨below, rfl, (mem_sites_iff below content value).1 hsite⟩
    · rintro ⟨below, rfl, htext⟩
      exact List.mem_map.2 ⟨(below, text), (mem_sites_iff below text value).2 htext, rfl⟩

theorem mem_sitesOfItems_iff (route : Route) (text : String) : ∀ (items : List Value) (first : Nat),
    (route, text) ∈ sitesOfItems first items ↔ ∃ index item below, items[index]? = some item ∧
      route = .item (first + index) :: below ∧ item.textAt? below = some text
  | [], _ => by simp [sitesOfItems]
  | item :: rest, first => by
    rw [sitesOfItems, List.mem_append, mem_sitesOfItems_iff route text rest (first + 1)]
    constructor
    · rintro (h | ⟨index, found, below, hfound, rfl, htext⟩)
      · obtain ⟨⟨below, content⟩, hsite, heq⟩ := List.mem_map.1 h
        obtain ⟨rfl, rfl⟩ := Prod.mk.inj heq
        exact ⟨0, item, below, rfl, rfl, (mem_sites_iff below content item).1 hsite⟩
      · refine ⟨index + 1, found, below, hfound, ?_, htext⟩
        rw [Nat.add_right_comm, Nat.add_assoc]
    · rintro ⟨index, found, below, hfound, rfl, htext⟩
      cases index with
      | zero =>
        obtain rfl : item = found := Option.some.inj hfound
        exact .inl (List.mem_map.2 ⟨(below, text), (mem_sites_iff below text item).2 htext, rfl⟩)
      | succ index =>
        refine .inr ⟨index, found, below, hfound, ?_, htext⟩
        rw [Nat.add_right_comm, Nat.add_assoc]

end

/-! ### From left to right -/

theorem pairwise_map_step {step : Step} {sites : List (Route × String)}
    (h : sites.Pairwise fun site later => site.1.Before later.1) :
    (sites.map fun site => (step :: site.1, site.2)).Pairwise
      fun site later => Route.Before site.1 later.1 :=
  List.pairwise_map.2 (h.imp fun hbefore => .step step hbefore)

mutual

theorem pairwise_sites : ∀ value : Value,
    value.sites.Pairwise fun site later => site.1.Before later.1
  | .scalar _ => List.pairwise_singleton _ _
  | .list items => pairwise_sitesOfItems items 0
  | .option _ value => pairwise_map_step (pairwise_sites value)

theorem pairwise_sitesOfItems : ∀ (items : List Value) (first : Nat),
    (sitesOfItems first items).Pairwise fun site later => site.1.Before later.1
  | [], _ => .nil
  | item :: rest, first => by
    refine List.pairwise_append.2
      ⟨pairwise_map_step (pairwise_sites item), pairwise_sitesOfItems rest (first + 1), ?_⟩
    rintro site hsite ⟨route, text⟩ hlater
    obtain ⟨below, -, rfl⟩ := List.mem_map.1 hsite
    obtain ⟨index, -, other, -, rfl, -⟩ := (mem_sitesOfItems_iff route text rest (first + 1)).1 hlater
    exact .turn (by omega) below.1 other

end

theorem visits_leaves (value : Value) : value.Visits (value.leaves none) := by
  refine ⟨value.sites, ?_, pairwise_sites value, fun route text => mem_sites_iff route text value⟩
  rw [leaves_eq_map]
  simp only [Option.or_none]

example :
    (list [.option "pan" (.scalar "-30"),
      .option "nested" (.list [.scalar "a", .option "depth" (.scalar "5")]),
      .scalar "bare"]).leaves none =
      [(some "pan", "-30"), (some "nested", "a"), (some "depth", "5"), (none, "bare")] := by
  rfl

namespace Route

variable {route other : Route}

theorem Before.asymm (h : Before route other) : ¬Before other route := by
  induction h with
  | turn hindex route other =>
    intro hback
    cases hback with
    | turn hback => omega
    | step _ hback => omega
  | step step h ih =>
    intro hback
    cases hback with
    | turn hback => omega
    | step _ hback => exact ih hback

end Route

end DrumMachine.Value
