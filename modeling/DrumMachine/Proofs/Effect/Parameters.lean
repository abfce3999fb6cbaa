import DrumMachine.Effect.Basic
import DrumMachine.Proofs.Document.Leaves
import Mathlib.Data.List.Induction

/-!
# What parameters say

An effect is set up from a tree of parameters as deep as one likes. For each of its settings the last
leaf counts whose key is the setting's, or else the setting has its default (`Effect.Gives`), and this
leaves no choice (`Gives.unique`). Leaves with other keys, and the names of options further out, could
as well be left away (`configure_flat`).
-/

namespace DrumMachine

open Value (Route)

namespace Effect

/-- The text to which a route leads in the parameters, if there are any. -/
def textAt? (params : Option Value) (route : Route) : Option String :=
  params.bind fun tree => tree.textAt? route

/-- The number that parameters give for a setting that has some keys and a default: that of the last
leaf with one of the keys. -/
inductive Gives (params : Option Value) (keys : List (Option String)) (default : Int) :
    Int → Prop where
  | last {route : Route} {text : String} (htext : textAt? params route = some text)
      (hkey : route.key? ∈ keys)
      (hlast : ∀ other text', textAt? params other = some text' → other.key? ∈ keys →
        other = route ∨ other.Before route) :
      Gives params keys default (Text.lenientInt text).toInt
  | absent (h : ∀ route text, textAt? params route = some text → route.key? ∉ keys) :
      Gives params keys default default

/-- A leaf as an item of a list that gives it its key. -/
def leafItem : Option String × String → Value
  | (none, text) => .scalar text
  | (some name, text) => .option name (.scalar text)

/-- The leaves with some keys, and nothing around them but one list. -/
def flat (keys : List (Option String)) (params : Option Value) : Value :=
  .list (((params.elim [] (Value.leaves none)).filter fun leaf => leaf.1 ∈ keys).map leafItem)

end Effect

/-- The keys of all settings of an effect. -/
def Plugin.keys : Plugin → List (Option String)
  | .pan => [none, some "pan"]
  | .chorus => [some "delay", some "pan", some "amount", some "speed", some "depth"]
  | .reverb => [some "delay", some "pan", some "level", some "decay"]

/-! ### The settings of each effect -/

namespace Pan.Settings

/-- The pan may also be given without a key. -/
structure ReadFrom (params : Option Value) (settings : Settings) : Prop where
  pan : Effect.Gives params [none, some "pan"] 0 settings.pan

theorem assign_eq (settings : Settings) (key : Option String) (value : Int) :
    settings.assign key value =
      { pan := if key ∈ [none, some "pan"] then value else settings.pan } := by
  unfold assign
  split <;> simp_all

theorem assign_of_not_mem (settings : Settings) {key : Option String} (value : Int)
    (h : key ∉ Plugin.pan.keys) : settings.assign key value = settings := by
  simp_all [assign_eq, Plugin.keys]

end Pan.Settings

namespace Chorus.Settings

structure ReadFrom (params : Option Value) (settings : Settings) : Prop where
  delay : Effect.Gives params [some "delay"] 10 settings.delay
  pan : Effect.Gives params [some "pan"] 0 settings.pan
  amount : Effect.Gives params [some "amount"] 50 settings.amount
  speed : Effect.Gives params [some "speed"] 10 settings.speed
  depth : Effect.Gives params [some "depth"] 10 settings.depth

theorem assign_eq (settings : Settings) (key : Option String) (value : Int) :
    settings.assign key value =
      { delay := if key ∈ [some "delay"] then value else settings.delay
        pan := if key ∈ [some "pan"] then value else settings.pan
        amount := if key ∈ [some "amount"] then value else settings.amount
        speed := if key ∈ [some "speed"] then value else settings.speed
        depth := if key ∈ [some "depth"] then value else settings.depth } := by
  unfold assign
  split <;> simp_all

theorem assign_of_not_mem (settings : Settings) {key : Option String} (value : Int)
    (h : key ∉ Plugin.chorus.keys) : settings.assign key value = settings := by
  simp_all [assign_eq, Plugin.keys]

end Chorus.Settings

namespace Reverb.Settings

structure ReadFrom (params : Option Value) (settings : Settings) : Prop where
  delay : Effect.Gives params [some "delay"] 0 settings.delay
  pan : Effect.Gives params [some "pan"] 0 settings.pan
  level : Effect.Gives params [some "level"] 30 settings.level
  decay : Effect.Gives params [some "decay"] 50 settings.decay

theorem assign_eq (settings : Settings) (key : Option String) (value : Int) :
    settings.assign key value =
      { delay := if key ∈ [some "delay"] then value else settings.delay
        pan := if key ∈ [some "pan"] then value else settings.pan
        level := if key ∈ [some "level"] then value else settings.level
        decay := if key ∈ [some "decay"] then value else settings.decay } := by
  unfold assign
  split <;> simp_all

theorem assign_of_not_mem (settings : Settings) {key : Option String} (value : Int)
    (h : key ∉ Plugin.reverb.keys) : settings.assign key value = settings := by
  simp_all [assign_eq, Plugin.keys]

end Reverb.Settings

namespace Effect

/-! ### Numbers in the order of their leaves -/

theorem parameters_eq_map (params : Option Value) :
    parameters params = (params.elim [] (Value.leaves none)).map
      fun leaf => (leaf.1, (Text.lenientInt leaf.2).toInt) := by
  cases params with
  | none => rfl
  | some tree => rfl

/-- The numbers of a parameter tree are those at its leaves, from left to right. -/
theorem exists_sites (params : Option Value) :
    ∃ sites : List (Route × String),
      parameters params =
        (sites.map fun site => (site.1.key?, (Text.lenientInt site.2).toInt)) ∧
      (sites.Pairwise fun site later => site.1.Before later.1) ∧
      ∀ route text, (route, text) ∈ sites ↔ textAt? params route = some text := by
  cases params with
  | none => exact ⟨[], rfl, .nil, fun route text => by simp [textAt?]⟩
  | some tree =>
    obtain ⟨sites, hleaves, hsorted, hsites⟩ := tree.visits_leaves
    refine ⟨sites, ?_, hsorted, hsites⟩
    rw [parameters, hleaves, List.map_map]
    rfl

section

variable {σ : Type} {assign : σ → Option String → Int → σ} (setting : σ → Int)
  {keys : List (Option String)}

theorem setting_foldl
    (hassign : ∀ settings key value,
      setting (assign settings key value) = if key ∈ keys then value else setting settings)
    (start : σ) (given : List (Option String × Int)) :
    setting (given.foldl (fun settings given => assign settings given.1 given.2) start) =
      ((given.filter fun given => given.1 ∈ keys).getLast?.map Prod.snd).getD (setting start) := by
  induction given using List.reverseRecOn with
  | nil => rfl
  | append_singleton given last ih =>
    rw [List.foldl_append, List.foldl_cons, List.foldl_nil, hassign, List.filter_append]
    by_cases hkey : last.1 ∈ keys
    · rw [if_pos hkey, List.filter_cons, if_pos (decide_eq_true hkey), List.filter_nil,
        List.getLast?_concat]
      rfl
    · rw [if_neg hkey, List.filter_cons, if_neg (by simpa using hkey), List.filter_nil,
        List.append_nil, ih]

/-- A setting that takes the numbers with its keys, and no others, ends up with the last of them. -/
theorem gives_configure
    (hassign : ∀ settings key value,
      setting (assign settings key value) = if key ∈ keys then value else setting settings)
    (start : σ) (params : Option Value) :
    Gives params keys (setting start) (setting (configure assign start params)) := by
  obtain ⟨sites, hparameters, hsorted, hsites⟩ := exists_sites params
  rw [configure, setting_foldl setting hassign, hparameters, List.filter_map, List.getLast?_map,
    Function.comp_def]
  have hkept (route : Route) (text : String) :
      (route, text) ∈ sites.filter (fun site => site.1.key? ∈ keys) ↔
        textAt? params route = some text ∧ route.key? ∈ keys := by
    rw [List.mem_filter, hsites, decide_eq_true_iff]
  have hordered := hsorted.filter fun site => site.1.key? ∈ keys
  rcases List.eq_nil_or_concat (sites.filter fun site => site.1.key? ∈ keys) with
    hnone | ⟨front, ⟨route, text⟩, hlast⟩
  · rw [hnone] at hkept ⊢
    refine .absent ?_
    intro route text htext hkey
    exact List.not_mem_nil ((hkept route text).2 ⟨htext, hkey⟩)
  · rw [List.concat_eq_append] at hlast
    rw [hlast] at hkept hordered ⊢
    rw [List.getLast?_concat]
    obtain ⟨htext, hkey⟩ := (hkept route text).1 List.mem_concat_self
    refine .last htext hkey ?_
    intro other text' hother hotherKey
    rcases List.mem_append.1 ((hkept other text').2 ⟨hother, hotherKey⟩) with hfront | hend
    · exact .inr ((List.pairwise_append.1 hordered).2.2 _ hfront _ (List.mem_singleton_self _))
    · exact .inl (congrArg Prod.fst (List.mem_singleton.1 hend))

end

section

variable {params : Option Value} {keys : List (Option String)} {default n m : Int}

theorem Gives.unique (hn : Gives params keys default n) (hm : Gives params keys default m) :
    n = m := by
  cases hn with
  | absent h =>
    cases hm with
    | absent => rfl
    | last htext hkey => exact absurd hkey (h _ _ htext)
  | @last route text htext hkey hlast =>
    cases hm with
    | absent h => exact absurd hkey (h _ _ htext)
    | @last other text' hother hotherKey hotherLast =>
      have heq : other = route := by
        rcases hlast other text' hother hotherKey with heq | hbefore
        · exact heq
        · rcases hotherLast route text htext hkey with heq | hafter
          · exact heq.symm
          · exact absurd hafter hbefore.asymm
      subst heq
      rw [htext] at hother
      rw [Option.some.inj hother]

end

/-! ### Leaves with other keys -/

theorem leavesOfItems_leafItem (leaves : List (Option String × String)) :
    Value.leavesOfItems none (leaves.map leafItem) = leaves := by
  induction leaves with
  | nil => rfl
  | cons leaf leaves ih =>
    obtain ⟨key, text⟩ := leaf
    rw [List.map_cons, Value.leavesOfItems, ih]
    cases key with
    | none => rfl
    | some name => rfl

/-- Settings that take no other keys do not see the rest of the tree. -/
theorem configure_flat {σ : Type} {assign : σ → Option String → Int → σ}
    {keys : List (Option String)}
    (hassign : ∀ settings key value, key ∉ keys → assign settings key value = settings)
    (start : σ) (params : Option Value) :
    configure assign start (some (flat keys params)) = configure assign start params := by
  have hparameters : parameters (some (flat keys params)) =
      (parameters params).filter fun given => given.1 ∈ keys := by
    rw [parameters_eq_map, parameters_eq_map, List.filter_map]
    exact congrArg _ (leavesOfItems_leafItem _)
  rw [configure, configure, hparameters, List.foldl_filter]
  congr 1
  funext settings given
  split
  · rfl
  · rename_i hkey
    exact (hassign settings given.1 given.2 (by simpa using hkey)).symm

end Effect

/-! ### Effects -/

namespace Pan.Settings

theorem readFrom_iff {params : Option Value} {settings : Settings} :
    settings.ReadFrom params ↔ settings = Effect.configure assign {} params := by
  have hread : (Effect.configure assign {} params).ReadFrom params :=
    ⟨Effect.gives_configure pan (fun settings key value => by rw [assign_eq]) {} params⟩
  constructor
  · intro h
    exact congrArg mk (h.pan.unique hread.pan)
  · rintro rfl
    exact hread

end Pan.Settings

namespace Chorus.Settings

theorem readFrom_iff {params : Option Value} {settings : Settings} :
    settings.ReadFrom params ↔ settings = Effect.configure assign {} params := by
  have hread : (Effect.configure assign {} params).ReadFrom params :=
    ⟨Effect.gives_configure delay (fun settings key value => by rw [assign_eq]) {} params,
      Effect.gives_configure pan (fun settings key value => by rw [assign_eq]) {} params,
      Effect.gives_configure amount (fun settings key value => by rw [assign_eq]) {} params,
      Effect.gives_configure speed (fun settings key value => by rw [assign_eq]) {} params,
      Effect.gives_configure depth (fun settings key value => by rw [assign_eq]) {} params⟩
  constructor
  · intro h
    generalize Effect.configure assign {} params = read at hread ⊢
    cases settings
    cases read
    rw [mk.injEq]
    exact ⟨h.delay.unique hread.delay, h.pan.unique hread.pan, h.amount.unique hread.amount,
      h.speed.unique hread.speed, h.depth.unique hread.depth⟩
  · rintro rfl
    exact hread

end Chorus.Settings

namespace Reverb.Settings

theorem readFrom_iff {params : Option Value} {settings : Settings} :
    settings.ReadFrom params ↔ settings = Effect.configure assign {} params := by
  have hread : (Effect.configure assign {} params).ReadFrom params :=
    ⟨Effect.gives_configure delay (fun settings key value => by rw [assign_eq]) {} params,
      Effect.gives_configure pan (fun settings key value => by rw [assign_eq]) {} params,
      Effect.gives_configure level (fun settings key value => by rw [assign_eq]) {} params,
      Effect.gives_configure decay (fun settings key value => by rw [assign_eq]) {} params⟩
  constructor
  · intro h
    generalize Effect.configure assign {} params = read at hread ⊢
    cases settings
    cases read
    rw [mk.injEq]
    exact ⟨h.delay.unique hread.delay, h.pan.unique hread.pan, h.level.unique hread.level,
      h.decay.unique hread.decay⟩
  · rintro rfl
    exact hread

end Reverb.Settings

namespace Effect

theorem ofPlugin_flat (plugin : Plugin) (params : Option Value) :
    ofPlugin plugin (some (flat plugin.keys params)) = ofPlugin plugin params := by
  cases plugin with
  | pan | chorus | reverb =>
    rw [ofPlugin, ofPlugin, configure_flat fun settings _ => settings.assign_of_not_mem]

/-- Every leaf of a parameter tree is visited once, from left to right, with the name of the option
nearest to it. An effect is built from the settings that are read off these leaves, and nothing else in
the tree makes a difference to it. -/
theorem ofPlugin_eq_last_leaves :
    (∀ tree : Value, tree.Visits (tree.leaves none)) ∧
    (∀ params, ∃ settings, ofPlugin .pan params = .pan (.ofSettings settings) ∧
      ∀ other : Pan.Settings, other.ReadFrom params ↔ other = settings) ∧
    (∀ params, ∃ settings, ofPlugin .chorus params = .chorus (.ofSettings settings) ∧
      ∀ other : Chorus.Settings, other.ReadFrom params ↔ other = settings) ∧
    (∀ params, ∃ settings, ofPlugin .reverb params = .reverb (.ofSettings settings) ∧
      ∀ other : Reverb.Settings, other.ReadFrom params ↔ other = settings) ∧
    ∀ plugin params, ofPlugin plugin (some (flat plugin.keys params)) = ofPlugin plugin params := by
  refine ⟨Value.visits_leaves, ?_, ?_, ?_, ofPlugin_flat⟩
  · intro params
    exact ⟨_, rfl, fun _ => Pan.Settings.readFrom_iff⟩
  · intro params
    exact ⟨_, rfl, fun _ => Chorus.Settings.readFrom_iff⟩
  · intro params
    exact ⟨_, rfl, fun _ => Reverb.Settings.readFrom_iff⟩

end Effect

end DrumMachine
