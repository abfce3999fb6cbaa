import DrumMachine.Failure
import DrumMachine.Files.Tree

/-!
# Reading what was put in a tree

A path that leads to a file, or to a name that its directory does not hold, leads to the file that
is put there: the way goes through directories only, and these stay as they were.
-/

namespace DrumMachine

theorem Path.getLast?_parts {cs : List Char} (h : (parts cs).getLast? = some []) :
    cs = [] ∨ cs.getLast? = some '/' := by
  induction cs with
  | nil => exact .inl rfl
  | cons c rest ih =>
    right
    simp only [parts] at h
    split at h
    · rename_i hc
      rw [List.getLast?_cons_of_ne_nil (parts_ne_nil rest)] at h
      rcases ih h with rfl | hrest
      · rw [hc]
        rfl
      · rw [List.getLast?_cons, hrest]
        rfl
    · split at h
      · exact absurd h (by simp)
      · rename_i part others hparts
        have hothers : others ≠ [] := by
          rintro rfl
          exact absurd h (by simp)
        have hlast : (parts rest).getLast? = some [] := by
          rw [List.getLast?_cons_of_ne_nil hothers] at h
          rwa [hparts, List.getLast?_cons_of_ne_nil hothers]
        rcases ih hlast with rfl | hrest
        · exact absurd hparts (by simp [parts, hothers.symm])
        · rw [List.getLast?_cons, hrest]
          rfl

namespace Tree

/-- The place that a path leads to. -/
def Target.place : Target → Place
  | .found place _ => place
  | .absent place => place

variable {tree : Tree} {goal place : Place}

theorem run_bind_of_run {α β : Type} {first : StateM Tree α} {result : α} {next : Tree}
    (h : first.run tree = (result, next)) (rest : α → StateM Tree β) :
    (first >>= rest).run tree = (rest result).run next := by
  rw [StateT.run_bind, h]
  rfl

theorem exists_run_of_bind {α β : Type} {first : StateM Tree α} {rest : α → StateM Tree β}
    {answer : β × Tree} (h : (first >>= rest).run tree = answer) :
    ∃ result mid, first.run tree = (result, mid) ∧ (rest result).run mid = answer := by
  rw [StateT.run_bind] at h
  exact ⟨_, _, rfl, h⟩

theorem run_read (path : String) (tree : Tree) :
    (Disk.read path : StateM Tree (Except FileError ByteArray)).run tree = (tree.read path, tree) :=
  rfl

theorem run_update (change : Tree → Except FileError Tree) (tree : Tree) :
    (update change).run tree =
      match change tree with
      | .ok next => (.ok (), next)
      | .error error => (.error error, tree) := by
  cases hchange : change tree with
  | ok next =>
    simp only [update, StateT.run_bind, StateT.run_get]
    simp only [bind, pure, hchange]
    rfl
  | error error =>
    simp only [update, StateT.run_bind, StateT.run_get]
    simp only [bind, pure, hchange]
    rfl

theorem run_replace (path : String) (content : ByteArray) (tree : Tree) :
    (Disk.replace path content : StateM Tree (Except FileError Unit)).run tree =
      match tree.replace path content with
      | .ok next => (.ok (), next)
      | .error error => (.error error, tree) :=
  run_update (·.replace path content) tree

theorem node?_put_self (tree : Tree) {place : Place} (h : place ≠ []) (node : Node) :
    (tree.put place node).node? place = some node := by
  rw [node?, if_neg (by simpa using h), put, List.find?_cons_of_pos (by simp)]
  rfl

theorem node?_put_of_ne (tree : Tree) {place other : Place} (h : other ≠ place) (node : Node) :
    (tree.put place node).node? other = tree.node? other := by
  have hselect : (fun entry : Place × Node => decide ((entry.1 != place) = true ∧
      (entry.1 == other) = true)) = fun entry => entry.1 == other := by
    funext entry
    by_cases hentry : entry.1 = other
    · simp [hentry, h]
    · simp [hentry]
  rw [node?, node?, put, List.find?_cons_of_neg (by simpa using h.symm), List.find?_filter, hselect]

/-! ### Following a path -/

/-- The part leads to an entry of the directory it stands in. -/
def IsName (part : String) : Prop := part ≠ "" ∧ part ≠ "." ∧ part ≠ ".."

instance : DecidablePred IsName := fun _ => inferInstanceAs (Decidable (_ ∧ _ ∧ _))

/-- Where one part of a path leads. -/
def entered (place : Place) (part : String) : Place :=
  if IsName part then part :: place else if part = ".." then place.tail else place

theorem follow_cons (part : String) (rest : List String)
    (h : tree.node? place = some .directory) :
    tree.follow place (part :: rest) =
      if IsName part ∧ maxName < part.utf8ByteSize then .error .nameTooLong
      else if IsName part ∧ tree.node? (part :: place) = none ∧ rest.all (·.isEmpty) = true then
        .ok (.absent (part :: place))
      else tree.follow (entered place part) rest := by
  rw [follow, h, entered]
  by_cases hblank : part = "" ∨ part = "."
  · have hname : ¬IsName part := fun hname => hblank.elim hname.1 hname.2.1
    have hup : part ≠ ".." := by rintro rfl; exact absurd hblank (by decide)
    simp [hblank, hname, hup]
  · by_cases hup : part = ".."
    · subst hup
      have hname : ¬IsName ".." := by decide
      simp [hname]
    · have hname : IsName part := ⟨fun h => hblank (.inl h), fun h => hblank (.inr h), hup⟩
      simp [hblank, hup, hname]

theorem follow_cons_eq_ok {part : String} {rest : List String} {target : Target}
    (h : tree.follow place (part :: rest) = .ok target) : tree.node? place = some .directory := by
  rw [follow] at h
  split at h
  · exact absurd h (by simp)
  · exact absurd h (by simp)
  · rename_i hdirectory
    exact hdirectory

/-- Where a path leads, there is what was found, and nothing where nothing was found. -/
def Target.Agrees (tree : Tree) : Target → Prop
  | .found place node => tree.node? place = some node
  | .absent place => tree.node? place = none

theorem agrees_of_follow {parts : List String} {target : Target}
    (h : tree.follow place parts = .ok target) : target.Agrees tree := by
  induction parts generalizing place with
  | nil =>
    rw [follow] at h
    split at h
    · rename_i node hnode
      rw [← Except.ok.inj h]
      exact hnode
    · exact absurd h (by simp)
  | cons part rest ih =>
    rw [follow_cons part rest (follow_cons_eq_ok h)] at h
    split at h
    · exact absurd h (by simp)
    · split at h
      · rename_i habsent
        rw [← Except.ok.inj h]
        exact habsent.2.1
      · exact ih h

/-- The place that a path leads to is free for a file, and the path does not say that it is a
directory. -/
def Target.Takes (parts : List String) (goal : Place) : Target → Prop
  | .found place (.file _) => place = goal
  | .found _ .directory => False
  | .absent place => place = goal ∧ parts.getLast? ≠ some ""

theorem Target.Takes.node?_ne {parts : List String} {target : Target}
    (h : target.Takes parts goal) (hagrees : target.Agrees tree) :
    tree.node? goal ≠ some .directory := by
  intro hdirectory
  cases target with
  | found place node =>
    cases node with
    | file content =>
      rw [← show place = goal from h, hagrees] at hdirectory
      exact absurd hdirectory (by simp)
    | directory => exact h
  | absent place =>
    rw [← h.1, show tree.node? place = none from hagrees] at hdirectory
    exact absurd hdirectory (by simp)

theorem Target.Takes.tail {part : String} {rest : List String} {target : Target}
    (h : target.Takes (part :: rest) goal) : target.Takes rest goal := by
  cases target with
  | found place node =>
    cases node with
    | file content => exact h
    | directory => exact h
  | absent place =>
    refine ⟨h.1, fun hlast => h.2 ?_⟩
    rw [List.getLast?_cons, hlast]
    rfl

/-- Only empty parts may follow a name that is not there, and the last part is not empty. -/
theorem rest_eq_nil {part : String} {rest : List String} (h : (part :: rest).getLast? ≠ some "")
    (hrest : rest.all String.isEmpty = true) : rest = [] := by
  rw [← List.getLast?_eq_none_iff]
  cases hlast : rest.getLast? with
  | none => rfl
  | some last =>
    have hempty := List.all_eq_true.1 hrest last (List.mem_of_getLast? hlast)
    rw [List.getLast?_cons, hlast, String.isEmpty_iff.1 hempty] at h
    exact absurd rfl h

theorem follow_put {parts : List String} {target : Target}
    (h : tree.follow place parts = .ok target) (hgoal : target.Takes parts goal)
    (hne : tree.node? goal ≠ some .directory) (content : ByteArray) :
    (tree.put goal (.file content)).follow place parts = .ok (.found goal (.file content)) := by
  have hroot : goal ≠ [] := by
    rintro rfl
    exact hne rfl
  have hself := node?_put_self tree hroot (.file content)
  induction parts generalizing place with
  | nil =>
    rw [follow] at h
    split at h
    · rename_i node hnode
      rw [← Except.ok.inj h] at hgoal
      cases node with
      | file old =>
        obtain rfl : place = goal := hgoal
        rw [follow, hself]
      | directory => exact absurd hgoal id
    · exact absurd h (by simp)
  | cons part rest ih =>
    have hdirectory := follow_cons_eq_ok h
    have hother : place ≠ goal := by
      rintro rfl
      exact hne hdirectory
    rw [follow_cons part rest hdirectory] at h
    rw [follow_cons part rest ((node?_put_of_ne tree hother _).trans hdirectory)]
    split at h
    · exact absurd h (by simp)
    · rename_i hsize
      rw [if_neg hsize]
      split at h
      · rename_i habsent
        rw [← Except.ok.inj h] at hgoal
        obtain ⟨rfl, hlast⟩ := hgoal
        rw [if_neg (by simp [hself]), entered, if_pos habsent.1, rest_eq_nil hlast habsent.2.2,
          follow, hself]
      · rename_i hpresent
        -- the next part is there already, or it is the file that was put
        have hstill : ¬(IsName part ∧ (tree.put goal (.file content)).node? (part :: place) = none ∧
            rest.all (·.isEmpty) = true) := by
          rintro ⟨hname, hnone, hrest⟩
          by_cases hhere : part :: place = goal
          · rw [hhere, hself] at hnone
            exact absurd hnone (by simp)
          · rw [node?_put_of_ne tree hhere] at hnone
            exact hpresent ⟨hname, hnone, hrest⟩
        rw [if_neg hstill]
        exact ih h hgoal.tail

theorem find_eq_ok_iff {path : String} {target : Target} :
    tree.find path = .ok target ↔ '\x00' ∉ path.toList ∧ path ≠ "" ∧
      tree.follow (if Path.isAbsolute path then [] else tree.current) (partsOf path) =
        .ok target := by
  unfold find
  simp only [List.contains_iff_mem, String.isEmpty_iff]
  by_cases hnul : '\x00' ∈ path.toList
  · simp [hnul]
  · by_cases hempty : path = ""
    · simp [hempty]
    · rw [if_neg hnul, if_neg hempty]
      exact ⟨fun h => ⟨hnul, hempty, h⟩, fun h => h.2.2⟩

theorem agrees_of_find {path : String} {target : Target} (h : tree.find path = .ok target) :
    target.Agrees tree :=
  agrees_of_follow (find_eq_ok_iff.1 h).2.2

theorem find_put {path : String} {target : Target} (h : tree.find path = .ok target)
    (hgoal : target.Takes (partsOf path) goal) (content : ByteArray) :
    (tree.put goal (.file content)).find path = .ok (.found goal (.file content)) := by
  obtain ⟨hnul, hempty, hfollow⟩ := find_eq_ok_iff.1 h
  exact find_eq_ok_iff.2 ⟨hnul, hempty,
    follow_put hfollow hgoal (hgoal.node?_ne (agrees_of_follow hfollow)) content⟩

theorem getLast?_partsOf {path : String} (hpath : path ≠ "") (h : endsOpen path = false) :
    (partsOf path).getLast? ≠ some "" := by
  intro hlast
  rw [partsOf, List.getLast?_map, Option.map_eq_some_iff] at hlast
  obtain ⟨part, hpart, heq⟩ := hlast
  obtain rfl : part = [] := by simpa using heq
  rcases Path.getLast?_parts hpart with hnil | hslash
  · exact hpath (String.toList_eq_nil_iff.1 hnil)
  · rw [endsOpen, hslash] at h
    exact absurd h (by decide)

/-- A file is replaced in the place that its path leads to. -/
theorem exists_target_of_replace {next : Tree} {path : String} {content : ByteArray}
    (h : tree.replace path content = .ok next) :
    ∃ target, tree.find path = .ok target ∧ target.Takes (partsOf path) target.place ∧
      next = tree.put target.place (.file content) := by
  unfold replace at h
  cases hfind : tree.find path with
  | error error => simp [hfind] at h
  | ok target =>
    rw [hfind] at h
    simp only at h
    split at h
    · exact absurd h (by simp)
    · split at h
      · exact absurd h (by simp)
      · rename_i hopen
        have hpath : path ≠ "" := by
          rintro rfl
          exact absurd hfind (by simp [find])
        have hlast := getLast?_partsOf hpath (Bool.eq_false_iff.2 hopen)
        refine ⟨target, rfl, ?_⟩
        split at h
        · exact absurd h (by simp)
        · exact ⟨rfl, (Except.ok.inj h).symm⟩
        · exact ⟨⟨rfl, hlast⟩, (Except.ok.inj h).symm⟩

/-- A file is found with the content that it was replaced with. -/
theorem read_of_replace {next : Tree} {path : String} {content : ByteArray}
    (h : tree.replace path content = .ok next) : next.read path = .ok content := by
  obtain ⟨target, hfind, htakes, rfl⟩ := exists_target_of_replace h
  rw [read, find_put hfind htakes]

/-- What is put in the place of a file once the directories above it are made is put there. -/
theorem exists_replace_of_run {directory path : String} {content : ByteArray}
    {fail : FileError → Failure} {task : Failure.Task} {next : Tree}
    (h : (do
      match ← Disk.makeDirectories directory with
      | .error error => return .error (fail error)
      | .ok () => return Failure.during task (← Disk.replace path content) :
        StateM Tree (Except Failure Unit)).run tree = (.ok (), next)) :
    ∃ mid : Tree, mid.replace path content = .ok next := by
  obtain ⟨result, mid, -, h⟩ := exists_run_of_bind h
  refine ⟨mid, ?_⟩
  cases result with
  | error error => exact absurd (congrArg Prod.fst h) (by intro heq; cases heq)
  | ok made =>
    change StateT.run (Failure.during task <$>
      (Disk.replace path content : StateM Tree (Except FileError Unit))) mid = _ at h
    rw [StateT.run_map, run_replace] at h
    split at h
    · rename_i made hmade
      rw [hmade]
      exact congrArg Except.ok (congrArg Prod.snd h)
    · exact absurd (congrArg Prod.fst h) (by intro heq; cases heq)

end Tree

end DrumMachine
