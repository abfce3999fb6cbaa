import DrumMachine.Proofs.Files.Path

/-!
# What a tree keeps

Making directories and replacing files takes nothing out of a tree: directories stay directories,
and only the places of the files that are replaced have something else in them afterwards
(`Tree.Keeps`). So a path that led to something leads there still.
-/

namespace DrumMachine.Tree

variable {tree next last : Tree} {goals others : Place → Prop} {place goal : Place}

/-- The next tree has all directories of the tree. Outside of the goals it has all of its files as
well, and nothing new but directories. -/
structure Keeps (goals : Place → Prop) (tree next : Tree) : Prop where
  current_eq : next.current = tree.current
  node?_directory : ∀ place, tree.node? place = some .directory →
    next.node? place = some .directory
  node?_eq : ∀ place, ¬goals place → next.node? place = tree.node? place ∨
    tree.node? place = none ∧ next.node? place = some .directory

namespace Keeps

theorem refl (goals : Place → Prop) (tree : Tree) : Keeps goals tree tree :=
  ⟨rfl, fun _ h => h, fun _ _ => .inl rfl⟩

theorem mono (h : Keeps goals tree next) (hgoals : ∀ place, goals place → others place) :
    Keeps others tree next :=
  ⟨h.current_eq, h.node?_directory, fun place hplace =>
    h.node?_eq place fun hgoal => hplace (hgoals place hgoal)⟩

theorem trans (h : Keeps goals tree next) (hlast : Keeps goals next last) :
    Keeps goals tree last where
  current_eq := hlast.current_eq.trans h.current_eq
  node?_directory place hplace := hlast.node?_directory place (h.node?_directory place hplace)
  node?_eq place hplace := by
    rcases h.node?_eq place hplace with heq | ⟨hnone, hmade⟩
    · rw [← heq]
      exact hlast.node?_eq place hplace
    · exact .inr ⟨hnone, hlast.node?_directory place hmade⟩

theorem node?_file (h : Keeps goals tree next) (hplace : ¬goals place) {content : ByteArray}
    (hfile : tree.node? place = some (.file content)) :
    next.node? place = some (.file content) := by
  rcases h.node?_eq place hplace with heq | ⟨hnone, -⟩
  · exact heq.trans hfile
  · rw [hnone] at hfile
    cases hfile

end Keeps

/-- Something is put where there is no directory. -/
theorem keeps_put {node : Node} (h : tree.node? goal ≠ some .directory)
    (hgoal : goals goal ∨ tree.node? goal = none ∧ node = .directory) :
    Keeps goals tree (tree.put goal node) := by
  have hroot : goal ≠ [] := by
    rintro rfl
    exact h rfl
  refine ⟨rfl, fun place hplace => ?_, fun place hplace => ?_⟩
  · have hne : place ≠ goal := by
      rintro rfl
      exact h hplace
    rw [node?_put_of_ne tree hne, hplace]
  · by_cases hne : place = goal
    · subst hne
      rcases hgoal with hgoal | ⟨hnone, rfl⟩
      · exact absurd hgoal hplace
      · exact .inr ⟨hnone, node?_put_self tree hroot _⟩
    · exact .inl (node?_put_of_ne tree hne node)

/-- One computation after another keeps what both keep. -/
theorem keeps_bind {α β : Type} {first : StateM Tree α} {rest : α → StateM Tree β}
    (h : Keeps goals tree (first.run tree).2)
    (hrest : ∀ result next, Keeps goals next ((rest result).run next).2) :
    Keeps goals tree ((first >>= rest).run tree).2 := by
  rw [StateT.run_bind]
  exact h.trans (hrest _ _)

/-! ### Making directories -/

theorem keeps_makeDirectory (goals : Place → Prop) (path : String) (tree : Tree) :
    Keeps goals tree
      ((Disk.makeDirectory path : StateM Tree (Except FileError Unit)).run tree).2 := by
  change Keeps goals tree ((update (·.makeDirectory path)).run tree).2
  rw [run_update]
  split
  · rename_i made hmade
    unfold makeDirectory at hmade
    split at hmade
    · cases hmade
    · cases hmade
    · rename_i place hfind
      obtain rfl := Except.ok.inj hmade
      have hnone : tree.node? place = none := agrees_of_find hfind
      exact keeps_put (by simp [hnone]) (.inr ⟨hnone, rfl⟩)
  · exact .refl _ _

theorem snd_run_settle (path : String) (result : Except FileError Unit) (tree : Tree) :
    ((Disk.makeDirectoryBelow.settle path result : StateM Tree (Except FileError Unit)).run
      tree).2 = tree := by
  cases result with
  | ok made => rfl
  | error error =>
    change (StateT.run (if tree.isDirectory path then
      (return .ok () : StateM Tree (Except FileError Unit)) else return .error error) tree).2 = tree
    split <;> rfl

theorem keeps_makeDirectoryBelow (goals : Place → Prop) (paths : List String) (tree : Tree) :
    Keeps goals tree
      ((Disk.makeDirectoryBelow paths : StateM Tree (Except FileError Unit)).run tree).2 := by
  induction paths generalizing tree with
  | nil => exact .refl _ _
  | cons path above ih =>
    rw [Disk.makeDirectoryBelow]
    split
    · exact .refl _ _
    · refine keeps_bind (keeps_makeDirectory goals path tree) fun result made => ?_
      split
      · exact .refl _ _
      · refine keeps_bind (ih made) fun result made => ?_
        split
        · exact .refl _ _
        · refine keeps_bind (keeps_makeDirectory goals path made) fun result made => ?_
          rw [snd_run_settle]
          exact .refl _ _
      · rw [snd_run_settle]
        exact .refl _ _

theorem keeps_of_makeDirectories (goals : Place → Prop) {path : String}
    {result : Except FileError Unit}
    (h : (Disk.makeDirectories path : StateM Tree (Except FileError Unit)).run tree =
      (result, next)) : Keeps goals tree next := by
  have hkeeps : Keeps goals tree
      ((Disk.makeDirectories path : StateM Tree (Except FileError Unit)).run tree).2 :=
    keeps_makeDirectoryBelow goals (Path.ancestors path) tree
  rwa [h] at hkeeps

/-! ### Where paths lead -/

/-- Where a path leads through or to, there is something. -/
theorem node?_ne_none_of_follow {parts : List String} {node : Node}
    (h : tree.follow place parts = .ok (.found goal node)) (hkeeps : Keeps goals tree next)
    (hgoal : next.node? goal ≠ none) : next.node? place ≠ none := by
  cases parts with
  | nil =>
    rw [follow] at h
    split at h
    · obtain ⟨rfl, -⟩ : place = goal ∧ _ := by simpa using h
      exact hgoal
    · cases h
  | cons part rest =>
    rw [hkeeps.node?_directory place (follow_cons_eq_ok h)]
    exact Option.some_ne_none _

/-- What a path leads to is still there, possibly with another content. -/
theorem Keeps.follow_found (h : Keeps goals tree next) {parts : List String} {node node' : Node}
    (hfound : tree.follow place parts = .ok (.found goal node))
    (hnode : next.node? goal = some node') :
    next.follow place parts = .ok (.found goal node') := by
  induction parts generalizing place with
  | nil =>
    rw [follow] at hfound ⊢
    split at hfound
    · obtain ⟨rfl, -⟩ : place = goal ∧ _ := by simpa using hfound
      rw [hnode]
    · cases hfound
  | cons part rest ih =>
    have hdirectory := follow_cons_eq_ok hfound
    rw [follow_cons part rest hdirectory] at hfound
    rw [follow_cons part rest (h.node?_directory place hdirectory)]
    split at hfound
    · cases hfound
    · rename_i hsize
      rw [if_neg hsize]
      split at hfound
      · cases hfound
      · have hthere := node?_ne_none_of_follow hfound h (by simp [hnode])
        rw [if_neg, ih hfound]
        rintro ⟨hname, hnone, -⟩
        rw [entered, if_pos hname] at hthere
        exact hthere hnone

/-- A name below a directory leads into it. -/
theorem follow_append {name : String} (hname : IsName name) {parts : List String} {target : Target}
    (h : tree.follow place (parts ++ [name]) = .ok target) :
    ∃ directory, tree.follow place parts = .ok (.found directory .directory) ∧
      target.place = name :: directory := by
  induction parts generalizing place with
  | nil =>
    have hdirectory := follow_cons_eq_ok h
    refine ⟨place, by rw [follow, hdirectory], ?_⟩
    rw [List.nil_append, follow_cons name [] hdirectory] at h
    split at h
    · cases h
    · split at h
      · rw [← Except.ok.inj h]
        rfl
      · rw [follow, entered, if_pos hname] at h
        split at h
        · rw [← Except.ok.inj h]
          rfl
        · cases h
  | cons part rest ih =>
    have hdirectory := follow_cons_eq_ok h
    rw [List.cons_append, follow_cons part _ hdirectory] at h
    rw [follow_cons part rest hdirectory]
    split at h
    · cases h
    · rename_i hsize
      rw [if_neg hsize]
      split at h
      · rename_i habsent
        have hempty := List.all_eq_true.1 habsent.2.2 name (by simp)
        exact absurd (String.isEmpty_iff.1 hempty) hname.1
      · obtain ⟨directory, hfollow, htarget⟩ := ih h
        refine ⟨directory, ?_, htarget⟩
        rw [if_neg, hfollow]
        rintro ⟨hpart, hnone, -⟩
        obtain ⟨first, others, hcons⟩ := List.exists_cons_of_ne_nil
          (List.append_ne_nil_of_right_ne_nil rest (List.cons_ne_nil name []))
        rw [hcons, entered, if_pos hpart] at h
        rw [follow_cons_eq_ok h] at hnone
        cases hnone

/-- A slash or a dot at the end leads to the directory itself. -/
theorem follow_append_void {part : String} (hpart : part = "" ∨ part = ".") {parts : List String}
    {directory : Place} (h : tree.follow place parts = .ok (.found directory .directory)) :
    tree.follow place (parts ++ [part]) = .ok (.found directory .directory) := by
  have hname : ¬IsName part := by rcases hpart with rfl | rfl <;> decide
  have hup : part ≠ ".." := by rcases hpart with rfl | rfl <;> decide
  induction parts generalizing place with
  | nil =>
    rw [follow] at h
    split at h
    · rename_i node hnode
      obtain ⟨rfl, rfl⟩ : place = directory ∧ node = .directory := by simpa using h
      rw [List.nil_append, follow_cons part [] hnode, if_neg (fun h => hname h.1),
        if_neg (fun h => hname h.1), entered, if_neg hname, if_neg hup, follow, hnode]
    · cases h
  | cons first rest ih =>
    have hdirectory := follow_cons_eq_ok h
    rw [follow_cons first rest hdirectory] at h
    rw [List.cons_append, follow_cons first _ hdirectory]
    split at h
    · cases h
    · rename_i hsize
      rw [if_neg hsize]
      split at h
      · cases h
      · rename_i hpresent
        rw [if_neg, ih h]
        rintro ⟨hfirst, hnone, hall⟩
        rw [List.all_append, Bool.and_eq_true] at hall
        exact hpresent ⟨hfirst, hnone, hall.1⟩

theorem Keeps.find_found (h : Keeps goals tree next) {path : String} {node node' : Node}
    (hfound : tree.find path = .ok (.found goal node)) (hnode : next.node? goal = some node') :
    next.find path = .ok (.found goal node') := by
  obtain ⟨hnul, hempty, hfollow⟩ := find_eq_ok_iff.1 hfound
  rw [← h.current_eq] at hfollow
  exact find_eq_ok_iff.2 ⟨hnul, hempty, h.follow_found hfollow hnode⟩

theorem isName_of_isFileName {name : String} (h : Path.IsFileName name) : IsName name := by
  have hvoid := h.isVoid_eq
  refine ⟨?_, ?_, h.ne_up⟩
  · rintro rfl
    exact absurd hvoid (by decide)
  · rintro rfl
    exact absurd hvoid (by decide)

theorem partsOf_eq_append {path : String} {before after : List Char}
    (h : path.toList = before ++ '/' :: after) :
    partsOf path =
      (Path.parts before).map String.ofList ++ (Path.parts after).map String.ofList := by
  rw [partsOf, h, Path.parts_append, List.map_append]

theorem isAbsolute_append {path : String} (h : path ≠ "") (more : String) :
    Path.isAbsolute (path ++ more) = Path.isAbsolute path := by
  rw [Path.isAbsolute, Path.isAbsolute, String.toList_append, List.head?_append_of_ne_nil]
  exact fun hnil => h (String.toList_eq_nil_iff.1 hnil)

/-- What is found behind the last slash of a path is in the directory before it. -/
theorem find_name {name joined : String} (hname : Path.IsFileName name) {before : List Char}
    (hjoined : joined.toList = before ++ '/' :: name.toList) {target : Target}
    (h : tree.find joined = .ok target) :
    ∃ directory, tree.follow (if Path.isAbsolute joined then [] else tree.current)
        ((Path.parts before).map String.ofList) = .ok (.found directory .directory) ∧
      target.place = name :: directory := by
  obtain ⟨-, -, hfollow⟩ := find_eq_ok_iff.1 h
  rw [partsOf_eq_append hjoined, Path.parts_of_not_mem hname.slash_not_mem, List.map_singleton,
    String.ofList_toList] at hfollow
  exact follow_append (isName_of_isFileName hname) hfollow

/-- A file whose path goes on from another with a name is in the directory that the other leads
to. -/
theorem find_join {name parent : String} (hname : Path.IsFileName name) {target : Target}
    (h : tree.find (Path.join parent name) = .ok target) :
    ∃ directory, tree.find (if parent = "" then "." else parent) =
        .ok (.found directory .directory) ∧ target.place = name :: directory := by
  have hrelative := Path.isAbsolute_of_not_mem hname.slash_not_mem
  rw [Path.join, hrelative, if_neg Bool.false_ne_true] at h
  by_cases hparent : parent = ""
  · subst hparent
    rw [if_pos (by decide), String.empty_append] at h
    obtain ⟨-, -, hfollow⟩ := find_eq_ok_iff.1 h
    rw [hrelative, if_neg Bool.false_ne_true, partsOf, Path.parts_of_not_mem hname.slash_not_mem,
      List.map_singleton, String.ofList_toList, ← List.nil_append [name]] at hfollow
    obtain ⟨directory, hdirectory, hplace⟩ := follow_append (isName_of_isFileName hname) hfollow
    refine ⟨directory, find_eq_ok_iff.2 ⟨by decide, by decide, ?_⟩, hplace⟩
    exact follow_append_void (.inr rfl) hdirectory
  · rw [if_neg hparent]
    by_cases hopen : parent.toList.getLast? = some '/'
    · obtain ⟨before, hbefore⟩ := List.getLast?_eq_some_iff.1 hopen
      have hjoined : (parent ++ name).toList = before ++ '/' :: name.toList := by
        rw [String.toList_append, hbefore, List.append_assoc, List.singleton_append]
      rw [if_pos (by simp [hopen])] at h
      obtain ⟨directory, hdirectory, hplace⟩ := find_name hname hjoined h
      rw [isAbsolute_append hparent] at hdirectory
      refine ⟨directory, find_eq_ok_iff.2 ⟨fun hmem => ?_, hparent, ?_⟩, hplace⟩
      · refine (find_eq_ok_iff.1 h).1 ?_
        rw [String.toList_append]
        exact List.mem_append_left _ hmem
      · rw [partsOf_eq_append hbefore]
        exact follow_append_void (.inl rfl) hdirectory
    · have hjoined : (parent ++ "/" ++ name).toList = parent.toList ++ '/' :: name.toList := by
        rw [String.toList_append, String.toList_append, List.append_assoc]
        rfl
      rw [if_neg (by simp [hparent, hopen])] at h
      obtain ⟨directory, hdirectory, hplace⟩ := find_name hname hjoined h
      rw [String.append_assoc, isAbsolute_append hparent] at hdirectory
      refine ⟨directory, find_eq_ok_iff.2 ⟨fun hmem => ?_, hparent, hdirectory⟩, hplace⟩
      refine (find_eq_ok_iff.1 h).1 ?_
      rw [hjoined]
      exact List.mem_append_left _ hmem

theorem find_withFileName {base old name : String} (hbase : Path.fileName? base = some old)
    (hname : Path.IsFileName name) {target : Target}
    (h : tree.find (Path.withFileName base name) = .ok target) :
    ∃ directory, tree.find (Path.directory base) = .ok (.found directory .directory) ∧
      target.place = name :: directory := by
  obtain ⟨parent, hparent, -⟩ := Path.exists_parent?_trimmed hbase
  rw [Path.withFileName_eq hbase, hparent] at h
  rw [Path.directory_eq hparent]
  exact find_join hname h

end DrumMachine.Tree
