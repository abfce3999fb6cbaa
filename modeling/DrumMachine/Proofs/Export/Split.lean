import DrumMachine.Proofs.Export
import DrumMachine.Proofs.Files.Keeps
import DrumMachine.Proofs.Playback.Mixdown

/-!
# One file for each track

The files of tracks are beside each other in the directory of the base file, each with the name of
its track in its own, as long as no name has a slash in it: then each track is written to a file of
its own and nothing else is changed (`writeTracks_split`). A slash makes a path of the name, and that
may lead anywhere; two names may lead to the same file (`not_beside_of_slashes`).
-/

namespace DrumMachine.Export

open DrumMachine.Path DrumMachine.Tree

variable {base old : String}

/-- The name of the file of a track beside a file. -/
def trackName (old track : String) : String :=
  let (stem, extension) := cutExtension old.toList
  String.ofList (stem ++ track.toList ++ ending extension)

theorem splitTrackPath_eq (hbase : fileName? base = some old) (track : String) :
    splitTrackPath base track = withFileName base (trackName old track) := by
  rw [splitTrackPath, hbase, trackName]
  refine congrArg (withFileName base) (String.toList_inj.1 ?_)
  dsimp only
  split
  · rename_i hcut
    simp [hcut, ending]
  · rename_i hcut
    simp [hcut, ending]

theorem isCut_of_fileName? (hbase : fileName? base = some old) :
    IsCut old.toList (cutExtension old.toList).1 (ending (cutExtension old.toList).2) := by
  refine isCut_cutExtension fun hnil => ?_
  have hvoid := (isFileName_of_fileName? hbase).isVoid_eq
  rw [hnil] at hvoid
  exact absurd hvoid (by decide)

theorem isFileName_trackName (hbase : fileName? base = some old) {track : String}
    (htrack : '/' ∉ track.toList) : IsFileName (trackName old track) :=
  isFileName_insert (isFileName_of_fileName? hbase) (isCut_of_fileName? hbase) htrack

theorem trackName_injective {track other : String} (h : trackName old track = trackName old other) :
    track = other :=
  String.toList_inj.1 (insert_injective (String.ofList_injective h))

/-! ### Writing the files -/

/-- The places of files with these names in the directory that a path leads to. -/
def Within (tree : Tree) (path : String) (names : List String) (place : Place) : Prop :=
  ∃ directory, tree.find path = .ok (.found directory .directory) ∧
    ∃ name ∈ names, place = name :: directory

theorem Within.mono {tree next : Tree} {goals : Place → Prop} {path : String}
    {names more : List String} {place : Place} (h : Within tree path names place)
    (hkeeps : Keeps goals tree next) (hnames : names ⊆ more) : Within next path more place := by
  obtain ⟨directory, hfind, name, hname, rfl⟩ := h
  have hdirectory : tree.node? directory = some .directory := agrees_of_find hfind
  exact ⟨directory, hkeeps.find_found hfind (hkeeps.node?_directory _ hdirectory), name,
    hnames hname, rfl⟩

variable {name : String} {sound : Stereo} {encoding : Wave.Encoding} {tree next : Tree}

theorem keeps_of_replace (hbase : fileName? base = some old) (hname : IsFileName name)
    {content : ByteArray} (h : tree.replace (withFileName base name) content = .ok next) :
    Keeps (Within next (directory base) [name]) tree next ∧
      ∃ place, next.find (withFileName base name) = .ok (.found place (.file content)) ∧
        Within next (directory base) [name] place := by
  obtain ⟨target, hfind, htakes, rfl⟩ := exists_target_of_replace h
  obtain ⟨place, hdirectory, hplace⟩ := find_withFileName hbase hname hfind
  have hfree : tree.node? target.place ≠ some .directory := htakes.node?_ne (agrees_of_find hfind)
  have hwithin : Within tree (directory base) [name] target.place :=
    ⟨place, hdirectory, name, List.mem_singleton_self name, hplace⟩
  have hput : Keeps (fun _ => True) tree (tree.put target.place (.file content)) :=
    keeps_put hfree (.inl trivial)
  have hnext := hwithin.mono hput (List.Subset.refl _)
  exact ⟨keeps_put hfree (.inl hnext), target.place, find_put hfind htakes content, hnext⟩

theorem keeps_of_writeWave (hbase : fileName? base = some old) (hname : IsFileName name)
    {result : Except Failure Unit}
    (h : (writeWave (withFileName base name) sound encoding :
      StateM Tree (Except Failure Unit)).run tree = (result, next)) :
    Keeps (Within next (directory base) [name]) tree next ∧ (result = .ok () →
      ∃ place, next.find (withFileName base name) =
          .ok (.found place (.file (Wave.encodeStereo encoding sound))) ∧
        Within next (directory base) [name] place) := by
  unfold writeWave at h
  obtain ⟨made, mid, hmake, h⟩ := exists_run_of_bind h
  have hmid := keeps_of_makeDirectories (Within next (directory base) [name]) hmake
  cases made with
  | error error =>
    obtain ⟨rfl, rfl⟩ := Prod.mk.inj h
    exact ⟨hmid, nofun⟩
  | ok made =>
    change StateT.run (Failure.during _ <$>
      (Disk.replace _ _ : StateM Tree (Except FileError Unit))) mid = _ at h
    rw [StateT.run_map, run_replace] at h
    split at h
    · rename_i written hwritten
      obtain ⟨rfl, rfl⟩ := Prod.mk.inj h
      obtain ⟨hkeeps, hplace⟩ := keeps_of_replace hbase hname hwritten
      exact ⟨hmid.trans hkeeps, fun _ => hplace⟩
    · obtain ⟨rfl, rfl⟩ := Prod.mk.inj h
      exact ⟨hmid, nofun⟩

theorem run_writeSplit_cons {track : String} {entries : List (String × Stereo)} {mid : Tree}
    {files : List String}
    (h : (writeWave (splitTrackPath base track) sound encoding :
      StateM Tree (Except Failure Unit)).run tree = (.ok (), mid))
    (hrest : (writeSplit base encoding entries :
      StateM Tree (Except Failure (List String))).run mid = (.ok files, next)) :
    (writeSplit base encoding ((track, sound) :: entries) :
      StateM Tree (Except Failure (List String))).run tree =
        (.ok (splitTrackPath base track :: files), next) := by
  unfold writeSplit
  rw [run_bind_of_run h]
  dsimp only
  rw [run_bind_of_run hrest]
  rfl

theorem keeps_of_writeSplit (hbase : fileName? base = some old) {entries : List (String × Stereo)}
    (hslash : ∀ entry ∈ entries, '/' ∉ entry.1.toList) {result : Except Failure (List String)}
    (h : (writeSplit base encoding entries :
      StateM Tree (Except Failure (List String))).run tree = (result, next)) :
    Keeps (Within next (directory base) (entries.map fun entry => trackName old entry.1)) tree
      next := by
  induction entries generalizing tree result with
  | nil =>
    obtain ⟨-, rfl⟩ := Prod.mk.inj h
    exact .refl _ _
  | cons entry entries ih =>
    obtain ⟨track, sound⟩ := entry
    obtain ⟨htrack, hslash⟩ := List.forall_mem_cons.1 hslash
    unfold writeSplit at h
    obtain ⟨written, mid, hwrite, h⟩ := exists_run_of_bind h
    rw [splitTrackPath_eq hbase] at hwrite
    obtain ⟨hmid, -⟩ := keeps_of_writeWave hbase (isFileName_trackName hbase htrack) hwrite
    cases written with
    | error failure =>
      obtain ⟨-, rfl⟩ := Prod.mk.inj h
      exact hmid.mono fun place hplace => hplace.mono (.refl (fun _ => False) _) (by simp)
    | ok written =>
      obtain ⟨rest, last, hrest, h⟩ := exists_run_of_bind h
      obtain rfl : last = next := by
        cases rest with
        | error failure => exact congrArg Prod.snd h
        | ok paths => exact congrArg Prod.snd h
      have hnext := ih hslash hrest
      refine Keeps.trans (hmid.mono fun place hplace => ?_) (hnext.mono fun place hplace => ?_)
      · exact hplace.mono hnext (by simp)
      · exact hplace.mono (.refl (fun _ => False) _) (by simp)

/-- A file stays as it was written while files with other names are written beside it. -/
theorem read_of_keeps {mid : Tree} {content : ByteArray} {names : List String} (path : String)
    (hwritten : ∃ place, mid.find path = .ok (.found place (.file content)) ∧
      Within mid (directory base) [name] place)
    (hkeeps : Keeps (Within next (directory base) names) mid next) (hname : name ∉ names) :
    next.read path = .ok content := by
  obtain ⟨place, hfind, directory, -, _, hsingle, rfl⟩ := hwritten
  obtain rfl := List.mem_singleton.1 hsingle
  have hfile := hkeeps.node?_file (fun ⟨_, _, other, hother, heq⟩ =>
    hname ((List.cons.inj heq).1 ▸ hother)) (agrees_of_find hfind)
  rw [Tree.read, hkeeps.find_found hfind hfile]

theorem read_of_writeSplit (hbase : fileName? base = some old) {entries : List (String × Stereo)}
    (hslash : ∀ entry ∈ entries, '/' ∉ entry.1.toList) (hnodup : (entries.map (·.1)).Nodup)
    {files : List String}
    (h : (writeSplit base encoding entries :
      StateM Tree (Except Failure (List String))).run tree = (.ok files, next)) :
    files = entries.map (fun entry => splitTrackPath base entry.1) ∧ ∀ entry ∈ entries,
      next.read (splitTrackPath base entry.1) = .ok (Wave.encodeStereo encoding entry.2) := by
  induction entries generalizing tree files with
  | nil =>
    obtain ⟨hfiles, -⟩ := Prod.mk.inj h
    exact ⟨(Except.ok.inj hfiles).symm, nofun⟩
  | cons entry entries ih =>
    obtain ⟨track, sound⟩ := entry
    obtain ⟨htrack, hslash⟩ := List.forall_mem_cons.1 hslash
    obtain ⟨hfresh, hnodup⟩ := List.nodup_cons.1 hnodup
    unfold writeSplit at h
    obtain ⟨written, mid, hwrite, h⟩ := exists_run_of_bind h
    cases written with
    | error failure => exact absurd (congrArg Prod.fst h) (by intro heq; cases heq)
    | ok written =>
      obtain ⟨rest, last, hrest, h⟩ := exists_run_of_bind h
      cases rest with
      | error failure => exact absurd (congrArg Prod.fst h) (by intro heq; cases heq)
      | ok paths =>
        obtain rfl : last = next := congrArg Prod.snd h
        obtain rfl : splitTrackPath base track :: paths = files :=
          Except.ok.inj (congrArg Prod.fst h)
        obtain ⟨rfl, hread⟩ := ih hslash hnodup hrest
        refine ⟨rfl, List.forall_mem_cons.2 ⟨?_, hread⟩⟩
        rw [splitTrackPath_eq hbase] at hwrite ⊢
        obtain ⟨-, hwritten⟩ := keeps_of_writeWave hbase (isFileName_trackName hbase htrack) hwrite
        refine read_of_keeps _ (hwritten rfl) (keeps_of_writeSplit hbase hslash hrest) ?_
        rintro hmem
        obtain ⟨other, hother, heq⟩ := List.mem_map.1 hmem
        exact hfresh (List.mem_map.2 ⟨other, hother, trackName_injective heq⟩)

/-- The file of a track is beside the base file unless the track's name has a slash. -/
theorem beside_iff (hbase : fileName? base = some old) (track : String) :
    (parent? (splitTrackPath base track) = parent? base ∧
      fileName? (splitTrackPath base track) = some (trackName old track)) ↔ '/' ∉ track.toList := by
  constructor
  · rintro ⟨-, hname⟩ hmem
    refine slash_not_mem_of_fileName? hname ?_
    rw [trackName, String.toList_ofList]
    exact List.mem_append_left _ (List.mem_append_right _ hmem)
  · intro htrack
    have hname := isFileName_trackName hbase htrack
    rw [splitTrackPath_eq hbase]
    exact ⟨parent?_withFileName hbase hname, fileName?_withFileName hname base⟩

theorem not_same_of_ne (hbase : fileName? base = some old) {track other : String}
    (htrack : '/' ∉ track.toList) (hother : '/' ∉ other.toList) (hne : track ≠ other) :
    ¬Same (splitTrackPath base track) (splitTrackPath base other) := by
  intro hsame
  have hname := hsame.fileName?_eq
  rw [((beside_iff hbase track).2 htrack).2, ((beside_iff hbase other).2 hother).2] at hname
  exact hne (trackName_injective (Option.some.inj hname))

/-- Files of tracks without slashes in their names are beside the base file, apart from each other,
and the only ones that are written. -/
theorem writeTracks_split (base old : String) (hbase : fileName? base = some old) :
    ∃ stem ending, IsCut old.toList stem ending ∧
      (∀ track : String, (parent? (splitTrackPath base track) = parent? base ∧
        fileName? (splitTrackPath base track) =
          some (String.ofList (stem ++ track.toList ++ ending))) ↔ '/' ∉ track.toList) ∧
      (∀ track other : String, '/' ∉ track.toList → '/' ∉ other.toList → track ≠ other →
        ¬Same (splitTrackPath base track) (splitTrackPath base other)) ∧
      ∀ (tracks : List Track) (encoding : Wave.Encoding) (tree next : Tree)
        (result : Except Failure (List String)), (∀ track ∈ tracks, '/' ∉ track.name.toList) →
        (writeTracks tracks base .split encoding :
          StateM Tree (Except Failure (List String))).run tree = (result, next) →
        Keeps (Within next (directory base) (tracks.map fun track =>
          String.ofList (stem ++ track.name.toList ++ ending))) tree next ∧
        ∀ files, result = .ok files → (tracks.map (·.name)).Nodup →
          files = tracks.map (fun track => splitTrackPath base track.name) ∧
          ∀ entry ∈ Mixdown.split tracks,
            next.read (splitTrackPath base entry.1) =
              .ok (Wave.encodeStereo encoding entry.2) := by
  refine ⟨_, _, isCut_of_fileName? hbase, beside_iff hbase,
    fun track other htrack hother hne => not_same_of_ne hbase htrack hother hne,
    fun tracks encoding tree next result hslash h => ?_⟩
  have hslash' : ∀ entry ∈ Mixdown.split tracks, '/' ∉ entry.1.toList := by
    intro entry hentry
    rw [Mixdown.split_eq_map] at hentry
    obtain ⟨track, htrack, rfl⟩ := List.mem_map.1 hentry
    exact hslash track htrack
  have hnames : ∀ {α : Type} (f : String → α),
      (Mixdown.split tracks).map (fun entry => f entry.1) =
        tracks.map fun track => f track.name := by
    intro α f
    rw [Mixdown.split_eq_map, List.map_map]
    rfl
  have hkeeps := keeps_of_writeSplit hbase hslash' h
  rw [hnames] at hkeeps
  refine ⟨hkeeps, ?_⟩
  rintro files rfl hnodup
  rw [← hnames fun name => name] at hnodup
  rw [← hnames fun name => splitTrackPath base name]
  exact read_of_writeSplit hbase hslash' hnodup h

/-- Two tracks are written to their own files in the current directory. -/
theorem writeTracks_split_of_two :
    ∃ (next : Tree) (files : List String), fileName? "out.wav" = some "out.wav" ∧
      (writeTracks [⟨"kick", #[1], #[1]⟩, ⟨"snare", #[0], #[0]⟩] "out.wav" .split .float32 :
        StateM Tree (Except Failure (List String))).run {} = (.ok files, next) ∧
      files = ["outkick.wav", "outsnare.wav"] ∧
      ∀ entry ∈ Mixdown.split [⟨"kick", #[1], #[1]⟩, ⟨"snare", #[0], #[0]⟩],
        next.read (splitTrackPath "out.wav" entry.1) =
          .ok (Wave.encodeStereo .float32 entry.2) := by
  have hbase : fileName? "out.wav" = some "out.wav" := by decide
  obtain ⟨stem, ending, -, -, -, hwrite⟩ := writeTracks_split "out.wav" "out.wav" hbase
  obtain ⟨files, next, hrun⟩ : ∃ files next,
      (writeTracks [⟨"kick", #[1], #[1]⟩, ⟨"snare", #[0], #[0]⟩] "out.wav" .split .float32 :
        StateM Tree (Except Failure (List String))).run {} = (.ok files, next) := ⟨_, _, rfl⟩
  obtain ⟨-, hread⟩ := hwrite _ _ _ _ _ (by decide) hrun
  obtain ⟨hfiles, hread⟩ := hread files rfl (by decide)
  exact ⟨next, files, hbase, hrun, hfiles.trans (by decide), hread⟩

/-- Two tracks with slashes in their names can be declared. They have one file, in another
directory, and it holds the second of them. -/
theorem not_beside_of_slashes :
    (∃ song, Song.compile "[WHO]\n/a = ( path = a.wav )\n//a = ( path = b.wav )" = .ok song ∧
      song.samples.contains "/a" = true ∧ song.samples.contains "//a" = true) ∧
    fileName? "out.wav" = some "out.wav" ∧
    parent? (splitTrackPath "out.wav" "/a") ≠ parent? "out.wav" ∧
    Same (splitTrackPath "out.wav" "/a") (splitTrackPath "out.wav" "//a") ∧
    ∀ tracks first second, Mixdown.split tracks = [("/a", first), ("//a", second)] → ∃ next,
      (writeTracks tracks "out.wav" .split .float32 :
        StateM Tree (Except Failure (List String))).run {} =
          (.ok ["out/a.wav", "out//a.wav"], next) ∧
      next.read "out/a.wav" = .ok (Wave.encodeStereo .float32 second) := by
  refine ⟨⟨_, rfl, by decide, by decide⟩, by decide, by decide, by decide,
    fun tracks first second htracks => ?_⟩
  have hfirst : splitTrackPath "out.wav" "/a" = "out/a.wav" := by decide
  have hsecond : splitTrackPath "out.wav" "//a" = "out//a.wav" := by decide
  let made : Tree := { nodes := [(["out"], .directory)] }
  have hwrite : (writeWave "out/a.wav" first .float32 :
      StateM Tree (Except Failure Unit)).run {} =
        (.ok (), made.put ["a.wav", "out"] (.file (Wave.encodeStereo .float32 first))) := rfl
  have hagain : (writeWave "out//a.wav" second .float32 :
      StateM Tree (Except Failure Unit)).run
        (made.put ["a.wav", "out"] (.file (Wave.encodeStereo .float32 first))) =
          (.ok (), made.put ["a.wav", "out"] (.file (Wave.encodeStereo .float32 second))) := rfl
  refine ⟨made.put ["a.wav", "out"] (.file (Wave.encodeStereo .float32 second)), ?_, rfl⟩
  rw [← hfirst] at hwrite
  rw [← hsecond] at hagain
  rw [← hfirst, ← hsecond, writeTracks, htracks]
  exact run_writeSplit_cons hwrite (run_writeSplit_cons hagain rfl)

end DrumMachine.Export
