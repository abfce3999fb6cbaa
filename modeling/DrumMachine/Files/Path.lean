/-!
# Paths

A path is a text in which slashes separate names. It starts at the root if it begins with a slash.
Empty parts and single dots between slashes and at the end do not count, so the last part of a path
is the last that says something; a leading single dot is kept.
-/

namespace DrumMachine.Path

/-- The parts between slashes, one more than there are slashes. -/
def parts : List Char → List (List Char)
  | [] => [[]]
  | c :: rest =>
    if c = '/' then [] :: parts rest
    else match parts rest with
      | [] => [[c]]
      | part :: others => (c :: part) :: others

def ofParts : List (List Char) → List Char
  | [] => []
  | [part] => part
  | part :: others => part ++ '/' :: ofParts others

theorem parts_ne_nil (cs : List Char) : parts cs ≠ [] := by
  cases cs with
  | nil => simp [parts]
  | cons c rest =>
    simp only [parts]
    split
    · simp
    · split <;> simp

theorem ofParts_parts (cs : List Char) : ofParts (parts cs) = cs := by
  induction cs with
  | nil => rfl
  | cons c rest ih =>
    simp only [parts]
    split
    · rename_i hc
      obtain ⟨part, others, hparts⟩ := List.exists_cons_of_ne_nil (parts_ne_nil rest)
      rw [hparts] at ih ⊢
      simp [ofParts, ih, hc]
    · split
      · rename_i hparts
        exact absurd hparts (parts_ne_nil rest)
      · rename_i part others hparts
        rw [hparts] at ih
        cases others with
        | nil => simpa [ofParts] using ih
        | cons next others => simpa [ofParts] using ih

/-- The part says nothing. -/
def isVoid (part : List Char) : Bool := part == [] || part == ['.']

/-- The beginning that is never cut off, a root or a leading dot, and the parts after it. -/
def split : List Char → List Char × List (List Char)
  | '/' :: rest => (['/'], parts rest)
  | ['.'] => (['.'], [[]])
  | '.' :: '/' :: rest => (['.'], parts ('/' :: rest))
  | cs => ([], parts cs)

/-- The parts in reverse, from the last that says something. -/
def significant (segments : List (List Char)) : List (List Char) :=
  segments.reverse.dropWhile isVoid

def isAbsolute (path : String) : Bool := path.toList.head? == some '/'

/-- The name at the end of the path, unless it ends in a step up, or says nothing. -/
def fileName? (path : String) : Option String :=
  match significant (split path.toList).2 with
  | part :: _ => if part = ['.', '.'] then none else some (String.ofList part)
  | [] => none

def parent? (path : String) : Option String :=
  let (start, segments) := split path.toList
  match significant segments with
  | _ :: above => some (String.ofList (start ++ ofParts (above.dropWhile isVoid).reverse))
  | [] => if start = ['.'] then some "" else none

/-- The directory that a file of this path is in, the current one if the path does not say. -/
def directory (path : String) : String :=
  match parent? path with
  | none | some "" => "."
  | some parent => parent

/-- A name cut at its last dot, unless there is none or it comes first. -/
def cutExtension (name : List Char) : List Char × Option (List Char) :=
  let after := name.reverse.takeWhile (· ≠ '.')
  match name.reverse.dropWhile (· ≠ '.') with
  | _ :: before => if before.isEmpty then (name, none) else (before.reverse, some after.reverse)
  | [] => (name, none)

/-- The path seen from a base: an absolute path as it is, any other below the base. -/
def join (base path : String) : String :=
  if isAbsolute path then path
  else if base.isEmpty || base.toList.getLast? == some '/' then base ++ path
  else base ++ "/" ++ path

def withFileName (path name : String) : String :=
  match fileName? path with
  | some _ => join ((parent? path).getD path) name
  | none => join path name

/-- The path itself, then its parent, and so on up. -/
def ancestors (path : String) : List String :=
  climb (path.length + 1) path
where
  /-- At most `steps` of them; each is shorter than the one before. -/
  climb : Nat → String → List String
    | 0, _ => []
    | steps + 1, path =>
      path :: match parent? path with
        | some parent => climb steps parent
        | none => []

end DrumMachine.Path
