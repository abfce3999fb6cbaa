import DrumMachine.Files.Disk

/-!
# Files in memory

A tree of directories and files with a current directory, and the way a path leads through it: every
part but the last has to name a directory, and a step up leads to the directory above. `Tree` is a
`Disk`.
-/

namespace DrumMachine

inductive Tree.Node where
  | file (content : ByteArray)
  | directory
deriving Inhabited

/-- A place in a tree: the names that lead to it, the last one first. -/
abbrev Tree.Place := List String

/-- The nodes by place, the latest first, without the root, which is always a directory. -/
structure Tree where
  nodes : List (Tree.Place × Tree.Node) := []
  current : Tree.Place := []
deriving Inhabited

namespace Tree

def node? (tree : Tree) (place : Place) : Option Node :=
  if place.isEmpty then some .directory else (tree.nodes.find? (·.1 == place)).map (·.2)

/-- Put a node in a place, instead of what was there. -/
def put (tree : Tree) (place : Place) (node : Node) : Tree :=
  { tree with nodes := (place, node) :: tree.nodes.filter (·.1 != place) }

/-- The tree with a directory in a place and in every place above it. -/
def putDirectories (tree : Tree) : Place → Tree
  | [] => tree
  | name :: above =>
    let tree := tree.putDirectories above
    match tree.node? (name :: above) with
    | some .directory => tree
    | _ => tree.put (name :: above) .directory

/-- The tree with a file in a place and directories above it. -/
def putFile (tree : Tree) (place : Place) (content : ByteArray) : Tree :=
  (tree.putDirectories place.tail).put place (.file content)

def pathOf (place : Place) : String := "/" ++ "/".intercalate place.reverse

def maxName : Nat := 255

/-- Where a path leads: to something, or to a name that its directory does not hold. -/
inductive Target where
  | found (place : Place) (node : Node)
  | absent (place : Place)

def follow (tree : Tree) : Place → List String → Except FileError Target
  | place, [] =>
    match tree.node? place with
    | some node => .ok (.found place node)
    | none => .error .notFound
  | place, part :: rest =>
    match tree.node? place with
    | none => .error .notFound
    | some (.file _) => .error .notDirectory
    | some .directory =>
      if part = "" || part = "." then tree.follow place rest
      else if part = ".." then tree.follow place.tail rest
      else if maxName < part.utf8ByteSize then .error .nameTooLong
      else if (tree.node? (part :: place)).isNone && rest.all (·.isEmpty) then
        .ok (.absent (part :: place))
      else tree.follow (part :: place) rest

/-- The parts of a path, and whether it starts at the root. -/
def partsOf (path : String) : List String := (Path.parts path.toList).map String.ofList

def find (tree : Tree) (path : String) : Except FileError Target :=
  if path.toList.contains '\x00' then .error .nulInName
  else if path.isEmpty then .error .notFound
  else tree.follow (if Path.isAbsolute path then [] else tree.current) (partsOf path)

def endsOpen (path : String) : Bool := path.toList.getLast? == some '/'

/-- The last part of a path is a dot or a step up, or there is none. -/
def endsInDots (path : String) : Bool :=
  match (partsOf path).reverse.dropWhile (·.isEmpty) with
  | part :: _ => part == "." || part == ".."
  | [] => true

def read (tree : Tree) (path : String) : Except FileError ByteArray :=
  match tree.find path with
  | .error error => .error error
  | .ok (.found _ (.file content)) => .ok content
  | .ok (.found _ .directory) => .error .isDirectory
  | .ok (.absent _) => .error .notFound

/-- The tree with a file written where the path leads. -/
def write (tree : Tree) (path : String) (content : ByteArray) : Except FileError Tree :=
  match tree.find path with
  | .error error => .error error
  | .ok (.found _ .directory) => .error .isDirectory
  | .ok (.found place (.file _)) => .ok (tree.put place (.file content))
  | .ok (.absent place) =>
    if endsOpen path then .error .isDirectory else .ok (tree.put place (.file content))

/-- The tree with a finished file moved to where the path leads. -/
def replace (tree : Tree) (path : String) (content : ByteArray) : Except FileError Tree :=
  match tree.find path with
  | .error error => .error error
  | .ok target =>
    if endsInDots path then .error .busy
    else if endsOpen path then .error .notDirectory
    else match target with
      | .found _ .directory => .error .isDirectory
      | .found place (.file _) | .absent place => .ok (tree.put place (.file content))

def makeDirectory (tree : Tree) (path : String) : Except FileError Tree :=
  match tree.find path with
  | .error error => .error error
  | .ok (.found _ _) => .error .exists
  | .ok (.absent place) => .ok (tree.put place .directory)

def isDirectory (tree : Tree) (path : String) : Bool :=
  match tree.find path with
  | .ok (.found _ .directory) => true
  | _ => false

def isFile (tree : Tree) (path : String) : Bool :=
  match tree.find path with
  | .ok (.found _ (.file _)) => true
  | _ => false

/-- Go on with the new tree, or report the error and keep the old one. -/
def update (change : Tree → Except FileError Tree) : StateM Tree (Except FileError Unit) := do
  match change (← get) with
  | .ok tree =>
    set tree
    return .ok ()
  | .error error => return .error error

instance : Disk (StateM Tree) where
  read path := return (← get).read path
  write path content := update (·.write path content)
  replace path content := update (·.replace path content)
  makeDirectory path := update (·.makeDirectory path)
  isDirectory path := return (← get).isDirectory path
  isFile path := return (← get).isFile path

end Tree

end DrumMachine
