import StatsBoard.File.Basic
import StatsBoard.Text.Split

/-!
# Trees of files

A tree of files as a value: under each path a directory or a file. It behaves like the files of a
machine, and the steps that use files can be followed on it.
-/

namespace StatsBoard

/-- What stands under a path. -/
inductive FileNode where
  | directory
  | file (text : String)
deriving DecidableEq, Repr

/-- A tree of files. The top is a directory without a name. -/
structure FileTree where
  nodes : List (List String × FileNode) := []
deriving DecidableEq, Repr

namespace FileTree

/-- The names on the way to a path. The top of all absolute paths is called by the slash. -/
def names (path : String) : List String :=
  let pieces := (Text.split (· == '/') path.toList).map String.ofList
  let absolute := if path.toList.head? = some '/' then ["/"] else []
  absolute ++ pieces.filter fun name => name != "" && name != "."

/-- What stands at the end of a way, if anything does. -/
def node? (tree : FileTree) (way : List String) : Option FileNode :=
  if way = [] then some .directory else (tree.nodes.find? (·.1 == way)).map (·.2)

/-- Put something at the end of a way. -/
def put (tree : FileTree) (way : List String) (node : FileNode) : FileTree :=
  ⟨(way, node) :: tree.nodes.filter (·.1 != way)⟩

/-- The ways that lead to a way, shortest first, without the way itself. -/
def approaches (way : List String) : List (List String) :=
  (List.range way.length).map way.take

/-- All that must be a directory on a way is one. -/
def approach (tree : FileTree) (way : List String) : Except FileFault Unit :=
  (approaches way).forM fun part =>
    match tree.node? part with
    | some .directory => .ok ()
    | some (.file _) => .error .notDirectory
    | none => .error .notFound

/-- The way to a path; the empty path leads nowhere. -/
def way (path : String) : Except FileFault (List String) :=
  if path = "" then .error .notFound else .ok (names path)

/-- The text of a file. -/
def read (tree : FileTree) (path : String) : Except FileFault String := do
  let way ← way path
  tree.approach way
  match tree.node? way with
  | some (.file text) => .ok text
  | some .directory => .error .isDirectory
  | none => .error .notFound

/-- Change the text of a file, starting from no text if it is missing. -/
def modify (tree : FileTree) (path : String) (change : String → String) :
    Except FileFault FileTree := do
  let way ← way path
  tree.approach way
  match tree.node? way with
  | some (.file text) => .ok (tree.put way (.file (change text)))
  | some .directory => .error .isDirectory
  | none => .ok (tree.put way (.file (change "")))

/-- Replace a file by a text. -/
def write (tree : FileTree) (path text : String) : Except FileFault FileTree :=
  tree.modify path fun _ => text

/-- Add a text at the end of a file. -/
def append (tree : FileTree) (path text : String) : Except FileFault FileTree :=
  tree.modify path (· ++ text)

/-- Make a directory on a way whose other parts exist. -/
def makeDirectory (tree : FileTree) (whole way : List String) : Except FileFault FileTree :=
  match tree.node? way with
  | some .directory => .ok tree
  | some (.file _) => .error (if way = whole then .alreadyExists else .notDirectory)
  | none => .ok (tree.put way .directory)

/-- Make a directory and those that it stands in. -/
def makeDirectories (tree : FileTree) (path : String) : Except FileFault FileTree := do
  let way ← way path
  (approaches way ++ [way]).foldlM (fun tree part => tree.makeDirectory way part) tree

/-- Change a tree if that is possible. -/
def attempt (change : FileTree → Except FileFault FileTree) :
    StateM FileTree (Except FileFault Unit) := do
  match change (← get) with
  | .ok tree =>
    set tree
    return .ok ()
  | .error fault => return .error fault

/-- A tree of files as files that can be read and written. -/
def disk : Disk (StateM FileTree) where
  read path := return (← get).read path
  write path text := attempt (·.write path text)
  append path text := attempt (·.append path text)
  makeDirectories path := attempt (·.makeDirectories path)

end FileTree

end StatsBoard
