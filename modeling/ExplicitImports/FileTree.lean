import ExplicitImports.FileSystem

/-!
Files held in memory. Every path is read from the root and normalised before it is looked up, and a name that is
no UTF-8 is looked up as it is displayed. The root is there from the moment something was made below it.
-/
namespace ExplicitImports

inductive Entry where
  | directory
  | file (content : Text)
  deriving DecidableEq, Repr

/-- All entries by the names that lead to them. With an entry, all directories on the way to it are there. -/
structure FileTree where
  entries : List (List Text × Entry)
  deriving DecidableEq, Repr

namespace FileTree

def empty : FileTree := ⟨[]⟩

def locate (p : Path) : List Text := p.lexical.map Path.display

def at? (tree : FileTree) (place : List Text) : Option Entry :=
  (tree.entries.find? (·.1 == place)).map (·.2)

def get? (tree : FileTree) (p : Path) : Option Entry := tree.at? (locate p)

def set (tree : FileTree) (place : List Text) (entry : Entry) : FileTree :=
  ⟨(place, entry) :: tree.entries.filter (·.1 != place)⟩

def stages : List α → List (List α)
  | [] => [[]]
  | a :: rest => [] :: (stages rest).map (a :: ·)

/-- Makes the directories at all given places, outermost first, and refuses where a file is. -/
def makePlaces (tree : FileTree) : List (List Text) → Option FileTree
  | [] => some tree
  | place :: rest =>
    match tree.at? place with
    | some .directory => makePlaces tree rest
    | some (.file _) => none
    | none => makePlaces (tree.set place .directory) rest

def makeDir? (tree : FileTree) (p : Path) : Option FileTree :=
  tree.makePlaces (stages (locate p))

def put? (tree : FileTree) (p : Path) (content : Text) : Option FileTree :=
  match tree.get? p with
  | some .directory => none
  | some (.file _) => some (tree.set (locate p) (.file content))
  | none =>
    match tree.at? (locate p).dropLast with
    | some .directory => if (locate p).isEmpty then none else some (tree.set (locate p) (.file content))
    | _ => none

def remove? (tree : FileTree) (p : Path) : Option FileTree :=
  let place := locate p
  if place.isEmpty || (tree.get? p).isNone then none
  else some ⟨tree.entries.filter (!place.isPrefixOf ·.1)⟩

/-- Makes the directory a file stands in and writes the file. The directory stays if the file is refused. -/
def write (tree : FileTree) (p : Path) (content : Text) : FileTree × Bool :=
  let made := match p.parent? with
    | some dir => tree.makeDir? dir
    | none => some tree
  match made with
  | none => (tree, false)
  | some tree =>
    match tree.put? p content with
    | some tree => (tree, true)
    | none => (tree, false)

def isDir (tree : FileTree) (p : Path) : Bool := tree.get? p == some .directory

def read? (tree : FileTree) (p : Path) : Option Text :=
  match tree.get? p with
  | some (.file content) => some content
  | _ => none

def toFileSystem (tree : FileTree) : FileSystem where
  exists_ p := (tree.get? p).isSome
  isDir := tree.isDir

def toStore (tree : FileTree) : PackageStore where
  isFile p := (tree.read? p).isSome
  isDir := tree.isDir
  read? := tree.read?

end FileTree

end ExplicitImports
