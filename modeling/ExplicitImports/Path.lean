import ExplicitImports.Text

/-!
File paths with `/` as separator. A path keeps its spelling: joining and taking the parent cut and paste text,
and only `normalize` resolves `.`, `..` and doubled separators. Path names come from bytes, so a path may hold
runs of bytes that are no UTF-8; each such run is one glyph of its own.
-/
namespace ExplicitImports

/-- One place of a path: a character, or a longest run of bytes that is no UTF-8. -/
inductive Glyph where
  | char (c : Char)
  | illFormed
  deriving DecidableEq, Repr

abbrev Path := List Glyph

abbrev Name := List Glyph

namespace Glyph

def slash : Glyph := .char '/'

def isSlash (g : Glyph) : Bool := g == slash

def display : Glyph → Char
  | .char c => c
  | .illFormed => '\uFFFD'

def toChar? : Glyph → Option Char
  | .char c => some c
  | .illFormed => none

end Glyph

namespace Path

def ofText (t : Text) : Path := t.map .char

def display (p : Path) : Text := p.map Glyph.display

def toText? (p : Path) : Option Text := p.mapM Glyph.toChar?

def dot : Name := ofText ['.']

def dotDot : Name := ofText ['.', '.']

def isAbsolute : Path → Bool
  | g :: _ => g.isSlash
  | [] => false

/-- Continues a path by another one. An absolute continuation replaces it, and a separator is put between the
two unless one is there. -/
def join (p q : Path) : Path :=
  if q.isAbsolute then q
  else match p.getLast? with
    | none => q
    | some g => if g.isSlash then p ++ q else p ++ Glyph.slash :: q

/-- Appends text to the last segment, which starts no new segment of its own accord. -/
def withSuffix (p : Path) (suffix : Text) : Path := p ++ ofText suffix

def segments (p : Path) : List Name :=
  (p.splitOn Glyph.slash).filter (!·.isEmpty)

/-- Walks one segment further: `.` stays, `..` leaves the last name and stays at the root, any other name is
entered. -/
def enter (names : List Name) (segment : Name) : List Name :=
  if segment = dot then names
  else if segment = dotDot then names.dropLast
  else names ++ [segment]

/-- The names on the way from the root to the path, read without looking at any file. -/
def lexical (p : Path) : List Name :=
  p.segments.foldl enter []

def ofNames : List Name → Path
  | [] => [Glyph.slash]
  | names => names.flatMap (Glyph.slash :: ·)

def normalize (p : Path) : Path := ofNames p.lexical

/-- A piece between separators that names nothing: an empty one, or a dot after the first. -/
def isBlank (piece : Name) : Bool := piece.isEmpty || piece == dot

def ofPieces (pieces : List Name) : Path := List.intercalate [Glyph.slash] pieces

/-- The first piece and, innermost first, the pieces after it without the blank ones at the end. -/
def innermost (p : Path) : Name × List Name :=
  match p.splitOn Glyph.slash with
  | [] => ([], [])
  | first :: rest => (first, rest.reverse.dropWhile isBlank)

/-- The path without its last segment, as it is spelled. The root and the empty path have no parent. -/
def parent? (p : Path) : Option Path :=
  match innermost p with
  | ([], _ :: outer) =>
    match outer.dropWhile isBlank with
    | [] => some [Glyph.slash]
    | kept => some (ofPieces ([] :: kept.reverse))
  | ([], []) => none
  | (first, _ :: outer) => some (ofPieces (first :: (outer.dropWhile isBlank).reverse))
  | (_, []) => some []

/-- The last segment, if it is a name and not `.` or `..`. -/
def fileName? (p : Path) : Option Name :=
  let last := match innermost p with
    | (_, name :: _) => name
    | (first, []) => first
  if last.isEmpty || last == dot || last == dotDot then none else some last

def ancestorsUpTo : Nat → Path → List Path
  | 0, _ => []
  | n + 1, p => p :: match p.parent? with
    | some q => ancestorsUpTo n q
    | none => []

/-- The path and all its parents, innermost first. A parent is shorter, so there are no more than the path is
long. -/
def ancestors (p : Path) : List Path := ancestorsUpTo (p.length + 1) p

end Path

end ExplicitImports
