import ExplicitImports.Path

/-!
Module specifiers as text: which of them name a file, what their extension is, and to which path a local one
leads.
-/
namespace ExplicitImports.Specifier

/-- A local specifier names a file, relative to the referring module or absolute. All others are bare. -/
def isLocal : Text → Bool
  | c :: _ => c == '.' || c == '/'
  | [] => false

def baseName (s : Text) : Text :=
  (s.trimSlashes.reverse.takeWhile (· != '/')).reverse

/-- The extension of the last segment from its last dot on. A dot at the start of the segment begins a hidden
name and no extension; the parent segment `..` has none either. -/
def extname (s : Text) : Text :=
  let base := baseName s
  if base = ['.', '.'] then []
  else match base.reverse.dropWhile (· != '.') with
    | [] | [_] => []
    | _ :: _ => '.' :: (base.reverse.takeWhile (· != '.')).reverse

/-- The path a local specifier leads to from a directory. The specifier is read as a path and not as a URL, so
`?`, `#` and `%` are characters of a file name. -/
def resolvePath (directory : Path) (s : Text) : Path :=
  (directory.join (Path.ofText s)).normalize

end ExplicitImports.Specifier
