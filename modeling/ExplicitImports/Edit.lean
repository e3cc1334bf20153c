import ExplicitImports.Declaration
import ExplicitImports.Json.Writer
import ExplicitImports.Literal

/-!
Edits of a source text. An edit replaces bytes by text; edits of one text are given with offsets into that text
and are made together.
-/
namespace ExplicitImports

/-- The characters of a text in its first bytes; a character that is cut is left out. -/
def Text.takeBytes : Nat → Text → Text
  | _, [] => []
  | n, c :: rest => if c.utf8Size ≤ n then c :: Text.takeBytes (n - c.utf8Size) rest else []

def Text.dropBytes : Nat → Text → Text
  | _, [] => []
  | n, c :: rest => if c.utf8Size ≤ n then Text.dropBytes (n - c.utf8Size) rest else c :: rest

def Text.slice (t : Text) (r : ByteRange) : Text :=
  Text.takeBytes (r.stop - r.start) (Text.dropBytes r.start t)

structure TextEdit where
  range : ByteRange
  text : Text
  deriving DecidableEq, Repr

namespace TextEdit

/-- Makes edits in the order of their places; `position` is where the rest of the text starts. -/
def applyFrom (position : Nat) (rest : Text) : List TextEdit → Text
  | [] => rest
  | e :: edits =>
    Text.takeBytes (e.range.start - position) rest ++ e.text
      ++ applyFrom e.range.stop (Text.dropBytes (e.range.stop - position) rest) edits

def inOrder (edits : List TextEdit) : List TextEdit :=
  edits.mergeSort fun a b => a.range.start ≤ b.range.start

def apply (source : Text) (edits : List TextEdit) : Text :=
  applyFrom 0 source (inOrder edits)

def fitsQuotes (quote : Char) (value : Text) : Bool :=
  value.all fun c => c != quote && c != '\\' && c != '\n' && c != '\r'

/-- The edit that gives a literal another value. The quotes stay where the value can stand between them;
otherwise the whole literal becomes a JSON string. -/
def ofLiteral (source : Text) (range : ByteRange) (value : Text) : TextEdit :=
  match source.slice range with
  | quote :: _ :: _ =>
    if Literal.isQuote quote && fitsQuotes quote value then
      ⟨⟨range.start + 1, range.stop - 1⟩, value⟩
    else ⟨range, Json.quote value⟩
  | _ => ⟨range, Json.quote value⟩

end TextEdit

end ExplicitImports
