import ExplicitImports.Path

/-!
Percent-encoding over UTF-8, and the reading of bytes as path glyphs.
-/
namespace ExplicitImports.Url

def utf8 (c : Char) : List Nat := (String.utf8EncodeChar c).map UInt8.toNat

def percentByte (n : Nat) : Text :=
  ['%', (Nat.digitChar (n / 16 % 16)).toUpper, (Nat.digitChar (n % 16)).toUpper]

def percentEncode (inSet : Char → Bool) (t : Text) : Text :=
  t.flatMap fun c => if inSet c || 0x7F < c.toNat then (utf8 c).flatMap percentByte else [c]

def isControl (c : Char) : Bool := c.toNat < 0x20 || 0x7E < c.toNat

def inFragmentSet (c : Char) : Bool := isControl c || [' ', '"', '<', '>', '`'].contains c

def inPathSet (c : Char) : Bool := inFragmentSet c || ['#', '?', '{', '}'].contains c

def inUserSet (c : Char) : Bool :=
  inPathSet c || ['/', ':', ';', '=', '@', '[', '\\', ']', '^', '|'].contains c

def inQuerySet (special : Bool) (c : Char) : Bool :=
  isControl c || [' ', '"', '#', '<', '>'].contains c || (special && c == '\'')

/-- The bytes a text stands for. A percent sign without two hexadecimal digits stands for itself. -/
def percentDecode : Text → List Nat
  | '%' :: a :: b :: rest =>
    match hexValue? a, hexValue? b with
    | some x, some y => (x * 16 + y) :: percentDecode rest
    | _, _ => 0x25 :: percentDecode (a :: b :: rest)
  | c :: rest => utf8 c ++ percentDecode rest
  | [] => []

def continuation (first : Nat) : Option (List (Nat × Nat)) :=
  let any := (0x80, 0xBF)
  if first < 0x80 then some []
  else if 0xC2 ≤ first ∧ first ≤ 0xDF then some [any]
  else if first = 0xE0 then some [(0xA0, 0xBF), any]
  else if first = 0xED then some [(0x80, 0x9F), any]
  else if 0xE1 ≤ first ∧ first ≤ 0xEF then some [any, any]
  else if first = 0xF0 then some [(0x90, 0xBF), any, any]
  else if 0xF1 ≤ first ∧ first ≤ 0xF3 then some [any, any, any]
  else if first = 0xF4 then some [(0x80, 0x8F), any, any]
  else none

def fitting : List (Nat × Nat) → List Nat → List Nat
  | (low, high) :: ranges, b :: bytes =>
    if low ≤ b ∧ b ≤ high then b :: fitting ranges bytes else []
  | _, _ => []

def assemble (first : Nat) (more : List Nat) : Char :=
  let start := match more.length with
    | 0 => first
    | 1 => first % 0x20
    | 2 => first % 0x10
    | _ => first % 0x08
  Char.ofNat (more.foldl (fun n b => n * 64 + b % 64) start)

/-- Reads at most `n` glyphs from bytes. A longest beginning of a character that is cut short is one ill-formed
glyph, and so is a byte that begins none. -/
def glyphsUpTo : Nat → List Nat → List Glyph
  | 0, _ => []
  | _, [] => []
  | n + 1, b :: bytes =>
    match continuation b with
    | none => .illFormed :: glyphsUpTo n bytes
    | some ranges =>
      let more := fitting ranges bytes
      let glyph := if more.length = ranges.length then .char (assemble b more) else .illFormed
      glyph :: glyphsUpTo n (bytes.drop more.length)

def glyphs (bytes : List Nat) : List Glyph := glyphsUpTo bytes.length bytes

end ExplicitImports.Url
