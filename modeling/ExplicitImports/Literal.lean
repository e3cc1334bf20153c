import ExplicitImports.Text

/-!
String literals of module sources. Reading one gives the value it stands for and the text after it.
-/
namespace ExplicitImports.Literal

def isQuote (c : Char) : Bool := c == '\'' || c == '"'

def isLineEnd (c : Char) : Bool := c == '\n' || c == '\r' || c == '\u2028' || c == '\u2029'

def hexNumber? (digits : Text) : Option Nat :=
  if digits.isEmpty then none
  else digits.foldlM (fun n c => (hexValue? c).map (n * 16 + ·)) 0

/-- A code point as text. Half of a surrogate pair is no character and keeps its spelling. -/
def codePoint? (n : Nat) (spelling : Text) : Option Text :=
  if n ≤ 0x10FFFF then
    if 0xD800 ≤ n ∧ n ≤ 0xDFFF then some spelling else some [Char.ofNat n]
  else none

def unicodeEscape? : Text → Option (Text × Text)
  | '{' :: rest =>
    let digits := rest.takeWhile (· != '}')
    match rest.dropWhile (· != '}') with
    | [] => none
    | _ :: after => do
      let n ← hexNumber? digits
      let t ← codePoint? n (['\\', 'u', '{'] ++ digits ++ ['}'])
      some (t, after)
  | a :: b :: c :: d :: rest => do
    let n ← hexNumber? [a, b, c, d]
    let t ← codePoint? n ['\\', 'u', a, b, c, d]
    some (t, rest)
  | _ => none

def isOctal (c : Char) : Bool := '0' ≤ c && c ≤ '7'

/-- An octal escape takes as many digits as stay below 256. -/
def octalEscape (first : Char) (rest : Text) : Text × Text :=
  let most := if first ≤ '3' then 2 else 1
  let more := (rest.take most).takeWhile isOctal
  let value := (first :: more).foldl (fun n c => n * 8 + (c.toNat - '0'.toNat)) 0
  ([Char.ofNat value], rest.drop more.length)

/-- What an escape after its backslash stands for. A line end stands for nothing, and a character without a
meaning of its own stands for itself. -/
def escape? : Text → Option (Text × Text)
  | [] => none
  | 'n' :: rest => some (['\n'], rest)
  | 't' :: rest => some (['\t'], rest)
  | 'r' :: rest => some (['\r'], rest)
  | 'b' :: rest => some (['\x08'], rest)
  | 'v' :: rest => some (['\x0b'], rest)
  | 'f' :: rest => some (['\x0c'], rest)
  | '\r' :: '\n' :: rest => some ([], rest)
  | '\r' :: rest | '\n' :: rest | '\u2028' :: rest | '\u2029' :: rest => some ([], rest)
  | 'x' :: a :: b :: rest => (hexNumber? [a, b]).map fun n => ([Char.ofNat n], rest)
  | ['x', _] | ['x'] => none
  | 'u' :: rest => unicodeEscape? rest
  | c :: rest => if isOctal c then some (octalEscape c rest) else some ([c], rest)

/-- The value up to the closing quote, and the text after that. A line feed or a carriage return ends no literal
and cannot stand in one. -/
def bodyUpTo (quote : Char) : Nat → Text → Option (Text × Text)
  | 0, _ => none
  | _, [] => none
  | n + 1, c :: rest =>
    if c = quote then some ([], rest)
    else if c = '\\' then do
      let (value, after) ← escape? rest
      let (more, after) ← bodyUpTo quote n after
      some (value ++ more, after)
    else if c = '\n' ∨ c = '\r' then none
    else do
      let (more, after) ← bodyUpTo quote n rest
      some (c :: more, after)

def read? : Text → Option (Text × Text)
  | [] => none
  | quote :: rest => if isQuote quote then bodyUpTo quote (rest.length + 1) rest else none

end ExplicitImports.Literal
