import ExplicitImports.Literal
import ExplicitImports.Source.IdentifierRanges

/-!
The words of a source text: what separates them, and how far each of them reaches. All functions here look at
the text that is left and know nothing of the grammar.
-/
namespace ExplicitImports.Source

/-! ### Between words -/

def isBlank (c : Char) : Bool :=
  c == ' ' || c == '\t' || c == '\x0b' || c == '\x0c' || c == '\u00a0' || c == '\ufeff' || c == '\u1680'
    || ('\u2000' ≤ c && c ≤ '\u200a') || c == '\u202f' || c == '\u205f' || c == '\u3000'

inductive Gap where
  | between
  | lineComment
  | blockComment

/-- Passes over blanks, line ends and comments. Gives the text that is left, the offset reached, and whether
there was a line end; nothing if a comment does not end. A line is a comment also from `<!--` on, and from `-->`
on if nothing stands before it. -/
def skipGap : Gap → Text → Nat → Bool → Option (Text × Nat × Bool)
  | .between, '<' :: '!' :: '-' :: '-' :: rest, n, newline => skipGap .lineComment rest (n + 4) newline
  | .between, '-' :: '-' :: '>' :: rest, n, true => skipGap .lineComment rest (n + 3) true
  | .between, '/' :: '/' :: rest, n, newline => skipGap .lineComment rest (n + 2) newline
  | .between, '/' :: '*' :: rest, n, newline => skipGap .blockComment rest (n + 2) newline
  | .between, c :: rest, n, newline =>
    if Literal.isLineEnd c then skipGap .between rest (n + c.utf8Size) true
    else if isBlank c then skipGap .between rest (n + c.utf8Size) newline
    else some (c :: rest, n, newline)
  | .between, [], n, newline => some ([], n, newline)
  | .lineComment, c :: rest, n, newline =>
    if Literal.isLineEnd c then skipGap .between rest (n + c.utf8Size) true
    else skipGap .lineComment rest (n + c.utf8Size) newline
  | .lineComment, [], n, newline => some ([], n, newline)
  | .blockComment, '*' :: '/' :: rest, n, newline => skipGap .between rest (n + 2) newline
  | .blockComment, c :: rest, n, newline => skipGap .blockComment rest (n + c.utf8Size) (newline || Literal.isLineEnd c)
  | .blockComment, [], _, _ => none

/-! ### Identifiers -/

def inRanges (ranges : List (Nat × Nat)) (c : Char) : Bool :=
  ranges.any fun r => r.1 ≤ c.toNat && c.toNat ≤ r.2

def isIdentifierStart (c : Char) : Bool :=
  c.isAlpha || c == '$' || c == '_' || (0x7F < c.toNat && inRanges startRanges c)

def isIdentifierPart (c : Char) : Bool :=
  c.isAlphanum || c == '$' || c == '_'
    || (0x7F < c.toNat && (c == '\u200c' || c == '\u200d' || inRanges startRanges c || inRanges continueRanges c))

structure Word where
  name : Text
  escaped : Bool
  length : Nat

def escapedWordUpTo (isPart : Char → Bool) : Nat → Text → Option Word
  | 0, _ => some ⟨[], false, 0⟩
  | _, [] => some ⟨[], false, 0⟩
  | n + 1, '\\' :: 'u' :: rest =>
    match Literal.unicodeEscape? rest with
    | some ([c], after) =>
      if isPart c then
        (escapedWordUpTo isIdentifierPart n after).map fun w =>
          ⟨c :: w.name, true, w.length + 2 + (rest.length - after.length)⟩
      else none
    | _ => none
  | n + 1, c :: rest =>
    if isPart c then
      (escapedWordUpTo isIdentifierPart n rest).map fun w => ⟨c :: w.name, w.escaped, w.length + 1⟩
    else some ⟨[], false, 0⟩

def word? (t : Text) : Option Word :=
  match t with
  | [] => none
  | first :: _ =>
    if isIdentifierStart first || first == '\\' then
      let plain := t.takeWhile isIdentifierPart
      match t.drop plain.length with
      | '\\' :: _ => (escapedWordUpTo isIdentifierStart t.length t).filter (!·.name.isEmpty)
      | _ => some ⟨plain, false, plain.length⟩
    else none

/-! ### Numbers -/

def digitsOf (isDigit : Char → Bool) (t : Text) : Text × Text :=
  let isPart (c : Char) : Bool := isDigit c || c == '_'
  (t.takeWhile isPart, t.dropWhile isPart)

def isHexDigit (c : Char) : Bool := (hexValue? c).isSome

def afterExponent? (t : Text) : Option Text :=
  match t with
  | e :: rest =>
    if e == 'e' || e == 'E' then
      let rest := match rest with
        | '+' :: r | '-' :: r => r
        | r => r
      match digitsOf Char.isDigit rest with
      | ([], _) => none
      | (_, after) => some after
    else some t
  | [] => some []

/-- The text after a number. No identifier may follow it directly. -/
def afterNumber? (t : Text) : Option Text :=
  let radix (isDigit : Char → Bool) (rest : Text) : Option Text :=
    match digitsOf isDigit rest with
    | ([], _) => none
    | (_, 'n' :: after) => some after
    | (_, after) => some after
  let decimal : Option Text :=
    match digitsOf Char.isDigit t with
    | ([], '.' :: rest) =>
      match digitsOf Char.isDigit rest with
      | ([], _) => none
      | (_, after) => afterExponent? after
    | ([], _) => none
    | (_, 'n' :: after) => some after
    | (_, '.' :: rest) => afterExponent? (digitsOf Char.isDigit rest).2
    | (_, after) => afterExponent? after
  let after := match t with
    | '0' :: 'x' :: rest | '0' :: 'X' :: rest => radix isHexDigit rest
    | '0' :: 'o' :: rest | '0' :: 'O' :: rest => radix Literal.isOctal rest
    | '0' :: 'b' :: rest | '0' :: 'B' :: rest => radix (fun c => c == '0' || c == '1') rest
    | _ => decimal
  match after with
  | some (c :: rest) => if isIdentifierStart c || c.isDigit then none else some (c :: rest)
  | other => other

/-! ### Regular expressions and templates -/

def afterRegex? : (inClass : Bool) → Text → Option Text
  | _, [] => none
  | inClass, '\\' :: c :: rest => if Literal.isLineEnd c then none else afterRegex? inClass rest
  | inClass, c :: rest =>
    if Literal.isLineEnd c then none
    else if c == '[' then afterRegex? true rest
    else if c == ']' then afterRegex? false rest
    else if c == '/' && !inClass then some (rest.dropWhile isIdentifierPart)
    else afterRegex? inClass rest

/-- Whether the text after a backslash is an escape that a template without a tag may have, so no octal one. -/
def isTemplateEscape : Text → Bool
  | 'u' :: rest => (Literal.unicodeEscape? rest).isSome
  | 'x' :: a :: b :: _ => isHexDigit a && isHexDigit b
  | ['0'] => true
  | '0' :: d :: _ => !Literal.isOctal d
  | c :: _ => c != 'x' && !Literal.isOctal c
  | [] => false

/-- The text after the next piece of a template: whether the piece ends with an opening `${`, and what follows.
Only a template with a tag may have escapes that stand for nothing. -/
def afterTemplatePiece? (tagged : Bool) : Text → Option (Bool × Text)
  | [] => none
  | '`' :: rest => some (false, rest)
  | '$' :: '{' :: rest => some (true, rest)
  | '\\' :: c :: rest =>
    if tagged || isTemplateEscape (c :: rest) then afterTemplatePiece? tagged rest else none
  | _ :: rest => afterTemplatePiece? tagged rest

/-! ### Punctuation -/

def punctuators : List Text :=
  [">>>=", "...", "===", "!==", "**=", "<<=", ">>=", ">>>", "&&=", "||=", "??=", "=>", "==", "!=", "<=", ">=",
   "&&", "||", "??", "?.", "++", "--", "+=", "-=", "*=", "/=", "%=", "&=", "|=", "^=", "<<", ">>", "**"].map
    String.toList

/-- How many characters the punctuator at the start of a text has. A question mark and a number with a leading
point are two things. -/
def punctuatorLength (t : Text) : Nat :=
  match t with
  | '?' :: '.' :: d :: _ =>
    if d.isDigit then 1 else 2
  | _ =>
    match punctuators.find? (·.isPrefixOf t) with
    | some p => p.length
    | none => 1

end ExplicitImports.Source
