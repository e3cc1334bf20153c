import ExplicitImports.Json.Mismatch

/-!
Reading JSON text from left to right. A reader takes the text that is left and gives back a value with what is
left after it, or the first fault it meets.
-/
namespace ExplicitImports.Json

inductive Cause where
  | endInList
  | endInObject
  | endInString
  | endInValue
  | expectedColon
  | expectedCommaOrBracket
  | expectedCommaOrBrace
  | expectedWord
  | expectedValue
  | invalidEscape
  | invalidNumber
  | numberOutOfRange
  | controlInString
  | keyNotString
  | loneSurrogate
  | trailingComma
  | trailingText
  | brokenSurrogate
  | tooDeep
  | mismatch (m : Mismatch)
  deriving DecidableEq, Repr

/-- A cause with the text that is left from the place it points at. -/
structure Fault where
  cause : Cause
  rest : Text
  deriving Repr

def Cause.message : Cause → Text
  | .endInList => "EOF while parsing a list".toList
  | .endInObject => "EOF while parsing an object".toList
  | .endInString => "EOF while parsing a string".toList
  | .endInValue => "EOF while parsing a value".toList
  | .expectedColon => "expected `:`".toList
  | .expectedCommaOrBracket => "expected `,` or `]`".toList
  | .expectedCommaOrBrace => "expected `,` or `\x7d`".toList
  | .expectedWord => "expected ident".toList
  | .expectedValue => "expected value".toList
  | .invalidEscape => "invalid escape".toList
  | .invalidNumber => "invalid number".toList
  | .numberOutOfRange => "number out of range".toList
  | .controlInString => "control character (\\u0000-\\u001F) found while parsing a string".toList
  | .keyNotString => "key must be a string".toList
  | .loneSurrogate => "lone leading surrogate in hex escape".toList
  | .trailingComma => "trailing comma".toList
  | .trailingText => "trailing characters".toList
  | .brokenSurrogate => "unexpected end of hex escape".toList
  | .tooDeep => "recursion limit exceeded".toList
  | .mismatch m => m.message

/-- The fault with its place in the whole text: the line, and the bytes before the place in it. -/
def Fault.message (whole : Text) (f : Fault) : Text :=
  let before := whole.take (whole.length - f.rest.length)
  let line := (before.filter (· == '\n')).length + 1
  let column := Text.byteLength (before.reverse.takeWhile (· != '\n'))
  f.cause.message ++ " at line ".toList ++ Text.ofNat line ++ " column ".toList ++ Text.ofNat column

def Reader (α : Type) := Text → Except Fault (α × Text)

namespace Reader

instance : Monad Reader where
  pure a := fun t => .ok (a, t)
  bind r f := fun t => match r t with
    | .ok (a, rest) => f a rest
    | .error e => .error e

def failHere (cause : Cause) : Reader α := fun t => .error ⟨cause, t⟩

/-- Fails at the character that comes next, which counts as seen. -/
def failNext (cause : Cause) : Reader α := fun t => .error ⟨cause, t.drop 1⟩

def peek : Reader (Option Char) := fun t => .ok (t.head?, t)

def advance : Reader Unit := fun t => .ok ((), t.drop 1)

def isBlank (c : Char) : Bool := c == ' ' || c == '\n' || c == '\t' || c == '\r'

def peekToken : Reader (Option Char) := fun t =>
  let rest := t.dropWhile isBlank
  .ok (rest.head?, rest)

/-- The number of characters that are left, which bounds every loop below. -/
def size : Reader Nat := fun t => .ok (t.length, t)

def word : Text → Reader Unit
  | [] => pure ()
  | c :: cs => do
    match ← peek with
    | none => failHere .endInValue
    | some d =>
      advance
      if c = d then word cs else failHere .expectedWord

def hexEscape : Reader Nat := fun t =>
  match t with
  | a :: b :: c :: d :: rest =>
    match [a, b, c, d].mapM hexValue? with
    | some digits => .ok (digits.foldl (fun n x => n * 16 + x) 0, rest)
    | none => .error ⟨.invalidEscape, rest⟩
  | _ => .error ⟨.endInString, []⟩

def surrogateMark (c : Char) : Reader Unit := do
  match ← peek with
  | none => failHere .endInString
  | some d =>
    advance
    if c = d then pure () else failHere .brokenSurrogate

def unicodeEscape : Reader Char := do
  let n ← hexEscape
  if 0xDC00 ≤ n ∧ n ≤ 0xDFFF then failHere .loneSurrogate
  else if 0xD800 ≤ n ∧ n ≤ 0xDBFF then
    surrogateMark '\\'
    surrogateMark 'u'
    let low ← hexEscape
    if 0xDC00 ≤ low ∧ low ≤ 0xDFFF then
      pure (Char.ofNat (0x10000 + (n - 0xD800) * 0x400 + (low - 0xDC00)))
    else failHere .loneSurrogate
  else pure (Char.ofNat n)

def escape : Reader Char := do
  match ← peek with
  | none => failHere .endInString
  | some c =>
    advance
    match c with
    | '"' => pure '"'
    | '\\' => pure '\\'
    | '/' => pure '/'
    | 'b' => pure '\x08'
    | 'f' => pure '\x0c'
    | 'n' => pure '\n'
    | 'r' => pure '\r'
    | 't' => pure '\t'
    | 'u' => unicodeEscape
    | _ => failHere .invalidEscape

/-- An escape that is only checked: surrogates need not come in pairs. -/
def skipEscape : Reader Unit := do
  match ← peek with
  | none => failHere .endInString
  | some c =>
    advance
    if ['"', '\\', '/', 'b', 'f', 'n', 'r', 't'].contains c then pure ()
    else if c = 'u' then do let _ ← hexEscape; pure ()
    else failHere .invalidEscape

def stringTail (readEscape : Reader α) (keep : α → Text → Text) (plain : Char → Text → Text) :
    Nat → Text → Reader Text
  | 0, _ => failHere .endInString
  | n + 1, done => do
    match ← peek with
    | none => failHere .endInString
    | some '"' => do advance; pure done.reverse
    | some '\\' => do
      advance
      let a ← readEscape
      stringTail readEscape keep plain n (keep a done)
    | some c =>
      if c.toNat < 0x20 then do advance; failHere .controlInString
      else do advance; stringTail readEscape keep plain n (plain c done)

def string : Reader Text := do
  stringTail escape List.cons List.cons ((← size) + 1) []

def skipString : Reader Unit := do
  let _ ← stringTail skipEscape (fun _ t => t) (fun _ t => t) ((← size) + 1) []
  pure ()

def digits : Reader Text := fun t => .ok (t.takeWhile Char.isDigit, t.dropWhile Char.isDigit)

def digitsValue (t : Text) : Nat := t.foldl (fun n c => n * 10 + (c.toNat - '0'.toNat)) 0

def exponent : Reader Int := do
  let negative ← match ← peek with
    | some '+' => do advance; pure false
    | some '-' => do advance; pure true
    | _ => pure false
  match ← digits with
  | [] => match ← peek with
    | none => failHere .endInValue
    | some _ => failNext .invalidNumber
  | ds => pure (if negative then -(digitsValue ds : Int) else digitsValue ds)

def wholeDigits : Reader Text := do
  match ← digits with
  | [] => match ← peek with
    | none => failHere .endInValue
    | some _ => failNext .invalidNumber
  | '0' :: _ :: more => fun t => .error ⟨.invalidNumber, more ++ t⟩
  | ds => pure ds

def fractionDigits : Reader Text := do
  match ← peek with
  | some '.' =>
    advance
    match ← digits with
    | [] => match ← peek with
      | none => failHere .endInValue
      | some _ => failNext .invalidNumber
    | ds => pure ds
  | _ => pure []

def fitsWord (negative : Bool) (n : Nat) : Bool :=
  if negative then 0 < n && n ≤ 1 <<< 63 else n < 1 <<< 64

def number (negative : Bool) : Reader Number := do
  let whole ← wholeDigits
  let fraction ← fractionDigits
  let e ← match ← peek with
    | some 'e' | some 'E' => do advance; some <$> exponent
    | _ => pure none
  let n := digitsValue whole
  if fraction.isEmpty && e.isNone && fitsWord negative n then
    pure (.integer (if negative then -(n : Int) else n))
  else
    let numeral : Decimal := ⟨digitsValue (whole ++ fraction), e.getD 0 - fraction.length⟩
    match Binary.ofDecimal? negative numeral with
    | some b => pure (.binary b)
    | none => failHere .numberOutOfRange

/-- A number that is only checked. Here a numeral cut short counts as a wrong one. -/
def skipNumber : Reader Unit := do
  match ← digits with
  | [] => failNext .invalidNumber
  | '0' :: _ :: _ => failHere .invalidNumber
  | _ => pure ()
  match ← peek with
  | some '.' => do
    advance
    if (← digits).isEmpty then failNext .invalidNumber
  | _ => pure ()
  match ← peek with
  | some 'e' | some 'E' => do
    advance
    match ← peek with
    | some '+' | some '-' => advance
    | _ => pure ()
    if (← digits).isEmpty then failNext .invalidNumber
  | _ => pure ()

def colon : Reader Unit := do
  match ← peekToken with
  | some ':' => advance
  | some _ => failNext .expectedColon
  | none => failHere .endInObject

def nextItem (first : Bool) : Reader Bool := do
  match ← peekToken with
  | none => failHere .endInList
  | some ']' => pure false
  | some c =>
    if first then pure true
    else if c = ',' then do
      advance
      match ← peekToken with
      | some ']' => failNext .trailingComma
      | some _ => pure true
      | none => failHere .endInValue
    else failNext .expectedCommaOrBracket

def nextField (first : Bool) : Reader Bool := do
  match ← peekToken with
  | none => failHere .endInObject
  | some '\x7d' => pure false
  | some c =>
    if first then
      if c = '"' then pure true else failNext .keyNotString
    else if c = ',' then do
      advance
      match ← peekToken with
      | some '"' => pure true
      | some '\x7d' => failNext .trailingComma
      | some _ => failNext .keyNotString
      | none => failHere .endInValue
    else failNext .expectedCommaOrBrace

def endList : Reader Unit := do
  match ← peekToken with
  | some ']' => advance
  | some ',' => do
    advance
    match ← peekToken with
    | some ']' => failNext .trailingComma
    | _ => failNext .trailingText
  | some _ => failNext .trailingText
  | none => failHere .endInList

def endObject : Reader Unit := do
  match ← peekToken with
  | some '\x7d' => advance
  | some ',' => failNext .trailingComma
  | some _ => failNext .trailingText
  | none => failHere .endInObject

def depthLimit : Nat := 127

mutual

def valueUpTo : Nat → Nat → Reader Json
  | 0, _ => failHere .tooDeep
  | n + 1, depth => do
    match ← peekToken with
    | none => failHere .endInValue
    | some 'n' => do advance; word ['u', 'l', 'l']; pure .null
    | some 't' => do advance; word ['r', 'u', 'e']; pure (.bool true)
    | some 'f' => do advance; word ['a', 'l', 's', 'e']; pure (.bool false)
    | some '-' => do advance; .number <$> number true
    | some '"' => do advance; .string <$> string
    | some '[' =>
      match depth with
      | 0 => failNext .tooDeep
      | d + 1 => do
        advance
        let items ← itemsUpTo n d true
        advance
        pure (.array items)
    | some '\x7b' =>
      match depth with
      | 0 => failNext .tooDeep
      | d + 1 => do
        advance
        let fields ← fieldsUpTo n d true []
        advance
        pure (.object fields)
    | some c => if c.isDigit then .number <$> number false else failNext .expectedValue

def itemsUpTo : Nat → Nat → Bool → Reader (List Json)
  | 0, _, _ => failHere .tooDeep
  | n + 1, depth, first => do
    if ← nextItem first then
      let item ← valueUpTo n depth
      let rest ← itemsUpTo n depth false
      pure (item :: rest)
    else pure []

def fieldsUpTo : Nat → Nat → Bool → List (Text × Json) → Reader (List (Text × Json))
  | 0, _, _, _ => failHere .tooDeep
  | n + 1, depth, first, done => do
    if ← nextField first then
      advance
      let name ← string
      colon
      let value ← valueUpTo n depth
      fieldsUpTo n depth false (putField name value done)
    else pure done

end

/-- A value. Of fields with one name the last value counts. -/
def value : Reader Json := do
  valueUpTo (2 * (← size) + 2) depthLimit

def innerValue : Reader Json := do
  valueUpTo (2 * (← size) + 2) (depthLimit - 1)

/-- Where a walk over values stands: before a value, or after one inside the given brackets. -/
def skipUpTo : Nat → Bool → List Char → Reader Unit
  | 0, _, _ => failHere .endInValue
  | n + 1, true, open_ => do
    match ← peekToken with
    | none => failHere .endInValue
    | some 'n' => do advance; word ['u', 'l', 'l']; skipUpTo n false open_
    | some 't' => do advance; word ['r', 'u', 'e']; skipUpTo n false open_
    | some 'f' => do advance; word ['a', 'l', 's', 'e']; skipUpTo n false open_
    | some '-' => do advance; skipNumber; skipUpTo n false open_
    | some '"' => do advance; skipString; skipUpTo n false open_
    | some '[' => do
      advance
      match ← peekToken with
      | none => failHere .endInList
      | some ']' => do advance; skipUpTo n false open_
      | some _ => skipUpTo n true ('[' :: open_)
    | some '\x7b' => do
      advance
      match ← peekToken with
      | none => failHere .endInObject
      | some '\x7d' => do advance; skipUpTo n false open_
      | some '"' => do advance; skipString; colon; skipUpTo n true ('\x7b' :: open_)
      | some _ => failNext .keyNotString
    | some c =>
      if c.isDigit then do skipNumber; skipUpTo n false open_ else failNext .expectedValue
  | _ + 1, false, [] => pure ()
  | n + 1, false, '[' :: open_ => do
    match ← peekToken with
    | none => failHere .endInList
    | some ']' => do advance; skipUpTo n false open_
    | some ',' => do advance; skipUpTo n true ('[' :: open_)
    | some _ => failNext .expectedCommaOrBracket
  | n + 1, false, brace :: open_ => do
    match ← peekToken with
    | none => failHere .endInObject
    | some '\x7d' => do advance; skipUpTo n false open_
    | some ',' => do
      advance
      match ← peekToken with
      | some '"' => do advance; skipString; colon; skipUpTo n true (brace :: open_)
      | some _ => failNext .keyNotString
      | none => failHere .endInObject
    | some _ => failNext .expectedCommaOrBrace

def skipValue : Reader Unit := do
  skipUpTo (2 * (← size) + 2) true []

/-- Fails because the value that comes next is not of the expected kind, unless that value is no JSON itself. -/
def unexpected (expected : Text) : Reader α := do
  let mismatch (found : Text) : Reader α := failHere (.mismatch (.type found expected))
  match ← peekToken with
  | some 'n' => do advance; word ['u', 'l', 'l']; mismatch (describe .null)
  | some 't' => do advance; word ['r', 'u', 'e']; mismatch (describeBool true)
  | some 'f' => do advance; word ['a', 'l', 's', 'e']; mismatch (describeBool false)
  | some '-' => do advance; mismatch (← number true).describe
  | some '"' => do advance; mismatch (describeString (← string))
  | some '[' => mismatch (describe (.array []))
  | some '\x7b' => mismatch (describe (.object []))
  | some c => if c.isDigit then do mismatch (← number false).describe else failNext .expectedValue
  | none => failHere .endInValue

def run (r : Reader α) (t : Text) : Except Fault α :=
  match r t with
  | .error e => .error e
  | .ok (a, rest) => match rest.dropWhile isBlank with
    | [] => .ok a
    | _ :: after => .error ⟨.trailingText, after⟩

end Reader

def parse (t : Text) : Except Fault Json := Reader.value.run t

end ExplicitImports.Json
