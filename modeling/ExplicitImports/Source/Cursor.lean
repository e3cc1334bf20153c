import ExplicitImports.Program
import ExplicitImports.Source.Lexeme

/-!
A place in a source text, and the small moves a grammar is made of. The cursor always stands at the start of a
word, with the gap before it passed over; a move that takes a word passes over the gap after it.
-/
namespace ExplicitImports.Source

structure Dialect where
  types : Bool
  markup : Bool
  /-- Whether this is the inside of a generator, where `yield` is no name. -/
  generator : Bool
  bound : Nat

structure Cursor where
  rest : Text
  offset : Nat
  lastEnd : Nat
  newline : Bool
  /-- The module declarations found so far, the latest first. -/
  items : List ProgramItem

/-- A part of the grammar: what it makes of a place, and the place after it. -/
abbrev Parse := ReaderT Dialect (StateT Cursor Option)

def openBrace : String := "\x7b"

def closeBrace : String := "\x7d"

namespace Parse

def hasTypes : Parse Bool := do return (← read).types

def hasMarkup : Parse Bool := do return (← read).markup

def withGenerator (generator : Bool) (p : Parse α) : Parse α :=
  fun d => p { d with generator := generator }

def rest : Parse Text := do return (← get).rest

def newline : Parse Bool := do return (← get).newline

def start : Parse Nat := do return (← get).offset

def lastEnd : Parse Nat := do return (← get).lastEnd

/-- Goes on where a text that was part of the rest begins, without passing over a gap. -/
def moveTo (after : Text) : Parse Unit := modify fun c =>
  { c with
    rest := after
    offset := c.offset + Text.byteLength (c.rest.take (c.rest.length - after.length)) }

def takeRaw (n : Nat) : Parse Unit := modify fun c =>
  { c with rest := c.rest.drop n, offset := c.offset + Text.byteLength (c.rest.take n) }

def settle : Parse Unit := do
  let c ← get
  match skipGap .between c.rest c.offset false with
  | none => failure
  | some (rest, offset, newline) =>
    set { c with rest := rest, offset := offset, lastEnd := c.offset, newline := newline }

def take (n : Nat) : Parse Unit := do takeRaw n; settle

def ahead (p : Parse α) : Parse (Option α) := fun d c => some ((p d c).map (·.1), c)

def after (n : Nat) (test : Parse Bool) : Parse Bool := do
  return (← ahead (do take n; test)).getD false

def atEnd : Parse Bool := do return (← rest).isEmpty

def peek : Parse (Option Char) := do return (← rest).head?

/-- Whether a punctuator is next, and not the beginning of a longer one. -/
def at_ (p : String) : Parse Bool := do
  let t ← rest
  return p.toList.isPrefixOf t && punctuatorLength t == p.length

def eat (p : String) : Parse Bool := do
  if ← at_ p then take p.length; return true else return false

def eatAny : List String → Parse Bool
  | [] => return false
  | p :: others => do if ← eat p then return true else eatAny others

def expect (p : String) : Parse Unit := do
  if ← eat p then pure () else failure

def atChar (c : Char) : Parse Bool := do return (← peek) == some c

def expectChar (c : Char) : Parse Unit := do
  if ← atChar c then take 1 else failure

def peekWord : Parse (Option Word) := do return word? (← rest)

/-- The keyword that is next, if it is spelled without escapes. -/
def keyword : Parse String := do
  match ← peekWord with
  | some w => return if w.escaped then "" else String.ofList w.name
  | none => return ""

def atWord (w : String) : Parse Bool := do return (← keyword) == w

def anyWord : Parse Text := do
  match ← peekWord with
  | some w => take w.length; return w.name
  | none => failure

def eatWord (w : String) : Parse Bool := do
  if ← atWord w then let _ ← anyWord; return true else return false

def expectWord (w : String) : Parse Unit := do
  if ← eatWord w then pure () else failure

def repeatUpTo (p : Parse Bool) : Nat → Parse Unit
  | 0 => failure
  | n + 1 => do if ← p then repeatUpTo p n else pure ()

/-- Repeats a part as long as it says so. A source has no more words than characters. -/
def repeat_ (p : Parse Bool) : Parse Unit := do repeatUpTo p (← read).bound

def collectUpTo (p : Parse (Option α)) : Nat → Parse (List α)
  | 0 => failure
  | n + 1 => do
    match ← p with
    | none => return []
    | some a => return a :: (← collectUpTo p n)

def collect (p : Parse (Option α)) : Parse (List α) := do collectUpTo p (← read).bound

def listUntil (close : String) (p : Parse α) : Parse (List α) := do
  collect do
    if ← eat close then return none
    let a ← p
    if ← at_ close then pure () else expect ","
    return some a

/-- Ends a statement: by a semicolon, or without one before a closing brace, the end, and on a new line. -/
def semicolon : Parse Unit := do
  if ← eat ";" then pure ()
  else if (← at_ closeBrace) || (← atEnd) || (← newline) then pure ()
  else failure

def string : Parse StringLiteral := do
  let c ← get
  match Literal.read? c.rest with
  | none => failure
  | some (value, after) =>
    moveTo after
    settle
    let stop ← lastEnd
    let raw := c.rest.take (c.rest.length - after.length)
    return ⟨value, some raw, ⟨c.offset, stop⟩⟩

def atString : Parse Bool := do
  match ← peek with
  | some c => return Literal.isQuote c
  | none => return false

def isNumberStart : Text → Bool
  | '.' :: d :: _ => d.isDigit
  | d :: _ => d.isDigit
  | [] => false

def number : Parse Unit := do
  match afterNumber? (← rest) with
  | some after => moveTo after; settle
  | none => failure

def found (item : ProgramItem) : Parse Unit := modify fun c => { c with items := item :: c.items }

def aside (p : Parse α) : Parse (α × List ProgramItem) := do
  let outer := (← get).items
  modify fun c => { c with items := [] }
  let a ← p
  let inner := (← get).items.reverse
  modify fun c => { c with items := outer }
  return (a, inner)

def putDown (items : List ProgramItem) : Parse Unit :=
  modify fun c => { c with items := items.reverse ++ c.items }

def nested (wrap : List ProgramItem → ProgramItem) (p : Parse α) : Parse α := do
  let (a, inner) ← aside p
  found (wrap inner)
  return a

end Parse

inductive Goal where
  | moduleItem
  | statement
  | expression (noIn : Bool)
  /-- An expression without commas. Where arrow functions must not have a return type, a colon belongs to what is
  around. -/
  | assignment (noIn noReturnType : Bool)
  | functionBody
  | classRest
  | binding
  | type
  /-- Markup; inside other markup the text after it is taken as it is. -/
  | markup (inside : Bool)
  deriving DecidableEq, Repr

/-- The grammar as its parts see it: each part asks for others by name. An expression answers whether it can be
assigned to. -/
abbrev Grammar := Goal → Parse Bool

def reserved : List Text :=
  ["break", "case", "catch", "class", "const", "continue", "debugger", "default", "delete", "do", "else", "enum",
   "export", "extends", "false", "finally", "for", "function", "if", "import", "in", "instanceof", "new", "null",
   "return", "super", "switch", "this", "throw", "true", "try", "typeof", "var", "void", "while", "with"].map
    String.toList

def isReserved (w : Text) : Bool := reserved.contains w

namespace Parse

def ident : Parse Text := do
  let name ← anyWord
  if isReserved name then failure else return name

def atIdent : Parse Bool := do
  match ← peekWord with
  | some w => return !isReserved w.name
  | none => return false

end Parse

end ExplicitImports.Source
