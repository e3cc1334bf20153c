import ExplicitImports.Json.Reader

/-!
Decoders read one kind of thing both from a JSON value and straight from JSON text. A record is given by its
fields in declaration order; it is read from an object, whose keys may come in any order and with strangers
among them, or from a list of the values in declaration order.
-/
namespace ExplicitImports.Json

structure Decoder (α : Type) where
  ofValue : Json → Except Mismatch α
  ofText : Reader α

namespace Decoder

def map (f : α → β) (d : Decoder α) : Decoder β where
  ofValue v := f <$> d.ofValue v
  ofText := f <$> d.ofText

def bool : Decoder Bool where
  ofValue
    | .bool b => .ok b
    | v => .error (.type v.describe "a boolean".toList)
  ofText := do
    match ← Reader.peekToken with
    | some 't' => do Reader.advance; Reader.word ['r', 'u', 'e']; pure true
    | some 'f' => do Reader.advance; Reader.word ['a', 'l', 's', 'e']; pure false
    | _ => Reader.unexpected "a boolean".toList

def text : Decoder Text where
  ofValue
    | .string t => .ok t
    | v => .error (.type v.describe "a string".toList)
  ofText := do
    match ← Reader.peekToken with
    | some '"' => do Reader.advance; Reader.string
    | _ => Reader.unexpected "a string".toList

def optional (d : Decoder α) : Decoder (Option α) where
  ofValue
    | .null => .ok none
    | v => some <$> d.ofValue v
  ofText := do
    match ← Reader.peekToken with
    | some 'n' => do Reader.advance; Reader.word ['u', 'l', 'l']; pure none
    | _ => some <$> d.ofText

def listTail (d : Decoder α) : Nat → Bool → Reader (List α)
  | 0, _ => pure []
  | n + 1, first => do
    if ← Reader.nextItem first then
      let a ← d.ofText
      let rest ← listTail d n false
      pure (a :: rest)
    else pure []

def list (d : Decoder α) : Decoder (List α) where
  ofValue
    | .array items => items.mapM d.ofValue
    | v => .error (.type v.describe "a sequence".toList)
  ofText := do
    match ← Reader.peekToken with
    | some '[' => do
      Reader.advance
      let items ← listTail d ((← Reader.size) + 1) true
      Reader.endList
      pure items
    | _ => Reader.unexpected "a sequence".toList

/-- A thing that is first read as a value of any kind, inside a record. -/
def buffered (ofValue : Json → Except Mismatch α) : Decoder α where
  ofValue := ofValue
  ofText := do
    match ofValue (← Reader.innerValue) with
    | .ok a => pure a
    | .error m => Reader.failHere (.mismatch m)

end Decoder

/-- A field of a record under construction: its key, and how its value changes the record. -/
structure Field (σ : Type) where
  key : Text
  set : Decoder (σ → σ)
  optional : Bool

/-- A record: the name used in messages, what stands for absent fields, whether a list may stop before the last
field, and the fields in declaration order. -/
structure Record (σ : Type) where
  name : Text
  default : σ
  mayStopEarly : Bool
  fields : List (Field σ)

namespace Record

def field? (r : Record σ) (key : Text) : Option (Field σ) := r.fields.find? (·.key == key)

def missing? (r : Record σ) (seen : List Text) : Option Text :=
  (r.fields.find? fun f => !f.optional && !seen.contains f.key).map (·.key)

def tooFew (r : Record σ) (found : Nat) : Mismatch :=
  .length found (r.name ++ " with ".toList ++ Text.ofNat r.fields.length ++ " elements".toList)

def ofFields (r : Record σ) : List (Text × Json) → List Text → σ → Except Mismatch σ
  | [], seen, s =>
    match r.missing? seen with
    | some key => .error (.missing key)
    | none => .ok s
  | (key, v) :: rest, seen, s =>
    match r.field? key with
    | none => ofFields r rest seen s
    | some f =>
      if seen.contains key then .error (.duplicate key)
      else match f.set.ofValue v with
        | .ok g => ofFields r rest (key :: seen) (g s)
        | .error m => .error m

/-- Reads values by position; `total` is the number of values the list has. -/
def ofItems (r : Record σ) (total : Nat) : List (Field σ) → List Json → σ → Except Mismatch σ
  | [], [], s => .ok s
  | [], _ :: _, _ => .error (.length total "fewer elements in array".toList)
  | _ :: _, [], s => if r.mayStopEarly then .ok s else .error (r.tooFew total)
  | f :: fs, v :: vs, s =>
    match f.set.ofValue v with
    | .ok g => ofItems r total fs vs (g s)
    | .error m => .error m

def ofValue (r : Record σ) : Json → Except Mismatch σ
  | .object fields => r.ofFields fields [] r.default
  | .array items => r.ofItems items.length r.fields items r.default
  | v => .error (.type v.describe r.name)

def readFields (r : Record σ) : Nat → Bool → List Text → σ → Reader σ
  | 0, _, _, s => pure s
  | n + 1, first, seen, s => do
    if ← Reader.nextField first then
      Reader.advance
      let key ← Reader.string
      match r.field? key with
      | none => do
        Reader.colon
        Reader.skipValue
        readFields r n false seen s
      | some f =>
        if seen.contains key then Reader.failHere (.mismatch (.duplicate key))
        else do
          Reader.colon
          let g ← f.set.ofText
          readFields r n false (key :: seen) (g s)
    else match r.missing? seen with
      | some key => Reader.failHere (.mismatch (.missing key))
      | none => pure s

def readItems (r : Record σ) : List (Field σ) → Nat → σ → Reader σ
  | [], _, s => pure s
  | f :: fs, found, s => do
    if ← Reader.nextItem (found == 0) then
      let g ← f.set.ofText
      readItems r fs (found + 1) (g s)
    else if r.mayStopEarly then pure s
    else Reader.failHere (.mismatch (r.tooFew found))

def ofText (r : Record σ) : Reader σ := do
  match ← Reader.peekToken with
  | some '[' => do
    Reader.advance
    let s ← readItems r r.fields 0 r.default
    Reader.endList
    pure s
  | some '\x7b' => do
    Reader.advance
    let s ← readFields r ((← Reader.size) + 1) true [] r.default
    Reader.endObject
    pure s
  | none => Reader.failHere .endInValue
  | _ => Reader.unexpected r.name

end Record

end ExplicitImports.Json
