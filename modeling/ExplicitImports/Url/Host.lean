import ExplicitImports.Url.Percent

/-!
Hosts of URLs: domain names in ASCII form, IPv4 addresses in any of their spellings, and IPv6 addresses.
-/
namespace ExplicitImports.Url

inductive Invalid where
  | relative
  | emptyHost
  | port
  | ipv4
  | ipv6
  | domain
  | domainCharacter
  deriving DecidableEq, Repr

def Invalid.message : Invalid → Text
  | .relative => "relative URL without a base".toList
  | .emptyHost => "empty host".toList
  | .port => "invalid port number".toList
  | .ipv4 => "invalid IPv4 address".toList
  | .ipv6 => "invalid IPv6 address".toList
  | .domain => "invalid international domain name".toList
  | .domainCharacter => "invalid domain character".toList

inductive Host where
  | domain (name : Text)
  | ipv4 (address : Nat)
  | ipv6 (pieces : List Nat)
  deriving DecidableEq, Repr

/-! ### Domain names -/

def punycodeDigit (n : Nat) : Char :=
  if n < 26 then Char.ofNat (0x61 + n) else Char.ofNat (0x30 + (n - 26))

/-- Divides by the range of a digit until the value is small enough for the last one. -/
def biasSteps : Nat → Nat → Nat → Nat
  | 0, _, k => k
  | fuel + 1, delta, k => if 455 < delta then biasSteps fuel (delta / 35) (k + 36) else k + 36 * delta / (delta + 38)

def adaptBias (delta count : Nat) (first : Bool) : Nat :=
  let delta := if first then delta / 700 else delta / 2
  let delta := delta + delta / count
  biasSteps delta delta 0

/-- A variable-length numeral: digits up to the threshold of their place end it. -/
def punycodeNumeral (bias : Nat) : Nat → Nat → Nat → Text
  | 0, _, _ => []
  | fuel + 1, k, q =>
    let t := if k ≤ bias then 1 else if bias + 26 ≤ k then 26 else k - bias
    if q < t then [punycodeDigit q]
    else punycodeDigit (t + (q - t) % (36 - t)) :: punycodeNumeral bias fuel (k + 36) ((q - t) / (36 - t))

structure PunycodeState where
  delta : Nat
  bias : Nat
  handled : Nat
  first : Bool
  output : Text

def punycodePass (basic m : Nat) (s : PunycodeState) (label : Text) : PunycodeState :=
  label.foldl (fun s c =>
    if c.toNat < m then { s with delta := s.delta + 1 }
    else if c.toNat = m then
      { delta := 0
        bias := adaptBias s.delta (s.handled + 1) (s.handled == basic)
        handled := s.handled + 1
        first := false
        output := s.output ++ punycodeNumeral s.bias (s.delta + 1) 36 s.delta }
    else s) s

def punycodePasses (label : Text) (basic : Nat) : Nat → Nat → PunycodeState → PunycodeState
  | 0, _, s => s
  | fuel + 1, n, s =>
    match ((label.map Char.toNat).filter (n ≤ ·)).min? with
    | none => s
    | some m =>
      let s := { s with delta := s.delta + (m - n) * (s.handled + 1) }
      let s := punycodePass basic m s label
      punycodePasses label basic fuel (m + 1) { s with delta := s.delta + 1 }

def asciiLabel (label : Text) : Text :=
  if label.all (·.toNat < 0x80) then label
  else
    let basic := label.filter (·.toNat < 0x80)
    let start := if basic.isEmpty then [] else basic ++ ['-']
    let s := punycodePasses label basic.length label.length 0x80 ⟨0, 72, basic.length, true, []⟩
    ['x', 'n', '-', '-'] ++ start ++ s.output

/-- The lower case of letters in the scripts that have one, and the plain form of wide characters. -/
def foldChar (c : Char) : Text :=
  let n := c.toNat
  let plus (k : Nat) : Text := [Char.ofNat (n + k)]
  if n < 0x80 then [c.toLower]
  else if n = 0xAD ∨ n = 0x200B ∨ n = 0x2060 ∨ n = 0xFEFF then []
  else if 0xC0 ≤ n ∧ n ≤ 0xDE ∧ n ≠ 0xD7 then plus 32
  else if 0x100 ≤ n ∧ n ≤ 0x137 ∧ n % 2 = 0 ∧ n ≠ 0x130 then plus 1
  else if 0x391 ≤ n ∧ n ≤ 0x3A9 ∧ n ≠ 0x3A2 then plus 32
  else if 0x410 ≤ n ∧ n ≤ 0x42F then plus 32
  else if 0x400 ≤ n ∧ n ≤ 0x40F then plus 80
  else if n = 0x3002 ∨ n = 0xFF0E ∨ n = 0xFF61 then ['.']
  else if 0xFF01 ≤ n ∧ n ≤ 0xFF5E then [(Char.ofNat (n - 0xFEE0)).toLower]
  else [c]

def isForbidden (c : Char) : Bool :=
  isControl c || [' ', '#', '%', '/', ':', '<', '>', '?', '@', '[', '\\', ']', '^', '|'].contains c

def asciiDomain (t : Text) : Except Invalid Text :=
  match Path.toText? (glyphs (percentDecode t)) with
  | none => .error .domain
  | some name =>
    let folded := name.flatMap foldChar
    if folded.any fun c => c.toNat < 0x80 && isForbidden c then .error .domain
    else .ok (List.intercalate ['.'] ((folded.splitOn '.').map asciiLabel))

/-! ### IPv4 addresses -/

def radixValue? (radix : Nat) (t : Text) : Option Nat :=
  t.foldlM (fun n c => (hexValue? c).bind fun d => if d < radix then some (n * radix + d) else none) 0

/-- A part of an IPv4 address: decimal, octal after a zero, or hexadecimal after `0x`. -/
def ipv4Number? : Text → Option Nat
  | [] => none
  | '0' :: 'x' :: digits | '0' :: 'X' :: digits => radixValue? 16 digits
  | '0' :: c :: digits => radixValue? 8 (c :: digits)
  | digits => radixValue? 10 digits

def ipv4Parts (t : Text) : List Text :=
  let parts := t.splitOn '.'
  if parts.length ≠ 1 ∧ parts.getLast? = some [] then parts.dropLast else parts

/-- A host whose last part is a number can only be an IPv4 address. -/
def endsInNumber (t : Text) : Bool :=
  match (ipv4Parts t).getLast? with
  | none | some [] => false
  | some last => last.all Char.isDigit || (['0'].isPrefixOf last && (ipv4Number? last).isSome)

/-- The address of one to four parts, of which the last fills all that is left. -/
def ipv4? (t : Text) : Option Nat := do
  let parts ← (ipv4Parts t).mapM ipv4Number?
  let last ← parts.getLast?
  let init := parts.dropLast
  let room := 1 <<< (8 * (4 - init.length))
  if 3 < init.length ∨ init.any (255 < ·) ∨ room ≤ last then none
  else some (init.foldl (fun n d => n * 256 + d) 0 * room + last)

def showIpv4 (n : Nat) : Text :=
  List.intercalate ['.']
    ([(n >>> 24) % 256, (n >>> 16) % 256, (n >>> 8) % 256, n % 256].map Text.ofNat)

/-! ### IPv6 addresses -/

/-- The two pieces of an IPv4 address inside an IPv6 address: four decimal bytes without leading zeros. -/
def embeddedIpv4? (t : Text) : Option (List Nat) :=
  let byte? (part : Text) : Option Nat :=
    match part with
    | [] => none
    | '0' :: _ :: _ => none
    | digits =>
      if digits.all Char.isDigit then (radixValue? 10 digits).filter (· ≤ 255) else none
  match (t.splitOn '.').mapM byte? with
  | some [a, b, c, d] => some [a * 256 + b, c * 256 + d]
  | _ => none

def piece? (t : Text) : Option (List Nat) :=
  if t.isEmpty ∨ 4 < t.length then none else (radixValue? 16 t).map fun n => [n]

def pieces? : List Text → Option (List Nat)
  | [] => some []
  | [t] => if t.contains '.' then embeddedIpv4? t else piece? t
  | t :: rest => do
    let first ← piece? t
    let more ← pieces? rest
    some (first ++ more)

def cutDoubleColon : Text → Option (Text × Text)
  | [] => none
  | ':' :: ':' :: rest => some ([], rest)
  | c :: rest => (cutDoubleColon rest).map fun p => (c :: p.1, p.2)

def ipv6? (t : Text) : Option (List Nat) :=
  let side? (s : Text) : Option (List Nat) :=
    if s.isEmpty then some [] else pieces? (s.splitOn ':')
  match cutDoubleColon t with
  | none => (side? t).filter (·.length = 8)
  | some (left, right) => do
    let a ← side? left
    let b ← side? right
    if left.contains '.' ∨ 7 < a.length + b.length then none
    else some (a ++ List.replicate (8 - a.length - b.length) 0 ++ b)

def zeros (pieces : List Nat) : Nat := (pieces.takeWhile (· == 0)).length

/-- The longest run of at least two zeros, the first of several: where it starts and how long it is. -/
def longestZeros (pieces : List Nat) : Nat × Nat :=
  (List.range pieces.length).foldl (fun best i =>
    let n := zeros (pieces.drop i)
    if 1 < n ∧ best.2 < n then (i, n) else best) (0, 0)

def showPieces (pieces : List Nat) : Text :=
  List.intercalate [':'] (pieces.map (Nat.toDigits 16))

def showIpv6 (pieces : List Nat) : Text :=
  match longestZeros pieces with
  | (_, 0) => showPieces pieces
  | (i, n) => showPieces (pieces.take i) ++ [':', ':'] ++ showPieces (pieces.drop (i + n))

/-! ### Hosts -/

namespace Host

def toText : Host → Text
  | .domain name => name
  | .ipv4 address => showIpv4 address
  | .ipv6 pieces => '[' :: showIpv6 pieces ++ [']']

def bracketed (t : Text) : Except Invalid Host :=
  match t.getLast?, ipv6? t.dropLast with
  | some ']', some pieces => .ok (.ipv6 pieces)
  | _, _ => .error .ipv6

def parse : Text → Except Invalid Host
  | '[' :: rest => bracketed rest
  | t => do
    let name ← asciiDomain t
    if name.isEmpty then .error .emptyHost
    else if endsInNumber name then
      match ipv4? name with
      | some address => .ok (.ipv4 address)
      | none => .error .ipv4
    else .ok (.domain name)

def parsePlain : Text → Except Invalid Host
  | '[' :: rest => bracketed rest
  | t =>
    if t.any fun c => c.toNat == 0 ||
        [' ', '#', '/', ':', '<', '>', '?', '@', '[', '\\', ']', '^', '|'].contains c then
      .error .domainCharacter
    else .ok (.domain (percentEncode isControl t))

end Host

end ExplicitImports.Url
