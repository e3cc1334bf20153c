import ExplicitImports.Url.Host

/-!
Absolute URLs in normal form: reading them without a base, and printing them.
-/
namespace ExplicitImports

/-- The path of a URL: segments after a root slash, or plain text that cannot be taken apart. -/
inductive UrlPath where
  | segments (list : List Text)
  | plain (text : Text)
  deriving DecidableEq, Repr

structure Authority where
  user : Text
  password : Text
  host : Option Url.Host
  port : Option Nat
  deriving DecidableEq, Repr

structure Url where
  scheme : Text
  authority : Option Authority
  path : UrlPath
  query : Option Text
  fragment : Option Text
  deriving DecidableEq, Repr

namespace Url

def file : Text := "file".toList

/-- The schemes whose URLs always have a host, with the port that need not be written. -/
def defaultPorts : List (Text × Nat) :=
  [("http".toList, 80), ("https".toList, 443), ("ws".toList, 80), ("wss".toList, 443), ("ftp".toList, 21)]

def defaultPort? (scheme : Text) : Option Nat := (defaultPorts.find? (·.1 == scheme)).map (·.2)

def isSpecial (scheme : Text) : Bool := scheme == file || (defaultPort? scheme).isSome

/-! ### Paths -/

def isDot (segment : Text) : Bool := [".".toList, "%2e".toList].contains segment.lower

def isDotDot (segment : Text) : Bool :=
  ["..".toList, ".%2e".toList, "%2e.".toList, "%2e%2e".toList].contains segment.lower

def isDriveLetter : Text → Bool
  | [c, d] => c.isAlpha && (d == ':' || d == '|')
  | _ => false

/-- Leaves the last segment, unless it looks like a drive. -/
def leave (done : List Text) : List Text :=
  match done.getLast? with
  | some drive => if isDriveLetter drive then done else done.dropLast
  | none => []

def enterSegments (isFile : Bool) : List Text → List Text → List Text
  | done, [] => done
  | done, segment :: rest =>
    if isDotDot segment then
      let outer := leave done
      enterSegments isFile (if rest.isEmpty then outer ++ [[]] else outer) rest
    else if isDot segment then
      enterSegments isFile (if rest.isEmpty then done ++ [[]] else done) rest
    else
      let written := percentEncode inPathSet segment
      let written := match written with
        | [c, _] => if isFile && done.isEmpty && isDriveLetter written then [c, ':'] else written
        | _ => written
      enterSegments isFile (done ++ [written]) rest

/-- A file's path has no empty segments at its start. -/
def trimRoot : List Text → List Text
  | [] :: next :: rest => trimRoot (next :: rest)
  | segments => segments

def isPathSlash (special : Bool) (c : Char) : Bool := c == '/' || (special && c == '\\')

def segmentsOf (scheme : Text) (t : Text) : List Text :=
  enterSegments (scheme == file) [] (t.splitOnP (isPathSlash (isSpecial scheme)))

def fileSegments (t : Text) : List Text := trimRoot (segmentsOf file t)

/-! ### Authorities -/

def cutUser (t : Text) : Option (Text × Text) :=
  match t.reverse.dropWhile (· != '@') with
  | [] => none
  | _ :: before => some (before.reverse, (t.reverse.takeWhile (· != '@')).reverse)

def cutPort : Bool → Text → Text × Option Text
  | _, [] => ([], none)
  | inside, c :: rest =>
    if c == ':' && !inside then ([], some rest)
    else
      let inside := if c == '[' then true else if c == ']' then false else inside
      let (host, port) := cutPort inside rest
      (c :: host, port)

/-- A port of at most sixteen bits. Nothing, and the port the scheme implies, are not kept. -/
def parsePort (scheme : Text) (t : Text) : Except Invalid (Option Nat) :=
  if t.all Char.isDigit then
    let n := t.foldl (fun n c => n * 10 + (c.toNat - '0'.toNat)) 0
    if 65535 < n then .error .port
    else .ok (if t.isEmpty || defaultPort? scheme == some n then none else some n)
  else .error .port

def parseAuthority (scheme : Text) (t : Text) (more : Bool) : Except Invalid Authority := do
  let (user, password, rest) ← match cutUser t with
    | none => pure ([], [], t)
    | some ([], rest) => if rest.isEmpty && more then .error .emptyHost else pure ([], [], rest)
    | some (info, rest) =>
      pure (info.takeWhile (· != ':'), (info.dropWhile (· != ':')).drop 1, rest)
  let user := percentEncode inUserSet user
  let password := percentEncode inUserSet password
  let (hostText, portText) := cutPort false rest
  let special := isSpecial scheme
  if hostText.isEmpty && (special || portText.isSome) then .error .emptyHost
  let host ← if hostText.isEmpty then pure none
    else some <$> (if special then Host.parse hostText else Host.parsePlain hostText)
  let port ← match portText with
    | none => pure none
    | some p => parsePort scheme p
  if host.isNone && !(user.isEmpty && password.isEmpty) then .error .emptyHost
  pure ⟨user, password, host, port⟩

/-! ### Reading -/

def isTrimmed (c : Char) : Bool := c.toNat ≤ 0x20

/-- Blanks and controls at both ends, and tabs and line ends everywhere, are passed over. -/
def clean (t : Text) : Text :=
  let trimmed := ((t.dropWhile isTrimmed).reverse.dropWhile isTrimmed).reverse
  trimmed.filter fun c => c != '\t' && c != '\n' && c != '\r'

def cutScheme (t : Text) : Option (Text × Text) :=
  let isPart (c : Char) : Bool := c.isAlphanum || c == '+' || c == '-' || c == '.'
  match t with
  | [] => none
  | c :: _ =>
    match t.dropWhile isPart with
    | ':' :: rest => if c.isAlpha then some (Text.lower (t.takeWhile isPart), rest) else none
    | _ => none

def cutFirst (c : Char) (t : Text) : Text × Option Text :=
  match t.dropWhile (· != c) with
  | [] => (t, none)
  | _ :: rest => (t.takeWhile (· != c), some rest)

/-- The host and the path of a file URL. The local host is no host, and neither is a drive letter. -/
def parseFile (t : Text) : Except Invalid (Option Host × List Text) :=
  let isSlash := isPathSlash true
  match t with
  | a :: b :: rest =>
    if isSlash a && isSlash b then
      let host := rest.takeWhile (!isSlash ·)
      if host.isEmpty || isDriveLetter host then
        .ok (none, fileSegments (if isDriveLetter host then rest else (rest.dropWhile (!isSlash ·)).drop 1))
      else do
        let h ← Host.parse host
        let segments := segmentsOf file ((rest.dropWhile (!isSlash ·)).drop 1)
        let local_ := h == .domain "localhost".toList || (segments.head?.map isDriveLetter).getD false
        pure (if local_ then none else some h, trimRoot segments)
    else .ok (none, fileSegments (if isSlash a then b :: rest else t))
  | [a] => .ok (none, fileSegments (if isSlash a then [] else t))
  | [] => .ok (none, fileSegments [])

/-- The authority and the path of a URL, by the kind of its scheme; `more` says that a query or fragment
follows. -/
def parseBody (scheme : Text) (t : Text) (more : Bool) : Except Invalid (Option Authority × UrlPath) :=
  if scheme == file then do
    let (host, segments) ← parseFile t
    pure (some ⟨[], [], host, none⟩, .segments segments)
  else if isSpecial scheme then do
    let isSlash := isPathSlash true
    let rest := t.dropWhile isSlash
    let path := rest.dropWhile (!isSlash ·)
    let authority ← parseAuthority scheme (rest.takeWhile (!isSlash ·)) (more || !path.isEmpty)
    pure (some authority, .segments (segmentsOf scheme (path.drop 1)))
  else match t with
    | '/' :: '/' :: rest => do
      let path := rest.dropWhile (· != '/')
      let authority ← parseAuthority scheme (rest.takeWhile (· != '/')) (more || !path.isEmpty)
      pure (some authority, .segments (if path.isEmpty then [] else segmentsOf scheme (path.drop 1)))
    | '/' :: rest => .ok (none, .segments (segmentsOf scheme rest))
    | _ => .ok (none, .plain (percentEncode isControl t))

def parse (t : Text) : Except Invalid Url :=
  match cutScheme (clean t) with
  | none => .error .relative
  | some (scheme, rest) => do
    let (rest, fragment) := cutFirst '#' rest
    let (body, query) := cutFirst '?' rest
    let (authority, path) ← parseBody scheme body (query.isSome || fragment.isSome)
    pure {
      scheme := scheme
      authority := authority
      path := path
      query := query.map (percentEncode (inQuerySet (isSpecial scheme)))
      fragment := fragment.map (percentEncode inFragmentSet) }

/-! ### Printing -/

def Authority.toText (a : Authority) : Text :=
  let credentials :=
    if a.user.isEmpty && a.password.isEmpty then []
    else a.user ++ (if a.password.isEmpty then [] else ':' :: a.password) ++ ['@']
  let host := match a.host with
    | some h => h.toText
    | none => []
  let port := match a.port with
    | some p => ':' :: Text.ofNat p
    | none => []
  '/' :: '/' :: credentials ++ host ++ port

def pathText (u : Url) : Text :=
  match u.path with
  | .plain t => t
  | .segments list => list.flatMap ('/' :: ·)

/-- The URL in normal form. A path that begins with an empty segment is kept apart from an authority. -/
def toText (u : Url) : Text :=
  let authority := match u.authority with
    | some a => Authority.toText a
    | none => match u.path with
      | .segments ([] :: _ :: _) => ['/', '.']
      | _ => []
  let query := match u.query with
    | some q => '?' :: q
    | none => []
  let fragment := match u.fragment with
    | some f => '#' :: f
    | none => []
  u.scheme ++ ':' :: authority ++ u.pathText ++ query ++ fragment

def hostText (u : Url) : Text :=
  match u.authority with
  | some ⟨_, _, some h, _⟩ => h.toText
  | _ => []

def filePath? (u : Url) : Option Path :=
  match u.authority, u.path with
  | some ⟨_, _, none, _⟩, .segments list =>
    if u.scheme == file then some (list.flatMap fun s => Glyph.slash :: glyphs (percentDecode s)) else none
  | _, _ => none

end Url

end ExplicitImports
