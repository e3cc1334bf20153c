import ExplicitImports.Url.Basic

/-!
Media types of sources, by name and from URLs.
-/
namespace ExplicitImports

inductive MediaType where
  | javaScript | jsx | mjs | cjs | typeScript | mts | cts | dts | dmts | dcts | tsx
  | css | json | html | sql | wasm | sourceMap | unknown
  deriving DecidableEq, Repr

namespace MediaType

def names : List (Text × MediaType) :=
  [("JavaScript".toList, .javaScript), ("JSX".toList, .jsx), ("Mjs".toList, .mjs), ("Cjs".toList, .cjs),
   ("TypeScript".toList, .typeScript), ("Mts".toList, .mts), ("Cts".toList, .cts), ("Dts".toList, .dts),
   ("Dmts".toList, .dmts), ("Dcts".toList, .dcts), ("TSX".toList, .tsx), ("Css".toList, .css),
   ("Json".toList, .json), ("Html".toList, .html), ("Sql".toList, .sql), ("Wasm".toList, .wasm),
   ("SourceMap".toList, .sourceMap), ("Unknown".toList, .unknown)]

def ofName? (t : Text) : Option MediaType := (names.find? (·.1 == t)).map (·.2)

def hasTypes : MediaType → Bool
  | .typeScript | .mts | .cts | .dts | .dmts | .dcts | .tsx => true
  | _ => false

def hasMarkup : MediaType → Bool
  | .jsx | .tsx => true
  | _ => false

/-- The type of a module whose source is to be changed: unknown sources are taken for JavaScript, and those of
the older module system for their counterparts with module declarations. -/
def forModule : MediaType → MediaType
  | .unknown => .javaScript
  | .cjs => .mjs
  | .cts => .mts
  | .dcts => .dmts
  | m => m

def extensions : List (Text × MediaType) :=
  [("js".toList, .javaScript), ("jsx".toList, .jsx), ("mjs".toList, .mjs), ("cjs".toList, .cjs),
   ("tsx".toList, .tsx), ("css".toList, .css), ("json".toList, .json), ("html".toList, .html), ("sql".toList, .sql),
   ("wasm".toList, .wasm), ("map".toList, .sourceMap)]

/-- Extensions with types: the type of a source, and of one that only declares. -/
def typedExtensions : List (Text × MediaType × MediaType) :=
  [("ts".toList, .typeScript, .dts), ("mts".toList, .mts, .dmts), ("cts".toList, .cts, .dcts)]

def holds (part : Text) : Text → Bool
  | [] => part.isEmpty
  | c :: t => part.isPrefixOf (c :: t) || holds part t

def ofFileName (name : Text) : MediaType :=
  match name.reverse.dropWhile (· != '.') with
  | [] => .unknown
  | _ =>
    let extension := Text.lower (name.reverse.takeWhile (· != '.')).reverse
    match typedExtensions.find? (·.1 == extension) with
    | some (_, source, declared) => if holds ['.', 'd', '.'] name.lower then declared else source
    | none => ((extensions.find? (·.1 == extension)).map (·.2)).getD .unknown

def contentTypes : List (Text × MediaType) :=
  [("application/typescript".toList, .typeScript), ("text/typescript".toList, .typeScript),
   ("video/vnd.dlna.mpeg-tts".toList, .typeScript), ("video/mp2t".toList, .typeScript),
   ("application/x-typescript".toList, .typeScript),
   ("application/javascript".toList, .javaScript), ("text/javascript".toList, .javaScript),
   ("application/ecmascript".toList, .javaScript), ("text/ecmascript".toList, .javaScript),
   ("application/x-javascript".toList, .javaScript), ("application/node".toList, .javaScript),
   ("text/jsx".toList, .jsx), ("text/tsx".toList, .tsx), ("text/css".toList, .css),
   ("application/json".toList, .json), ("text/json".toList, .json), ("text/html".toList, .html),
   ("application/wasm".toList, .wasm)]

def ofContentType (t : Text) : MediaType :=
  let parameterless := t.takeWhile (· != ';')
  let essence := ((parameterless.dropWhile (· == ' ')).reverse.dropWhile (· == ' ')).reverse
  ((contentTypes.find? (·.1 == Text.lower essence)).map (·.2)).getD .unknown

/-- The type of what a URL leads to. Without a path the name of the host decides. -/
def ofUrl (u : Url) : MediaType :=
  if u.scheme == "data".toList then ofContentType (u.pathText.takeWhile (· != ','))
  else
    let path := u.pathText
    let whole := if path.isEmpty then u.hostText else path.trimSlashes
    ofFileName (whole.reverse.takeWhile (· != '/')).reverse

end MediaType

end ExplicitImports
