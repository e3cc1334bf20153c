import ExplicitImports.Source.Statement

/-!
Import and export declarations. Those that may name another module are found with their names, their attributes
and their place; all others are only found to be there.
-/
namespace ExplicitImports.Source

open Parse

def moduleName : Parse ModuleName := do
  if ← atString then return .string (← string).value
  else return .ident (← anyWord)

/-- The module that a declaration names, with the clause of attributes and what stands inside that. -/
structure Origin where
  source : StringLiteral
  attributes : Option AttributeClause
  inner : List ProgramItem

/-- Attributes after a specifier, on the same line. Their values are meant to be strings, but any object is taken. -/
def originOf (g : Grammar) (source : StringLiteral) : Parse Origin := do
  if !(← newline) && ((← atWord "with") || (← atWord "assert")) then
    let _ ← anyWord
    let start ← start
    let text ← rest
    let (_, inner) ← aside (objectLiteral g)
    let stop ← lastEnd
    return ⟨source, some ⟨text.takeBytes (stop - start), ⟨start, stop⟩⟩, inner⟩
  else return ⟨source, none, []⟩

def fromClause (g : Grammar) : Parse Origin := do
  expectWord "from"
  let origin ← originOf g (← string)
  semicolon
  return origin

def declarationInfo (start : Nat) (typeOnly : Bool) (attributes : Option AttributeClause) : Parse DeclarationInfo := do
  return ⟨typeOnly, attributes, ⟨start, ← lastEnd⟩⟩

def foundImport (start : Nat) (typeOnly : Bool) (bindings : List ImportBinding) (origin : Origin) : Parse Unit := do
  let info ← declarationInfo start typeOnly origin.attributes
  found (.declaration (.importFrom bindings origin.source info) origin.inner)

def foundExport (start : Nat) (typeOnly : Bool) (bindings : List ExportBinding) (origin : Origin) : Parse Unit := do
  let info ← declarationInfo start typeOnly origin.attributes
  found (.declaration (.exportNamed bindings (some origin.source) info) origin.inner)

/-! ### Names in braces -/

structure Alias where
  name : ModuleName
  renamed : Option ModuleName
  isType : Bool

/-- A name in braces. Where types may stand, the word `type` in front of a name marks a type; but it can itself be
the name, and so can `as`. -/
def aliasRule : Parse Alias := do
  let name ← moduleName
  let plain (name : ModuleName) (isType : Bool) : Parse Alias := do
    if ← eatWord "as" then return ⟨name, some (← moduleName), isType⟩
    else return ⟨name, none, isType⟩
  if (← hasTypes) && name == .ident "type".toList && (← peekWord).isSome then
    let second ← anyWord
    if second == "as".toList then
      if (← peekWord).isSome then
        let third ← anyWord
        if third == "as".toList && (← peekWord).isSome then
          return ⟨.ident second, some (.ident (← anyWord)), true⟩
        else return ⟨name, some (.ident third), false⟩
      else return ⟨.ident second, none, true⟩
    else plain (.ident second) true
  else plain name false

def importBinding : Parse ImportBinding := do
  let a ← aliasRule
  match a.renamed, a.name with
  | some (.ident localName), imported =>
    if isReserved localName then failure else return .named (some imported) localName a.isType
  | none, .ident localName =>
    if isReserved localName then failure else return .named none localName a.isType
  | _, _ => failure

def exportBinding : Parse ExportBinding := do
  let a ← aliasRule
  return .named a.name a.renamed a.isType

/-! ### Imports -/

def importEquals : Parse Unit := do
  expect "="
  (do
    expectWord "require"
    expect "("
    let _ ← string
    expect ")"
    semicolon)
  <|> (do qualifiedName; semicolon)

/-- Whether the word that is next names something, rather than being the `from` before a specifier. -/
def atBindingName : Parse Bool := do
  if ← atIdent then
    if ← atWord "from" then after 4 (atWord "from") else return true
  else return false

def importFrom (g : Grammar) (start : Nat) (typeOnly : Bool) (first : List ImportBinding) : Parse Unit := do
  let more ← (do
    if ← eat "*" then
      expectWord "as"
      return [.namespace (← ident)]
    else if ← eat openBrace then listUntil closeBrace importBinding
    else if first.isEmpty then failure
    else return [])
  foundImport start typeOnly (first ++ more) (← fromClause g)

def importDefault (g : Grammar) (start : Nat) (typeOnly : Bool) (name : Text) : Parse Unit := do
  if (← hasTypes) && (← at_ "=") then
    importEquals
    found (.other [])
  else if ← eat "," then importFrom g start typeOnly [.default name]
  else foundImport start typeOnly [.default name] (← fromClause g)

def importDeclaration (g : Grammar) : Parse Unit := do
  let start ← start
  expectWord "import"
  if ← atString then
    let origin ← originOf g (← string)
    let _ ← eat ";"
    foundImport start false [] origin
  else if ← atIdent then
    let name ← ident
    let isWord (w : String) : Bool := name == w.toList
    if (← hasTypes) && isWord "type" then
      if (← at_ "*") || (← at_ openBrace) then importFrom g start true []
      else if (← atBindingName) || ((← atWord "from") && (← after 4 (at_ "="))) then
        importDefault g start true (← ident)
      else importDefault g start false name
    else if isWord "defer" && (← at_ "*") then importFrom g start false []
    else if isWord "source" && (← atBindingName) then importDefault g start false (← ident)
    else importDefault g start false name
  else importFrom g start false []

/-! ### Exports -/

def exportOther (p : Parse Unit) : Parse Unit := nested .other p

/-- A named export in braces, which may name a module. Without one, only identifiers can be exported. -/
def exportBraces (g : Grammar) (start : Nat) (typeOnly : Bool) (first : List ExportBinding) : Parse Unit := do
  expect openBrace
  let more ← listUntil closeBrace exportBinding
  let bindings := first ++ more
  if ← atWord "from" then foundExport start typeOnly bindings (← fromClause g)
  else
    let isPlain : ExportBinding → Bool
      | .named (.ident name) _ _ => !isReserved name
      | _ => false
    if bindings.all isPlain then
      let _ ← eat ";"
      found (.declaration (.exportNamed bindings none (← declarationInfo start typeOnly none)) [])
    else failure

def exportNamed (g : Grammar) (start : Nat) (typeOnly : Bool) (first : List ExportBinding) : Parse Unit := do
  let space ← (do
    if first.isEmpty then at_ "*"
    else if (← at_ ",") && (← after 1 (at_ "*")) then expect ","; return true
    else return false)
  let bindings ← (do
    if space then
      expect "*"
      expectWord "as"
      return first ++ [.namespace (← moduleName)]
    else return first)
  if bindings.isEmpty then exportBraces g start typeOnly []
  else if ← atWord "from" then foundExport start typeOnly bindings (← fromClause g)
  else
    expect ","
    exportBraces g start typeOnly bindings

/-- An export of everything, or a named export. A default name stands only where no types do. -/
def exportFrom (g : Grammar) (start : Nat) (typeOnly : Bool) : Parse Unit := do
  if (← at_ "*") && !(← after 1 (atWord "as")) then
    expect "*"
    let origin ← fromClause g
    found (.declaration (.exportAll origin.source (← declarationInfo start typeOnly origin.attributes)) origin.inner)
  else if !(← hasTypes) && (← atIdent) then exportNamed g start typeOnly [.default (← ident)]
  else exportNamed g start typeOnly []

def exportDefault (g : Grammar) (start : Nat) : Parse Unit := do
  let named ← (do
    if ← hasTypes then return false
    else if ← atWord "from" then after 4 atString
    else if ← at_ "," then after 1 (do return (← at_ openBrace) || (← at_ "*"))
    else return false)
  if named then exportNamed g start false [.default "default".toList]
  else exportOther do
    let typed ← hasTypes
    if typed && (← atWord "interface") && (← after 9 atIdent) then
      let _ ← anyWord
      interfaceRest g
    else if typed && (← atWord "abstract") && (← after 8 (do return (← atWord "class") && !(← newline))) then
      let _ ← anyWord
      let _ ← anyWord
      let _ ← g .classRest
    else
      if ← at_ "@" then decorators g
      match ← keyword with
      | "class" => let _ ← anyWord; let _ ← g .classRest
      | "function" => let _ ← anyWord; functionRest g false false
      | w =>
        if w == "async" && (← after 5 (do return (← atWord "function") && !(← newline))) then
          let _ ← anyWord
          let _ ← anyWord
          functionRest g false false
        else
          let _ ← g (.assignment false false)
          semicolon

def exportable : List String := ["class", "function", "var", "const"]

def exportDeclaration (g : Grammar) : Parse Unit := do
  let start ← start
  expectWord "export"
  let typed ← hasTypes
  -- Before anything but a declaration the word `declare` says nothing.
  if typed && (← atWord "declare") && !(← atTypeDeclaration "declare" true) then let _ ← anyWord
  let w ← keyword
  let isDeclaration ← (do
    if exportable.contains w then return true
    else if w == "async" then after 5 (do return (← atWord "function") && !(← newline))
    else if w == "let" then letDeclares
    else if w == "using" then usingDeclares
    else return false)
  if typed && (← atTypeDeclaration w true) then exportOther (typeDeclaration g)
  else if isDeclaration || (← at_ "@") then exportOther do let _ ← g .statement
  else if typed && w == "import" then
    exportOther do
      let _ ← anyWord
      let name ← anyWord
      if name == "type".toList && (← atIdent) then let _ ← anyWord
      importEquals
  else if typed && (← at_ "=") then
    exportOther do
      expect "="
      expressionStatement g
  else if typed && w == "as" && (← after 2 (atWord "namespace")) then
    exportOther do
      let _ ← anyWord
      let _ ← anyWord
      let _ ← ident
      semicolon
  else if typed && w == "type" then
    let _ ← anyWord
    exportFrom g start true
  else if ← eatWord "default" then exportDefault g start
  else exportFrom g start false

/-! ### Module items -/

def moduleItemRule (g : Grammar) : Parse Bool := do
  match ← keyword with
  | "import" =>
    if ← after 6 (do return (← at_ "(") || (← at_ ".")) then g .statement
    else importDeclaration g; return false
  | "export" => exportDeclaration g; return false
  | _ =>
    if ← at_ "@" then
      let (_, decorations) ← aside (decorators g)
      let (_, items) ← aside (g .moduleItem)
      -- The decorators of a class that is exported stand inside the export.
      match items with
      | [.other inner] => found (.other (decorations ++ inner))
      | items => putDown (decorations ++ items)
      return false
    else g .statement

end ExplicitImports.Source
