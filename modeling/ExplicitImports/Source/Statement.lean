import ExplicitImports.Source.Expression

/-!
Statements and declarations, with classes among them.
-/
namespace ExplicitImports.Source

open Parse

/-! ### Classes -/

def atMethod : Parse Bool := do return (← at_ "(") || ((← hasTypes) && (← atChar '<'))

/-- Whether a field follows a name: a type, a value, or the end of the member. A line end counts if `lines` says
so. -/
def atField (lines : Bool) : Parse Bool := do
  let typed ← (do return (← hasTypes) && ((← at_ "!") || (← at_ ":")))
  let ended ← (do return (← at_ ";") || (lines && ((← newline) || (← atEnd))))
  return typed || ended || (← at_ "=") || (← at_ closeBrace)

/-- Takes a word, unless it is itself the name of the member. -/
def memberWord (w : String) (lines : Bool) : Parse Bool := do
  if ← atWord w then
    if ← after w.length (do return (← atMethod) || (← atField lines)) then return false
    let _ ← anyWord
    return true
  else return false

def typeModifier (modifiers : List String) : Parse Bool := do
  let w ← keyword
  if (← hasTypes) && modifiers.contains w then
    let followed ← after w.length (do
      return !(← newline) && ((← atPropertyName) || (← at_ "*") || (← at_ "...") || (← at_ openBrace)))
    if followed && !(w == "static" && (← after 6 (at_ openBrace))) then
      let _ ← anyWord
      return true
    else return false
  else return false

/-- A field after its name. What its type and its decorators hold comes after the value. -/
def classField (g : Grammar) (decorations : List ProgramItem) : Parse Unit := do
  if ← hasTypes then let _ ← eat "!"
  let (_, types) ← aside <| optionalAnnotation g
  if ← eat "=" then let _ ← g (.assignment false false)
  putDown (types ++ decorations)
  semicolon

/-- The name of a member and what follows it. The words `get`, `set` and `async` can be in front of another name
or be the name. -/
def namedMember (g : Grammar) (decorations : List ProgramItem) : Parse Unit := do
  let first ← keyword
  let _ ← propertyName g
  if ← hasTypes then let _ ← eat "?"
  let accessor ← (do
    if first == "get" || first == "set" then return !(← atField false) && !((← newline) && (← at_ "*"))
    else return false)
  if ← atMethod then methodRest g false false decorations
  else if accessor then
    let _ ← propertyName g
    methodRest g false false decorations
  else if ← atField true then classField g decorations
  else if first == "async" then
    let generator ← eat "*"
    let _ ← propertyName g
    if ← hasTypes then let _ ← eat "?"
    methodRest g generator false decorations
  else failure

def unmodifiedMember (g : Grammar) (decorations : List ProgramItem) : Parse Unit := do
  if ← eat "*" then
    let _ ← propertyName g
    methodRest g true false decorations
  else if (← hasTypes) && (← at_ "[") then (do indexSignature g; memberEnd) <|> namedMember g decorations
  else namedMember g decorations

def classMember (g : Grammar) : Parse Unit := do
  let (_, decorations) ← aside (decorators g)
  let typed ← hasTypes
  let declareWord : Parse Unit := do
    if typed then let _ ← memberWord "declare" true
  declareWord
  let _ ← typeModifier ["public", "private", "protected"]
  declareWord
  let isStatic ← memberWord "static" false
  declareWord
  let _ ← memberWord "accessor" true
  repeat_ (typeModifier ["abstract", "readonly", "override", "static"])
  let _ ← memberWord "accessor" true
  if isStatic && (← at_ openBrace) then let _ ← g .functionBody else unmodifiedMember g decorations

def typeList (g : Grammar) : Parse Unit := do
  let _ ← g .type
  repeat_ do
    if ← eat "," then
      let _ ← g .type
      return true
    else return false

def classBody (g : Grammar) : Parse Unit := do
  expect openBrace
  repeat_ do
    if ← eat closeBrace then return false
    if ← eat ";" then return true
    classMember g
    return true

/-- A class from its name on. In a program its members come first, then the class that it extends, and types last. -/
def classRule (g : Grammar) : Parse Bool := do
  let typed ← hasTypes
  if (← atIdent) && !(typed && (← atWord "implements")) then let _ ← ident
  let (_, typeParameters) ← aside (optionalTypeParameters g)
  let (extending, superclass) ← aside do
    let extending ← eatWord "extends"
    if extending then let _ ← leftHandSide g
    return extending
  let (_, types) ← aside do
    if extending && typed && (← atChar '<') then typeArguments g
    if typed then
      if ← eatWord "implements" then typeList g
  classBody g
  putDown (superclass ++ typeParameters ++ types)
  return false

def namedClassRest (g : Grammar) : Parse Unit := do
  if ← atIdent then let _ ← g .classRest else failure

/-! ### Blocks and variables -/

def block (g : Grammar) : Parse Unit := do
  expect openBrace
  repeat_ do
    if ← eat closeBrace then return false
    let _ ← g .statement
    return true

def condition (g : Grammar) : Parse Unit := do
  expect "("
  let _ ← g (.expression false)
  expect ")"

def variableList (g : Grammar) (lexical noIn : Bool) : Parse Unit := do
  repeat_ do
    if (← at_ ";") || (← atEnd) then return false
    if lexical && (← atWord "let") then failure
    let _ ← g .binding
    if ← hasTypes then let _ ← eat "!"
    optionalAnnotation g
    if ← eat "=" then let _ ← g (.assignment noIn false)
    eat ","

def resources (g : Grammar) : Parse Unit := do
  repeat_ do
    let _ ← ident
    optionalAnnotation g
    expect "="
    let _ ← g (.assignment false false)
    eat ","

def letDeclares : Parse Bool :=
  after 3 (do return (← at_ "[") || (← at_ openBrace) || ((← atIdent) && !(← atWord "of")) ||
    ((← atWord "of") && (← after 2 (do return (← at_ "=") || (← at_ ";") || (← at_ ",") || (← atWord "of")))))

def usingDeclares : Parse Bool :=
  after 5 (do return (← atIdent) && !(← newline) && !(← atWord "of") && !(← atWord "as") && !(← atWord "satisfies"))

/-! ### Loops -/

def loopOver (g : Grammar) : Parse Unit := do
  if ← eatWord "of" then let _ ← g (.assignment false false)
  else
    expectWord "in"
    let _ ← g (.expression false)
  expect ")"
  let _ ← g .statement

def countingLoop (g : Grammar) : Parse Unit := do
  expect ";"
  if !(← at_ ";") then let _ ← g (.expression false)
  expect ";"
  if !(← at_ ")") then let _ ← g (.expression false)
  expect ")"
  let _ ← g .statement

def forStatement (g : Grammar) : Parse Unit := do
  expectWord "for"
  let _ ← eatWord "await"
  expect "("
  let loop : Parse Unit := do
    if (← atWord "of") || (← atWord "in") then loopOver g else countingLoop g
  let resourceLoop : Parse Unit := do
    let _ ← ident
    optionalAnnotation g
    if ← atWord "of" then loopOver g else failure
  if ← at_ ";" then countingLoop g
  else
    match ← keyword with
    | "var" => let _ ← anyWord; variableList g false true; loop
    | "const" => let _ ← anyWord; variableList g true true; loop
    | w =>
      if w == "let" && (← letDeclares) then
        let _ ← anyWord
        variableList g true true
        loop
      else if w == "using" && (← usingDeclares) then
        let _ ← anyWord
        resourceLoop
      else if w == "await" && (← after 5 (do return (← atWord "using") && (← usingDeclares))) then
        let _ ← anyWord
        let _ ← anyWord
        resourceLoop
      else
        let _ ← g (.expression true)
        loop

/-! ### Choices -/

def switchBody (g : Grammar) : Parse Unit := do
  expect openBrace
  repeat_ do
    if ← eat closeBrace then return false
    if ← eatWord "case" then let _ ← g (.expression false)
    else expectWord "default"
    expect ":"
    repeat_ do
      if (← at_ closeBrace) || (← atWord "case") || (← atWord "default") then return false
      let _ ← g .statement
      return true
    return true

def tryStatement (g : Grammar) : Parse Unit := do
  expectWord "try"
  block g
  let caught ← eatWord "catch"
  if caught then
    if ← eat "(" then
      let _ ← g .binding
      optionalAnnotation g
      expect ")"
    block g
  if ← eatWord "finally" then block g
  else if caught then pure ()
  else failure

/-! ### Declarations of types -/

def interfaceRest (g : Grammar) : Parse Unit := do
  let _ ← ident
  optionalTypeParameters g
  if ← eatWord "extends" then typeList g
  typeMembers g

def enumRest (g : Grammar) : Parse Unit := do
  let _ ← ident
  expect openBrace
  let _ ← listUntil closeBrace (do
    let _ ← propertyName g
    if ← eat "=" then let _ ← g (.assignment false false))

def aliasRest (g : Grammar) : Parse Unit := do
  let _ ← ident
  optionalTypeParameters g
  expect "="
  let _ ← g .type
  semicolon

def moduleBody (g : Grammar) : Parse Unit := nested .block do
  expect openBrace
  repeat_ do
    if ← eat closeBrace then return false
    let _ ← g .moduleItem
    return true

def optionalModuleBody (g : Grammar) : Parse Unit := do
  if ← at_ openBrace then moduleBody g else semicolon

/-- A declared module after its keyword: a name, perhaps with points, or a string. Only under a string may the
body be left out. -/
def moduleRest (g : Grammar) : Parse Unit := do
  if ← atString then
    let _ ← string
    optionalModuleBody g
  else
    qualifiedName
    moduleBody g

def declarable : List String :=
  ["function", "class", "abstract", "const", "let", "var", "enum", "namespace", "module", "global", "interface", "type",
   "using"]

/-- Whether a declaration begins here that only stands where types may stand; `w` is the word that is next. What
follows the word must be on the same line unless `lines` says otherwise. -/
def atTypeDeclaration (w : String) (lines : Bool) : Parse Bool := do
  let follows (test : Parse Bool) : Parse Bool := after w.length (do return (lines || !(← newline)) && (← test))
  match w with
  | "interface" | "type" | "enum" => follows atIdent
  | "namespace" => after 9 atIdent
  | "module" => follows do return (← atIdent) || (← atString)
  | "const" => after 5 (atWord "enum")
  | "abstract" => follows (atWord "class")
  | "global" => follows (at_ openBrace)
  | "declare" => follows do return declarable.contains (← keyword)
  | _ => return false

def valueDeclarations : List String := ["function", "class", "const", "let", "var", "using"]

def typeDeclarationRest (g : Grammar) : String → Parse Unit
  | "interface" => interfaceRest g
  | "type" => aliasRest g
  | "namespace" | "module" => moduleRest g
  | "enum" => enumRest g
  | "const" => do let _ ← anyWord; enumRest g
  | "abstract" => do let _ ← anyWord; namedClassRest g
  | "global" => optionalModuleBody g
  | _ => failure

def typeDeclaration (g : Grammar) : Parse Unit := do
  let declared ← eatWord "declare"
  let w ← keyword
  if declared && valueDeclarations.contains w && !(← atTypeDeclaration w true) then let _ ← g .statement
  else
    let _ ← anyWord
    typeDeclarationRest g w

/-! ### Statements -/

def expressionStatement (g : Grammar) : Parse Unit := do
  let _ ← g (.expression false)
  semicolon

def jump : Parse Unit := do
  let _ ← anyWord
  if !(← newline) && (← atIdent) then let _ ← ident
  semicolon

def wordStatement (g : Grammar) (w : String) : Parse Unit := do
  match w with
  | "var" => let _ ← anyWord; variableList g false false; semicolon
  | "const" => let _ ← anyWord; variableList g true false; semicolon
  | "function" => let _ ← anyWord; functionRest g true false
  | "class" => let _ ← anyWord; namedClassRest g
  | "if" =>
    let _ ← anyWord
    condition g
    let _ ← g .statement
    if ← eatWord "else" then let _ ← g .statement
  | "for" => forStatement g
  | "while" | "with" =>
    let _ ← anyWord
    condition g
    let _ ← g .statement
  | "do" =>
    let _ ← anyWord
    -- In a program the condition comes before the body.
    let (_, body) ← aside (g .statement)
    expectWord "while"
    condition g
    putDown body
    let _ ← eat ";"
  | "switch" => let _ ← anyWord; condition g; switchBody g
  | "try" => tryStatement g
  | "return" =>
    let _ ← anyWord
    if !((← at_ ";") || (← at_ closeBrace) || (← atEnd) || (← newline)) then let _ ← g (.expression false)
    semicolon
  | "throw" =>
    let _ ← anyWord
    if ← newline then failure
    expressionStatement g
  | "break" | "continue" => jump
  | "debugger" => let _ ← anyWord; semicolon
  | "import" =>
    let _ ← g (.expression false)
    let _ ← eat ";"
  | "export" => failure
  | "async" =>
    if ← after 5 (do return (← atWord "function") && !(← newline)) then
      let _ ← anyWord
      let _ ← anyWord
      functionRest g true false
    else expressionStatement g
  | "let" =>
    if ← letDeclares then
      let _ ← anyWord
      variableList g true false
      semicolon
    else expressionStatement g
  | "using" =>
    if ← usingDeclares then
      let _ ← anyWord
      resources g
      semicolon
    else expressionStatement g
  | "await" =>
    if ← after 5 (do return (← atWord "using") && !(← newline) && (← usingDeclares)) then
      let _ ← anyWord
      let _ ← anyWord
      resources g
      semicolon
    else expressionStatement g
  | _ => expressionStatement g

def statementRule (g : Grammar) : Parse Bool := do
  match ← peek with
  | none => failure
  | some '{' => block g
  | some ';' => take 1
  | some '@' =>
    decorators g
    let _ ← g .statement
  | some _ =>
    match ← peekWord with
    | none => expressionStatement g
    | some word =>
      if !isReserved word.name && word.name != "await".toList && (← after word.length (at_ ":")) then
        let _ ← anyWord
        expect ":"
        let _ ← g .statement
      else
        let w ← keyword
        if (← hasTypes) && (← atTypeDeclaration w false) then typeDeclaration g else wordStatement g w
  return false

end ExplicitImports.Source
