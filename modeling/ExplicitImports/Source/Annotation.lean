import ExplicitImports.Source.Cursor

/-!
Types, their parameters and arguments, and the parts that types share with expressions: names of properties and
lists of parameters.
-/
namespace ExplicitImports.Source

open Parse

/-- The name of a property. Answers whether it is an identifier that can stand for its own value. -/
def propertyName (g : Grammar) : Parse Bool := do
  let t ← rest
  match t with
  | '[' :: _ =>
    take 1
    let _ ← g (.assignment false false)
    expect "]"
    return false
  | '#' :: _ =>
    takeRaw 1
    let _ ← anyWord
    return false
  | c :: _ =>
    if Literal.isQuote c then let _ ← string; return false
    else if isNumberStart t then number; return false
    else return !isReserved (← anyWord)
  | [] => failure

def angleList (p : Parse Unit) : Parse Unit := do
  expectChar '<'
  p
  repeat_ do
    if ← atChar '>' then take 1; return false
    expect ","
    if ← atChar '>' then pure () else p
    return true

def typeArguments (g : Grammar) : Parse Unit := angleList do let _ ← g .type

def optionalTypeArguments (g : Grammar) : Parse Unit := do
  if (← atChar '<') && !(← newline) then typeArguments g

def modifiersBeforeName (modifiers : List String) : Parse Unit := do
  repeat_ do
    let w ← keyword
    if modifiers.contains w then
      if ← after w.length (do return (← peekWord).isSome) then
        let _ ← anyWord
        return true
      else return false
    else return false

def typeParameters (g : Grammar) : Parse Unit := angleList do
  modifiersBeforeName ["const", "in", "out"]
  let _ ← ident
  if ← eatWord "extends" then let _ ← g .type
  if ← eat "=" then let _ ← g .type

def optionalTypeParameters (g : Grammar) : Parse Unit := do
  if (← hasTypes) && (← atChar '<') then typeParameters g

def decorators (g : Grammar) : Parse Unit := do
  repeat_ do
    if ← eat "@" then
      if ← eat "(" then
        let _ ← g (.expression false)
        expect ")"
      else
        let _ ← ident
        repeat_ do
          if ← eat "." then
            if ← atChar '#' then takeRaw 1
            let _ ← anyWord
            return true
          else return false
      if (← hasTypes) && (← atChar '<') then typeArguments g
      if ← eat "(" then
        let _ ← listUntil ")" (do let _ ← eat "..."; g (.assignment false false))
      return true
    else return false

def optionalAnnotation (g : Grammar) : Parse Unit := do
  if ← hasTypes then
    if ← eat ":" then let _ ← g .type

def accessModifiers : List String := ["public", "private", "protected", "readonly", "override"]

def parameter (g : Grammar) : Parse Unit := do
  decorators g
  if ← hasTypes then
    repeat_ do
      let w ← keyword
      if accessModifiers.contains w then
        if ← after w.length (do return (← peekWord).isSome || (← at_ openBrace) || (← at_ "[")) then
          let _ ← anyWord
          return true
        else return false
      else return false
  let _ ← eat "..."
  if (← hasTypes) && (← atWord "this") then let _ ← anyWord
  else let _ ← g .binding
  if ← hasTypes then let _ ← eat "?"
  optionalAnnotation g
  if ← eat "=" then let _ ← g (.assignment false false)

def parameters (g : Grammar) : Parse Unit := do
  expect "("
  let _ ← listUntil ")" (parameter g)

/-- What a function returns: a type, or a statement about one of its parameters. -/
def returned (g : Grammar) : Parse Unit :=
  (do
    expectWord "asserts"
    if ← newline then failure
    let _ ← anyWord
    if (← atWord "is") && !(← newline) then
      let _ ← anyWord
      let _ ← g .type)
  <|> (do
    let _ ← anyWord
    if ← newline then failure
    expectWord "is"
    let _ ← g .type)
  <|> (do let _ ← g .type)

def optionalReturned (g : Grammar) : Parse Unit := do
  if ← hasTypes then
    if ← eat ":" then returned g

def memberEnd : Parse Unit := do
  if ← eatAny [";", ","] then pure ()
  else if (← at_ closeBrace) || (← newline) then pure ()
  else failure

def signature (g : Grammar) : Parse Unit := do
  optionalTypeParameters g
  parameters g
  optionalReturned g

def indexSignature (g : Grammar) : Parse Unit := do
  expect "["
  let _ ← ident
  expect ":"
  let _ ← g .type
  expect "]"
  let _ ← eat "?"
  optionalAnnotation g

def typeProperty (g : Grammar) : Parse Unit := do
  modifiersBefore ["readonly", "get", "set"]
  let _ ← propertyName g
  let _ ← eat "?"
  if (← at_ "(") || (← atChar '<') then signature g else optionalAnnotation g
where
  modifiersBefore (modifiers : List String) : Parse Unit := do
    repeat_ do
      let w ← keyword
      if modifiers.contains w then
        let named ← after w.length (do
          return (← peekWord).isSome || (← atString) || (← at_ "[") || isNumberStart (← rest))
        if named then
          let _ ← anyWord
          return true
        else return false
      else return false

def typeMembers (g : Grammar) : Parse Unit := do
  expect openBrace
  repeat_ do
    if ← eat closeBrace then return false
    if (← at_ "(") || (← atChar '<') then signature g
    else
      (do
        let _ ← eatWord "readonly"
        indexSignature g
        memberEnd)
      <|> (do
        expectWord "new"
        signature g
        memberEnd)
      <|> (do typeProperty g; memberEnd)
      return true
    memberEnd
    return true

def mappedType (g : Grammar) : Parse Unit := do
  let sign : Parse Unit := do let _ ← eatAny ["+", "-"]
  expect openBrace
  sign
  let _ ← eatWord "readonly"
  expect "["
  let _ ← ident
  expectWord "in"
  let _ ← g .type
  if ← eatWord "as" then let _ ← g .type
  expect "]"
  sign
  let _ ← eat "?"
  optionalAnnotation g
  let _ ← eat ";"
  let _ ← eat ","
  expect closeBrace

def tupleElement (g : Grammar) : Parse Unit := do
  let _ ← eat "..."
  (do
    let _ ← anyWord
    let _ ← eat "?"
    expect ":"
    let _ ← g .type)
  <|> (do
    let _ ← g .type
    let _ ← eat "?")

def template (tagged : Bool) (gap : Parse Unit) : Parse Unit := do
  takeRaw 1
  repeat_ do
    match afterTemplatePiece? tagged (← rest) with
    | none => failure
    | some (opens, after) =>
      moveTo after
      settle
      if opens then
        gap
        if ← atChar '}' then takeRaw 1 else failure
        return true
      else return false

def qualifiedName : Parse Unit := do
  let _ ← anyWord
  repeat_ do
    if ← eat "." then
      if ← atChar '#' then takeRaw 1
      let _ ← anyWord
      return true
    else return false

def importType (g : Grammar) : Parse Unit := do
  expectWord "import"
  expect "("
  let _ ← g .type
  if ← eat "," then
    if !(← at_ ")") then
      let _ ← g (.assignment false false)
      let _ ← eat ","
  expect ")"
  if ← eat "." then qualifiedName
  optionalTypeArguments g

def functionType (g : Grammar) : Parse Unit := do
  let _ ← eatWord "abstract"
  let _ ← eatWord "new"
  optionalTypeParameters g
  parameters g
  expect "=>"
  returned g

def primaryType (g : Grammar) : Parse Unit := do
  let t ← rest
  match t with
  | '{' :: _ => mappedType g <|> typeMembers g
  | '[' :: _ =>
    take 1
    let _ ← listUntil "]" (tupleElement g)
  | '(' :: _ =>
    functionType g <|> (do
      expect "("
      let _ ← g .type
      expect ")")
  | '<' :: _ => functionType g
  | '`' :: _ => template false (do let _ ← g .type)
  | '-' :: _ => take 1; number
  | _ =>
    if ← atString then let _ ← string
    else if isNumberStart t then number
    else
      match ← keyword with
      | "new" => functionType g
      | "abstract" => functionType g <|> (do qualifiedName; optionalTypeArguments g)
      | "import" => importType g
      | "typeof" =>
        let _ ← anyWord
        if ← atWord "import" then importType g
        else
          qualifiedName
          optionalTypeArguments g
      | "this" | "void" | "null" | "true" | "false" => let _ ← anyWord
      | _ =>
        let _ ← ident
        if ← at_ "." then
          take 1
          qualifiedName
        optionalTypeArguments g

def postfixType (g : Grammar) : Parse Unit := do
  primaryType g
  repeat_ do
    if (← at_ "[") && !(← newline) then
      take 1
      if ← eat "]" then return true
      let _ ← g .type
      expect "]"
      return true
    else return false

/-- The bound of an inferred type. Before a question mark it is a condition instead. -/
def inferredBound (g : Grammar) : Parse Unit := do
  expectWord "extends"
  let _ ← g .type
  if ← at_ "?" then failure

def operatorType (g : Grammar) : Parse Unit := do
  repeat_ do
    if ["keyof", "unique", "readonly"].contains (← keyword) then
      let _ ← anyWord
      return true
    else return false
  if ← eatWord "infer" then
    let _ ← ident
    inferredBound g <|> pure ()
  else postfixType g

def typesWith (operator : String) (p : Parse Unit) : Parse Unit := do
  let _ ← eat operator
  p
  repeat_ do
    if ← eat operator then
      p
      return true
    else return false

def unionType (g : Grammar) : Parse Unit := typesWith "|" (typesWith "&" (operatorType g))

def typeRule (g : Grammar) : Parse Bool := do
  unionType g
  if (← atWord "extends") && !(← newline) then
    let _ ← anyWord
    unionType g
    if ← eatWord "extends" then unionType g
    expect "?"
    let _ ← g .type
    expect ":"
    let _ ← g .type
  return false

end ExplicitImports.Source
