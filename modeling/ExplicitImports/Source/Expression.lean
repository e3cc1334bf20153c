import ExplicitImports.Source.Annotation

/-!
Expressions, with the functions and object literals in them.
-/
namespace ExplicitImports.Source

open Parse

/-! ### Functions -/

/-- A function or method from its type parameters on. Where types may stand, the body may be left to another
declaration. What its decorators hold comes between the parameters and the body, and what its types hold comes last. -/
def methodRest (g : Grammar) (generator bodyRequired : Bool) (decorations : List ProgramItem) : Parse Unit :=
  withGenerator generator do
    let (_, typeParameters) ← aside (optionalTypeParameters g)
    parameters g
    let (_, result) ← aside (optionalReturned g)
    putDown decorations
    if (← at_ openBrace) || bodyRequired || !(← hasTypes) then let _ ← g .functionBody
    else semicolon
    putDown (typeParameters ++ result)

def functionRest (g : Grammar) (nameRequired bodyRequired : Bool) : Parse Unit := do
  let generator ← eat "*"
  if nameRequired || (← peekWord).isSome then let _ ← ident
  methodRest g generator bodyRequired []

def arrowBody (g : Grammar) (noIn noReturnType : Bool) : Parse Unit := withGenerator false do
  if ← newline then failure
  expect "=>"
  if ← at_ openBrace then let _ ← g .functionBody
  else let _ ← g (.assignment noIn noReturnType)

def arrowFromParameters (g : Grammar) (noIn noReturnType : Bool) : Parse Unit := do
  let (_, typeParameters) ← aside (optionalTypeParameters g)
  parameters g
  let (_, result) ← aside (if noReturnType then pure () else optionalReturned g)
  arrowBody g noIn noReturnType
  putDown (typeParameters ++ result)

def arrowFunction (g : Grammar) (noIn noReturnType : Bool) : Parse Unit :=
  (do
    expectWord "async"
    if ← newline then failure
    (do
      let _ ← ident
      arrowBody g noIn noReturnType)
    <|> arrowFromParameters g noIn noReturnType)
  <|> (do
    if (← at_ "(") || (← atChar '<') then arrowFromParameters g noIn noReturnType
    else
      let _ ← ident
      arrowBody g noIn noReturnType)

/-! ### Object and array literals -/

def atPropertyName : Parse Bool := do
  let t ← rest
  match t with
  | c :: _ =>
    return c == '[' || c == '#' || Literal.isQuote c || isNumberStart t || (← peekWord).isSome
  | [] => return false

/-- A property of an object literal. One with a default value is meant to be assigned to. -/
def objectProperty (g : Grammar) : Parse Unit := do
  if ← eat "..." then let _ ← g (.assignment false false)
  else
    let starred ← eat "*"
    let accessor ← (do
      let w ← keyword
      if w == "async" then
        after 5 (do return !(← newline) && ((← atPropertyName) || (← at_ "*")))
      else if w == "get" || w == "set" then after 3 atPropertyName
      else return false)
    if accessor then let _ ← anyWord
    let starred ← if ← eat "*" then pure true else pure starred
    if ← atChar '#' then failure
    let shorthand ← propertyName g
    if starred || accessor || (← at_ "(") || (← atChar '<') then methodRest g starred true []
    else if ← eat ":" then let _ ← g (.assignment false false)
    else if shorthand then
      if ← eat "=" then let _ ← g (.assignment false false)
    else failure

def objectLiteral (g : Grammar) : Parse Unit := do
  expect openBrace
  let _ ← listUntil closeBrace (objectProperty g)

def arrayLiteral (g : Grammar) : Parse Unit := do
  expect "["
  let _ ← listUntil "]" (do
    if ← at_ "," then pure ()
    else
      let _ ← eat "..."
      let _ ← g (.assignment false false))

def callArguments (g : Grammar) : Parse Unit := do
  expect "("
  let _ ← listUntil ")" (do
    let _ ← eat "..."
    let _ ← g (.assignment false false))

/-! ### Primary expressions -/

def templateLiteral (g : Grammar) (tagged : Bool) : Parse Unit := template tagged do
  let _ ← g (.expression false)

def regex : Parse Unit := do
  match afterRegex? false ((← rest).drop 1) with
  | none => failure
  | some after => moveTo after; settle

def importExpression (g : Grammar) : Parse Unit := do
  expectWord "import"
  if ← eat "." then
    match ← keyword with
    | "meta" => let _ ← anyWord
    | "source" | "defer" => let _ ← anyWord; callArguments g
    | _ => failure
  else callArguments g

def primary (g : Grammar) : Parse Bool := do
  let t ← rest
  match t with
  | [] => failure
  | '(' :: _ =>
    take 1
    if ← at_ ")" then failure
    let _ ← listUntil ")" (g (.assignment false false))
    return true
  | '[' :: _ => arrayLiteral g; return true
  | '{' :: _ => objectLiteral g; return true
  | '`' :: _ => templateLiteral g false; return false
  | '/' :: _ => regex; return false
  | '#' :: _ => takeRaw 1; let _ ← anyWord; return false
  | '@' :: _ =>
    decorators g
    expectWord "class"
    let _ ← g .classRest
    return false
  | '<' :: _ => if ← hasMarkup then g (.markup false) else failure
  | c :: _ =>
    if Literal.isQuote c then let _ ← string; return false
    else if isNumberStart t then number; return false
    else
      match ← keyword with
      | "this" | "null" | "true" | "false" => let _ ← anyWord; return false
      | "super" =>
        let _ ← anyWord
        if (← at_ ".") || (← at_ "[") || (← at_ "(") then return false else failure
      | "function" => let _ ← anyWord; functionRest g false true; return false
      | "class" => let _ ← anyWord; let _ ← g .classRest; return false
      | "import" => importExpression g; return false
      | "async" =>
        let _ ← anyWord
        if (← atWord "function") && !(← newline) then
          let _ ← anyWord
          functionRest g false true
          return false
        else return true
      | _ => let _ ← ident; return true

/-! ### Members and calls -/

/-- Whether type arguments can end here: before a call or a template, or where no operand can follow. -/
def atTypeArgumentsEnd : Parse Bool := do
  let t ← rest
  match t with
  | [] => return true
  | c :: _ =>
    if c == '(' || c == '`' then return true
    else if ← newline then return true
    else return [')', ']', ':', ';', ',', '.', '?', '=', '!', '&', '|', '^', '}', '*', '%'].contains c

def memberChain (g : Grammar) (noCall : Bool) (first : Bool) : Parse Bool := do
  let step (assignable : Bool) : Parse (Option Bool) := do
    let t ← rest
    match t with
    | [] => return none
    | '`' :: _ => templateLiteral g true; return some false
    | '[' :: _ =>
      take 1
      let _ ← g (.expression false)
      expect "]"
      return some true
    | '(' :: _ =>
      if noCall then return none
      callArguments g
      return some false
    | '.' :: _ =>
      if ← eat "." then
        if ← atChar '#' then takeRaw 1
        let _ ← anyWord
        return some true
      else return none
    | '?' :: _ =>
      if noCall then return none
      else if ← eat "?." then
        if (← at_ "(") || (← at_ "[") then return some true
        if (← hasTypes) && (← atChar '<') then
          typeArguments g
          if ← at_ "(" then return some true else failure
        if ← atChar '#' then takeRaw 1
        let _ ← anyWord
        return some true
      else return none
    | '!' :: _ =>
      if (← hasTypes) && !(← newline) && (← at_ "!") then
        take 1
        return some assignable
      else return none
    | '<' :: _ =>
      if ← hasTypes then
        (do
          typeArguments g
          if ← atTypeArgumentsEnd then return some false else failure)
        <|> pure none
      else return none
    | _ => return none
  chain step first (← read).bound
where
  chain (step : Bool → Parse (Option Bool)) (assignable : Bool) : Nat → Parse Bool
    | 0 => failure
    | n + 1 => do
      match ← step assignable with
      | none => return assignable
      | some a => chain step a n

def newExpression (g : Grammar) : Nat → Parse Bool
  | 0 => failure
  | n + 1 => do
    expectWord "new"
    if ← eat "." then
      expectWord "target"
      return false
    let callee ← if ← atWord "new" then newExpression g n else primary g
    let _ ← memberChain g true callee
    if ← at_ "(" then callArguments g
    return false

def leftHandSide (g : Grammar) : Parse Bool := do
  let first ← if ← atWord "new" then newExpression g (← read).bound else primary g
  memberChain g false first

/-! ### Operators -/

def operandWords : List Text :=
  ["class", "delete", "false", "function", "new", "null", "super", "this", "true", "typeof", "void"].map String.toList

def infixWords : List Text := ["of", "as", "satisfies"].map String.toList

def atOperand : Parse Bool := do
  let t ← rest
  match t with
  | [] => return false
  | c :: _ =>
    if ['(', '[', '{', '`', '/', '#', '@', '<', '+', '-', '!', '~'].contains c || Literal.isQuote c
        || isNumberStart t then return true
    else match ← peekWord with
      | none => return false
      | some w =>
        if w.name == "import".toList then after 6 (do return (← at_ "(") || (← at_ "."))
        else return operandWords.contains w.name || !(isReserved w.name || infixWords.contains w.name)

def atExpressionEnd : Parse Bool := do
  return (← at_ ")") || (← at_ "]") || (← at_ ",") || (← at_ ";") || (← at_ closeBrace) || (← newline) || (← atEnd)

def assertedType (g : Grammar) : Parse Bool := do
  if (← hasTypes) && !(← hasMarkup) && (← at_ "<") then
    expect "<"
    if ← atWord "const" then let _ ← anyWord else let _ ← g .type
    expectChar '>'
    return true
  else return false

def unaryOperators (g : Grammar) : Nat → Parse Bool
  | 0 => failure
  | n + 1 => do
    if ← assertedType g then unaryOperators g n
    else if ← eatAny ["++", "--", "!", "~", "+", "-"] then
      let _ ← unaryOperators g n
      return true
    else
      let isOperator ← (match ← keyword with
        | "typeof" | "void" | "delete" => return true
        | "await" => after 5 (do return (← atOperand) || !(← atExpressionEnd))
        | _ => return false)
      if isOperator then
        let _ ← anyWord
        let _ ← unaryOperators g n
        return true
      else return false

def unary (g : Grammar) : Parse Bool := do
  let operators ← unaryOperators g (← read).bound
  let assignable ← leftHandSide g
  if ← newline then return assignable && !operators
  if ← eatAny ["++", "--"] then return false
  return assignable && !operators

def binaryOperators : List String :=
  ["+", "-", "*", "/", "%", "**", "<<", ">>", ">>>", "<", ">", "<=", ">=", "==", "!=", "===", "!==", "&", "|", "^",
   "&&", "||", "??"]

def peekBinary (noIn : Bool) : Parse String := do
  let t ← rest
  match t with
  | [] => return ""
  | c :: _ =>
    if c.isAlpha then
      match ← keyword with
      | "instanceof" => return "instanceof"
      | "in" => return if noIn then "" else "in"
      | w =>
        if (w == "as" || w == "satisfies") && (← hasTypes) && !(← newline) then return w else return ""
    else
      let p := String.ofList (t.take (punctuatorLength t))
      return if binaryOperators.contains p then p else ""

/-- Which of the operators that must not be mixed were seen. -/
structure Mixture where
  logical : Bool
  nullish : Bool

def binaryRest (g : Grammar) (noIn : Bool) (assignable : Bool) (seen : Mixture) : Nat → Parse Bool
  | 0 => failure
  | n + 1 => do
    match ← peekBinary noIn with
    | "" => return assignable
    | "as" | "satisfies" =>
      let _ ← anyWord
      if ← atWord "const" then let _ ← anyWord else let _ ← g .type
      binaryRest g noIn assignable seen n
    | operator =>
      let seen : Mixture := {
        logical := seen.logical || operator == "&&" || operator == "||"
        nullish := seen.nullish || operator == "??" }
      if seen.logical && seen.nullish then failure
      take operator.length
      let _ ← unary g
      binaryRest g noIn false seen n

def binary (g : Grammar) (noIn : Bool) : Parse Bool := do
  let first ← unary g
  binaryRest g noIn first ⟨false, false⟩ (← read).bound

/-- An expression with a condition, if there is one. Between the question mark and the colon a colon could also
belong to an arrow function; if that reading fails, it does not. -/
def conditional (g : Grammar) (noIn noReturnType : Bool) : Parse Bool := do
  let assignable ← binary g noIn
  if ← eat "?" then
    let whenTrue (bare : Bool) : Parse Unit := do
      let _ ← g (.assignment false bare)
      expect ":"
    if ← hasTypes then whenTrue false <|> whenTrue true else whenTrue false
    let _ ← g (.assignment noIn noReturnType)
    return false
  else return assignable

def assignmentOperators : List String :=
  ["=", "+=", "-=", "*=", "/=", "%=", "**=", "<<=", ">>=", ">>>=", "&=", "|=", "^=", "&&=", "||=", "??="]

def yieldExpression (g : Grammar) (noIn noReturnType : Bool) : Parse Unit := do
  expectWord "yield"
  if ← newline then return
  if ← eat "*" then let _ ← g (.assignment noIn noReturnType)
  else if ← atOperand then let _ ← g (.assignment noIn noReturnType)

def mayBeArrow : Parse Bool := do
  match ← peek with
  | some '(' => return true
  | some '<' => hasTypes
  | _ =>
    match ← peekWord with
    | none => return false
    | some w =>
      if isReserved w.name then return false
      else if w.name == "async".toList then return true
      else after w.length (at_ "=>")

def assignmentRule (g : Grammar) (noIn noReturnType : Bool) : Parse Bool := do
  let plain : Parse Bool := do
    if (← read).generator && (← atWord "yield") then
      yieldExpression g noIn noReturnType
      return false
    let assignable ← conditional g noIn noReturnType
    let t ← rest
    let operator := String.ofList (t.take (punctuatorLength t))
    if assignmentOperators.contains operator then
      if operator == "=" && !assignable then failure
      take operator.length
      let _ ← g (.assignment noIn noReturnType)
      return false
    else return assignable
  if ← mayBeArrow then
    (do arrowFunction g noIn noReturnType; return false) <|> plain
  else plain

def expressionRule (g : Grammar) (noIn : Bool) : Parse Bool := do
  let first ← g (.assignment noIn false)
  if ← at_ "," then
    repeat_ do
      if ← eat "," then
        let _ ← g (.assignment noIn false)
        return true
      else return false
    return false
  else return first

/-! ### Bindings -/

def bindingElement (g : Grammar) : Parse Unit := do
  let _ ← g .binding
  if ← eat "=" then let _ ← g (.assignment false false)

def bindingRule (g : Grammar) : Parse Bool := do
  match ← peek with
  | some '{' =>
    take 1
    let _ ← listUntil closeBrace (do
      if ← eat "..." then let _ ← g .binding
      else
        let shorthand ← propertyName g
        if ← eat ":" then bindingElement g
        else if shorthand then
          if ← eat "=" then let _ ← g (.assignment false false)
        else failure)
    return true
  | some '[' =>
    take 1
    let _ ← listUntil "]" (do
      if ← at_ "," then pure ()
      else
        let _ ← eat "..."
        bindingElement g)
    return true
  | _ =>
    let _ ← ident
    return true

end ExplicitImports.Source
