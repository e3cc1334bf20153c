import ExplicitImports.Source.Annotation

/-!
Markup in expressions: elements with attributes and children. Text between tags is taken as it is, so gaps are
passed over only inside tags and braces.
-/
namespace ExplicitImports.Source

open Parse

def tagWord : Parse Text := do
  let t ← rest
  match t with
  | c :: _ =>
    if isIdentifierStart c then
      let name := t.takeWhile fun c => isIdentifierPart c || c == '-'
      take name.length
      return name
    else failure
  | [] => failure

def tagName : Parse Text := do
  let first ← tagWord
  let more ← collect do
    if ← eat "." then return some ('.' :: (← tagWord))
    else if ← eat ":" then return some (':' :: (← tagWord))
    else return none
  return first ++ more.flatten

/-- An attribute's text in quotes, which knows no escapes. -/
def attributeText : Parse Unit := do
  match ← rest with
  | quote :: t =>
    match t.dropWhile (· != quote) with
    | _ :: after => moveTo after; settle
    | [] => failure
  | [] => failure

/-- The end of a tag: what follows markup inside markup is text. -/
def tagEnd (inside : Bool) : Parse Unit := do
  if ← atChar '>' then (if inside then takeRaw 1 else take 1) else failure

def tagAttribute (g : Grammar) : Parse Unit := do
  if ← eat openBrace then
    expect "..."
    let _ ← g (.assignment false false)
    expect closeBrace
  else
    let _ ← tagWord
    if ← eat ":" then let _ ← tagWord
    if ← eat "=" then
      if ← atString then attributeText
      else if ← eat openBrace then
        let _ ← eat "..."
        let _ ← g (.expression false)
        expect closeBrace
      else let _ ← g (.markup false)

def children (g : Grammar) (name : Text) (inside : Bool) : Parse Unit := do
  repeat_ do
    match ← rest with
    | [] => failure
    | '<' :: _ =>
      let closing ← after 1 (at_ "/")
      if closing then
        take 1
        take 1
        if ← atChar '>' then
          if name.isEmpty then tagEnd inside else failure
        else if (← tagName) == name then tagEnd inside
        else failure
        return false
      else
        let _ ← g (.markup true)
        return true
    | '{' :: _ =>
      take 1
      if !(← atChar '}') then
        let _ ← eat "..."
        let _ ← g (.expression false)
      if ← atChar '}' then takeRaw 1 else failure
      return true
    | t =>
      takeRaw (t.takeWhile fun c => c != '<' && c != '{').length
      return true

def markupRule (g : Grammar) (inside : Bool) : Parse Bool := do
  expectChar '<'
  if ← atChar '>' then
    takeRaw 1
    children g [] inside
  else
    let name ← tagName
    if (← hasTypes) && (← atChar '<') then typeArguments g
    repeat_ do
      if (← atChar '>') || (← atChar '/') then return false
      tagAttribute g
      return true
    if ← atChar '/' then
      take 1
      tagEnd inside
    else
      takeRaw 1
      children g name inside
  return false

end ExplicitImports.Source
