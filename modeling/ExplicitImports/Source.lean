import ExplicitImports.MediaType
import ExplicitImports.Source.Markup
import ExplicitImports.Source.ModuleItem

/-!
Source texts as programs. The grammar is the whole of its rules, each of which sees the others through the
grammar itself; every use of a rule inside a rule takes one from a bound that grows with the text.
-/
namespace ExplicitImports.Source

open Parse

def rule (g : Grammar) : Goal → Parse Bool
  | .moduleItem => moduleItemRule g
  | .statement => statementRule g
  | .expression noIn => expressionRule g noIn
  | .assignment noIn noReturnType => assignmentRule g noIn noReturnType
  | .functionBody => do block g; return false
  | .classRest => classRule g
  | .binding => bindingRule g
  | .type => typeRule g
  | .markup inside => markupRule g inside

/-- The grammar with rules used inside each other at most so many times. -/
def grammar : Nat → Grammar
  | 0, _ => failure
  | depth + 1, goal => rule (grammar depth) goal

def shebang : Parse Unit := do
  match ← rest with
  | '#' :: '!' :: t => takeRaw (2 + (t.takeWhile (!Literal.isLineEnd ·)).length)
  | _ => pure ()

/-- A whole source: items up to its end. Scripts have no module declarations at their top level. -/
def wholeSource (g : Grammar) (item : Goal) : Parse Unit := do
  shebang
  settle
  repeat_ do
    if ← atEnd then return false
    let _ ← g item
    return true

def isScript : MediaType → Bool
  | .cjs | .cts | .dcts => true
  | _ => false

def parse (m : MediaType) (t : Text) : Option Program :=
  let dialect : Dialect := ⟨m.hasTypes, m.hasMarkup, false, t.length + 2⟩
  let cursor : Cursor := ⟨t, 0, 0, false, []⟩
  let item := if isScript m then Goal.statement else Goal.moduleItem
  (wholeSource (grammar (8 * t.length + 64)) item dialect cursor).map fun (_, c) => c.items.reverse

end ExplicitImports.Source

namespace ExplicitImports

/-- Makes the specifiers of a module's source explicit. Nothing if the source is no module. -/
def Setting.specifyModule (s : Setting) (m : MediaType) (source : Text) :
    Traced (Option (Text × List SpecifierChange)) :=
  match Source.parse m.forModule source with
  | none => pure none
  | some program => do return some (← s.editProgram source program)

end ExplicitImports
