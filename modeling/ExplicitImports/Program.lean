import ExplicitImports.Edit
import ExplicitImports.Change

/-!
Programs as far as they are made of module declarations. Declarations stand at the top level and in the bodies
of declared modules, which nest to any depth. Such a module can be declared in a function, and a function can be the
value of an attribute, so declarations may stand inside a declaration too. There are two ways to make a program
explicit: changing its tree, and editing its text.
-/
namespace ExplicitImports

inductive ProgramItem where
  /-- A declaration that may name another module, with what stands inside its clause of attributes. -/
  | declaration (d : Declaration) (inner : List ProgramItem)
  | other (inner : List ProgramItem)
  | block (inner : List ProgramItem)

abbrev Program := List ProgramItem

mutual

def ProgramItem.listing : ProgramItem → List (Option Declaration)
  | .declaration d inner => some d :: Program.listing inner
  | .other inner => none :: Program.listing inner
  | .block inner => Program.listing inner

/-- All module declarations of a program in order, outer before inner; those that name no module have none. -/
def Program.listing : Program → List (Option Declaration)
  | [] => []
  | item :: rest => item.listing ++ Program.listing rest

end

/-! ### Changing the tree -/

mutual

/-- Changes the declarations of an item, and records what was changed. A declaration that is changed is put in the
place of the old one as it is; what stands inside is changed only where the declaration stays. -/
def Setting.changeItem (s : Setting) : ProgramItem → Traced (ProgramItem × List SpecifierChange)
  | .declaration d inner => do
    match ← s.change d with
    | some target =>
      pure (.declaration (d.withSpecifier target.specifier) inner, [SpecifierChange.ofTarget d target])
    | none => do
      let (inner, records) ← Setting.changeProgram s inner
      pure (.declaration d inner, records)
  | .other inner => do
    let (inner, records) ← Setting.changeProgram s inner
    pure (.other inner, records)
  | .block inner => do
    let (inner, records) ← Setting.changeProgram s inner
    pure (.block inner, records)

def Setting.changeProgram (s : Setting) : Program → Traced (Program × List SpecifierChange)
  | [] => pure ([], [])
  | item :: rest => do
    let (item, records) ← Setting.changeItem s item
    let (rest, more) ← Setting.changeProgram s rest
    pure (item :: rest, records ++ more)

end

/-! ### Editing the text -/

def Declaration.edits (source : Text) (d : Declaration) (target : Target) : List TextEdit :=
  match d.source? with
  | some l => [TextEdit.ofLiteral source l.range target.specifier]
  | none => []

mutual

/-- The edits for the declarations of an item, and the records of what they change. Inside a declaration nothing is
edited. -/
def Setting.editItem (s : Setting) (source : Text) :
    ProgramItem → Traced (List TextEdit × List SpecifierChange)
  | .declaration d _ => do
    match ← s.change d with
    | none => pure ([], [])
    | some target => pure (d.edits source target, [SpecifierChange.ofTarget d target])
  | .other inner | .block inner => Setting.editItems s source inner

def Setting.editItems (s : Setting) (source : Text) :
    List ProgramItem → Traced (List TextEdit × List SpecifierChange)
  | [] => pure ([], [])
  | item :: rest => do
    let (edits, records) ← Setting.editItem s source item
    let (moreEdits, moreRecords) ← Setting.editItems s source rest
    pure (edits ++ moreEdits, records ++ moreRecords)

end

def Setting.editProgram (s : Setting) (source : Text) (p : Program) : Traced (Text × List SpecifierChange) := do
  let (edits, records) ← s.editItems source p
  pure (TextEdit.apply source edits, records)

end ExplicitImports
