import ExplicitImports.Text

/-!
Module declarations that may refer to another module.
-/
namespace ExplicitImports

inductive DeclarationKind where
  | importFrom
  | exportNamed
  | exportAll
  deriving DecidableEq, Repr

/-- Bytes of a source text, from `start` up to but not including `stop`. -/
structure ByteRange where
  start : Nat
  stop : Nat
  deriving DecidableEq, Repr

/-- A string literal: its value, its spelling, and where it stands. A literal whose value was replaced has no
spelling any more. -/
structure StringLiteral where
  value : Text
  raw : Option Text
  range : ByteRange
  deriving DecidableEq, Repr

inductive ModuleName where
  | ident (name : Text)
  | string (value : Text)
  deriving DecidableEq, Repr

inductive ImportBinding where
  | named (imported : Option ModuleName) (localName : Text) (isType : Bool)
  | default (localName : Text)
  | namespace (localName : Text)
  deriving DecidableEq, Repr

inductive ExportBinding where
  | named (name : ModuleName) (exported : Option ModuleName) (isType : Bool)
  | default (exported : Text)
  | namespace (exported : ModuleName)
  deriving DecidableEq, Repr

/-- A clause of attributes: the object in it as the source spells it, and where that stands. -/
structure AttributeClause where
  spelling : Text
  range : ByteRange
  deriving DecidableEq, Repr

structure DeclarationInfo where
  typeOnly : Bool
  attributes : Option AttributeClause
  range : ByteRange
  deriving DecidableEq, Repr

/-- A declaration that names another module, or, for a named export, may do so. -/
inductive Declaration where
  | importFrom (bindings : List ImportBinding) (source : StringLiteral) (info : DeclarationInfo)
  | exportNamed (bindings : List ExportBinding) (source : Option StringLiteral) (info : DeclarationInfo)
  | exportAll (source : StringLiteral) (info : DeclarationInfo)
  deriving DecidableEq, Repr

def StringLiteral.withValue (l : StringLiteral) (value : Text) : StringLiteral :=
  { l with value := value, raw := none }

namespace Declaration

def kind : Declaration → DeclarationKind
  | .importFrom .. => .importFrom
  | .exportNamed .. => .exportNamed
  | .exportAll .. => .exportAll

def info : Declaration → DeclarationInfo
  | .importFrom _ _ i => i
  | .exportNamed _ _ i => i
  | .exportAll _ i => i

def source? : Declaration → Option StringLiteral
  | .importFrom _ s _ => some s
  | .exportNamed _ s _ => s
  | .exportAll s _ => some s

def specifier? (d : Declaration) : Option Text := d.source?.map (·.value)

def typeOnly (d : Declaration) : Bool := d.info.typeOnly

def withSpecifier (d : Declaration) (specifier : Text) : Declaration :=
  match d with
  | .importFrom b s i => .importFrom b (s.withValue specifier) i
  | .exportNamed b s i => .exportNamed b (s.map (·.withValue specifier)) i
  | .exportAll s i => .exportAll (s.withValue specifier) i

end Declaration

end ExplicitImports
