import ExplicitImports.Text

/-!
Bare specifiers, split into the name of a package and the path in it. A name is one segment, or a scope that
starts with `@` and one segment after it; what follows the next slash is the path.
-/
namespace ExplicitImports

structure PackageSpecifier where
  name : Text
  /-- The path in the package, never empty. -/
  subPath : Option Text
  deriving DecidableEq, Repr

namespace PackageSpecifier

inductive Reason where
  | notBare
  | emptySegment
  | colon
  | noSlashAfterScope
  deriving DecidableEq, Repr

/-- A reason, the whole text, and the rest of it from the place the reason points at. -/
structure Invalid where
  reason : Reason
  text : Text
  rest : Text
  deriving DecidableEq, Repr

def Reason.message : Reason → Text
  | .notBare => "Not a bare specifier.".toList
  | .emptySegment => "Expected a package name segment.".toList
  | .colon => "Package names can't contain a colon.".toList
  | .noSlashAfterScope => "Unexpected character.".toList

def snippetLength : Nat := 60

def Invalid.message (e : Invalid) : Text :=
  "Invalid package specifier '".toList ++ e.text ++ "'. ".toList ++ e.reason.message
    ++ "\n  ".toList ++ e.rest.take snippetLength ++ "\n  ~".toList

/-- Cuts a segment of a name off: all before the next slash, which must be something without a colon. -/
def segment (t : Text) : Except Reason (Text × Text) :=
  let s := t.takeWhile (· != '/')
  if s.isEmpty then .error .emptySegment
  else if s.contains ':' then .error .colon
  else .ok (s, t.dropWhile (· != '/'))

def pathAfter : Text → Option Text
  | _ :: c :: path => some (c :: path)
  | _ => none

def parse (t : Text) : Except Invalid PackageSpecifier :=
  match t with
  | '.' :: _ | '/' :: _ => .error ⟨.notBare, t, t⟩
  | '@' :: _ =>
    match segment t with
    | .error reason => .error ⟨reason, t, t⟩
    | .ok (scope, afterScope) =>
      match afterScope with
      | [] => .error ⟨.noSlashAfterScope, t, t⟩
      | slash :: rest =>
        match segment rest with
        | .error reason => .error ⟨reason, t, rest⟩
        | .ok (name, after) => .ok ⟨scope ++ slash :: name, pathAfter after⟩
  | _ =>
    match segment t with
    | .error reason => .error ⟨reason, t, t⟩
    | .ok (name, after) => .ok ⟨name, pathAfter after⟩

end PackageSpecifier

end ExplicitImports
