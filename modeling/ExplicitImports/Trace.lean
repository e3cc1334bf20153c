import ExplicitImports.Json.Reader
import ExplicitImports.Package.Name
import ExplicitImports.Url.Basic

/-!
What happens on the way to a decision, for a log. A traced value is a value with the events before it; no
decision depends on an event.
-/
namespace ExplicitImports

inductive Event where
  /-- The specifier is none that may be changed. -/
  | skipped (specifier : Text) (referrer : Url)
  /-- The specifier may be changed, and stays. -/
  | left (specifier : Text) (referrer : Url)
  | changed (specifier target : Text) (referrer : Url)
  | unresolved (specifier : Text) (referrer : Url)
  | invalidSpecifier (error : PackageSpecifier.Invalid)
  | invalidManifest (path : Path) (text : Text) (fault : Json.Fault)

def Event.message : Event → Text
  | .skipped s r => "Skipping '".toList ++ s ++ "' in ".toList ++ r.toText ++ ": not eligible.".toList
  | .left s r => "Leaving '".toList ++ s ++ "' in ".toList ++ r.toText ++ " as-is.".toList
  | .changed s t r =>
    "Rewriting '".toList ++ s ++ "' to '".toList ++ t ++ "' in ".toList ++ r.toText ++ ".".toList
  | .unresolved s r => "Could not resolve package '".toList ++ s ++ "' from ".toList ++ r.toText ++ ".".toList
  | .invalidSpecifier e => e.message
  | .invalidManifest p text f =>
    "Failed parsing '".toList ++ p.display ++ "': ".toList ++ f.message text

structure Traced (α : Type) where
  value : α
  events : List Event

namespace Traced

instance : Monad Traced where
  pure a := ⟨a, []⟩
  bind x f := ⟨(f x.value).value, x.events ++ (f x.value).events⟩

@[simp] theorem value_pure (a : α) : (pure a : Traced α).value = a := rfl

@[simp] theorem value_bind (x : Traced α) (f : α → Traced β) : (x >>= f).value = (f x.value).value := rfl

def emit (e : Event) : Traced Unit := ⟨(), [e]⟩

end Traced

end ExplicitImports
