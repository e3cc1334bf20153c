import ExplicitImports.Path

/-!
What a decision may ask about files. Whatever goes wrong with a question counts as the file not being there.
-/
namespace ExplicitImports

structure FileSystem where
  exists_ : Path → Bool
  isDir : Path → Bool

def FileSystem.null : FileSystem := ⟨fun _ => false, fun _ => false⟩

structure PackageStore where
  isFile : Path → Bool
  isDir : Path → Bool
  read? : Path → Option Text

end ExplicitImports
