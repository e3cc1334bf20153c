import ExplicitImports.Url.Basic
import ExplicitImports.Specifier

/-!
The module that refers to others: all that decisions need to know of it.
-/
namespace ExplicitImports

structure Referrer where
  url : Url
  directory : Option Path
  /-- The extension of the module as it stands in the URL, which may be empty. -/
  extension : Text

namespace Referrer

def ofUrl (u : Url) : Referrer where
  url := u
  directory := u.filePath?.bind Path.parent?
  extension := Specifier.extname u.pathText

def resolvePath? (r : Referrer) (specifier : Text) : Option Path :=
  r.directory.map (Specifier.resolvePath · specifier)

end Referrer

end ExplicitImports
