/-!
Text as a list of characters, with the few cuts and readings that specifiers, paths and literals share.
-/
namespace ExplicitImports

/-- Text is held as its characters, so that rules about it are rules about lists. -/
abbrev Text := List Char

def hexValue? (c : Char) : Option Nat :=
  if c.isDigit then some (c.toNat - '0'.toNat)
  else if 'a' ≤ c ∧ c ≤ 'f' then some (c.toNat - 'a'.toNat + 10)
  else if 'A' ≤ c ∧ c ≤ 'F' then some (c.toNat - 'A'.toNat + 10)
  else none

namespace Text

def byteLength (t : Text) : Nat :=
  t.foldr (fun c n => c.utf8Size + n) 0

def trimSlashes (t : Text) : Text :=
  (t.reverse.dropWhile (· == '/')).reverse

/-- Only ASCII letters have a lower case here. -/
def lower (t : Text) : Text :=
  t.map Char.toLower

def ofNat (n : Nat) : Text :=
  Nat.toDigits 10 n

end Text

end ExplicitImports
