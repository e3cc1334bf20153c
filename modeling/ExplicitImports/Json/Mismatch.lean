import ExplicitImports.Json.Decimal
import ExplicitImports.Json.HiddenRanges

/-!
What can be wrong with a JSON value that is read as something else, and how it is said.
-/
namespace ExplicitImports.Json

inductive Mismatch where
  | type (found : Text) (expected : Text)
  | value (found : Text) (expected : Text)
  | length (found : Nat) (expected : Text)
  | missing (field : Text)
  | duplicate (field : Text)
  | unknownVariant (found : Text) (expected : List Text)
  | noVariant (name : Text)
  deriving DecidableEq, Repr

/-- Whether a quoted text in a message spells the character as an escape. -/
def isHidden (c : Char) : Bool :=
  c.toNat < 0x20 || hiddenRanges.any fun r => r.1 ≤ c.toNat && c.toNat ≤ r.2

def showChar (c : Char) : Text :=
  if c == '"' then ['\\', '"']
  else if c == '\\' then ['\\', '\\']
  else if c == '\n' then ['\\', 'n']
  else if c == '\r' then ['\\', 'r']
  else if c == '\t' then ['\\', 't']
  else if c.toNat == 0 then ['\\', '0']
  else if isHidden c then ['\\', 'u', '\x7b'] ++ Nat.toDigits 16 c.toNat ++ ['\x7d']
  else [c]

def showQuoted (t : Text) : Text := '"' :: t.flatMap showChar ++ ['"']

def showInteger : Int → Text
  | .ofNat n => Text.ofNat n
  | .negSucc n => '-' :: Text.ofNat (n + 1)

def Number.describe : Number → Text
  | .integer i => "integer `".toList ++ showInteger i ++ ['`']
  | .binary b => "floating point `".toList ++ b.positional ++ ['`']

def describeBool (b : Bool) : Text :=
  if b then "boolean `true`".toList else "boolean `false`".toList

def describeString (t : Text) : Text := "string ".toList ++ showQuoted t

def describe : Json → Text
  | .null => "null".toList
  | .bool b => describeBool b
  | .number n => n.describe
  | .string t => describeString t
  | .array _ => "sequence".toList
  | .object _ => "map".toList

def showNames (names : List Text) : Text :=
  List.intercalate ", ".toList (names.map fun n => '`' :: n ++ ['`'])

def Mismatch.message : Mismatch → Text
  | .type found expected => "invalid type: ".toList ++ found ++ ", expected ".toList ++ expected
  | .value found expected => "invalid value: ".toList ++ found ++ ", expected ".toList ++ expected
  | .length found expected => "invalid length ".toList ++ Text.ofNat found ++ ", expected ".toList ++ expected
  | .missing field => "missing field `".toList ++ field ++ ['`']
  | .duplicate field => "duplicate field `".toList ++ field ++ ['`']
  | .unknownVariant found expected =>
    "unknown variant `".toList ++ found ++ "`, expected one of ".toList ++ showNames expected
  | .noVariant name => "data did not match any variant of untagged enum ".toList ++ name

end ExplicitImports.Json
