import ExplicitImports.Json.Decimal

/-!
JSON as text without spaces. Strings escape only what must be escaped, and everything above the controls stands
for itself.
-/
namespace ExplicitImports.Json

def hexDigit (n : Nat) : Char := Nat.digitChar (n % 16)

def escapeChar (c : Char) : Text :=
  if c = '"' then ['\\', '"']
  else if c = '\\' then ['\\', '\\']
  else if c = '\x08' then ['\\', 'b']
  else if c = '\x0c' then ['\\', 'f']
  else if c = '\n' then ['\\', 'n']
  else if c = '\r' then ['\\', 'r']
  else if c = '\t' then ['\\', 't']
  else if c.toNat < 0x20 then ['\\', 'u', '0', '0', hexDigit (c.toNat / 16), hexDigit c.toNat]
  else [c]

def quote (t : Text) : Text := '"' :: t.flatMap escapeChar ++ ['"']

def Number.write : Number → Text
  | .integer (.ofNat n) => Text.ofNat n
  | .integer (.negSucc n) => '-' :: Text.ofNat (n + 1)
  | .binary b => b.positional

mutual

def write : Json → Text
  | .null => ['n', 'u', 'l', 'l']
  | .bool true => ['t', 'r', 'u', 'e']
  | .bool false => ['f', 'a', 'l', 's', 'e']
  | .number n => n.write
  | .string t => quote t
  | .array items => '[' :: (writeItems items).drop 1 ++ [']']
  | .object fields => '\x7b' :: (writeFields fields).drop 1 ++ ['\x7d']

def writeItems : List Json → Text
  | [] => []
  | item :: rest => ',' :: write item ++ writeItems rest

def writeFields : List (Text × Json) → Text
  | [] => []
  | (name, value) :: rest => ',' :: quote name ++ ':' :: write value ++ writeFields rest

end

end ExplicitImports.Json
