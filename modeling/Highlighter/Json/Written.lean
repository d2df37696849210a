-- Values written as JSON without blanks.
namespace Highlighter.Json

/-- A hexadecimal digit of a control character. -/
def controlDigit (n : Nat) : Char := Nat.digitChar n

/-- One character of a string. Quotes, backslashes and control characters are escaped. -/
def escape (c : Char) : List Char :=
  if c = '"' then ['\\', '"']
  else if c = '\\' then ['\\', '\\']
  else if 32 ≤ c.toNat then [c]
  else if c = '\n' then ['\\', 'n']
  else if c = '\r' then ['\\', 'r']
  else if c = '\t' then ['\\', 't']
  else if c = '\x08' then ['\\', 'b']
  else if c = '\x0c' then ['\\', 'f']
  else ['\\', 'u', '0', '0', controlDigit (c.toNat / 16), controlDigit (c.toNat % 16)]

/-- A string. -/
def string (s : String) : List Char := '"' :: s.toList.flatMap escape ++ ['"']

/-- A truth value. -/
def bool (b : Bool) : List Char := if b then "true".toList else "false".toList

/-- A value that may be missing. -/
def nullable (write : α → List Char) : Option α → List Char
  | none => "null".toList
  | some a => write a

/-- One member of an object. -/
def member (m : String × List Char) : List Char := string m.1 ++ ':' :: m.2

/-- The members of an object after the first, each after a comma. -/
def moreMembers (members : List (String × List Char)) : List Char :=
  members.flatMap fun m => ',' :: member m

/-- An object with members in the given order. -/
def object : List (String × List Char) → List Char
  | [] => ['\x7b', '\x7d']
  | m :: rest => '\x7b' :: member m ++ moreMembers rest ++ ['\x7d']

end Highlighter.Json
