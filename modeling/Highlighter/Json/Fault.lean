-- What can be wrong with a JSON text, in its notation or in the value that it describes.
import Highlighter.Json.Source
import Highlighter.Text.Quoted

namespace Highlighter.Json

/-- A kind of fault. -/
inductive Problem where
  | endInValue
  | endInString
  | endInObject
  | endInList
  | expectedColon
  | expectedListCommaOrEnd
  | expectedObjectCommaOrEnd
  | expectedIdent
  | expectedValue
  | invalidEscape
  | invalidNumber
  | numberOutOfRange
  | controlCharacter
  | keyNotString
  | loneSurrogate
  | endOfHexEscape
  | trailingComma
  | trailingCharacters
  | invalidType (found expected : String)
  | invalidLength (length : Nat) (expected : String)
  | unknownField (name : String) (known : List String)
  | duplicateField (name : String)
  | missingField (name : String)
  | unknownVariant (name : String) (known : List String)
  /-- The value is refused by the type that it is meant for. -/
  | refused (message : String)
  deriving DecidableEq

/-- The names that may stand in a place, two or more of them. -/
def oneOf (names : List String) : String :=
  let quoted := names.map fun n => "`" ++ n ++ "`"
  match quoted with
  | [a, b] => a ++ " or " ++ b
  | _ => "one of " ++ ", ".intercalate quoted

/-- The message for a problem. -/
def Problem.message : Problem → String
  | endInValue => "EOF while parsing a value"
  | endInString => "EOF while parsing a string"
  | endInObject => "EOF while parsing an object"
  | endInList => "EOF while parsing a list"
  | expectedColon => "expected `:`"
  | expectedListCommaOrEnd => "expected `,` or `]`"
  | expectedObjectCommaOrEnd => "expected `,` or `\x7d`"
  | expectedIdent => "expected ident"
  | expectedValue => "expected value"
  | invalidEscape => "invalid escape"
  | invalidNumber => "invalid number"
  | numberOutOfRange => "number out of range"
  | controlCharacter => "control character (\\u0000-\\u001F) found while parsing a string"
  | keyNotString => "key must be a string"
  | loneSurrogate => "lone leading surrogate in hex escape"
  | endOfHexEscape => "unexpected end of hex escape"
  | trailingComma => "trailing comma"
  | trailingCharacters => "trailing characters"
  | invalidType found expected => "invalid type: " ++ found ++ ", expected " ++ expected
  | invalidLength length expected =>
    "invalid length " ++ toString length ++ ", expected " ++ expected
  | unknownField name known => "unknown field `" ++ name ++ "`, expected " ++ oneOf known
  | duplicateField name => "duplicate field `" ++ name ++ "`"
  | missingField name => "missing field `" ++ name ++ "`"
  | unknownVariant name known => "unknown variant `" ++ name ++ "`, expected " ++ oneOf known
  | refused message => message

/-- A problem with the place where it was noticed, or, if the place is still to be settled, with the
source from there on. -/
inductive Fault where
  | located (problem : Problem) (position : Position)
  | pending (problem : Problem) (source : Source)

/-- A reader gives a value and the source after it. -/
abbrev Read (α : Type) := Source → Except Fault (α × Source)

/-- A fault at the current point. -/
def failAt (problem : Problem) (s : Source) : Except Fault α := .error (.located problem s.position)

/-- A fault at a character that was looked at only. -/
def failPeeked (problem : Problem) (s : Source) : Except Fault α := .error (.located problem s.peeked)

/-- A fault that the surrounding value will place. -/
def failLater (problem : Problem) (s : Source) : Except Fault α := .error (.pending problem s)

/-! ## Messages that say where -/

/-- The rest of a text after a given beginning. -/
def after? (start : List Char) (cs : List Char) : Option (List Char) :=
  if start.isPrefixOf cs then some (cs.drop start.length) else none

/-- A number of up to 64 bits, given by its digits. -/
def number? (digits : List Char) : Option Nat :=
  let value := digits.foldl (fun n c => n * 10 + (c.toNat - '0'.toNat)) 0
  if digits.isEmpty || Nat.pow 2 64 ≤ value then none else some value

/-- The position that a text spells, such as ` at line 1 column 2`, and nothing else. -/
def spelledPosition? (cs : List Char) : Option Position := do
  let rest ← after? " at line ".toList cs
  let line := rest.takeWhile Char.isDigit
  let column ← after? " column ".toList (rest.dropWhile Char.isDigit)
  if column.all Char.isDigit then some ⟨← number? line, ← number? column⟩ else none

/-- The last beginning of a position in a text: the characters before it, and those from it on. -/
def lastPosition? : List Char → Option (List Char × List Char)
  | [] => none
  | c :: rest =>
    match lastPosition? rest with
    | some (before, from_) => some (c :: before, from_)
    | none => if (after? " at line ".toList (c :: rest)).isSome then some ([], c :: rest) else none

/-- A message at whose end a position is spelled, without it, and the position. -/
def splitPosition? (message : String) : Option (String × Position) := do
  let (before, from_) ← lastPosition? message.toList
  let p ← spelledPosition? from_
  some (String.ofList before, p)

/-- The fault of a value that its type refuses. A message that says itself where it belongs is taken
at its word, except that no text has a line zero. -/
def refuse (message : String) (s : Source) : Except Fault α :=
  match splitPosition? message with
  | some (message, p) =>
    if p.line = 0 then failLater (.refused message) s else .error (.located (.refused message) p)
  | none => failLater (.refused message) s

end Highlighter.Json
