-- A text that is read from front to back, with lines and columns. Columns count the bytes of a line
-- that have been read.
import Highlighter.Text.Space

namespace Highlighter.Json

/-- A point of a text: its line, from one on, and the bytes of that line before it. -/
structure Position where
  line : Nat
  column : Nat
  deriving DecidableEq

/-- What is left of a text, and where it starts. -/
structure Source where
  rest : List Char
  position : Position
  deriving DecidableEq

namespace Position

/-- The point after one more character. -/
def after (p : Position) (c : Char) : Position :=
  if c = '\n' then ⟨p.line + 1, 0⟩ else ⟨p.line, p.column + c.utf8Size⟩

/-- The point some bytes further on in a text, or at its end. It may lie inside a character. -/
def afterBytes (p : Position) : Nat → List Char → Position
  | _, [] => p
  | n, c :: rest =>
    if n = 0 then p
    else if n < c.utf8Size then ⟨p.line, p.column + n⟩
    else afterBytes (p.after c) (n - c.utf8Size) rest

end Position

namespace Source

/-- The whole of a text. -/
def start (text : String) : Source := ⟨text.toList, ⟨1, 0⟩⟩

/-- The source after its first character. -/
def eat (s : Source) : Source :=
  match s.rest with
  | [] => s
  | c :: rest => ⟨rest, s.position.after c⟩

/-- The point after one more byte, where a character is reported that was looked at only. -/
def peeked (s : Source) : Position := s.position.afterBytes 1 s.rest

/-- What is left after blanks. -/
def skipAll (position : Position) : List Char → Source
  | [] => ⟨[], position⟩
  | c :: rest => if Text.isBlank c then skipAll (position.after c) rest else ⟨c :: rest, position⟩

/-- The source after blanks. -/
def skip (s : Source) : Source := skipAll s.position s.rest

end Source

end Highlighter.Json
