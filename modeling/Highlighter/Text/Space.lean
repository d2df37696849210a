-- White space of all scripts, and the four blanks that separate words in compact notations.
import Highlighter.Text.Spans

namespace Highlighter.Text

/-- The ASCII layout characters, the next-line control, and the separators. -/
def spaceSpans : List (Nat × Nat) := [
  (0x0009, 0x000D), (0x0020, 0x0020), (0x0085, 0x0085), (0x00A0, 0x00A0), (0x1680, 0x1680),
  (0x2000, 0x200A), (0x2028, 0x2029), (0x202F, 0x202F), (0x205F, 0x205F), (0x3000, 0x3000)]

/-- White space. -/
def isSpace (c : Char) : Bool := inSpans spaceSpans c

/-- Space, tab, line feed or carriage return. -/
def isBlank (c : Char) : Bool :=
  c == ' ' || c == '\t' || c == '\n' || c == '\r'

/-- A blank is white space. -/
theorem isSpace_of_isBlank {c : Char} (h : isBlank c = true) : isSpace c = true := by
  simp only [isBlank, Bool.or_eq_true, beq_iff_eq] at h
  rcases h with ((h | h) | h) | h <;> subst h <;> decide

/-- The first run of characters that are not white space; empty when there is none. -/
def firstPiece (cs : List Char) : List Char :=
  (cs.dropWhile isSpace).takeWhile fun c => !isSpace c

end Highlighter.Text
