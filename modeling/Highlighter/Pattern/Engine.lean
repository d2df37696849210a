-- Engines, which read patterns and match them. A lexer is made with any engine, and it relies on one
-- thing only, which each matcher carries with it: a match ends so many characters after the place where
-- it was tried.
import Highlighter.Pattern.Finds
import Highlighter.Pattern.Reader

namespace Highlighter

/-- A pattern that was read, ready to be matched. A match takes whole characters, so the pattern is tried
at places only, never inside a character. -/
structure Matcher where
  /-- The place where the preferred match from a place ends. -/
  stop? : Place → Option Place
  /-- A match ends at a place of the same text, not before the one where it was tried. -/
  forward : ∀ {p q : Place}, stop? p = some q → ∃ n, q = p.forward n

/-- An engine. -/
structure Engine where
  /-- Reads a pattern, or says why it cannot be read. -/
  read : String → Except String Matcher

/-- The matcher of a pattern. -/
def Pattern.matcher (pattern : Pattern) : Matcher :=
  ⟨pattern.matchFrom, Pattern.allows_forward.of_matchFrom⟩

@[simp] theorem Pattern.stop?_matcher (pattern : Pattern) (p : Place) :
    pattern.matcher.stop? p = pattern.matchFrom p := rfl

/-- The engine for patterns in the notation of this library. Classes of characters are not known by the
names of Unicode properties, and there is no limit on the size of a pattern. -/
def Engine.standard : Engine where
  read text :=
    match Pattern.read? text with
    | some pattern => .ok pattern.matcher
    | none => .error "error parsing pattern 0"

theorem Engine.standard_read {text : String} {m : Matcher} : Engine.standard.read text = .ok m ↔
    ∃ pattern, Pattern.read? text = some pattern ∧ pattern.matcher = m := by
  cases h : Pattern.read? text <;> simp [standard, h]

end Highlighter
