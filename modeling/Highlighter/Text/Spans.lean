-- Properties of characters are kept as spans of code points.
namespace Highlighter.Text

/-- The code point lies in one of the spans, both ends included. -/
def covers (spans : List (Nat × Nat)) (code : Nat) : Bool :=
  spans.any fun span => decide (span.1 ≤ code) && decide (code ≤ span.2)

/-- The character lies in one of the spans. -/
def inSpans (spans : List (Nat × Nat)) (c : Char) : Bool := covers spans c.toNat

end Highlighter.Text
