-- Highlights: spans of a text with one category each, made from tokens by joining neighbours.
import Highlighter.Token

namespace Highlighter

/-- A span of a text and its category. -/
structure Highlight where
  start : Nat
  stop : Nat
  kind : Kind
  deriving DecidableEq

namespace Highlight

/-- The span of one token. -/
def ofToken (t : Token) : Highlight := ⟨t.start, t.stop, t.kind⟩

/-- A token goes on where a highlight ends, with the same category. -/
def continues (h : Highlight) (t : Token) : Bool := h.kind == t.kind && h.stop == t.start

/-- The highlights of tokens that come after the highlight `h`, with `h` at their head. -/
def extend (h : Highlight) : List Token → List Highlight
  | [] => [h]
  | t :: ts =>
    if h.continues t then extend { h with stop := t.stop } ts else h :: extend (ofToken t) ts

/-- The highlights of a list of tokens. -/
def merge : List Token → List Highlight
  | [] => []
  | t :: ts => extend (ofToken t) ts

end Highlight

end Highlighter
