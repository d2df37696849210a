-- What hosts in other languages see: offsets of 32 bits, categories and colours as text.
import Highlighter.Highlight
import Highlighter.Style.Attributes

namespace Highlighter.Host

/-- A range of offsets. Only their low 32 bits are kept. -/
structure Range where
  start : UInt32
  stop : UInt32
  deriving DecidableEq

/-- The range between two offsets. -/
def Range.of (start stop : Nat) : Range := ⟨.ofNat start, .ofNat stop⟩

/-- The offsets that a range tells. -/
def Range.offsets (r : Range) : Nat × Nat := (r.start.toNat, r.stop.toNat)

/-- A token as hosts see it. -/
structure Token where
  kind : String
  text : String
  range : Range
  deriving DecidableEq

/-- The host's view of a token. -/
def Token.of (t : Highlighter.Token) : Token := ⟨t.kind.dotted, t.text, .of t.start t.stop⟩

/-- A highlight as hosts see it. -/
structure Highlight where
  range : Range
  kind : String
  deriving DecidableEq

/-- The host's view of a highlight. -/
def Highlight.of (h : Highlighter.Highlight) : Highlight := ⟨.of h.start h.stop, h.kind.dotted⟩

/-- Attributes as hosts see them. -/
structure Attributes where
  color : Option String
  background : Option String
  border : Option String
  bold : Bool
  italic : Bool
  underline : Bool
  font : Option String
  deriving DecidableEq

/-- The host's view of attributes. -/
def Attributes.of (a : Highlighter.Attributes) : Attributes where
  color := a.color.map (·.text)
  background := a.background.map (·.text)
  border := a.border.map (·.text)
  bold := a.bold
  italic := a.italic
  underline := a.underline
  font := a.font.map (·.name)

end Highlighter.Host
