-- How text is shown: colours, weight and the like. What is not set is left to the reader's surroundings.
import Highlighter.Style.Color

namespace Highlighter

/-- A family of fonts. -/
inductive Font where
  | roman
  | sans
  | mono
  deriving DecidableEq

/-- The name of a family, as style rules and tables write it. -/
def Font.name : Font → String
  | roman => "roman"
  | sans => "sans"
  | mono => "mono"

/-- The name of a family, as listings show it. -/
def Font.label : Font → String
  | roman => "Roman"
  | sans => "Sans"
  | mono => "Mono"

/-- The display attributes of a piece of text. -/
structure Attributes where
  color : Option Color
  background : Option Color
  border : Option Color
  bold : Bool
  italic : Bool
  underline : Bool
  font : Option Font
  deriving DecidableEq

/-- Nothing set and nothing on. -/
def Attributes.plain : Attributes := ⟨none, none, none, false, false, false, none⟩

/-- Attributes as listings show them. -/
def Attributes.label (a : Attributes) : String :=
  Text.labelled "StyleAttributes"
    [("color", Text.optional (a.color.map (·.label))),
      ("bgcolor", Text.optional (a.background.map (·.label))),
      ("border", Text.optional (a.border.map (·.label))),
      ("bold", toString a.bold),
      ("italic", toString a.italic),
      ("underline", toString a.underline),
      ("font", Text.optional (a.font.map (·.label)))]

end Highlighter
