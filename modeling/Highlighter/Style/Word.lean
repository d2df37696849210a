-- The words of style rules, each of which sets one attribute or cuts the rule off from what it would
-- inherit.
import Highlighter.Style.Attributes
import Highlighter.Text.Space

namespace Highlighter

/-- A word of a style rule. -/
inductive StyleWord where
  | bold (on : Bool)
  | italic (on : Bool)
  | underline (on : Bool)
  | noInherit
  | font (f : Font)
  | background (c : Option Color)
  | border (c : Option Color)
  | color (c : Color)
  deriving DecidableEq

namespace StyleWord

/-- The attributes after a word. -/
def apply (a : Attributes) : StyleWord → Attributes
  | bold on => { a with bold := on }
  | italic on => { a with italic := on }
  | underline on => { a with underline := on }
  | noInherit => a
  | font f => { a with font := some f }
  | background c => { a with background := c }
  | border c => { a with border := c }
  | color c => { a with color := some c }

/-! ## Reading a word -/

/-- The words that are always spelled alike. No one of them begins another one that comes later. -/
def fixed : List (String × StyleWord) :=
  [("nobold", bold false), ("bold", bold true), ("noitalic", italic false), ("italic", italic true),
    ("nounderline", underline false), ("underline", underline true), ("noinherit", noInherit),
    ("roman", font .roman), ("sans", font .sans), ("mono", font .mono)]

/-- The rest of a text after a given beginning. -/
def after? (start : String) (cs : List Char) : Option (List Char) :=
  if start.toList.isPrefixOf cs then some (cs.drop start.toList.length) else none

/-- Reads a colour that may be missing. -/
def takeColor (cs : List Char) : Option Color × List Char :=
  match Color.take? cs with
  | some (c, rest) => (some c, rest)
  | none => (none, cs)

/-- Reads the beginning of a text as a word, whatever follows. -/
def spell? (cs : List Char) : Option (StyleWord × List Char) :=
  match fixed.findSome? fun (start, word) => (after? start cs).map (word, ·) with
  | some found => some found
  | none =>
    match after? "bg:" cs with
    | some rest => let (c, rest) := takeColor rest; some (background c, rest)
    | none =>
      match after? "border:" cs with
      | some rest => let (c, rest) := takeColor rest; some (border c, rest)
      | none => (Color.take? cs).map fun (c, rest) => (color c, rest)

/-- A word may end here: at the end of the text or before white space of any kind. -/
def mayEnd : List Char → Bool
  | [] => true
  | c :: _ => Text.isSpace c

/-- Reads a word at the start of a text. -/
def take? (cs : List Char) : Option (StyleWord × List Char) :=
  (spell? cs).filter fun (_, rest) => mayEnd rest

end StyleWord

end Highlighter
