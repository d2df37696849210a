-- Values as messages and listings show them: a name with the labelled parts in braces.
namespace Highlighter.Text

/-- Labelled parts with commas between them. -/
def parts (fields : List (String × String)) : String :=
  ", ".intercalate (fields.map fun (label, value) => label ++ ": " ++ value)

/-- A name and the labelled parts of what it names. -/
def labelled (name : String) (fields : List (String × String)) : String :=
  name ++ " \x7b " ++ parts fields ++ " \x7d"

/-- A map from labels. -/
def mapping (entries : List (String × String)) : String := "\x7b" ++ parts entries ++ "\x7d"

/-- A value that may be missing. -/
def optional : Option String → String
  | none => "None"
  | some value => "Some(" ++ value ++ ")"

/-- A number at the right end of a field of some width. -/
def aligned (width n : Nat) : String :=
  let digits := toString n
  "".pushn ' ' (width - digits.length) ++ digits

end Highlighter.Text
