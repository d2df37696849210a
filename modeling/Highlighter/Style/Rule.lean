-- Style rules: words between blanks, such as `bold #005`. A rule that is not made of words is
-- reported with the place of the first piece that is not one.
import Highlighter.Style.Word
import Highlighter.Text.Quoted

namespace Highlighter

/-- The words of a rule, in order. -/
structure StyleRule where
  words : List StyleWord
  deriving DecidableEq

/-- Why a style or a colour cannot be read. -/
inductive StyleError where
  /-- `found` stands at a column of the rule where a word should be. -/
  | unknownWord (rule : String) (column : Nat) (found : String)
  | badColor (text : String)
  deriving DecidableEq

/-- The message for a style or a colour that cannot be read. -/
def StyleError.message : StyleError → String
  | unknownWord rule column found =>
    "Unrecognised style word " ++ Text.quoted found ++ " at column " ++ toString column ++ " of "
      ++ Text.quoted rule
  | badColor text => "Invalid colour " ++ Text.quoted text

/-- The colour that a text spells, or the text as the fault. -/
def Color.read (s : String) : Except StyleError Color :=
  match Color.read? s with
  | some c => .ok c
  | none => .error (.badColor s)

namespace StyleRule

/-- The text from the first character on that is not a blank. -/
def skipBlanks (cs : List Char) : List Char := cs.dropWhile Text.isBlank

/-- A text that starts with a blank. -/
def startsBlank : List Char → Bool
  | [] => false
  | c :: _ => Text.isBlank c

/-- Reads words with blanks between them, as long as there are words. Gives them and the text from
the place on where no word stands. `fuel` bounds the number of words. -/
def takeWords : Nat → List Char → List StyleWord × List Char
  | 0, cs => ([], cs)
  | fuel + 1, cs =>
    match StyleWord.take? cs with
    | none => ([], cs)
    | some (word, rest) =>
      if startsBlank rest then
        let (words, rest) := takeWords fuel (skipBlanks rest)
        (word :: words, rest)
      else ([word], rest)

/-- The column after some text: one more than the characters since its last line feed. -/
def columnAfter (cs : List Char) : Nat := (cs.reverse.takeWhile (· != '\n')).length + 1

/-- Reads a rule from characters. A text that is left over is the fault. -/
def ofChars (cs : List Char) : Except (Nat × List Char) StyleRule :=
  match takeWords cs.length (skipBlanks cs) with
  | (words, []) => .ok ⟨words⟩
  | (_, rest) => .error (columnAfter (cs.take (cs.length - rest.length)), Text.firstPiece rest)

/-- Reads a rule. -/
def read (s : String) : Except StyleError StyleRule :=
  match ofChars s.toList with
  | .ok rule => .ok rule
  | .error (column, found) => .error (.unknownWord s column (String.ofList found))

/-- The rule takes over what stands above it in the hierarchy. -/
def inherits (r : StyleRule) : Bool := !r.words.contains .noInherit

/-- The attributes after all words of a rule. -/
def apply (r : StyleRule) (a : Attributes) : Attributes := r.words.foldl StyleWord.apply a

end StyleRule

end Highlighter
