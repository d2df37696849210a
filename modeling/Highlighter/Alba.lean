-- The language Alba: its rule table and its style. In the state `root` stands ordinary text; a block
-- comment leads to the state `comment` and its end leads back. Block comments do not nest.
import Highlighter.Config
import Highlighter.Lexer.Basic
import Highlighter.Style.Basic

namespace Highlighter.Alba

/-- How hosts know the language. -/
def info : LexerInfo := ⟨"alba", ["Alba"], ["*.al", "*.ali"], ["text/x-alba"]⟩

/-! ## The rule table -/

/-- The pattern of the reserved words, each of which must be a word by itself. -/
def keywordPattern (set : KeywordSet) : String := "\\b(" ++ "|".intercalate set.words ++ ")\\b"

/-- The rules of ordinary text. The last one takes any character. -/
def rootRules (set : KeywordSet) : List Rule :=
  [⟨"\\s+", .whitespace, .stay⟩,
    ⟨"--.*", .commentSingleline, .stay⟩,
    ⟨"\\\x7b-", .commentMultiline, .push "comment"⟩,
    ⟨keywordPattern set, .keyword, .stay⟩,
    ⟨"[a-zA-Z][a-zA-Z_0-9]*", .name, .stay⟩,
    ⟨"[0-9]+", .number, .stay⟩,
    ⟨"[+*/:=~\\\\-]", .operator, .stay⟩,
    ⟨"(?s).", .text, .stay⟩]

/-- The rules inside a block comment. -/
def commentRules : List Rule :=
  [⟨"[^-]", .commentMultiline, .stay⟩,
    ⟨"-\\\x7d", .commentMultiline, .pop⟩,
    ⟨"-", .commentMultiline, .stay⟩]

/-- The rule table with a list of reserved words. -/
def definition (set : KeywordSet) : Definition :=
  ⟨info, [⟨"root", rootRules set⟩, ⟨"comment", commentRules⟩]⟩

/-- The lexer with a list of reserved words. -/
def lexer (set : KeywordSet) : Except DefinitionError Lexer :=
  Lexer.build .standard (definition set)

/-! ## The style -/

/-- The rules of the style. -/
def styleEntries : List (Kind × String) :=
  [(.comment, "italic #888"), (.keyword, "bold #005"), (.name, "#f00"), (.nameFunction, "#0f0"),
    (.nameClass, "bold #0f0"), (.string, "bg:#eee #111")]

/-- The style. -/
def style : Except StyleError Style := Style.build "alba" "" styleEntries

/-- The style with the rules of a configuration set on top, in the order of the categories. -/
def configuredStyle (c : Config) : Except StyleError Style :=
  match style with
  | .ok s => s.override c.overrides.toList
  | .error e => .error e

end Highlighter.Alba
