-- What a host may configure: the list of reserved words, and style rules for categories.
import Highlighter.KindMap
import Highlighter.Text.Labelled
import Highlighter.Text.Quoted

namespace Highlighter

/-- The two lists of reserved words that are in use. The legacy one lacks some newer words. -/
inductive KeywordSet where
  | extended
  | legacy
  deriving DecidableEq

namespace KeywordSet

/-- The words of a list, in alphabetical order. -/
def words : KeywordSet → List String
  | extended =>
    ["all", "and", "case", "class", "do", "else", "if", "inspect", "mutual", "not", "or", "section",
      "then", "use", "where"]
  | legacy => ["all", "and", "case", "class", "inspect", "mutual", "not", "or", "where"]

/-- The name of a list, as a configuration writes it. -/
def name : KeywordSet → String
  | extended => "extended"
  | legacy => "legacy"

/-- The name of a list, as messages show it. -/
def label : KeywordSet → String
  | extended => "Extended"
  | legacy => "Legacy"

end KeywordSet

/-- The settings of a host. -/
@[ext]
structure Config where
  keywords : KeywordSet
  /-- Style rules that replace those of the built-in style. -/
  overrides : KindMap String

namespace Config

/-- The settings where nothing is said: the extended list and no rules. -/
def default : Config := ⟨.extended, .empty⟩

/-- The settings as messages show them. -/
def label (c : Config) : String :=
  Text.labelled "ExtensionConfig"
    [("keywords", c.keywords.label),
      ("style_overrides",
        Text.mapping (c.overrides.toList.map fun (k, rule) => (k.label, Text.quoted rule)))]

end Config

end Highlighter
