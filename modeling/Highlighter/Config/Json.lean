-- Configurations as JSON. All fields may be missing; no others are accepted.
import Highlighter.Config
import Highlighter.Style.Json

namespace Highlighter

/-- A list of reserved words is written by its name. -/
def KeywordSet.json (set : KeywordSet) : List Char := Json.string set.name

/-- Reads the name of a list of reserved words. -/
def KeywordSet.ofJson : Json.Read KeywordSet :=
  Json.choice ([KeywordSet.extended, .legacy].map fun set => (set.name, set))

namespace Config

/-- A configuration is written with both fields, its rules in the order of the categories. -/
def json (c : Config) : String :=
  String.ofList <| Json.object
    [("keywords", c.keywords.json),
      ("style_overrides",
        Json.object (c.overrides.toList.map fun (k, rule) => (k.dotted, Json.string rule)))]

/-- Reads one style rule. A later rule of a category replaces an earlier one. -/
def overrideEntry (rules : KindMap String) (key : String) : Json.Read (KindMap String) := fun s =>
  match Kind.read key with
  | .error e => Json.refuse e.message s
  | .ok k =>
    match Json.colon s with
    | .error e => .error e
    | .ok s => (Json.text s).map fun (rule, s) => (rules.insert k rule, s)

/-- Reads the style rules. -/
def overridesOfJson : Json.Read (KindMap String) :=
  Json.mapping (Json.objectRest overrideEntry .empty .ok)

/-- The fields that have been read. -/
structure Draft where
  keywords : Option KeywordSet
  overrides : Option (KindMap String)

namespace Draft

/-- Nothing has been read. -/
def empty : Draft := ⟨none, none⟩

/-- The configuration, with defaults for what is missing. -/
def finish (d : Draft) : Except Json.Problem Config :=
  .ok ⟨d.keywords.getD Config.default.keywords, d.overrides.getD Config.default.overrides⟩

/-- Reads the member with a key. -/
def entry (d : Draft) (key : String) : Json.Read Draft := fun s =>
  match key with
  | "keywords" =>
    (Json.field key d.keywords KeywordSet.ofJson s).map fun (k, s) =>
      ({ d with keywords := some k }, s)
  | "style_overrides" =>
    (Json.field key d.overrides overridesOfJson s).map fun (o, s) =>
      ({ d with overrides := some o }, s)
  | _ => Json.failLater (.unknownField key ["keywords", "style_overrides"]) s

/-- The readers of the fields in order. -/
def inOrder : List (Draft → Json.Read Draft) :=
  [fun d s => (KeywordSet.ofJson s).map fun (k, s) => ({ d with keywords := some k }, s),
    fun d s => (overridesOfJson s).map fun (o, s) => ({ d with overrides := some o }, s)]

end Draft

/-- Reads a configuration as a JSON value. -/
def ofJson : Json.Read Config :=
  Json.record "struct ExtensionConfig" (Json.objectRest Draft.entry .empty Draft.finish)
    (Json.listRest Draft.inOrder (fun _ d => .ok d) .empty Draft.finish)

end Config

/-! ## Configuration files -/

/-- Why a file cannot be read. -/
inductive FileFault where
  | notFound
  | isDirectory
  | notDirectory
  | nameTooLong
  | nulInName
  | notText
  deriving DecidableEq

/-- The message for a file that cannot be read. -/
def FileFault.message : FileFault → String
  | notFound => "No such file or directory (os error 2)"
  | isDirectory => "Is a directory (os error 21)"
  | notDirectory => "Not a directory (os error 20)"
  | nameTooLong => "File name too long (os error 36)"
  | nulInName => "file name contained an unexpected NUL byte"
  | notText => "stream did not contain valid UTF-8"

/-- Why there is no configuration. -/
inductive ConfigError where
  | unreadable (path : String) (fault : FileFault)
  | malformed (error : Json.Error)
  deriving DecidableEq

/-- The message for a missing configuration. -/
def ConfigError.message : ConfigError → String
  | unreadable path fault => "Cannot read config " ++ Text.quoted path ++ ": " ++ fault.message
  | malformed error => "Malformed config: " ++ error.message

/-- Reads a configuration from its text. -/
def Config.read (text : String) : Except ConfigError Config :=
  (Json.ofText Config.ofJson text).mapError .malformed

/-- Reads a configuration from what became of its file. -/
def Config.ofFile (path : String) (content : Except FileFault String) :
    Except ConfigError Config :=
  match content with
  | .ok text => Config.read text
  | .error fault => .error (.unreadable path fault)

end Highlighter
