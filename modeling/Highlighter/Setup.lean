-- Setting up a host: the lexer and the style of Alba are registered, as the configuration asks.
import Highlighter.Alba
import Highlighter.Config.Json
import Highlighter.Registry.Basic

namespace Highlighter

/-- The version of this library, as hosts record it. -/
def version : String := "0.0.1"

/-! ## What a host is told -/

/-- What is reported to a host after the setup. -/
structure Metadata where
  version : String
  deriving DecidableEq

namespace Metadata

/-- The metadata of this library. -/
def current : Metadata := ⟨Highlighter.version⟩

/-- Metadata as a JSON object. -/
def json (m : Metadata) : String :=
  String.ofList (Json.object [("version", Json.string m.version)])

/-- Reads the member with a key. Members with other keys are passed over. -/
def entry (version : Option String) (key : String) : Json.Read (Option String) := fun s =>
  if key = "version" then (Json.field key version Json.text s).map fun (v, s) => (some v, s)
  else (Json.ignoredMember s).map (version, ·)

/-- The metadata, if the version was there. -/
def finish : Option String → Except Json.Problem Metadata
  | some v => .ok ⟨v⟩
  | none => .error (.missingField "version")

/-- Reads metadata. -/
def ofJson : Json.Read Metadata :=
  Json.record "struct ExtensionMetadata" (Json.objectRest entry none finish)
    (Json.listRest [fun _ s => (Json.text s).map fun (v, s) => (some v, s)]
      (fun index _ => .error (.invalidLength index "struct ExtensionMetadata with 1 element"))
      none finish)

end Metadata

/-- Why a setup fails. -/
inductive SetupError where
  | lexer (e : DefinitionError)
  | style (e : StyleError)
  | config (e : ConfigError)
  deriving DecidableEq

/-- The message is that of the cause. -/
def SetupError.message : SetupError → String
  | lexer e => e.message
  | style e => e.message
  | config e => e.message

/-! ## The setup -/

/-- The record of a finished setup. -/
def readyRecord (keywords : KeywordSet) : Log.Record :=
  ⟨.info, "Alba highlighting " ++ version ++ " ready (" ++ keywords.label ++ " keywords)"⟩

/-- What a setup leaves behind. -/
structure SetupResult where
  registry : Registry
  outcome : Except SetupError Metadata
  log : List Log.Record

/-- Registers the lexer and the style of Alba. Both are made first, so that a failure changes nothing.
What was registered before is kept. -/
def Registry.setup (r : Registry) (c : Config) : SetupResult :=
  match Alba.lexer c.keywords with
  | .error e => ⟨r, .error (.lexer e), []⟩
  | .ok lexer =>
    match Alba.configuredStyle c with
    | .error e => ⟨r, .error (.style e), [lexer.builtRecord]⟩
    | .ok style =>
      let withLexer := r.register lexer
      let withStyle := withLexer.registry.registerStyle style
      ⟨withStyle.registry, .ok .current,
        lexer.builtRecord :: (withLexer.events ++ withStyle.events).map (·.record)
          ++ if withLexer.added then [readyRecord c.keywords] else []⟩

end Highlighter
