-- The handle that a host holds: the lexer of Alba and its style, ready for use.
import Highlighter.Host.Basic
import Highlighter.Setup

namespace Highlighter.Host

/-- Why a host gets no answer. -/
inductive Error where
  | construction (details : String)
  | config (details : String)
  | style (details : String)
  | unknownCategory (name : String)
  deriving DecidableEq

namespace Error

/-- The message for a host. -/
def message : Error → String
  | construction details => "Lexer construction failed: " ++ details
  | config details => "Invalid configuration: " ++ details
  | style details => "Invalid style: " ++ details
  | unknownCategory name => "Unknown token category: " ++ name

/-- The host's view of a faulty rule table. -/
def ofDefinition (e : DefinitionError) : Error := construction e.message

/-- The host's view of a missing configuration. -/
def ofConfig (e : ConfigError) : Error := config e.message

/-- The host's view of a style that cannot be read. -/
def ofStyle (e : StyleError) : Error := style e.message

/-- The host's view of an unknown category. -/
def ofUnknownKind (e : UnknownKind) : Error := unknownCategory e.name

end Error

/-- A handle. -/
structure Handle where
  lexer : Lexer
  style : Style

namespace Handle

/-- The record of a handle that is about to be made. -/
def openingRecord (c : Config) : Log.Record :=
  ⟨.debug, "Creating Alba lexer handle with " ++ c.label⟩

/-- Makes a handle with a configuration. -/
def ofConfig (c : Config) : Except Error Handle × List Log.Record :=
  match Alba.lexer c.keywords with
  | .error e => (.error (.ofDefinition e), [openingRecord c])
  | .ok lexer =>
    let log := [openingRecord c, lexer.builtRecord]
    match Alba.configuredStyle c with
    | .error e => (.error (.ofStyle e), log)
    | .ok style => (.ok ⟨lexer, style⟩, log)

/-- Makes a handle with the text of a configuration, or with the default one. -/
def make (config? : Option String) : Except Error Handle × List Log.Record :=
  match config? with
  | none => ofConfig .default
  | some text =>
    match Config.read text with
    | .error e => (.error (.ofConfig e), [])
    | .ok c => ofConfig c

/-- How hosts know the lexer. -/
def info (h : Handle) : LexerInfo := h.lexer.info

/-- The tokens of a text. -/
def tokenize (h : Handle) (source : String) : List Token :=
  (h.lexer.tokenize source).map Token.of

/-- The highlights of a text. -/
def highlight (h : Handle) (source : String) : List Highlight :=
  (h.lexer.highlight source).map Highlight.of

/-- The attributes of a category, given by its name. -/
def styleFor (h : Handle) (kind : String) : Except Error Attributes :=
  match Kind.read kind with
  | .ok k => .ok (.of (h.style.attributes k))
  | .error e => .error (.ofUnknownKind e)

end Handle

end Highlighter.Host
