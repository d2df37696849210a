-- Listings: all tokens of a file, then its highlights with their attributes, a line for each.
import Highlighter.Setup

namespace Highlighter

/-! ## Lines -/

/-- The line of a token: where it starts, its category and its text. -/
def Token.line (t : Token) : String :=
  Text.aligned 6 t.start ++ " " ++ t.kind.dotted ++ " " ++ Text.quoted t.text ++ "\n"

/-- The line of a highlight: its category, its span and its attributes. -/
def Highlight.line (h : Highlight) (a : Attributes) : String :=
  h.kind.label ++ " => " ++ toString h.start ++ ".." ++ toString h.stop ++ " " ++ a.label ++ "\n"

/-! ## Whole listings -/

/-- Why a listing is not complete. -/
inductive ListingError where
  | noFile
  | config (e : ConfigError)
  | setup (e : SetupError)
  | noLexer (path : String)
  | unreadable (fault : FileFault)
  deriving DecidableEq

namespace ListingError

/-- The message for a listing that is not complete. -/
def message : ListingError → String
  | noFile => "Usage: cargo run --example tokenize <file.al>"
  | config e => e.message
  | setup e => "Setup failed: " ++ e.message
  | noLexer path => "No lexer registered for " ++ path
  | unreadable fault => "Failed to read file: " ++ fault.message

/-- The exit status. -/
def status : ListingError → UInt32
  | unreadable _ => 101
  | _ => 1

end ListingError

/-- A listing, as far as it goes, and what stopped it. -/
structure Listing where
  text : String
  error? : Option ListingError
  deriving DecidableEq

namespace Listing

/-- The exit status of a listing. -/
def status (l : Listing) : UInt32 := l.error?.elim 0 (·.status)

/-- The head of every listing. -/
def header (m : Metadata) : String := "alba highlighting " ++ m.version ++ "\n"

/-- The attributes that a registry has for a category of Alba. -/
def attributesIn (r : Registry) (k : Kind) : Attributes :=
  (r.style? Alba.info.name).elim .plain (·.attributes k)

/-- The body of a listing. -/
def body (r : Registry) (l : Lexer) (source : String) : String :=
  "\nTokens:\n" ++ String.join ((l.tokenize source).map (·.line))
    ++ "\nHighlights:\n"
    ++ String.join ((l.highlight source).map fun h => h.line (attributesIn r h.kind))

/-- The listing of the file at a path under a configuration. The lexer is chosen by the name of the
file, before the file is read. -/
def ofFile {m : Type → Type} [Monad m] (fetch : String → m (Except FileFault String))
    (path : String) (c : Config) : m Listing := do
  match Registry.empty.setup c with
  | ⟨_, .error e, _⟩ => return ⟨"", some (.setup e)⟩
  | ⟨registry, .ok metadata, _⟩ =>
    match registry.forPath? (FileName.bytes path) with
    | none => return ⟨header metadata, some (.noLexer path)⟩
    | some lexer =>
      match ← fetch path with
      | .error fault => return ⟨header metadata, some (.unreadable fault)⟩
      | .ok source => return ⟨header metadata ++ body registry lexer source, none⟩

/-- The listing that arguments ask for: the path of a file, then perhaps that of a configuration. What
comes after them does not matter. `fetch` tells what becomes of reading a file. -/
def make {m : Type → Type} [Monad m] (fetch : String → m (Except FileFault String)) :
    List String → m Listing
  | [] => return ⟨"", some .noFile⟩
  | [path] => ofFile fetch path .default
  | path :: configPath :: _ => do
    match Config.ofFile configPath (← fetch configPath) with
    | .error e => return ⟨"", some (.config e)⟩
    | .ok c => ofFile fetch path c

end Listing

end Highlighter
