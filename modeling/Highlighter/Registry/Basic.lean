-- The lexers and styles that a host knows. What was registered first keeps its name: names, aliases
-- and styles are compared in lower case, and no later registration takes one over.
import Highlighter.Lexer.Stream
import Highlighter.Registry.FileName
import Highlighter.Registry.Glob
import Highlighter.Style.Basic
import Highlighter.Text.Lower

namespace Highlighter

/-- A registered lexer and the globs for its files. -/
structure RegistryEntry where
  lexer : Lexer
  filenames : List Glob

/-- A registry. -/
structure Registry where
  /-- The lexers in the order of their registration. -/
  entries : List RegistryEntry
  /-- For each name or alias in lower case, the number of its lexer. -/
  names : List (String × Nat)
  /-- The styles by their names in lower case. -/
  styles : List (String × Style)

/-- What a registry reports. -/
inductive RegistryEvent where
  | lexerKnown (lexer : String)
  | badGlob (glob lexer : String) (error : GlobError)
  | aliasTaken (alias_ lexer owner : String)
  | lexerAdded (lexer : String)
  | styleKnown (key : String)
  | styleAdded (key : String)
  deriving DecidableEq

/-- The record of an event. -/
def RegistryEvent.record : RegistryEvent → Log.Record
  | lexerKnown lexer => ⟨.debug, "Lexer `" ++ lexer ++ "` already registered"⟩
  | badGlob glob lexer error =>
    ⟨.warn, "Ignoring filename pattern `" ++ glob ++ "` of `" ++ lexer ++ "`: " ++ error.message⟩
  | aliasTaken alias_ lexer owner =>
    ⟨.warn, "Alias `" ++ alias_ ++ "` of `" ++ lexer ++ "` already points at `" ++ owner ++ "`"⟩
  | lexerAdded lexer => ⟨.debug, "Registered lexer `" ++ lexer ++ "`"⟩
  | styleKnown key => ⟨.debug, "Style `" ++ key ++ "` already registered"⟩
  | styleAdded key => ⟨.debug, "Registered style `" ++ key ++ "`"⟩

namespace Registry

/-- The registry that knows nothing. -/
def empty : Registry := ⟨[], [], []⟩

/-- The form in which names are compared. -/
def key (name : String) : String := Text.lowercase name

/-! ## Registration -/

/-- The globs of a lexer, and what is reported about those that cannot be read. -/
def readGlobs (info : LexerInfo) : List Glob × List RegistryEvent :=
  (info.filenames.filterMap fun g => (Glob.read g).toOption,
    info.filenames.filterMap fun g =>
      match Glob.read g with
      | .ok _ => none
      | .error e => some (.badGlob g info.name e))

/-- The name of the lexer with a number. -/
def nameAt (r : Registry) (index : Nat) : String :=
  (r.entries[index]?).elim "?" (·.lexer.info.name)

/-- Claims names for the lexer that gets the next number. A name that is free is taken, and a name of
another lexer is reported. -/
def claim (r : Registry) (lexer : String) :
    List String → List (String × Nat) → List (String × Nat) × List RegistryEvent
  | [], names => (names, [])
  | alias_ :: rest, names =>
    match names.lookup (key alias_) with
    | none => claim r lexer rest (names ++ [(key alias_, r.entries.length)])
    | some owner =>
      let (names, events) := claim r lexer rest names
      if owner = r.entries.length then (names, events)
      else (names, .aliasTaken alias_ lexer (r.nameAt owner) :: events)

/-- A registry after a registration, whether anything was added, and what was reported. -/
structure Registration where
  registry : Registry
  added : Bool
  events : List RegistryEvent

/-- Adds a lexer, unless its name is known as a name or an alias. -/
def register (r : Registry) (lexer : Lexer) : Registration :=
  let info := lexer.info
  if (r.names.lookup (key info.name)).isSome then ⟨r, false, [.lexerKnown info.name]⟩
  else
    let (globs, globEvents) := readGlobs info
    let (names, aliasEvents) := r.claim info.name (info.name :: info.aliases) r.names
    ⟨{ r with entries := r.entries ++ [⟨lexer, globs⟩], names := names }, true,
      globEvents ++ aliasEvents ++ [.lexerAdded info.name]⟩

/-- Adds a style, unless its name is known. -/
def registerStyle (r : Registry) (style : Style) : Registration :=
  let k := key style.name
  if (r.styles.lookup k).isSome then ⟨r, false, [.styleKnown k]⟩
  else ⟨{ r with styles := r.styles ++ [(k, style)] }, true, [.styleAdded k]⟩

/-! ## Looking up -/

/-- The lexer with a name or alias, whatever the case. -/
def byName? (r : Registry) (name : String) : Option Lexer :=
  (r.names.lookup (key name)).bind fun index => (r.entries[index]?).map (·.lexer)

/-- The first lexer one of whose globs matches the name of a file. -/
def forFilename? (r : Registry) (filename : String) : Option Lexer :=
  (r.entries.find? fun e => e.filenames.any (·.matchText filename)).map (·.lexer)

/-- The first lexer for the file at the end of a path. -/
def forPath? (r : Registry) (path : List UInt8) : Option Lexer :=
  (FileName.ofPath? path).bind r.forFilename?

/-- The first lexer for a media type. -/
def forMimetype? (r : Registry) (mimetype : String) : Option Lexer :=
  (r.entries.find? fun e => e.lexer.info.mimetypes.contains mimetype).map (·.lexer)

/-- The style with a name, whatever the case. -/
def style? (r : Registry) (name : String) : Option Style := r.styles.lookup (key name)

/-- The names of the lexers in the order of their registration. -/
def lexerNames (r : Registry) : List String := r.entries.map (·.lexer.info.name)

/-- The number of lexers. -/
def size (r : Registry) : Nat := r.entries.length

/-- There is no lexer. -/
def isEmpty (r : Registry) : Bool := r.entries.isEmpty

end Registry

end Highlighter
