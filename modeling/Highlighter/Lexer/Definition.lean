-- Rule tables as they are written down: states with rules, each a pattern, a category, and what
-- becomes of the state when the rule wins.
import Highlighter.Kind
import Highlighter.Text.Quoted

namespace Highlighter

/-- How a host finds a lexer: by its name or an alias, by the name of a file, or by a media type. -/
structure LexerInfo where
  name : String
  aliases : List String
  filenames : List String
  mimetypes : List String
  deriving DecidableEq

/-- What becomes of the state: it stays, a state is put on top, or the top state is left. -/
inductive Transition where
  | stay
  | push (state : String)
  | pop
  deriving DecidableEq

/-- One rule of a state. -/
structure Rule where
  pattern : String
  kind : Kind
  transition : Transition
  deriving DecidableEq

/-- A state and its rules, the first with the highest priority. -/
structure RuleState where
  name : String
  rules : List Rule
  deriving DecidableEq

/-- A complete rule table. The first state is the initial one. -/
structure Definition where
  info : LexerInfo
  states : List RuleState
  deriving DecidableEq

/-- Why a rule table makes no lexer. -/
inductive DefinitionError where
  | noStates (lexer : String)
  | popInInitial (state : String)
  | unknownState (source target : String)
  | invalidPattern (state pattern cause : String)
  deriving DecidableEq

/-- The message for a faulty rule table. -/
def DefinitionError.message : DefinitionError → String
  | noStates lexer => "Lexer `" ++ lexer ++ "` defines no states"
  | popInInitial state => "Initial state `" ++ state ++ "` must not contain a pop rule"
  | unknownState source target =>
    "State `" ++ source ++ "` pushes unknown state `" ++ target ++ "`"
  | invalidPattern state pattern cause =>
    "Invalid pattern " ++ Text.quoted pattern ++ " in state `" ++ state ++ "`: " ++ cause

end Highlighter
