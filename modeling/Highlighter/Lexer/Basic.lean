-- Lexers: rule tables whose patterns an engine has read and whose states are found by number. At a
-- place the first rule wins whose preferred match takes some text.
import Highlighter.Lexer.Definition
import Highlighter.Log
import Highlighter.Pattern.Engine

namespace Highlighter

/-! ## Reading a rule table -/

/-- A transition whose state is given by its number. -/
inductive Target where
  | stay
  | push (state : Nat)
  | pop
  deriving DecidableEq

/-- A rule that is ready to be tried. -/
structure ReadyRule where
  rule : Rule
  matcher : Matcher
  target : Target

/-- A state whose rules are ready to be tried. -/
structure ReadyState where
  name : String
  rules : List ReadyRule

/-- A lexer. -/
structure Lexer where
  info : LexerInfo
  states : List ReadyState

/-- The numbered form of a transition. A name that several states have means the first of them. -/
def Transition.resolve (names : List String) (state : String) :
    Transition → Except DefinitionError Target
  | stay => .ok .stay
  | pop => .ok .pop
  | push target =>
    match names.findIdx? (· == target) with
    | some index => .ok (.push index)
    | none => .error (.unknownState state target)

/-- Makes a rule ready. Its state is looked up before its pattern is read. -/
def Rule.prepare (engine : Engine) (names : List String) (state : String) (rule : Rule) :
    Except DefinitionError ReadyRule :=
  match rule.transition.resolve names state with
  | .error e => .error e
  | .ok target =>
    match engine.read rule.pattern with
    | .ok matcher => .ok ⟨rule, matcher, target⟩
    | .error cause => .error (.invalidPattern state rule.pattern cause)

/-- Makes the rules of a state ready; the first faulty rule decides. -/
def RuleState.prepare (engine : Engine) (names : List String) (state : RuleState) :
    Except DefinitionError ReadyState :=
  match state.rules.mapM (Rule.prepare engine names state.name) with
  | .error e => .error e
  | .ok rules => .ok ⟨state.name, rules⟩

namespace Lexer

/-- The lexer of a rule table, whose patterns the engine reads. There must be a state, the initial state
must not be left, and then the first faulty rule decides. -/
def build (engine : Engine) (d : Definition) : Except DefinitionError Lexer :=
  match d.states with
  | [] => .error (.noStates d.info.name)
  | initial :: _ =>
    if initial.rules.any (·.transition == .pop) then .error (.popInInitial initial.name)
    else
      match d.states.mapM (RuleState.prepare engine (d.states.map (·.name))) with
      | .error e => .error e
      | .ok states => .ok ⟨d.info, states⟩

/-- The record of a lexer that was built. -/
def builtRecord (l : Lexer) : Log.Record :=
  ⟨.debug, "Built lexer `" ++ l.info.name ++ "` with " ++ toString l.states.length
    ++ " states and " ++ toString (l.states.flatMap (·.rules)).length ++ " rules"⟩

/-! ## Looking things up -/

/-- The names of the states, in order. -/
def stateNames (l : Lexer) : List String := l.states.map (·.name)

/-- The first state with a name. -/
def state? (l : Lexer) (name : String) : Option ReadyState := l.states.find? (·.name == name)

/-- The rules of a state, as they were written down. -/
def rules? (l : Lexer) (name : String) : Option (List Rule) :=
  (l.state? name).map fun s => s.rules.map (·.rule)

end Lexer

/-! ## Trying the rules -/

/-- The rule that wins at a place, its number, and where its match ends. -/
structure Win where
  index : Nat
  rule : ReadyRule
  stop : Place

/-- Tries one rule. A match that takes nothing does not count. -/
def ReadyRule.takes? (rule : ReadyRule) (p : Place) : Option Place :=
  (rule.matcher.stop? p).filter fun q => decide (p.offset < q.offset)

/-- The first rule of a state that takes some text at a place. -/
def ReadyState.winner? (s : ReadyState) (p : Place) : Option Win :=
  s.rules.zipIdx.findSome? fun (rule, index) => (rule.takes? p).map fun q => ⟨index, rule, q⟩

/-- What a winning rule says: its number, its category, and the offset where its match ends. -/
structure RuleMatch where
  rule : Nat
  kind : Kind
  stop : Nat
  deriving DecidableEq

/-- The winning rule of a state at an offset of a text. There is none inside a character, at the end
of the text or past it, or if no state has the name. -/
def Lexer.firstMatch? (l : Lexer) (state text : String) (offset : Nat) : Option RuleMatch := do
  let s ← l.state? state
  let p ← Place.at? text.toList offset
  let w ← s.winner? p
  some ⟨w.index, w.rule.rule.kind, w.stop.offset⟩

end Highlighter
