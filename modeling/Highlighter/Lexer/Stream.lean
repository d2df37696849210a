-- The stream of tokens of one text. At each place the winning rule of the top state makes a token;
-- where no rule wins, one character does: a line feed as plain text, which leads back to the initial
-- state, and any other character as an error. Should a rule leave the last state of the stack, the
-- rest of the text becomes one token.
import Highlighter.Highlight
import Highlighter.Lexer.Basic
import Highlighter.Lexer.Stack
import Highlighter.Token

namespace Highlighter

/-! ## The stream -/

/-- A stream somewhere in its text. -/
structure Stream where
  lexer : Lexer
  /-- The bytes of the whole text. -/
  size : Nat
  place : Place
  stack : StateStack
  /-- A rule has tried to leave the last state of the stack. -/
  underflow : Bool

/-- What a stream reports while it moves on. -/
inductive StreamEvent where
  | pushed (state : String) (offset : Nat)
  | popped (state : String) (offset : Nat)
  | underflowed (state : String)
  | unmatched (lexer state text : String) (offset : Nat)
  deriving DecidableEq

/-- The record of an event. -/
def StreamEvent.record : StreamEvent → Log.Record
  | pushed state offset =>
    ⟨.trace, "push `" ++ state ++ "` at offset " ++ toString offset⟩
  | popped state offset =>
    ⟨.trace, "pop `" ++ state ++ "` at offset " ++ toString offset⟩
  | underflowed state => ⟨.error, "State stack underflow while leaving `" ++ state ++ "`"⟩
  | unmatched lexer state text offset =>
    ⟨.warn, "No rule of `" ++ lexer ++ "` in state `" ++ state ++ "` matches " ++ Text.quoted text
      ++ " at offset " ++ toString offset⟩

namespace Stream

/-- The stream at the start of a text. -/
def start (lexer : Lexer) (text : String) : Stream :=
  ⟨lexer, text.utf8ByteSize, Place.start text.toList, .new, false⟩

/-- The state with a number. -/
def stateAt? (s : Stream) (index : Nat) : Option ReadyState := s.lexer.states[index]?

/-- The name of the state with a number; empty if there is none. -/
def nameAt (s : Stream) (index : Nat) : String := ((s.stateAt? index).map (·.name)).getD ""

/-- The name of the state on top. -/
def state (s : Stream) : String := s.nameAt s.stack.top

/-- The rule that wins where the stream stands. -/
def win? (s : Stream) : Option Win := (s.stateAt? s.stack.top).bind (·.winner? s.place)

/-- The number of states in the stack. -/
def depth (s : Stream) : Nat := s.stack.depth

/-- The bytes that no token has covered so far. -/
def remaining (s : Stream) : Nat := s.size - s.place.offset

/-- Bounds on the number of tokens to come. -/
def hint (s : Stream) : Nat × Nat := (if s.remaining > 0 then 1 else 0, s.remaining)

/-! ## One token -/

/-- A token, what was reported with it, and the stream after it. -/
structure Step where
  token : Token
  event? : Option StreamEvent
  next : Stream

/-- The stream with its stack turned by a rule with this target, and what is reported. -/
def turn (s : Stream) (target : Target) : Stream × Option StreamEvent :=
  match target with
  | .stay => (s, none)
  | .push state =>
    ({ s with stack := s.stack.push state }, some (.pushed (s.nameAt state) s.place.offset))
  | .pop =>
    match s.stack.pop? with
    | some (_, rest) => ({ s with stack := rest }, some (.popped s.state s.place.offset))
    | none => ({ s with underflow := true }, some (.underflowed s.state))

/-- The token of a winning rule. -/
def accept (s : Stream) (w : Win) : Step :=
  let (turned, event?) := s.turn w.rule.target
  { token := ⟨w.rule.rule.kind, String.ofList (s.place.textTo w.stop), s.place.offset⟩
    event? := event?
    next := { turned with place := w.stop } }

/-- The token of one character that no rule wants. -/
def fallback (s : Stream) (c : Char) (rest : List Char) : Step :=
  let text := String.ofList [c]
  let place := s.place.after c rest
  if c = '\n' then
    { token := ⟨.text, text, s.place.offset⟩
      event? := none
      next := { s with place := place, stack := s.stack.reset } }
  else
    { token := ⟨.error, text, s.place.offset⟩
      event? := some (.unmatched s.lexer.info.name s.state text s.place.offset)
      next := { s with place := place } }

/-- The token of all that is left. -/
def restAsText (s : Stream) : Step :=
  { token := ⟨.text, String.ofList s.place.rest, s.place.offset⟩
    event? := none
    next := { s with place := s.place.forward s.place.rest.length } }

/-- The next token, if the text is not at its end. -/
def next? (s : Stream) : Option Step :=
  match s.place.rest with
  | [] => none
  | c :: rest =>
    if s.underflow then some s.restAsText
    else
      match s.win? with
      | some w => some (s.accept w)
      | none => some (s.fallback c rest)

/-! ## Many tokens -/

/-- The next steps, `n` at most. -/
def steps : Nat → Stream → List Step
  | 0, _ => []
  | n + 1, s =>
    match s.next? with
    | none => []
    | some step => step :: steps n step.next

/-- The stream after `n` more tokens, or at its end. -/
def skip : Nat → Stream → Stream
  | 0, s => s
  | n + 1, s =>
    match s.next? with
    | none => s
    | some step => skip n step.next

/-- All steps to come. A token takes a character at least, so there are not more of them. -/
def allSteps (s : Stream) : List Step := steps s.place.rest.length s

/-- All tokens to come. -/
def tokens (s : Stream) : List Token := s.allSteps.map (·.token)

end Stream

/-- What was reported along some steps. -/
def Stream.records (steps : List Stream.Step) : List Log.Record :=
  (steps.filterMap (·.event?)).map (·.record)

namespace Lexer

/-- The tokens of a text. -/
def tokenize (l : Lexer) (text : String) : List Token := (Stream.start l text).tokens

/-- The highlights of a text. -/
def highlight (l : Lexer) (text : String) : List Highlight := Highlight.merge (l.tokenize text)

end Lexer

end Highlighter
