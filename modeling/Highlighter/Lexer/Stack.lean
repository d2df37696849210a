-- The stack of states. Its bottom is the initial state, number 0, which no operation takes away.
namespace Highlighter

/-- A stack of states, the top first. -/
structure StateStack where
  frames : List Nat
  deriving DecidableEq

namespace StateStack

/-- The stack of just the initial state. -/
def new : StateStack := ⟨[0]⟩

instance : Inhabited StateStack := ⟨new⟩

/-- The state on top. -/
def top (s : StateStack) : Nat := s.frames.headD 0

/-- The number of states in the stack. -/
def depth (s : StateStack) : Nat := s.frames.length

/-- A state put on top. -/
def push (s : StateStack) (state : Nat) : StateStack := ⟨state :: s.frames⟩

/-- The top state and the stack without it; none if that would take the last state away. -/
def pop? (s : StateStack) : Option (Nat × StateStack) :=
  match s.frames with
  | state :: below :: rest => some (state, ⟨below :: rest⟩)
  | _ => none

/-- Only the bottom is kept. -/
def reset (s : StateStack) : StateStack := ⟨s.frames.drop (s.frames.length - 1)⟩

end StateStack

end Highlighter
