-- From the normal form of a pattern to what is searched: counted rounds are written out as copies, and
-- each branch gets a mark of its own.
import Highlighter.Pattern.Basic
import Highlighter.Pattern.Expr

namespace Highlighter.Pattern

/-- Two ways in the order of preference, the first if `greedy`. -/
def prefer (mark : Nat) (greedy : Bool) (more stop : Pattern) : Pattern :=
  if greedy then branch mark more stop else branch mark stop more

/-- The copies of a body with numbers from `from_` on, `n` of them. Each has marks of its own, `width`
apart. -/
def copies (body : Pattern) (width from_ n : Nat) : List Pattern :=
  (List.range n).map fun i => body.shift ((from_ + i) * width)

/-- Copies that may be left out from some point on: each asks for those before it. -/
def optionalAll (greedy : Bool) : Nat → List Pattern → Pattern
  | _, [] => empty
  | mark, body :: rest => prefer mark greedy (seq body (optionalAll greedy (mark + 1) rest)) empty

/-- Any number of rounds of a body, with marks from `high` on. A body that may take nothing has its
first round apart: otherwise a first round that takes nothing would not come before none. -/
def anyNumber (body : Pattern) (high : Nat) (greedy takesSome : Bool) : Pattern × Nat :=
  if takesSome then (anyRounds high greedy body, high + 1)
  else (prefer high greedy (rounds (high + 1) greedy body) empty, high + 2)

/-- A body repeated. Its marks lie from `low` up to `high`. Gives the pattern and the next free
mark. -/
def repeated (body : Pattern) (low high : Nat) (greedy takesSome : Bool) :
    Nat → Option Nat → Pattern × Nat
  | 0, none => anyNumber body high greedy takesSome
  | least + 1, none =>
    let width := high - low
    let free := low + (least + 1) * width
    let last := rounds free greedy (body.shift (least * width))
    (seqAll (copies body width 0 least ++ [last]), free + 1)
  | least, some most =>
    let width := high - low
    let free := low + most * width
    let must := copies body width 0 least
    let may := optionalAll greedy free (copies body width least (most - least))
    (if most = least then seqAll must else seqAll (must ++ [may]), free + (most - least))

/-- The pattern of an expression, with marks from the given one on, and the next free mark. -/
def expand : Expr → Nat → Pattern × Nat
  | .empty, free => (empty, free)
  | .text cs, free => (seqAll (cs.map fun c => one (.single c)), free)
  | .set _ s, free => (one s, free)
  | .look l, free => (look l, free)
  | .repeated least most greedy body, free =>
    let (inner, high) := expand body free
    repeated inner free high greedy body.takesSome least most
  | .group _ body, free => expand body free
  | .seq a b, free =>
    let (a, free) := expand a free
    let (b, free) := expand b free
    (seq a b, free)
  | .alt a b, free =>
    let (a, free) := expand a free
    let (b, free) := expand b free
    (branch free a b, free + 1)

/-- The pattern of an expression. -/
def ofExpr (e : Expr) : Pattern := (expand e 0).1

end Highlighter.Pattern
