-- Patterns as they are read, in normal form: sequences and alternatives are flat, neighbouring
-- characters make one text, alternatives of single characters or of sets make one set, and what all
-- alternatives begin with stands before them. The normal form is part of what a pattern means, because
-- a search takes the alternatives in order: `x*a|x*b` reads as `x*(a|b)`, which prefers more rounds of
-- `x` to an end in `a`.
import Highlighter.Pattern.CharSet
import Highlighter.Pattern.Place

namespace Highlighter.Pattern

/-- An expression. Sequences and alternatives are lists that end in their last part: `seq a (seq b c)`
has the parts `a`, `b` and `c`. -/
inductive Expr where
  /-- Takes nothing. -/
  | empty
  /-- Takes these characters; there is at least one. -/
  | text (chars : List Char)
  /-- Takes one character of the set; `ascii` if it was read without Unicode. -/
  | set (ascii : Bool) (set : CharSet)
  /-- Takes nothing, and asks for a condition on the place. -/
  | look (condition : Look)
  /-- Rounds of the body, with no upper bound if `most` is none: many are preferred to few if
  `greedy`. -/
  | repeated (least : Nat) (most : Option Nat) (greedy : Bool) (body : Expr)
  /-- A group with its number. No two groups of a pattern are equal. -/
  | group (number : Nat) (body : Expr)
  | seq (first rest : Expr)
  | alt (first rest : Expr)
  deriving DecidableEq

namespace Expr

/-! ## Properties -/

/-- The length of the shortest match; none if nothing matches. A part that never matches makes it none
also where it is just one of the alternatives. -/
def leastLength? : Expr → Option Nat
  | empty => some 0
  | text cs => some cs.length
  | set _ s => if s.spans.isEmpty then none else some 1
  | look _ => some 0
  | repeated least _ _ body => body.leastLength?.map (· * least)
  | group _ body => body.leastLength?
  | seq a b =>
    match a.leastLength?, b.leastLength? with
    | some m, some n => some (m + n)
    | _, _ => none
  | alt a b =>
    match a.leastLength?, b.leastLength? with
    | some m, some n => some (min m n)
    | _, _ => none

/-- Every match takes at least one character. -/
def takesSome (e : Expr) : Bool :=
  match e.leastLength? with
  | some n => decide (0 < n)
  | none => false

/-- No match takes a character. -/
def takesNothing : Expr → Bool
  | empty => true
  | text _ => false
  | set _ _ => false
  | look _ => true
  | repeated _ most _ body => most.isSome && body.takesNothing
  | group _ body => body.takesNothing
  | seq a b => a.takesNothing && b.takesNothing
  | alt a b => a.takesNothing && b.takesNothing

/-- The number of nodes. -/
def size : Expr → Nat
  | empty | text _ | set _ _ | look _ => 1
  | repeated _ _ _ body => body.size + 1
  | group _ body => body.size + 1
  | seq a b => a.size + b.size + 1
  | alt a b => a.size + b.size + 1

/-! ## Sets and repetitions -/

/-- One character of a set. A set of one character is a text, and there is one form of the empty set. -/
def ofSet (ascii : Bool) (s : CharSet) : Expr :=
  match s.only? with
  | some c => text [c]
  | none => set (ascii || s.spans.isEmpty) s

/-- Rounds of a body. A body that takes nothing needs at most one round. -/
def rounds (least : Nat) (most : Option Nat) (greedy : Bool) (body : Expr) : Expr :=
  let (least, most) :=
    if body.takesNothing then (min least 1, some (min (most.getD 1) 1)) else (least, most)
  if most = some 0 then empty
  else if least = 1 ∧ most = some 1 then body
  else repeated least most greedy body

/-! ## Sequences -/

/-- The parts of a sequence; another expression is its only part. -/
def parts : Expr → List Expr
  | empty => []
  | seq a rest => a :: rest.parts
  | e => [e]

/-- The sequence with these parts. -/
def ofParts : List Expr → Expr
  | [] => empty
  | [e] => e
  | e :: rest => seq e (ofParts rest)

/-- A part before others; two neighbouring texts are joined. -/
def before (e : Expr) (rest : List Expr) : List Expr :=
  match e, rest with
  | text a, text b :: rest => text (a ++ b) :: rest
  | e, rest => e :: rest

/-- Expressions one after the other. -/
def concat (es : List Expr) : Expr := ofParts ((es.flatMap parts).foldr before [])

/-! ## Alternatives -/

/-- The alternatives of an expression, in the order of preference. -/
def choices : Expr → List Expr
  | alt a rest => a :: rest.choices
  | e => [e]

/-- The expression with these alternatives. Without any, nothing matches. -/
def ofChoices : List Expr → Expr
  | [] => ofSet true .none
  | [e] => e
  | e :: rest => alt e (ofChoices rest)

/-- The character of a text of one character. -/
def char? : Expr → Option Char
  | text [c] => some c
  | _ => none

/-- The set of a single set. -/
def set? : Expr → Option CharSet
  | set _ s => some s
  | _ => none

/-- The parts of an expression that has more than one. -/
def seqParts : Expr → List Expr
  | seq a rest => a :: rest.parts
  | _ => []

/-- What two lists have in common at their start. -/
def commonStart : List Expr → List Expr → List Expr
  | a :: as, b :: bs => if a = b then a :: commonStart as bs else []
  | _, _ => []

/-- The parts with which all the alternatives begin; none if one of them is no sequence. -/
def sharedParts : List Expr → List Expr
  | [] => []
  | e :: rest => rest.foldl (fun shared e => commonStart shared e.seqParts) e.seqParts

/-- The first expression that leads to a match, with a common start before the alternatives. `fuel`
bounds how often a common start is found in what follows one. -/
def alternation : Nat → List Expr → Expr
  | fuel, es =>
    let all := es.flatMap choices
    if all.length ≤ 1 then ofChoices all
    else
      match all.mapM char?, all.mapM set? with
      | some cs, _ => ofSet false (.ofChars cs)
      | none, some sets => ofSet false (.unionAll sets)
      | none, none =>
        match fuel, sharedParts all with
        | fuel + 1, first :: more =>
          let shared := first :: more
          let rests := all.map fun e => concat (e.parts.drop shared.length)
          concat (shared ++ [alternation fuel rests])
        | _, _ => ofChoices all

/-- The first of the expressions that leads to a match. Every common start is part of the first of
them, so its size bounds how many there are. -/
def firstOf (es : List Expr) : Expr := alternation (es.foldl (fun n e => n + e.size) 0) es

end Expr

end Highlighter.Pattern
