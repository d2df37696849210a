-- Patterns and how they match. A match starts at the place where it is tried, and of all matches the
-- preferred one is taken: an earlier alternative comes before a later one, and a repetition prefers
-- more rounds, or fewer if it is lazy. No branch is tried twice at one point, so a round that takes
-- nothing ends its repetition, and the search is bounded by branches times places. In repetitions with
-- conditions, there is a finer rule: a condition that looks ahead leads to a new point of its place, and
-- branches tried before it may be tried again after it.
import Highlighter.Pattern.CharSet
import Highlighter.Pattern.Place
import Highlighter.Pattern.Tried

namespace Highlighter

/-! ## Patterns -/

/-- A pattern. Each branch has a mark of its own. -/
inductive Pattern where
  /-- Takes nothing. -/
  | empty
  /-- Takes one character of the set. -/
  | one (set : CharSet)
  /-- Takes nothing, and asks for a condition on the place. -/
  | look (condition : Look)
  /-- The first pattern, then the second. -/
  | seq (first second : Pattern)
  /-- The first pattern if it leads to a match, or else the second. -/
  | branch (mark : Nat) (first second : Pattern)
  /-- One or more rounds of the body: as many as possible if `greedy`, or else as few. -/
  | rounds (mark : Nat) (greedy : Bool) (body : Pattern)
  /-- Any number of rounds of a body that takes at least one character. -/
  | anyRounds (mark : Nat) (greedy : Bool) (body : Pattern)
  deriving DecidableEq

namespace Pattern

/-- The same pattern with all marks moved up. -/
def shift (by_ : Nat) : Pattern → Pattern
  | empty => empty
  | one set => one set
  | look l => look l
  | seq a b => seq (a.shift by_) (b.shift by_)
  | branch m a b => branch (m + by_) (a.shift by_) (b.shift by_)
  | rounds m greedy a => rounds (m + by_) greedy (a.shift by_)
  | anyRounds m greedy a => anyRounds (m + by_) greedy (a.shift by_)

/-- The patterns of a list, one after the other. -/
def seqAll : List Pattern → Pattern
  | [] => empty
  | [a] => a
  | a :: rest => seq a (seqAll rest)

/-! ## The search -/

/-- What a search found, and the branches that it has tried. -/
structure Outcome where
  found : Option Place
  tried : Tried

namespace Outcome

/-- Nothing found. -/
def fail (tried : Tried) : Outcome := ⟨none, tried⟩

/-- The outcome itself if it found something, or else that of another search. -/
def orElse (o : Outcome) (other : Tried → Outcome) : Outcome :=
  match o.found with
  | some _ => o
  | none => other o.tried

end Outcome

/-- A place in a search. -/
structure Point where
  place : Place
  /-- The characters taken so far. -/
  taken : Nat
  /-- Conditions that look ahead lead to new points. -/
  fine : Bool
  /-- Such a condition has been passed at the place. -/
  passed : Bool

namespace Point

/-- The point where a search starts. -/
def start (fine : Bool) (p : Place) : Point := ⟨p, 0, fine, false⟩

/-- A number that tells the points of one search apart. -/
def number (p : Point) : Nat := 2 * p.taken + p.passed.toNat

/-- The point after the next character. -/
def after (p : Point) (c : Char) (rest : List Char) : Point :=
  ⟨p.place.after c rest, p.taken + 1, p.fine, false⟩

/-- The point after a condition that holds at the place. -/
def pass (p : Point) (l : Look) : Point :=
  { p with passed := p.passed || (p.fine && !l.looksBehind p.place.last) }

end Point

/-- The search for what follows a pattern, from a point where the pattern ended. -/
abbrev Continuation := Point → Tried → Outcome

/-- The turn after a round: another round or what follows, in the preferred order. `next` is the turn
after that round. -/
def takeTurn (body : Point → Tried → Continuation → Outcome) (mark : Nat) (greedy : Bool)
    (k next : Continuation) : Continuation := fun p tried =>
  if tried.contains mark p.number then Outcome.fail tried
  else
    let tried := tried.insert mark p.number
    if greedy then (body p tried next).orElse (k p)
    else (k p tried).orElse fun tried => body p tried next

/-- The turns of a repetition, two for each element of `bound`. A turn is taken once at each point, and
a place has two of them, so one element more than the characters left is enough. -/
def turn (body : Point → Tried → Continuation → Outcome) (mark : Nat) (greedy : Bool)
    (k : Continuation) : List Char → Continuation
  | [], _, tried => Outcome.fail tried
  | _ :: bound, p, tried =>
    takeTurn body mark greedy k (takeTurn body mark greedy k (turn body mark greedy k bound)) p tried

/-- The search for a pattern at a point and for what follows it. -/
def search : Pattern → Point → Tried → Continuation → Outcome
  | empty, p, tried, k => k p tried
  | one set, p, tried, k =>
    match p.place.rest with
    | [] => Outcome.fail tried
    | c :: rest => if set.mem c then k (p.after c rest) (tried.reach rest) else Outcome.fail tried
  | look l, p, tried, k => if l.holds p.place then k (p.pass l) tried else Outcome.fail tried
  | seq a b, p, tried, k => a.search p tried fun p tried => b.search p tried k
  | branch mark a b, p, tried, k =>
    if tried.contains mark p.number then Outcome.fail tried
    else (a.search p (tried.insert mark p.number) k).orElse fun tried => b.search p tried k
  | rounds mark greedy a, p, tried, k =>
    a.search p tried (turn a.search mark greedy k (' ' :: p.place.rest))
  | anyRounds mark greedy a, p, tried, k =>
    turn a.search mark greedy k (' ' :: p.place.rest) p tried

/-- The outcome of a search from a place. -/
def searchFrom (pattern : Pattern) (fine : Bool) (p : Place) : Outcome :=
  pattern.search (.start fine p) (Tried.none.reach p.rest) fun p tried => ⟨some p.place, tried⟩

/-- The pattern asks for a condition that passes the test. -/
def asks (test : Look → Bool) : Pattern → Bool
  | look l => test l
  | seq a b | branch _ a b => a.asks test || b.asks test
  | rounds _ _ a | anyRounds _ _ a => a.asks test
  | _ => false

/-- A repetition in the pattern asks for a condition that passes the test. -/
def roundsAsk (test : Look → Bool) : Pattern → Bool
  | seq a b | branch _ a b => a.roundsAsk test || b.roundsAsk test
  | rounds _ _ a | anyRounds _ _ a => a.asks test
  | _ => false

/-- The place where the preferred match from a place ends. The finer rule matters only for repetitions
with conditions, and a pattern that asks for word characters keeps to it only within ASCII. -/
def matchFrom (pattern : Pattern) (p : Place) : Option Place :=
  if pattern.roundsAsk fun l => !l.looksBehind (some '\r') then
    let o := pattern.searchFrom true p
    if pattern.asks (·.asksForWords) && (o.tried.wide || p.last.any (128 ≤ ·.toNat)) then
      (pattern.searchFrom false p).found
    else o.found
  else (pattern.searchFrom false p).found

end Pattern

end Highlighter
