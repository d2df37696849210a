-- Sets of characters in brackets: characters, spans, escapes, named ASCII sets and brackets inside,
-- joined by union, and the operators for intersection and difference, which bind more loosely and
-- group to the left.
import Highlighter.Pattern.Escape

namespace Highlighter.Pattern

/-- A set and how deep its notation nests. -/
structure SetItem where
  set : CharSet
  depth : Nat

namespace SetItem

/-- The union of items, the latest first. One item by itself is no deeper for it. -/
def join (items : List SetItem) : SetItem :=
  match items with
  | [] => ⟨.none, 0⟩
  | [item] => item
  | _ => ⟨.unionAll (items.reverse.map (·.set)), 1 + (items.map (·.depth)).foldl max 0⟩

end SetItem

/-- An operator between two sets. -/
inductive SetOperator where
  | intersection
  | difference
  | symmetricDifference

/-- An operator that waits for its right side. -/
structure PendingSet where
  left : SetItem
  operator : SetOperator

/-- The set so far: the union of the items, applied to what waits. -/
def settle (flags : Flags) (pending : Option PendingSet) (items : List SetItem) : SetItem :=
  let right := SetItem.join items
  match pending with
  | none => right
  | some ⟨left, operator⟩ =>
    let a := flags.closeCase left.set
    let b := flags.closeCase right.set
    let set :=
      match operator with
      | .intersection => CharSet.inter a b
      | .difference => CharSet.diff a b
      | .symmetricDifference => CharSet.symmDiff a b
    ⟨set, 1 + max left.depth right.depth⟩

/-- Reads a named ASCII set, given what follows the bracket: `:name:]`, with `^` before the name to
negate it. Gives whether it is negated, and the set. -/
def namedSet? (cs : List Char) : Option (Bool × CharSet × List Char) :=
  match cs with
  | ':' :: cs =>
    let (negated, cs) :=
      match cs with
      | '^' :: rest => (true, rest)
      | _ => (false, cs)
    match cs.dropWhile (· != ':') with
    | ':' :: ']' :: rest =>
      (CharSet.ascii? (String.ofList (cs.takeWhile (· != ':')))).map fun set => (negated, set, rest)
    | _ => none
  | _ => none

/-- Dashes at the start of a set stand for themselves. Reads them, and fails at the end of the text.
`fuel` bounds their number. -/
def leadingDashes? (flags : Flags) : Nat → List SetItem → List Char →
    Option (List SetItem × List Char)
  | 0, _, _ => none
  | _ + 1, _, [] => none
  | fuel + 1, items, c :: rest =>
    if c = '-' then leadingDashes? flags fuel (⟨.single '-', 0⟩ :: items) (flags.skip rest)
    else some (items, c :: rest)

/-- Reads what may follow an opening bracket: `^`, then dashes, or else a closing bracket that stands
for itself. Gives whether the set is negated, and its first items. -/
def openSet? (flags : Flags) (cs : List Char) : Option (Bool × List SetItem × List Char) :=
  let cs := flags.skip cs
  let (negated, cs) :=
    match cs with
    | '^' :: rest => (true, flags.skip rest)
    | _ => (false, cs)
  match leadingDashes? flags (cs.length + 1) [] cs with
  | some ([], ']' :: rest) =>
    match flags.skip rest with
    | [] => none
    | rest => some (negated, [⟨.single ']', 0⟩], rest)
  | some (items, rest) => some (negated, items, rest)
  | none => none

/-- Reads one member of a set: an escape, or a character that stands for itself. -/
def readMember? (flags : Flags) : List Char → Option (Escape × List Char)
  | [] => none
  | c :: rest => if c = '\\' then readEscape? flags rest else some (.char c, rest)

/-- The character after a dash, past blanks and the mark of a comment if the flags allow them. -/
def peekAfterDash (flags : Flags) (cs : List Char) : Option Char :=
  if flags.verbose then
    match cs.dropWhile Text.isSpace with
    | '#' :: rest => (rest.dropWhile Text.isSpace).head?
    | rest => rest.head?
  else cs.head?

/-- The set of a member by itself. A condition on the place is no member. -/
def memberSet? (flags : Flags) : Escape → Option CharSet
  | .char c => if !flags.unicode && 128 ≤ c.toNat then none else some (.single c)
  | .property p negated => flags.property? p negated
  | .look _ => none

/-- Reads a member, or a span between two characters. A dash makes a span unless the bracket closes
after it or another dash follows. -/
def readSpan? (flags : Flags) (cs : List Char) : Option (CharSet × List Char) := do
  let (first, rest) ← readMember? flags cs
  match flags.skip rest with
  | [] => none
  | '-' :: rest =>
    let next := peekAfterDash flags rest
    if next = some ']' ∨ next = some '-' then
      let set ← memberSet? flags first
      some (set, '-' :: rest)
    else
      let (last, rest) ← readMember? flags (flags.skip rest)
      match first, last with
      | .char a, .char b =>
        if !flags.unicode && (128 ≤ a.toNat || 128 ≤ b.toNat) then none
        else if a ≤ b then some (.span a b, rest)
        else none
      | _, _ => none
  | rest =>
    let set ← memberSet? flags first
    some (set, rest)

/-- The set of a whole bracket. -/
def closeSet? (flags : Flags) (negated : Bool) (item : SetItem) : Option SetItem :=
  (flags.finish? negated item.set).map (⟨·, 1 + item.depth⟩)

/-- Reads a set up to its closing bracket. `fuel` bounds the number of items. -/
def readSet? (flags : Flags) : Nat → Bool → Option PendingSet → List SetItem → List Char →
    Option (SetItem × List Char)
  | 0, _, _, _, _ => none
  | fuel + 1, negated, pending, items, cs =>
    let operate (operator : SetOperator) (rest : List Char) :=
      readSet? flags fuel negated (some ⟨settle flags pending items, operator⟩) [] rest
    match flags.skip cs with
    | [] => none
    | '[' :: rest =>
      match namedSet? rest with
      | some (setNegated, set, rest) =>
        match flags.finish? setNegated set with
        | none => none
        | some set => readSet? flags fuel negated pending (⟨set, 0⟩ :: items) rest
      | none =>
        match openSet? flags rest with
        | none => none
        | some (innerNegated, innerItems, rest) =>
          match readSet? flags fuel innerNegated none innerItems rest with
          | none => none
          | some (inner, rest) => readSet? flags fuel negated pending (inner :: items) rest
    | ']' :: rest => (closeSet? flags negated (settle flags pending items)).map (·, rest)
    | '&' :: '&' :: rest => operate .intersection rest
    | '-' :: '-' :: rest => operate .difference rest
    | '~' :: '~' :: rest => operate .symmetricDifference rest
    | cs =>
      match readSpan? flags cs with
      | none => none
      | some (set, rest) => readSet? flags fuel negated pending (⟨set, 0⟩ :: items) rest

/-- Reads a set in brackets, given what follows the opening bracket. -/
def readBracket? (flags : Flags) (cs : List Char) : Option (SetItem × List Char) :=
  match openSet? flags cs with
  | none => none
  | some (negated, items, rest) => readSet? flags (rest.length + 1) negated none items rest

end Highlighter.Pattern
