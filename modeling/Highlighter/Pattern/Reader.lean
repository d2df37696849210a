-- Patterns in their usual notation: characters, dots, escapes and sets; groups, alternatives and
-- repetitions; conditions on the place; and flags. A text that is no pattern reads as none, and so does
-- one that names a Unicode property. A pattern may be of any size.
import Highlighter.Pattern.Bracket
import Highlighter.Pattern.Expansion
import Highlighter.Text.Letter

namespace Highlighter.Pattern

/-! ## Repetitions -/

/-- How often a piece is repeated, and whether a question mark follows. -/
structure Repetition where
  least : Nat
  /-- None if there is no bound. -/
  most : Option Nat
  marked : Bool

/-- Reads the digits of a number; the flags may allow blanks between them. `fuel` bounds their
number. -/
def digitRun (flags : Flags) : Nat → Option Nat → List Char → Option Nat × List Char
  | 0, value, cs => (value, cs)
  | _ + 1, value, [] => (value, [])
  | fuel + 1, value, c :: rest =>
    if c.isDigit then
      digitRun flags fuel (some (value.getD 0 * 10 + (c.toNat - '0'.toNat))) (flags.skip rest)
    else (value, c :: rest)

/-- The rest after white space; the flags may allow comments between. `fuel` bounds its length. -/
def skipSpaces (flags : Flags) : Nat → List Char → List Char
  | 0, cs => cs
  | _ + 1, [] => []
  | fuel + 1, c :: rest =>
    if Text.isSpace c then skipSpaces flags fuel (flags.skip rest) else c :: rest

/-- Reads a number with white space around it. It fits in 32 bits. -/
def readCount? (flags : Flags) (cs : List Char) : Option (Nat × List Char) :=
  let cs := cs.dropWhile Text.isSpace
  match digitRun flags (cs.length + 1) none cs with
  | (some n, rest) =>
    if n < Nat.pow 2 32 then some (n, skipSpaces flags (rest.length + 1) rest) else none
  | (none, _) => none

/-- Reads a question mark if there is one. -/
def readMark (cs : List Char) : Bool × List Char :=
  match cs with
  | '?' :: rest => (true, rest)
  | _ => (false, cs)

/-- Reads bounds in braces, given what follows the opening brace. -/
def readBounds? (flags : Flags) (cs : List Char) : Option (Repetition × List Char) := do
  let (least, rest) ← readCount? flags (flags.skip cs)
  let (most, rest) ←
    match rest with
    | ',' :: rest =>
      match flags.skip rest with
      | '\x7d' :: rest => some (none, '\x7d' :: rest)
      | rest => (readCount? flags rest).map fun (n, rest) => (some n, rest)
    | rest => some (some least, rest)
  match rest with
  | '\x7d' :: rest =>
    let (marked, after) := readMark (flags.skip rest)
    let fits := match most with
      | none => true
      | some most => decide (least ≤ most)
    if fits then some (⟨least, most, marked⟩, after) else none
  | _ => none

/-! ## Groups -/

/-- How far the reading has come. -/
structure Reading where
  rest : List Char
  flags : Flags
  /-- The names of groups so far. -/
  names : List (List Char)
  /-- How many numbered groups have begun. -/
  groups : Nat

/-- One item of a sequence. -/
inductive Item where
  /-- Flags for what follows; there is nothing to repeat. -/
  | setting
  /-- An expression, and how deep its notation nests. -/
  | piece (expr : Expr) (depth : Nat)

namespace Item

/-- What an item takes. -/
def expr : Item → Expr
  | setting => .empty
  | piece e _ => e

/-- How deep the notation of an item nests. -/
def depth : Item → Nat
  | setting => 0
  | piece _ d => d

end Item

/-- The depth of a list of parts. One part by itself is no deeper for it. -/
def joinedDepth (depths : List Nat) : Nat :=
  match depths with
  | [] => 0
  | [d] => d
  | _ => 1 + depths.foldl max 0

/-- A sequence of items, the latest first, and its depth. -/
def sequence (items : List Item) : Expr × Nat :=
  (.concat (items.reverse.map Item.expr), joinedDepth (items.map Item.depth))

/-- Alternatives joined, and their depth. `done` holds them, the latest first. -/
def finish (done : List (Expr × Nat)) : Expr × Nat :=
  (.firstOf (done.reverse.map (·.1)), joinedDepth (done.map (·.2)))

/-- A character of the name of a group, at its start or later. -/
def isNameChar (atStart : Bool) (c : Char) : Bool :=
  if atStart then c == '_' || Text.isLetter c
  else c == '_' || c == '.' || c == '[' || c == ']' || Text.isLetter c || Text.isNumber c

/-- Reads the name of a group and the `>` after it. A name is not empty and is not used twice. -/
def readName? (names : List (List Char)) (cs : List Char) : Option (List Char × List Char) :=
  let name := cs.takeWhile (· != '>')
  match cs.dropWhile (· != '>'), name with
  | '>' :: rest, first :: more =>
    if isNameChar true first && more.all (isNameChar false) && !names.contains name then
      some (name, rest)
    else none
  | _, _ => none

/-- What an opening parenthesis opens. -/
inductive Opening where
  /-- A group whose inside is to be read; numbered groups are told apart by it. -/
  | group (number : Option Nat) (inside : Reading)
  /-- Flags for the rest of the surrounding group. -/
  | setting (after : Reading)

/-- A numbered group, with its name if it has one. -/
def numbered (r : Reading) (rest : List Char) (name : List (List Char)) : Opening :=
  .group (some r.groups) { r with rest := rest, names := name ++ r.names, groups := r.groups + 1 }

/-- Reads what follows an opening parenthesis, up to the inside of the group. Conditions on the text
around a place are refused. -/
def readOpening? (r : Reading) (cs : List Char) : Option Opening :=
  match r.flags.skip cs with
  | '?' :: '=' :: _ => none
  | '?' :: '!' :: _ => none
  | '?' :: '<' :: '=' :: _ => none
  | '?' :: '<' :: '!' :: _ => none
  | '?' :: 'P' :: '<' :: rest =>
    (readName? r.names rest).map fun (name, rest) => numbered r rest [name]
  | '?' :: '<' :: rest => (readName? r.names rest).map fun (name, rest) => numbered r rest [name]
  | '?' :: rest =>
    match Flags.read? [] r.flags rest with
    | some (flags, _, ':' :: rest) => some (.group none { r with rest := rest, flags := flags })
    | some (flags, _ :: _, ')' :: rest) => some (.setting { r with rest := rest, flags := flags })
    | _ => none
  | rest => some (numbered r rest [])

/-- A group with this inside. A group without a number is just its inside. -/
def enclose (number : Option Nat) (inside : Expr) : Expr :=
  match number with
  | some n => .group n inside
  | none => inside

/-! ## Sequences -/

/-- Repeats the latest item. -/
def repeatLatest? (flags : Flags) (items : List Item) (repetition : Repetition) :
    Option (List Item) :=
  match items with
  | .piece body depth :: before =>
    let greedy := repetition.marked == flags.swapGreed
    some (.piece (.rounds repetition.least repetition.most greedy body) (1 + depth) :: before)
  | _ => none

/-- Reads a piece that is no group: a set, an escape, a dot, a condition on the place, or a character
that stands for itself. -/
def readPiece? (flags : Flags) : List Char → Option (Expr × Nat × List Char)
  | [] => none
  | c :: rest =>
    match c with
    | '[' =>
      (readBracket? flags rest).map fun (item, rest) => (flags.oneOf item.set, item.depth, rest)
    | '\\' =>
      match readEscape? flags rest with
      | none => none
      | some (.char c, rest) => some (flags.literal c, 0, rest)
      | some (.property p negated, rest) =>
        (flags.property? p negated).map fun set => (flags.oneOf set, 0, rest)
      | some (.look l, rest) => some (.look l, 0, rest)
    | '.' => flags.dot?.map fun set => (flags.oneOf set, 0, rest)
    | '^' =>
      let l := if !flags.multiLine then .textStart
        else if flags.crlf then .anyLineStart else .lineStart
      some (.look l, 0, rest)
    | '$' =>
      let l := if !flags.multiLine then .textEnd
        else if flags.crlf then .anyLineEnd else .lineEnd
      some (.look l, 0, rest)
    | c => some (flags.literal c, 0, rest)

/-- Reads alternatives up to the end of the text or a closing parenthesis, which is left in the rest.
`done` holds the alternatives before this one and `items` the items of this one, the latest first.
Gives the expression, its depth, and how far the reading has come. `fuel` bounds the number of
items. -/
def readAlternatives? : Nat → Reading → List (Expr × Nat) → List Item →
    Option ((Expr × Nat) × Reading)
  | 0, _, _, _ => none
  | fuel + 1, r, done, items =>
    let repeat_ (repetition : Repetition) (rest : List Char) :=
      match repeatLatest? r.flags items repetition with
      | none => none
      | some items => readAlternatives? fuel { r with rest := rest } done items
    let rest := r.flags.skip r.rest
    match rest with
    | [] => some (finish (sequence items :: done), { r with rest := [] })
    | ')' :: _ => some (finish (sequence items :: done), { r with rest := rest })
    | '|' :: rest => readAlternatives? fuel { r with rest := rest } (sequence items :: done) []
    | '(' :: rest =>
      match readOpening? r rest with
      | none => none
      | some (.setting r) => readAlternatives? fuel r done (.setting :: items)
      | some (.group number inside) =>
        match readAlternatives? fuel inside [] [] with
        | some ((expr, depth), after) =>
          match after.rest with
          | ')' :: rest =>
            readAlternatives? fuel { after with rest := rest, flags := r.flags } done
              (.piece (enclose number expr) (1 + depth) :: items)
          | _ => none
        | none => none
    | '?' :: rest => let (marked, rest) := readMark rest; repeat_ ⟨0, some 1, marked⟩ rest
    | '*' :: rest => let (marked, rest) := readMark rest; repeat_ ⟨0, none, marked⟩ rest
    | '+' :: rest => let (marked, rest) := readMark rest; repeat_ ⟨1, none, marked⟩ rest
    | '\x7b' :: rest =>
      match readBounds? r.flags rest with
      | none => none
      | some (repetition, rest) => repeat_ repetition rest
    | cs =>
      match readPiece? r.flags cs with
      | none => none
      | some (expr, depth, rest) =>
        readAlternatives? fuel { r with rest := rest } done (.piece expr depth :: items)

/-- The deepest nesting that a pattern may have. -/
def depthLimit : Nat := 250

/-- Reads a pattern from characters. -/
def ofChars? (cs : List Char) : Option Pattern :=
  match readAlternatives? (cs.length + 1) ⟨cs, .initial, [], 0⟩ [] [] with
  | some ((expr, depth), after) =>
    if after.rest.isEmpty && depth ≤ depthLimit then some (ofExpr expr) else none
  | none => none

/-- Reads a pattern. -/
def read? (text : String) : Option Pattern := ofChars? text.toList

end Highlighter.Pattern
