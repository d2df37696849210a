-- What stands after a backslash in a pattern: a character, a property, or a condition on the place.
import Highlighter.Pattern.Flags
import Highlighter.Pattern.Place

namespace Highlighter.Pattern

/-- The meaning of an escape. -/
inductive Escape where
  | char (c : Char)
  | property (p : CharProperty) (negated : Bool)
  | look (condition : Look)

/-- The value of a hexadecimal digit. -/
def hexValue? (c : Char) : Option Nat :=
  if '0' ≤ c ∧ c ≤ '9' then some (c.toNat - '0'.toNat)
  else if 'a' ≤ c ∧ c ≤ 'f' then some (c.toNat - 'a'.toNat + 10)
  else if 'A' ≤ c ∧ c ≤ 'F' then some (c.toNat - 'A'.toNat + 10)
  else none

/-- The character with a code point; none for a surrogate or a number that is too large. -/
def charOf? (code : Nat) : Option Char :=
  if code.isValidChar then some (Char.ofNat code) else none

/-- Reads exactly `n` hexadecimal digits. -/
def hexRun? (flags : Flags) : Nat → Nat → List Char → Option (Nat × List Char)
  | 0, value, cs => some (value, cs)
  | _ + 1, _, [] => none
  | n + 1, value, c :: rest =>
    match hexValue? c with
    | none => none
    | some d => hexRun? flags n (value * 16 + d) (flags.skip rest)

/-- Reads hexadecimal digits up to a closing brace; there is at least one. `fuel` bounds their
number. -/
def hexBraced? (flags : Flags) : Nat → Option Nat → List Char → Option (Nat × List Char)
  | 0, _, _ => none
  | _ + 1, _, [] => none
  | fuel + 1, value, c :: rest =>
    if c = '\x7d' then value.map fun v => (v, flags.skip rest)
    else
      match hexValue? c with
      | none => none
      | some d => hexBraced? flags fuel (some (value.getD 0 * 16 + d)) (flags.skip rest)

/-- Reads a character by its code point, with `digits` digits or any number of them in braces. Two
digits name a byte, and without Unicode it must be ASCII. -/
def hexChar? (flags : Flags) (digits : Nat) (cs : List Char) : Option (Char × List Char) :=
  let read :=
    match flags.skip cs with
    | '\x7b' :: rest => hexBraced? flags (rest.length + 1) none (flags.skip rest)
    | cs =>
      (hexRun? flags digits 0 cs).filter fun (code, _) =>
        flags.unicode || decide (digits ≠ 2) || decide (code < 128)
  read.bind fun (code, rest) => (charOf? code).map (·, rest)

/-- The letters and dashes of a name, and the rest after them. `fuel` bounds their number. -/
def edgeName (flags : Flags) : Nat → List Char → List Char × List Char
  | 0, cs => ([], cs)
  | _ + 1, [] => ([], [])
  | fuel + 1, c :: rest =>
    if c.isAlpha ∨ c = '-' then
      let (name, rest) := edgeName flags fuel (flags.skip rest)
      (c :: name, rest)
    else ([], c :: rest)

/-- The word edge with this name. -/
def namedEdge? (ascii : Bool) (name : List Char) : Option Look :=
  match String.ofList name with
  | "start" => some (.wordStart ascii)
  | "end" => some (.wordEnd ascii)
  | "start-half" => some (.noWordBefore ascii)
  | "end-half" => some (.noWordAfter ascii)
  | _ => none

/-- Reads what follows `\b`. Braces with a name choose a kind of edge; other braces are left for a
repetition. -/
def readEdge? (flags : Flags) (cs : List Char) : Option (Escape × List Char) :=
  let plain := some (Escape.look (.wordEdge (!flags.unicode)), cs)
  match cs with
  | '\x7b' :: inside =>
    match flags.skip inside with
    | [] => none
    | c :: rest =>
      if c.isAlpha ∨ c = '-' then
        match edgeName flags (rest.length + 1) (c :: rest) with
        | (name, '\x7d' :: rest) => (namedEdge? (!flags.unicode) name).map (Escape.look ·, rest)
        | _ => none
      else plain
  | _ => plain

/-- Reads what follows a backslash. A digit, a letter without a meaning and a character beyond ASCII
are refused, and so are `p` and `P`: classes of characters named after a Unicode property are left
out. -/
def readEscape? (flags : Flags) : List Char → Option (Escape × List Char)
  | [] => none
  | c :: rest =>
    let ascii := !flags.unicode
    match c with
    | 'x' => (hexChar? flags 2 rest).map fun (c, rest) => (.char c, rest)
    | 'u' => (hexChar? flags 4 rest).map fun (c, rest) => (.char c, rest)
    | 'U' => (hexChar? flags 8 rest).map fun (c, rest) => (.char c, rest)
    | 'd' => some (.property .digit false, rest)
    | 'D' => some (.property .digit true, rest)
    | 's' => some (.property .space false, rest)
    | 'S' => some (.property .space true, rest)
    | 'w' => some (.property .word false, rest)
    | 'W' => some (.property .word true, rest)
    | 'a' => some (.char '\x07', rest)
    | 'f' => some (.char '\x0c', rest)
    | 't' => some (.char '\t', rest)
    | 'n' => some (.char '\n', rest)
    | 'r' => some (.char '\r', rest)
    | 'v' => some (.char '\x0b', rest)
    | 'A' => some (.look .textStart, rest)
    | 'z' => some (.look .textEnd, rest)
    | 'b' => readEdge? flags rest
    | 'B' => some (.look (.noWordEdge ascii), rest)
    | '<' => some (.look (.wordStart ascii), rest)
    | '>' => some (.look (.wordEnd ascii), rest)
    | c => if c.isAlphanum ∨ 128 ≤ c.toNat then none else some (.char c, rest)

end Highlighter.Pattern
