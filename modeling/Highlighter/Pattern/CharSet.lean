-- Sets of characters as spans of code points, in ascending order, that neither overlap nor touch. A
-- set has only this form, so that sets with the same members are equal.
import Highlighter.Text.Digit
import Highlighter.Text.Fold
import Highlighter.Text.Space
import Highlighter.Text.Word

namespace Highlighter

/-- A property of characters that a pattern can name by one letter. -/
inductive CharProperty where
  | digit
  | space
  | word
  deriving DecidableEq

/-- A set of characters. -/
structure CharSet where
  /-- Spans of code points, both ends included. -/
  spans : List (Nat × Nat)
  deriving DecidableEq

namespace CharSet

/-- Membership of a character. -/
def mem (set : CharSet) (c : Char) : Bool := Text.inSpans set.spans c

/-- No character. -/
def none : CharSet := ⟨[]⟩

/-- The largest code point. -/
def lastCode : Nat := 0x10FFFF

/-- All characters. -/
def any : CharSet := ⟨[(0, lastCode)]⟩

/-- The characters from the first to the last, both included. -/
def span (first last : Char) : CharSet := ⟨[(first.toNat, last.toNat)]⟩

/-- The set of one character. -/
def single (c : Char) : CharSet := span c c

/-- The only member of a set. -/
def only? (set : CharSet) : Option Char :=
  match set.spans with
  | [(first, last)] => if first = last then some (Char.ofNat first) else Option.none
  | _ => Option.none

/-- The spans between these characters, which must be in ascending order and apart. -/
def ofSpans (ends : List (Char × Char)) : CharSet :=
  ⟨ends.map fun span => (span.1.toNat, span.2.toNat)⟩

theorem mem_single {c d : Char} : (single c).mem d = true ↔ d = c := by
  simp only [mem, single, span, Text.inSpans, Text.covers, List.any_cons, List.any_nil,
    Bool.or_false, Bool.and_eq_true, decide_eq_true_eq]
  exact ⟨fun h => Char.toNat_inj.1 (Nat.le_antisymm h.2 h.1),
    fun h => h ▸ ⟨Nat.le_refl _, Nat.le_refl _⟩⟩

/-! ## Union -/

/-- Two lists of spans in one, ordered by where the spans begin. -/
def interleave : List (Nat × Nat) → List (Nat × Nat) → List (Nat × Nat)
  | [], b => b
  | s :: a, b => b.takeWhile (·.1 < s.1) ++ s :: interleave a (b.dropWhile (·.1 < s.1))

/-- Joins a span with those after it that overlap or touch it, and so on. -/
def joinTouching : Nat × Nat → List (Nat × Nat) → List (Nat × Nat)
  | s, [] => [s]
  | s, t :: rest =>
    if t.1 ≤ s.2 + 1 then joinTouching (s.1, max s.2 t.2) rest else s :: joinTouching t rest

/-- The members of either set. -/
def union (a b : CharSet) : CharSet :=
  match interleave a.spans b.spans with
  | [] => none
  | s :: rest => ⟨joinTouching s rest⟩

/-- The union of a list of sets. -/
def unionAll (sets : List CharSet) : CharSet := sets.foldl union none

/-- The set of some characters. -/
def ofChars (cs : List Char) : CharSet := unionAll (cs.map single)

/-! ## Intersection, complement and difference -/

/-- The members of both sets. -/
def inter (a b : CharSet) : CharSet :=
  ⟨a.spans.flatMap fun s =>
    (b.spans.filter fun t => decide (t.1 ≤ s.2) && decide (s.1 ≤ t.2)).map fun t =>
      (max s.1 t.1, min s.2 t.2)⟩

/-- The code point before; surrogates are no characters. -/
def before (code : Nat) : Nat := if code = 0xE000 then 0xD7FF else code - 1

/-- The code point after; surrogates are no characters. -/
def after (code : Nat) : Nat := if code = 0xD7FF then 0xE000 else code + 1

/-- The spans after the code point `last` and between some spans. Spans that only the surrogates keep
apart have no character between them; the two characters at these ends are given in this case. -/
def gaps : Nat → List (Nat × Nat) → List (Nat × Nat)
  | last, [] => if last < lastCode then [(after last, lastCode)] else []
  | last, s :: rest =>
    (min (after last) (before s.1), max (after last) (before s.1)) :: gaps s.2 rest

/-- The characters that are not in the set. -/
def compl (set : CharSet) : CharSet :=
  match set.spans with
  | [] => any
  | s :: rest => ⟨(if 0 < s.1 then [(0, before s.1)] else []) ++ gaps s.2 rest⟩

theorem toNat_le_lastCode (c : Char) : c.toNat ≤ lastCode := by
  have hvalid : c.toNat.isValidChar := c.valid
  unfold Nat.isValidChar at hvalid
  unfold lastCode
  omega

theorem mem_any (c : Char) : any.mem c = true := by
  simp [any, mem, Text.inSpans, Text.covers, toNat_le_lastCode]

/-- All characters but one, which stands neither at an end of the code points nor at the surrogates. -/
theorem mem_compl_single {c d : Char} (hlow : 0 < d.toNat) (hhigh : d.toNat < 0xD7FF) :
    (single d).compl.mem c = true ↔ c ≠ d := by
  have hlast := toNat_le_lastCode c
  have heq : c = d ↔ c.toNat = d.toNat := Char.toNat_inj.symm
  have hbefore : before d.toNat = d.toNat - 1 := if_neg (by omega)
  have hafter : after d.toNat = d.toNat + 1 := if_neg (by omega)
  have hinside : d.toNat < lastCode := Nat.lt_trans hhigh (by decide)
  simp only [single, span, compl, gaps, mem, Text.inSpans, Text.covers, hbefore, hafter, hlow,
    hinside, if_true, List.cons_append, List.nil_append, List.any_cons, List.any_nil,
    Bool.or_false, Bool.or_eq_true, Bool.and_eq_true, decide_eq_true_eq, ne_eq, heq]
  omega

/-- What is left of the code points from `first` to `last` without some spans. -/
def cut (last : Nat) : Nat → List (Nat × Nat) → List (Nat × Nat)
  | first, [] => [(first, last)]
  | first, s :: rest =>
    if s.2 < first then cut last first rest
    else if last < s.1 then [(first, last)]
    else
      (if first < s.1 then [(first, before s.1)] else []) ++
        (if s.2 < last then cut last (after s.2) rest else [])

/-- The members of the first set that are not in the second. -/
def diff (a b : CharSet) : CharSet := ⟨a.spans.flatMap fun s => cut s.2 s.1 b.spans⟩

/-- The members of just one of the two sets. -/
def symmDiff (a b : CharSet) : CharSet := diff (union a b) (inter a b)

/-! ## Case -/

/-- The set with more code points. -/
def withCodes (set : CharSet) (codes : List Nat) : CharSet :=
  codes.foldl (fun set code => if Text.covers set.spans code then set else union set ⟨[(code, code)]⟩)
    set

/-- The characters that fold to the same form as a member: the set with the folded forms, and all that
folds to one of them. -/
def anyCase (set : CharSet) : CharSet :=
  let pairs := Text.foldRuns.flatMap (·.pairs)
  let forms := set.withCodes ((pairs.filter fun p => Text.covers set.spans p.1).map (·.2))
  forms.withCodes ((pairs.filter fun p => Text.covers forms.spans p.2).map (·.1))

/-- The set closed under the case of the ASCII letters only. -/
def anyAsciiCase (set : CharSet) : CharSet :=
  let upper := (inter set (span 'a' 'z')).spans.map fun s => (s.1 - 32, s.2 - 32)
  let lower := (inter set (span 'A' 'Z')).spans.map fun s => (s.1 + 32, s.2 + 32)
  unionAll [set, ⟨upper⟩, ⟨lower⟩]

/-! ## Named sets -/

/-- The ASCII set with this name, as it stands between `[:` and `:]`. -/
def ascii? (name : String) : Option CharSet :=
  match name with
  | "alnum" => some (ofSpans [('0', '9'), ('A', 'Z'), ('a', 'z')])
  | "alpha" => some (ofSpans [('A', 'Z'), ('a', 'z')])
  | "ascii" => some (span '\x00' '\x7f')
  | "blank" => some (ofSpans [('\t', '\t'), (' ', ' ')])
  | "cntrl" => some (ofSpans [('\x00', '\x1f'), ('\x7f', '\x7f')])
  | "digit" => some (span '0' '9')
  | "graph" => some (span '!' '~')
  | "lower" => some (span 'a' 'z')
  | "print" => some (span ' ' '~')
  | "punct" => some (ofSpans [('!', '/'), (':', '@'), ('[', '\x60'), ('\x7b', '~')])
  | "space" => some (ofSpans [('\t', '\r'), (' ', ' ')])
  | "upper" => some (span 'A' 'Z')
  | "word" => some (ofSpans [('0', '9'), ('A', 'Z'), ('_', '_'), ('a', 'z')])
  | "xdigit" => some (ofSpans [('0', '9'), ('A', 'F'), ('a', 'f')])
  | _ => Option.none

/-- The ASCII members of a property. -/
def asciiHaving : CharProperty → CharSet
  | .digit => span '0' '9'
  | .space => ofSpans [('\t', '\r'), (' ', ' ')]
  | .word => ofSpans [('0', '9'), ('A', 'Z'), ('_', '_'), ('a', 'z')]

/-- The characters with a property, over all scripts. -/
def having : CharProperty → CharSet
  | .digit => ⟨(asciiHaving .digit).spans ++ Text.digitSpans⟩
  | .space => ⟨Text.spaceSpans⟩
  | .word => ⟨(asciiHaving .word).spans ++ Text.wordSpans⟩

end CharSet

end Highlighter
