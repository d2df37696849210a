-- Maps between upper and lower case, kept as runs: characters at equal steps that move by one shift.
namespace Highlighter.Text

/-- The characters `first`, `first + step`, … up to `last`, each moved by `shift`. -/
structure CaseRun where
  first : Nat
  last : Nat
  step : Nat
  shift : Int

namespace CaseRun

/-- The run covers a code point. -/
def covers (run : CaseRun) (code : Nat) : Bool :=
  decide (run.first ≤ code) && decide (code ≤ run.last) && (code - run.first) % run.step == 0

/-- The code points that the run covers, each with the one that it is taken to. -/
def pairs (run : CaseRun) : List (Nat × Nat) :=
  (List.range ((run.last - run.first) / run.step + 1)).map fun i =>
    let code := run.first + i * run.step
    (code, (code + run.shift).toNat)

/-- Where the run takes a character. -/
def image? (run : CaseRun) (c : Char) : Option Char :=
  if run.covers c.toNat then some (Char.ofNat (c.toNat + run.shift).toNat) else none

/-- The character that the run takes to `c`. -/
def source? (run : CaseRun) (c : Char) : Option Char :=
  let code := (c.toNat - run.shift).toNat
  if run.covers code then some (Char.ofNat code) else none

end CaseRun

end Highlighter.Text
