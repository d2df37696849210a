-- What a search has tried: branches, each at a point that is given by a number.
namespace Highlighter

/-- What a search has tried. -/
structure Tried where
  /-- The marks of the branches that have been tried, by the numbers of their points. -/
  marks : Array (List Nat)
  /-- A place before a character beyond ASCII has been reached. -/
  wide : Bool

namespace Tried

/-- Nothing has been tried. -/
def none : Tried := ⟨#[], false⟩

/-- The marks of the branches that have been tried at a point. -/
def marksAt (t : Tried) (point : Nat) : List Nat := t.marks[point]?.getD []

/-- The branch with a mark has been tried at the point. -/
def contains (t : Tried) (mark point : Nat) : Bool := (t.marksAt point).contains mark

/-- The branch is tried at the point, too. -/
def insert (t : Tried) (mark point : Nat) : Tried :=
  let marks :=
    if h : point < t.marks.size then t.marks.set point (mark :: t.marks[point])
    else (t.marks ++ Array.replicate (point - t.marks.size) []).push [mark]
  { t with marks := marks }

/-- The place before a text is reached, too. -/
def reach (t : Tried) : List Char → Tried
  | [] => t
  | c :: _ => if 128 ≤ c.toNat then { t with wide := true } else t

@[simp]
theorem contains_none (mark point : Nat) : none.contains mark point = false := by
  simp [contains, marksAt, none]

theorem marksAt_insert (t : Tried) (m p point : Nat) :
    (t.insert m p).marksAt point = if point = p then m :: t.marksAt p else t.marksAt point := by
  unfold insert marksAt
  by_cases h : p < t.marks.size <;> grind

/-- Trying a branch at a point adds just that. -/
@[simp]
theorem contains_insert (t : Tried) (m p mark point : Nat) :
    (t.insert m p).contains mark point = ((mark == m && point == p) || t.contains mark point) := by
  unfold contains
  grind [marksAt_insert]

/-- Reaching a place tries no branch. -/
@[simp]
theorem contains_reach (t : Tried) (rest : List Char) (mark point : Nat) :
    (t.reach rest).contains mark point = t.contains mark point := by
  cases rest with
  | nil => rfl
  | cons c rest => by_cases h : 128 ≤ c.toNat <;> simp [reach, contains, marksAt, h]

end Tried

end Highlighter
