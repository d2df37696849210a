-- Finite maps from categories. Two maps are equal when they answer alike, in whatever order their
-- entries came.
import Highlighter.Kind

namespace Highlighter

/-- A map from categories: what it holds for each, if anything. -/
@[ext]
structure KindMap (α : Type) where
  get? : Kind → Option α

namespace KindMap

variable {α : Type}

/-- The map that holds nothing. -/
def empty : KindMap α := ⟨fun _ => none⟩

/-- The map with an entry that replaces the former one of its category. -/
def insert (m : KindMap α) (k : Kind) (a : α) : KindMap α :=
  ⟨fun j => if j = k then some a else m.get? j⟩

/-- There is an entry for the category. -/
def contains (m : KindMap α) (k : Kind) : Bool := (m.get? k).isSome

/-- The entries in the order of the categories. -/
def toList (m : KindMap α) : List (Kind × α) :=
  Kind.all.filterMap fun k => (m.get? k).map (k, ·)

@[simp]
theorem get?_empty (k : Kind) : (empty : KindMap α).get? k = none := rfl

theorem get?_insert (m : KindMap α) (k j : Kind) (a : α) :
    (m.insert k a).get? j = if j = k then some a else m.get? j := rfl

theorem mem_toList {m : KindMap α} {k : Kind} {a : α} :
    (k, a) ∈ m.toList ↔ m.get? k = some a := by
  simp only [toList, List.mem_filterMap, Option.map_eq_some_iff, Prod.mk.injEq]
  exact ⟨fun ⟨_, _, _, h, hk, ha⟩ => hk ▸ ha ▸ h, fun h => ⟨k, Kind.mem_all k, a, h, rfl, rfl⟩⟩

end KindMap

end Highlighter
