-- The order of the categories and their names. A category is read from its dotted name, with or without
-- one leading qualifier, and from no other text. A search through the entries of a map meets them in
-- the order of the categories.
import Highlighter.KindMap

namespace Highlighter

namespace Kind

/-! ## The order -/

theorem pairwise_rank : all.Pairwise fun j k => j.rank < k.rank := by decide

/-- What stands before a category in the order of all categories. -/
theorem mem_before_iff {before after : List Kind} {j k : Kind} (h : all = before ++ k :: after) :
    j ∈ before ↔ j.rank < k.rank := by
  have hpairs := pairwise_rank
  rw [h, List.pairwise_append, List.pairwise_cons] at hpairs
  obtain ⟨_, ⟨hafter, _⟩, hbefore⟩ := hpairs
  constructor
  · intro hj
    exact hbefore j hj k List.mem_cons_self
  · intro hlt
    have hj := mem_all j
    rw [h, List.mem_append, List.mem_cons] at hj
    rcases hj with hj | rfl | hj
    · exact hj
    · exact absurd hlt (Nat.lt_irrefl _)
    · have hgt := hafter j hj
      omega

end Kind

/-- The first entry that a function is defined on is that of the least category. -/
theorem KindMap.findSome?_toList {α β : Type} {m : KindMap α} {f : α → Option β} {b : β} :
    (m.toList.map (·.2)).findSome? f = some b ↔
      ∃ k, (m.get? k).bind f = some b ∧ ∀ j, j.rank < k.rank → (m.get? j).bind f = none := by
  have hfind : (m.toList.map (·.2)).findSome? f = Kind.all.findSome? fun k => (m.get? k).bind f := by
    unfold toList
    induction Kind.all with
    | nil => rfl
    | cons k ks ih =>
      rw [List.filterMap_cons, List.findSome?_cons]
      cases hk : m.get? k <;> simp [ih, List.findSome?_cons]
  rw [hfind, List.findSome?_eq_some_iff]
  constructor
  · rintro ⟨before, k, after, hall, hk, hbefore⟩
    refine ⟨k, hk, fun j hj => hbefore j ?_⟩
    rwa [Kind.mem_before_iff hall]
  · rintro ⟨k, hk, hbefore⟩
    obtain ⟨before, after, hall⟩ := List.append_of_mem (Kind.mem_all k)
    refine ⟨before, k, after, hall, hk, fun j hj => hbefore j ?_⟩
    rwa [← Kind.mem_before_iff hall]

/-! ## Names -/

namespace Kind

/-- The text is a name of the category. -/
def Named (name : String) (k : Kind) : Prop := name = k.dotted ∨ name = qualifier ++ k.dotted

variable {name : String} {k : Kind}

theorem ofDotted?_eq_some : ofDotted? name = some k ↔ name = k.dotted := by
  unfold ofDotted?
  constructor
  · intro h
    have hname := List.find?_some h
    rw [beq_iff_eq] at hname
    exact hname.symm
  · rintro rfl
    cases k <;> decide

theorem dotted_inj {j k : Kind} : j.dotted = k.dotted ↔ j = k := by
  rw [← ofDotted?_eq_some, ofDotted?_eq_some.2 rfl, Option.some.injEq]

/-- No dotted name starts with the qualifier. -/
theorem not_qualified (k : Kind) : qualifier.toList.isPrefixOf k.dotted.toList = false := by
  cases k <;> decide

theorem unqualified_dotted (k : Kind) : unqualified k.dotted = k.dotted := by
  unfold unqualified
  rw [not_qualified]
  rfl

theorem unqualified_append (name : String) : unqualified (qualifier ++ name) = name := by
  unfold unqualified
  rw [String.toList_append, List.isPrefixOf_iff_prefix.2 (List.prefix_append _ _), if_pos rfl,
    List.drop_left, String.ofList_toList]

theorem eq_or_eq_unqualified (name : String) :
    name = unqualified name ∨ name = qualifier ++ unqualified name := by
  unfold unqualified
  by_cases hprefix : qualifier.toList.isPrefixOf name.toList = true
  · right
    obtain ⟨rest, hrest⟩ := List.isPrefixOf_iff_prefix.1 hprefix
    rw [if_pos hprefix, ← hrest, List.drop_left]
    apply String.toList_injective
    simp [← hrest]
  · left
    rw [if_neg hprefix]

theorem read?_eq_some : read? name = some k ↔ Named name k := by
  unfold read? Named
  rw [ofDotted?_eq_some]
  constructor
  · intro h
    rw [← h]
    exact eq_or_eq_unqualified name
  · rintro (rfl | rfl)
    · exact unqualified_dotted k
    · exact unqualified_append k.dotted

theorem read_eq_ok : read name = .ok k ↔ Named name k := by
  rw [← read?_eq_some]
  unfold read
  cases read? name <;> simp

theorem read_eq_error {e : UnknownKind} :
    read name = .error e ↔ (∀ k, ¬ Named name k) ∧ e = ⟨name⟩ := by
  simp only [← read?_eq_some]
  unfold read
  cases read? name <;> simp [eq_comm]

end Kind

end Highlighter
