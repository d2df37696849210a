-- The laws of names in a registry. A name leads to the first of the accepted lexers that goes by it,
-- and a lexer is refused just if one of those before goes by its name. So it is after any number of
-- registrations, whatever names and aliases they bring.
import Highlighter.Registry.Basic
import Mathlib.Data.List.Basic

namespace Highlighter

/-- The lexer has a name or an alias with this key. -/
def Lexer.goesBy (l : Lexer) (k : String) : Bool :=
  (l.info.name :: l.info.aliases).any fun name => Registry.key name == k

theorem Lexer.goesBy_name (l : Lexer) : l.goesBy (Registry.key l.info.name) = true := by
  simp [goesBy]

namespace Registry

/-! ## Registrations in a row -/

/-- The registry after registrations one after the other. -/
def registerAll (r : Registry) : List Lexer → Registry
  | [] => r
  | l :: ls => (r.register l).registry.registerAll ls

/-- The lexers that are accepted when they are registered one after the other. -/
def accepted (r : Registry) : List Lexer → List Lexer
  | [] => []
  | l :: ls =>
    if (r.register l).added then l :: (r.register l).registry.accepted ls
    else (r.register l).registry.accepted ls

section

variable {r : Registry} {l : Lexer} {known : List Lexer}

theorem registerAll_append (r : Registry) (ls more : List Lexer) :
    r.registerAll (ls ++ more) = (r.registerAll ls).registerAll more := by
  induction ls generalizing r with
  | nil => rfl
  | cons l ls ih => exact ih (r.register l).registry

theorem accepted_append (r : Registry) (ls more : List Lexer) :
    r.accepted (ls ++ more) = r.accepted ls ++ (r.registerAll ls).accepted more := by
  induction ls generalizing r with
  | nil => rfl
  | cons l ls ih =>
    simp only [List.cons_append, accepted, registerAll, ih]
    split
    · rw [List.cons_append]
    · rfl

/-! ## One registration -/

/-- A claim on a name is good where the name is free. -/
theorem lookup_claim (r : Registry) (lexer : String) (aliases : List String)
    (names : List (String × Nat)) (k : String) :
    (r.claim lexer aliases names).1.lookup k =
      (names.lookup k).or (if aliases.any (key · == k) then some r.entries.length else none) := by
  induction aliases generalizing names with
  | nil => simp [claim]
  | cons alias_ rest ih =>
    unfold claim
    by_cases hk : key alias_ = k
    · subst hk
      rcases hfree : names.lookup (key alias_) with _ | owner
      · simp [ih, List.lookup_append, hfree]
      · simp only
        split <;> simp [ih, hfree]
    · have hne : (k == key alias_) = false := by simpa using Ne.symm hk
      rcases names.lookup (key alias_) with _ | owner
      · simp [ih, List.lookup_append, List.lookup_cons, hne, hk]
      · simp only
        split <;> simp [ih, hk]

theorem mem_claim {lexer : String} {aliases : List String} {names : List (String × Nat)}
    {e : String × Nat} (h : e ∈ (r.claim lexer aliases names).1) :
    e ∈ names ∨ e.2 = r.entries.length := by
  induction aliases generalizing names with
  | nil => exact Or.inl h
  | cons alias_ rest ih =>
    unfold claim at h
    split at h
    · rcases ih h with h | h
      · rcases List.mem_append.1 h with h | h
        · exact Or.inl h
        · exact Or.inr (by rw [List.mem_singleton.1 h])
      · exact Or.inr h
    · simp only at h
      split at h
      · exact ih h
      · exact ih h

theorem added_iff : (r.register l).added = true ↔ r.names.lookup (key l.info.name) = none := by
  rcases hclaimed : r.names.lookup (key l.info.name) with _ | index
  · simp [register, hclaimed]
  · simp [register, hclaimed]

theorem register_of_refused (h : (r.register l).added = false) :
    (r.register l).registry = r := by
  unfold register at h ⊢
  simp only at h ⊢
  split at h
  · rw [if_pos ‹_›]
  · cases h

theorem register_of_added (h : (r.register l).added = true) :
    (r.register l).registry =
      { r with
        entries := r.entries ++ [⟨l, (readGlobs l.info).1⟩]
        names := (r.claim l.info.name (l.info.name :: l.info.aliases) r.names).1 } := by
  have hfree := added_iff.1 h
  unfold register
  simp [hfree]

/-! ## The invariant -/

/-- The registry has accepted these lexers, in this order. Each key leads to the first of them that
goes by it, and none goes by the name of a later one. -/
structure Knows (r : Registry) (known : List Lexer) : Prop where
  lexers : r.entries.map (·.lexer) = known
  first : ∀ k, r.names.lookup k = known.findIdx? (·.goesBy k)
  inRange : ∀ e ∈ r.names, e.2 < r.entries.length
  unclaimed : known.Pairwise fun a b => a.goesBy (key b.info.name) = false

theorem knows_empty : Knows empty [] :=
  ⟨rfl, fun _ => rfl, fun _ he => absurd he List.not_mem_nil, .nil⟩

theorem Knows.added_iff (h : Knows r known) : (r.register l).added = true ↔
    ∀ a ∈ known, a.goesBy (key l.info.name) = false := by
  rw [Registry.added_iff, h.first, List.findIdx?_eq_none_iff]

theorem Knows.add (h : Knows r known) (hadded : (r.register l).added = true) :
    Knows (r.register l).registry (known ++ [l]) := by
  have hlength : r.entries.length = known.length := by rw [← h.lexers, List.length_map]
  rw [register_of_added hadded]
  refine ⟨?_, ?_, ?_, ?_⟩
  · simp [h.lexers]
  · intro k
    rw [lookup_claim, h.first, List.findIdx?_append, hlength]
    simp [Lexer.goesBy, List.findIdx?_cons]
  · intro e he
    rw [List.length_append, List.length_singleton]
    rcases mem_claim he with he | he
    · exact Nat.lt_succ_of_lt (h.inRange e he)
    · exact he ▸ Nat.lt_succ_self _
  · rw [List.pairwise_append]
    refine ⟨h.unclaimed, List.pairwise_singleton _ l, fun a ha b hb => ?_⟩
    rw [List.mem_singleton.1 hb]
    exact h.added_iff.1 hadded a ha

/-- What a registry knows after registrations in a row. -/
theorem Knows.registerAll (h : Knows r known) (ls : List Lexer) :
    Knows (r.registerAll ls) (known ++ r.accepted ls) := by
  induction ls generalizing r known with
  | nil => simpa [accepted, Registry.registerAll] using h
  | cons l ls ih =>
    unfold accepted Registry.registerAll
    split
    · have hnext := ih (h.add ‹_›)
      rwa [List.append_assoc] at hnext
    · rename_i hrefused
      rw [Bool.not_eq_true] at hrefused
      rw [register_of_refused hrefused]
      exact ih h

theorem Knows.byName?_eq (h : Knows r known) (q : String) :
    r.byName? q = known.find? (·.goesBy (key q)) := by
  unfold byName?
  rw [h.first, List.find?_eq_bind_findIdx?_getElem?, ← h.lexers]
  simp only [List.getElem?_map]

/-- A lexer that is known is found by its name. -/
theorem Knows.byName?_own (h : Knows r known) (hl : l ∈ known) :
    r.byName? l.info.name = some l := by
  rw [h.byName?_eq]
  obtain ⟨before, after, rfl⟩ := List.append_of_mem hl
  have hbefore : ∀ a ∈ before, a.goesBy (key l.info.name) = false := fun a ha =>
    (List.pairwise_append.1 h.unclaimed).2.2 a ha l List.mem_cons_self
  rw [List.find?_append, List.find?_eq_none.2 (by simpa using hbefore), Option.none_or]
  exact List.find?_cons_of_pos l.goesBy_name

end

/-! ## The laws -/

/-- The laws of names after registrations in a row, with `r` what they lead to and `known` the lexers
accepted on the way. -/
structure NameLaws (calls : List Lexer) (r : Registry) (known : List Lexer) : Prop where
  /-- One more lexer is accepted just if no lexer accepted before goes by its name. -/
  admits : ∀ l, (r.register l).added = true ↔ ∀ a ∈ known, a.goesBy (key l.info.name) = false
  refused : ∀ l, (r.register l).added = false → (r.register l).registry = r
  /-- A name leads to the first lexer that goes by it. -/
  byName : ∀ q, r.byName? q = known.find? (·.goesBy (key q))
  /-- The number that a name leads to is that of a lexer. -/
  inRange : ∀ e ∈ r.names, e.2 < r.entries.length
  /-- Whatever is registered later, an accepted lexer is found by its name. -/
  own : ∀ l ∈ known, ∀ more, (empty.registerAll (calls ++ more)).byName? l.info.name = some l
  listed : r.lexerNames = known.map (·.info.name)
  counted : r.size = known.length

/-- Registrations of any lexers, from the registry that knows nothing, keep the laws of names. -/
theorem names_lead_to_their_first_claimant (calls : List Lexer) :
    NameLaws calls (empty.registerAll calls) (empty.accepted calls) := by
  have hknows : ∀ ls, Knows (empty.registerAll ls) (empty.accepted ls) :=
    fun ls => knows_empty.registerAll ls
  have h := hknows calls
  refine ⟨fun _ => h.added_iff, fun _ => register_of_refused, h.byName?_eq, h.inRange, ?_, ?_, ?_⟩
  · intro l hl more
    refine (hknows (calls ++ more)).byName?_own ?_
    rw [accepted_append]
    exact List.mem_append_left _ hl
  · rw [← h.lexers, List.map_map]
    rfl
  · rw [← h.lexers, List.length_map]
    rfl

end Registry

end Highlighter
