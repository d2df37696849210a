-- What the refusal of a lexer means. Names and aliases share one table, so a name may be refused where no
-- lexer has it: another lexer has it as an alias. Apart from that, a refusal means that a lexer of the
-- same name is there, and after each registration the name leads to such a lexer.
import Highlighter.Proofs.RegistryGrowth
import Highlighter.Proofs.Tables

namespace Highlighter

/-- The two lexers have the same name, whatever the case. -/
def Lexer.Namesake (a l : Lexer) : Prop := Registry.key a.info.name = Registry.key l.info.name

/-- The lexer has the name of the other one among its aliases, whatever the case. -/
def Lexer.Borrows (a l : Lexer) : Prop :=
  ∃ alias_ ∈ a.info.aliases, Registry.key alias_ = Registry.key l.info.name

theorem Lexer.goesBy_iff {a l : Lexer} :
    a.goesBy (Registry.key l.info.name) = true ↔ a.Namesake l ∨ a.Borrows l := by
  simp [goesBy, Namesake, Borrows]

namespace Registry

variable {r : Registry} {l : Lexer} {known calls : List Lexer}

/-! ## What is promised -/

/-- The registration of a lexer keeps its promise: the lexer is refused only if a lexer of its name is
known, and afterwards the name leads to a lexer of that name. -/
structure KeepsPromise (r : Registry) (known : List Lexer) (l : Lexer) : Prop where
  refusal : (r.register l).added = false → ∃ a ∈ known, a.Namesake l
  found : ∃ a, (r.register l).registry.byName? l.info.name = some a ∧ a.Namesake l

/-- The name of a lexer is known as an alias, and not as a name. -/
structure ShutOut (known : List Lexer) (l : Lexer) : Prop where
  borrowed : ∃ a ∈ known, a.Borrows l
  unnamed : ∀ a ∈ known, ¬ a.Namesake l

/-! ## Refusals -/

theorem Knows.refused_iff (h : Knows r known) :
    (r.register l).added = false ↔ ∃ a ∈ known, a.Namesake l ∨ a.Borrows l := by
  rw [← Bool.not_eq_true, h.added_iff]
  simp [← Lexer.goesBy_iff]

/-- A name of a known lexer leads to it, whatever the case. -/
theorem Knows.byName?_namesake (h : Knows r known) {a : Lexer} (ha : a ∈ known)
    (hname : a.Namesake l) : r.byName? l.info.name = some a := by
  rw [← h.byName?_own ha, h.byName?_eq, h.byName?_eq, hname]

theorem Knows.keepsPromise_iff (h : Knows r known) : KeepsPromise r known l ↔ ¬ ShutOut known l := by
  constructor
  · rintro hkeeps ⟨⟨a, ha, hborrows⟩, hunnamed⟩
    obtain ⟨b, hb, hname⟩ := hkeeps.refusal (h.refused_iff.2 ⟨a, ha, .inr hborrows⟩)
    exact hunnamed b hb hname
  · intro hopen
    have hrefusal : (r.register l).added = false → ∃ a ∈ known, a.Namesake l := by
      intro hrefused
      obtain ⟨a, ha, hgoes⟩ := h.refused_iff.1 hrefused
      by_contra hnone
      have hunnamed : ∀ b ∈ known, ¬ b.Namesake l := fun b hb hname => hnone ⟨b, hb, hname⟩
      exact hopen ⟨⟨a, ha, hgoes.resolve_left (hunnamed a ha)⟩, hunnamed⟩
    refine ⟨hrefusal, ?_⟩
    cases hadded : (r.register l).added with
    | true => exact ⟨l, (h.add hadded).byName?_own (by simp), rfl⟩
    | false =>
      obtain ⟨a, ha, hname⟩ := hrefusal hadded
      rw [register_of_refused hadded]
      exact ⟨a, h.byName?_namesake ha hname, hname⟩

/-- The name of a lexer that is shut out leads to one that has it as an alias. -/
theorem Knows.owner_of_shutOut (h : Knows r known) (hshut : ShutOut known l) :
    ∃ a ∈ known, a.Borrows l ∧ r.byName? l.info.name = some a := by
  obtain ⟨b, hb, hborrows⟩ := hshut.borrowed
  rcases hfound : r.byName? l.info.name with _ | a
  · rw [h.byName?_eq, List.find?_eq_none] at hfound
    exact absurd (Lexer.goesBy_iff.2 (.inr hborrows)) (hfound b hb)
  · rw [h.byName?_eq] at hfound
    have ha := List.mem_of_find?_eq_some hfound
    have hgoes : a.goesBy (key l.info.name) = true := by simpa using List.find?_some hfound
    exact ⟨a, ha, (Lexer.goesBy_iff.1 hgoes).resolve_left (hshut.unnamed a ha), rfl⟩

theorem accepted_sublist (r : Registry) (calls : List Lexer) : (r.accepted calls).Sublist calls := by
  induction calls generalizing r with
  | nil => exact .slnil
  | cons l calls ih =>
    unfold accepted
    split
    · exact (ih _).cons_cons l
    · exact (ih _).cons l

theorem keeps_registerAll (r : Registry) (calls : List Lexer) : Keeps r (r.registerAll calls) := by
  induction calls generalizing r with
  | nil => exact .refl r
  | cons l calls ih => exact (keeps_register r l).trans (ih _)

/-! ## The law -/

/-- What a refusal of a lexer means after registrations in a row. -/
structure RefusalLaws (calls : List Lexer) (l : Lexer) : Prop where
  /-- The promise is kept just if the name is not taken by aliases alone. -/
  kept : KeepsPromise (empty.registerAll calls) (empty.accepted calls) l ↔
    ¬ ShutOut (empty.accepted calls) l
  /-- A lexer that is shut out is refused, and whatever is registered after it, its name leads to one
  that has it as an alias. -/
  lasting : ShutOut (empty.accepted calls) l →
    ((empty.registerAll calls).register l).added = false ∧
    ∃ a ∈ empty.accepted calls, a.Borrows l ∧ ¬ a.Namesake l ∧
      ∀ more, (empty.registerAll (calls ++ l :: more)).byName? l.info.name = some a
  /-- The promise is kept where only its namesakes have the name as an alias. -/
  apart : (∀ a ∈ calls, a.Borrows l → a.Namesake l) →
    KeepsPromise (empty.registerAll calls) (empty.accepted calls) l

/-- A lexer is refused for its name, unless others have the name as an alias and none has it as its
name. -/
theorem only_aliases_shut_lexers_out (calls : List Lexer) (l : Lexer) : RefusalLaws calls l := by
  have h : Knows (empty.registerAll calls) (empty.accepted calls) := knows_empty.registerAll calls
  refine ⟨h.keepsPromise_iff, fun hshut => ?_, fun hapart => ?_⟩
  · obtain ⟨a, ha, hborrows, hfound⟩ := h.owner_of_shutOut hshut
    refine ⟨h.refused_iff.2 ⟨a, ha, .inr hborrows⟩, a, ha, hborrows, hshut.unnamed a ha, fun more => ?_⟩
    rw [registerAll_append]
    exact (keeps_registerAll _ _).byName _ _ hfound
  · rw [h.keepsPromise_iff]
    rintro ⟨⟨a, ha, hborrows⟩, hunnamed⟩
    exact hunnamed a ha (hapart a ((accepted_sublist empty calls).subset ha) hborrows)

/-- A table that makes a token of each character. -/
def characters (name : String) (aliases : List String) : Definition :=
  ⟨⟨name, aliases, [], []⟩, [⟨"root", [⟨"(?s).", .text, .stay⟩]⟩]⟩

theorem builds_characters (name : String) (aliases : List String) :
    ∃ l, Lexer.build .standard (characters name aliases) = .ok l ∧
      l.info = ⟨name, aliases, [], []⟩ := by
  have hread : Pattern.read? "(?s)." = some (.one .any) := by decide +kernel
  have hstate : (RuleState.mk "root" [⟨"(?s).", .text, .stay⟩]).prepare .standard ["root"] =
      .ok ⟨"root", [_]⟩ :=
    RuleState.prepare_eq_ok.2 ⟨rfl, .cons (Rule.prepare_standard rfl hread) .nil⟩
  have hkept : (characters name aliases).Kept := by simp [Definition.Kept, characters]
  exact ⟨⟨_, _⟩, Lexer.build_eq_ok.2 ⟨List.cons_ne_nil _ _, hkept, rfl, .cons hstate .nil⟩, rfl⟩

/-- The lexer `one` has the alias `two`, so a lexer with this name is refused. -/
theorem an_alias_shuts_a_lexer_out : ∃ one two,
    Lexer.build .standard (characters "one" ["two"]) = .ok one ∧
    Lexer.build .standard (characters "two" []) = .ok two ∧ empty.accepted [one] = [one] ∧
    ((empty.registerAll [one]).register two).added = false ∧
    ¬ KeepsPromise (empty.registerAll [one]) (empty.accepted [one]) two := by
  obtain ⟨one, hone, hinfo⟩ := builds_characters "one" ["two"]
  obtain ⟨two, htwo, hinfo'⟩ := builds_characters "two" []
  have haccepted : empty.accepted [one] = [one] := by rfl
  have h : Knows (empty.registerAll [one]) (empty.accepted [one]) := knows_empty.registerAll [one]
  have hborrows : one.Borrows two := by
    refine ⟨"two", by simp [hinfo], by simp [hinfo']⟩
  have hunnamed : ¬ one.Namesake two := by
    rw [Lexer.Namesake, hinfo, hinfo']
    decide +kernel
  refine ⟨one, two, hone, htwo, haccepted, ?_, ?_⟩
  · rw [h.refused_iff, haccepted]
    exact ⟨one, by simp, .inr hborrows⟩
  · rw [h.keepsPromise_iff, haccepted, not_not]
    exact ⟨⟨one, by simp, hborrows⟩, by simpa using hunnamed⟩

end Registry

end Highlighter
