-- What the patterns of the standard engine take, said without the search: which places the text of a
-- pattern leads to, by its structure alone. A search finds no other place.
import Highlighter.Proofs.Matches
import Mathlib.Logic.Relation

namespace Highlighter

namespace Pattern

/-! ## What a pattern takes -/

/-- The pattern can take the text from one place to another. -/
def Takes : Pattern → Place → Place → Prop
  | empty, p, q => q = p
  | one set, p, q => ∃ c rest, p.rest = c :: rest ∧ set.mem c = true ∧ q = p.after c rest
  | look l, p, q => l.holds p = true ∧ q = p
  | seq a b, p, r => ∃ q, a.Takes p q ∧ b.Takes q r
  | branch _ a b, p, q => a.Takes p q ∨ b.Takes p q
  | rounds _ _ a, p, q => Relation.TransGen a.Takes p q
  | anyRounds _ _ a, p, q => Relation.ReflTransGen a.Takes p q

/-- Some set of the pattern has the character. -/
def mayTake (c : Char) : Pattern → Bool
  | empty | look _ => false
  | one set => set.mem c
  | seq a b | branch _ a b => a.mayTake c || b.mayTake c
  | rounds _ _ a | anyRounds _ _ a => a.mayTake c

/-- Characters that the pattern may take lead from one place to the other. -/
def Spells (a : Pattern) (p q : Place) : Prop :=
  ∃ cs, p.Leads cs q ∧ ∀ c ∈ cs, a.mayTake c = true

section

variable {a b : Pattern} {p q r : Place}

theorem Spells.refl (a : Pattern) (p : Place) : a.Spells p p :=
  ⟨[], Place.Leads.refl p, by simp⟩

theorem Spells.trans (h1 : a.Spells p q) (h2 : a.Spells q r) : a.Spells p r := by
  obtain ⟨cs, hcs, hall⟩ := h1
  obtain ⟨ds, hds, hall'⟩ := h2
  refine ⟨cs ++ ds, hcs.trans hds, fun c hc => ?_⟩
  rcases List.mem_append.1 hc with hc | hc
  · exact hall c hc
  · exact hall' c hc

theorem Spells.mono (h : a.Spells p q) (hab : ∀ c, a.mayTake c = true → b.mayTake c = true) :
    b.Spells p q := by
  obtain ⟨cs, hcs, hall⟩ := h
  exact ⟨cs, hcs, fun c hc => hab c (hall c hc)⟩

/-- What is taken is the text from the one place to the other, by characters of the pattern's sets. -/
theorem Takes.spells (h : a.Takes p q) : a.Spells p q := by
  induction a generalizing p q with
  | empty =>
    obtain rfl : q = p := h
    exact Spells.refl _ q
  | one set =>
    obtain ⟨c, rest, hrest, hmem, rfl⟩ := h
    exact ⟨[c], Place.Leads.after hrest, by simpa [mayTake] using hmem⟩
  | look l =>
    obtain ⟨_, rfl⟩ := h
    exact Spells.refl _ q
  | seq a b iha ihb =>
    obtain ⟨r, ha, hb⟩ := h
    have hfirst := (iha ha).mono (b := seq a b) (by simp +contextual [mayTake])
    exact hfirst.trans ((ihb hb).mono (by simp +contextual [mayTake]))
  | branch _ a b iha ihb =>
    rcases h with h | h
    · exact (iha h).mono (by simp +contextual [mayTake])
    · exact (ihb h).mono (by simp +contextual [mayTake])
  | rounds _ _ a ih =>
    induction h with
    | single h => exact ih h
    | tail _ h ihrun => exact ihrun.trans (ih h)
  | anyRounds _ _ a ih =>
    induction h with
    | refl => exact Spells.refl _ p
    | tail _ h ihrun => exact ihrun.trans (ih h)

end

/-! ## A search finds only what the pattern takes -/

theorem allows_takes : Allows Takes where
  empty _ := rfl
  one hrest hmem := ⟨_, _, hrest, hmem, rfl⟩
  look hl := ⟨hl, rfl⟩
  seq ha hb := ⟨_, ha, hb⟩
  first := Or.inl
  second := Or.inr
  rounds ha hmore := Relation.TransGen.head'_iff.2 ⟨_, ha, hmore⟩
  noRound _ _ _ _ := .refl
  round ha hmore := .head ha hmore

/-- A match is one that the pattern can take. -/
theorem takes_of_matchFrom {a : Pattern} {p q : Place} (h : a.matchFrom p = some q) :
    a.Takes p q :=
  allows_takes.of_matchFrom h

theorem matchFrom_eq_ite {a : Pattern} {p q : Place} {test : Prop} [Decidable test]
    (hsome : test → a.matchFrom p = some q)
    (hnot : ¬ test → ∀ q, ¬ a.Takes p q) : a.matchFrom p = if test then some q else none := by
  split
  · exact hsome ‹_›
  · rcases hmatch : a.matchFrom p with _ | q
    · rfl
    · exact absurd (takes_of_matchFrom hmatch) (hnot ‹_› q)

/-! ## What a match begins with -/

/-- The pattern can take nothing. -/
def mayBeEmpty : Pattern → Bool
  | empty | look _ | anyRounds _ _ _ => true
  | one _ => false
  | seq a b => a.mayBeEmpty && b.mayBeEmpty
  | branch _ a b => a.mayBeEmpty || b.mayBeEmpty
  | rounds _ _ a => a.mayBeEmpty

/-- The pattern can take some text that begins with the character. -/
def mayStart (c : Char) : Pattern → Bool
  | empty | look _ => false
  | one set => set.mem c
  | seq a b => a.mayStart c || (a.mayBeEmpty && b.mayStart c)
  | branch _ a b => a.mayStart c || b.mayStart c
  | rounds _ _ a | anyRounds _ _ a => a.mayStart c

/-- A pattern takes nothing, or a text that it may begin with. -/
theorem Takes.begins {a : Pattern} {p q : Place} (h : a.Takes p q) :
    (q = p ∧ a.mayBeEmpty = true) ∨
      ∃ c rest, p.rest = c :: rest ∧ a.mayStart c = true := by
  induction a generalizing p q with
  | empty => exact Or.inl ⟨h, rfl⟩
  | one set =>
    obtain ⟨c, rest, hrest, hmem, _⟩ := h
    exact Or.inr ⟨c, rest, hrest, hmem⟩
  | look l => exact Or.inl ⟨h.2, rfl⟩
  | seq a b iha ihb =>
    obtain ⟨r, ha, hb⟩ := h
    rcases iha ha with ⟨rfl, hempty⟩ | ⟨c, rest, hrest, hstart⟩
    · rcases ihb hb with ⟨rfl, hempty'⟩ | ⟨c, rest, hrest, hstart⟩
      · exact Or.inl ⟨rfl, by simp [mayBeEmpty, hempty, hempty']⟩
      · exact Or.inr ⟨c, rest, hrest, by simp [mayStart, hempty, hstart]⟩
    · exact Or.inr ⟨c, rest, hrest, by simp [mayStart, hstart]⟩
  | branch _ a b iha ihb =>
    rcases h with h | h
    · rcases iha h with ⟨rfl, hempty⟩ | ⟨c, rest, hrest, hstart⟩
      · exact Or.inl ⟨rfl, by simp [mayBeEmpty, hempty]⟩
      · exact Or.inr ⟨c, rest, hrest, by simp [mayStart, hstart]⟩
    · rcases ihb h with ⟨rfl, hempty⟩ | ⟨c, rest, hrest, hstart⟩
      · exact Or.inl ⟨rfl, by simp [mayBeEmpty, hempty]⟩
      · exact Or.inr ⟨c, rest, hrest, by simp [mayStart, hstart]⟩
  | rounds _ _ a ih =>
    induction h using Relation.TransGen.head_induction_on with
    | single h => exact ih h
    | head h _ ihrun =>
      rcases ih h with ⟨rfl, _⟩ | hstart
      · exact ihrun
      · exact Or.inr hstart
  | anyRounds _ _ a ih =>
    induction h using Relation.ReflTransGen.head_induction_on with
    | refl => exact Or.inl ⟨rfl, rfl⟩
    | head h _ ihrun =>
      rcases ih h with ⟨rfl, _⟩ | hstart
      · exact ihrun
      · exact Or.inr hstart

/-- A pattern takes no text that begins with a character with which it cannot start. -/
theorem not_takes_of_start {a : Pattern} {p : Place} {c : Char} {rest : List Char}
    (h : p.rest = c :: rest) (hempty : a.mayBeEmpty = false) (hc : a.mayStart c = false)
    (q : Place) : ¬ a.Takes p q := by
  intro htakes
  rcases htakes.begins with ⟨_, hmay⟩ | ⟨d, rest', hrest, hmay⟩
  · rw [hempty] at hmay
    cases hmay
  · rw [h] at hrest
    cases hrest
    rw [hc] at hmay
    cases hmay

/-! ## Patterns of one or two characters -/

theorem matchFrom_one {set : CharSet} {p : Place} {c : Char} {rest : List Char}
    (h : p.rest = c :: rest) :
    (one set).matchFrom p = if set.mem c = true then some (p.after c rest) else none := by
  have hplain : (one set).roundsAsk (fun l => !l.looksBehind (some '\r')) = false := rfl
  unfold matchFrom searchFrom
  rw [hplain]
  simp only [Bool.false_eq_true, if_false, search, Point.start, h]
  split <;> rfl

theorem matchFrom_two {first second : CharSet} {p : Place} {c d : Char} {rest : List Char}
    (h : p.rest = c :: d :: rest) (hc : first.mem c = true) (hd : second.mem d = true) :
    (seq (one first) (one second)).matchFrom p =
      some ((p.after c (d :: rest)).after d rest) := by
  have hplain : (seq (one first) (one second)).roundsAsk
      (fun l => !l.looksBehind (some '\r')) = false := rfl
  unfold matchFrom searchFrom
  rw [hplain]
  simp [search, Point.start, Point.after, Place.after, h, hc, hd]

/-- Two characters one after the other lead to the place after both. -/
theorem takes_two {c d : Char} {p q : Place}
    (h : (seq (one (.single c)) (one (.single d))).Takes p q) :
    ∃ rest, p.rest = c :: d :: rest ∧ q = (p.after c (d :: rest)).after d rest := by
  obtain ⟨r, ⟨c', more, hmore, hc, rfl⟩, ⟨d', rest, hrest, hd, rfl⟩⟩ := h
  have hmore' : more = d' :: rest := hrest
  rw [CharSet.mem_single] at hc hd
  subst hmore' hc hd
  exact ⟨rest, hmore, rfl⟩

end Pattern

/-! ## Rules of the standard engine -/

theorem ReadyRule.takes?_of_not_takes {rule : ReadyRule} {a : Pattern} {p : Place}
    (hrule : rule.matcher = a.matcher) (h : ∀ q, ¬ a.Takes p q) : rule.takes? p = none := by
  rcases ht : rule.takes? p with _ | q
  · rfl
  · have hmatch := (takes?_eq_some.1 ht).1
    rw [hrule] at hmatch
    exact absurd (Pattern.takes_of_matchFrom hmatch) (h q)

theorem ReadyRule.takes?_eq_ite {r : ReadyRule} {a : Pattern} {p q : Place} {test : Prop}
    [Decidable test] (hrule : r.matcher = a.matcher)
    (hmatch : a.matchFrom p = if test then some q else none)
    (hlt : test → p.offset < q.offset) : r.takes? p = if test then some q else none := by
  unfold ReadyRule.takes?
  rw [hrule, Pattern.stop?_matcher, hmatch]
  by_cases htest : test
  · simp [htest, hlt htest]
  · simp [htest]

end Highlighter
