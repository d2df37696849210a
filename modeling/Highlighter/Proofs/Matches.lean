-- What matchers take and which rule wins. A match of any engine ends in the text, at a character. A
-- rule takes the text of its match unless that is empty, and the first rule of a state that takes some
-- text wins.
import Highlighter.Lexer.Basic
import Highlighter.Proofs.Places

namespace Highlighter

/-! ## What a rule takes -/

theorem Matcher.leads {m : Matcher} {p q : Place} (h : m.stop? p = some q) :
    ∃ cs, p.Leads cs q := by
  obtain ⟨n, rfl⟩ := m.forward h
  exact Place.leads_forward p n

/-- A rule takes the text of its match, unless that is empty. -/
theorem ReadyRule.takes?_eq_some {rule : ReadyRule} {p q : Place} :
    rule.takes? p = some q ↔ rule.matcher.stop? p = some q ∧ p.offset < q.offset := by
  unfold ReadyRule.takes?
  rw [Option.filter_eq_some_iff, decide_eq_true_eq]

theorem ReadyRule.leads_of_takes? {rule : ReadyRule} {p q : Place} (h : rule.takes? p = some q) :
    ∃ cs, cs ≠ [] ∧ p.Leads cs q := by
  obtain ⟨hmatch, hlt⟩ := ReadyRule.takes?_eq_some.1 h
  obtain ⟨cs, hcs⟩ := Matcher.leads hmatch
  refine ⟨cs, ?_, hcs⟩
  rintro rfl
  have := hcs.offset
  simp at this
  omega

/-- A match of some text is taken. -/
theorem ReadyRule.takes?_of_match {rule : ReadyRule} {p q : Place} {cs : List Char}
    (h : rule.matcher.stop? p = some q) (hlead : p.Leads cs q) (hne : cs ≠ []) :
    rule.takes? p = some q :=
  takes?_eq_some.2 ⟨h, hlead.offset_lt hne⟩

/-! ## Which rule wins -/

/-- The winning rule stands in the state under its number, and it takes the text of its match. -/
theorem ReadyState.winner?_spec {s : ReadyState} {p : Place} {w : Win}
    (h : s.winner? p = some w) :
    s.rules[w.index]? = some w.rule ∧ w.rule.takes? p = some w.stop := by
  unfold ReadyState.winner? at h
  obtain ⟨⟨rule, index⟩, hmem, hw⟩ := List.exists_of_findSome?_eq_some h
  obtain ⟨q, hq, rfl⟩ := Option.map_eq_some_iff.1 hw
  exact ⟨List.mem_zipIdx_iff_getElem?.1 hmem, hq⟩

/-- A rule wins if it takes some text and none before it does. -/
theorem ReadyState.winner?_eq {s : ReadyState} {p q : Place} {i : Nat} {rule : ReadyRule}
    (hrule : s.rules[i]? = some rule) (htakes : rule.takes? p = some q)
    (hbefore : ∀ r ∈ s.rules.take i, r.takes? p = none) : s.winner? p = some ⟨i, rule, q⟩ := by
  obtain ⟨hi, hget⟩ := List.getElem?_eq_some_iff.1 hrule
  have hsplit : s.rules = s.rules.take i ++ rule :: s.rules.drop (i + 1) := by
    rw [← hget, List.getElem_cons_drop, List.take_append_drop]
  have hlength : (s.rules.take i).length = i := List.length_take_of_le (Nat.le_of_lt hi)
  unfold ReadyState.winner?
  rw [hsplit, List.zipIdx_append, List.findSome?_append, List.zipIdx_cons]
  -- No rule before finds a place, so the rule itself decides.
  refine (congrArg (Option.or · _) (List.findSome?_eq_none_iff.2 ?_)).trans ?_
  · rintro ⟨r, j⟩ hmem
    have hr := hbefore r (List.mem_of_getElem? (List.mem_zipIdx_iff_getElem?.1 hmem))
    simp [hr]
  · simp [htakes, hlength]

/-- The winning rule is the first one that takes some text. -/
theorem ReadyState.winner?_eq_some {s : ReadyState} {p : Place} {w : Win} :
    s.winner? p = some w ↔ s.rules[w.index]? = some w.rule ∧ w.rule.takes? p = some w.stop ∧
      ∀ i r, i < w.index → s.rules[i]? = some r → r.takes? p = none := by
  constructor
  · intro h
    obtain ⟨hrule, htakes⟩ := winner?_spec h
    refine ⟨hrule, htakes, ?_⟩
    unfold winner? at h
    obtain ⟨_, ⟨rule, index⟩, _, hsplit, hw, hbefore⟩ := List.findSome?_eq_some_iff.1 h
    obtain ⟨before, after, hrules, rfl, hafter⟩ := List.zipIdx_eq_append_iff.1 hsplit
    obtain ⟨rest, rfl, rfl⟩ : ∃ rest, after = rule :: rest ∧ before.length = index := by
      cases after with
      | nil => cases hafter
      | cons r rest =>
        rw [List.zipIdx_cons] at hafter
        cases hafter
        exact ⟨rest, rfl, (Nat.zero_add _).symm⟩
    obtain ⟨q, hq, rfl⟩ := Option.map_eq_some_iff.1 hw
    intro i r hi hr
    rw [hrules, List.getElem?_append_left hi] at hr
    have hnone := hbefore (r, i) (List.mem_zipIdx_iff_getElem?.2 hr)
    simpa using hnone
  · rintro ⟨hrule, htakes, hbefore⟩
    refine winner?_eq hrule htakes fun r hr => ?_
    obtain ⟨i, hi, hget⟩ := List.mem_take_iff_getElem.1 hr
    exact hbefore i r (by omega) (List.getElem?_eq_some_iff.2 ⟨by omega, hget⟩)

end Highlighter
