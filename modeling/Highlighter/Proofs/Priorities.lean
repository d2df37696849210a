-- Which rule wins at an offset of a text: the first one of the state whose match takes some text. A rule
-- whose preferred match is empty is passed over, and nothing wins inside a character or at the end.
import Highlighter.Proofs.Matches
import Highlighter.Proofs.Tables

namespace Highlighter

/-! ## Matches at an offset -/

/-- At the offset `start` of the text, with all of the text around it, the preferred match that the
engine finds for the rule stops at the offset `stop`. -/
def Rule.Matches (engine : Engine) (rule : Rule) (text : String) (start stop : Nat) : Prop :=
  ∃ matcher p q, engine.read rule.pattern = .ok matcher ∧ Place.In text p ∧ p.offset = start ∧
    matcher.stop? p = some q ∧ q.offset = stop

/-- The match is that of the first rule of the state whose match at the offset takes some text. -/
structure RuleState.Chooses (engine : Engine) (s : RuleState) (text : String) (start : Nat)
    (m : RuleMatch) : Prop where
  takes : ∃ rule, s.rules[m.rule]? = some rule ∧ rule.kind = m.kind ∧
    rule.Matches engine text start m.stop ∧ start < m.stop
  least : ∀ i rule stop, s.rules[i]? = some rule → rule.Matches engine text start stop →
    start < stop → m.rule ≤ i

/-- What a winning rule says. -/
def Win.told (w : Win) : RuleMatch := ⟨w.index, w.rule.rule.kind, w.stop.offset⟩

section

variable {engine : Engine} {rule : Rule} {r : ReadyRule} {state : RuleState} {s : ReadyState}
  {text : String} {p : Place} {start stop : Nat} {m : RuleMatch}

/-- A match starts and stops between two characters of the text. -/
theorem Rule.Matches.inside (h : rule.Matches engine text start stop) : stop ≤ text.utf8ByteSize ∧
    String.Pos.Raw.IsValid text ⟨start⟩ ∧ String.Pos.Raw.IsValid text ⟨stop⟩ := by
  obtain ⟨matcher, p, q, _, hp, rfl, hmatch, rfl⟩ := h
  obtain ⟨cs, hcs⟩ := Matcher.leads hmatch
  have hq := hp.leads hcs
  exact ⟨hq.offset_le, hp.isValid, hq.isValid⟩

/-- A ready rule takes the text of its match, unless that is empty. -/
theorem Rule.ReadyAs.matches_iff (h : rule.ReadyAs engine r) (hp : Place.In text p)
    (hlt : p.offset < stop) :
    rule.Matches engine text p.offset stop ↔ ∃ q, r.takes? p = some q ∧ q.offset = stop := by
  simp only [ReadyRule.takes?_eq_some]
  constructor
  · rintro ⟨matcher, p', q, hread, hp', hoff, hmatch, rfl⟩
    obtain rfl := hp.eq_of_offset hp' hoff.symm
    rw [h.read] at hread
    cases hread
    exact ⟨q, ⟨hmatch, hlt⟩, rfl⟩
  · rintro ⟨q, ⟨hmatch, _⟩, rfl⟩
    exact ⟨_, p, q, h.read, hp, rfl, hmatch, rfl⟩

/-- The winning rule of a ready state is the one that the state chooses. -/
theorem RuleState.ReadyAs.chooses_iff (h : state.ReadyAs engine s) (hp : Place.In text p) :
    state.Chooses engine text p.offset m ↔ ∃ w, s.winner? p = some w ∧ w.told = m := by
  simp only [ReadyState.winner?_eq_some]
  constructor
  · rintro ⟨⟨rule, hrule, hkind, hmatch, hlt⟩, hleast⟩
    obtain ⟨r, hr, hready⟩ := getElem?_of_forall₂ h.rules hrule
    obtain ⟨q, hq, hstop⟩ := (hready.matches_iff hp hlt).1 hmatch
    refine ⟨⟨m.rule, r, q⟩, ⟨hr, hq, fun i r' hi hr' => ?_⟩, ?_⟩
    · obtain ⟨rule', hrule', hready'⟩ := getElem?_of_forall₂ (List.Forall₂.flip h.rules) hr'
      by_contra hsome
      obtain ⟨q', hq'⟩ := Option.ne_none_iff_exists'.1 hsome
      have hlt' := (ReadyRule.takes?_eq_some.1 hq').2
      have hmatch' := (hready'.matches_iff hp hlt').2 ⟨q', hq', rfl⟩
      exact absurd (hleast i rule' _ hrule' hmatch' hlt') (Nat.not_le_of_lt hi)
    · unfold Win.told
      rw [hready.same, hkind, hstop]
  · rintro ⟨w, ⟨hr, htakes, hbefore⟩, rfl⟩
    obtain ⟨rule, hrule, hready⟩ := getElem?_of_forall₂ (List.Forall₂.flip h.rules) hr
    have hlt := (ReadyRule.takes?_eq_some.1 htakes).2
    have hmatch := (hready.matches_iff hp hlt).2 ⟨_, htakes, rfl⟩
    refine ⟨⟨rule, hrule, congrArg Rule.kind hready.same.symm, hmatch, hlt⟩, ?_⟩
    intro i rule' stop hrule' hmatch' hlt'
    obtain ⟨r', hr', hready'⟩ := getElem?_of_forall₂ h.rules hrule'
    obtain ⟨q', hq', _⟩ := (hready'.matches_iff hp hlt').1 hmatch'
    by_contra hle
    rw [hbefore i r' (Nat.lt_of_not_le hle) hr'] at hq'
    cases hq'

/-- A state chooses a match between two characters of the text. -/
theorem RuleState.Chooses.inside (h : state.Chooses engine text start m) : start < m.stop ∧
    m.stop ≤ text.utf8ByteSize ∧ String.Pos.Raw.IsValid text ⟨start⟩ ∧
      String.Pos.Raw.IsValid text ⟨m.stop⟩ := by
  obtain ⟨rule, _, _, hmatch, hlt⟩ := h.takes
  exact ⟨hlt, hmatch.inside⟩

end

/-! ## The winning rule by name -/

namespace Lexer

variable {engine : Engine} {d : Definition} {l : Lexer} {name text : String} {start : Nat}
  {m : RuleMatch}

theorem firstMatch?_eq_some : l.firstMatch? name text start = some m ↔
    ∃ s p, l.state? name = some s ∧ Place.In text p ∧ p.offset = start ∧
      ∃ w, s.winner? p = some w ∧ w.told = m := by
  unfold firstMatch?
  simp [Option.bind_eq_some_iff, Place.at?_eq_some, Win.told, and_assoc]

/-- The winning rule is what the first state with the name chooses. -/
theorem firstMatch?_iff (hbuild : build engine d = .ok l) :
    l.firstMatch? name text start = some m ↔
      ∃ s, d.states.find? (·.name == name) = some s ∧ s.Chooses engine text start m := by
  rw [firstMatch?_eq_some]
  constructor
  · rintro ⟨s, p, hs, hp, rfl, hwin⟩
    obtain ⟨state, hstate, hready⟩ := exists_of_state? hbuild hs
    exact ⟨state, hstate, (hready.chooses_iff hp).2 hwin⟩
  · rintro ⟨state, hstate, hchooses⟩
    obtain ⟨s, hs, hready⟩ := state?_of_build hbuild hstate
    obtain ⟨_, _, _, ⟨_, p, _, _, hp, rfl, _⟩, _⟩ := hchooses.takes
    exact ⟨s, p, hs, hp, rfl, (hready.chooses_iff hp).1 hchooses⟩

/-- What is told of a table at an offset of a text. -/
structure Told (engine : Engine) (d : Definition) (l : Lexer) (name text : String) (start : Nat) :
    Prop where
  /-- The winning rule is the first one, in the first state with the name, that takes some text. -/
  chosen : ∀ m, l.firstMatch? name text start = some m ↔
    ∃ s, d.states.find? (·.name == name) = some s ∧ s.Chooses engine text start m
  /-- Its match takes some text, from one boundary between characters to another. -/
  inside : ∀ m, l.firstMatch? name text start = some m → start < m.stop ∧
    m.stop ≤ text.utf8ByteSize ∧ String.Pos.Raw.IsValid text ⟨start⟩ ∧
      String.Pos.Raw.IsValid text ⟨m.stop⟩
  /-- Rules with an empty match are passed over, also where a later rule then wins. -/
  passed : ∀ s i rule stop, d.states.find? (·.name == name) = some s → s.rules[i]? = some rule →
    rule.Matches engine text start stop → start < stop →
    (∀ j r stop', j < i → s.rules[j]? = some r → r.Matches engine text start stop' →
      stop' = start) →
    l.firstMatch? name text start = some ⟨i, rule.kind, stop⟩
  /-- Nothing wins at the end of the text, past it or inside a character. -/
  outside : text.utf8ByteSize ≤ start ∨ ¬ String.Pos.Raw.IsValid text ⟨start⟩ →
    l.firstMatch? name text start = none

/-- With any engine, in every state of an accepted rule table, at every offset of every text, the first
rule wins that takes some text. -/
theorem the_first_rule_that_takes_text_wins (hbuild : build engine d = .ok l) (name text : String)
    (start : Nat) : Told engine d l name text start := by
  have hinside : ∀ m, l.firstMatch? name text start = some m → start < m.stop ∧
      m.stop ≤ text.utf8ByteSize ∧ String.Pos.Raw.IsValid text ⟨start⟩ ∧
        String.Pos.Raw.IsValid text ⟨m.stop⟩ := by
    intro m hm
    obtain ⟨s, _, hchooses⟩ := (firstMatch?_iff hbuild).1 hm
    exact hchooses.inside
  refine ⟨fun m => firstMatch?_iff hbuild, hinside, ?_, ?_⟩
  · intro s i rule stop hs hrule hmatch hlt hempty
    refine (firstMatch?_iff hbuild).2 ⟨s, hs, ⟨rule, hrule, rfl, hmatch, hlt⟩, ?_⟩
    intro j r stop' hr hmatch' hlt'
    by_contra hle
    have hstop := hempty j r stop' (Nat.lt_of_not_le hle) hr hmatch'
    omega
  · intro houtside
    by_contra hsome
    obtain ⟨m, hm⟩ := Option.ne_none_iff_exists'.1 hsome
    obtain ⟨hlt, hle, hvalid, _⟩ := hinside m hm
    rcases houtside with hend | hnot
    · omega
    · exact hnot hvalid

/-- At the quotation mark the first rule of `root` takes nothing, so the second one wins. The offset 1
lies inside a character. -/
theorem the_first_rule_wins_in_a_sample : ∃ l, build .standard sample = .ok l ∧
    Told .standard sample l "root" "é\"" 2 ∧ l.firstMatch? "root" "é\"" 2 = some ⟨1, .string, 3⟩ ∧
      l.firstMatch? "root" "é\"" 1 = none := by
  have hwins : (build .standard sample).toOption.all fun l =>
      l.firstMatch? "root" "é\"" 2 = some ⟨1, .string, 3⟩ := by decide +kernel
  obtain ⟨l, hl⟩ := builds_sample
  refine ⟨l, hl, the_first_rule_that_takes_text_wins hl _ _ _, ?_, ?_⟩
  · simpa [hl, Except.toOption] using hwins
  · exact (the_first_rule_that_takes_text_wins hl _ _ _).outside (Or.inr (by decide +kernel))

end Lexer

end Highlighter
