-- Which lexer a rule table makes, and what an accepted table promises: there is an initial state, no
-- rule leaves it, and each rule that puts a state on top goes to the first state with the name it gives.
import Highlighter.Lexer.Basic
import Mathlib.Data.List.Forall2

namespace Highlighter

/-! ## The rules of a lexer -/

theorem mapM_eq_ok {ε α β : Type} {f : α → Except ε β} {xs : List α} {ys : List β} :
    xs.mapM f = .ok ys ↔ List.Forall₂ (fun x y => f x = .ok y) xs ys := by
  constructor
  · intro h
    induction xs generalizing ys with
    | nil =>
      cases h
      exact .nil
    | cons x xs ih =>
      rw [List.mapM_cons] at h
      rcases hx : f x with e | y
      · rw [hx] at h
        cases h
      · rcases hxs : xs.mapM f with e | zs
        · rw [hx, hxs] at h
          cases h
        · rw [hx, hxs] at h
          cases h
          exact .cons hx (ih hxs)
  · intro h
    induction h with
    | nil => rfl
    | cons hxy _ ih =>
      rw [List.mapM_cons, hxy, ih]
      rfl

theorem exists_of_forall₂ {α β : Type} {R : α → β → Prop} {xs : List α} {ys : List β} {y : β}
    (h : List.Forall₂ R xs ys) (hy : y ∈ ys) : ∃ x ∈ xs, R x y := by
  induction h with
  | nil => cases hy
  | cons hr _ ih =>
    rcases List.mem_cons.1 hy with rfl | hy
    · exact ⟨_, List.mem_cons_self, hr⟩
    · obtain ⟨x, hx, hxy⟩ := ih hy
      exact ⟨x, List.mem_cons_of_mem _ hx, hxy⟩

/-- Lists that are related member by member have related members in the same place. -/
theorem getElem?_of_forall₂ {α β : Type} {R : α → β → Prop} {xs : List α} {ys : List β} {i : Nat}
    {x : α} (h : List.Forall₂ R xs ys) (hx : xs[i]? = some x) : ∃ y, ys[i]? = some y ∧ R x y := by
  induction h generalizing i with
  | nil => cases hx
  | cons hxy _ ih =>
    cases i with
    | zero =>
      cases hx
      exact ⟨_, rfl, hxy⟩
    | succ i => exact ih hx

/-- A test that related members pass alike finds related members first. -/
theorem find?_of_forall₂ {α β : Type} {R : α → β → Prop} {xs : List α} {ys : List β} {x : α}
    {f : α → Bool} {g : β → Bool} (h : List.Forall₂ R xs ys) (hfg : ∀ x y, R x y → f x = g y)
    (hx : xs.find? f = some x) : ∃ y, ys.find? g = some y ∧ R x y := by
  induction h with
  | nil => cases hx
  | cons hxy _ ih =>
    rw [List.find?_cons, hfg _ _ hxy] at hx
    rw [List.find?_cons]
    split at hx
    · cases hx
      exact ⟨_, rfl, hxy⟩
    · exact ih hx

/-- The ready rule is the rule with its pattern read. -/
structure Rule.ReadyAs (engine : Engine) (rule : Rule) (r : ReadyRule) : Prop where
  same : r.rule = rule
  read : engine.read rule.pattern = .ok r.matcher

/-- The ready state has the name of the state and its rules, in the same order. -/
structure RuleState.ReadyAs (engine : Engine) (state : RuleState) (s : ReadyState) : Prop where
  name : s.name = state.name
  rules : List.Forall₂ (Rule.ReadyAs engine) state.rules s.rules

section

variable {engine : Engine}

/-- The rules of a ready state are those that were written down. -/
theorem RuleState.ReadyAs.rules_eq {state : RuleState} {s : ReadyState}
    (h : state.ReadyAs engine s) : s.rules.map (·.rule) = state.rules := by
  have hsame : List.Forall₂ (fun rule (r : ReadyRule) => rule = r.rule) state.rules s.rules :=
    h.rules.imp fun _ _ hr => hr.same.symm
  rw [← List.forall₂_map_right_iff, List.forall₂_eq_eq_eq] at hsame
  exact hsame.symm

theorem Rule.prepare_eq_ok {names : List String} {state : String} {rule : Rule} {r : ReadyRule} :
    rule.prepare engine names state = .ok r ↔
      r.rule = rule ∧ rule.transition.resolve names state = .ok r.target ∧
        engine.read rule.pattern = .ok r.matcher := by
  unfold Rule.prepare
  constructor
  · intro h
    split at h
    · cases h
    · split at h
      · cases h
        exact ⟨rfl, ‹_›, ‹_›⟩
      · cases h
  · rintro ⟨rfl, htarget, hread⟩
    rw [htarget, hread]

theorem RuleState.prepare_eq_ok {names : List String} {state : RuleState} {s : ReadyState} :
    state.prepare engine names = .ok s ↔ s.name = state.name ∧ List.Forall₂
      (fun rule r => rule.prepare engine names state.name = .ok r) state.rules s.rules := by
  unfold RuleState.prepare
  constructor
  · intro h
    split at h
    · cases h
    · cases h
      exact ⟨rfl, mapM_eq_ok.1 ‹_›⟩
  · rintro ⟨hname, hrules⟩
    rw [mapM_eq_ok.2 hrules, ← hname]

/-- A rule is made ready by the standard engine with what its pattern reads as. -/
theorem Rule.prepare_standard {names : List String} {state : String} {rule : Rule} {a : Pattern}
    {target : Target} (htarget : rule.transition.resolve names state = .ok target)
    (hread : Pattern.read? rule.pattern = some a) :
    rule.prepare .standard names state = .ok ⟨rule, a.matcher, target⟩ :=
  prepare_eq_ok.2 ⟨rfl, htarget, Engine.standard_read.2 ⟨a, hread, rfl⟩⟩

end

theorem Transition.resolve_pop {names : List String} {state : String} {t : Transition}
    (h : t.resolve names state = .ok .pop) : t = .pop := by
  cases t with
  | stay => cases h
  | pop => rfl
  | push target =>
    unfold Transition.resolve at h
    dsimp only at h
    split at h <;> cases h

theorem Transition.resolve_stay {names : List String} {state : String} {t : Transition}
    (h : t.resolve names state = .ok .stay) : t = .stay := by
  cases t with
  | stay => rfl
  | pop => cases h
  | push target =>
    unfold Transition.resolve at h
    dsimp only at h
    split at h <;> cases h

theorem Transition.resolve_push {names : List String} {state : String} {t : Transition} {i : Nat}
    (h : t.resolve names state = .ok (.push i)) :
    ∃ target, t = .push target ∧ names.findIdx? (· == target) = some i := by
  cases t with
  | stay => cases h
  | pop => cases h
  | push target =>
    unfold Transition.resolve at h
    dsimp only at h
    split at h
    · cases h
      exact ⟨target, rfl, ‹_›⟩
    · cases h

/-! ## Accepted tables -/

/-- No rule leaves the initial state. -/
def Definition.Kept (d : Definition) : Prop :=
  ∀ s ∈ d.states.head?, ∀ rule ∈ s.rules, rule.transition ≠ .pop

def Definition.stateNames (d : Definition) : List String := d.states.map (·.name)

namespace Lexer

/-- What an accepted rule table promises of its lexer. -/
structure Sound (l : Lexer) : Prop where
  nonempty : l.states ≠ []
  /-- The target of a rule is what its transition means among the names of the states. -/
  target : ∀ s ∈ l.states, ∀ r ∈ s.rules,
    r.rule.transition.resolve l.stateNames s.name = .ok r.target
  /-- No rule leaves the initial state. -/
  initial : ∀ s, l.states[0]? = some s → ∀ r ∈ s.rules, r.target ≠ .pop

variable {engine : Engine} {d : Definition} {l : Lexer}

theorem any_pop {rules : List Rule} :
    rules.any (·.transition == .pop) = true ↔ ∃ rule ∈ rules, rule.transition = .pop := by
  simp

theorem build_of_no_states (hnil : d.states = []) :
    build engine d = .error (.noStates d.info.name) := by
  unfold build
  rw [hnil]

theorem build_of_not_kept (engine : Engine) (hkept : ¬ d.Kept) :
    ∃ initial ∈ d.states.head?, (∃ rule ∈ initial.rules, rule.transition = .pop) ∧
      build engine d = .error (.popInInitial initial.name) := by
  unfold Definition.Kept at hkept
  push Not at hkept
  obtain ⟨initial, hinitial, hpop⟩ := hkept
  obtain ⟨rest, hstates⟩ := List.head?_eq_some_iff.1 hinitial
  refine ⟨initial, hinitial, hpop, ?_⟩
  unfold build
  rw [hstates]
  simp only [any_pop.2 hpop, if_true]

/-- Where there is a state and none of its rules leaves it, the states are made ready in order. -/
theorem build_of_kept (hne : d.states ≠ []) (hkept : d.Kept) :
    build engine d = (d.states.mapM (RuleState.prepare engine d.stateNames)).map fun states =>
      ⟨d.info, states⟩ := by
  obtain ⟨initial, rest, hstates⟩ := List.exists_cons_of_ne_nil hne
  have hpop : ¬ initial.rules.any (·.transition == .pop) = true := by
    rw [any_pop]
    rintro ⟨rule, hrule, hpop⟩
    exact hkept initial (by rw [hstates]; rfl) rule hrule hpop
  unfold build Definition.stateNames
  split
  · exact absurd ‹_› hne
  · rename_i first more hfirst
    rw [hfirst] at hstates
    cases hstates
    rw [if_neg hpop]
    cases d.states.mapM (RuleState.prepare engine (d.states.map (·.name))) <;> rfl

/-- The lexer of an accepted table has its states, made ready in order. -/
theorem build_eq_ok : build engine d = .ok l ↔ d.states ≠ [] ∧ d.Kept ∧ l.info = d.info ∧
    List.Forall₂ (fun state s => state.prepare engine d.stateNames = .ok s)
      d.states l.states := by
  constructor
  · intro h
    have hne : d.states ≠ [] := by
      intro hnil
      rw [build_of_no_states hnil] at h
      cases h
    have hkept : d.Kept := by
      by_contra hnot
      obtain ⟨_, _, _, hbuild⟩ := build_of_not_kept engine hnot
      rw [hbuild] at h
      cases h
    rw [build_of_kept hne hkept] at h
    cases hstates : d.states.mapM (RuleState.prepare engine d.stateNames) with
    | error e =>
      rw [hstates] at h
      cases h
    | ok states =>
      rw [hstates] at h
      cases h
      exact ⟨hne, hkept, rfl, mapM_eq_ok.1 hstates⟩
  · rintro ⟨hne, hkept, hinfo, hstates⟩
    rw [build_of_kept hne hkept, mapM_eq_ok.2 hstates, ← hinfo]
    rfl

theorem info_of_build (h : build engine d = .ok l) : l.info = d.info := (build_eq_ok.1 h).2.2.1

theorem readyAs_of_build (h : build engine d = .ok l) :
    List.Forall₂ (RuleState.ReadyAs engine) d.states l.states := by
  refine (build_eq_ok.1 h).2.2.2.imp fun state s hs => ?_
  obtain ⟨hname, hrules⟩ := RuleState.prepare_eq_ok.1 hs
  refine ⟨hname, hrules.imp fun rule r hr => ?_⟩
  obtain ⟨hsame, _, hpattern⟩ := Rule.prepare_eq_ok.1 hr
  exact ⟨hsame, hpattern⟩

theorem stateNames_of_build (h : build engine d = .ok l) : l.stateNames = d.stateNames := by
  have hnames : List.Forall₂ (· = ·) (d.states.map (·.name)) (l.states.map (·.name)) := by
    rw [List.forall₂_map_left_iff, List.forall₂_map_right_iff]
    exact (readyAs_of_build h).imp fun _ _ hs => hs.name.symm
  rw [List.forall₂_eq_eq_eq] at hnames
  exact hnames.symm

/-- A name means the same state in the table and in the lexer. -/
theorem state?_of_build (h : build engine d = .ok l) {name : String} {state : RuleState}
    (hstate : d.states.find? (·.name == name) = some state) :
    ∃ s, l.state? name = some s ∧ state.ReadyAs engine s :=
  find?_of_forall₂ (readyAs_of_build h) (fun _ _ hs => by rw [hs.name]) hstate

theorem exists_of_state? (h : build engine d = .ok l) {name : String} {s : ReadyState}
    (hs : l.state? name = some s) :
    ∃ state, d.states.find? (·.name == name) = some state ∧ state.ReadyAs engine s :=
  find?_of_forall₂ (List.Forall₂.flip (readyAs_of_build h)) (fun _ _ hs => by rw [hs.name]) hs

theorem sound_of_build (h : build engine d = .ok l) : l.Sound := by
  have hnames := stateNames_of_build h
  obtain ⟨hne, hkept, _, hstates⟩ := build_eq_ok.1 h
  obtain ⟨initial, rest, hd⟩ := List.exists_cons_of_ne_nil hne
  have hinitial := hkept initial (by rw [hd]; rfl)
  rw [← hnames, hd] at hstates
  refine ⟨?_, ?_, ?_⟩
  · intro hnil
    rw [hnil] at hstates
    cases hstates
  · intro s hs r hr
    obtain ⟨state, _, hstate⟩ := exists_of_forall₂ hstates hs
    obtain ⟨hname, hrules⟩ := RuleState.prepare_eq_ok.1 hstate
    obtain ⟨rule, _, hrule⟩ := exists_of_forall₂ hrules hr
    obtain ⟨rfl, htarget, _⟩ := Rule.prepare_eq_ok.1 hrule
    rw [hname]
    exact htarget
  · intro s hs r hr htarget
    rcases hl : l.states with _ | ⟨first, others⟩
    · rw [hl] at hs
      cases hs
    · rw [hl] at hs hstates
      cases hs
      obtain ⟨hstate, _⟩ := List.forall₂_cons.1 hstates
      obtain ⟨_, hrules⟩ := RuleState.prepare_eq_ok.1 hstate
      obtain ⟨rule, hmem, hrule⟩ := exists_of_forall₂ hrules hr
      obtain ⟨_, hresolve, _⟩ := Rule.prepare_eq_ok.1 hrule
      rw [htarget] at hresolve
      exact hinitial rule hmem (Transition.resolve_pop hresolve)

/-- A small rule table: a rule that may take nothing, a line feed that no rule wants, and two states
with one name. -/
def sample : Definition :=
  ⟨⟨"sample", [], [], []⟩,
    [⟨"root", [⟨"[a-z]*", .name, .stay⟩, ⟨"\"", .string, .push "string"⟩]⟩,
      ⟨"string", [⟨"[^\"\n]+", .string, .stay⟩, ⟨"\"", .string, .pop⟩]⟩,
      ⟨"string", [⟨"x", .error, .push "root"⟩]⟩]⟩

theorem builds_sample : ∃ l, build .standard sample = .ok l := by
  have h : (build .standard sample).isOk = true := by decide +kernel
  rcases hb : build .standard sample with e | l
  · rw [hb] at h
    cases h
  · exact ⟨l, rfl⟩

/-! ## The first state of a name -/

/-- A state has this number, and its name means no state before it. -/
def IsFirst (l : Lexer) (i : Nat) : Prop :=
  ∃ s, l.states[i]? = some s ∧ l.state? s.name = some s

theorem isFirst_zero (h : l.states ≠ []) : l.IsFirst 0 := by
  unfold IsFirst state?
  rcases hl : l.states with _ | ⟨s, rest⟩
  · exact absurd hl h
  · exact ⟨s, by simp, by simp⟩

theorem isFirst_of_findIdx? {name : String} {i : Nat}
    (h : l.stateNames.findIdx? (· == name) = some i) :
    ∃ s, l.states[i]? = some s ∧ s.name = name ∧ l.state? name = some s := by
  unfold stateNames at h
  rw [List.findIdx?_map, List.findIdx?_eq_some_iff_getElem] at h
  obtain ⟨hi, hname, hbefore⟩ := h
  refine ⟨l.states[i], List.getElem?_eq_getElem hi, by simpa using hname, ?_⟩
  unfold state?
  rw [List.find?_eq_some_iff_getElem]
  refine ⟨by simpa using hname, i, hi, rfl, ?_⟩
  intro j hj
  simpa using hbefore j hj

end Lexer

end Highlighter
