-- Which rule tables make a lexer, and what is told of the others. A table without a state comes first,
-- then a rule that leaves the initial state, then the first faulty rule, state by state. Of two faults
-- of one rule the missing state is told.
import Highlighter.Proofs.Tables

namespace Highlighter

/-! ## Faults -/

/-- The rule puts no state on top that the table does not have. -/
def Rule.Targeted (names : List String) (rule : Rule) : Prop :=
  ∀ target, rule.transition = .push target → target ∈ names

/-- The engine can read the pattern of the rule. -/
def Rule.Readable (engine : Engine) (rule : Rule) : Prop :=
  ∃ matcher, engine.read rule.pattern = .ok matcher

/-- What is wrong with a rule, in a table whose states have these names. -/
inductive Rule.Fault (engine : Engine) (names : List String) (state : String) (rule : Rule) :
    DefinitionError → Prop where
  | unknownState {target : String} (hpush : rule.transition = .push target)
    (hmissing : target ∉ names) : rule.Fault engine names state (.unknownState state target)
  | invalidPattern {cause : String} (htargeted : rule.Targeted names)
    (hpattern : engine.read rule.pattern = .error cause) :
    rule.Fault engine names state (.invalidPattern state rule.pattern cause)

structure Definition.WellFormed (engine : Engine) (d : Definition) : Prop where
  nonempty : d.states ≠ []
  kept : d.Kept
  targeted : ∀ s ∈ d.states, ∀ rule ∈ s.rules, rule.Targeted d.stateNames
  readable : ∀ s ∈ d.states, ∀ rule ∈ s.rules, rule.Readable engine

/-- The fault that is told of a rule table. -/
inductive Definition.Fault (engine : Engine) (d : Definition) : DefinitionError → Prop where
  | noStates (hnil : d.states = []) : d.Fault engine (.noStates d.info.name)
  | popInInitial {initial : RuleState} {rule : Rule} (hinitial : initial ∈ d.states.head?)
    (hrule : rule ∈ initial.rules) (hpop : rule.transition = .pop) :
    d.Fault engine (.popInInitial initial.name)
  | rule {before after : List RuleState} {state : RuleState} {earlier later : List Rule} {rule : Rule}
    {e : DefinitionError} (hkept : d.Kept) (hstates : d.states = before ++ state :: after)
    (hrules : state.rules = earlier ++ rule :: later)
    (hbefore : ∀ s ∈ before, ∀ r ∈ s.rules, r.Targeted d.stateNames ∧ r.Readable engine)
    (hearlier : ∀ r ∈ earlier, r.Targeted d.stateNames ∧ r.Readable engine)
    (hfault : rule.Fault engine d.stateNames state.name e) : d.Fault engine e

/-! ## The first failure in a list -/

section

variable {ε α β : Type} {f : α → Except ε β} {xs : List α} {e : ε}

theorem mapM_eq_error : xs.mapM f = .error e ↔ ∃ before x after, xs = before ++ x :: after ∧
    (∀ y ∈ before, ∃ z, f y = .ok z) ∧ f x = .error e := by
  induction xs with
  | nil =>
    simp [pure, Except.pure]
  | cons x xs ih =>
    rw [List.mapM_cons]
    cases hx : f x with
    | error e' =>
      constructor
      · intro h
        cases h
        exact ⟨[], x, xs, rfl, by simp, hx⟩
      · rintro ⟨before, y, after, hsplit, hbefore, hy⟩
        cases before with
        | nil =>
          cases hsplit
          rw [hx] at hy
          cases hy
          rfl
        | cons z before =>
          cases hsplit
          obtain ⟨w, hw⟩ := hbefore x List.mem_cons_self
          rw [hx] at hw
          cases hw
    | ok z =>
      have hstep : (do let y ← Except.ok z; let ys ← xs.mapM f; pure (y :: ys)) = .error e ↔
          xs.mapM f = .error e := by
        cases xs.mapM f <;> simp [bind, Except.bind, pure, Except.pure]
      rw [hstep, ih]
      constructor
      · rintro ⟨before, y, after, rfl, hbefore, hy⟩
        refine ⟨x :: before, y, after, rfl, ?_, hy⟩
        rw [List.forall_mem_cons]
        exact ⟨⟨z, hx⟩, hbefore⟩
      · rintro ⟨before, y, after, hsplit, hbefore, hy⟩
        cases before with
        | nil =>
          cases hsplit
          rw [hx] at hy
          cases hy
        | cons w before =>
          cases hsplit
          exact ⟨before, y, after, rfl, fun u hu => hbefore u (List.mem_cons_of_mem _ hu), hy⟩

theorem exists_mapM : (∃ ys, xs.mapM f = .ok ys) ↔ ∀ x ∈ xs, ∃ y, f x = .ok y := by
  constructor
  · rintro ⟨ys, hys⟩ x hx
    have hpairs := mapM_eq_ok.1 hys
    obtain ⟨y, _, hy⟩ := exists_of_forall₂ (List.Forall₂.flip hpairs) hx
    exact ⟨y, hy⟩
  · intro hall
    cases h : xs.mapM f with
    | ok ys => exact ⟨ys, rfl⟩
    | error e =>
      obtain ⟨before, x, after, rfl, _, hx⟩ := mapM_eq_error.1 h
      obtain ⟨y, hy⟩ := hall x (by simp)
      rw [hx] at hy
      cases hy

end

/-! ## The first faulty rule -/

section

variable {engine : Engine} {names : List String} {state : String} {rule : Rule}
  {e : DefinitionError}

theorem Transition.resolve_eq_error {t : Transition} :
    t.resolve names state = .error e ↔
      ∃ target, t = .push target ∧ target ∉ names ∧ e = .unknownState state target := by
  cases t with
  | stay => simp [resolve]
  | pop => simp [resolve]
  | push target =>
    unfold resolve
    dsimp only
    cases hfind : names.findIdx? (· == target) with
    | some i =>
      obtain ⟨hi, hname, _⟩ := List.findIdx?_eq_some_iff_getElem.1 hfind
      have hmem : target ∈ names := by
        rw [← beq_iff_eq.1 hname]
        exact List.getElem_mem hi
      simp [hmem]
    | none =>
      have hmissing : target ∉ names := by
        intro hmem
        simpa using List.findIdx?_eq_none_iff.1 hfind target hmem
      simp [hmissing, eq_comm]

theorem Rule.prepare_eq_error :
    rule.prepare engine names state = .error e ↔ rule.Fault engine names state e := by
  unfold Rule.prepare
  cases htarget : rule.transition.resolve names state with
  | error e' =>
    obtain ⟨target, hpush, hmissing, rfl⟩ := Transition.resolve_eq_error.1 htarget
    constructor
    · intro h
      cases h
      exact .unknownState hpush hmissing
    · rintro (⟨hpush', _⟩ | ⟨htargeted, _⟩)
      · rw [hpush] at hpush'
        cases hpush'
        rfl
      · exact absurd (htargeted target hpush) hmissing
  | ok target =>
    have htargeted : rule.Targeted names := by
      intro name hpush
      by_contra hmissing
      rw [Transition.resolve_eq_error.2 ⟨name, hpush, hmissing, rfl⟩] at htarget
      cases htarget
    cases hpattern : engine.read rule.pattern with
    | ok matcher =>
      simp only [reduceCtorEq, false_iff]
      rintro (⟨hpush, hmissing⟩ | ⟨_, hcause⟩)
      · exact hmissing (htargeted _ hpush)
      · rw [hpattern] at hcause
        cases hcause
    | error cause =>
      constructor
      · intro h
        cases h
        exact .invalidPattern htargeted hpattern
      · rintro (⟨hpush, hmissing⟩ | ⟨_, hcause⟩)
        · exact absurd (htargeted _ hpush) hmissing
        · rw [hpattern] at hcause
          cases hcause
          rfl

/-- A rule is made ready just if nothing is wrong with it. -/
theorem Rule.exists_prepare :
    (∃ r, rule.prepare engine names state = .ok r) ↔
      rule.Targeted names ∧ rule.Readable engine := by
  constructor
  · rintro ⟨r, hr⟩
    refine ⟨?_, r.matcher, (Rule.prepare_eq_ok.1 hr).2.2⟩
    intro target hpush
    by_contra hmissing
    rw [Rule.prepare_eq_error.2 (.unknownState hpush hmissing)] at hr
    cases hr
  · rintro ⟨htargeted, matcher, hmatcher⟩
    cases h : rule.prepare engine names state with
    | ok r => exact ⟨r, rfl⟩
    | error e =>
      rcases Rule.prepare_eq_error.1 h with ⟨hpush, hmissing⟩ | ⟨_, hcause⟩
      · exact absurd (htargeted _ hpush) hmissing
      · rw [hmatcher] at hcause
        cases hcause

theorem RuleState.prepare_eq_error {s : RuleState} : s.prepare engine names = .error e ↔
    ∃ earlier rule later, s.rules = earlier ++ rule :: later ∧
      (∀ r ∈ earlier, r.Targeted names ∧ r.Readable engine) ∧
        rule.Fault engine names s.name e := by
  have hprepare : s.prepare engine names = .error e ↔
      s.rules.mapM (Rule.prepare engine names s.name) = .error e := by
    unfold RuleState.prepare
    cases s.rules.mapM (Rule.prepare engine names s.name) <;> simp
  rw [hprepare, mapM_eq_error]
  simp only [Rule.exists_prepare, Rule.prepare_eq_error]

theorem RuleState.exists_prepare {s : RuleState} : (∃ r, s.prepare engine names = .ok r) ↔
    ∀ rule ∈ s.rules, rule.Targeted names ∧ rule.Readable engine := by
  have hprepare : (∃ r, s.prepare engine names = .ok r) ↔
      ∃ rs, s.rules.mapM (Rule.prepare engine names s.name) = .ok rs := by
    unfold RuleState.prepare
    cases s.rules.mapM (Rule.prepare engine names s.name) <;> simp
  rw [hprepare, exists_mapM]
  simp only [Rule.exists_prepare]

end

/-! ## The table -/

namespace Lexer

variable {engine : Engine} {d : Definition} {l : Lexer} {e : DefinitionError}

theorem build_eq_error : build engine d = .error e ↔ d.Fault engine e := by
  by_cases hnil : d.states = []
  · rw [build_of_no_states hnil]
    constructor
    · intro h
      cases h
      exact .noStates hnil
    · rintro (_ | ⟨hinitial, _⟩ | ⟨_, hstates, _⟩)
      · rfl
      · simp [hnil] at hinitial
      · simp [hnil] at hstates
  · by_cases hkept : d.Kept
    · have hmap : build engine d = .error e ↔
          d.states.mapM (RuleState.prepare engine d.stateNames) = .error e := by
        rw [build_of_kept hnil hkept]
        cases d.states.mapM (RuleState.prepare engine d.stateNames) <;> simp [Except.map]
      rw [hmap, mapM_eq_error]
      simp only [RuleState.exists_prepare, RuleState.prepare_eq_error]
      constructor
      · rintro ⟨before, s, after, hstates, hbefore, earlier, rule, later, hrules, hearlier, hfault⟩
        exact .rule hkept hstates hrules hbefore hearlier hfault
      · rintro (hnil' | ⟨hinitial, hrule, hpop⟩ | ⟨_, hstates, hrules, hbefore, hearlier, hfault⟩)
        · exact absurd hnil' hnil
        · exact absurd hpop (hkept _ hinitial _ hrule)
        · exact ⟨_, _, _, hstates, hbefore, _, _, _, hrules, hearlier, hfault⟩
    · obtain ⟨initial, hinitial, ⟨rule, hrule, hpop⟩, hbuild⟩ :=
        build_of_not_kept engine hkept
      rw [hbuild]
      constructor
      · intro h
        cases h
        exact .popInInitial hinitial hrule hpop
      · rintro (hnil' | ⟨hinitial', _⟩ | ⟨hkept', _⟩)
        · exact absurd hnil' hnil
        · rw [Option.mem_unique hinitial hinitial']
        · exact absurd hkept' hkept

theorem exists_build : (∃ l, build engine d = .ok l) ↔ d.WellFormed engine := by
  constructor
  · rintro ⟨l, hl⟩
    obtain ⟨hne, hkept, _, hprepared⟩ := build_eq_ok.1 hl
    have hrules : ∀ s ∈ d.states, ∀ rule ∈ s.rules,
        rule.Targeted d.stateNames ∧ rule.Readable engine := by
      intro s hs
      obtain ⟨r, _, hr⟩ := exists_of_forall₂ (List.Forall₂.flip hprepared) hs
      exact RuleState.exists_prepare.1 ⟨r, hr⟩
    exact ⟨hne, hkept, fun s hs rule hrule => (hrules s hs rule hrule).1,
      fun s hs rule hrule => (hrules s hs rule hrule).2⟩
  · intro hd
    have hall : ∀ s ∈ d.states, ∃ r, s.prepare engine d.stateNames = .ok r := by
      intro s hs
      rw [RuleState.exists_prepare]
      exact fun rule hrule => ⟨hd.targeted s hs rule hrule, hd.readable s hs rule hrule⟩
    obtain ⟨states, hstates⟩ := exists_mapM.2 hall
    exact ⟨⟨d.info, states⟩,
      build_eq_ok.2 ⟨hd.nonempty, hd.kept, rfl, mapM_eq_ok.1 hstates⟩⟩

/-- The rules of a state are those that were written down, of the first state with the name. -/
theorem rules?_of_build (h : build engine d = .ok l) (name : String) :
    l.rules? name = (d.states.find? (·.name == name)).map (·.rules) := by
  unfold rules?
  rcases hs : l.state? name with _ | s
  · rcases hstate : d.states.find? (·.name == name) with _ | state
    · rw [hstate]
      rfl
    · obtain ⟨s, hs', _⟩ := state?_of_build h hstate
      rw [hs] at hs'
      cases hs'
  · obtain ⟨state, hstate, hready⟩ := exists_of_state? h hs
    rw [hstate, Option.map_some, Option.map_some, hready.rules_eq]

/-! ## The law -/

/-- With any engine, a rule table makes a lexer just if it is well-formed, and the lexer then answers with
the names and the rules of the table. Of any other table its first fault is told. -/
theorem a_table_is_accepted_or_its_first_fault_is_told (engine : Engine) (d : Definition) :
    ((∃ l, build engine d = .ok l) ↔ d.WellFormed engine) ∧
    (∀ e, build engine d = .error e ↔ d.Fault engine e) ∧
    ∀ l, build engine d = .ok l → l.info = d.info ∧ l.stateNames = d.stateNames ∧
      ∀ name, l.rules? name = (d.states.find? (·.name == name)).map (·.rules) :=
  ⟨exists_build, fun _ => build_eq_error, fun _ hl =>
    ⟨info_of_build hl, stateNames_of_build hl, rules?_of_build hl⟩⟩

/-- The second rule has both faults of a rule, and the missing state is told. -/
def faulty : Definition :=
  ⟨⟨"faulty", [], [], []⟩,
    [⟨"root", [⟨"[a-z]+", .name, .stay⟩, ⟨"(", .error, .push "nowhere"⟩]⟩,
      ⟨"string", [⟨")", .string, .pop⟩]⟩]⟩

theorem a_sample_is_accepted_and_a_fault_is_told :
    (∃ l, build .standard sample = .ok l ∧ l.stateNames = ["root", "string", "string"] ∧
      (l.rules? "string").map List.length = some 2) ∧
    build .standard faulty = .error (.unknownState "root" "nowhere") := by
  obtain ⟨l, hl⟩ := builds_sample
  obtain ⟨_, hnames, hrules⟩ :=
    (a_table_is_accepted_or_its_first_fault_is_told .standard sample).2.2 l hl
  refine ⟨⟨l, hl, hnames, ?_⟩, ?_⟩
  · rw [hrules]
    rfl
  · rw [(a_table_is_accepted_or_its_first_fault_is_told .standard faulty).2.1]
    have hname : (Rule.mk "[a-z]+" .name .stay).Targeted faulty.stateNames ∧
        (Rule.mk "[a-z]+" .name .stay).Readable .standard := by
      refine ⟨fun target hpush => ?_, ?_⟩
      · cases hpush
      · have hread : (Pattern.read? "[a-z]+").isSome = true := by decide +kernel
        obtain ⟨pattern, hpattern⟩ := Option.isSome_iff_exists.1 hread
        exact ⟨pattern.matcher, Engine.standard_read.2 ⟨pattern, hpattern, rfl⟩⟩
    have hstates : faulty.states = [] ++ _ :: _ := rfl
    have hrules : [Rule.mk "[a-z]+" .name .stay, ⟨"(", .error, .push "nowhere"⟩] = [_] ++ _ :: _ :=
      rfl
    refine .rule ?_ hstates hrules (by simp) ?_ (.unknownState rfl (by decide))
    · intro s hs
      cases hs
      decide
    · intro r hr
      rw [List.mem_singleton.1 hr]
      exact hname

end Lexer

end Highlighter
