-- The laws of setups. A setup changes nothing if a rule of its configuration cannot be read, and adds
-- the lexer and the style of Alba where their names are free. Both names then stay taken, so after one
-- setup all later ones change nothing.
import Highlighter.Proofs.AlbaPatterns
import Highlighter.Proofs.Kinds
import Highlighter.Proofs.RegistryGrowth
import Highlighter.Proofs.StyleCascade
import Highlighter.Proofs.Tables
import Highlighter.Setup

namespace Highlighter

/-! ## The first fault of a configuration -/

/-- Each rule can be read. -/
def Config.Readable (c : Config) : Prop :=
  ∀ k rule, c.overrides.get? k = some rule → ∃ r, StyleRule.read rule = .ok r

/-- The rule for the category cannot be read, while those for the categories before it can. -/
structure Config.FirstFault (c : Config) (k : Kind) (e : StyleError) : Prop where
  fault : ∃ rule, c.overrides.get? k = some rule ∧ StyleRule.read rule = .error e
  before : ∀ j rule, j.rank < k.rank → c.overrides.get? j = some rule →
    ∃ r, StyleRule.read rule = .ok r

section

variable {c : Config} {e : StyleError}

theorem StyleRule.fault?_eq_some {rule : String} : fault? rule = some e ↔ read rule = .error e := by
  unfold fault?
  cases read rule <;> simp

theorem StyleRule.fault?_eq_none {rule : String} : fault? rule = none ↔ ∃ r, read rule = .ok r := by
  unfold fault?
  cases read rule <;> simp

theorem Config.findSome?_fault : (c.overrides.toList.map (·.2)).findSome? StyleRule.fault? = some e ↔
    ∃ k, c.FirstFault k e := by
  rw [KindMap.findSome?_toList]
  apply exists_congr
  intro k
  constructor
  · rintro ⟨hk, hbefore⟩
    obtain ⟨rule, hrule, hfault⟩ := Option.bind_eq_some_iff.1 hk
    refine ⟨⟨rule, hrule, StyleRule.fault?_eq_some.1 hfault⟩, ?_⟩
    intro j rule' hj hrule'
    have hnone := hbefore j hj
    rw [hrule', Option.bind_some] at hnone
    exact StyleRule.fault?_eq_none.1 hnone
  · rintro ⟨⟨rule, hrule, hfault⟩, hbefore⟩
    refine ⟨by rw [hrule, Option.bind_some, StyleRule.fault?_eq_some.2 hfault], ?_⟩
    intro j hj
    cases hrule' : c.overrides.get? j with
    | none => rfl
    | some rule' => exact StyleRule.fault?_eq_none.2 (hbefore j rule' hj hrule')

theorem Config.readable_iff : c.Readable ↔ ∀ k e, ¬ c.FirstFault k e := by
  constructor
  · rintro h k e ⟨⟨rule, hrule, hfault⟩, _⟩
    obtain ⟨r, hr⟩ := h k rule hrule
    rw [hr] at hfault
    cases hfault
  · intro h k rule hrule
    cases hfirst : (c.overrides.toList.map (·.2)).findSome? StyleRule.fault? with
    | some e =>
      obtain ⟨j, hj⟩ := Config.findSome?_fault.1 hfirst
      exact absurd hj (h j e)
    | none =>
      have hmem : rule ∈ c.overrides.toList.map (·.2) :=
        List.mem_map.2 ⟨(k, rule), KindMap.mem_toList.2 hrule, rfl⟩
      exact StyleRule.fault?_eq_none.1 (List.findSome?_eq_none_iff.1 hfirst rule hmem)

theorem Style.name_of_override {s t : Style} {entries : List (Kind × String)}
    (h : s.override entries = .ok t) : t.name = s.name := by
  induction entries generalizing s with
  | nil =>
    cases h
    rfl
  | cons entry entries ih =>
    unfold override set at h
    cases hread : StyleRule.read entry.2 with
    | error e =>
      rw [hread] at h
      cases h
    | ok r =>
      rw [hread] at h
      have hname := ih h
      exact hname

end

/-! ## The style of Alba -/

namespace Alba

variable {c : Config} {s : Style} {e : StyleError}

theorem style_ok : ∃ s, style = .ok s ∧ s.name = "alba" := by
  have hname : style.toOption.map (·.name) = some "alba" := by decide +kernel
  cases hs : style with
  | error e =>
    rw [hs] at hname
    cases hname
  | ok s =>
    rw [hs] at hname
    exact ⟨s, rfl, Option.some.inj hname⟩

/-- The style itself is sound, so only a rule of the configuration can be at fault. -/
theorem configuredStyle_eq_error : configuredStyle c = .error e ↔ ∃ k, c.FirstFault k e := by
  obtain ⟨s, hs, _⟩ := style_ok
  unfold configuredStyle
  rw [hs, ← Config.findSome?_fault]
  exact Style.override_eq_error s c.overrides.toList e

theorem name_of_configuredStyle (h : configuredStyle c = .ok s) : s.name = "alba" := by
  obtain ⟨t, ht, hname⟩ := style_ok
  unfold configuredStyle at h
  rw [ht] at h
  rw [Style.name_of_override h, hname]

theorem info_of_lexer {set : KeywordSet} {l : Lexer} (h : lexer set = .ok l) : l.info = info :=
  Lexer.info_of_build h

end Alba

namespace Registry

variable {r r' : Registry} {l : Lexer} {s : Style} {c : Config}

/-! ## One setup -/

/-- A setup fails with a fault of the configuration, or it registers a lexer and a style. -/
theorem setup_cases (r : Registry) (c : Config) :
    (∃ e, Alba.configuredStyle c = .error e ∧
      (r.setup c).outcome = .error (.style e) ∧ (r.setup c).registry = r) ∨
    ∃ l s, Alba.lexer c.keywords = .ok l ∧ Alba.configuredStyle c = .ok s ∧
      (r.setup c).outcome = .ok .current ∧
      (r.setup c).registry = ((r.register l).registry.registerStyle s).registry := by
  obtain ⟨l, hl⟩ := Alba.lexer_ok c.keywords
  unfold setup
  rw [hl]
  cases hs : Alba.configuredStyle c with
  | error e => exact Or.inl ⟨e, rfl, rfl, rfl⟩
  | ok s => exact Or.inr ⟨l, s, rfl, rfl, rfl, rfl⟩

theorem setup_of_ok {m : Metadata} (h : (r.setup c).outcome = .ok m) :
    ∃ l s, Alba.lexer c.keywords = .ok l ∧ Alba.configuredStyle c = .ok s ∧
      (r.setup c).registry = ((r.register l).registry.registerStyle s).registry := by
  obtain ⟨e, _, herror, _⟩ | ⟨l, s, hl, hs, _, hnext⟩ := setup_cases r c
  · rw [herror] at h
    cases h
  · exact ⟨l, s, hl, hs, hnext⟩

theorem setup_eq_error {e : SetupError} : (r.setup c).outcome = .error e ↔
    ∃ k fault, c.FirstFault k fault ∧ e = .style fault := by
  obtain ⟨fault, hfault, herror, _⟩ | ⟨l, s, _, hs, hok, _⟩ := setup_cases r c
  · rw [herror]
    constructor
    · intro h
      cases h
      obtain ⟨k, hk⟩ := Alba.configuredStyle_eq_error.1 hfault
      exact ⟨k, fault, hk, rfl⟩
    · rintro ⟨k, other, hk, rfl⟩
      rw [Alba.configuredStyle_eq_error.2 ⟨k, hk⟩] at hfault
      cases hfault
      rfl
  · rw [hok]
    constructor
    · intro h
      cases h
    · rintro ⟨k, fault, hk, _⟩
      rw [Alba.configuredStyle_eq_error.2 ⟨k, hk⟩] at hs
      cases hs

theorem setup_eq_ok : (r.setup c).outcome = .ok .current ↔ c.Readable := by
  rw [Config.readable_iff]
  constructor
  · intro hok k fault hk
    rw [setup_eq_error.2 ⟨k, fault, hk, rfl⟩] at hok
    cases hok
  · intro h
    obtain ⟨fault, hfault, _⟩ | ⟨_, _, _, _, hok, _⟩ := setup_cases r c
    · obtain ⟨k, hk⟩ := Alba.configuredStyle_eq_error.1 hfault
      exact absurd hk (h k fault)
    · exact hok

theorem setup_of_error {e : SetupError} (h : (r.setup c).outcome = .error e) :
    (r.setup c).registry = r := by
  obtain ⟨_, _, _, hsame⟩ | ⟨_, _, _, _, hok, _⟩ := setup_cases r c
  · exact hsame
  · rw [hok] at h
    cases h

theorem keeps_setup (r : Registry) (c : Config) : Keeps r (r.setup c).registry := by
  obtain ⟨e, _, _, hr⟩ | ⟨l, s, _, _, _, hr⟩ := setup_cases r c
  · rw [hr]
    exact .refl r
  · rw [hr]
    exact (keeps_register r l).trans (keeps_registerStyle _ s)

/-! ## Calls in a row -/

/-- A call that changes a registry. -/
inductive Call where
  | register (l : Lexer)
  | registerStyle (s : Style)
  | setup (c : Config)

/-- The registry after a call. -/
def perform (r : Registry) : Call → Registry
  | .register l => (r.register l).registry
  | .registerStyle s => (r.registerStyle s).registry
  | .setup c => (r.setup c).registry

/-- The registry after calls one after the other. -/
def performAll (r : Registry) : List Call → Registry
  | [] => r
  | call :: calls => (r.perform call).performAll calls

theorem keeps_perform (r : Registry) (call : Call) : Keeps r (r.perform call) := by
  cases call with
  | register l => exact keeps_register r l
  | registerStyle s => exact keeps_registerStyle r s
  | setup c => exact keeps_setup r c

theorem keeps_performAll (r : Registry) (calls : List Call) : Keeps r (r.performAll calls) := by
  induction calls generalizing r with
  | nil => exact .refl r
  | cons call calls ih => exact (keeps_perform r call).trans (ih (r.perform call))

theorem sound_setup (h : r.Sound) (c : Config) : (r.setup c).registry.Sound := by
  obtain ⟨e, _, _, hsame⟩ | ⟨l, s, _, _, _, hnext⟩ := setup_cases r c
  · rw [hsame]
    exact h
  · rw [hnext]
    exact sound_registerStyle (sound_register h l) s

theorem sound_perform (h : r.Sound) (call : Call) : (r.perform call).Sound := by
  cases call with
  | register l => exact sound_register h l
  | registerStyle s => exact sound_registerStyle h s
  | setup c => exact sound_setup h c

theorem sound_performAll (h : r.Sound) (calls : List Call) : (r.performAll calls).Sound := by
  induction calls generalizing r with
  | nil => exact h
  | cons call calls ih => exact ih (sound_perform h call)

/-! ## What a setup adds -/

theorem key_alba : key "alba" = "alba" := by decide +kernel

theorem register_alba_of_free (h : r.Sound) (hl : Alba.lexer c.keywords = .ok l)
    (hfree : r.Free "alba") : (r.register l).registry =
      { r with
        entries := r.entries ++ [⟨l, (readGlobs l.info).1⟩]
        names := r.names ++ [("alba", r.entries.length)] } := by
  have hinfo := Alba.info_of_lexer hl
  have hadded : (r.register l).added = true := by
    rw [h.added_iff, hinfo]
    exact key_alba ▸ hfree
  have hlookup : r.names.lookup "alba" = none := by
    rw [h.first, List.findIdx?_eq_none_iff]
    exact hfree
  have halias : key "Alba" = "alba" := by decide +kernel
  rw [register_of_added hadded, hinfo]
  -- the alias is the name again, so nothing more is claimed
  simp [Alba.info, claim, key_alba, halias, hlookup, List.lookup_append]

theorem register_alba_of_taken (h : r.Sound) (hl : Alba.lexer c.keywords = .ok l)
    (htaken : ¬ r.Free "alba") : (r.register l).registry = r := by
  apply register_of_refused
  rw [← Bool.not_eq_true, h.added_iff, Alba.info_of_lexer hl]
  exact key_alba ▸ htaken

theorem style?_alba (r : Registry) : r.style? "alba" = r.styles.lookup "alba" := by
  unfold style?
  rw [key_alba]

theorem registerStyle_alba_of_free (hs : Alba.configuredStyle c = .ok s)
    (hfree : r.styles.lookup "alba" = none) :
    (r.registerStyle s).registry.styles = r.styles ++ [("alba", s)] := by
  have hname := Alba.name_of_configuredStyle hs
  rw [← style?_alba, ← hname] at hfree
  rw [registerStyle_of_free hfree, hname, key_alba]

theorem registerStyle_alba_of_taken (hs : Alba.configuredStyle c = .ok s)
    (htaken : r.styles.lookup "alba" ≠ none) : (r.registerStyle s).registry = r := by
  rw [← style?_alba, ← Alba.name_of_configuredStyle hs] at htaken
  exact registerStyle_of_taken htaken

/-- There is a lexer and a style by the name of Alba. -/
structure Settled (r : Registry) : Prop where
  lexer : ∃ l, r.byName? "alba" = some l
  style : ∃ s, r.style? "alba" = some s

theorem Settled.of_keeps (h : r.Settled) (hkeeps : Keeps r r') : r'.Settled := by
  obtain ⟨⟨l, hl⟩, s, hs⟩ := h
  exact ⟨⟨l, hkeeps.byName _ l hl⟩, s, hkeeps.style _ s hs⟩

theorem settled_setup (h : r.Sound) {m : Metadata} (hok : (r.setup c).outcome = .ok m) :
    (r.setup c).registry.Settled := by
  obtain ⟨l, s, hl, hs, hnext⟩ := setup_of_ok hok
  have hlexer := h.exists_byName? l
  have hstyle := exists_style? (r.register l).registry s
  rw [Alba.info_of_lexer hl] at hlexer
  rw [Alba.name_of_configuredStyle hs] at hstyle
  obtain ⟨owner, howner⟩ := hlexer
  rw [hnext]
  exact ⟨⟨owner, (keeps_registerStyle _ s).byName _ owner howner⟩, hstyle⟩

theorem Settled.setup_eq (h : r.Settled) (hr : r.Sound) (c : Config) : (r.setup c).registry = r := by
  obtain ⟨⟨owner, howner⟩, t, ht⟩ := h
  obtain ⟨e, _, _, hsame⟩ | ⟨l, s, hl, hs, _, hnext⟩ := setup_cases r c
  · exact hsame
  · have htaken : ¬ r.Free "alba" := by
      rw [← key_alba, ← hr.byName?_eq_none, howner]
      simp
    have hstyle : r.styles.lookup "alba" ≠ none := by
      rw [← style?_alba, ht]
      simp
    rw [hnext, register_alba_of_taken hr hl htaken, registerStyle_alba_of_taken hs hstyle]

/-! ## The law -/

/-- The laws of a setup. -/
structure SetupLaws (r : Registry) (c : Config) : Prop where
  succeeds : (r.setup c).outcome = .ok .current ↔ c.Readable
  fails : ∀ e, (r.setup c).outcome = .error e ↔ ∃ k fault, c.FirstFault k fault ∧ e = .style fault
  unchanged : ∀ e, (r.setup c).outcome = .error e → (r.setup c).registry = r
  lexerAdded : ∀ m, (r.setup c).outcome = .ok m → r.Free "alba" →
    ∃ l, Alba.lexer c.keywords = .ok l ∧
      (r.setup c).registry.entries = r.entries ++ [⟨l, (readGlobs l.info).1⟩] ∧
      (r.setup c).registry.names = r.names ++ [("alba", r.entries.length)]
  lexerKept : ∀ m, (r.setup c).outcome = .ok m → ¬ r.Free "alba" →
    (r.setup c).registry.entries = r.entries ∧ (r.setup c).registry.names = r.names
  styleAdded : ∀ m, (r.setup c).outcome = .ok m → r.styles.lookup "alba" = none →
    ∃ s, Alba.configuredStyle c = .ok s ∧ (r.setup c).registry.styles = r.styles ++ [("alba", s)]
  styleKept : ∀ m, (r.setup c).outcome = .ok m → r.styles.lookup "alba" ≠ none →
    (r.setup c).registry.styles = r.styles
  keeps : Keeps r (r.setup c).registry
  /-- After a setup that succeeds, and any calls that follow, all others change nothing. -/
  once : ∀ m, (r.setup c).outcome = .ok m → ∀ calls c',
    (((r.setup c).registry.performAll calls).setup c').registry =
      (r.setup c).registry.performAll calls

/-- Whatever calls came before, a setup lands as a whole or not at all, and one that lands is the
only one. -/
theorem a_setup_lands_whole_and_once (calls : List Call) (c : Config) :
    SetupLaws (empty.performAll calls) c := by
  have hr : (empty.performAll calls).Sound := sound_performAll knows_empty calls
  generalize empty.performAll calls = r at hr
  refine ⟨setup_eq_ok, fun _ => setup_eq_error, fun _ => setup_of_error, ?_, ?_, ?_, ?_,
    keeps_setup r c, ?_⟩
  · intro m hok hfree
    obtain ⟨l, s, hl, _, hnext⟩ := setup_of_ok hok
    obtain ⟨hentries, hnames⟩ := registerStyle_entries (r.register l).registry s
    rw [hnext, hentries, hnames, register_alba_of_free hr hl hfree]
    exact ⟨l, hl, rfl, rfl⟩
  · intro m hok htaken
    obtain ⟨l, s, hl, _, hnext⟩ := setup_of_ok hok
    rw [hnext, register_alba_of_taken hr hl htaken]
    exact registerStyle_entries r s
  · intro m hok hfree
    obtain ⟨l, s, _, hs, hnext⟩ := setup_of_ok hok
    rw [← register_styles r l] at hfree ⊢
    rw [hnext]
    exact ⟨s, hs, registerStyle_alba_of_free hs hfree⟩
  · intro m hok htaken
    obtain ⟨l, s, _, hs, hnext⟩ := setup_of_ok hok
    rw [← register_styles r l] at htaken ⊢
    rw [hnext, registerStyle_alba_of_taken hs htaken]
  · intro m hok calls c'
    have hsettled := (settled_setup hr hok).of_keeps (keeps_performAll _ calls)
    exact hsettled.setup_eq (sound_performAll (sound_setup hr c) calls) c'

end Registry

end Highlighter
