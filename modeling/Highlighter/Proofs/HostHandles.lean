-- The law of handles. A handle is made by itself, without a registry, but it is there just if a setup of
-- the empty registry succeeds, it fails with the same text, and it answers as the lexer and the style
-- that the setup leaves under the name of Alba.
import Highlighter.Host.Handle
import Highlighter.Proofs.Kinds
import Highlighter.Proofs.Setups

namespace Highlighter

/-- The configuration in a text, or the default one. -/
def Config.given : Option String → Except ConfigError Config
  | none => .ok .default
  | some text => Config.read text

section

variable {c : Config} {l : Lexer} {s : Style} {e : StyleError}

/-- In a registry that was empty, the name of Alba leads to what the setup registered. -/
theorem Registry.found_after_setup (hl : Alba.lexer c.keywords = .ok l)
    (hs : Alba.configuredStyle c = .ok s)
    (hnext : (empty.setup c).registry = ((empty.register l).registry.registerStyle s).registry) :
    (empty.setup c).registry.byName? "alba" = some l ∧
      (empty.setup c).registry.style? "alba" = some s := by
  have hfree : empty.Free "alba" := by
    intro a ha
    cases ha
  have hregister := register_alba_of_free knows_empty hl hfree
  have hstyles : (empty.register l).registry.styles.lookup "alba" = none := by
    rw [register_styles]
    rfl
  obtain ⟨hentries, hnames⟩ := registerStyle_entries (empty.register l).registry s
  constructor
  · unfold byName?
    rw [hnext, hentries, hnames, hregister, key_alba]
    simp [empty]
  · rw [style?_alba, hnext, registerStyle_alba_of_free hs hstyles, register_styles]
    simp [empty]

namespace Host.Handle

/-! ## Making a handle -/

theorem make_of_given {config? : Option String} (h : Config.given config? = .ok c) :
    make config? = ofConfig c := by
  cases config? with
  | none =>
    cases h
    rfl
  | some text =>
    unfold Config.given at h
    unfold make
    dsimp only at h ⊢
    rw [h]

theorem make_of_fault {config? : Option String} {e : ConfigError}
    (h : Config.given config? = .error e) : (make config?).1 = .error (.config e.message) := by
  cases config? with
  | none => cases h
  | some text =>
    unfold Config.given at h
    unfold make
    dsimp only at h ⊢
    rw [h]
    rfl

theorem ofConfig_of_ok (hl : Alba.lexer c.keywords = .ok l) (hs : Alba.configuredStyle c = .ok s) :
    (ofConfig c).1 = .ok ⟨l, s⟩ := by
  unfold ofConfig
  rw [hl, hs]

theorem ofConfig_of_error (h : Alba.configuredStyle c = .error e) :
    (ofConfig c).1 = .error (.style e.message) := by
  obtain ⟨l, hl⟩ := Alba.lexer_ok c.keywords
  unfold ofConfig
  rw [hl, h]
  rfl

/-- There is no configuration, or its setup fails, or a handle is made of what the setup registers. -/
theorem make_cases (config? : Option String) :
    (∃ e, Config.given config? = .error e ∧ (make config?).1 = .error (.config e.message)) ∨
    (∃ c fault, Config.given config? = .ok c ∧
      (Registry.empty.setup c).outcome = .error (.style fault) ∧
      (make config?).1 = .error (.style fault.message)) ∨
    ∃ c l s, Config.given config? = .ok c ∧ (Registry.empty.setup c).outcome = .ok .current ∧
      (Registry.empty.setup c).registry.byName? "alba" = some l ∧
      (Registry.empty.setup c).registry.style? "alba" = some s ∧
      (make config?).1 = .ok ⟨l, s⟩ := by
  cases hgiven : Config.given config? with
  | error e => exact Or.inl ⟨e, rfl, make_of_fault hgiven⟩
  | ok c =>
    rw [make_of_given hgiven]
    obtain ⟨fault, hfault, herror, _⟩ | ⟨l, s, hl, hs, hok, hnext⟩ :=
      Registry.setup_cases Registry.empty c
    · exact Or.inr (Or.inl ⟨c, fault, rfl, herror, ofConfig_of_error hfault⟩)
    · obtain ⟨hlexer, hstyle⟩ := Registry.found_after_setup hl hs hnext
      exact Or.inr (Or.inr ⟨c, l, s, rfl, hok, hlexer, hstyle, ofConfig_of_ok hl hs⟩)

/-! ## The answers of a handle -/

/-- The handle answers as the lexer and the style do, in the host's view. -/
structure Presents (h : Handle) (l : Lexer) (s : Style) : Prop where
  tokens : ∀ source, h.tokenize source = (l.tokenize source).map Token.of
  highlights : ∀ source, h.highlight source = (l.highlight source).map Highlight.of
  named : ∀ name k, Kind.Named name k → h.styleFor name = .ok (.of (s.attributes k))
  unnamed : ∀ name, (∀ k, ¬ Kind.Named name k) → h.styleFor name = .error (.unknownCategory name)

theorem presents (l : Lexer) (s : Style) : Presents ⟨l, s⟩ l s := by
  refine ⟨fun _ => rfl, fun _ => rfl, ?_, ?_⟩
  · intro name k hname
    unfold styleFor
    rw [Kind.read_eq_ok.2 hname]
  · intro name hname
    unfold styleFor
    rw [Kind.read_eq_error.2 ⟨hname, rfl⟩]
    rfl

/-! ## The law -/

/-- The laws of a handle beside those of a registry. -/
structure HandleLaws (config? : Option String) : Prop where
  opens : (∃ h, (make config?).1 = .ok h) ↔
    ∃ c m, Config.given config? = .ok c ∧ (Registry.empty.setup c).outcome = .ok m
  config : ∀ e, Config.given config? = .error e → (make config?).1 = .error (.config e.message)
  style : ∀ c e, Config.given config? = .ok c → (Registry.empty.setup c).outcome = .error e →
    ∃ fault, e = .style fault ∧ (make config?).1 = .error (.style fault.message)
  answers : ∀ h, (make config?).1 = .ok h → ∃ c l s, Config.given config? = .ok c ∧
    (Registry.empty.setup c).registry.byName? "alba" = some l ∧
    (Registry.empty.setup c).registry.style? "alba" = some s ∧ h.Presents l s

/-- A handle and a registry agree, whatever the text of the configuration. -/
theorem a_handle_answers_as_the_registry_does (config? : Option String) : HandleLaws config? := by
  obtain ⟨e, hgiven, hmake⟩ | ⟨c, fault, hgiven, hsetup, hmake⟩ |
    ⟨c, l, s, hgiven, hsetup, hlexer, hstyle, hmake⟩ := make_cases config?
  · refine ⟨?_, ?_, ?_, ?_⟩
    · simp [hgiven, hmake]
    · simp [hgiven, hmake]
    · simp [hgiven]
    · simp [hmake]
  · refine ⟨?_, ?_, ?_, ?_⟩
    · simp [hgiven, hsetup, hmake]
    · simp [hgiven]
    · intro c' e hc he
      rw [hgiven] at hc
      cases hc
      rw [hsetup] at he
      cases he
      exact ⟨fault, rfl, hmake⟩
    · simp [hmake]
  · refine ⟨?_, ?_, ?_, ?_⟩
    · simp [hgiven, hsetup, hmake]
    · simp [hgiven]
    · intro c' e hc he
      rw [hgiven] at hc
      cases hc
      rw [hsetup] at he
      cases he
    · intro h hh
      rw [hmake] at hh
      cases hh
      exact ⟨c, l, s, hgiven, hlexer, hstyle, presents l s⟩

end Host.Handle

end

end Highlighter
