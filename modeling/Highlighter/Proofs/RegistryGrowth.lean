-- What registrations keep. A registry only grows at its end: what it finds, it goes on to find, and its
-- names go on to fit its lexers. After a registration the name of the newcomer leads somewhere.
import Highlighter.Proofs.Registrations

namespace Highlighter

namespace Registry

/-! ## What a registry keeps -/

/-- What the first registry finds, the second one finds as well. -/
structure Keeps (r r' : Registry) : Prop where
  byName : ∀ q l, r.byName? q = some l → r'.byName? q = some l
  forFilename : ∀ filename l, r.forFilename? filename = some l → r'.forFilename? filename = some l
  forPath : ∀ path l, r.forPath? path = some l → r'.forPath? path = some l
  forMimetype : ∀ mimetype l, r.forMimetype? mimetype = some l → r'.forMimetype? mimetype = some l
  style : ∀ q s, r.style? q = some s → r'.style? q = some s
  lexerNames : r.lexerNames <+: r'.lexerNames

variable {r r' r'' : Registry} {l : Lexer} {s : Style}

theorem Keeps.refl (r : Registry) : Keeps r r :=
  ⟨fun _ _ h => h, fun _ _ h => h, fun _ _ h => h, fun _ _ h => h, fun _ _ h => h, List.prefix_rfl⟩

theorem Keeps.trans (h : Keeps r r') (h' : Keeps r' r'') : Keeps r r'' :=
  ⟨fun q l hl => h'.byName q l (h.byName q l hl),
    fun filename l hl => h'.forFilename filename l (h.forFilename filename l hl),
    fun path l hl => h'.forPath path l (h.forPath path l hl),
    fun mimetype l hl => h'.forMimetype mimetype l (h.forMimetype mimetype l hl),
    fun q s hs => h'.style q s (h.style q s hs), h.lexerNames.trans h'.lexerNames⟩

/-- More lexers at the end, and more names for them, hide nothing. -/
theorem Keeps.of_append {more : List RegistryEntry} (hentries : r'.entries = r.entries ++ more)
    (hnames : ∀ k i, r.names.lookup k = some i → r'.names.lookup k = some i)
    (hstyles : r'.styles = r.styles) : Keeps r r' := by
  have hfind : ∀ (test : RegistryEntry → Bool) l,
      (r.entries.find? test).map (·.lexer) = some l →
        (r'.entries.find? test).map (·.lexer) = some l := by
    intro test l hl
    obtain ⟨entry, hentry, rfl⟩ := Option.map_eq_some_iff.1 hl
    rw [hentries, List.find?_append, hentry]
    rfl
  refine ⟨?_, fun filename => hfind _, ?_, fun mimetype => hfind _, ?_, ?_⟩
  · intro q l hl
    obtain ⟨i, hi, hl⟩ := Option.bind_eq_some_iff.1 hl
    obtain ⟨entry, hentry, rfl⟩ := Option.map_eq_some_iff.1 hl
    have hlt := (List.getElem?_eq_some_iff.1 hentry).1
    unfold byName?
    rw [hnames _ i hi, Option.bind_some, hentries, List.getElem?_append_left hlt, hentry]
    rfl
  · intro path l hl
    obtain ⟨filename, hfilename, hl⟩ := Option.bind_eq_some_iff.1 hl
    unfold forPath?
    rw [hfilename, Option.bind_some]
    exact hfind _ l hl
  · intro q s hs
    unfold style? at hs ⊢
    rwa [hstyles]
  · unfold Registry.lexerNames
    rw [hentries, List.map_append]
    exact List.prefix_append _ _

theorem keeps_register (r : Registry) (l : Lexer) : Keeps r (r.register l).registry := by
  cases hadded : (r.register l).added with
  | false =>
    rw [register_of_refused hadded]
    exact .refl r
  | true =>
    rw [register_of_added hadded]
    refine .of_append rfl ?_ rfl
    intro k i hi
    rw [lookup_claim, hi]
    rfl

theorem registerStyle_of_taken (h : r.style? s.name ≠ none) :
    (r.registerStyle s).registry = r := by
  unfold style? at h
  unfold registerStyle
  dsimp only
  rw [if_pos (Option.isSome_iff_ne_none.2 h)]

theorem registerStyle_of_free (h : r.style? s.name = none) :
    (r.registerStyle s).registry = { r with styles := r.styles ++ [(key s.name, s)] } := by
  unfold style? at h
  unfold registerStyle
  simp [h]

theorem keeps_registerStyle (r : Registry) (s : Style) : Keeps r (r.registerStyle s).registry := by
  by_cases hfree : r.style? s.name = none
  · rw [registerStyle_of_free hfree]
    refine ⟨fun _ _ h => h, fun _ _ h => h, fun _ _ h => h, fun _ _ h => h, ?_, List.prefix_rfl⟩
    intro q t ht
    unfold style? at ht ⊢
    rw [List.lookup_append, ht]
    rfl
  · rw [registerStyle_of_taken hfree]
    exact .refl r

/-! ## The names of a registry -/

/-- The lexers in the order of their registration. -/
def lexers (r : Registry) : List Lexer := r.entries.map (·.lexer)

/-- The names of a registry fit its lexers. -/
def Sound (r : Registry) : Prop := Knows r r.lexers

/-- No lexer has a name or an alias with this key. -/
def Free (r : Registry) (k : String) : Prop := ∀ l ∈ r.lexers, l.goesBy k = false

theorem Sound.added_iff (h : r.Sound) : (r.register l).added = true ↔ r.Free (key l.info.name) :=
  Knows.added_iff h

theorem Sound.byName?_eq_none (h : r.Sound) {q : String} : r.byName? q = none ↔ r.Free (key q) := by
  rw [Knows.byName?_eq h, List.find?_eq_none]
  unfold Free
  simp

theorem register_styles (r : Registry) (l : Lexer) :
    (r.register l).registry.styles = r.styles := by
  cases hadded : (r.register l).added with
  | false => rw [register_of_refused hadded]
  | true => rw [register_of_added hadded]

theorem registerStyle_entries (r : Registry) (s : Style) :
    (r.registerStyle s).registry.entries = r.entries ∧
      (r.registerStyle s).registry.names = r.names := by
  by_cases hfree : r.style? s.name = none
  · rw [registerStyle_of_free hfree]
    exact ⟨rfl, rfl⟩
  · rw [registerStyle_of_taken hfree]
    exact ⟨rfl, rfl⟩

theorem sound_register (h : r.Sound) (l : Lexer) : (r.register l).registry.Sound := by
  cases hadded : (r.register l).added with
  | false =>
    rw [register_of_refused hadded]
    exact h
  | true =>
    have hnext := h.add hadded
    unfold Sound lexers
    rw [hnext.lexers]
    exact hnext

theorem sound_registerStyle (h : r.Sound) (s : Style) : (r.registerStyle s).registry.Sound := by
  obtain ⟨hentries, hnames⟩ := registerStyle_entries r s
  unfold Sound lexers
  rw [hentries]
  refine ⟨by rw [hentries], ?_, ?_, h.unclaimed⟩
  · rw [hnames]
    exact h.first
  · rw [hnames, hentries]
    exact h.inRange

/-- After a registration the name leads somewhere, if only to the lexer that had it before. -/
theorem Sound.exists_byName? (h : r.Sound) (l : Lexer) :
    ∃ owner, (r.register l).registry.byName? l.info.name = some owner := by
  rw [← Option.ne_none_iff_exists']
  cases hadded : (r.register l).added with
  | false =>
    rw [register_of_refused hadded, ne_eq, h.byName?_eq_none, ← h.added_iff, hadded]
    simp
  | true =>
    rw [ne_eq, (sound_register h l).byName?_eq_none]
    intro hfree
    have hmem : l ∈ (r.register l).registry.lexers := by
      rw [register_of_added hadded]
      simp [lexers]
    have hown := hfree l hmem
    rw [l.goesBy_name] at hown
    cases hown

theorem exists_style? (r : Registry) (s : Style) :
    ∃ owner, (r.registerStyle s).registry.style? s.name = some owner := by
  cases hlookup : r.style? s.name with
  | none =>
    rw [registerStyle_of_free hlookup]
    unfold style? at hlookup ⊢
    simp [List.lookup_append, hlookup]
  | some owner =>
    rw [registerStyle_of_taken (by simp [hlookup])]
    exact ⟨owner, hlookup⟩

end Registry

end Highlighter
