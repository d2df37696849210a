-- How the attributes of a category come about: the words of the default, then those of the rules down
-- the lineage, from the last rule on that is cut off. On each attribute the last word decides. Of the
-- entries of one category only the last one counts.
import Highlighter.Style.Basic
import Mathlib.Data.List.Basic
import Mathlib.Data.List.Induction

namespace Highlighter

/-! ## Single attributes -/

/-- What a style says of a category. -/
inductive Attribute where
  | color
  | background
  | border
  | bold
  | italic
  | underline
  | font
  deriving DecidableEq

/-- What an attribute can be. -/
abbrev Attribute.Value : Attribute → Type
  | color => Option Color
  | background => Option Color
  | border => Option Color
  | bold => Bool
  | italic => Bool
  | underline => Bool
  | font => Option Font

/-- An attribute by itself. -/
def Attributes.get (a : Attributes) : (x : Attribute) → x.Value
  | .color => a.color
  | .background => a.background
  | .border => a.border
  | .bold => a.bold
  | .italic => a.italic
  | .underline => a.underline
  | .font => a.font

theorem Attributes.ext_get {a b : Attributes} (h : ∀ x, a.get x = b.get x) : a = b := by
  cases a
  cases b
  rw [Attributes.mk.injEq]
  exact ⟨h .color, h .background, h .border, h .bold, h .italic, h .underline, h .font⟩

namespace StyleWord

/-- What the word sets an attribute to, if it is about it. -/
def sets? : StyleWord → (x : Attribute) → Option x.Value
  | color c, .color => some (some c)
  | background c, .background => some c
  | border c, .border => some c
  | bold on, .bold => some on
  | italic on, .italic => some on
  | underline on, .underline => some on
  | font f, .font => some (some f)
  | _, _ => none

theorem get_apply (a : Attributes) (word : StyleWord) (x : Attribute) :
    (apply a word).get x = (word.sets? x).getD (a.get x) := by
  cases word <;> cases x <;> rfl

/-- What the last word that is about an attribute sets it to. -/
def lastSet? (words : List StyleWord) (x : Attribute) : Option x.Value :=
  (words.filterMap (·.sets? x)).getLast?

/-- After some words an attribute is what the last word about it says. -/
theorem get_foldl_apply (words : List StyleWord) (a : Attributes) (x : Attribute) :
    (words.foldl apply a).get x = (lastSet? words x).getD (a.get x) := by
  induction words generalizing a with
  | nil => rfl
  | cons word words ih =>
    rw [List.foldl_cons, ih, get_apply]
    unfold lastSet?
    rcases hword : word.sets? x with _ | v
    · simp [hword]
    · simp [hword, List.getLast?_cons]

end StyleWord

namespace Style

/-! ## The cascade -/

/-- The part of a list from the last member on that passes the test, or all of it if none does. -/
def fromLast {α : Type} (test : α → Bool) : List α → List α
  | [] => []
  | a :: rest => if rest.any test then fromLast test rest else a :: rest

/-- The categories whose words count, from the last one of the lineage on that does not inherit. -/
def chain (words : Kind → List StyleWord) (k : Kind) : List Kind :=
  fromLast (fun a => (words a).contains .noInherit) k.lineage

/-- All attributes are what the last word about them says: of the default, then of the categories of
the chain. What no word is about is as in plain text. -/
def DecidedBy (s : Style) (default : List StyleWord) (words : Kind → List StyleWord) : Prop :=
  ∀ k x, (s.attributes k).get x =
    (StyleWord.lastSet? (default ++ (chain words k).flatMap words) x).getD (Attributes.plain.get x)

theorem fromLast_of_none {α : Type} {test : α → Bool} {l : List α} (h : l.any test = false) :
    fromLast test l = l := by
  cases l with
  | nil => rfl
  | cons a rest =>
    rw [List.any_cons, Bool.or_eq_false_iff] at h
    simp [fromLast, h.2]

section

variable {s : Style} {words : Kind → List StyleWord}

theorem descend_eq (hwords : ∀ k, words k = ((s.rules.get? k).map (·.words)).getD []) (a : Attributes)
    (k : Kind) : s.descend a k =
      (words k).foldl StyleWord.apply (if (words k).contains .noInherit then s.base else a) := by
  rw [hwords]
  unfold descend
  rcases s.rules.get? k with _ | r
  · rfl
  · unfold StyleRule.apply StyleRule.inherits
    rcases r.words.contains .noInherit <;> simp

/-- Going down a lineage, only the part from the last cut on counts. It starts from the attributes of
the default if there is a cut. -/
theorem foldl_descend (hwords : ∀ k, words k = ((s.rules.get? k).map (·.words)).getD [])
    (lineage : List Kind) (a : Attributes) :
    lineage.foldl s.descend a =
      ((fromLast (fun k => (words k).contains .noInherit) lineage).flatMap words).foldl
        StyleWord.apply
        (if lineage.any (fun k => (words k).contains .noInherit) then s.base else a) := by
  induction lineage generalizing a with
  | nil => rfl
  | cons k rest ih =>
    rw [List.foldl_cons, ih, List.any_cons, fromLast]
    rcases hrest : rest.any (fun k => (words k).contains .noInherit) with _ | _
    · rw [fromLast_of_none hrest, descend_eq hwords]
      simp
    · -- A later cut starts over, whatever this category adds.
      simp

end

/-! ## Entries -/

/-- The rule of the last entry of a category. -/
def lastRule? (entries : List (Kind × String)) (k : Kind) : Option StyleRule :=
  ((entries.filter fun e => e.1 == k).getLast?).bind fun e => (StyleRule.read e.2).toOption

/-- The words of the last entry of a category. -/
def lastWords (entries : List (Kind × String)) (k : Kind) : List StyleWord :=
  ((lastRule? entries k).map (·.words)).getD []

/-- A style that is built and then overridden several times. -/
def buildAll (name default : String) (entries : List (Kind × String))
    (later : List (List (Kind × String))) : Except StyleError Style :=
  (build name default entries).bind fun s => later.foldlM override s

end Style

/-- Why a rule cannot be read, if it cannot. -/
def StyleRule.fault? (rule : String) : Option StyleError :=
  match read rule with
  | .ok _ => none
  | .error e => some e

namespace Style

theorem override_append (s : Style) (entries more : List (Kind × String)) :
    s.override (entries ++ more) = (s.override entries).bind (·.override more) := by
  induction entries generalizing s with
  | nil => rfl
  | cons e entries ih =>
    obtain ⟨k, rule⟩ := e
    simp only [List.cons_append, override]
    rcases s.set k rule with _ | t
    · rfl
    · exact ih t

theorem build_append (name default : String) (entries more : List (Kind × String)) :
    build name default (entries ++ more) = (build name default entries).bind (·.override more) := by
  unfold build
  split
  · exact override_append _ entries more
  · rfl

/-- It does not matter how entries are spread over a build and later overrides. -/
theorem buildAll_eq (name default : String) (entries : List (Kind × String))
    (later : List (List (Kind × String))) :
    buildAll name default entries later = build name default (entries ++ later.flatten) := by
  unfold buildAll
  induction later generalizing entries with
  | nil =>
    rw [List.flatten_nil, List.append_nil]
    cases build name default entries <;> rfl
  | cons more later ih =>
    rw [List.flatten_cons, ← List.append_assoc, ← ih, build_append]
    cases build name default entries <;> rfl

theorem override_eq_error (s : Style) (entries : List (Kind × String)) (e : StyleError) :
    s.override entries = .error e ↔
      (entries.map (·.2)).findSome? StyleRule.fault? = some e := by
  induction entries generalizing s with
  | nil => simp [override]
  | cons entry entries ih =>
    obtain ⟨k, rule⟩ := entry
    unfold override set
    rcases hread : StyleRule.read rule with e' | r
    · simp [StyleRule.fault?, hread]
    · simp [StyleRule.fault?, hread, ih]

theorem build_eq_error (name default : String) (entries : List (Kind × String)) (e : StyleError) :
    build name default entries = .error e ↔
      (default :: entries.map (·.2)).findSome? StyleRule.fault? = some e := by
  unfold build
  rcases hread : StyleRule.read default with e' | r
  · simp [StyleRule.fault?, hread]
  · simp [StyleRule.fault?, hread, override_eq_error]

theorem exists_buildAll (name default : String) (entries : List (Kind × String))
    (later : List (List (Kind × String)))
    (h : (default :: (entries ++ later.flatten).map (·.2)).findSome? StyleRule.fault? = none) :
    ∃ s, buildAll name default entries later = .ok s := by
  rcases hbuild : buildAll name default entries later with e | s
  · rw [buildAll_eq, build_eq_error, h] at hbuild
    cases hbuild
  · exact ⟨s, rfl⟩

theorem lastRule?_append (entries : List (Kind × String)) (k j : Kind) (rule : String) :
    lastRule? (entries ++ [(j, rule)]) k =
      if k = j then (StyleRule.read rule).toOption else lastRule? entries k := by
  unfold lastRule?
  by_cases hk : k = j
  · subst hk
    simp
  · simp [hk, Ne.symm hk]

/-- What is known of a style after a build: its base is that of the default, and its rules are those of
the last entries. -/
theorem build_spec {name default : String} {entries : List (Kind × String)} {s : Style}
    (h : build name default entries = .ok s) :
    ∃ r, StyleRule.read default = .ok r ∧ s.base = r.apply .plain ∧
      ∀ k, s.rules.get? k = lastRule? entries k := by
  induction entries using List.reverseRecOn generalizing s with
  | nil =>
    unfold build at h
    split at h
    · cases h
      exact ⟨_, ‹_›, rfl, fun _ => rfl⟩
    · cases h
  | append_singleton entries e ih =>
    obtain ⟨j, rule⟩ := e
    rw [build_append] at h
    rcases hbuild : build name default entries with e | t
    · rw [hbuild] at h
      cases h
    · obtain ⟨r, hr, hbase, hrules⟩ := ih hbuild
      rw [hbuild] at h
      change t.override [(j, rule)] = .ok s at h
      unfold override set at h
      rcases hread : StyleRule.read rule with e | r'
      · rw [hread] at h
        cases h
      · rw [hread] at h
        cases h
        refine ⟨r, hr, hbase, fun k => ?_⟩
        rw [KindMap.get?_insert, lastRule?_append, hread, hrules]
        rfl

theorem decidedBy_of_build {name default : String} {entries : List (Kind × String)} {s : Style}
    (h : build name default entries = .ok s) :
    ∃ r, StyleRule.read default = .ok r ∧ s.DecidedBy r.words (lastWords entries) := by
  obtain ⟨r, hr, hbase, hrules⟩ := build_spec h
  refine ⟨r, hr, fun k x => ?_⟩
  have hwords : ∀ k, lastWords entries k = ((s.rules.get? k).map (·.words)).getD [] := fun k => by
    rw [hrules]
    rfl
  unfold attributes chain
  rw [foldl_descend hwords, ite_self, hbase]
  unfold StyleRule.apply
  rw [← List.foldl_append, StyleWord.get_foldl_apply]

/-! ## The place of a cut -/

end Style

namespace StyleWord

/-- The same words up to where they say not to inherit. -/
structure SameUpToCuts (words words' : List StyleWord) : Prop where
  others : words.filter (· != .noInherit) = words'.filter (· != .noInherit)
  cuts : words.contains .noInherit = words'.contains .noInherit

theorem lastSet?_filter (words : List StyleWord) (x : Attribute) :
    lastSet? (words.filter (· != .noInherit)) x = lastSet? words x := by
  unfold lastSet?
  rw [List.filterMap_filter]
  congr 2
  funext word
  by_cases hword : word = .noInherit
  · subst hword
    cases x <;> rfl
  · simp [hword]

end StyleWord

namespace Style

theorem DecidedBy.of_sameUpToCuts {s : Style} {default default' : List StyleWord}
    {words words' : Kind → List StyleWord} (h : s.DecidedBy default words)
    (hdefault : StyleWord.SameUpToCuts default default')
    (hwords : ∀ k, StyleWord.SameUpToCuts (words k) (words' k)) : s.DecidedBy default' words' := by
  intro k x
  have hchain : chain words k = chain words' k := by
    unfold chain
    simp only [(hwords _).cuts]
  rw [h k x, ← StyleWord.lastSet?_filter, ← StyleWord.lastSet?_filter (default' ++ _), hchain]
  simp only [List.filter_append, List.filter_flatMap, hdefault.others, (hwords _).others]

theorem DecidedBy.attributes_eq {s s' : Style} {default : List StyleWord}
    {words : Kind → List StyleWord} (h : s.DecidedBy default words)
    (h' : s'.DecidedBy default words) : s.attributes = s'.attributes := by
  funext k
  exact Attributes.ext_get fun x => by rw [h, h']

/-! ## The law -/

/-- A build with later overrides fails just if some rule cannot be read, with the fault of the first.
Otherwise the last word about an attribute decides, of the default and then of the last rules down the
lineage from the last cut on. Where in its rule a cut stands is of no account. -/
theorem the_last_word_decides (name default : String) (entries : List (Kind × String))
    (later : List (List (Kind × String))) :
    (∀ e, buildAll name default entries later = .error e ↔
      (default :: (entries ++ later.flatten).map (·.2)).findSome? StyleRule.fault? = some e) ∧
    (∀ s, buildAll name default entries later = .ok s →
      ∃ r, StyleRule.read default = .ok r ∧
        s.DecidedBy r.words (lastWords (entries ++ later.flatten)) ∧
        ∀ name' default' entries' later' s' r',
          buildAll name' default' entries' later' = .ok s' → StyleRule.read default' = .ok r' →
          StyleWord.SameUpToCuts r.words r'.words →
          (∀ k, StyleWord.SameUpToCuts (lastWords (entries ++ later.flatten) k)
            (lastWords (entries' ++ later'.flatten) k)) →
          s'.attributes = s.attributes) := by
  refine ⟨fun e => ?_, fun s hs => ?_⟩
  · rw [buildAll_eq, build_eq_error]
  · rw [buildAll_eq] at hs
    obtain ⟨r, hr, hdecided⟩ := decidedBy_of_build hs
    refine ⟨r, hr, hdecided, ?_⟩
    intro name' default' entries' later' s' r' hs' hr' hdefault hwords
    rw [buildAll_eq] at hs'
    obtain ⟨r₂, hr₂, hdecided'⟩ := decidedBy_of_build hs'
    obtain rfl : r₂ = r' := Except.ok.inj (hr₂.symm.trans hr')
    exact hdecided'.attributes_eq (hdecided.of_sameUpToCuts hdefault hwords)

/-- The cut in the second entry keeps the first one out, wherever it stands, but not the default. -/
theorem the_last_word_decides_in_a_sample :
    ∃ s s', buildAll "day" "italic" [(.comment, "bold"), (.commentMultiline, "#123 noinherit")]
        [[(.comment, "underline")]] = .ok s ∧
      buildAll "night" "italic" [(.commentMultiline, "noinherit #123"), (.comment, "underline")] []
        = .ok s' ∧
      (s.attributes .commentMultiline).get .underline = false ∧
      (s.attributes .commentMultiline).get .italic = true ∧
      s'.attributes = s.attributes := by
  have hread : StyleRule.read "italic" = .ok ⟨[.italic true]⟩ := by decide +kernel
  obtain ⟨s, hs⟩ := exists_buildAll "day" "italic"
    [(.comment, "bold"), (.commentMultiline, "#123 noinherit")] [[(.comment, "underline")]]
    (by decide +kernel)
  obtain ⟨s', hs'⟩ := exists_buildAll "night" "italic"
    [(.commentMultiline, "noinherit #123"), (.comment, "underline")] [] (by decide +kernel)
  obtain ⟨r, hr, hlast, hsame⟩ := (the_last_word_decides _ _ _ _).2 s hs
  obtain rfl : r = ⟨[.italic true]⟩ := Except.ok.inj (hr.symm.trans hread)
  refine ⟨s, s', hs, hs', ?_, ?_, ?_⟩
  · rw [hlast]
    decide +kernel
  · rw [hlast]
    decide +kernel
  · refine hsame _ _ _ _ s' _ hs' hread ⟨rfl, rfl⟩ fun k => ?_
    cases k <;> exact ⟨by decide +kernel, by decide +kernel⟩

end Style

end Highlighter
