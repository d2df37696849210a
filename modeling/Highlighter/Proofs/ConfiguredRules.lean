-- What a configuration with style rules is read as. Every rule must stand under a name of a category,
-- qualified or not; of the rules under names of one category the last one counts. So the order of rules
-- for different categories is of no account. All this holds however the text is written.
import Highlighter.Alba
import Highlighter.Proofs.WrittenConfigs

namespace Highlighter

namespace Config

open Json

/-! ## Texts with style rules -/

/-- The text is a configuration that has these style rules under these names, and no more. -/
inductive SpellsRules (pairs : List (String × String)) : String → Prop where
  | mk {config before after : List Char}
    (hconfig : ObjectSpelled (ObjectSpelled StringSpelled) config [("style_overrides", pairs)])
    (hbefore : Blanks before) (hafter : Blanks after) :
    SpellsRules pairs (String.ofList (before ++ config ++ after))

/-- The text of such a configuration without blanks, and with only the escapes that must be. -/
def rulesText (pairs : List (String × String)) : String :=
  String.ofList (object
    [("style_overrides", object (pairs.map fun (name, rule) => (name, Json.string rule)))])

theorem spellsRules_rulesText (pairs : List (String × String)) :
    SpellsRules pairs (rulesText pairs) := by
  have hrules : ObjectSpelled StringSpelled
      (object (pairs.map fun (name, rule) => (name, Json.string rule))) pairs := by
    apply spelled_object
    rw [List.forall₂_map_left_iff]
    exact List.forall₂_same.2 fun e _ => ⟨rfl, spelled_string e.2⟩
  have hconfig : ObjectSpelled (ObjectSpelled StringSpelled)
      (object [("style_overrides",
        object (pairs.map fun (name, rule) => (name, Json.string rule)))])
      [("style_overrides", pairs)] :=
    spelled_object (.cons ⟨rfl, hrules⟩ .nil)
  have htext := SpellsRules.mk hconfig blanks_nil blanks_nil
  rwa [List.nil_append, List.append_nil] at htext

/-- The rules whose names are names of categories, under these categories. -/
def entriesOf (pairs : List (String × String)) : List (Kind × String) :=
  pairs.filterMap fun e => (Kind.read? e.1).map (·, e.2)

/-- The configuration with these style rules. -/
def ofRules (pairs : List (String × String)) : Config :=
  ⟨.extended, KindMap.empty.insertAll (entriesOf pairs)⟩

/-- Every rule has the name of a category. -/
def AllNamed (pairs : List (String × String)) : Prop := ∀ e ∈ pairs, ∃ k, Kind.Named e.1 k

section

variable {pairs pairs' : List (String × String)} {texts : List (List Char)} {rules : List Char}
  {text text' : String}

/-! ## Reading -/

/-- Rules with names of categories are put in one after the other. -/
theorem loads_overrides (h : List.Forall₂ (MemberSpelled StringSpelled) texts pairs)
    (hnamed : AllNamed pairs) (overrides : KindMap String) :
    Loads overrideEntry overrides texts (overrides.insertAll (entriesOf pairs)) := by
  induction h generalizing overrides with
  | nil => exact .nil overrides
  | cons hmember _ ih =>
    cases hmember with
    | @mk _ _ _ _ _ rule hkey hbefore hafter hrule =>
      obtain ⟨⟨k, hk⟩, hnamed⟩ := List.forall_mem_cons.1 hnamed
      have hvalue := (reads_text hrule).after_blanks passesBlanks_text hafter
      have htail := ih hnamed (overrides.insert k rule)
      unfold entriesOf at htail ⊢
      rw [List.filterMap_cons, Kind.read?_eq_some.2 hk]
      exact .cons hkey (reads_overrideEntry hk hbefore hvalue overrides) htail

/-- A name that no category has is refused. -/
theorem refuses_overrideEntry {name : String} (h : ∀ k, ¬ Kind.Named name k)
    (overrides : KindMap String) (value : List Char) :
    Refuses (overrideEntry overrides name) value := by
  intro rest p
  unfold overrideEntry
  rw [Kind.read_eq_error.2 ⟨h, rfl⟩]
  dsimp only
  unfold refuse
  split
  · split
    · exact ⟨_, rfl⟩
    · exact ⟨_, rfl⟩
  · exact ⟨_, rfl⟩

/-- A name that no category has is met. -/
theorem stalls_overrides (h : List.Forall₂ (MemberSpelled StringSpelled) texts pairs)
    (hunnamed : ¬ AllNamed pairs) (overrides : KindMap String) :
    Stalls overrideEntry overrides texts := by
  induction h generalizing overrides with
  | nil => exact absurd (fun _ he => absurd he List.not_mem_nil) hunnamed
  | cons hmember _ ih =>
    cases hmember with
    | @mk _ _ _ _ name rule hkey hbefore hafter hrule =>
      by_cases hk : ∃ k, Kind.Named name k
      · obtain ⟨k, hk⟩ := hk
        have hvalue := (reads_text hrule).after_blanks passesBlanks_text hafter
        have hrest := fun hnamed => hunnamed (List.forall_mem_cons.2 ⟨⟨k, hk⟩, hnamed⟩)
        exact .later hkey (reads_overrideEntry hk hbefore hvalue overrides) (ih hrest _)
      · exact .here hkey (refuses_overrideEntry (not_exists.1 hk) overrides _)

theorem reads_overridesOfJson (h : ObjectSpelled StringSpelled rules pairs)
    (hnamed : AllNamed pairs) : Reads overridesOfJson rules (ofRules pairs).overrides := by
  obtain ⟨texts, body, htexts, hbody, rfl⟩ := h
  exact reads_mapping (loads_overrides htexts hnamed .empty) hbody rfl

theorem refuses_overridesOfJson (h : ObjectSpelled StringSpelled rules pairs)
    (hunnamed : ¬ AllNamed pairs) : Refuses overridesOfJson rules := by
  obtain ⟨texts, body, htexts, hbody, rfl⟩ := h
  exact refuses_mapping (stalls_overrides htexts hunnamed .empty) hbody

/-- A configuration of nothing but rules is read, or refused, as the text of its rules is. -/
theorem SpellsRules.exists_rules (h : SpellsRules pairs text) :
    ∃ rules, ObjectSpelled StringSpelled rules pairs ∧
      (∀ overrides, Reads overridesOfJson rules overrides →
        Config.read text = .ok ⟨.extended, overrides⟩) ∧
      (Refuses overridesOfJson rules → ∃ e, Config.read text = .error e) := by
  obtain ⟨⟨_, body, htexts, hbody, rfl⟩, hblanks, hend⟩ := h
  rcases htexts with _ | ⟨hmember, _ | _⟩
  cases hmember with
  | @mk _ _ _ rules _ _ hkey hbefore hafter hrules =>
    refine ⟨rules, hrules, fun overrides hread => ?_, fun hrefuse => ?_⟩
    · have hfield := (reads_field (hread.after_blanks passesBlanks_mapping hafter) hbefore
        "style_overrides").map fun overrides => (⟨none, some overrides⟩ : Draft)
      have hloads : Loads Draft.entry .empty _ ⟨none, some overrides⟩ :=
        .cons hkey hfield (.nil _)
      have hfinish : Draft.finish ⟨none, some overrides⟩ = .ok ⟨.extended, overrides⟩ := rfl
      have hrecord : Reads Config.ofJson (braced body) ⟨.extended, overrides⟩ :=
        reads_record hloads hbody hfinish _ _
      have htext := (hrecord.after_blanks passesBlanks_record hblanks).ofText hend
      unfold Config.read
      rw [htext]
      rfl
    · have hfield := (refuses_field (hrefuse.after_blanks passesBlanks_mapping hafter) hbefore
        "style_overrides").map fun overrides => (⟨none, some overrides⟩ : Draft)
      have hstalls : Stalls Draft.entry .empty [_] := .here hkey hfield
      have hrecord : Refuses Config.ofJson (braced body) := refuses_record hstalls hbody _ _
      obtain ⟨e, he⟩ := (hrecord.after_blanks passesBlanks_record hblanks).ofText _
      unfold Config.read
      rw [he]
      exact ⟨_, rfl⟩

theorem read_of_allNamed (h : SpellsRules pairs text) (hnamed : AllNamed pairs) :
    Config.read text = .ok (ofRules pairs) := by
  obtain ⟨rules, hrules, hok, _⟩ := h.exists_rules
  exact hok _ (reads_overridesOfJson hrules hnamed)

theorem read_of_not_allNamed (h : SpellsRules pairs text) (hunnamed : ¬ AllNamed pairs) :
    ∃ e, Config.read text = .error e := by
  obtain ⟨rules, hrules, _, herror⟩ := h.exists_rules
  exact herror (refuses_overridesOfJson hrules hunnamed)

theorem read_eq_ok (h : SpellsRules pairs text) {c : Config} :
    Config.read text = .ok c ↔ AllNamed pairs ∧ c = ofRules pairs := by
  by_cases hnamed : AllNamed pairs
  · rw [read_of_allNamed h hnamed]
    simp [hnamed, eq_comm]
  · obtain ⟨e, he⟩ := read_of_not_allNamed h hnamed
    simp [he, hnamed]

/-! ## The rule of a category -/

theorem get?_ofRules (pairs : List (String × String)) (k : Kind) :
    (ofRules pairs).overrides.get? k =
      pairs.reverse.findSome? fun e => if Kind.read? e.1 = some k then some e.2 else none := by
  unfold ofRules entriesOf
  rw [KindMap.get?_insertAll, KindMap.get?_empty, Option.or_none]
  unfold KindMap.latest?
  rw [List.filterMap_filterMap, List.getLast?_filterMap]
  congr 1
  funext e
  cases Kind.read? e.1 <;> simp

/-- The last rule under a name of a category is the rule of the category. -/
theorem ofRules_eq_some {k : Kind} {rule : String} :
    (ofRules pairs).overrides.get? k = some rule ↔
      ∃ before name after, pairs = before ++ (name, rule) :: after ∧ Kind.Named name k ∧
        ∀ e ∈ after, ¬ Kind.Named e.1 k := by
  rw [get?_ofRules, List.findSome?_eq_some_iff]
  simp only [Option.ite_none_right_eq_some, ite_eq_right_iff, reduceCtorEq, imp_false,
    Option.some.injEq, Kind.read?_eq_some]
  constructor
  · rintro ⟨after, e, before, hpairs, ⟨hname, rfl⟩, hafter⟩
    refine ⟨before.reverse, e.1, after.reverse, ?_, hname, ?_⟩
    · rw [List.reverse_eq_iff.1 hpairs]
      simp
    · simpa using hafter
  · rintro ⟨before, name, after, rfl, hname, hafter⟩
    refine ⟨after.reverse, (name, rule), before.reverse, by simp, ⟨hname, rfl⟩, ?_⟩
    simpa using hafter

theorem ofRules_eq_none {k : Kind} :
    (ofRules pairs).overrides.get? k = none ↔ ∀ e ∈ pairs, ¬ Kind.Named e.1 k := by
  rw [get?_ofRules, List.findSome?_eq_none_iff]
  simp only [ite_eq_right_iff, reduceCtorEq, imp_false, Kind.read?_eq_some, List.mem_reverse]

/-- No two rules have names of the same category. -/
def Distinct (pairs : List (String × String)) : Prop :=
  pairs.Pairwise fun e e' => ∀ k, Kind.Named e.1 k → ¬ Kind.Named e'.1 k

/-- Where no rule is replaced, all rules count. -/
theorem ofRules_of_distinct (h : Distinct pairs) {k : Kind} {rule : String} :
    (ofRules pairs).overrides.get? k = some rule ↔
      ∃ name, (name, rule) ∈ pairs ∧ Kind.Named name k := by
  rw [ofRules_eq_some]
  constructor
  · rintro ⟨before, name, after, rfl, hname, _⟩
    exact ⟨name, by simp, hname⟩
  · rintro ⟨name, hmem, hname⟩
    obtain ⟨before, after, rfl⟩ := List.append_of_mem hmem
    obtain ⟨_, hafter, _⟩ := List.pairwise_append.1 h
    exact ⟨before, name, after, rfl, hname, fun e he =>
      (List.pairwise_cons.1 hafter).1 e he k hname⟩

theorem ofRules_of_perm (hperm : pairs.Perm pairs') (h : Distinct pairs) :
    ofRules pairs = ofRules pairs' := by
  have h' : Distinct pairs' := h.perm hperm fun hne k hk' hk => hne k hk hk'
  ext1
  · rfl
  · ext1
    funext k
    apply Option.ext
    intro rule
    rw [ofRules_of_distinct h, ofRules_of_distinct h']
    simp only [hperm.mem_iff]

theorem allNamed_of_perm (hperm : pairs.Perm pairs') : AllNamed pairs ↔ AllNamed pairs' := by
  unfold AllNamed
  simp only [hperm.mem_iff]

/-! ## The law -/

/-- The laws of a configuration with style rules, in whatever way it is written. -/
structure RulesLaws (pairs : List (String × String)) (text : String) : Prop where
  accepted : (∃ c, Config.read text = .ok c) ↔ ∀ e ∈ pairs, ∃ k, Kind.Named e.1 k
  words : ∀ c, Config.read text = .ok c → c.keywords = .extended
  /-- The rule of a category is the last one under a name of it. -/
  last : ∀ c, Config.read text = .ok c → ∀ k rule, c.overrides.get? k = some rule ↔
    ∃ before name after, pairs = before ++ (name, rule) :: after ∧ Kind.Named name k ∧
      ∀ e ∈ after, ¬ Kind.Named e.1 k
  absent : ∀ c, Config.read text = .ok c → ∀ k, c.overrides.get? k = none ↔
    ∀ e ∈ pairs, ¬ Kind.Named e.1 k
  /-- The order of rules for different categories is of no account. -/
  reordered : Distinct pairs → ∀ pairs' text', pairs.Perm pairs' → SpellsRules pairs' text' →
    (∀ c, Config.read text = .ok c ↔ Config.read text' = .ok c) ∧
      ∀ c c', Config.read text = .ok c → Config.read text' = .ok c' →
        Alba.configuredStyle c = Alba.configuredStyle c'

/-- Of the style rules of a configuration, the last one under a name of a category counts, whether the
text is the plain one or any other with these rules. -/
theorem the_last_rule_of_a_category_counts (pairs : List (String × String)) :
    SpellsRules pairs (rulesText pairs) ∧
      ∀ text, SpellsRules pairs text → RulesLaws pairs text := by
  refine ⟨spellsRules_rulesText pairs, fun text h => ⟨?_, fun c hc => ?_, fun c hc => ?_,
    fun c hc => ?_, ?_⟩⟩
  · simp only [read_eq_ok h, exists_eq_right]
    rfl
  · obtain ⟨_, rfl⟩ := (read_eq_ok h).1 hc
    rfl
  · obtain ⟨_, rfl⟩ := (read_eq_ok h).1 hc
    exact fun k rule => ofRules_eq_some
  · obtain ⟨_, rfl⟩ := (read_eq_ok h).1 hc
    exact fun k => ofRules_eq_none
  · intro hdistinct pairs' text' hperm h'
    have hsame : ∀ c, Config.read text = .ok c ↔ Config.read text' = .ok c := fun c => by
      rw [read_eq_ok h, read_eq_ok h', allNamed_of_perm hperm, ofRules_of_perm hperm hdistinct]
    refine ⟨hsame, fun c c' hc hc' => ?_⟩
    rw [hsame, hc'] at hc
    rw [Except.ok.inj hc]

end

/-- Two rules for keywords, the first one under a qualified name and with a needless escape. -/
def sampleRules : String :=
  "\x7b \"style_overrides\" : \x7b\"Token.Keyword\":\"\\u0062old\",\n\"Keyword\":\"#00f\"\x7d \x7d"

theorem spellsRules_sample :
    SpellsRules [("Token.Keyword", "bold"), ("Keyword", "#00f")] sampleRules := by
  have hspace : Blanks [' '] := by simp [Blanks, Text.isBlank]
  have hline : Blanks ['\n'] := by simp [Blanks, Text.isBlank]
  have hbold : StringSpelled "\"\\u0062old\"".toList "bold" :=
    ⟨["\\u0062".toList, ['o'], ['l'], ['d']],
      .cons (.code rfl rfl) (.cons (.plain (by decide) (by decide) (by decide))
        (.cons (.plain (by decide) (by decide) (by decide))
          (.cons (.plain (by decide) (by decide) (by decide)) .nil))), rfl⟩
  have hrules : ObjectSpelled StringSpelled
      "\x7b\"Token.Keyword\":\"\\u0062old\",\n\"Keyword\":\"#00f\"\x7d".toList
      [("Token.Keyword", "bold"), ("Keyword", "#00f")] :=
    ⟨_, _, .cons (.mk (spelled_string _) blanks_nil blanks_nil hbold)
        (.cons (.mk (spelled_string _) blanks_nil blanks_nil (spelled_string _)) .nil),
      .cons (.first blanks_nil) (.cons (.later blanks_nil hline) (.nil blanks_nil)), rfl⟩
  have hconfig : ObjectSpelled (ObjectSpelled StringSpelled) sampleRules.toList
      [("style_overrides", [("Token.Keyword", "bold"), ("Keyword", "#00f")])] :=
    ⟨_, _, .cons (.mk (spelled_string _) hspace hspace hrules) .nil,
      .cons (.first hspace) (.nil hspace), rfl⟩
  have htext := SpellsRules.mk hconfig blanks_nil blanks_nil
  rwa [List.nil_append, List.append_nil, String.ofList_toList] at htext

theorem the_last_rule_counts_in_a_sample : ∃ c, Config.read sampleRules = .ok c ∧
    c.overrides.get? .keyword = some "#00f" ∧ c.overrides.get? .name = none := by
  have hlaws := (the_last_rule_of_a_category_counts _).2 _ spellsRules_sample
  obtain ⟨c, hc⟩ := hlaws.accepted.2 (by
    simp only [List.forall_mem_cons]
    exact ⟨⟨.keyword, Or.inr rfl⟩, ⟨.keyword, Or.inl rfl⟩, by simp⟩)
  refine ⟨c, hc, ?_, ?_⟩
  · rw [hlaws.last c hc]
    exact ⟨[("Token.Keyword", "bold")], "Keyword", [], rfl, Or.inl rfl, by simp⟩
  · rw [hlaws.absent c hc]
    unfold Kind.Named
    decide

end Config

end Highlighter
