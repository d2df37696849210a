-- What is written for a configuration is read back as this configuration, whatever its rules say. So
-- a configuration that was read from any text has one written form, which is read as the same one.
import Highlighter.Config.Json
import Highlighter.Proofs.Kinds
import Highlighter.Proofs.WrittenJson
import Mathlib.Data.List.Induction

namespace Highlighter

/-! ## Maps from their entries -/

/-- The map with more entries, put in one after the other. -/
def KindMap.insertAll {α : Type} (m : KindMap α) (entries : List (Kind × α)) : KindMap α :=
  entries.foldl (fun m e => m.insert e.1 e.2) m

/-- The last of the entries of a category, if it has one. -/
def KindMap.latest? {α : Type} (entries : List (Kind × α)) (k : Kind) : Option α :=
  (entries.filterMap fun e => if e.1 = k then some e.2 else none).getLast?

namespace KindMap

variable {α : Type}

/-- Of several entries of a category the last one counts. -/
theorem get?_insertAll (m : KindMap α) (entries : List (Kind × α)) (k : Kind) :
    (m.insertAll entries).get? k = (latest? entries k).or (m.get? k) := by
  induction entries using List.reverseRecOn with
  | nil => rfl
  | append_singleton entries e ih =>
    unfold insertAll latest? at *
    rw [List.foldl_append, List.filterMap_append]
    by_cases hk : k = e.1
    · simp [get?_insert, hk]
    · simp [get?_insert, hk, Ne.symm hk, ih]

/-- The entries of a map make the map again. -/
theorem insertAll_toList (m : KindMap α) : empty.insertAll m.toList = m := by
  ext1
  funext k
  rw [get?_insertAll, get?_empty, Option.or_none]
  have hown : latest? m.toList k =
      (Kind.all.filterMap fun j => if j = k then m.get? k else none).getLast? := by
    unfold latest? toList
    rw [List.filterMap_filterMap]
    congr 2
    funext j
    by_cases hj : j = k
    · subst hj
      cases m.get? j <;> simp
    · cases m.get? j <;> simp [hj]
  rw [hown]
  cases m.get? k <;> cases k <;> rfl

end KindMap

/-! ## The parts of a configuration -/

namespace Config

open Json

theorem reads_keywords (set : KeywordSet) : Reads KeywordSet.ofJson set.json set := by
  cases set <;> exact reads_choice (spelled_string _) (by decide)

/-- A rule under any name of a category becomes the rule of this category. -/
theorem reads_overrideEntry {name rule : String} {k : Kind} (h : Kind.Named name k)
    {before value : List Char} (hbefore : Blanks before) (hvalue : Reads text value rule)
    (rules : KindMap String) :
    Reads (overrideEntry rules name) (before ++ ':' :: value) (rules.insert k rule) := by
  intro rest p
  unfold overrideEntry
  rw [Kind.read_eq_ok.2 h, List.append_assoc, List.cons_append]
  simp only [colon_of_blanks hbefore, hvalue rest]
  simp [Except.map]

/-- Rules with the names of their categories are put in one after the other. -/
theorem fills_overrides (rules : KindMap String) (entries : List (Kind × String)) :
    Fills overrideEntry rules (entries.map fun (k, rule) => (k.dotted, Json.string rule))
      (rules.insertAll entries) := by
  induction entries generalizing rules with
  | nil => exact .nil rules
  | cons e entries ih =>
    exact .cons (reads_overrideEntry (.inl rfl) blanks_nil (reads_string e.2) rules) (ih _)

theorem reads_overrides (rules : KindMap String) :
    Reads overridesOfJson
      (object (rules.toList.map fun (k, rule) => (k.dotted, Json.string rule))) rules := by
  apply (fills_overrides .empty rules.toList).reads_mapping
  rw [KindMap.insertAll_toList]

/-- Both fields are read, each by its own reader. -/
theorem fills_fields (c : Config) :
    Fills Draft.entry .empty
      [("keywords", c.keywords.json),
        ("style_overrides",
          object (c.overrides.toList.map fun (k, rule) => (k.dotted, Json.string rule)))]
      ⟨some c.keywords, some c.overrides⟩ := by
  have hkeywords := (reads_field (reads_keywords c.keywords) blanks_nil "keywords").map fun set =>
    (⟨some set, none⟩ : Draft)
  have hoverrides := (reads_field (reads_overrides c.overrides) blanks_nil "style_overrides").map
    fun rules => (⟨some c.keywords, some rules⟩ : Draft)
  exact .cons hkeywords (.cons hoverrides (.nil _))

/-- The text of a configuration is read as this configuration. -/
theorem read_json (c : Config) : Config.read c.json = .ok c := by
  have hfinish : Draft.finish ⟨some c.keywords, some c.overrides⟩ = .ok c := rfl
  have hreads := (fills_fields c).reads_record hfinish "struct ExtensionConfig"
    (listRest Draft.inOrder (fun _ d => .ok d) .empty Draft.finish)
  have htext := hreads.ofText blanks_nil
  rw [List.append_nil] at htext
  unfold Config.read Config.json Config.ofJson
  rw [htext]
  rfl

/-! ## The law -/

/-- Every configuration is read back from its text. So a configuration that was read from any text is
the one that its own text is read as, and writing that one gives the same text again. -/
theorem configurations_are_read_back_from_their_text :
    (∀ c : Config, Config.read c.json = .ok c) ∧
      ∀ text c, Config.read text = .ok c →
        ∃ again, Config.read c.json = .ok again ∧ again = c ∧ again.json = c.json := by
  refine ⟨read_json, ?_⟩
  intro text c _
  exact ⟨c, read_json c, rfl, rfl⟩

/-- With blanks, a qualified name, a needless escape and a field missing, this is not how its
configuration is written. -/
def sampleText : String :=
  "\x7b \"style_overrides\": \x7b\"Token.Name\": \"\\u0023f00\\n\"\x7d \x7d"

theorem a_sample_is_read_back_from_its_text : ∃ c, Config.read sampleText = .ok c ∧
    ∃ again, Config.read c.json = .ok again ∧ again = c ∧ again.json = c.json := by
  have hread : Config.read sampleText = .ok ⟨.extended, KindMap.empty.insert .name "#f00\n"⟩ := rfl
  exact ⟨_, hread, configurations_are_read_back_from_their_text.2 _ _ hread⟩

end Config

end Highlighter
