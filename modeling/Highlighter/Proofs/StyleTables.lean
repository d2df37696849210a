-- What a host finds in the table of a style. Attributes are read back from their text, and the table is
-- an object with one member for each category, in order, whose value is the text of the attributes.
import Highlighter.Proofs.ColorTexts
import Highlighter.Proofs.Kinds
import Highlighter.Proofs.WrittenJson
import Highlighter.Style.Json

namespace Highlighter

open Json

/-! ## Single values -/

section

variable {α : Type} {read : Read α} {write : α → List Char}

theorem Json.reads_bool (b : Bool) : Reads truth (bool b) b := by
  intro rest p
  cases b <;> rfl

theorem Json.reads_checked {check : String → Except String α} {t : String} {a : α}
    (h : check t = .ok a) : Reads (checked check) (string t) a := by
  intro rest p
  unfold checked
  rw [reads_string t rest p]
  simp only [h]

/-- A value that is written as a string is told from `null` by its quote. -/
theorem Json.reads_nullable (h : ∀ a, Reads read (write a) a)
    (hquote : ∀ a, ∃ body, write a = '"' :: body) (a? : Option α) :
    Reads (optional read) (nullable write a?) a? := by
  intro rest p
  cases a? with
  | none => rfl
  | some a =>
    have hread := h a rest p
    obtain ⟨body, hbody⟩ := hquote a
    unfold nullable optional
    dsimp only
    rw [hbody, List.cons_append] at hread ⊢
    rw [skip_cons (by decide), hread]
    rfl

end

theorem Color.reads_json (c : Color) : Reads Color.ofJson c.json c := by
  apply reads_checked
  rw [read_text]
  rfl

theorem Font.reads_json (f : Font) : Reads Font.ofJson f.json f := by
  cases f <;> exact reads_choice (spelled_string _) (by decide)

/-! ## Attributes -/

namespace Attributes

/-- All fields are read, each by its own reader. -/
theorem fills_fields (a : Attributes) :
    Fills Draft.entry .empty
      [("color", nullable Color.json a.color), ("bgcolor", nullable Color.json a.background),
        ("border", nullable Color.json a.border), ("bold", bool a.bold), ("italic", bool a.italic),
        ("underline", bool a.underline), ("font", nullable Font.json a.font)]
      ⟨some a.color, some a.background, some a.border, some a.bold, some a.italic,
        some a.underline, some a.font⟩ := by
  have hcolor := reads_nullable Color.reads_json fun c => (spelled_string c.text).eq_cons
  have hfont := reads_nullable Font.reads_json fun f => (spelled_string f.name).eq_cons
  have h₁ := (reads_field (hcolor a.color) blanks_nil "color").map fun c =>
    (⟨some c, none, none, none, none, none, none⟩ : Draft)
  have h₂ := (reads_field (hcolor a.background) blanks_nil "bgcolor").map fun c =>
    (⟨some a.color, some c, none, none, none, none, none⟩ : Draft)
  have h₃ := (reads_field (hcolor a.border) blanks_nil "border").map fun c =>
    (⟨some a.color, some a.background, some c, none, none, none, none⟩ : Draft)
  have h₄ := (reads_field (reads_bool a.bold) blanks_nil "bold").map fun b =>
    (⟨some a.color, some a.background, some a.border, some b, none, none, none⟩ : Draft)
  have h₅ := (reads_field (reads_bool a.italic) blanks_nil "italic").map fun b =>
    (⟨some a.color, some a.background, some a.border, some a.bold, some b, none, none⟩ : Draft)
  have h₆ := (reads_field (reads_bool a.underline) blanks_nil "underline").map fun b =>
    (⟨some a.color, some a.background, some a.border, some a.bold, some a.italic, some b, none⟩ :
      Draft)
  have h₇ := (reads_field (hfont a.font) blanks_nil "font").map fun f =>
    (⟨some a.color, some a.background, some a.border, some a.bold, some a.italic,
      some a.underline, some f⟩ : Draft)
  exact .cons h₁ (.cons h₂ (.cons h₃ (.cons h₄ (.cons h₅ (.cons h₆ (.cons h₇ (.nil _)))))))

theorem reads_json (a : Attributes) : Reads Attributes.ofJson a.json a := by
  have hfinish : Draft.finish ⟨some a.color, some a.background, some a.border, some a.bold,
      some a.italic, some a.underline, some a.font⟩ = .ok a := rfl
  exact (fills_fields a).reads_record hfinish _ _

end Attributes

/-! ## Tables -/

namespace Style

/-- Reads the member of a table with a key, after those before it. -/
def tableEntry (members : List (String × Attributes)) (key : String) :
    Read (List (String × Attributes)) := fun s =>
  (field key none Attributes.ofJson s).map fun (a, s) => (members ++ [(key, a)], s)

/-- Reads the table of a style, as a host does that knows no categories: all members in order. -/
def tableOfJson : Read (List (String × Attributes)) :=
  mapping (objectRest tableEntry [] .ok)

theorem fills_table (members : List (String × Attributes)) (table : List (Kind × Attributes)) :
    Fills tableEntry members (table.map fun (k, a) => (k.dotted, a.json))
      (members ++ table.map fun (k, a) => (k.dotted, a)) := by
  induction table generalizing members with
  | nil =>
    rw [List.map_nil, List.map_nil, List.append_nil]
    exact .nil members
  | cons e table ih =>
    have hmember := (reads_field (Attributes.reads_json e.2) blanks_nil e.1.dotted).map fun a =>
      members ++ [(e.1.dotted, a)]
    have htail := ih (members ++ [(e.1.dotted, e.2)])
    rw [List.append_assoc] at htail
    exact .cons hmember htail

theorem lookup_dotted {α : Type} (f : Kind → α) {ks : List Kind} {k : Kind} (h : k ∈ ks) :
    (ks.map fun j => (j.dotted, f j)).lookup k.dotted = some (f k) := by
  induction ks with
  | nil => cases h
  | cons j ks ih =>
    rw [List.map_cons, List.lookup_cons]
    by_cases hj : k = j
    · simp [hj]
    · have hne : (k.dotted == j.dotted) = false := by simpa [Kind.dotted_inj] using hj
      simp only [hne]
      exact ih ((List.mem_cons.1 h).resolve_left hj)

/-! ## The law -/

/-- The laws of the table of a style. -/
structure TableLaws (s : Style) : Prop where
  /-- The table is an object with the dotted names in order, each with the text of its attributes. -/
  members : ObjectSpelled
    (fun cs a => Json.ofText Attributes.ofJson (String.ofList cs) = .ok a) s.json.toList
    (Kind.all.map fun k => (k.dotted, s.attributes k))
  /-- Reading it gives just these members. -/
  readBack : Json.ofText tableOfJson s.json =
    .ok (Kind.all.map fun k => (k.dotted, s.attributes k))
  member : ∀ k, ∃ table, Json.ofText tableOfJson s.json = .ok table ∧
    table.lookup k.dotted = some (s.attributes k)

/-- Attributes are read back from their text, and from the table of a style the attributes of every
category. -/
theorem hosts_read_a_style_from_its_table :
    (∀ a : Attributes, Json.ofText Attributes.ofJson (String.ofList a.json) = .ok a) ∧
      ∀ s : Style, TableLaws s := by
  have hattributes (a : Attributes) :
      Json.ofText Attributes.ofJson (String.ofList a.json) = .ok a := by
    have htext := (Attributes.reads_json a).ofText blanks_nil
    rwa [List.append_nil] at htext
  refine ⟨hattributes, fun s => ?_⟩
  have hread : Json.ofText tableOfJson s.json =
      .ok (Kind.all.map fun k => (k.dotted, s.attributes k)) := by
    have hreads : Reads tableOfJson _ _ := (fills_table [] s.table).reads_mapping rfl
    have htext := hreads.ofText blanks_nil
    rw [List.append_nil] at htext
    unfold Style.json
    rw [htext, table, List.map_map]
    rfl
  refine ⟨?_, hread, fun k => ⟨_, hread, lookup_dotted _ (Kind.mem_all k)⟩⟩
  unfold Style.json table
  rw [String.toList_ofList, List.map_map]
  apply spelled_object
  rw [List.forall₂_map_left_iff, List.forall₂_map_right_iff]
  exact List.forall₂_same.2 fun k _ => ⟨rfl, hattributes (s.attributes k)⟩

end Style

end Highlighter
