-- What is written as JSON is read back: strings with all their characters, and objects member by member.
-- Of the ways to write a value, the writer takes one that has no blanks and only the escapes that must be.
import Highlighter.Json.Written
import Highlighter.Proofs.JsonNotation
import Mathlib.Tactic.IntervalCases

namespace Highlighter.Json

variable {α σ : Type}

/-! ## Strings -/

theorem hexValue?_control {a b : Nat} (ha : a < 2) (hb : b < 16) :
    hexValue? ['0', '0', controlDigit a, controlDigit b] = some (a * 16 + b) := by
  interval_cases a <;> interval_cases b <;> rfl

/-- What is written for a character is one of the ways to write it. -/
theorem spelled_escape (c : Char) : CharSpelled (escape c) c := by
  by_cases hquote : c = '"'
  · subst hquote
    exact .letter rfl
  by_cases hslash : c = '\\'
  · subst hslash
    exact .letter rfl
  by_cases hplain : 32 ≤ c.toNat
  · have hcode : escape c = [c] := by simp [escape, hquote, hslash, hplain]
    rw [hcode]
    exact .plain hplain hquote hslash
  by_cases hshort : c = '\n' ∨ c = '\r' ∨ c = '\t' ∨ c = '\x08' ∨ c = '\x0c'
  · rcases hshort with rfl | rfl | rfl | rfl | rfl <;> exact .letter rfl
  · simp only [not_or] at hshort
    have hcode : escape c =
        ['\\', 'u', '0', '0', controlDigit (c.toNat / 16), controlDigit (c.toNat % 16)] := by
      simp [escape, hquote, hslash, hplain, hshort]
    rw [hcode]
    apply CharSpelled.code rfl
    rw [hexValue?_control (by omega) (by omega), Nat.div_add_mod']

theorem spelled_string (s : String) : StringSpelled (string s) s := by
  refine ⟨s.toList.map escape, ?_, rfl⟩
  rw [List.forall₂_map_left_iff]
  exact List.forall₂_same.2 fun c _ => spelled_escape c

theorem reads_string (s : String) : Reads text (string s) s := reads_text (spelled_string s)

/-! ## Objects -/

/-- What stands between the braces of an object. -/
def objectBody : List (String × List Char) → List Char
  | [] => []
  | m :: ms => member m ++ moreMembers ms

theorem object_eq (ms : List (String × List Char)) : object ms = braced (objectBody ms) := by
  cases ms <;> simp [object, objectBody, braced]

theorem laysOut_moreMembers (ms : List (String × List Char)) :
    LaysOut false (ms.map member) (moreMembers ms) := by
  induction ms with
  | nil => exact .nil blanks_nil
  | cons m ms ih => exact .cons (.later blanks_nil blanks_nil) ih

theorem laysOut_objectBody (ms : List (String × List Char)) :
    LaysOut true (ms.map member) (objectBody ms) := by
  cases ms with
  | nil => exact .nil blanks_nil
  | cons m ms => exact .cons (.first blanks_nil) (laysOut_moreMembers ms)

/-- An object is written as an object with the same members if their values are. -/
theorem spelled_object {β : Type} {Value : List Char → β → Prop} {ms : List (String × List Char)}
    {bs : List (String × β)} (h : List.Forall₂ (fun m b => m.1 = b.1 ∧ Value m.2 b.2) ms bs) :
    ObjectSpelled Value (object ms) bs := by
  refine ⟨ms.map member, objectBody ms, ?_, laysOut_objectBody ms, object_eq ms⟩
  rw [List.forall₂_map_left_iff]
  refine h.imp ?_
  rintro ⟨key, value⟩ ⟨_, b⟩ ⟨rfl, hvalue⟩
  exact .mk (spelled_string key) blanks_nil blanks_nil hvalue

/-- Reading the members one after the other leads from what was there before to what is there at
last. -/
inductive Fills (entry : σ → String → Read σ) : σ → List (String × List Char) → σ → Prop where
  | nil (acc : σ) : Fills entry acc [] acc
  | cons {acc next last : σ} {key : String} {value : List Char} {ms : List (String × List Char)}
    (hvalue : Reads (entry acc key) (':' :: value) next) (htail : Fills entry next ms last) :
    Fills entry acc ((key, value) :: ms) last

namespace Fills

variable {entry : σ → String → Read σ} {acc start last : σ} {ms : List (String × List Char)}

theorem loads (h : Fills entry acc ms last) : Loads entry acc (ms.map member) last := by
  induction h with
  | nil acc => exact .nil acc
  | cons hvalue _ ih => exact .cons (spelled_string _) hvalue ih

/-- A record is read from an object. -/
theorem reads_record {finish : σ → Except Problem α} {a : α} (h : Fills entry start ms last)
    (hfinish : finish last = .ok a) (expected : String) (list : Read α) :
    Reads (record expected (objectRest entry start finish) list) (object ms) a := by
  rw [object_eq]
  exact Json.reads_record h.loads (laysOut_objectBody ms) hfinish expected list

/-- A map is read from an object. -/
theorem reads_mapping {finish : σ → Except Problem α} {a : α} (h : Fills entry start ms last)
    (hfinish : finish last = .ok a) :
    Reads (mapping (objectRest entry start finish)) (object ms) a := by
  rw [object_eq]
  exact Json.reads_mapping h.loads (laysOut_objectBody ms) hfinish

end Fills

end Highlighter.Json
