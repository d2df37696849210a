-- The grammar of colours, and that reading follows it: what is read at the start of a text is a colour
-- of the grammar, and a colour of the grammar is read whole where no further digit follows.
import Highlighter.Style.Color
import Highlighter.Text.Space
import Mathlib.Data.List.Forall2
import Mathlib.Tactic.IntervalCases

namespace Highlighter

namespace Color

/-! ## The grammar -/

/-- The character is the hexadecimal digit with this value, in lower or upper case. -/
def IsDigit (c : Char) (n : Nat) : Prop :=
  n < 16 ∧ (c = Nat.digitChar n ∨ c = (Nat.digitChar n).toUpper)

instance (c : Char) (n : Nat) : Decidable (IsDigit c n) := inferInstanceAs (Decidable (_ ∧ _))

/-- The text spells the colour: `#` and two digits for each channel, or one that counts twice. -/
inductive Spelled : List Char → Color → Prop where
  | short {r g b : Char} {x y z : Nat} (hr : IsDigit r x) (hg : IsDigit g y) (hb : IsDigit b z) :
    Spelled ['#', r, g, b] ⟨channel x x, channel y y, channel z z⟩
  | long {r r' g g' b b' : Char} {x x' y y' z z' : Nat} (hr : IsDigit r x) (hr' : IsDigit r' x')
    (hg : IsDigit g y) (hg' : IsDigit g' y') (hb : IsDigit b z) (hb' : IsDigit b' z') :
    Spelled ['#', r, r', g, g', b, b'] ⟨channel x x', channel y y', channel z z'⟩

theorem Spelled.eq_cons {cs : List Char} {c : Color} (h : Spelled cs c) :
    ∃ ds, cs = '#' :: ds ∧ ∀ d ∈ ds, ∃ n, IsDigit d n := by
  cases h with
  | short hr hg hb =>
    refine ⟨_, rfl, ?_⟩
    simp only [List.forall_mem_cons]
    exact ⟨⟨_, hr⟩, ⟨_, hg⟩, ⟨_, hb⟩, by simp⟩
  | long hr hr' hg hg' hb hb' =>
    refine ⟨_, rfl, ?_⟩
    simp only [List.forall_mem_cons]
    exact ⟨⟨_, hr⟩, ⟨_, hr'⟩, ⟨_, hg⟩, ⟨_, hg'⟩, ⟨_, hb⟩, ⟨_, hb'⟩, by simp⟩

/-! ## Digits -/

theorem hexValue?_eq_some {c : Char} {n : Nat} : hexValue? c = some n ↔ IsDigit c n := by
  constructor
  · intro h
    have hcode : 48 + n = c.toNat ∧ n ≤ 9 ∨
        (87 + n = c.toNat ∨ 55 + n = c.toNat) ∧ 10 ≤ n ∧ n ≤ 15 := by
      simp only [hexValue?, Char.le_def, UInt32.le_iff_toNat_le, Char.toNat_val, Char.reduceVal,
        Char.reduceToNat, UInt32.reduceToNat] at h
      split_ifs at h with hdigit hlower hupper
      · have hn := Option.some.inj h
        omega
      · have hn := Option.some.inj h
        omega
      · have hn := Option.some.inj h
        omega
    rw [← Char.ofNat_toNat c]
    rcases hcode with ⟨hc, hn⟩ | ⟨hc | hc, hlow, hhigh⟩
    · rw [← hc]
      refine ⟨by omega, Or.inl ?_⟩
      interval_cases n <;> rfl
    · rw [← hc]
      refine ⟨by omega, Or.inl ?_⟩
      interval_cases n <;> rfl
    · rw [← hc]
      refine ⟨by omega, Or.inr ?_⟩
      interval_cases n <;> rfl
  · rintro ⟨hn, rfl | rfl⟩
    · interval_cases n <;> rfl
    · interval_cases n <;> rfl

/-- White space is no digit. -/
theorem hexValue?_of_isSpace {c : Char} (h : Text.isSpace c = true) : hexValue? c = none := by
  rcases hvalue : hexValue? c with _ | n
  · rfl
  · obtain ⟨hn, rfl | rfl⟩ := hexValue?_eq_some.1 hvalue
    · interval_cases n <;> cases h
    · interval_cases n <;> cases h

theorem Spelled.no_space {cs : List Char} {c : Color} (h : Spelled cs c) :
    ∀ d ∈ cs, Text.isSpace d = false := by
  obtain ⟨ds, rfl, hds⟩ := h.eq_cons
  intro d hd
  rcases List.mem_cons.1 hd with rfl | hd
  · decide
  · obtain ⟨n, hn⟩ := hds d hd
    rw [← hexValue?_eq_some] at hn
    by_contra hspace
    rw [Bool.not_eq_false] at hspace
    rw [hexValue?_of_isSpace hspace] at hn
    cases hn

/-- The digits that are taken are those at the start of the text. -/
theorem digits_of_takeDigits? {n : Nat} {cs rest : List Char} {ds : List Nat}
    (h : takeDigits? n cs = some (ds, rest)) :
    ∃ digits, cs = digits ++ rest ∧ List.Forall₂ IsDigit digits ds := by
  induction n generalizing cs ds with
  | zero =>
    cases h
    exact ⟨[], rfl, .nil⟩
  | succ n ih =>
    rcases cs with _ | ⟨c, cs⟩
    · cases h
    · unfold takeDigits? at h
      split at h
      · rename_i d tail _ hd htail
        cases h
        obtain ⟨digits, rfl, hdigits⟩ := ih htail
        exact ⟨c :: digits, rfl, .cons (hexValue?_eq_some.1 hd) hdigits⟩
      · cases h

theorem spelled_of_ofDigits? {digits : List Char} {ds : List Nat} {c : Color}
    (hds : List.Forall₂ IsDigit digits ds) (h : ofDigits? ds = some c) :
    Spelled ('#' :: digits) c := by
  unfold ofDigits? at h
  split at h
  · cases h
    rcases hds with _ | ⟨hr, _ | ⟨hg, _ | ⟨hb, _ | _⟩⟩⟩
    exact .short hr hg hb
  · cases h
    rcases hds with _ | ⟨hr, _ | ⟨hr', _ | ⟨hg, _ | ⟨hg', _ | ⟨hb, _ | ⟨hb', _ | _⟩⟩⟩⟩⟩⟩
    exact .long hr hr' hg hg' hb hb'
  · cases h

/-! ## Reading a colour -/

theorem spelled_of_take? {cs rest : List Char} {c : Color} (h : take? cs = some (c, rest)) :
    ∃ color, cs = color ++ rest ∧ Spelled color c := by
  unfold take? at h
  split at h
  · rename_i cs
    split at h
    · rename_i ds tail hor
      obtain ⟨found, hfound, heq⟩ := Option.map_eq_some_iff.1 h
      cases heq
      obtain ⟨digits, rfl, hdigits⟩ : ∃ digits, cs = digits ++ rest ∧
          List.Forall₂ IsDigit digits ds := by
        rcases Option.or_eq_some_iff.1 hor with hlong | ⟨_, hshort⟩
        · exact digits_of_takeDigits? hlong
        · exact digits_of_takeDigits? hshort
      exact ⟨'#' :: digits, rfl, spelled_of_ofDigits? hdigits hfound⟩
    · cases h
  · cases h

theorem take?_of_spelled {color : List Char} {c : Color} (h : Spelled color c) {rest : List Char}
    (hend : ∀ d ∈ rest.head?, hexValue? d = none) : take? (color ++ rest) = some (c, rest) := by
  have hno : ∀ n, takeDigits? (n + 1) rest = none := by
    intro n
    rcases rest with _ | ⟨d, rest⟩
    · rfl
    · simp [takeDigits?, hend d rfl]
  cases h with
  | short hr hg hb =>
    rw [← hexValue?_eq_some] at hr hg hb
    simp [take?, takeDigits?, ofDigits?, hr, hg, hb, hno]
  | long hr hr' hg hg' hb hb' =>
    rw [← hexValue?_eq_some] at hr hr' hg hg' hb hb'
    simp [take?, takeDigits?, ofDigits?, hr, hr', hg, hg', hb, hb']

end Color

end Highlighter
