-- The grammar of the words of style rules, and that reading follows it: what is read at the start of a
-- text is a word of the grammar, and a word of the grammar is read whole where it may end.
import Highlighter.Proofs.Colors
import Highlighter.Style.Word
import Mathlib.Data.List.Infix

namespace Highlighter

namespace StyleWord

/-! ## The grammar of words -/

/-- The words without a colour. -/
def plainWords : List (String × StyleWord) :=
  [("bold", bold true), ("nobold", bold false), ("italic", italic true), ("noitalic", italic false),
    ("underline", underline true), ("nounderline", underline false), ("noinherit", noInherit),
    ("roman", font .roman), ("sans", font .sans), ("mono", font .mono)]

/-- The text spells the colour, or it is empty and there is none. -/
inductive SpelledColor : List Char → Option Color → Prop where
  | none : SpelledColor [] none
  | some {cs : List Char} {c : Color} (h : Color.Spelled cs c) : SpelledColor cs (some c)

/-- The text spells the word. -/
inductive Spelled : List Char → StyleWord → Prop where
  | plain {name : String} {word : StyleWord} (h : (name, word) ∈ plainWords) :
    Spelled name.toList word
  | background {cs : List Char} {c : Option Color} (h : SpelledColor cs c) :
    Spelled ("bg:".toList ++ cs) (background c)
  | border {cs : List Char} {c : Option Color} (h : SpelledColor cs c) :
    Spelled ("border:".toList ++ cs) (border c)
  | color {cs : List Char} {c : Color} (h : Color.Spelled cs c) : Spelled cs (color c)

theorem mem_plainWords {e : String × StyleWord} : e ∈ plainWords ↔ e ∈ fixed := by
  have hperm : plainWords.Perm fixed := by decide +kernel
  exact hperm.mem_iff

/-- A word is not empty, and no white space is in it. -/
theorem Spelled.no_space {piece : List Char} {word : StyleWord} (h : Spelled piece word) :
    piece ≠ [] ∧ ∀ c ∈ piece, Text.isSpace c = false := by
  have hcolor : ∀ {cs : List Char} {c : Option Color}, SpelledColor cs c →
      ∀ d ∈ cs, Text.isSpace d = false := by
    intro cs c hcs
    cases hcs with
    | none => simp
    | some hcs => exact hcs.no_space
  have hstart : ("bg:".toList ++ "border:".toList).all (fun d => !Text.isSpace d) = true := by
    decide +kernel
  simp only [List.all_eq_true, Bool.not_eq_true', List.forall_mem_append] at hstart
  cases h with
  | @plain name word hplain =>
    have hall : ∀ e ∈ plainWords,
        e.1.toList ≠ [] ∧ e.1.toList.all (fun c => !Text.isSpace c) = true := by decide +kernel
    simpa using hall (name, word) hplain
  | background hcs => exact ⟨by simp, List.forall_mem_append.2 ⟨hstart.1, hcolor hcs⟩⟩
  | border hcs => exact ⟨by simp, List.forall_mem_append.2 ⟨hstart.2, hcolor hcs⟩⟩
  | color hcs =>
    refine ⟨?_, hcs.no_space⟩
    obtain ⟨ds, rfl, _⟩ := hcs.eq_cons
    simp

theorem Spelled.no_blank {piece : List Char} {word : StyleWord} (h : Spelled piece word) :
    ∀ c ∈ piece, Text.isBlank c = false := by
  intro c hc
  by_contra hblank
  rw [Bool.not_eq_false] at hblank
  have hspace := h.no_space.2 c hc
  rw [Text.isSpace_of_isBlank hblank] at hspace
  cases hspace

/-! ## Beginnings -/

theorem after?_eq_some {start : String} {cs rest : List Char} :
    after? start cs = some rest ↔ cs = start.toList ++ rest := by
  unfold after?
  constructor
  · intro h
    split at h
    · rename_i hbegins
      obtain ⟨tail, rfl⟩ := List.isPrefixOf_iff_prefix.1 hbegins
      simpa using h
    · cases h
  · rintro rfl
    simp

/-- Neither of two texts begins the other. -/
def Apart (a b : String) : Prop := ¬ a.toList <+: b.toList ∧ ¬ b.toList <+: a.toList

instance (a b : String) : Decidable (Apart a b) := inferInstanceAs (Decidable (_ ∧ _))

theorem after?_of_apart {a b : String} (h : Apart a b) (rest : List Char) :
    after? a (b.toList ++ rest) = none := by
  rcases hafter : after? a (b.toList ++ rest) with _ | tail
  · rfl
  · have hboth := after?_eq_some.1 hafter
    rcases List.prefix_or_prefix_of_prefix (List.prefix_append b.toList rest)
      (hboth ▸ List.prefix_append a.toList tail) with hba | hab
    · exact absurd hba h.2
    · exact absurd hab h.1

/-- A text that begins apart from all words without a colour has none of them at its start. -/
theorem fixed_of_apart {start : String} (h : ∀ e ∈ fixed, Apart e.1 start) (rest : List Char) :
    (fixed.findSome? fun (name, word) => (after? name (start.toList ++ rest)).map (word, ·)) =
      none := by
  rw [List.findSome?_eq_none_iff]
  rintro ⟨name, word⟩ he
  simp [after?_of_apart (h _ he)]

/-- A word without a colour is found where it stands: no other one begins there. -/
theorem fixed_of_mem {name : String} {word : StyleWord} (h : (name, word) ∈ fixed)
    (rest : List Char) :
    (fixed.findSome? fun (start, word) => (after? start (name.toList ++ rest)).map (word, ·)) =
      some (word, rest) := by
  have hapart : ∀ e ∈ fixed, ∀ e' ∈ fixed, e ≠ e' → Apart e.1 e'.1 := by decide +kernel
  have hown : after? name (name.toList ++ rest) = some rest := after?_eq_some.2 rfl
  rcases hfound : fixed.findSome? _ with _ | found
  · have hnone := List.findSome?_eq_none_iff.1 hfound (name, word) h
    simp [hown] at hnone
  · obtain ⟨⟨start, other⟩, hmem, hsome⟩ := List.exists_of_findSome?_eq_some hfound
    by_cases hsame : (start, other) = (name, word)
    · cases hsame
      simpa [hown] using hsome.symm
    · simp [after?_of_apart (hapart _ hmem _ h hsame)] at hsome

/-! ## Reading a word -/

theorem mayEnd_iff {rest : List Char} :
    mayEnd rest = true ↔ ∀ d ∈ rest.head?, Text.isSpace d = true := by
  cases rest <;> simp [mayEnd]

theorem takeColor_of_spelled {cs rest : List Char} {c : Option Color} (h : SpelledColor cs c)
    (hend : ∀ d ∈ rest.head?, Text.isSpace d = true) : takeColor (cs ++ rest) = (c, rest) := by
  cases h with
  | none =>
    -- No colour begins at the end of a word.
    rcases htake : Color.take? rest with _ | ⟨c, tail⟩
    · simp [takeColor, htake]
    · obtain ⟨color, rfl, hcolor⟩ := Color.spelled_of_take? htake
      obtain ⟨ds, rfl, _⟩ := hcolor.eq_cons
      have hspace := hend '#' rfl
      cases hspace
  | some hcs =>
    have htake := Color.take?_of_spelled hcs fun d hd => Color.hexValue?_of_isSpace (hend d hd)
    simp [takeColor, htake]

theorem spelled_of_takeColor {cs rest : List Char} {c : Option Color}
    (h : takeColor cs = (c, rest)) : ∃ color, cs = color ++ rest ∧ SpelledColor color c := by
  unfold takeColor at h
  split at h
  · rename_i htake
    cases h
    obtain ⟨color, hcs, hcolor⟩ := Color.spelled_of_take? htake
    exact ⟨color, hcs, .some hcolor⟩
  · cases h
    exact ⟨[], rfl, .none⟩

/-- A word of the grammar is read whole where it may end. -/
theorem take?_of_spelled {piece rest : List Char} {word : StyleWord} (h : Spelled piece word)
    (hend : mayEnd rest = true) : take? (piece ++ rest) = some (word, rest) := by
  have hrest := mayEnd_iff.1 hend
  have hbg : ∀ e ∈ fixed, Apart e.1 "bg:" := by decide +kernel
  have hborder : (∀ e ∈ fixed, Apart e.1 "border:") ∧ Apart "bg:" "border:" := by decide +kernel
  have hsharp : (∀ e ∈ fixed, Apart e.1 "#") ∧ Apart "bg:" "#" ∧ Apart "border:" "#" := by
    decide +kernel
  have hafter : ∀ (start : String) cs, after? start (start.toList ++ cs) = some cs :=
    fun _ _ => after?_eq_some.2 rfl
  have hspell : spell? (piece ++ rest) = some (word, rest) := by
    cases h with
    | plain hplain =>
      unfold spell?
      rw [fixed_of_mem (mem_plainWords.1 hplain)]
    | background hcs =>
      unfold spell?
      rw [List.append_assoc, fixed_of_apart hbg, hafter]
      simp [takeColor_of_spelled hcs hrest]
    | border hcs =>
      unfold spell?
      rw [List.append_assoc, fixed_of_apart hborder.1, after?_of_apart hborder.2, hafter]
      simp [takeColor_of_spelled hcs hrest]
    | color hcs =>
      have htake := Color.take?_of_spelled hcs fun d hd => Color.hexValue?_of_isSpace (hrest d hd)
      obtain ⟨ds, rfl, _⟩ := hcs.eq_cons
      have hopen : '#' :: ds ++ rest = "#".toList ++ (ds ++ rest) := by simp
      unfold spell?
      rw [htake, hopen, fixed_of_apart hsharp.1, after?_of_apart hsharp.2.1,
        after?_of_apart hsharp.2.2]
      rfl
  simp [take?, hspell, hend]

theorem spelled_of_spell? {cs rest : List Char} {word : StyleWord}
    (h : spell? cs = some (word, rest)) : ∃ piece, cs = piece ++ rest ∧ Spelled piece word := by
  unfold spell? at h
  split at h
  · rename_i found hfound
    cases h
    obtain ⟨⟨name, other⟩, hmem, hsome⟩ := List.exists_of_findSome?_eq_some hfound
    obtain ⟨tail, htail, heq⟩ := Option.map_eq_some_iff.1 hsome
    cases heq
    exact ⟨name.toList, after?_eq_some.1 htail, .plain (mem_plainWords.2 hmem)⟩
  split at h
  · rename_i tail htail
    cases h
    obtain ⟨color, hcolor, hspelled⟩ := spelled_of_takeColor (Eq.refl (takeColor tail))
    refine ⟨"bg:".toList ++ color, ?_, .background hspelled⟩
    rw [after?_eq_some.1 htail, List.append_assoc, ← hcolor]
  split at h
  · rename_i tail htail
    cases h
    obtain ⟨color, hcolor, hspelled⟩ := spelled_of_takeColor (Eq.refl (takeColor tail))
    refine ⟨"border:".toList ++ color, ?_, .border hspelled⟩
    rw [after?_eq_some.1 htail, List.append_assoc, ← hcolor]
  · obtain ⟨⟨c, tail⟩, htake, heq⟩ := Option.map_eq_some_iff.1 h
    cases heq
    obtain ⟨color, rfl, hcolor⟩ := Color.spelled_of_take? htake
    exact ⟨color, rfl, .color hcolor⟩

/-- What is read is a word of the grammar, and it ends where it may. -/
theorem spelled_of_take? {cs rest : List Char} {word : StyleWord}
    (h : take? cs = some (word, rest)) :
    (∃ piece, cs = piece ++ rest ∧ Spelled piece word) ∧ mayEnd rest = true := by
  obtain ⟨hspell, hend⟩ := Option.filter_eq_some_iff.1 h
  exact ⟨spelled_of_spell? hspell, hend⟩

end StyleWord

end Highlighter
