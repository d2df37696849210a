-- Style rules as pieces between blanks. A rule is read just if every piece is a word of the grammar, and
-- the words that are read are those of the pieces.
import Highlighter.Proofs.StyleWords
import Highlighter.Style.Rule

namespace Highlighter

namespace StyleRule

/-! ## Pieces -/

/-- The pieces of a text between blanks. -/
def pieces (cs : List Char) : List (List Char) :=
  (cs.splitOnP Text.isBlank).filter fun piece => !piece.isEmpty

theorem pieces_skipBlanks (cs : List Char) : pieces (skipBlanks cs) = pieces cs := by
  induction cs with
  | nil => rfl
  | cons c cs ih =>
    unfold skipBlanks at ih ⊢
    by_cases hc : Text.isBlank c = true
    · rw [List.dropWhile_cons_of_pos hc, ih]
      simp [pieces, List.splitOnP_cons_eq_if_modifyHead, hc]
    · rw [List.dropWhile_cons_of_neg hc]

/-- A text that goes on with a blank or not at all. -/
theorem pieces_append {piece rest : List Char} (hne : piece ≠ [])
    (hpiece : ∀ c ∈ piece, Text.isBlank c = false) (hrest : rest = [] ∨ startsBlank rest = true) :
    pieces (piece ++ rest) = piece :: pieces rest := by
  rcases rest with _ | ⟨b, rest⟩
  · simp [pieces, List.splitOnP_eq_singleton hpiece, hne]
  · have hb : Text.isBlank b = true := by simpa [startsBlank] using hrest
    simp [pieces, List.splitOnP_append_cons_of_forall_mem hpiece b hb,
      List.splitOnP_cons_eq_if_modifyHead, hb, hne]

/-! ## Reading words -/

theorem exists_forall₂ {α β : Type} {R : α → β → Prop} {xs : List α} :
    (∃ ys, List.Forall₂ R xs ys) ↔ ∀ x ∈ xs, ∃ y, R x y := by
  induction xs with
  | nil => simp
  | cons x xs ih =>
    rw [List.forall_mem_cons, ← ih]
    constructor
    · rintro ⟨_, _ | ⟨hx, hxs⟩⟩
      exact ⟨⟨_, hx⟩, ⟨_, hxs⟩⟩
    · rintro ⟨⟨y, hy⟩, ⟨ys, hys⟩⟩
      exact ⟨y :: ys, .cons hy hys⟩

theorem spelled_of_takeWords {fuel : Nat} {cs : List Char} {words : List StyleWord}
    (h : takeWords fuel cs = (words, [])) : List.Forall₂ StyleWord.Spelled (pieces cs) words := by
  induction fuel generalizing cs words with
  | zero =>
    cases h
    exact .nil
  | succ fuel ih =>
    unfold takeWords at h
    split at h
    · cases h
      exact .nil
    · rename_i word rest htake
      obtain ⟨⟨piece, rfl, hword⟩, _⟩ := StyleWord.spelled_of_take? htake
      have hpiece : rest = [] ∨ startsBlank rest = true →
          pieces (piece ++ rest) = piece :: pieces rest :=
        pieces_append hword.no_space.1 hword.no_blank
      split at h
      · rename_i hblank
        simp only [Prod.mk.injEq] at h
        obtain ⟨rfl, hrest⟩ := h
        rw [hpiece (Or.inr hblank), ← pieces_skipBlanks rest]
        exact .cons hword (ih (Prod.ext rfl hrest))
      · cases h
        rw [hpiece (Or.inl rfl)]
        exact .cons hword .nil

theorem startsBlank_skipBlanks (cs : List Char) : startsBlank (skipBlanks cs) = false := by
  induction cs with
  | nil => rfl
  | cons c cs ih =>
    unfold skipBlanks at ih ⊢
    by_cases hc : Text.isBlank c = true
    · rwa [List.dropWhile_cons_of_pos hc]
    · rw [List.dropWhile_cons_of_neg hc]
      simpa [startsBlank] using hc

theorem mayEnd_of_startsBlank {cs : List Char} (h : startsBlank cs = true) (more : List Char) :
    StyleWord.mayEnd (cs ++ more) = true := by
  cases cs with
  | nil => cases h
  | cons c cs => exact Text.isSpace_of_isBlank h

/-- A text that starts with no blank begins with a piece. -/
theorem exists_piece {cs : List Char} (hne : cs ≠ []) (hstart : startsBlank cs = false) :
    ∃ piece rest, cs = piece ++ rest ∧ piece ≠ [] ∧ (∀ c ∈ piece, Text.isBlank c = false) ∧
      (rest = [] ∨ startsBlank rest = true) := by
  induction cs with
  | nil => exact absurd rfl hne
  | cons c cs ih =>
    have hc : ∀ d ∈ [c], Text.isBlank d = false := by simpa [startsBlank] using hstart
    by_cases hnext : cs = [] ∨ startsBlank cs = true
    · exact ⟨[c], cs, rfl, by simp, hc, hnext⟩
    · rw [not_or, Bool.not_eq_true] at hnext
      obtain ⟨piece, rest, rfl, _, hpiece, hrest⟩ := ih hnext.1 hnext.2
      refine ⟨c :: piece, rest, rfl, by simp, ?_, hrest⟩
      rw [List.forall_mem_cons]
      exact ⟨hc c (by simp), hpiece⟩

/-- The words of the grammar are read one after the other. -/
theorem takeWords_of_spelled {fuel : Nat} {cs : List Char} {words : List StyleWord}
    (hfuel : cs.length ≤ fuel) (hstart : startsBlank cs = false)
    (h : List.Forall₂ StyleWord.Spelled (pieces cs) words) : takeWords fuel cs = (words, []) := by
  have hempty : ∀ {words fuel}, List.Forall₂ StyleWord.Spelled (pieces []) words →
      takeWords fuel [] = (words, []) := by
    intro words fuel h
    cases h
    cases fuel <;> rfl
  induction fuel generalizing cs words with
  | zero =>
    obtain rfl := List.eq_nil_of_length_eq_zero (Nat.le_zero.1 hfuel)
    exact hempty h
  | succ fuel ih =>
    by_cases hne : cs = []
    · subst hne
      exact hempty h
    · obtain ⟨piece, rest, rfl, hpiece, hblank, hrest⟩ := exists_piece hne hstart
      rw [pieces_append hpiece hblank hrest] at h
      obtain ⟨word, words, hword, htail, rfl⟩ := List.forall₂_cons_left_iff.1 h
      have hend : StyleWord.mayEnd rest = true := by
        rcases hrest with rfl | hrest
        · rfl
        · simpa using mayEnd_of_startsBlank hrest []
      unfold takeWords
      rw [StyleWord.take?_of_spelled hword hend]
      rcases hrest with rfl | hrest
      · cases htail
        rfl
      · -- A word takes a character at least, so the fuel lasts for the rest.
        have hlength : (skipBlanks rest).length ≤ fuel := by
          have hshorter := (List.dropWhile_sublist Text.isBlank (l := rest)).length_le
          have hpos := List.length_pos_iff.2 hpiece
          rw [List.length_append] at hfuel
          unfold skipBlanks
          omega
        have hnext := ih hlength (startsBlank_skipBlanks rest) (by rwa [pieces_skipBlanks])
        simp [hrest, hnext]

/-- A text is read just if its pieces spell words, and these are the words of the rule. -/
theorem ofChars_eq_ok {cs : List Char} {r : StyleRule} :
    ofChars cs = .ok r ↔ List.Forall₂ StyleWord.Spelled (pieces cs) r.words := by
  rw [← pieces_skipBlanks]
  constructor
  · intro h
    unfold ofChars at h
    split at h
    · rename_i words htake
      cases h
      exact spelled_of_takeWords htake
    · cases h
  · intro h
    have hlength : (skipBlanks cs).length ≤ cs.length :=
      (List.dropWhile_sublist Text.isBlank (l := cs)).length_le
    have htake := takeWords_of_spelled hlength (startsBlank_skipBlanks cs) h
    simp [ofChars, htake]

theorem read_eq_ok {s : String} {r : StyleRule} :
    read s = .ok r ↔ List.Forall₂ StyleWord.Spelled (pieces s.toList) r.words := by
  rw [← ofChars_eq_ok]
  unfold read
  split <;> simp [*]

/-! ## The law -/

/-- A rule is read just if each of its pieces spells a word. The words of the rule are then those that
the pieces spell, in order, so rules with the same pieces are the same. -/
theorem a_rule_is_read_piece_by_piece (s : String) :
    ((∃ r, read s = .ok r) ↔
      ∀ piece ∈ pieces s.toList, ∃ word, StyleWord.Spelled piece word) ∧
    (∀ r, read s = .ok r ↔ List.Forall₂ StyleWord.Spelled (pieces s.toList) r.words) ∧
    ∀ s' r, pieces s'.toList = pieces s.toList → read s = .ok r → read s' = .ok r := by
  refine ⟨?_, fun _ => read_eq_ok, ?_⟩
  · rw [← exists_forall₂]
    constructor
    · rintro ⟨r, hr⟩
      exact ⟨r.words, read_eq_ok.1 hr⟩
    · rintro ⟨words, hwords⟩
      exact ⟨⟨words⟩, read_eq_ok.2 hwords⟩
  · intro s' r hpieces hr
    rw [read_eq_ok] at hr ⊢
    rwa [hpieces]

theorem a_sample_rule_is_read_piece_by_piece :
    read " bold\tbg:#a0B " = .ok ⟨[.bold true, .background (some ⟨0xAA, 0x00, 0xBB⟩)]⟩ ∧
    read "bold bg:#a0B" = .ok ⟨[.bold true, .background (some ⟨0xAA, 0x00, 0xBB⟩)]⟩ := by
  have hpieces : pieces " bold\tbg:#a0B ".toList =
      ["bold".toList, "bg:".toList ++ ['#', 'a', '0', 'B']] := by decide +kernel
  have hbold : StyleWord.Spelled "bold".toList (.bold true) := .plain (by decide)
  have hcolor : Color.Spelled ['#', 'a', '0', 'B'] ⟨0xAA, 0x00, 0xBB⟩ :=
    .short (x := 10) (y := 0) (z := 11) (by decide) (by decide) (by decide)
  obtain ⟨_, hwords, hsame⟩ := a_rule_is_read_piece_by_piece " bold\tbg:#a0B "
  have hread := (hwords ⟨[.bold true, .background (some ⟨0xAA, 0x00, 0xBB⟩)]⟩).2
    (hpieces ▸ .cons hbold (.cons (.background (.some hcolor)) .nil))
  exact ⟨hread, hsame "bold bg:#a0B" _ (by decide +kernel) hread⟩

end StyleRule

end Highlighter
