-- Tokens of Alba are as long as they can be. A piece that goes on through a run of characters ends where
-- the run does, so no piece of the same kind of run follows it, and its token is a highlight by itself.
import Highlighter.Proofs.AlbaScanner
import Highlighter.Proofs.CoarsestSpans

namespace Highlighter

/-! ## Highlights of one token -/

section

variable {tokens : List Token} {t : Token} {h : Highlight}

end

namespace Alba

open Highlighter.Stream

/-! ## Runs of characters -/

/-- The characters that a piece of the category goes on through, if it does so. -/
def run? : Kind → Option (Char → Bool)
  | .whitespace => some Text.isSpace
  | .commentSingleline => some (· != '\n')
  | .keyword | .name => some isIdent
  | .number => some Char.isDigit
  | _ => none

/-- The categories that may stand next to themselves. -/
def repeatable : List Kind := [.operator, .text, .commentMultiline]

/-- What neighbours in a text of Alba are to each other. -/
structure Neighbours (t u : Token) : Prop where
  /-- The second token does not go on through the run of the first. -/
  run : ∀ test, run? t.kind = some test → run? u.kind ≠ some test
  kind : t.kind = u.kind → t.kind ∈ repeatable

section

variable {set : KeywordSet} {test : Char → Bool}

/-- A piece takes its whole run, which starts with the next character. -/
theorem Mode.piece_of_run (m : Mode) {b : Bool} {c : Char} {rest : List Char}
    (h : run? (m.piece set b c rest).kind = some test) :
    (m.piece set b c rest).chars = (c :: rest).takeWhile test ∧ test c = true := by
  cases m with
  | comment =>
    unfold piece at h
    simp [commentPiece_kind, run?] at h
  | root =>
    unfold piece rootPiece at h ⊢
    dsimp only at h ⊢
    split_ifs at h ⊢ with h0 h1 h2 h3 h4 h5 h6 <;> cases h
    · exact ⟨rfl, h0⟩
    · exact ⟨rfl, by simp [h1.1]⟩
    · exact ⟨rfl, isIdent_of_isAlpha h3⟩
    · exact ⟨rfl, isIdent_of_isAlpha h3⟩
    · exact ⟨rfl, h5⟩

theorem Mode.run_or_repeatable (m : Mode) (set : KeywordSet) (b : Bool) (c : Char)
    (rest : List Char) : (∃ test, run? (m.piece set b c rest).kind = some test) ∨
      (m.piece set b c rest).kind ∈ repeatable := by
  cases m with
  | comment =>
    right
    unfold piece
    simp [commentPiece_kind, repeatable]
  | root =>
    unfold piece rootPiece
    dsimp only
    split_ifs <;> simp [run?, repeatable]

variable {l : Lexer} {text : String} {m : Mode} {s : Stream} {a u : Step}

/-- What follows a run starts with no character of it. -/
theorem At.run_ne (h : At set l text m s) (ha : s.next? = some a) (hu : a.next.next? = some u)
    (hrun : run? a.token.kind = some test) : run? u.token.kind ≠ some test := by
  intro hrun'
  obtain ⟨c, rest, hrest, htaken, hnext⟩ := h.of_next? ha
  obtain ⟨d, more, hmore, htaken', _⟩ := hnext.of_next? hu
  rw [htaken.token] at hrun
  rw [htaken'.token] at hrun'
  obtain ⟨hchars, _⟩ := m.piece_of_run hrun
  obtain ⟨_, hd⟩ := Mode.piece_of_run _ hrun'
  have hdrop : a.next.place.rest = (c :: rest).dropWhile test :=
    htaken.leads.rest_eq (by rw [hrest, hchars, List.takeWhile_append_dropWhile])
  have hfails := List.head?_dropWhile_not test (c :: rest)
  rw [← hdrop, hmore] at hfails
  simp [hd] at hfails

theorem At.neighbours (h : At set l text m s) (ha : s.next? = some a)
    (hu : a.next.next? = some u) : Neighbours a.token u.token := by
  refine ⟨fun test hrun => h.run_ne ha hu hrun, fun hkind => ?_⟩
  obtain ⟨c, rest, _, htaken, _⟩ := h.of_next? ha
  have hcases : (∃ test, run? a.token.kind = some test) ∨ a.token.kind ∈ repeatable := by
    rw [htaken.token]
    exact m.run_or_repeatable set _ c rest
  rcases hcases with ⟨test, hrun⟩ | hrepeatable
  · exact absurd (hkind ▸ hrun) (h.run_ne ha hu hrun)
  · exact hrepeatable

theorem At.isChain_neighbours (h : At set l text m s) (n : Nat) :
    ((s.steps n).map (·.token)).IsChain Neighbours :=
  isChain_steps (P := fun t => ∃ m', At set l text m' t) (fun _ _ ⟨_, ht⟩ hstep => ht.next hstep)
    (fun _ _ _ ⟨_, ht⟩ ha hu => ht.neighbours ha hu) ⟨m, h⟩ n

end

/-! ## The law -/

end Alba

end Highlighter
