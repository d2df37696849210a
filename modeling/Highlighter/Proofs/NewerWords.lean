-- What the two lists of reserved words change. The legacy list lacks some newer words, and these become
-- names. All else stays: the places of the tokens, the other categories, and the spans of highlights,
-- as neither keywords nor names stand next to each other.
import Highlighter.Proofs.AlbaKeywords
import Highlighter.Proofs.MaximalMunch
import Mathlib.Data.List.Forall2

namespace Highlighter

/-- The word is in the extended list only. -/
def KeywordSet.Newer (w : String) : Prop := w ∈ extended.words ∧ w ∉ legacy.words

/-- The token `t` of the extended list, as the legacy list has it. -/
structure Token.Reclassified (t t' : Token) : Prop where
  text : t'.text = t.text
  start : t'.start = t.start
  kind : t'.kind = t.kind ∨ KeywordSet.Newer t.text ∧ t.kind = .keyword ∧ t'.kind = .name
  newer : t.kind = .keyword → KeywordSet.Newer t.text → t'.kind = .name

/-- The highlight `h` of the tokens of the extended list, as the legacy list has it. -/
structure Highlight.Reclassified (tokens : List Token) (h h' : Highlight) : Prop where
  start : h'.start = h.start
  stop : h'.stop = h.stop
  kind : h'.kind = h.kind ∨ ∃ t ∈ tokens, KeywordSet.Newer t.text ∧ t.kind = .keyword ∧
    h = .ofToken t ∧ h'.kind = .name

/-- A category of words. -/
def Kind.OfWord (k : Kind) : Prop := k = .keyword ∨ k = .name

/-- Not both tokens are words. -/
def Token.Apart (t u : Token) : Prop := ¬ (t.kind.OfWord ∧ u.kind.OfWord)

/-! ## Spans -/

section

variable {p p' t t' : Token} {ts ts' all : List Token} {h h' : Highlight}

theorem Token.Reclassified.stop_eq (ht : Reclassified t t') : t'.stop = t.stop := by
  unfold Token.stop
  rw [ht.text, ht.start]

theorem Token.Reclassified.kind_eq (ht : Reclassified t t') (hword : ¬ t.kind.OfWord) :
    t'.kind = t.kind := by
  rcases ht.kind with heq | ⟨_, hkeyword, _⟩
  · exact heq
  · exact absurd (Or.inl hkeyword) hword

theorem Token.Reclassified.ofWord_iff (ht : Reclassified t t') :
    t'.kind.OfWord ↔ t.kind.OfWord := by
  unfold Kind.OfWord
  rcases ht.kind with heq | ⟨_, hkeyword, hname⟩
  · rw [heq]
  · simp [hkeyword, hname]

/-- Neighbours have one category under both lists or under none. -/
theorem Token.Reclassified.same_iff (hp : Reclassified p p') (ht : Reclassified t t')
    (hapart : p.Apart t) : p'.kind = t'.kind ↔ p.kind = t.kind := by
  by_cases hword : p.kind.OfWord
  · have ht' : ¬ t.kind.OfWord := fun h => hapart ⟨hword, h⟩
    have hne : p.kind ≠ t.kind := fun h => ht' (h ▸ hword)
    have hne' : p'.kind ≠ t'.kind := fun h => ht' (ht.ofWord_iff.1 (h ▸ hp.ofWord_iff.2 hword))
    exact iff_of_false hne' hne
  · rw [hp.kind_eq hword]
    by_cases hword' : t.kind.OfWord
    · have hne : p.kind ≠ t.kind := fun h => hword (h ▸ hword')
      have hne' : p.kind ≠ t'.kind := fun h => hword (h ▸ ht.ofWord_iff.2 hword')
      exact iff_of_false hne' hne
    · rw [ht.kind_eq hword']

theorem Highlight.Reclassified.ofToken (ht : Token.Reclassified t t') (hmem : t ∈ all) :
    Reclassified all (.ofToken t) (.ofToken t') := by
  refine ⟨ht.start, ht.stop_eq, ?_⟩
  rcases ht.kind with heq | ⟨hnewer, hkeyword, hname⟩
  · exact Or.inl heq
  · exact Or.inr ⟨t, hmem, hnewer, hkeyword, rfl, hname⟩

/-- The spans that end in the neighbours `p` and `p'` are extended alike. -/
theorem Highlight.Reclassified.extend (hts : List.Forall₂ Token.Reclassified ts ts')
    (hh : Reclassified all h h') (hp : Token.Reclassified p p') (hkind : h.kind = p.kind)
    (hkind' : h'.kind = p'.kind) (hchain : (p :: ts).IsChain Token.Apart) (hmem : ts ⊆ all) :
    List.Forall₂ (Reclassified all) (h.extend ts) (h'.extend ts') := by
  induction hts generalizing h h' p p' with
  | nil => exact .cons hh .nil
  | @cons t t' ts ts' ht _ ih =>
    rw [List.isChain_cons_cons] at hchain
    rw [List.cons_subset] at hmem
    have hsame := hp.same_iff ht hchain.1
    have hcontinues : h'.continues t' = h.continues t := by
      rw [Bool.eq_iff_iff]
      simp [continues, hkind, hkind', hsame, hh.stop, ht.start]
    unfold Highlight.extend
    rw [hcontinues]
    by_cases hnext : h.continues t = true
    · have heq : p.kind = t.kind := by
        simp [continues, hkind] at hnext
        exact hnext.1
      -- A span goes on only where both neighbours have its category, so it is not one of words.
      have hword : ¬ p.kind.OfWord := fun hword => hchain.1 ⟨hword, heq ▸ hword⟩
      have hjoined : Reclassified all { h with stop := t.stop } { h' with stop := t'.stop } :=
        ⟨hh.start, ht.stop_eq, Or.inl (by rw [hkind, hkind', hp.kind_eq hword])⟩
      rw [if_pos hnext, if_pos hnext]
      exact ih hjoined ht (hkind.trans heq) (hkind'.trans (hsame.2 heq)) hchain.2 hmem.2
    · rw [if_neg hnext, if_neg hnext]
      exact .cons hh (ih (.ofToken ht hmem.1) ht rfl rfl hchain.2 hmem.2)

theorem Highlight.Reclassified.merge (hts : List.Forall₂ Token.Reclassified ts ts')
    (hchain : ts.IsChain Token.Apart) :
    List.Forall₂ (Reclassified ts) (Highlight.merge ts) (Highlight.merge ts') := by
  cases hts with
  | nil => exact .nil
  | cons ht hts =>
    exact extend hts (.ofToken ht List.mem_cons_self) ht rfl rfl hchain (List.subset_cons_self _ _)

end

namespace Alba

open Highlighter.Stream

/-! ## Pieces -/

section

variable {set : KeywordSet} {b : Bool} {c : Char} {rest : List Char}

theorem isReserved_cases (b : Bool) (cs : List Char) :
    isReserved .extended b cs = isReserved .legacy b cs ∨
      KeywordSet.Newer (String.ofList (cs.takeWhile isIdent)) ∧
        isReserved .extended b cs = true ∧ isReserved .legacy b cs = false := by
  have hsubset : ∀ w ∈ KeywordSet.legacy.words, w ∈ KeywordSet.extended.words := by decide
  by_cases hold : String.ofList (cs.takeWhile isIdent) ∈ KeywordSet.legacy.words
  · left
    simp [isReserved, hold, hsubset _ hold]
  · have hlegacy : isReserved .legacy b cs = false := by simp [isReserved, hold]
    by_cases hreserved : isReserved .extended b cs = true
    · exact Or.inr ⟨⟨(isReserved_iff.1 hreserved).1, hold⟩, hreserved, hlegacy⟩
    · left
      rw [hlegacy]
      simpa using hreserved

/-- Both lists cut off the same characters and lead to the same state. Only a newer word changes its
category. -/
theorem Mode.piece_legacy (m : Mode) (b : Bool) (c : Char) (rest : List Char) :
    (m.piece .legacy b c rest).chars = (m.piece .extended b c rest).chars ∧
      (m.piece .legacy b c rest).next = (m.piece .extended b c rest).next ∧
      ((m.piece .legacy b c rest).kind = (m.piece .extended b c rest).kind ∨
        KeywordSet.Newer (String.ofList (m.piece .extended b c rest).chars) ∧
          (m.piece .extended b c rest).kind = .keyword ∧
          (m.piece .legacy b c rest).kind = .name) := by
  cases m with
  | comment => exact ⟨rfl, rfl, Or.inl rfl⟩
  | root =>
    unfold piece
    dsimp only
    by_cases hc : c.isAlpha = true
    · rw [rootPiece_of_isAlpha hc, rootPiece_of_isAlpha hc]
      rcases isReserved_cases b (c :: rest) with heq | ⟨hnewer, hextended, hlegacy⟩
      · rw [heq]
        exact ⟨rfl, rfl, Or.inl rfl⟩
      · simp [hextended, hlegacy, hnewer]
    · simp [rootPiece, hc]

end

/-! ## Two runs side by side -/

section

variable {set : KeywordSet} {l l' : Lexer} {text : String} {m : Mode} {s t : Stream} {a : Step}

theorem run?_of_ofWord {k : Kind} (h : k.OfWord) : run? k = some isIdent := by
  rcases h with rfl | rfl <;> rfl

theorem At.chain (h : At set l text m s) (n : Nat) :
    ((s.steps n).map (·.token)).IsChain Token.Apart :=
  (h.isChain_neighbours n).imp fun _ _ htu ⟨hword, hword'⟩ =>
    htu.run isIdent (run?_of_ofWord hword) (run?_of_ofWord hword')

/-- A step with the extended list is one with the legacy list, which leads to the same place. -/
theorem At.reclassified (hs : At .extended l text m s) (ht : At .legacy l' text m t)
    (hplace : t.place = s.place) (ha : s.next? = some a) :
    ∃ b m', t.next? = some b ∧ a.token.Reclassified b.token ∧
      At .extended l text m' a.next ∧ At .legacy l' text m' b.next ∧
      b.next.place = a.next.place := by
  obtain ⟨c, rest, hrest, htaken, hnext⟩ := hs.of_next? ha
  rw [← hplace] at hrest htaken hnext
  obtain ⟨b, htaken', hnext'⟩ := ht.takes hrest rfl
  obtain ⟨hchars, hturn, hkind⟩ := m.piece_legacy (Look.isWordAt false t.place.last) c rest
  have htext : b.token.text = a.token.text := by
    rw [htaken.token, htaken'.token, hchars]
  have hkinds : b.token.kind = a.token.kind ∨ KeywordSet.Newer a.token.text ∧
      a.token.kind = .keyword ∧ b.token.kind = .name := by
    rw [htaken.token, htaken'.token]
    exact hkind
  refine ⟨b, _, htaken'.next, ⟨htext, ?_, hkinds, ?_⟩, hnext, hturn ▸ hnext', ?_⟩
  · rw [htaken.token, htaken'.token, hplace]
  · intro hkeyword hnewer
    rcases hkinds with heq | ⟨_, _, hname⟩
    · have hmem := ((ht.keyword_iff htaken'.next).1 (heq.trans hkeyword)).1
      rw [htext] at hmem
      exact absurd hmem hnewer.2
    · exact hname
  · rw [← htaken.leads.forward_eq, ← htaken'.leads.forward_eq, hchars, hplace]

theorem At.reclassified_run (hs : At .extended l text m s) (ht : At .legacy l' text m t)
    (hplace : t.place = s.place) (n : Nat) :
    List.Forall₂ Token.Reclassified ((s.steps n).map (·.token)) ((t.steps n).map (·.token)) := by
  induction n generalizing m s t with
  | zero => exact .nil
  | succ n ih =>
    rcases ha : s.next? with _ | a
    · have hb : t.next? = none := by
        rw [next?_eq_none, hplace]
        exact next?_eq_none.1 ha
      rw [steps_of_end _ ha, steps_of_end _ hb]
      exact .nil
    · obtain ⟨b, m', hb, htoken, hs', ht', hplace'⟩ := hs.reclassified ht hplace ha
      rw [steps_of_next? _ ha, steps_of_next? _ hb]
      exact .cons htoken (ih hs' ht' hplace')

end

/-! ## The law -/

/-- Both lists make a lexer. In every text these yield the same tokens and the same spans, where only
keywords that are newer words turn to names. -/
theorem the_lists_differ_only_in_newer_words :
    ∃ l l', lexer .extended = .ok l ∧ lexer .legacy = .ok l' ∧ ∀ text,
      List.Forall₂ Token.Reclassified (l.tokenize text) (l'.tokenize text) ∧
      List.Forall₂ (Highlight.Reclassified (l.tokenize text)) (l.highlight text)
        (l'.highlight text) := by
  obtain ⟨l, hl⟩ := lexer_ok .extended
  obtain ⟨l', hl'⟩ := lexer_ok .legacy
  refine ⟨l, l', hl, hl', fun text => ?_⟩
  have hs := at_start hl text
  have htokens : List.Forall₂ Token.Reclassified (l.tokenize text) (l'.tokenize text) :=
    hs.reclassified_run (at_start hl' text) rfl _
  exact ⟨htokens, Highlight.Reclassified.merge htokens (hs.chain _)⟩

end Alba

end Highlighter
