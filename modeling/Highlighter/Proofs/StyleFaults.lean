-- The place of the fault in a style rule that cannot be read. A rule may stop where what stands before
-- is a rule by itself and no word goes on. The fault stands at the last place where the rule may stop,
-- with the column of that place, and names the first piece between white space from there on.
import Highlighter.Proofs.StyleRules
import Mathlib.Data.List.DropRight

namespace Highlighter

/-- The first piece of a text is the first of its parts between white space that is not empty. -/
theorem Text.firstPiece_eq (cs : List Char) :
    firstPiece cs = ((cs.splitOnP isSpace).find? fun piece => !piece.isEmpty).getD [] := by
  induction cs with
  | nil => simp [firstPiece]
  | cons c cs ih =>
    by_cases hc : isSpace c = true
    · have hskip : firstPiece (c :: cs) = firstPiece cs := by simp [firstPiece, hc]
      rw [hskip, ih]
      simp [List.splitOnP_cons_eq_if_modifyHead, hc]
    · have hfirst : firstPiece (c :: cs) = (c :: cs).takeWhile fun d => !isSpace d := by
        simp [firstPiece, hc]
      have hpiece : ∀ d ∈ (c :: cs).takeWhile fun d => !isSpace d, isSpace d = false := by
        intro d hd
        simpa using List.mem_takeWhile_imp hd
      have hsplit := List.takeWhile_append_dropWhile (p := fun d => !isSpace d) (l := c :: cs)
      have hne : ((c :: cs).takeWhile fun d => !isSpace d).isEmpty = false := by simp [hc]
      rw [hfirst]
      cases hrest : (c :: cs).dropWhile fun d => !isSpace d with
      | nil =>
        rw [hrest, List.append_nil] at hsplit
        rw [hsplit] at hpiece hne ⊢
        simp [List.splitOnP_eq_singleton hpiece]
      | cons d rest =>
        have hd : isSpace d = true := by
          have hhead := List.head?_dropWhile_not (fun d => !isSpace d) (c :: cs)
          simpa [hrest] using hhead
        rw [hrest] at hsplit
        have hparts := List.splitOnP_append_cons_of_forall_mem hpiece d hd rest
        rw [hsplit] at hparts
        simp [hparts, hne]

namespace StyleRule

/-! ## Where a rule may stop -/

/-- A piece may start right after the text: it is empty or ends in a blank. -/
def BeforePiece (cs : List Char) : Prop := ∀ c ∈ cs.getLast?, Text.isBlank c = true

/-- A rule may stop between the two texts: the first one is a rule by itself, and no word goes on in
the second one. -/
structure Stops (before after : List Char) : Prop where
  rule : ∃ r, read (String.ofList before) = .ok r
  free : BeforePiece before ∨ ∃ c ∈ after.head?, Text.isSpace c = true

/-- The last place of a text where a rule may stop. -/
structure LastStop (text before after : List Char) : Prop where
  whole : text = before ++ after
  stops : Stops before after
  last : ∀ front back, text = front ++ back → Stops front back → front.length ≤ before.length

theorem LastStop.unique {text p q p' q' : List Char} (h : LastStop text p q)
    (h' : LastStop text p' q') : p' = p ∧ q' = q := by
  have hle := h.last p' q' h'.whole h'.stops
  have hge := h'.last p q h.whole h.stops
  apply List.append_inj
  · rw [← h.whole, ← h'.whole]
  · omega

/-! ## More on pieces -/

theorem flatten_pieces (cs : List Char) :
    (pieces cs).flatten = cs.filter fun c => !Text.isBlank c := by
  unfold pieces
  rw [List.flatten_filter_not_isEmpty]
  induction cs with
  | nil => simp
  | cons c cs ih =>
    rw [List.splitOnP_cons_eq_if_modifyHead]
    by_cases hc : Text.isBlank c = true
    · simp [hc, ih]
    · obtain ⟨piece, more, hsplit⟩ :=
        List.exists_cons_of_ne_nil (List.splitOnP_ne_nil Text.isBlank cs)
      rw [hsplit] at ih ⊢
      simp [hc, ← ih]

/-- Blanks in front of a text do not change its pieces. -/
theorem pieces_blanks {blanks : List Char} (h : ∀ c ∈ blanks, Text.isBlank c = true)
    (cs : List Char) : pieces (blanks ++ cs) = pieces cs := by
  rw [← pieces_skipBlanks, ← pieces_skipBlanks cs]
  unfold skipBlanks
  rw [List.dropWhile_append_of_pos h]

/-- Where a piece may start, no piece goes on. -/
theorem BeforePiece.pieces_append {before : List Char} (h : BeforePiece before) (cs : List Char) :
    pieces (before ++ cs) = pieces before ++ pieces cs := by
  induction before using List.reverseRecOn with
  | nil => simp [pieces]
  | append_singleton front b _ =>
    have hb : Text.isBlank b = true := h b (by simp)
    unfold pieces
    rw [List.append_assoc, List.singleton_append, List.splitOnP_append_cons _ _ hb,
      List.splitOnP_append_cons _ _ hb]
    simp

theorem BeforePiece.prepend {more : List Char} (h : BeforePiece more) (hne : more ≠ [])
    (before : List Char) : BeforePiece (before ++ more) := by
  intro c hc
  rw [List.getLast?_append_of_ne_nil _ hne] at hc
  exact h c hc

theorem beforePiece_of_blanks {blanks : List Char} (h : ∀ c ∈ blanks, Text.isBlank c = true) :
    BeforePiece blanks := by
  intro c hc
  exact h c (List.mem_of_mem_getLast? hc)

theorem BeforePiece.after_blanks {blanks more : List Char} (h : BeforePiece more)
    (hblanks : ∀ c ∈ blanks, Text.isBlank c = true) : BeforePiece (blanks ++ more) := by
  by_cases hne : more = []
  · subst hne
    simpa using beforePiece_of_blanks hblanks
  · exact h.prepend hne blanks

theorem exists_blanks (cs : List Char) :
    ∃ blanks, cs = blanks ++ skipBlanks cs ∧ ∀ c ∈ blanks, Text.isBlank c = true := by
  refine ⟨cs.takeWhile Text.isBlank, List.takeWhile_append_dropWhile.symm, ?_⟩
  intro c hc
  exact List.mem_takeWhile_imp hc

/-! ## Where reading stops -/

/-- Reading gets no further than between the two texts: no word stands there, or a word ended there
and white space follows. -/
inductive Stuck (before after : List Char) : Prop where
  | noWord (hend : BeforePiece before) (hword : StyleWord.take? after = none)
  | space (hspace : ∃ c ∈ after.head?, Text.isSpace c = true)

theorem Stuck.imp {before before' after : List Char} (h : Stuck before after)
    (hend : BeforePiece before → BeforePiece before') : Stuck before' after := by
  cases h with
  | noWord hpiece hword => exact .noWord (hend hpiece) hword
  | space hspace => exact .space hspace

/-- The words that are read are those of the pieces before the text that is left. -/
theorem stuck_of_takeWords {fuel : Nat} {cs rest : List Char} {words : List StyleWord}
    (hfuel : cs.length ≤ fuel) (hstart : startsBlank cs = false)
    (h : takeWords fuel cs = (words, rest)) (hne : rest ≠ []) :
    ∃ front, cs = front ++ rest ∧ List.Forall₂ StyleWord.Spelled (pieces front) words ∧
      startsBlank rest = false ∧ Stuck front rest := by
  induction fuel generalizing cs words with
  | zero =>
    cases h
    exact absurd (List.eq_nil_of_length_eq_zero (Nat.le_zero.1 hfuel)) hne
  | succ fuel ih =>
    unfold takeWords at h
    split at h
    · rename_i hword
      cases h
      exact ⟨[], rfl, .nil, hstart, .noWord (by simp [BeforePiece]) hword⟩
    · rename_i word tail htake
      obtain ⟨⟨piece, rfl, hword⟩, hend⟩ := StyleWord.spelled_of_take? htake
      have hpieces : ∀ {rest}, rest = [] ∨ startsBlank rest = true →
          pieces (piece ++ rest) = piece :: pieces rest :=
        pieces_append hword.no_space.1 hword.no_blank
      split at h
      · rename_i hblank
        simp only [Prod.mk.injEq] at h
        obtain ⟨rfl, hrest⟩ := h
        obtain ⟨blanks, htail, hblanks⟩ := exists_blanks tail
        -- A word takes a character at least, so the fuel lasts for the rest.
        have hlength : (skipBlanks tail).length ≤ fuel := by
          have hpos := List.length_pos_iff.2 hword.no_space.1
          have hsum := congrArg List.length htail
          simp only [List.length_append] at hfuel hsum
          omega
        obtain ⟨front, hfront, hwords, hleft, hstuck⟩ :=
          ih hlength (startsBlank_skipBlanks tail) (Prod.ext rfl hrest)
        have hsome : blanks ≠ [] := by
          rintro rfl
          have hnone := startsBlank_skipBlanks tail
          rw [List.nil_append] at htail
          rw [← htail, hblank] at hnone
          cases hnone
        have hagain : startsBlank (blanks ++ front) = true := by
          obtain ⟨b, more, rfl⟩ := List.exists_cons_of_ne_nil hsome
          exact hblanks b (by simp)
        refine ⟨piece ++ (blanks ++ front), ?_, ?_, hleft, hstuck.imp ?_⟩
        · rw [List.append_assoc, List.append_assoc, ← hfront, ← htail]
        · rw [hpieces (Or.inr hagain), pieces_blanks hblanks]
          exact .cons hword hwords
        · intro hend
          apply (hend.after_blanks hblanks).prepend
          simp [hsome]
      · rename_i hblank
        cases h
        refine ⟨piece, rfl, ?_, by simpa using hblank, .space ?_⟩
        · have hpiece := hpieces (Or.inl rfl)
          rw [List.append_nil] at hpiece
          rw [hpiece]
          exact .cons hword .nil
        · obtain ⟨c, rest, rfl⟩ := List.exists_cons_of_ne_nil hne
          exact ⟨c, rfl, hend⟩

/-- What a fault of a rule says: what is read before it, and how it is told. -/
theorem stuck_of_ofChars {cs found : List Char} {column : Nat}
    (h : ofChars cs = .error (column, found)) :
    ∃ before after, cs = before ++ after ∧ after ≠ [] ∧ (∃ r, ofChars before = .ok r) ∧
      startsBlank after = false ∧ Stuck before after ∧ column = columnAfter before ∧
      found = Text.firstPiece after := by
  unfold ofChars at h
  split at h
  · cases h
  · rename_i words rest hne htake
    simp only [Except.error.injEq, Prod.mk.injEq] at h
    obtain ⟨rfl, rfl⟩ := h
    have hrest : rest ≠ [] := by
      rintro rfl
      exact hne rfl
    obtain ⟨blanks, hcs, hblanks⟩ := exists_blanks cs
    have hlength : (skipBlanks cs).length ≤ cs.length :=
      (List.dropWhile_sublist Text.isBlank (l := cs)).length_le
    obtain ⟨front, hfront, hwords, hleft, hstuck⟩ :=
      stuck_of_takeWords hlength (startsBlank_skipBlanks cs) htake hrest
    have hwhole : cs = blanks ++ front ++ rest := by
      rw [List.append_assoc, ← hfront]
      exact hcs
    refine ⟨blanks ++ front, rest, hwhole, hrest, ⟨⟨words⟩, ?_⟩, hleft,
      hstuck.imp fun hend => hend.after_blanks hblanks, ?_, rfl⟩
    · rw [ofChars_eq_ok, pieces_blanks hblanks]
      exact hwords
    · have htake : cs.take (cs.length - rest.length) = blanks ++ front := by
        rw [hwhole, List.length_append, Nat.add_sub_cancel, List.take_left]
      rw [htake]

/-! ## No later place -/

/-- Where a rule may stop, its last piece may end as a word. -/
theorem mayEnd_of_free {before piece tail after : List Char} (hpiece : piece ≠ [])
    (hblank : ∀ c ∈ piece, Text.isBlank c = false) (htail : tail = [] ∨ startsBlank tail = true)
    (hfree : BeforePiece (before ++ (piece ++ tail)) ∨ ∃ c ∈ after.head?, Text.isSpace c = true) :
    StyleWord.mayEnd (tail ++ after) = true := by
  rcases htail with rfl | htail
  · have hinside : ¬ BeforePiece (before ++ piece) := by
      intro hlast
      rw [BeforePiece, List.getLast?_append_of_ne_nil _ hpiece] at hlast
      have hend := hlast _ (List.getLast_mem_getLast? hpiece)
      rw [hblank _ (List.getLast_mem hpiece)] at hend
      cases hend
    rw [List.append_nil] at hfree
    obtain ⟨d, hd, hspace⟩ := hfree.resolve_left hinside
    apply StyleWord.mayEnd_iff.2
    intro d' hd'
    rwa [← Option.mem_unique hd hd']
  · exact mayEnd_of_startsBlank htail after

/-- A rule may not stop later than where reading is stuck. -/
theorem Stuck.not_stops {before more after : List Char} (hstuck : Stuck before (more ++ after))
    (hstart : startsBlank (more ++ after) = false) (hne : more ≠ []) :
    ¬ Stops (before ++ more) after := by
  rintro ⟨⟨r, hr⟩, hfree⟩
  rw [read_eq_ok, String.toList_ofList] at hr
  have hspelled : ∀ piece ∈ pieces (before ++ more), ∃ word, StyleWord.Spelled piece word :=
    exists_forall₂.1 ⟨_, hr⟩
  obtain ⟨c, more, rfl⟩ := List.exists_cons_of_ne_nil hne
  have hc : Text.isBlank c = false := hstart
  cases hstuck with
  | noWord hend hword =>
    obtain ⟨piece, tail, hmore, hpiece, hblank, htail⟩ := exists_piece hne hc
    rw [hend.pieces_append, hmore, pieces_append hpiece hblank htail] at hspelled
    obtain ⟨word, hword'⟩ := hspelled piece (by simp)
    rw [hmore] at hfree
    -- The word would have been read where reading is stuck.
    have htake := StyleWord.take?_of_spelled hword' (mayEnd_of_free hpiece hblank htail hfree)
    rw [hmore, List.append_assoc, htake] at hword
    cases hword
  | space hspace =>
    have hspace : Text.isSpace c = true := by simpa using hspace
    have hmem : c ∈ (pieces (before ++ c :: more)).flatten := by
      rw [flatten_pieces]
      simp [hc]
    obtain ⟨piece, hpiece, hin⟩ := List.mem_flatten.1 hmem
    obtain ⟨word, hword⟩ := hspelled piece hpiece
    have hno := hword.no_space.2 c hin
    rw [hspace] at hno
    cases hno

/-- Where reading is stuck, a rule may stop for the last time. -/
theorem Stuck.lastStop {before after : List Char} (hstuck : Stuck before after)
    (hrule : ∃ r, ofChars before = .ok r) (hstart : startsBlank after = false) :
    LastStop (before ++ after) before after := by
  refine ⟨rfl, ⟨?_, ?_⟩, ?_⟩
  · obtain ⟨r, hr⟩ := hrule
    exact ⟨r, by rw [read_eq_ok, String.toList_ofList, ← ofChars_eq_ok, hr]⟩
  · cases hstuck with
    | noWord hend _ => exact .inl hend
    | space hspace => exact .inr hspace
  · intro front back hwhole hstops
    by_contra hlonger
    obtain ⟨more, rfl, hafter⟩ | ⟨more, rfl, hback⟩ := List.append_eq_append_iff.1 hwhole
    · subst hafter
      apply hstuck.not_stops hstart _ hstops
      rintro rfl
      simp at hlonger
    · simp at hlonger

/-! ## The law -/

/-- A text that is no rule has a last place where a rule may stop. Some text is left there, and the
fault tells the column of that place, counted from the last line feed, and the first piece between
white space from there on. -/
theorem a_fault_stands_where_a_rule_stops_last (s : String) (e : StyleError)
    (h : read s = .error e) :
    (∃ before after, LastStop s.toList before after) ∧
      ∀ before after, LastStop s.toList before after → after ≠ [] ∧
        e = .unknownWord s (1 + (before.rtakeWhile (· != '\n')).length)
          (String.ofList
            (((after.splitOnP Text.isSpace).find? fun piece => !piece.isEmpty).getD [])) := by
  unfold read at h
  split at h
  · cases h
  · rename_i column found hfault
    cases h
    obtain ⟨before, after, hwhole, hne, hrule, hstart, hstuck, rfl, rfl⟩ := stuck_of_ofChars hfault
    have hlast := hstuck.lastStop hrule hstart
    rw [← hwhole] at hlast
    refine ⟨⟨before, after, hlast⟩, ?_⟩
    intro before' after' hlast'
    obtain ⟨rfl, rfl⟩ := hlast.unique hlast'
    refine ⟨hne, ?_⟩
    rw [Text.firstPiece_eq, columnAfter, List.rtakeWhile, List.length_reverse, Nat.add_comm]

/-- A word ends before a wide space, which no rule goes past; the line of the fault is the second. -/
theorem a_sample_fault_stands_where_a_rule_stops_last :
    read "mono\n bold\u3000red #8" = .error (.unknownWord "mono\n bold\u3000red #8" 6 "red") ∧
      ∃ before after, LastStop "mono\n bold\u3000red #8".toList before after ∧ after ≠ [] := by
  have hread : read "mono\n bold\u3000red #8" =
      .error (.unknownWord "mono\n bold\u3000red #8" 6 "red") := by decide +kernel
  obtain ⟨⟨before, after, hlast⟩, hall⟩ := a_fault_stands_where_a_rule_stops_last _ _ hread
  exact ⟨hread, before, after, hlast, (hall before after hlast).1⟩

end StyleRule

end Highlighter
