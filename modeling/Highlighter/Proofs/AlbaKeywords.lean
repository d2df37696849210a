-- The keywords of Alba in a whole text. A keyword is a reserved word with no word character, of any
-- script, next to it. Outside of comments no such word is missed: no token before reaches into it.
import Highlighter.Proofs.AlbaScanner
import Highlighter.Proofs.Coverage

namespace Highlighter

namespace Alba

open Highlighter.Stream

/-! ## Words by themselves -/

/-- The text `w` stands at offset `i`, and there is no word character just before it or after it. -/
def StandsAlone (text w : String) (i : Nat) : Prop :=
  ∃ before after, text.toList = before ++ (w.toList ++ after) ∧ String.utf8Len before = i ∧
    Look.isWordAt false before.getLast? = false ∧ Look.isWordAt false after.head? = false

theorem standsAlone_at {text w : String} {p : Place} (hp : Place.In text p) :
    StandsAlone text w p.offset ↔ Look.isWordAt false p.last = false ∧
      ∃ after, p.rest = w.toList ++ after ∧ Look.isWordAt false after.head? = false := by
  constructor
  · rintro ⟨before, after, htext, hoff, hbefore, hafter⟩
    obtain ⟨p', hp', hrest, hoff', hlast⟩ := Place.exists_in_of_split htext
    obtain rfl := hp.eq_of_offset hp' (hoff.symm.trans hoff'.symm)
    exact ⟨hlast ▸ hbefore, after, hrest, hafter⟩
  · rintro ⟨hlast, after, hrest, hafter⟩
    obtain ⟨before, hb⟩ := hp
    refine ⟨before, after, ?_, ?_, ?_, hafter⟩
    · rw [← hrest]
      exact hb.rest
    · simpa [Place.start] using hb.offset.symm
    · simpa [hb.last] using hlast

/-! ## Pieces with letters -/

section

variable {set : KeywordSet} {b : Bool} {c : Char} {rest : List Char}

theorem isSpace_of_isAlpha (h : c.isAlpha = true) : Text.isSpace c = false := by
  have hcode := isAlpha_iff.1 h
  simp [Text.isSpace, Text.inSpans, Text.covers, Text.spaceSpans]
  omega

theorem isDigit_of_isAlpha (h : c.isAlpha = true) : c.isDigit = false := by
  have hcode := isAlpha_iff.1 h
  rw [Bool.eq_false_iff, ne_eq, Char.isDigit_iff_toNat]
  simp
  omega

/-- Where a letter comes next, ordinary text goes on with a keyword or a name. -/
theorem rootPiece_of_isAlpha (hc : c.isAlpha = true) : rootPiece set b c rest =
    if isReserved set b (c :: rest) = true then
      ⟨3, .keyword, (c :: rest).takeWhile isIdent, .root⟩
    else ⟨4, .name, (c :: rest).takeWhile isIdent, .root⟩ := by
  have hdash : c ≠ '-' := by
    rintro rfl
    cases hc
  have hbrace : c ≠ '\x7b' := by
    rintro rfl
    cases hc
  simp [rootPiece, isSpace_of_isAlpha hc, hdash, hbrace, hc]

theorem chars_of_isAlpha (hc : c.isAlpha = true) :
    (rootPiece set b c rest).chars = (c :: rest).takeWhile isIdent := by
  rw [rootPiece_of_isAlpha hc]
  split <;> rfl

/-- What follows such a piece is the text after the whole run. -/
theorem dropWhile_of_isAlpha {ds : List Char} (hc : c.isAlpha = true)
    (h : c :: rest = (rootPiece set b c rest).chars ++ ds) : (c :: rest).dropWhile isIdent = ds := by
  rw [chars_of_isAlpha hc] at h
  have hsplit : (c :: rest).takeWhile isIdent ++ (c :: rest).dropWhile isIdent =
      (c :: rest).takeWhile isIdent ++ ds := by
    rw [List.takeWhile_append_dropWhile]
    exact h
  exact List.append_cancel_left hsplit

theorem rootPiece_of_word {w : String} {after : List Char} (hw : w ∈ set.words)
    (hword : c :: rest = w.toList ++ after) (hafter : Look.isWordAt false after.head? = false) :
    rootPiece set false c rest = ⟨3, .keyword, w.toList, .root⟩ := by
  obtain ⟨htake, hdrop⟩ := takeWhile_isIdent
    (fun c hc => isIdent_of_isAlpha ((words_spec set w hw).2 c hc)) hafter
  rw [← hword] at htake hdrop
  have hreserved : isReserved set false (c :: rest) = true := by
    rw [isReserved_iff, htake, hdrop, String.ofList_toList]
    exact ⟨hw, rfl, hafter⟩
  rw [rootPiece_of_isAlpha (isAlpha_of_isReserved hreserved), if_pos hreserved, htake]

theorem rootPiece_ne_keyword (hc : ¬ c.isAlpha = true) :
    (rootPiece set b c rest).kind ≠ .keyword := by
  unfold rootPiece
  rw [if_neg hc]
  split_ifs <;> simp

theorem size_pos_of_mem {w : String} (hw : w ∈ set.words) : 0 < w.utf8ByteSize := by
  rw [← String.utf8Len_toList]
  exact Nat.pos_of_ne_zero (by simpa using word_ne_nil hw)

/-- No piece of a comment is a reserved word. -/
theorem commentPiece_not_mem : String.ofList (commentPiece c rest).chars ∉ set.words := by
  intro hmem
  obtain ⟨hlength, halpha⟩ := words_spec set _ hmem
  rw [String.toList_ofList] at hlength halpha
  unfold commentPiece at hlength halpha
  split_ifs at hlength halpha
  · simp at hlength
  · exact absurd (halpha '-' (by simp)) (by decide)
  · simp at hlength

/-- A piece is a keyword just if it is a reserved word by itself. -/
theorem Mode.keyword_iff (m : Mode) {ds : List Char}
    (h : c :: rest = (m.piece set b c rest).chars ++ ds) :
    (m.piece set b c rest).kind = .keyword ↔
      String.ofList (m.piece set b c rest).chars ∈ set.words ∧ b = false ∧
        Look.isWordAt false ds.head? = false := by
  cases m with
  | root =>
    by_cases hc : c.isAlpha = true
    · have hds := dropWhile_of_isAlpha hc h
      unfold piece
      dsimp only
      rw [chars_of_isAlpha hc, ← hds, ← isReserved_iff, rootPiece_of_isAlpha hc]
      by_cases hres : isReserved set b (c :: rest) = true
      · rw [if_pos hres]
        exact iff_of_true rfl hres
      · rw [if_neg hres]
        exact iff_of_false (by simp) hres
    · refine iff_of_false (rootPiece_ne_keyword hc) fun ⟨hmem, _⟩ => hc ?_
      obtain ⟨cs, hchars, _⟩ := Mode.root.chars_eq set b c rest
      have halpha := (words_spec set _ hmem).2
      rw [hchars, String.toList_ofList] at halpha
      exact halpha c List.mem_cons_self
  | comment =>
    refine iff_of_false ?_ fun ⟨hmem, _⟩ => commentPiece_not_mem hmem
    unfold piece
    simp [commentPiece_kind]

/-- Outside of comments a piece holds a letter at its start or after a word character, or not at
all. -/
theorem Mode.before_letter (m : Mode) {us more : List Char} {d : Char} (hd : d.isAlpha = true)
    (hline : (m.piece set b c rest).kind ≠ .commentSingleline)
    (hblock : (m.piece set b c rest).kind ≠ .commentMultiline)
    (h : (m.piece set b c rest).chars = us ++ d :: more) :
    us = [] ∨ Look.isWordAt false us.getLast? = true := by
  have hone (h : [c] = us ++ d :: more) : us = [] := by
    rcases us with _ | ⟨u, us⟩
    · rfl
    · simp at h
  have hrun {test : Char → Bool} (htest : test d = false)
      (h : (c :: rest).takeWhile test = us ++ d :: more) : False := by
    have hpasses := List.mem_takeWhile_imp (h ▸ List.mem_append_right us List.mem_cons_self)
    rw [htest] at hpasses
    cases hpasses
  have hword (h : (c :: rest).takeWhile isIdent = us ++ d :: more) :
      us = [] ∨ Look.isWordAt false us.getLast? = true := by
    by_cases hne : us = []
    · exact Or.inl hne
    · refine Or.inr ?_
      rw [List.getLast?_eq_some_getLast hne, isWordAt_some]
      have hlast := List.mem_append_left (d :: more) (List.getLast_mem hne)
      exact isWord_of_isIdent (List.mem_takeWhile_imp (h ▸ hlast))
  cases m with
  | root =>
    unfold piece rootPiece at hline hblock h
    dsimp only at hline hblock h
    split_ifs at hline hblock h
    · exact (hrun (isSpace_of_isAlpha hd) h).elim
    · exact absurd rfl hline
    · exact absurd rfl hblock
    · exact hword h
    · exact hword h
    · exact (hrun (isDigit_of_isAlpha hd) h).elim
    · exact Or.inl (hone h)
    · exact Or.inl (hone h)
  | comment => exact absurd (commentPiece_kind c rest) hblock

end

/-! ## The keywords of a text -/

section

variable {set : KeywordSet} {l : Lexer} {text w : String} {i : Nat}

/-- A reserved word by itself, at a place in ordinary text, is the next token. -/
theorem At.keyword {s : Stream} {step : Step} (h : At set l text .root s) (hw : w ∈ set.words)
    (halone : StandsAlone text w s.place.offset) (hstep : s.next? = some step) :
    step.token = ⟨.keyword, w, s.place.offset⟩ := by
  obtain ⟨c, rest, hrest, htaken, _⟩ := h.of_next? hstep
  obtain ⟨hbefore, after, hword, hafter⟩ := (standsAlone_at h.good.place).1 halone
  rw [hrest] at hword
  rw [htaken.token, Mode.piece, hbefore, rootPiece_of_word hw hword hafter, String.ofList_toList]

/-- A token outside of comments that holds the first byte of a reserved word by itself starts with
that byte. -/
theorem At.start_eq {m : Mode} {s : Stream} {step : Step} (h : At set l text m s)
    (hw : w ∈ set.words) (halone : StandsAlone text w i) (hstep : s.next? = some step)
    (hline : step.token.kind ≠ .commentSingleline) (hblock : step.token.kind ≠ .commentMultiline)
    (hstart : step.token.start ≤ i) (hstop : i < step.token.stop) : s.place.offset = i := by
  obtain ⟨c, rest, _, htaken, _⟩ := h.of_next? hstep
  obtain ⟨before, after, htext, rfl, hbefore, _⟩ := halone
  obtain ⟨q, hq, hqrest, hqoff, hqlast⟩ := Place.exists_in_of_split htext
  rw [h.good.stop_eq hstep, ← hqoff] at hstop
  rw [htaken.token] at hline hblock hstart
  obtain ⟨us, hus⟩ := h.good.place.leads_of_le hq (hqoff ▸ hstart)
  rw [← hqoff]
  -- The first character of the word lies in the token, after the characters `us`.
  obtain ⟨d, word, hd⟩ := List.exists_cons_of_ne_nil (word_ne_nil hw)
  have halpha := (words_spec set w hw).2 d (hd ▸ List.mem_cons_self)
  obtain ⟨more, hmore⟩ : ∃ more, _ = us ++ d :: more :=
    hus.inside htaken.leads hstop (by rw [hqrest, hd]; rfl)
  rcases m.before_letter halpha hline hblock hmore with rfl | hlast
  · simpa using hus.offset.symm
  · have hne : us ≠ [] := by
      rintro rfl
      cases hlast
    rw [← hqlast, hus.last, List.getLast?_eq_some_getLast hne, Option.some_or,
      ← List.getLast?_eq_some_getLast hne, hlast] at hbefore
    cases hbefore

/-- The laws of the keywords in a text. -/
structure KeywordLaws (set : KeywordSet) (l : Lexer) (text : String) : Prop where
  /-- A token is a keyword just if it is a reserved word and no word character is next to it. -/
  classified : ∀ t ∈ l.tokenize text,
    (t.kind = .keyword ↔ t.text ∈ set.words ∧ StandsAlone text t.text t.start)
  /-- A reserved word that no word character is next to, and that has no byte in a comment, is one
  token, and it is a keyword. -/
  found : ∀ w ∈ set.words, ∀ i, StandsAlone text w i →
    (∀ t ∈ l.tokenize text, t.kind = .commentSingleline ∨ t.kind = .commentMultiline →
      ∀ j, i ≤ j → j < i + w.utf8ByteSize → ¬ (t.start ≤ j ∧ j < t.stop)) →
    ⟨.keyword, w, i⟩ ∈ l.tokenize text ∧
      ∀ t ∈ l.tokenize text, t.start < i + w.utf8ByteSize → i < t.stop → t = ⟨.keyword, w, i⟩

theorem At.keyword_iff {m : Mode} {s : Stream} {step : Step} (h : At set l text m s)
    (hstep : s.next? = some step) : step.token.kind = .keyword ↔
      step.token.text ∈ set.words ∧ StandsAlone text step.token.text step.token.start := by
  obtain ⟨c, rest, hrest, htaken, _⟩ := h.of_next? hstep
  have hsplit := hrest.symm.trans htaken.leads.rest
  rw [htaken.token, m.keyword_iff hsplit, standsAlone_at h.good.place, String.toList_ofList]
  refine and_congr_right fun _ => and_congr_right fun _ => ⟨fun hafter => ?_, ?_⟩
  · exact ⟨_, htaken.leads.rest, hafter⟩
  · rintro ⟨after, hafter, hword⟩
    rwa [htaken.leads.rest_eq hafter]

/-- Outside of comments, a reserved word by itself is the token of a step. -/
theorem exists_keyword (hl : lexer set = .ok l) (hw : w ∈ set.words) (halone : StandsAlone text w i)
    (houtside : ∀ t ∈ l.tokenize text, t.kind = .commentSingleline ∨ t.kind = .commentMultiline →
      ¬ (t.start ≤ i ∧ i < t.stop)) :
    ∃ n step, ((start l text).skip n).next? = some step ∧ step.token = ⟨.keyword, w, i⟩ := by
  have hstart := at_start hl text
  have hsound := Lexer.sound_of_build hl
  have hlt : i < text.utf8ByteSize := by
    obtain ⟨before, after, htext, rfl, _⟩ := halone
    have hpos := size_pos_of_mem hw
    rw [← String.utf8Len_toList, htext, String.utf8Len_append, String.utf8Len_append,
      String.utf8Len_toList]
    omega
  obtain ⟨n, step, hstep, hle, hstop⟩ := exists_step_at hsound hstart.good (Nat.zero_le i) hlt
  have hkind : step.token.kind ≠ .commentSingleline ∧ step.token.kind ≠ .commentMultiline := by
    have hmem := List.mem_map_of_mem (f := (·.token)) (mem_allSteps hsound hstart.good hstep)
    exact not_or.1 fun hcomment => houtside _ hmem hcomment ⟨hle, hstop⟩
  obtain ⟨m, hm⟩ := hstart.skip n
  have hoff := hm.start_eq hw halone hstep hkind.1 hkind.2 hle hstop
  cases m with
  | root => exact ⟨n, step, hstep, hoff ▸ hm.keyword hw (hoff ▸ halone) hstep⟩
  | comment =>
    obtain ⟨c, rest, _, htaken, _⟩ := hm.of_next? hstep
    exact absurd (by rw [htaken.token]; exact commentPiece_kind c rest) hkind.2

/-- Both lists of reserved words make a lexer that keeps the laws of keywords in every text. -/
theorem keywords_are_the_words_by_themselves (set : KeywordSet) :
    ∃ l, lexer set = .ok l ∧ ∀ text, KeywordLaws set l text := by
  obtain ⟨l, hl⟩ := lexer_ok set
  refine ⟨l, hl, fun text => ?_⟩
  have hsound := Lexer.sound_of_build hl
  have hstart := at_start hl text
  refine ⟨?_, ?_⟩
  · intro t ht
    obtain ⟨step, hmem, rfl⟩ := List.mem_map.1 ht
    obtain ⟨n, hstep⟩ := exists_skip_of_mem hmem
    obtain ⟨m, hm⟩ := hstart.skip n
    exact hm.keyword_iff hstep
  · intro w hw i halone houtside
    have hpos : i < i + w.utf8ByteSize := Nat.lt_add_of_pos_right (size_pos_of_mem hw)
    obtain ⟨n, step, hstep, htoken⟩ := exists_keyword hl hw halone fun t ht hcomment =>
      houtside t ht hcomment i (Nat.le_refl i) hpos
    rw [← htoken]
    refine ⟨List.mem_map_of_mem (mem_allSteps hsound hstart.good hstep), ?_⟩
    intro t ht hbefore hafter
    obtain ⟨other, hmem, rfl⟩ := List.mem_map.1 ht
    obtain ⟨k, hother⟩ := exists_skip_of_mem hmem
    rw [eq_of_overlap hsound hstart.good hother hstep (by rw [htoken]; exact hbefore)
      (by rw [htoken]; exact hafter)]

end

end Alba

end Highlighter
