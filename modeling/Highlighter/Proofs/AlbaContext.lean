-- What the tokens of Alba depend on. Text after a token matters only as far as the next character,
-- so appended text leaves all tokens but the last as they were. Text before a place matters only as
-- far as the state and one bit, so a text may be scanned again from any boundary between tokens.
import Highlighter.Proofs.AlbaKeywords

namespace Highlighter

/-- The same token in another text, where `d'` bytes come before the part that both have in common,
and `d` bytes do in the first text. -/
structure Token.Shifted (d d' : Nat) (t t' : Token) : Prop where
  kind : t'.kind = t.kind
  text : t'.text = t.text
  start : t'.start + d = t.start + d'

theorem Token.Shifted.eq {t t' : Token} (h : Token.Shifted 0 0 t t') : t = t' := by
  obtain ⟨hkind, htext, hstart⟩ := h
  cases t
  cases t'
  simp_all

namespace Alba

open Highlighter.Stream

/-! ## Text after a piece -/

section

variable {set : KeywordSet} {b : Bool} {c : Char} {rest l : List Char} {test : Char → Bool}

theorem takeWhile_append_of_lt (h : (l.takeWhile test).length < l.length) (more : List Char) :
    (l ++ more).takeWhile test = l.takeWhile test := by
  rw [List.takeWhile_append, if_neg (Nat.ne_of_lt h)]

theorem head?_dropWhile_append_of_lt (h : (l.takeWhile test).length < l.length) (more : List Char) :
    ((l ++ more).dropWhile test).head? = (l.dropWhile test).head? := by
  have hne : l.dropWhile test ≠ [] := by
    intro hnil
    have hall := l.takeWhile_append_dropWhile (p := test)
    rw [hnil, List.append_nil] at hall
    rw [hall] at h
    exact Nat.lt_irrefl _ h
  rw [List.dropWhile_append, if_neg (by simpa using hne), List.head?_append_of_ne_nil _ hne]

/-- A run that has ended is as reserved as before when text is appended. -/
theorem isReserved_append (h : (l.takeWhile isIdent).length < l.length) (more : List Char) :
    isReserved set b (l ++ more) = isReserved set b l := by
  unfold isReserved
  rw [takeWhile_append_of_lt h, head?_dropWhile_append_of_lt h]

theorem rootPiece_append (h : (rootPiece set b c rest).chars.length < (c :: rest).length)
    (hne : rest ≠ []) (more : List Char) :
    rootPiece set b c (rest ++ more) = rootPiece set b c rest := by
  by_cases hc : c.isAlpha = true
  · rw [chars_of_isAlpha hc] at h
    rw [rootPiece_of_isAlpha hc, rootPiece_of_isAlpha hc, ← List.cons_append, isReserved_append h,
      takeWhile_append_of_lt h]
  · have hhead : (rest ++ more).head? = rest.head? := List.head?_append_of_ne_nil rest hne
    unfold rootPiece at h ⊢
    simp only [if_neg hc, hhead, ← List.cons_append] at h ⊢
    split_ifs at h ⊢
    · rw [takeWhile_append_of_lt h]
    · rw [takeWhile_append_of_lt h]
    · rfl
    · rw [takeWhile_append_of_lt h]
    · rfl
    · rfl

theorem commentPiece_append (hne : rest ≠ []) (more : List Char) :
    commentPiece c (rest ++ more) = commentPiece c rest := by
  unfold commentPiece
  rw [List.head?_append_of_ne_nil rest hne]

/-- A piece before the end of the text stays as it is when text is appended. -/
theorem Mode.piece_append (m : Mode) {ds : List Char}
    (h : c :: rest = (m.piece set b c rest).chars ++ ds) (hds : ds ≠ []) (more : List Char) :
    m.piece set b c (rest ++ more) = m.piece set b c rest := by
  obtain ⟨cs, hchars, _⟩ := m.chars_eq set b c rest
  have hlength := congrArg List.length h
  have hpos := List.length_pos_iff.2 hds
  rw [List.length_append] at hlength
  have hne : rest ≠ [] := by
    rintro rfl
    rw [hchars] at hlength
    simp at hlength
    omega
  cases m with
  | root => exact rootPiece_append (by rw [hlength]; exact Nat.lt_add_of_pos_right hpos) hne more
  | comment => exact commentPiece_append hne more

end

/-! ## Two streams side by side -/

/-- Two streams of Alba that cannot be told apart by what they yield from now on: they are in one
mode, the same text is left but for `more` at the end of the second, and a word character comes
before both places or before none. -/
structure Alike (set : KeywordSet) (l : Lexer) (text text' : String) (more : List Char)
    (d d' : Nat) (s t : Stream) : Prop where
  mode : ∃ m, At set l text m s ∧ At set l text' m t
  rest : t.place.rest = s.place.rest ++ more
  word : Look.isWordAt false t.place.last = Look.isWordAt false s.place.last
  offset : t.place.offset + d = s.place.offset + d'

section

variable {set : KeywordSet} {l : Lexer} {text text' : String} {more : List Char} {d d' : Nat}
  {s t : Stream} {a : Step}

theorem Alike.state_eq (h : Alike set l text text' more d d' s t) :
    t.state = s.state ∧ t.depth = s.depth := by
  obtain ⟨m, hs, ht⟩ := h.mode
  obtain ⟨hstate, hdepth⟩ := hs.state_eq
  obtain ⟨hstate', hdepth'⟩ := ht.state_eq
  exact ⟨hstate'.trans hstate.symm, hdepth'.trans hdepth.symm⟩

/-- A step of the first stream is one of the second, too, if it does not reach the place where the
second text goes on. -/
theorem Alike.next (h : Alike set l text text' more d d' s t) (ha : s.next? = some a)
    (hmore : a.next.place.rest ≠ [] ∨ more = []) :
    ∃ b, t.next? = some b ∧ a.token.Shifted d d' b.token ∧
      Alike set l text text' more d d' a.next b.next := by
  obtain ⟨m, hs, ht⟩ := h.mode
  obtain ⟨c, rest, hrest, htaken, hnext⟩ := hs.of_next? ha
  have hrest' : t.place.rest = c :: (rest ++ more) := by
    rw [h.rest, hrest, List.cons_append]
  have hpiece : m.piece set (Look.isWordAt false t.place.last) c (rest ++ more) =
      m.piece set (Look.isWordAt false s.place.last) c rest := by
    rw [h.word]
    rcases hmore with hne | rfl
    · exact m.piece_append (hrest.symm.trans htaken.leads.rest) hne more
    · rw [List.append_nil]
  obtain ⟨b, htaken', hnext'⟩ := ht.takes hrest' hpiece
  obtain ⟨cs, hchars, _⟩ := m.chars_eq set (Look.isWordAt false s.place.last) c rest
  have hoffset := h.offset
  refine ⟨b, htaken'.next, ⟨?_, ?_, ?_⟩, ⟨_, hnext, hnext'⟩, ?_, ?_, ?_⟩
  · rw [htaken.token, htaken'.token]
  · rw [htaken.token, htaken'.token]
  · rw [htaken.token, htaken'.token]
    exact hoffset
  · refine htaken'.leads.rest_eq ?_
    rw [h.rest, htaken.leads.rest, List.append_assoc]
  · rw [htaken.leads.last, htaken'.leads.last, hchars, List.getLast?_cons, Option.some_or,
      Option.some_or]
  · rw [htaken.leads.offset, htaken'.leads.offset]
    omega

/-- The streams yield the same tokens as long as the first one has not come to its end. -/
theorem Alike.run (h : Alike set l text text' more d d' s t) {n : Nat}
    (hmore : ∀ k < n, (s.skip (k + 1)).place.rest ≠ [] ∨ more = []) :
    List.Forall₂ (Token.Shifted d d') ((s.steps n).map (·.token)) ((t.steps n).map (·.token)) ∧
      Alike set l text text' more d d' (s.skip n) (t.skip n) := by
  induction n generalizing s t with
  | zero => exact ⟨.nil, h⟩
  | succ n ih =>
    have hfirst := hmore 0 (Nat.zero_lt_succ n)
    rcases ha : s.next? with _ | a
    · have hend := next?_eq_none.1 ha
      rw [skip_of_end _ ha] at hfirst
      have hb : t.next? = none := by
        rw [next?_eq_none, h.rest, hfirst.resolve_left (absurd hend), hend, List.append_nil]
      rw [steps_of_end _ ha, steps_of_end _ hb, skip_of_end _ ha, skip_of_end _ hb]
      exact ⟨.nil, h⟩
    · rw [skip_of_next? _ ha] at hfirst
      obtain ⟨b, hb, htoken, halike⟩ := h.next ha hfirst
      obtain ⟨htokens, hlast⟩ := ih halike fun k hk => by
        rw [← skip_of_next? _ ha]
        exact hmore (k + 1) (Nat.succ_lt_succ hk)
      rw [steps_of_next? _ ha, steps_of_next? _ hb, skip_of_next? _ ha, skip_of_next? _ hb]
      exact ⟨.cons htoken htokens, hlast⟩

end

/-! ## Appended text -/

/-- What stays as it is when text is appended: all tokens but the last, and the states up to
there. -/
structure Stable (l : Lexer) (text more : String) : Prop where
  kept : (l.tokenize text).dropLast <+: l.tokenize (text ++ more)
  states : ∀ n ≤ (l.tokenize text).dropLast.length,
    ((start l (text ++ more)).skip n).state = ((start l text).skip n).state ∧
      ((start l (text ++ more)).skip n).depth = ((start l text).skip n).depth

/-- Both lists of reserved words make a lexer of which this holds for all texts. -/
theorem appended_text_keeps_finished_tokens (set : KeywordSet) :
    ∃ l, lexer set = .ok l ∧ ∀ text more, Stable l text more := by
  obtain ⟨l, hl⟩ := lexer_ok set
  refine ⟨l, hl, fun text more => ?_⟩
  have hsound := Lexer.sound_of_build hl
  have hs := at_start hl text
  have ht := at_start hl (text ++ more)
  have halike : Alike set l text (text ++ more) more.toList 0 0 (start l text)
      (start l (text ++ more)) := ⟨⟨.root, hs, ht⟩, String.toList_append, rfl, rfl⟩
  have hrun : ∀ n ≤ (l.tokenize text).dropLast.length, _ := fun n hn =>
    halike.run (n := n) fun k hk => by
      have hlt : k + 1 < (l.tokenize text).length := by
        rw [List.length_dropLast] at hn
        omega
      exact Or.inl (rest_ne_nil _ hlt)
  refine ⟨?_, fun n hn => (hrun n hn).2.state_eq⟩
  have hsame := (hrun _ (Nat.le_refl _)).1.imp fun _ _ => Token.Shifted.eq
  rw [List.forall₂_eq_eq_eq, steps_eq_take_tokens hsound hs.good,
    steps_eq_take_tokens hsound ht.good, List.length_dropLast] at hsame
  have hkept : (l.tokenize text).dropLast = _ := List.dropLast_eq_take.trans hsame
  rw [hkept]
  exact List.take_prefix _ _

/-! ## Boundaries between tokens -/

/-- A stream over two texts in a row stands where the second one begins. -/
def Boundary (l : Lexer) (before after : String) (s : Stream) : Prop :=
  (∃ n, s = (start l (before ++ after)).skip n) ∧ s.place.offset = before.utf8ByteSize

/-- The text ends in a word character. -/
def endsInWord (text : String) : Bool := Look.isWordAt false text.toList.getLast?

/-- Two streams yield the same tokens but for where they start, and they are in the same state after
each. -/
structure Parallel (d d' : Nat) (s t : Stream) : Prop where
  tokens : List.Forall₂ (Token.Shifted d d') s.tokens t.tokens
  states : ∀ n, (t.skip n).state = (s.skip n).state ∧ (t.skip n).depth = (s.skip n).depth

section

variable {set : KeywordSet} {l : Lexer} {u u' v : String} {s t : Stream}

/-- At a boundary a stream sees what follows, and of what comes before whether it ends in a word
character. -/
theorem Boundary.place (hl : lexer set = .ok l) (h : Boundary l u v s) :
    (∃ m, At set l (u ++ v) m s) ∧ s.place.rest = v.toList ∧
      Look.isWordAt false s.place.last = endsInWord u := by
  obtain ⟨⟨n, rfl⟩, hoffset⟩ := h
  obtain ⟨m, hm⟩ := (at_start hl (u ++ v)).skip n
  have hsplit : (u ++ v).toList = u.toList ++ v.toList := String.toList_append
  obtain ⟨p, hp, hrest, hoff, hlast⟩ := Place.exists_in_of_split hsplit
  rw [String.utf8Len_toList, ← hoffset] at hoff
  obtain rfl := hp.eq_of_offset hm.good.place hoff
  exact ⟨⟨m, hm⟩, hrest, by rw [hlast]; rfl⟩

theorem Mode.eq_of_name {m m' : Mode} (h : (m.state set).name = (m'.state set).name) : m = m' := by
  have hne : "root" ≠ "comment" := by decide
  cases m with
  | root =>
    cases m' with
    | root => rfl
    | comment => exact absurd h hne
  | comment =>
    cases m' with
    | root => exact absurd h.symm hne
    | comment => rfl

theorem Boundary.alike (hl : lexer set = .ok l) (hs : Boundary l u v s) (ht : Boundary l u' v t)
    (hstate : s.state = t.state) (hword : endsInWord u = endsInWord u') :
    Alike set l (u ++ v) (u' ++ v) [] u.utf8ByteSize u'.utf8ByteSize s t := by
  obtain ⟨⟨m, hm⟩, hrest, hlast⟩ := hs.place hl
  obtain ⟨⟨m', hm'⟩, hrest', hlast'⟩ := ht.place hl
  obtain rfl : m = m' := Mode.eq_of_name (hm.state_eq.1.symm.trans (hstate.trans hm'.state_eq.1))
  refine ⟨⟨m, hm, hm'⟩, ?_, ?_, ?_⟩
  · rw [hrest, hrest', List.append_nil]
  · rw [hlast, hlast', hword]
  · rw [hs.2, ht.2, Nat.add_comm]

/-- Streams that are alike up to the end of their texts go on in parallel. -/
theorem Alike.parallel {text text' : String} {d d' : Nat}
    (h : Alike set l text text' [] d d' s t) : Parallel d d' s t := by
  have hrun n := h.run (n := n) fun _ _ => Or.inr rfl
  refine ⟨?_, fun n => (hrun n).2.state_eq⟩
  have hlength : t.place.rest.length = s.place.rest.length := by rw [h.rest, List.append_nil]
  unfold Stream.tokens Stream.allSteps
  rw [hlength]
  exact (hrun _).1

/-- From a boundary in ordinary text that no word character comes before, the tokens are those of
the text that follows by itself. -/
theorem Boundary.restart (hl : lexer set = .ok l) (h : Boundary l u v s) (hroot : s.state = "root")
    (hword : endsInWord u = false) :
    List.Forall₂ (Token.Shifted 0 u.utf8ByteSize) (l.tokenize v) s.tokens := by
  have hstart : Boundary l "" v (start l v) := ⟨⟨0, by rw [String.empty_append]; rfl⟩, rfl⟩
  have hstate : (start l v).state = "root" := (at_start hl v).state_eq.1
  exact (hstart.alike hl h (hstate.trans hroot.symm) hword.symm).parallel.tokens

/-- Both lists of reserved words make a lexer whose streams go on in parallel from two boundaries
before the same text, if they are in the same state there and a word character comes before both or
none. -/
theorem the_state_and_a_bit_tell_the_rest (set : KeywordSet) : ∃ l, lexer set = .ok l ∧
    ∀ u u' v s t, Boundary l u v s → Boundary l u' v t → s.state = t.state →
      endsInWord u = endsInWord u' → Parallel u.utf8ByteSize u'.utf8ByteSize s t := by
  obtain ⟨l, hl⟩ := lexer_ok set
  exact ⟨l, hl, fun u u' v s t hs ht hstate hword => (hs.alike hl ht hstate hword).parallel⟩

theorem two_samples_go_on_in_parallel : ∃ l, lexer .extended = .ok l ∧
    Parallel 2 1 ((start l "édo").skip 1) ((start l "_do").skip 1) := by
  have hevaluated : (lexer .extended).toOption.all fun l =>
      ((start l "édo").skip 1).place.offset = 2 ∧ ((start l "_do").skip 1).place.offset = 1 ∧
        ((start l "édo").skip 1).state = ((start l "_do").skip 1).state := by decide +kernel
  obtain ⟨l, hl, hparallel⟩ := the_state_and_a_bit_tell_the_rest .extended
  obtain ⟨hoff, hoff', hstate⟩ : ((start l "édo").skip 1).place.offset = 2 ∧
      ((start l "_do").skip 1).place.offset = 1 ∧
        ((start l "édo").skip 1).state = ((start l "_do").skip 1).state := by
    simpa [hl, Except.toOption] using hevaluated
  exact ⟨l, hl, hparallel "é" "_" "do" _ _ ⟨⟨1, rfl⟩, hoff⟩ ⟨⟨1, rfl⟩, hoff'⟩ hstate
    (by decide +kernel)⟩

end

end Alba

end Highlighter
