-- The rules of Alba as a scanner. In each state the next characters tell which rule wins and how
-- far it goes. Of the text before, one bit counts: whether it ends in a word character.
import Highlighter.Proofs.AlbaPatterns
import Highlighter.Proofs.Runs

namespace Highlighter

namespace Alba

open Highlighter.Stream

/-! ## The scanner -/

/-- Where a stream of Alba can be: in ordinary text or in a block comment. -/
inductive Mode where
  | root
  | comment
  deriving DecidableEq

/-- What a rule takes: its number, its category, the characters, and where that leads. -/
structure Piece where
  rule : Nat
  kind : Kind
  chars : List Char
  next : Mode
  deriving DecidableEq

/-- The next piece of ordinary text, by the first case that applies. -/
def rootPiece (set : KeywordSet) (wordBefore : Bool) (c : Char) (rest : List Char) : Piece :=
  if Text.isSpace c = true then ⟨0, .whitespace, (c :: rest).takeWhile Text.isSpace, .root⟩
  else if c = '-' ∧ rest.head? = some '-' then
    ⟨1, .commentSingleline, (c :: rest).takeWhile (· != '\n'), .root⟩
  else if c = '\x7b' ∧ rest.head? = some '-' then
    ⟨2, .commentMultiline, ['\x7b', '-'], .comment⟩
  else if c.isAlpha = true then
    if isReserved set wordBefore (c :: rest) = true then
      ⟨3, .keyword, (c :: rest).takeWhile isIdent, .root⟩
    else ⟨4, .name, (c :: rest).takeWhile isIdent, .root⟩
  else if c.isDigit = true then ⟨5, .number, (c :: rest).takeWhile Char.isDigit, .root⟩
  else if isOperator c = true then ⟨6, .operator, [c], .root⟩
  else ⟨7, .text, [c], .root⟩

/-- The next piece of a block comment. -/
def commentPiece (c : Char) (rest : List Char) : Piece :=
  if c ≠ '-' then ⟨0, .commentMultiline, [c], .comment⟩
  else if rest.head? = some '\x7d' then ⟨1, .commentMultiline, ['-', '\x7d'], .root⟩
  else ⟨2, .commentMultiline, [c], .comment⟩

namespace Mode

def piece (set : KeywordSet) (wordBefore : Bool) (c : Char) (rest : List Char) : Mode → Piece
  | root => rootPiece set wordBefore c rest
  | comment => commentPiece c rest

/-- The rules of the mode. -/
def state (set : KeywordSet) : Mode → ReadyState
  | root => Alba.root set
  | comment => Alba.comment

/-- The stack of a stream in the mode. -/
def frames : Mode → List Nat
  | root => [0]
  | comment => [1, 0]

theorem frames_cases (m : Mode) : m.frames = [0] ∨ m.frames = [1, 0] := by
  cases m
  · exact Or.inl rfl
  · exact Or.inr rfl

end Mode

/-! ## The winning rule -/

theorem isAlpha_of_isReserved {set : KeywordSet} {b : Bool} {c : Char} {rest : List Char}
    (h : isReserved set b (c :: rest) = true) : c.isAlpha = true := by
  have hmem := (isReserved_iff.1 h).1
  have hne := word_ne_nil hmem
  have hall := (words_spec set _ hmem).2
  rw [String.toList_ofList] at hne hall
  by_cases hc : isIdent c = true
  · rw [List.takeWhile_cons_of_pos hc] at hall
    exact hall c List.mem_cons_self
  · rw [List.takeWhile_cons_of_neg hc] at hne
    exact absurd rfl hne

/-- The piece is what the winning rule of a state takes, from a stream with these states in its
stack. -/
def Piece.Wins (piece : Piece) (s : ReadyState) (frames : List Nat) (p : Place) : Prop :=
  ∃ rule, s.winner? p = some ⟨piece.rule, rule, p.forward piece.chars.length⟩ ∧
    rule.rule.kind = piece.kind ∧ rule.target.turned frames = piece.next.frames

theorem Piece.wins_of_rule {piece : Piece} {s : ReadyState} {frames : List Nat} {p : Place}
    {rule : ReadyRule} (hrule : s.rules[piece.rule]? = some rule)
    (htakes : rule.takes? p = some (p.forward piece.chars.length))
    (hbefore : ∀ r ∈ s.rules.take piece.rule, r.takes? p = none)
    (hkind : rule.rule.kind = piece.kind)
    (htarget : rule.target.turned frames = piece.next.frames) : piece.Wins s frames p :=
  ⟨rule, ReadyState.winner?_eq hrule htakes hbefore, hkind, htarget⟩

section

variable {set : KeywordSet} {p : Place} {c : Char} {rest : List Char}

theorem root_wins (set : KeywordSet) (h : p.rest = c :: rest) :
    (rootPiece set (Look.isWordAt false p.last) c rest).Wins (root set) [0] p := by
  have hspace := takes?_space h
  have hline := takes?_line h
  have hopening := takes?_opening h
  have hkeyword := takes?_keyword set p
  have hname := takes?_name h
  have hnumber := takes?_number h
  have hoperator := takes?_operator h
  have hany := takes?_any h
  have hone : p.after c rest = p.forward 1 := by
    rw [Place.forward, h]
    rfl
  unfold Place.afterRun at hspace hline hkeyword hname hnumber
  rw [h] at hspace hline hkeyword hname hnumber
  unfold rootPiece
  -- The cases are those of the rules, in their order. A case that does not apply is a rule that
  -- takes nothing.
  by_cases h0 : Text.isSpace c = true
  · rw [if_pos h0] at hspace ⊢
    exact Piece.wins_of_rule rfl hspace (by simp) rfl rfl
  rw [if_neg h0] at hspace ⊢
  by_cases h1 : c = '-' ∧ rest.head? = some '-'
  · rw [if_pos h1] at hline ⊢
    exact Piece.wins_of_rule rfl hline (by simp [root, hspace]) rfl rfl
  rw [if_neg h1] at hline ⊢
  by_cases h2 : c = '\x7b' ∧ rest.head? = some '-'
  · rw [if_pos h2] at hopening ⊢
    exact Piece.wins_of_rule rfl hopening (by simp [root, hspace, hline]) rfl rfl
  rw [if_neg h2] at hopening ⊢
  by_cases h3 : isReserved set (Look.isWordAt false p.last) (c :: rest) = true
  · rw [if_pos (isAlpha_of_isReserved h3), if_pos h3]
    rw [if_pos h3] at hkeyword
    exact Piece.wins_of_rule rfl hkeyword (by simp [root, hspace, hline, hopening]) rfl rfl
  rw [if_neg h3] at hkeyword ⊢
  by_cases h4 : c.isAlpha = true
  · rw [if_pos h4] at hname ⊢
    refine Piece.wins_of_rule rfl hname ?_ rfl rfl
    simp [root, hspace, hline, hopening, hkeyword]
  rw [if_neg h4] at hname ⊢
  by_cases h5 : c.isDigit = true
  · rw [if_pos h5] at hnumber ⊢
    refine Piece.wins_of_rule rfl hnumber ?_ rfl rfl
    simp [root, hspace, hline, hopening, hkeyword, hname]
  rw [if_neg h5] at hnumber ⊢
  by_cases h6 : isOperator c = true
  · rw [if_pos h6] at hoperator ⊢
    rw [hone] at hoperator
    refine Piece.wins_of_rule rfl hoperator ?_ rfl rfl
    simp [root, hspace, hline, hopening, hkeyword, hname, hnumber]
  · rw [if_neg h6] at hoperator ⊢
    rw [hone] at hany
    refine Piece.wins_of_rule rfl hany ?_ rfl rfl
    simp [root, hspace, hline, hopening, hkeyword, hname, hnumber, hoperator]

theorem comment_wins (h : p.rest = c :: rest) : (commentPiece c rest).Wins comment [1, 0] p := by
  have hone : p.after c rest = p.forward 1 := by
    rw [Place.forward, h]
    rfl
  unfold commentPiece
  by_cases h0 : c = '-'
  · subst h0
    rw [if_neg (not_not.2 rfl)]
    by_cases h1 : rest.head? = some '\x7d'
    · obtain ⟨more, rfl⟩ := List.head?_eq_some_iff.1 h1
      have hfirst := Place.Leads.after h
      have hsecond : (p.after '-' ('\x7d' :: more)).Leads ['\x7d'] _ := Place.Leads.after rfl
      rw [if_pos h1]
      refine ⟨closeRule, ?_, rfl, rfl⟩
      rw [comment_winner_close h, ← (hfirst.trans hsecond).forward_eq]
      rfl
    · rw [if_neg h1]
      exact ⟨dashRule, hone ▸ comment_winner_dash h h1, rfl, rfl⟩
  · rw [if_pos h0]
    exact ⟨otherRule, hone ▸ comment_winner_other h h0, rfl, rfl⟩

theorem Mode.wins (m : Mode) (set : KeywordSet) (h : p.rest = c :: rest) :
    (m.piece set (Look.isWordAt false p.last) c rest).Wins (m.state set) m.frames p := by
  cases m with
  | root => exact root_wins set h
  | comment => exact comment_wins h

end

/-- A piece has the next character and some of those after it. -/
theorem Mode.chars_eq (m : Mode) (set : KeywordSet) (b : Bool) (c : Char) (rest : List Char) :
    ∃ cs, (m.piece set b c rest).chars = c :: cs ∧ cs <+: rest := by
  have hone : ∃ cs, [c] = c :: cs ∧ cs <+: rest := ⟨[], rfl, List.nil_prefix⟩
  have hrun {test : Char → Bool} (hc : test c = true) :
      ∃ cs, (c :: rest).takeWhile test = c :: cs ∧ cs <+: rest :=
    ⟨_, List.takeWhile_cons_of_pos hc, List.takeWhile_prefix test⟩
  have htwo {d : Char} (hd : rest.head? = some d) : ∃ cs, [c, d] = c :: cs ∧ cs <+: rest := by
    obtain ⟨more, rfl⟩ := List.head?_eq_some_iff.1 hd
    exact ⟨[d], rfl, by simp⟩
  cases m with
  | root =>
    unfold piece rootPiece
    dsimp only
    split_ifs with h0 h1 h2 h3 h4 h5 h6
    · exact hrun h0
    · exact @hrun (· != '\n') (by simp [h1.1])
    · obtain ⟨rfl, hd⟩ := h2
      exact htwo hd
    · exact hrun (isIdent_of_isAlpha h3)
    · exact hrun (isIdent_of_isAlpha h3)
    · exact hrun h5
    · exact hone
    · exact hone
  | comment =>
    unfold piece commentPiece
    dsimp only
    split_ifs with h0 h1
    · exact hone
    · obtain rfl := not_not.1 h0
      exact htwo h1
    · exact hone

/-- A piece of ordinary text opens a block comment, or it has nothing to do with one. -/
theorem rootPiece_opens (set : KeywordSet) (b : Bool) (c : Char) (rest : List Char) :
    rootPiece set b c rest = ⟨2, .commentMultiline, ['\x7b', '-'], .comment⟩ ∨
      (rootPiece set b c rest).kind ≠ .commentMultiline ∧
        (rootPiece set b c rest).chars ≠ ['\x7b', '-'] ∧
        (rootPiece set b c rest).next = .root := by
  by_cases hopen : c = '\x7b' ∧ rest.head? = some '-'
  · obtain ⟨rfl, hhead⟩ := hopen
    have hspace : Text.isSpace '\x7b' = false := by decide
    left
    simp [rootPiece, hspace, hhead]
  · refine Or.inr ⟨?_, ?_, ?_⟩
    · unfold rootPiece
      rw [if_neg hopen]
      split_ifs <;> simp
    · intro hchars
      obtain ⟨cs, hcs, ds, hds⟩ := Mode.root.chars_eq set b c rest
      have hcons : ['\x7b', '-'] = c :: cs := hchars.symm.trans hcs
      cases hcons
      exact hopen ⟨rfl, by rw [← hds]; rfl⟩
    · unfold rootPiece
      rw [if_neg hopen]
      split_ifs <;> rfl

theorem commentPiece_kind (c : Char) (rest : List Char) :
    (commentPiece c rest).kind = .commentMultiline := by
  unfold commentPiece
  split_ifs <;> rfl

/-- A piece of a block comment that is not its end is one character. -/
theorem commentPiece_stays {c : Char} {rest : List Char}
    (h : ¬ ∃ more, c :: rest = '-' :: '\x7d' :: more) :
    (commentPiece c rest).chars = [c] ∧ (commentPiece c rest).next = .comment := by
  unfold commentPiece
  split_ifs with h0 h1
  · exact ⟨rfl, rfl⟩
  · obtain rfl := not_not.1 h0
    obtain ⟨more, rfl⟩ := List.head?_eq_some_iff.1 h1
    exact absurd ⟨more, rfl⟩ h
  · exact ⟨rfl, rfl⟩

theorem Mode.leads (m : Mode) (set : KeywordSet) (b : Bool) {p : Place} {c : Char}
    {rest : List Char} (h : p.rest = c :: rest) : p.Leads (m.piece set b c rest).chars
      (p.forward (m.piece set b c rest).chars.length) := by
  obtain ⟨cs, hchars, ds, hds⟩ := m.chars_eq set b c rest
  have hsplit : p.rest = (m.piece set b c rest).chars ++ ds := by
    rw [h, hchars, ← hds]
    rfl
  exact Place.Leads.forward hsplit

/-! ## The streams of Alba -/

/-- A stream of Alba in a text is in this mode. -/
structure At (set : KeywordSet) (l : Lexer) (text : String) (m : Mode) (s : Stream) : Prop where
  built : lexer set = .ok l
  good : Good l text s
  frames : s.stack.frames = m.frames

/-- A winning rule takes the piece, and this is the step. -/
structure Piece.Taken (piece : Piece) (s : Stream) (step : Step) : Prop where
  won : ∃ w, s.win? = some w ∧ step = s.accept w
  next : s.next? = some step
  token : step.token = ⟨piece.kind, String.ofList piece.chars, s.place.offset⟩
  leads : s.place.Leads piece.chars step.next.place

section

variable {set : KeywordSet} {l : Lexer} {text : String} {m : Mode} {s : Stream} {step : Step}

theorem at_start (hl : lexer set = .ok l) (text : String) : At set l text .root (start l text) :=
  ⟨hl, good_start (Lexer.sound_of_build hl) text, rfl⟩

theorem At.win?_eq (h : At set l text m s) : s.win? = (m.state set).winner? s.place := by
  unfold win? stateAt? StateStack.top
  rw [h.frames, h.good.lexer, states_eq h.built]
  cases m <;> rfl

theorem At.state_eq (h : At set l text m s) :
    s.state = (m.state set).name ∧ s.depth = m.frames.length := by
  refine ⟨?_, ?_⟩
  · unfold Stream.state nameAt stateAt? StateStack.top
    rw [h.frames, h.good.lexer, states_eq h.built]
    cases m <;> rfl
  · unfold depth StateStack.depth
    rw [h.frames]

/-- Where a text is left, a stream takes the piece that its mode and the text say. -/
theorem At.takes (h : At set l text m s) {c : Char} {rest : List Char} {piece : Piece}
    (hrest : s.place.rest = c :: rest)
    (hpiece : m.piece set (Look.isWordAt false s.place.last) c rest = piece) :
    ∃ step, piece.Taken s step ∧ At set l text piece.next step.next := by
  have hsound := Lexer.sound_of_build h.built
  obtain ⟨rule, hwinner, hkind, htarget⟩ := hpiece ▸ m.wins set hrest
  have hlead := hpiece ▸ m.leads set (Look.isWordAt false s.place.last) hrest
  have hwin := h.win?_eq.trans hwinner
  obtain ⟨_, hplace⟩ := accept_spec s ⟨piece.rule, rule, s.place.forward piece.chars.length⟩
  obtain ⟨hframes, _⟩ := h.good.frames_accept hsound hwin
  refine ⟨_, ⟨⟨_, hwin, rfl⟩, h.good.next?_of_win hwin, ?_, hplace ▸ hlead⟩, h.built,
    h.good.accept hsound hwin, ?_⟩
  · rw [token_accept hlead, hkind]
  · rw [hframes, h.frames, htarget]

/-- Each step of a stream takes such a piece. -/
theorem At.of_next? (h : At set l text m s) (hstep : s.next? = some step) :
    ∃ c rest, s.place.rest = c :: rest ∧
      (m.piece set (Look.isWordAt false s.place.last) c rest).Taken s step ∧
      At set l text (m.piece set (Look.isWordAt false s.place.last) c rest).next step.next := by
  rcases hrest : s.place.rest with _ | ⟨c, rest⟩
  · rw [next?_eq_none.2 hrest] at hstep
    cases hstep
  · obtain ⟨other, htaken, hnext⟩ := h.takes hrest rfl
    have hsame : other = step := Option.some.inj (htaken.next.symm.trans hstep)
    exact ⟨c, rest, rfl, hsame ▸ htaken, hsame ▸ hnext⟩

theorem At.next (h : At set l text m s) (hstep : s.next? = some step) :
    ∃ m', At set l text m' step.next := by
  obtain ⟨_, _, _, _, hnext⟩ := h.of_next? hstep
  exact ⟨_, hnext⟩

theorem At.skip (h : At set l text m s) (n : Nat) : ∃ m', At set l text m' (s.skip n) :=
  skip_induction (P := fun t => ∃ m', At set l text m' t) ⟨m, h⟩
    (fun _ _ ⟨_, ht⟩ hstep => ht.next hstep) n

/-! ## The rules mean the scanner -/

/-- What the rule that takes the piece at an offset says. -/
def Piece.matchAt (piece : Piece) (pos : Nat) : RuleMatch :=
  ⟨piece.rule, piece.kind, pos + String.utf8Len piece.chars⟩

theorem state?_eq (hl : lexer set = .ok l) (m : Mode) :
    l.state? (m.state set).name = some (m.state set) := by
  unfold Lexer.state?
  rw [states_eq hl]
  cases m <;> rfl

/-- The winning rule at an offset, by the text on both sides. -/
theorem firstMatch?_eq (hl : lexer set = .ok l) (m : Mode) {before rest : List Char} {c : Char}
    (htext : text.toList = before ++ c :: rest) :
    l.firstMatch? (m.state set).name text (String.utf8Len before) =
      some ((m.piece set (Look.isWordAt false before.getLast?) c rest).matchAt
        (String.utf8Len before)) := by
  obtain ⟨p, hp, hrest, hoff, hlast⟩ := Place.exists_in_of_split htext
  obtain ⟨rule, hwinner, hkind, _⟩ := m.wins set hrest
  rw [hlast] at hwinner hkind
  have hstop := (m.leads set (Look.isWordAt false before.getLast?) hrest).offset
  unfold Lexer.firstMatch?
  rw [state?_eq hl, ← hoff, hp.at_eq]
  simp [hwinner, hkind, hstop, Piece.matchAt]

/-- In a text, the rules of Alba are the scanner. -/
structure Scans (set : KeywordSet) (l : Lexer) (text : String) : Prop where
  /-- At each character some rule wins, in both states, and it is the one that the scanner says. -/
  decided : ∀ pos, String.Pos.Raw.IsValid text ⟨pos⟩ → pos < text.utf8ByteSize →
    ∃ before c rest, text.toList = before ++ c :: rest ∧ String.utf8Len before = pos ∧
      l.firstMatch? "root" text pos =
        some ((rootPiece set (Look.isWordAt false before.getLast?) c rest).matchAt pos) ∧
      l.firstMatch? "comment" text pos = some ((commentPiece c rest).matchAt pos)
  /-- So the case where no rule wins never comes. -/
  ruled : ∀ n step, ((start l text).skip n).next? = some step →
    ∃ w, ((start l text).skip n).win? = some w ∧ step = ((start l text).skip n).accept w
  no_error : ∀ t ∈ l.tokenize text, t.kind ≠ .error

theorem Mode.kind_ne_error (m : Mode) (set : KeywordSet) (b : Bool) (c : Char) (rest : List Char) :
    (m.piece set b c rest).kind ≠ .error := by
  cases m with
  | root =>
    unfold piece rootPiece
    dsimp only
    split_ifs <;> simp
  | comment =>
    unfold piece commentPiece
    dsimp only
    split_ifs <;> simp

/-- Both lists of reserved words make a lexer, and in every text its rules are the scanner. -/
theorem the_rules_scan_characters (set : KeywordSet) :
    ∃ l, lexer set = .ok l ∧ ∀ text, Scans set l text := by
  obtain ⟨l, hl⟩ := lexer_ok set
  refine ⟨l, hl, fun text => ⟨?_, ?_, ?_⟩⟩
  · intro pos hvalid hpos
    obtain ⟨before, c, rest, htext, rfl⟩ := Place.split_of_isValid hvalid hpos
    exact ⟨before, c, rest, htext, rfl, firstMatch?_eq hl .root htext,
      firstMatch?_eq hl .comment htext⟩
  · intro n step hstep
    obtain ⟨m, hm⟩ := (at_start hl text).skip n
    obtain ⟨_, _, _, htaken, _⟩ := hm.of_next? hstep
    exact htaken.won
  · intro t ht
    obtain ⟨step, hmem, rfl⟩ := List.mem_map.1 ht
    obtain ⟨n, hstep⟩ := exists_skip_of_mem hmem
    obtain ⟨m, hm⟩ := (at_start hl text).skip n
    obtain ⟨c, rest, _, htaken, _⟩ := hm.of_next? hstep
    rw [htaken.token]
    exact m.kind_ne_error set _ c rest

end

end Alba

end Highlighter
