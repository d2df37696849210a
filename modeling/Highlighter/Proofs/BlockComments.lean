-- The block comments of Alba. A comment reaches from its opening to the first end after it, and each
-- character between is a token, whatever it is. Outside of comments no token belongs to one, and the
-- stack is never deeper than a comment makes it.
import Highlighter.Proofs.AlbaScanner

namespace Highlighter

namespace Alba

open Highlighter.Stream

/-! ## What a comment is -/

/-- How far a block comment reaches that opens at offset `i`: where its body ends, where the comment
ends, and whether it is closed. -/
inductive Extent (text : String) (i : Nat) : Nat → Nat → Bool → Prop where
  | closed {j : Nat} (h : FirstAt "-\x7d" text (i + 2) j) : Extent text i j (j + 2) true
  | unclosed (h : ∀ j, i + 2 ≤ j → ¬ OccursAt "-\x7d" text j) :
    Extent text i text.utf8ByteSize text.utf8ByteSize false

/-- One token for each character, from offset `i` on. -/
def bodyTokens : Nat → List Char → List Token
  | _, [] => []
  | i, c :: cs => ⟨.commentMultiline, String.ofList [c], i⟩ :: bodyTokens (i + c.utf8Size) cs

/-- The tokens of a block comment that opens at offset `i` and whose body ends at offset `j`. -/
def commentTokens (text : String) (i j : Nat) (closed : Bool) : List Token :=
  [⟨.commentMultiline, "\x7b-", i⟩] ++
    (bodyTokens (i + 2) (String.Pos.Raw.extract text ⟨i + 2⟩ ⟨j⟩).toList ++
      if closed then [⟨.commentMultiline, "-\x7d", j⟩] else [])

/-- No end of a comment begins in the text `us` when `rest` follows it. -/
def Body (us rest : List Char) : Prop :=
  ∀ as bs, us ++ rest = as ++ '-' :: '\x7d' :: bs → us.length ≤ as.length

theorem Body.tail {c : Char} {us rest : List Char} (h : Body (c :: us) rest) : Body us rest := by
  intro as bs hsplit
  have hle := h (c :: as) bs (by rw [List.cons_append, List.cons_append, hsplit])
  simpa using hle

/-- A body does not begin with an end. -/
theorem Body.head {c : Char} {us rest : List Char} (h : Body (c :: us) rest) :
    ¬ ∃ more, c :: (us ++ rest) = '-' :: '\x7d' :: more := by
  rintro ⟨more, hsplit⟩
  have hle := h [] more hsplit
  simp at hle

/-- What follows the opening of a comment is a body, and then there is an end, or else nothing. -/
theorem exists_body (cs : List Char) :
    ∃ us rest, cs = us ++ rest ∧ Body us rest ∧
      (rest = [] ∨ ∃ more, rest = '-' :: '\x7d' :: more) := by
  induction cs with
  | nil => exact ⟨[], [], rfl, fun _ _ _ => Nat.zero_le _, Or.inl rfl⟩
  | cons c cs ih =>
    by_cases hend : ∃ more, c :: cs = '-' :: '\x7d' :: more
    · obtain ⟨more, hmore⟩ := hend
      exact ⟨[], c :: cs, rfl, fun _ _ _ => Nat.zero_le _, Or.inr ⟨more, hmore⟩⟩
    · obtain ⟨us, rest, rfl, hbody, hrest⟩ := ih
      refine ⟨c :: us, rest, rfl, ?_, hrest⟩
      intro as bs hsplit
      rcases as with _ | ⟨a, as⟩
      · exact absurd ⟨bs, hsplit⟩ hend
      · have htail := (List.cons.inj hsplit).2
        exact Nat.succ_le_succ (hbody as bs htail)

/-- A body is no longer than what lies before any end of a comment. -/
theorem Body.utf8Len_le {us rest as bs : List Char} (h : Body us rest)
    (hsplit : us ++ rest = as ++ '-' :: '\x7d' :: bs) : String.utf8Len us ≤ String.utf8Len as := by
  have hle := h as bs hsplit
  have hus : us <+: us ++ rest := List.prefix_append us rest
  have has : as <+: us ++ rest := hsplit ▸ List.prefix_append as _
  obtain ⟨ds, rfl⟩ := List.prefix_of_prefix_length_le hus has hle
  rw [String.utf8Len_append]
  omega

section

variable {text : String} {p : Place} {us rest : List Char}

/-- The end that follows a body is the first one. -/
theorem first_end (hp : Place.In text p) (hrest : p.rest = us ++ '-' :: '\x7d' :: rest)
    (hbody : Body us ('-' :: '\x7d' :: rest)) :
    FirstAt "-\x7d" text p.offset (p.offset + String.utf8Len us) := by
  refine ⟨Nat.le_add_right _ _, ?_, ?_⟩
  · exact (hp.occursAt_iff (Nat.le_add_right _ _)).2 ⟨us, rest, hrest, rfl⟩
  · intro j hj hoccurs
    obtain ⟨as, bs, hsplit, rfl⟩ := (hp.occursAt_iff hj).1 hoccurs
    have hle := hbody.utf8Len_le (hrest.symm.trans hsplit)
    omega

/-- After a body that nothing follows there is no end. -/
theorem no_end (hp : Place.In text p) (hrest : p.rest = us) (hbody : Body us []) {j : Nat}
    (hj : p.offset ≤ j) : ¬ OccursAt "-\x7d" text j := by
  intro hoccurs
  obtain ⟨as, bs, hsplit, _⟩ := (hp.occursAt_iff hj).1 hoccurs
  rw [hrest] at hsplit
  have hle := hbody as bs (by rw [List.append_nil]; exact hsplit)
  have hlength := congrArg List.length hsplit
  simp at hlength
  omega

end

/-! ## One step -/

section

variable {set : KeywordSet} {l : Lexer} {text : String} {s : Stream} {step : Step}

/-- In ordinary text, a step opens a block comment, or it has nothing to do with one. -/
theorem root_step (hl : lexer set = .ok l) (h : Good l text s)
    (hroot : s.stack.frames = [0]) (hstep : s.next? = some step) :
    (step.token = ⟨.commentMultiline, "\x7b-", s.place.offset⟩ ∧
      s.place.Leads ['\x7b', '-'] step.next.place ∧ step.next.stack.frames = [1, 0]) ∨
    (step.token.kind ≠ .commentMultiline ∧ step.token.text ≠ "\x7b-" ∧
      step.next.stack.frames = [0]) := by
  have hat : At set l text .root s := ⟨hl, h, hroot⟩
  obtain ⟨c, rest, _, htaken, hnext⟩ := hat.of_next? hstep
  rw [Mode.piece] at htaken hnext
  rcases rootPiece_opens set (Look.isWordAt false s.place.last) c rest with
    hpiece | ⟨hkind, hchars, hstays⟩
  · rw [hpiece] at htaken hnext
    exact Or.inl ⟨htaken.token, htaken.leads, hnext.frames⟩
  · rw [hstays] at hnext
    rw [htaken.token]
    exact Or.inr ⟨hkind, fun htext => hchars (String.ofList_injective htext), hnext.frames⟩

/-- In a block comment, a character that does not begin its end is a token. -/
theorem comment_step (hl : lexer set = .ok l) (h : Good l text s)
    (hcomment : s.stack.frames = [1, 0]) {c : Char} {rest : List Char}
    (hrest : s.place.rest = c :: rest) (hend : ¬ ∃ more, c :: rest = '-' :: '\x7d' :: more) :
    ∃ step, s.next? = some step ∧
      step.token = ⟨.commentMultiline, String.ofList [c], s.place.offset⟩ ∧
      step.next.place = s.place.after c rest ∧ step.next.stack.frames = [1, 0] := by
  have hat : At set l text .comment s := ⟨hl, h, hcomment⟩
  obtain ⟨step, htaken, hnext⟩ := hat.takes hrest rfl
  obtain ⟨hchars, hstays⟩ := commentPiece_stays hend
  rw [Mode.piece] at htaken hnext
  have hlead := htaken.leads
  rw [hchars] at hlead
  rw [hstays] at hnext
  refine ⟨step, htaken.next, ?_, ?_, hnext.frames⟩
  · rw [htaken.token, hchars, commentPiece_kind]
  · exact hlead.forward_eq.symm.trans (Place.Leads.after hrest).forward_eq

/-- The end of a block comment is one token and leads back. -/
theorem comment_end (hl : lexer set = .ok l) (h : Good l text s)
    (hcomment : s.stack.frames = [1, 0]) {rest : List Char}
    (hrest : s.place.rest = '-' :: '\x7d' :: rest) :
    ∃ step, s.next? = some step ∧ step.token = ⟨.commentMultiline, "-\x7d", s.place.offset⟩ ∧
      s.place.Leads ['-', '\x7d'] step.next.place ∧ step.next.stack.frames = [0] := by
  have hat : At set l text .comment s := ⟨hl, h, hcomment⟩
  have hpiece : commentPiece '-' ('\x7d' :: rest) =
      ⟨1, .commentMultiline, ['-', '\x7d'], .root⟩ := rfl
  obtain ⟨step, htaken, hnext⟩ := hat.takes hrest hpiece
  exact ⟨step, htaken.next, htaken.token, htaken.leads, hnext.frames⟩

/-- Whatever the body of a comment holds, each of its characters is a token. -/
theorem body_run (hl : lexer set = .ok l) (us : List Char) {rest : List Char}
    (h : Good l text s) (hcomment : s.stack.frames = [1, 0])
    (hrest : s.place.rest = us ++ rest) (hbody : Body us rest) :
    ∃ t, Emits s (bodyTokens s.place.offset us) t ∧ Good l text t ∧
      s.place.Leads us t.place ∧ t.stack.frames = [1, 0] := by
  induction us generalizing s with
  | nil => exact ⟨s, .nil s, h, .refl _, hcomment⟩
  | cons c us ih =>
    obtain ⟨step, hstep, htoken, hplace, hframes⟩ :=
      comment_step hl h hcomment hrest hbody.head
    have hnext := h.next (Lexer.sound_of_build hl) hstep
    obtain ⟨t, hemits, ht, hlead, hlast⟩ := ih hnext hframes (by rw [hplace]; rfl) hbody.tail
    rw [hplace] at hemits hlead
    refine ⟨t, ?_, ht, (Place.Leads.after hrest).trans hlead, hlast⟩
    exact (Emits.single hstep htoken).append hemits

/-! ## A whole comment -/

/-- Where a comment opens, its tokens follow up to the end of its extent. -/
theorem comment_run (hl : lexer set = .ok l) (h : Good l text s)
    (hroot : s.stack.frames = [0]) (hstep : s.next? = some step)
    (hopen : step.token.text = "\x7b-") :
    ∃ j stop closed t, Extent text s.place.offset j stop closed ∧
      Emits s (commentTokens text s.place.offset j closed) t ∧ t.place.offset = stop ∧
      if closed then t.stack.frames = [0] else t.stack.frames = [1, 0] ∧ t.next? = none := by
  have hsound := Lexer.sound_of_build hl
  rcases root_step hl h hroot hstep with ⟨htoken, hlead, hcomment⟩ | ⟨_, hother, _⟩
  · have hnext := h.next hsound hstep
    have hstart : step.next.place.offset = s.place.offset + 2 := hlead.offset
    obtain ⟨us, rest, hrest, hbody, hend⟩ := exists_body step.next.place.rest
    obtain ⟨t, hemits, ht, hleadus, hframes⟩ := body_run hl us hnext hcomment hrest hbody
    have htrest := hleadus.rest_eq hrest
    have htext := hnext.place.extract_eq hleadus
    have hfirst := Emits.single hstep htoken
    rw [hstart] at hemits htext
    rcases hend with rfl | ⟨more, rfl⟩
    · have hsize : text.utf8ByteSize = t.place.offset := by
        simpa [htrest] using ht.place.size_eq
      refine ⟨_, _, false, t, .unclosed ?_, ?_, hsize.symm, hframes, next?_eq_none.2 htrest⟩
      · intro j hj
        rw [← hstart] at hj
        exact no_end hnext.place (by rw [hrest, List.append_nil]) hbody hj
      · unfold commentTokens
        rw [hsize, htext, String.toList_ofList]
        simpa using hfirst.append hemits
    · obtain ⟨last, hlast, hlasttoken, hleadlast, hlastframes⟩ :=
        comment_end hl ht hframes htrest
      have hends := first_end hnext.place hrest hbody
      rw [← hleadus.offset, hstart] at hends
      refine ⟨_, _, true, last.next, .closed hends, ?_, hleadlast.offset, hlastframes⟩
      unfold commentTokens
      rw [htext, String.toList_ofList]
      exact hfirst.append (hemits.append (Emits.single hlast hlasttoken))
  · exact absurd hopen hother

/-! ## Whole runs -/

/-- A step in a block comment stays there or leads back. -/
theorem comment_next (hl : lexer set = .ok l) (h : Good l text s)
    (hcomment : s.stack.frames = [1, 0]) (hstep : s.next? = some step) :
    step.next.stack.frames = [0] ∨ step.next.stack.frames = [1, 0] := by
  have hat : At set l text .comment s := ⟨hl, h, hcomment⟩
  obtain ⟨_, _, _, _, hnext⟩ := hat.of_next? hstep
  rw [hnext.frames]
  exact Mode.frames_cases _

/-- After `n` tokens the latest one from ordinary text was number `k`. It opened a comment, and the
stream has been in it since. -/
structure Opened (s : Stream) (k n : Nat) : Prop where
  before : k ≤ n
  root : (s.skip k).stack.frames = [0]
  opens : ∃ step, (s.skip k).next? = some step ∧ step.token.text = "\x7b-"
  since : ∀ j, k < j → j ≤ n → (s.skip j).stack.frames = [1, 0]

theorem Opened.succ {k n : Nat} (h : Opened s k n)
    (hframes : (s.skip (n + 1)).stack.frames = [1, 0]) : Opened s k (n + 1) := by
  refine ⟨Nat.le_succ_of_le h.before, h.root, h.opens, ?_⟩
  intro j hkj hj
  rcases Nat.lt_or_eq_of_le hj with hj | rfl
  · exact h.since j hkj (Nat.le_of_lt_succ hj)
  · exact hframes

theorem opened_here {n : Nat} (hroot : (s.skip n).stack.frames = [0])
    (hstep : (s.skip n).next? = some step) (hopen : step.token.text = "\x7b-") : Opened s n n :=
  ⟨Nat.le_refl n, hroot, ⟨step, hstep, hopen⟩, fun _ hj hj' => absurd hj (Nat.not_lt.2 hj')⟩

/-- A stream of Alba is in ordinary text, or in a comment that it has entered. -/
theorem root_or_opened (hl : lexer set = .ok l) (h : Good l text s)
    (hroot : s.stack.frames = [0]) (n : Nat) :
    (s.skip n).stack.frames = [0] ∨
      (s.skip n).stack.frames = [1, 0] ∧ ∃ k, Opened s k n := by
  induction n with
  | zero => exact Or.inl hroot
  | succ n ih =>
    have hgood := h.skip (Lexer.sound_of_build hl) n
    rcases hn : (s.skip n).next? with _ | step
    · have hsame : s.skip (n + 1) = s.skip n := by
        rw [skip_add, skip_of_end 1 hn]
      rw [hsame]
      rcases ih with hframes | ⟨hframes, k, hk⟩
      · exact Or.inl hframes
      · exact Or.inr ⟨hframes, k, hk.succ (by rw [hsame, hframes])⟩
    · rw [skip_succ n hn]
      rcases ih with hframes | ⟨hframes, k, hk⟩
      · rcases root_step hl hgood hframes hn with ⟨htoken, _, hnext⟩ | ⟨_, _, hnext⟩
        · have hopened := opened_here hframes hn (by rw [htoken])
          exact Or.inr ⟨hnext, n, hopened.succ (by rw [skip_succ n hn, hnext])⟩
        · exact Or.inl hnext
      · rcases comment_next hl hgood hframes hn with hnext | hnext
        · exact Or.inl hnext
        · exact Or.inr ⟨hnext, k, hk.succ (by rw [skip_succ n hn, hnext])⟩

/-- A comment reaches over all the tokens that come while the stream is in it. -/
theorem Opened.within (hl : lexer set = .ok l) (h : Good l text s) {k n : Nat}
    (hk : Opened s k n) (hstep : (s.skip n).next? = some step) :
    ∃ opening j stop closed, (s.skip k).next? = some opening ∧ opening.token.text = "\x7b-" ∧
      Extent text opening.token.start j stop closed ∧
      opening.token.start ≤ step.token.start ∧ step.token.stop ≤ stop := by
  have hsound := Lexer.sound_of_build hl
  have hgood := h.skip hsound
  obtain ⟨opening, hopening, hopen⟩ := hk.opens
  obtain ⟨j, stop, closed, t, hextent, hemits, hstop, hend⟩ :=
    comment_run hl (hgood k) hk.root hopening hopen
  obtain ⟨_, _, _, _, hopens⟩ := (hgood k).next?_leads hopening
  obtain ⟨_, _, _, _, hstart⟩ := (hgood n).next?_leads hstep
  rw [← hopens] at hextent hemits
  have hskip := hemits.skip_eq
  rw [← skip_add] at hskip
  -- The run over the comment is not over yet: at its end the stream is back in ordinary text or
  -- yields no more tokens.
  have hlt : n < k + (commentTokens text opening.token.start j closed).length := by
    by_contra hle
    have hle := Nat.le_of_not_lt hle
    cases closed with
    | true =>
      have hframes := hk.since _ (by simp [commentTokens]) hle
      rw [hskip, hend] at hframes
      cases hframes
    | false =>
      obtain ⟨m, rfl⟩ := Nat.exists_eq_add_of_le hle
      rw [skip_add, hskip, skip_of_end m hend.2, hend.2] at hstep
      cases hstep
  refine ⟨opening, j, stop, closed, hopening, hopen, hextent, ?_, ?_⟩
  · obtain ⟨m, rfl⟩ := Nat.exists_eq_add_of_le hk.before
    rw [hopens, hstart, skip_add]
    exact (hgood k).offset_le_skip hsound m
  · obtain ⟨m, hm⟩ := Nat.exists_eq_add_of_lt hlt
    rw [(hgood n).stop_eq hstep, ← skip_succ n hstep, ← hstop, ← hskip, hm,
      Nat.add_right_comm, skip_add (n + 1) m]
    exact (hgood (n + 1)).offset_le_skip hsound m

/-! ## The laws of block comments -/

theorem state_of_root (hl : lexer set = .ok l) (h : Good l text s)
    (hroot : s.stack.frames = [0]) : s.state = "root" ∧ s.depth = 1 :=
  At.state_eq (m := .root) ⟨hl, h, hroot⟩

theorem state_of_comment (hl : lexer set = .ok l) (h : Good l text s)
    (hcomment : s.stack.frames = [1, 0]) : s.state = "comment" ∧ s.depth = 2 :=
  At.state_eq (m := .comment) ⟨hl, h, hcomment⟩

/-- A token of this category opens a comment, or the stream has been in one when it came. -/
theorem opened_of_kind (hl : lexer set = .ok l) (h : Good l text s) (hroot : s.stack.frames = [0])
    {n : Nat} (hstep : (s.skip n).next? = some step) (hkind : step.token.kind = .commentMultiline) :
    ∃ k, Opened s k n := by
  rcases root_or_opened hl h hroot n with hframes | ⟨_, hopened⟩
  · have hgood := h.skip (Lexer.sound_of_build hl) n
    rcases root_step hl hgood hframes hstep with ⟨htoken, _⟩ | ⟨hother, _⟩
    · exact ⟨n, opened_here hframes hstep (by rw [htoken])⟩
    · exact absurd hkind hother
  · exact hopened

theorem covered_of_opening (hl : lexer set = .ok l) (h : Good l text s)
    (hroot : s.stack.frames = [0]) (hstep : s.next? = some step)
    (hopen : step.token.text = "\x7b-") :
    ∃ j stop closed t, Extent text step.token.start j stop closed ∧
      Emits s (commentTokens text step.token.start j closed) t ∧ t.place.offset = stop ∧
      if closed then t.state = "root" ∧ t.depth = 1 else t.next? = none ∧ t.depth = 2 := by
  obtain ⟨_, _, _, _, hstart⟩ := h.next?_leads hstep
  obtain ⟨j, stop, closed, t, hextent, hemits, hstop, hend⟩ := comment_run hl h hroot hstep hopen
  have ht : Good l text t := hemits.skip_eq ▸ h.skip (Lexer.sound_of_build hl) _
  rw [hstart]
  refine ⟨j, stop, closed, t, hextent, hemits, hstop, ?_⟩
  cases closed with
  | true => exact state_of_root hl ht hend
  | false => exact ⟨hend.2, (state_of_comment hl ht hend.1).2⟩

/-- The laws of the block comments in a text, for every stream on the way through it. -/
structure BlockComments (l : Lexer) (text : String) : Prop where
  /-- Where a comment opens, its tokens follow up to the end of its extent. Then the stream is back in
  ordinary text, or the text is at its end. -/
  covered : ∀ n step, ((start l text).skip n).next? = some step →
    ((start l text).skip n).state = "root" → step.token.text = "\x7b-" →
    ∃ j stop closed t, Extent text step.token.start j stop closed ∧
      Emits ((start l text).skip n) (commentTokens text step.token.start j closed) t ∧
      t.place.offset = stop ∧
      if closed then t.state = "root" ∧ t.depth = 1 else t.next? = none ∧ t.depth = 2
  /-- A token of this category lies in the extent of a comment that has opened before. -/
  nowhere_else : ∀ n step, ((start l text).skip n).next? = some step →
    step.token.kind = .commentMultiline →
    ∃ k opening j stop closed, k ≤ n ∧ ((start l text).skip k).next? = some opening ∧
      ((start l text).skip k).state = "root" ∧ opening.token.text = "\x7b-" ∧
      Extent text opening.token.start j stop closed ∧
      opening.token.start ≤ step.token.start ∧ step.token.stop ≤ stop
  shallow : ∀ n, ((start l text).skip n).depth ≤ 2

/-- Both lists of reserved words make a lexer, and it keeps the laws of block comments in every
text. -/
theorem a_block_comment_reaches_to_its_first_end (set : KeywordSet) :
    ∃ l, lexer set = .ok l ∧ ∀ text, BlockComments l text := by
  obtain ⟨l, hl⟩ := lexer_ok set
  refine ⟨l, hl, ?_⟩
  intro text
  have hstart := good_start (Lexer.sound_of_build hl) text
  have hgood := hstart.skip (Lexer.sound_of_build hl)
  have hmode := root_or_opened hl hstart rfl
  refine ⟨?_, ?_, ?_⟩
  · intro n step hstep hstate hopen
    rcases hmode n with hroot | ⟨hcomment, _⟩
    · exact covered_of_opening hl (hgood n) hroot hstep hopen
    · rw [(state_of_comment hl (hgood n) hcomment).1] at hstate
      exact absurd hstate (by decide)
  · intro n step hstep hkind
    obtain ⟨k, hk⟩ := opened_of_kind hl hstart rfl hstep hkind
    obtain ⟨opening, j, stop, closed, hopening, hopen, hwithin⟩ := hk.within hl hstart hstep
    exact ⟨k, opening, j, stop, closed, hk.before, hopening,
      (state_of_root hl (hgood k) hk.root).1, hopen, hwithin⟩
  · intro n
    rcases hmode n with hroot | ⟨hcomment, _⟩
    · rw [(state_of_root hl (hgood n) hroot).2]
      omega
    · rw [(state_of_comment hl (hgood n) hcomment).2]

/-- The end of a comment does not overlap its opening, and a second opening changes nothing. -/
example : (lexer .legacy).toOption.map (·.tokenize "\x7b-\x7d\x7b-\x7d") =
    some (commentTokens "\x7b-\x7d\x7b-\x7d" 0 4 true) := by
  decide +kernel

end

end Alba

end Highlighter
