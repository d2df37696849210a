-- What the hint of a stream says about the tokens to come. Its upper bound counts the bytes that no token
-- has covered. Each token takes a byte of them at least, so the bounds hold at every point of a run.
import Highlighter.Proofs.Coverage

namespace Highlighter

namespace Stream

variable {l : Lexer} {text : String} {s t : Stream} {step : Step} {ts : List Token}

/-! ## The bytes that are left -/

/-- The stream knows the size of its text. -/
structure Sized (l : Lexer) (text : String) (s : Stream) : Prop extends Good l text s where
  size : s.size = text.utf8ByteSize

theorem sized_start (hl : l.Sound) (text : String) : Sized l text (start l text) :=
  ⟨good_start hl text, rfl⟩

theorem size_accept (s : Stream) (w : Win) : (s.accept w).next.size = s.size := by
  unfold accept turn
  rcases w.rule.target with _ | i | _
  · rfl
  · rfl
  · dsimp only
    cases s.stack.pop? <;> rfl

theorem size_fallback (s : Stream) (c : Char) (rest : List Char) :
    (s.fallback c rest).next.size = s.size := by
  unfold fallback
  by_cases hc : c = '\n' <;> simp [hc]

theorem Sized.next (hl : l.Sound) (h : Sized l text s) (hstep : s.next? = some step) :
    Sized l text step.next := by
  refine ⟨h.toGood.next hl hstep, ?_⟩
  rw [← h.size]
  rcases h.next?_cases hstep with ⟨w, _, rfl⟩ | ⟨c, rest, _, _, rfl⟩
  · exact size_accept s w
  · exact size_fallback s c rest

theorem Sized.skip (hl : l.Sound) (h : Sized l text s) (n : Nat) : Sized l text (s.skip n) :=
  skip_induction h (fun _ _ ht hstep => ht.next hl hstep) n

/-- The place of a stream is never past the end, so nothing is cut off when it is subtracted. -/
theorem Sized.offset_add_remaining (h : Sized l text s) :
    s.place.offset ≤ s.size ∧ s.place.offset + s.remaining = text.utf8ByteSize := by
  have hle := h.place.offset_le
  have hsize := h.size
  unfold remaining
  omega

theorem Sized.remaining_eq_zero (h : Sized l text s) : s.remaining = 0 ↔ s.next? = none := by
  obtain ⟨_, hremaining⟩ := h.offset_add_remaining
  have hsize := h.place.size_eq
  rw [next?_eq_none, ← String.utf8Len_eq_zero]
  omega

/-- A step takes the bytes of its token, which has one at least. -/
theorem Sized.remaining_next (hl : l.Sound) (h : Sized l text s) (hstep : s.next? = some step) :
    step.next.remaining + step.token.text.utf8ByteSize = s.remaining ∧
      1 ≤ step.token.text.utf8ByteSize := by
  obtain ⟨cs, hne, hcs, htext, _⟩ := h.next?_leads hstep
  obtain ⟨_, hbefore⟩ := h.offset_add_remaining
  obtain ⟨_, hafter⟩ := (h.next hl hstep).offset_add_remaining
  have hoff := hcs.offset
  have hlt := hcs.offset_lt hne
  rw [htext, String.utf8ByteSize_ofList]
  omega

/-- A run takes the bytes of its tokens. -/
theorem Sized.remaining_emits (hl : l.Sound) (h : Sized l text s) (hrun : Emits s ts t) :
    t.remaining + (String.join (ts.map (·.text))).utf8ByteSize = s.remaining ∧
      ts.length ≤ (String.join (ts.map (·.text))).utf8ByteSize := by
  induction hrun with
  | nil s => exact ⟨rfl, Nat.le_refl 0⟩
  | cons hstep _ ih =>
    obtain ⟨hone, hpos⟩ := h.remaining_next hl hstep
    obtain ⟨htail, hlength⟩ := ih (h.next hl hstep)
    rw [List.map_cons, String.join_cons, String.utf8ByteSize_append, List.length_cons]
    omega

theorem emits_steps (s : Stream) (n : Nat) : Emits s ((s.steps n).map (·.token)) (s.skip n) := by
  induction n generalizing s with
  | zero => exact .nil s
  | succ n ih =>
    rcases hn : s.next? with _ | step
    · rw [steps_of_end _ hn, skip_of_end _ hn]
      exact .nil s
    · rw [steps_of_next? _ hn, skip_of_next? _ hn]
      exact .cons hn (ih step.next)

/-- A stream yields all its tokens, and then it is at its end. -/
theorem Sized.drains (hl : l.Sound) (h : Sized l text s) :
    ∃ t, Emits s s.tokens t ∧ t.next? = none ∧ t.remaining = 0 := by
  have hend := next?_eq_none.2 (skip_to_end hl h.toGood (Nat.le_refl _))
  exact ⟨_, emits_steps s _, hend, (h.skip hl _).remaining_eq_zero.2 hend⟩

theorem hint_eq (s : Stream) : s.hint = (min 1 s.remaining, s.remaining) := by
  unfold hint
  rw [Prod.mk.injEq]
  refine ⟨?_, rfl⟩
  split <;> omega

/-! ## The law -/

/-- What the hint says about a stream that has yielded the tokens `before`. -/
structure Hinted (text : String) (before : List Token) (s : Stream) : Prop where
  /-- The tokens to come are all that the stream yields before it ends. -/
  drains : ∃ t, Emits s s.tokens t ∧ t.next? = none
  low_le : s.hint.1 ≤ s.tokens.length
  le_high : s.tokens.length ≤ s.hint.2
  low_eq_zero : s.hint.1 = 0 ↔ s.tokens.length = 0
  /-- The upper bound counts the bytes that are not covered so far. -/
  covered : (String.join (before.map (·.text))).utf8ByteSize + s.hint.2 = text.utf8ByteSize
  /-- The stream is never past the end, so the subtraction in it is exact. -/
  within : s.place.offset ≤ s.size ∧ s.place.offset + s.hint.2 = s.size
  /-- A token lowers the upper bound by its bytes. -/
  next : ∀ step, s.next? = some step →
    step.next.hint.2 + step.token.text.utf8ByteSize = s.hint.2 ∧
      1 ≤ step.token.text.utf8ByteSize
  /-- After the last token there is never another one. -/
  ended : s.next? = none → ∀ n, (s.skip n).next? = none ∧ (s.skip n).hint = (0, 0)

/-- With any engine, at each point of a run of an accepted rule table the hint brackets the tokens to
come. -/
theorem the_hint_brackets_the_tokens_to_come {engine : Engine} {d : Definition}
    (hbuild : Lexer.build engine d = .ok l) (text : String) (n : Nat) :
    Hinted text ((l.tokenize text).take n) ((start l text).skip n) := by
  have hl := Lexer.sound_of_build hbuild
  have hstart := sized_start hl text
  have h := hstart.skip hl n
  obtain ⟨t, hrun, hend, hzero⟩ := h.drains hl
  obtain ⟨htokens, hlength⟩ := h.remaining_emits hl hrun
  have hyielded := emits_steps (start l text) n
  rw [steps_eq_take_tokens hl hstart.toGood] at hyielded
  obtain ⟨hbefore, _⟩ := hstart.remaining_emits hl hyielded
  obtain ⟨_, hsize⟩ := hstart.offset_add_remaining
  obtain ⟨hinside, hleft⟩ := h.offset_add_remaining
  have hnone (hnil : ((start l text).skip n).tokens.length = 0) :
      ((start l text).skip n).remaining = 0 := by
    rw [List.eq_nil_of_length_eq_zero hnil] at htokens
    simpa [hzero] using htokens.symm
  have hfirst : (start l text).place.offset = 0 := rfl
  unfold Lexer.tokenize
  refine ⟨⟨t, hrun, hend⟩, ?_, ?_, ?_, ?_, ?_, ?_, ?_⟩ <;> simp only [hint_eq]
  · omega
  · omega
  · omega
  · omega
  · rw [h.size]
    exact ⟨h.size ▸ hinside, hleft⟩
  · intro step hstep
    exact h.remaining_next hl hstep
  · intro hend' k
    rw [skip_of_end k hend', h.remaining_eq_zero.2 hend']
    exact ⟨hend', rfl⟩

theorem the_hint_brackets_the_tokens_of_a_sample : ∃ l, Lexer.build .standard Lexer.sample = .ok l ∧
    Hinted "a \"é\nb" ((l.tokenize "a \"é\nb").take 3) ((start l "a \"é\nb").skip 3) := by
  obtain ⟨l, hl⟩ := Lexer.builds_sample
  exact ⟨l, hl, the_hint_brackets_the_tokens_to_come hl _ _⟩

end Stream

end Highlighter
