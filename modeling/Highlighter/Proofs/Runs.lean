-- The steps of a stream and its runs. The invariant `Good` holds at the start of every text and after
-- each token, so it holds of every stream that a run of any length reaches.
import Highlighter.Lexer.Stream
import Highlighter.Proofs.Matches
import Highlighter.Proofs.Tables
import Mathlib.Data.List.TakeDrop

namespace Highlighter

/-- What a target makes of the states of a stack, the top first. -/
def Target.turned : Target → List Nat → List Nat
  | stay, frames => frames
  | push i, frames => i :: frames
  | pop, frames => frames.tail

/-- A token of the text between two places stops at the second one. -/
theorem Token.stop_eq {p q : Place} {cs : List Char} {t : Token} (hlead : p.Leads cs q)
    (htext : t.text = String.ofList cs) (hstart : t.start = p.offset) : t.stop = q.offset := by
  rw [Token.stop, hstart, htext, hlead.offset, String.utf8ByteSize_ofList]

namespace Stream

/-! ## Runs -/

variable {s : Stream} {step : Step}

theorem next?_eq_none : s.next? = none ↔ s.place.rest = [] := by
  unfold next?
  cases hr : s.place.rest with
  | nil => simp
  | cons c rest =>
    simp only [reduceCtorEq, iff_false]
    split
    · simp
    · split <;> simp

theorem skip_of_next? (n : Nat) (h : s.next? = some step) : s.skip (n + 1) = step.next.skip n := by
  simp [skip, h]

theorem skip_of_end (n : Nat) (h : s.next? = none) : s.skip n = s := by
  cases n <;> simp [skip, h]

theorem steps_of_next? (n : Nat) (h : s.next? = some step) :
    s.steps (n + 1) = step :: step.next.steps n := by
  simp [steps, h]

theorem steps_of_end (n : Nat) (h : s.next? = none) : s.steps n = [] := by
  cases n <;> simp [steps, h]

theorem length_steps_le (s : Stream) (n : Nat) : (s.steps n).length ≤ n := by
  induction n generalizing s with
  | zero => exact Nat.le_refl 0
  | succ n ih =>
    rcases hn : s.next? with _ | step
    · rw [steps_of_end _ hn]
      exact Nat.zero_le _
    · rw [steps_of_next? _ hn]
      exact Nat.succ_le_succ (ih step.next)

theorem skip_add (m n : Nat) (s : Stream) : s.skip (m + n) = (s.skip m).skip n := by
  induction m generalizing s with
  | zero => rw [Nat.zero_add, skip]
  | succ m ih =>
    rw [Nat.add_right_comm]
    rcases hn : s.next? with _ | step
    · rw [skip_of_end _ hn, skip_of_end _ hn, skip_of_end _ hn]
    · rw [skip_of_next? _ hn, skip_of_next? _ hn, ih]

/-- One more token. -/
theorem skip_succ (n : Nat) (h : (s.skip n).next? = some step) : s.skip (n + 1) = step.next := by
  rw [skip_add, skip_of_next? 0 h, skip]

/-- What holds at the start and is kept by each token holds after every number of tokens. -/
theorem skip_induction {P : Stream → Prop} (hstart : P s)
    (hnext : ∀ t step, P t → t.next? = some step → P step.next) (n : Nat) : P (s.skip n) := by
  induction n generalizing s with
  | zero => exact hstart
  | succ n ih =>
    rcases hn : s.next? with _ | step
    · rw [skip_of_end _ hn]
      exact hstart
    · rw [skip_of_next? _ hn]
      exact ih (hnext s step hstart hn)

theorem mem_steps_of_next? {n : Nat} (h : (s.skip n).next? = some step) :
    step ∈ s.steps (n + 1) := by
  induction n generalizing s with
  | zero =>
    have hnext : s.next? = some step := h
    rw [steps_of_next? 0 hnext]
    exact List.mem_cons_self
  | succ n ih =>
    rcases hn : s.next? with _ | first
    · rw [skip_of_end _ hn, hn] at h
      cases h
    · rw [skip_of_next? _ hn] at h
      rw [steps_of_next? _ hn]
      exact List.mem_cons_of_mem _ (ih h)

theorem exists_skip_of_mem {n : Nat} (h : step ∈ s.steps n) :
    ∃ k, (s.skip k).next? = some step := by
  induction n generalizing s with
  | zero => cases h
  | succ n ih =>
    rcases hn : s.next? with _ | first
    · rw [steps_of_end _ hn] at h
      cases h
    · rw [steps_of_next? _ hn] at h
      rcases List.mem_cons.1 h with rfl | h
      · exact ⟨0, hn⟩
      · obtain ⟨k, hk⟩ := ih h
        exact ⟨k + 1, by rw [skip_of_next? _ hn, hk]⟩

/-- The stream yields these tokens one after the other, and then it is another stream. -/
inductive Emits : Stream → List Token → Stream → Prop where
  | nil (s : Stream) : Emits s [] s
  | cons {s t : Stream} {step : Step} {ts : List Token} (hstep : s.next? = some step)
    (htail : Emits step.next ts t) : Emits s (step.token :: ts) t

namespace Emits

variable {t u : Stream} {ts us : List Token}

theorem append (h1 : Emits s ts t) (h2 : Emits t us u) : Emits s (ts ++ us) u := by
  induction h1 with
  | nil => exact h2
  | cons hstep _ ih => exact .cons hstep (ih h2)

/-- One step, whose token is known. -/
theorem single {token : Token} (hstep : s.next? = some step) (htoken : step.token = token) :
    Emits s [token] step.next := by
  rw [← htoken]
  exact .cons hstep (.nil _)

theorem skip_eq (h : Emits s ts t) : s.skip ts.length = t := by
  induction h with
  | nil => rfl
  | cons hstep _ ih => rw [List.length_cons, skip_of_next? _ hstep, ih]

end Emits

/-! ## The invariant -/

/-- A stream of a lexer in a text: the initial state is at the bottom of its stack, each state of the
stack is the first of its name, and the stack has never refused to leave a state. -/
structure Good (l : Lexer) (text : String) (s : Stream) : Prop where
  lexer : s.lexer = l
  place : Place.In text s.place
  bottom : s.stack.frames.getLast? = some 0
  first : ∀ i ∈ s.stack.frames, l.IsFirst i
  calm : s.underflow = false

theorem good_start {l : Lexer} (hl : l.Sound) (text : String) : Good l text (start l text) := by
  refine ⟨rfl, Place.start_in text, rfl, ?_, rfl⟩
  intro i hi
  have hzero : i = 0 := by simpa [start, StateStack.new] using hi
  subst hzero
  exact Lexer.isFirst_zero hl.nonempty

section

variable {l : Lexer} {text : String} {w : Win}

theorem Good.frames (h : Good l text s) : ∃ i rest, s.stack.frames = i :: rest := by
  rcases hf : s.stack.frames with _ | ⟨i, rest⟩
  · have hbottom := h.bottom
    rw [hf] at hbottom
    cases hbottom
  · exact ⟨i, rest, rfl⟩

/-- The state on top is there, and it is the one that its name means. -/
theorem Good.top (h : Good l text s) : ∃ state, s.stateAt? s.stack.top = some state ∧
    l.state? state.name = some state ∧ s.state = state.name := by
  obtain ⟨i, rest, hf⟩ := h.frames
  have htop : s.stack.top = i := by simp [StateStack.top, hf]
  obtain ⟨state, hat, hfirst⟩ := h.first i (by simp [hf])
  have hstate : s.stateAt? s.stack.top = some state := by
    unfold stateAt?
    rw [htop, h.lexer, hat]
  refine ⟨state, hstate, hfirst, ?_⟩
  unfold Stream.state nameAt
  rw [hstate]
  rfl

/-- A stack of just the initial state has the first name of the table on top. -/
theorem Good.initial (h : Good l text s) (hframes : s.stack.frames = [0]) :
    l.stateNames.head? = some s.state ∧ s.depth = 1 := by
  obtain ⟨state, hat, _, hname⟩ := h.top
  have htop : s.stack.top = 0 := by simp [StateStack.top, hframes]
  unfold stateAt? at hat
  rw [htop, h.lexer] at hat
  refine ⟨?_, by simp [depth, StateStack.depth, hframes]⟩
  unfold Lexer.stateNames
  rw [hname, List.head?_map, List.head?_eq_getElem?, hat]
  rfl

/-- The winning rule belongs to the state on top. -/
theorem Good.win_spec (h : Good l text s) (hw : s.win? = some w) :
    ∃ state, s.stateAt? s.stack.top = some state ∧ state ∈ l.states ∧
      state.winner? s.place = some w ∧ w.rule ∈ state.rules := by
  obtain ⟨state, hat, _⟩ := h.top
  have hwin : state.winner? s.place = some w := by
    unfold win? at hw
    rwa [hat, Option.bind_some] at hw
  refine ⟨state, hat, ?_, hwin, ?_⟩
  · unfold stateAt? at hat
    rw [h.lexer] at hat
    exact List.mem_of_getElem? hat
  · exact List.mem_of_getElem? (ReadyState.winner?_spec hwin).1

theorem win_leads (hw : s.win? = some w) : ∃ cs, cs ≠ [] ∧ s.place.Leads cs w.stop := by
  unfold win? at hw
  obtain ⟨state, _, hwin⟩ := Option.bind_eq_some_iff.1 hw
  exact ReadyRule.leads_of_takes? (ReadyState.winner?_spec hwin).2

/-- A state that a rule leaves is not the last one: no rule leaves the initial state. -/
theorem Good.below_of_pop (hl : l.Sound) (h : Good l text s) (hw : s.win? = some w)
    (ht : w.rule.target = .pop) : ∃ i below rest, s.stack.frames = i :: below :: rest := by
  obtain ⟨i, rest, hf⟩ := h.frames
  rcases rest with _ | ⟨below, rest⟩
  · obtain ⟨state, hat, _, _, hmem⟩ := h.win_spec hw
    have hzero : i = 0 := by simpa [hf] using h.bottom
    have hinitial : l.states[0]? = some state := by
      have htop : s.stack.top = 0 := by simp [StateStack.top, hf, hzero]
      unfold stateAt? at hat
      rwa [htop, h.lexer] at hat
    exact absurd ht (hl.initial state hinitial _ hmem)
  · exact ⟨i, below, rest, hf⟩

/-! ## One step -/

/-- A step is that of the winning rule, or else that of one character. -/
theorem Good.next?_cases (h : Good l text s) (hstep : s.next? = some step) :
    (∃ w, s.win? = some w ∧ step = s.accept w) ∨
      ∃ c rest, s.win? = none ∧ s.place.rest = c :: rest ∧ step = s.fallback c rest := by
  unfold next? at hstep
  rw [h.calm] at hstep
  split at hstep
  · cases hstep
  · rename_i c rest hrest
    simp only [Bool.false_eq_true, if_false] at hstep
    split at hstep
    · cases hstep
      exact Or.inl ⟨_, ‹_›, rfl⟩
    · cases hstep
      exact Or.inr ⟨c, rest, ‹_›, hrest, rfl⟩

theorem Good.next?_of_win (h : Good l text s) (hw : s.win? = some w) :
    s.next? = some (s.accept w) := by
  obtain ⟨cs, hne, hcs⟩ := win_leads hw
  have hrest := hcs.rest
  unfold next?
  cases cs with
  | nil => exact absurd rfl hne
  | cons c cs => simp [hrest, h.calm, hw]

theorem Good.next?_of_no_win {c : Char} {rest : List Char} (h : Good l text s)
    (hw : s.win? = none) (hrest : s.place.rest = c :: rest) :
    s.next? = some (s.fallback c rest) := by
  unfold next?
  simp [hrest, h.calm, hw]

theorem accept_spec (s : Stream) (w : Win) : (s.accept w).next.lexer = s.lexer ∧
    (s.accept w).next.place = w.stop := by
  refine ⟨?_, rfl⟩
  unfold accept turn
  rcases w.rule.target with _ | i | _
  · rfl
  · rfl
  · dsimp only
    cases s.stack.pop? <;> rfl

/-- The token of a winning rule holds the text that leads to where its match ends. -/
theorem token_accept {cs : List Char} (hlead : s.place.Leads cs w.stop) :
    (s.accept w).token = ⟨w.rule.rule.kind, String.ofList cs, s.place.offset⟩ := by
  rw [← hlead.textTo_eq]
  rfl

/-- What the target of the winning rule makes of the stack. -/
theorem Good.frames_accept (hl : l.Sound) (h : Good l text s) (hw : s.win? = some w) :
    (s.accept w).next.stack.frames = w.rule.target.turned s.stack.frames ∧
      (s.accept w).next.underflow = false := by
  unfold accept turn
  rcases ht : w.rule.target with _ | i | _
  · exact ⟨rfl, h.calm⟩
  · exact ⟨rfl, h.calm⟩
  · obtain ⟨i, below, rest, hf⟩ := h.below_of_pop hl hw ht
    simp [StateStack.pop?, hf, Target.turned, h.calm]

theorem fallback_spec (s : Stream) (c : Char) (rest : List Char) :
    (s.fallback c rest).next.lexer = s.lexer ∧
      (s.fallback c rest).next.place = s.place.after c rest ∧
      (s.fallback c rest).next.underflow = s.underflow ∧
      (s.fallback c rest).token =
        ⟨if c = '\n' then .text else .error, String.ofList [c], s.place.offset⟩ := by
  unfold fallback
  by_cases hc : c = '\n' <;> simp [hc]

/-- A line feed that no rule wants leaves only the initial state. -/
theorem Good.frames_fallback (h : Good l text s) (c : Char) (rest : List Char) :
    (s.fallback c rest).next.stack.frames = if c = '\n' then [0] else s.stack.frames := by
  unfold fallback
  by_cases hc : c = '\n'
  · obtain ⟨i, rest, hf⟩ := h.frames
    have hbottom := h.bottom
    have hne : s.stack.frames ≠ [] := by simp [hf]
    rw [List.getLast?_eq_some_getLast hne] at hbottom
    simp only [hc, if_true, StateStack.reset]
    rw [List.drop_length_sub_one hne, Option.some.inj hbottom]
  · simp [hc]

/-! ## The invariant after a step -/

/-- A target goes only to states that are the first of their name. -/
theorem Good.first_of_push (hl : l.Sound) (h : Good l text s) (hw : s.win? = some w) {i : Nat}
    (ht : w.rule.target = .push i) : l.IsFirst i := by
  obtain ⟨state, _, hmem, _, hrule⟩ := h.win_spec hw
  have hresolve := hl.target state hmem _ hrule
  rw [ht] at hresolve
  obtain ⟨name, _, hfind⟩ := Transition.resolve_push hresolve
  obtain ⟨target, hat, hname, hstate⟩ := Lexer.isFirst_of_findIdx? hfind
  exact ⟨target, hat, hname ▸ hstate⟩

theorem Good.accept (hl : l.Sound) (h : Good l text s) (hw : s.win? = some w) :
    Good l text (s.accept w).next := by
  obtain ⟨hlexer, hplace⟩ := accept_spec s w
  obtain ⟨hframes, hcalm⟩ := h.frames_accept hl hw
  obtain ⟨cs, _, hcs⟩ := win_leads hw
  refine ⟨hlexer.trans h.lexer, hplace ▸ h.place.leads hcs, ?_, ?_, hcalm⟩
  · rw [hframes]
    rcases ht : w.rule.target with _ | i | _
    · exact h.bottom
    · simp [Target.turned, List.getLast?_cons, h.bottom]
    · obtain ⟨i, below, rest, hf⟩ := h.below_of_pop hl hw ht
      have hbottom := h.bottom
      rw [hf, List.getLast?_cons_cons] at hbottom
      simpa [Target.turned, hf] using hbottom
  · intro j hj
    rw [hframes] at hj
    rcases ht : w.rule.target with _ | i | _
    · rw [ht] at hj
      exact h.first j hj
    · rw [ht] at hj
      rcases List.mem_cons.1 hj with rfl | hj
      · exact h.first_of_push hl hw ht
      · exact h.first j hj
    · rw [ht] at hj
      exact h.first j (List.mem_of_mem_tail hj)

theorem Good.fallback (hl : l.Sound) (h : Good l text s) {c : Char} {rest : List Char}
    (hrest : s.place.rest = c :: rest) : Good l text (s.fallback c rest).next := by
  obtain ⟨hlexer, hplace, hcalm, _⟩ := fallback_spec s c rest
  have hframes := h.frames_fallback c rest
  refine ⟨hlexer.trans h.lexer, ?_, ?_, ?_, hcalm.trans h.calm⟩
  · rw [hplace]
    exact h.place.leads (Place.Leads.after hrest)
  · rw [hframes]
    split
    · rfl
    · exact h.bottom
  · intro j hj
    rw [hframes] at hj
    split at hj
    · have hzero : j = 0 := by simpa using hj
      exact hzero ▸ Lexer.isFirst_zero hl.nonempty
    · exact h.first j hj

theorem Good.next (hl : l.Sound) (h : Good l text s) (hstep : s.next? = some step) :
    Good l text step.next := by
  rcases h.next?_cases hstep with ⟨w, hw, rfl⟩ | ⟨c, rest, _, hrest, rfl⟩
  · exact h.accept hl hw
  · exact h.fallback hl hrest

/-- The invariant holds of every stream that a run reaches. -/
theorem Good.skip (hl : l.Sound) (h : Good l text s) (n : Nat) : Good l text (s.skip n) :=
  skip_induction h (fun _ _ ht hstep => ht.next hl hstep) n

/-! ## The token of a step -/

/-- The token of a step starts where the stream stands and holds the text up to the next place; it is
not empty. -/
theorem Good.next?_leads (h : Good l text s) (hstep : s.next? = some step) :
    ∃ cs, cs ≠ [] ∧ s.place.Leads cs step.next.place ∧
      step.token.text = String.ofList cs ∧ step.token.start = s.place.offset := by
  rcases h.next?_cases hstep with ⟨w, hw, rfl⟩ | ⟨c, rest, _, hrest, rfl⟩
  · obtain ⟨cs, hne, hcs⟩ := win_leads hw
    exact ⟨cs, hne, hcs, by rw [token_accept hcs], rfl⟩
  · obtain ⟨_, hplace, _, htoken⟩ := fallback_spec s c rest
    refine ⟨[c], by simp, ?_, by rw [htoken], by rw [htoken]⟩
    rw [hplace]
    exact Place.Leads.after hrest

theorem Good.stop_eq (h : Good l text s) (hstep : s.next? = some step) :
    step.token.stop = step.next.place.offset := by
  obtain ⟨cs, _, hcs, htext, hstart⟩ := h.next?_leads hstep
  exact Token.stop_eq hcs htext hstart

theorem Good.offset_le_skip (hl : l.Sound) (h : Good l text s) (n : Nat) :
    s.place.offset ≤ (s.skip n).place.offset := by
  induction n generalizing s with
  | zero => exact Nat.le_refl _
  | succ n ih =>
    rcases hn : s.next? with _ | step
    · rw [skip_of_end _ hn]
    · rw [skip_of_next? _ hn]
      obtain ⟨cs, _, hcs, _⟩ := h.next?_leads hn
      exact Nat.le_trans hcs.offset_le (ih (h.next hl hn))

end

end Stream

end Highlighter
