-- The stack of states along a run: its bottom is the initial state, each of its states is there, and a
-- rule never leaves the last one. Its depth counts the rules that have won since the last reset.
import Highlighter.Proofs.Runs

namespace Highlighter

namespace Stream

/-! ## What is counted -/

/-- The winning rule puts a state on top. -/
def pushes (s : Stream) : Bool :=
  s.win?.any fun w =>
    match w.rule.target with
    | .push _ => true
    | _ => false

/-- The winning rule leaves a state. -/
def pops (s : Stream) : Bool := s.win?.any fun w => decide (w.rule.target = .pop)

/-- No rule wins at a line feed, which resets the stack. -/
def resets (s : Stream) : Bool := s.win?.isNone && s.place.next? == some '\n'

/-- The streams that the first `n` tokens were taken from, the latest first. -/
def trail (s : Stream) : Nat → List Stream
  | 0 => []
  | n + 1 => if (s.skip n).next?.isSome then s.skip n :: s.trail n else s.trail n

/-- Those since the last reset. -/
def recent (s : Stream) (n : Nat) : List Stream := (s.trail n).takeWhile (!·.resets)

theorem trail_of_next? {s : Stream} {step : Step} {n : Nat} (h : (s.skip n).next? = some step) :
    s.trail (n + 1) = s.skip n :: s.trail n := by
  simp [trail, h]

theorem trail_of_end {s : Stream} {n : Nat} (h : (s.skip n).next? = none) :
    s.trail (n + 1) = s.trail n := by
  simp [trail, h]

theorem recent_of_resets {s : Stream} {step : Step} {n : Nat}
    (h : (s.skip n).next? = some step) (hr : (s.skip n).resets = true) :
    s.recent (n + 1) = [] := by
  simp [recent, trail_of_next? h, hr]

theorem recent_of_not_resets {s : Stream} {step : Step} {n : Nat}
    (h : (s.skip n).next? = some step) (hr : (s.skip n).resets = false) :
    s.recent (n + 1) = s.skip n :: s.recent n := by
  simp [recent, trail_of_next? h, hr]

/-! ## The depth after a step -/

variable {l : Lexer} {text : String} {s : Stream} {step : Step}

/-- A reset is the step of a line feed that no rule takes. -/
theorem Good.fallback_of_resets (h : Good l text s) (hstep : s.next? = some step)
    (hr : s.resets = true) : ∃ rest, step = s.fallback '\n' rest := by
  unfold resets at hr
  rw [Bool.and_eq_true, Option.isNone_iff_eq_none, beq_iff_eq] at hr
  obtain ⟨hnone, hnewline⟩ := hr
  rcases h.next?_cases hstep with ⟨w, hw, _⟩ | ⟨c, rest, _, hrest, rfl⟩
  · rw [hnone] at hw
    cases hw
  · have hc : c = '\n' := by simpa [Place.next?, hrest] using hnewline
    exact ⟨rest, hc ▸ rfl⟩

/-- Any other step is that of a winning rule or of another character. -/
theorem Good.cases_of_not_resets (h : Good l text s) (hstep : s.next? = some step)
    (hr : s.resets = false) : (∃ w, s.win? = some w ∧ step = s.accept w) ∨
      ∃ c rest, s.win? = none ∧ c ≠ '\n' ∧ step = s.fallback c rest := by
  rcases h.next?_cases hstep with hwin | ⟨c, rest, hw, hrest, hfallback⟩
  · exact .inl hwin
  · refine .inr ⟨c, rest, hw, ?_, hfallback⟩
    rintro rfl
    simp [resets, hw, Place.next?, hrest] at hr

/-- A reset leaves the initial state alone. -/
theorem Good.depth_of_resets (h : Good l text s) (hstep : s.next? = some step)
    (hr : s.resets = true) : step.next.depth = 1 := by
  obtain ⟨rest, rfl⟩ := h.fallback_of_resets hstep hr
  unfold depth StateStack.depth
  rw [h.frames_fallback, if_pos rfl]
  rfl

/-- Otherwise the winning rule decides: one more for a push, one less for a pop. -/
theorem Good.depth_of_not_resets (hl : l.Sound) (h : Good l text s)
    (hstep : s.next? = some step) (hr : s.resets = false) :
    step.next.depth + s.pops.toNat = s.depth + s.pushes.toNat := by
  unfold depth StateStack.depth
  rcases h.cases_of_not_resets hstep hr with ⟨w, hw, rfl⟩ | ⟨c, rest, hw, hc, rfl⟩
  · obtain ⟨hframes, _⟩ := h.frames_accept hl hw
    rw [hframes]
    rcases ht : w.rule.target with _ | i | _
    · simp [Target.turned, pops, pushes, hw, ht]
    · simp [Target.turned, pops, pushes, hw, ht]
    · obtain ⟨i, below, rest, hf⟩ := h.below_of_pop hl hw ht
      simp [Target.turned, pops, pushes, hw, ht, hf]
  · rw [h.frames_fallback, if_neg hc]
    simp [pops, pushes, hw]

/-- The depth is one more than the pushes without the pops since the last reset. -/
theorem depth_skip (hl : l.Sound) (h : Good l text s) (hone : s.depth = 1) (n : Nat) :
    (s.skip n).depth + (s.recent n).countP (·.pops) = 1 + (s.recent n).countP (·.pushes) := by
  induction n with
  | zero => exact congrArg (· + 0) hone
  | succ n ih =>
    have hgood := h.skip hl n
    rcases hn : (s.skip n).next? with _ | step
    · rw [skip_add, skip_of_end 1 hn, recent, trail_of_end hn]
      exact ih
    · rw [skip_succ n hn]
      cases hr : (s.skip n).resets with
      | true =>
        rw [recent_of_resets hn hr, hgood.depth_of_resets hn hr]
        rfl
      | false =>
        have hdepth := hgood.depth_of_not_resets hl hn hr
        rw [recent_of_not_resets hn hr, List.countP_cons, List.countP_cons]
        cases hpops : (s.skip n).pops <;> cases hpushes : (s.skip n).pushes <;>
          simp only [hpops, hpushes, Bool.toNat_true, Bool.toNat_false] at hdepth ⊢ <;>
          simp only [Bool.false_eq_true, if_false, if_true] <;>
          omega

/-! ## The stack of every stream -/

/-- No step reports an underflow. -/
theorem Good.event_ne_underflowed (hl : l.Sound) (h : Good l text s)
    (hstep : s.next? = some step) (name : String) : step.event? ≠ some (.underflowed name) := by
  rcases h.next?_cases hstep with ⟨w, hw, rfl⟩ | ⟨c, rest, _, _, rfl⟩
  · unfold Stream.accept turn
    rcases ht : w.rule.target with _ | i | _
    · simp
    · simp
    · obtain ⟨i, below, rest, hf⟩ := h.below_of_pop hl hw ht
      simp [StateStack.pop?, hf]
  · unfold Stream.fallback
    by_cases hc : c = '\n' <;> simp [hc]

/-- What holds of the stack of a stream, and of the step that comes next. -/
structure StackSafe (l : Lexer) (s : Stream) : Prop where
  nonempty : s.stack.frames ≠ []
  bottom : s.stack.frames.getLast? = some 0
  inside : ∀ i ∈ s.stack.frames, i < l.states.length
  /-- The state on top has a number of the lexer, so the stream can tell its name. -/
  top : ∃ state, s.stateAt? s.stack.top = some state ∧ s.state = state.name
  /-- A rule that leaves a state finds another one below it. -/
  pop : ∀ w, s.win? = some w → w.rule.target = .pop → 2 ≤ s.depth ∧ s.stack.pop?.isSome = true
  calm : s.underflow = false
  quiet : ∀ step, s.next? = some step → ∀ name, step.event? ≠ some (.underflowed name)

theorem Good.stackSafe (hl : l.Sound) (h : Good l text s) : StackSafe l s := by
  refine ⟨?_, h.bottom, ?_, ?_, ?_, h.calm, fun _ hstep name => h.event_ne_underflowed hl hstep name⟩
  · obtain ⟨i, rest, hf⟩ := h.frames
    simp [hf]
  · intro i hi
    obtain ⟨state, hat, _⟩ := h.first i hi
    exact (List.getElem?_eq_some_iff.1 hat).1
  · obtain ⟨state, hat, _, hname⟩ := h.top
    exact ⟨state, hat, hname⟩
  · intro w hw ht
    obtain ⟨i, below, rest, hf⟩ := h.below_of_pop hl hw ht
    simp [depth, StateStack.depth, StateStack.pop?, hf]

/-- With any engine, in every stream of an accepted rule table the stack is safe, and its depth is 1 with
the pushes and without the pops since the last reset. -/
theorem the_stack_never_underflows {engine : Engine} {d : Definition}
    (hbuild : Lexer.build engine d = .ok l) (text : String) (n : Nat) :
    StackSafe l ((start l text).skip n) ∧
      ((start l text).skip n).depth + ((start l text).recent n).countP (·.pops) =
        1 + ((start l text).recent n).countP (·.pushes) := by
  have hl := Lexer.sound_of_build hbuild
  have hgood := good_start hl text
  exact ⟨(hgood.skip hl n).stackSafe hl, depth_skip hl hgood rfl n⟩

theorem a_sample_never_underflows : ∃ l, Lexer.build .standard Lexer.sample = .ok l ∧
    StackSafe l ((start l "\"é\" \"b\nc").skip 6) ∧
      ((start l "\"é\" \"b\nc").skip 6).depth +
        ((start l "\"é\" \"b\nc").recent 6).countP (·.pops) =
          1 + ((start l "\"é\" \"b\nc").recent 6).countP (·.pushes) := by
  obtain ⟨l, hl⟩ := Lexer.builds_sample
  exact ⟨l, hl, the_stack_never_underflows hl _ _⟩

end Stream

end Highlighter
