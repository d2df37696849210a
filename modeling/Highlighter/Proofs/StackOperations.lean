-- The stack of states under operations in any order. Its bottom never goes, and operations that nest,
-- each pop closing a push, leave no trace: the stack is what it was before, and each pop gives back
-- the state of the push that it closes.
import Highlighter.Lexer.Stack
import Mathlib.Data.List.Basic
import Mathlib.Data.List.Induction
import Mathlib.Data.List.TakeDrop

namespace Highlighter

/-! ## Operations -/

/-- An operation on a stack of states. -/
inductive StackOp where
  | push (state : Nat)
  | pop
  | reset
  deriving DecidableEq

namespace StackOp

/-- The operation puts a state on top. -/
def isPush : StackOp → Bool
  | push _ => true
  | _ => false

/-- The number of pushes among some operations. -/
def pushes (ops : List StackOp) : Nat := ops.countP isPush

/-- The number of pops among some operations. -/
def pops (ops : List StackOp) : Nat := ops.count pop

@[simp] theorem pushes_nil : pushes [] = 0 := rfl

@[simp] theorem pops_nil : pops [] = 0 := rfl

@[simp] theorem pushes_append (ops more : List StackOp) :
    pushes (ops ++ more) = pushes ops + pushes more := List.countP_append ..

@[simp] theorem pops_append (ops more : List StackOp) :
    pops (ops ++ more) = pops ops + pops more := List.count_append ..

@[simp] theorem pushes_push (state : Nat) (ops : List StackOp) :
    pushes (.push state :: ops) = pushes ops + 1 := List.countP_cons_of_pos rfl

@[simp] theorem pops_push (state : Nat) (ops : List StackOp) :
    pops (.push state :: ops) = pops ops := by simp [pops]

@[simp] theorem pushes_pop (ops : List StackOp) : pushes (.pop :: ops) = pushes ops :=
  List.countP_cons_of_neg Bool.false_ne_true

@[simp] theorem pops_pop (ops : List StackOp) : pops (.pop :: ops) = pops ops + 1 := by simp [pops]

/-! ## Operations that nest -/

/-- Pushes and pops of which at no time more were pops than pushes. -/
structure Rising (ops : List StackOp) : Prop where
  noReset : .reset ∉ ops
  low : ∀ n, pops (ops.take n) ≤ pushes (ops.take n)

/-- Pushes and pops that nest: in the end there were as many pops as pushes. -/
structure Balanced (ops : List StackOp) : Prop extends Rising ops where
  even : pops ops = pushes ops

variable {ops more : List StackOp}

theorem Rising.of_append (h : Rising (ops ++ more)) : Rising ops := by
  refine ⟨fun hreset => h.noReset (List.mem_append_left more hreset), fun n => ?_⟩
  have hlow := h.low (min n ops.length)
  rwa [List.take_append_of_le_length (Nat.min_le_right ..), ← List.take_eq_take_min] at hlow

/-- At a pop there is a push that is open. -/
theorem Rising.pops_lt {before later : List StackOp} (h : Rising (before ++ .pop :: later)) :
    pops before < pushes before := by
  have hlow := h.low (before.length + 1)
  rw [List.take_length_add_append] at hlow
  exact Nat.lt_of_succ_le (by simpa using hlow)

theorem balanced_nil : Balanced [] := ⟨⟨List.not_mem_nil, by simp⟩, rfl⟩

theorem Balanced.append (h : Balanced ops) (h' : Balanced more) : Balanced (ops ++ more) := by
  refine ⟨⟨?_, fun n => ?_⟩, ?_⟩
  · rw [List.mem_append, not_or]
    exact ⟨h.noReset, h'.noReset⟩
  · rw [List.take_append, pops_append, pushes_append]
    exact Nat.add_le_add (h.low n) (h'.low _)
  · rw [pops_append, pushes_append, h.even, h'.even]

/-- A push and its pop around operations that nest. -/
theorem Balanced.wrap (h : Balanced ops) (state : Nat) :
    Balanced (.push state :: (ops ++ [.pop])) := by
  refine ⟨⟨by simp [h.noReset], fun n => ?_⟩, by simp [h.even]⟩
  rcases n with _ | n
  · simp
  · have hpop : pops (List.take (n - ops.length) [.pop]) ≤ pops [.pop] :=
      (List.take_sublist _ _).count_le _
    rw [pops_pop, pops_nil] at hpop
    have hlow := h.low n
    rw [List.take_succ_cons, List.take_append, pops_push, pushes_push, pops_append, pushes_append]
    omega

/-- Where more was pushed than popped, the last push that is open has only nested operations after
it. -/
theorem Rising.exists_open (h : Rising ops) (hopen : pops ops < pushes ops) :
    ∃ front state inner, ops = front ++ .push state :: inner ∧ Balanced inner := by
  induction hn : ops.length using Nat.strongRecOn generalizing ops with
  | ind n ih =>
    rcases ops.eq_nil_or_concat' with rfl | ⟨rest, op, rfl⟩
    · simp at hopen
    · rw [List.length_append, List.length_singleton] at hn
      cases op with
      | push state => exact ⟨rest, state, [], rfl, balanced_nil⟩
      | reset => exact absurd (by simp) h.noReset
      | pop =>
        -- The pop closes one push, so the one that is open stands before that.
        have hmore : pops rest + 1 < pushes rest := by simpa using hopen
        obtain ⟨front, state, inner, rfl, hinner⟩ :=
          ih rest.length (by omega) h.of_append (by omega) rfl
        have heven := hinner.even
        simp only [pops_append, pops_push, pushes_append, pushes_push] at hmore
        rw [List.length_append] at hn
        obtain ⟨first, last, outer, rfl, houter⟩ :=
          ih front.length (by omega) h.of_append.of_append (by omega) rfl
        refine ⟨first, last, outer ++ .push state :: (inner ++ [.pop]), by simp, ?_⟩
        exact houter.append (hinner.wrap state)

end StackOp

namespace StateStack

/-! ## One operation -/

/-- The stack after an operation. A pop that would take the last state away changes nothing. -/
def after (s : StateStack) : StackOp → StateStack
  | .push state => s.push state
  | .pop => s.pop?.elim s Prod.snd
  | .reset => s.reset

/-- The initial state is at the bottom. -/
def Grounded (s : StateStack) : Prop := s.frames.getLast? = some 0

variable {s : StateStack} {ops : List StackOp}

theorem Grounded.nonempty (h : s.Grounded) : s.frames ≠ [] := by
  intro hnil
  rw [Grounded, hnil] at h
  cases h

theorem pop?_push (h : s.frames ≠ []) (state : Nat) : (s.push state).pop? = some (state, s) := by
  obtain ⟨below, rest, hf⟩ := List.exists_cons_of_ne_nil h
  simp only [pop?, push, hf]
  rw [← hf]

theorem pop?_eq_none (h : s.frames ≠ []) : s.pop? = none ↔ s.depth = 1 := by
  obtain ⟨state, rest, hf⟩ := List.exists_cons_of_ne_nil h
  cases rest <;> simp [pop?, depth, hf]

theorem Grounded.reset_eq (h : s.Grounded) : s.reset = new := by
  have hlast := List.getLast?_eq_some_getLast h.nonempty
  rw [h] at hlast
  unfold reset new
  rw [List.drop_length_sub_one h.nonempty, ← Option.some.inj hlast]

theorem Grounded.after (h : s.Grounded) (op : StackOp) : (s.after op).Grounded := by
  cases op with
  | push state =>
    obtain ⟨below, rest, hf⟩ := List.exists_cons_of_ne_nil h.nonempty
    rw [Grounded, hf] at h
    simpa [StateStack.after, Grounded, push, hf] using h
  | pop =>
    obtain ⟨frames⟩ := s
    match frames with
    | [] => exact h
    | [state] => exact h
    | state :: below :: rest =>
      rw [Grounded, List.getLast?_cons_cons] at h
      exact h
  | reset =>
    unfold StateStack.after
    rw [h.reset_eq]
    rfl

/-! ## Operations in a row -/

/-- The stack after operations one after the other. -/
def run (s : StateStack) (ops : List StackOp) : StateStack := ops.foldl after s

theorem run_append (s : StateStack) (ops more : List StackOp) :
    s.run (ops ++ more) = (s.run ops).run more := List.foldl_append ..

/-- Operations in any order leave the initial state at the bottom. -/
theorem Grounded.run (h : s.Grounded) (ops : List StackOp) : (s.run ops).Grounded := by
  induction ops generalizing s with
  | nil => exact h
  | cons op ops ih => exact ih (h.after op)

/-- Pushes and pops that never go below the stack leave it as it is under what is pushed and not
popped. -/
theorem frames_run_rising (hs : s.frames ≠ []) (h : StackOp.Rising ops) : ∃ above,
    (s.run ops).frames = above ++ s.frames ∧ above.length + StackOp.pops ops = StackOp.pushes ops := by
  induction ops using List.reverseRecOn with
  | nil => exact ⟨[], rfl, rfl⟩
  | append_singleton ops op ih =>
    obtain ⟨above, hframes, hcount⟩ := ih h.of_append
    have hrun : s.run (ops ++ [op]) = (s.run ops).after op := run_append s ops [op]
    cases op with
    | push state =>
      refine ⟨state :: above, ?_, ?_⟩
      · rw [hrun, List.cons_append, ← hframes]
        rfl
      · simp
        omega
    | reset => exact absurd (by simp) h.noReset
    | pop =>
      have hlt := h.pops_lt
      obtain ⟨state, above, rfl⟩ : ∃ state rest, above = state :: rest :=
        List.exists_cons_of_length_pos (by omega)
      have hbelow : (⟨above ++ s.frames⟩ : StateStack).frames ≠ [] := by simp [hs]
      have htop : s.run ops = (⟨above ++ s.frames⟩ : StateStack).push state :=
        congrArg StateStack.mk hframes
      refine ⟨above, ?_, ?_⟩
      · rw [hrun, htop, StateStack.after, pop?_push hbelow]
        rfl
      · rw [List.length_cons] at hcount
        simp
        omega

/-- Operations that nest leave no trace. -/
theorem run_balanced (hs : s.frames ≠ []) (h : StackOp.Balanced ops) : s.run ops = s := by
  obtain ⟨above, hframes, hcount⟩ := frames_run_rising hs h.toRising
  rw [h.even, Nat.add_eq_right, List.length_eq_zero_iff] at hcount
  rw [hcount] at hframes
  exact congrArg StateStack.mk hframes

/-- After a push and operations that nest, a pop gives back the state that was pushed, and the stack
from before. -/
theorem pop?_run_open (hs : s.Grounded) {front inner : List StackOp} (h : StackOp.Balanced inner)
    (state : Nat) :
    (s.run (front ++ .push state :: inner)).pop? = some (state, s.run front) := by
  have hpushed : ((s.run front).push state).frames ≠ [] := by simp [push]
  have hrun : s.run (front ++ .push state :: inner) = ((s.run front).push state).run inner :=
    run_append s front _
  rw [hrun, run_balanced hpushed h, pop?_push (hs.run front).nonempty]

/-! ## The law -/

/-- The laws of a stack that operations in a row have led to. -/
structure NestingLaws (s : StateStack) : Prop where
  deep : 1 ≤ s.depth
  bottom : s.frames.getLast? = some 0
  /-- Only a stack of one state has nothing to pop, and then a pop changes nothing. -/
  pop_none : s.pop? = none ↔ s.depth = 1
  pop_idle : s.pop? = none → s.after .pop = s
  reset : s.after .reset = new
  /-- Operations that nest restore the stack. -/
  restored : ∀ ops, StackOp.Balanced ops → s.run ops = s
  /-- Each pop among them closes a push, with operations that nest in between, and gives back its
  state. -/
  matched : ∀ before later, StackOp.Balanced (before ++ .pop :: later) →
    (∃ front state inner, before = front ++ .push state :: inner ∧ StackOp.Balanced inner) ∧
    ∀ front state inner, before = front ++ .push state :: inner → StackOp.Balanced inner →
      (s.run before).pop? = some (state, s.run front)

theorem Grounded.nestingLaws (h : s.Grounded) : NestingLaws s := by
  refine ⟨List.length_pos_iff.2 h.nonempty, h, pop?_eq_none h.nonempty, ?_, h.reset_eq,
    fun _ => run_balanced h.nonempty, ?_⟩
  · intro hnone
    unfold StateStack.after
    rw [hnone]
    rfl
  · intro before later hops
    have hrising : StackOp.Rising before := hops.toRising.of_append
    refine ⟨hrising.exists_open hops.toRising.pops_lt, ?_⟩
    rintro front state inner rfl hinner
    exact pop?_run_open h hinner state

/-- A new stack after any operations keeps its bottom, and operations that nest restore it. -/
theorem nested_operations_leave_no_trace (ops : List StackOp) :
    (default : StateStack) = new ∧ NestingLaws (new.run ops) := by
  have hnew : new.Grounded := rfl
  exact ⟨rfl, (hnew.run ops).nestingLaws⟩

end StateStack

end Highlighter
