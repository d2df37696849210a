-- What the log of a stream tells of its stack. Every push and every pop is recorded, and the records can
-- be read back from their texts. A line feed that resets the stack is not recorded, so the log goes wrong
-- at the first one that finds states to take away, and only there.
import Highlighter.Proofs.Replay
import Highlighter.Proofs.StackDepth
import Mathlib.Data.List.DropRight

namespace Highlighter

/-! ## Moves of a stack -/

/-- What a record tells of a stack of states. -/
inductive StackMove where
  | push (state : String)
  | pop
  deriving DecidableEq

/-- The names of the states in a stack after a move, the top first. -/
def StackMove.on : StackMove → List String → List String
  | push state, stack => state :: stack
  | pop, stack => stack.tail

/-- The move that an event is about. -/
def StreamEvent.move? : StreamEvent → Option StackMove
  | pushed state _ => some (.push state)
  | popped _ _ => some .pop
  | underflowed _ => none
  | unmatched .. => none

namespace Log

/-! ## Reading records -/

/-- What stands in a message between its beginning and its last backtick. -/
def nameAfter (start message : String) : String :=
  String.ofList ((message.toList.drop start.length).rdropWhile (· != '\x60')).dropLast

/-- The move that a record is about, read from its text. -/
def Record.move? (r : Record) : Option StackMove :=
  if r.level = .trace then
    if "push `".toList.isPrefixOf r.message.toList then some (.push (nameAfter "push `" r.message))
    else if "pop `".toList.isPrefixOf r.message.toList then some .pop
    else none
  else none

/-- The stack that is told by a log, with what was in it before. -/
def stackTold (log : List Record) (stack : List String) : List String :=
  (log.filterMap Record.move?).foldl (fun stack move => move.on stack) stack

/-- A number has no backtick, so the last one in a message is that after the name. -/
theorem nameAfter_eq (start name : String) (offset : Nat) :
    nameAfter start (start ++ name ++ "` at offset " ++ toString offset) = name := by
  have hwords : " at offset ".toList.all (· != '\x60') := by decide
  have hplain : ∀ c ∈ (" at offset ".toList ++ (toString offset).toList).reverse,
      (c != '\x60') = true := by
    intro c hc
    rw [List.mem_reverse, List.mem_append] at hc
    rcases hc with hc | hc
    · exact List.all_eq_true.1 hwords c hc
    · have hdigits : (toString offset).toList = Nat.toDigits 10 offset := Nat.toList_repr
      rw [hdigits] at hc
      have hdigit := Nat.isDigit_of_mem_toDigits (by decide) (by decide) hc
      rw [bne_iff_ne]
      rintro rfl
      cases hdigit
  have htext : (start ++ name ++ "` at offset " ++ toString offset).toList.drop start.length =
      name.toList ++ ['\x60'] ++ (" at offset ".toList ++ (toString offset).toList) := by
    simp [← String.length_toList]
  unfold nameAfter
  rw [htext, List.rdropWhile, List.reverse_append, List.dropWhile_append_of_pos hplain]
  simp

/-- The records of a stream can be read back. -/
theorem move?_record (e : StreamEvent) : e.record.move? = e.move? := by
  cases e with
  | pushed state offset =>
    have hname := nameAfter_eq "push `" state offset
    simpa [StreamEvent.record, Record.move?, StreamEvent.move?] using hname
  | popped state offset => simp [StreamEvent.record, Record.move?, StreamEvent.move?]
  | underflowed state => rfl
  | unmatched lexer state text offset => rfl

theorem stackTold_append (log more : List Record) (stack : List String) :
    stackTold (log ++ more) stack = stackTold more (stackTold log stack) := by
  simp [stackTold, List.filterMap_append, List.foldl_append]

end Log

namespace Stream

variable {l : Lexer} {text : String} {s : Stream} {step : Step}

/-! ## The log of one step -/

theorem stackTold_step (step : Step) (stack : List String) :
    Log.stackTold (records [step]) stack =
      (step.event?.bind StreamEvent.move?).elim stack fun move => move.on stack := by
  rcases hevent : step.event? with _ | e
  · simp [records, Log.stackTold, hevent]
  · rcases hmove : e.move? with _ | move
    · simp [records, Log.stackTold, hevent, Log.move?_record, hmove]
    · simp [records, Log.stackTold, hevent, Log.move?_record, hmove]

theorem Good.names_ne_nil (h : Good l text s) : s.names ≠ [] := by
  intro hnil
  have hhead := h.head?_names
  rw [hnil] at hhead
  cases hhead

/-- The initial state is the last of the names. -/
theorem Good.names_eq (hl : l.Sound) (h : Good l text s) :
    s.names = s.names.dropLast ++ l.stateNames.take 1 := by
  obtain ⟨initial, states, hstates⟩ := List.exists_cons_of_ne_nil hl.nonempty
  have hname : s.nameAt 0 = initial.name := by simp [nameAt, stateAt?, h.lexer, hstates]
  have hlast : s.names.getLast? = some initial.name := by
    unfold names
    rw [List.getLast?_map, h.bottom, Option.map_some, hname]
  have hfirst : l.stateNames.take 1 = [initial.name] := by simp [Lexer.stateNames, hstates]
  rw [hfirst, List.dropLast_append_getLast? _ hlast]

/-- The record of a step that does not reset the stack tells what becomes of the names above the
initial state. -/
theorem Good.told_of_not_resets (hl : l.Sound) (h : Good l text s) (hstep : s.next? = some step)
    (hr : s.resets = false) (below : List String) :
    Log.stackTold (records [step]) (s.names.dropLast ++ below) = step.next.names.dropLast ++ below := by
  rw [stackTold_step]
  rcases h.cases_of_not_resets hstep hr with ⟨w, hw, rfl⟩ | ⟨c, rest, hw, hc, rfl⟩
  · obtain ⟨hframes, _⟩ := h.frames_accept hl hw
    have hnames := names_of_lexer (accept_spec s w).1
    rw [hframes] at hnames
    rw [hnames]
    rcases ht : w.rule.target with _ | i | _
    · simp [Stream.accept, turn, ht, Target.turned, names]
    · have hne := h.names_ne_nil
      unfold names at hne ⊢
      simp [Stream.accept, turn, ht, Target.turned, StreamEvent.move?, StackMove.on,
        List.dropLast_cons_of_ne_nil hne]
    · obtain ⟨i, top, rest, hf⟩ := h.below_of_pop hl hw ht
      simp [Stream.accept, turn, ht, Target.turned, names, StateStack.pop?, hf, StreamEvent.move?,
        StackMove.on]
  · have hnames := names_of_lexer (fallback_spec s c rest).1
    rw [h.frames_fallback, if_neg hc] at hnames
    rw [hnames]
    simp [Stream.fallback, hc, names, StreamEvent.move?]

theorem dropLast_names_eq_nil (s : Stream) : s.names.dropLast = [] ↔ s.depth ≤ 1 := by
  rw [← length_names, ← List.length_eq_zero_iff, List.length_dropLast]
  omega

/-- A reset has no record, and it leaves no name above the initial state. -/
theorem Good.told_of_resets (h : Good l text s) (hstep : s.next? = some step)
    (hr : s.resets = true) (stack : List String) :
    Log.stackTold (records [step]) stack = stack ∧ step.next.names.dropLast = [] := by
  have hdepth := h.depth_of_resets hstep hr
  refine ⟨?_, (dropLast_names_eq_nil _).2 hdepth.le⟩
  obtain ⟨rest, rfl⟩ := h.fallback_of_resets hstep hr
  rw [stackTold_step]
  rfl

theorem resets_of_end (h : s.next? = none) : s.resets = false := by
  simp [resets, Place.next?, next?_eq_none.1 h]

/-! ## The log of a run -/

/-- The stack that the records of the first `n` tokens tell, with the initial state in it at first. -/
def told (l : Lexer) (text : String) (n : Nat) : List String :=
  Log.stackTold (records ((start l text).steps n)) (l.stateNames.take 1)

/-- The records of the first `n` tokens tell the state and the depth of the stream after them. -/
def LogTells (l : Lexer) (text : String) (n : Nat) : Prop :=
  (told l text n).head? = some ((start l text).skip n).state ∧
    (told l text n).length = ((start l text).skip n).depth

instance (l : Lexer) (text : String) (n : Nat) : Decidable (LogTells l text n) :=
  inferInstanceAs (Decidable (_ ∧ _))

/-- The names that resets have taken away along the first `n` tokens, those of the last reset
first. -/
def forgotten (s : Stream) : Nat → List String
  | 0 => []
  | n + 1 => (if (s.skip n).resets then (s.skip n).names.dropLast else []) ++ s.forgotten n

theorem forgotten_eq_nil {n : Nat} : s.forgotten n = [] ↔
    ∀ k < n, (s.skip k).resets = true → (s.skip k).depth ≤ 1 := by
  induction n with
  | zero => simp [forgotten]
  | succ n ih =>
    rw [forgotten, List.append_eq_nil_iff, ih, Nat.forall_lt_succ_right, and_comm]
    refine and_congr_right fun _ => ?_
    rw [← dropLast_names_eq_nil]
    cases (s.skip n).resets <;> simp

theorem steps_succ (s : Stream) (n : Nat) :
    s.steps (n + 1) = s.steps n ++ (s.skip n).next?.toList := by
  induction n generalizing s with
  | zero => cases hn : s.next? <;> simp [steps, skip, hn]
  | succ n ih =>
    rcases hn : s.next? with _ | step
    · rw [steps_of_end _ hn, steps_of_end _ hn, skip_of_end _ hn, hn]
      rfl
    · rw [steps_of_next? _ hn, steps_of_next? _ hn, skip_of_next? _ hn, ih, List.cons_append]

theorem records_append (steps more : List Step) :
    records (steps ++ more) = records steps ++ records more := by
  simp [records, List.filterMap_append]

/-- The log tells the names above the initial state, then those that resets have taken away, and then
what was in the stack at first. -/
theorem Good.stackTold_eq (hl : l.Sound) (h : Good l text s) (hone : s.depth = 1)
    (stack : List String) (n : Nat) : Log.stackTold (records (s.steps n)) stack =
      (s.skip n).names.dropLast ++ (s.forgotten n ++ stack) := by
  induction n with
  | zero =>
    have hnil := (dropLast_names_eq_nil s).2 hone.le
    simp [steps, records, Log.stackTold, Stream.skip, forgotten, hnil]
  | succ n ih =>
    rw [steps_succ, records_append, Log.stackTold_append, ih, forgotten]
    rcases hn : (s.skip n).next? with _ | step
    · rw [resets_of_end hn, skip_add, skip_of_end 1 hn]
      rfl
    · have hgood := h.skip hl n
      rw [Option.toList_some, skip_succ n hn]
      cases hr : (s.skip n).resets with
      | false =>
        rw [hgood.told_of_not_resets hl hn hr]
        rfl
      | true =>
        obtain ⟨htold, hnil⟩ := hgood.told_of_resets hn hr
          ((s.skip n).names.dropLast ++ (s.forgotten n ++ stack))
        rw [htold, hnil]
        simp

/-! ## The law -/

/-- What the log of the first `n` tokens tells. -/
structure LogLaws (l : Lexer) (text : String) (n : Nat) : Prop where
  /-- It tells state and depth just if each line feed that has reset the stack found nothing to take
  away. -/
  tells : LogTells l text n ↔ ∀ k < n,
    ((start l text).skip k).resets = true → ((start l text).skip k).depth = 1
  /-- Then it tells the names of the whole stack. -/
  whole : LogTells l text n → told l text n = ((start l text).skip n).names
  /-- Whatever else it tells is what resets have taken away. -/
  excess : told l text n = ((start l text).skip n).names.dropLast ++
    ((start l text).forgotten n ++ l.stateNames.take 1)

/-- With any engine, of a stream of an accepted rule table the log tells the stack until a line feed takes
states away. -/
theorem the_log_tells_the_stack_until_a_reset {engine : Engine} {d : Definition}
    (hbuild : Lexer.build engine d = .ok l) (text : String) (n : Nat) : LogLaws l text n := by
  have hl := Lexer.sound_of_build hbuild
  have hgood := good_start hl text
  have h := hgood.skip hl n
  have hexcess := hgood.stackTold_eq hl rfl (l.stateNames.take 1) n
  have hnames := h.names_eq hl
  have htells : LogTells l text n → (start l text).forgotten n = [] := by
    rintro ⟨_, hdepth⟩
    rw [← length_names, hnames] at hdepth
    rw [told, hexcess, List.length_append, List.length_append, List.length_append] at hdepth
    exact List.eq_nil_of_length_eq_zero (by omega)
  have hwhole : (start l text).forgotten n = [] →
      told l text n = ((start l text).skip n).names := by
    intro hnil
    rw [told, hexcess, hnil, List.nil_append, ← hnames]
  refine ⟨⟨?_, ?_⟩, fun htell => hwhole (htells htell), hexcess⟩
  · intro htell k hk hr
    have hle := forgotten_eq_nil.1 (htells htell) k hk hr
    have hpos := List.length_pos_iff.2 (hgood.skip hl k).names_ne_nil
    rw [length_names] at hpos
    omega
  · intro hresets
    have hnil := forgotten_eq_nil.2 fun k hk hr => (hresets k hk hr).le
    unfold LogTells
    rw [hwhole hnil]
    exact ⟨h.head?_names, length_names _⟩

theorem the_log_tells_the_stack_of_a_sample : ∃ l, Lexer.build .standard Lexer.sample = .ok l ∧
    LogLaws l "\"é\" a\"\nb" 6 := by
  obtain ⟨l, hl⟩ := Lexer.builds_sample
  exact ⟨l, hl, the_log_tells_the_stack_until_a_reset hl _ _⟩

/-- A line feed in a string that is not closed leads back to the initial state. The log goes on in the
string. -/
theorem the_log_misses_a_reset : ∃ l, Lexer.build .standard Lexer.sample = .ok l ∧
    ((start l "\"a\n").skip 3).state = "root" ∧ ((start l "\"a\n").skip 3).depth = 1 ∧
    told l "\"a\n" 3 = ["string", "root"] ∧ ¬ LogTells l "\"a\n" 3 := by
  have hall : (Lexer.build .standard Lexer.sample).toOption.all fun l =>
      ((start l "\"a\n").skip 3).state = "root" ∧ ((start l "\"a\n").skip 3).depth = 1 ∧
      told l "\"a\n" 3 = ["string", "root"] ∧ ¬ LogTells l "\"a\n" 3 := by decide +kernel
  obtain ⟨l, hl⟩ := Lexer.builds_sample
  exact ⟨l, hl, by simpa [hl, Except.toOption] using hall⟩

end Stream

end Highlighter
