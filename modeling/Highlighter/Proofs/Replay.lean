-- The stream keeps its states by number, while a reader of the rule table asks for them by name. Both
-- agree also where several states have one name: each state of the stack is the first of its name, so
-- what a stream does next can be told from the named rules alone.
import Highlighter.Proofs.Runs

namespace Highlighter

namespace Stream

/-! ## The stack by name -/

/-- The names of the states in the stack, the top first. -/
def names (s : Stream) : List String := s.stack.frames.map s.nameAt

/-- What a transition does to a stream, said in names and depths alone. -/
def Follows (s : Stream) : Transition → Stream → Prop
  | .stay, next => next.state = s.state ∧ next.depth = s.depth ∧ next.names = s.names
  | .push target, next =>
    next.state = target ∧ next.depth = s.depth + 1 ∧ next.names = target :: s.names
  | .pop, next =>
    s.names[1]? = some next.state ∧ next.depth + 1 = s.depth ∧ next.names = s.names.tail

variable {l : Lexer} {text : String} {s next : Stream} {w : Win}

theorem length_names (s : Stream) : s.names.length = s.depth := List.length_map ..

theorem names_of_lexer (h : next.lexer = s.lexer) :
    next.names = next.stack.frames.map s.nameAt := by
  unfold names nameAt stateAt?
  rw [h]

theorem Good.head?_names (h : Good l text s) : s.names.head? = some s.state := by
  obtain ⟨i, rest, hf⟩ := h.frames
  simp [names, Stream.state, StateStack.top, hf]

/-- Streams whose names agree are in the same state at the same depth. -/
theorem Good.state_eq (hnext : Good l text next) {names : List String} {name : String}
    (hnames : next.names = names) (hname : names.head? = some name) : next.state = name := by
  have hhead := hnext.head?_names
  rw [hnames, hname] at hhead
  exact (Option.some.inj hhead).symm

theorem depth_eq {names : List String} (hnames : next.names = names) :
    next.depth = names.length := by
  rw [← length_names, hnames]

/-! ## The winning rule by name -/

/-- The rule that the name of the state finds is the one that the number finds. -/
theorem Good.firstMatch?_eq (h : Good l text s) :
    l.firstMatch? s.state text s.place.offset =
      s.win?.map fun w => ⟨w.index, w.rule.rule.kind, w.stop.offset⟩ := by
  obtain ⟨state, hat, hfirst, hname⟩ := h.top
  unfold Lexer.firstMatch? win?
  rw [hat, hname, hfirst, h.place.at_eq]
  cases hw : state.winner? s.place <;> simp [hw]

theorem Good.rules?_of_win (h : Good l text s) (hw : s.win? = some w) :
    ∃ rules, l.rules? s.state = some rules ∧ rules[w.index]? = some w.rule.rule := by
  obtain ⟨state, hat, hfirst, hname⟩ := h.top
  obtain ⟨other, hother, _, hwin, _⟩ := h.win_spec hw
  have hsame : state = other := by simpa [hat] using hother
  subst hsame
  refine ⟨state.rules.map (·.rule), ?_, ?_⟩
  · unfold Lexer.rules?
    rw [hname, hfirst]
    rfl
  · rw [List.getElem?_map, (ReadyState.winner?_spec hwin).1]
    rfl

/-- The number that a rule goes to has the name that its transition gives. -/
theorem Good.nameAt_of_push (hl : l.Sound) (h : Good l text s) (hw : s.win? = some w) {i : Nat}
    (ht : w.rule.target = .push i) : w.rule.rule.transition = .push (s.nameAt i) := by
  obtain ⟨state, _, hmem, _, hrule⟩ := h.win_spec hw
  have hresolve := hl.target state hmem _ hrule
  rw [ht] at hresolve
  obtain ⟨target, htransition, hfind⟩ := Transition.resolve_push hresolve
  obtain ⟨other, hat, hname, _⟩ := Lexer.isFirst_of_findIdx? hfind
  have hnameAt : s.nameAt i = target := by
    unfold nameAt stateAt?
    rw [h.lexer, hat, Option.map_some, Option.getD_some, hname]
  rw [htransition, hnameAt]

/-- After a rule has won, the stack is as the transition of the rule says. -/
theorem Good.follows_accept (hl : l.Sound) (h : Good l text s) (hw : s.win? = some w) :
    s.Follows w.rule.rule.transition (s.accept w).next := by
  have hnext := h.accept hl hw
  obtain ⟨state, _, hmem, _, hrule⟩ := h.win_spec hw
  have hresolve := hl.target state hmem _ hrule
  obtain ⟨hframes, _⟩ := h.frames_accept hl hw
  have hnames := names_of_lexer (accept_spec s w).1
  rw [hframes] at hnames
  rcases ht : w.rule.target with _ | i | _
  · rw [ht] at hresolve hnames
    rw [Transition.resolve_stay hresolve]
    refine ⟨hnext.state_eq hnames h.head?_names, ?_, hnames⟩
    rw [depth_eq hnames]
    exact length_names s
  · rw [ht] at hnames
    rw [h.nameAt_of_push hl hw ht]
    refine ⟨hnext.state_eq hnames rfl, ?_, hnames⟩
    rw [depth_eq hnames]
    exact congrArg (· + 1) (length_names s)
  · obtain ⟨i, below, rest, hf⟩ := h.below_of_pop hl hw ht
    rw [ht, hf] at hnames
    rw [ht] at hresolve
    rw [Transition.resolve_pop hresolve]
    have hbelow : s.names = s.nameAt i :: s.nameAt below :: rest.map s.nameAt := by
      simp [names, hf]
    refine ⟨?_, ?_, ?_⟩
    · rw [hnext.state_eq hnames rfl, hbelow]
      rfl
    · rw [depth_eq hnames, ← length_names s, hbelow]
      rfl
    · rw [hnames, hbelow]
      rfl

/-! ## The replay -/

/-- What a stream of the lexer does next, told from the named rules. -/
structure Replays (l : Lexer) (text : String) (s : Stream) (step : Step) : Prop where
  /-- The token is the match of the first rule that wins, and the stack follows its transition. -/
  won : ∀ m, l.firstMatch? s.state text s.place.offset = some m →
    step.token = ⟨m.kind, String.Pos.Raw.extract text ⟨s.place.offset⟩ ⟨m.stop⟩, s.place.offset⟩ ∧
      step.next.place.offset = m.stop ∧
      ∃ rules rule, l.rules? s.state = some rules ∧ rules[m.rule]? = some rule ∧
        s.Follows rule.transition step.next
  /-- Where no rule wins, the token is one character. -/
  lost : l.firstMatch? s.state text s.place.offset = none →
    ∃ c, String.Pos.Raw.get? text ⟨s.place.offset⟩ = some c ∧
      step.token = ⟨if c = '\n' then .text else .error, String.ofList [c], s.place.offset⟩ ∧
      step.next.place.offset = s.place.offset + c.utf8Size ∧
      if c = '\n' then l.stateNames.head? = some step.next.state ∧ step.next.depth = 1
      else step.next.stack = s.stack
  /-- The first of the names is that of the state, and there are as many as the stack is deep. -/
  named : s.names.head? = some s.state ∧ s.names.length = s.depth

theorem Good.won_accept (hl : l.Sound) (h : Good l text s) (hw : s.win? = some w) :
    Replays l text s (s.accept w) := by
  have hmatch := h.firstMatch?_eq
  rw [hw, Option.map_some] at hmatch
  refine ⟨?_, ?_, h.head?_names, length_names s⟩
  · intro m hm
    rw [hmatch] at hm
    cases hm
    obtain ⟨cs, _, hcs⟩ := win_leads hw
    obtain ⟨rules, hrules, hrule⟩ := h.rules?_of_win hw
    obtain ⟨_, hplace⟩ := accept_spec s w
    refine ⟨?_, by rw [hplace], rules, _, hrules, hrule, h.follows_accept hl hw⟩
    rw [token_accept hcs, h.place.extract_eq hcs]
  · intro hnone
    rw [hmatch] at hnone
    cases hnone

theorem Good.lost_fallback (hl : l.Sound) (h : Good l text s) (hw : s.win? = none) {c : Char}
    {rest : List Char} (hrest : s.place.rest = c :: rest) :
    Replays l text s (s.fallback c rest) := by
  have hmatch := h.firstMatch?_eq
  rw [hw, Option.map_none] at hmatch
  refine ⟨?_, ?_, h.head?_names, length_names s⟩
  · intro m hm
    rw [hmatch] at hm
    cases hm
  · intro _
    obtain ⟨_, hplace, _, htoken⟩ := fallback_spec s c rest
    have hget := h.place.get_eq
    rw [hrest, List.head?_cons] at hget
    refine ⟨c, hget, htoken, by rw [hplace]; rfl, ?_⟩
    have hframes := h.frames_fallback c rest
    have hnext := h.fallback hl hrest
    split
    · rw [if_pos ‹_›] at hframes
      exact hnext.initial hframes
    · rw [if_neg ‹_›] at hframes
      exact congrArg StateStack.mk hframes

/-- With any engine, every stream of an accepted rule table that is not at the end of its text does what
the rules say that are found under the name of its state. -/
theorem the_stream_replays_the_named_rules {engine : Engine} {d : Definition}
    (hbuild : Lexer.build engine d = .ok l) (text : String) (n : Nat)
    (hpos : ((start l text).skip n).place.offset < text.utf8ByteSize) :
    ∃ step, ((start l text).skip n).next? = some step ∧
      Replays l text ((start l text).skip n) step := by
  have hl := Lexer.sound_of_build hbuild
  have h := (good_start hl text).skip hl n
  rcases hrest : ((start l text).skip n).place.rest with _ | ⟨c, rest⟩
  · have hsize := h.place.size_eq
    rw [hrest, String.utf8Len_nil] at hsize
    omega
  · rcases hw : ((start l text).skip n).win? with _ | w
    · exact ⟨_, h.next?_of_no_win hw hrest, h.lost_fallback hl hw hrest⟩
    · exact ⟨_, h.next?_of_win hw, h.won_accept hl hw⟩

theorem a_sample_replays_the_named_rules : ∃ l, Lexer.build .standard Lexer.sample = .ok l ∧
    ((start l "\"é\"").skip 1).place.offset < "\"é\"".utf8ByteSize ∧
    ∃ step, ((start l "\"é\"").skip 1).next? = some step ∧
      Replays l "\"é\"" ((start l "\"é\"").skip 1) step := by
  have hinside : (Lexer.build .standard Lexer.sample).toOption.all fun l =>
      ((start l "\"é\"").skip 1).place.offset < "\"é\"".utf8ByteSize := by decide +kernel
  obtain ⟨l, hl⟩ := Lexer.builds_sample
  have hpos : ((start l "\"é\"").skip 1).place.offset < "\"é\"".utf8ByteSize := by
    simpa [hl, Except.toOption] using hinside
  exact ⟨l, hl, hpos, the_stream_replays_the_named_rules hl _ 1 hpos⟩

end Stream

end Highlighter
