-- What two kinds of patterns take, said exactly. A greedy repetition of single characters takes the
-- longest run of them. A choice of words takes the first word that leads to a match.
import Highlighter.Proofs.Takes
import Mathlib.Data.List.TakeWhile

namespace Highlighter

namespace Place

/-! ## The longest run -/

/-- The place after the longest run of characters that pass the test. -/
def afterRun (p : Place) (test : Char → Bool) : Place := p.forward (p.rest.takeWhile test).length

variable {p : Place} {test : Char → Bool} {c : Char} {rest : List Char}

theorem leads_afterRun (p : Place) (test : Char → Bool) :
    p.Leads (p.rest.takeWhile test) (p.afterRun test) :=
  Leads.forward List.takeWhile_append_dropWhile.symm

theorem rest_afterRun (p : Place) (test : Char → Bool) :
    (p.afterRun test).rest = p.rest.dropWhile test :=
  (leads_afterRun p test).rest_eq List.takeWhile_append_dropWhile.symm

theorem afterRun_of_passes (h : p.rest = c :: rest) (hc : test c = true) :
    p.afterRun test = (p.after c rest).afterRun test := by
  unfold afterRun
  rw [h, List.takeWhile_cons_of_pos hc, List.length_cons, forward, h]
  rfl

theorem offset_lt_afterRun (h : p.rest = c :: rest) (hc : test c = true) :
    p.offset < (p.afterRun test).offset := by
  refine (leads_afterRun p test).offset_lt ?_
  rw [h, List.takeWhile_cons_of_pos hc]
  exact List.cons_ne_nil _ _

theorem afterRun_of_fails (h : ∀ c ∈ p.rest.head?, test c = false) : p.afterRun test = p := by
  unfold afterRun
  rcases hrest : p.rest with _ | ⟨c, rest⟩
  · rfl
  · have hc : test c = false := h c (by simp [hrest])
    rw [List.takeWhile_cons_of_neg (by simp [hc])]
    rfl

end Place

namespace Pattern

/-! ## Greedy repetitions of single characters -/

/-- The branch has been tried neither at the point with this number nor at a later one. -/
def Fresh (tried : Tried) (mark number : Nat) : Prop :=
  ∀ n, number ≤ n → tried.contains mark n = false

theorem fresh_none (mark number : Nat) : Fresh .none mark number := by
  intro n _
  simp

theorem Fresh.reach {tried : Tried} {mark number : Nat} (h : Fresh tried mark number)
    (rest : List Char) : Fresh (tried.reach rest) mark number := by
  intro n hn
  simp [h n hn]

/-- What is tried at a point is fresh again after the next character. -/
theorem Fresh.after {tried : Tried} {mark : Nat} {p : Point} (h : Fresh tried mark p.number)
    (c : Char) (rest : List Char) :
    Fresh ((tried.insert mark p.number).reach rest) mark (p.after c rest).number := by
  have hlt : p.number < (p.after c rest).number := by
    have hpassed := Bool.toNat_le p.passed
    simp only [Point.number, Point.after, Bool.toNat_false]
    omega
  intro n hn
  have hne : n ≠ p.number := by omega
  simp [hne, h n (by omega)]

/-- From a point where the branch is fresh, the longest run is found if it has less than `n`
characters. -/
def FindsRun (set : CharSet) (mark n : Nat) (run : Continuation) : Prop :=
  ∀ p tried, Fresh tried mark p.number → (p.place.rest.takeWhile set.mem).length < n →
    (run p tried).found = some (p.place.afterRun set.mem)

section

variable {set : CharSet} {mark : Nat} {k : Continuation}

theorem findsRun_takeTurn (hk : ∀ p tried, (k p tried).found = some p.place) {n : Nat}
    {next : Continuation} (hnext : FindsRun set mark n next) :
    FindsRun set mark (n + 1) (takeTurn (one set).search mark true k next) := by
  intro p tried hfresh hlt
  unfold takeTurn
  rw [hfresh _ (Nat.le_refl _)]
  simp only [Bool.false_eq_true, if_false, if_true, search]
  rcases hrest : p.place.rest with _ | ⟨c, rest⟩
  · have hrun : p.place.afterRun set.mem = p.place := Place.afterRun_of_fails (by simp [hrest])
    rw [hrun]
    exact hk p _
  · by_cases hc : set.mem c = true
    · have hshorter : (rest.takeWhile set.mem).length < n := by
        rw [hrest, List.takeWhile_cons_of_pos hc, List.length_cons] at hlt
        omega
      have hfound := hnext (p.after c rest) _ (hfresh.after c rest) hshorter
      rw [Place.afterRun_of_passes hrest hc]
      simp only [hc, if_true, Outcome.orElse]
      rw [hfound]
      exact hfound
    · have hrun : p.place.afterRun set.mem = p.place :=
        Place.afterRun_of_fails (by simpa [hrest] using hc)
      rw [hrun]
      simp only [hc, Bool.false_eq_true, if_false, Outcome.orElse, Outcome.fail]
      exact hk p _

theorem findsRun_turn (hk : ∀ p tried, (k p tried).found = some p.place) (bound : List Char) :
    FindsRun set mark (2 * bound.length) (turn (one set).search mark true k bound) := by
  induction bound with
  | nil => exact fun _ _ _ hlt => absurd hlt (Nat.not_lt_zero _)
  | cons c bound ih => exact findsRun_takeTurn hk (findsRun_takeTurn hk ih)

/-- As many turns as there are characters are enough. -/
theorem found_turn_run (hk : ∀ p tried, (k p tried).found = some p.place) {p : Point}
    {tried : Tried} {bound : List Char} (hfresh : Fresh tried mark p.number)
    (hbound : p.place.rest.length < bound.length) :
    (turn (one set).search mark true k bound p tried).found = some (p.place.afterRun set.mem) := by
  refine findsRun_turn hk bound p tried hfresh ?_
  have hle := (List.takeWhile_sublist set.mem (l := p.place.rest)).length_le
  omega

end

section

variable {set first second : CharSet} {mark : Nat} {p : Place} {c d : Char} {rest : List Char}

/-- A pattern without conditions in its repetitions is searched by the plain rule. -/
theorem matchFrom_of_plain {a : Pattern}
    (h : a.roundsAsk (fun l => !l.looksBehind (some '\r')) = false) (p : Place) :
    a.matchFrom p = (a.searchFrom false p).found := by
  unfold matchFrom
  rw [h]
  rfl

theorem search_one {p : Point} (h : p.place.rest = c :: rest) (hc : set.mem c = true)
    (tried : Tried) (k : Continuation) :
    (one set).search p tried k = k (p.after c rest) (tried.reach rest) := by
  simp [search, h, hc]

/-- One or more characters of a set. -/
theorem matchFrom_rounds (h : p.rest = c :: rest) (hc : set.mem c = true) :
    (rounds mark true (one set)).matchFrom p = some (p.afterRun set.mem) := by
  rw [matchFrom_of_plain rfl, Place.afterRun_of_passes h hc]
  unfold searchFrom search
  rw [search_one (p := .start false p) h hc]
  refine found_turn_run (fun _ _ => rfl) (((fresh_none _ _).reach _).reach _) ?_
  simp only [Point.after, Point.start, Place.after, h, List.length_cons]
  omega

/-- A character of one set, then any number of characters of another one. -/
theorem matchFrom_one_anyRounds (h : p.rest = c :: rest) (hc : first.mem c = true) :
    (seq (one first) (anyRounds mark true (one set))).matchFrom p =
      some ((p.after c rest).afterRun set.mem) := by
  rw [matchFrom_of_plain rfl]
  unfold searchFrom search
  rw [search_one (p := .start false p) h hc]
  exact found_turn_run (fun _ _ => rfl) (((fresh_none _ _).reach _).reach _) (by simp)

/-- Two characters of a set each, then any number of characters of a third one. -/
theorem matchFrom_two_anyRounds (h : p.rest = c :: d :: rest) (hc : first.mem c = true)
    (hd : second.mem d = true) :
    (seq (seq (one first) (one second)) (anyRounds mark true (one set))).matchFrom p =
      some (((p.after c (d :: rest)).after d rest).afterRun set.mem) := by
  rw [matchFrom_of_plain rfl]
  unfold searchFrom search search
  rw [search_one (p := .start false p) h hc, search_one rfl hd]
  exact found_turn_run (fun _ _ => rfl) (((fresh_none _ _).reach _).reach _ |>.reach _) (by simp)

end

/-! ## Choices of words -/

/-- What follows a pattern finds a place that hangs on the place alone, and it tries no branch. -/
structure Plain (k : Continuation) (finds : Place → Option Place) : Prop where
  found : ∀ p tried, (k p tried).found = finds p.place
  quiet : ∀ p tried mark n, (k p tried).tried.contains mark n = tried.contains mark n

theorem Plain.congr {k : Continuation} {finds finds' : Place → Option Place} (h : Plain k finds)
    (heq : ∀ p, finds p = finds' p) : Plain k finds' :=
  ⟨fun p tried => (h.found p tried).trans (heq p.place), h.quiet⟩

theorem plain_finish : Plain (fun p tried => ⟨some p.place, tried⟩) some :=
  ⟨fun _ _ => rfl, fun _ _ _ _ => rfl⟩

/-- The pattern of a text. -/
def ofText (cs : List Char) : Pattern := seqAll (cs.map fun c => one (.single c))

/-- The pattern of some texts, the first preferred. -/
def anyOf : List (List Char) → Pattern
  | [] => one .none
  | [w] => ofText w
  | w :: u :: ws => branch ws.length (ofText w) (anyOf (u :: ws))

section

variable {k : Continuation} {finds : Place → Option Place}

theorem Plain.look (h : Plain k finds) (l : Look) :
    Plain (fun p tried => (look l).search p tried k)
      fun p => if l.holds p = true then finds p else none := by
  refine ⟨?_, ?_⟩
  · intro p tried
    by_cases hl : l.holds p.place = true
    · simp [search, hl, h.found, Point.pass]
    · simp [search, hl, Outcome.fail]
  · intro p tried mark n
    by_cases hl : l.holds p.place = true
    · simp [search, hl, h.quiet]
    · simp [search, hl, Outcome.fail]

theorem search_seqAll_cons (a : Pattern) (rest : List Pattern) (p : Point) (tried : Tried)
    (k : Continuation) :
    (seqAll (a :: rest)).search p tried k =
      a.search p tried fun p tried => (seqAll rest).search p tried k := by
  cases rest <;> rfl

theorem Plain.single (h : Plain k finds) (c : Char) :
    Plain (fun p tried => (one (.single c)).search p tried k) fun p =>
      match p.rest with
      | [] => none
      | d :: rest => if d = c then finds (p.after d rest) else none := by
  refine ⟨?_, ?_⟩
  · intro p tried
    rcases hrest : p.place.rest with _ | ⟨d, rest⟩
    · simp [search, hrest, Outcome.fail]
    · by_cases hd : d = c
      · simp [search, hrest, CharSet.mem_single, hd, h.found, Point.after]
      · simp [search, hrest, CharSet.mem_single, hd, Outcome.fail]
  · intro p tried mark n
    rcases hrest : p.place.rest with _ | ⟨d, rest⟩
    · simp [search, hrest, Outcome.fail]
    · by_cases hd : d = c
      · simp [search, hrest, CharSet.mem_single, hd, h.quiet]
      · simp [search, hrest, CharSet.mem_single, hd, Outcome.fail]

/-- A text is found where it stands. -/
theorem Plain.ofText (h : Plain k finds) (cs : List Char) :
    Plain (fun p tried => (ofText cs).search p tried k)
      fun p => if cs <+: p.rest then finds (p.forward cs.length) else none := by
  induction cs with
  | nil => simpa [Pattern.ofText, seqAll, search, Place.forward] using h
  | cons c cs ih =>
    simp only [Pattern.ofText, List.map_cons, search_seqAll_cons]
    refine (ih.single c).congr fun p => ?_
    rcases hrest : p.rest with _ | ⟨d, rest⟩
    · simp
    · by_cases hd : d = c
      · simp [hd, List.cons_prefix_cons, Place.forward, hrest, Place.after]
      · simp [hd, List.cons_prefix_cons, Ne.symm hd]

/-- Of some texts the first one is found that stands there and that what follows accepts. -/
theorem found_anyOf (h : Plain k finds) (ws : List (List Char)) {p : Point} (tried : Tried)
    (hfresh : ∀ mark, mark + 1 < ws.length → tried.contains mark p.number = false) :
    ((anyOf ws).search p tried k).found = ws.findSome? fun w =>
      if w <+: p.place.rest then finds (p.place.forward w.length) else none := by
  induction ws generalizing tried with
  | nil =>
    rcases hrest : p.place.rest with _ | ⟨c, rest⟩
    · simp [anyOf, search, hrest, Outcome.fail]
    · simp [anyOf, search, hrest, Outcome.fail, CharSet.mem, CharSet.none, Text.inSpans,
        Text.covers]
  | cons w ws ih =>
    rcases ws with _ | ⟨u, ws⟩
    · simp [anyOf, (h.ofText w).found]
    · have hfirst := (h.ofText w).found p (tried.insert ws.length p.number)
      have hquiet := (h.ofText w).quiet p (tried.insert ws.length p.number)
      simp only [anyOf, search, hfresh ws.length (by simp), Bool.false_eq_true, if_false,
        List.findSome?_cons (a := w), Outcome.orElse]
      rw [hfirst]
      rcases hw : (if w <+: p.place.rest then finds (p.place.forward w.length) else none) with _ | q
      · refine ih _ fun mark hmark => ?_
        have hne : mark ≠ ws.length := by
          rw [List.length_cons] at hmark
          omega
        rw [hquiet, Tried.contains_insert, hfresh mark (Nat.lt_succ_of_lt hmark)]
        simp [hne]
      · exact hfirst.trans hw

end

theorem roundsAsk_ofText (test : Look → Bool) (cs : List Char) :
    (ofText cs).roundsAsk test = false := by
  induction cs with
  | nil => rfl
  | cons c cs ih =>
    rcases cs with _ | ⟨d, cs⟩
    · rfl
    · exact ih

theorem roundsAsk_anyOf (test : Look → Bool) (ws : List (List Char)) :
    (anyOf ws).roundsAsk test = false := by
  induction ws with
  | nil => rfl
  | cons w ws ih =>
    rcases ws with _ | ⟨u, ws⟩
    · exact roundsAsk_ofText test w
    · simp only [anyOf, roundsAsk, roundsAsk_ofText, ih, Bool.or_self]

/-- A choice of words between two conditions: the first word counts that stands at the place and has
the second condition at its end. -/
theorem matchFrom_between (l l' : Look) (ws : List (List Char)) (p : Place) :
    (seq (look l) (seq (anyOf ws) (look l'))).matchFrom p =
      if l.holds p = true then ws.findSome? fun w =>
        if w <+: p.rest then
          if l'.holds (p.forward w.length) = true then some (p.forward w.length) else none
        else none
      else none := by
  have hplain : (seq (look l) (seq (anyOf ws) (look l'))).roundsAsk
      (fun l => !l.looksBehind (some '\r')) = false := by simp [roundsAsk, roundsAsk_anyOf]
  rw [matchFrom_of_plain hplain]
  unfold searchFrom
  by_cases hl : l.holds p = true
  · have hfound := found_anyOf (plain_finish.look l') ws (p := (Point.start false p).pass l)
      (Tried.none.reach p.rest) (by simp)
    simp only [search, Point.start, hl, if_true]
    exact hfound
  · simp [search, Point.start, hl, Outcome.fail]

end Pattern

end Highlighter
