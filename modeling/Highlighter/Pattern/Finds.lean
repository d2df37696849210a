-- What a search can find, told for any reading of patterns as relations between places. If the relations
-- fit the ways in which patterns are put together, a pattern leads only to places that its relation
-- allows.
import Highlighter.Pattern.Basic

namespace Highlighter.Pattern

/-! ## Relations for patterns -/

/-- The relations, one for each pattern, fit the ways in which patterns are put together. -/
structure Allows (takes : Pattern → Place → Place → Prop) : Prop where
  empty : ∀ p, takes .empty p p
  one : ∀ {set : CharSet} {p : Place} {c : Char} {rest : List Char}, p.rest = c :: rest →
    set.mem c = true → takes (.one set) p (p.after c rest)
  look : ∀ {l : Look} {p : Place}, l.holds p = true → takes (.look l) p p
  seq : ∀ {a b : Pattern} {p q r : Place}, takes a p q → takes b q r → takes (.seq a b) p r
  first : ∀ {mark : Nat} {a b : Pattern} {p q : Place}, takes a p q → takes (.branch mark a b) p q
  second : ∀ {mark : Nat} {a b : Pattern} {p q : Place}, takes b p q → takes (.branch mark a b) p q
  rounds : ∀ {mark : Nat} {greedy : Bool} {a : Pattern} {p q r : Place}, takes a p q →
    takes (.anyRounds mark greedy a) q r → takes (.rounds mark greedy a) p r
  noRound : ∀ (mark : Nat) (greedy : Bool) (a : Pattern) (p : Place),
    takes (.anyRounds mark greedy a) p p
  round : ∀ {mark : Nat} {greedy : Bool} {a : Pattern} {p q r : Place}, takes a p q →
    takes (.anyRounds mark greedy a) q r → takes (.anyRounds mark greedy a) p r

/-- What a search finds comes from what follows it, asked at a place that the relation leads to. -/
def Finds (run : Point → Tried → Continuation → Outcome) (takes : Place → Place → Prop) : Prop :=
  ∀ p tried k q, (run p tried k).found = some q →
    ∃ r tried', takes p.place r.place ∧ (k r tried').found = some q

/-! ## Turns -/

theorem Outcome.found_orElse {o : Outcome} {other : Tried → Outcome} {q : Place}
    (h : (o.orElse other).found = some q) :
    o.found = some q ∨ ∃ tried, (other tried).found = some q := by
  unfold Outcome.orElse at h
  split at h
  · exact Or.inl h
  · exact Or.inr ⟨_, h⟩

section

variable {body : Point → Tried → Continuation → Outcome} {takes : Place → Place → Prop}

theorem found_takeTurn (hbody : Finds body takes) {mark : Nat} {greedy : Bool}
    {k next : Continuation} {p : Point} {tried : Tried} {q : Place}
    (h : (takeTurn body mark greedy k next p tried).found = some q) :
    (∃ tried', (k p tried').found = some q) ∨
      ∃ r tried', takes p.place r.place ∧ (next r tried').found = some q := by
  unfold takeTurn at h
  split at h
  · simp [Outcome.fail] at h
  · dsimp only at h
    split at h
    · rcases Outcome.found_orElse h with h | ⟨tried', h⟩
      · exact Or.inr (hbody _ _ _ _ h)
      · exact Or.inl ⟨tried', h⟩
    · rcases Outcome.found_orElse h with h | ⟨tried', h⟩
      · exact Or.inl ⟨_, h⟩
      · exact Or.inr (hbody _ _ _ _ h)

/-- Any number of turns lead on by any number of rounds. -/
theorem found_turn {any : Place → Place → Prop} (hbody : Finds body takes) (hnone : ∀ p, any p p)
    (hmore : ∀ p q r, takes p q → any q r → any p r) {mark : Nat} {greedy : Bool}
    {k : Continuation} {q : Place} (bound : List Char) {p : Point} {tried : Tried}
    (h : (turn body mark greedy k bound p tried).found = some q) :
    ∃ r tried', any p.place r.place ∧ (k r tried').found = some q := by
  induction bound generalizing p tried with
  | nil => simp [turn, Outcome.fail] at h
  | cons c bound ih =>
    rcases found_takeTurn hbody h with ⟨tried1, h1⟩ | ⟨r, tried1, hr, h1⟩
    · exact ⟨p, tried1, hnone _, h1⟩
    rcases found_takeTurn hbody h1 with ⟨tried2, h2⟩ | ⟨t, tried2, ht, h2⟩
    · exact ⟨r, tried2, hmore _ _ _ hr (hnone _), h2⟩
    obtain ⟨u, tried3, hu, h3⟩ := ih h2
    exact ⟨u, tried3, hmore _ _ _ hr (hmore _ _ _ ht hu), h3⟩

end

/-! ## Patterns -/

section

variable {takes : Pattern → Place → Place → Prop}

theorem Allows.finds (h : Allows takes) (a : Pattern) : Finds a.search (takes a) := by
  induction a with
  | empty =>
    intro p tried k q hfound
    exact ⟨p, tried, h.empty _, hfound⟩
  | one set =>
    intro p tried k q hfound
    unfold search at hfound
    split at hfound
    · simp [Outcome.fail] at hfound
    · rename_i c rest hrest
      split at hfound
      · exact ⟨p.after c rest, _, h.one hrest ‹_›, hfound⟩
      · simp [Outcome.fail] at hfound
  | look l =>
    intro p tried k q hfound
    unfold search at hfound
    split at hfound
    · exact ⟨p.pass l, tried, h.look ‹_›, hfound⟩
    · simp [Outcome.fail] at hfound
  | seq a b iha ihb =>
    intro p tried k q hfound
    obtain ⟨r, tried1, hr, h1⟩ := iha _ _ _ _ hfound
    obtain ⟨t, tried2, ht, h2⟩ := ihb _ _ _ _ h1
    exact ⟨t, tried2, h.seq hr ht, h2⟩
  | branch mark a b iha ihb =>
    intro p tried k q hfound
    unfold search at hfound
    split at hfound
    · simp [Outcome.fail] at hfound
    · rcases Outcome.found_orElse hfound with hfound | ⟨tried1, hfound⟩
      · obtain ⟨r, tried2, hr, h2⟩ := iha _ _ _ _ hfound
        exact ⟨r, tried2, h.first hr, h2⟩
      · obtain ⟨r, tried2, hr, h2⟩ := ihb _ _ _ _ hfound
        exact ⟨r, tried2, h.second hr, h2⟩
  | rounds mark greedy a ih =>
    intro p tried k q hfound
    obtain ⟨r, tried1, hr, h1⟩ := ih _ _ _ _ hfound
    obtain ⟨t, tried2, ht, h2⟩ :=
      found_turn ih (h.noRound mark greedy a) (fun _ _ _ => h.round) _ h1
    exact ⟨t, tried2, h.rounds hr ht, h2⟩
  | anyRounds mark greedy a ih =>
    intro p tried k q hfound
    exact found_turn ih (h.noRound mark greedy a) (fun _ _ _ => h.round) _ hfound

theorem Allows.of_searchFrom (h : Allows takes) {a : Pattern} {fine : Bool} {p q : Place}
    (hfound : (a.searchFrom fine p).found = some q) : takes a p q := by
  obtain ⟨r, tried, hr, hq⟩ := h.finds a _ _ _ _ hfound
  cases hq
  exact hr

/-- A match is one that the relation of the pattern allows. -/
theorem Allows.of_matchFrom (h : Allows takes) {a : Pattern} {p q : Place}
    (hfound : a.matchFrom p = some q) : takes a p q := by
  unfold matchFrom at hfound
  split at hfound
  · dsimp only at hfound
    split at hfound
    · exact h.of_searchFrom hfound
    · exact h.of_searchFrom hfound
  · exact h.of_searchFrom hfound

end

/-! ## Places further on -/

/-- A pattern leads so many characters on. -/
theorem allows_forward : Allows fun _ p q => ∃ n, q = p.forward n := by
  have hstay : ∀ p : Place, ∃ n, p = p.forward n := fun _ => ⟨0, rfl⟩
  have htrans : ∀ {p q r : Place}, (∃ m, q = p.forward m) → (∃ n, r = q.forward n) →
      ∃ n, r = p.forward n := by
    rintro p _ _ ⟨m, rfl⟩ ⟨n, rfl⟩
    exact ⟨m + n, (p.forward_add m n).symm⟩
  refine ⟨hstay, ?_, fun _ => hstay _, htrans, id, id, htrans, fun _ _ _ => hstay, htrans⟩
  intro set p c rest hrest _
  exact ⟨1, by rw [Place.forward, hrest]; rfl⟩

end Highlighter.Pattern
