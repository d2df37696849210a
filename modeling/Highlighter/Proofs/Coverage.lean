-- The tokens of a text cover it from its start to its end, without gaps and overlaps, whatever the rule
-- table says. Each token takes at least one character, so the stream ends.
import Highlighter.Proofs.Runs
import Mathlib.Data.List.Chain

namespace Highlighter

/-! ## What it means to cover a text -/

/-- The tokens cut the text into pieces. -/
structure Partition (text : String) (tokens : List Token) : Prop where
  nonempty : ∀ t ∈ tokens, t.text ≠ ""
  /-- A token holds the text between its offsets. -/
  slice : ∀ t ∈ tokens, t.text = String.Pos.Raw.extract text ⟨t.start⟩ ⟨t.stop⟩
  /-- A token starts and stops between two characters. -/
  boundary : ∀ t ∈ tokens,
    String.Pos.Raw.IsValid text ⟨t.start⟩ ∧ String.Pos.Raw.IsValid text ⟨t.stop⟩
  first : ∀ t ∈ tokens.head?, t.start = 0
  next : tokens.IsChain fun t u => u.start = t.stop
  last : ∀ t ∈ tokens.getLast?, t.stop = text.utf8ByteSize
  join : String.join (tokens.map (·.text)) = text
  empty : tokens = [] ↔ text = ""
  count : tokens.length ≤ text.length

/-- Tokens that lead from one place to another: each starts where the one before it stops. -/
inductive Tiles : Place → List Token → Place → Prop where
  | nil (p : Place) : Tiles p [] p
  | cons {p q r : Place} {cs : List Char} {t : Token} {ts : List Token} (hne : cs ≠ [])
    (hlead : p.Leads cs q) (htext : t.text = String.ofList cs) (hstart : t.start = p.offset)
    (htail : Tiles q ts r) : Tiles p (t :: ts) r

namespace Tiles

variable {p r : Place} {ts : List Token}

/-- The texts of the tokens are the text between the two places, with a character for each token at
least. -/
theorem leads (h : Tiles p ts r) :
    ∃ cs, p.Leads cs r ∧ String.join (ts.map (·.text)) = String.ofList cs ∧
      ts.length ≤ cs.length := by
  induction h with
  | nil p => exact ⟨[], Place.Leads.refl p, by simp, by simp⟩
  | @cons p q r cs t ts hne hlead htext _ _ ih =>
    obtain ⟨ds, hds, hjoin, hcount⟩ := ih
    refine ⟨cs ++ ds, hlead.trans hds, ?_, ?_⟩
    · rw [List.map_cons, String.join_cons, htext, hjoin, String.ofList_append]
    · have hpos := List.length_pos_iff.2 hne
      rw [List.length_append, List.length_cons]
      omega

theorem mem {text : String} (h : Tiles p ts r) (hp : Place.In text p) : ∀ t ∈ ts,
    t.text ≠ "" ∧ t.text = String.Pos.Raw.extract text ⟨t.start⟩ ⟨t.stop⟩ ∧
      String.Pos.Raw.IsValid text ⟨t.start⟩ ∧ String.Pos.Raw.IsValid text ⟨t.stop⟩ := by
  induction h with
  | nil p => simp
  | @cons p q r cs t ts hne hlead htext hstart _ ih =>
    intro u hu
    have hq := hp.leads hlead
    rcases List.mem_cons.1 hu with rfl | hu
    · rw [Token.stop_eq hlead htext hstart, hstart]
      refine ⟨?_, ?_, hp.isValid, hq.isValid⟩
      · rw [htext]
        simpa using hne
      · rw [htext, hp.extract_eq hlead]
    · exact ih hq u hu

theorem head (h : Tiles p ts r) : ∀ t ∈ ts.head?, t.start = p.offset := by
  intro t ht
  cases h with
  | nil => cases ht
  | cons _ _ _ hstart _ =>
    cases ht
    exact hstart

theorem chain (h : Tiles p ts r) : ts.IsChain fun t u => u.start = t.stop := by
  induction h with
  | nil => exact .nil
  | @cons p q r cs t ts _ hlead htext hstart htail ih =>
    refine List.isChain_cons.2 ⟨?_, ih⟩
    intro u hu
    rw [htail.head u hu, Token.stop_eq hlead htext hstart]

theorem last (h : Tiles p ts r) : ∀ t ∈ ts.getLast?, t.stop = r.offset := by
  induction h with
  | nil => simp
  | @cons p q r cs t ts _ hlead htext hstart htail ih =>
    intro u hu
    rcases ts with _ | ⟨v, vs⟩
    · cases htail
      cases hu
      exact Token.stop_eq hlead htext hstart
    · rw [List.getLast?_cons_cons] at hu
      exact ih u hu

end Tiles

/-! ## The tokens of a run -/

namespace Stream

variable {l : Lexer} {text : String} {s : Stream}

theorem tiles_steps (hl : l.Sound) (h : Good l text s) (n : Nat) :
    Tiles s.place ((s.steps n).map (·.token)) (s.skip n).place := by
  induction n generalizing s with
  | zero => exact .nil _
  | succ n ih =>
    rcases hn : s.next? with _ | step
    · rw [steps_of_end _ hn, skip_of_end _ hn]
      exact .nil _
    · rw [steps_of_next? _ hn, skip_of_next? _ hn]
      obtain ⟨cs, hne, hcs, htext, hstart⟩ := h.next?_leads hn
      exact .cons hne hcs htext hstart (ih (h.next hl hn))

/-- As many steps as characters are left lead to the end of the text. -/
theorem skip_to_end (hl : l.Sound) (h : Good l text s) {n : Nat} (hn : s.place.rest.length ≤ n) :
    (s.skip n).place.rest = [] := by
  induction n generalizing s with
  | zero => exact List.eq_nil_of_length_eq_zero (Nat.le_zero.1 hn)
  | succ n ih =>
    rcases hnext : s.next? with _ | step
    · rw [skip_of_end _ hnext]
      exact next?_eq_none.1 hnext
    · rw [skip_of_next? _ hnext]
      obtain ⟨cs, hne, hcs, _⟩ := h.next?_leads hnext
      have hpos := List.length_pos_iff.2 hne
      have hlength := congrArg List.length hcs.rest
      rw [List.length_append] at hlength
      exact ih (h.next hl hnext) (by omega)

theorem skip_length_steps (s : Stream) (n : Nat) : s.skip (s.steps n).length = s.skip n := by
  induction n generalizing s with
  | zero => rfl
  | succ n ih =>
    rcases hn : s.next? with _ | step
    · rw [steps_of_end _ hn, skip_of_end _ hn, skip_of_end _ hn]
    · rw [steps_of_next? _ hn, List.length_cons, skip_of_next? _ hn, skip_of_next? _ hn, ih]

/-- What two tokens of steps in a row are to each other, all neighbours of a run are. -/
theorem isChain_steps {P : Stream → Prop} {R : Token → Token → Prop}
    (hkeep : ∀ t step, P t → t.next? = some step → P step.next)
    (hnext : ∀ t a b, P t → t.next? = some a → a.next.next? = some b → R a.token b.token)
    (hs : P s) (n : Nat) : ((s.steps n).map (·.token)).IsChain R := by
  induction n generalizing s with
  | zero => exact .nil
  | succ n ih =>
    rcases ha : s.next? with _ | a
    · rw [steps_of_end _ ha]
      exact .nil
    · rw [steps_of_next? _ ha, List.map_cons, List.isChain_cons]
      refine ⟨fun u hu => ?_, ih (hkeep s a hs ha)⟩
      cases n with
      | zero => cases hu
      | succ n =>
        rcases hb : a.next.next? with _ | b
        · rw [steps_of_end _ hb] at hu
          cases hu
        · rw [steps_of_next? _ hb] at hu
          cases hu
          exact hnext s a b hs ha hb

/-- Once a run ends, its steps are all that there are. -/
theorem steps_eq_take {m : Nat} (h : (s.skip m).next? = none) (n : Nat) :
    s.steps n = (s.steps m).take n := by
  induction m generalizing s n with
  | zero =>
    rw [skip] at h
    rw [steps_of_end _ h, steps_of_end _ h, List.take_nil]
  | succ m ih =>
    rcases hn : s.next? with _ | step
    · rw [steps_of_end _ hn, steps_of_end _ hn, List.take_nil]
    · rw [skip_of_next? _ hn] at h
      rw [steps_of_next? _ hn]
      cases n with
      | zero => rfl
      | succ n => rw [steps_of_next? _ hn, List.take_succ_cons, ih h]

theorem steps_eq_take_tokens (hl : l.Sound) (h : Good l text s) (n : Nat) :
    (s.steps n).map (·.token) = s.tokens.take n := by
  have hend := next?_eq_none.2 (skip_to_end hl h (Nat.le_refl _))
  rw [steps_eq_take hend, List.map_take]
  rfl

/-- Before the last token the text is not at its end. -/
theorem rest_ne_nil (s : Stream) {n : Nat} (hn : n < s.tokens.length) :
    (s.skip n).place.rest ≠ [] := by
  intro hend
  have hsteps := steps_eq_take (next?_eq_none.2 hend) s.place.rest.length
  have hle := length_steps_le s n
  have htokens : s.tokens.length = _ := (List.length_map _).trans (congrArg List.length hsteps)
  rw [List.length_take] at htokens
  omega

/-- Each step of a run is one of its steps to come. -/
theorem mem_allSteps (hl : l.Sound) (h : Good l text s) {n : Nat} {step : Step}
    (hstep : (s.skip n).next? = some step) : step ∈ s.allSteps := by
  have hend := next?_eq_none.2 (skip_to_end hl h (Nat.le_refl _))
  have hmem := mem_steps_of_next? hstep
  rw [steps_eq_take hend] at hmem
  exact List.mem_of_mem_take hmem

theorem stop_le_start (hl : l.Sound) (h : Good l text s) {m n : Nat} {a b : Step} (hmn : m < n)
    (ha : (s.skip m).next? = some a) (hb : (s.skip n).next? = some b) :
    a.token.stop ≤ b.token.start := by
  have hgood := h.skip hl
  obtain ⟨k, rfl⟩ := Nat.exists_eq_add_of_lt hmn
  obtain ⟨_, _, _, _, hstart⟩ := (hgood _).next?_leads hb
  rw [(hgood m).stop_eq ha, ← skip_succ m ha, hstart, Nat.add_right_comm, skip_add (m + 1) k]
  exact (hgood (m + 1)).offset_le_skip hl k

/-- Tokens of different steps have no byte in common. -/
theorem eq_of_overlap (hl : l.Sound) (h : Good l text s) {m n : Nat} {a b : Step}
    (ha : (s.skip m).next? = some a) (hb : (s.skip n).next? = some b)
    (hab : a.token.start < b.token.stop) (hba : b.token.start < a.token.stop) : a = b := by
  rcases Nat.lt_trichotomy m n with hmn | rfl | hnm
  · exact absurd (stop_le_start hl h hmn ha hb) (Nat.not_le_of_lt hba)
  · exact Option.some.inj (ha.symm.trans hb)
  · exact absurd (stop_le_start hl h hnm hb ha) (Nat.not_le_of_lt hab)

/-- Each byte that is left lies in a token to come. -/
theorem exists_step_at (hl : l.Sound) (h : Good l text s) {i : Nat} (hi : s.place.offset ≤ i)
    (hlt : i < text.utf8ByteSize) :
    ∃ n step, (s.skip n).next? = some step ∧ step.token.start ≤ i ∧ i < step.token.stop := by
  by_contra hnone
  have hle : ∀ n, (s.skip n).place.offset ≤ i := by
    intro n
    induction n with
    | zero => exact hi
    | succ n ih =>
      rcases hn : (s.skip n).next? with _ | step
      · rw [skip_add, skip_of_end 1 hn]
        exact ih
      · have hgood := h.skip hl n
        obtain ⟨_, _, _, _, hstart⟩ := hgood.next?_leads hn
        rw [skip_succ n hn, ← hgood.stop_eq hn]
        by_contra hgt
        exact hnone ⟨n, step, hn, hstart ▸ ih, Nat.lt_of_not_le hgt⟩
  have hsize := (h.skip hl s.place.rest.length).place.size_eq
  rw [skip_to_end hl h (Nat.le_refl _), String.utf8Len_nil] at hsize
  have hlast := hle s.place.rest.length
  omega

end Stream

/-! ## The tokens of a text -/

theorem partition_of_tiles {text : String} {ts : List Token} {r : Place}
    (h : Tiles (Place.start text.toList) ts r) (hend : r.rest = []) : Partition text ts := by
  have hmem := h.mem (Place.start_in text)
  obtain ⟨cs, hcs, hjoin, hcount⟩ := h.leads
  have hwhole : text.toList = cs := by simpa [Place.start, hend] using hcs.rest
  have htext : String.join (ts.map (·.text)) = text := by
    rw [hjoin, ← hwhole, String.ofList_toList]
  have hlast : r.offset = text.utf8ByteSize := by
    rw [hcs.offset, ← hwhole, String.utf8Len_toList]
    simp [Place.start]
  refine ⟨fun t ht => (hmem t ht).1, fun t ht => (hmem t ht).2.1, fun t ht => (hmem t ht).2.2,
    h.head, h.chain, fun t ht => (h.last t ht).trans hlast, htext, ?_, ?_⟩
  · constructor
    · rintro rfl
      simpa using htext.symm
    · rintro rfl
      have hnil : cs = [] := by simpa using hwhole.symm
      rw [hnil] at hcount
      exact List.eq_nil_of_length_eq_zero (Nat.le_zero.1 hcount)
  · rw [← String.length_toList, hwhole]
    exact hcount

theorem Lexer.Sound.partition {l : Lexer} (hl : l.Sound) (text : String) :
    Partition text (l.tokenize text) := by
  have hgood := Stream.good_start hl text
  have hend := Stream.skip_to_end hl hgood (Nat.le_refl _)
  exact partition_of_tiles (Stream.tiles_steps hl hgood _) hend

/-- With any engine, the stream of an accepted rule table ends, and its tokens cut the text into pieces:
`n` calls give the first `n` of them, and after the last one there is none. -/
theorem tokens_cover_the_text {engine : Engine} {d : Definition} {l : Lexer}
    (h : Lexer.build engine d = .ok l) (text : String) : Partition text (l.tokenize text) ∧
      (∀ n, ((Stream.start l text).steps n).map (·.token) = (l.tokenize text).take n) ∧
      ((Stream.start l text).skip (l.tokenize text).length).next? = none := by
  have hl := Lexer.sound_of_build h
  have hgood := Stream.good_start hl text
  have hend := Stream.skip_to_end hl hgood (Nat.le_refl _)
  have hnone := Stream.next?_eq_none.2 hend
  refine ⟨partition_of_tiles (Stream.tiles_steps hl hgood _) hend, ?_, ?_⟩
  · intro n
    rw [Stream.steps_eq_take hnone n, List.map_take]
    rfl
  · unfold Lexer.tokenize Stream.tokens Stream.allSteps
    rw [List.length_map, Stream.skip_length_steps]
    exact hnone

theorem tokens_cover_a_sample : ∃ l, Lexer.build .standard Lexer.sample = .ok l ∧
    Partition "a \"é\" \"b\nc" (l.tokenize "a \"é\" \"b\nc") ∧
    ((Stream.start l "a \"é\" \"b\nc").skip (l.tokenize "a \"é\" \"b\nc").length).next? = none := by
  obtain ⟨l, hl⟩ := Lexer.builds_sample
  obtain ⟨hpartition, _, hnone⟩ := tokens_cover_the_text hl "a \"é\" \"b\nc"
  exact ⟨l, hl, hpartition, hnone⟩

end Highlighter
