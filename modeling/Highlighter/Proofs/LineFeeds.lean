-- What happens at line feeds. Where no rule takes a line feed, each one is a token by itself, and after
-- it the stream is in the initial state, however deep its stack was.
import Highlighter.Proofs.Coverage
import Highlighter.Proofs.Priorities
import Highlighter.Proofs.Takes

namespace Highlighter

/-! ## Tables that leave line feeds alone -/

/-- At no offset of the text does a rule of the table match a line feed. -/
def Definition.SparesLineFeeds (engine : Engine) (d : Definition) (text : String) : Prop :=
  ∀ s ∈ d.states, ∀ rule ∈ s.rules, ∀ start stop, rule.Matches engine text start stop →
    '\n' ∉ (String.Pos.Raw.extract text ⟨start⟩ ⟨stop⟩).toList

/-- A table whose patterns have no line feed in their sets leaves those of every text alone. -/
theorem Definition.spares_of_mayTake {d : Definition} (h : ∀ s ∈ d.states, ∀ rule ∈ s.rules,
    ∀ pattern ∈ Pattern.read? rule.pattern, pattern.mayTake '\n' = false) (text : String) :
    d.SparesLineFeeds .standard text := by
  rintro s hs rule hrule _ _ ⟨matcher, p, q, hread, hp, rfl, hmatch, rfl⟩ hmem
  obtain ⟨pattern, hpattern, rfl⟩ := Engine.standard_read.1 hread
  obtain ⟨cs, hcs, hall⟩ := (Pattern.takes_of_matchFrom hmatch).spells
  rw [hp.extract_eq hcs, String.toList_ofList] at hmem
  have hset := hall _ hmem
  rw [h s hs rule hrule pattern hpattern] at hset
  cases hset

namespace Stream

variable {engine : Engine} {d : Definition} {l : Lexer} {text : String} {s : Stream} {step : Step}

/-! ## The token at a line feed -/

/-- A winning rule matches the text of its token. -/
theorem Good.matches_of_win (hbuild : Lexer.build engine d = .ok l) (h : Good l text s) {w : Win}
    (hw : s.win? = some w) : ∃ state ∈ d.states, ∃ rule ∈ state.rules,
      rule.Matches engine text s.place.offset w.stop.offset := by
  obtain ⟨ready, _, hready, hwin, hmem⟩ := h.win_spec hw
  obtain ⟨state, hstate, hrules⟩ := exists_of_forall₂ (Lexer.readyAs_of_build hbuild) hready
  obtain ⟨rule, hrule, hsame⟩ := exists_of_forall₂ hrules.rules hmem
  have htakes := (ReadyState.winner?_spec hwin).2
  have hlt := (ReadyRule.takes?_eq_some.1 htakes).2
  exact ⟨state, hstate, rule, hrule, (hsame.matches_iff h.place hlt).2 ⟨_, htakes, rfl⟩⟩

/-- The step makes a token of the line feed at the offset, and leads back to the initial state. -/
structure Resets (l : Lexer) (offset : Nat) (step : Step) : Prop where
  token : step.token = ⟨.text, "\n", offset⟩
  state : l.stateNames.head? = some step.next.state
  depth : step.next.depth = 1
  stack : step.next.stack = .new

theorem Good.resets_fallback (hl : l.Sound) (h : Good l text s) {rest : List Char}
    (hrest : s.place.rest = '\n' :: rest) : Resets l s.place.offset (s.fallback '\n' rest) := by
  obtain ⟨_, _, _, htoken⟩ := fallback_spec s '\n' rest
  have hframes := h.frames_fallback '\n' rest
  rw [if_pos rfl] at hframes
  obtain ⟨hname, hdepth⟩ := (h.fallback hl hrest).initial hframes
  exact ⟨htoken, hname, hdepth, congrArg StateStack.mk hframes⟩

/-- A token that holds a line feed is just that. -/
theorem Good.resets_at (hbuild : Lexer.build engine d = .ok l)
    (hspare : d.SparesLineFeeds engine text) (h : Good l text s) (hstep : s.next? = some step)
    {q : Place} (hq : Place.In text q) {more : List Char} (hrest : q.rest = '\n' :: more)
    (hstart : step.token.start ≤ q.offset)
    (hstop : q.offset < step.token.stop) : Resets l q.offset step := by
  obtain ⟨_, _, _, _, htoken⟩ := h.next?_leads hstep
  rw [htoken] at hstart
  rw [h.stop_eq hstep] at hstop
  obtain ⟨us, hus⟩ := h.place.leads_of_le hq hstart
  rcases h.next?_cases hstep with ⟨w, hw, rfl⟩ | ⟨c, rest, _, hc, rfl⟩
  · -- The winning rule would match the line feed.
    obtain ⟨cs, _, hcs⟩ := win_leads hw
    obtain ⟨state, hstate, rule, hrule, hmatch⟩ := h.matches_of_win hbuild hw
    have hnot := hspare state hstate rule hrule _ _ hmatch
    obtain ⟨after, rfl⟩ := hus.inside hcs hstop hrest
    rw [h.place.extract_eq hcs, String.toList_ofList] at hnot
    simp at hnot
  · -- The one character of the token is the line feed.
    obtain ⟨_, hplace, _⟩ := fallback_spec s c rest
    rw [hplace] at hstop
    obtain ⟨after, hafter⟩ := hus.inside (Place.Leads.after hc) hstop hrest
    cases us with
    | nil =>
      cases hafter
      have hoff : q.offset = s.place.offset := by simpa using hus.offset
      rw [hoff]
      exact h.resets_fallback (Lexer.sound_of_build hbuild) hc
    | cons u us => simp at hafter

/-! ## The law -/

/-- The line feed at the offset is a token by itself, and each run is reset there. -/
structure Recovers (l : Lexer) (text : String) (offset : Nat) : Prop where
  token : ⟨.text, "\n", offset⟩ ∈ l.tokenize text
  resets : ∀ n step, ((start l text).skip n).next? = some step → step.token.start ≤ offset →
    offset < step.token.stop → Resets l offset step

/-- With any engine, in a text where no rule of an accepted table matches a line feed, the stream recovers
at each one. -/
theorem the_stream_recovers_at_line_feeds (hbuild : Lexer.build engine d = .ok l)
    (hspare : d.SparesLineFeeds engine text) {before after : List Char}
    (htext : text.toList = before ++ '\n' :: after) : Recovers l text (String.utf8Len before) := by
  have hl := Lexer.sound_of_build hbuild
  have hgood := good_start hl text
  obtain ⟨q, hq, hrest, hoff, _⟩ := Place.exists_in_of_split htext
  rw [← hoff]
  have hresets : ∀ n step, ((start l text).skip n).next? = some step →
      step.token.start ≤ q.offset → q.offset < step.token.stop → Resets l q.offset step :=
    fun n step hstep hstart hstop =>
      (hgood.skip hl n).resets_at hbuild hspare hstep hq hrest hstart hstop
  have hlt : q.offset < text.utf8ByteSize := by
    have hsize := hq.size_eq
    rw [hrest, String.utf8Len_cons] at hsize
    have hpos := Char.utf8Size_pos '\n'
    omega
  obtain ⟨n, step, hstep, hstart, hstop⟩ := exists_step_at hl hgood (Nat.zero_le _) hlt
  refine ⟨?_, hresets⟩
  rw [← (hresets n step hstep hstart hstop).token]
  exact List.mem_map_of_mem (mem_allSteps hl hgood hstep)

/-- The line feed stands in a string that is not closed. -/
theorem the_stream_recovers_in_a_sample : ∃ l, Lexer.build .standard Lexer.sample = .ok l ∧
    Lexer.sample.SparesLineFeeds .standard "\"é\nb" ∧ Recovers l "\"é\nb" 3 := by
  have hspare : Lexer.sample.SparesLineFeeds .standard "\"é\nb" :=
    Definition.spares_of_mayTake (by decide +kernel) _
  obtain ⟨l, hl⟩ := Lexer.builds_sample
  have htext : "\"é\nb".toList = ['"', 'é'] ++ '\n' :: ['b'] := rfl
  exact ⟨l, hl, hspare, the_stream_recovers_at_line_feeds hl hspare htext⟩

end Stream

end Highlighter
