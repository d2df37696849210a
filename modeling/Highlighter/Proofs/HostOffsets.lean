-- Offsets at the host's side. A range keeps 32 bits of each offset, so the ranges of the tokens of a text
-- lead through it just if its size fits in 32 bits. Merging does not suffer from this: a host that
-- merges the tokens it sees gets the highlights of a text of any size, because tokens lie end to end
-- and no two categories share a name.
import Highlighter.Proofs.CoarsestSpans
import Highlighter.Proofs.HostHandles

namespace Highlighter

/-! ## The offsets of a text -/

section

variable {source : String} {ts : List Token}

theorem Partition.offsets_le (hp : Partition source ts) {t : Token} (ht : t ∈ ts) :
    t.start ≤ source.utf8ByteSize ∧ t.stop ≤ source.utf8ByteSize := by
  have hlast := List.getLast_mem_getLast? (List.ne_nil_of_mem ht)
  have hstop := hp.endToEnd.le_stop hlast ht
  rw [hp.last _ hlast] at hstop
  have hroom := hp.endToEnd.room t ht
  omega

theorem Partition.highlight_offsets_le (hp : Partition source ts) {k : Highlight}
    (hk : k ∈ Highlight.merge ts) :
    k.start ≤ source.utf8ByteSize ∧ k.stop ≤ source.utf8ByteSize := by
  obtain ⟨⟨t, ht, hstart, _⟩, u, hu, hstop⟩ := Highlight.exists_ends hp.endToEnd hk
  rw [← hstart, ← hstop]
  exact ⟨(hp.offsets_le ht).1, (hp.offsets_le hu).2⟩

end

namespace Host

/-! ## Ranges -/

theorem Range.offsets_of (start stop : Nat) :
    (Range.of start stop).offsets = (start % 2 ^ 32, stop % 2 ^ 32) := by
  simp [Range.of, Range.offsets]

theorem Range.offsets_of_lt {start stop : Nat} (hstart : start < 2 ^ 32) (hstop : stop < 2 ^ 32) :
    (Range.of start stop).offsets = (start, stop) := by
  rw [offsets_of, Nat.mod_eq_of_lt hstart, Nat.mod_eq_of_lt hstop]

/-- The ranges of tokens lead from the start of a text to its end, without gaps and overlaps, and each
one selects the text of its token. -/
structure LeadThrough (source : String) (tokens : List Token) : Prop where
  empty : tokens = [] → source = ""
  first : ∀ t ∈ tokens.head?, t.range.offsets.1 = 0
  next : tokens.IsChain fun t u => u.range.offsets.1 = t.range.offsets.2
  last : ∀ t ∈ tokens.getLast?, t.range.offsets.2 = source.utf8ByteSize
  boundary : ∀ t ∈ tokens, String.Pos.Raw.IsValid source ⟨t.range.offsets.1⟩ ∧
    String.Pos.Raw.IsValid source ⟨t.range.offsets.2⟩
  slice : ∀ t ∈ tokens,
    t.text = String.Pos.Raw.extract source ⟨t.range.offsets.1⟩ ⟨t.range.offsets.2⟩

section

variable {source : String} {ts : List Highlighter.Token}

/-- The last range tells the size of the text, so the size fits in 32 bits. -/
theorem LeadThrough.size_lt {tokens : List Token} (h : LeadThrough source tokens) :
    source.utf8ByteSize < 2 ^ 32 := by
  by_cases hne : tokens = []
  · rw [h.empty hne]
    simp
  · rw [← h.last _ (List.getLast_mem_getLast? hne)]
    exact UInt32.toNat_lt _

/-- In a text whose size fits, the ranges of the tokens tell their offsets. -/
theorem leadThrough_of_lt (hp : Partition source ts) (hsize : source.utf8ByteSize < 2 ^ 32) :
    LeadThrough source (ts.map Token.of) := by
  have hrange : ∀ t ∈ ts, (Token.of t).range.offsets = (t.start, t.stop) := by
    intro t ht
    have hle := hp.offsets_le ht
    apply Range.offsets_of_lt
    · omega
    · omega
  refine ⟨?_, ?_, ?_, ?_, ?_, ?_⟩
  · intro hnil
    rwa [List.map_eq_nil_iff, hp.empty] at hnil
  · intro _ hfirst
    rw [List.head?_map, Option.mem_def, Option.map_eq_some_iff] at hfirst
    obtain ⟨t, ht, rfl⟩ := hfirst
    rw [hrange t (List.mem_of_mem_head? ht)]
    exact hp.first t ht
  · rw [List.isChain_map]
    apply hp.next.imp
    intro t u hnext
    simp [Token.of, Range.offsets_of, hnext]
  · intro _ hlast
    rw [List.getLast?_map, Option.mem_def, Option.map_eq_some_iff] at hlast
    obtain ⟨t, ht, rfl⟩ := hlast
    rw [hrange t (List.mem_of_mem_getLast? ht)]
    exact hp.last t ht
  · simp only [List.forall_mem_map]
    intro t ht
    rw [hrange t ht]
    exact hp.boundary t ht
  · simp only [List.forall_mem_map]
    intro t ht
    rw [hrange t ht]
    exact hp.slice t ht

/-! ## Merging -/

namespace Highlight

/-- The span of one token. -/
def ofToken (t : Token) : Highlight := ⟨t.range, t.kind⟩

/-- A token goes on where a span ends, with the same name of its category. -/
def continues (h : Highlight) (t : Token) : Bool :=
  h.kind == t.kind && h.range.stop == t.range.start

/-- The spans of tokens that come after the span `h`, with `h` at their head. -/
def extend (h : Highlight) : List Token → List Highlight
  | [] => [h]
  | t :: ts =>
    if h.continues t then extend ⟨⟨h.range.start, t.range.stop⟩, h.kind⟩ ts
    else h :: extend (ofToken t) ts

/-- The spans that a host makes of the tokens it sees, by joining neighbours. -/
def merge : List Token → List Highlight
  | [] => []
  | t :: ts => extend (ofToken t) ts

variable {h : Highlighter.Highlight} {t : Highlighter.Token}

/-- Where a token starts at the end of a highlight, the two sides agree on whether it goes on. -/
theorem continues_of (hmeet : t.start = h.stop) :
    (Highlight.of h).continues (Token.of t) = h.continues t := by
  rw [Bool.eq_iff_iff]
  simp [continues, Highlighter.Highlight.continues, Highlight.of, Token.of, Range.of,
    Kind.dotted_inj, hmeet]

theorem extend_of (hmeet : ∀ t ∈ ts.head?, t.start = h.stop)
    (hnext : ts.IsChain fun t u => u.start = t.stop) :
    (Highlight.of h).extend (ts.map Token.of) = (h.extend ts).map Highlight.of := by
  induction ts generalizing h with
  | nil => rfl
  | cons t ts ih =>
    have htail : ∀ u ∈ ts.head?, u.start = t.stop := (List.isChain_cons.1 hnext).1
    rw [List.map_cons, extend, Highlighter.Highlight.extend, continues_of (hmeet t rfl)]
    by_cases hgo : h.continues t = true
    · rw [if_pos hgo, if_pos hgo, ← ih htail hnext.tail]
      rfl
    · rw [if_neg hgo, if_neg hgo, List.map_cons, ← ih htail hnext.tail]
      rfl

/-- Hosts may merge tokens that lie end to end. -/
theorem merge_of (hnext : ts.IsChain fun t u => u.start = t.stop) :
    merge (ts.map Token.of) = (Highlighter.Highlight.merge ts).map Highlight.of := by
  cases ts with
  | nil => rfl
  | cons t ts => exact extend_of (h := .ofToken t) (List.isChain_cons.1 hnext).1 hnext.tail

-- Tokens that are apart by a multiple of 2 ^ 32 seem to touch.
example : merge ([⟨.name, "a", 0⟩, ⟨.name, "b", 2 ^ 32 + 1⟩].map Token.of) ≠
    (Highlighter.Highlight.merge [⟨.name, "a", 0⟩, ⟨.name, "b", 2 ^ 32 + 1⟩]).map Highlight.of := by
  decide

end Highlight

end

/-! ## The laws -/

namespace Handle

variable {config? : Option String} {h : Handle}

theorem sound_of_make (hmake : (make config?).1 = .ok h) : h.lexer.Sound := by
  cases hgiven : Config.given config? with
  | error e =>
    rw [make_of_fault hgiven] at hmake
    cases hmake
  | ok c =>
    obtain ⟨l, hl⟩ := Alba.lexer_ok c.keywords
    rw [make_of_given hgiven] at hmake
    cases hstyle : Alba.configuredStyle c with
    | error e =>
      rw [ofConfig_of_error hstyle] at hmake
      cases hmake
    | ok s =>
      rw [ofConfig_of_ok hl hstyle] at hmake
      cases hmake
      exact Lexer.sound_of_build hl

/-- Without a configuration there is a handle. -/
theorem exists_default : ∃ h, (make none).1 = .ok h := by
  obtain ⟨l, hl⟩ := Alba.lexer_ok Config.default.keywords
  obtain ⟨s, hs, _⟩ := Alba.style_ok
  have hstyle : Alba.configuredStyle .default = .ok s := by
    unfold Alba.configuredStyle
    simp only [hs]
    rfl
  refine ⟨⟨l, s⟩, ?_⟩
  rw [make_of_given (c := .default) rfl]
  exact ofConfig_of_ok hl hstyle

/-- The ranges of the tokens that a handle gives lead through the text just if its size fits in 32
bits. If it does, the ranges of the highlights tell their offsets as well. -/
theorem ranges_lead_through_texts_that_fit (hmake : (make config?).1 = .ok h) (source : String) :
    (LeadThrough source (h.tokenize source) ↔ source.utf8ByteSize ≤ 2 ^ 32 - 1) ∧
      (source.utf8ByteSize ≤ 2 ^ 32 - 1 →
        (h.highlight source).map (·.range.offsets) =
          (h.lexer.highlight source).map fun k => (k.start, k.stop)) := by
  have hp := (sound_of_make hmake).partition source
  refine ⟨⟨?_, ?_⟩, ?_⟩
  · intro hlead
    have hsize := hlead.size_lt
    omega
  · intro hsize
    apply leadThrough_of_lt hp
    omega
  · intro hsize
    unfold highlight Lexer.highlight
    rw [List.map_map]
    apply List.map_congr_left
    intro k hk
    have hle := hp.highlight_offsets_le hk
    apply Range.offsets_of_lt
    · omega
    · omega

theorem ranges_lead_through_a_sample : ∃ h, (make none).1 = .ok h ∧
    LeadThrough "if é {- a -}" (h.tokenize "if é {- a -}") ∧
    (h.highlight "if é {- a -}").map (·.range.offsets) =
      (h.lexer.highlight "if é {- a -}").map fun k => (k.start, k.stop) := by
  obtain ⟨h, hmake⟩ := exists_default
  obtain ⟨hlead, hhighlights⟩ := ranges_lead_through_texts_that_fit hmake "if é {- a -}"
  have hsize : "if é {- a -}".utf8ByteSize ≤ 2 ^ 32 - 1 := by decide
  exact ⟨h, hmake, hlead.2 hsize, hhighlights hsize⟩

/-- A host that merges the tokens a handle gives gets the highlights the handle gives, whatever the
size of the text. -/
theorem hosts_may_merge_by_themselves (hmake : (make config?).1 = .ok h) (source : String) :
    h.highlight source = Highlight.merge (h.tokenize source) := by
  have hp := (sound_of_make hmake).partition source
  exact (Highlight.merge_of hp.next).symm

theorem hosts_may_merge_a_sample_by_themselves : ∃ h, (make none).1 = .ok h ∧
    h.highlight "if é {- a -}" = Highlight.merge (h.tokenize "if é {- a -}") := by
  obtain ⟨h, hmake⟩ := exists_default
  exact ⟨h, hmake, hosts_may_merge_by_themselves hmake _⟩

end Handle

end Host

end Highlighter
