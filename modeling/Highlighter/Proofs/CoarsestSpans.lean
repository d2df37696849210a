-- Highlights are the coarsest spans that tokens make. The tokens fall into groups of neighbours that
-- have one category and touch, each group as long as it can be. There is one such division, and each
-- highlight is one of its groups. So the highlights of a text cover it like its tokens do, and two
-- neighbours never have the same category.
import Highlighter.Proofs.Coverage
import Mathlib.Data.List.Pairwise
import Mathlib.Data.List.SplitBy

namespace Highlighter

/-! ## Divisions -/

/-- The second token has the category of the first and starts where the first stops. -/
def Token.Joins (t u : Token) : Prop := t.kind = u.kind ∧ u.start = t.stop

/-- Consecutive groups of tokens, such that tokens join just if they stand in one group. -/
structure Division (tokens : List Token) (groups : List (List Token)) : Prop where
  whole : groups.flatten = tokens
  nonempty : [] ∉ groups
  joined : ∀ g ∈ groups, g.IsChain Token.Joins
  apart : groups.IsChain fun g g' => ∃ hg hg', ¬ (g.getLast hg).Joins (g'.head hg')

/-- The highlight has the category of the group and reaches from its first token to its last. -/
structure Highlight.Spans (g : List Token) (h : Highlight) : Prop where
  kind : ∀ t ∈ g, t.kind = h.kind
  start : ∀ t ∈ g.head?, t.start = h.start
  stop : ∀ t ∈ g.getLast?, t.stop = h.stop

section

variable {tokens ts g : List Token} {groups other : List (List Token)} {h : Highlight} {t u : Token}

instance (t u : Token) : Decidable (t.Joins u) := inferInstanceAs (Decidable (_ ∧ _))

theorem division_iff :
    Division tokens groups ↔ tokens.splitBy (fun t u => decide (t.Joins u)) = groups := by
  rw [List.splitBy_eq_iff]
  simp only [decide_eq_true_eq, decide_eq_false_iff_not]
  constructor
  · intro hd
    exact ⟨hd.whole.symm, hd.nonempty, hd.joined, hd.apart⟩
  · rintro ⟨hwhole, hnonempty, hjoined, hapart⟩
    exact ⟨hwhole.symm, hnonempty, hjoined, hapart⟩

theorem Division.unique (hd : Division tokens groups) (hother : Division tokens other) :
    other = groups := by
  rw [division_iff] at hd hother
  rw [← hother, hd]

/-- A group of joined tokens in front of a division, whose last token does not join what follows. -/
theorem Division.cons (hd : Division ts groups) (hg : g ≠ []) (hjoined : g.IsChain Token.Joins)
    (hapart : ∀ t ∈ g.getLast?, ∀ u ∈ ts.head?, ¬ t.Joins u) :
    Division (g ++ ts) (g :: groups) := by
  refine ⟨by rw [List.flatten_cons, hd.whole], ?_, ?_, ?_⟩
  · rw [List.mem_cons, not_or]
    exact ⟨Ne.symm hg, hd.nonempty⟩
  · intro g' hg'
    rcases List.mem_cons.1 hg' with rfl | hg'
    · exact hjoined
    · exact hd.joined g' hg'
  · rw [List.isChain_cons]
    refine ⟨?_, hd.apart⟩
    intro g' hg'
    obtain ⟨rest, rfl⟩ : ∃ rest, groups = g' :: rest := ⟨groups.tail, List.eq_cons_of_mem_head? hg'⟩
    have hne : g' ≠ [] := by
      rintro rfl
      exact hd.nonempty List.mem_cons_self
    refine ⟨hg, hne, hapart _ (List.getLast_mem_getLast? hg) _ ?_⟩
    rw [← hd.whole, List.flatten_cons, List.head?_append_of_ne_nil _ hne]
    exact List.head_mem_head? hne

/-! ## Merging -/

theorem Highlight.spans_ofToken (t : Token) : Spans [t] (.ofToken t) := by
  refine ⟨?_, ?_, ?_⟩ <;> intro u hu <;> simp at hu <;> subst hu <;> rfl

/-- A highlight goes on with a token just if the last token of its group joins it. -/
theorem Highlight.Spans.continues_iff (hs : Spans g h) (ht : t ∈ g.getLast?) :
    h.continues u = true ↔ t.Joins u := by
  unfold continues Token.Joins
  rw [Bool.and_eq_true, beq_iff_eq, beq_iff_eq, hs.kind t (List.mem_of_mem_getLast? ht), hs.stop t ht]
  exact and_congr_right fun _ => eq_comm

theorem Highlight.Spans.snoc (hs : Spans g h) (hg : g ≠ []) (hkind : h.kind = t.kind) :
    Spans (g ++ [t]) { h with stop := t.stop } := by
  refine ⟨?_, ?_, ?_⟩
  · intro u hu
    rcases List.mem_append.1 hu with hu | hu
    · exact hs.kind u hu
    · rw [List.mem_singleton.1 hu, hkind]
  · intro u hu
    rw [List.head?_append_of_ne_nil _ hg] at hu
    exact hs.start u hu
  · intro u hu
    rw [List.getLast?_concat] at hu
    cases hu
    rfl

/-- The highlights after a first one, whose group may grow, are the groups of a division. -/
theorem Highlight.Spans.extend (hs : Spans g h) (hg : g ≠ []) (hjoined : g.IsChain Token.Joins)
    (ts : List Token) :
    ∃ groups, Division (g ++ ts) groups ∧ List.Forall₂ Spans groups (h.extend ts) := by
  induction ts generalizing g h with
  | nil =>
    refine ⟨[g], ?_, .cons hs .nil⟩
    have hnil : Division [] [] := ⟨rfl, List.not_mem_nil, by simp, .nil⟩
    exact hnil.cons hg hjoined (by simp)
  | cons t ts ih =>
    have hlast := List.getLast_mem_getLast? hg
    unfold Highlight.extend
    by_cases hnext : h.continues t = true
    · have hjoins := (hs.continues_iff hlast).1 hnext
      have hkind : h.kind = t.kind := by
        rw [← hs.kind _ (List.getLast_mem hg)]
        exact hjoins.1
      have hgrown : (g ++ [t]).IsChain Token.Joins := by
        rw [List.isChain_append]
        refine ⟨hjoined, List.isChain_singleton t, ?_⟩
        intro a ha b hb
        cases hb
        exact (hs.continues_iff ha).1 hnext
      obtain ⟨groups, hd, hspans⟩ := ih (hs.snoc hg hkind) (by simp) hgrown
      rw [if_pos hnext]
      rw [List.append_assoc] at hd
      exact ⟨groups, hd, hspans⟩
    · obtain ⟨groups, hd, hspans⟩ := ih (spans_ofToken t) (by simp) (List.isChain_singleton t)
      rw [if_neg hnext]
      refine ⟨g :: groups, hd.cons hg hjoined ?_, .cons hs hspans⟩
      intro a ha b hb hjoins
      cases hb
      exact hnext ((hs.continues_iff ha).2 hjoins)

/-- The highlights of tokens are the groups of a division. -/
theorem Highlight.exists_division (tokens : List Token) :
    ∃ groups, Division tokens groups ∧ List.Forall₂ Spans groups (merge tokens) := by
  cases tokens with
  | nil => exact ⟨[], ⟨rfl, List.not_mem_nil, by simp, .nil⟩, .nil⟩
  | cons t ts => exact (spans_ofToken t).extend (by simp) (List.isChain_singleton t) ts

end

/-! ## Pieces that lie end to end -/

/-- Each piece takes some room, and the next one starts where it stops. -/
structure EndToEnd {α : Type} (start stop : α → Nat) (xs : List α) : Prop where
  room : ∀ x ∈ xs, start x < stop x
  next : xs.IsChain fun x y => start y = stop x

namespace EndToEnd

variable {α : Type} {start stop : α → Nat} {xs : List α} {x y : α}

theorem tail (h : EndToEnd start stop (x :: xs)) : EndToEnd start stop xs :=
  ⟨fun y hy => h.room y (List.mem_cons_of_mem x hy), h.next.tail⟩

theorem pairwise (h : EndToEnd start stop xs) : xs.Pairwise fun x y => stop x ≤ start y := by
  induction xs with
  | nil => exact .nil
  | cons x xs ih =>
    have hpairs := ih h.tail
    refine .cons ?_ hpairs
    cases xs with
    | nil => simp
    | cons z zs =>
      have hz := (List.isChain_cons_cons.1 h.next).1
      intro y hy
      rcases List.mem_cons.1 hy with rfl | hy
      · omega
      · have hroom := h.room z (by simp)
        have hzy := (List.pairwise_cons.1 hpairs).1 y hy
        omega

theorem start_le (h : EndToEnd start stop xs) (hx : x ∈ xs.head?) (hy : y ∈ xs) :
    start x ≤ start y := by
  obtain ⟨rest, rfl⟩ := List.head?_eq_some_iff.1 hx
  rcases List.mem_cons.1 hy with rfl | hy
  · exact Nat.le_refl _
  · have hroom := h.room x (by simp)
    have hxy := (List.pairwise_cons.1 h.pairwise).1 y hy
    omega

theorem le_stop (h : EndToEnd start stop xs) (hx : x ∈ xs.getLast?) (hy : y ∈ xs) :
    stop y ≤ stop x := by
  obtain ⟨before, rfl⟩ := List.getLast?_eq_some_iff.1 hx
  rcases List.mem_append.1 hy with hy | hy
  · have hroom := h.room x (by simp)
    have hyx := (List.pairwise_append.1 h.pairwise).2.2 y hy x (by simp)
    omega
  · rw [List.mem_singleton.1 hy]

/-- Each place from the start of the first piece to the stop of the last lies in a piece. -/
theorem exists_at (h : EndToEnd start stop xs) {i : Nat} (hfirst : ∀ x ∈ xs.head?, start x ≤ i)
    (hlast : ∃ x ∈ xs.getLast?, i < stop x) : ∃ x ∈ xs, start x ≤ i ∧ i < stop x := by
  induction xs with
  | nil => simp at hlast
  | cons x xs ih =>
    have hx : start x ≤ i := hfirst x rfl
    by_cases hi : i < stop x
    · exact ⟨x, List.mem_cons_self, hx, hi⟩
    · cases xs with
      | nil =>
        obtain ⟨y, hy, hlt⟩ := hlast
        cases hy
        exact absurd hlt hi
      | cons z zs =>
        have hz := (List.isChain_cons_cons.1 h.next).1
        rw [List.getLast?_cons_cons] at hlast
        obtain ⟨y, hy, hyi⟩ := ih h.tail (by rintro y ⟨⟩; omega) hlast
        exact ⟨y, List.mem_cons_of_mem x hy, hyi⟩

/-- No place lies in two pieces. -/
theorem eq_of_overlap (h : EndToEnd start stop xs) (hx : x ∈ xs) (hy : y ∈ xs) {i : Nat}
    (hxi : start x ≤ i ∧ i < stop x) (hyi : start y ≤ i ∧ i < stop y) : x = y := by
  by_contra hne
  have hall := List.pairwise_iff_getElem.1 h.pairwise
  obtain ⟨m, hm, rfl⟩ := List.getElem_of_mem hx
  obtain ⟨n, hn, rfl⟩ := List.getElem_of_mem hy
  rcases Nat.lt_trichotomy m n with hmn | rfl | hnm
  · have := hall m n hm hn hmn
    omega
  · exact hne rfl
  · have := hall n m hn hm hnm
    omega

end EndToEnd

/-! ## The highlights of a text -/

/-- The highlights of the tokens of a text. -/
structure Highlighted (text : String) (tokens : List Token) (highlights : List Highlight) :
    Prop where
  room : ∀ h ∈ highlights, h.start < h.stop
  first : ∀ h ∈ highlights.head?, h.start = 0
  next : highlights.IsChain fun h k => k.start = h.stop ∧ k.kind ≠ h.kind
  last : ∀ h ∈ highlights.getLast?, h.stop = text.utf8ByteSize
  empty : highlights = [] ↔ text = ""
  /-- Each byte lies in a highlight and in a token. -/
  covered : ∀ i < text.utf8ByteSize, (∃ h ∈ highlights, h.start ≤ i ∧ i < h.stop) ∧
    ∃ t ∈ tokens, t.start ≤ i ∧ i < t.stop
  /-- A highlight and a token that have a byte in common have one category. -/
  kind : ∀ h ∈ highlights, ∀ t ∈ tokens, ∀ i, h.start ≤ i → i < h.stop → t.start ≤ i →
    i < t.stop → h.kind = t.kind

section

variable {text : String} {tokens g : List Token} {groups : List (List Token)}
  {highlights : List Highlight} {h : Highlight} {t : Token}

theorem Partition.endToEnd (hp : Partition text tokens) :
    EndToEnd Token.start Token.stop tokens := by
  refine ⟨fun t ht => ?_, hp.next⟩
  have hne := hp.nonempty t ht
  have hpos : t.text.utf8ByteSize ≠ 0 := by simpa using hne
  unfold Token.stop
  omega

theorem isChain_of_forall₂ {α β : Type} {R : α → β → Prop} {S : α → α → Prop} {T : β → β → Prop}
    {xs : List α} {ys : List β} (h : List.Forall₂ R xs ys) (hxs : xs.IsChain S)
    (hstep : ∀ x x' y y', R x y → R x' y' → S x x' → T y y') : ys.IsChain T := by
  induction h with
  | nil => exact .nil
  | cons hr htail ih =>
    have hys := ih hxs.tail
    cases htail with
    | nil => exact .singleton _
    | cons hr' _ =>
      rw [List.isChain_cons_cons] at hxs
      exact .cons_cons (hstep _ _ _ _ hr hr' hxs.1) hys

/-- Each token lies in the highlight of its group. -/
theorem Highlight.Spans.within (hs : Spans g h) (hg : EndToEnd Token.start Token.stop g)
    (ht : t ∈ g) : h.start ≤ t.start ∧ t.stop ≤ h.stop := by
  have hne := List.ne_nil_of_mem ht
  have hfirst := List.head_mem_head? hne
  have hlast := List.getLast_mem_getLast? hne
  rw [← hs.start _ hfirst, ← hs.stop _ hlast]
  exact ⟨hg.start_le hfirst ht, hg.le_stop hlast ht⟩

theorem Division.endToEnd (hd : Division tokens groups)
    (ht : EndToEnd Token.start Token.stop tokens) :
    (∀ g ∈ groups, EndToEnd Token.start Token.stop g) ∧
      groups.IsChain fun g g' => ∀ t ∈ g.getLast?, ∀ u ∈ g'.head?, u.start = t.stop := by
  have hchain := ht.next
  rw [← hd.whole, List.isChain_flatten hd.nonempty] at hchain
  refine ⟨fun g hg => ⟨fun t htg => ?_, hchain.1 g hg⟩, hchain.2⟩
  apply ht.room
  rw [← hd.whole]
  exact List.mem_flatten.2 ⟨g, hg, htg⟩

/-- Where tokens lie end to end, neighbours that do not join differ in their category. -/
theorem Division.differ (hd : Division tokens groups)
    (ht : EndToEnd Token.start Token.stop tokens) :
    groups.IsChain fun g g' => ∃ t ∈ g.getLast?, ∃ u ∈ g'.head?,
      u.start = t.stop ∧ u.kind ≠ t.kind := by
  have hmeet := List.isChain_iff_getElem.1 (hd.endToEnd ht).2
  have hapart := List.isChain_iff_getElem.1 hd.apart
  rw [List.isChain_iff_getElem]
  intro i hi
  obtain ⟨hg, hg', hnot⟩ := hapart i hi
  have hlast := List.getLast_mem_getLast? hg
  have hfirst := List.head_mem_head? hg'
  have hstart := hmeet i hi _ hlast _ hfirst
  exact ⟨_, hlast, _, hfirst, hstart, fun hkind => hnot ⟨hkind.symm, hstart⟩⟩

theorem Highlight.isChain_merge (ht : EndToEnd Token.start Token.stop tokens) :
    (merge tokens).IsChain fun h k => k.start = h.stop ∧ k.kind ≠ h.kind := by
  obtain ⟨groups, hd, hspans⟩ := exists_division tokens
  apply isChain_of_forall₂ hspans (hd.differ ht)
  rintro g g' h k hh hk ⟨t, htg, u, hug, hstart, hkind⟩
  rw [← hk.start u hug, ← hh.stop t htg, ← hk.kind u (List.mem_of_mem_head? hug),
    ← hh.kind t (List.mem_of_mem_getLast? htg)]
  exact ⟨hstart, hkind⟩

/-- Each token lies in a highlight of its category. -/
theorem Highlight.exists_of_token (ht : EndToEnd Token.start Token.stop tokens) (hmem : t ∈ tokens) :
    ∃ h ∈ merge tokens, h.start ≤ t.start ∧ t.stop ≤ h.stop ∧ h.kind = t.kind := by
  obtain ⟨groups, hd, hspans⟩ := exists_division tokens
  rw [← hd.whole] at hmem
  obtain ⟨g, hg, htg⟩ := List.mem_flatten.1 hmem
  obtain ⟨h, hh, hs⟩ := exists_of_forall₂ (List.Forall₂.flip hspans) hg
  obtain ⟨hstart, hstop⟩ := hs.within ((hd.endToEnd ht).1 g hg) htg
  exact ⟨h, hh, hstart, hstop, (hs.kind t htg).symm⟩

/-- Each highlight reaches from the start of a token to the stop of one. -/
theorem Highlight.exists_ends (ht : EndToEnd Token.start Token.stop tokens)
    (hmem : h ∈ merge tokens) :
    (∃ t ∈ tokens, t.start = h.start ∧ t.stop ≤ h.stop) ∧ ∃ u ∈ tokens, u.stop = h.stop := by
  obtain ⟨groups, hd, hspans⟩ := exists_division tokens
  obtain ⟨g, hg, hs⟩ := exists_of_forall₂ hspans hmem
  have hne : g ≠ [] := by
    rintro rfl
    exact hd.nonempty hg
  have hsub : ∀ t ∈ g, t ∈ tokens := by
    intro t htg
    rw [← hd.whole]
    exact List.mem_flatten.2 ⟨g, hg, htg⟩
  have hfirst := List.head_mem hne
  have hlast := List.getLast_mem hne
  refine ⟨⟨_, hsub _ hfirst, hs.start _ (List.head_mem_head? hne), ?_⟩,
    ⟨_, hsub _ hlast, hs.stop _ (List.getLast_mem_getLast? hne)⟩⟩
  exact (hs.within ((hd.endToEnd ht).1 g hg) hfirst).2

theorem Highlight.endToEnd_merge (ht : EndToEnd Token.start Token.stop tokens) :
    EndToEnd Highlight.start Highlight.stop (merge tokens) := by
  refine ⟨fun h hmem => ?_, (isChain_merge ht).imp fun _ _ hnext => hnext.1⟩
  obtain ⟨⟨t, htmem, hstart, hstop⟩, _⟩ := exists_ends ht hmem
  have hroom := ht.room t htmem
  omega

theorem Partition.exists_at (hp : Partition text tokens) {i : Nat} (hi : i < text.utf8ByteSize) :
    ∃ t ∈ tokens, t.start ≤ i ∧ i < t.stop := by
  apply hp.endToEnd.exists_at
  · intro t ht
    rw [hp.first t ht]
    exact Nat.zero_le i
  · have hne : tokens ≠ [] := by
      intro hnil
      rw [hp.empty.1 hnil] at hi
      exact absurd hi (Nat.not_lt_zero i)
    have hlast := List.getLast_mem_getLast? hne
    refine ⟨_, hlast, ?_⟩
    rwa [hp.last _ hlast]

/-- Tokens that cut a text into pieces make highlights that do. -/
theorem Partition.highlighted (hp : Partition text tokens) :
    Highlighted text tokens (Highlight.merge tokens) := by
  have htokens := hp.endToEnd
  have hspans := Highlight.endToEnd_merge htokens
  refine ⟨hspans.room, ?_, Highlight.isChain_merge htokens, ?_, ?_, ?_, ?_⟩
  · intro h hh
    obtain ⟨⟨t, ht, _⟩, _⟩ := Highlight.exists_ends htokens (List.mem_of_mem_head? hh)
    have hfirst := List.head_mem_head? (List.ne_nil_of_mem ht)
    obtain ⟨k, hk, hstart, _⟩ := Highlight.exists_of_token htokens (List.mem_of_mem_head? hfirst)
    have hle := hspans.start_le hh hk
    have hzero := hp.first _ hfirst
    omega
  · intro h hh
    obtain ⟨_, u, hu, hstop⟩ := Highlight.exists_ends htokens (List.mem_of_mem_getLast? hh)
    have hlast := List.getLast_mem_getLast? (List.ne_nil_of_mem hu)
    obtain ⟨k, hk, _, hkstop, _⟩ :=
      Highlight.exists_of_token htokens (List.mem_of_mem_getLast? hlast)
    have hle := hspans.le_stop hh hk
    have hle' := htokens.le_stop hlast hu
    have hsize := hp.last _ hlast
    omega
  · rw [← hp.empty]
    constructor
    · intro hnil
      by_contra hne
      obtain ⟨h, hh, _⟩ := Highlight.exists_of_token htokens (List.head_mem hne)
      rw [hnil] at hh
      cases hh
    · rintro rfl
      rfl
  · intro i hi
    obtain ⟨t, ht, hti⟩ := hp.exists_at hi
    obtain ⟨h, hh, hstart, hstop, _⟩ := Highlight.exists_of_token htokens ht
    exact ⟨⟨h, hh, by omega, by omega⟩, ⟨t, ht, hti⟩⟩
  · intro h hh t ht i hstart hstop htstart htstop
    obtain ⟨k, hk, hkstart, hkstop, hkind⟩ := Highlight.exists_of_token htokens ht
    -- The highlight of the token has the byte too, so it is this one.
    rw [hspans.eq_of_overlap hh hk ⟨hstart, hstop⟩ ⟨by omega, by omega⟩, hkind]

end

/-! ## The law -/

/-- Any tokens have one division, and the highlights are its groups. With any engine and any accepted
rule table, the highlights of a text reach over all of it, neighbours differ in their category, and each
byte has that of its token. -/
theorem highlights_are_the_coarsest_spans :
    (∀ tokens, ∃ groups, Division tokens groups ∧
      (∀ other, Division tokens other → other = groups) ∧
      List.Forall₂ Highlight.Spans groups (Highlight.merge tokens)) ∧
    ∀ engine d l text, Lexer.build engine d = .ok l →
      Highlighted text (l.tokenize text) (l.highlight text) := by
  constructor
  · intro tokens
    obtain ⟨groups, hd, hspans⟩ := Highlight.exists_division tokens
    exact ⟨groups, hd, fun other hother => hd.unique hother, hspans⟩
  · intro engine d l text hbuild
    exact ((Lexer.sound_of_build hbuild).partition text).highlighted

/-- An empty token touches the one before it, and the last token stands after a gap. -/
def sampleTokens : List Token := [⟨.name, "a", 0⟩, ⟨.name, "", 1⟩, ⟨.name, "b", 2⟩]

theorem sample_highlights_are_the_coarsest_spans :
    List.Forall₂ Highlight.Spans [sampleTokens.take 2, sampleTokens.drop 2]
        (Highlight.merge sampleTokens) ∧
      ∃ l, Lexer.build .standard Lexer.sample = .ok l ∧
        Highlighted "a \"é\" \"b\nc" (l.tokenize "a \"é\" \"b\nc")
          (l.highlight "a \"é\" \"b\nc") := by
  have hd : Division sampleTokens [sampleTokens.take 2, sampleTokens.drop 2] := by
    rw [division_iff]
    decide +kernel
  obtain ⟨hdivision, hlexer⟩ := highlights_are_the_coarsest_spans
  obtain ⟨groups, _, hunique, hspans⟩ := hdivision sampleTokens
  obtain ⟨l, hl⟩ := Lexer.builds_sample
  rw [hunique _ hd]
  exact ⟨hspans, l, hl, hlexer _ _ l _ hl⟩

end Highlighter
