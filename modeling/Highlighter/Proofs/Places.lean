-- How the places of one text lie to each other: which text leads from one to the other, and that the
-- offset of a place tells it apart from all others.
import Highlighter.Pattern.Place
import Mathlib.Data.String.Basic

namespace Highlighter

namespace Place

/-! ## The text between two places -/

/-- The text `cs` leads from the place `p` to the place `q`. -/
structure Leads (p : Place) (cs : List Char) (q : Place) : Prop where
  rest : p.rest = cs ++ q.rest
  offset : q.offset = p.offset + String.utf8Len cs
  before : q.before = cs.reverse ++ p.before

namespace Leads

variable {p q r : Place} {cs ds : List Char} {c : Char} {rest : List Char}

theorem refl (p : Place) : p.Leads [] p := ⟨by simp, by simp, by simp⟩

theorem after (h : p.rest = c :: rest) : p.Leads [c] (p.after c rest) :=
  ⟨by simp [h, Place.after], by simp [Place.after], by simp [Place.after]⟩

theorem trans (h1 : p.Leads cs q) (h2 : q.Leads ds r) : p.Leads (cs ++ ds) r := by
  obtain ⟨hrest1, hoff1, hbefore1⟩ := h1
  obtain ⟨hrest2, hoff2, hbefore2⟩ := h2
  refine ⟨?_, ?_, ?_⟩
  · rw [hrest1, hrest2, List.append_assoc]
  · rw [hoff2, hoff1, String.utf8Len_append, Nat.add_assoc]
  · rw [hbefore2, hbefore1, List.reverse_append, List.append_assoc]

/-- The character before a place is the last of the text that leads there. -/
theorem last (h : p.Leads cs q) : q.last = cs.getLast?.or p.last := by
  rw [Place.last, h.before, List.head?_append, List.head?_reverse, Place.last]

/-- The first character of the text between leads to a place on the way. -/
theorem uncons (h : p.Leads (c :: cs) q) : p.rest = c :: (cs ++ q.rest) ∧
    (p.after c (cs ++ q.rest)).Leads cs q := by
  obtain ⟨hrest, hoff, hbefore⟩ := h
  refine ⟨hrest, rfl, ?_, ?_⟩
  · simp only [hoff, String.utf8Len_cons, Place.after]
    omega
  · simp [hbefore, Place.after]

theorem offset_le (h : p.Leads cs q) : p.offset ≤ q.offset := by
  rw [h.offset]
  exact Nat.le_add_right _ _

theorem offset_lt (h : p.Leads cs q) (hne : cs ≠ []) : p.offset < q.offset := by
  have hpos : String.utf8Len cs ≠ 0 := by simpa using hne
  rw [h.offset]
  omega

theorem rest_eq (h : p.Leads cs q) (hrest : p.rest = cs ++ rest) : q.rest = rest :=
  List.append_cancel_left (h.rest.symm.trans hrest)

/-- A place on the way, before the end: the text between holds the next character there. -/
theorem inside (h : p.Leads cs q) (h' : p.Leads ds r) (hlt : q.offset < r.offset)
    (hrest : q.rest = c :: rest) : ∃ more, ds = cs ++ c :: more := by
  have hsplit := h.rest.symm.trans h'.rest
  rw [h.offset, h'.offset] at hlt
  rcases List.append_eq_append_iff.1 hsplit with ⟨us, rfl, hus⟩ | ⟨us, rfl, _⟩
  · rcases us with _ | ⟨d, us⟩
    · simp at hlt
    · rw [hrest] at hus
      cases hus
      exact ⟨us, rfl⟩
  · rw [String.utf8Len_append] at hlt
    omega

/-- The text between two places is the one that leads from the first to the second. -/
theorem textTo_eq (h : p.Leads cs q) : p.textTo q = cs := by
  induction cs generalizing p with
  | nil =>
    have hoff : q.offset = p.offset := by simpa using h.offset
    unfold textTo
    rw [hoff]
    cases p.rest with
    | nil => rfl
    | cons d rest => simp [upTo]
  | cons d ds ih =>
    obtain ⟨hrest, htail⟩ := h.uncons
    have hlt := h.offset_lt (by simp)
    have ih := ih htail
    unfold textTo at ih ⊢
    rw [hrest, upTo, if_pos hlt]
    exact congrArg (d :: ·) ih

/-- A place is found again by its offset. -/
theorem seek_eq (h : p.Leads cs q) : seek? q.offset p.before p.offset p.rest = some q := by
  induction cs generalizing p with
  | nil =>
    obtain ⟨hrest, hoff, hbefore⟩ := h
    have hp : p = q := by
      cases p
      cases q
      simp_all
    subst hp
    cases hr : p.rest <;> simp [seek?, ← hr]
  | cons d ds ih =>
    obtain ⟨hrest, htail⟩ := h.uncons
    have hlt := h.offset_lt (by simp)
    rw [hrest, seek?, if_neg (by omega), if_neg (by omega)]
    exact ih htail

/-- Only a place that the text leads to is found. -/
theorem of_seek? {offset here : Nat} {before : List Char}
    (h : seek? offset before here cs = some q) :
    (∃ ds, Leads ⟨before, cs, here⟩ ds q) ∧ q.offset = offset := by
  induction cs generalizing before here with
  | nil =>
    unfold seek? at h
    split at h
    · cases h
      exact ⟨⟨[], refl _⟩, ‹_›⟩
    · cases h
  | cons d rest ih =>
    unfold seek? at h
    split at h
    · cases h
      exact ⟨⟨[], refl _⟩, ‹_›⟩
    · split at h
      · cases h
      · obtain ⟨⟨ds, hds⟩, hoff⟩ := ih h
        have hfirst : Leads ⟨before, d :: rest, here⟩ [d]
            ⟨d :: before, rest, here + d.utf8Size⟩ := after rfl
        exact ⟨⟨d :: ds, hfirst.trans hds⟩, hoff⟩

/-- A text leads to one place only. -/
theorem forward_eq (h : p.Leads cs q) : p.forward cs.length = q := by
  induction cs generalizing p with
  | nil =>
    obtain ⟨hrest, hoff, hbefore⟩ := h
    cases p
    cases q
    simp_all [Place.forward]
  | cons d ds ih =>
    obtain ⟨hrest, htail⟩ := h.uncons
    rw [List.length_cons, Place.forward, hrest]
    exact ih htail

theorem forward (h : p.rest = cs ++ ds) : p.Leads cs (p.forward cs.length) := by
  induction cs generalizing p with
  | nil => exact refl p
  | cons d cs ih =>
    have hrest : p.rest = d :: (cs ++ ds) := h
    rw [List.length_cons, Place.forward, hrest]
    exact (after hrest).trans (ih rfl)

end Leads

theorem leads_forward (p : Place) (n : Nat) : ∃ cs, p.Leads cs (p.forward n) := by
  induction n generalizing p with
  | zero => exact ⟨[], Leads.refl p⟩
  | succ n ih =>
    rw [Place.forward]
    split
    · exact ⟨[], Leads.refl p⟩
    · rename_i c rest hrest
      obtain ⟨cs, hcs⟩ := ih (p.after c rest)
      exact ⟨c :: cs, (Leads.after hrest).trans hcs⟩

/-! ## The places of a whole text -/

/-- The place lies in the text. -/
def In (text : String) (p : Place) : Prop := ∃ before, (start text.toList).Leads before p

theorem start_in (text : String) : In text (start text.toList) := ⟨[], Leads.refl _⟩

variable {text : String} {p q : Place} {cs : List Char}

theorem In.leads (hp : In text p) (h : p.Leads cs q) : In text q := by
  obtain ⟨before, hb⟩ := hp
  exact ⟨before ++ cs, hb.trans h⟩

/-- What lies before a place and after it make up the text. -/
theorem In.split (hp : In text p) :
    ∃ before, text.toList = before ++ p.rest ∧ p.offset = String.utf8Len before := by
  obtain ⟨before, hb⟩ := hp
  exact ⟨before, hb.rest, by simpa [start] using hb.offset⟩

theorem In.at_eq (hp : In text p) : at? text.toList p.offset = some p := by
  obtain ⟨before, hb⟩ := hp
  exact hb.seek_eq

/-- The places that offsets find are those of the text. -/
theorem at?_eq_some {offset : Nat} :
    at? text.toList offset = some p ↔ In text p ∧ p.offset = offset := by
  constructor
  · exact Leads.of_seek?
  · rintro ⟨hp, rfl⟩
    exact hp.at_eq

theorem In.size_eq (hp : In text p) :
    text.utf8ByteSize = p.offset + String.utf8Len p.rest := by
  obtain ⟨before, htext, hoff⟩ := hp.split
  rw [← String.utf8Len_toList, htext, String.utf8Len_append, hoff]

theorem In.offset_le (hp : In text p) : p.offset ≤ text.utf8ByteSize := by
  rw [hp.size_eq]
  exact Nat.le_add_right _ _

theorem In.isValid (hp : In text p) : String.Pos.Raw.IsValid text ⟨p.offset⟩ := by
  obtain ⟨before, htext, hoff⟩ := hp.split
  rw [String.Pos.Raw.isValid_iff_exists_append]
  refine ⟨String.ofList before, String.ofList p.rest, ?_, ?_⟩
  · rw [← String.ofList_append, ← htext, String.ofList_toList]
  · rw [String.rawEndPos_ofList, hoff]

theorem In.eq_of_offset (hp : In text p) (hq : In text q) (h : p.offset = q.offset) : p = q := by
  have hat := hp.at_eq
  rw [h, hq.at_eq] at hat
  exact (Option.some.inj hat).symm

/-- Of two places in a text, the one with the smaller offset leads to the other. -/
theorem In.leads_of_le (hp : In text p) (hq : In text q) (h : p.offset ≤ q.offset) :
    ∃ cs, p.Leads cs q := by
  obtain ⟨before, hbefore⟩ := hp
  obtain ⟨before', hbefore'⟩ := hq
  have hsplit := hbefore.rest.symm.trans hbefore'.rest
  have hoff := hbefore.offset
  have hoff' := hbefore'.offset
  rcases List.append_eq_append_iff.1 hsplit with ⟨us, rfl, hrest⟩ | ⟨us, rfl, hrest⟩
  · refine ⟨us, hrest, ?_, ?_⟩
    · rw [hoff', hoff, String.utf8Len_append, Nat.add_assoc]
    · rw [hbefore'.before, hbefore.before, List.reverse_append, List.append_assoc]
  · have hnil : us = [] := by
      rw [hoff, hoff', String.utf8Len_append] at h
      have hzero : String.utf8Len us = 0 := by omega
      simpa using hzero
    subst hnil
    rw [List.append_nil] at hbefore
    have hsame : p = q := In.eq_of_offset ⟨_, hbefore⟩ ⟨_, hbefore'⟩ (hoff.trans (by simp [hoff']))
    exact ⟨[], hsame ▸ Leads.refl p⟩

/-- Wherever a text is split there is a place. -/
theorem exists_in_of_split {before rest : List Char} (h : text.toList = before ++ rest) :
    ∃ p, In text p ∧ p.rest = rest ∧ p.offset = String.utf8Len before ∧
      p.last = before.getLast? := by
  have hlead : (start text.toList).Leads before _ := Leads.forward h
  exact ⟨_, ⟨before, hlead⟩, hlead.rest_eq h, by simpa [start] using hlead.offset,
    by simpa using hlead.last⟩

/-- A boundary inside a text splits it before a character. -/
theorem split_of_isValid {pos : Nat} (h : String.Pos.Raw.IsValid text ⟨pos⟩)
    (hpos : pos < text.utf8ByteSize) :
    ∃ before c rest, text.toList = before ++ c :: rest ∧ String.utf8Len before = pos := by
  obtain ⟨a, b, rfl, hoff⟩ := String.Pos.Raw.isValid_iff_exists_append.1 h
  have hsize : a.utf8ByteSize = pos := (congrArg String.Pos.Raw.byteIdx hoff).symm
  rcases hb : b.toList with _ | ⟨c, rest⟩
  · rw [String.utf8ByteSize_append, hsize, ← String.utf8Len_toList (s := b), hb] at hpos
    simp at hpos
  · refine ⟨a.toList, c, rest, ?_, ?_⟩
    · rw [String.toList_append, hb]
    · rw [String.utf8Len_toList, hsize]

/-- The text between two places is the slice of the whole text between their offsets. -/
theorem In.extract_eq (hp : In text p) (h : p.Leads cs q) :
    String.Pos.Raw.extract text ⟨p.offset⟩ ⟨q.offset⟩ = String.ofList cs := by
  obtain ⟨before, htext, hoff⟩ := hp.split
  have hwhole : text = String.ofList (before ++ cs ++ q.rest) := by
    rw [List.append_assoc, ← h.rest, ← htext, String.ofList_toList]
  rw [hwhole, h.offset, hoff]
  exact String.extract_of_valid before cs q.rest

theorem In.get_eq (hp : In text p) :
    String.Pos.Raw.get? text ⟨p.offset⟩ = p.rest.head? := by
  obtain ⟨before, htext, hoff⟩ := hp.split
  have hwhole : text = String.ofList (before ++ p.rest) := by
    rw [← htext, String.ofList_toList]
  rw [hoff, hwhole]
  exact String.get?_of_valid before p.rest

end Place

/-! ## Where a text occurs in another -/

/-- A text occurs in another one at a byte offset. -/
def OccursAt (needle text : String) (i : Nat) : Prop :=
  ∃ before after, text = before ++ needle ++ after ∧ before.utf8ByteSize = i

/-- The occurrence at offset `i` is the first one that starts at or after `start`. -/
structure FirstAt (needle text : String) (start i : Nat) : Prop where
  after : start ≤ i
  occurs : OccursAt needle text i
  first : ∀ j, start ≤ j → OccursAt needle text j → i ≤ j

/-- From a place on, the occurrences are those in the text that follows it. -/
theorem Place.In.occursAt_iff {needle text : String} {p : Place} {i : Nat} (hp : Place.In text p)
    (hi : p.offset ≤ i) : OccursAt needle text i ↔
      ∃ us vs, p.rest = us ++ (needle.toList ++ vs) ∧ i = p.offset + String.utf8Len us := by
  constructor
  · rintro ⟨a, b, rfl, rfl⟩
    have hsplit : (a ++ needle ++ b).toList = a.toList ++ (needle.toList ++ b.toList) := by simp
    obtain ⟨q, hq, hrest, hoff, _⟩ := exists_in_of_split hsplit
    rw [String.utf8Len_toList] at hoff
    obtain ⟨us, hus⟩ := hp.leads_of_le hq (hoff ▸ hi)
    exact ⟨us, b.toList, by rw [hus.rest, hrest], by rw [← hoff, hus.offset]⟩
  · rintro ⟨us, vs, hrest, rfl⟩
    obtain ⟨before, htext, hoff⟩ := hp.split
    refine ⟨String.ofList (before ++ us), String.ofList vs, ?_, ?_⟩
    · rw [← String.toList_inj, htext, hrest]
      simp
    · rw [String.utf8ByteSize_ofList, String.utf8Len_append, hoff]

end Highlighter
