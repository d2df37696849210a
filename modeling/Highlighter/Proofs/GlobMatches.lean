-- What a glob matches, said without the rows: the text falls into one piece for each token, in their
-- order. The row of a token is right about every later part of the text at once if the row of the
-- tokens after it is, so the rows are right from the last token to the first.
import Highlighter.Registry.Glob
import Mathlib.Data.List.Basic

namespace Highlighter

/-! ## What tokens take -/

/-- The character lies in one of the spans. -/
def Glob.InSpans (spans : List (Char × Char)) (c : Char) : Prop :=
  ∃ span ∈ spans, span.1 ≤ c ∧ c ≤ span.2

/-- The token can take the first part of a text, with the second part left. -/
inductive GlobToken.Takes : GlobToken → List Char → List Char → Prop where
  | char {c : Char} {rest : List Char} : Takes (.char c) [c] rest
  | anyChar {c : Char} {rest : List Char} : Takes .anyChar [c] rest
  | inSet {spans : List (Char × Char)} {c : Char} {rest : List Char} :
      Glob.InSpans spans c → Takes (.set false spans) [c] rest
  | notInSet {spans : List (Char × Char)} {c : Char} {rest : List Char} :
      ¬ Glob.InSpans spans c → Takes (.set true spans) [c] rest
  | anyText {taken rest : List Char} : Takes .anyText taken rest
  | noComponents {rest : List Char} : Takes .anyComponents [] rest
  | components {taken rest : List Char} : Takes .anyComponents (taken ++ ['/']) rest
  /-- At the end of a text the last component has no separator after it. -/
  | allComponents {taken : List Char} : Takes .anyComponents taken []

namespace Glob

/-- The tokens match a text: each takes its piece, and nothing is left. -/
inductive Matches : List GlobToken → List Char → Prop where
  | nil : Matches [] []
  | cons {token : GlobToken} {tokens : List GlobToken} {taken rest : List Char} :
      token.Takes taken rest → Matches tokens rest → Matches (token :: tokens) (taken ++ rest)

section

variable {P Q : List Char → Prop} {token : GlobToken} {tokens : List GlobToken} {c : Char}
  {cs : List Char} {row : List Bool}

theorem matches_nil_iff : Matches [] cs ↔ cs = [] := by
  constructor
  · rintro ⟨⟩
    rfl
  · rintro rfl
    exact .nil

theorem matches_cons_iff : Matches (token :: tokens) cs ↔
    ∃ taken rest, cs = taken ++ rest ∧ token.Takes taken rest ∧ Matches tokens rest := by
  constructor
  · rintro ⟨⟩
    exact ⟨_, _, rfl, ‹_›, ‹_›⟩
  · rintro ⟨taken, rest, rfl, htakes, hrest⟩
    exact .cons htakes hrest

/-! ## Rows -/

/-- The row tells of a text and of each of its later parts whether it has a property. -/
inductive Tells (P : List Char → Prop) : List Char → List Bool → Prop where
  | nil {here : Bool} : (here = true ↔ P []) → Tells P [] [here]
  | cons {c : Char} {cs : List Char} {here : Bool} {row : List Bool} :
      (here = true ↔ P (c :: cs)) → Tells P cs row → Tells P (c :: cs) (here :: row)

theorem Tells.headD (h : Tells P cs row) : row.headD false = true ↔ P cs := by
  cases h <;> assumption

theorem Tells.congr (h : Tells P cs row) (hiff : ∀ cs, P cs ↔ Q cs) : Tells Q cs row := by
  induction h with
  | nil hhere => exact .nil (hhere.trans (hiff _))
  | cons hhere _ ih => exact .cons (hhere.trans (hiff _)) ih

/-- The first row: only the empty text is matched by no tokens. -/
theorem tells_empty (cs : List Char) : Tells (· = []) cs (cs.map (fun _ => false) ++ [true]) := by
  induction cs with
  | nil => exact .nil (by simp)
  | cons c cs ih => exact .cons (by simp) ih

/-- The text has a property after a part that is passed over. -/
def Later (P : List Char → Prop) (cs : List Char) : Prop :=
  ∃ skipped rest, cs = skipped ++ rest ∧ P rest

theorem later_cons_iff : Later P (c :: cs) ↔ P (c :: cs) ∨ Later P cs := by
  constructor
  · rintro ⟨skipped, rest, heq, hrest⟩
    rcases List.cons_eq_append_iff.1 heq with ⟨rfl, rfl⟩ | ⟨skipped, rfl, rfl⟩
    · exact Or.inl hrest
    · exact Or.inr ⟨skipped, rest, rfl, hrest⟩
  · rintro (h | ⟨skipped, rest, rfl, hrest⟩)
    · exact ⟨[], _, rfl, h⟩
    · exact ⟨c :: skipped, rest, rfl, hrest⟩

theorem Tells.orLater (h : Tells P cs row) : Tells (Later P) cs (orLater row) := by
  induction h with
  | nil hhere =>
    refine .nil ?_
    simp [Glob.orLater, Later, hhere]
  | cons hhere _ ih =>
    refine .cons ?_ ih
    rw [Bool.or_eq_true, hhere, ih.headD, later_cons_iff]

/-- The text has a property after a separator, or at its end. -/
def AfterSeparator (P : List Char → Prop) (cs : List Char) : Prop :=
  (∃ skipped rest, cs = skipped ++ '/' :: rest ∧ P rest) ∨ P []

theorem afterSeparator_cons_iff :
    AfterSeparator P (c :: cs) ↔ (c = '/' ∧ P cs) ∨ AfterSeparator P cs := by
  unfold AfterSeparator
  constructor
  · rintro (⟨skipped, rest, heq, hrest⟩ | hend)
    · rcases List.cons_eq_append_iff.1 heq with ⟨rfl, hcons⟩ | ⟨skipped, rfl, rfl⟩
      · cases hcons
        exact Or.inl ⟨rfl, hrest⟩
      · exact Or.inr (Or.inl ⟨skipped, rest, rfl, hrest⟩)
    · exact Or.inr (Or.inr hend)
  · rintro (⟨rfl, h⟩ | ⟨skipped, rest, rfl, hrest⟩ | hend)
    · exact Or.inl ⟨[], cs, rfl, h⟩
    · exact Or.inl ⟨c :: skipped, rest, rfl, hrest⟩
    · exact Or.inr hend

theorem Tells.afterSeparator (h : Tells P cs row) :
    Tells (AfterSeparator P) cs (afterSeparator cs row) := by
  induction h with
  | nil hhere =>
    refine .nil ?_
    simp [AfterSeparator, hhere]
  | cons _ hrow ih =>
    refine .cons ?_ ih
    rw [Bool.or_eq_true, Bool.and_eq_true, hrow.headD, ih.headD, afterSeparator_cons_iff, isSeparator,
      beq_iff_eq]

theorem Tells.or {other : List Bool} (h : Tells P cs row) (h' : Tells Q cs other) :
    Tells (fun cs => P cs ∨ Q cs) cs (List.zipWith (· || ·) row other) := by
  induction h generalizing other with
  | nil hhere =>
    cases h' with
    | nil hhere' => exact .nil (by rw [Bool.or_eq_true, hhere, hhere'])
  | cons hhere _ ih =>
    cases h' with
    | cons hhere' hother => exact .cons (by rw [Bool.or_eq_true, hhere, hhere']) (ih hother)

theorem Tells.afterChar (h : Tells P cs row) (test : Char → Bool) :
    Tells (fun cs => ∃ c rest, cs = c :: rest ∧ test c = true ∧ P rest) cs (afterChar test cs row) := by
  induction h with
  | nil _ => exact .nil (by simp)
  | cons _ hrow ih =>
    refine .cons ?_ ih
    rw [Bool.and_eq_true, hrow.headD]
    simp

/-! ## The row of a token -/

/-- The token takes a first part of the text, and what is left has a property. -/
def Before (token : GlobToken) (P : List Char → Prop) (cs : List Char) : Prop :=
  ∃ taken rest, cs = taken ++ rest ∧ token.Takes taken rest ∧ P rest

theorem before_one {test : Char → Bool}
    (htakes : ∀ taken rest, token.Takes taken rest ↔ ∃ c, taken = [c] ∧ test c = true) :
    (∃ c rest, cs = c :: rest ∧ test c = true ∧ P rest) ↔ Before token P cs := by
  unfold Before
  simp only [htakes]
  constructor
  · rintro ⟨c, rest, rfl, hc, hrest⟩
    exact ⟨[c], rest, rfl, ⟨c, rfl, hc⟩, hrest⟩
  · rintro ⟨_, rest, rfl, ⟨c, rfl, hc⟩, hrest⟩
    exact ⟨c, rest, rfl, hc, hrest⟩

theorem before_anyText : Later P cs ↔ Before .anyText P cs := by
  constructor
  · rintro ⟨skipped, rest, rfl, hrest⟩
    exact ⟨skipped, rest, rfl, .anyText, hrest⟩
  · rintro ⟨skipped, rest, rfl, _, hrest⟩
    exact ⟨skipped, rest, rfl, hrest⟩

theorem before_anyComponents : (P cs ∨ AfterSeparator P cs) ↔ Before .anyComponents P cs := by
  constructor
  · rintro (h | ⟨skipped, rest, rfl, hrest⟩ | hend)
    · exact ⟨[], cs, rfl, .noComponents, h⟩
    · exact ⟨skipped ++ ['/'], rest, by simp, .components, hrest⟩
    · exact ⟨cs, [], by simp, .allComponents, hend⟩
  · rintro ⟨_, rest, rfl, ⟨⟩, hrest⟩
    · exact Or.inl hrest
    · exact Or.inr (Or.inl ⟨_, rest, List.append_assoc _ _ _, hrest⟩)
    · exact Or.inr (Or.inr hrest)

theorem takes_set_iff {negated : Bool} {spans : List (Char × Char)} {taken rest : List Char} :
    (GlobToken.set negated spans).Takes taken rest ↔ ∃ c, taken = [c] ∧
      (spans.any (fun span => decide (span.1 ≤ c) && decide (c ≤ span.2)) != negated) = true := by
  have hany : ∀ c, spans.any (fun span => decide (span.1 ≤ c) && decide (c ≤ span.2)) = true ↔
      InSpans spans c := by
    simp [InSpans]
  constructor
  · rintro (_ | _ | hc | hc)
    · exact ⟨_, rfl, by simpa using (hany _).2 hc⟩
    · exact ⟨_, rfl, by simpa using mt (hany _).1 hc⟩
  · rintro ⟨c, rfl, hc⟩
    cases negated with
    | false => exact .inSet ((hany c).1 (by simpa using hc))
    | true => exact .notInSet (mt (hany c).2 (by simpa using hc))

/-- If a row is right about what comes after a token, the row of the token is right about what comes
before it. -/
theorem Tells.tokenRow (h : Tells P cs row) (token : GlobToken) :
    Tells (Before token P) cs (tokenRow cs row token) := by
  cases token with
  | char a =>
    refine (h.afterChar _).congr fun _ => before_one fun taken rest => ?_
    constructor
    · rintro ⟨⟩
      exact ⟨a, rfl, beq_self_eq_true a⟩
    · rintro ⟨c, rfl, hc⟩
      rw [beq_iff_eq.1 hc]
      exact .char
  | anyChar =>
    refine (h.afterChar _).congr fun _ => before_one fun taken rest => ?_
    constructor
    · rintro ⟨⟩
      exact ⟨_, rfl, rfl⟩
    · rintro ⟨c, rfl, _⟩
      exact .anyChar
  | anyText => exact h.orLater.congr fun _ => before_anyText
  | anyComponents => exact (h.or h.afterSeparator).congr fun _ => before_anyComponents
  | set negated spans => exact (h.afterChar _).congr fun _ => before_one fun _ _ => takes_set_iff

/-- The row of some tokens tells which parts of the text they match. -/
theorem tells_rowOf (cs : List Char) (tokens : List GlobToken) :
    Tells (Matches tokens) cs (rowOf cs tokens) := by
  induction tokens with
  | nil => exact (tells_empty cs).congr fun _ => matches_nil_iff.symm
  | cons token tokens ih => exact (ih.tokenRow token).congr fun _ => matches_cons_iff.symm

end

/-- A glob is tried in vain just if its tokens cannot share the text among them. -/
theorem matchText_iff (g : Glob) (s : String) :
    g.matchText s = true ↔ Matches g.tokens s.toList :=
  (tells_rowOf s.toList g.tokens).headD

/-! ## Endings -/

theorem matches_chars_iff {ending cs : List Char} :
    Matches (ending.map .char) cs ↔ cs = ending := by
  induction ending generalizing cs with
  | nil => exact matches_nil_iff
  | cons a ending ih =>
    rw [List.map_cons, matches_cons_iff]
    constructor
    · rintro ⟨_, rest, rfl, ⟨⟩, hrest⟩
      rw [ih.1 hrest]
      rfl
    · rintro rfl
      exact ⟨[a], ending, rfl, .char, ih.2 rfl⟩

/-- Any text and then certain characters: so the text ends. -/
theorem matches_ending_iff {ending cs : List Char} :
    Matches (.anyText :: ending.map .char) cs ↔ ending <:+ cs := by
  rw [matches_cons_iff]
  constructor
  · rintro ⟨skipped, rest, rfl, _, hrest⟩
    rw [matches_chars_iff.1 hrest]
    exact List.suffix_append _ _
  · rintro ⟨skipped, rfl⟩
    exact ⟨skipped, ending, rfl, .anyText, matches_chars_iff.2 rfl⟩

end Glob

end Highlighter
