-- The grammar of globs, and that reading follows it: a text is a glob just if it falls into pieces that
-- spell tokens, and then these are its tokens. Only of two stars it counts where they stand.
import Highlighter.Registry.Glob
import Mathlib.Data.List.TakeWhile

namespace Highlighter

namespace Glob

/-! ## The grammar -/

/-- The text behind an opening bracket is a set, and what comes after it. The first character of a set
is never its end. -/
inductive SetSpelled : List Char → GlobToken → List Char → Prop where
  | plain {first : Char} {body after : List Char} (hfirst : first ≠ '!') (hbody : ']' ∉ body) :
    SetSpelled (first :: (body ++ ']' :: after)) (.set false (spans (first :: body))) after
  | negated {first : Char} {body after : List Char} (hbody : ']' ∉ body) :
    SetSpelled ('!' :: first :: (body ++ ']' :: after)) (.set true (spans (first :: body))) after

/-- The text spells the tokens, if it starts a path component or if it does not. -/
inductive Spelled : Bool → List Char → List GlobToken → Prop where
  | nil {starts : Bool} : Spelled starts [] []
  | anyChar {starts : Bool} {cs : List Char} {tokens : List GlobToken} (htail : Spelled false cs tokens) :
    Spelled starts ('?' :: cs) (.anyChar :: tokens)
  | anyText {starts : Bool} {cs : List Char} {tokens : List GlobToken} (hsingle : cs.head? ≠ some '*')
    (htail : Spelled false cs tokens) : Spelled starts ('*' :: cs) (.anyText :: tokens)
  /-- Two stars are a whole component. -/
  | anyComponents {cs : List Char} {tokens : List GlobToken} (htail : Spelled true cs tokens) :
    Spelled true ('*' :: '*' :: '/' :: cs) (.anyComponents :: tokens)
  | allComponents : Spelled true ['*', '*'] [.anyComponents]
  | set {starts : Bool} {cs after : List Char} {token : GlobToken} {tokens : List GlobToken}
    (hset : SetSpelled cs token after) (htail : Spelled false after tokens) :
    Spelled starts ('[' :: cs) (token :: tokens)
  | char {starts : Bool} {c : Char} {cs : List Char} {tokens : List GlobToken}
    (hplain : c ≠ '?' ∧ c ≠ '*' ∧ c ≠ '[') (htail : Spelled (isSeparator c) cs tokens) :
    Spelled starts (c :: cs) (.char c :: tokens)

section

variable {cs after rest : List Char} {first : Char} {token : GlobToken} {tokens : List GlobToken}
  {negated starts : Bool}

/-! ## Sets -/

/-- Reads a set after its first character. -/
def setRest? (negated : Bool) (first : Char) (rest : List Char) : Option (GlobToken × List Char) :=
  match rest.dropWhile (· != ']') with
  | [] => none
  | _ :: after => some (.set negated (spans (first :: rest.takeWhile (· != ']'))), after)

theorem set?_negated : set? ('!' :: first :: rest) = setRest? true first rest := rfl

theorem set?_plain (h : first ≠ '!') : set? (first :: rest) = setRest? false first rest := by
  simp [set?, h]
  rfl

/-- The first closing bracket ends the set. -/
theorem setRest?_eq_some : setRest? negated first rest = some (token, after) ↔
    ∃ body, rest = body ++ ']' :: after ∧ ']' ∉ body ∧
      token = .set negated (spans (first :: body)) := by
  unfold setRest?
  constructor
  · intro h
    split at h
    · cases h
    · rename_i c _ hdrop
      have hc : c = ']' := by
        have hhead := List.head?_dropWhile_not (· != ']') rest
        rw [hdrop] at hhead
        simpa using hhead
      cases h
      refine ⟨rest.takeWhile (· != ']'), ?_, fun hmem => ?_, rfl⟩
      · rw [← hc, ← hdrop, hc, List.takeWhile_append_dropWhile]
      · have hne := List.mem_takeWhile_imp hmem
        simp at hne
  · rintro ⟨body, rfl, hbody, rfl⟩
    have hall : ∀ c ∈ body, (c != ']') = true := fun c hc =>
      bne_iff_ne.2 fun hbracket => hbody (hbracket ▸ hc)
    rw [List.takeWhile_append_of_pos hall, List.dropWhile_append_of_pos hall]
    simp

theorem set?_eq_some : set? cs = some (token, after) ↔ SetSpelled cs token after := by
  constructor
  · intro h
    rcases cs with _ | ⟨first, rest⟩
    · cases h
    by_cases hfirst : first = '!'
    · subst hfirst
      rcases rest with _ | ⟨first, rest⟩
      · cases h
      rw [set?_negated] at h
      obtain ⟨body, rfl, hbody, rfl⟩ := setRest?_eq_some.1 h
      exact .negated hbody
    · rw [set?_plain hfirst] at h
      obtain ⟨body, rfl, hbody, rfl⟩ := setRest?_eq_some.1 h
      exact .plain hfirst hbody
  · rintro (⟨hfirst, hbody⟩ | ⟨hbody⟩)
    · rw [set?_plain hfirst]
      exact setRest?_eq_some.2 ⟨_, rfl, hbody, rfl⟩
    · rw [set?_negated]
      exact setRest?_eq_some.2 ⟨_, rfl, hbody, rfl⟩

theorem SetSpelled.length_lt (h : SetSpelled cs token after) : after.length < cs.length := by
  cases h <;> simp <;> omega

/-! ## One token -/

section

variable {fuel position : Nat} {last : Option Char}

theorem no_stars (h : cs.head? ≠ some '*') :
    cs.takeWhile (· == '*') = [] ∧ cs.dropWhile (· == '*') = cs := by
  cases cs <;> simp_all

theorem tokensOf_star (h : cs.head? ≠ some '*') :
    tokensOf (fuel + 1) position last ('*' :: cs) =
      (tokensOf fuel (position + 1) (some '*') cs).map (.anyText :: ·) := by
  simp [tokensOf, no_stars h]

theorem any_not_isSeparator (last : Option Char) :
    last.any (!isSeparator ·) = !last.all isSeparator := by
  cases last <;> rfl

theorem tokensOf_stars_inside (hlast : last.all isSeparator = false) (h : cs.head? ≠ some '*') :
    tokensOf (fuel + 1) position last ('*' :: '*' :: cs) =
      .error ⟨position - 1, .recursiveWildcards⟩ := by
  simp [tokensOf, no_stars h, any_not_isSeparator, hlast]

theorem tokensOf_last_stars (hlast : last.all isSeparator = true) :
    tokensOf (fuel + 1) position last ['*', '*'] = .ok [.anyComponents] := by
  simp [tokensOf, any_not_isSeparator, hlast]

theorem tokensOf_stars_separator (hlast : last.all isSeparator = true) :
    tokensOf (fuel + 1) position last ('*' :: '*' :: '/' :: cs) =
      (tokensOf fuel (position + 3) (some '/') cs).map (.anyComponents :: ·) := by
  have hslash : isSeparator '/' = true := rfl
  simp [tokensOf, any_not_isSeparator, hlast, hslash]

theorem tokensOf_stars_other {d : Char} (hlast : last.all isSeparator = true) (hstar : d ≠ '*')
    (hd : d ≠ '/') : tokensOf (fuel + 1) position last ('*' :: '*' :: d :: cs) =
      .error ⟨position + 2, .recursiveWildcards⟩ := by
  have hother : isSeparator d = false := beq_false_of_ne hd
  simp [tokensOf, any_not_isSeparator, hlast, hother, hstar]

theorem tokensOf_more_stars :
    tokensOf (fuel + 1) position last ('*' :: '*' :: '*' :: cs) =
      .error ⟨position + 2, .wildcards⟩ := by
  simp [tokensOf]
  omega

theorem tokensOf_bracket :
    tokensOf (fuel + 1) position last ('[' :: cs) =
      match set? cs with
      | none => .error ⟨position, .invalidRange⟩
      | some (token, after) =>
        (tokensOf fuel (position + 1 + (cs.length - after.length)) (some ']') after).map
          (token :: ·) := rfl

theorem tokensOf_char {c : Char} (h : c ≠ '?' ∧ c ≠ '*' ∧ c ≠ '[') :
    tokensOf (fuel + 1) position last (c :: cs) =
      (tokensOf fuel (position + 1) (some c) cs).map (.char c :: ·) := by
  simp [tokensOf, h]

end

/-! ## Globs -/

theorem map_cons_eq_ok {read : Except GlobError (List GlobToken)} :
    read.map (token :: ·) = .ok tokens ↔ ∃ tail, read = .ok tail ∧ tokens = token :: tail := by
  cases read <;> simp [Except.map, eq_comm]

/-- Two stars are read as whole components only where one starts. -/
theorem spelled_of_two_stars {fuel position : Nat} {last : Option Char} (hend : cs.head? ≠ some '*')
    (hrest : ∀ after, cs = '/' :: after → ∀ position tail,
      tokensOf fuel position (some '/') after = .ok tail → Spelled true after tail)
    (h : tokensOf (fuel + 1) position last ('*' :: '*' :: cs) = .ok tokens) :
    Spelled (last.all isSeparator) ('*' :: '*' :: cs) tokens := by
  cases hlast : last.all isSeparator with
  | false =>
    rw [tokensOf_stars_inside hlast hend] at h
    cases h
  | true =>
    rcases cs with _ | ⟨d, after⟩
    · rw [tokensOf_last_stars hlast] at h
      cases h
      exact .allComponents
    by_cases hd : d = '/'
    · subst hd
      rw [tokensOf_stars_separator hlast] at h
      obtain ⟨tail, htail, rfl⟩ := map_cons_eq_ok.1 h
      exact .anyComponents (hrest after rfl _ tail htail)
    · have hstar : d ≠ '*' := fun hd => hend (congrArg some hd)
      rw [tokensOf_stars_other hlast hstar hd] at h
      cases h

/-- What is read as tokens spells them. -/
theorem spelled_of_tokensOf {fuel position : Nat} {last : Option Char}
    (hfuel : cs.length ≤ fuel) (h : tokensOf fuel position last cs = .ok tokens) :
    Spelled (last.all isSeparator) cs tokens := by
  induction fuel generalizing position last cs tokens with
  | zero =>
    obtain rfl := List.length_eq_zero_iff.1 (Nat.le_zero.1 hfuel)
    cases h
    exact .nil
  | succ fuel ih =>
    rcases cs with _ | ⟨c, cs⟩
    · cases h
      exact .nil
    rw [List.length_cons] at hfuel
    by_cases hany : c = '?'
    · subst hany
      obtain ⟨tail, htail, rfl⟩ := map_cons_eq_ok.1 h
      exact .anyChar (ih (by omega) htail)
    by_cases hset : c = '['
    · subst hset
      rw [tokensOf_bracket] at h
      split at h
      · cases h
      · rename_i token after htoken
        have hspelled := set?_eq_some.1 htoken
        have hlength := hspelled.length_lt
        obtain ⟨tail, htail, rfl⟩ := map_cons_eq_ok.1 h
        exact .set hspelled (ih (by omega) htail)
    by_cases hstar : c = '*'
    · subst hstar
      by_cases hsingle : cs.head? = some '*'
      · obtain ⟨cs, rfl⟩ := List.head?_eq_some_iff.1 hsingle
        by_cases hmore : cs.head? = some '*'
        · obtain ⟨cs, rfl⟩ := List.head?_eq_some_iff.1 hmore
          rw [tokensOf_more_stars] at h
          cases h
        · refine spelled_of_two_stars hmore ?_ h
          rintro after rfl position tail htail
          rw [List.length_cons, List.length_cons] at hfuel
          exact ih (by omega) htail
      · rw [tokensOf_star hsingle] at h
        obtain ⟨tail, htail, rfl⟩ := map_cons_eq_ok.1 h
        exact .anyText hsingle (ih (by omega) htail)
    · have hplain : c ≠ '?' ∧ c ≠ '*' ∧ c ≠ '[' := ⟨hany, hstar, hset⟩
      rw [tokensOf_char hplain] at h
      obtain ⟨tail, htail, rfl⟩ := map_cons_eq_ok.1 h
      exact .char hplain (ih (by omega) htail)

/-- What spells tokens is read as these. -/
theorem tokensOf_of_spelled {fuel position : Nat} {last : Option Char} (hfuel : cs.length ≤ fuel)
    (hlast : last.all isSeparator = starts) (h : Spelled starts cs tokens) :
    tokensOf fuel position last cs = .ok tokens := by
  induction fuel generalizing position last starts cs tokens with
  | zero =>
    obtain rfl := List.length_eq_zero_iff.1 (Nat.le_zero.1 hfuel)
    cases h
    rfl
  | succ fuel ih =>
    cases h with
    | nil => rfl
    | anyChar htail =>
      exact map_cons_eq_ok.2 ⟨_, ih (Nat.le_of_succ_le_succ hfuel) rfl htail, rfl⟩
    | anyText hsingle htail =>
      rw [tokensOf_star hsingle]
      exact map_cons_eq_ok.2 ⟨_, ih (Nat.le_of_succ_le_succ hfuel) rfl htail, rfl⟩
    | anyComponents htail =>
      simp only [List.length_cons] at hfuel
      rw [tokensOf_stars_separator hlast]
      exact map_cons_eq_ok.2 ⟨_, ih (by omega) rfl htail, rfl⟩
    | allComponents => exact tokensOf_last_stars hlast
    | set hset htail =>
      have hlength := hset.length_lt
      rw [List.length_cons] at hfuel
      rw [tokensOf_bracket, set?_eq_some.2 hset]
      exact map_cons_eq_ok.2 ⟨_, ih (by omega) rfl htail, rfl⟩
    | char hplain htail =>
      rw [tokensOf_char hplain]
      exact map_cons_eq_ok.2 ⟨_, ih (Nat.le_of_succ_le_succ hfuel) rfl htail, rfl⟩

/-- A text is read as a glob just if it spells its tokens. -/
theorem read_eq_ok {s : String} {g : Glob} : Glob.read s = .ok g ↔ Spelled true s.toList g.tokens := by
  have hread : Glob.read s = .ok g ↔
      tokensOf s.toList.length 0 none s.toList = .ok g.tokens := by
    obtain ⟨tokens⟩ := g
    unfold Glob.read
    cases tokensOf s.toList.length 0 none s.toList <;> simp [Except.map]
  rw [hread]
  exact ⟨spelled_of_tokensOf (Nat.le_refl _), tokensOf_of_spelled (Nat.le_refl _) rfl⟩

end

end Glob

end Highlighter
