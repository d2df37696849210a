-- The patterns of block comments in Alba. In a block comment the next two characters tell which
-- rule wins.
import Highlighter.Alba
import Highlighter.Proofs.Takes

namespace Highlighter

namespace Alba

/-! ## The rules of a block comment -/

/-- A hyphen. -/
def dash : Pattern := .one (.single '-')

/-- Any other character. -/
def noDash : Pattern := .one (CharSet.single '-').compl

/-- The opening of a block comment. -/
def opener : Pattern := .seq (.one (.single '\x7b')) dash

/-- The end of a block comment. -/
def closer : Pattern := .seq dash (.one (.single '\x7d'))

/-- The rule of ordinary text that leads to a block comment. -/
def openRule : Rule := ⟨"\\\x7b-", .commentMultiline, .push "comment"⟩

def otherRule : ReadyRule := ⟨⟨"[^-]", .commentMultiline, .stay⟩, noDash.matcher, .stay⟩

def closeRule : ReadyRule := ⟨⟨"-\\\x7d", .commentMultiline, .pop⟩, closer.matcher, .pop⟩

def dashRule : ReadyRule := ⟨⟨"-", .commentMultiline, .stay⟩, dash.matcher, .stay⟩

/-- The state inside a block comment. -/
def comment : ReadyState := ⟨"comment", [otherRule, closeRule, dashRule]⟩

theorem mem_noDash {c : Char} : (CharSet.single '-').compl.mem c = true ↔ c ≠ '-' :=
  CharSet.mem_compl_single (by decide) (by decide)

section

variable {p : Place} {c : Char} {rest : List Char}

/-- A character that is no hyphen is taken by itself. -/
theorem comment_winner_other (h : p.rest = c :: rest) (hc : c ≠ '-') :
    comment.winner? p = some ⟨0, otherRule, p.after c rest⟩ := by
  have hmatch : otherRule.matcher.stop? p = some (p.after c rest) :=
    (Pattern.matchFrom_one h).trans (if_pos (mem_noDash.2 hc))
  have hother := ReadyRule.takes?_of_match hmatch (Place.Leads.after h) (by simp)
  simp [ReadyState.winner?, comment, hother]

theorem takes?_other (h : p.rest = '-' :: rest) : otherRule.takes? p = none := by
  refine ReadyRule.takes?_of_not_takes rfl ?_
  rintro q ⟨c, rest', hrest, hmem, _⟩
  rw [h] at hrest
  cases hrest
  exact mem_noDash.1 hmem rfl

/-- The end of the comment is taken at once. -/
theorem comment_winner_close (h : p.rest = '-' :: '\x7d' :: rest) :
    comment.winner? p =
      some ⟨1, closeRule, (p.after '-' ('\x7d' :: rest)).after '\x7d' rest⟩ := by
  have hmatch : closeRule.matcher.stop? p =
      some ((p.after '-' ('\x7d' :: rest)).after '\x7d' rest) :=
    Pattern.matchFrom_two h (CharSet.mem_single.2 rfl) (CharSet.mem_single.2 rfl)
  have hlead := (Place.Leads.after h).trans (Place.Leads.after (p := p.after '-' _) rfl)
  have hclose := ReadyRule.takes?_of_match hmatch hlead (by simp)
  simp [ReadyState.winner?, comment, takes?_other h, hclose]

/-- A hyphen that does not end the comment is taken by itself. -/
theorem comment_winner_dash (h : p.rest = '-' :: rest) (hrest : rest.head? ≠ some '\x7d') :
    comment.winner? p = some ⟨2, dashRule, p.after '-' rest⟩ := by
  have hclose : closeRule.takes? p = none := by
    refine ReadyRule.takes?_of_not_takes rfl ?_
    intro q htakes
    obtain ⟨more, hmore, _⟩ := Pattern.takes_two htakes
    rw [h] at hmore
    cases hmore
    exact hrest rfl
  have hmatch : dashRule.matcher.stop? p = some (p.after '-' rest) :=
    (Pattern.matchFrom_one h).trans (if_pos (CharSet.mem_single.2 rfl))
  have hdash := ReadyRule.takes?_of_match hmatch (Place.Leads.after h) (by simp)
  simp [ReadyState.winner?, comment, takes?_other h, hclose, hdash]

end

end Alba

end Highlighter
