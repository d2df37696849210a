-- What the column of a fault in a style rule is worth to its reader. It counts from the last line feed
-- up to where reading stopped, while the text that is quoted begins behind the white space there. So it
-- points at the quoted text in a rule of one line, unless reading stopped before white space.
import Highlighter.Proofs.StyleFaults

namespace Highlighter

namespace Text

/-! ## Texts at a column -/

/-- What stands from a column on. The first column is 1. -/
def fromColumn (column : Nat) (cs : List Char) : List Char := cs.drop (column - 1)

theorem isSpace_of_mem_firstPiece {cs : List Char} {c : Char} (h : c ∈ firstPiece cs) :
    isSpace c = false := by
  simpa using List.mem_takeWhile_imp h

theorem firstPiece_eq_nil {cs : List Char} : firstPiece cs = [] ↔ ∀ c ∈ cs, isSpace c = true := by
  rw [firstPiece, List.takeWhile_eq_nil_iff, ← List.dropWhile_eq_nil_iff]
  cases hrest : cs.dropWhile isSpace with
  | nil => simp
  | cons c rest =>
    have hc := List.head?_dropWhile_not isSpace cs
    rw [hrest] at hc
    simpa using hc

/-- The first piece begins a text just if white space does not. -/
theorem firstPiece_begins {cs : List Char} (hne : cs ≠ []) :
    (firstPiece cs ≠ [] ∧ firstPiece cs <+: cs) ↔ ∀ c ∈ cs.head?, isSpace c = false := by
  obtain ⟨c, rest, rfl⟩ := List.exists_cons_of_ne_nil hne
  constructor
  · rintro ⟨hsome, hbegins⟩ d hd
    obtain ⟨first, more, hpiece⟩ := List.exists_cons_of_ne_nil hsome
    rw [hpiece, List.cons_prefix_cons] at hbegins
    cases hd
    rw [← hbegins.1]
    exact isSpace_of_mem_firstPiece (hpiece ▸ List.mem_cons_self)
  · intro hspace
    have hc : isSpace c = false := hspace c rfl
    have hpiece : firstPiece (c :: rest) = (c :: rest).takeWhile fun d => !isSpace d := by
      simp [firstPiece, hc]
    rw [hpiece]
    exact ⟨by simp [hc], List.takeWhile_prefix _⟩

end Text

namespace StyleRule

variable {s : String} {column : Nat} {before after found : List Char}

/-- The column of a fault points at the text that the fault quotes: there is some text, and the rule goes
on with it from the column on. -/
def PointsAt (rule : String) (column : Nat) (found : String) : Prop :=
  found ≠ "" ∧ found.toList <+: Text.fromColumn column rule.toList

instance (rule : String) (column : Nat) (found : String) : Decidable (PointsAt rule column found) :=
  inferInstanceAs (Decidable (_ ∧ _))

theorem pointsAt_ofList : PointsAt s column (String.ofList found) ↔
    found ≠ [] ∧ found <+: Text.fromColumn column s.toList := by
  simp [PointsAt]

/-- The part of a text that stands in its last line. -/
def lastLine (cs : List Char) : List Char := cs.rtakeWhile (· != '\n')

theorem lastLine_eq_self (h : '\n' ∉ before) : lastLine before = before := by
  rw [lastLine, List.rtakeWhile_eq_self_iff]
  intro c hc
  rw [bne_iff_ne]
  rintro rfl
  exact h hc

theorem length_lastLine_lt (h : '\n' ∈ before) : (lastLine before).length < before.length := by
  have hsuffix : lastLine before <:+ before := List.rtakeWhile_suffix ..
  refine Nat.lt_of_le_of_ne hsuffix.length_le fun hlength => ?_
  have hall := List.mem_rtakeWhile_imp (hsuffix.eq_of_length hlength ▸ h)
  cases hall

/-- The column after a text is the one behind its last line. -/
theorem fromColumn_columnAfter (cs : List Char) :
    Text.fromColumn (columnAfter before) cs = cs.drop (lastLine before).length := by
  rw [Text.fromColumn, columnAfter, Nat.add_sub_cancel, lastLine, List.rtakeWhile, List.length_reverse]

/-! ## The text at the column of a fault -/

/-- Text without white space does not reach from one side to the other of where reading stops. -/
theorem Stuck.prefix_iff (h : Stuck before after) (hfound : ∀ c ∈ found, Text.isSpace c = false)
    {n : Nat} (hn : n < before.length) :
    found <+: (before ++ after).drop n ↔ found <+: before.drop n := by
  rw [List.drop_append_of_le_length hn.le]
  refine ⟨fun hboth => ?_, fun hone => hone.trans (List.prefix_append _ _)⟩
  rcases List.prefix_or_prefix_of_prefix hboth (List.prefix_append _ after) with hone | ⟨more, rfl⟩
  · exact hone
  rw [List.prefix_append_right_inj] at hboth
  have hne : before.drop n ≠ [] := by
    rw [ne_eq, List.drop_eq_nil_iff]
    omega
  cases h with
  | noWord hend _ =>
    -- The text before ends in a blank, which the text that is looked for would have in it.
    have hlast : before.getLast? = (before.drop n).getLast? := by
      conv_lhs => rw [← List.take_append_drop n before]
      exact List.getLast?_append_of_ne_nil _ hne
    have hblank := hend _ (hlast ▸ List.getLast_mem_getLast? hne)
    have hno := hfound _ (List.mem_append_left more (List.getLast_mem hne))
    rw [Text.isSpace_of_isBlank hblank] at hno
    cases hno
  | space hspace =>
    obtain ⟨c, hc, hspace⟩ := hspace
    rcases more with _ | ⟨d, more⟩
    · rw [List.append_nil]
    · obtain ⟨rest, rfl⟩ := hboth
      cases hc
      have hno := hfound c (List.mem_append_right _ List.mem_cons_self)
      rw [hspace] at hno
      cases hno

/-! ## The law -/

/-- What the column of a fault says, where reading stopped between the two texts. -/
structure ColumnLaws (s : String) (column : Nat) (found : String) (before after : List Char) :
    Prop where
  /-- Nothing is quoted where only white space is left. -/
  empty : found = "" ↔ ∀ c ∈ after, Text.isSpace c = true
  /-- In the line of the fault the quoted text stands at the column just if no white space does. -/
  line : found ≠ "" ∧ found.toList <+: Text.fromColumn column (lastLine before ++ after) ↔
    ∀ c ∈ after.head?, Text.isSpace c = false
  /-- The same holds in the whole rule, if the fault stands in its first line. -/
  first : '\n' ∉ before →
    (PointsAt s column found ↔ ∀ c ∈ after.head?, Text.isSpace c = false)
  /-- In a later line the quoted text has to stand in what was read before, too. -/
  later : '\n' ∈ before →
    (PointsAt s column found ↔ found ≠ "" ∧ found.toList <+: Text.fromColumn column before)

theorem Stuck.columnLaws (h : Stuck before after) (hne : after ≠ []) (hs : s.toList = before ++ after) :
    ColumnLaws s (columnAfter before) (String.ofList (Text.firstPiece after)) before after := by
  have hbegins := Text.firstPiece_begins hne
  refine ⟨?_, ?_, ?_, ?_⟩
  · rw [← Text.firstPiece_eq_nil]
    simp
  · rw [fromColumn_columnAfter, List.drop_left]
    simpa using hbegins
  · intro hline
    rw [pointsAt_ofList, fromColumn_columnAfter, hs, lastLine_eq_self hline, List.drop_left]
    exact hbegins
  · intro hline
    rw [pointsAt_ofList, fromColumn_columnAfter, fromColumn_columnAfter, hs,
      h.prefix_iff (fun _ => Text.isSpace_of_mem_firstPiece) (length_lastLine_lt hline)]
    simp

/-- In a line whose white space is all blanks, reading stops before text. -/
theorem ColumnLaws.pointsAt {found : String} (h : ColumnLaws s column found before after)
    (hwhole : s.toList = before ++ after) (hstart : startsBlank after = false)
    (hplain : ∀ c ∈ s.toList, Text.isSpace c = true → c = ' ' ∨ c = '\t' ∨ c = '\r') :
    PointsAt s column found := by
  have hline : '\n' ∉ before := by
    intro hmem
    have hbreak := hplain '\n' (hwhole ▸ List.mem_append_left after hmem) (by decide)
    simp at hbreak
  rw [h.first hline]
  intro c hc
  obtain ⟨rest, rfl⟩ := List.head?_eq_some_iff.1 hc
  by_contra hspace
  have hblank : Text.isBlank c = true := by
    rcases hplain c (by simp [hwhole]) (by simpa using hspace) with rfl | rfl | rfl <;> rfl
  have hno : Text.isBlank c = false := hstart
  rw [hblank] at hno
  cases hno

/-- The column of a fault points at what is quoted in a rule whose white space is all spaces, tabs and
carriage returns. In other rules where reading stopped decides. -/
theorem columns_point_into_the_line_of_a_fault (s rule : String) (column : Nat) (found : String)
    (h : read s = .error (.unknownWord rule column found)) : rule = s ∧
      (∃ before after, LastStop s.toList before after ∧ after ≠ [] ∧
        ColumnLaws s column found before after) ∧
      ((∀ c ∈ s.toList, Text.isSpace c = true → c = ' ' ∨ c = '\t' ∨ c = '\r') →
        PointsAt s column found) := by
  unfold read at h
  split at h
  · cases h
  · rename_i hfault
    cases h
    obtain ⟨before, after, hwhole, hne, hrule, hstart, hstuck, rfl, rfl⟩ := stuck_of_ofChars hfault
    have hlaws := hstuck.columnLaws hne hwhole
    have hstop : LastStop s.toList before after := hwhole ▸ hstuck.lastStop hrule hstart
    exact ⟨rfl, ⟨before, after, hstop, hne, hlaws⟩, hlaws.pointsAt hwhole hstart⟩

theorem a_column_points_into_a_sample :
    read "italic bolder #888" = .error (.unknownWord "italic bolder #888" 8 "bolder") ∧
      (∃ before after, LastStop "italic bolder #888".toList before after ∧ after ≠ [] ∧
        ColumnLaws "italic bolder #888" 8 "bolder" before after) ∧
      PointsAt "italic bolder #888" 8 "bolder" := by
  have hread : read "italic bolder #888" =
      .error (.unknownWord "italic bolder #888" 8 "bolder") := by decide +kernel
  have hblanks : "italic bolder #888".toList.all fun c =>
      Text.isSpace c → c = ' ' ∨ c = '\t' ∨ c = '\r' := by decide +kernel
  obtain ⟨_, hlaws, hplain⟩ := columns_point_into_the_line_of_a_fault _ _ _ _ hread
  exact ⟨hread, hlaws, hplain (by simpa only [List.all_eq_true, decide_eq_true_eq] using hblanks)⟩

/-- Columns that do not point at what is quoted: that of another line, that of a wide space in front of it,
and that of a wide space with nothing behind it. -/
theorem a_column_misses_what_is_quoted :
    (read "bold\nbolder" = .error (.unknownWord "bold\nbolder" 1 "bolder") ∧
      ¬ PointsAt "bold\nbolder" 1 "bolder") ∧
    (read "bold\u00a0bolder" = .error (.unknownWord "bold\u00a0bolder" 5 "bolder") ∧
      ¬ PointsAt "bold\u00a0bolder" 5 "bolder") ∧
    (read "bold\u00a0" = .error (.unknownWord "bold\u00a0" 5 "") ∧
      ¬ PointsAt "bold\u00a0" 5 "") := by decide +kernel

end StyleRule

end Highlighter
