-- The patterns of ordinary text in Alba, and what each of its rules takes, by the next characters
-- alone. A reserved word is the one case where the character before counts.
import Highlighter.Proofs.AlbaRules
import Highlighter.Proofs.Greedy
import Highlighter.Proofs.Tables

namespace Highlighter

namespace Alba

/-! ## Classes of characters -/

/-- A letter, a digit or `_`, in ASCII. -/
def isIdent (c : Char) : Bool := c.isAlphanum || c == '_'

/-- The characters of operators. -/
def isOperator (c : Char) : Bool := ['+', '*', '/', ':', '=', '~', '\\', '-'].contains c

def letters : CharSet := .ofSpans [('A', 'Z'), ('a', 'z')]

def operators : CharSet :=
  .ofSpans [('*', '+'), ('-', '-'), ('/', '/'), (':', ':'), ('=', '='), ('\\', '\\'), ('~', '~')]

theorem isAlpha_iff {c : Char} : c.isAlpha = true ↔
    65 ≤ c.toNat ∧ c.toNat ≤ 90 ∨ 97 ≤ c.toNat ∧ c.toNat ≤ 122 := by
  have hupper : c.isUpper = decide (c.val ≥ 65 ∧ c.val ≤ 90) := rfl
  have hlower : c.isLower = (decide (c.val ≥ 97) && decide (c.val ≤ 122)) := rfl
  have hcases : c.isAlpha = (c.isUpper || c.isLower) := rfl
  simp [hcases, hupper, hlower, UInt32.le_iff_toNat_le]

theorem isIdent_iff {c : Char} : isIdent c = true ↔
    48 ≤ c.toNat ∧ c.toNat ≤ 57 ∨ 65 ≤ c.toNat ∧ c.toNat ≤ 90 ∨ c.toNat = 95 ∨
      97 ≤ c.toNat ∧ c.toNat ≤ 122 := by
  have hunderscore : c = '_' ↔ c.toNat = 95 := Char.toNat_inj.symm
  simp only [isIdent, Char.isAlphanum, Bool.or_eq_true, beq_iff_eq, isAlpha_iff,
    Char.isDigit_iff_toNat, hunderscore]
  simp
  omega

/-- What stands in a name is a word character. -/
theorem isWord_of_isIdent {c : Char} (h : isIdent c = true) : Text.isWord c = true := by
  have hascii : c.toNat < 128 := by
    rw [isIdent_iff] at h
    omega
  unfold Text.isWord
  rw [if_pos hascii]
  exact h

theorem isIdent_of_isAlpha {c : Char} (h : c.isAlpha = true) : isIdent c = true := by
  simp [isIdent, Char.isAlphanum, h]

theorem mem_letters (c : Char) : letters.mem c = c.isAlpha := by
  rw [Bool.eq_iff_iff, isAlpha_iff]
  simp [letters, CharSet.mem, CharSet.ofSpans, Text.inSpans, Text.covers]

theorem mem_ident : (CharSet.asciiHaving .word).mem = isIdent := by
  funext c
  rw [Bool.eq_iff_iff, isIdent_iff]
  simp [CharSet.asciiHaving, CharSet.mem, CharSet.ofSpans, Text.inSpans, Text.covers]
  omega

theorem mem_digit : (CharSet.asciiHaving .digit).mem = Char.isDigit := by
  funext c
  rw [Bool.eq_iff_iff, Char.isDigit_iff_toNat]
  simp [CharSet.asciiHaving, CharSet.mem, CharSet.span, Text.inSpans, Text.covers]

theorem mem_operators (c : Char) : operators.mem c = isOperator c := by
  rw [Bool.eq_iff_iff]
  simp [operators, isOperator, CharSet.mem, CharSet.ofSpans, Text.inSpans, Text.covers,
    ← Char.toNat_inj]
  omega

theorem mem_noNewline : (CharSet.single '\n').compl.mem = (· != '\n') := by
  funext c
  rw [Bool.eq_iff_iff, CharSet.mem_compl_single (by decide) (by decide)]
  simp

/-! ## The patterns -/

def spaces : Pattern := .rounds 0 true (.one (CharSet.having .space))

/-- A comment up to the end of its line. -/
def line : Pattern := .seq (.seq dash dash) (.anyRounds 0 true (.one (CharSet.single '\n').compl))

/-- A reserved word between two edges of words. -/
def reservedWord (set : KeywordSet) : Pattern :=
  .seq (.look (.wordEdge false))
    (.seq (.anyOf (set.words.map String.toList)) (.look (.wordEdge false)))

def name : Pattern := .seq (.one letters) (.anyRounds 0 true (.one (CharSet.asciiHaving .word)))

def number : Pattern := .rounds 0 true (.one (CharSet.asciiHaving .digit))

/-! ## The state of ordinary text -/

def spaceRule : ReadyRule := ⟨⟨"\\s+", .whitespace, .stay⟩, spaces.matcher, .stay⟩

def lineRule : ReadyRule := ⟨⟨"--.*", .commentSingleline, .stay⟩, line.matcher, .stay⟩

def openingRule : ReadyRule := ⟨openRule, opener.matcher, .push 1⟩

def keywordRule (set : KeywordSet) : ReadyRule :=
  ⟨⟨keywordPattern set, .keyword, .stay⟩, (reservedWord set).matcher, .stay⟩

def nameRule : ReadyRule := ⟨⟨"[a-zA-Z][a-zA-Z_0-9]*", .name, .stay⟩, name.matcher, .stay⟩

def numberRule : ReadyRule := ⟨⟨"[0-9]+", .number, .stay⟩, number.matcher, .stay⟩

def operatorRule : ReadyRule :=
  ⟨⟨"[+*/:=~\\\\-]", .operator, .stay⟩, (Pattern.one operators).matcher, .stay⟩

def anyRule : ReadyRule := ⟨⟨"(?s).", .text, .stay⟩, (Pattern.one .any).matcher, .stay⟩

/-- The state of ordinary text. -/
def root (set : KeywordSet) : ReadyState :=
  ⟨"root", [spaceRule, lineRule, openingRule, keywordRule set, nameRule, numberRule, operatorRule,
    anyRule]⟩

theorem prepare_root (set : KeywordSet) :
    (RuleState.mk "root" (rootRules set)).prepare .standard ["root", "comment"] =
      .ok (root set) := by
  have hkeyword : Pattern.read? (keywordPattern set) = some (reservedWord set) := by
    cases set <;> decide +kernel
  refine RuleState.prepare_eq_ok.2 ⟨rfl, ?_⟩
  refine .cons (Rule.prepare_standard rfl (by decide +kernel)) ?_
  refine .cons (Rule.prepare_standard rfl (by decide +kernel)) ?_
  refine .cons (Rule.prepare_standard rfl (by decide +kernel)) ?_
  refine .cons (Rule.prepare_standard rfl hkeyword) ?_
  refine .cons (Rule.prepare_standard rfl (by decide +kernel)) ?_
  refine .cons (Rule.prepare_standard rfl (by decide +kernel)) ?_
  refine .cons (Rule.prepare_standard rfl (by decide +kernel)) ?_
  exact .cons (Rule.prepare_standard rfl (by decide +kernel)) .nil

theorem prepare_comment :
    (RuleState.mk "comment" commentRules).prepare .standard ["root", "comment"] =
      .ok comment := by
  refine RuleState.prepare_eq_ok.2 ⟨rfl, ?_⟩
  refine .cons (Rule.prepare_standard rfl (by decide +kernel)) ?_
  refine .cons (Rule.prepare_standard rfl (by decide +kernel)) ?_
  exact .cons (Rule.prepare_standard rfl (by decide +kernel)) .nil

/-- The rule table makes a lexer, and these are its states. -/
theorem lexer_eq (set : KeywordSet) : lexer set = .ok ⟨info, [root set, comment]⟩ :=
  Lexer.build_eq_ok.2 ⟨List.cons_ne_nil _ _, by simp [Definition.Kept, definition, rootRules], rfl,
    .cons (prepare_root set) (.cons prepare_comment .nil)⟩

theorem lexer_ok (set : KeywordSet) : ∃ l, lexer set = .ok l := ⟨_, lexer_eq set⟩

theorem states_eq {set : KeywordSet} {l : Lexer} (h : lexer set = .ok l) :
    l.states = [root set, comment] := by
  rw [lexer_eq] at h
  cases h
  rfl

/-! ## Reserved words -/

/-- The text begins with a reserved word that is a word by itself. -/
def isReserved (set : KeywordSet) (wordBefore : Bool) (text : List Char) : Bool :=
  set.words.contains (String.ofList (text.takeWhile isIdent)) && !wordBefore &&
    !Look.isWordAt false (text.dropWhile isIdent).head?

theorem isReserved_iff {set : KeywordSet} {b : Bool} {text : List Char} :
    isReserved set b text = true ↔ String.ofList (text.takeWhile isIdent) ∈ set.words ∧ b = false ∧
      Look.isWordAt false (text.dropWhile isIdent).head? = false := by
  simp only [isReserved, Bool.and_eq_true, List.contains_iff_mem, Bool.not_eq_true', and_assoc]

/-- A reserved word has two letters at least, and nothing but letters of ASCII. -/
theorem words_spec (set : KeywordSet) :
    ∀ w ∈ set.words, 2 ≤ w.toList.length ∧ ∀ c ∈ w.toList, c.isAlpha = true := by
  have hall : ∀ w ∈ set.words, 2 ≤ w.toList.length ∧ w.toList.all Char.isAlpha = true := by
    cases set <;> decide +kernel
  intro w hw
  obtain ⟨hlength, halpha⟩ := hall w hw
  exact ⟨hlength, List.all_eq_true.1 halpha⟩

theorem word_ne_nil {set : KeywordSet} {w : String} (hw : w ∈ set.words) : w.toList ≠ [] := by
  have hlength := (words_spec set w hw).1
  exact List.ne_nil_of_length_pos (by omega)

theorem isWordAt_some (c : Char) : Look.isWordAt false (some c) = Text.isWord c := by
  simp [Look.isWordAt]

/-- A run of letters, digits and `_` ends where no word character follows it. -/
theorem takeWhile_isIdent {w rest : List Char} (hall : ∀ c ∈ w, isIdent c = true)
    (hend : Look.isWordAt false rest.head? = false) :
    (w ++ rest).takeWhile isIdent = w ∧ (w ++ rest).dropWhile isIdent = rest := by
  rw [List.takeWhile_append_of_pos hall, List.dropWhile_append_of_pos hall]
  rcases rest with _ | ⟨c, rest⟩
  · simp
  · have hc : ¬ isIdent c = true := by
      intro hc
      rw [List.head?_cons, isWordAt_some, isWord_of_isIdent hc] at hend
      cases hend
    rw [List.takeWhile_cons_of_neg hc, List.dropWhile_cons_of_neg hc, List.append_nil]
    exact ⟨rfl, rfl⟩

section

variable {set : KeywordSet} {p q : Place} {w : List Char}

/-- After a word character, there is an edge where no other one follows. -/
theorem wordEdge_of_leads (h : p.Leads w q) (hne : w ≠ []) (hall : ∀ c ∈ w, isIdent c = true) :
    (Look.wordEdge false).holds q = !Look.isWordAt false q.next? := by
  have hword : Look.isWordAt false q.last = true := by
    rw [h.last, List.getLast?_eq_some_getLast hne, Option.some_or, isWordAt_some]
    exact isWord_of_isIdent (hall _ (List.getLast_mem hne))
  simp [Look.holds, hword]

/-- A word stands at a place and ends at an edge if it is the whole run there. -/
theorem stands_iff (hne : w ≠ []) (hall : ∀ c ∈ w, isIdent c = true) :
    (w <+: p.rest ∧ (Look.wordEdge false).holds (p.forward w.length) = true) ↔
      p.rest.takeWhile isIdent = w ∧
        Look.isWordAt false (p.rest.dropWhile isIdent).head? = false := by
  constructor
  · rintro ⟨⟨rest, hrest⟩, hedge⟩
    have hlead := Place.Leads.forward hrest.symm
    rw [wordEdge_of_leads hlead hne hall, Place.next?, hlead.rest_eq hrest.symm,
      Bool.not_eq_true'] at hedge
    obtain ⟨htake, hdrop⟩ := takeWhile_isIdent hall hedge
    rw [← hrest]
    exact ⟨htake, by rw [hdrop, hedge]⟩
  · rintro ⟨rfl, hend⟩
    have hlead := Place.leads_afterRun p isIdent
    refine ⟨List.takeWhile_prefix isIdent, (wordEdge_of_leads hlead hne hall).trans ?_⟩
    rw [Place.next?, Place.rest_afterRun, hend]
    rfl

/-- Of some words only the whole run at a place can be found there. -/
theorem findSome?_stands {ws : List (List Char)}
    (hws : ∀ w ∈ ws, w ≠ [] ∧ ∀ c ∈ w, isIdent c = true) :
    (ws.findSome? fun w =>
        if w <+: p.rest then
          if (Look.wordEdge false).holds (p.forward w.length) = true then some (p.forward w.length)
          else none
        else none) =
      if p.rest.takeWhile isIdent ∈ ws ∧
          Look.isWordAt false (p.rest.dropWhile isIdent).head? = false
      then some (p.afterRun isIdent) else none := by
  have hstands := fun w hw => stands_iff (p := p) (hws w hw).1 (hws w hw).2
  split
  · rename_i hrun
    obtain ⟨hmem, hend⟩ := hrun
    obtain ⟨hbegins, hedge⟩ := (hstands _ hmem).2 ⟨rfl, hend⟩
    rcases hfind : ws.findSome? _ with _ | q
    · have hnone := List.findSome?_eq_none_iff.1 hfind _ hmem
      simp [hbegins, hedge] at hnone
    · obtain ⟨w, hw, hfound⟩ := List.exists_of_findSome?_eq_some hfind
      split_ifs at hfound with hbegins hedge
      rw [← hfound, ← ((hstands w hw).1 ⟨hbegins, hedge⟩).1]
      rfl
  · rename_i hrun
    refine List.findSome?_eq_none_iff.2 fun w hw => ?_
    split_ifs with hbegins hedge
    · obtain ⟨rfl, hend⟩ := (hstands w hw).1 ⟨hbegins, hedge⟩
      exact absurd ⟨hw, hend⟩ hrun
    · rfl
    · rfl

theorem matchFrom_reservedWord (set : KeywordSet) (p : Place) :
    (reservedWord set).matchFrom p =
      if isReserved set (Look.isWordAt false p.last) p.rest = true then some (p.afterRun isIdent)
      else none := by
  have hword : ∀ w ∈ set.words.map String.toList, w ≠ [] ∧ ∀ c ∈ w, isIdent c = true := by
    intro w hw
    obtain ⟨u, hu, rfl⟩ := List.mem_map.1 hw
    exact ⟨word_ne_nil hu, fun c hc => isIdent_of_isAlpha ((words_spec set u hu).2 c hc)⟩
  have hmem : String.ofList (p.rest.takeWhile isIdent) ∈ set.words ↔
      p.rest.takeWhile isIdent ∈ set.words.map String.toList := by
    rw [List.mem_map]
    constructor
    · exact fun h => ⟨_, h, String.toList_ofList⟩
    · rintro ⟨w, hw, hrun⟩
      rwa [← hrun, String.ofList_toList]
  unfold reservedWord
  rw [Pattern.matchFrom_between, findSome?_stands hword]
  simp only [isReserved_iff, hmem]
  by_cases hrun : p.rest.takeWhile isIdent ∈ set.words.map String.toList
  · -- The run is not empty, so there is a word character after the place.
    have hnext : Look.isWordAt false p.next? = true := by
      have hc := List.head?_eq_some_head (hword _ hrun).1
      rw [List.head?_takeWhile, Option.filter_eq_some_iff] at hc
      rw [Place.next?, hc.1, isWordAt_some]
      exact isWord_of_isIdent hc.2
    simp [Look.holds, hrun, hnext, ite_and]
  · simp [hrun]

end

/-! ## What the rules take -/

section

variable {p : Place} {c : Char} {rest : List Char}

theorem takes?_space (h : p.rest = c :: rest) : spaceRule.takes? p =
    if Text.isSpace c = true then some (p.afterRun Text.isSpace) else none := by
  refine ReadyRule.takes?_eq_ite rfl (Pattern.matchFrom_eq_ite (fun hc => ?_) fun hc => ?_)
    fun hc => Place.offset_lt_afterRun h hc
  · exact Pattern.matchFrom_rounds h hc
  · exact Pattern.not_takes_of_start h rfl (Bool.eq_false_iff.2 hc)

theorem takes?_line (h : p.rest = c :: rest) : lineRule.takes? p =
    if c = '-' ∧ rest.head? = some '-' then some (p.afterRun (· != '\n')) else none := by
  refine ReadyRule.takes?_eq_ite rfl
    (Pattern.matchFrom_eq_ite (fun hc => ?_) fun hc q htakes => hc ?_)
    fun hc => Place.offset_lt_afterRun h (by simp [hc])
  · obtain ⟨rfl, hhead⟩ := hc
    obtain ⟨more, rfl⟩ := List.head?_eq_some_iff.1 hhead
    rw [Place.afterRun_of_passes h rfl, Place.afterRun_of_passes rfl rfl, ← mem_noNewline]
    exact Pattern.matchFrom_two_anyRounds h (CharSet.mem_single.2 rfl) (CharSet.mem_single.2 rfl)
  · obtain ⟨r, htwo, _⟩ := htakes
    obtain ⟨more, hmore, _⟩ := Pattern.takes_two htwo
    rw [h] at hmore
    cases hmore
    exact ⟨rfl, rfl⟩

theorem takes?_opening (h : p.rest = c :: rest) : openingRule.takes? p =
    if c = '\x7b' ∧ rest.head? = some '-' then some (p.forward 2) else none := by
  refine ReadyRule.takes?_eq_ite rfl
    (Pattern.matchFrom_eq_ite (fun hc => ?_) fun hc q htakes => hc ?_)
    fun hc => ?_
  · obtain ⟨rfl, hhead⟩ := hc
    obtain ⟨more, rfl⟩ := List.head?_eq_some_iff.1 hhead
    rw [Place.forward, h]
    exact Pattern.matchFrom_two h (CharSet.mem_single.2 rfl) (CharSet.mem_single.2 rfl)
  · obtain ⟨more, hmore, _⟩ := Pattern.takes_two htakes
    rw [h] at hmore
    cases hmore
    exact ⟨rfl, rfl⟩
  · obtain ⟨rfl, hhead⟩ := hc
    obtain ⟨more, rfl⟩ := List.head?_eq_some_iff.1 hhead
    have hlead : p.Leads ['\x7b', '-'] _ := Place.Leads.forward h
    exact hlead.offset_lt (by simp)

theorem takes?_keyword (set : KeywordSet) (p : Place) : (keywordRule set).takes? p =
    if isReserved set (Look.isWordAt false p.last) p.rest = true then some (p.afterRun isIdent)
    else none := by
  refine ReadyRule.takes?_eq_ite rfl (matchFrom_reservedWord set p) fun hc => ?_
  refine (Place.leads_afterRun p isIdent).offset_lt ?_
  have hne := word_ne_nil (isReserved_iff.1 hc).1
  rwa [String.toList_ofList] at hne

theorem takes?_name (h : p.rest = c :: rest) : nameRule.takes? p =
    if c.isAlpha = true then some (p.afterRun isIdent) else none := by
  refine ReadyRule.takes?_eq_ite rfl (Pattern.matchFrom_eq_ite (fun hc => ?_) fun hc => ?_)
    fun hc => Place.offset_lt_afterRun h (isIdent_of_isAlpha hc)
  · rw [Place.afterRun_of_passes h (isIdent_of_isAlpha hc), ← mem_ident]
    exact Pattern.matchFrom_one_anyRounds h ((mem_letters c).trans hc)
  · refine Pattern.not_takes_of_start h rfl ?_
    simpa [nameRule, name, Pattern.mayStart, Pattern.mayBeEmpty, mem_letters] using hc

theorem takes?_number (h : p.rest = c :: rest) : numberRule.takes? p =
    if c.isDigit = true then some (p.afterRun Char.isDigit) else none := by
  rw [← mem_digit]
  refine ReadyRule.takes?_eq_ite rfl (Pattern.matchFrom_eq_ite (fun hc => ?_) fun hc => ?_)
    fun hc => Place.offset_lt_afterRun h hc
  · exact Pattern.matchFrom_rounds h hc
  · exact Pattern.not_takes_of_start h rfl (Bool.eq_false_iff.2 hc)

theorem takes?_operator (h : p.rest = c :: rest) : operatorRule.takes? p =
    if isOperator c = true then some (p.after c rest) else none := by
  rw [← mem_operators]
  exact ReadyRule.takes?_eq_ite rfl (Pattern.matchFrom_one h)
    fun _ => (Place.Leads.after h).offset_lt (by simp)

theorem takes?_any (h : p.rest = c :: rest) : anyRule.takes? p = some (p.after c rest) := by
  refine ReadyRule.takes?_of_match ?_ (Place.Leads.after h) (by simp)
  exact (Pattern.matchFrom_one h).trans (if_pos (CharSet.mem_any c))

end

end Alba

end Highlighter
