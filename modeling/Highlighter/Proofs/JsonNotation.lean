-- The notation of JSON: the ways to write a string, and how an object lays out its members, with blanks
-- wherever they may stand. However a value is written, it is read. Reading takes just the text of the
-- value and leaves what follows, so values may stand in values.
import Highlighter.Json.Shape
import Mathlib.Algebra.Order.BigOperators.Group.List
import Mathlib.Data.List.Forall2

namespace Highlighter.Json

variable {α σ : Type}

/-! ## Reading a text whole -/

/-- The point after some more characters. -/
def Position.afterAll (p : Position) (cs : List Char) : Position := cs.foldl Position.after p

@[simp]
theorem Position.afterAll_nil (p : Position) : p.afterAll [] = p := rfl

@[simp]
theorem Position.afterAll_cons (p : Position) (c : Char) (cs : List Char) :
    p.afterAll (c :: cs) = (p.after c).afterAll cs := rfl

@[simp]
theorem Position.afterAll_append (p : Position) (cs ds : List Char) :
    p.afterAll (cs ++ ds) = (p.afterAll cs).afterAll ds := List.foldl_append

/-- Wherever the text stands, the reader takes just the text and gives the value. -/
def Reads (read : Read α) (cs : List Char) (a : α) : Prop :=
  ∀ rest p, read ⟨cs ++ rest, p⟩ = .ok (a, ⟨rest, p.afterAll cs⟩)

/-- Wherever the text stands, the reader finds a fault. -/
def Refuses (read : Read α) (cs : List Char) : Prop :=
  ∀ rest p, ∃ e, read ⟨cs ++ rest, p⟩ = .error e

section

variable {read : Read α} {cs : List Char} {a : α}

theorem Reads.map {β : Type} (h : Reads read cs a) (f : α → β) :
    Reads (fun s => (read s).map fun (a, s) => (f a, s)) cs (f a) := by
  intro rest p
  dsimp only
  rw [h rest p]
  rfl

theorem Refuses.map {β : Type} (h : Refuses read cs) (f : α → β) :
    Refuses (fun s => (read s).map fun (a, s) => (f a, s)) cs := by
  intro rest p
  obtain ⟨e, he⟩ := h rest p
  dsimp only
  rw [he]
  exact ⟨e, rfl⟩

/-! ## Blanks -/

/-- Nothing but blanks. -/
def Blanks (cs : List Char) : Prop := ∀ c ∈ cs, Text.isBlank c = true

theorem blanks_nil : Blanks [] := fun _ hc => absurd hc List.not_mem_nil

theorem skip_cons {c : Char} (h : Text.isBlank c = false) (rest : List Char) (p : Position) :
    Source.skip ⟨c :: rest, p⟩ = ⟨c :: rest, p⟩ := by
  simp [Source.skip, Source.skipAll, h]

theorem skip_blanks {blanks : List Char} (h : Blanks blanks) (rest : List Char) (p : Position) :
    Source.skip ⟨blanks ++ rest, p⟩ = Source.skip ⟨rest, p.afterAll blanks⟩ := by
  induction blanks generalizing p with
  | nil => rfl
  | cons c blanks ih =>
    obtain ⟨hc, hblanks⟩ := List.forall_mem_cons.1 h
    have hskip : Source.skip ⟨c :: (blanks ++ rest), p⟩ =
        Source.skip ⟨blanks ++ rest, p.after c⟩ := by
      simp [Source.skip, Source.skipAll, hc]
    rw [List.cons_append, hskip, ih hblanks, Position.afterAll_cons]

/-- After blanks, the first character that is none is met. -/
theorem skip_blanks_cons {blanks : List Char} (h : Blanks blanks) {c : Char}
    (hc : Text.isBlank c = false) (rest : List Char) (p : Position) :
    Source.skip ⟨blanks ++ c :: rest, p⟩ = ⟨c :: rest, p.afterAll blanks⟩ := by
  rw [skip_blanks h, skip_cons hc]

/-- It makes no difference to the reader how many blanks stand before the value. -/
def PassesBlanks (read : Read α) : Prop := ∀ s s', s.skip = s'.skip → read s = read s'

theorem Reads.after_blanks (h : Reads read cs a) (hread : PassesBlanks read) {blanks : List Char}
    (hblanks : Blanks blanks) : Reads read (blanks ++ cs) a := by
  intro rest p
  rw [List.append_assoc, hread _ _ (skip_blanks hblanks (cs ++ rest) p), h,
    Position.afterAll_append]

theorem Refuses.after_blanks (h : Refuses read cs) (hread : PassesBlanks read)
    {blanks : List Char} (hblanks : Blanks blanks) : Refuses read (blanks ++ cs) := by
  intro rest p
  rw [List.append_assoc, hread _ _ (skip_blanks hblanks (cs ++ rest) p)]
  exact h rest _

theorem passesBlanks_text : PassesBlanks text := by
  intro s s' h
  unfold text
  rw [h]

theorem passesBlanks_mapping {object : Read α} : PassesBlanks (mapping object) := by
  intro s s' h
  unfold mapping
  rw [h]

theorem passesBlanks_record {expected : String} {object list : Read α} :
    PassesBlanks (record expected object list) := by
  intro s s' h
  unfold record
  rw [h]

/-- A text that is taken whole, up to blanks, is the text of the value. -/
theorem Reads.ofText (h : Reads read cs a) {blanks : List Char} (hblanks : Blanks blanks) :
    Json.ofText read (String.ofList (cs ++ blanks)) = .ok a := by
  have hend := skip_blanks hblanks [] ((⟨1, 0⟩ : Position).afterAll cs)
  rw [List.append_nil] at hend
  unfold Json.ofText Source.start
  simp only [String.toList_ofList, h blanks, hend]
  rfl

theorem Refuses.ofText (h : Refuses read cs) (rest : List Char) :
    ∃ e, Json.ofText read (String.ofList (cs ++ rest)) = .error e := by
  obtain ⟨e, he⟩ := h rest ⟨1, 0⟩
  refine ⟨e.toError, ?_⟩
  simp [Json.ofText, Source.start, he]

end

/-! ## Strings -/

/-- The ways to write a character in a string. -/
inductive CharSpelled : List Char → Char → Prop where
  /-- By itself. -/
  | plain {c : Char} (hcode : 32 ≤ c.toNat) (hquote : c ≠ '"') (hslash : c ≠ '\\') :
    CharSpelled [c] c
  /-- By the letter that stands for it. -/
  | letter {l c : Char} (h : shortEscape? l = some c) : CharSpelled ['\\', l] c
  /-- By its code. -/
  | code {digits : List Char} {c : Char} (hlength : digits.length = 4)
    (h : hexValue? digits = some c.toNat) : CharSpelled ('\\' :: 'u' :: digits) c
  /-- By two codes of ten bits each, if its own code has more than sixteen bits. -/
  | codes {high low : List Char} {x y : Nat} {c : Char} (hhigh : high.length = 4)
    (hlow : low.length = 4) (hx : hexValue? high = some (0xD800 + x)) (hx' : x < 0x400)
    (hy : hexValue? low = some (0xDC00 + y)) (hy' : y < 0x400)
    (h : c.toNat = x * 0x400 + y + 0x10000) :
    CharSpelled ('\\' :: 'u' :: (high ++ '\\' :: 'u' :: low)) c

/-- The text is a string: quotes with each character between them in one of its ways. -/
def StringSpelled (cs : List Char) (s : String) : Prop :=
  ∃ parts, List.Forall₂ CharSpelled parts s.toList ∧ cs = '"' :: (parts.flatten ++ ['"'])

theorem CharSpelled.length_pos {cs : List Char} {c : Char} (h : CharSpelled cs c) :
    0 < cs.length := by
  cases h <;> simp

theorem le_bytesUpTo {n : Nat} {cs : List Char} (h : n ≤ cs.length) : n ≤ bytesUpTo n cs := by
  induction cs generalizing n with
  | nil => simpa [bytesUpTo] using h
  | cons c cs ih =>
    have hsize := c.utf8Size_pos
    rw [List.length_cons] at h
    unfold bytesUpTo
    split
    · exact Nat.le_refl n
    · have hrest := ih (n := n - c.utf8Size) (by omega)
      omega

theorem hexFour_digits {digits : List Char} (hlength : digits.length = 4) {v : Nat}
    (h : hexValue? digits = some v) (rest : List Char) (p : Position) :
    hexFour ⟨digits ++ rest, p⟩ = .ok (v, ⟨rest, p.afterAll digits⟩) := by
  have hbytes : ¬ bytesUpTo 4 (digits ++ rest) < 4 := by
    rw [Nat.not_lt]
    apply le_bytesUpTo
    rw [List.length_append]
    omega
  unfold hexFour
  simp only [hbytes, if_false, List.take_left' hlength, h]
  match digits, hlength with
  | [_, _, _, _], _ => rfl

theorem unicodeEscape_code {digits : List Char} {c : Char} (hlength : digits.length = 4)
    (h : hexValue? digits = some c.toNat) (rest : List Char) (p : Position) :
    unicodeEscape ⟨digits ++ rest, p⟩ = .ok (c, ⟨rest, p.afterAll digits⟩) := by
  have hvalid : c.toNat < 0xD800 ∨ 0xDFFF < c.toNat := c.valid.imp_right And.left
  unfold unicodeEscape
  simp only [hexFour_digits hlength h, if_pos hvalid, Char.ofNat_toNat]

theorem unicodeEscape_codes {high low : List Char} {x y : Nat} {c : Char} (hhigh : high.length = 4)
    (hlow : low.length = 4) (hx : hexValue? high = some (0xD800 + x)) (hx' : x < 0x400)
    (hy : hexValue? low = some (0xDC00 + y)) (hy' : y < 0x400)
    (h : c.toNat = x * 0x400 + y + 0x10000) (rest : List Char) (p : Position) :
    unicodeEscape ⟨high ++ '\\' :: 'u' :: (low ++ rest), p⟩ =
      .ok (c, ⟨rest, p.afterAll (high ++ '\\' :: 'u' :: low)⟩) := by
  have hnone : ¬ (0xD800 + x < 0xD800 ∨ 0xDFFF < 0xD800 + x) := by omega
  have hfirst : ¬ 0xDC00 ≤ 0xD800 + x := by omega
  have hsecond : ¬ (0xDC00 + y < 0xDC00 ∨ 0xDFFF < 0xDC00 + y) := by omega
  unfold unicodeEscape lowSurrogate
  simp only [hexFour_digits hhigh hx, hnone, hfirst, if_false, Source.eat, hexFour_digits hlow hy,
    hsecond, Nat.add_sub_cancel_left, ← h, Char.ofNat_toNat, Position.afterAll_append,
    Position.afterAll_cons]

/-- Behind its backslash, an escape is read as the character that it is for. -/
theorem escaped_of_spelled {code : List Char} {c : Char} (h : CharSpelled ('\\' :: code) c)
    (rest : List Char) (p : Position) :
    escaped ⟨code ++ rest, p⟩ = .ok (c, ⟨rest, p.afterAll code⟩) := by
  cases h with
  | plain _ _ hslash => exact absurd rfl hslash
  | @letter l _ h =>
    have hcode : l ≠ 'u' := by
      rintro rfl
      cases h
    simp only [escaped, List.cons_append, List.nil_append, h]
    rfl
  | code hlength h =>
    unfold escaped
    exact unicodeEscape_code hlength h rest (p.after 'u')
  | codes hhigh hlow hx hx' hy hy' h =>
    unfold escaped
    simp only [List.cons_append, List.append_assoc]
    exact unicodeEscape_codes hhigh hlow hx hx' hy hy' h rest (p.after 'u')

/-- In whatever way a character is written, it is read. -/
theorem stringChars_char {cs : List Char} {c : Char} (h : CharSpelled cs c) (rest : List Char)
    (p : Position) (fuel : Nat) :
    stringChars (fuel + 1) ⟨cs ++ rest, p⟩ =
      (stringChars fuel ⟨rest, p.afterAll cs⟩).map fun (cs, s) => (c :: cs, s) := by
  -- Behind a backslash it is enough that the escape is read.
  have hbackslash : ∀ code, cs = '\\' :: code →
      stringChars (fuel + 1) ⟨cs ++ rest, p⟩ =
        (stringChars fuel ⟨rest, p.afterAll cs⟩).map fun (cs, s) => (c :: cs, s) := by
    rintro code rfl
    rw [List.cons_append]
    simp only [stringChars, Source.eat, escaped_of_spelled h, Position.afterAll_cons]
    cases stringChars fuel ⟨rest, (p.after '\\').afterAll code⟩ <;> rfl
  cases h with
  | plain hcode hquote hslash =>
    have hlow : ¬ c.toNat < 32 := by omega
    simp only [List.cons_append, List.nil_append, stringChars, hlow, Source.eat,
      Position.afterAll_cons, Position.afterAll_nil, if_false]
    cases stringChars fuel ⟨rest, p.after c⟩ <;> rfl
  | letter => exact hbackslash _ rfl
  | code => exact hbackslash _ rfl
  | codes => exact hbackslash _ rfl

theorem length_le_flatten {parts : List (List Char)} {chars : List Char}
    (h : List.Forall₂ CharSpelled parts chars) : parts.length ≤ parts.flatten.length := by
  induction h with
  | nil => exact Nat.le_refl 0
  | cons hchar _ ih =>
    have hpos := hchar.length_pos
    rw [List.length_cons, List.flatten_cons, List.length_append]
    omega

theorem stringChars_parts {parts : List (List Char)} {chars : List Char}
    (h : List.Forall₂ CharSpelled parts chars) (rest : List Char) (p : Position) {fuel : Nat}
    (hfuel : parts.length < fuel) :
    stringChars fuel ⟨parts.flatten ++ '"' :: rest, p⟩ =
      .ok (chars, ⟨rest, p.afterAll (parts.flatten ++ ['"'])⟩) := by
  induction h generalizing p fuel with
  | nil =>
    obtain ⟨fuel, rfl⟩ := Nat.exists_eq_add_one.2 hfuel
    rfl
  | cons hchar _ ih =>
    rw [List.length_cons] at hfuel
    obtain ⟨fuel, rfl⟩ := Nat.exists_eq_add_one.2 (Nat.zero_lt_of_lt hfuel)
    rw [List.flatten_cons, List.append_assoc, stringChars_char hchar, ih _ (by omega)]
    simp [Except.map]

section

variable {cs : List Char} {s : String}

theorem StringSpelled.eq_cons (h : StringSpelled cs s) : ∃ body, cs = '"' :: body := by
  obtain ⟨parts, _, rfl⟩ := h
  exact ⟨_, rfl⟩

/-- After its opening quote a string is read up to its end. -/
theorem stringRest_of_spelled (h : StringSpelled cs s) (rest : List Char) (p : Position) :
    stringRest (Source.eat ⟨cs ++ rest, p⟩) = .ok (s, ⟨rest, p.afterAll cs⟩) := by
  obtain ⟨parts, hparts, rfl⟩ := h
  have hlength := length_le_flatten hparts
  unfold stringRest Source.eat
  simp only [List.cons_append, List.append_assoc, List.nil_append]
  rw [stringChars_parts hparts]
  · simp
  · rw [List.length_append]
    omega

theorem reads_text (h : StringSpelled cs s) : Reads text cs s := by
  intro rest p
  have hread := stringRest_of_spelled h rest p
  obtain ⟨body, rfl⟩ := h.eq_cons
  unfold text
  rw [List.cons_append, skip_cons (by decide)]
  exact hread

/-- A name out of a list is read as what it stands for. -/
theorem reads_choice {choices : List (String × α)} {a : α} (h : StringSpelled cs s)
    (hname : choices.lookup s = some a) : Reads (choice choices) cs a := by
  intro rest p
  have hread := stringRest_of_spelled h rest p
  obtain ⟨body, rfl⟩ := h.eq_cons
  rw [List.cons_append] at hread ⊢
  unfold choice
  rw [skip_cons (by decide)]
  simp only [hread, named, hname]

end

/-! ## Objects -/

/-- What stands before a member: blanks, and a comma unless the member is the first one. -/
inductive Leads : Bool → List Char → Prop where
  | first {before : List Char} (hbefore : Blanks before) : Leads true before
  | later {before after : List Char} (hbefore : Blanks before) (hafter : Blanks after) :
    Leads false (before ++ ',' :: after)

/-- The text lays out the members up to the closing brace. -/
inductive LaysOut : Bool → List (List Char) → List Char → Prop where
  | nil {first : Bool} {blanks : List Char} (hblanks : Blanks blanks) : LaysOut first [] blanks
  | cons {first : Bool} {lead m cs : List Char} {ms : List (List Char)} (hlead : Leads first lead)
    (htail : LaysOut false ms cs) : LaysOut first (m :: ms) (lead ++ (m ++ cs))

/-- A member is a key, a colon and a value, each in one of its ways. -/
inductive MemberSpelled {β : Type} (Value : List Char → β → Prop) :
    List Char → String × β → Prop where
  | mk {keyText before after value : List Char} {key : String} {b : β}
    (hkey : StringSpelled keyText key) (hbefore : Blanks before) (hafter : Blanks after)
    (hvalue : Value value b) :
    MemberSpelled Value (keyText ++ (before ++ ':' :: (after ++ value))) (key, b)

/-- A text in braces. -/
def braced (body : List Char) : List Char := '\x7b' :: (body ++ ['\x7d'])

/-- The text is an object with these members and no others, in this order. -/
def ObjectSpelled {β : Type} (Value : List Char → β → Prop) (cs : List Char)
    (ms : List (String × β)) : Prop :=
  ∃ texts body, List.Forall₂ (MemberSpelled Value) texts ms ∧ LaysOut true texts body ∧
    cs = braced body

/-- Reading the members one after the other leads from what was there before to what is there at
last. -/
inductive Loads (entry : σ → String → Read σ) : σ → List (List Char) → σ → Prop where
  | nil (acc : σ) : Loads entry acc [] acc
  | cons {acc next last : σ} {keyText value : List Char} {key : String} {ms : List (List Char)}
    (hkey : StringSpelled keyText key) (hvalue : Reads (entry acc key) value next)
    (htail : Loads entry next ms last) : Loads entry acc ((keyText ++ value) :: ms) last

/-- Reading the members one after the other leads to one that is refused. -/
inductive Stalls (entry : σ → String → Read σ) : σ → List (List Char) → Prop where
  | here {acc : σ} {keyText value : List Char} {key : String} {ms : List (List Char)}
    (hkey : StringSpelled keyText key) (hvalue : Refuses (entry acc key) value) :
    Stalls entry acc ((keyText ++ value) :: ms)
  | later {acc next : σ} {keyText value : List Char} {key : String} {ms : List (List Char)}
    (hkey : StringSpelled keyText key) (hvalue : Reads (entry acc key) value next)
    (htail : Stalls entry next ms) : Stalls entry acc ((keyText ++ value) :: ms)

section

variable {entry : σ → String → Read σ} {acc start last : σ} {ms : List (List Char)}
  {body : List Char} {first : Bool}

/-- One turn: behind its key the member is for the entry to read, and reading goes on behind it. -/
theorem members_turn {lead keyText : List Char} {key : String} (hlead : Leads first lead)
    (hkey : StringSpelled keyText key) (fuel : Nat) (rest : List Char) (p : Position) :
    members entry (fuel + 1) first acc ⟨lead ++ (keyText ++ rest), p⟩ =
      (entry acc key ⟨rest, p.afterAll (lead ++ keyText)⟩).bind fun (acc, s) =>
        members entry fuel false acc s := by
  have hquote : Text.isBlank '"' = false := by decide
  have hread := stringRest_of_spelled hkey rest (p.afterAll lead)
  obtain ⟨text, rfl⟩ := hkey.eq_cons
  rw [List.cons_append] at hread ⊢
  rw [Position.afterAll_append]
  cases hlead with
  | first hbefore =>
    have hne : '"' ≠ '\x7d' := by decide
    simp only [members, skip_blanks_cons hbefore hquote, hne, if_false, if_true, member1, hread]
    cases entry acc key _ <;> rfl
  | later hbefore hafter =>
    have hcomma : Text.isBlank ',' = false := by decide
    have hne : ',' ≠ '\x7d' := by decide
    simp only [Position.afterAll_append, Position.afterAll_cons] at hread ⊢
    simp only [members, List.append_assoc, List.cons_append, skip_blanks_cons hbefore hcomma, hne,
      if_false, if_true, Bool.false_eq_true, Source.eat, skip_blanks_cons hafter hquote, member1]
    simp only [Source.eat] at hread
    simp only [hread]
    cases entry acc key _ <;> rfl

/-- After blanks the members end at the closing brace. -/
theorem members_brace {blanks : List Char} (hblanks : Blanks blanks) (fuel : Nat) (rest : List Char)
    (p : Position) :
    members entry (fuel + 1) first acc ⟨blanks ++ '\x7d' :: rest, p⟩ =
      .ok (acc, ⟨'\x7d' :: rest, p.afterAll blanks⟩) := by
  unfold members
  simp [skip_blanks_cons hblanks (show Text.isBlank '\x7d' = false by decide)]

theorem LaysOut.length_le (h : LaysOut first ms body) (hms : ∀ m ∈ ms, m ≠ []) :
    ms.length ≤ body.length := by
  induction h with
  | nil => exact Nat.zero_le _
  | cons _ _ ih =>
    obtain ⟨hm, hms⟩ := List.forall_mem_cons.1 hms
    have hpos := List.length_pos_iff.2 hm
    have hrest := ih hms
    simp only [List.length_cons, List.length_append]
    omega

theorem StringSpelled.ne_nil {cs : List Char} {s : String} (h : StringSpelled cs s) : cs ≠ [] := by
  obtain ⟨_, rfl⟩ := h.eq_cons
  exact List.cons_ne_nil _ _

theorem Loads.ne_nil (h : Loads entry acc ms last) : ∀ m ∈ ms, m ≠ [] := by
  induction h with
  | nil => simp
  | cons hkey _ _ ih =>
    exact List.forall_mem_cons.2 ⟨List.append_ne_nil_of_left_ne_nil hkey.ne_nil _, ih⟩

/-- All members are read up to the closing brace. -/
theorem members_of_loads (h : Loads entry acc ms last) (hbody : LaysOut first ms body)
    (rest : List Char) (p : Position) {fuel : Nat} (hfuel : ms.length < fuel) :
    members entry fuel first acc ⟨body ++ '\x7d' :: rest, p⟩ =
      .ok (last, ⟨'\x7d' :: rest, p.afterAll body⟩) := by
  induction h generalizing first body p fuel with
  | nil =>
    obtain ⟨fuel, rfl⟩ := Nat.exists_eq_add_one.2 hfuel
    cases hbody with
    | nil hblanks => exact members_brace hblanks fuel rest p
  | cons hkey hvalue _ ih =>
    rw [List.length_cons] at hfuel
    obtain ⟨fuel, rfl⟩ := Nat.exists_eq_add_one.2 (Nat.zero_lt_of_lt hfuel)
    cases hbody with
    | cons hlead htail =>
      simp only [List.append_assoc]
      rw [members_turn hlead hkey, hvalue]
      dsimp only [Except.bind]
      rw [ih htail _ (by omega)]
      simp

/-- A member that is refused is met. -/
theorem members_of_stalls (h : Stalls entry acc ms) (hbody : LaysOut first ms body)
    (rest : List Char) (p : Position) (fuel : Nat) :
    ∃ e, members entry fuel first acc ⟨body ++ rest, p⟩ = .error e := by
  induction h generalizing first body p fuel with
  | here hkey hvalue =>
    cases fuel with
    | zero => exact ⟨_, rfl⟩
    | succ fuel =>
      cases hbody with
      | cons hlead htail =>
        simp only [List.append_assoc]
        rw [members_turn hlead hkey]
        obtain ⟨e, he⟩ := hvalue _ _
        rw [he]
        exact ⟨e, rfl⟩
  | later hkey hvalue _ ih =>
    cases fuel with
    | zero => exact ⟨_, rfl⟩
    | succ fuel =>
      cases hbody with
      | cons hlead htail =>
        simp only [List.append_assoc]
        rw [members_turn hlead hkey, hvalue]
        exact ih htail _ fuel

/-- After its opening brace an object is read up to its end. -/
theorem objectRest_of_loads {finish : σ → Except Problem α} {a : α} (h : Loads entry start ms last)
    (hbody : LaysOut true ms body) (hfinish : finish last = .ok a) (rest : List Char)
    (p : Position) :
    objectRest entry start finish ⟨body ++ '\x7d' :: rest, p⟩ =
      .ok (a, ⟨rest, p.afterAll (body ++ ['\x7d'])⟩) := by
  have hlength := hbody.length_le h.ne_nil
  have hbrace : Text.isBlank '\x7d' = false := by decide
  unfold objectRest
  dsimp only
  rw [members_of_loads h hbody]
  · simp [hfinish, closeObject, skip_cons hbrace, Source.eat]
  · rw [List.length_append]
    omega

theorem objectRest_of_stalls {finish : σ → Except Problem α} (h : Stalls entry start ms)
    (hbody : LaysOut true ms body) (rest : List Char) (p : Position) :
    ∃ e, objectRest entry start finish ⟨body ++ rest, p⟩ = .error e := by
  have hclose : ∀ e : Fault, ∃ e', closeObject (.error e : Except Fault (α × Source)) = .error e' := by
    intro e
    cases e with
    | located problem position => exact ⟨_, rfl⟩
    | pending problem s =>
      unfold closeObject
      dsimp only
      split
      · exact ⟨_, rfl⟩
      · exact ⟨_, rfl⟩
  obtain ⟨e, he⟩ := members_of_stalls h hbody rest p ((body ++ rest).length + 1)
  unfold objectRest
  dsimp only
  rw [he]
  exact hclose e

theorem mapping_braced (object : Read α) (body rest : List Char) (p : Position) :
    mapping object ⟨braced body ++ rest, p⟩ = object ⟨body ++ '\x7d' :: rest, p.after '\x7b'⟩ := by
  unfold mapping braced
  rw [List.cons_append, skip_cons (by decide), List.append_assoc]
  rfl

theorem record_braced (expected : String) (object list : Read α) (body rest : List Char)
    (p : Position) :
    record expected object list ⟨braced body ++ rest, p⟩ =
      object ⟨body ++ '\x7d' :: rest, p.after '\x7b'⟩ := by
  unfold record braced
  rw [List.cons_append, skip_cons (by decide), List.append_assoc]
  rfl

/-- A map is read from an object. -/
theorem reads_mapping {finish : σ → Except Problem α} {a : α} (h : Loads entry start ms last)
    (hbody : LaysOut true ms body) (hfinish : finish last = .ok a) :
    Reads (mapping (objectRest entry start finish)) (braced body) a := by
  intro rest p
  rw [mapping_braced, objectRest_of_loads h hbody hfinish]
  rfl

theorem refuses_mapping {finish : σ → Except Problem α} (h : Stalls entry start ms)
    (hbody : LaysOut true ms body) :
    Refuses (mapping (objectRest entry start finish)) (braced body) := by
  intro rest p
  rw [mapping_braced]
  exact objectRest_of_stalls h hbody _ _

/-- A record is read from an object. -/
theorem reads_record {finish : σ → Except Problem α} {a : α} (h : Loads entry start ms last)
    (hbody : LaysOut true ms body) (hfinish : finish last = .ok a) (expected : String)
    (list : Read α) :
    Reads (record expected (objectRest entry start finish) list) (braced body) a := by
  intro rest p
  rw [record_braced, objectRest_of_loads h hbody hfinish]
  rfl

theorem refuses_record {finish : σ → Except Problem α} (h : Stalls entry start ms)
    (hbody : LaysOut true ms body) (expected : String) (list : Read α) :
    Refuses (record expected (objectRest entry start finish) list) (braced body) := by
  intro rest p
  rw [record_braced]
  exact objectRest_of_stalls h hbody _ _

end

/-! ## What follows a key -/

section

variable {read : Read α} {value before : List Char} {a : α}

theorem colon_of_blanks (hbefore : Blanks before) (rest : List Char) (p : Position) :
    colon ⟨before ++ ':' :: rest, p⟩ = .ok ⟨rest, p.afterAll (before ++ [':'])⟩ := by
  unfold colon
  rw [skip_blanks_cons hbefore (by decide), Position.afterAll_append]
  rfl

theorem reads_field (h : Reads read value a) (hbefore : Blanks before) (name : String) :
    Reads (field name none read) (before ++ ':' :: value) a := by
  intro rest p
  unfold field
  rw [List.append_assoc, List.cons_append, colon_of_blanks hbefore]
  simp [h rest]

theorem refuses_field (h : Refuses read value) (hbefore : Blanks before) (name : String) :
    Refuses (field name none read) (before ++ ':' :: value) := by
  intro rest p
  unfold field
  rw [List.append_assoc, List.cons_append, colon_of_blanks hbefore]
  exact h rest _

end

end Highlighter.Json
