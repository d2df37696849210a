-- What texts are colours, and which of them are the same one. A colour has one written form, which is
-- read as this colour. Two texts are the same colour just if they agree once the digits of short ones
-- are doubled and all are in lower case.
import Highlighter.Proofs.Colors
import Highlighter.Style.Rule

namespace Highlighter

namespace Color

/-! ## Digits and channels -/

/-- The hexadecimal digits in lower case. -/
def lowerDigits : List Char := "0123456789abcdef".toList

/-- The hexadecimal digits of either case. -/
def digits : List Char := lowerDigits ++ "ABCDEF".toList

theorem exists_isDigit {d : Char} : (∃ n, IsDigit d n) ↔ d ∈ digits := by
  have hvalues : ∀ d ∈ digits, (hexValue? d).isSome = true := List.all_eq_true.1 (by decide)
  constructor
  · rintro ⟨n, hn, rfl | rfl⟩
    · interval_cases n <;> decide
    · interval_cases n <;> decide
  · intro hd
    obtain ⟨n, hn⟩ := Option.isSome_iff_exists.1 (hvalues d hd)
    exact ⟨n, hexValue?_eq_some.1 hn⟩

theorem isDigit_hexDigit {n : Nat} (hn : n < 16) : IsDigit (hexDigit n) n := ⟨hn, Or.inl rfl⟩

theorem IsDigit.toLower {d : Char} {n : Nat} (h : IsDigit d n) : d.toLower = hexDigit n := by
  obtain ⟨hn, rfl | rfl⟩ := h
  · interval_cases n <;> rfl
  · interval_cases n <;> rfl

theorem hexDigit_mem {n : Nat} (hn : n < 16) : hexDigit n ∈ lowerDigits := by
  interval_cases n <;> decide

theorem high_lt (c : UInt8) : c.toNat / 16 < 16 := by
  have hlt := c.toNat_lt
  omega

theorem low_lt (c : UInt8) : c.toNat % 16 < 16 := Nat.mod_lt _ (by decide)

/-- A channel is made of its two digits. -/
theorem channel_digits (c : UInt8) : channel (c.toNat / 16) (c.toNat % 16) = c := by
  unfold channel
  rw [Nat.div_add_mod', UInt8.ofNat_toNat]

theorem channelDigits_channel {x y : Nat} (hx : x < 16) (hy : y < 16) :
    channelDigits (channel x y) = [hexDigit x, hexDigit y] := by
  have hvalue : (channel x y).toNat = x * 16 + y := by
    unfold channel
    rw [UInt8.toNat_ofNat']
    omega
  have hhigh : (x * 16 + y) / 16 = x := by omega
  have hlow : (x * 16 + y) % 16 = y := by omega
  unfold channelDigits
  rw [hvalue, hhigh, hlow]

/-! ## Whole texts -/

variable {s : String} {cs : List Char} {c : Color}

theorem read?_eq_some : read? s = some c ↔ Spelled s.toList c := by
  unfold read?
  constructor
  · intro h
    split at h
    · rename_i found hfound
      cases h
      obtain ⟨color, hcolor, hspelled⟩ := spelled_of_take? hfound
      rw [List.append_nil] at hcolor
      rwa [hcolor]
    · cases h
  · intro h
    have htake : take? (s.toList ++ []) = some (c, []) := take?_of_spelled h (by simp)
    rw [List.append_nil] at htake
    rw [htake]

theorem read_eq_ok : Color.read s = .ok c ↔ Spelled s.toList c := by
  rw [← read?_eq_some]
  unfold Color.read
  cases read? s <;> simp

theorem read_eq_error {e : StyleError} :
    Color.read s = .error e ↔ (∀ c, ¬ Spelled s.toList c) ∧ e = .badColor s := by
  simp only [← read?_eq_some]
  unfold Color.read
  cases read? s <;> simp [eq_comm]

/-- A text spells a colour just if it is `#` and three or six digits. -/
theorem exists_spelled : (∃ c, Spelled cs c) ↔
    ∃ ds, cs = '#' :: ds ∧ (ds.length = 3 ∨ ds.length = 6) ∧ ∀ d ∈ ds, d ∈ digits := by
  simp only [← exists_isDigit]
  constructor
  · rintro ⟨c, h⟩
    obtain ⟨ds, rfl, hds⟩ := h.eq_cons
    refine ⟨ds, rfl, ?_, hds⟩
    cases h
    · exact Or.inl rfl
    · exact Or.inr rfl
  · rintro ⟨ds, rfl, hlength | hlength, hds⟩
    · obtain ⟨r, g, b, rfl⟩ := List.length_eq_three.1 hlength
      simp only [List.forall_mem_cons] at hds
      obtain ⟨⟨x, hr⟩, ⟨y, hg⟩, ⟨z, hb⟩, _⟩ := hds
      exact ⟨_, .short hr hg hb⟩
    · obtain ⟨r, r', g, g', b, b', rfl⟩ : ∃ r r' g g' b b', ds = [r, r', g, g', b, b'] := by
        match ds, hlength with
        | [r, r', g, g', b, b'], _ => exact ⟨r, r', g, g', b, b', rfl⟩
      simp only [List.forall_mem_cons] at hds
      obtain ⟨⟨x, hr⟩, ⟨x', hr'⟩, ⟨y, hg⟩, ⟨y', hg'⟩, ⟨z, hb⟩, ⟨z', hb'⟩, _⟩ := hds
      exact ⟨_, .long hr hr' hg hg' hb hb'⟩

/-! ## The written form -/

theorem toList_text (c : Color) :
    c.text.toList = '#' :: channelDigits c.red ++ channelDigits c.green ++ channelDigits c.blue :=
  String.toList_ofList

theorem spelled_text (c : Color) : Spelled c.text.toList c := by
  have hhigh := fun channel => isDigit_hexDigit (high_lt channel)
  have hlow := fun channel => isDigit_hexDigit (low_lt channel)
  have hlong := Spelled.long (hhigh c.red) (hlow c.red) (hhigh c.green) (hlow c.green)
    (hhigh c.blue) (hlow c.blue)
  rw [channel_digits, channel_digits, channel_digits] at hlong
  rw [toList_text]
  exact hlong

theorem read_text (c : Color) : Color.read c.text = .ok c := read_eq_ok.2 (spelled_text c)

theorem text_inj {c c' : Color} : c.text = c'.text ↔ c = c' := by
  constructor
  · intro h
    have hread := read_text c
    rw [h, read_text] at hread
    exact (Except.ok.inj hread).symm
  · rintro rfl
    rfl

/-- A text with the digits of a short colour doubled. -/
def long : List Char → List Char
  | ['#', r, g, b] => ['#', r, r, g, g, b, b]
  | cs => cs

/-- A text with doubled digits and in lower case. -/
def normal (cs : List Char) : List Char := (long cs).map Char.toLower

/-- Every text of a colour has the written form of the colour as its normal form. -/
theorem Spelled.normal_eq (h : Spelled cs c) : normal cs = c.text.toList := by
  rw [toList_text]
  cases h with
  | short hr hg hb =>
    rw [channelDigits_channel hr.1 hr.1, channelDigits_channel hg.1 hg.1,
      channelDigits_channel hb.1 hb.1, ← hr.toLower, ← hg.toLower, ← hb.toLower]
    rfl
  | long hr hr' hg hg' hb hb' =>
    rw [channelDigits_channel hr.1 hr'.1, channelDigits_channel hg.1 hg'.1,
      channelDigits_channel hb.1 hb'.1, ← hr.toLower, ← hr'.toLower, ← hg.toLower, ← hg'.toLower,
      ← hb.toLower, ← hb'.toLower]
    rfl

/-! ## The law -/

/-- The laws of colours and their texts. -/
structure TextLaws : Prop where
  accepted : ∀ s, (∃ c, Color.read s = .ok c) ↔
    ∃ ds, s.toList = '#' :: ds ∧ (ds.length = 3 ∨ ds.length = 6) ∧ ∀ d ∈ ds, d ∈ digits
  /-- Each channel is a pair of digits, or one digit twice. -/
  channels : ∀ s c, Color.read s = .ok c ↔ Spelled s.toList c
  refused : ∀ s, (∀ c, Color.read s ≠ .ok c) → Color.read s = .error (.badColor s)
  written : ∀ c : Color, ∃ ds, c.text.toList = '#' :: ds ∧ ds.length = 6 ∧
    ∀ d ∈ ds, d ∈ lowerDigits
  readBack : ∀ c : Color, Color.read c.text = .ok c
  /-- Writing what was read gives a text that reading and writing leave alone. -/
  settled : ∀ s c, Color.read s = .ok c → ∃ again, Color.read c.text = .ok again ∧
    again.text = c.text
  same : ∀ s s' c c', Color.read s = .ok c → Color.read s' = .ok c' →
    (c = c' ↔ normal s.toList = normal s'.toList)

/-- Colours are told from each other by the long forms of their texts. -/
theorem colors_are_told_by_their_long_forms : TextLaws := by
  refine ⟨fun s => ?_, fun s c => read_eq_ok, fun s hs => ?_, fun c => ?_, read_text, ?_, ?_⟩
  · simp only [read_eq_ok]
    exact exists_spelled
  · simp only [ne_eq, read_eq_ok] at hs
    exact read_eq_error.2 ⟨hs, rfl⟩
  · refine ⟨_, toList_text c, rfl, ?_⟩
    simp [channelDigits, hexDigit_mem, high_lt, low_lt]
  · intro s c _
    exact ⟨c, read_text c, rfl⟩
  · intro s s' c c' h h'
    rw [(read_eq_ok.1 h).normal_eq, (read_eq_ok.1 h').normal_eq, String.toList_inj, text_inj]

example : Color.read "#aB3" = .ok ⟨0xaa, 0xbb, 0x33⟩ := by decide

example : Color.read "#aB3d" = .error (.badColor "#aB3d") := by decide

end Color

end Highlighter
