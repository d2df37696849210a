-- The name at the end of a path, said without taking the path apart: a component that starts the path or
-- follows a separator, with nothing after it but separators and single dots.
import Highlighter.Registry.FileName
import Mathlib.Data.List.Basic

namespace Highlighter.FileName

/-! ## The end of a path -/

/-- What may follow the last component: separators, each with nothing or a single dot after it. -/
inductive Idle : List UInt8 → Prop where
  | nil : Idle []
  | separator {trail : List UInt8} : Idle trail → Idle (separator :: trail)
  | dot {trail : List UInt8} : Idle trail → Idle (separator :: dot :: trail)

/-- Bytes that name something: there is one at least, none is a separator, and they are no single
dot. -/
structure Component (c : List UInt8) : Prop where
  ne_nil : c ≠ []
  ne_dot : c ≠ [dot]
  noSeparator : separator ∉ c

/-- The path ends in a component. -/
structure EndsIn (path c : List UInt8) : Prop where
  component : Component c
  split : ∃ front trail, path = front ++ c ++ trail ∧ Idle trail ∧
    (front = [] ∨ ∃ before, front = before ++ [separator])

/-- The path ends in the name of a file, which is text and does not lead upward. -/
structure NamesFile (path : List UInt8) (name : String) : Prop where
  ending : EndsIn path (bytes name)
  notUpward : bytes name ≠ [dot, dot]

section

variable {path c trail : List UInt8} {s : String}

/-! ## Pieces of a path -/

theorem components_append (xs ys : List UInt8) :
    components (xs ++ separator :: ys) = components xs ++ components ys := by
  have hpieces : (xs ++ separator :: ys).splitOn separator =
      xs.splitOn separator ++ ys.splitOn separator :=
    List.splitOnP_append_cons xs ys (beq_self_eq_true separator)
  unfold components
  rw [hpieces, List.filter_append]

theorem components_of_noSeparator (h : separator ∉ c) :
    components c = [c].filter fun c => c != [] && c != [dot] := by
  have hpieces : c.splitOn separator = [c] := by
    refine List.splitOnP_eq_singleton fun b hb => ?_
    rw [beq_eq_false_iff_ne]
    exact fun hsep => h (hsep ▸ hb)
  unfold components
  rw [hpieces]

theorem components_nil : components [] = [] := components_of_noSeparator List.not_mem_nil

theorem components_dot : components [dot] = [] := components_of_noSeparator (by decide)

theorem Component.components_eq (h : Component c) : components c = [c] := by
  rw [components_of_noSeparator h.noSeparator]
  simp [h.ne_nil, h.ne_dot]

theorem Idle.components_append (h : Idle trail) (xs : List UInt8) :
    components (xs ++ trail) = components xs := by
  induction h generalizing xs with
  | nil => rw [List.append_nil]
  | @separator trail _ ih =>
    rw [FileName.components_append, ← List.nil_append trail, ih, components_nil, List.append_nil]
  | @dot trail _ ih =>
    rw [FileName.components_append, ← List.singleton_append, ih, components_dot, List.append_nil]

theorem EndsIn.getLast?_components (h : EndsIn path c) : (components path).getLast? = some c := by
  obtain ⟨hc, front, trail, rfl, htrail, rfl | ⟨before, rfl⟩⟩ := h
  · rw [List.nil_append, htrail.components_append, hc.components_eq]
    rfl
  · rw [htrail.components_append, List.append_assoc, List.singleton_append, components_append,
      hc.components_eq, List.getLast?_concat]

/-! ## Every path -/

theorem EndsIn.cons (h : EndsIn path c) (b : UInt8) : ∃ c, EndsIn (b :: path) c := by
  obtain ⟨hc, front, trail, rfl, htrail, rfl | ⟨before, rfl⟩⟩ := h
  · by_cases hb : b = separator
    · subst hb
      exact ⟨c, hc, [separator], trail, rfl, htrail, Or.inr ⟨[], rfl⟩⟩
    · have hcomponent : Component (b :: c) :=
        ⟨List.cons_ne_nil _ _, by simp [hc.ne_nil], by simp [Ne.symm hb, hc.noSeparator]⟩
      exact ⟨b :: c, hcomponent, [], trail, rfl, htrail, Or.inl rfl⟩
  · exact ⟨c, hc, b :: before ++ [separator], trail, rfl, htrail, Or.inr ⟨b :: before, rfl⟩⟩

theorem endsIn_of_idle {b : UInt8} (hb : b ≠ separator) (hdot : b ≠ dot) (h : Idle trail) :
    EndsIn (b :: trail) [b] :=
  ⟨⟨List.cons_ne_nil _ _, by simpa using hdot, by simpa using Ne.symm hb⟩, [], trail, rfl, h,
    Or.inl rfl⟩

theorem endsIn_of_dot {b : UInt8} (hb : b ≠ separator) (h : Idle trail) :
    EndsIn (b :: dot :: trail) [b, dot] :=
  ⟨⟨List.cons_ne_nil _ _, by simp, by simpa using ⟨Ne.symm hb, by decide⟩⟩, [], trail, rfl, h,
    Or.inl rfl⟩

/-- A path ends in a component, or it names nothing: it is idle from its start or after one dot. -/
theorem endsIn_or_idle (path : List UInt8) :
    (∃ c, EndsIn path c) ∨ Idle path ∨ ∃ trail, path = dot :: trail ∧ Idle trail := by
  -- Before a path that names nothing, a byte that is no separator is the start of its only component.
  induction path with
  | nil => exact Or.inr (Or.inl .nil)
  | cons b path ih =>
    by_cases hb : b = separator
    · subst hb
      obtain ⟨c, h⟩ | h | ⟨trail, rfl, h⟩ := ih
      · exact Or.inl (h.cons separator)
      · exact Or.inr (Or.inl (.separator h))
      · exact Or.inr (Or.inl (.dot h))
    · obtain ⟨c, h⟩ | h | ⟨trail, rfl, h⟩ := ih
      · exact Or.inl (h.cons b)
      · by_cases hdot : b = dot
        · exact Or.inr (Or.inr ⟨path, by rw [hdot], h⟩)
        · exact Or.inl ⟨[b], endsIn_of_idle hb hdot h⟩
      · exact Or.inl ⟨[b, dot], endsIn_of_dot hb h⟩

theorem getLast?_components : (components path).getLast? = some c ↔ EndsIn path c := by
  refine ⟨fun h => ?_, EndsIn.getLast?_components⟩
  obtain ⟨found, hfound⟩ | hidle | ⟨trail, rfl, hidle⟩ := endsIn_or_idle path
  · rw [hfound.getLast?_components] at h
    cases h
    exact hfound
  · rw [← List.nil_append path, hidle.components_append, components_nil] at h
    cases h
  · rw [← List.singleton_append, hidle.components_append, components_dot] at h
    cases h

/-- The last component of a path, unless it leads upward. -/
theorem last?_eq_some : last? path = some c ↔ EndsIn path c ∧ c ≠ [dot, dot] := by
  unfold last?
  rw [Option.filter_eq_some_iff, getLast?_components, bne_iff_ne]

/-! ## Names that are text -/

theorem toList_loop (bs : ByteArray) (i : Nat) (read : List UInt8) :
    ByteArray.toList.loop bs i read = read.reverse ++ bs.data.toList.drop i := by
  fun_induction ByteArray.toList.loop bs i read with
  | case1 i read hi ih =>
    have hlength : i < bs.data.toList.length := by simpa using hi
    have hget : bs.get! i = bs.data.toList[i] := by
      simp [ByteArray.get!, hi]
    rw [ih, List.drop_eq_getElem_cons hlength, hget, List.reverse_cons, List.append_assoc,
      List.singleton_append]
  | case2 i read hi =>
    have hlength : bs.data.toList.length ≤ i := by simpa using hi
    rw [List.drop_eq_nil_of_le hlength, List.append_nil]

theorem bytes_eq (s : String) : bytes s = s.toByteArray.data.toList := by
  unfold bytes ByteArray.toList
  rw [toList_loop]
  rfl

theorem text?_eq_some : text? c = some s ↔ c = bytes s := by
  unfold text? String.fromUTF8?
  rw [bytes_eq]
  constructor
  · intro h
    split at h
    · cases h
      rfl
    · cases h
  · rintro rfl
    rw [Array.toArray_toList, dif_pos s.isValidUTF8]
    rfl

theorem ofPath?_eq_some : ofPath? path = some s ↔ NamesFile path s := by
  have hname : ofPath? path = some s ↔ last? path = some (bytes s) := by
    unfold ofPath?
    simp [Option.bind_eq_some_iff, text?_eq_some]
  rw [hname, last?_eq_some]
  exact ⟨fun h => ⟨h.1, h.2⟩, fun h => ⟨h.ending, h.notUpward⟩⟩

end

end Highlighter.FileName
