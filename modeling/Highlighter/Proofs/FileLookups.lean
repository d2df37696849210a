-- The laws of look-ups by file. A file leads to the first accepted lexer one of whose well-formed globs
-- matches its name. Over all registrations the globs in a registry stay those of its lexers, so it makes
-- no difference when they were read, nor what stands between them that is no glob.
import Highlighter.Proofs.FileNames
import Highlighter.Proofs.GlobMatches
import Highlighter.Proofs.GlobTexts
import Highlighter.Proofs.Setups

namespace Highlighter

namespace Lexer

/-- One of the well-formed globs of the lexer matches the name of a file. -/
def Serves (l : Lexer) (filename : String) : Prop :=
  ∃ text ∈ l.info.filenames, ∃ tokens, Glob.Spelled true text.toList tokens ∧
    Glob.Matches tokens filename.toList

/-- The globs of the lexer that are well-formed. -/
def globs (l : Lexer) : List Glob := l.info.filenames.filterMap fun text => (Glob.read text).toOption

/-- The lexer without its malformed globs. -/
def tidy (l : Lexer) : Lexer :=
  { l with
    info := { l.info with filenames := l.info.filenames.filter fun text => (Glob.read text).isOk } }

variable {l : Lexer} {g : Glob} {filename : String}

theorem mem_globs :
    g ∈ l.globs ↔ ∃ text ∈ l.info.filenames, Glob.Spelled true text.toList g.tokens := by
  have hread : ∀ text, (Glob.read text).toOption = some g ↔ Glob.read text = .ok g := by
    intro text
    cases Glob.read text <;> simp [Except.toOption]
  unfold globs
  simp only [List.mem_filterMap, hread, Glob.read_eq_ok]

theorem any_globs : l.globs.any (·.matchText filename) = true ↔ l.Serves filename := by
  simp only [List.any_eq_true, mem_globs, Glob.matchText_iff]
  constructor
  · rintro ⟨g, ⟨text, htext, hspelled⟩, hmatches⟩
    exact ⟨text, htext, g.tokens, hspelled, hmatches⟩
  · rintro ⟨text, htext, tokens, hspelled, hmatches⟩
    exact ⟨⟨tokens⟩, ⟨text, htext, hspelled⟩, hmatches⟩

/-- What is left of the globs is those that are well-formed. -/
theorem mem_filenames_tidy {text : String} : text ∈ l.tidy.info.filenames ↔
    text ∈ l.info.filenames ∧ ∃ tokens, Glob.Spelled true text.toList tokens := by
  have hread : (Glob.read text).isOk = true ↔ ∃ g, Glob.read text = .ok g := by
    cases Glob.read text <;> simp [Except.isOk, Except.toBool]
  have hspelled : (∃ g, Glob.read text = .ok g) ↔
      ∃ tokens, Glob.Spelled true text.toList tokens := by
    simp only [Glob.read_eq_ok]
    exact ⟨fun ⟨g, h⟩ => ⟨g.tokens, h⟩, fun ⟨tokens, h⟩ => ⟨⟨tokens⟩, h⟩⟩
  unfold tidy
  rw [List.mem_filter, hread, hspelled]

theorem globs_tidy (l : Lexer) : l.tidy.globs = l.globs := by
  unfold globs tidy
  rw [List.filterMap_filter]
  congr 1
  funext text
  cases Glob.read text <;> rfl

/-- The lexer is the first of some that serve a file. -/
structure FirstServer (known : List Lexer) (filename : String) (l : Lexer) : Prop where
  serves : l.Serves filename
  first : ∃ before after, known = before ++ l :: after ∧ ∀ other ∈ before, ¬ other.Serves filename

end Lexer

namespace Registry

/-! ## The globs of a registry -/

/-- The entry of a lexer. -/
def entryOf (l : Lexer) : RegistryEntry := ⟨l, l.globs⟩

section

variable {r r' : Registry} {l : Lexer} {known calls : List Lexer} {filename : String}

/-- Whatever is registered, the globs stay beside the lexers that they are from. -/
theorem entries_registerAll (r : Registry) (calls : List Lexer) :
    (r.registerAll calls).entries = r.entries ++ (r.accepted calls).map entryOf := by
  induction calls generalizing r with
  | nil => simp [registerAll, accepted]
  | cons l calls ih =>
    rw [registerAll, accepted, ih]
    cases hadded : (r.register l).added with
    | false => rw [register_of_refused hadded, if_neg Bool.false_ne_true]
    | true =>
      rw [register_of_added hadded, if_pos rfl, List.map_cons, List.append_assoc,
        List.singleton_append]
      rfl

theorem forFilename?_eq (h : r.entries = known.map entryOf) (filename : String) :
    r.forFilename? filename = known.find? fun l => l.globs.any (·.matchText filename) := by
  unfold forFilename?
  rw [h, List.find?_map, Option.map_map]
  exact Option.map_id'

theorem forFilename?_eq_some (h : r.entries = known.map entryOf) :
    r.forFilename? filename = some l ↔ l.FirstServer known filename := by
  rw [forFilename?_eq h, List.find?_eq_some_iff_append]
  simp only [Lexer.any_globs, Bool.not_eq_true', ← Bool.not_eq_true]
  exact ⟨fun h => ⟨h.1, h.2⟩, fun h => ⟨h.serves, h.first⟩⟩

theorem forFilename?_eq_none (h : r.entries = known.map entryOf) :
    r.forFilename? filename = none ↔ ∀ l ∈ known, ¬ l.Serves filename := by
  rw [forFilename?_eq h, List.find?_eq_none]
  simp only [Lexer.any_globs]

theorem entries_calls (calls : List Lexer) :
    (empty.registerAll calls).entries = (empty.accepted calls).map entryOf :=
  entries_registerAll empty calls

/-! ## Malformed globs -/

/-- Whether a lexer is accepted has nothing to do with its globs, nor with those of the lexers before
it. -/
theorem accepted_tidy (h : Knows r known) (h' : Knows r' (known.map Lexer.tidy)) :
    r'.accepted (calls.map Lexer.tidy) = (r.accepted calls).map Lexer.tidy := by
  induction calls generalizing r r' known with
  | nil => rfl
  | cons l calls ih =>
    -- Names decide, and they are the same on both sides.
    have hsame : (r'.register l.tidy).added = (r.register l).added := by
      rw [Bool.eq_iff_iff, h.added_iff, h'.added_iff, List.forall_mem_map]
      rfl
    rw [List.map_cons, accepted, accepted, hsame]
    cases hadded : (r.register l).added with
    | false =>
      rw [hadded] at hsame
      rw [register_of_refused hadded, register_of_refused hsame]
      exact ih h h'
    | true =>
      rw [hadded] at hsame
      have hnext := h'.add hsame
      rw [← List.map_singleton, ← List.map_append] at hnext
      rw [if_pos rfl, if_pos rfl, List.map_cons, ih (h.add hadded) hnext]

/-- Without the malformed globs of any lexers the answers are the same. -/
theorem forFilename?_tidy (calls : List Lexer) (filename : String) :
    (empty.registerAll (calls.map Lexer.tidy)).forFilename? filename =
      ((empty.registerAll calls).forFilename? filename).map Lexer.tidy := by
  have haccepted : empty.accepted (calls.map Lexer.tidy) =
      (empty.accepted calls).map Lexer.tidy := accepted_tidy knows_empty knows_empty
  rw [forFilename?_eq (entries_calls _), forFilename?_eq (entries_calls _), haccepted, List.find?_map]
  congr 1
  unfold Function.comp
  simp only [Lexer.globs_tidy]

/-! ## Refused lexers -/

/-- A call that is refused is as if it had not been made. -/
theorem registerAll_of_refused (before after : List Lexer)
    (h : ((empty.registerAll before).register l).added = false) :
    empty.registerAll (before ++ l :: after) = empty.registerAll (before ++ after) := by
  rw [registerAll_append, registerAll_append, registerAll, register_of_refused h]

/-! ## Paths -/

theorem forPath?_of_name {path : List UInt8} {name : String} (h : FileName.NamesFile path name)
    (r : Registry) : r.forPath? path = r.forFilename? name := by
  unfold forPath?
  rw [FileName.ofPath?_eq_some.2 h, Option.bind_some]

theorem forPath?_of_no_name {path : List UInt8} (h : ∀ name, ¬ FileName.NamesFile path name)
    (r : Registry) : r.forPath? path = none := by
  have hnone : FileName.ofPath? path = none := by
    rw [Option.eq_none_iff_forall_ne_some]
    exact fun name hname => h name (FileName.ofPath?_eq_some.1 hname)
  unfold forPath?
  rw [hnone, Option.bind_none]

end

/-! ## The files of Alba -/

/-- The name of a file ends as those of Alba do. -/
def IsAlbaName (filename : String) : Prop :=
  ".al".toList <:+ filename.toList ∨ ".ali".toList <:+ filename.toList

theorem serves_alba {l : Lexer} {c : Config} (h : Alba.lexer c.keywords = .ok l) {filename : String} :
    l.Serves filename ↔ IsAlbaName filename := by
  have hglobs : l.globs =
      [⟨.anyText :: ".al".toList.map .char⟩, ⟨.anyText :: ".ali".toList.map .char⟩] := by
    unfold Lexer.globs
    rw [Alba.info_of_lexer h]
    rfl
  rw [← Lexer.any_globs, hglobs]
  simp only [List.any_cons, List.any_nil, Bool.or_false, Bool.or_eq_true, Glob.matchText_iff,
    Glob.matches_ending_iff, IsAlbaName]

/-- A setup leaves the one lexer that it registers. -/
theorem entries_setup {c : Config} {m : Metadata} (h : (empty.setup c).outcome = .ok m) :
    ∃ l, Alba.lexer c.keywords = .ok l ∧ (empty.setup c).registry.entries = [l].map entryOf := by
  obtain ⟨l, s, hl, _, hnext⟩ := setup_of_ok h
  refine ⟨l, hl, ?_⟩
  rw [hnext, (registerStyle_entries _ s).1]
  exact entries_calls [l]

/-! ## The law -/

/-- The laws of look-ups by file, after registrations in a row and after a setup alone. -/
structure FileLaws (calls : List Lexer) (c : Config) : Prop where
  /-- The answer is the first accepted lexer that serves the file, if there is one. -/
  found : ∀ filename l, (empty.registerAll calls).forFilename? filename = some l ↔
    l.FirstServer (empty.accepted calls) filename
  missing : ∀ filename, (empty.registerAll calls).forFilename? filename = none ↔
    ∀ l ∈ empty.accepted calls, ¬ l.Serves filename
  /-- Only the malformed globs of a lexer are taken out. -/
  wellFormed : ∀ l ∈ calls, ∀ text, text ∈ l.tidy.info.filenames ↔
    text ∈ l.info.filenames ∧ ∃ tokens, Glob.Spelled true text.toList tokens
  /-- The answers stay the same without any of the malformed globs. -/
  malformed : ∀ filename, (empty.registerAll (calls.map Lexer.tidy)).forFilename? filename =
    ((empty.registerAll calls).forFilename? filename).map Lexer.tidy
  /-- The registry stays the same without a lexer that is refused. -/
  refused : ∀ before l after, calls = before ++ l :: after →
    ((empty.registerAll before).register l).added = false →
    empty.registerAll calls = empty.registerAll (before ++ after)
  alba : ∀ m, (empty.setup c).outcome = .ok m → ∃ l, Alba.lexer c.keywords = .ok l ∧
    (∀ filename, (empty.setup c).registry.forFilename? filename = some l ↔ IsAlbaName filename) ∧
    ∀ filename, (empty.setup c).registry.forFilename? filename = none ↔ ¬ IsAlbaName filename
  /-- A path is looked up by the name at its end. -/
  named : ∀ (r : Registry) path name, FileName.NamesFile path name →
    r.forPath? path = r.forFilename? name
  unnamed : ∀ (r : Registry) path, (∀ name, ¬ FileName.NamesFile path name) → r.forPath? path = none

/-- Files lead to the first accepted lexer that serves them, those of Alba after a setup to its
lexer. -/
theorem files_lead_to_their_first_server (calls : List Lexer) (c : Config) : FileLaws calls c := by
  refine ⟨fun _ _ => forFilename?_eq_some (entries_calls calls),
    fun _ => forFilename?_eq_none (entries_calls calls), fun _ _ _ => Lexer.mem_filenames_tidy,
    forFilename?_tidy calls, ?_, ?_, fun r _ _ h => forPath?_of_name h r,
    fun r _ h => forPath?_of_no_name h r⟩
  · rintro before l after rfl hrefused
    exact registerAll_of_refused before after hrefused
  · intro m hok
    obtain ⟨l, hl, hentries⟩ := entries_setup hok
    refine ⟨l, hl, fun filename => ?_, fun filename => ?_⟩
    · rw [← serves_alba hl, forFilename?_eq_some hentries]
      exact ⟨Lexer.FirstServer.serves, fun hserves => ⟨hserves, [], [], rfl, by simp⟩⟩
    · rw [← serves_alba hl, forFilename?_eq_none hentries, List.forall_mem_singleton]

end Registry

end Highlighter
