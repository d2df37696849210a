-- A place in a text: the text before it, the text after it, and how many bytes lie before it. Text
-- before a place is kept backwards, so that a place is one step away from its neighbours.
import Highlighter.Text.Word

namespace Highlighter

/-- A place between two characters of a text. -/
structure Place where
  /-- The text before the place, its last character first. -/
  before : List Char
  /-- The text from the place on. -/
  rest : List Char
  /-- The bytes before the place, counted in UTF-8. -/
  offset : Nat
  deriving DecidableEq

namespace Place

/-- The place before the first character. -/
def start (text : List Char) : Place := ⟨[], text, 0⟩

/-- The character before the place; none at the start of the text. -/
def last (p : Place) : Option Char := p.before.head?

/-- The place after one more character, which must be the next one. -/
def after (p : Place) (c : Char) (rest : List Char) : Place :=
  ⟨c :: p.before, rest, p.offset + c.utf8Size⟩

@[simp] theorem last_start (text : List Char) : (start text).last = none := rfl

@[simp] theorem last_after (p : Place) (c : Char) (rest : List Char) :
    (p.after c rest).last = some c := rfl

/-- The place `n` characters on, or the end of the text. -/
def forward : Nat → Place → Place
  | 0, p => p
  | n + 1, p =>
    match p.rest with
    | [] => p
    | c :: rest => forward n (p.after c rest)

theorem forward_add (p : Place) (m n : Nat) : p.forward (m + n) = (p.forward m).forward n := by
  induction m generalizing p with
  | zero => rw [Nat.zero_add, forward]
  | succ m ih =>
    rw [Nat.add_right_comm, forward, forward]
    split
    · rename_i hend
      cases n <;> simp [forward, hend]
    · exact ih _

/-- The place with the given offset in what follows the offset `here`; none inside a character or past
the end. -/
def seek? (offset : Nat) : List Char → Nat → List Char → Option Place
  | before, here, [] => if here = offset then some ⟨before, [], here⟩ else none
  | before, here, c :: rest =>
    if here = offset then some ⟨before, c :: rest, here⟩
    else if here > offset then none
    else seek? offset (c :: before) (here + c.utf8Size) rest

/-- The place at a byte offset of a text; none inside a character or past the end. -/
def at? (text : List Char) (offset : Nat) : Option Place := seek? offset [] 0 text

/-- The first characters of a text that begins at offset `here`, up to offset `stop`. -/
def upTo (stop : Nat) : Nat → List Char → List Char
  | _, [] => []
  | here, c :: rest => if here < stop then c :: upTo stop (here + c.utf8Size) rest else []

/-- The text between two places of one text. -/
def textTo (p q : Place) : List Char := upTo q.offset p.offset p.rest

/-- The character after the place. -/
def next? (p : Place) : Option Char := p.rest.head?

end Place

/-- A condition on a place that takes no text. -/
inductive Look where
  | textStart
  | textEnd
  /-- After a line feed or at the start. -/
  | lineStart
  | lineEnd
  /-- As `lineStart`, where a carriage return with or without a line feed ends a line, too. -/
  | anyLineStart
  | anyLineEnd
  /-- Between a word character and another; `ascii` restricts word characters to ASCII. -/
  | wordEdge (ascii : Bool)
  | noWordEdge (ascii : Bool)
  | wordStart (ascii : Bool)
  | wordEnd (ascii : Bool)
  /-- No word character before. -/
  | noWordBefore (ascii : Bool)
  /-- No word character after. -/
  | noWordAfter (ascii : Bool)
  deriving DecidableEq

namespace Look

/-- There is a word character. -/
def isWordAt (ascii : Bool) : Option Char → Bool
  | none => false
  | some c => Text.isWord c && (!ascii || c.toNat < 128)

/-- The condition holds at the place. -/
def holds : Look → Place → Bool
  | textStart, p => p.last.isNone
  | textEnd, p => p.rest.isEmpty
  | lineStart, p => p.last.isNone || p.last == some '\n'
  | lineEnd, p => p.rest.isEmpty || p.next? == some '\n'
  | anyLineStart, p =>
    p.last.isNone || p.last == some '\n' || (p.last == some '\r' && p.next? != some '\n')
  | anyLineEnd, p =>
    p.rest.isEmpty || p.next? == some '\r' || (p.next? == some '\n' && p.last != some '\r')
  | wordEdge ascii, p => isWordAt ascii p.last != isWordAt ascii p.next?
  | noWordEdge ascii, p => isWordAt ascii p.last == isWordAt ascii p.next?
  | wordStart ascii, p => !isWordAt ascii p.last && isWordAt ascii p.next?
  | wordEnd ascii, p => isWordAt ascii p.last && !isWordAt ascii p.next?
  | noWordBefore ascii, p => !isWordAt ascii p.last
  | noWordAfter ascii, p => !isWordAt ascii p.next?

/-- What comes before a place suffices to tell whether the condition holds. For line starts where a
carriage return ends a line, it does unless that stands just before. -/
def looksBehind : Look → Option Char → Bool
  | textStart, _ | lineStart, _ | noWordBefore _, _ => true
  | anyLineStart, last => last != some '\r'
  | _, _ => false

/-- The condition asks for word characters of all scripts. -/
def asksForWords : Look → Bool
  | wordEdge ascii | noWordEdge ascii | wordStart ascii | wordEnd ascii | noWordBefore ascii
  | noWordAfter ascii => !ascii
  | _ => false

end Look

end Highlighter
