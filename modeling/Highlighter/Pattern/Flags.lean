-- The flags under which a part of a pattern is read, and the blanks and comments that one of them
-- allows between its parts.
import Highlighter.Pattern.Expr

namespace Highlighter.Pattern

/-- The flags in force at some point of a pattern. -/
structure Flags where
  /-- `i`: a letter stands for both its cases. -/
  ignoreCase : Bool
  /-- `m`: `^` and `$` match at lines. -/
  multiLine : Bool
  /-- `s`: a dot takes line ends, too. -/
  dotAll : Bool
  /-- `U`: repetitions are lazy, and greedy with a question mark. -/
  swapGreed : Bool
  /-- `u`: classes and case go by Unicode, not by ASCII. -/
  unicode : Bool
  /-- `R`: a carriage return ends a line as a line feed does. -/
  crlf : Bool
  /-- `x`: blanks and comments are skipped. -/
  verbose : Bool
  deriving DecidableEq

namespace Flags

/-- The flags at the start of a pattern: only Unicode is on. -/
def initial : Flags := ⟨false, false, false, false, true, false, false⟩

/-- The flags with the one of this letter turned on or off. -/
def set? (flags : Flags) (letter : Char) (on : Bool) : Option Flags :=
  match letter with
  | 'i' => some { flags with ignoreCase := on }
  | 'm' => some { flags with multiLine := on }
  | 's' => some { flags with dotAll := on }
  | 'U' => some { flags with swapGreed := on }
  | 'u' => some { flags with unicode := on }
  | 'R' => some { flags with crlf := on }
  | 'x' => some { flags with verbose := on }
  | _ => none

/-- Reads letters up to a colon or a closing parenthesis, which is the first character of the rest.
After a dash the letters turn flags off. No letter and no dash comes twice, and a dash is not last.
`seen` holds the letters and the dash read so far, the latest first. -/
def read? (seen : List Char) (flags : Flags) : List Char → Option (Flags × List Char × List Char)
  | [] => none
  | c :: rest =>
    if c = ':' ∨ c = ')' then
      if seen.head? = some '-' then none else some (flags, seen, c :: rest)
    else if seen.contains c then none
    else if c = '-' then read? (c :: seen) flags rest
    else
      match flags.set? c (!seen.contains '-') with
      | none => none
      | some flags => read? (c :: seen) flags rest

/-- A set closed under case if the flags ask for it. -/
def closeCase (flags : Flags) (set : CharSet) : CharSet :=
  if !flags.ignoreCase then set
  else if flags.unicode then set.anyCase
  else set.anyAsciiCase

/-- One given character. Without Unicode only the letters of ASCII have another case. -/
def literal (flags : Flags) (c : Char) : Expr :=
  if flags.ignoreCase && flags.unicode then .ofSet false (.ofChars (Text.alike c))
  else if flags.ignoreCase then .ofSet true (CharSet.single c).anyAsciiCase
  else .text [c]

/-- A set as a whole, closed under case and then negated. Without Unicode it must stay within ASCII. -/
def finish? (flags : Flags) (negated : Bool) (set : CharSet) : Option CharSet :=
  let set := flags.closeCase set
  let set := if negated then set.compl else set
  if !flags.unicode && set.mem (Char.ofNat 128) then none else some set

/-- The characters with or without a property. Without Unicode the property means its ASCII members,
and a negation is refused, because it would take parts of characters. -/
def property? (flags : Flags) (p : CharProperty) (negated : Bool) : Option CharSet :=
  if flags.unicode then some (if negated then (CharSet.having p).compl else .having p)
  else if negated then none
  else some (CharSet.asciiHaving p)

/-- One character of a set that was read under the flags. -/
def oneOf (flags : Flags) (set : CharSet) : Expr := .ofSet (!flags.unicode) set

/-- The characters that a dot takes. -/
def dot? (flags : Flags) : Option CharSet :=
  if !flags.unicode then none
  else if flags.dotAll then some .any
  else if flags.crlf then some (CharSet.ofChars ['\n', '\r']).compl
  else some (CharSet.single '\n').compl

end Flags

/-- The rest after blanks and comments; a comment runs from `#` to the end of its line. -/
def skipVerbose (inComment : Bool) : List Char → List Char
  | [] => []
  | c :: rest =>
    if inComment then skipVerbose (c != '\n') rest
    else if Text.isSpace c then skipVerbose false rest
    else if c = '#' then skipVerbose true rest
    else c :: rest

/-- The rest after what the flags allow to skip. -/
def Flags.skip (flags : Flags) (cs : List Char) : List Char :=
  if flags.verbose then skipVerbose false cs else cs

end Highlighter.Pattern
