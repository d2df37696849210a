-- Colours, written as `#` and three or six hexadecimal digits. A short form doubles each digit.
import Highlighter.Text.Labelled

namespace Highlighter

/-- A colour by its three channels. -/
structure Color where
  red : UInt8
  green : UInt8
  blue : UInt8
  deriving DecidableEq

namespace Color

/-! ## Writing -/

/-- The lower-case hexadecimal digit with a value below sixteen. -/
def hexDigit (n : Nat) : Char := Nat.digitChar n

/-- The two digits of a channel. -/
def channelDigits (c : UInt8) : List Char :=
  [hexDigit (c.toNat / 16), hexDigit (c.toNat % 16)]

/-- The long form of a colour. -/
def text (c : Color) : String :=
  String.ofList ('#' :: channelDigits c.red ++ channelDigits c.green ++ channelDigits c.blue)

/-- A colour as listings show it, by its channels. -/
def label (c : Color) : String :=
  Text.labelled "Color"
    [("r", toString c.red.toNat), ("g", toString c.green.toNat), ("b", toString c.blue.toNat)]

/-! ## Reading -/

/-- The value of a hexadecimal digit of either case. -/
def hexValue? (c : Char) : Option Nat :=
  if '0' ≤ c ∧ c ≤ '9' then some (c.toNat - '0'.toNat)
  else if 'a' ≤ c ∧ c ≤ 'f' then some (c.toNat - 'a'.toNat + 10)
  else if 'A' ≤ c ∧ c ≤ 'F' then some (c.toNat - 'A'.toNat + 10)
  else none

/-- The channel with two given digits. -/
def channel (high low : Nat) : UInt8 := UInt8.ofNat (high * 16 + low)

/-- The values of the first `n` characters, if all are digits, and the rest. -/
def takeDigits? : Nat → List Char → Option (List Nat × List Char)
  | 0, cs => some ([], cs)
  | _ + 1, [] => none
  | n + 1, c :: cs =>
    match hexValue? c, takeDigits? n cs with
    | some d, some (ds, rest) => some (d :: ds, rest)
    | _, _ => none

/-- The colour with these digits, three or six of them. -/
def ofDigits? : List Nat → Option Color
  | [r, g, b] => some ⟨channel r r, channel g g, channel b b⟩
  | [r, r', g, g', b, b'] => some ⟨channel r r', channel g g', channel b b'⟩
  | _ => none

/-- Reads a colour at the start of a text. Six digits are taken if they are there, or else three. -/
def take? : List Char → Option (Color × List Char)
  | '#' :: cs =>
    match (takeDigits? 6 cs).or (takeDigits? 3 cs) with
    | some (ds, rest) => (ofDigits? ds).map (·, rest)
    | none => none
  | _ => none

/-- Reads a text that is a colour and nothing else. -/
def read? (s : String) : Option Color :=
  match take? s.toList with
  | some (c, []) => some c
  | _ => none

end Color

end Highlighter
