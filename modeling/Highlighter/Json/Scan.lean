-- The smallest parts of a JSON text: words, numbers and strings, and values that are passed over.
import Highlighter.Decimal.Shortest
import Highlighter.Json.Fault

namespace Highlighter.Json

/-! ## Words -/

/-- Reads the rest of a word. A wrong character counts as read. -/
def ident : List Char → Source → Except Fault Source
  | [], s => .ok s
  | expected :: more, s =>
    match s.rest with
    | [] => failAt .endInValue s
    | c :: _ =>
      if c = expected then ident more s.eat else .error (.located .expectedIdent s.peeked)

/-! ## Strings -/

/-- The value of four hexadecimal digits. -/
def hexValue? (cs : List Char) : Option Nat :=
  cs.foldl (fun value c =>
    let digit :=
      if '0' ≤ c ∧ c ≤ '9' then some (c.toNat - '0'.toNat)
      else if 'a' ≤ c ∧ c ≤ 'f' then some (c.toNat - 'a'.toNat + 10)
      else if 'A' ≤ c ∧ c ≤ 'F' then some (c.toNat - 'A'.toNat + 10)
      else none
    match value, digit with
    | some v, some d => some (v * 16 + d)
    | _, _ => none) (some 0)

/-- The bytes of a text, up to the number that matters. -/
def bytesUpTo (n : Nat) : List Char → Nat
  | [] => 0
  | c :: rest => if n ≤ c.utf8Size then n else c.utf8Size + bytesUpTo (n - c.utf8Size) rest

/-- Reads four hexadecimal digits. Four bytes are taken before they are looked at. -/
def hexFour (s : Source) : Except Fault (Nat × Source) :=
  if bytesUpTo 4 s.rest < 4 then .error (.located .endInString (s.position.afterBytes 4 s.rest))
  else
    match hexValue? (s.rest.take 4) with
    | some v => .ok (v, s.eat.eat.eat.eat)
    | none => .error (.located .invalidEscape (s.position.afterBytes 4 s.rest))

/-- Reads the second half of a pair of escapes for a character beyond 16 bits. -/
def lowSurrogate (high : Nat) (s : Source) : Except Fault (Char × Source) :=
  match s.rest with
  | [] => failAt .endInString s
  | '\\' :: _ =>
    let s := s.eat
    match s.rest with
    | [] => failAt .endInString s
    | 'u' :: _ =>
      match hexFour s.eat with
      | .error e => .error e
      | .ok (low, s) =>
        if low < 0xDC00 ∨ 0xDFFF < low then failAt .loneSurrogate s
        else .ok (Char.ofNat ((high - 0xD800) * 0x400 + (low - 0xDC00) + 0x10000), s)
    | _ => .error (.located .endOfHexEscape s.peeked)
  | _ => .error (.located .endOfHexEscape s.peeked)

/-- Reads a character given by four hexadecimal digits. -/
def unicodeEscape (s : Source) : Except Fault (Char × Source) :=
  match hexFour s with
  | .error e => .error e
  | .ok (v, s) =>
    if v < 0xD800 ∨ 0xDFFF < v then .ok (Char.ofNat v, s)
    else if 0xDC00 ≤ v then failAt .loneSurrogate s
    else lowSurrogate v s

/-- The character that an escape of one letter stands for. -/
def shortEscape? : Char → Option Char
  | '"' => some '"'
  | '\\' => some '\\'
  | '/' => some '/'
  | 'b' => some '\x08'
  | 'f' => some '\x0c'
  | 'n' => some '\n'
  | 'r' => some '\r'
  | 't' => some '\t'
  | _ => none

/-- Reads what follows a backslash. -/
def escaped (s : Source) : Except Fault (Char × Source) :=
  match s.rest with
  | [] => failAt .endInString s
  | 'u' :: _ => unicodeEscape s.eat
  | c :: _ =>
    match shortEscape? c with
    | some d => .ok (d, s.eat)
    | none => .error (.located .invalidEscape s.peeked)

/-- Reads a string up to its closing quote. `fuel` bounds the number of characters. -/
def stringChars : Nat → Source → Except Fault (List Char × Source)
  | 0, s => failAt .endInString s
  | fuel + 1, s =>
    match s.rest with
    | [] => failAt .endInString s
    | '"' :: _ => .ok ([], s.eat)
    | '\\' :: _ =>
      match escaped s.eat with
      | .error e => .error e
      | .ok (c, s) =>
        match stringChars fuel s with
        | .error e => .error e
        | .ok (cs, s) => .ok (c :: cs, s)
    | c :: _ =>
      if c.toNat < 32 then .error (.located .controlCharacter s.peeked)
      else
        match stringChars fuel s.eat with
        | .error e => .error e
        | .ok (cs, s) => .ok (c :: cs, s)

/-- Reads a string, given the source after its opening quote. -/
def stringRest (s : Source) : Except Fault (String × Source) :=
  match stringChars (s.rest.length + 1) s with
  | .error e => .error e
  | .ok (cs, s) => .ok (String.ofList cs, s)

/-! ## Numbers -/

/-- Passes over digits. -/
def skipDigits : Nat → Source → Source
  | 0, s => s
  | fuel + 1, s =>
    match s.rest with
    | c :: _ => if c.isDigit then skipDigits fuel s.eat else s
    | [] => s

/-- The source after all digits at its start. -/
def afterDigits (s : Source) : Source := skipDigits s.rest.length s

/-- The first character is a digit. -/
def startsWithDigit (s : Source) : Bool := s.rest.head?.any Char.isDigit

/-- A power of ten as a double. -/
def powerOfTen (n : Nat) : Float := Float.ofScientific 1 false n

/-- A double from its decimal significand and exponent; none if it is too large. `fuel` bounds the
number of steps down to a power of ten within range. -/
def scaled? : Nat → Float → Int → Option Float
  | 0, f, _ => some f
  | fuel + 1, f, exponent =>
    if exponent.natAbs ≤ 308 then
      if 0 ≤ exponent then
        let product := f * powerOfTen exponent.natAbs
        if product.isInf then none else some product
      else some (f / powerOfTen exponent.natAbs)
    else if f == 0.0 then some f
    else if 0 ≤ exponent then none
    else scaled? fuel (f / powerOfTen 308) (exponent + 308)

/-- How messages show a double. -/
def shownFloat (negative : Bool) (f : Float) : String :=
  "floating point `" ++ Decimal.text (if negative then -f else f) ++ "`"

/-- Ends the reading of a number that is no integer. -/
def finishFloat (negative : Bool) (significand : Nat) (exponent : Int) (s : Source) :
    Except Fault (String × Source) :=
  match scaled? 10 significand.toUInt64.toFloat exponent with
  | some f => .ok (shownFloat negative f, s)
  | none => failAt .numberOutOfRange s

/-- Reads the digits of an exponent while it fits in 31 bits; otherwise says so. -/
def exponentDigits : Nat → Nat → Source → (Option Nat × Source)
  | 0, value, s => (some value, s)
  | fuel + 1, value, s =>
    match s.rest with
    | c :: _ =>
      if c.isDigit then
        let next := value * 10 + (c.toNat - '0'.toNat)
        if Nat.pow 2 31 ≤ next then (none, s.eat) else exponentDigits fuel next s.eat
      else (some value, s)
    | [] => (some value, s)

/-- Reads an exponent from its letter on. -/
def exponentPart (negative : Bool) (significand : Nat) (base : Int) (s : Source) :
    Except Fault (String × Source) :=
  let s := s.eat
  let (down, s) :=
    match s.rest with
    | '+' :: _ => (false, s.eat)
    | '-' :: _ => (true, s.eat)
    | _ => (false, s)
  match s.rest with
  | [] => failAt .endInValue s
  | c :: _ =>
    if !c.isDigit then .error (.located .invalidNumber s.peeked)
    else
      match exponentDigits s.rest.length 0 s with
      | (some e, s) => finishFloat negative significand (if down then base - e else base + e) s
      | (none, s) =>
        if significand ≠ 0 ∧ !down then failAt .numberOutOfRange s
        else .ok (shownFloat negative 0.0, afterDigits s)

/-- Ends the reading of digits: an exponent follows or nothing does. -/
def afterFraction (negative : Bool) (significand : Nat) (exponent : Int) (s : Source) :
    Except Fault (String × Source) :=
  match s.rest with
  | 'e' :: _ => exponentPart negative significand exponent s
  | 'E' :: _ => exponentPart negative significand exponent s
  | _ => finishFloat negative significand exponent s

/-- Reads the digits after a point while the significand fits in 64 bits; what does not fit is passed
over. -/
def fractionDigits : Nat → Nat → Nat → Source → (Nat × Nat × Source)
  | 0, significand, count, s => (significand, count, s)
  | fuel + 1, significand, count, s =>
    match s.rest with
    | c :: _ =>
      if c.isDigit then
        let next := significand * 10 + (c.toNat - '0'.toNat)
        if Nat.pow 2 64 ≤ next then (significand, count, afterDigits s)
        else fractionDigits fuel next (count + 1) s.eat
      else (significand, count, s)
    | [] => (significand, count, s)

/-- Reads a fraction from its point on. -/
def fractionPart (negative : Bool) (significand : Nat) (exponent : Int) (s : Source) :
    Except Fault (String × Source) :=
  let s := s.eat
  if startsWithDigit s then
    let (significand, count, s) := fractionDigits s.rest.length significand 0 s
    afterFraction negative significand (exponent - count) s
  else
    match s.rest with
    | [] => failPeeked .endInValue s
    | _ => failPeeked .invalidNumber s

/-- Reads the digits of an integer while it fits in 64 bits, and counts the digits after that. -/
def integerDigits : Nat → Nat → Nat → Source → (Nat × Nat × Source)
  | 0, value, extra, s => (value, extra, s)
  | fuel + 1, value, extra, s =>
    match s.rest with
    | c :: _ =>
      if c.isDigit then
        let next := value * 10 + (c.toNat - '0'.toNat)
        if extra = 0 ∧ next < Nat.pow 2 64 then integerDigits fuel next 0 s.eat
        else integerDigits fuel value (extra + 1) s.eat
      else (value, extra, s)
    | [] => (value, extra, s)

/-- Ends the reading of an integer, or goes on with a fraction or an exponent. -/
def afterInteger (negative : Bool) (value extra : Nat) (s : Source) :
    Except Fault (String × Source) :=
  match s.rest with
  | '.' :: _ => fractionPart negative value extra s
  | 'e' :: _ => exponentPart negative value extra s
  | 'E' :: _ => exponentPart negative value extra s
  | _ =>
    if 0 < extra then finishFloat negative value extra s
    else if !negative then .ok ("integer `" ++ toString value ++ "`", s)
    else if value = 0 ∨ Nat.pow 2 63 < value then .ok (shownFloat true value.toUInt64.toFloat, s)
    else .ok ("integer `-" ++ toString value ++ "`", s)

/-- Reads a number, given the source after its sign, and gives how messages show it. -/
def number (negative : Bool) (s : Source) : Except Fault (String × Source) :=
  match s.rest with
  | [] => failAt .endInValue s
  | '0' :: _ =>
    if startsWithDigit s.eat then failPeeked .invalidNumber s.eat
    else afterInteger negative 0 0 s.eat
  | c :: _ =>
    if c.isDigit then
      let (value, extra, s) := integerDigits s.rest.length 0 0 s
      afterInteger negative value extra s
    else .error (.located .invalidNumber s.peeked)

/-! ## Values of the wrong type -/

/-- The fault of a value that is of another type than expected. A list or an object is not read. -/
def wrongType (expected : String) (s : Source) : Fault :=
  let shown (r : Except Fault (String × Source)) : Fault :=
    match r with
    | .ok (found, s) => .located (.invalidType found expected) s.position
    | .error e => e
  let word (rest found : String) : Fault :=
    shown ((ident rest.toList s.eat).map fun s => (found, s))
  match s.rest with
  | 'n' :: _ => word "ull" "null"
  | 't' :: _ => word "rue" "boolean `true`"
  | 'f' :: _ => word "alse" "boolean `false`"
  | '-' :: _ => shown (number true s.eat)
  | '"' :: _ => shown ((stringRest s.eat).map fun (t, s) => ("string " ++ Text.quoted t, s))
  | '[' :: _ => .located (.invalidType "sequence" expected) s.position
  | '\x7b' :: _ => .located (.invalidType "map" expected) s.position
  | c :: _ => if c.isDigit then shown (number false s) else .located .expectedValue s.peeked
  | [] => .located .expectedValue s.peeked

/-! ## Values that are passed over -/

/-- Passes over a string up to its closing quote. Half a pair of escapes is let pass. -/
def ignoreString : Nat → Source → Except Fault Source
  | 0, s => failAt .endInString s
  | fuel + 1, s =>
    match s.rest with
    | [] => failAt .endInString s
    | '"' :: _ => .ok s.eat
    | '\\' :: _ =>
      let s := s.eat
      match s.rest with
      | [] => failAt .endInString s
      | 'u' :: _ =>
        match hexFour s.eat with
        | .error e => .error e
        | .ok (_, s) => ignoreString fuel s
      | c :: _ =>
        if (shortEscape? c).isSome then ignoreString fuel s.eat
        else .error (.located .invalidEscape s.peeked)
    | c :: _ => if c.toNat < 32 then failAt .controlCharacter s else ignoreString fuel s.eat

/-- Passes over an exponent from its letter on. -/
def ignoreExponent (s : Source) : Except Fault Source :=
  let s := s.eat
  let s :=
    match s.rest with
    | '+' :: _ => s.eat
    | '-' :: _ => s.eat
    | _ => s
  if startsWithDigit s then .ok (afterDigits s)
  else .error (.located .invalidNumber s.peeked)

/-- Passes over a number, given the source after its sign. -/
def ignoreNumber (s : Source) : Except Fault Source :=
  let tail (s : Source) : Except Fault Source :=
    match s.rest with
    | 'e' :: _ => ignoreExponent s
    | 'E' :: _ => ignoreExponent s
    | _ => .ok s
  let whole (s : Source) : Except Fault Source :=
    match s.rest with
    | '.' :: _ =>
      if startsWithDigit s.eat then tail (afterDigits s.eat) else failPeeked .invalidNumber s.eat
    | _ => tail s
  match s.rest with
  | '0' :: _ => if startsWithDigit s.eat then failPeeked .invalidNumber s.eat else whole s.eat
  | _ => if startsWithDigit s then whole (afterDigits s)
    else .error (.located .invalidNumber s.peeked)

/-- What a value stands in: a list or an object. -/
inductive Enclosure where
  | list
  | object

/-- The character that closes an enclosure. -/
def Enclosure.closer : Enclosure → Char
  | list => ']'
  | object => '\x7d'

/-- The fault when the text ends in an enclosure. -/
def Enclosure.atEnd : Enclosure → Problem
  | list => .endInList
  | object => .endInObject

/-- The fault when neither a comma nor the end follows a value. -/
def Enclosure.noComma : Enclosure → Problem
  | list => .expectedListCommaOrEnd
  | object => .expectedObjectCommaOrEnd

/-- Passes over the key and the colon of a member; in a list there are none. -/
def ignoreKey (e : Enclosure) (s : Source) : Except Fault Source :=
  match e with
  | .list => .ok s
  | .object =>
    let s := s.skip
    match s.rest with
    | [] => failPeeked .endInObject s
    | '"' :: rest =>
      match ignoreString (rest.length + 1) s.eat with
      | .error e => .error e
      | .ok s =>
        let s := s.skip
        match s.rest with
        | [] => failPeeked .endInObject s
        | ':' :: _ => .ok s.eat
        | _ => failPeeked .expectedColon s
    | _ => failPeeked .keyNotString s

/-- Goes on after a value, or after an opening bracket if `fresh`: leaves enclosures that end here,
and stops before the next value, if there is one. Gives the enclosures that are left. -/
def leaveEnclosures (fresh : Bool) : List Enclosure → Source →
    Except Fault (List Enclosure × Source)
  | [], s => .ok ([], s)
  | e :: outer, s =>
    let s := s.skip
    match s.rest with
    | [] => failPeeked e.atEnd s
    | c :: _ =>
      if c = e.closer then leaveEnclosures false outer s.eat
      else if c = ',' ∧ !fresh then (ignoreKey e s.eat).map fun s => (e :: outer, s)
      else if fresh then (ignoreKey e s).map fun s => (e :: outer, s)
      else failPeeked e.noComma s

/-- Passes over a value and what surrounds it. `fuel` bounds the number of values. -/
def ignoreValues : Nat → List Enclosure → Source → Except Fault Source
  | 0, _, s => failAt .endInValue s
  | fuel + 1, enclosures, s =>
    let s := s.skip
    let onward (fresh : Bool) (enclosures : List Enclosure) (r : Except Fault Source) :
        Except Fault Source :=
      match r with
      | .error e => .error e
      | .ok s =>
        match leaveEnclosures fresh enclosures s with
        | .error e => .error e
        | .ok ([], s) => .ok s
        | .ok (enclosures, s) => ignoreValues fuel enclosures s
    match s.rest with
    | [] => failPeeked .endInValue s
    | 'n' :: _ => onward false enclosures (ident "ull".toList s.eat)
    | 't' :: _ => onward false enclosures (ident "rue".toList s.eat)
    | 'f' :: _ => onward false enclosures (ident "alse".toList s.eat)
    | '-' :: _ => onward false enclosures (ignoreNumber s.eat)
    | '"' :: rest => onward false enclosures (ignoreString (rest.length + 1) s.eat)
    | '[' :: _ => onward true (.list :: enclosures) (.ok s.eat)
    | '\x7b' :: _ => onward true (.object :: enclosures) (.ok s.eat)
    | c :: _ =>
      if c.isDigit then onward false enclosures (ignoreNumber s)
      else failPeeked .expectedValue s

/-- Passes over one value of any type, however deep. -/
def ignoreValue (s : Source) : Except Fault Source := ignoreValues (s.rest.length + 1) [] s

end Highlighter.Json
