-- The shortest decimal that reads back as a given double, and how it is written: with a point if it
-- is of moderate size, or else with an exponent.
namespace Highlighter.Decimal

/-! ## The digits -/

/-- A positive double, `significand * 2 ^ exponent`. `narrow` says that the doubles below lie twice
as close as those above. -/
structure Binary where
  significand : Nat
  exponent : Int
  narrow : Bool

/-- The parts of a positive finite double, given its bits. -/
def Binary.ofBits (bits : Nat) : Binary :=
  let fraction : Nat := bits % Nat.pow 2 52
  let biased : Nat := bits / Nat.pow 2 52 % Nat.pow 2 11
  if biased = 0 then ⟨fraction, -1074, false⟩
  else ⟨Nat.pow 2 52 + fraction, (biased : Int) - 1075, fraction = 0 && 1 < biased⟩

/-- A fraction of natural numbers. -/
structure Ratio where
  num : Nat
  den : Nat

/-- The fraction `n * 2 ^ e`. -/
def Ratio.ofBinary (n : Nat) (e : Int) : Ratio :=
  match e with
  | .ofNat e => ⟨n * Nat.pow 2 e, 1⟩
  | .negSucc e => ⟨n, Nat.pow 2 (e + 1)⟩

/-- The fraction divided by `10 ^ k`. -/
def Ratio.scaleDown (r : Ratio) (k : Int) : Ratio :=
  match k with
  | .ofNat k => ⟨r.num, r.den * Nat.pow 10 k⟩
  | .negSucc k => ⟨r.num * Nat.pow 10 (k + 1), r.den⟩

/-- The power of ten of the first digit of a fraction that is one at least. -/
def Ratio.order (r : Ratio) : Nat := (Nat.toDigits 10 (r.num / r.den)).length - 1

/-- The power of ten of the first digit of a fraction. -/
def Ratio.magnitude (r : Ratio) : Int :=
  if r.den ≤ r.num then r.order
  else ((⟨r.num * Nat.pow 10 400, r.den⟩ : Ratio).order : Int) - 400

/-- The natural number nearest to a fraction among those that the test admits, of its two neighbours. -/
def nearest? (r : Ratio) (admits : Nat → Bool) : Option Nat :=
  let below := r.num / r.den
  let above := below + 1
  let nearBelow := 2 * (r.num % r.den) < r.den || (2 * (r.num % r.den) == r.den && below % 2 == 0)
  match admits below, admits above with
  | true, true => some (if nearBelow then below else above)
  | true, false => some below
  | false, true => some above
  | false, false => none

/-- The decimal with `n` digits that reads back as the double, and its power of ten, if there is
one. A decimal reads back if it lies between the midpoints to the neighbouring doubles; the midpoints
themselves count when the significand is even. -/
def withDigits? (b : Binary) (n : Nat) : Option (Nat × Int) :=
  let value := Ratio.ofBinary (4 * b.significand) (b.exponent - 2)
  let k := value.magnitude - n + 1
  let low := (Ratio.ofBinary (4 * b.significand - (if b.narrow then 1 else 2)) (b.exponent - 2)).scaleDown k
  let high := (Ratio.ofBinary (4 * b.significand + 2) (b.exponent - 2)).scaleDown k
  let even := b.significand % 2 == 0
  let admits (d : Nat) :=
    let l := compare low.num (d * low.den)
    let h := compare (d * high.den) high.num
    (l == .lt || (l == .eq && even)) && (h == .lt || (h == .eq && even))
  (nearest? (value.scaleDown k) admits).map (·, k)

/-- A decimal without zeros at its end. `fuel` bounds the number of zeros. -/
def trim : Nat → Nat × Int → Nat × Int
  | 0, d => d
  | fuel + 1, (d, k) => if d ≠ 0 ∧ d % 10 = 0 then trim fuel (d / 10, k + 1) else (d, k)

/-- The shortest decimal that reads back as a positive double, and its power of ten. -/
def shortest (b : Binary) : Nat × Int :=
  trim 20 (((List.range' 1 17).findSome? (withDigits? b)).getD (0, 0))

/-! ## The text -/

/-- An exponent with its sign. -/
def signed : Int → List Char
  | .ofNat n => '+' :: Nat.toDigits 10 n
  | .negSucc n => '-' :: Nat.toDigits 10 (n + 1)

/-- The text of the decimal `digits * 10 ^ k`. The point is written up to the order of `10 ^ 16` and
down to that of `10 ^ -5`. -/
def written (digits : Nat) (k : Int) : List Char :=
  let ds := Nat.toDigits 10 digits
  let place : Int := ds.length + k
  let exponent := signed (place - 1)
  if 0 ≤ k ∧ place ≤ 16 then ds ++ List.replicate k.toNat '0' ++ ['.', '0']
  else if 0 < place ∧ place ≤ 16 then ds.take place.toNat ++ '.' :: ds.drop place.toNat
  else if -5 < place ∧ place ≤ 0 then '0' :: '.' :: List.replicate (-place).toNat '0' ++ ds
  else
    match ds with
    | d :: d' :: more => d :: '.' :: d' :: more ++ 'e' :: exponent
    | ds => ds ++ 'e' :: exponent

/-- The text of a finite double. -/
def text (f : Float) : String :=
  let bits := f.toBits.toNat
  let size := bits % Nat.pow 2 63
  let (digits, k) := if size = 0 then (0, 0) else shortest (Binary.ofBits size)
  String.ofList ((if Nat.pow 2 63 ≤ bits then ['-'] else []) ++ written digits k)

end Highlighter.Decimal
