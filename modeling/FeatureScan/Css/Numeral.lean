import FeatureScan.Binary.Shortest

/-!
# Numbers in style sheets

The value of a written number and the text that stands for a value. A value is a single-precision
number; its text has at most six significant digits, a point and fraction only where the number was
not written as an integer, and a power of ten only outside `10 ^ -7` to `10 ^ 21`.

## Main results

* `Numeral.text_integer_zero`: the integer zero is written as one digit.
-/

namespace FeatureScan.Css

open FeatureScan.Binary

/-- The value of a numeric token. -/
structure Numeral where
  /-- The value in single precision. -/
  value : Number
  /-- Whether it was written without fraction and exponent. -/
  isInteger : Bool
  /-- Whether it was written with a sign. -/
  hasSign : Bool
  deriving DecidableEq, Repr

/-- A number as written: its sign, digits before the point, digits after it, and power of ten. -/
structure Written where
  /-- The sign, if one was written; `true` is minus. -/
  sign : Option Bool
  /-- The digits before the point. -/
  whole : List Nat
  /-- The digits after the point, if there is one. -/
  fraction : Option (List Nat)
  /-- The power of ten: whether it is negative, and its size. -/
  power : Option (Bool × Nat)
  deriving DecidableEq, Repr

namespace Written

/-- One tenth in double precision. -/
def tenth : Number := Number.ofRatio double false 1 10

/-- The digits before the point in double precision, digit by digit. -/
def wholeValue (digits : List Nat) : Number :=
  digits.foldl
    (fun acc d =>
      Number.add double (Number.mul double acc (Number.ofNat double 10)) (Number.ofNat double d))
    (Number.ofNat double 0)

/-- The digits after the point in double precision: each weighs a tenth of the one before. -/
def fractionValue (digits : List Nat) : Number :=
  (digits.foldl
    (fun (acc : Number × Number) d =>
      (Number.add double acc.1 (Number.mul double (Number.ofNat double d) acc.2),
        Number.mul double acc.2 tenth))
    (Number.ofNat double 0, tenth)).1

/-- The value in double precision. -/
def value (w : Written) : Number :=
  let magnitude := Number.add double (wholeValue w.whole) (fractionValue (w.fraction.getD []))
  let signed := if w.sign == some true then magnitude.neg else magnitude
  match w.power with
  | none => signed
  | some (negative, n) => Number.mul double signed (Number.powerOfTen double negative n)

/-- Whether the number was written as an integer. -/
def isInteger (w : Written) : Bool := w.fraction.isNone && w.power.isNone

/-- The numeral of a number or dimension. -/
def numeral (w : Written) : Numeral :=
  ⟨w.value.convert single, w.isInteger, w.sign.isSome⟩

/-- The numeral of a percentage: a hundredth of what was written. -/
def percentage (w : Written) : Numeral :=
  ⟨(Number.div double w.value (Number.ofNat double 100)).convert single, w.isInteger, w.sign.isSome⟩

end Written

/-! ## Text -/

/-- The significant digits that a number is written with. -/
def significantDigits : Nat := 6

/-- Cuts `digits` to a number of significant digits, rounding a half up; the second component counts
the digits that were cut. -/
def cutDigits (room digits : Nat) : Nat × Nat :=
  let excess := digitCount digits - room
  if excess = 0 then (digits, 0)
  else
    let kept := digits / Nat.pow 10 excess
    let next := digits / Nat.pow 10 (excess - 1) % 10
    (if next ≥ 5 then kept + 1 else kept, excess)

/-- Drops zeros at the end of a fraction. -/
def dropZeros (digits : List Char) : List Char :=
  (digits.reverse.dropWhile (· == '0')).reverse

/-- `digits / 10 ^ places` in positional notation, without zeros at the end of the fraction; the
second component tells whether a fraction was written. -/
def positional (digits places : Nat) : List Char × Bool :=
  let whole := (toString (digits / Nat.pow 10 places)).toList
  let part := (toString (digits % Nat.pow 10 places)).toList
  let fraction :=
    if places = 0 then [] else dropZeros (List.replicate (places - part.length) '0' ++ part)
  if fraction.isEmpty then (whole, false) else (whole ++ '.' :: fraction, true)

/-- How a magnitude came out: its text, and whether a point or a power of ten is in it. -/
structure Decimal where
  /-- The characters. -/
  chars : List Char
  /-- Whether a point or a power of ten tells that the number is no integer. -/
  marked : Bool
  deriving Repr

/-- The text of the positive number `significand · 2 ^ exponent`. -/
def magnitudeText (significand : Nat) (exponent : Int) : Decimal :=
  let (digits, k) := shortest single significand exponent
  let point : Int := (digitCount digits : Int) + k
  let (kept, cut) := cutDigits significantDigits digits
  let k := k + (cut : Int)
  if 0 < point ∧ point ≤ 21 ∨ -6 < point ∧ point ≤ 0 then
    match k with
    | .ofNat n => ⟨(toString (kept * Nat.pow 10 n)).toList, false⟩
    | .negSucc n => let (cs, marked) := positional kept (n + 1); ⟨cs, marked⟩
  else
    let places := Int.toNat (point - 1 - k)
    let (cs, _) := positional kept places
    ⟨cs ++ 'e' :: (toString (point - 1)).toList, true⟩

/-- The text of a numeral. An infinity is written as the power of two that follows the greatest
number, an undefined value as one and a half times that. -/
def Numeral.text (n : Numeral) : List Char :=
  let plus := if n.hasSign && !n.value.isNegative then ['+'] else []
  let minus := if n.value.isNegative then ['-'] else []
  let body : Decimal :=
    match n.value with
    | .finite _ m e => if m = 0 then ⟨['0'], false⟩ else magnitudeText m e
    | .infinite _ => magnitudeText (Nat.pow 2 23) 105
    | .undefined => magnitudeText (3 * Nat.pow 2 22) 105
  let tail := if !n.isInteger && n.value.isWhole && !body.marked then ['.', '0'] else []
  plus ++ minus ++ body.chars ++ tail

theorem Numeral.text_integer_zero :
    (Numeral.mk (.finite false 0 single.least) true false).text = ['0'] := by
  rfl

/-- The text of a percentage whose value is a hundredth. -/
def Numeral.percentText (n : Numeral) : List Char :=
  Numeral.text { n with value := Number.mul single n.value (Number.ofNat single 100) }

end FeatureScan.Css
