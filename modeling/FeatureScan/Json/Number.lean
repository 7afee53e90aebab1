import FeatureScan.Binary.Shortest

/-!
# Numbers in JSON

A number is an integer of 64 bits if it is written as one that fits, and otherwise a
double-precision number. Digits beyond the first that fit into 64 bits only count as places.

## Main results

* `Number.text_natural`: a natural number is written with its decimal digits.
-/

namespace FeatureScan.Json

open FeatureScan.Binary (double shortest digitCount)

/-- A number: a natural number, a negative integer given by its size, or a floating number. -/
inductive Number
  | natural (n : Nat)
  | negative (n : Nat)
  | float (x : Binary.Number)
  deriving DecidableEq, Repr

/-- One more than the greatest natural number that is kept exactly. -/
def wordLimit : Nat := Nat.pow 2 64

/-! ## From digits to a number -/

/-- `± significand · 10 ^ exponent` in double precision: the significand is rounded first, and each
multiplication or division by a power of ten rounds again. A number that is too large is refused. -/
def floatOfParts (negative : Bool) (significand : Nat) (exponent : Int) : Option Number :=
  let start := Binary.Number.ofNat double significand
  let sign := fun (x : Binary.Number) => Number.float (if negative then x.neg else x)
  let byPower := fun (x : Binary.Number) (n : Nat) =>
    Binary.Number.div double x (Binary.Number.powerOfTen double false n)
  if significand = 0 then some (sign start)
  else
    match exponent with
    | .ofNat n =>
      if n > 308 then none
      else
        match Binary.Number.mul double start (Binary.Number.powerOfTen double false n) with
        | .infinite _ => none
        | x => some (sign x)
    | .negSucc m =>
      let n := m + 1
      if n ≤ 308 then some (sign (byPower start n))
      else if n ≤ 616 then some (sign (byPower (byPower start 308) (n - 308)))
      else some (sign (Binary.Number.ofNat double 0))

/-- Adds digits to a significand while it fits into 64 bits; returns the significand, the number of
digits added, and whether all of them were. -/
def addDigits : Nat → Nat → List Nat → Nat × Nat × Bool
  | significand, count, [] => (significand, count, true)
  | significand, count, d :: ds =>
    if significand * 10 + d < wordLimit then addDigits (significand * 10 + d) (count + 1) ds
    else (significand, count, false)

/-- A number as written: sign, digits before the point, digits after it, power of ten. -/
structure Written where
  /-- Whether a minus sign was written. -/
  negative : Bool
  /-- The digits before the point. -/
  whole : List Nat
  /-- The digits after the point, if there is one. -/
  fraction : Option (List Nat)
  /-- The power of ten: whether it is negative, and its size. -/
  power : Option (Bool × Nat)

/-- One more than the greatest power of ten that is told apart from larger ones. -/
def powerLimit : Nat := Nat.pow 2 31

/-- The value of a written number, if it is in range. -/
def Written.number? (w : Written) : Option Number :=
  let (significand, used, fits) := addDigits 0 0 w.whole
  let spare : Int := if fits then 0 else ((w.whole.length - used : Nat) : Int)
  match w.fraction, w.power, fits with
  | none, none, true =>
    if !w.negative then some (.natural significand)
    else if 0 < significand ∧ significand ≤ Nat.pow 2 63 then some (.negative significand)
    else some (.float (Binary.Number.ofNat double significand).neg)
  | fraction, power, _ =>
    let (significand, places, _) := addDigits significand 0 (fraction.getD [])
    let exponent := spare - (places : Int)
    match power with
    | none => floatOfParts w.negative significand exponent
    | some (down, n) =>
      if n ≥ powerLimit then
        if significand ≠ 0 ∧ !down then none
        else floatOfParts w.negative 0 0
      else floatOfParts w.negative significand (if down then exponent - n else exponent + n)

/-! ## Text -/

/-- The text of a positive double-precision number: positional from `10 ^ -5` up to `10 ^ 16` with
at least one digit after the point, and otherwise with a power of ten. -/
def floatText (significand : Nat) (exponent : Int) : List Char :=
  let (digits, k) := shortest double significand exponent
  let ds := (toString digits).toList
  let point : Int := (ds.length : Int) + k
  if 0 ≤ k ∧ point ≤ 16 then ds ++ List.replicate k.toNat '0' ++ ['.', '0']
  else if 0 < point ∧ point ≤ 16 then ds.take point.toNat ++ '.' :: ds.drop point.toNat
  else if -5 < point ∧ point ≤ 0 then '0' :: '.' :: List.replicate (-point).toNat '0' ++ ds
  else
    let power := 'e' :: (toString (point - 1)).toList
    match ds with
    | [d] => d :: power
    | d :: ds => d :: '.' :: ds ++ power
    | [] => power

/-- The text of a number. -/
def Number.text : Number → List Char
  | natural n => (toString n).toList
  | negative n => '-' :: (toString n).toList
  | float (.finite minus m e) =>
    (if minus then ['-'] else []) ++ (if m = 0 then ['0', '.', '0'] else floatText m e)
  | float _ => "null".toList

theorem Number.text_natural (n : Nat) : (Number.natural n).text = (toString n).toList := rfl

end FeatureScan.Json
