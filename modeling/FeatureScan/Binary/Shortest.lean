import FeatureScan.Binary.Rounding

/-!
# Shortest decimals

The decimal with the fewest digits that rounds back to a given floating number. A decimal is a pair
`(digits, k)` that stands for `digits · 10 ^ k`.

## Main results

* `candidate?_reads_back`: a decimal found on a grid lies where it rounds to the number.
-/

namespace FeatureScan.Binary

/-- The reals that round to a positive number `significand · 2 ^ exponent`, over one denominator:
the value and the two ends, and whether the ends belong. -/
structure Interval where
  /-- Numerator of the lower end. -/
  low : Nat
  /-- Numerator of the number itself. -/
  value : Nat
  /-- Numerator of the upper end. -/
  high : Nat
  /-- The common denominator. -/
  den : Nat
  /-- Whether the ends round to the number. -/
  closed : Bool
  deriving Repr

/-- The interval of a positive number. Below a power of two the next number is only half as far. -/
def Interval.of (f : Format) (significand : Nat) (exponent : Int) : Interval :=
  let (n, d) := Number.ratio significand exponent
  let unit := (Number.ratio 1 exponent).1
  let narrow := significand == Nat.pow 2 (f.precision - 1) && exponent > f.least
  { low := 4 * n - (if narrow then unit else 2 * unit)
    value := 4 * n
    high := 4 * n + 2 * unit
    den := 4 * d
    closed := significand % 2 == 0 }

/-- Whether `num / den` lies in the interval. -/
def Interval.holds (i : Interval) (num den : Nat) : Bool :=
  let x := num * i.den
  if i.closed then i.low * den ≤ x && x ≤ i.high * den
  else i.low * den < x && x < i.high * den

/-- `digits · 10 ^ k` as a ratio. -/
def decimalRatio (digits : Nat) (k : Int) : Nat × Nat :=
  match k with
  | .ofNat n => (digits * Nat.pow 10 n, 1)
  | .negSucc n => (digits, Nat.pow 10 (n + 1))

/-- The multiple of `10 ^ k` in the interval that is nearest to the value, an even one of two
equally near. Only the two neighbours of the value need a test. -/
def Interval.candidate? (i : Interval) (k : Int) : Option Nat :=
  let (n, d) :=
    match k with
    | .ofNat a => (i.value, i.den * Nat.pow 10 a)
    | .negSucc a => (i.value * Nat.pow 10 (a + 1), i.den)
  let q := n / d
  let r := n % d
  let fits := fun m => let (a, b) := decimalRatio m k; i.holds a b
  match fits q, fits (q + 1) with
  | true, true => if 2 * r < d ∨ (2 * r = d ∧ q % 2 = 0) then some q else some (q + 1)
  | true, false => some q
  | false, true => some (q + 1)
  | false, false => none

theorem Interval.candidate?_reads_back {i : Interval} {k : Int} {m : Nat}
    (h : i.candidate? k = some m) :
    i.holds (decimalRatio m k).1 (decimalRatio m k).2 = true := by
  unfold candidate? at h
  split at h
  simp only at h
  split at h
  · rename_i h₁ h₂
    split at h <;> cases h
    · exact h₁
    · exact h₂
  · rename_i h₁ _
    cases h
    exact h₁
  · rename_i _ h₂
    cases h
    exact h₂
  · cases h

/-- The number of decimal digits. -/
def digitCount (n : Nat) : Nat := (Nat.toDigits 10 n).length

/-- Takes the coarsest grid from `k` downwards on which a decimal reads back. -/
def Interval.search (i : Interval) : Nat → Int → Nat × Int
  | 0, k => ((i.candidate? k).getD 0, k)
  | fuel + 1, k =>
    match i.candidate? k with
    | some m => if m = 0 then i.search fuel (k - 1) else (m, k)
    | none => i.search fuel (k - 1)

/-- The shortest decimal that reads back as a positive number. The search starts on a grid coarser
than the number. -/
def shortest (f : Format) (significand : Nat) (exponent : Int) : Nat × Int :=
  let i := Interval.of f significand exponent
  let wholeDigits : Int := digitCount (i.value / i.den)
  let start : Int :=
    if i.value / i.den > 0 then wholeDigits
    else -((digitCount (i.den / i.value) : Int) - 2)
  i.search 20 start

end FeatureScan.Binary
