/-!
# Binary floating numbers

Numbers of the form `m · 2 ^ e` with a bounded number of bits in `m`, and arithmetic that rounds the
exact result to the nearest of them, a tie to the even significand. Everything is computed on
natural numbers, so each result can be evaluated and reasoned about.

## Main results

* `Number.ofRatio_zero`: a ratio with numerator zero rounds to the zero of its sign.
-/

namespace FeatureScan.Binary

/-- A format: the bits of a significand and the exponents of its least and greatest unit. -/
structure Format where
  /-- Significands are below `2 ^ precision`. -/
  precision : Nat
  /-- The exponent of subnormal numbers. -/
  least : Int
  /-- The exponent of the greatest numbers. -/
  greatest : Int
  deriving DecidableEq, Repr

/-- The format with 53 bits. -/
def double : Format := ⟨53, -1074, 971⟩

/-- The format with 24 bits. -/
def single : Format := ⟨24, -149, 104⟩

/-- A floating number: `± significand · 2 ^ exponent`, an infinity, or the result of an undefined
operation. -/
inductive Number
  | finite (negative : Bool) (significand : Nat) (exponent : Int)
  | infinite (negative : Bool)
  | undefined
  deriving DecidableEq, Repr

namespace Number

/-- The numerator and denominator of `num / den / 2 ^ e`. -/
def scaled (num den : Nat) (e : Int) : Nat × Nat :=
  match e with
  | .ofNat k => (num, den <<< k)
  | .negSucc k => (num <<< (k + 1), den)

/-- The nearest natural number to `num / den`, a tie going to the even one. -/
def nearest (num den : Nat) : Nat :=
  let q := num / den
  let r := num % den
  if 2 * r > den ∨ (2 * r = den ∧ q % 2 = 1) then q + 1 else q

/-- The number of a format nearest to `± num / den`. -/
def ofRatio (f : Format) (negative : Bool) (num den : Nat) : Number :=
  if num = 0 then finite negative 0 f.least
  else
    let guess : Int := (num.log2 : Int) - (den.log2 : Int) - (f.precision : Int)
    let low := max guess f.least
    let (n, d) := scaled num den low
    let e := if n / d < Nat.pow 2 f.precision then low else low + 1
    let (n, d) := scaled num den e
    let m := nearest n d
    let (m, e) := if m = Nat.pow 2 f.precision then (Nat.pow 2 (f.precision - 1), e + 1) else (m, e)
    if e > f.greatest then infinite negative else finite negative m e

@[simp] theorem ofRatio_zero (f : Format) (negative : Bool) (den : Nat) :
    ofRatio f negative 0 den = finite negative 0 f.least := by
  simp [ofRatio]

/-- The number of a format nearest to a natural number. -/
def ofNat (f : Format) (n : Nat) : Number := ofRatio f false n 1

/-- The numerator and denominator of `m · 2 ^ e`. -/
def ratio (m : Nat) (e : Int) : Nat × Nat :=
  match e with
  | .ofNat k => (m <<< k, 1)
  | .negSucc k => (m, 1 <<< (k + 1))

/-- The number with the other sign. -/
def neg : Number → Number
  | finite s m e => finite (!s) m e
  | infinite s => infinite (!s)
  | undefined => undefined

/-- Whether the sign is negative; the sign of an undefined number counts as negative. -/
def isNegative : Number → Bool
  | finite s _ _ => s
  | infinite s => s
  | undefined => true

/-- Whether the number is a zero of either sign. -/
def isZero : Number → Bool
  | finite _ m _ => m == 0
  | _ => false

/-- Whether the number is finite and has no fraction. -/
def isWhole : Number → Bool
  | finite _ _ (.ofNat _) => true
  | finite _ m (.negSucc k) => m % Nat.pow 2 (k + 1) == 0
  | _ => false

/-- The number of another format nearest to this one. -/
def convert (f : Format) : Number → Number
  | finite s m e => let (n, d) := ratio m e; ofRatio f s n d
  | infinite s => infinite s
  | undefined => undefined

/-- The rounded sum. -/
def add (f : Format) : Number → Number → Number
  | finite s m e, finite s' m' e' =>
    let (n, d) := ratio m e
    let (n', d') := ratio m' e'
    let a : Int := if s then -((n * d' : Nat) : Int) else ((n * d' : Nat) : Int)
    let b : Int := if s' then -((n' * d : Nat) : Int) else ((n' * d : Nat) : Int)
    let sum := a + b
    ofRatio f (if sum = 0 then s && s' else sum < 0) sum.natAbs (d * d')
  | infinite s, infinite s' => if s == s' then infinite s else undefined
  | infinite s, finite .. => infinite s
  | finite .., infinite s => infinite s
  | _, _ => undefined

/-- The rounded product. -/
def mul (f : Format) : Number → Number → Number
  | finite s m e, finite s' m' e' =>
    let (n, d) := ratio (m * m') (e + e')
    ofRatio f (s != s') n d
  | infinite s, infinite s' => infinite (s != s')
  | infinite s, finite s' m _ => if m == 0 then undefined else infinite (s != s')
  | finite s m _, infinite s' => if m == 0 then undefined else infinite (s != s')
  | _, _ => undefined

/-- The rounded quotient. -/
def div (f : Format) : Number → Number → Number
  | finite s m e, finite s' m' e' =>
    if m' = 0 then (if m = 0 then undefined else infinite (s != s'))
    else
      let (n, d) := ratio m e
      let (n', d') := ratio m' e'
      ofRatio f (s != s') (n * d') (d * n')
  | infinite s, finite s' _ _ => infinite (s != s')
  | finite s _ _, infinite s' => finite (s != s') 0 f.least
  | _, _ => undefined

/-- Ten to an integer power, rounded. Beyond four hundred the outcome is infinite or zero in every
format in use, and no power is computed. -/
def powerOfTen (f : Format) (negative : Bool) (n : Nat) : Number :=
  if n > 400 then (if negative then finite false 0 f.least else infinite false)
  else if negative then ofRatio f false 1 (Nat.pow 10 n)
  else ofRatio f false (Nat.pow 10 n) 1

end Number

end FeatureScan.Binary
