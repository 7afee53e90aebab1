import FeatureScan.Css.Numeral

/-!
# The text of a number

A number is written as a sign, digits, a fraction and a power of ten. Only the digits are always
there, a fraction has digits behind its point, and a power has them behind its letter and minus sign.

## Main results

* `Numeral.text_parts`: the parts of the text of a numeral.
-/

namespace FeatureScan.Css

/-- Decimal digits, at least one. -/
structure AreDigits (cs : List Char) : Prop where
  /-- There are some. -/
  ne_nil : cs ≠ []
  /-- They are digits. -/
  isDigit : ∀ c ∈ cs, c.isDigit = true

/-- A fraction, or nothing. -/
inductive IsFraction : List Char → Prop
  | absent : IsFraction []
  | point {ds : List Char} (h : AreDigits ds) : IsFraction ('.' :: ds)

/-- A power of ten, or nothing. -/
inductive IsPower : List Char → Prop
  | absent : IsPower []
  | plus {ds : List Char} (h : AreDigits ds) : IsPower ('e' :: ds)
  | minus {ds : List Char} (h : AreDigits ds) : IsPower ('e' :: '-' :: ds)

/-- The parts of a written magnitude: digits, a fraction and a power, and digits only if it is not
marked. -/
structure Decimal.Parts (d : Decimal) (whole fraction power : List Char) : Prop where
  /-- The text. -/
  chars : d.chars = whole ++ (fraction ++ power)
  /-- The digits in front of the point. -/
  areDigits : AreDigits whole
  /-- The fraction. -/
  isFraction : IsFraction fraction
  /-- The power. -/
  isPower : IsPower power
  /-- What a magnitude without a mark is written with. -/
  unmarked : d.marked = false → fraction = [] ∧ power = []

theorem areDigits_toString (n : Nat) : AreDigits (toString n).toList := by
  rw [Nat.toString_eq_ofList_toDigits, String.toList_ofList]
  exact ⟨Nat.toDigits_ne_nil,
    fun c hc => Nat.isDigit_of_mem_toDigits (by decide) (by decide) hc⟩

theorem isPower_toString (n : Int) : IsPower ('e' :: (toString n).toList) := by
  cases n with
  | ofNat n => exact .plus (areDigits_toString n)
  | negSucc n =>
      rw [show toString (Int.negSucc n) = "-" ++ toString (n + 1) from rfl, String.toList_append]
      exact .minus (areDigits_toString (n + 1))

theorem isDigit_of_mem_dropZeros {cs : List Char} (h : ∀ c ∈ cs, c.isDigit = true) :
    ∀ c ∈ dropZeros cs, c.isDigit = true := by
  intro c hc
  have hmem := (List.dropWhile_sublist _).subset (List.mem_reverse.1 hc)
  exact h c (List.mem_reverse.1 hmem)

/-- The digits and fraction in positional notation. -/
theorem positional_parts (digits places : Nat) : ∃ whole fraction,
    (positional digits places).1 = whole ++ fraction ∧ AreDigits whole ∧ IsFraction fraction ∧
      ((positional digits places).2 = false → fraction = []) := by
  unfold positional
  dsimp only
  generalize hf : (if places = 0 then [] else _ : List Char) = fraction
  have hdigits : ∀ c ∈ fraction, c.isDigit = true := by
    subst hf
    split
    · exact List.forall_mem_nil _
    · refine isDigit_of_mem_dropZeros fun c hc => ?_
      rcases List.mem_append.1 hc with h | h
      · rw [List.eq_of_mem_replicate h]
        rfl
      · exact (areDigits_toString _).isDigit c h
  have hwhole := areDigits_toString (digits / Nat.pow 10 places)
  cases fraction with
  | nil => exact ⟨_, [], (List.append_nil _).symm, hwhole, .absent, fun _ => rfl⟩
  | cons c cs => exact ⟨_, _, rfl, hwhole, .point ⟨nofun, hdigits⟩, nofun⟩

theorem positional_decimal (digits places : Nat) : ∃ whole fraction power,
    Decimal.Parts ⟨(positional digits places).1, (positional digits places).2⟩ whole fraction
      power := by
  obtain ⟨whole, fraction, hchars, hwhole, hfraction, hmarked⟩ := positional_parts digits places
  exact ⟨whole, fraction, [], by rw [hchars, List.append_nil], hwhole, hfraction, .absent,
    fun h => ⟨hmarked h, rfl⟩⟩

theorem scientific_decimal (digits places : Nat) (n : Int) : ∃ whole fraction power,
    Decimal.Parts ⟨(positional digits places).1 ++ 'e' :: (toString n).toList, true⟩ whole fraction
      power := by
  obtain ⟨whole, fraction, hchars, hwhole, hfraction, -⟩ := positional_parts digits places
  exact ⟨whole, fraction, _, by rw [hchars, List.append_assoc], hwhole, hfraction,
    isPower_toString n, nofun⟩

theorem digits_decimal (n : Nat) : ∃ whole fraction power,
    Decimal.Parts ⟨(toString n).toList, false⟩ whole fraction power :=
  ⟨_, [], [], (List.append_nil _).symm, areDigits_toString n, .absent, .absent, fun _ => ⟨rfl, rfl⟩⟩

theorem magnitudeText_parts (significand : Nat) (exponent : Int) : ∃ whole fraction power,
    (magnitudeText significand exponent).Parts whole fraction power := by
  rw [magnitudeText]
  dsimp only
  split
  · split
    · exact digits_decimal _
    · exact positional_decimal _ _
  · exact scientific_decimal _ _ _

/-- The text of a number without its sign. -/
theorem parts_of_tail {d : Decimal} {p : Bool}
    (h : ∃ whole fraction power, d.Parts whole fraction power) : ∃ whole fraction power,
      d.chars ++ (if p && !d.marked then ['.', '0'] else []) = whole ++ (fraction ++ power) ∧
        AreDigits whole ∧ IsFraction fraction ∧ IsPower power := by
  obtain ⟨whole, fraction, power, hd⟩ := h
  split
  · rename_i hp
    rw [Bool.and_eq_true, Bool.not_eq_true'] at hp
    obtain ⟨rfl, rfl⟩ := hd.unmarked hp.2
    exact ⟨whole, ['.', '0'], [], by rw [hd.chars]; simp, hd.areDigits,
      .point ⟨nofun, List.forall_mem_cons.2 ⟨rfl, List.forall_mem_nil _⟩⟩, .absent⟩
  · exact ⟨whole, fraction, power, by rw [hd.chars, List.append_nil], hd.areDigits, hd.isFraction,
      hd.isPower⟩

/-- The text of a numeral without its sign and what marks it as no integer. -/
def Numeral.magnitude (n : Numeral) : Decimal :=
  match n.value with
  | .finite _ m e => if m = 0 then ⟨['0'], false⟩ else magnitudeText m e
  | .infinite _ => magnitudeText (Nat.pow 2 23) 105
  | .undefined => magnitudeText (3 * Nat.pow 2 22) 105

theorem Numeral.magnitude_parts (n : Numeral) : ∃ whole fraction power,
    n.magnitude.Parts whole fraction power := by
  rw [magnitude]
  cases n.value with
  | finite negative m e =>
      dsimp only
      split
      · exact digits_decimal 0
      · exact magnitudeText_parts m e
  | infinite negative => exact magnitudeText_parts _ _
  | undefined => exact magnitudeText_parts _ _

/-- A numeral is written as a sign, digits, a fraction and a power of ten. -/
theorem Numeral.text_parts (n : Numeral) : ∃ sign whole fraction power,
    n.text = sign ++ (whole ++ (fraction ++ power)) ∧ (sign = [] ∨ sign = ['+'] ∨ sign = ['-']) ∧
      AreDigits whole ∧ IsFraction fraction ∧ IsPower power := by
  obtain ⟨whole, fraction, power, htext, hwhole, hfraction, hpower⟩ :=
    parts_of_tail (p := !n.isInteger && n.value.isWhole) n.magnitude_parts
  refine ⟨(if n.hasSign && !n.value.isNegative then ['+'] else []) ++
    (if n.value.isNegative then ['-'] else []), whole, fraction, power, ?_, ?_, hwhole, hfraction,
    hpower⟩
  · rw [← htext, ← List.append_assoc]
    rfl
  · cases n.value.isNegative <;> cases n.hasSign <;> simp

end FeatureScan.Css
