import FeatureScan.Css.Component
import FeatureScan.Proofs.Text.CaseBlind

/-!
# Sources in other letters and on other lines

A recasting puts some capitals in small letters and renumbers the lines. It reaches into the tokens
of a style sheet, and the text of a recast token is the recast text: an escape is needed for the
same characters, and the signs of an escape or of a number are no capitals.

## Main results

* `Recasting.of_ignoresCase`: what ignores case is the same of a recast character.
* `text_recast`: the text of a recast token.
-/

namespace FeatureScan.Css

open Text

/-- A change of capitals to small letters and of line numbers to others. -/
structure Recasting where
  /-- What becomes of a character. -/
  char : Char → Char
  /-- What becomes of the number of a line. -/
  line : Nat → Nat
  /-- At most the case changes. -/
  lowerChar_char : ∀ c, lowerChar (char c) = lowerChar c
  /-- Small letters stay. -/
  char_lowerChar : ∀ c, char (lowerChar c) = lowerChar c

namespace Recasting

/-- Other numbers for the lines. -/
def lines (g : Nat → Nat) : Recasting := ⟨id, g, fun _ => rfl, fun _ => rfl⟩

/-- Small letters throughout. -/
def small : Recasting := ⟨lowerChar, id, lowerChar_lowerChar, lowerChar_lowerChar⟩

variable (ρ : Recasting)

/-- What becomes of a text. -/
def text (s : String) : String := String.ofList (s.toList.map ρ.char)

theorem toList_text (s : String) : (ρ.text s).toList = s.toList.map ρ.char := by
  rw [text, String.toList_ofList]

/-- What ignores case is the same of a recast character. -/
theorem of_ignoresCase {α : Type} {f : Char → α} (hf : IgnoresCase f) (c : Char) :
    f (ρ.char c) = f c := hf.eq_of_lowerChar_eq (ρ.lowerChar_char c)

/-- A sign that is no letter is recast to itself only. -/
theorem char_eq_iff {d : Char} (hd : d.isAlpha = false) (c : Char) : ρ.char c = d ↔ c = d := by
  rw [← lowerChar_eq_iff hd, ρ.lowerChar_char, lowerChar_eq_iff hd]

theorem char_beq {d : Char} (hd : d.isAlpha = false) (c : Char) : (ρ.char c == d) = (c == d) :=
  ρ.of_ignoresCase (ignoresCase_beq hd) c

theorem char_of_small {c : Char} (hc : lowerChar c = c) : ρ.char c = c := by
  rw [← hc, ρ.char_lowerChar]

theorem char_of_not_isAlpha {c : Char} (hc : c.isAlpha = false) : ρ.char c = c :=
  (ρ.char_eq_iff hc c).2 rfl

theorem map_of_small {cs : List Char} (hcs : ∀ c ∈ cs, lowerChar c = c) : cs.map ρ.char = cs := by
  rw [List.map_congr_left fun c hc => ρ.char_of_small (hcs c hc), List.map_id']

theorem asciiLower_text (s : String) : asciiLower (ρ.text s) = asciiLower s := by
  rw [asciiLower, asciiLower, toList_text, List.map_map]
  congr 2
  exact funext ρ.lowerChar_char

theorem text_asciiLower (s : String) : ρ.text (asciiLower s) = asciiLower s := by
  rw [text, asciiLower, String.toList_ofList, List.map_map]
  congr 2
  exact funext ρ.char_lowerChar

theorem text_ofList (cs : List Char) :
    ρ.text (String.ofList cs) = String.ofList (cs.map ρ.char) := by
  rw [text, String.toList_ofList]

theorem text_beq_empty (s : String) : (ρ.text s == "") = (s == "") := by
  rw [Bool.eq_iff_iff, beq_iff_eq, beq_iff_eq, ← String.toList_eq_nil_iff, toList_text,
    List.map_eq_nil_iff, String.toList_eq_nil_iff]

theorem text_lines (g : Nat → Nat) (s : String) : (lines g).text s = s := by
  rw [text, lines, List.map_id, String.ofList_toList]

end Recasting

variable (ρ : Recasting)

/-! ## Escapes -/

theorem ignoresCase_isPlainNameChar : IgnoresCase isPlainNameChar :=
  ignoresCase_of_capitals (by decide)

theorem ignoresCase_isWide : IgnoresCase isWide := ignoresCase_of_capitals (by decide)

theorem ignoresCase_charIsDigit : IgnoresCase Char.isDigit := ignoresCase_of_capitals (by decide)

theorem ignoresCase_isAlpha : IgnoresCase Char.isAlpha := ignoresCase_of_capitals (by decide)

theorem lowerChar_of_not_isAlpha {c : Char} (h : c.isAlpha = false) : lowerChar c = c :=
  (lowerChar_eq_iff h c).2 rfl

theorem toNat_of_isAlpha {c : Char} (h : c.isAlpha = true) :
    (65 ≤ c.toNat ∧ c.toNat ≤ 90) ∨ (97 ≤ c.toNat ∧ c.toNat ≤ 122) := by
  rcases Bool.or_eq_true_iff.1 h with hupper | hlower
  · exact Or.inl (of_decide_eq_true hupper)
  · obtain ⟨hlo, hhi⟩ := Bool.and_eq_true_iff.1 hlower
    exact Or.inr ⟨of_decide_eq_true hlo, of_decide_eq_true hhi⟩

theorem toNat_lt_of_isControl {c : Char} (h : isControl c = true) : c.toNat < 0x80 := by
  simp only [isControl, Bool.or_eq_true, Bool.and_eq_true, decide_eq_true_eq, beq_iff_eq] at h
  omega

theorem lowerChar_of_mem_hexEscape {c d : Char} (hc : c.toNat < 0x80) (h : d ∈ hexEscape c) :
    lowerChar d = d := by
  have hdigit : ∀ n < 16, lowerChar (hexDigit n) = hexDigit n := by decide
  unfold hexEscape at h
  dsimp only at h
  split at h
  · simp only [List.mem_cons, List.not_mem_nil, or_false] at h
    rcases h with rfl | rfl | rfl | rfl
    · rfl
    · exact hdigit _ (by omega)
    · exact hdigit _ (by omega)
    · rfl
  · simp only [List.mem_cons, List.not_mem_nil, or_false] at h
    rcases h with rfl | rfl | rfl
    · rfl
    · exact hdigit _ (by omega)
    · rfl

theorem lowerChar_of_mem_backslash {c d : Char} (hc : c.isAlpha = false) (h : d ∈ ['\\', c]) :
    lowerChar d = d := by
  simp only [List.mem_cons, List.not_mem_nil, or_false] at h
  rcases h with rfl | rfl
  · rfl
  · exact lowerChar_of_not_isAlpha hc

/-- A way to write characters that leaves letters as they are and uses no capitals in escapes. -/
structure WritesLetters (f : Char → List Char) : Prop where
  letter : ∀ c, c.isAlpha = true → f c = [c]
  other : ∀ c, c.isAlpha = false → ∀ d ∈ f c, lowerChar d = d

theorem WritesLetters.recast {f : Char → List Char} (hf : WritesLetters f) (c : Char) :
    f (ρ.char c) = (f c).map ρ.char := by
  cases hc : c.isAlpha with
  | true =>
      rw [hf.letter c hc, hf.letter _ ((ρ.of_ignoresCase ignoresCase_isAlpha c).trans hc)]
      rfl
  | false => rw [ρ.char_of_not_isAlpha hc, ρ.map_of_small (hf.other c hc)]

theorem WritesLetters.flatMap_recast {f : Char → List Char} (hf : WritesLetters f)
    (cs : List Char) : (cs.map ρ.char).flatMap f = (cs.flatMap f).map ρ.char := by
  rw [List.flatMap_map, List.map_flatMap]
  congr 1
  exact funext (hf.recast ρ)

theorem writesLetters_nameChar : WritesLetters nameChar where
  letter c hc := by
    have hplain : isPlainNameChar c = true := by
      rw [isPlainNameChar, Char.isAlphanum, hc]
      rfl
    rw [nameChar, hplain]
    rfl
  other c hc d hd := by
    unfold nameChar at hd
    split at hd
    · rw [List.mem_singleton.1 hd, lowerChar_of_not_isAlpha hc]
    · split at hd
      · rw [List.mem_singleton.1 hd]
        rfl
      · split at hd
        · exact lowerChar_of_mem_hexEscape (toNat_lt_of_isControl ‹_›) hd
        · exact lowerChar_of_mem_backslash hc hd

theorem writesLetters_stringChar : WritesLetters stringChar where
  letter c hc := by
    have hn := toNat_of_isAlpha hc
    have hquote : c ≠ '\x22' := by
      rintro rfl
      cases hc
    have hback : c ≠ '\\' := by
      rintro rfl
      cases hc
    have hcontrol : isControl c = false := by
      simp only [isControl, Bool.or_eq_false_iff, Bool.and_eq_false_iff, decide_eq_false_iff_not,
        beq_eq_false_iff_ne]
      omega
    rw [stringChar, beq_eq_false_iff_ne.2 hquote, beq_eq_false_iff_ne.2 hback, hcontrol,
      if_neg (by omega : ¬ c.toNat = 0)]
    rfl
  other c hc d hd := by
    unfold stringChar at hd
    split at hd
    · exact lowerChar_of_mem_backslash hc hd
    · split at hd
      · exact lowerChar_of_mem_backslash hc hd
      · split at hd
        · rw [List.mem_singleton.1 hd]
          rfl
        · split at hd
          · exact lowerChar_of_mem_hexEscape (toNat_lt_of_isControl ‹_›) hd
          · rw [List.mem_singleton.1 hd, lowerChar_of_not_isAlpha hc]

theorem writesLetters_urlChar : WritesLetters urlChar where
  letter c hc := by
    have hn := toNat_of_isAlpha hc
    have hsign : ∀ d : Char, d.isAlpha = false → (c == d) = false := by
      intro d hd
      rw [beq_eq_false_iff_ne]
      rintro rfl
      rw [hd] at hc
      cases hc
    have hlow : (decide (c.toNat ≤ 0x20) || c.toNat == 0x7F) = false := by
      simp only [Bool.or_eq_false_iff, decide_eq_false_iff_not, beq_eq_false_iff_ne]
      omega
    rw [urlChar, hlow, hsign '(' rfl, hsign ')' rfl, hsign '\x22' rfl, hsign '\x27' rfl,
      hsign '\\' rfl]
    rfl
  other c hc d hd := by
    unfold urlChar at hd
    split at hd
    · rename_i hlow
      simp only [Bool.or_eq_true, decide_eq_true_eq, beq_iff_eq] at hlow
      exact lowerChar_of_mem_hexEscape (by omega) hd
    · split at hd
      · exact lowerChar_of_mem_backslash hc hd
      · rw [List.mem_singleton.1 hd, lowerChar_of_not_isAlpha hc]

/-! ## Names and units -/

theorem escapedName_recast (cs : List Char) :
    escapedName (cs.map ρ.char) = (escapedName cs).map ρ.char :=
  writesLetters_nameChar.flatMap_recast ρ cs

theorem identBody_recast (cs : List Char) :
    identBody (cs.map ρ.char) = (identBody cs).map ρ.char := by
  cases cs with
  | nil => rfl
  | cons c cs =>
      rw [List.map_cons, identBody, identBody, ρ.of_ignoresCase ignoresCase_charIsDigit]
      split
      · rename_i hdigit
        have hlt : c.toNat < 0x41 := by
          simp only [Char.isDigit, Bool.and_eq_true, decide_eq_true_eq] at hdigit
          exact Nat.lt_of_le_of_lt hdigit.2 (by decide)
        have hc : c.isAlpha = false := by
          rw [Bool.eq_false_iff]
          intro hc
          have := toNat_of_isAlpha hc
          omega
        rw [ρ.char_of_not_isAlpha hc, List.map_append, escapedName_recast,
          ρ.map_of_small fun d hd => lowerChar_of_mem_hexEscape (by omega) hd]
      · rw [← List.map_cons, escapedName_recast]

/-- An identifier by its first two characters. -/
theorem escapedIdent_cons (c : Char) (cs : List Char) :
    escapedIdent (c :: cs) =
      if c = '-' then
        match cs with
        | [] => ['\\', '-']
        | d :: ds => if d = '-' then '-' :: '-' :: escapedName ds else '-' :: identBody cs
      else identBody (c :: cs) := by
  by_cases hc : c = '-'
  · rw [if_pos hc, hc]
    cases cs with
    | nil => rfl
    | cons d ds =>
        dsimp only
        by_cases hd : d = '-'
        · rw [if_pos hd, hd]
          rfl
        · rw [if_neg hd, escapedIdent]
          · exact fun ds' h => hd (List.cons.inj h).1
          · exact fun h => nomatch h
  · rw [if_neg hc, escapedIdent]
    · exact fun h => nomatch h
    · exact fun ds h => hc (List.cons.inj h).1
    · exact fun h => hc (List.cons.inj h).1
    · exact fun ds h => hc (List.cons.inj h).1

theorem escapedIdent_recast (cs : List Char) :
    escapedIdent (cs.map ρ.char) = (escapedIdent cs).map ρ.char := by
  have hminus : ρ.char '-' = '-' := ρ.char_of_not_isAlpha rfl
  cases cs with
  | nil => rfl
  | cons c cs =>
      rw [List.map_cons, escapedIdent_cons, escapedIdent_cons, ← List.map_cons]
      simp only [ρ.char_eq_iff (d := '-') rfl]
      split
      · cases cs with
        | nil =>
            have hescape : ['\\', '-'].map ρ.char = ['\\', '-'] := ρ.map_of_small (small_of_all rfl)
            exact hescape.symm
        | cons d ds =>
            simp only [List.map_cons, ρ.char_eq_iff (d := '-') rfl]
            split
            · rw [List.map_cons, List.map_cons, hminus, escapedName_recast]
            · rw [List.map_cons, hminus, ← identBody_recast, List.map_cons]
      · exact identBody_recast ρ (c :: cs)

/-- Whether a unit would be read as a power of ten: it is an `e`, alone or in front of a minus
sign. -/
def isPower : List Char → Bool
  | [] => false
  | c :: cs => lowerChar c == 'e' && cs.head?.all (· == '-')

theorem lowerChar_eq_e_iff (c : Char) : lowerChar c = 'e' ↔ c = 'e' ∨ c = 'E' := by
  constructor
  · intro h
    by_cases hc : 'A' ≤ c ∧ c ≤ 'Z'
    · have hn := toNat_lowerChar_of_upper hc
      rw [h] at hn
      have heq : c.toNat = 'E'.toNat := by
        change 101 = c.toNat + 32 at hn
        change c.toNat = 69
        omega
      exact Or.inr (Char.toNat_inj.1 heq)
    · rw [lowerChar, if_neg hc] at h
      exact Or.inl h
  · rintro (rfl | rfl) <;> rfl

theorem unitText_eq (cs : List Char) :
    unitText cs =
      if isPower cs then ['\\', '6', '5', ' '] ++ escapedName cs.tail else escapedIdent cs := by
  unfold unitText
  split
  · rfl
  · rfl
  · rfl
  · rfl
  · rename_i h₁ h₂ h₃ h₄
    rw [if_neg]
    intro hp
    cases cs with
    | nil => cases hp
    | cons c cs =>
        rw [isPower, Bool.and_eq_true, beq_iff_eq, lowerChar_eq_e_iff] at hp
        cases cs with
        | nil =>
            rcases hp.1 with rfl | rfl
            · exact h₁ rfl
            · exact h₂ rfl
        | cons d ds =>
            have hd : d = '-' := beq_iff_eq.1 hp.2
            subst hd
            rcases hp.1 with rfl | rfl
            · exact h₃ ds rfl
            · exact h₄ ds rfl

theorem unitText_recast (cs : List Char) :
    unitText (cs.map ρ.char) = (unitText cs).map ρ.char := by
  have hp : isPower (cs.map ρ.char) = isPower cs := by
    cases cs with
    | nil => rfl
    | cons c cs =>
        rw [List.map_cons, isPower, isPower, ρ.lowerChar_char, List.head?_map, Option.all_map]
        congr 2
        exact funext (ρ.char_beq rfl)
  have hescape : ['\\', '6', '5', ' '].map ρ.char = ['\\', '6', '5', ' '] :=
    ρ.map_of_small (small_of_all rfl)
  rw [unitText_eq, unitText_eq, hp]
  split
  · rw [← List.map_tail, escapedName_recast, List.map_append, hescape]
  · exact escapedIdent_recast ρ cs

/-! ## Numbers -/

theorem lowerChar_of_isDigit {c : Char} (h : c.isDigit = true) : lowerChar c = c := by
  have hlt : c.toNat < 0x41 := by
    simp only [Char.isDigit, Bool.and_eq_true, decide_eq_true_eq] at h
    exact Nat.lt_of_le_of_lt h.2 (by decide)
  exact lowerChar_of_lt (show c.toNat < 65 by omega)

theorem lowerChar_of_mem_toString {n : Nat} {c : Char} (h : c ∈ (toString n).toList) :
    lowerChar c = c := by
  rw [Nat.toString_eq_ofList_toDigits, String.toList_ofList] at h
  exact lowerChar_of_isDigit (Nat.isDigit_of_mem_toDigits (by decide) (by decide) h)

theorem lowerChar_of_mem_toString_int {n : Int} {c : Char} (h : c ∈ (toString n).toList) :
    lowerChar c = c := by
  cases n with
  | ofNat n => exact lowerChar_of_mem_toString h
  | negSucc n =>
      rw [show toString (Int.negSucc n) = "-" ++ toString (n + 1) from rfl,
        String.toList_append, List.mem_append] at h
      rcases h with h | h
      · rw [List.mem_singleton.1 h]
        rfl
      · exact lowerChar_of_mem_toString h

theorem lowerChar_of_mem_positional {digits places : Nat} {c : Char}
    (h : c ∈ (positional digits places).1) : lowerChar c = c := by
  have hzeros : ∀ cs : List Char, (∀ d ∈ cs, lowerChar d = d) → ∀ d ∈ dropZeros cs,
      lowerChar d = d := by
    intro cs hcs d hd
    exact hcs d (List.mem_reverse.1
      ((List.dropWhile_sublist _).subset (List.mem_reverse.1 hd)))
  unfold positional at h
  dsimp only at h
  generalize hf : (if places = 0 then [] else _ : List Char) = fraction at h
  have hfraction : ∀ d ∈ fraction, lowerChar d = d := by
    subst hf
    split
    · exact List.forall_mem_nil _
    · apply hzeros
      intro d hd
      rcases List.mem_append.1 hd with h | h
      · rw [List.eq_of_mem_replicate h]
        rfl
      · exact lowerChar_of_mem_toString h
  split at h
  · exact lowerChar_of_mem_toString h
  · rcases List.mem_append.1 h with h | h
    · exact lowerChar_of_mem_toString h
    · rcases List.mem_cons.1 h with rfl | h
      · rfl
      · exact hfraction c h

theorem lowerChar_of_mem_magnitudeText {significand : Nat} {exponent : Int} {c : Char}
    (h : c ∈ (magnitudeText significand exponent).chars) : lowerChar c = c := by
  unfold magnitudeText at h
  dsimp only at h
  split at h
  · split at h
    · dsimp only at h
      exact lowerChar_of_mem_toString h
    · dsimp only at h
      exact lowerChar_of_mem_positional h
  · rcases List.mem_append.1 h with h | h
    · exact lowerChar_of_mem_positional h
    · rcases List.mem_cons.1 h with rfl | h
      · rfl
      · exact lowerChar_of_mem_toString_int h

/-- A number is written without capitals. -/
theorem lowerChar_of_mem_text {n : Numeral} {c : Char} (h : c ∈ n.text) : lowerChar c = c := by
  have hsigns : ∀ (p : Bool) (cs : List Char), (∀ d ∈ cs, lowerChar d = d) →
      c ∈ (if p then cs else []) → lowerChar c = c := by
    intro p cs hcs hc
    split at hc
    · exact hcs c hc
    · cases hc
  unfold Numeral.text at h
  dsimp only at h
  simp only [List.mem_append] at h
  rcases h with ((h | h) | h) | h
  · exact hsigns _ ['+'] (small_of_all rfl) h
  · exact hsigns _ ['-'] (small_of_all rfl) h
  · split at h
    · split at h
      · rw [List.mem_singleton.1 h]
        rfl
      · exact lowerChar_of_mem_magnitudeText h
    · exact lowerChar_of_mem_magnitudeText h
    · exact lowerChar_of_mem_magnitudeText h
  · exact hsigns _ ['.', '0'] (small_of_all rfl) h

theorem map_numeralText (n : Numeral) : n.text.map ρ.char = n.text :=
  ρ.map_of_small fun _ => lowerChar_of_mem_text

/-! ## Tokens -/

/-- A recast token. -/
def Token.recast (ρ : Recasting) : Token → Token
  | .ident name => .ident (ρ.text name)
  | .atKeyword name => .atKeyword (ρ.text name)
  | .hash name => .hash (ρ.text name)
  | .idHash name => .idHash (ρ.text name)
  | .string value => .string (ρ.text value)
  | .url value => .url (ρ.text value)
  | .delim c => .delim (ρ.char c)
  | .dimension n unit => .dimension n (ρ.text unit)
  | .compare sign => .compare (ρ.char sign)
  | .function name => .function (ρ.text name)
  | .badUrl written => .badUrl (ρ.text written)
  | .badString value => .badString (ρ.text value)
  | t => t

/-- The text of a recast token is the recast text. -/
theorem text_recast (t : Token) : (t.recast ρ).text = t.text.map ρ.char := by
  have hsmall : ∀ cs : List Char, (cs.all fun c => lowerChar c == c) = true →
      cs.map ρ.char = cs := fun cs h => ρ.map_of_small (small_of_all h)
  have hchar : ∀ c : Char, c.isAlpha = false → ρ.char c = c :=
    fun c => ρ.char_of_not_isAlpha
  cases t with
  | badUrl written =>
      simp only [Token.recast, Token.text, List.map_append, List.map_cons, List.map_nil,
        Recasting.toList_text, hsmall "url(".toList rfl, hchar ')' rfl]
  | url value =>
      simp only [Token.recast, Token.text, List.map_append, List.map_cons, List.map_nil,
        Recasting.toList_text, hsmall "url(".toList rfl, hchar ')' rfl,
        writesLetters_urlChar.flatMap_recast]
  | string value | badString value =>
      simp only [Token.recast, Token.text, List.map_append, List.map_cons, List.map_nil,
        Recasting.toList_text, hchar '\x22' rfl, writesLetters_stringChar.flatMap_recast]
  | ident name | atKeyword name | idHash name | function name =>
      simp only [Token.recast, Token.text, List.map_append, List.map_cons, List.map_nil,
        Recasting.toList_text, hchar '@' rfl, hchar '#' rfl, hchar '(' rfl, escapedIdent_recast]
  | hash name =>
      simp only [Token.recast, Token.text, List.map_cons, Recasting.toList_text, hchar '#' rfl,
        escapedName_recast]
  | dimension n unit =>
      simp only [Token.recast, Token.text, List.map_append, Recasting.toList_text,
        map_numeralText, unitText_recast]
  | number n => exact (map_numeralText ρ n).symm
  | percentage n =>
      simp only [Token.recast, Token.text, List.map_append, List.map_cons, List.map_nil,
        Numeral.percentText, map_numeralText, hchar '%' rfl]
  | delim c => rfl
  | compare sign =>
      simp only [Token.recast, Token.text, List.map_cons, List.map_nil, hchar '=' rfl]
  | blank | comment | colon | semicolon | comma | commentOpen | commentClose =>
      exact (hsmall _ rfl).symm
  | openBracket kind => cases kind <;> exact (hsmall _ rfl).symm
  | closeBracket kind => cases kind <;> exact (hsmall _ rfl).symm

end FeatureScan.Css
