import FeatureScan.Proofs.Css.AtSign
import FeatureScan.Proofs.Css.Recasting
import FeatureScan.Proofs.Css.Scanned

/-!
# Reading names back

A name is written character by character, and each character reads back from what stands for it,
whether that is the character itself, the character behind a backslash or its code point in digits.
So a name reads back in front of anything that cannot go on with it.

## Main results

* `scanEscape_hexEscape`, `scanEscape_char`: escapes read back.
* `scanName_spells`: what is spelled character by character reads back.
* `spells_escapedName`, `spells_escapedIdent`: how names are spelled.
* `atIdent_escapedIdent`: an identifier is read as one.
-/

namespace FeatureScan.Css

open Source

/-- A text as a source on one line. -/
def plain (cs : List Char) : Source := cs.map fun c => ⟨c, 0⟩

@[simp] theorem plain_nil : plain [] = [] := rfl

@[simp] theorem plain_cons (c : Char) (cs : List Char) : plain (c :: cs) = ⟨c, 0⟩ :: plain cs := rfl

@[simp] theorem length_plain (cs : List Char) : (plain cs).length = cs.length := List.length_map _

theorem peek?_plain (cs : List Char) : peek? (plain cs) = cs.head? := by cases cs <;> rfl

/-- Characters none of which is NUL. -/
def NoNul (cs : List Char) : Prop := ∀ c ∈ cs, c.toNat ≠ 0

/-! ## Escapes -/

theorem hexValue?_hexDigit : ∀ n < 16, hexValue? (hexDigit n) = some n := by decide

theorem scanHex_hexDigit {d : Nat} (hd : d < 16) (left value : Nat) (s : Source) :
    scanHex (left + 1) value (⟨hexDigit d, 0⟩ :: s) = scanHex left (16 * value + d) s := by
  rw [scanHex, hexValue?_hexDigit d hd]

theorem scanHex_space (left value : Nat) (s : Source) :
    scanHex left value (⟨' ', 0⟩ :: s) = (value, ⟨' ', 0⟩ :: s) := by
  cases left <;> rfl

theorem charOfCode_toNat {c : Char} (hc : c.toNat ≠ 0) : charOfCode c.toNat = c := by
  have hvalid : c.toNat.isValidChar := c.valid
  rw [charOfCode, if_pos ⟨hc, hvalid⟩, Char.ofNat_toNat]

/-- The digits of an escape. -/
def hexDigits (c : Char) : List Char :=
  if c.toNat > 15 then [hexDigit (c.toNat / 16), hexDigit (c.toNat % 16)] else [hexDigit c.toNat]

theorem hexEscape_eq (c : Char) : hexEscape c = '\\' :: (hexDigits c ++ [' ']) := by
  unfold hexEscape hexDigits
  dsimp only
  split <;> rfl

/-- The code point of a character reads back from an escape. -/
theorem scanEscape_hexEscape {c : Char} (hc : c.toNat ≠ 0) (hsmall : c.toNat < 256)
    (bs : List Char) : scanEscape (plain (hexDigits c ++ ' ' :: bs)) = (c, plain bs) := by
  have hlow : c.toNat % 16 < 16 := Nat.mod_lt _ (by decide)
  have hend : dropOneSpace (⟨' ', 0⟩ :: plain bs) = plain bs := rfl
  unfold hexDigits
  split
  · have hhigh : c.toNat / 16 < 16 := by omega
    have hsome : (hexValue? (hexDigit (c.toNat / 16))).isSome = true := by
      rw [hexValue?_hexDigit _ hhigh]
      rfl
    have hcode : 16 * (16 * 0 + c.toNat / 16) + c.toNat % 16 = c.toNat := by omega
    simp only [List.cons_append, List.nil_append, plain_cons]
    rw [scanEscape, if_pos hsome]
    dsimp only
    rw [scanHex_hexDigit hhigh, scanHex_hexDigit hlow, scanHex_space, hcode, charOfCode_toNat hc,
      hend]
  · have hdigit : c.toNat < 16 := by omega
    have hsome : (hexValue? (hexDigit c.toNat)).isSome = true := by
      rw [hexValue?_hexDigit _ hdigit]
      rfl
    have hcode : 16 * 0 + c.toNat = c.toNat := by omega
    simp only [List.cons_append, List.nil_append, plain_cons]
    rw [scanEscape, if_pos hsome]
    dsimp only
    rw [scanHex_hexDigit hdigit, scanHex_space, hcode, charOfCode_toNat hc, hend]

/-- A character that is no hexadecimal digit reads back from behind a backslash. -/
theorem scanEscape_char {c : Char} (hhex : hexValue? c = none) (hc : c.toNat ≠ 0) (s : Source) :
    scanEscape (⟨c, 0⟩ :: s) = (c, s) := by
  rw [scanEscape, hhex, Option.isSome_none, if_neg Bool.false_ne_true, if_neg hc]

theorem isLineEnd_hexDigit : ∀ n < 16, isLineEnd (hexDigit n) = false := by decide

theorem atLineEnd_hexDigits {c : Char} (hsmall : c.toNat < 256) (bs : List Char) :
    atLineEnd (plain (hexDigits c ++ bs)) = false := by
  unfold hexDigits
  split
  · exact isLineEnd_hexDigit _ (by omega)
  · exact isLineEnd_hexDigit _ (by omega)

/-! ## Characters of names -/

/-- A text for a character of a name: what is read of it is that character. -/
def Spelling (c : Char) (text : List Char) : Prop :=
  text ≠ [] ∧ ∀ fuel name bs,
    scanNameFrom (fuel + 1) name (plain (text ++ bs)) = scanNameFrom fuel (c :: name) (plain bs)

theorem spelling_char {c : Char} (hc : isPlainNameChar c = true ∨ isWide c = true) :
    Spelling c [c] := by
  refine ⟨List.cons_ne_nil _ _, fun fuel name bs => ?_⟩
  have hplain : (isPlainNameChar c || isWide c) = true := by
    rcases hc with h | h <;> rw [h]
    · rfl
    · exact Bool.or_true _
  rw [List.singleton_append, plain_cons, scanNameFrom, if_pos hplain]

theorem spelling_escape {c : Char} {escape : List Char}
    (hend : ∀ bs, atLineEnd (plain (escape ++ bs)) = false)
    (hread : ∀ bs, scanEscape (plain (escape ++ bs)) = (c, plain bs)) :
    Spelling c ('\\' :: escape) := by
  refine ⟨List.cons_ne_nil _ _, fun fuel name bs => ?_⟩
  rw [List.cons_append, plain_cons, scanNameFrom, hend, hread]
  rfl

theorem spelling_hexEscape {c : Char} (hc : c.toNat ≠ 0) (hsmall : c.toNat < 256) :
    Spelling c (hexEscape c) := by
  rw [hexEscape_eq]
  refine spelling_escape (fun bs => ?_) fun bs => ?_
  · rw [List.append_assoc]
    exact atLineEnd_hexDigits hsmall _
  · rw [List.append_assoc]
    exact scanEscape_hexEscape hc hsmall bs

theorem spelling_backslash {c : Char} (hhex : hexValue? c = none) (hc : c.toNat ≠ 0)
    (hend : isLineEnd c = false) : Spelling c ['\\', c] :=
  spelling_escape (fun _ => hend) fun bs => scanEscape_char hhex hc (plain bs)

theorem isPlainNameChar_of_hexValue? {c : Char} (h : (hexValue? c).isSome = true) :
    isPlainNameChar c = true := by
  have halnum : c.isAlphanum = true → isPlainNameChar c = true := by
    intro h
    rw [isPlainNameChar, h]
    rfl
  refine halnum ?_
  change (c.isUpper || c.isLower || c.isDigit) = true
  rw [Bool.or_eq_true, Bool.or_eq_true]
  unfold hexValue? at h
  split at h
  · rename_i hdigit
    exact .inr (Bool.and_eq_true_iff.2 ⟨decide_eq_true hdigit.1, decide_eq_true hdigit.2⟩)
  · split at h
    · rename_i hlower
      have hle := UInt32.le_trans hlower.2 (show 'f'.val ≤ 'z'.val by decide)
      exact .inl (.inr (Bool.and_eq_true_iff.2 ⟨decide_eq_true hlower.1, decide_eq_true hle⟩))
    · split at h
      · rename_i hupper
        have hle := UInt32.le_trans hupper.2 (show 'F'.val ≤ 'Z'.val by decide)
        exact .inl (.inl (decide_eq_true ⟨hupper.1, hle⟩))
      · cases h

theorem hexValue?_of_not_plain {c : Char} (h : isPlainNameChar c = false) : hexValue? c = none := by
  rw [← Option.not_isSome_iff_eq_none]
  intro hsome
  rw [isPlainNameChar_of_hexValue? hsome] at h
  cases h

theorem isLineEnd_of_not_isControl {c : Char} (h : isControl c = false) : isLineEnd c = false := by
  refine Bool.eq_false_iff.2 fun hend => ?_
  simp only [isLineEnd, Bool.or_eq_true, beq_iff_eq] at hend
  rcases hend with (rfl | rfl) | rfl <;> cases h

/-- Every character of a name reads back from what is written for it. -/
theorem spelling_nameChar {c : Char} (hc : c.toNat ≠ 0) : Spelling c (nameChar c) := by
  unfold nameChar
  split
  · rename_i hplain
    exact spelling_char (Bool.or_eq_true_iff.1 hplain)
  · rename_i hplain
    split
    · rename_i hcontrol
      exact spelling_hexEscape hc (Nat.lt_trans (toNat_lt_of_isControl hcontrol) (by decide))
    · rename_i hcontrol
      have hnot := Bool.or_eq_false_iff.1 (Bool.eq_false_iff.2 hplain)
      exact spelling_backslash (hexValue?_of_not_plain hnot.1) hc
        (isLineEnd_of_not_isControl (Bool.eq_false_iff.2 hcontrol))

/-! ## Names -/

/-- A text spells a name if it is made of spellings of its characters. -/
inductive Spells : List Char → List Char → Prop
  | nil : Spells [] []
  | cons {c : Char} {cs text rest : List Char} (hc : Spelling c text) (h : Spells cs rest) :
      Spells (c :: cs) (text ++ rest)

/-- Whether a name can go on here. A backslash that cannot would be a sign of its own. -/
def nameGoesOn (next : List Char) : Bool :=
  next.head?.any fun c => isPlainNameChar c || isWide c || c.toNat == 0 || c == '\\'

theorem scanNameFrom_stop {bs : List Char} (h : nameGoesOn bs = false) (fuel : Nat)
    (name : List Char) : scanNameFrom (fuel + 1) name (plain bs) = (name.reverse, plain bs) := by
  cases bs with
  | nil => rfl
  | cons c bs =>
      simp only [nameGoesOn, List.head?_cons, Option.any_some, Bool.or_eq_false_iff,
        beq_eq_false_iff_ne] at h
      obtain ⟨⟨⟨hplain, hwide⟩, hnul⟩, hbackslash⟩ := h
      rw [plain_cons, scanNameFrom]
      dsimp only
      rw [hplain, hwide, if_neg (by decide), if_neg (by simpa using hbackslash), if_neg hnul]

theorem Spells.length_le {cs text : List Char} (h : Spells cs text) : cs.length ≤ text.length := by
  induction h with
  | nil => exact Nat.le_refl _
  | cons hc _ ih =>
      have hpos := List.length_pos_iff.2 hc.1
      rw [List.length_cons, List.length_append]
      omega

theorem Spells.scanNameFrom {cs text bs : List Char} (h : Spells cs text)
    (hstop : nameGoesOn bs = false) {fuel : Nat} (hfuel : cs.length < fuel) (name : List Char) :
    Css.scanNameFrom fuel name (plain (text ++ bs)) = (name.reverse ++ cs, plain bs) := by
  induction h generalizing fuel name with
  | nil =>
      obtain ⟨fuel, rfl⟩ : ∃ k, fuel = k + 1 := ⟨fuel - 1, by simp at hfuel; omega⟩
      rw [List.nil_append, scanNameFrom_stop hstop, List.append_nil]
  | @cons c cs text rest hc _ ih =>
      obtain ⟨fuel, rfl⟩ : ∃ k, fuel = k + 1 := ⟨fuel - 1, by simp at hfuel; omega⟩
      rw [List.append_assoc, hc.2, ih (by simpa using hfuel), List.reverse_cons, List.append_assoc]
      rfl

/-- What is spelled character by character reads back, in front of what cannot go on with it. -/
theorem scanName_spells {cs text bs : List Char} (h : Spells cs text)
    (hstop : nameGoesOn bs = false) :
    scanName (plain (text ++ bs)) = (String.ofList cs, plain bs) := by
  have hle := h.length_le
  have hfuel : cs.length < (plain (text ++ bs)).length + 1 := by
    rw [length_plain, List.length_append]
    omega
  rw [scanName, h.scanNameFrom hstop hfuel]
  rfl

theorem spells_escapedName {cs : List Char} (h : NoNul cs) : Spells cs (escapedName cs) := by
  induction cs with
  | nil => exact .nil
  | cons c cs ih =>
      obtain ⟨hc, hcs⟩ := List.forall_mem_cons.1 h
      exact .cons (spelling_nameChar hc) (ih hcs)

/-- The digits of the scanner are the decimal digits of ASCII. -/
theorem isDigit_eq (c : Char) : isDigit c = c.isDigit := by
  have hle : ('0' ≤ c ∧ c ≤ '9') ↔ c.isDigit = true := by
    rw [Char.isDigit, Bool.and_eq_true, decide_eq_true_eq, decide_eq_true_eq]
    rfl
  rw [isDigit, digitValue?]
  split
  · rename_i h
    exact (hle.1 h).symm
  · rename_i h
    exact (Bool.eq_false_iff.2 fun h' => h (hle.2 h')).symm

theorem toNat_of_isDigit {c : Char} (h : c.isDigit = true) : 48 ≤ c.toNat ∧ c.toNat ≤ 57 := by
  simp only [Char.isDigit, Bool.and_eq_true, decide_eq_true_eq] at h
  exact h

theorem spells_identBody {cs : List Char} (h : NoNul cs) : Spells cs (identBody cs) := by
  cases cs with
  | nil => exact .nil
  | cons c cs =>
      obtain ⟨hc, hcs⟩ := List.forall_mem_cons.1 h
      rw [identBody]
      split
      · rename_i hdigit
        have hsmall := toNat_of_isDigit hdigit
        exact .cons (spelling_hexEscape hc (by omega)) (spells_escapedName hcs)
      · exact spells_escapedName h

theorem spells_escapedIdent {cs : List Char} (h : NoNul cs) : Spells cs (escapedIdent cs) := by
  have hminus : Spelling '-' ['-'] := spelling_char (.inl rfl)
  unfold escapedIdent
  split
  · exact .nil
  · exact .cons hminus (.cons hminus (spells_escapedName fun c hc => h c (by simp [hc])))
  · exact .cons (spelling_backslash rfl (by decide) rfl) .nil
  · exact .cons hminus (spells_identBody fun c hc => h c (by simp [hc]))
  · exact spells_identBody h

/-! ## How identifiers begin -/

/-- Whether a name starts here without a hyphen: with one of its characters or an escape. -/
def beginsName : List Char → Bool
  | [] => false
  | c :: cs => startsName c || (c == '\\' && !atLineEnd (plain cs))

theorem startsName_of_plain {c : Char} (h : isPlainNameChar c = true ∨ isWide c = true)
    (hdigit : c.isDigit = false) (hminus : c ≠ '-') : startsName c = true := by
  unfold startsName
  rcases h with h | h
  · simp only [isPlainNameChar, Char.isAlphanum, hdigit, Bool.or_false, Bool.or_eq_true,
      beq_iff_eq, hminus, or_false] at h
    rcases h with h | rfl
    · rw [h]
      rfl
    · rfl
  · rw [h, Bool.or_true]

theorem beginsName_hexEscape {c : Char} (hsmall : c.toNat < 256) (bs : List Char) :
    beginsName (hexEscape c ++ bs) = true := by
  rw [hexEscape_eq, List.cons_append, beginsName, List.append_assoc, atLineEnd_hexDigits hsmall]
  rfl

theorem beginsName_nameChar {c : Char} (hc : c.toNat ≠ 0) (hdigit : c.isDigit = false)
    (hminus : c ≠ '-') (bs : List Char) : beginsName (nameChar c ++ bs) = true := by
  unfold nameChar
  split
  · rename_i hplain
    rw [List.singleton_append, beginsName,
      startsName_of_plain (Bool.or_eq_true_iff.1 hplain) hdigit hminus]
    rfl
  · split
    · rename_i hcontrol
      exact beginsName_hexEscape (Nat.lt_trans (toNat_lt_of_isControl hcontrol) (by decide)) bs
    · rename_i hcontrol
      have hend := isLineEnd_of_not_isControl (Bool.eq_false_iff.2 hcontrol)
      have hnext : atLineEnd (plain (c :: bs)) = isLineEnd c := rfl
      rw [List.cons_append, List.singleton_append, beginsName, hnext, hend]
      rfl

theorem beginsName_identBody {c : Char} {cs : List Char} (hc : c.toNat ≠ 0) (hminus : c ≠ '-')
    (bs : List Char) : beginsName (identBody (c :: cs) ++ bs) = true := by
  rw [identBody]
  split
  · rename_i hdigit
    have hsmall := toNat_of_isDigit hdigit
    rw [List.append_assoc]
    exact beginsName_hexEscape (by omega) _
  · rename_i hdigit
    have hcons : escapedName (c :: cs) = nameChar c ++ escapedName cs := rfl
    rw [hcons, List.append_assoc]
    exact beginsName_nameChar hc (Bool.eq_false_iff.2 hdigit) hminus _

/-- How the text of an identifier begins: like a name, or with hyphens. -/
inductive IdentText : List Char → List Char → Prop
  | name {cs text : List Char} (h : ∀ bs, beginsName (text ++ bs) = true) : IdentText cs text
  | hyphens (cs : List Char) : IdentText ('-' :: '-' :: cs) ('-' :: '-' :: escapedName cs)
  | hyphen {cs text : List Char} (h : ∀ bs, beginsName (text ++ bs) = true) :
      IdentText cs ('-' :: text)

theorem identText_escapedIdent {cs : List Char} (hne : cs ≠ []) (h : NoNul cs) :
    IdentText cs (escapedIdent cs) := by
  unfold escapedIdent
  split
  · exact absurd rfl hne
  · exact .hyphens _
  · exact .name fun bs => rfl
  · rename_i cs hnot hne'
    cases cs with
    | nil => exact absurd rfl hne'
    | cons c cs =>
        refine .hyphen (beginsName_identBody (h c (by simp)) ?_)
        rintro rfl
        exact hnot cs rfl
  · rename_i hnot hne' hnot'
    cases cs with
    | nil => exact absurd rfl hne
    | cons c cs =>
        refine .name (beginsName_identBody (h c (by simp)) ?_)
        rintro rfl
        exact hnot' cs rfl

theorem not_startsName_of_isDigit {c : Char} (h : isDigit c = true) : startsName c = false := by
  have hc := toNat_of_isDigit ((isDigit_eq c).symm.trans h)
  have hline : c ≠ '_' := by
    rintro rfl
    cases h
  have halpha : c.isAlpha = false := by
    refine Bool.eq_false_iff.2 fun h => ?_
    have := toNat_of_isAlpha h
    omega
  have hnul : (c.toNat == 0) = false := beq_false_of_ne (by omega)
  have hwide : isWide c = false := decide_eq_false (by omega)
  rw [startsName, halpha, beq_false_of_ne hline, hnul, hwide]
  rfl

/-- What a name without a hyphen cannot begin with. -/
theorem ne_of_beginsName {c : Char} {cs : List Char} (h : beginsName (c :: cs) = true) :
    isDigit c = false ∧ c ≠ '.' ∧ c ≠ '+' ∧ c ≠ '-' ∧ c ≠ '>' := by
  have hnot : ∀ d, startsName d = false → d ≠ '\\' → c ≠ d := by
    rintro d hd hback rfl
    rw [beginsName, hd, beq_false_of_ne hback] at h
    cases h
  refine ⟨Bool.eq_false_iff.2 fun hdigit => ?_, hnot _ rfl (by decide), hnot _ rfl (by decide),
    hnot _ rfl (by decide), hnot _ rfl (by decide)⟩
  rw [beginsName, not_startsName_of_isDigit hdigit, Bool.false_or, Bool.and_eq_true,
    beq_iff_eq] at h
  rw [h.1] at hdigit
  cases hdigit

theorem atIdent_of_startsName {c : SourceChar} (h : startsName c.char = true) (s : Source) :
    atIdent (c :: s) = true := by
  have hne : ∀ d, startsName d = false → c.char ≠ d := by
    rintro d hd heq
    rw [heq, hd] at h
    cases h
  rw [atIdent_eq_startsName (hne _ rfl) (hne _ rfl), h]

theorem atIdent_minus (line : Nat) (s : Source) :
    atIdent (⟨'-', line⟩ :: s) =
      (peek? s).any fun c => startsName c || c == '-' || c == '\\' := by
  rw [atIdent, second?_cons]
  cases peek? s <;> rfl

theorem startsName_or_of_beginsName {c : Char} {cs : List Char} (h : beginsName (c :: cs) = true) :
    startsName c = true ∨ c = '\\' ∧ atLineEnd (plain cs) = false := by
  simpa only [beginsName, Bool.or_eq_true, Bool.and_eq_true, beq_iff_eq, Bool.not_eq_true'] using h

theorem atIdent_of_beginsName {cs : List Char} (h : beginsName cs = true) :
    atIdent (plain cs) = true := by
  cases cs with
  | nil => cases h
  | cons c cs =>
      rcases startsName_or_of_beginsName h with hstart | ⟨rfl, hend⟩
      · exact atIdent_of_startsName hstart _
      · rw [plain_cons, atIdent_backslash, hend]
        rfl

theorem atNumber_minus (line : Nat) {s : Source}
    (h : ∀ c ∈ peek? s, isDigit c = false ∧ c ≠ '.') : atNumber (⟨'-', line⟩ :: s) = false := by
  rw [atNumber_cons, numberBehindSign, second?_cons]
  cases hpeek : peek? s with
  | none => rfl
  | some c =>
      obtain ⟨hdigit, hpoint⟩ := h c hpeek
      rw [Option.any_some, hdigit, beq_false_of_ne fun heq => hpoint (Option.some.inj heq)]
      rfl

/-- An identifier is read as one. -/
theorem atIdent_escapedIdent {cs : List Char} (hne : cs ≠ []) (h : NoNul cs) (bs : List Char) :
    atIdent (plain (escapedIdent cs ++ bs)) = true := by
  have htext := identText_escapedIdent hne h
  generalize escapedIdent cs = text at htext
  cases htext with
  | name hbegin => exact atIdent_of_beginsName (hbegin bs)
  | hyphens cs => rfl
  | @hyphen _ text hbegin =>
      rw [List.cons_append, plain_cons, atIdent_minus, peek?_plain]
      have hnext := hbegin bs
      cases htext : text ++ bs with
      | nil =>
          rw [htext] at hnext
          cases hnext
      | cons c cs =>
          rw [htext] at hnext
          rcases startsName_or_of_beginsName hnext with hstart | ⟨rfl, -⟩
          · rw [List.head?_cons, Option.any_some, hstart]
            rfl
          · rfl

/-- No identifier is read as a number. -/
theorem atNumber_escapedIdent {cs : List Char} (hne : cs ≠ []) (h : NoNul cs) (bs : List Char) :
    atNumber (plain (escapedIdent cs ++ bs)) = false := by
  have htext := identText_escapedIdent hne h
  generalize escapedIdent cs = text at htext
  cases htext with
  | @name _ text hbegin =>
      have hnext := hbegin bs
      cases htext : text ++ bs with
      | nil => rfl
      | cons c cs =>
          rw [htext] at hnext
          obtain ⟨hdigit, hpoint, hplus, hminus, -⟩ := ne_of_beginsName hnext
          rw [plain_cons, atNumber_cons, hdigit, beq_false_of_ne hpoint, beq_false_of_ne hplus,
            beq_false_of_ne hminus]
          rfl
  | hyphens cs => exact atNumber_minus 0 fun c hc => by cases hc; exact ⟨rfl, nofun⟩
  | @hyphen _ text hbegin =>
      refine atNumber_minus 0 fun c hc => ?_
      change c ∈ peek? (plain (text ++ bs)) at hc
      have hnext := hbegin bs
      cases htext : text ++ bs with
      | nil =>
          rw [htext] at hnext
          cases hnext
      | cons d ds =>
          rw [htext] at hnext hc
          obtain rfl := Option.some.inj hc
          obtain ⟨hdigit, hpoint, -⟩ := ne_of_beginsName hnext
          exact ⟨hdigit, hpoint⟩

theorem head_nameChar_ne (c : Char) (bs : List Char) :
    (nameChar c ++ bs).head? ≠ some '>' := by
  unfold nameChar
  split
  · rename_i hplain
    rintro heq
    obtain rfl := Option.some.inj heq
    cases hplain
  · split
    · nofun
    · split
      · rw [hexEscape_eq]
        nofun
      · nofun

/-- Only one identifier is taken for the end of a comment of a page. -/
theorem atCommentClose_escapedIdent {cs : List Char} (hne : cs ≠ []) (h : NoNul cs)
    {bs : List Char} (hclose : cs = ['-', '-'] → bs.head? ≠ some '>') :
    atCommentClose (plain (escapedIdent cs ++ bs)) = false := by
  have htext := identText_escapedIdent hne h
  generalize escapedIdent cs = text at htext
  cases htext with
  | @name _ text hbegin =>
      have hnext := hbegin bs
      cases htext : text ++ bs with
      | nil => rfl
      | cons c cs =>
          rw [htext] at hnext
          obtain ⟨-, -, -, hminus, -⟩ := ne_of_beginsName hnext
          rw [plain_cons, atCommentClose, beq_false_of_ne hminus, Bool.false_and]
  | hyphens cs =>
      have hnext : (escapedName cs ++ bs).head? ≠ some '>' := by
        cases cs with
        | nil => exact hclose rfl
        | cons c cs =>
            have hcons : escapedName (c :: cs) = nameChar c ++ escapedName cs := rfl
            rw [hcons, List.append_assoc]
            exact head_nameChar_ne c _
      simp only [List.cons_append, plain_cons, atCommentClose, second?_cons]
      rw [peek?_plain, beq_false_of_ne hnext, Bool.and_false, Bool.and_false]
  | @hyphen _ text hbegin =>
      have hnext := hbegin bs
      cases htext : text ++ bs with
      | nil =>
          rw [htext] at hnext
          cases hnext
      | cons c cs =>
          rw [htext] at hnext
          obtain ⟨-, -, -, hminus, -⟩ := ne_of_beginsName hnext
          have hpeek : (some c == some '-') = false :=
            beq_false_of_ne fun heq => hminus (Option.some.inj heq)
          rw [List.cons_append, htext, plain_cons, plain_cons, atCommentClose, peek?, hpeek,
            Bool.false_and, Bool.and_false]

/-! ## Strings and addresses -/

theorem length_le_flatMap {f : Char → List Char} (hf : ∀ c, f c ≠ []) (cs : List Char) :
    cs.length ≤ (cs.flatMap f).length := by
  induction cs with
  | nil => exact Nat.le_refl _
  | cons c cs ih =>
      have hpos := List.length_pos_iff.2 (hf c)
      rw [List.flatMap_cons, List.length_append, List.length_cons]
      omega

theorem hexEscape_ne_nil (c : Char) : hexEscape c ≠ [] := by
  rw [hexEscape_eq]
  exact List.cons_ne_nil _ _

theorem stringChar_ne_nil (c : Char) : stringChar c ≠ [] := by
  unfold stringChar
  repeat' split
  all_goals first | exact hexEscape_ne_nil c | exact List.cons_ne_nil _ _

theorem urlChar_ne_nil (c : Char) : urlChar c ≠ [] := by
  unfold urlChar
  repeat' split
  all_goals first | exact hexEscape_ne_nil c | exact List.cons_ne_nil _ _

/-- Every character of a string reads back from what is written for it. -/
theorem scanStringFrom_stringChar {c : Char} (hc : c.toNat ≠ 0) (fuel : Nat)
    (value bs : List Char) :
    scanStringFrom '\x22' (fuel + 1) value (plain (stringChar c ++ bs)) =
      scanStringFrom '\x22' fuel (c :: value) (plain bs) := by
  have hescape : ∀ {escape : List Char}, escape ≠ [] →
      (atLineEnd (plain (escape ++ bs)) = false) →
      scanEscape (plain (escape ++ bs)) = (c, plain bs) →
      scanStringFrom '\x22' (fuel + 1) value (plain ('\\' :: escape ++ bs)) =
        scanStringFrom '\x22' fuel (c :: value) (plain bs) := by
    intro escape hne hend hread
    have hsome : (plain (escape ++ bs)).isEmpty = false := by
      cases escape with
      | nil => exact absurd rfl hne
      | cons d ds => rfl
    rw [List.cons_append, plain_cons, scanStringFrom, hsome, hend, hread]
    rfl
  unfold stringChar
  split
  · rename_i hquote
    rw [beq_iff_eq] at hquote
    subst hquote
    exact hescape (List.cons_ne_nil _ _) rfl rfl
  · rename_i hquote
    split
    · rename_i hback
      rw [beq_iff_eq] at hback
      subst hback
      exact hescape (List.cons_ne_nil _ _) rfl rfl
    · rename_i hback
      split
      · rename_i hcontrol
        have hsmall : c.toNat < 256 := Nat.lt_trans (toNat_lt_of_isControl hcontrol) (by decide)
        rw [hexEscape_eq]
        refine hescape (by simp) ?_ ?_
        · rw [List.append_assoc]
          exact atLineEnd_hexDigits hsmall _
        · rw [List.append_assoc]
          exact scanEscape_hexEscape hc hsmall bs
      · rename_i hcontrol
        have hend := isLineEnd_of_not_isControl (Bool.eq_false_iff.2 hcontrol)
        rw [List.singleton_append, plain_cons, scanStringFrom, if_neg hquote, hend,
          if_neg Bool.false_ne_true, if_neg hback, if_neg hc]

/-- A string reads back. -/
theorem scanString_text {cs : List Char} (h : NoNul cs) (bs : List Char) :
    scanString '\x22' (plain (cs.flatMap stringChar ++ '\x22' :: bs)) =
      (.string (String.ofList cs), plain bs) := by
  have hfrom : ∀ fuel value, cs.length < fuel →
      scanStringFrom '\x22' fuel value (plain (cs.flatMap stringChar ++ '\x22' :: bs)) =
        (.string (String.ofList (value.reverse ++ cs)), plain bs) := by
    induction cs with
    | nil =>
        intro fuel value hfuel
        obtain ⟨fuel, rfl⟩ : ∃ k, fuel = k + 1 := ⟨fuel - 1, by simp at hfuel; omega⟩
        rw [List.append_nil]
        rfl
    | cons c cs ih =>
        intro fuel value hfuel
        obtain ⟨hc, hcs⟩ := List.forall_mem_cons.1 h
        obtain ⟨fuel, rfl⟩ : ∃ k, fuel = k + 1 := ⟨fuel - 1, by simp at hfuel; omega⟩
        rw [List.flatMap_cons, List.append_assoc, scanStringFrom_stringChar hc,
          ih hcs _ _ (by simpa using hfuel), List.reverse_cons, List.append_assoc]
        rfl
  refine hfrom _ _ ?_
  have hle := length_le_flatMap stringChar_ne_nil cs
  rw [length_plain, List.length_append]
  omega

theorem urlChar_head (c : Char) (bs : List Char) : ∃ d cs,
    urlChar c ++ bs = d :: cs ∧ isSpace d = false ∧ d ≠ '\x22' ∧ d ≠ '\x27' ∧ d ≠ ')' := by
  unfold urlChar
  split
  · rw [hexEscape_eq]
    exact ⟨_, _, rfl, rfl, nofun, nofun, nofun⟩
  · rename_i hcontrol
    split
    · exact ⟨_, _, rfl, rfl, nofun, nofun, nofun⟩
    · rename_i hsign
      simp only [Bool.or_eq_true, beq_iff_eq, not_or] at hsign
      obtain ⟨⟨⟨⟨-, hclose⟩, hdouble⟩, hsingle⟩, -⟩ := hsign
      refine ⟨_, _, rfl, Bool.eq_false_iff.2 fun hspace => ?_, hdouble, hsingle, hclose⟩
      simp only [isSpace, isLineEnd, Bool.or_eq_true, beq_iff_eq] at hspace
      rcases hspace with (rfl | rfl) | ((rfl | rfl) | rfl) <;> exact hcontrol rfl

/-- Every character of an address reads back from what is written for it. -/
theorem scanUrlFrom_urlChar (start : Source) {c : Char} (hc : c.toNat ≠ 0) (fuel : Nat)
    (value bs : List Char) :
    scanUrlFrom start (fuel + 1) value (plain (urlChar c ++ bs)) =
      scanUrlFrom start fuel (c :: value) (plain bs) := by
  have hescape : ∀ {escape : List Char}, atLineEnd (plain (escape ++ bs)) = false →
      scanEscape (plain (escape ++ bs)) = (c, plain bs) →
      scanUrlFrom start (fuel + 1) value (plain ('\\' :: escape ++ bs)) =
        scanUrlFrom start fuel (c :: value) (plain bs) := by
    intro escape hend hread
    rw [List.cons_append, plain_cons, scanUrlFrom, hend, hread]
    rfl
  unfold urlChar
  split
  · rename_i hcontrol
    have hsmall : c.toNat < 256 := by
      simp only [Bool.or_eq_true, decide_eq_true_eq, beq_iff_eq] at hcontrol
      omega
    rw [hexEscape_eq]
    refine hescape ?_ ?_
    · rw [List.append_assoc]
      exact atLineEnd_hexDigits hsmall _
    · rw [List.append_assoc]
      exact scanEscape_hexEscape hc hsmall bs
  · rename_i hcontrol
    split
    · rename_i hsign
      simp only [Bool.or_eq_true, beq_iff_eq] at hsign
      rcases hsign with (((rfl | rfl) | rfl) | rfl) | rfl <;> exact hescape rfl rfl
    · rename_i hsign
      obtain ⟨d, ds, heq, hspace, hdouble, hsingle, hclose⟩ := urlChar_head c bs
      rw [urlChar, if_neg hcontrol, if_neg hsign] at heq
      obtain ⟨rfl, rfl⟩ := List.cons.inj heq
      simp only [Bool.or_eq_true, beq_iff_eq, not_or] at hsign
      have hspoils : spoilsUrl c = false := by
        simp only [Bool.or_eq_true, decide_eq_true_eq, beq_iff_eq, not_or] at hcontrol
        simp only [spoilsUrl, Bool.or_eq_false_iff, Bool.and_eq_false_iff, decide_eq_false_iff_not,
          beq_eq_false_iff_ne]
        refine ⟨⟨⟨⟨⟨⟨?_, ?_⟩, ?_⟩, ?_⟩, hdouble⟩, hsingle⟩, hsign.1.1.1.1⟩ <;> omega
      rw [List.singleton_append, plain_cons, scanUrlFrom, hspace, beq_false_of_ne hclose, hspoils,
        beq_false_of_ne hsign.2, if_neg Bool.false_ne_true, if_neg Bool.false_ne_true,
        if_neg Bool.false_ne_true, if_neg Bool.false_ne_true, if_neg hc]

/-- An address reads back. -/
theorem scanUrl?_text {cs : List Char} (h : NoNul cs) (bs : List Char) :
    scanUrl? (plain (cs.flatMap urlChar ++ ')' :: bs)) =
      some (.url (String.ofList cs), plain bs) := by
  have hfrom : ∀ start fuel value, cs.length < fuel →
      scanUrlFrom start fuel value (plain (cs.flatMap urlChar ++ ')' :: bs)) =
        (.url (String.ofList (value.reverse ++ cs)), plain bs) := by
    intro start
    induction cs with
    | nil =>
        intro fuel value hfuel
        obtain ⟨fuel, rfl⟩ : ∃ k, fuel = k + 1 := ⟨fuel - 1, by simp at hfuel; omega⟩
        rw [List.append_nil]
        rfl
    | cons c cs ih =>
        intro fuel value hfuel
        obtain ⟨hc, hcs⟩ := List.forall_mem_cons.1 h
        obtain ⟨fuel, rfl⟩ : ∃ k, fuel = k + 1 := ⟨fuel - 1, by simp at hfuel; omega⟩
        rw [List.flatMap_cons, List.append_assoc, scanUrlFrom_urlChar start hc,
          ih hcs _ _ (by simpa using hfuel), List.reverse_cons, List.append_assoc]
        rfl
  have hle := length_le_flatMap urlChar_ne_nil cs
  cases cs with
  | nil => rfl
  | cons c cs =>
      obtain ⟨d, ds, heq, hspace, hdouble, hsingle, hclose⟩ :=
        urlChar_head c (cs.flatMap urlChar ++ ')' :: bs)
      have htext : (c :: cs).flatMap urlChar ++ ')' :: bs = d :: ds := by
        rw [← heq, List.flatMap_cons, List.append_assoc]
      have hstart : ((plain (d :: ds)).dropWhile fun e => isSpace e.char) = plain (d :: ds) := by
        rw [plain_cons, List.dropWhile_cons, hspace]
        rfl
      have hread := hfrom (plain (d :: ds)) ((plain (d :: ds)).length + 1) [] (by
        rw [length_plain, ← htext, List.length_append]
        omega)
      rw [htext] at hread ⊢
      rw [scanUrl?, hstart, hread]
      simp only [plain_cons]
      rw [beq_false_of_ne hdouble, beq_false_of_ne hsingle, beq_false_of_ne hclose]
      rfl

end FeatureScan.Css
