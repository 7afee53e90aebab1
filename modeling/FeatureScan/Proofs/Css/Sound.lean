import FeatureScan.Proofs.Css.Escapes

/-!
# What the scanner makes sure of

A token that was read from a source carries more than its kind: a name has a character, a NUL is
never kept, a sign of its own is none of the characters that another kind begins with. None of it
holds of every token, and a text reads back only for tokens that have it.

## Main results

* `noNul_scanName`: names hold no NUL.
* `sound_scanToken`: every token read from a source is sound.
-/

namespace FeatureScan.Css

open Source

/-- The name behind a number sign that starts no identifier: it begins with a digit, or with a
hyphen and nothing or a digit behind it. -/
def IsHashName : List Char → Prop
  | [] => False
  | c :: cs => isDigit c = true ∨ c = '-' ∧ ∀ d ∈ cs.head?, isDigit d = true

/-- A character that may be a sign of its own. -/
structure IsSign (c : Char) : Prop where
  /-- It is no white space. -/
  space : isSpace c = false
  /-- It opens no string. -/
  quote : c ≠ '\x22' ∧ c ≠ '\x27'
  /-- It has no token of its own. -/
  sign : signToken? c = none
  /-- It is no digit. -/
  digit : isDigit c = false
  /-- It starts no name. -/
  name : startsName c = false

/-- What the scanner makes sure of in a token. -/
def Token.Sound : Token → Prop
  | .ident name | .atKeyword name | .idHash name | .function name | .dimension _ name =>
    name.toList ≠ [] ∧ NoNul name.toList
  | .hash name => IsHashName name.toList ∧ NoNul name.toList
  | .string value | .url value => NoNul value.toList
  | .compare sign => isComparison sign = true
  | .delim c => IsSign c
  | _ => True

/-! ## No token keeps a NUL -/

theorem noNul_nil : NoNul [] := List.forall_mem_nil _

theorem noNul_cons {c : Char} {cs : List Char} (hc : c.toNat ≠ 0) (h : NoNul cs) :
    NoNul (c :: cs) := List.forall_mem_cons.2 ⟨hc, h⟩

theorem noNul_reverse {cs : List Char} (h : NoNul cs) : NoNul cs.reverse :=
  fun c hc => h c (List.mem_reverse.1 hc)

theorem toNat_charOfCode_ne_zero (n : Nat) : (charOfCode n).toNat ≠ 0 := by
  rw [charOfCode]
  split
  · rename_i h
    have hofNat : (Char.ofNat n).toNat = n := by
      rw [Char.ofNat, dif_pos h.2]
      rfl
    rw [hofNat]
    exact h.1
  · decide

theorem toNat_scanEscape_ne_zero (s : Source) : (scanEscape s).1.toNat ≠ 0 := by
  cases s with
  | nil => decide
  | cons c s =>
      rw [scanEscape]
      split
      · exact toNat_charOfCode_ne_zero _
      · split
        · change '\ufffd'.toNat ≠ 0
          decide
        · assumption

theorem toNat_ne_zero_of_nameChar {c : Char} (h : (isPlainNameChar c || isWide c) = true) :
    c.toNat ≠ 0 := by
  intro hzero
  obtain rfl : c = '\x00' := Char.toNat_inj.1 hzero
  cases h

theorem noNul_scanNameFrom (fuel : Nat) {name : List Char} (h : NoNul name) (s : Source) :
    NoNul (scanNameFrom fuel name s).1 := by
  induction fuel generalizing name s with
  | zero => exact noNul_reverse h
  | succ fuel ih =>
      cases s with
      | nil => exact noNul_reverse h
      | cons c s =>
          rw [scanNameFrom]
          split
          · rename_i hplain
            exact ih (noNul_cons (toNat_ne_zero_of_nameChar hplain) h) s
          · split
            · split
              · exact noNul_reverse h
              · exact ih (noNul_cons (toNat_scanEscape_ne_zero s) h) _
            · split
              · exact ih (noNul_cons (by decide) h) s
              · exact noNul_reverse h

/-- Names hold no NUL. -/
theorem noNul_scanName (s : Source) : NoNul (scanName s).1.toList := by
  have h := noNul_scanNameFrom (s.length + 1) noNul_nil s
  rw [scanName]
  generalize scanNameFrom (s.length + 1) [] s = x at h
  obtain ⟨name, rest⟩ := x
  dsimp only
  rwa [String.toList_ofList]

theorem sound_scanStringFrom (quote : Char) (fuel : Nat) {value : List Char} (h : NoNul value)
    (s : Source) : (scanStringFrom quote fuel value s).1.Sound := by
  have hstring : ∀ {value}, NoNul value → (Token.string (String.ofList value.reverse)).Sound := by
    intro value h
    rw [Token.Sound, String.toList_ofList]
    exact noNul_reverse h
  induction fuel generalizing value s with
  | zero => exact hstring h
  | succ fuel ih =>
      cases s with
      | nil => exact hstring h
      | cons c s =>
          rw [scanStringFrom]
          split
          · exact hstring h
          · split
            · trivial
            · split
              · split
                · exact hstring h
                · split
                  · exact ih h _
                  · exact ih (noNul_cons (toNat_scanEscape_ne_zero s) h) _
              · split
                · exact ih (noNul_cons (by decide) h) s
                · rename_i hc
                  exact ih (noNul_cons hc h) s

theorem sound_endUrl (start : Source) {value : String} (h : NoNul value.toList) (s : Source) :
    (endUrl start value s).1.Sound := by
  unfold endUrl
  split
  · exact h
  · split
    · exact h
    · trivial

theorem sound_scanUrlFrom (start : Source) (fuel : Nat) {value : List Char} (h : NoNul value)
    (s : Source) : (scanUrlFrom start fuel value s).1.Sound := by
  have hvalue : ∀ {value : List Char}, NoNul value →
      NoNul (String.ofList value.reverse).toList := by
    intro value h
    rw [String.toList_ofList]
    exact noNul_reverse h
  induction fuel generalizing value s with
  | zero => exact hvalue h
  | succ fuel ih =>
      cases s with
      | nil => exact hvalue h
      | cons c s =>
          rw [scanUrlFrom]
          split
          · exact sound_endUrl start (hvalue h) _
          · split
            · exact hvalue h
            · split
              · trivial
              · split
                · split
                  · trivial
                  · exact ih (noNul_cons (toNat_scanEscape_ne_zero s) h) _
                · split
                  · exact ih (noNul_cons (by decide) h) s
                  · rename_i hc
                    exact ih (noNul_cons hc h) s

theorem sound_scanUrl? {s : Source} {x : Token × Source} (h : scanUrl? s = some x) :
    x.1.Sound := by
  rw [scanUrl?] at h
  split at h
  · cases h
    exact noNul_nil
  · split at h
    · cases h
    · split at h <;> cases h
      · exact noNul_nil
      · exact sound_scanUrlFrom _ _ noNul_nil _

/-! ## Every token -/

theorem toList_scanName_ne_nil {s : Source} (h : atIdent s = true) : (scanName s).1.toList ≠ [] :=
  fun hnil => scanName_ne_empty h (String.toList_eq_nil_iff.1 hnil)

theorem sound_scanIdentLike {s : Source} (h : atIdent s = true) : (scanIdentLike s).1.Sound := by
  have hname := And.intro (toList_scanName_ne_nil h) (noNul_scanName s)
  rw [scanIdentLike_eq, scanCall]
  split
  · split
    · cases hurl : scanUrl? (scanName s).2.tail with
      | none => exact hname
      | some x => exact sound_scanUrl? hurl
    · exact hname
  · exact hname

theorem sound_scanMeasure (written : Written) (s : Source) : (scanMeasure written s).1.Sound := by
  rw [scanMeasure]
  split
  · trivial
  · split
    · rename_i hident
      exact ⟨toList_scanName_ne_nil hident, noNul_scanName s⟩
    · trivial

/-- A character of a name that starts no identifier and is no hyphen is a digit. -/
theorem isDigit_of_nameChar {c : Char} (h : (isPlainNameChar c || isWide c) = true)
    (hstart : startsName c = false) (hminus : c ≠ '-') : isDigit c = true := by
  refine Classical.not_not.1 fun hdigit => ?_
  rw [isDigit_eq] at hdigit
  rw [startsName_of_plain (Bool.or_eq_true_iff.1 h) (Bool.eq_false_iff.2 hdigit) hminus] at hstart
  cases hstart

theorem isPlainNameChar_of_isDigit {c : Char} (h : isDigit c = true) : isPlainNameChar c = true := by
  rw [isPlainNameChar, Char.isAlphanum, ← isDigit_eq, h, Bool.or_true]
  rfl

/-- A plain character in front of a name is its first. -/
theorem toList_scanName_cons {c : SourceChar} (h : isPlainNameChar c.char = true) (s : Source) :
    (scanName (c :: s)).1.toList = c.char :: (scanName s).1.toList := by
  have hall : ∀ d ∈ [c], isPlainNameChar d.char = true := by simpa using h
  have happend := scanName_append hall s
  rw [List.singleton_append] at happend
  rw [happend, String.toList_append, String.toList_ofList]
  rfl

/-- A name that starts with no letter, hyphen or escape starts with a digit. -/
theorem isDigit_head_scanName {s : Source}
    (h : ((peek? s).any fun c => startsName c || c == '-' || c == '\\') = false) :
    ∀ d ∈ (scanName s).1.toList.head?, isDigit d = true := by
  intro d hd
  cases s with
  | nil => cases hd
  | cons c s =>
      rw [peek?, Option.any_some, Bool.or_eq_false_iff, Bool.or_eq_false_iff] at h
      obtain ⟨⟨hstart, hminus⟩, hback⟩ := h
      by_cases hname : (isPlainNameChar c.char || isWide c.char) = true
      · have hdigit := isDigit_of_nameChar hname hstart (beq_eq_false_iff_ne.1 hminus)
        rw [toList_scanName_cons (isPlainNameChar_of_isDigit hdigit)] at hd
        rwa [← Option.some.inj hd]
      · have hnul : c.char.toNat ≠ 0 := by
          intro hzero
          rw [startsName, hzero, beq_self_eq_true, Bool.or_true] at hstart
          cases hstart
        have hnil : (scanNameFrom ((c :: s).length + 1) [] (c :: s)).1 = [] := by
          rw [scanNameFrom, if_neg hname, hback, if_neg Bool.false_ne_true, if_neg hnul]
          rfl
        rw [show (scanName (c :: s)).1 = String.ofList [] from congrArg String.ofList hnil] at hd
        cases hd

theorem isHashName_scanName {s : Source} (hident : atIdent s = false)
    (hname : (peek? s).any (fun d => isDigit d || d == '-') = true) :
    IsHashName (scanName s).1.toList := by
  cases s with
  | nil => cases hname
  | cons c s =>
      obtain ⟨c, line⟩ := c
      rw [peek?, Option.any_some, Bool.or_eq_true, beq_iff_eq] at hname
      rcases hname with hdigit | hminus
      · rw [toList_scanName_cons (isPlainNameChar_of_isDigit hdigit)]
        exact .inl hdigit
      · dsimp only at hminus
        subst hminus
        rw [toList_scanName_cons rfl]
        rw [atIdent_minus] at hident
        exact .inr ⟨rfl, isDigit_head_scanName hident⟩

/-- Every token read from a source is sound. -/
theorem sound_scanToken (c : SourceChar) (s : Source) : (scanToken c s).1.Sound := by
  have hscanned := scanned_scanToken c s
  generalize scanToken c s = x at hscanned ⊢
  cases hscanned with
  | string => exact sound_scanStringFrom _ _ noNul_nil _
  | idHash _ hname | atKeyword _ hname => exact ⟨toList_scanName_ne_nil hname, noNul_scanName s⟩
  | hash _ hident hname => exact ⟨isHashName_scanName hident hname, noNul_scanName s⟩
  | compare h => exact h
  | numeric => exact sound_scanMeasure _ _
  | identLike _ _ h => exact sound_scanIdentLike h
  | sign h =>
      unfold signToken? at h
      split at h <;> cases h <;> trivial
  | delim hnumber _ _ hident halone =>
      refine ⟨halone.space, halone.quote, halone.sign, ?_, ?_⟩
      · rw [atNumber_cons, Bool.or_eq_false_iff, Bool.or_eq_false_iff] at hnumber
        exact hnumber.1.1
      · refine Bool.eq_false_iff.2 fun hstart => ?_
        rw [atIdent_of_startsName hstart] at hident
        cases hident
  | blank | commentClose | comment | commentOpen => trivial

end FeatureScan.Css
