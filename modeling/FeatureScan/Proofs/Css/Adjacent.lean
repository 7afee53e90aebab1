import FeatureScan.Proofs.Css.Apart

/-!
# Tokens next to each other

Where a source has two tokens with nothing between them, the scanner stopped in front of the second
because nothing there belongs to the first. The text of the second need not be what the source had,
but it starts in a way that the first goes on with no more. The exceptions are a number, whose text
may start with a digit where the source had a sign or a point, and a name `--` that needed an escape.

## Main results

* `stopsAt_of_firstToken?`: what the scanner makes sure of behind a token.
* `endsBefore_of_adjacent`: a token ends before the text of the next.
* `exists_isQuoted_behind`: a function that would read as an address is followed by a string.
-/

namespace FeatureScan.Css

open Source

/-- Whether a token is whole and needs nothing behind it: it is no comment, nothing malformed, and no
backslash, which only a line end makes a sign. -/
def Token.isWhole : Token → Bool
  | .comment | .badUrl _ | .badString _ => false
  | .delim c => c != '\\'
  | _ => true

/-- Whether a token is a function that reads as an address unless a quote follows. -/
def Token.isUrlWord : Token → Bool
  | .function name => Text.asciiLower name == "url"
  | _ => false

/-! ## Where the scanner stops -/

/-- What stands behind a name: nothing that belongs to a name, and a backslash only in front of the
end of a line. -/
def StopsName : Source → Prop
  | [] => True
  | c :: s => isPlainNameChar c.char = false ∧ isWide c.char = false ∧ c.char.toNat ≠ 0 ∧
      (c.char = '\\' → atLineEnd s = true)

theorem stopsName_scanNameFrom {fuel : Nat} (name : List Char) {s : Source} (h : s.length < fuel) :
    StopsName (scanNameFrom fuel name s).2 := by
  fun_induction scanNameFrom fuel name s with
  | case1 => exact absurd h (Nat.not_lt_zero _)
  | case2 => trivial
  | case3 _ _ _ _ _ ih | case6 _ _ _ _ _ _ _ ih => exact ih (Nat.lt_of_succ_lt_succ h)
  | case4 _ _ c s hplain _ hend =>
      rw [Bool.or_eq_true, not_or, Bool.not_eq_true, Bool.not_eq_true] at hplain
      refine ⟨hplain.1, hplain.2, ?_, fun _ => hend⟩
      rename_i hback
      rw [beq_iff_eq.1 hback]
      decide
  | case5 _ _ _ s _ _ _ e rest hr ih =>
      have hle := (isLocal_scanEscape.suffix s).length_le
      rw [hr] at hle
      exact ih (Nat.lt_of_le_of_lt hle (Nat.lt_of_succ_lt_succ h))
  | case7 _ _ c s hplain hback hnul =>
      rw [Bool.or_eq_true, not_or, Bool.not_eq_true, Bool.not_eq_true] at hplain
      exact ⟨hplain.1, hplain.2, hnul, fun h => absurd (beq_iff_eq.2 h) hback⟩

theorem stopsName_scanName (s : Source) : StopsName (scanName s).2 :=
  stopsName_scanNameFrom [] (Nat.lt_succ_self _)

/-- What the scanner makes sure of behind a token. -/
def Token.StopsAt (t : Token) (s : Source) : Prop :=
  match t with
  | .ident _ => StopsName s ∧ peek? s ≠ some '('
  | .atKeyword _ | .hash _ | .idHash _ | .dimension _ _ => StopsName s
  | .number _ => atIdent s = false ∧ peek? s ≠ some '%'
  | .delim c => atNumber (⟨c, 0⟩ :: s) = false ∧ atCommentOpen (⟨c, 0⟩ :: s) = false ∧
      atIdent (⟨c, 0⟩ :: s) = false ∧ StandsAlone c s
  | .function name => Text.asciiLower name = "url" → scanUrl? s = none
  | _ => True

/-- Whether a token is a string, maybe cut off. -/
def Token.isQuoted : Token → Bool
  | .string _ | .badString _ => true
  | _ => false

/-- Whether a token is an address, maybe a bad one. -/
def Token.isAddress : Token → Bool
  | .url _ | .badUrl _ => true
  | _ => false

theorem isQuoted_scanString (quote : Char) (s : Source) :
    (scanString quote s).1.isQuoted = true := by
  rw [scanString]
  fun_induction scanStringFrom quote (s.length + 1) [] s <;> first | rfl | assumption

theorem isAddress_scanUrlFrom (start : Source) (fuel : Nat) (value : List Char) (s : Source) :
    (scanUrlFrom start fuel value s).1.isAddress = true := by
  fun_induction scanUrlFrom start fuel value s with
  | case3 fuel value c s _ =>
      unfold endUrl
      split
      · rfl
      · split <;> rfl
  | case7 _ _ _ _ _ _ _ _ _ _ _ _ ih => exact ih
  | case8 _ _ _ _ _ _ _ _ _ ih => exact ih
  | case9 _ _ _ _ _ _ _ _ _ ih => exact ih
  | case1 | case2 | case4 | case5 | case6 => rfl

theorem isAddress_scanUrl? {s : Source} {x : Token × Source} (h : scanUrl? s = some x) :
    x.1.isAddress = true := by
  unfold scanUrl? at h
  dsimp only at h
  split at h
  · cases h
    rfl
  · split at h
    · cases h
    · split at h
      · cases h
        rfl
      · cases h
        exact isAddress_scanUrlFrom _ _ _ _

theorem stopsAt_of_isQuoted {t : Token} (h : t.isQuoted = true) (s : Source) : t.StopsAt s := by
  cases t with
  | string | badString => trivial
  | _ => cases h

theorem stopsAt_of_isAddress {t : Token} (h : t.isAddress = true) (s : Source) : t.StopsAt s := by
  cases t with
  | url | badUrl => trivial
  | _ => cases h

theorem stopsAt_scanIdentLike (s : Source) : (scanIdentLike s).1.StopsAt (scanIdentLike s).2 := by
  have hstops := stopsName_scanName s
  rw [scanIdentLike_eq, scanCall]
  split
  · split
    · cases hurl : scanUrl? (scanName s).2.tail with
      | none => exact fun _ => hurl
      | some x => exact stopsAt_of_isAddress (isAddress_scanUrl? hurl) _
    · rename_i hname
      exact fun heq => absurd (beq_iff_eq.2 heq) hname
  · rename_i hparen
    exact ⟨hstops, fun heq => hparen (beq_iff_eq.2 heq)⟩

theorem stopsAt_scanMeasure (written : Written) (s : Source) :
    (scanMeasure written s).1.StopsAt (scanMeasure written s).2 := by
  unfold scanMeasure
  split
  · trivial
  · split
    · exact stopsName_scanName s
    · rename_i hpercent hident
      exact ⟨Bool.eq_false_iff.2 hident, fun heq => hpercent (beq_iff_eq.2 heq)⟩

/-- What the scanner makes sure of behind a token that it read. -/
theorem stopsAt_of_firstToken? {cs : List Char} {t : Token} {rest : Source}
    (h : firstToken? cs = some (t, rest)) : t.StopsAt rest := by
  cases cs with
  | nil => cases h
  | cons c cs =>
      have hscanned := scanned_scanToken ⟨c, 0⟩ (plain cs)
      rw [Option.some.inj h] at hscanned
      clear h
      generalize plain cs = s at *
      change (t, rest).1.StopsAt (t, rest).2
      generalize (t, rest) = x at *
      cases hscanned with
      | string => exact stopsAt_of_isQuoted (isQuoted_scanString _ _) _
      | idHash | hash | atKeyword => exact stopsName_scanName s
      | numeric => exact stopsAt_scanMeasure _ _
      | identLike => exact stopsAt_scanIdentLike _
      | sign h =>
          unfold signToken? at h
          split at h <;> cases h <;> trivial
      | delim hnumber _ hopen hident halone => exact ⟨hnumber, hopen, hident, halone⟩
      | blank | compare | commentClose | comment | commentOpen => trivial

/-! ## How a token starts in a source -/

/-- How the text of a token starts compared with the source that it was read from. -/
inductive StartsLike (t : Token) (cs : List Char) : Prop
  /-- Like an identifier, as the source does. -/
  | ident (hsource : atIdent (plain cs) = true) (htext : ∀ bs, atIdent (plain (t.text ++ bs)) = true)
  /-- With a quote. -/
  | string {value : String} (h : t = .string value)
  /-- With the same character, and no more of what tokens look for. -/
  | shows (h : ShowsLess t.text cs)

theorem atFraction_cons (c : Char) (cs : List Char) :
    atFraction (plain (c :: cs)) = (c == '.' && cs.head?.any isDigit) := by
  rw [plain_cons, atFraction, second?_cons, peek?_plain]
  rfl

/-- What starts with a sign shows no more than that sign. -/
theorem showsLess_cons {c : Char} (hc : c ∉ ['-', '.', '\\']) (hspace : isSpace c = false)
    (less more : List Char) : ShowsLess (c :: less) (c :: more) := by
  simp only [List.mem_cons, List.not_mem_nil, or_false, not_or] at hc
  obtain ⟨hminus, hpoint, hback⟩ := hc
  refine ⟨rfl, fun hi => ?_, fun hf => ?_, fun hq => ?_⟩
  · rwa [plain_cons, atIdent_eq_startsName hminus hback] at hi ⊢
  · rw [atFraction_cons, beq_false_of_ne hpoint] at hf
    cases hf
  · rw [quoteNext, List.dropWhile_cons, hspace] at hq ⊢
    exact hq

theorem showsLess_delim {c : Char} (hsign : IsSign c) (hback : c ≠ '\\') (more : List Char) :
    ShowsLess [c] (c :: more) := by
  refine ⟨rfl, fun hi => ?_, fun hf => ?_, fun hq => ?_⟩
  · by_cases hminus : c = '-'
    · rw [hminus] at hi
      cases hi
    · rw [plain_cons, atIdent_eq_startsName hminus hback] at hi
      rw [show startsName c = false from hsign.name] at hi
      cases hi
  · rw [atFraction_cons, List.head?_nil, Option.any_none, Bool.and_false] at hf
    cases hf
  · rw [quoteNext, List.dropWhile_cons, hsign.space] at hq
    simp only [Bool.false_eq_true, if_false, List.head?_cons, Option.any_some, Bool.or_eq_true,
      beq_iff_eq] at hq
    exact absurd hq (not_or.2 hsign.quote)

theorem showsLess_commentClose {c : Char} {cs : List Char}
    (h : atCommentClose (plain (c :: cs)) = true) :
    ShowsLess Token.commentClose.text (c :: cs) := by
  simp only [plain_cons, atCommentClose, peek?_plain, Bool.and_eq_true, beq_iff_eq] at h
  obtain ⟨rfl, hminus, -⟩ := h
  refine ⟨rfl, fun _ => ?_, fun hf => ?_, fun hq => ?_⟩
  · rw [plain_cons, atIdent_minus, peek?_plain, hminus]
    rfl
  · cases hf
  · cases hq

theorem not_sign_of_isComparison {c : Char} (h : isComparison c = true) :
    c ∉ ['-', '.', '\\'] ∧ isSpace c = false := by
  simp only [isComparison, Bool.or_eq_true, beq_iff_eq] at h
  rcases h with (((rfl | rfl) | rfl) | rfl) | rfl <;> exact ⟨by decide, rfl⟩

/-- Whether a token is an identifier, a function or an address. -/
def Token.isIdentLike : Token → Bool
  | .ident _ | .function _ | .url _ | .badUrl _ => true
  | _ => false

theorem isIdentLike_scanIdentLike (s : Source) : (scanIdentLike s).1.isIdentLike = true := by
  rw [scanIdentLike_eq, scanCall]
  split
  · split
    · cases hurl : scanUrl? (scanName s).2.tail with
      | none => rfl
      | some x =>
          have haddress := isAddress_scanUrl? hurl
          obtain ⟨t, rest⟩ := x
          cases t with
          | url | badUrl => rfl
          | _ => cases haddress
    · rfl
  · rfl

theorem atIdent_text {t : Token} (hsound : t.Sound) (h : t.isIdentLike = true) (bs : List Char) :
    atIdent (plain (t.text ++ bs)) = true := by
  cases t with
  | ident name => exact atIdent_escapedIdent hsound.1 hsound.2 bs
  | function name =>
      rw [Token.text, List.append_assoc]
      exact atIdent_escapedIdent hsound.1 hsound.2 _
  | url | badUrl => rfl
  | _ => cases h

theorem isNumeric_scanNumeric (s : Source) : (scanNumeric s).1.isNumeric = true := by
  have hmeasure : ∀ written s, (scanMeasure written s).1.isNumeric = true := by
    intro written s
    unfold scanMeasure
    split
    · rfl
    · split <;> rfl
  exact hmeasure _ _

theorem startsLike_of_signToken? {c : Char} {t : Token} (h : signToken? c = some t)
    (cs : List Char) : StartsLike t (c :: cs) := by
  unfold signToken? at h
  split at h <;> cases h <;> exact .shows (showsLess_cons (by decide) rfl _ _)

theorem startsLike_of_firstToken? {cs : List Char} {t : Token} {rest : Source}
    (h : firstToken? cs = some (t, rest)) (hwhole : t.isWhole = true) (hblank : t ≠ .blank)
    (hnumeric : t.isNumeric = false) : StartsLike t cs := by
  cases cs with
  | nil => cases h
  | cons c cs =>
      have hscan := Option.some.inj h
      have hsound := sound_scanToken ⟨c, 0⟩ (plain cs)
      have hscanned := scanned_scanToken ⟨c, 0⟩ (plain cs)
      rw [hscan] at hsound hscanned
      generalize hx : (t, rest) = x at hscanned
      cases hscanned with
      | blank => exact absurd (Prod.ext_iff.1 hx).1 hblank
      | string =>
          have hquoted := isQuoted_scanString c (plain cs)
          rw [← hx] at hquoted
          cases t with
          | string value => exact .string rfl
          | badString => cases hwhole
          | _ => cases hquoted
      | idHash hc | hash hc | atKeyword hc =>
          obtain ⟨rfl, -⟩ := Prod.ext_iff.1 hx
          dsimp only at hc
          subst hc
          exact .shows (showsLess_cons (by decide) rfl _ _)
      | compare hc =>
          obtain ⟨rfl, -⟩ := Prod.ext_iff.1 hx
          obtain ⟨hsign, hspace⟩ := not_sign_of_isComparison hc
          exact .shows (showsLess_cons hsign hspace _ _)
      | numeric =>
          have hnumber := isNumeric_scanNumeric (⟨c, 0⟩ :: plain cs)
          rw [← hx, hnumeric] at hnumber
          cases hnumber
      | commentClose hc =>
          obtain ⟨rfl, -⟩ := Prod.ext_iff.1 hx
          exact .shows (showsLess_commentClose hc)
      | comment =>
          obtain ⟨rfl, -⟩ := Prod.ext_iff.1 hx
          cases hwhole
      | commentOpen hc =>
          obtain ⟨rfl, -⟩ := Prod.ext_iff.1 hx
          simp only [atCommentOpen, Bool.and_eq_true, beq_iff_eq] at hc
          obtain ⟨⟨⟨rfl, -⟩, -⟩, -⟩ := hc
          exact .shows (showsLess_cons (by decide) rfl _ _)
      | identLike _ _ hident =>
          have hlike := isIdentLike_scanIdentLike (⟨c, 0⟩ :: plain cs)
          rw [← hx] at hlike
          exact .ident hident (atIdent_text hsound hlike)
      | sign hc =>
          obtain ⟨rfl, -⟩ := Prod.ext_iff.1 hx
          exact startsLike_of_signToken? hc cs
      | delim =>
          obtain ⟨rfl, -⟩ := Prod.ext_iff.1 hx
          exact .shows (showsLess_delim hsound (bne_iff_ne.1 hwhole) _)

/-! ## In front of what nothing goes on with -/

section Quiet

variable {t : Token} {next : List Char}

/-- Nothing goes on with a blank, a quote or a closing bracket. -/
def IsQuiet (next : List Char) : Prop := ∀ c ∈ next.head?, c ∈ [' ', '\x22', ')', ']', '\x7d']

theorem IsQuiet.cases (h : IsQuiet next) :
    next = [] ∨ ∃ c cs, next = c :: cs ∧ (c = ' ' ∨ c = '\x22' ∨ c = ')' ∨ c = ']' ∨ c = '\x7d') := by
  cases next with
  | nil => exact .inl rfl
  | cons c cs =>
      have hc := h c rfl
      simp only [List.mem_cons, List.not_mem_nil, or_false] at hc
      exact .inr ⟨c, cs, rfl, hc⟩

theorem IsQuiet.head_ne (h : IsQuiet next) {c : Char} (hc : c ∉ [' ', '\x22', ')', ']', '\x7d']) :
    next.head? ≠ some c := fun heq => hc (h c heq)

theorem IsQuiet.tests (h : IsQuiet next) : nameGoesOn next = false ∧ numberGoesOn next = false ∧
    atIdent (plain next) = false ∧ atFraction (plain next) = false ∧
    next.head?.any (fun d => isDigit d || d == '-') = false := by
  rcases h.cases with rfl | ⟨c, cs, rfl, rfl | rfl | rfl | rfl | rfl⟩ <;> exact ⟨rfl, rfl, rfl, rfl, rfl⟩

/-- Nothing goes on with a sign where no number starts and none of the signs that it is read together
with, unless it belongs to a name. -/
theorem signGoesOn_eq_false {c : Char} (hsign : IsSign c) (hback : c ≠ '\\')
    (hminus : c = '-' → atIdent (plain ('-' :: next)) = false)
    (hhash : c = '#' → atIdent (plain next) = false ∧
      next.head?.any (fun d => isDigit d || d == '-') = false)
    (hat : c = '@' → atIdent (plain next) = false) (hdigit : next.head?.any isDigit = false)
    (hfraction : atFraction (plain next) = false)
    (hnext : ∀ d ∈ ['=', '*', '!'], next.head? ≠ some d) : signGoesOn c next = false := by
  have hident : atIdent (plain (c :: next)) = false := by
    by_cases hc : c = '-'
    · rw [hc]
      exact hminus hc
    · rw [plain_cons, atIdent_eq_startsName hc hback]
      exact hsign.name
  have hmark : markNext next = false := by
    refine Bool.eq_false_iff.2 fun hmark => ?_
    have hne : next ≠ [] := by
      rintro rfl
      cases hmark
    rw [← List.append_nil next] at hmark
    obtain ⟨ds, rfl⟩ := exclamation_of_markNext hne hmark
    exact hnext '!' (by simp) rfl
  have hequals : (next.head? == some '=') = false := beq_false_of_ne (hnext _ (by simp))
  have hstar : (next.head? == some '*') = false := beq_false_of_ne (hnext _ (by simp))
  have hhash : (c == '#' && (atIdent (plain next) ||
      next.head?.any fun d => isDigit d || d == '-')) = false :=
    Bool.and_eq_false_imp.2 fun hc => Bool.or_eq_false_iff.2 (hhash (beq_iff_eq.1 hc))
  have hat : (c == '@' && atIdent (plain next)) = false :=
    Bool.and_eq_false_imp.2 fun hc => hat (beq_iff_eq.1 hc)
  rw [signGoesOn, atNumber_plain, atCommentOpen_plain, hsign.digit, hdigit, hfraction, hmark, hident,
    hequals, hstar, hhash, hat]
  simp only [Bool.and_false, Bool.or_false]

theorem signGoesOn_of_quiet (hnext : IsQuiet next) {c : Char} (hsign : IsSign c)
    (hback : c ≠ '\\') : signGoesOn c next = false := by
  obtain ⟨-, hnumber, hident, hfraction, hhead⟩ := hnext.tests
  have hdigit : next.head?.any isDigit = false := by
    rw [numberGoesOn, Bool.or_eq_false_iff, Bool.or_eq_false_iff, Bool.or_eq_false_iff] at hnumber
    exact hnumber.1.1.1
  refine signGoesOn_eq_false hsign hback (fun _ => atIdent_hyphen fun c hc => ?_)
    (fun _ => ⟨hident, hhead⟩) (fun _ => hident) hdigit hfraction fun d hd => hnext.head_ne ?_
  · have hquiet := hnext c hc
    simp only [List.mem_cons, List.not_mem_nil, or_false] at hquiet
    rcases hquiet with rfl | rfl | rfl | rfl | rfl <;> exact ⟨rfl, by decide, by decide⟩
  · simp only [List.mem_cons, List.not_mem_nil, or_false] at hd
    rcases hd with rfl | rfl | rfl <;> decide

/-- A whole token ends in front of what nothing goes on with. -/
theorem endsBefore_of_quiet (hsound : t.Sound) (hwhole : t.isWhole = true) (hblank : t ≠ .blank)
    (hword : t.isUrlWord = false) (hnext : IsQuiet next) : t.endsBefore next = true := by
  obtain ⟨hname, hnumber, -⟩ := hnext.tests
  cases t with
  | ident name =>
      have hparen := hnext.head_ne (c := '(') (by decide)
      have hgreater : (next.head? == some '>') = false :=
        beq_false_of_ne (hnext.head_ne (by decide))
      rw [Token.endsBefore, hname, bne_iff_ne.2 hparen, hgreater, Bool.and_false]
      rfl
  | atKeyword | hash | idHash | dimension =>
      rw [Token.endsBefore, hname]
      rfl
  | number n =>
      rw [Token.endsBefore, hnumber]
      rfl
  | delim c =>
      rw [Token.endsBefore, signGoesOn_of_quiet hnext hsound (bne_iff_ne.1 hwhole)]
      rfl
  | function name =>
      have hne : (Text.asciiLower name != "url") = true := by
        rw [Token.isUrlWord] at hword
        rw [bne, hword]
        rfl
      rw [Token.endsBefore, hne, Bool.true_or]
  | blank => exact absurd rfl hblank
  | comment | badUrl | badString => cases hwhole
  | _ => rfl

end Quiet

/-! ## A token and the next -/

section Next

variable {t u : Token} {bs : List Char}

theorem quoteNext_of_scanUrl? (h : scanUrl? (plain bs) = none) : quoteNext bs = true := by
  have hstart : ((plain bs).dropWhile fun c => isSpace c.char) = plain (bs.dropWhile isSpace) := by
    rw [plain, List.dropWhile_map]
    rfl
  rw [scanUrl?, hstart] at h
  rw [quoteNext]
  cases hdrop : bs.dropWhile isSpace with
  | nil =>
      rw [hdrop] at h
      cases h
  | cons c cs =>
      rw [hdrop, plain_cons] at h
      dsimp only at h
      split at h
      · assumption
      · split at h <;> cases h

/-- What the scanner makes sure of is enough for the token to end, in front of what is no number, no
backslash at the end of a line and no sign that makes a name close a comment of a page. -/
theorem Token.StopsAt.endsBefore (h : t.StopsAt (plain bs)) (hwhole : t.isWhole = true)
    (hblank : t ≠ .blank) (hnumber : atNumber (plain bs) = false)
    (hback : ∀ cs, bs = '\\' :: cs → atLineEnd (plain cs) = false)
    (hclose : t = .ident "--" → bs.head? ≠ some '>') : t.endsBefore bs = true := by
  have hname : StopsName (plain bs) → nameGoesOn bs = false := by
    intro hstops
    cases bs with
    | nil => rfl
    | cons c cs =>
        obtain ⟨hplain, hwide, hnul, hline⟩ := hstops
        have hne : c ≠ '\\' := by
          rintro rfl
          exact Bool.eq_false_iff.1 (hback cs rfl) (hline rfl)
        rw [nameGoesOn, List.head?_cons, Option.any_some, hplain, hwide, beq_false_of_ne hnul,
          beq_false_of_ne hne]
        rfl
  have hdigit : bs.head?.any isDigit = false ∧ atFraction (plain bs) = false := by
    cases bs with
    | nil => exact ⟨rfl, rfl⟩
    | cons c cs =>
        rw [atNumber_plain, Bool.or_eq_false_iff, Bool.or_eq_false_iff] at hnumber
        exact ⟨hnumber.1.1, (atFraction_cons c cs).trans hnumber.1.2⟩
  cases t with
  | ident name =>
      obtain ⟨hstops, hparen⟩ := h
      rw [peek?_plain] at hparen
      have hgreater : (name == "--" && bs.head? == some '>') = false := by
        by_cases heq : name = "--"
        · rw [beq_false_of_ne (hclose (congrArg Token.ident heq)), Bool.and_false]
        · rw [beq_false_of_ne heq, Bool.false_and]
      rw [Token.endsBefore, hname hstops, bne_iff_ne.2 hparen, hgreater]
      rfl
  | atKeyword | hash | idHash | dimension =>
      rw [Token.endsBefore, hname h]
      rfl
  | number n =>
      obtain ⟨hident, hpercent⟩ := h
      rw [peek?_plain] at hpercent
      rw [Token.endsBefore, numberGoesOn, hdigit.1, hdigit.2, hident, beq_false_of_ne hpercent]
      rfl
  | delim c =>
      obtain ⟨hnumber, hopen, hident, halone⟩ := h
      obtain ⟨-, -, hhash, hequals, hstar, hat, -⟩ := halone
      rw [peek?_plain] at hhash hequals hstar
      simp only [Token.endsBefore, signGoesOn, Bool.not_eq_true', Bool.or_eq_false_iff,
        Bool.and_eq_false_imp, beq_iff_eq]
      exact ⟨⟨⟨⟨⟨⟨hnumber, hopen⟩, hident⟩, hhash⟩, fun hc => beq_false_of_ne (hequals hc)⟩,
        fun hc => beq_false_of_ne (hstar hc)⟩, hat⟩
  | function name =>
      rw [Token.endsBefore, Bool.or_eq_true, bne_iff_ne]
      by_cases heq : Text.asciiLower name = "url"
      · exact .inr (quoteNext_of_scanUrl? (h heq))
      · exact .inl heq
  | blank => exact absurd rfl hblank
  | comment | badUrl | badString => cases hwhole
  | _ => rfl

/-- The first character of an identifier. -/
theorem head_of_atIdent (h : atIdent (plain bs) = true) :
    ∃ c cs, bs = c :: cs ∧ (startsName c = true ∨ c = '-' ∨ c = '\\') := by
  cases bs with
  | nil => cases h
  | cons c cs =>
      refine ⟨c, cs, rfl, ?_⟩
      by_cases hminus : c = '-'
      · exact .inr (.inl hminus)
      · by_cases hback : c = '\\'
        · exact .inr (.inr hback)
        · rw [plain_cons, atIdent_eq_startsName hminus hback] at h
          exact .inl h

theorem head_ne_of_atIdent (h : atIdent (plain bs) = true) {d : Char}
    (hd : startsName d = false ∧ d ≠ '-' ∧ d ≠ '\\') : bs.head? ≠ some d := by
  obtain ⟨c, cs, rfl, hc⟩ := head_of_atIdent h
  rintro ⟨rfl⟩
  rcases hc with hstart | hc | hc
  · rw [hd.1] at hstart
    cases hstart
  · exact hd.2.1 hc
  · exact hd.2.2 hc

theorem nameGoesOn_of_atIdent (h : atIdent (plain bs) = true) : nameGoesOn bs = true := by
  obtain ⟨c, cs, rfl, hc⟩ := head_of_atIdent h
  rw [nameGoesOn, List.head?_cons, Option.any_some]
  rcases hc with hstart | rfl | rfl
  · simp only [startsName, Bool.or_eq_true] at hstart
    simp only [isPlainNameChar, Char.isAlphanum, Bool.or_eq_true]
    rcases hstart with ((halpha | hline) | hnul) | hwide
    · exact .inl (.inl (.inl (.inl (.inl (.inl halpha)))))
    · exact .inl (.inl (.inl (.inl (.inr hline))))
    · exact .inl (.inr hnul)
    · exact .inl (.inl (.inr hwide))
  · rfl
  · rfl

/-- Behind a hyphen an identifier goes on with it. -/
theorem atIdent_hyphen_of_atIdent (h : atIdent (plain bs) = true) :
    atIdent (plain ('-' :: bs)) = true := by
  obtain ⟨c, cs, rfl, hc⟩ := head_of_atIdent h
  rw [plain_cons, atIdent_minus, peek?_plain, List.head?_cons, Option.any_some]
  rcases hc with hstart | rfl | rfl
  · rw [hstart]
    rfl
  · rfl
  · rfl

theorem quoteNext_of_atIdent (h : atIdent (plain bs) = true) : quoteNext bs = false := by
  cases bs with
  | nil => rfl
  | cons c cs =>
      have hsign : c ∉ signChars := notMem_signChars_of_atIdent h
      have hspace : isSpace c = false :=
        Bool.eq_false_iff.2 fun hspace => hsign (mem_signChars_of_isSpace hspace)
      rw [quoteNext, List.dropWhile_cons, hspace]
      refine Bool.eq_false_iff.2 fun hquote => hsign ?_
      simp only [Bool.false_eq_true, if_false, List.head?_cons, Option.any_some, Bool.or_eq_true,
        beq_iff_eq] at hquote
      rcases hquote with rfl | rfl <;> decide

/-- Where one identifier may follow, any other may: only whether one starts is looked for. -/
theorem Token.endsBefore_of_atIdent {next : List Char} (hsound : t.Sound) (hwhole : t.isWhole = true)
    (hblank : t ≠ .blank) (hbs : atIdent (plain bs) = true) (hnext : atIdent (plain next) = true)
    (h : t.endsBefore bs = true) : t.endsBefore next = true := by
  have hname := nameGoesOn_of_atIdent hbs
  cases t with
  | ident | atKeyword | hash | idHash | dimension =>
      rw [endsBefore, hname] at h
      cases h
  | number n =>
      rw [endsBefore, numberGoesOn, hbs, Bool.or_true, Bool.true_or] at h
      cases h
  | delim c =>
      have hno : signGoesOn c bs = false := by rwa [endsBefore, Bool.not_eq_true'] at h
      simp only [signGoesOn, Bool.or_eq_false_iff, Bool.and_eq_false_imp, beq_iff_eq] at hno
      obtain ⟨⟨⟨⟨⟨-, hident⟩, hhash⟩, -⟩, -⟩, hat⟩ := hno
      have hnone : ∀ d ∈ ['-', '#', '@'], c ≠ d := by
        intro d hd hc
        subst hc
        simp only [List.mem_cons, List.not_mem_nil, or_false] at hd
        rcases hd with rfl | rfl | rfl
        · rw [atIdent_hyphen_of_atIdent hbs] at hident
          cases hident
        · exact absurd ((hhash rfl).1.symm.trans hbs) Bool.false_ne_true
        · exact absurd ((hat rfl).symm.trans hbs) Bool.false_ne_true
      have hdigit : next.head?.any isDigit = false := by
        obtain ⟨d, ds, rfl, hd⟩ := head_of_atIdent hnext
        refine Bool.eq_false_iff.2 fun hdigit => ?_
        have hstart := not_startsName_of_isDigit hdigit
        rcases hd with hd | rfl | rfl
        · rw [hd] at hstart
          cases hstart
        · cases hdigit
        · cases hdigit
      have hfraction : atFraction (plain next) = false := by
        rw [atFraction, peek?_plain, beq_false_of_ne (head_ne_of_atIdent hnext ⟨rfl, by decide, by decide⟩)]
        rfl
      rw [endsBefore, Bool.not_eq_true']
      refine signGoesOn_eq_false hsound (bne_iff_ne.1 hwhole) (fun hc => absurd hc (hnone _ (by simp)))
        (fun hc => absurd hc (hnone _ (by simp))) (fun hc => absurd hc (hnone _ (by simp))) hdigit
        hfraction fun d hd => head_ne_of_atIdent hnext ?_
      simp only [List.mem_cons, List.not_mem_nil, or_false] at hd
      rcases hd with rfl | rfl | rfl <;> exact ⟨rfl, by decide, by decide⟩
  | function name =>
      rw [endsBefore, quoteNext_of_atIdent hbs, Bool.or_false] at h
      rw [endsBefore, h, Bool.true_or]
  | blank => exact absurd rfl hblank
  | _ => exact h

theorem sound_of_firstToken? {rest : Source} (h : firstToken? bs = some (t, rest)) : t.Sound := by
  cases bs with
  | nil => cases h
  | cons c cs =>
      have hsound := sound_scanToken ⟨c, 0⟩ (plain cs)
      rwa [Option.some.inj h] at hsound

theorem Token.endsBefore_of_quoteNext (hword : t.isUrlWord = true) (h : quoteNext bs = true) :
    t.endsBefore bs = true := by
  cases t with
  | function name => rw [endsBefore, h, Bool.or_true]
  | _ => cases hword

theorem isNumeric_of_atNumber (hnumber : atNumber (plain bs) = true) {rest : Source}
    (h : firstToken? bs = some (t, rest)) : t.isNumeric = true := by
  cases bs with
  | nil => cases h
  | cons c cs =>
      have hnumeric := isNumeric_scanNumeric (⟨c, 0⟩ :: plain cs)
      have hscan := scanToken_numeric (c := ⟨c, 0⟩) (s := plain cs) hnumber
      rwa [← hscan, Option.some.inj h] at hnumeric

theorem firstToken?_backslash {cs : List Char} (h : atLineEnd (plain cs) = true) :
    firstToken? ('\\' :: cs) = some (.delim '\\', plain cs) := by
  have hscan : scanToken ⟨'\\', 0⟩ (plain cs) = if atLineEnd (plain cs) then
      (.delim '\\', plain cs) else scanIdentLike (⟨'\\', 0⟩ :: plain cs) := rfl
  rw [firstToken?, hscan, if_pos h]

/-- A token ends before the text of the next, with which nothing of the source stands between. -/
theorem endsBefore_of_firstToken? {cs : List Char} {rest : Source}
    (ht : firstToken? cs = some (t, plain bs)) (hu : firstToken? bs = some (u, rest))
    (htwhole : t.isWhole = true) (huwhole : u.isWhole = true) (htblank : t ≠ .blank)
    (hublank : u ≠ .blank) (hnumeric : u.isNumeric = false)
    (hclose : t = .ident "--" → u ≠ .delim '>') : t.endsBefore u.text = true := by
  have htsound := sound_of_firstToken? ht
  have husound := sound_of_firstToken? hu
  have hends : t.endsBefore bs = true := by
    refine (stopsAt_of_firstToken? ht).endsBefore htwhole htblank ?_ ?_ fun hname hgreater => ?_
    · refine Bool.eq_false_iff.2 fun hnumber => ?_
      rw [isNumeric_of_atNumber hnumber hu] at hnumeric
      cases hnumeric
    · rintro cs rfl
      refine Bool.eq_false_iff.2 fun hline => ?_
      rw [firstToken?_backslash hline, Option.some.injEq, Prod.mk.injEq] at hu
      rw [← hu.1] at huwhole
      cases huwhole
    · obtain ⟨cs, rfl⟩ := List.head?_eq_some_iff.1 hgreater
      exact hclose hname (Prod.ext_iff.1 (Option.some.inj hu)).1.symm
  cases startsLike_of_firstToken? hu huwhole hublank hnumeric with
  | ident hsource htext =>
      have hnext := htext []
      rw [List.append_nil] at hnext
      exact t.endsBefore_of_atIdent htsound htwhole htblank hsource hnext hends
  | string h =>
      rw [h]
      cases hword : t.isUrlWord with
      | true => exact Token.endsBefore_of_quoteNext hword rfl
      | false => exact endsBefore_of_quiet htsound htwhole htblank hword fun c hc => by cases hc; decide
  | shows h =>
      refine Token.endsBefore_of_showsLess h (fun _ hmark => ?_) hends
      have hcomment : u ≠ .comment := by
        rintro rfl
        cases huwhole
      rw [← List.append_nil u.text] at hmark
      obtain ⟨ds, htext⟩ := exclamation_of_markNext (text_ne_nil husound hcomment) hmark
      rw [List.append_nil, eq_delim_of_exclamation husound htext] at hmark
      cases hmark

end Next

/-! ## Rows of tokens in a source -/

section Rows

variable {cs : List Char} {t u : Token} {as ts : List Token}

theorem tokenList_cons (c : Char) (cs : List Char) : ∃ t bs,
    firstToken? (c :: cs) = some (t, plain bs) ∧ tokenList (c :: cs) = t :: tokenList bs := by
  obtain ⟨front, happend⟩ := suffix_scanToken ⟨c, 0⟩ (plain cs)
  obtain ⟨as, bs, -, -, hbs⟩ := List.map_eq_append_iff.1 happend.symm
  have hrest : (scanToken ⟨c, 0⟩ (plain cs)).2 = plain bs := hbs.symm
  have hfirst : firstToken? (c :: cs) = some ((scanToken ⟨c, 0⟩ (plain cs)).1, plain bs) := by
    rw [firstToken?, ← hrest]
  exact ⟨_, bs, hfirst, tokenList_of_firstToken? hfirst⟩

/-- The first token of a source, and the source of the others. -/
theorem exists_firstToken? (h : tokenList cs = t :: ts) :
    ∃ bs, firstToken? cs = some (t, plain bs) ∧ tokenList bs = ts := by
  cases cs with
  | nil => cases h
  | cons c cs =>
      obtain ⟨u, bs, hfirst, hlist⟩ := tokenList_cons c cs
      rw [hlist, List.cons.injEq] at h
      obtain ⟨rfl, rfl⟩ := h
      exact ⟨bs, hfirst, rfl⟩

/-- Every end of the tokens of a source is the tokens of an end of it. -/
theorem exists_source (h : tokenList cs = as ++ ts) : ∃ bs, tokenList bs = ts := by
  induction as generalizing cs with
  | nil => exact ⟨cs, h⟩
  | cons a as ih =>
      obtain ⟨bs, -, hbs⟩ := exists_firstToken? h
      exact ih hbs

theorem sound_of_mem_tokenList (h : t ∈ tokenList cs) : t.Sound := by
  obtain ⟨as, ts, hts⟩ := List.append_of_mem h
  obtain ⟨bs, hbs⟩ := exists_source hts
  obtain ⟨_, hfirst, -⟩ := exists_firstToken? hbs
  exact sound_of_firstToken? hfirst

/-- Two tokens next to each other in a source keep apart when they are written. -/
theorem endsBefore_of_adjacent (h : [t, u] <:+: tokenList cs) (htwhole : t.isWhole = true)
    (huwhole : u.isWhole = true) (htblank : t ≠ .blank) (hublank : u ≠ .blank)
    (hnumeric : u.isNumeric = false) (hclose : t = .ident "--" → u ≠ .delim '>') :
    t.endsBefore u.text = true := by
  obtain ⟨as, ts, hts⟩ := h
  rw [List.append_assoc] at hts
  obtain ⟨bs, hbs⟩ := exists_source hts.symm
  obtain ⟨bs, ht, hbs⟩ := exists_firstToken? hbs
  obtain ⟨_, hu, -⟩ := exists_firstToken? hbs
  exact endsBefore_of_firstToken? ht hu htwhole huwhole htblank hublank hnumeric hclose

theorem exists_isQuoted {quote : Char} (h : quote = '\x22' ∨ quote = '\x27') (bs : List Char) :
    ∃ u us, tokenList (quote :: bs) = u :: us ∧ u.isQuoted = true := by
  have hscan : scanToken ⟨quote, 0⟩ (plain bs) = scanString quote (plain bs) := by
    rcases h with rfl | rfl <;> rfl
  have hquoted := isQuoted_scanString quote (plain bs)
  obtain ⟨u, rest, hfirst, hlist⟩ := tokenList_cons quote bs
  rw [firstToken?, hscan, Option.some.injEq] at hfirst
  rw [hfirst] at hquoted
  exact ⟨u, _, hlist, hquoted⟩

/-- Where a quote comes next, the next token is a string, white space aside. -/
theorem exists_isQuoted_of_quoteNext {bs : List Char} (h : quoteNext bs = true) :
    ∃ u us, (tokenList bs).dropWhile (· == .blank) = u :: us ∧ u.isQuoted = true := by
  have hkept : ∀ {c : Char} {cs : List Char}, c = '\x22' ∨ c = '\x27' →
      ∃ u us, (tokenList (c :: cs)).dropWhile (· == .blank) = u :: us ∧ u.isQuoted = true := by
    intro c cs hc
    obtain ⟨u, us, hlist, hquoted⟩ := exists_isQuoted hc cs
    have hblank : (u == .blank) = false := by
      refine beq_false_of_ne ?_
      rintro rfl
      cases hquoted
    exact ⟨u, us, by rw [hlist, List.dropWhile_cons, hblank]; rfl, hquoted⟩
  cases bs with
  | nil => cases h
  | cons c cs =>
      rw [quoteNext] at h
      cases hspace : isSpace c with
      | false =>
          rw [List.dropWhile_cons, hspace] at h
          simp only [Bool.false_eq_true, if_false, List.head?_cons, Option.any_some, Bool.or_eq_true,
            beq_iff_eq] at h
          exact hkept h
      | true =>
          rw [List.dropWhile_cons, hspace, if_pos rfl] at h
          have hfirst : firstToken? (c :: cs) = some (.blank, plain (cs.dropWhile isSpace)) := by
            rw [firstToken?, scanToken, if_pos hspace, plain, List.dropWhile_map]
            rfl
          rw [tokenList_of_firstToken? hfirst, List.dropWhile_cons]
          cases hdrop : cs.dropWhile isSpace with
          | nil =>
              rw [hdrop] at h
              cases h
          | cons d ds =>
              rw [hdrop] at h
              simp only [List.head?_cons, Option.any_some, Bool.or_eq_true, beq_iff_eq] at h
              exact hkept h

/-- Behind a function that would read as an address comes a string, white space aside. -/
theorem exists_isQuoted_behind (h : tokenList cs = as ++ t :: ts) (hword : t.isUrlWord = true) :
    ∃ u us, ts.dropWhile (· == .blank) = u :: us ∧ u.isQuoted = true := by
  obtain ⟨bs, hbs⟩ := exists_source h
  obtain ⟨bs, hfirst, rfl⟩ := exists_firstToken? hbs
  have hstops := stopsAt_of_firstToken? hfirst
  refine exists_isQuoted_of_quoteNext ?_
  cases t with
  | function name => exact quoteNext_of_scanUrl? (hstops (beq_iff_eq.1 hword))
  | _ => cases hword

end Rows

end FeatureScan.Css
