import FeatureScan.Proofs.Css.NumeralText
import FeatureScan.Proofs.Css.Sound

/-!
# Tokens read back

Whether the text of a token is read as that token depends on what follows it: more of a name, a digit,
a parenthesis would be read along with it. For every kind of token there is a test of what follows,
and a sound token reads back in front of whatever passes it. The value of a number is rounded, so
that a number reads back on its own is assumed, and enough.

## Main results

* `Token.endsBefore`: the test of what follows a token.
* `Numeral.scanNumeric_text`: how the text of a number is read.
* `firstToken?_text`: a sound token reads back in front of what passes its test.
-/

namespace FeatureScan.Css

open Source

/-! ## The tokens of a text -/

/-- The tokens of a text. -/
def tokenList (cs : List Char) : List Token := (tokens cs).1.map PlacedToken.token

/-- The token at the beginning of a text, and what follows it. -/
def firstToken? : List Char → Option (Token × Source)
  | [] => none
  | c :: cs => some (scanToken ⟨c, 0⟩ (plain cs))

/-- The tokens of a text can be read on one line. -/
theorem tokenList_eq (cs : List Char) :
    tokenList cs = (tokensFrom 0 (cs.length + 1) [] (plain cs)).map PlacedToken.token := by
  have hchars := places_chars cs
  rw [tokenList, tokens]
  generalize places cs = p at hchars
  obtain ⟨source, last⟩ := p
  dsimp only at hchars ⊢
  have hplain : plain cs = source.map (SourceChar.relined fun _ => 0) := by
    rw [← hchars, plain, List.map_map]
    rfl
  have hlength : cs.length = source.length := by rw [← hchars, List.length_map]
  rw [hplain, hlength, tokensFrom_relined (fun _ => 0) last, List.map_map]
  rfl

theorem tokenList_of_firstToken? {cs bs : List Char} {t : Token}
    (h : firstToken? cs = some (t, plain bs)) : tokenList cs = t :: tokenList bs := by
  cases cs with
  | nil => cases h
  | cons c cs =>
      have hscan := Option.some.inj h
      have hle := (suffix_scanToken ⟨c, 0⟩ (plain cs)).length_le
      rw [hscan, length_plain, length_plain] at hle
      rw [tokenList_eq, tokenList_eq, plain_cons, tokensFrom_cons, List.map_cons, hscan]
      congr 2
      refine tokensFrom_room ?_ ?_
      · rw [length_plain, List.length_cons]
        omega
      · rw [length_plain]
        omega

/-! ## What may follow a token -/

/-- Whether a number in front of a text goes on in it. -/
def numberGoesOn (next : List Char) : Bool :=
  next.head?.any isDigit || atFraction (plain next) || atIdent (plain next) ||
    next.head? == some '%'

/-- Whether a sign in front of a text is read together with some of it. -/
def signGoesOn (c : Char) (next : List Char) : Bool :=
  atNumber (plain (c :: next)) || atCommentOpen (plain (c :: next)) ||
    atIdent (plain (c :: next)) ||
    (c == '#' && (atIdent (plain next) || next.head?.any fun d => isDigit d || d == '-')) ||
    (isComparison c && next.head? == some '=') || (c == '/' && next.head? == some '*') ||
    (c == '@' && atIdent (plain next))

/-- Whether a quote comes next, white space aside. -/
def quoteNext (next : List Char) : Bool :=
  (next.dropWhile isSpace).head?.any fun c => c == '\x22' || c == '\x27'

/-- Whether a token ends in front of a text: nothing there is read as more of it. -/
def Token.endsBefore (t : Token) (next : List Char) : Bool :=
  match t with
  | .ident name =>
    !nameGoesOn next && next.head? != some '(' && !(name == "--" && next.head? == some '>')
  | .atKeyword _ | .hash _ | .idHash _ | .dimension _ _ => !nameGoesOn next
  | .number _ => !numberGoesOn next
  | .delim c => !signGoesOn c next
  | .function name => Text.asciiLower name != "url" || quoteNext next
  | .blank => !next.head?.any isSpace
  | .comment | .badUrl _ | .badString _ => false
  | .string _ | .url _ | .percentage _ | .colon | .semicolon | .comma | .compare _ | .commentOpen
  | .commentClose | .openBracket _ | .closeBracket _ => true

/-- Whether a token is a number, a percentage or a dimension. -/
def Token.isNumeric : Token → Bool
  | .number _ | .percentage _ | .dimension _ _ => true
  | _ => false

/-! ## Names and signs -/

section Next

variable {next : List Char}

theorem startsName_false_of_stop (h : nameGoesOn next = false) :
    ∀ c ∈ next.head?, startsName c = false ∧ c ≠ '-' ∧ c ≠ '\\' := by
  intro c hc
  rw [nameGoesOn, Option.mem_def.1 hc, Option.any_some] at h
  simp only [Bool.or_eq_false_iff, beq_eq_false_iff_ne] at h
  obtain ⟨⟨⟨hplain, hwide⟩, hnul⟩, hback⟩ := h
  simp only [isPlainNameChar, Char.isAlphanum, Bool.or_eq_false_iff, beq_eq_false_iff_ne] at hplain
  refine ⟨?_, hplain.2, hback⟩
  rw [startsName, hplain.1.1.1, beq_false_of_ne hplain.1.2, beq_false_of_ne hnul, hwide]
  rfl

theorem firstToken?_identLike {cs : List Char} (hnumber : atNumber (plain cs) = false)
    (hclose : atCommentClose (plain cs) = false) (h : atIdent (plain cs) = true) :
    firstToken? cs = some (scanIdentLike (plain cs)) := by
  cases cs with
  | nil => cases h
  | cons c cs => exact congrArg some (scanToken_identLike hnumber hclose h)

/-- A name that is an identifier, with what belongs to it. -/
theorem firstToken?_escapedIdent {name : String} (hsound : name.toList ≠ [] ∧ NoNul name.toList)
    (hstop : nameGoesOn next = false)
    (hclose : name.toList = ['-', '-'] → next.head? ≠ some '>') :
    firstToken? (escapedIdent name.toList ++ next) = some (scanCall name (plain next)) := by
  obtain ⟨hne, hnul⟩ := hsound
  rw [firstToken?_identLike (atNumber_escapedIdent hne hnul next)
      (atCommentClose_escapedIdent hne hnul hclose) (atIdent_escapedIdent hne hnul next),
    scanIdentLike_eq, scanName_spells (spells_escapedIdent hnul) hstop, String.ofList_toList]

theorem firstToken?_ident {name : String} (hsound : (Token.ident name).Sound)
    (h : (Token.ident name).endsBefore next = true) :
    firstToken? (escapedIdent name.toList ++ next) = some (.ident name, plain next) := by
  rw [Token.endsBefore, Bool.and_eq_true, Bool.and_eq_true, Bool.not_eq_true', bne_iff_ne,
    Bool.not_eq_true', Bool.and_eq_false_iff, beq_eq_false_iff_ne, beq_eq_false_iff_ne] at h
  obtain ⟨⟨hstop, hparen⟩, hclose⟩ := h
  have hclose : name.toList = ['-', '-'] → next.head? ≠ some '>' := by
    intro hname
    rcases hclose with hne | hne
    · exact absurd (String.toList_inj.1 hname) hne
    · exact hne
  rw [firstToken?_escapedIdent hsound hstop hclose, scanCall, peek?_plain, if_neg (by simpa using hparen)]

theorem scanUrl?_of_quoteNext (h : quoteNext next = true) : scanUrl? (plain next) = none := by
  have hstart : ((plain next).dropWhile fun c => isSpace c.char) =
      plain (next.dropWhile isSpace) := by
    rw [plain, List.dropWhile_map]
    rfl
  rw [quoteNext] at h
  rw [scanUrl?, hstart]
  cases hdrop : next.dropWhile isSpace with
  | nil =>
      rw [hdrop] at h
      cases h
  | cons c cs =>
      rw [hdrop, List.head?_cons, Option.any_some] at h
      rw [plain_cons]
      exact if_pos h

theorem firstToken?_function {name : String} (hsound : (Token.function name).Sound)
    (h : (Token.function name).endsBefore next = true) :
    firstToken? (escapedIdent name.toList ++ '(' :: next) = some (.function name, plain next) := by
  have hparen : ('(' :: next).head? ≠ some '>' := nofun
  rw [firstToken?_escapedIdent hsound rfl fun _ => hparen, plain_cons, scanCall, peek?]
  rw [Token.endsBefore, Bool.or_eq_true, bne_iff_ne] at h
  change some (if (Text.asciiLower name == "url") = true then _ else _) = _
  split
  · rename_i hname
    have hquote := h.resolve_left fun hne => hne (beq_iff_eq.1 hname)
    rw [List.tail_cons, scanUrl?_of_quoteNext hquote]
    rfl
  · rfl

theorem firstToken?_url {value : String} (hsound : NoNul value.toList) :
    firstToken? ((Token.url value).text ++ next) = some (.url value, plain next) := by
  have htext : (Token.url value).text ++ next =
      escapedIdent "url".toList ++ '(' :: (value.toList.flatMap urlChar ++ ')' :: next) := by
    rw [Token.text, List.append_assoc, List.append_assoc]
    rfl
  have hurl : "url".toList ≠ [] ∧ NoNul "url".toList :=
    ⟨by decide, noNul_cons (by decide) (noNul_cons (by decide) (noNul_cons (by decide) noNul_nil))⟩
  rw [htext, firstToken?_escapedIdent hurl rfl fun h => absurd h (by decide), plain_cons, scanCall,
    peek?]
  change some (if (Text.asciiLower "url" == "url") = true then _ else _) = _
  rw [if_pos (by decide), List.tail_cons, scanUrl?_text hsound, String.ofList_toList]
  rfl

theorem firstToken?_atKeyword {name : String} (hsound : (Token.atKeyword name).Sound)
    (hstop : nameGoesOn next = false) :
    firstToken? ('@' :: (escapedIdent name.toList ++ next)) =
      some (.atKeyword name, plain next) := by
  have hscan : ∀ s, scanToken ⟨'@', 0⟩ s = if atIdent s then (.atKeyword (scanName s).1, (scanName s).2)
      else (.delim '@', s) := fun s => rfl
  rw [firstToken?, hscan, if_pos (atIdent_escapedIdent hsound.1 hsound.2 next),
    scanName_spells (spells_escapedIdent hsound.2) hstop, String.ofList_toList]

theorem firstToken?_idHash {name : String} (hsound : (Token.idHash name).Sound)
    (hstop : nameGoesOn next = false) :
    firstToken? ('#' :: (escapedIdent name.toList ++ next)) = some (.idHash name, plain next) := by
  have hscan : ∀ s, scanToken ⟨'#', 0⟩ s = scanHash s := fun s => rfl
  rw [firstToken?, hscan, scanHash, if_pos (atIdent_escapedIdent hsound.1 hsound.2 next),
    scanName_spells (spells_escapedIdent hsound.2) hstop, String.ofList_toList]

theorem nameChar_of_plain {c : Char} (h : isPlainNameChar c = true) : nameChar c = [c] := by
  rw [nameChar, h]
  rfl

theorem atIdent_of_isDigit {c : Char} (h : isDigit c = true) (bs : List Char) :
    atIdent (plain (c :: bs)) = false := by
  have hne : ∀ d, isDigit d = false → c ≠ d := by
    rintro d hd rfl
    rw [hd] at h
    cases h
  rw [plain_cons, atIdent_eq_startsName (hne _ rfl) (hne _ rfl), not_startsName_of_isDigit h]

/-- What follows a hyphen tells that no identifier starts at it. -/
theorem atIdent_hyphen {bs : List Char}
    (h : ∀ c ∈ bs.head?, startsName c = false ∧ c ≠ '-' ∧ c ≠ '\\') :
    atIdent (plain ('-' :: bs)) = false := by
  rw [plain_cons, atIdent_minus, peek?_plain]
  cases bs with
  | nil => rfl
  | cons c bs =>
      obtain ⟨hstart, hminus, hback⟩ := h c rfl
      rw [List.head?_cons, Option.any_some, hstart, beq_false_of_ne hminus, beq_false_of_ne hback]
      rfl

/-- A name that starts no identifier does not start one when it is written. -/
theorem atIdent_hashName {cs : List Char} (h : IsHashName cs) (hstop : nameGoesOn next = false) :
    atIdent (plain (escapedName cs ++ next)) = false ∧
      (escapedName cs ++ next).head?.any (fun d => isDigit d || d == '-') = true := by
  have hcons : ∀ (c : Char) (cs : List Char), isPlainNameChar c = true →
      escapedName (c :: cs) ++ next = c :: (escapedName cs ++ next) := by
    intro c cs hc
    have hname : escapedName (c :: cs) = nameChar c ++ escapedName cs := rfl
    rw [hname, nameChar_of_plain hc]
    rfl
  cases cs with
  | nil => cases h
  | cons c cs =>
      rcases h with hc | ⟨rfl, hdigit⟩
      · rw [hcons c cs (isPlainNameChar_of_isDigit hc)]
        refine ⟨atIdent_of_isDigit hc _, ?_⟩
        rw [List.head?_cons, Option.any_some, hc]
        rfl
      · rw [hcons _ cs rfl]
        refine ⟨atIdent_hyphen ?_, rfl⟩
        cases cs with
        | nil => exact startsName_false_of_stop hstop
        | cons d ds =>
            have hd : isDigit d = true := hdigit d rfl
            rw [hcons d ds (isPlainNameChar_of_isDigit hd)]
            rintro _ ⟨rfl⟩
            refine ⟨not_startsName_of_isDigit hd, ?_, ?_⟩ <;> rintro rfl <;> cases hd

theorem firstToken?_hash {name : String} (hsound : (Token.hash name).Sound)
    (hstop : nameGoesOn next = false) :
    firstToken? ('#' :: (escapedName name.toList ++ next)) = some (.hash name, plain next) := by
  have hscan : ∀ s, scanToken ⟨'#', 0⟩ s = scanHash s := fun s => rfl
  obtain ⟨hident, hhead⟩ := atIdent_hashName hsound.1 hstop
  rw [firstToken?, hscan, scanHash, hident, if_neg Bool.false_ne_true, peek?_plain, if_pos hhead,
    scanName_spells (spells_escapedName hsound.2) hstop, String.ofList_toList]

/-- What closes a comment of a page starts like an identifier. -/
theorem atCommentClose_of_not_atIdent {s : Source} (h : atIdent s = false) :
    atCommentClose s = false := by
  cases s with
  | nil => rfl
  | cons c s =>
      obtain ⟨c, line⟩ := c
      refine Bool.eq_false_iff.2 fun hclose => ?_
      simp only [atCommentClose, Bool.and_eq_true, beq_iff_eq] at hclose
      obtain ⟨rfl, hminus, -⟩ := hclose
      rw [atIdent_minus, hminus] at h
      cases h

theorem firstToken?_delim {c : Char} (hsound : IsSign c) (h : signGoesOn c next = false) :
    firstToken? (c :: next) = some (.delim c, plain next) := by
  simp only [signGoesOn, Bool.or_eq_false_iff] at h
  obtain ⟨⟨⟨⟨⟨⟨hnumber, hopen⟩, hident⟩, hhash⟩, hcompare⟩, hcomment⟩, hat⟩ := h
  refine congrArg some (scanToken_delim hnumber (atCommentClose_of_not_atIdent hident) hopen hident
    ⟨hsound.space, hsound.quote, ?_, ?_, ?_, ?_, hsound.sign⟩)
  · rintro rfl
    rw [peek?_plain]
    exact Bool.or_eq_false_iff.1 hhash
  · intro hc hequals
    rw [peek?_plain] at hequals
    rw [show isComparison c = true from hc, hequals] at hcompare
    cases hcompare
  · rintro hc hstar
    rw [peek?_plain] at hstar
    rw [show c = '/' from hc, hstar] at hcomment
    cases hcomment
  · rintro rfl
    exact hat

theorem firstToken?_compare {sign : Char} (h : isComparison sign = true) :
    firstToken? (sign :: '=' :: next) = some (.compare sign, plain next) := by
  simp only [isComparison, Bool.or_eq_true, beq_iff_eq] at h
  rcases h with (((rfl | rfl) | rfl) | rfl) | rfl <;> rfl

theorem firstToken?_blank (h : next.head?.any isSpace = false) :
    firstToken? (' ' :: next) = some (.blank, plain next) := by
  have hscan : ∀ s, scanToken ⟨' ', 0⟩ s = (.blank, s.dropWhile fun d => isSpace d.char) :=
    fun s => rfl
  rw [firstToken?, hscan]
  cases next with
  | nil => rfl
  | cons c cs =>
      have hc : isSpace c = false := h
      rw [plain_cons, List.dropWhile_cons, hc]
      rfl

end Next

/-! ## Numbers -/

theorem digitValue?_of_isDigit_eq_false {c : Char} (h : isDigit c = false) : digitValue? c = none := by
  rw [← Option.not_isSome_iff_eq_none]
  exact Bool.eq_false_iff.1 h

theorem digitValue?_of_isDigit {c : Char} (h : c.isDigit = true) :
    digitValue? c = some (c.toNat - 48) := by
  rw [← isDigit_eq, isDigit, digitValue?] at h
  rw [digitValue?]
  split
  · rfl
  · rename_i hno
    rw [if_neg hno] at h
    cases h

/-- The values of digits. -/
def digitValues (ds : List Char) : List Nat := ds.map fun c => c.toNat - 48

theorem scanDigits_onto {ds bs : List Char} (hds : ∀ c ∈ ds, c.isDigit = true)
    (hbs : bs.head?.any isDigit = false) (acc : List Nat) :
    scanDigits acc (plain (ds ++ bs)) = (acc.reverse ++ digitValues ds, plain bs) := by
  induction ds generalizing acc with
  | nil =>
      cases bs with
      | nil => exact congrArg (·, []) (List.append_nil _).symm
      | cons c bs =>
          have hc : digitValue? c = none := digitValue?_of_isDigit_eq_false hbs
          rw [List.nil_append, plain_cons, scanDigits, hc]
          exact congrArg (·, _) (List.append_nil _).symm
  | cons d ds ih =>
      obtain ⟨hd, hds⟩ := List.forall_mem_cons.1 hds
      rw [List.cons_append, plain_cons, scanDigits, digitValue?_of_isDigit hd]
      dsimp only
      rw [ih hds, List.reverse_cons, List.append_assoc]
      rfl

/-- Digits are read up to what is none. -/
theorem scanDigits_plain {ds bs : List Char} (hds : ∀ c ∈ ds, c.isDigit = true)
    (hbs : bs.head?.any isDigit = false) :
    scanDigits [] (plain (ds ++ bs)) = (digitValues ds, plain bs) :=
  scanDigits_onto hds hbs []

/-- A number read part by part. -/
theorem scanNumeric_of_parts {s r₁ r₂ r₃ r₄ : Source} {sign : Option Bool} {whole : List Nat}
    {fraction : Option (List Nat)} {power : Option (Bool × Nat)} (h₁ : scanSign s = (sign, r₁))
    (h₂ : scanDigits [] r₁ = (whole, r₂)) (h₃ : scanFraction r₂ = (fraction, r₃))
    (h₄ : scanPower r₃ = (power, r₄)) :
    scanNumeric s = scanMeasure ⟨sign, whole, fraction, power⟩ r₄ := by
  unfold scanNumeric scanMeasure
  rw [h₁]
  dsimp only
  rw [h₂]
  dsimp only
  rw [h₃]
  dsimp only
  rw [h₄]

/-- What ends the digits and fraction of a number. -/
structure EndsDigits (bs : List Char) : Prop where
  /-- No digit comes next. -/
  digit : bs.head?.any isDigit = false
  /-- Nor does a fraction. -/
  fraction : atFraction (plain bs) = false

theorem isDigit_head_append {ds : List Char} (h : AreDigits ds) (bs : List Char) :
    (peek? (plain (ds ++ bs))).any isDigit = true := by
  cases ds with
  | nil => exact absurd rfl h.ne_nil
  | cons d ds =>
      rw [peek?_plain, List.cons_append, List.head?_cons, Option.any_some, isDigit_eq]
      exact h.isDigit d List.mem_cons_self

theorem head_append_ne {ds : List Char} (h : AreDigits ds) {c : Char} (hc : c.isDigit = false)
    (bs : List Char) : ∃ d cs, ds ++ bs = d :: cs ∧ d ≠ c ∧ d.isDigit = true := by
  cases ds with
  | nil => exact absurd rfl h.ne_nil
  | cons d ds =>
      have hd := h.isDigit d List.mem_cons_self
      refine ⟨d, ds ++ bs, rfl, ?_, hd⟩
      rintro rfl
      rw [hc] at hd
      cases hd

theorem scanSign_plain {sign ds : List Char} (hsign : sign = [] ∨ sign = ['+'] ∨ sign = ['-'])
    (hds : AreDigits ds) : ∃ value, ∀ bs,
      scanSign (plain (sign ++ (ds ++ bs))) = (value, plain (ds ++ bs)) := by
  rcases hsign with rfl | rfl | rfl
  · refine ⟨none, fun bs => ?_⟩
    obtain ⟨d, cs, heq, hminus, -⟩ := head_append_ne hds (c := '-') rfl bs
    obtain ⟨d', cs', heq', hplus, -⟩ := head_append_ne hds (c := '+') rfl bs
    rw [heq] at heq'
    obtain ⟨rfl, rfl⟩ := List.cons.inj heq'
    rw [List.nil_append, heq, plain_cons, scanSign, beq_false_of_ne hminus, beq_false_of_ne hplus]
    rfl
  · exact ⟨some false, fun bs => rfl⟩
  · exact ⟨some true, fun bs => rfl⟩

theorem scanFraction_plain {fraction : List Char} (h : IsFraction fraction) : ∃ value, ∀ bs,
    EndsDigits bs → scanFraction (plain (fraction ++ bs)) = (value, plain bs) := by
  cases h with
  | absent =>
      refine ⟨none, fun bs hbs => ?_⟩
      have hno := hbs.fraction
      rw [atFraction] at hno
      rw [List.nil_append, scanFraction, hno]
      rfl
  | @point ds hds =>
      refine ⟨some (digitValues ds), fun bs hbs => ?_⟩
      have hyes : (peek? (plain ('.' :: ds ++ bs)) == some '.' &&
          (second? (plain ('.' :: ds ++ bs))).any isDigit) = true := by
        rw [List.cons_append, plain_cons, second?_cons, isDigit_head_append hds]
        rfl
      rw [scanFraction, if_pos hyes, List.cons_append, plain_cons, List.tail_cons,
        scanDigits_plain hds.isDigit hbs.digit]

theorem scanPower_of_not {s : Source} (h : atPower s = false) : scanPower s = (none, s) := by
  rw [atPower] at h
  rw [scanPower]
  exact if_neg (Bool.eq_false_iff.1 h)

theorem scanPower_of_atPower {s : Source} (h : atPower s = true) :
    scanPower s = (some ((scanSign s.tail).1 == some true,
      (scanDigits [] (scanSign s.tail).2).1.foldl (fun n d => 10 * n + d) 0),
        (scanDigits [] (scanSign s.tail).2).2) := by
  rw [atPower] at h
  rw [scanPower]
  exact if_pos h

/-- How the power of a number is read: it is written, or what follows decides. -/
theorem scanPower_plain {power : List Char} (h : IsPower power) :
    power = [] ∨ ∃ value, ∀ bs, bs.head?.any isDigit = false →
      scanPower (plain (power ++ bs)) = (value, plain bs) := by
  have hwritten : ∀ (sign : List Char) {ds : List Char}, (sign = [] ∨ sign = ['+'] ∨ sign = ['-']) →
      AreDigits ds → (∀ bs, atPower (plain ('e' :: (sign ++ (ds ++ bs)))) = true) →
      ∃ value, ∀ bs, bs.head?.any isDigit = false →
        scanPower (plain ('e' :: (sign ++ (ds ++ bs)))) = (value, plain bs) := by
    intro sign ds hsign hds hpower
    obtain ⟨value, hvalue⟩ := scanSign_plain hsign hds
    refine ⟨some (value == some true, (digitValues ds).foldl (fun n d => 10 * n + d) 0),
      fun bs hbs => ?_⟩
    rw [scanPower_of_atPower (hpower bs), plain_cons, List.tail_cons, hvalue,
      scanDigits_plain hds.isDigit hbs]
  cases h with
  | absent => exact .inl rfl
  | @plus ds hds =>
      refine .inr (hwritten [] (.inl rfl) hds fun bs => ?_)
      rw [plain_cons, atPower, second?_cons, List.nil_append, isDigit_head_append hds]
      rfl
  | @minus ds hds =>
      refine .inr (hwritten ['-'] (.inr (.inr rfl)) hds fun bs => ?_)
      rw [List.singleton_append, plain_cons, plain_cons, atPower, second?_cons, third?_cons,
        second?_cons, isDigit_head_append hds]
      rfl

/-- How the text of a number is read: its power is written, or what follows decides on it. -/
theorem Numeral.scanNumeric_text (n : Numeral) : ∃ sign whole fraction,
    (∀ bs, EndsDigits bs → scanNumeric (plain (n.text ++ bs)) =
      scanMeasure ⟨sign, whole, fraction, (scanPower (plain bs)).1⟩ (scanPower (plain bs)).2) ∨
    ∃ power, ∀ bs, EndsDigits bs →
      scanNumeric (plain (n.text ++ bs)) = scanMeasure ⟨sign, whole, fraction, power⟩ (plain bs) := by
  obtain ⟨sign, whole, fraction, power, htext, hsign, hwhole, hfraction, hpower⟩ := n.text_parts
  obtain ⟨signValue, hsignValue⟩ := scanSign_plain hsign hwhole
  obtain ⟨fractionValue, hfractionValue⟩ := scanFraction_plain hfraction
  have hends : ∀ bs, EndsDigits bs → EndsDigits (power ++ bs) := by
    intro bs hbs
    cases hpower with
    | absent => exact hbs
    | plus | minus => exact ⟨rfl, rfl⟩
  have hbehind : ∀ bs, EndsDigits bs → (fraction ++ (power ++ bs)).head?.any isDigit = false := by
    intro bs hbs
    cases hfraction with
    | absent => exact (hends bs hbs).digit
    | point => rfl
  have hread : ∀ bs, EndsDigits bs → ∀ x, scanPower (plain (power ++ bs)) = x →
      scanNumeric (plain (n.text ++ bs)) =
        scanMeasure ⟨signValue, digitValues whole, fractionValue, x.1⟩ x.2 := by
    intro bs hbs x hx
    rw [htext, List.append_assoc, List.append_assoc, List.append_assoc]
    exact scanNumeric_of_parts (hsignValue _) (scanDigits_plain hwhole.isDigit (hbehind bs hbs))
      (hfractionValue _ (hends bs hbs)) hx
  refine ⟨signValue, digitValues whole, fractionValue, ?_⟩
  rcases scanPower_plain hpower with rfl | ⟨value, hvalue⟩
  · exact .inl fun bs hbs => hread bs hbs _ rfl
  · exact .inr ⟨value, fun bs hbs => hread bs hbs _ (hvalue bs hbs.digit)⟩

/-- The text of a number that no power follows is read with what measures it. -/
theorem Numeral.scanNumeric_measure (n : Numeral) : ∃ written, ∀ bs, EndsDigits bs →
    atPower (plain bs) = false →
      scanNumeric (plain (n.text ++ bs)) = scanMeasure written (plain bs) := by
  obtain ⟨sign, whole, fraction, hread | ⟨power, hread⟩⟩ := n.scanNumeric_text
  · refine ⟨⟨sign, whole, fraction, none⟩, fun bs hbs hpower => ?_⟩
    rw [hread bs hbs, scanPower_of_not hpower]
  · exact ⟨⟨sign, whole, fraction, power⟩, fun bs hbs _ => hread bs hbs⟩

theorem Numeral.atNumber_text (n : Numeral) (bs : List Char) :
    atNumber (plain (n.text ++ bs)) = true := by
  obtain ⟨sign, whole, fraction, power, htext, hsign, hwhole, -⟩ := n.text_parts
  have hdigit := isDigit_head_append hwhole ((fraction ++ power) ++ bs)
  rw [htext, List.append_assoc, List.append_assoc]
  rcases hsign with rfl | rfl | rfl
  · rw [List.nil_append]
    cases hnext : whole ++ (fraction ++ power ++ bs) with
    | nil =>
        rw [hnext] at hdigit
        cases hdigit
    | cons c cs =>
        rw [hnext] at hdigit
        have hc : isDigit c = true := hdigit
        rw [plain_cons, atNumber_cons, hc]
        rfl
  · rw [List.singleton_append, plain_cons, atNumber_cons, numberBehindSign, second?_cons, hdigit]
    rfl
  · rw [List.singleton_append, plain_cons, atNumber_cons, numberBehindSign, second?_cons, hdigit]
    rfl

theorem firstToken?_numeric (n : Numeral) (bs : List Char) :
    firstToken? (n.text ++ bs) = some (scanNumeric (plain (n.text ++ bs))) := by
  have hnumber := n.atNumber_text bs
  cases htext : n.text ++ bs with
  | nil =>
      rw [htext] at hnumber
      cases hnumber
  | cons c cs =>
      rw [htext] at hnumber
      exact congrArg some (scanToken_numeric hnumber)

theorem atPower_of_not_atIdent {bs : List Char} (h : atIdent (plain bs) = false) :
    atPower (plain bs) = false := by
  cases bs with
  | nil => rfl
  | cons c bs =>
      refine Bool.eq_false_iff.2 fun hpower => ?_
      have hletter : c = 'e' ∨ c = 'E' := by
        rw [atPower, Bool.and_eq_true] at hpower
        simpa [peek?] using hpower.1
      have hstart : startsName c = true := by rcases hletter with rfl | rfl <;> rfl
      rw [plain_cons, atIdent_of_startsName hstart] at h
      cases h

theorem endsDigits_nil : EndsDigits [] := ⟨rfl, rfl⟩

theorem firstToken?_number {n : Numeral} {next : List Char}
    (halone : tokenList n.text = [.number n]) (h : numberGoesOn next = false) :
    firstToken? (n.text ++ next) = some (.number n, plain next) := by
  simp only [numberGoesOn, Bool.or_eq_false_iff] at h
  obtain ⟨⟨⟨hdigit, hfraction⟩, hident⟩, hpercent⟩ := h
  obtain ⟨written, hread⟩ := n.scanNumeric_measure
  have hnumeral : written.numeral = n := by
    have hfirst : firstToken? n.text = some (.number written.numeral, plain []) := by
      have := firstToken?_numeric n []
      rw [hread [] endsDigits_nil rfl, List.append_nil] at this
      exact this
    rw [tokenList_of_firstToken? hfirst] at halone
    cases halone
    rfl
  rw [firstToken?_numeric, hread next ⟨hdigit, hfraction⟩ (atPower_of_not_atIdent hident),
    scanMeasure, peek?_plain, hpercent, hident, hnumeral]
  rfl

theorem firstToken?_percentage {n : Numeral} {next : List Char}
    (halone : tokenList (Token.percentage n).text = [.percentage n]) :
    firstToken? ((Token.percentage n).text ++ next) = some (.percentage n, plain next) := by
  obtain ⟨m, hm⟩ : ∃ m : Numeral, n.percentText = m.text := ⟨_, rfl⟩
  obtain ⟨written, hread⟩ := m.scanNumeric_measure
  have hfirst : ∀ bs, firstToken? ((Token.percentage n).text ++ bs) =
      some (.percentage written.percentage, plain bs) := by
    intro bs
    have htext : (Token.percentage n).text ++ bs = m.text ++ '%' :: bs := by
      rw [Token.text, hm, List.append_assoc]
      rfl
    rw [htext, firstToken?_numeric, hread ('%' :: bs) ⟨rfl, rfl⟩ rfl]
    rfl
  have hpercentage : written.percentage = n := by
    have halone' := hfirst []
    rw [List.append_nil] at halone'
    rw [tokenList_of_firstToken? halone'] at halone
    cases halone
    rfl
  rw [hfirst next, hpercentage]

/-! ## Units -/

/-- What a unit is read as when its text is read: an `E` that is escaped comes back small. -/
def unitRead (unit : List Char) : List Char := if isPower unit then 'e' :: unit.tail else unit

theorem length_unitRead (unit : List Char) : (unitRead unit).length = unit.length := by
  unfold unitRead
  split
  · rename_i hpower
    cases unit with
    | nil => cases hpower
    | cons c cs => rfl
  · rfl

theorem spells_unitText {unit : List Char} (h : NoNul unit) :
    Spells (unitRead unit) (unitText unit) := by
  rw [unitText_eq, unitRead]
  split
  · have he : Spelling 'e' (hexEscape 'e') := spelling_hexEscape (by decide) (by decide)
    exact .cons he (spells_escapedName fun c hc => h c (List.mem_of_mem_tail hc))
  · exact spells_escapedIdent h

theorem atIdent_unitText {unit : List Char} (hne : unit ≠ []) (h : NoNul unit) (bs : List Char) :
    atIdent (plain (unitText unit ++ bs)) = true := by
  rw [unitText_eq]
  split
  · rfl
  · exact atIdent_escapedIdent hne h bs

/-- Where an identifier starts, no number goes on. -/
theorem endsDigits_of_atIdent {bs : List Char} (h : atIdent (plain bs) = true) :
    EndsDigits bs ∧ bs.head? ≠ some '%' := by
  cases bs with
  | nil => cases h
  | cons c bs =>
      have hne : ∀ d, startsName d = false → d ≠ '-' → d ≠ '\\' → c ≠ d := by
        rintro d hstart hminus hback rfl
        rw [plain_cons, atIdent_eq_startsName hminus hback, hstart] at h
        cases h
      have hdigit : isDigit c = false := by
        refine Bool.eq_false_iff.2 fun hdigit => ?_
        rw [atIdent_of_isDigit hdigit] at h
        cases h
      refine ⟨⟨hdigit, ?_⟩, fun heq => ?_⟩
      · have hpoint : (some c == some '.') = false :=
          beq_false_of_ne fun heq => hne '.' rfl (by decide) (by decide) (Option.some.inj heq)
        rw [plain_cons, atFraction, peek?, hpoint, Bool.false_and]
      · exact hne '%' rfl (by decide) (by decide) (Option.some.inj heq)

theorem escapedName_cons (c : Char) (cs : List Char) :
    escapedName (c :: cs) = nameChar c ++ escapedName cs := rfl

/-- What is written for a character of a name: the character itself, or nothing that a number goes on
with. -/
theorem nameChar_cases (c : Char) :
    nameChar c = [c] ∧ (isPlainNameChar c || isWide c) = true ∨
      ∃ d cs, nameChar c = d :: cs ∧ (d = '\\' ∨ d = '\ufffd') := by
  unfold nameChar
  split
  · exact .inl ⟨rfl, ‹_›⟩
  · split
    · exact .inr ⟨_, _, rfl, .inr rfl⟩
    · split
      · rw [hexEscape_eq]
        exact .inr ⟨_, _, rfl, .inl rfl⟩
      · exact .inr ⟨_, _, rfl, .inl rfl⟩

theorem not_atPower_of_head {c : Char} (h : c ≠ 'e' ∧ c ≠ 'E') (bs : List Char) :
    atPower (plain (c :: bs)) = false := by
  rw [plain_cons, atPower, peek?, Option.any_some, beq_false_of_ne h.1, beq_false_of_ne h.2]
  rfl

/-- The text of an identifier that begins with a letter. -/
theorem escapedIdent_of_atPower {e : Char} {cs bs : List Char}
    (h : atPower (plain (escapedIdent (e :: cs) ++ bs)) = true) :
    (e = 'e' ∨ e = 'E') ∧ escapedIdent (e :: cs) = e :: escapedName cs := by
  have hhead : ∀ {c : Char} {ds : List Char}, atPower (plain (c :: ds)) = true →
      c = 'e' ∨ c = 'E' := by
    intro c ds h
    refine Classical.not_not.1 fun hne => ?_
    rw [not_or] at hne
    rw [not_atPower_of_head hne] at h
    cases h
  rw [escapedIdent_cons] at h ⊢
  by_cases hminus : e = '-'
  · rw [if_pos hminus] at h
    cases cs with
    | nil => cases h
    | cons d ds =>
        dsimp only at h
        split at h <;> cases h
  · rw [if_neg hminus] at h ⊢
    rw [identBody] at h ⊢
    split at h
    · rw [hexEscape_eq] at h
      cases h
    · rename_i hdigit
      rw [if_neg hdigit, escapedName_cons]
      rw [escapedName_cons] at h
      rcases nameChar_cases e with ⟨heq, -⟩ | ⟨c, ds, heq, hc⟩
      · rw [heq] at h ⊢
        exact ⟨hhead h, rfl⟩
      · rw [heq] at h
        rcases hc with rfl | rfl <;> cases h

/-- A unit whose text starts with a power of ten is a letter with a digit behind it. -/
theorem unitText_of_atPower {unit bs : List Char} (hne : unit ≠ [])
    (h : atPower (plain (unitText unit ++ bs)) = true) : atPower (plain (unitText unit)) = true ∧
      ∃ e d ds, isPlainNameChar e = true ∧ isDigit d = true ∧
        unitText unit = e :: d :: escapedName ds := by
  rw [unitText_eq] at h ⊢
  split at h
  · cases h
  · rename_i hpower
    rw [if_neg hpower]
    cases unit with
    | nil => exact absurd rfl hne
    | cons e cs =>
        obtain ⟨he, htext⟩ := escapedIdent_of_atPower h
        have hlower : (Text.lowerChar e == 'e') = true := by rcases he with rfl | rfl <;> rfl
        have hplain : isPlainNameChar e = true := by rcases he with rfl | rfl <;> rfl
        rw [isPower, hlower, Bool.true_and] at hpower
        rw [htext] at h ⊢
        cases cs with
        | nil => exact absurd rfl hpower
        | cons d ds =>
            rw [escapedName_cons] at h ⊢
            rw [List.cons_append, plain_cons, atPower, second?_cons, third?_cons,
              Bool.and_eq_true] at h
            rcases nameChar_cases d with ⟨heq, hd⟩ | ⟨c, rest, heq, hc⟩
            · rw [heq] at h ⊢
              have hminus : d ≠ '-' := fun heq => hpower (beq_iff_eq.2 heq)
              have hplus : d ≠ '+' := by
                rintro rfl
                cases hd
              have hdigit : isDigit d = true := by
                have hnext := h.2
                rw [List.append_assoc, List.singleton_append, plain_cons, peek?, Option.any_some,
                  Option.any_some, beq_false_of_ne hminus, beq_false_of_ne hplus] at hnext
                simpa using hnext
              refine ⟨?_, e, d, ds, hplain, hdigit, rfl⟩
              rw [List.singleton_append, plain_cons, plain_cons, atPower, second?_cons,
                show peek? (⟨d, 0⟩ :: plain (escapedName ds)) = some d from rfl, Option.any_some,
                hdigit, Bool.true_or, Bool.and_true]
              exact h.1
            · have hnext := h.2
              rw [heq] at hnext
              rcases hc with rfl | rfl <;> cases hnext

theorem head_tokenList (cs : List Char) : (tokenList cs).head? = (firstToken? cs).map Prod.fst := by
  cases cs with
  | nil => rfl
  | cons c cs =>
      rw [tokenList_eq, plain_cons, tokensFrom_cons]
      rfl

theorem scanDigits_front (acc : List Nat) (s : Source) :
    ∃ front, s = front ++ (scanDigits acc s).2 ∧ ∀ c ∈ front, isPlainNameChar c.char = true := by
  induction s generalizing acc with
  | nil => exact ⟨[], rfl, List.forall_mem_nil _⟩
  | cons c s ih =>
      rw [scanDigits]
      cases hc : digitValue? c.char with
      | none => exact ⟨[], rfl, List.forall_mem_nil _⟩
      | some d =>
          obtain ⟨front, heq, hfront⟩ := ih (d :: acc)
          refine ⟨c :: front, congrArg (c :: ·) heq, List.forall_mem_cons.2 ⟨?_, hfront⟩⟩
          refine isPlainNameChar_of_isDigit ?_
          rw [isDigit, hc]
          rfl

theorem unit_of_scanMeasure {written : Written} {s : Source} {n : Numeral} {unit : String}
    (h : (scanMeasure written s).1 = .dimension n unit) :
    (scanName s).1 = unit ∧ written.numeral = n := by
  rw [scanMeasure] at h
  split at h
  · cases h
  · split at h <;> cases h
    exact ⟨rfl, rfl⟩

/-- A unit that reads back is not read as a power of ten. -/
theorem not_atPower_of_alone {n : Numeral} {unit : String} (hnul : NoNul unit.toList)
    {written : Written} {e d : Char} {ds : List Char} (he : isPlainNameChar e = true)
    (hd : isDigit d = true) (htext : unitText unit.toList = e :: d :: escapedName ds)
    (h : (scanMeasure written (scanPower (plain (unitText unit.toList))).2).1 = .dimension n unit)
    (hpower : atPower (plain (unitText unit.toList)) = true) : False := by
  have hread := scanName_spells (spells_unitText hnul) (show nameGoesOn [] = false from rfl)
  obtain ⟨front, hfront, hplain⟩ := scanDigits_front [] (plain (d :: escapedName ds))
  have hsign : scanSign (plain (d :: escapedName ds)) = (none, plain (d :: escapedName ds)) := by
    have hne : ∀ c, isDigit c = false → d ≠ c := by
      rintro c hc rfl
      rw [hc] at hd
      cases hd
    rw [plain_cons, scanSign, beq_false_of_ne (hne _ rfl), beq_false_of_ne (hne _ rfl)]
    rfl
  rw [scanPower_of_atPower hpower, htext, plain_cons, List.tail_cons, hsign] at h
  obtain ⟨hunit, -⟩ := unit_of_scanMeasure h
  have hall : ∀ c ∈ (⟨e, 0⟩ :: front : Source), isPlainNameChar c.char = true :=
    List.forall_mem_cons.2 ⟨he, hplain⟩
  have hname := scanName_append hall (scanDigits [] (plain (d :: escapedName ds))).2
  rw [List.cons_append, ← hfront, ← plain_cons, ← htext, ← List.append_nil (unitText _), hread,
    hunit] at hname
  have hlength := congrArg (fun x => x.1.toList.length) hname
  simp [length_unitRead, Source.text] at hlength
  omega

theorem firstToken?_dimension {n : Numeral} {unit : String} {next : List Char}
    (hsound : (Token.dimension n unit).Sound)
    (halone : tokenList (Token.dimension n unit).text = [.dimension n unit])
    (hstop : nameGoesOn next = false) :
    firstToken? ((Token.dimension n unit).text ++ next) = some (.dimension n unit, plain next) := by
  obtain ⟨hne, hnul⟩ := hsound
  have htext : (Token.dimension n unit).text = n.text ++ unitText unit.toList := rfl
  have hends : ∀ bs, EndsDigits (unitText unit.toList ++ bs) ∧
      (unitText unit.toList ++ bs).head? ≠ some '%' :=
    fun bs => endsDigits_of_atIdent (atIdent_unitText hne hnul bs)
  have hmeasure : ∀ written bs, nameGoesOn bs = false →
      scanMeasure written (plain (unitText unit.toList ++ bs)) =
        (.dimension written.numeral (String.ofList (unitRead unit.toList)), plain bs) := by
    intro written bs hbs
    rw [scanMeasure, peek?_plain, if_neg (by simpa using (hends bs).2),
      if_pos (atIdent_unitText hne hnul bs), scanName_spells (spells_unitText hnul) hbs]
  have hhead : (scanNumeric (plain (n.text ++ unitText unit.toList))).1 = .dimension n unit := by
    have hfirst := head_tokenList (Token.dimension n unit).text
    rw [halone, htext, firstToken?_numeric] at hfirst
    exact (Option.some.inj hfirst).symm
  have hnil : EndsDigits (unitText unit.toList) := by
    have := (hends []).1
    rwa [List.append_nil] at this
  have hdone : ∀ written, written.numeral = n ∧ String.ofList (unitRead unit.toList) = unit →
      scanMeasure written (plain (unitText unit.toList ++ next)) =
        (.dimension n unit, plain next) := by
    rintro written ⟨hnumeral, hunit⟩
    rw [hmeasure written next hstop, hnumeral, hunit]
  have hmeasured : ∀ written, (scanMeasure written (plain (unitText unit.toList))).1 =
      .dimension n unit →
        written.numeral = n ∧ String.ofList (unitRead unit.toList) = unit := by
    intro written h
    have hread := hmeasure written [] rfl
    rw [List.append_nil] at hread
    rw [hread] at h
    exact Token.dimension.inj h
  rw [htext, List.append_assoc, firstToken?_numeric]
  obtain ⟨sign, whole, fraction, hread | ⟨power, hread⟩⟩ := n.scanNumeric_text
  · rw [hread _ hnil] at hhead
    have hpower : ∀ bs, atPower (plain (unitText unit.toList ++ bs)) = false := by
      intro bs
      refine Bool.eq_false_iff.2 fun h => ?_
      obtain ⟨hpower, e, d, ds, he, hd, hunit⟩ := unitText_of_atPower hne h
      exact not_atPower_of_alone hnul he hd hunit hhead hpower
    have hpowerNil := hpower []
    rw [List.append_nil] at hpowerNil
    rw [scanPower_of_not hpowerNil] at hhead
    rw [hread _ (hends next).1, scanPower_of_not (hpower next), hdone _ (hmeasured _ hhead)]
  · rw [hread _ hnil] at hhead
    rw [hread _ (hends next).1, hdone _ (hmeasured _ hhead)]

/-! ## Every token -/

/-- A sound token reads back in front of whatever it ends before. Of a number it has to be known that
it reads back on its own. -/
theorem firstToken?_text {t : Token} {next : List Char} (hsound : t.Sound)
    (halone : t.isNumeric = true → tokenList t.text = [t]) (h : t.endsBefore next = true) :
    firstToken? (t.text ++ next) = some (t, plain next) := by
  cases t with
  | ident name => exact firstToken?_ident hsound h
  | atKeyword name => exact firstToken?_atKeyword hsound ((Bool.not_eq_true' _).mp h)
  | hash name => exact firstToken?_hash hsound ((Bool.not_eq_true' _).mp h)
  | idHash name => exact firstToken?_idHash hsound ((Bool.not_eq_true' _).mp h)
  | string value =>
      rw [Token.text, List.append_assoc]
      have hread := scanString_text hsound next
      rw [String.ofList_toList] at hread
      exact congrArg some hread
  | url value => exact firstToken?_url hsound
  | delim c => exact firstToken?_delim hsound ((Bool.not_eq_true' _).mp h)
  | number n => exact firstToken?_number (halone rfl) ((Bool.not_eq_true' _).mp h)
  | percentage n => exact firstToken?_percentage (halone rfl)
  | dimension n unit =>
      exact firstToken?_dimension hsound (halone rfl) ((Bool.not_eq_true' _).mp h)
  | blank => exact firstToken?_blank ((Bool.not_eq_true' _).mp h)
  | function name =>
      rw [Token.text, List.append_assoc]
      exact firstToken?_function hsound h
  | compare sign => exact firstToken?_compare hsound
  | openBracket kind | closeBracket kind => cases kind <;> rfl
  | colon | semicolon | comma | commentOpen | commentClose => rfl
  | comment | badUrl written | badString value => cases h

end FeatureScan.Css
