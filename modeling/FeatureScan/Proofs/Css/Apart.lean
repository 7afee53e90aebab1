import FeatureScan.Proofs.Css.ReadBack

/-!
# Tokens in a row

The texts of tokens in a row are read as these tokens if each ends before the text of the next. A
token looks a few characters ahead, past a next token of one character, but what that one is followed
by then settles the matter. The one exception is what opens a comment of a page, which three tokens can
come together to.

## Main results

* `Starts`, `starts_text`: how the texts of tokens start.
* `Token.endsBefore_of_showsLess`: what a token looks for.
* `Apart`, `tokenList_texts`: tokens in a row read back.
-/

namespace FeatureScan.Css

open Source

/-! ## How texts start -/

/-- The characters that a token starts with which no other kind of token does and which nothing goes
on with. -/
def isOpening (c : Char) : Bool :=
  c == ' ' || c == '\x22' || c == '#' || c == '@' || c == '<' || (signToken? c).isSome ||
    isComparison c

/-- How the text of a token starts. -/
inductive Starts (t : Token) : Prop
  /-- Like an identifier, whatever follows. -/
  | ident (h : ∀ bs, atIdent (plain (t.text ++ bs)) = true)
  /-- Like a number, whatever follows. -/
  | number (h : ∀ bs, atNumber (plain (t.text ++ bs)) = true)
  /-- With a character that says enough. -/
  | opening {c : Char} {cs : List Char} (htext : t.text = c :: cs) (h : isOpening c = true)
  /-- With the mark that closes a comment of a page. -/
  | commentClose (h : t = .commentClose)
  /-- The token is a sign. -/
  | delim {c : Char} (h : t = .delim c)

theorem starts_text {t : Token} (hsound : t.Sound) (hcomment : t ≠ .comment) : Starts t := by
  cases t with
  | ident name => exact .ident (atIdent_escapedIdent hsound.1 hsound.2)
  | function name =>
      refine .ident fun bs => ?_
      rw [Token.text, List.append_assoc]
      exact atIdent_escapedIdent hsound.1 hsound.2 _
  | url value => exact .ident fun bs => rfl
  | badUrl written => exact .ident fun bs => rfl
  | number n => exact .number n.atNumber_text
  | percentage n =>
      refine .number fun bs => ?_
      rw [Token.text, List.append_assoc]
      exact Numeral.atNumber_text _ _
  | dimension n unit =>
      refine .number fun bs => ?_
      rw [Token.text, List.append_assoc]
      exact n.atNumber_text _
  | delim c => exact .delim rfl
  | comment => exact absurd rfl hcomment
  | commentClose => exact .commentClose rfl
  | compare sign =>
      have hsign : isComparison sign = true := hsound
      exact .opening rfl (by rw [isOpening, hsign, Bool.or_true])
  | openBracket kind | closeBracket kind => cases kind <;> exact .opening rfl rfl
  | atKeyword | hash | idHash | string | badString | blank | colon | semicolon | comma |
      commentOpen => exact .opening rfl rfl

theorem not_isOpening_of_mem {c : Char} (h : c ∈ ['-', '.', '\\', '!']) : isOpening c = false := by
  simp only [List.mem_cons, List.not_mem_nil, or_false] at h
  rcases h with rfl | rfl | rfl | rfl <;> rfl

/-- Signs that something can go on with are tokens of their own when a token is nothing else. -/
theorem eq_delim_of_singleton {t : Token} (hsound : t.Sound) {c : Char} (htext : t.text = [c])
    (hc : c ∈ ['-', '.', '\\']) : t = .delim c := by
  have hcomment : t ≠ .comment := by
    rintro rfl
    cases htext
  cases starts_text hsound hcomment with
  | ident h =>
      have hend := h ['\n']
      simp only [List.mem_cons, List.not_mem_nil, or_false] at hc
      rw [htext] at hend
      rcases hc with rfl | rfl | rfl <;> cases hend
  | number h =>
      have hend := h []
      simp only [List.mem_cons, List.not_mem_nil, or_false] at hc
      rw [htext] at hend
      rcases hc with rfl | rfl | rfl <;> cases hend
  | @opening d cs hd h =>
      rw [htext] at hd
      obtain ⟨rfl, -⟩ := List.cons.inj hd
      rw [not_isOpening_of_mem (List.mem_append_left ['!'] hc)] at h
      cases h
  | commentClose h =>
      rw [h] at htext
      cases htext
  | delim h =>
      rw [h] at htext ⊢
      cases htext
      rfl

/-- Only a sign of its own is an exclamation mark. -/
theorem eq_delim_of_exclamation {t : Token} (hsound : t.Sound) {cs : List Char}
    (htext : t.text = '!' :: cs) : t = .delim '!' := by
  have hcomment : t ≠ .comment := by
    rintro rfl
    cases htext
  cases starts_text hsound hcomment with
  | ident h =>
      have hstart := h []
      rw [htext] at hstart
      cases hstart
  | number h =>
      have hstart := h []
      rw [htext] at hstart
      cases hstart
  | opening hd h =>
      rw [htext] at hd
      obtain ⟨rfl, -⟩ := List.cons.inj hd
      cases h
  | commentClose h =>
      rw [h] at htext
      cases htext
  | delim h =>
      rw [h] at htext ⊢
      cases htext
      rfl

theorem text_ne_nil {t : Token} (hsound : t.Sound) (hcomment : t ≠ .comment) : t.text ≠ [] := by
  intro hnil
  cases starts_text hsound hcomment with
  | ident h =>
      have hstart := h []
      rw [hnil] at hstart
      cases hstart
  | number h =>
      have hstart := h []
      rw [hnil] at hstart
      cases hstart
  | opening hd h =>
      rw [hnil] at hd
      cases hd
  | commentClose h =>
      rw [h] at hnil
      cases hnil
  | delim h =>
      rw [h] at hnil
      cases hnil

/-! ## Looking ahead -/

section Ahead

variable {less more : List Char}

/-- Whether what follows a `<` makes it open a comment of a page. -/
def markNext (next : List Char) : Bool := atCommentOpen (plain ('<' :: next))

theorem atCommentOpen_plain (c : Char) (next : List Char) :
    atCommentOpen (plain (c :: next)) = (c == '<' && markNext next) := by
  rw [plain_cons, atCommentOpen, markNext, plain_cons, atCommentOpen, beq_self_eq_true]
  simp only [Bool.and_assoc, Bool.true_and]

theorem atNumber_plain (c : Char) (next : List Char) :
    atNumber (plain (c :: next)) =
      (isDigit c || (c == '.' && next.head?.any isDigit) ||
        ((c == '+' || c == '-') && (next.head?.any isDigit || atFraction (plain next)))) := by
  rw [plain_cons, atNumber_cons, numberBehindSign, second?_cons, third?_cons, atFraction,
    ← peek?_plain]

/-- Behind the first character only the next tells whether an identifier starts. -/
theorem atIdent_congr (c : Char) (h : less.head? = more.head?) :
    atIdent (plain (c :: less)) = atIdent (plain (c :: more)) := by
  unfold atIdent
  rw [plain_cons, plain_cons, second?_cons, second?_cons, peek?_plain, peek?_plain, h]
  rfl

/-- A text shows no more than another of what tokens look for. -/
structure ShowsLess (less more : List Char) : Prop where
  /-- Both begin with the same character. -/
  head : less.head? = more.head?
  /-- An identifier. -/
  ident : atIdent (plain less) = true → atIdent (plain more) = true
  /-- A fraction. -/
  fraction : atFraction (plain less) = true → atFraction (plain more) = true
  /-- A quote, which is not to be missed. -/
  quote : quoteNext more = true → quoteNext less = true

theorem eq_false_of_imp {a b : Bool} (h : a = true → b = true) (hb : b = false) : a = false := by
  cases a with
  | false => rfl
  | true => rw [h rfl] at hb; cases hb

theorem ShowsLess.numberGoesOn (h : ShowsLess less more) (hm : numberGoesOn more = false) :
    numberGoesOn less = false := by
  simp only [Css.numberGoesOn, Bool.or_eq_false_iff] at hm ⊢
  obtain ⟨⟨⟨hdigit, hfraction⟩, hident⟩, hpercent⟩ := hm
  rw [h.head]
  exact ⟨⟨⟨hdigit, eq_false_of_imp h.fraction hfraction⟩, eq_false_of_imp h.ident hident⟩, hpercent⟩

theorem ShowsLess.signGoesOn (h : ShowsLess less more) {c : Char}
    (hmark : c = '<' → markNext less = true → markNext more = true)
    (hm : signGoesOn c more = false) : signGoesOn c less = false := by
  simp only [Css.signGoesOn, Bool.or_eq_false_iff] at hm ⊢
  obtain ⟨⟨⟨⟨⟨⟨hnumber, hopen⟩, hident⟩, hhash⟩, hcompare⟩, hcomment⟩, hat⟩ := hm
  rw [atNumber_plain, atCommentOpen_plain] at *
  rw [h.head, atIdent_congr c h.head]
  refine ⟨⟨⟨⟨⟨⟨eq_false_of_imp ?_ hnumber, ?_⟩, hident⟩, ?_⟩, hcompare⟩, hcomment⟩, ?_⟩
  · intro hyes
    simp only [Bool.or_eq_true, Bool.and_eq_true] at hyes ⊢
    exact hyes.imp_right fun hsign => ⟨hsign.1, hsign.2.imp_right h.fraction⟩
  · refine eq_false_of_imp (fun hyes => ?_) hopen
    rw [Bool.and_eq_true, beq_iff_eq] at hyes ⊢
    exact ⟨hyes.1, hmark hyes.1 hyes.2⟩
  · refine eq_false_of_imp (fun hyes => ?_) hhash
    rw [Bool.and_eq_true, Bool.or_eq_true] at hyes ⊢
    exact ⟨hyes.1, hyes.2.imp_left h.ident⟩
  · refine eq_false_of_imp (fun hyes => ?_) hat
    rw [Bool.and_eq_true] at hyes ⊢
    exact ⟨hyes.1, h.ident hyes.2⟩

/-- What shows less of what a token looks for ends it as well. -/
theorem Token.endsBefore_of_showsLess {t : Token} (h : ShowsLess less more)
    (hmark : t = .delim '<' → markNext less = true → markNext more = true)
    (hm : t.endsBefore more = true) : t.endsBefore less = true := by
  have hname : nameGoesOn less = nameGoesOn more := by rw [nameGoesOn, nameGoesOn, h.head]
  cases t with
  | ident name =>
      rw [endsBefore] at hm ⊢
      rwa [hname, h.head]
  | atKeyword | hash | idHash | dimension =>
      rw [endsBefore] at hm ⊢
      rwa [hname]
  | number n =>
      rw [endsBefore, Bool.not_eq_true'] at hm ⊢
      exact h.numberGoesOn hm
  | delim c =>
      rw [endsBefore, Bool.not_eq_true'] at hm ⊢
      exact h.signGoesOn (fun hc => hmark (congrArg delim hc)) hm
  | function name =>
      rw [endsBefore, Bool.or_eq_true] at hm ⊢
      exact hm.imp_right h.quote
  | blank =>
      rw [endsBefore] at hm ⊢
      rwa [h.head]
  | _ => exact hm

end Ahead

/-! ## A token and what follows it -/

theorem quoteNext_append {cs : List Char} (h : quoteNext cs = true) (bs : List Char) :
    quoteNext (cs ++ bs) = true := by
  rw [quoteNext] at h ⊢
  rw [List.dropWhile_append]
  cases hdrop : cs.dropWhile isSpace with
  | nil =>
      rw [hdrop] at h
      cases h
  | cons d ds =>
      rw [hdrop] at h
      exact h

/-- What follows a token shows no more in front of what follows that in turn. -/
theorem showsLess_text_append {t : Token} (hsound : t.Sound) {next : List Char}
    (h : t.endsBefore next = true) : ShowsLess (t.text ++ next) t.text := by
  have hcomment : t ≠ .comment := by
    rintro rfl
    cases h
  have hquote : quoteNext t.text = true → quoteNext (t.text ++ next) = true :=
    fun hq => quoteNext_append hq next
  have hsign : ∀ {c : Char}, t.text = [c] → c ∈ ['-', '.', '\\'] → signGoesOn c next = false := by
    intro c htext hc
    rw [eq_delim_of_singleton hsound htext hc, Token.endsBefore, Bool.not_eq_true'] at h
    exact h
  cases htext : t.text with
  | nil => exact absurd htext (text_ne_nil hsound hcomment)
  | cons c cs =>
      rw [htext] at hquote
      cases cs with
      | cons d ds =>
          refine ⟨rfl, fun hi => ?_, fun hf => hf, hquote⟩
          have hhead : (d :: ds ++ next).head? = (d :: ds).head? := rfl
          rwa [List.cons_append, atIdent_congr c hhead] at hi
      | nil =>
          refine ⟨rfl, fun hi => ?_, fun hf => ?_, hquote⟩
          · rw [List.singleton_append] at hi
            by_cases hc : c ∈ ['-', '.', '\\']
            · have hno := hsign htext hc
              simp only [signGoesOn, Bool.or_eq_false_iff] at hno
              rw [hno.1.1.1.1.2] at hi
              cases hi
            · simp only [List.mem_cons, List.not_mem_nil, or_false, not_or] at hc
              rw [plain_cons, atIdent_eq_startsName hc.1 hc.2.2] at hi
              exact atIdent_of_startsName hi _
          · have hc : c = '.' := by
              rw [List.singleton_append, plain_cons, atFraction, Bool.and_eq_true, beq_iff_eq] at hf
              exact Option.some.inj hf.1
            subst hc
            have hno := hsign htext (by simp)
            simp only [signGoesOn, Bool.or_eq_false_iff] at hno
            have hnumber := hno.1.1.1.1.1.1
            rw [atNumber_plain] at hnumber
            rw [List.singleton_append, plain_cons, atFraction, second?_cons, peek?_plain] at hf
            rw [Bool.or_eq_false_iff, Bool.or_eq_false_iff] at hnumber
            rw [Bool.and_eq_true] at hf
            rw [show next.head?.any isDigit = false from hnumber.1.2] at hf
            cases hf.2

/-! ## Rows -/

/-- Whether each token ends before the text of the next, and none of what opens a comment of a page
comes together. -/
def Apart : List Token → Bool
  | [] => true
  | [t] => t.endsBefore []
  | t :: u :: ts =>
    t.endsBefore u.text &&
      !(t == .delim '<' && u == .delim '!' && Text.hasFront ['-', '-'] (ts.flatMap Token.text)) &&
      Apart (u :: ts)

theorem markNext_exclamation (next : List Char) :
    markNext ('!' :: next) = Text.hasFront ['-', '-'] next := by
  have hpeek : ∀ cs : List Char, Text.hasFront ['-'] cs = (peek? (plain cs) == some '-') := by
    intro cs
    cases cs with
    | nil => rfl
    | cons c cs =>
        rw [plain_cons, peek?, Text.hasFront, Text.afterFront?]
        by_cases hc : c = '-'
        · rw [hc]
          rfl
        · rw [beq_false_of_ne fun heq => hc heq.symm, beq_false_of_ne fun heq => hc (Option.some.inj heq)]
          rfl
  cases next with
  | nil => rfl
  | cons c cs =>
      have hmark : markNext ('!' :: c :: cs) =
          (some c == some '-' && peek? (plain cs) == some '-') := by
        rw [markNext, plain_cons, plain_cons, plain_cons, atCommentOpen, second?_cons, third?_cons,
          second?_cons]
        rfl
      have hfront : Text.hasFront ['-', '-'] (c :: cs) =
          (if '-' == c then Text.afterFront? ['-'] cs else none).isSome := rfl
      rw [hmark, hfront, ← hpeek]
      by_cases hc : c = '-'
      · rw [hc]
        rfl
      · rw [beq_false_of_ne fun heq => hc heq.symm, beq_false_of_ne fun heq => hc (Option.some.inj heq)]
        rfl

/-- What opens a comment of a page starts behind its first character with an exclamation mark. -/
theorem exclamation_of_markNext {cs bs : List Char} (hne : cs ≠ []) (h : markNext (cs ++ bs) = true) :
    ∃ ds, cs = '!' :: ds := by
  cases cs with
  | nil => exact absurd rfl hne
  | cons c cs =>
      simp only [markNext, List.cons_append, plain_cons, atCommentOpen, Bool.and_eq_true,
        beq_iff_eq] at h
      exact ⟨cs, congrArg (· :: cs) (Option.some.inj h.1.1.2)⟩

theorem endsBefore_of_apart {t : Token} {ts : List Token} (hsound : ∀ u ∈ ts, u.Sound)
    (h : Apart (t :: ts) = true) : t.endsBefore (ts.flatMap Token.text) = true := by
  induction ts generalizing t with
  | nil => exact h
  | cons u ts ih =>
      rw [Apart, Bool.and_eq_true, Bool.and_eq_true, Bool.not_eq_true'] at h
      obtain ⟨⟨hends, hopen⟩, hrest⟩ := h
      obtain ⟨hu, hts⟩ := List.forall_mem_cons.1 hsound
      have hnext := ih hts hrest
      rw [List.flatMap_cons]
      refine Token.endsBefore_of_showsLess (showsLess_text_append hu hnext) (fun ht hmark => ?_) hends
      have hcomment : u ≠ .comment := by
        rintro rfl
        cases hnext
      obtain ⟨cs, htext⟩ := exclamation_of_markNext (text_ne_nil hu hcomment) hmark
      have hsign := eq_delim_of_exclamation hu htext
      subst ht hsign
      rw [Token.text, List.singleton_append, markNext_exclamation] at hmark
      rw [hmark] at hopen
      cases hopen

/-- The texts of tokens in a row are read as these tokens. -/
theorem tokenList_texts {ts : List Token} (hsound : ∀ t ∈ ts, t.Sound)
    (halone : ∀ t ∈ ts, t.isNumeric = true → tokenList t.text = [t]) (h : Apart ts = true) :
    tokenList (ts.flatMap Token.text) = ts := by
  induction ts with
  | nil => rfl
  | cons t ts ih =>
      obtain ⟨ht, hts⟩ := List.forall_mem_cons.1 hsound
      obtain ⟨htalone, htsalone⟩ := List.forall_mem_cons.1 halone
      have hrest : Apart ts = true := by
        cases ts with
        | nil => rfl
        | cons u ts =>
            rw [Apart, Bool.and_eq_true] at h
            exact h.2
      rw [List.flatMap_cons,
        tokenList_of_firstToken? (firstToken?_text ht htalone (endsBefore_of_apart hts h)),
        ih hts htsalone hrest]

end FeatureScan.Css
