import FeatureScan.Proofs.Css.Nested

/-!
# Sources in small letters

A source in small letters is cut into tokens at the same places, and each token is the one of the
source itself but for the case of its letters. Small letters throughout would be too much to ask: an
escape may stand for a capital, and that capital is written with digits.

## Main results

* `agree_scanToken`: one token.
* `tokens_lowered`: all tokens.
* `ofText_recast_small`: the components of texts that are the same in small letters.
-/

namespace FeatureScan.Css

open Text

namespace Source

/-- A source in small letters. -/
def lowered (s : Source) : Source := s.map fun c => ⟨lowerChar c.char, c.line⟩

@[simp] theorem lowered_nil : lowered [] = [] := rfl

@[simp] theorem lowered_cons (c : SourceChar) (s : Source) :
    lowered (c :: s) = ⟨lowerChar c.char, c.line⟩ :: lowered s := rfl

@[simp] theorem length_lowered (s : Source) : s.lowered.length = s.length := List.length_map _

theorem text_lowered (s : Source) : s.lowered.text = s.text.map lowerChar := by
  rw [text, text, lowered, List.map_map, List.map_map]
  rfl

theorem tail_lowered (s : Source) : s.lowered.tail = lowered s.tail := List.map_tail.symm

theorem drop_lowered (n : Nat) (s : Source) : s.lowered.drop n = lowered (s.drop n) :=
  List.map_drop.symm

theorem dropWhile_lowered {p : Char → Bool} (hp : IgnoresCase p) (s : Source) :
    (s.lowered.dropWhile fun c => p c.char) = lowered (s.dropWhile fun c => p c.char) :=
  map_dropWhile (p := fun c : SourceChar => p c.char) (fun c => hp c.char) s

theorem isEmpty_lowered (s : Source) : s.lowered.isEmpty = s.isEmpty := by
  cases s <;> rfl

/-! ## Looking ahead -/

theorem peek?_lowered (s : Source) : peek? s.lowered = (peek? s).map lowerChar := by
  cases s <;> rfl

theorem second?_lowered (s : Source) : second? s.lowered = (second? s).map lowerChar := by
  cases s with
  | nil => rfl
  | cons c s => rw [lowered_cons, second?_cons, second?_cons, peek?_lowered]

theorem third?_lowered (s : Source) : third? s.lowered = (third? s).map lowerChar := by
  cases s with
  | nil => rfl
  | cons c s => rw [lowered_cons, third?_cons, third?_cons, second?_lowered]

end Source

open Source

theorem any_map_lowerChar {p : Char → Bool} (hp : IgnoresCase p) (c? : Option Char) :
    (c?.map lowerChar).any p = c?.any p := by
  cases c? with
  | none => rfl
  | some c => exact hp c

theorem map_lowerChar_beq {d : Char} (hd : d.isAlpha = false) (c? : Option Char) :
    (c?.map lowerChar == some d) = (c? == some d) := by
  cases c? with
  | none => rfl
  | some c =>
      rw [Option.map_some, Option.some_beq_some, Option.some_beq_some]
      exact ignoresCase_beq hd c

/-! ## What ignores case -/

theorem ignoresCase_isLineEnd : IgnoresCase isLineEnd := ignoresCase_of_capitals (by decide)

theorem ignoresCase_isSpace : IgnoresCase isSpace := ignoresCase_of_capitals (by decide)

theorem ignoresCase_hexValue? : IgnoresCase hexValue? := ignoresCase_of_capitals (by decide)

theorem ignoresCase_digitValue? : IgnoresCase digitValue? := ignoresCase_of_capitals (by decide)

theorem ignoresCase_isDigit : IgnoresCase isDigit := ignoresCase_digitValue?.comp Option.isSome

theorem ignoresCase_startsName : IgnoresCase startsName := ignoresCase_of_capitals (by decide)

theorem ignoresCase_spoilsUrl : IgnoresCase spoilsUrl := ignoresCase_of_capitals (by decide)

theorem ignoresCase_isComparison : IgnoresCase isComparison := ignoresCase_of_capitals (by decide)

theorem ignoresCase_signToken? : IgnoresCase signToken? := ignoresCase_of_capitals (by decide)

theorem ignoresCase_isNul : IgnoresCase fun c => decide (c.toNat = 0) :=
  ignoresCase_of_capitals (by decide)

theorem atLineEnd_lowered (s : Source) : atLineEnd s.lowered = atLineEnd s := by
  rw [atLineEnd, atLineEnd, peek?_lowered, any_map_lowerChar ignoresCase_isLineEnd]

/-- Whether an identifier starts here, by the first two characters. -/
theorem atIdent_eq (s : Source) :
    atIdent s = (peek? s).any fun c =>
      if c == '-' then (second? s).any fun d => startsName d || d == '-' || d == '\\'
      else if c == '\\' then !(second? s).any isLineEnd
      else startsName c := by
  unfold atIdent
  cases peek? s with
  | none => rfl
  | some c =>
      rw [Option.any_some]
      by_cases hminus : c = '-'
      · subst hminus
        cases second? s <;> rfl
      · by_cases hback : c = '\\'
        · subst hback
          rfl
        · rw [beq_eq_false_iff_ne.2 hminus, beq_eq_false_iff_ne.2 hback]
          split <;> simp_all

theorem atIdent_lowered (s : Source) : atIdent s.lowered = atIdent s := by
  have hsecond : IgnoresCase fun d => startsName d || d == '-' || d == '\\' :=
    ignoresCase_of_capitals (by decide)
  rw [atIdent_eq, atIdent_eq, peek?_lowered, second?_lowered, any_map_lowerChar hsecond,
    any_map_lowerChar ignoresCase_isLineEnd]
  refine any_map_lowerChar (fun c => ?_) _
  rw [lowerChar_beq (d := '-') rfl, lowerChar_beq (d := '\\') rfl, ignoresCase_startsName]

/-! ## Outcomes that agree -/

/-- What is read from a source in small letters agrees with what is read from the source: the
results have the same form, and the rest of the one is the rest of the other in small letters. -/
structure Agree {α β : Type} (form : α → β) (x y : α × Source) : Prop where
  value : form x.1 = form y.1
  rest : x.2 = lowered y.2

section Agree

variable {α β : Type} {form : α → β}

theorem agree_ite_of {p q : Prop} [Decidable p] [Decidable q] {x y x' y' : α × Source}
    (hpq : p ↔ q) (hx : q → Agree form x x') (hy : ¬q → Agree form y y') :
    Agree form (if p then x else y) (if q then x' else y') := by
  by_cases hq : q
  · rw [if_pos hq, if_pos (hpq.2 hq)]
    exact hx hq
  · rw [if_neg hq, if_neg fun hp => hq (hpq.1 hp)]
    exact hy hq

theorem agree_ite {p q : Prop} [Decidable p] [Decidable q] {x y x' y' : α × Source} (hpq : p ↔ q)
    (hx : Agree form x x') (hy : Agree form y y') :
    Agree form (if p then x else y) (if q then x' else y') :=
  agree_ite_of hpq (fun _ => hx) fun _ => hy

end Agree

/-! ## Escapes -/

theorem scanHex_lowered (left value : Nat) (s : Source) :
    scanHex left value s.lowered =
      ((scanHex left value s).1, lowered (scanHex left value s).2) := by
  induction left generalizing value s with
  | zero => rfl
  | succ left ih =>
      cases s with
      | nil => rfl
      | cons c s =>
          rw [lowered_cons, scanHex, scanHex, ignoresCase_hexValue?]
          cases hexValue? c.char with
          | some d => exact ih _ _
          | none => rfl

theorem dropOneSpace_lowered (s : Source) : dropOneSpace s.lowered = lowered (dropOneSpace s) := by
  cases s with
  | nil => rfl
  | cons c s =>
      rw [lowered_cons, dropOneSpace, dropOneSpace, peek?_lowered, map_lowerChar_beq rfl,
        tail_lowered]
      dsimp only
      rw [lowerChar_beq rfl, ignoresCase_isSpace]
      split
      · split <;> rfl
      · split <;> rfl

theorem agree_scanEscape (s : Source) : Agree lowerChar (scanEscape s.lowered) (scanEscape s) := by
  cases s with
  | nil => exact ⟨rfl, rfl⟩
  | cons c s =>
      rw [lowered_cons, scanEscape, scanEscape, ignoresCase_hexValue?, ← lowered_cons,
        scanHex_lowered]
      refine agree_ite Iff.rfl ⟨rfl, dropOneSpace_lowered _⟩ ?_
      exact agree_ite (decide_eq_decide.1 (ignoresCase_isNul c.char)) ⟨rfl, rfl⟩
        ⟨lowerChar_lowerChar _, rfl⟩

/-! ## Names -/

theorem agree_scanNameFrom (fuel : Nat) {name' name : List Char} (h : Alike name' name)
    (s : Source) :
    Agree (List.map lowerChar) (scanNameFrom fuel name' s.lowered) (scanNameFrom fuel name s) := by
  induction fuel generalizing name' name s with
  | zero => exact ⟨h.reverse, rfl⟩
  | succ fuel ih =>
      cases s with
      | nil => exact ⟨h.reverse, rfl⟩
      | cons c s =>
          have hesc := agree_scanEscape s
          rw [lowered_cons, scanNameFrom, scanNameFrom]
          refine agree_ite ?_ (ih (.cons (lowerChar_lowerChar _) h) s) ?_
          · rw [ignoresCase_isPlainNameChar, ignoresCase_isWide]
          refine agree_ite ?_ ?_ ?_
          · rw [lowerChar_beq rfl]
          · refine agree_ite ?_ ⟨h.reverse, rfl⟩ ?_
            · rw [atLineEnd_lowered]
            · change Agree _ (scanNameFrom fuel (_ :: name') (scanEscape (lowered s)).2)
                (scanNameFrom fuel (_ :: name) (scanEscape s).2)
              rw [hesc.rest]
              exact ih (.cons hesc.value h) _
          · refine agree_ite (decide_eq_decide.1 (ignoresCase_isNul c.char)) ?_ ⟨h.reverse, rfl⟩
            exact ih (.cons rfl h) s

theorem agree_scanName (s : Source) : Agree asciiLower (scanName s.lowered) (scanName s) := by
  have h := agree_scanNameFrom (s.length + 1) (Alike.refl []) s
  rw [scanName, scanName, length_lowered]
  exact ⟨Alike.asciiLower_eq h.value, h.rest⟩

/-! ## Strings -/

theorem agree_scanStringFrom {quote : Char} (hq : quote.isAlpha = false) (fuel : Nat)
    {value' value : List Char} (h : Alike value' value) (s : Source) :
    Agree (Token.recast .small) (scanStringFrom quote fuel value' s.lowered)
      (scanStringFrom quote fuel value s) := by
  have hstring : ∀ {cs ds : List Char}, Alike cs ds →
      Token.recast .small (.string (String.ofList cs.reverse)) =
        Token.recast .small (.string (String.ofList ds.reverse)) :=
    fun h => congrArg Token.string h.reverse.asciiLower_eq
  induction fuel generalizing value' value s with
  | zero => exact ⟨hstring h, rfl⟩
  | succ fuel ih =>
      cases s with
      | nil => exact ⟨hstring h, rfl⟩
      | cons c s =>
          have hesc := agree_scanEscape s
          rw [lowered_cons, scanStringFrom, scanStringFrom]
          refine agree_ite ?_ ⟨hstring h, rfl⟩ ?_
          · rw [lowerChar_beq hq]
          refine agree_ite ?_ ⟨congrArg Token.badString h.reverse.asciiLower_eq, rfl⟩ ?_
          · rw [ignoresCase_isLineEnd]
          refine agree_ite ?_ ?_ ?_
          · rw [lowerChar_beq rfl]
          · refine agree_ite ?_ ⟨hstring h, rfl⟩ ?_
            · rw [isEmpty_lowered]
            refine agree_ite ?_ ?_ ?_
            · rw [atLineEnd_lowered]
            · rw [dropOneSpace_lowered]
              exact ih h _
            · change Agree _ (scanStringFrom quote fuel (_ :: value') (scanEscape (lowered s)).2)
                (scanStringFrom quote fuel (_ :: value) (scanEscape s).2)
              rw [hesc.rest]
              exact ih (.cons hesc.value h) _
          · refine agree_ite (decide_eq_decide.1 (ignoresCase_isNul c.char)) ?_ ?_
            · exact ih (.cons rfl h) s
            · exact ih (.cons (lowerChar_lowerChar _) h) s

theorem agree_scanString {quote : Char} (hq : quote.isAlpha = false) (s : Source) :
    Agree (Token.recast .small) (scanString quote s.lowered) (scanString quote s) := by
  rw [scanString, scanString, length_lowered]
  exact agree_scanStringFrom hq _ (.refl []) s

/-! ## Addresses -/

theorem skipBadUrl_lowered (s : Source) : skipBadUrl s.lowered = lowered (skipBadUrl s) := by
  have hclose : ∀ c : Char, (lowerChar c == ')') = (c == ')') := lowerChar_beq rfl
  have hback : ∀ c : Char, (lowerChar c == '\\') = (c == '\\') := lowerChar_beq rfl
  fun_induction skipBadUrl s with
  | case1 => rfl
  | case2 c hc =>
      rw [lowered_cons, lowered_nil, skipBadUrl, if_pos ((hclose _).trans hc)]
  | case3 c hc =>
      rw [lowered_cons, lowered_nil, skipBadUrl, if_neg (by rwa [hclose])]
  | case4 c d s hc =>
      rw [lowered_cons, lowered_cons, skipBadUrl, if_pos ((hclose _).trans hc)]
  | case5 c d s hc hd ih =>
      rw [lowered_cons, lowered_cons, skipBadUrl, if_neg (by rwa [hclose]),
        if_pos (by rwa [hback, hclose, hback]), ih]
  | case6 c d s hc hd ih =>
      rw [lowered_cons, lowered_cons, skipBadUrl, if_neg (by rwa [hclose]),
        if_neg (by rwa [hback, hclose, hback]), ← lowered_cons, ih]

theorem agree_badUrl (start s : Source) :
    Agree (Token.recast .small) (badUrl start.lowered s.lowered) (badUrl start s) := by
  rw [badUrl, badUrl, skipBadUrl_lowered]
  refine ⟨congrArg Token.badUrl ?_, tail_lowered _⟩
  have htake : ∀ n, text (List.take n start.lowered) = (text (start.take n)).map lowerChar := by
    intro n
    rw [← text_lowered, lowered, lowered, List.map_take]
  rw [length_lowered, length_lowered, htake]
  refine Alike.asciiLower_eq ?_
  rw [Alike, List.map_map]
  congr 1
  exact funext lowerChar_lowerChar

theorem agree_endUrl (start : Source) {value' value : String}
    (h : asciiLower value' = asciiLower value) (s : Source) :
    Agree (Token.recast .small) (endUrl start.lowered value' s.lowered)
      (endUrl start value s) := by
  rw [endUrl, endUrl, dropWhile_lowered ignoresCase_isSpace]
  cases s.dropWhile fun c => isSpace c.char with
  | nil => exact ⟨congrArg Token.url h, rfl⟩
  | cons c rest =>
      refine agree_ite ?_ ⟨congrArg Token.url h, rfl⟩ (agree_badUrl start rest)
      rw [lowerChar_beq rfl]

theorem agree_scanUrlFrom (start : Source) (fuel : Nat) {value' value : List Char}
    (h : Alike value' value) (s : Source) :
    Agree (Token.recast .small) (scanUrlFrom start.lowered fuel value' s.lowered)
      (scanUrlFrom start fuel value s) := by
  have hurl : ∀ {cs ds : List Char}, Alike cs ds →
      Token.recast .small (.url (String.ofList cs.reverse)) =
        Token.recast .small (.url (String.ofList ds.reverse)) :=
    fun h => congrArg Token.url h.reverse.asciiLower_eq
  induction fuel generalizing value' value s with
  | zero => exact ⟨hurl h, rfl⟩
  | succ fuel ih =>
      cases s with
      | nil => exact ⟨hurl h, rfl⟩
      | cons c s =>
          have hesc := agree_scanEscape s
          rw [lowered_cons, scanUrlFrom, scanUrlFrom]
          refine agree_ite ?_ (agree_endUrl start h.reverse.asciiLower_eq (c :: s)) ?_
          · rw [ignoresCase_isSpace]
          refine agree_ite ?_ ⟨hurl h, rfl⟩ ?_
          · rw [lowerChar_beq rfl]
          refine agree_ite ?_ (agree_badUrl start s) ?_
          · rw [ignoresCase_spoilsUrl]
          refine agree_ite ?_ ?_ ?_
          · rw [lowerChar_beq rfl]
          · refine agree_ite ?_ (agree_badUrl start s) ?_
            · rw [atLineEnd_lowered]
            · change Agree _
                (scanUrlFrom (lowered start) fuel (_ :: value') (scanEscape (lowered s)).2)
                (scanUrlFrom start fuel (_ :: value) (scanEscape s).2)
              rw [hesc.rest]
              exact ih (.cons hesc.value h) _
          · refine agree_ite (decide_eq_decide.1 (ignoresCase_isNul c.char)) ?_ ?_
            · exact ih (.cons rfl h) s
            · exact ih (.cons (lowerChar_lowerChar _) h) s

/-- What follows the word for an address, where `t` is the token of the word as a function. -/
theorem agree_scanUrl? {t' t : Token} (ht : t'.recast .small = t.recast .small) (s : Source) :
    Agree (Token.recast .small) ((scanUrl? s.lowered).getD (t', s.lowered))
      ((scanUrl? s).getD (t, s)) := by
  rw [scanUrl?, scanUrl?, dropWhile_lowered ignoresCase_isSpace]
  cases hs : s.dropWhile fun c => isSpace c.char with
  | nil => exact ⟨rfl, rfl⟩
  | cons c rest =>
      rw [lowered_cons]
      dsimp only
      rw [lowerChar_beq rfl, lowerChar_beq rfl, lowerChar_beq rfl]
      split
      · exact ⟨ht, rfl⟩
      · split
        · exact ⟨rfl, rfl⟩
        · rw [List.length_cons, length_lowered, ← lowered_cons]
          exact agree_scanUrlFrom (c :: rest) _ (.refl []) (c :: rest)

theorem agree_scanIdentLike (s : Source) :
    Agree (Token.recast .small) (scanIdentLike s.lowered) (scanIdentLike s) := by
  have hname := agree_scanName s
  rw [scanIdentLike_eq, scanIdentLike_eq, hname.rest, scanCall, scanCall, peek?_lowered,
    map_lowerChar_beq rfl, hname.value, tail_lowered]
  refine agree_ite Iff.rfl (agree_ite Iff.rfl (agree_scanUrl? ?_ _) ⟨?_, rfl⟩) ⟨?_, rfl⟩
  · exact congrArg Token.function hname.value
  · exact congrArg Token.function hname.value
  · exact congrArg Token.ident hname.value

/-! ## Numbers -/

theorem scanDigits_lowered (digits : List Nat) (s : Source) :
    scanDigits digits s.lowered = ((scanDigits digits s).1, lowered (scanDigits digits s).2) := by
  induction s generalizing digits with
  | nil => rfl
  | cons c s ih =>
      rw [lowered_cons, scanDigits, scanDigits, ignoresCase_digitValue?]
      cases digitValue? c.char with
      | some d => exact ih _
      | none => rfl

theorem scanSign_lowered (s : Source) :
    scanSign s.lowered = ((scanSign s).1, lowered (scanSign s).2) := by
  cases s with
  | nil => rfl
  | cons c s =>
      rw [lowered_cons, scanSign, scanSign]
      dsimp only
      rw [lowerChar_beq rfl, lowerChar_beq rfl]
      split
      · rfl
      · split <;> rfl

theorem atFraction_lowered (s : Source) : atFraction s.lowered = atFraction s := by
  rw [atFraction, atFraction, peek?_lowered, map_lowerChar_beq rfl, second?_lowered,
    any_map_lowerChar ignoresCase_isDigit]

theorem scanFraction_lowered (s : Source) :
    scanFraction s.lowered = ((scanFraction s).1, lowered (scanFraction s).2) := by
  have heq : ∀ s, scanFraction s =
      if atFraction s then (some (scanDigits [] s.tail).1, (scanDigits [] s.tail).2)
      else (none, s) := fun _ => rfl
  rw [heq, heq, atFraction_lowered, tail_lowered, scanDigits_lowered]
  split <;> rfl

theorem atPower_lowered (s : Source) : atPower s.lowered = atPower s := by
  have hletter : IgnoresCase fun c => c == 'e' || c == 'E' :=
    ignoresCase_of_capitals (by decide)
  have hsign : IgnoresCase fun c => c == '+' || c == '-' := ignoresCase_of_capitals (by decide)
  rw [atPower, atPower, peek?_lowered, second?_lowered, third?_lowered,
    any_map_lowerChar hletter, any_map_lowerChar ignoresCase_isDigit, any_map_lowerChar hsign,
    any_map_lowerChar ignoresCase_isDigit]

theorem scanPower_lowered (s : Source) :
    scanPower s.lowered = ((scanPower s).1, lowered (scanPower s).2) := by
  have heq : ∀ s, scanPower s =
      if atPower s then
        (some ((scanSign s.tail).1 == some true,
          (scanDigits [] (scanSign s.tail).2).1.foldl (fun n d => 10 * n + d) 0),
          (scanDigits [] (scanSign s.tail).2).2)
      else (none, s) := fun _ => rfl
  rw [heq, heq, atPower_lowered, tail_lowered, scanSign_lowered, scanDigits_lowered]
  split <;> rfl

theorem agree_scanMeasure (written : Written) (s : Source) :
    Agree (Token.recast .small) (scanMeasure written s.lowered) (scanMeasure written s) := by
  have hname := agree_scanName s
  rw [scanMeasure, scanMeasure, peek?_lowered, map_lowerChar_beq rfl, atIdent_lowered,
    tail_lowered]
  refine agree_ite Iff.rfl ⟨rfl, rfl⟩ (agree_ite Iff.rfl ⟨?_, hname.rest⟩ ⟨rfl, rfl⟩)
  exact congrArg (Token.dimension written.numeral) hname.value

theorem agree_scanNumeric (s : Source) :
    Agree (Token.recast .small) (scanNumeric s.lowered) (scanNumeric s) := by
  have heq : ∀ s, scanNumeric s =
      scanMeasure ⟨(scanSign s).1, (scanDigits [] (scanSign s).2).1,
        (scanFraction (scanDigits [] (scanSign s).2).2).1,
        (scanPower (scanFraction (scanDigits [] (scanSign s).2).2).2).1⟩
        (scanPower (scanFraction (scanDigits [] (scanSign s).2).2).2).2 := fun _ => rfl
  rw [heq, heq, scanSign_lowered, scanDigits_lowered, scanFraction_lowered, scanPower_lowered]
  exact agree_scanMeasure _ _

theorem numberBehindSign_lowered (s : Source) :
    numberBehindSign s.lowered = numberBehindSign s := by
  rw [numberBehindSign, numberBehindSign, second?_lowered, third?_lowered,
    any_map_lowerChar ignoresCase_isDigit, map_lowerChar_beq rfl,
    any_map_lowerChar ignoresCase_isDigit]

/-! ## One token -/

theorem skipComment_lowered (s : Source) : skipComment s.lowered = lowered (skipComment s) := by
  have hend : ∀ c d : Char,
      (lowerChar c == '*' && lowerChar d == '/') = (c == '*' && d == '/') := by
    intro c d
    rw [lowerChar_beq rfl, lowerChar_beq rfl]
  fun_induction skipComment s with
  | case1 => rfl
  | case2 c => rfl
  | case3 c d s hc => rw [lowered_cons, lowered_cons, skipComment, if_pos ((hend _ _).trans hc)]
  | case4 c d s hc ih =>
      rw [lowered_cons, lowered_cons, skipComment, if_neg (by rwa [hend]), ← lowered_cons, ih]

theorem agree_scanHash (s : Source) :
    Agree (Token.recast .small) (scanHash s.lowered) (scanHash s) := by
  have hname := agree_scanName s
  have hfirst : IgnoresCase fun c => isDigit c || c == '-' := ignoresCase_of_capitals (by decide)
  rw [scanHash, scanHash, atIdent_lowered, peek?_lowered, any_map_lowerChar hfirst]
  refine agree_ite Iff.rfl ⟨congrArg Token.idHash hname.value, hname.rest⟩ ?_
  exact agree_ite Iff.rfl ⟨congrArg Token.hash hname.value, hname.rest⟩ ⟨rfl, rfl⟩

theorem agree_scanMinus (c : SourceChar) (s : Source) :
    Agree (Token.recast .small) (scanMinus ⟨lowerChar c.char, c.line⟩ s.lowered)
      (scanMinus c s) := by
  rw [scanMinus, scanMinus, ← lowered_cons, numberBehindSign_lowered, atIdent_lowered,
    peek?_lowered, second?_lowered, map_lowerChar_beq rfl, map_lowerChar_beq rfl, drop_lowered]
  refine agree_ite Iff.rfl (agree_scanNumeric _) (agree_ite Iff.rfl ⟨rfl, rfl⟩ ?_)
  exact agree_ite Iff.rfl (agree_scanIdentLike _) ⟨rfl, rfl⟩

/-- A token is read alike from a source in small letters. -/
theorem agree_scanToken (c : SourceChar) (s : Source) :
    Agree (Token.recast .small) (scanToken ⟨lowerChar c.char, c.line⟩ s.lowered)
      (scanToken c s) := by
  have hname := agree_scanName s
  have hsign : ∀ {d : Char}, d.isAlpha = false →
      ((lowerChar c.char == d) = true ↔ (c.char == d) = true) := by
    intro d hd
    rw [lowerChar_beq hd]
  have hnext : ∀ {d : Char}, d.isAlpha = false →
      (peek? s.lowered == some d) = (peek? s == some d) :=
    fun hd => by rw [peek?_lowered, map_lowerChar_beq hd]
  unfold scanToken
  rw [← lowered_cons]
  refine agree_ite ?_ ⟨rfl, dropWhile_lowered ignoresCase_isSpace s⟩ ?_
  · rw [ignoresCase_isSpace]
  refine agree_ite_of ?_ (fun hquote => ?_) fun _ => ?_
  · rw [Bool.or_eq_true, Bool.or_eq_true, hsign rfl, hsign rfl]
  · have hc : c.char.isAlpha = false := by
      rcases Bool.or_eq_true_iff.1 hquote with h | h <;> rw [beq_iff_eq.1 h] <;> rfl
    rw [lowerChar_of_not_isAlpha hc]
    exact agree_scanString hc s
  refine agree_ite (hsign rfl) (agree_scanHash s) ?_
  refine agree_ite ?_ ⟨congrArg Token.compare (lowerChar_lowerChar _), tail_lowered s⟩ ?_
  · rw [ignoresCase_isComparison, hnext rfl]
  refine agree_ite (hsign rfl) (agree_ite ?_ (agree_scanNumeric _) ⟨rfl, rfl⟩) ?_
  · rw [numberBehindSign_lowered]
  refine agree_ite (hsign rfl) (agree_scanMinus c s) ?_
  refine agree_ite (hsign rfl) (agree_ite ?_ (agree_scanNumeric _) ⟨rfl, rfl⟩) ?_
  · rw [peek?_lowered, any_map_lowerChar ignoresCase_isDigit]
  refine agree_ite ?_ ⟨rfl, ?_⟩ ?_
  · rw [Bool.and_eq_true, Bool.and_eq_true, hsign rfl, hnext rfl]
  · rw [tail_lowered, skipComment_lowered]
  refine agree_ite ?_ (agree_scanNumeric _) ?_
  · rw [ignoresCase_isDigit]
  refine agree_ite ?_ ⟨rfl, drop_lowered 3 s⟩ ?_
  · rw [second?_lowered, third?_lowered, map_lowerChar_beq rfl, map_lowerChar_beq rfl, hnext rfl,
      lowerChar_beq rfl]
  refine agree_ite (hsign rfl) (agree_ite ?_ ⟨?_, hname.rest⟩ ⟨rfl, rfl⟩) ?_
  · rw [atIdent_lowered]
  · exact congrArg Token.atKeyword hname.value
  refine agree_ite (hsign rfl) (agree_ite ?_ ⟨rfl, rfl⟩ (agree_scanIdentLike _)) ?_
  · rw [atLineEnd_lowered]
  refine agree_ite ?_ (agree_scanIdentLike _) ?_
  · rw [ignoresCase_startsName]
  · dsimp only
    rw [ignoresCase_signToken?]
    cases signToken? c.char with
    | some t => exact ⟨rfl, rfl⟩
    | none => exact ⟨congrArg Token.delim (lowerChar_lowerChar _), rfl⟩

/-! ## All tokens -/

theorem tokensFrom_lowered (last fuel : Nat) (s : Source) :
    (tokensFrom last fuel [] s.lowered).map (PlacedToken.recast .small) =
      (tokensFrom last fuel [] s).map (PlacedToken.recast .small) := by
  induction fuel generalizing s with
  | zero => rfl
  | succ fuel ih =>
      cases s with
      | nil => rfl
      | cons c s =>
          have ht := agree_scanToken c s
          have hline : lineAt last (lowered (scanToken c s).2) = lineAt last (scanToken c s).2 := by
            cases (scanToken c s).2 <;> rfl
          rw [lowered_cons, tokensFrom_cons, tokensFrom_cons, List.map_cons, List.map_cons,
            ht.rest, ih, hline]
          congr 1
          exact congrArg (PlacedToken.mk · _) ht.value

theorem placesFrom_lowered (line : Nat) (cs : List Char) :
    placesFrom [] line (cs.map lowerChar) =
      (lowered (placesFrom [] line cs).1, (placesFrom [] line cs).2) := by
  induction cs generalizing line with
  | nil => rfl
  | cons c cs ih =>
      have hends : endsLine (lowerChar c) (cs.map lowerChar) = endsLine c cs := by
        have hne : ((cs.map lowerChar).head? != some '\n') = (cs.head? != some '\n') := by
          rw [bne, bne, List.head?_map, map_lowerChar_beq rfl]
        rw [endsLine, endsLine, hne, lowerChar_beq rfl, lowerChar_beq rfl, lowerChar_beq rfl]
      rw [List.map_cons, placesFrom_cons, placesFrom_cons, hends, ih]
      rfl

/-- A text in small letters is cut into the same tokens, but for the case of letters in them. -/
theorem tokens_lowered (cs : List Char) :
    (tokens (cs.map lowerChar)).1.map (PlacedToken.recast .small) =
        (tokens cs).1.map (PlacedToken.recast .small) ∧
      (tokens (cs.map lowerChar)).2 = (tokens cs).2 := by
  rw [tokens, tokens, places, placesFrom_lowered]
  refine ⟨?_, rfl⟩
  dsimp only
  rw [length_lowered]
  exact tokensFrom_lowered _ _ _

/-- Texts that are alike have the same components, but for the case of letters in them. -/
theorem ofText_recast_small {cs ds : List Char} (h : Alike cs ds) :
    (Body.ofText cs).recast .small = (Body.ofText ds).recast .small := by
  have hlow : ∀ cs : List Char, (Body.ofText cs).recast .small =
      ⟨(((tokens (cs.map lowerChar)).1.map (PlacedToken.recast .small)).foldl Nesting.add
        .start).finish (tokens (cs.map lowerChar)).2, (tokens (cs.map lowerChar)).2⟩ := by
    intro cs
    have hstart : Nesting.start.recast .small = Nesting.start := rfl
    rw [(tokens_lowered cs).1, (tokens_lowered cs).2, ← hstart, Nesting.foldl_add_recast]
    exact congrArg (Body.mk · _) (Nesting.finish_recast _ _).symm
  rw [hlow, hlow, h]

end FeatureScan.Css
