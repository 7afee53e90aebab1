import FeatureScan.Proofs.Css.Tokens

/-!
# Where each kind of token starts

A token is told by its first characters. The cases below are those of the scanner, each with all that
the source must hold for it, so a token read from a source says how that source begins.

## Main results

* `scanned_scanToken`: every token is read in one of the cases.
* `scanToken_numeric`, `scanToken_identLike`, `scanToken_delim`: cases that settle the token.
-/

namespace FeatureScan.Css

open Source

/-- Whether a number starts here: at a digit, at a point with a digit behind it, or at a sign with one
of these behind it. -/
def atNumber : Source → Bool
  | [] => false
  | c :: s =>
    isDigit c.char || (c.char == '.' && (peek? s).any isDigit) ||
      ((c.char == '+' || c.char == '-') && numberBehindSign (c :: s))

/-- Whether the mark that closes a comment of a page starts here. -/
def atCommentClose : Source → Bool
  | [] => false
  | c :: s => c.char == '-' && (peek? s == some '-' && second? s == some '>')

/-- Whether the mark that opens a comment of a page starts here. -/
def atCommentOpen : Source → Bool
  | [] => false
  | c :: s =>
    c.char == '<' && peek? s == some '!' && second? s == some '-' && third? s == some '-'

/-- A character that is a sign by itself, given what follows it. -/
structure StandsAlone (c : Char) (s : Source) : Prop where
  /-- It is no white space. -/
  space : isSpace c = false
  /-- It opens no string. -/
  quote : c ≠ '\x22' ∧ c ≠ '\x27'
  /-- No name belongs to it. -/
  hash : c = '#' → atIdent s = false ∧ (peek? s).any (fun d => isDigit d || d == '-') = false
  /-- It compares nothing. -/
  compare : isComparison c = true → peek? s ≠ some '='
  /-- It opens no comment. -/
  comment : c = '/' → peek? s ≠ some '*'
  /-- It is the sign of no keyword. -/
  at_ : c = '@' → atIdent s = false
  /-- It is none of the other signs. -/
  sign : signToken? c = none

/-- The cases of the scanner at a character `c` in front of `s`. -/
inductive Scanned (c : SourceChar) (s : Source) : Token × Source → Prop
  | blank (h : isSpace c.char = true) : Scanned c s (.blank, s.dropWhile fun d => isSpace d.char)
  | string (h : c.char = '\x22' ∨ c.char = '\x27') : Scanned c s (scanString c.char s)
  | idHash (h : c.char = '#') (hname : atIdent s = true) :
      Scanned c s (.idHash (scanName s).1, (scanName s).2)
  | hash (h : c.char = '#') (hident : atIdent s = false)
      (hname : (peek? s).any (fun d => isDigit d || d == '-') = true) :
      Scanned c s (.hash (scanName s).1, (scanName s).2)
  | compare (h : isComparison c.char = true) (hequals : peek? s = some '=') :
      Scanned c s (.compare c.char, s.tail)
  | numeric (h : atNumber (c :: s) = true) : Scanned c s (scanNumeric (c :: s))
  | commentClose (h : atCommentClose (c :: s) = true) : Scanned c s (.commentClose, s.drop 2)
  | comment (h : c.char = '/') (hstar : peek? s = some '*') :
      Scanned c s (.comment, skipComment s.tail)
  | commentOpen (h : atCommentOpen (c :: s) = true) : Scanned c s (.commentOpen, s.drop 3)
  | atKeyword (h : c.char = '@') (hname : atIdent s = true) :
      Scanned c s (.atKeyword (scanName s).1, (scanName s).2)
  | identLike (hnumber : atNumber (c :: s) = false) (hclose : atCommentClose (c :: s) = false)
      (h : atIdent (c :: s) = true) : Scanned c s (scanIdentLike (c :: s))
  | sign {t : Token} (h : signToken? c.char = some t) : Scanned c s (t, s)
  | delim (hnumber : atNumber (c :: s) = false) (hclose : atCommentClose (c :: s) = false)
      (hopen : atCommentOpen (c :: s) = false) (hident : atIdent (c :: s) = false)
      (h : StandsAlone c.char s) : Scanned c s (.delim c.char, s)

section Cases

variable {c : SourceChar} {s : Source}

theorem scanned_ite {p : Prop} [Decidable p] {x y : Token × Source} (hx : p → Scanned c s x)
    (hy : ¬p → Scanned c s y) : Scanned c s (if p then x else y) := by
  split
  · exact hx ‹_›
  · exact hy ‹_›

theorem atNumber_cons (c : SourceChar) (s : Source) :
    atNumber (c :: s) = (isDigit c.char || (c.char == '.' && (peek? s).any isDigit) ||
      ((c.char == '+' || c.char == '-') && numberBehindSign (c :: s))) := rfl

/-- The signs that only what follows them can make part of a longer token. -/
theorem standsAlone_of_sign {d : Char} (h : d ∈ ['+', '-', '.', '\\']) (s : Source) :
    StandsAlone d s := by
  simp only [List.mem_cons, List.not_mem_nil, or_false] at h
  rcases h with rfl | rfl | rfl | rfl <;>
    exact ⟨rfl, ⟨nofun, nofun⟩, nofun, nofun, nofun, nofun, rfl⟩

theorem scanned_hash (h : c.char = '#') : Scanned c s (scanHash s) := by
  refine scanned_ite (fun hname => .idHash h hname) fun hident => ?_
  refine scanned_ite (fun hname => .hash h (Bool.eq_false_iff.2 hident) hname) fun hname => ?_
  obtain ⟨d, line⟩ := c
  obtain rfl : d = '#' := h
  refine .delim rfl rfl rfl rfl ⟨rfl, ⟨nofun, nofun⟩, fun _ => ⟨?_, ?_⟩, nofun, nofun, nofun,
    rfl⟩
  · exact Bool.eq_false_iff.2 hident
  · exact Bool.eq_false_iff.2 hname

theorem scanned_plus (h : c.char = '+') :
    Scanned c s (if numberBehindSign (c :: s) then scanNumeric (c :: s) else (.delim '+', s)) := by
  obtain ⟨d, line⟩ := c
  obtain rfl : d = '+' := h
  refine scanned_ite (fun hnumber => .numeric hnumber) fun hnumber => ?_
  exact .delim (Bool.eq_false_iff.2 hnumber) rfl rfl rfl (standsAlone_of_sign (by simp) s)

theorem scanned_minus (h : c.char = '-') : Scanned c s (scanMinus c s) := by
  obtain ⟨d, line⟩ := c
  obtain rfl : d = '-' := h
  refine scanned_ite (fun hnumber => .numeric hnumber) fun hnumber => ?_
  refine scanned_ite (fun hclose => .commentClose hclose) fun hclose => ?_
  have hnumber := Bool.eq_false_iff.2 hnumber
  have hclose := Bool.eq_false_iff.2 hclose
  refine scanned_ite (fun hident => .identLike hnumber hclose hident) fun hident => ?_
  exact .delim hnumber hclose rfl (Bool.eq_false_iff.2 hident) (standsAlone_of_sign (by simp) s)

theorem scanned_point (h : c.char = '.') :
    Scanned c s (if (peek? s).any isDigit then scanNumeric (c :: s) else (.delim '.', s)) := by
  obtain ⟨d, line⟩ := c
  obtain rfl : d = '.' := h
  have hpoint : atNumber (⟨'.', line⟩ :: s) = (peek? s).any isDigit := Bool.or_false _
  refine scanned_ite (fun hdigit => .numeric (hpoint.trans hdigit)) fun hdigit => ?_
  exact .delim (hpoint.trans (Bool.eq_false_iff.2 hdigit)) rfl rfl rfl (standsAlone_of_sign (by simp) s)

theorem scanned_at (h : c.char = '@') :
    Scanned c s (if atIdent s then (.atKeyword (scanName s).1, (scanName s).2)
      else (.delim '@', s)) := by
  refine scanned_ite (fun hname => .atKeyword h hname) fun hident => ?_
  obtain ⟨d, line⟩ := c
  obtain rfl : d = '@' := h
  exact .delim rfl rfl rfl rfl
    ⟨rfl, ⟨nofun, nofun⟩, nofun, nofun, nofun, fun _ => Bool.eq_false_iff.2 hident, rfl⟩

theorem atIdent_backslash (line : Nat) (s : Source) :
    atIdent (⟨'\\', line⟩ :: s) = !atLineEnd s := by
  rw [atIdent, second?_cons]
  rfl

theorem scanned_backslash (h : c.char = '\\') :
    Scanned c s (if atLineEnd s then (.delim '\\', s) else scanIdentLike (c :: s)) := by
  obtain ⟨d, line⟩ := c
  obtain rfl : d = '\\' := h
  refine scanned_ite (fun hend => ?_) fun hend => ?_
  · refine .delim rfl rfl rfl ?_ (standsAlone_of_sign (by simp) s)
    rw [atIdent_backslash, hend]
    rfl
  · refine .identLike rfl rfl ?_
    rw [atIdent_backslash, Bool.eq_false_iff.2 hend]
    rfl

/-- Characters that none of the cases names. -/
structure Unnamed (d : Char) : Prop where
  /-- No digit. -/
  digit : isDigit d = false
  /-- None of the signs that begin longer tokens. -/
  ne : d ≠ '#' ∧ d ≠ '+' ∧ d ≠ '-' ∧ d ≠ '.' ∧ d ≠ '@' ∧ d ≠ '\\'

theorem Unnamed.atNumber {d : SourceChar} (h : Unnamed d.char) (s : Source) :
    Css.atNumber (d :: s) = false := by
  obtain ⟨-, hplus, hminus, hpoint, -, -⟩ := h.ne
  rw [atNumber_cons, h.digit, beq_false_of_ne hplus, beq_false_of_ne hminus,
    beq_false_of_ne hpoint]
  rfl

theorem Unnamed.atCommentClose {d : SourceChar} (h : Unnamed d.char) (s : Source) :
    Css.atCommentClose (d :: s) = false := by
  obtain ⟨-, -, hminus, -, -, -⟩ := h.ne
  rw [Css.atCommentClose, beq_false_of_ne hminus, Bool.false_and]

/-- Where no hyphen or backslash stands, the next character tells whether an identifier starts. -/
theorem atIdent_eq_startsName {d : SourceChar} (hminus : d.char ≠ '-') (hback : d.char ≠ '\\')
    (s : Source) : atIdent (d :: s) = startsName d.char := by
  unfold atIdent
  split
  · rename_i heq
    cases heq
  · rename_i heq
    exact absurd (Option.some.inj heq) hminus
  · rename_i heq
    exact absurd (Option.some.inj heq) hback
  · rename_i heq
    rw [← Option.some.inj heq]

theorem Unnamed.atIdent {d : SourceChar} (h : Unnamed d.char) (s : Source) :
    Css.atIdent (d :: s) = startsName d.char := by
  obtain ⟨-, -, hminus, -, -, hbackslash⟩ := h.ne
  exact atIdent_eq_startsName hminus hbackslash s

/-- Every token is read in one of the cases. -/
theorem scanned_scanToken (c : SourceChar) (s : Source) : Scanned c s (scanToken c s) := by
  unfold scanToken
  refine scanned_ite .blank fun hspace => ?_
  refine scanned_ite (fun h => .string (by simpa using h)) fun hquote => ?_
  refine scanned_ite (fun h => scanned_hash (beq_iff_eq.1 h)) fun hhash => ?_
  refine scanned_ite (fun h => ?_) fun hcompare => ?_
  · rw [Bool.and_eq_true, beq_iff_eq] at h
    exact .compare h.1 h.2
  refine scanned_ite (fun h => scanned_plus (beq_iff_eq.1 h)) fun hplus => ?_
  refine scanned_ite (fun h => scanned_minus (beq_iff_eq.1 h)) fun hminus => ?_
  refine scanned_ite (fun h => scanned_point (beq_iff_eq.1 h)) fun hpoint => ?_
  refine scanned_ite (fun h => ?_) fun hcomment => ?_
  · rw [Bool.and_eq_true, beq_iff_eq, beq_iff_eq] at h
    exact .comment h.1 h.2
  refine scanned_ite (fun h => .numeric ?_) fun hdigit => ?_
  · rw [atNumber_cons, h]
    rfl
  refine scanned_ite .commentOpen fun hopen => ?_
  refine scanned_ite (fun h => scanned_at (beq_iff_eq.1 h)) fun hat => ?_
  refine scanned_ite (fun h => scanned_backslash (beq_iff_eq.1 h)) fun hbackslash => ?_
  have hunnamed : Unnamed c.char := by
    simp only [beq_iff_eq, Bool.not_eq_true] at hhash hplus hminus hpoint hat hbackslash hdigit
    exact ⟨hdigit, hhash, hplus, hminus, hpoint, hat, hbackslash⟩
  have hnumber := hunnamed.atNumber s
  have hclose := hunnamed.atCommentClose s
  have hident := hunnamed.atIdent s
  refine scanned_ite (fun h => .identLike hnumber hclose (hident.trans h)) fun hstart => ?_
  cases hsign : signToken? c.char with
  | some t => exact .sign hsign
  | none =>
      refine .delim hnumber hclose (Bool.eq_false_iff.2 hopen)
        (hident.trans (Bool.eq_false_iff.2 hstart)) ⟨Bool.eq_false_iff.2 hspace, ?_, ?_, ?_, ?_, ?_, hsign⟩
      · simpa using hquote
      · exact fun h => absurd (beq_iff_eq.2 h) hhash
      · intro h hequals
        rw [h, hequals] at hcompare
        exact hcompare rfl
      · intro h hstar
        rw [h, hstar] at hcomment
        exact hcomment rfl
      · exact fun h => absurd (beq_iff_eq.2 h) hat

/-! ## One case at a time -/

/-- The characters that begin neither a number nor a name: white space, quotes, and signs. -/
def signChars : List Char :=
  [' ', '\t', '\n', '\x0c', '\r', '\x22', '\x27', '#', '$', '*', '^', '|', '~', '/', '<', '@', '(',
    ')', '[', ']', '\x7b', '\x7d', ',', ':', ';']

theorem signChars_begin : ∀ d ∈ signChars,
    startsName d = false ∧ isDigit d = false ∧ d ≠ '.' ∧ d ≠ '+' ∧ d ≠ '-' ∧ d ≠ '\\' := by
  have hall : (signChars.all fun d => !startsName d && !isDigit d && d != '.' && d != '+' &&
      d != '-' && d != '\\') = true := rfl
  intro d hd
  simpa only [Bool.and_eq_true, Bool.not_eq_true', bne_iff_ne, and_assoc, ne_eq] using
    List.all_eq_true.1 hall d hd

theorem mem_signChars_of_isSpace {d : Char} (h : isSpace d = true) : d ∈ signChars := by
  simp only [isSpace, isLineEnd, Bool.or_eq_true, beq_iff_eq] at h
  rcases h with (rfl | rfl) | ((rfl | rfl) | rfl) <;> decide

theorem mem_signChars_of_isComparison {d : Char} (h : isComparison d = true) : d ∈ signChars := by
  simp only [isComparison, Bool.or_eq_true, beq_iff_eq] at h
  rcases h with (((rfl | rfl) | rfl) | rfl) | rfl <;> decide

theorem mem_signChars_of_signToken? {d : Char} {t : Token} (h : signToken? d = some t) :
    d ∈ signChars := by
  unfold signToken? at h
  split at h <;> first | decide | cases h

theorem notMem_signChars_of_atNumber (h : atNumber (c :: s) = true) : c.char ∉ signChars := by
  intro hmem
  obtain ⟨-, hdigit, hpoint, hplus, hminus, -⟩ := signChars_begin _ hmem
  rw [atNumber_cons, hdigit, beq_false_of_ne hpoint, beq_false_of_ne hplus,
    beq_false_of_ne hminus] at h
  cases h

theorem notMem_signChars_of_atIdent (h : atIdent (c :: s) = true) : c.char ∉ signChars := by
  intro hmem
  obtain ⟨hstart, -, -, -, hminus, hbackslash⟩ := signChars_begin _ hmem
  unfold atIdent at h
  split at h
  · cases h
  · rename_i heq
    exact hminus (Option.some.inj heq)
  · rename_i heq
    exact hbackslash (Option.some.inj heq)
  · rename_i heq
    rw [← Option.some.inj heq, hstart] at h
    cases h

theorem atCommentClose_of_atNumber (h : atNumber (c :: s) = true) :
    atCommentClose (c :: s) = false := by
  rw [atCommentClose]
  rcases hminus : c.char == '-' with _ | _
  · rfl
  · rcases hpeek : peek? s == some '-' with _ | _
    · rfl
    · rw [beq_iff_eq] at hminus hpeek
      rw [atNumber_cons, numberBehindSign, second?_cons, third?_cons, hminus, hpeek] at h
      cases h

/-- A token whose first character is none of the signs is a number, a name, the end of a comment of
a page, or that character. -/
theorem scanned_of_notMem (hc : c.char ∉ signChars) {x : Token × Source} (h : Scanned c s x) :
    atNumber (c :: s) = true ∧ x = scanNumeric (c :: s) ∨
      atCommentClose (c :: s) = true ∧ x = (.commentClose, s.drop 2) ∨
      (atNumber (c :: s) = false ∧ atCommentClose (c :: s) = false ∧ atIdent (c :: s) = true) ∧
        x = scanIdentLike (c :: s) ∨
      (atNumber (c :: s) = false ∧ atIdent (c :: s) = false) ∧ x = (.delim c.char, s) := by
  have hsign : ∀ d ∈ signChars, c.char ≠ d := by
    rintro d hd rfl
    exact hc hd
  cases h with
  | numeric h => exact .inl ⟨h, rfl⟩
  | commentClose h => exact .inr (.inl ⟨h, rfl⟩)
  | identLike hnumber hclose h => exact .inr (.inr (.inl ⟨⟨hnumber, hclose, h⟩, rfl⟩))
  | delim hnumber hclose hopen hident h => exact .inr (.inr (.inr ⟨⟨hnumber, hident⟩, rfl⟩))
  | blank h => exact absurd (mem_signChars_of_isSpace h) hc
  | string h =>
      rcases h with h | h
      · exact absurd h (hsign _ (by decide))
      · exact absurd h (hsign _ (by decide))
  | idHash h | hash h | comment h | atKeyword h => exact absurd h (hsign _ (by decide))
  | compare h => exact absurd (mem_signChars_of_isComparison h) hc
  | commentOpen h =>
      simp only [atCommentOpen, Bool.and_eq_true, beq_iff_eq] at h
      exact absurd h.1.1.1 (hsign _ (by decide))
  | sign h => exact absurd (mem_signChars_of_signToken? h) hc

theorem scanToken_numeric (h : atNumber (c :: s) = true) :
    scanToken c s = scanNumeric (c :: s) := by
  rcases scanned_of_notMem (notMem_signChars_of_atNumber h) (scanned_scanToken c s) with
    ⟨-, heq⟩ | ⟨hclose, -⟩ | ⟨⟨hnumber, -⟩, -⟩ | ⟨⟨hnumber, -⟩, -⟩
  · exact heq
  · rw [atCommentClose_of_atNumber h] at hclose
    cases hclose
  · rw [h] at hnumber
    cases hnumber
  · rw [h] at hnumber
    cases hnumber

theorem scanToken_identLike (hnumber : atNumber (c :: s) = false)
    (hclose : atCommentClose (c :: s) = false) (h : atIdent (c :: s) = true) :
    scanToken c s = scanIdentLike (c :: s) := by
  rcases scanned_of_notMem (notMem_signChars_of_atIdent h) (scanned_scanToken c s) with
    ⟨hnumber', -⟩ | ⟨hclose', -⟩ | ⟨-, heq⟩ | ⟨⟨-, hident⟩, -⟩
  · rw [hnumber] at hnumber'
    cases hnumber'
  · rw [hclose] at hclose'
    cases hclose'
  · exact heq
  · rw [h] at hident
    cases hident

/-- A sign that stands alone is a token. -/
theorem scanToken_delim (hnumber : atNumber (c :: s) = false)
    (hclose : atCommentClose (c :: s) = false) (hopen : atCommentOpen (c :: s) = false)
    (hident : atIdent (c :: s) = false) (h : StandsAlone c.char s) :
    scanToken c s = (.delim c.char, s) := by
  have hscanned := scanned_scanToken c s
  generalize scanToken c s = x at hscanned ⊢
  cases hscanned with
  | delim => rfl
  | blank h' => rw [h.space] at h'; cases h'
  | string h' => exact (h'.elim h.quote.1 h.quote.2).elim
  | idHash h' hname => rw [(h.hash h').1] at hname; cases hname
  | hash h' _ hname => rw [(h.hash h').2] at hname; cases hname
  | compare h' hequals => exact absurd hequals (h.compare h')
  | numeric h' => rw [hnumber] at h'; cases h'
  | commentClose h' => rw [hclose] at h'; cases h'
  | comment h' hstar => exact absurd hstar (h.comment h')
  | commentOpen h' => rw [hopen] at h'; cases h'
  | atKeyword h' hname => rw [h.at_ h'] at hname; cases hname
  | identLike _ _ h' => rw [hident] at h'; cases h'
  | sign h' => rw [h.sign] at h'; cases h'

end Cases

end FeatureScan.Css
