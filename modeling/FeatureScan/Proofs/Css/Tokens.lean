import FeatureScan.Proofs.Css.Seam

/-!
# Tokens up to a seam

The tokens of two texts, one behind the other, are the tokens of the first and then those of the
second, if the first ends with a sign that ends constructs. Nothing is assumed of the second text.

## Main results

* `suffix_scanToken`: every token takes at least its first character.
* `scanToken_joined`: a token in front of a guarded seam is read as if nothing stood behind the seam.
* `scanToken_reaches`: a token that takes all there is in front of it goes on to the seam at least.
* `tokens_append`: the tokens of two texts in a row.
-/

namespace FeatureScan.Css

open Source

/-! ## Numbers -/

theorem suffix_scanDigits (digits : List Nat) (s : Source) : (scanDigits digits s).2 <:+ s := by
  induction s generalizing digits with
  | nil => exact List.suffix_refl _
  | cons c s ih =>
      unfold scanDigits
      split
      · exact (ih _).trans (List.suffix_cons c s)
      · exact List.suffix_refl _

theorem scanDigits_reaches {g : Nat → Nat} {b s : Source} (digits : List Nat)
    (h : (scanDigits digits s).2 = []) : (scanDigits digits (joined g b s)).2 <:+ b := by
  induction s generalizing digits with
  | nil => exact suffix_scanDigits digits b
  | cons c s ih =>
      unfold scanDigits at h ⊢
      rw [joined_cons]
      cases hd : digitValue? c.char with
      | some d =>
          simp only [hd] at h ⊢
          exact ih _ h
      | none =>
          simp only [hd] at h
          cases h

theorem isLocal_scanDigits (digits : List Nat) : IsLocal (scanDigits digits) where
  suffix := suffix_scanDigits digits
  joined {g b s} h := by
    induction s generalizing digits with
    | nil => rw [Guarded.eq_nil h]; rfl
    | cons c s ih =>
        unfold scanDigits at h ⊢
        rw [joined_cons]
        cases hd : digitValue? c.char with
        | some d =>
            simp only [hd] at h ⊢
            exact ih _ h
        | none =>
            simp only [hd, joined_cons]
  reaches_of_ne_nil _ _ h := scanDigits_reaches digits h

theorem isLocal_scanSign : IsLocal scanSign := by
  refine isLocal_ofHead none (fun _ => none) (fun c => c == '-' || c == '+')
    (fun c s => (some (c == '-'), s)) (fun _ => isLocal_pure _) rfl ?_
  intro c s
  rw [scanSign]
  cases hm : c.char == '-' <;> cases hp : c.char == '+' <;> simp

/-- Whether a fraction starts here: a point with a digit behind it. -/
def atFraction (s : Source) : Bool := peek? s == some '.' && (second? s).any isDigit

theorem atFraction_joined {g : Nat → Nat} {b s : Source} (h : Guarded b s) :
    atFraction (joined g b s) = atFraction s := by
  unfold atFraction
  rw [peek?_joined h]
  by_cases hp : peek? s = some '.'
  · rw [second?_joined h (by rw [hp]; simp [guards, endsConstruct])]
  · rw [beq_eq_false_iff_ne.2 hp, Bool.false_and, Bool.false_and]

theorem isLocal_scanFraction : IsLocal scanFraction :=
  IsLocal.ite (p := atFraction) atFraction_joined
    ((isLocal_tail ()).bind fun _ => (isLocal_scanDigits []).map some) (isLocal_pure none)

/-- Whether a power of ten starts here: its letter, with digits behind it or behind its sign. -/
def atPower (s : Source) : Bool :=
  (peek? s).any (fun c => c == 'e' || c == 'E') &&
    ((second? s).any isDigit ||
      ((second? s).any (fun c => c == '+' || c == '-') && (third? s).any isDigit))

theorem atPower_joined {g : Nat → Nat} {b s : Source} (h : Guarded b s) :
    atPower (joined g b s) = atPower s := by
  unfold atPower
  rw [peek?_joined h]
  by_cases hp : ((peek? s).any fun c => c == 'e' || c == 'E') = true
  · have hpeek : ∀ c ∈ peek? s, guards c = false := by
      intro c hc
      rw [Option.mem_def.1 hc] at hp
      rcases (by simpa using hp : c = 'e' ∨ c = 'E') with rfl | rfl <;> rfl
    rw [second?_joined h hpeek]
    by_cases hs : ((second? s).any fun c => c == '+' || c == '-') = true
    · have hsecond : ∀ c ∈ second? s, guards c = false := by
        intro c hc
        rw [Option.mem_def.1 hc] at hs
        rcases (by simpa using hs : c = '+' ∨ c = '-') with rfl | rfl <;> rfl
      rw [third?_joined h hpeek hsecond]
    · rw [Bool.eq_false_iff.2 hs, Bool.false_and, Bool.false_and]
  · rw [Bool.eq_false_iff.2 hp, Bool.false_and, Bool.false_and]

theorem isLocal_scanPower : IsLocal scanPower :=
  IsLocal.ite (p := atPower) atPower_joined
    ((isLocal_tail ()).bind fun _ => isLocal_scanSign.bind fun sign =>
      (isLocal_scanDigits []).map fun digits =>
        some (sign == some true, digits.foldl (fun n d => 10 * n + d) 0))
    (isLocal_pure none)

/-- What follows a number: a percent sign, a unit, or nothing that belongs to it. -/
def scanMeasure (written : Written) (s : Source) : Token × Source :=
  if peek? s == some '%' then (.percentage written.percentage, s.tail)
  else if atIdent s then (.dimension written.numeral (scanName s).1, (scanName s).2)
  else (.number written.numeral, s)

theorem isLocal_scanMeasure (written : Written) : IsLocal (scanMeasure written) :=
  IsLocal.ite (p := fun s => peek? s == some '%') (fun h => by rw [peek?_joined h])
    (isLocal_tail _)
    (IsLocal.ite atIdent_joined (isLocal_scanName.map _) (isLocal_pure _))

theorem isLocal_scanNumeric : IsLocal scanNumeric :=
  isLocal_scanSign.bind fun sign => (isLocal_scanDigits []).bind fun whole =>
    isLocal_scanFraction.bind fun fraction => isLocal_scanPower.bind fun power =>
      isLocal_scanMeasure ⟨sign, whole, fraction, power⟩

/-! ## Comments and signs -/

theorem suffix_skipComment (s : Source) : skipComment s <:+ s := by
  fun_induction skipComment s with
  | case1 => exact List.suffix_refl _
  | case2 => exact List.nil_suffix
  | case3 c d s _ => exact (List.suffix_cons d s).trans (List.suffix_cons c _)
  | case4 c d s _ ih => exact ih.trans (List.suffix_cons c _)

theorem skipComment_joined {g : Nat → Nat} {b s : Source} (h : Guarded b (skipComment s)) :
    skipComment (joined g b s) = joined g b (skipComment s) := by
  fun_induction skipComment s with
  | case1 => rw [Guarded.eq_nil h]; rfl
  | case2 c => rw [Guarded.eq_nil h]; rfl
  | case3 c d s hc => rw [joined_cons, joined_cons, skipComment, if_pos hc]
  | case4 c d s hc ih => rw [joined_cons, joined_cons, skipComment, if_neg hc, ← joined_cons, ih h]

theorem skipComment_reaches {g : Nat → Nat} {b s : Source} (hs : Sealed s)
    (h : skipComment s = []) : skipComment (joined g b s) <:+ b := by
  fun_induction skipComment s with
  | case1 => exact suffix_skipComment b
  | case2 c =>
      rw [joined_cons, joined_nil]
      cases b with
      | nil => exact List.suffix_refl _
      | cons d b =>
          have hc : c.char ≠ '*' := by
            intro hc
            exact absurd rfl (hs.ne_nil (by simp [hc, guards, endsConstruct]))
          rw [skipComment, if_neg (by simp [hc])]
          exact suffix_skipComment _
  | case3 c d s hc =>
      rw [joined_cons, joined_cons, skipComment, if_pos hc, h]
      exact List.suffix_refl b
  | case4 c d s hc ih =>
      rw [joined_cons, joined_cons, skipComment, if_neg hc, ← joined_cons]
      exact ih (hs.suffix (List.suffix_cons c _)) h

theorem isLocal_skipComment (t : Token) : IsLocal fun s => (t, skipComment s) where
  suffix := suffix_skipComment
  joined h := Prod.ext rfl (skipComment_joined h)
  reaches_of_ne_nil hs _ h := skipComment_reaches hs h

theorem isLocal_scanHash : IsLocal scanHash :=
  IsLocal.ite atIdent_joined (isLocal_scanName.map _)
    (IsLocal.ite (p := fun s => (peek? s).any fun c => isDigit c || c == '-')
      (fun h => by rw [peek?_joined h]) (isLocal_scanName.map _) (isLocal_pure _))

/-! ## Every token takes a character -/

theorem suffix_scanName_of_atIdent {c : SourceChar} {s : Source} (h : atIdent (c :: s) = true) :
    (scanName (c :: s)).2 <:+ s := by
  have hfrom : ∀ fuel name s', s' <:+ s → (scanNameFrom fuel name s').2 <:+ s :=
    fun fuel name s' hs => (suffix_scanNameFrom fuel name s').trans hs
  rw [scanName, scanNameFrom]
  by_cases hc : (isPlainNameChar c.char || isWide c.char) = true
  · rw [if_pos hc]
    exact hfrom _ _ _ (List.suffix_refl s)
  · rw [if_neg hc]
    by_cases hb : (c.char == '\\') = true
    · rw [if_pos hb]
      have hl : atLineEnd s = false := by
        rw [atIdent, second?_cons] at h
        simpa [peek?, beq_iff_eq.1 hb, atLineEnd] using h
      rw [hl, if_neg Bool.false_ne_true]
      exact hfrom _ _ _ (isLocal_scanEscape.suffix s)
    · rw [if_neg hb]
      by_cases hz : c.char.toNat = 0
      · rw [if_pos hz]
        exact hfrom _ _ _ (List.suffix_refl s)
      · exfalso
        simp only [atIdent, peek?] at h
        split at h
        · simp_all
        · rename_i heq
          rw [Option.some.inj heq] at hc
          exact hc (by decide)
        · simp_all
        · rename_i heq
          rw [← Option.some.inj heq] at h
          simp_all [startsName, isPlainNameChar, Char.isAlphanum]

theorem suffix_scanIdentLike_of_atIdent {c : SourceChar} {s : Source}
    (h : atIdent (c :: s) = true) : (scanIdentLike (c :: s)).2 <:+ s := by
  rw [scanIdentLike_eq]
  exact ((isLocal_scanCall _).suffix _).trans (suffix_scanName_of_atIdent h)

theorem suffix_scanDigits_of_isDigit {c : SourceChar} {s : Source} (h : isDigit c.char = true) :
    (scanDigits [] (c :: s)).2 <:+ s := by
  obtain ⟨d, hd⟩ := Option.isSome_iff_exists.1 h
  simp only [scanDigits, hd]
  exact (isLocal_scanDigits _).suffix s

/-- Where a number starts: behind a sign, at a point with a digit behind it, or at a digit. -/
theorem suffix_scanNumeric {c : SourceChar} {s : Source}
    (h : c.char = '-' ∨ c.char = '+' ∨ atFraction (c :: s) = true ∨ isDigit c.char = true) :
    (scanNumeric (c :: s)).2 <:+ s := by
  have hfrom : ∀ sign digits s', (scanDigits digits s').2 <:+ s →
      (scanMeasure ⟨sign, (scanDigits digits s').1, (scanFraction (scanDigits digits s').2).1,
        (scanPower (scanFraction (scanDigits digits s').2).2).1⟩
        (scanPower (scanFraction (scanDigits digits s').2).2).2).2 <:+ s :=
    fun sign digits s' hs =>
      (((isLocal_scanMeasure _).suffix _).trans (isLocal_scanPower.suffix _)).trans
        ((isLocal_scanFraction.suffix _).trans hs)
  change (scanMeasure ⟨(scanSign (c :: s)).1, (scanDigits [] (scanSign (c :: s)).2).1,
    (scanFraction (scanDigits [] (scanSign (c :: s)).2).2).1,
    (scanPower (scanFraction (scanDigits [] (scanSign (c :: s)).2).2).2).1⟩
    (scanPower (scanFraction (scanDigits [] (scanSign (c :: s)).2).2).2).2).2 <:+ s
  by_cases hm : c.char = '-'
  · have : scanSign (c :: s) = (some true, s) := by simp [scanSign, hm]
    rw [this]
    exact hfrom _ _ _ ((isLocal_scanDigits []).suffix s)
  by_cases hp : c.char = '+'
  · have : scanSign (c :: s) = (some false, s) := by simp [scanSign, hp]
    rw [this]
    exact hfrom _ _ _ ((isLocal_scanDigits []).suffix s)
  have hsign : scanSign (c :: s) = (none, c :: s) := by simp [scanSign, hm, hp]
  rw [hsign]
  by_cases hd : isDigit c.char = true
  · exact hfrom _ _ _ (suffix_scanDigits_of_isDigit hd)
  · have hf : atFraction (c :: s) = true := by simpa [hm, hp, hd] using h
    have hdigits : scanDigits [] (c :: s) = ([], c :: s) := by
      have hnone : digitValue? c.char = none := by simpa [isDigit] using hd
      simp only [scanDigits, hnone, List.reverse_nil]
    have hfraction : (scanFraction (c :: s)).2 <:+ s := by
      change (if atFraction (c :: s) then
        (some (scanDigits [] s).1, (scanDigits [] s).2) else (none, c :: s)).2 <:+ s
      rw [if_pos hf]
      exact (isLocal_scanDigits []).suffix s
    rw [hdigits]
    exact ((isLocal_scanMeasure _).suffix _).trans ((isLocal_scanPower.suffix _).trans hfraction)

theorem suffix_ite {p : Prop} [Decidable p] {x y : Token × Source} {s : Source}
    (hx : p → x.2 <:+ s) (hy : ¬p → y.2 <:+ s) : (if p then x else y).2 <:+ s := by
  split
  · exact hx ‹_›
  · exact hy ‹_›

theorem suffix_scanMinus {c : SourceChar} {s : Source} (hc : c.char = '-') :
    (scanMinus c s).2 <:+ s := by
  unfold scanMinus
  refine suffix_ite (fun _ => suffix_scanNumeric (Or.inl hc)) fun _ => ?_
  refine suffix_ite (fun _ => List.drop_suffix 2 s) fun _ => ?_
  exact suffix_ite suffix_scanIdentLike_of_atIdent fun _ => List.suffix_refl s

/-- What a token leaves is a suffix of what follows its first character. -/
theorem suffix_scanToken (c : SourceChar) (s : Source) : (scanToken c s).2 <:+ s := by
  unfold scanToken
  refine suffix_ite (fun _ => List.dropWhile_suffix _) fun _ => ?_
  refine suffix_ite (fun _ => (isLocal_scanString _).suffix s) fun _ => ?_
  refine suffix_ite (fun _ => isLocal_scanHash.suffix s) fun _ => ?_
  refine suffix_ite (fun _ => suffix_tail s) fun _ => ?_
  refine suffix_ite (fun hc => suffix_ite
    (fun _ => suffix_scanNumeric (Or.inr (Or.inl (beq_iff_eq.1 hc))))
    fun _ => List.suffix_refl s) fun _ => ?_
  refine suffix_ite (fun hc => suffix_scanMinus (beq_iff_eq.1 hc)) fun hm => ?_
  refine suffix_ite (fun hc => suffix_ite (fun hd => ?_) fun _ => List.suffix_refl s) fun _ => ?_
  · have hf : atFraction (c :: s) = true := by
      rw [atFraction, second?_cons, hd]
      simpa [peek?] using hc
    exact suffix_scanNumeric (Or.inr (Or.inr (Or.inl hf)))
  refine suffix_ite (fun _ => (suffix_skipComment s.tail).trans (suffix_tail s)) fun _ => ?_
  refine suffix_ite (fun hd => suffix_scanNumeric (Or.inr (Or.inr (Or.inr hd)))) fun _ => ?_
  refine suffix_ite (fun _ => List.drop_suffix 3 s) fun _ => ?_
  refine suffix_ite (fun _ => suffix_ite (fun _ => isLocal_scanName.suffix s)
    fun _ => List.suffix_refl s) fun _ => ?_
  refine suffix_ite (fun hb => suffix_ite (fun _ => List.suffix_refl s) fun hl => ?_) fun hb => ?_
  · refine suffix_scanIdentLike_of_atIdent ?_
    rw [atIdent, second?_cons]
    simpa [peek?, beq_iff_eq.1 hb, atLineEnd] using hl
  refine suffix_ite (fun hn => suffix_scanIdentLike_of_atIdent ?_) fun _ => ?_
  · unfold atIdent
    split
    · rename_i heq
      cases heq
    · rename_i heq
      exact absurd (beq_iff_eq.2 (Option.some.inj heq)) hm
    · rename_i heq
      exact absurd (beq_iff_eq.2 (Option.some.inj heq)) hb
    · rename_i heq
      rw [← Option.some.inj heq]
      exact hn
  · split <;> exact List.suffix_refl s

/-! ## One token in front of a seam -/

section Joined

variable {g : Nat → Nat} {b s : Source} {c : SourceChar}

theorem ite_joined {p : Prop} [Decidable p] {x y x' y' : Token × Source}
    (hx : Guarded b x.2 → x' = (x.1, joined g b x.2))
    (hy : Guarded b y.2 → y' = (y.1, joined g b y.2)) (h : Guarded b (if p then x else y).2) :
    (if p then x' else y') = ((if p then x else y).1, joined g b (if p then x else y).2) := by
  split
  · rename_i hp
    rw [if_pos hp] at h
    exact hx h
  · rename_i hp
    rw [if_neg hp] at h
    exact hy h

theorem numberBehindSign_joined (h : Guarded b s) :
    numberBehindSign (c.relined g :: joined g b s) = numberBehindSign (c :: s) := by
  unfold numberBehindSign
  simp only [second?_cons, third?_cons]
  rw [peek?_joined h]
  by_cases hp : peek? s = some '.'
  · rw [second?_joined h (by rw [hp]; simp [guards, endsConstruct])]
  · rw [beq_eq_false_iff_ne.2 hp, Bool.false_and, Bool.false_and]

/-- Whether two given characters that are no guards come next. -/
theorem peek?_second?_joined {x y : Char} (h : Guarded b s) (hx : guards x = false) :
    (peek? (joined g b s) == some x && second? (joined g b s) == some y) =
      (peek? s == some x && second? s == some y) := by
  rw [peek?_joined h]
  by_cases hp : peek? s = some x
  · rw [second?_joined h (by rw [hp]; simpa using hx)]
  · rw [beq_eq_false_iff_ne.2 hp, Bool.false_and, Bool.false_and]

theorem commentOpen_joined (h : Guarded b s) (q : Bool) :
    (q && peek? (joined g b s) == some '!' && second? (joined g b s) == some '-' &&
        third? (joined g b s) == some '-') =
      (q && peek? s == some '!' && second? s == some '-' && third? s == some '-') := by
  rw [Bool.and_assoc q, Bool.and_assoc q (peek? s == some '!'), peek?_second?_joined h rfl]
  cases hp : peek? s == some '!' && second? s == some '-' with
  | true =>
      have hfirst := beq_iff_eq.1 (Bool.and_eq_true_iff.1 hp).1
      have hsecond := beq_iff_eq.1 (Bool.and_eq_true_iff.1 hp).2
      rw [third?_joined h (by rw [hfirst]; simp [guards, endsConstruct])
        (by rw [hsecond]; simp [guards, endsConstruct])]
  | false => rw [Bool.and_false, Bool.false_and, Bool.false_and]

theorem scanMinus_joined (hs : Guarded b s) (hcs : Guarded b (c :: s))
    (h : Guarded b (scanMinus c s).2) :
    scanMinus (c.relined g) (joined g b s) =
      ((scanMinus c s).1, joined g b (scanMinus c s).2) := by
  unfold scanMinus at h ⊢
  rw [numberBehindSign_joined hs, peek?_second?_joined hs rfl, ← joined_cons, atIdent_joined hcs]
  exact ite_joined isLocal_scanNumeric.joined
    (ite_joined (fun h => Prod.ext rfl (drop_joined 2 h))
      (ite_joined isLocal_scanIdentLike.joined (fun _ => rfl))) h

/-- A token in front of a guarded seam is read as if nothing stood behind the seam. -/
theorem scanToken_joined (h : Guarded b (scanToken c s).2) :
    scanToken (c.relined g) (joined g b s) =
      ((scanToken c s).1, joined g b (scanToken c s).2) := by
  have hs : Guarded b s := h.of_suffix (suffix_scanToken c s)
  have hcs : Guarded b (c :: s) := hs.of_suffix (List.suffix_cons c s)
  unfold scanToken at h ⊢
  rw [numberBehindSign_joined hs, commentOpen_joined hs, peek?_joined hs,
    atIdent_joined hs, atLineEnd_joined hs, ← joined_cons]
  refine ite_joined (fun h => Prod.ext rfl (dropWhile_joined isSpace h)) ?_ h
  refine ite_joined (isLocal_scanString _).joined ?_
  refine ite_joined isLocal_scanHash.joined ?_
  refine ite_joined (fun h => Prod.ext rfl (tail_joined h)) ?_
  refine ite_joined (ite_joined isLocal_scanNumeric.joined fun _ => rfl) ?_
  refine ite_joined (scanMinus_joined hs hcs) ?_
  refine ite_joined (ite_joined isLocal_scanNumeric.joined fun _ => rfl) ?_
  refine ite_joined ((isLocal_tail ()).bind fun _ => isLocal_skipComment .comment).joined ?_
  refine ite_joined isLocal_scanNumeric.joined ?_
  refine ite_joined (fun h => Prod.ext rfl (drop_joined 3 h)) ?_
  refine ite_joined (ite_joined (isLocal_scanName.map Token.atKeyword).joined fun _ => rfl) ?_
  refine ite_joined (ite_joined (fun _ => rfl) isLocal_scanIdentLike.joined) ?_
  refine ite_joined isLocal_scanIdentLike.joined ?_
  intro _
  cases signToken? c.char <;> rfl

theorem ite_reaches {p : Prop} [Decidable p] {x y x' y' : Token × Source}
    (hx : x.2 = [] → x'.2 <:+ b) (hy : y.2 = [] → y'.2 <:+ b) (h : (if p then x else y).2 = []) :
    (if p then x' else y').2 <:+ b := by
  split
  · rename_i hp
    rw [if_pos hp] at h
    exact hx h
  · rename_i hp
    rw [if_neg hp] at h
    exact hy h

theorem scanMinus_reaches (hs : Sealed s) (hcs : Sealed (c :: s)) (hne : s ≠ [])
    (h : (scanMinus c s).2 = []) : (scanMinus (c.relined g) (joined g b s)).2 <:+ b := by
  unfold scanMinus at h ⊢
  rw [numberBehindSign_joined (hs.guarded hne b), peek?_second?_joined (hs.guarded hne b) rfl,
    ← joined_cons, atIdent_joined (hcs.guarded (List.cons_ne_nil c s) b)]
  exact ite_reaches (isLocal_scanNumeric.reaches hcs)
    (ite_reaches (drop_reaches 2)
      (ite_reaches (isLocal_scanIdentLike.reaches hcs) fun h => absurd h hne)) h

/-- A token that goes on to the end of a source goes on to what stands behind it. -/
theorem scanToken_reaches (hs : Sealed s) (hne : s ≠ []) (h : (scanToken c s).2 = []) :
    (scanToken (c.relined g) (joined g b s)).2 <:+ b := by
  have hg : Guarded b s := hs.guarded hne b
  have hcs : Sealed (c :: s) := fun d hd => hs d (by rwa [List.getLast?_cons_of_ne_nil hne] at hd)
  have hempty : ∀ {t : Token}, (t, s).2 = [] → (t, joined g b s).2 <:+ b := fun h => absurd h hne
  unfold scanToken at h ⊢
  rw [numberBehindSign_joined hg, commentOpen_joined hg, peek?_joined hg, atIdent_joined hg,
    atLineEnd_joined hg, ← joined_cons]
  refine ite_reaches (fun h => absurd (eq_nil_of_dropWhile_isSpace hs h) hne) ?_ h
  refine ite_reaches ((isLocal_scanString _).reaches hs) ?_
  refine ite_reaches (isLocal_scanHash.reaches hs) ?_
  refine ite_reaches tail_reaches ?_
  refine ite_reaches (ite_reaches (isLocal_scanNumeric.reaches hcs) hempty) ?_
  refine ite_reaches (scanMinus_reaches hs hcs hne) ?_
  refine ite_reaches (ite_reaches (isLocal_scanNumeric.reaches hcs) hempty) ?_
  refine ite_reaches (((isLocal_tail ()).bind fun _ => isLocal_skipComment .comment).reaches hs) ?_
  refine ite_reaches (isLocal_scanNumeric.reaches hcs) ?_
  refine ite_reaches (drop_reaches 3) ?_
  refine ite_reaches (ite_reaches ((isLocal_scanName.map Token.atKeyword).reaches hs) hempty) ?_
  refine ite_reaches (ite_reaches hempty (isLocal_scanIdentLike.reaches hcs)) ?_
  refine ite_reaches (isLocal_scanIdentLike.reaches hcs) ?_
  intro h
  cases hc : signToken? c.char with
  | some t =>
      rw [hc] at h
      exact absurd h hne
  | none =>
      rw [hc] at h
      exact absurd h hne

end Joined

/-! ## Tokens that end constructs -/

/-- Whether a token ends a construct at its level. -/
def Token.endsConstruct : Token → Bool
  | .semicolon => true
  | .closeBracket .curly => true
  | _ => false

theorem scanToken_semicolon {c : SourceChar} (h : c.char = ';') (s : Source) :
    scanToken c s = (.semicolon, s) := by
  obtain ⟨c, line⟩ := c
  subst h
  rfl

theorem scanToken_curly {c : SourceChar} (h : c.char = '\x7d') (s : Source) :
    scanToken c s = (.closeBracket .curly, s) := by
  obtain ⟨c, line⟩ := c
  subst h
  rfl

/-- A sign that ends constructs is a token of its own. -/
theorem scanToken_of_endsConstruct {c : SourceChar} (h : endsConstruct c.char = true) :
    ∃ t, ∀ s, scanToken c s = (t, s) := by
  rcases (by simpa [endsConstruct] using h : c.char = ';' ∨ c.char = '\x7d') with h | h
  · exact ⟨_, scanToken_semicolon h⟩
  · exact ⟨_, scanToken_curly h⟩

/-- Whether a token is a word, a text, an address or a number: what has a scanner of its own. -/
def Token.isLiteral : Token → Bool
  | .ident _ | .function _ | .string _ | .badString _ | .url _ | .badUrl _ => true
  | .number _ | .percentage _ | .dimension _ _ => true
  | _ => false

theorem endsConstruct_of_isLiteral {t : Token} (h : t.isLiteral = true) :
    t.endsConstruct = false := by
  cases t <;> first | rfl | cases h

theorem isLiteral_scanString (quote : Char) (s : Source) :
    (scanString quote s).1.isLiteral = true := by
  rw [scanString]
  fun_induction scanStringFrom quote (s.length + 1) [] s <;> first | rfl | assumption

theorem isLiteral_scanUrlFrom (start : Source) (fuel : Nat) (value : List Char) (s : Source) :
    (scanUrlFrom start fuel value s).1.isLiteral = true := by
  fun_induction scanUrlFrom start fuel value s with
  | case3 fuel value c s _ =>
      unfold endUrl
      split
      · rfl
      · split <;> rfl
  | case7 _ _ _ _ _ _ _ _ _ _ _ _ ih => exact ih
  | case8 _ _ _ _ _ _ _ _ _ ih => exact ih
  | case9 _ _ _ _ _ _ _ _ _ ih => exact ih
  | case1 | case2 | case4 | case5 | case6 => rfl

theorem isLiteral_scanIdentLike (s : Source) :
    (scanIdentLike s).1.isLiteral = true := by
  rw [scanIdentLike_eq, scanCall]
  split
  · split
    · unfold scanUrl?
      dsimp only
      split
      · rfl
      · split
        · rfl
        · split
          · rfl
          · exact isLiteral_scanUrlFrom _ _ _ _
    · rfl
  · rfl

theorem isLiteral_scanMeasure (written : Written) (s : Source) :
    (scanMeasure written s).1.isLiteral = true := by
  unfold scanMeasure
  split
  · rfl
  · split <;> rfl

theorem isLiteral_scanNumeric (s : Source) : (scanNumeric s).1.isLiteral = true :=
  isLiteral_scanMeasure _ _

theorem not_ends_ite {p : Prop} [Decidable p] {x y : Token × Source}
    (hx : x.1.endsConstruct = false) (hy : y.1.endsConstruct = false) :
    (if p then x else y).1.endsConstruct = false := by
  split
  · exact hx
  · exact hy

theorem ends_of_ite {p : Prop} [Decidable p] {x y : Token × Source} {q : Prop}
    (hx : x.1.endsConstruct = false) (hy : y.1.endsConstruct = true → q)
    (h : (if p then x else y).1.endsConstruct = true) : q := by
  split at h
  · rw [hx] at h
    cases h
  · exact hy h

theorem endsConstruct_of_signToken? {c : Char} {t : Token} (h : signToken? c = some t)
    (ht : t.endsConstruct = true) : endsConstruct c = true := by
  unfold signToken? at h
  split at h <;> cases h <;> first | rfl | cases ht

/-- Only the signs themselves are tokens that end constructs. -/
theorem endsConstruct_char_of_token {c : SourceChar} {s : Source}
    (h : (scanToken c s).1.endsConstruct = true) : endsConstruct c.char = true := by
  have hstring : (scanString c.char s).1.endsConstruct = false :=
    endsConstruct_of_isLiteral (isLiteral_scanString _ s)
  have hnumber : ∀ s, (scanNumeric s).1.endsConstruct = false :=
    fun s => endsConstruct_of_isLiteral (isLiteral_scanNumeric s)
  have hword : ∀ s, (scanIdentLike s).1.endsConstruct = false :=
    fun s => endsConstruct_of_isLiteral (isLiteral_scanIdentLike s)
  unfold scanToken at h
  refine ends_of_ite rfl (fun h => ?_) h
  refine ends_of_ite hstring (fun h => ?_) h
  refine ends_of_ite (not_ends_ite rfl (not_ends_ite rfl rfl)) (fun h => ?_) h
  refine ends_of_ite rfl (fun h => ?_) h
  refine ends_of_ite (not_ends_ite (hnumber _) rfl) (fun h => ?_) h
  refine ends_of_ite (not_ends_ite (hnumber _) (not_ends_ite rfl
    (not_ends_ite (hword _) rfl))) (fun h => ?_) h
  refine ends_of_ite (not_ends_ite (hnumber _) rfl) (fun h => ?_) h
  refine ends_of_ite rfl (fun h => ?_) h
  refine ends_of_ite (hnumber _) (fun h => ?_) h
  refine ends_of_ite rfl (fun h => ?_) h
  refine ends_of_ite (not_ends_ite rfl rfl) (fun h => ?_) h
  refine ends_of_ite (not_ends_ite rfl (hword _)) (fun h => ?_) h
  refine ends_of_ite (hword _) (fun h => ?_) h
  cases hc : signToken? c.char with
  | some t =>
      rw [hc] at h
      exact endsConstruct_of_signToken? hc h
  | none =>
      rw [hc] at h
      cases h

/-! ## All tokens -/

/-- The line on which a source goes on, where `last` is the line of its end. -/
def lineAt (last : Nat) (s : Source) : Nat := (s.head?.map SourceChar.line).getD last

theorem tokensFrom_eq_append (last n : Nat) (ts : List PlacedToken) (s : Source) :
    tokensFrom last n ts s = ts.reverse ++ tokensFrom last n [] s := by
  induction n generalizing ts s with
  | zero => simp [tokensFrom]
  | succ n ih =>
      cases s with
      | nil => simp [tokensFrom]
      | cons c s =>
          simp only [tokensFrom]
          rw [ih, ih [_], List.reverse_cons, List.append_assoc]
          rfl

theorem tokensFrom_cons (last n : Nat) (c : SourceChar) (s : Source) :
    tokensFrom last (n + 1) [] (c :: s) =
      ⟨(scanToken c s).1, lineAt last (scanToken c s).2⟩ ::
        tokensFrom last n [] (scanToken c s).2 := by
  simp only [tokensFrom]
  rw [tokensFrom_eq_append]
  rfl

theorem guards_of_endsConstruct {c : Char} (h : endsConstruct c = true) : guards c = true := by
  rw [guards, h, Bool.true_or]

/-- If the last token ends a construct, so does the last character. -/
theorem guarded_of_tokensFrom (b : Source) {last n : Nat} {s : Source} {t : PlacedToken}
    (hn : s.length < n) (ht : (tokensFrom last n [] s).getLast? = some t)
    (he : t.token.endsConstruct = true) : Guarded b s := by
  induction n generalizing s with
  | zero => simp at hn
  | succ n ih =>
      cases s with
      | nil => simp [tokensFrom] at ht
      | cons c s =>
          have hle := (suffix_scanToken c s).length_le
          rw [tokensFrom_cons] at ht
          generalize hr : (scanToken c s).2 = r at ht hle
          cases r with
          | nil =>
              have hnil : tokensFrom last n [] [] = [] := by cases n <;> rfl
              rw [hnil, List.getLast?_singleton] at ht
              obtain rfl := Option.some.inj ht
              have hc := endsConstruct_char_of_token he
              obtain ⟨t', hscan⟩ := scanToken_of_endsConstruct hc
              rw [hscan] at hr
              subst hr
              exact Or.inr ⟨c, rfl, guards_of_endsConstruct hc⟩
          | cons d r =>
              have hlt : (d :: r).length < n := by
                simp only [List.length_cons] at hle hn ⊢
                omega
              obtain ⟨n, rfl⟩ : ∃ k, n = k + 1 := ⟨n - 1, by simp at hlt; omega⟩
              rw [tokensFrom_cons, List.getLast?_cons_cons, ← tokensFrom_cons] at ht
              have hsuf := suffix_scanToken c s
              rw [hr] at hsuf
              exact (ih hlt ht).of_suffix (hsuf.trans (List.suffix_cons c s))

/-- The tokens do not depend on how lines are numbered. -/
theorem tokensFrom_relined (g : Nat → Nat) (last n : Nat) (s : Source) :
    tokensFrom (g last) n [] (s.map (SourceChar.relined g)) =
      (tokensFrom last n [] s).map fun t => ⟨t.token, g t.line⟩ := by
  induction n generalizing s with
  | zero => rfl
  | succ n ih =>
      cases s with
      | nil => rfl
      | cons c s =>
          have hj := scanToken_joined (g := g) (b := []) (c := c) (s := s) (Or.inl rfl)
          simp only [joined, List.append_nil] at hj
          rw [List.map_cons, tokensFrom_cons, tokensFrom_cons, hj, ih, List.map_cons]
          congr 2
          cases (scanToken c s).2 <;> rfl

/-- Room beyond the length of the source changes nothing. -/
theorem tokensFrom_room {last n m : Nat} {s : Source} (hn : s.length < n) (hm : s.length < m) :
    tokensFrom last n [] s = tokensFrom last m [] s := by
  induction n generalizing s m with
  | zero => simp at hn
  | succ n ih =>
      obtain ⟨m, rfl⟩ : ∃ k, m = k + 1 := ⟨m - 1, by omega⟩
      cases s with
      | nil => rfl
      | cons c s =>
          have hle := (suffix_scanToken c s).length_le
          simp only [List.length_cons] at hn hm
          rw [tokensFrom_cons, tokensFrom_cons, ih (m := m) (by omega) (by omega)]

/-- The tokens of two sources in a row, the first of which ends with a token that ends constructs. -/
theorem tokensFrom_append {last last' n m : Nat} {s b : Source} {t : PlacedToken}
    (hn : s.length < n) (ht : (tokensFrom last n [] s).getLast? = some t)
    (he : t.token.endsConstruct = true) (hm : (s ++ b).length < m) (hline : lineAt last' b = last) :
    tokensFrom last' m [] (s ++ b) = tokensFrom last n [] s ++ tokensFrom last' m [] b := by
  induction n generalizing s m with
  | zero => simp at hn
  | succ n ih =>
      obtain ⟨m, rfl⟩ : ∃ k, m = k + 1 := ⟨m - 1, by omega⟩
      cases s with
      | nil => simp [tokensFrom] at ht
      | cons c s =>
          have hle := (suffix_scanToken c s).length_le
          rw [List.cons_append, tokensFrom_cons, tokensFrom_cons, List.cons_append]
          rw [tokensFrom_cons] at ht
          simp only [List.cons_append, List.length_cons, List.length_append] at hn hm
          generalize hr : scanToken c s = p at ht hle
          obtain ⟨t', r⟩ := p
          dsimp only at ht hle ⊢
          cases r with
          | nil =>
              have hnil : tokensFrom last n [] [] = [] := by cases n <;> rfl
              rw [hnil, List.getLast?_singleton] at ht
              obtain rfl := Option.some.inj ht
              have hc : endsConstruct c.char = true :=
                endsConstruct_char_of_token (by rw [hr]; exact he)
              obtain ⟨t'', hscan⟩ := scanToken_of_endsConstruct hc
              rw [hscan] at hr ⊢
              cases hr
              dsimp only [List.nil_append]
              rw [hnil, List.nil_append, hline,
                tokensFrom_room (n := m) (m := m + 1) (s := b) (by omega) (by omega)]
              rfl
          | cons d r =>
              have hlt : (d :: r).length < n := by omega
              obtain ⟨n, rfl⟩ : ∃ k, n = k + 1 := ⟨n - 1, by simp at hlt; omega⟩
              rw [tokensFrom_cons, List.getLast?_cons_cons, ← tokensFrom_cons] at ht
              have hg : Guarded b (d :: r) := guarded_of_tokensFrom b hlt ht he
              have hj := scanToken_joined (g := id) (b := b) (c := c) (s := s) (by rw [hr]; exact hg)
              rw [joined_id, hr, joined_id] at hj
              have hm' : (d :: r ++ b).length < m := by
                simp only [List.length_append]
                omega
              rw [show scanToken c (s ++ b) = (t', d :: r ++ b) from hj, ih hlt ht hm',
                tokensFrom_room (n := m) (m := m + 1) (s := b) (by omega) (by omega)]
              rfl

/-! ## Lines -/

namespace Source

theorem placesFrom_eq_append (placed : Source) (line : Nat) (cs : List Char) :
    placesFrom placed line cs =
      (placed.reverse ++ (placesFrom [] line cs).1, (placesFrom [] line cs).2) := by
  induction cs generalizing placed line with
  | nil => simp [placesFrom]
  | cons c cs ih =>
      rw [placesFrom, placesFrom, ih, ih [_]]
      simp

theorem placesFrom_cons (line : Nat) (c : Char) (cs : List Char) :
    placesFrom [] line (c :: cs) =
      (⟨c, line⟩ :: (placesFrom [] (if endsLine c cs then line + 1 else line) cs).1,
        (placesFrom [] (if endsLine c cs then line + 1 else line) cs).2) := by
  rw [placesFrom, placesFrom_eq_append]
  rfl

/-- Lines are counted on behind a text that does not end with half a line end. -/
theorem placesFrom_append {line : Nat} {as : List Char} (bs : List Char)
    (h : ∀ c ∈ as.getLast?, c ≠ '\r') :
    placesFrom [] line (as ++ bs) =
      ((placesFrom [] line as).1 ++ (placesFrom [] (placesFrom [] line as).2 bs).1,
        (placesFrom [] (placesFrom [] line as).2 bs).2) := by
  induction as generalizing line with
  | nil => rfl
  | cons a as ih =>
      have hends : endsLine a (as ++ bs) = endsLine a as := by
        cases as with
        | nil =>
            have ha : a ≠ '\r' := h a rfl
            rw [endsLine, endsLine, beq_eq_false_iff_ne.2 ha, Bool.false_and, Bool.false_and]
        | cons b as => rfl
      have has : ∀ c ∈ as.getLast?, c ≠ '\r' := by
        intro c hc
        cases as with
        | nil => cases hc
        | cons b as => exact h c (by rwa [List.getLast?_cons_cons])
      rw [List.cons_append, placesFrom_cons, placesFrom_cons, hends, ih has]
      rfl

/-- Counting from a later line moves every line by as much. -/
theorem placesFrom_add (line k : Nat) (cs : List Char) :
    placesFrom [] (line + k) cs =
      ((placesFrom [] line cs).1.map (SourceChar.relined (· + k)), (placesFrom [] line cs).2 + k) := by
  induction cs generalizing line with
  | nil => rfl
  | cons c cs ih =>
      rw [placesFrom_cons, placesFrom_cons]
      split
      · rw [show line + k + 1 = line + 1 + k by omega, ih]
        rfl
      · rw [ih]
        rfl

theorem le_line_placesFrom (line : Nat) (cs : List Char) : line ≤ (placesFrom [] line cs).2 := by
  induction cs generalizing line with
  | nil => exact Nat.le_refl _
  | cons c cs ih =>
      rw [placesFrom_cons]
      dsimp only
      split
      · exact Nat.le_trans (Nat.le_succ line) (ih _)
      · exact ih _

theorem lineAt_places (line : Nat) (cs : List Char) :
    lineAt (placesFrom [] line cs).2 (placesFrom [] line cs).1 = line := by
  cases cs with
  | nil => rfl
  | cons c cs => rw [placesFrom_cons]; rfl

end Source

/-- A token with its line moved. -/
def PlacedToken.relined (g : Nat → Nat) (t : PlacedToken) : PlacedToken := ⟨t.token, g t.line⟩

/-- How many lines of a text have ended. -/
def lineEnds (cs : List Char) : Nat := (tokens cs).2 - 1

/-- The tokens of two texts in a row, the first of which ends with a token that ends constructs: the
tokens of the first, and those of the second on lines counted on. -/
theorem tokens_append {as : List Char} (bs : List Char) {t : PlacedToken}
    (ht : (tokens as).1.getLast? = some t) (he : t.token.endsConstruct = true) :
    tokens (as ++ bs) =
      ((tokens as).1 ++ (tokens bs).1.map (PlacedToken.relined (· + lineEnds as)),
        (tokens bs).2 + lineEnds as) := by
  have hlast : ∀ c ∈ as.getLast?, c ≠ '\r' := by
    rintro c hc rfl
    have hend : (places as).1.getLast?.map SourceChar.char = some '\r' := by
      rw [← List.getLast?_map, places_chars]
      exact hc
    rcases guarded_of_tokensFrom [⟨' ', 0⟩] (Nat.lt_succ_self _) ht he with h | ⟨d, hd, hends⟩
    · cases h
    · have hd : (places as).1.getLast? = some d := hd
      rw [hd] at hend
      rw [show d.char = '\r' from Option.some.inj hend] at hends
      cases hends
  have hline : 1 + lineEnds as = (places as).2 := by
    have := le_line_placesFrom 1 as
    change 1 + ((placesFrom [] 1 as).2 - 1) = (placesFrom [] 1 as).2
    omega
  have hplaces : places (as ++ bs) =
      ((places as).1 ++ (places bs).1.map (SourceChar.relined (· + lineEnds as)),
        (places bs).2 + lineEnds as) := by
    rw [places, placesFrom_append bs hlast]
    change ((places as).1 ++ (placesFrom [] (places as).2 bs).1, (placesFrom [] (places as).2 bs).2) = _
    rw [← hline, placesFrom_add]
    rfl
  have hat : lineAt ((places bs).2 + lineEnds as)
      ((places bs).1.map (SourceChar.relined (· + lineEnds as))) = (places as).2 := by
    have := lineAt_places (1 + lineEnds as) bs
    rwa [placesFrom_add, hline] at this
  have hroom : (places bs).1.length <
      ((places as).1 ++ (places bs).1.map (SourceChar.relined (· + lineEnds as))).length + 1 := by
    rw [List.length_append, List.length_map]
    omega
  unfold tokens at ht ⊢
  rw [hplaces]
  dsimp only
  rw [tokensFrom_append (Nat.lt_succ_self _) ht he (Nat.lt_succ_self _) hat,
    tokensFrom_relined (· + lineEnds as),
    tokensFrom_room (m := (places bs).1.length + 1) hroom (Nat.lt_succ_self _)]
  rfl

end FeatureScan.Css
