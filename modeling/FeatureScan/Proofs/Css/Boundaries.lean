import FeatureScan.Proofs.Css.Found
import FeatureScan.Proofs.Css.Importance
import FeatureScan.Proofs.Css.Outline

/-!
# Token boundaries of what is extracted

A value, selector or prelude is written from a stretch of the tokens of a source, without the comments.
Its text is read as these tokens again, white space aside, if the tokens on both sides of a comment keep
apart without it. The other conditions are about tokens that are malformed, that the pen takes for
something else, or whose text differs from what the source had.

## Main results

* `Stretch`, `exists_stretch`: what a part of a source is written from.
* `Separate`: when it reads back.
* `extract_readsBack`: everything extracted reads back.
-/

namespace FeatureScan.Css

/-! ## Stretches of a source -/

/-- Tokens `us` that stand in a source as `ts`, with the comments left out, and with the closing tokens
that are missing at the end of the source. -/
structure Stretch (source : List Char) (us ts : List Token) (kinds : List Bracket) : Prop where
  /-- The source has them in a row. -/
  infixed : ts <:+: tokenList source
  /-- Comments are left out, closing tokens added. -/
  eq : us = withoutRemarks ts ++ closers kinds
  /-- Closing tokens are missing only at the end of the source. -/
  closed : kinds = [] ∨ ts <:+ tokenList source

section Stretches

variable {source : List Char} {us ts : List Token} {kinds : List Bracket}

theorem exists_prefix_closers {as bs : List Token} (h : closers kinds = as ++ bs) :
    ∃ kinds', as = closers kinds' := by
  obtain ⟨ks, -, -, hks, -⟩ := List.map_eq_append_iff.1 h
  exact ⟨ks, hks.symm⟩

/-- Tokens in a row in what is nested from a source are a stretch of it. -/
theorem exists_stretch
    (h : us <:+: withoutRemarks (tokenList source) ++ closers kinds) :
    ∃ ts kinds, Stretch source us ts kinds := by
  obtain ⟨front, back, h⟩ := h
  rw [List.append_assoc] at h
  rcases List.append_eq_append_iff.1 h with ⟨behind, hsource, hus⟩ | ⟨inner, -, hclosers⟩
  · obtain ⟨s₁, s₂, hsplit, -, rfl⟩ := List.filter_eq_append_iff.1 hsource
    rcases List.append_eq_append_iff.1 hus with ⟨rest, hrest, -⟩ | ⟨missing, hmissing, hclosers⟩
    · obtain ⟨t₁, t₂, rfl, rfl, -⟩ := List.filter_eq_append_iff.1 hrest
      refine ⟨t₁, [], ⟨s₁, t₂, ?_⟩, (List.append_nil _).symm, .inl rfl⟩
      rw [hsplit, List.append_assoc]
    · obtain ⟨kinds', rfl⟩ := exists_prefix_closers hclosers
      exact ⟨s₂, kinds', ⟨s₁, [], by rw [hsplit, List.append_nil]⟩, hmissing, .inr ⟨s₁, hsplit.symm⟩⟩
  · obtain ⟨kinds₁, kinds₂, -, -, hinner⟩ := List.map_eq_append_iff.1 hclosers
    obtain ⟨kinds', rfl⟩ := exists_prefix_closers hinner
    exact ⟨[], kinds', List.nil_infix, rfl, .inr (List.nil_suffix)⟩

end Stretches

/-! ## Tokens with comments between them -/

/-- Whether a token is white space or a comment. -/
def Token.isGap : Token → Bool
  | .blank | .comment => true
  | _ => false

/-- Whether a token keeps apart from the next, if only comments stand between them. Where there is no
comment either, this is looked at in front of a number, whose text may begin with another character than
the source had, and behind a name `--`, which may have had an escape. -/
def Token.keepsApart (t : Token) (ts : List Token) : Bool :=
  match ts.dropWhile (· == .comment) with
  | [] => true
  | u :: _ =>
    t.isGap || u.isGap || !(ts.head? == some .comment || u.isNumeric || t == .ident "--") ||
      t.endsBefore u.text

/-- Whether tokens begin with a `<` and a `!` that are followed by what makes them open a comment of a
page. -/
def opensComment (ts : List Token) : Bool :=
  match withoutRemarks ts with
  | s :: t :: u :: _ => s == .delim '<' && t == .delim '!' && Text.hasFront ['-', '-'] u.text
  | _ => false

/-- Whether all tokens keep apart from the next without the comments between them. -/
def keepApart : List Token → Bool
  | [] => true
  | t :: ts => t.keepsApart ts && !opensComment (t :: ts) && keepApart ts

/-- What is asked of the tokens of a stretch, comments included, for its text to read back. -/
structure Separate (ts : List Token) : Prop where
  /-- No string or address is malformed, and no line end follows a backslash. -/
  whole : ∀ t ∈ ts, t.isGap = false → t.isWhole = true
  /-- None ends in an escaped blank or bracket. -/
  firm : ∀ t ∈ ts, t.isGap = false → t.isFirm = true
  /-- The text of a number reads back. -/
  alone : ∀ t ∈ ts, t.isNumeric = true → tokenList t.text = [t]
  /-- Without the comments they keep apart. -/
  apart : keepApart ts = true

instance (ts : List Token) : Decidable (Separate ts) :=
  decidable_of_iff
    ((∀ t ∈ ts, t.isGap = false → t.isWhole = true) ∧ (∀ t ∈ ts, t.isGap = false → t.isFirm = true) ∧
      (∀ t ∈ ts, t.isNumeric = true → tokenList t.text = [t]) ∧ keepApart ts = true)
    ⟨fun ⟨whole, firm, alone, apart⟩ => ⟨whole, firm, alone, apart⟩,
      fun h => ⟨h.whole, h.firm, h.alone, h.apart⟩⟩

section Remarks

variable {ts : List Token} {t u v : Token}

theorem isGap_eq_false (hblank : t ≠ .blank) (hcomment : t ≠ .comment) : t.isGap = false := by
  cases t with
  | blank => exact absurd rfl hblank
  | comment => exact absurd rfl hcomment
  | _ => rfl

theorem mem_of_mem_withoutRemarks (h : t ∈ withoutRemarks ts) : t ∈ ts ∧ t ≠ .comment :=
  (List.mem_filter.1 h).imp_right bne_iff_ne.1

/-- Where a token stands with the comments left out, it stands behind comments. -/
theorem exists_remarks {us : List Token} (h : withoutRemarks ts = t :: us) :
    ∃ remarks rest, ts = remarks ++ t :: rest ∧ (∀ c ∈ remarks, c = .comment) ∧
      withoutRemarks rest = us := by
  obtain ⟨remarks, rest, hts, hremarks, -, hrest⟩ := List.filter_eq_cons_iff.1 h
  refine ⟨remarks, rest, hts, fun c hc => ?_, hrest⟩
  have hc := hremarks c hc
  rwa [Bool.not_eq_true, bne_eq_false_iff_eq] at hc

theorem exists_segment {us : List Token} (h : us <:+: withoutRemarks ts) :
    ∃ seg, seg <:+: ts ∧ withoutRemarks seg = us := by
  obtain ⟨front, back, h⟩ := h
  rw [List.append_assoc] at h
  obtain ⟨s₁, s₂, rfl, -, hrest⟩ := List.filter_eq_append_iff.1 h.symm
  obtain ⟨t₁, t₂, rfl, hus, -⟩ := List.filter_eq_append_iff.1 hrest
  exact ⟨t₁, ⟨s₁, t₂, List.append_assoc _ _ _⟩, hus⟩

/-- Tokens next to each other without the comments have only comments between them. -/
theorem exists_remarks_between (h : [t, u] <:+: withoutRemarks ts) :
    ∃ remarks, t :: (remarks ++ [u]) <:+: ts ∧ ∀ c ∈ remarks, c = .comment := by
  obtain ⟨seg, hseg, hus⟩ := exists_segment h
  obtain ⟨front, rest, rfl, -, hrest⟩ := exists_remarks hus
  obtain ⟨remarks, back, rfl, hremarks, -⟩ := exists_remarks hrest
  refine ⟨remarks, List.IsInfix.trans ⟨front, back, ?_⟩ hseg, hremarks⟩
  simp

theorem exists_remarks_between_three (h : [t, u, v] <:+: withoutRemarks ts) :
    ∃ remarks remarks', t :: (remarks ++ u :: (remarks' ++ [v])) <:+: ts ∧
      ∀ c ∈ remarks ++ remarks', c = .comment := by
  obtain ⟨seg, hseg, hus⟩ := exists_segment h
  obtain ⟨front, rest, rfl, -, hrest⟩ := exists_remarks hus
  obtain ⟨remarks, rest, rfl, hremarks, hrest⟩ := exists_remarks hrest
  obtain ⟨remarks', back, rfl, hremarks', -⟩ := exists_remarks hrest
  refine ⟨remarks, remarks', List.IsInfix.trans ⟨front, back, ?_⟩ hseg, fun c hc => ?_⟩
  · simp
  · exact (List.mem_append.1 hc).elim (hremarks c) (hremarks' c)

theorem keepsApart_of_suffix (h : keepApart ts = true) {rest : List Token} (hsuffix : t :: rest <:+ ts) :
    t.keepsApart rest = true ∧ opensComment (t :: rest) = false := by
  induction ts with
  | nil => simp at hsuffix
  | cons v ts ih =>
      rw [keepApart, Bool.and_eq_true, Bool.and_eq_true, Bool.not_eq_true'] at h
      rcases List.suffix_cons_iff.1 hsuffix with heq | hsuffix
      · obtain ⟨rfl, rfl⟩ := List.cons.inj heq
        exact h.1
      · exact ih h.2 hsuffix

/-- Tokens with comments between them end before the next. -/
theorem endsBefore_of_keepApart (h : keepApart ts = true) {remarks : List Token}
    (hin : t :: (remarks ++ [u]) <:+: ts) (hremarks : ∀ c ∈ remarks, c = .comment)
    (ht : t.isGap = false) (hu : u.isGap = false)
    (hasked : remarks ≠ [] ∨ u.isNumeric = true ∨ t = .ident "--") : t.endsBefore u.text = true := by
  obtain ⟨front, back, hsplit⟩ := hin
  have hsuffix : t :: (remarks ++ u :: back) <:+ ts := ⟨front, by rw [← hsplit]; simp⟩
  obtain ⟨hkeeps, -⟩ := keepsApart_of_suffix h hsuffix
  have hcomment : (u == .comment) = false := by
    refine beq_false_of_ne ?_
    rintro rfl
    cases hu
  have hdrop : (remarks ++ u :: back).dropWhile (· == .comment) = u :: back := by
    rw [List.dropWhile_append_of_pos fun c hc => beq_iff_eq.2 (hremarks c hc), List.dropWhile_cons,
      hcomment]
    rfl
  have hyes : ((remarks ++ u :: back).head? == some .comment || u.isNumeric || t == .ident "--") =
      true := by
    rw [Bool.or_eq_true, Bool.or_eq_true, beq_iff_eq, beq_iff_eq, or_assoc]
    refine hasked.imp_left fun hne => ?_
    cases remarks with
    | nil => exact absurd rfl hne
    | cons c remarks => exact congrArg some (hremarks c List.mem_cons_self)
  rw [Token.keepsApart, hdrop] at hkeeps
  dsimp only at hkeeps
  rwa [ht, hu, hyes] at hkeeps

theorem not_hasFront_of_keepApart (h : keepApart ts = true) {remarks remarks' : List Token}
    (hin : .delim '<' :: (remarks ++ .delim '!' :: (remarks' ++ [u])) <:+: ts)
    (hremarks : ∀ c ∈ remarks ++ remarks', c = .comment) (hu : u ≠ .comment) :
    Text.hasFront ['-', '-'] u.text = false := by
  obtain ⟨front, back, hsplit⟩ := hin
  have hsuffix : .delim '<' :: (remarks ++ .delim '!' :: (remarks' ++ u :: back)) <:+ ts :=
    ⟨front, by rw [← hsplit]; simp⟩
  obtain ⟨-, hopens⟩ := keepsApart_of_suffix h hsuffix
  have hnone : ∀ {cs : List Token}, (∀ c ∈ cs, c = .comment) → withoutRemarks cs = [] := by
    intro cs hcs
    refine List.filter_eq_nil_iff.2 fun c hc => ?_
    rw [hcs c hc]
    decide
  have hkept : withoutRemarks (.delim '<' :: (remarks ++ .delim '!' :: (remarks' ++ u :: back))) =
      .delim '<' :: .delim '!' :: u :: withoutRemarks back := by
    rw [withoutRemarks_cons (t := .delim '<') nofun, withoutRemarks_append,
      withoutRemarks_cons (t := .delim '!') nofun,
      withoutRemarks_append, withoutRemarks_cons hu, hnone fun c hc => hremarks c (by simp [hc]),
      hnone fun c hc => hremarks c (by simp [hc])]
    rfl
  rwa [opensComment, hkept] at hopens

/-- White space is found with and without the comments, if no comment follows it. -/
theorem dropWhile_blank_withoutRemarks {us : List Token} (h : ts.dropWhile (· == .blank) = u :: us)
    (hu : u ≠ .comment) :
    (withoutRemarks ts).dropWhile (· == .blank) = u :: withoutRemarks us := by
  induction ts with
  | nil => cases h
  | cons t ts ih =>
      rw [List.dropWhile_cons] at h
      split at h
      · rename_i hblank
        rw [beq_iff_eq.1 hblank, withoutRemarks_cons (t := .blank) nofun]
        exact ih h
      · rename_i hblank
        obtain ⟨rfl, rfl⟩ := List.cons.inj h
        rw [withoutRemarks_cons hu, List.dropWhile_cons, if_neg hblank]

/-- Tokens in a row the last of which closes no bracket are not among the closing tokens. -/
theorem infix_of_closers (as : List Token) {us : List Token} {kinds : List Bracket}
    (h : as ++ [u] <:+: us ++ closers kinds) (hu : ∀ kind, u ≠ .closeBracket kind) :
    as ++ [u] <:+: us := by
  have hclosers : u ∉ closers kinds := by
    intro hmem
    obtain ⟨kind, -, heq⟩ := List.mem_map.1 hmem
    exact hu kind heq.symm
  rcases List.infix_append_iff.1 h with h | h | ⟨l₁, l₂, heq, h₁, h₂⟩
  · exact h
  · exact absurd (h.subset (by simp)) hclosers
  · rcases List.eq_nil_or_concat l₂ with rfl | ⟨l₂, b, rfl⟩
    · rw [heq, List.append_nil]
      exact h₁.isInfix
    · rw [List.concat_eq_append, ← List.append_assoc] at heq
      obtain ⟨-, hlast⟩ := List.append_inj' heq rfl
      rw [List.concat_eq_append, ← hlast] at h₂
      exact absurd (h₂.subset (by simp)) hclosers

end Remarks

/-! ## A stretch that reads back -/

section Reading

variable {source : List Char} {ts : List Token} {kinds : List Bracket} {cs : List Component}

theorem Stretch.sound (h : Stretch source (unnest cs) ts kinds) : ∀ t ∈ unnest cs, t.Sound := by
  intro t ht
  rw [h.eq] at ht
  rcases List.mem_append.1 ht with ht | ht
  · exact sound_of_mem_tokenList (h.infixed.subset (mem_of_mem_withoutRemarks ht).1)
  · obtain ⟨kind, -, rfl⟩ := List.mem_map.1 ht
    trivial

/-- A function that a quote must follow has its bracket closed behind the quote, so both are in the
stretch. -/
theorem Stretch.quotesUrls (h : Stretch source (unnest cs) ts kinds) (hformed : isFormed cs = true)
    (hwhole : ∀ t ∈ ts, t.isGap = false → t.isWhole = true) : QuotesUrls (unnest cs) := by
  intro as t bs hsplit hword
  obtain ⟨kind, hkind⟩ := exists_closeBracket hformed hsplit (opens_of_isUrlWord hword)
  rw [h.eq] at hsplit
  have hclosers : t ∉ closers kinds := by
    intro hmem
    obtain ⟨kind, -, rfl⟩ := List.mem_map.1 hmem
    cases hword
  obtain ⟨m, hm, rfl⟩ : ∃ m, withoutRemarks ts = as ++ t :: m ∧ bs = m ++ closers kinds := by
    rcases List.append_eq_append_iff.1 hsplit.symm with ⟨m, hm, hbs⟩ | ⟨m, -, hbs⟩
    · cases m with
      | nil => exact absurd (by rw [← hbs.trans (List.nil_append _)]; simp) hclosers
      | cons u m =>
          obtain ⟨rfl, rfl⟩ := List.cons.inj hbs
          exact ⟨m, hm, rfl⟩
    · exact absurd (by rw [hbs]; simp) hclosers
  obtain ⟨p, q, rfl, -, hq⟩ := List.filter_eq_append_iff.1 hm
  obtain ⟨remarks, rest, rfl, -, rfl⟩ := exists_remarks hq
  by_cases hall : ∀ b ∈ rest, b = .blank
  · -- Only a missing bracket could end the function, and then the source would end in front of the quote.
    have hkinds : kinds ≠ [] := by
      rintro rfl
      rcases List.mem_append.1 hkind with hkind | hkind
      · cases hall _ (mem_of_mem_withoutRemarks hkind).1
      · cases hkind
    obtain ⟨front, hsource⟩ := h.closed.resolve_left hkinds
    have hbehind : tokenList source = (front ++ p ++ remarks) ++ t :: rest := by
      rw [← hsource]
      simp only [List.append_assoc]
    obtain ⟨u, us, hdrop, hquoted⟩ := exists_isQuoted_behind hbehind hword
    have hu : u ∈ rest := (List.dropWhile_suffix _).subset (by rw [hdrop]; exact List.mem_cons_self)
    rw [hall u hu] at hquoted
    cases hquoted
  · obtain ⟨b, hb, hblank⟩ : ∃ b ∈ rest, b ≠ .blank := by simpa using hall
    obtain ⟨v, vs, hfirst⟩ := exists_dropWhile_blank hb hblank
    have hrest := hfirst []
    rw [List.append_nil, List.append_nil] at hrest
    obtain ⟨front, back, hsource⟩ := h.infixed
    have hbehind : tokenList source = (front ++ p ++ remarks) ++ t :: (rest ++ back) := by
      rw [← hsource]
      simp only [List.append_assoc, List.cons_append]
    obtain ⟨u, us, hdrop, hquoted⟩ := exists_isQuoted_behind hbehind hword
    rw [hfirst] at hdrop
    obtain ⟨rfl, -⟩ := List.cons.inj hdrop
    have hv : v ∈ rest := (List.dropWhile_suffix _).subset (by rw [hrest]; exact List.mem_cons_self)
    have hcomment : v ≠ .comment := by
      rintro rfl
      cases hquoted
    refine ⟨v, withoutRemarks vs ++ closers kinds, ?_, ?_⟩
    · rw [List.dropWhile_append, dropWhile_blank_withoutRemarks hrest hcomment]
      rfl
    · have hvwhole := hwhole v (by simp [hv])
      cases v with
      | string value => rfl
      | badString value => cases hvwhole rfl
      | _ => cases hquoted

/-- The tokens of a stretch keep apart in the text, if those do that only a comment separates. -/
theorem Stretch.faithful (h : Stretch source (unnest cs) ts kinds) (hformed : isFormed cs = true)
    (hseparate : Separate ts) : Faithful (unnest cs) := by
  have hsound := h.sound
  have hurls := h.quotesUrls hformed hseparate.whole
  have hmem : ∀ t ∈ unnest cs, (t ∈ ts ∧ t ≠ .comment) ∨ ∃ kind, t = .closeBracket kind := by
    intro t ht
    rw [h.eq] at ht
    refine (List.mem_append.1 ht).imp mem_of_mem_withoutRemarks fun ht => ?_
    obtain ⟨kind, -, rfl⟩ := List.mem_map.1 ht
    exact ⟨kind, rfl⟩
  have hwhole : ∀ t ∈ unnest cs, t.isWhole = true := by
    intro t ht
    rcases hmem t ht with ⟨ht, hcomment⟩ | ⟨kind, rfl⟩
    · by_cases hblank : t = .blank
      · rw [hblank]
        rfl
      · exact hseparate.whole t ht (isGap_eq_false hblank hcomment)
    · rfl
  refine ⟨⟨hwhole, fun t u hin ht hu => ?_, fun u hin => ?_, hurls⟩, fun t ht hblank => ?_,
    ⟨hsound, fun t ht hnumeric => ?_⟩⟩
  · have htmem : t ∈ unnest cs := hin.subset List.mem_cons_self
    by_cases hcloses : ∃ kind, u = .closeBracket kind
    · obtain ⟨kind, rfl⟩ := hcloses
      refine endsBefore_of_quiet (hsound t htmem) (hwhole t htmem) ht ?_ (isQuiet_closeBracket kind)
      refine Bool.eq_false_iff.2 fun hword => ?_
      obtain ⟨as, bs, hsplit⟩ := hin
      obtain ⟨v, vs, hdrop, hquote⟩ := hurls as t (.closeBracket kind :: bs)
        (by rw [← hsplit, List.append_assoc]; rfl) hword
      obtain ⟨rfl, -⟩ := List.cons.inj hdrop
      cases kind <;> cases hquote
    · rw [h.eq] at hin htmem
      have hinside : [t, u] <:+: withoutRemarks ts :=
        infix_of_closers [t] hin (not_exists.1 hcloses)
      have htgap := isGap_eq_false ht
        (mem_of_mem_withoutRemarks (hinside.subset List.mem_cons_self)).2
      have hugap := isGap_eq_false hu (mem_of_mem_withoutRemarks (hinside.subset (by simp))).2
      obtain ⟨remarks, hin, hremarks⟩ := exists_remarks_between hinside
      by_cases hasked : remarks ≠ [] ∨ u.isNumeric = true ∨ t = .ident "--"
      · exact endsBefore_of_keepApart hseparate.apart hin hremarks htgap hugap hasked
      · rw [not_or, not_or, not_not, Bool.not_eq_true] at hasked
        obtain ⟨rfl, hnumeric, hname⟩ := hasked
        exact endsBefore_of_adjacent (hin.trans h.infixed)
          (hseparate.whole t (hin.subset List.mem_cons_self) htgap)
          (hseparate.whole u (hin.subset (by simp)) hugap) ht hu hnumeric fun heq => absurd heq hname
  · by_cases hcloses : ∃ kind, u = .closeBracket kind
    · obtain ⟨kind, rfl⟩ := hcloses
      cases kind <;> rfl
    · rw [h.eq] at hin
      have hinside := infix_of_closers [.delim '<', .delim '!'] hin (not_exists.1 hcloses)
      obtain ⟨remarks, remarks', hin, hremarks⟩ := exists_remarks_between_three hinside
      exact not_hasFront_of_keepApart hseparate.apart hin hremarks
        (mem_of_mem_withoutRemarks (hinside.subset (by simp))).2
  · rcases hmem t ht with ⟨ht, hcomment⟩ | ⟨kind, rfl⟩
    · exact hseparate.firm t ht (isGap_eq_false hblank hcomment)
    · exact isFirm_closeBracket kind
  · rcases hmem t ht with ⟨ht, -⟩ | ⟨kind, rfl⟩
    · exact hseparate.alone t ht hnumeric
    · cases hnumeric

end Reading

/-! ## Where a part stands -/

/-- The tokens of a block are in a row in what is around it, and its groups are formed. -/
theorem unnest_blockAt? {root body : Body} {spot : Spot} (h : root.blockAt? spot = some body)
    (hformed : isFormed root.content = true) :
    unnest body.content <:+: unnest root.content ∧ isFormed body.content = true := by
  induction spot generalizing root with
  | nil =>
      obtain rfl := Option.some.inj h
      exact ⟨List.infix_refl _, hformed⟩
  | cons i spot ih =>
      rw [Body.blockAt?] at h
      split at h
      · rename_i opener line content endLine hindex
        have hmem := List.mem_of_getElem? hindex
        have hgroup := isFormed_of_mem hformed _ hmem
        rw [Component.isFormed, Bool.and_eq_true] at hgroup
        obtain ⟨hrow, hbody⟩ := ih h hgroup.2
        refine ⟨hrow.trans (List.IsInfix.trans ?_ (unnest_infix_of_mem hmem)), hbody⟩
        exact ⟨[opener], [.closeBracket .curly], by rw [Component.unnest]; rfl⟩
      · cases h

/-- Components that end a block of a source, in which `room` further levels of nesting are allowed. -/
def StandsIn (source : String) (room : Nat) (cs : List Component) : Prop :=
  ∃ spot body, (Body.ofText source.toList).blockAt? spot = some body ∧
    spot.length + room = nestingLimit ∧ cs <:+ body.content

/-- The text of components `part` is read as the stretch of a source that they are, white space and
comments aside, if nothing of it is left out and its tokens keep apart. -/
def ReadsBack (source : String) (room : Nat) (part : List Component) (text : String) : Prop :=
  ∃ ts kinds, Stretch source.toList (unnest part) ts kinds ∧
    (fits part room = true → Separate ts →
      withoutBlanks (tokenList text.toList) = withoutBlanks (withoutRemarks ts ++ closers kinds))

section Parts

variable {source : String} {room : Nat} {cs part : List Component}

theorem StandsIn.exists_stretch (h : StandsIn source room cs) (hpart : part <:+: cs) :
    (∃ ts kinds, Stretch source.toList (unnest part) ts kinds) ∧ isFormed part = true := by
  obtain ⟨spot, body, hbody, -, hsuffix⟩ := h
  obtain ⟨front, back, hsplit⟩ := hpart.trans hsuffix.isInfix
  obtain ⟨hrow, hformed⟩ := unnest_blockAt? hbody (isFormed_content source.toList)
  rw [unnest_content, ← hsplit, unnest_append, unnest_append] at hrow
  rw [← hsplit, isFormed_append, isFormed_append, Bool.and_eq_true, Bool.and_eq_true] at hformed
  exact ⟨Css.exists_stretch (List.IsInfix.trans ⟨_, _, rfl⟩ hrow), hformed.1.2⟩

theorem StandsIn.readsBack_phrase (h : StandsIn source room cs) (hpart : part <:+: cs) :
    ReadsBack source room part (phraseText room part) := by
  obtain ⟨⟨ts, kinds, hstretch⟩, hformed⟩ := h.exists_stretch hpart
  refine ⟨ts, kinds, hstretch, fun hfits hseparate => ?_⟩
  rw [tokenList_phraseText hfits hformed (hstretch.faithful hformed hseparate), hstretch.eq]

theorem StandsIn.readsBack_value (h : StandsIn source room cs) {v : List Component} (hv : v <:+: cs)
    (hplain : PlainImportance (beforeImportance v)) :
    ReadsBack source room (beforeImportance v) (valueText room v) := by
  obtain ⟨⟨ts, kinds, hstretch⟩, hformed⟩ :=
    h.exists_stretch ((prefix_beforeImportance v).isInfix.trans hv)
  refine ⟨ts, kinds, hstretch, fun hfits hseparate => ?_⟩
  rw [tokenList_valueText hfits hformed hplain (hstretch.faithful hformed hseparate), hstretch.eq]

end Parts

/-! ## Everything extracted -/

/-- What a finding was written from, and that it reads back. -/
def Event.ReadsBack (source : String) : Event → Prop
  | .declaration d => ∃ room name line cs l v, StandsIn source room (.leaf (.ident name) line :: cs) ∧
      dropBlanks cs = .leaf .colon l :: v ∧
      d.property = (if isCustomProperty name then name else Text.asciiLower name) ∧
      d.value = valueText room (beforeSemicolon v) ∧
      (PlainImportance (beforeImportance (beforeSemicolon v)) →
        Css.ReadsBack source room (beforeImportance (beforeSemicolon v)) d.value)
  | .selector s => ∃ room cs, StandsIn source room cs ∧
      s.selector = phraseText room (beforeClosing cs) ∧
      Css.ReadsBack source room (beforeClosing cs) s.selector
  | .atRule a => ∃ room name line cs, StandsIn source room (.leaf (.atKeyword name) line :: cs) ∧
      a.keyword = Text.asciiLower name ∧ a.prelude = phraseText room (beforeClosing cs) ∧
      Css.ReadsBack source room (beforeClosing cs) a.prelude
  | .notice _ => True

theorem law_readsBack (source : String) :
    Law (StandsIn source) (fun _ => True) (Event.ReadsBack source) where
  suffix := by
    rintro room cs ds ⟨spot, body, hbody, hroom, hcs⟩ hds
    exact ⟨spot, body, hbody, hroom, hds.trans hcs⟩
  content := by
    rintro room front opener line content endLine rest ⟨spot, body, hbody, hroom, before, hcs⟩
    refine ⟨spot ++ [(before ++ front).length], ⟨content, endLine⟩, ?_, ?_, List.suffix_refl _⟩
    · rw [blockAt?_append, hbody, Option.bind_some, Body.blockAt?, ← hcs, ← List.append_assoc,
        List.getElem?_append_right (Nat.le_refl _), Nat.sub_self]
      rfl
    · rw [List.length_append, List.length_singleton]
      omega
  notice _ := trivial
  item := by
    intro room setting c rest hstands _ endLine item hitem
    cases finds_of_nextStep hitem with
    | atRule name line cs block? =>
        have hpart : beforeClosing rest <:+: .leaf (.atKeyword name) line :: rest :=
          (List.takeWhile_prefix _).isInfix.trans (List.suffix_cons _ _).isInfix
        exact ⟨fun _ => trivial, room, name, line, rest, hstands, rfl, rfl,
          hstands.readsBack_phrase hpart⟩
    | rule line body =>
        exact fun block => ⟨trivial, room, c :: rest, hstands, rfl,
          hstands.readsBack_phrase (List.takeWhile_prefix _).isInfix⟩
    | @declaration name line l _ v hcolon _ =>
        have hv : v <:+ rest := by
          have hsuffix := suffix_dropBlanks rest
          rw [hcolon] at hsuffix
          exact (List.suffix_cons _ _).trans hsuffix
        have hpart : beforeSemicolon v <:+: .leaf (.ident name) line :: rest :=
          (List.takeWhile_prefix _).isInfix.trans (hv.trans (List.suffix_cons _ _)).isInfix
        exact fun selector block _ => ⟨room, name, line, rest, l, v, hstands, hcolon, rfl, rfl,
          hstands.readsBack_value hpart⟩

/-- Every value, selector and prelude of a style sheet is written from a part of it and reads back as the
tokens of that part, white space and comments aside: of a value those in front of its `!important`. This
asks that nothing of the part is left out, and that its tokens keep apart where only a comment stands
between them. -/
theorem extract_readsBack (source : String) :
    (∀ d ∈ (extract source).declarations, ∃ room name line cs l v,
      StandsIn source room (.leaf (.ident name) line :: cs) ∧ dropBlanks cs = .leaf .colon l :: v ∧
      d.property = (if isCustomProperty name then name else Text.asciiLower name) ∧
      d.value = valueText room (beforeSemicolon v) ∧
      (PlainImportance (beforeImportance (beforeSemicolon v)) →
        ReadsBack source room (beforeImportance (beforeSemicolon v)) d.value)) ∧
    (∀ s ∈ (extract source).selectors, ∃ room cs, StandsIn source room cs ∧
      s.selector = phraseText room (beforeClosing cs) ∧
      ReadsBack source room (beforeClosing cs) s.selector) ∧
    ∀ a ∈ (extract source).atRules, ∃ room name line cs,
      StandsIn source room (.leaf (.atKeyword name) line :: cs) ∧ a.keyword = Text.asciiLower name ∧
      a.prelude = phraseText room (beforeClosing cs) ∧
      ReadsBack source room (beforeClosing cs) a.prelude := by
  refine (law_readsBack source).extract ?_ trivial
  exact ⟨[], Body.ofText source.toList, rfl, Nat.zero_add _, List.suffix_refl _⟩

-- Comments at brackets and signs separate nothing that would be read together.
example : Separate (tokenList "f( a , url( \"b\" )/**/) 1px/**/+/**/#c".toList) := by decide +kernel

/-- A comment between two words leaves nothing behind, in a value, a selector and a prelude. White
space is lost behind a name that ends in an escaped bracket, and a number that begins with a point gets
a zero in front of it. -/
theorem extract_glued :
    tokenList "c/**/d".toList = [.ident "c", .comment, .ident "d"] ∧
    tokenList "cd".toList = [.ident "cd"] ∧
    (extract "a\x7bb:c/**/d\x7d").declarations = [⟨"b", "cd", "a", 1⟩] ∧
    (extract "c/**/d\x7b\x7d").selectors = [⟨"cd", 1⟩] ∧
    (extract "@a c/**/d;").atRules = [⟨"a", "cd"⟩] ∧
    (extract "a\x7bb:c\\( d\x7d").declarations = [⟨"b", "c\\(d", "a", 1⟩] ∧
    (extract "a\x7bb:#c.5\x7d").declarations = [⟨"b", "#c0.5", "a", 1⟩] := by
  decide +kernel

end FeatureScan.Css
