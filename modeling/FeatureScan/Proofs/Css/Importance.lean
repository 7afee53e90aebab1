import FeatureScan.Proofs.Css.OnePass
import FeatureScan.Proofs.Css.Unglued

/-!
# The tokens of a value

A value is written from pieces, in which each `!important` is one piece and those at the end are left
out. What it is written from in the source are the components in front of that end. Where each
`!important` among them stands alone and in lower case, the tokens of the pieces are theirs but for white
space, and tokens keep apart in the pieces if they do in the source.

## Main results

* `beforeImportance`, `pieces_beforeImportance`: the components that a value is written from.
* `withoutBlanks_pieces`: the tokens of their pieces.
* `Unglued.pieces`: these keep apart if those of the components do.
-/

namespace FeatureScan.Css

/-! ## The part of a value that is kept -/

/-- The components in front of the white space and each `!important` at the end. -/
def beforeImportance : List Component → List Component
  | [] => []
  | c :: cs => if (pieces (c :: cs)).all Piece.isLoose then [] else c :: beforeImportance cs

/-- Each `!important` among components stands alone and is in lower case. -/
structure PlainImportance (cs : List Component) : Prop where
  /-- None is followed by another. -/
  single : repeats (pieces cs) = false
  /-- The word is in lower case. -/
  spelled : ∀ line blanks name l, .leaf (.delim '!') line :: (blanks ++ [.leaf (.ident name) l]) <:+: cs →
    (∀ c ∈ blanks, c.isBlank = true) → Text.asciiLower name = "important" → name = "important"

section Kept

variable {c : Component} {cs behind : List Component}

theorem beforeImportance_cons (h : (pieces (c :: cs)).all Piece.isLoose = false) :
    beforeImportance (c :: cs) = c :: beforeImportance cs := by
  rw [beforeImportance, h]
  rfl

theorem beforeImportance_of_all (h : (pieces cs).all Piece.isLoose = true) :
    beforeImportance cs = [] := by
  cases cs with
  | nil => rfl
  | cons c cs => rw [beforeImportance, if_pos h]

/-- An `!important`, component by component. -/
theorem eq_of_afterImportant? (h : afterImportant? c cs = some behind) :
    ∃ line blanks name l, c = .leaf (.delim '!') line ∧
      cs = blanks ++ .leaf (.ident name) l :: behind ∧ (∀ d ∈ blanks, d.isBlank = true) ∧
      Text.asciiLower name = "important" := by
  unfold afterImportant? at h
  split at h
  · rename_i hsign
    obtain ⟨line, rfl⟩ := eq_leaf_of_isToken hsign
    unfold importantBehind? at h
    split at h
    · rename_i name l rest hdrop
      split at h
      · rename_i hname
        obtain rfl := Option.some.inj h
        refine ⟨line, cs.takeWhile Component.isBlank, name, l, rfl, ?_, ?_, beq_iff_eq.1 hname⟩
        · rw [← hdrop]
          exact (List.takeWhile_append_dropWhile).symm
        · exact List.all_eq_true.1 List.all_takeWhile
      · cases h
    · cases h
  · cases h

theorem afterImportant?_eq (line : Nat) {blanks : List Component} {name : String} (l : Nat)
    (hblanks : ∀ d ∈ blanks, d.isBlank = true) (hname : Text.asciiLower name = "important")
    (behind : List Component) :
    afterImportant? (.leaf (.delim '!') line) (blanks ++ .leaf (.ident name) l :: behind) =
      some behind := by
  have hdrop : dropBlanks (blanks ++ .leaf (.ident name) l :: behind) =
      .leaf (.ident name) l :: behind := by
    rw [dropBlanks, List.dropWhile_append_of_pos hblanks]
    rfl
  change importantBehind? _ = _
  rw [importantBehind?, hdrop]
  dsimp only
  rw [hname]
  rfl

theorem pieces_nil : pieces [] = [] := by rw [pieces]

/-- A word is a piece of its own. -/
theorem all_pieces_ident (name : String) (l : Nat) (cs : List Component) :
    (pieces (.leaf (.ident name) l :: cs)).all Piece.isLoose = false := by
  rw [pieces_other rfl rfl]
  rfl

theorem beforeImportance_blanks {blanks : List Component} (hblanks : ∀ d ∈ blanks, d.isBlank = true)
    (name : String) (l : Nat) (cs : List Component) :
    (pieces (blanks ++ .leaf (.ident name) l :: cs)).all Piece.isLoose = false ∧
      beforeImportance (blanks ++ .leaf (.ident name) l :: cs) =
        blanks ++ .leaf (.ident name) l :: beforeImportance cs := by
  induction blanks with
  | nil =>
      have hall := all_pieces_ident name l cs
      exact ⟨hall, beforeImportance_cons hall⟩
  | cons d blanks ih =>
      obtain ⟨hd, hds⟩ := List.forall_mem_cons.1 hblanks
      obtain ⟨line, rfl⟩ := eq_leaf_of_isBlank hd
      obtain ⟨hall, hbefore⟩ := ih hds
      have hcons : (pieces (.leaf .blank line :: (blanks ++ .leaf (.ident name) l :: cs))).all
          Piece.isLoose = false := by
        rw [pieces_blank]
        exact hall
      exact ⟨hcons, (beforeImportance_cons hcons).trans (congrArg (_ :: ·) hbefore)⟩

theorem prefix_beforeImportance (cs : List Component) : beforeImportance cs <+: cs := by
  induction cs with
  | nil => exact List.prefix_refl _
  | cons c cs ih =>
      rw [beforeImportance]
      split
      · exact List.nil_prefix
      · exact List.prefix_cons_inj c |>.2 ih

/-- What is kept begins an `!important` only where one stands. -/
theorem afterImportant?_beforeImportance (h : afterImportant? c cs = none) :
    afterImportant? c (beforeImportance cs) = none := by
  rw [Option.eq_none_iff_forall_ne_some]
  intro behind hb
  obtain ⟨line, blanks, name, l, rfl, hbefore, hblanks, hname⟩ := eq_of_afterImportant? hb
  obtain ⟨rest, hrest⟩ := prefix_beforeImportance cs
  rw [hbefore, List.append_assoc, List.cons_append] at hrest
  rw [← hrest, afterImportant?_eq line l hblanks hname] at h
  cases h

/-- The pieces of what is kept are those that are written. -/
theorem pieces_beforeImportance (cs : List Component) :
    pieces (beforeImportance cs) = withoutEnd (pieces cs) := by
  induction hn : cs.length using Nat.strongRecOn generalizing cs with
  | ind n ih =>
    subst hn
    rcases hall : (pieces cs).all Piece.isLoose with _ | _
    · cases cs with
      | nil =>
          rw [pieces_nil] at hall
          cases hall
      | cons c cs =>
        rw [beforeImportance_cons hall]
        cases hb : afterImportant? c cs with
        | some behind =>
            have hshort := length_afterImportant?_lt hb
            rw [pieces_important hb] at hall ⊢
            obtain ⟨line, blanks, name, l, rfl, rfl, hblanks, hname⟩ := eq_of_afterImportant? hb
            rw [(beforeImportance_blanks hblanks name l behind).2,
              pieces_important (afterImportant?_eq line l hblanks hname _), withoutEnd_cons hall,
              ih _ (Nat.lt_succ_of_lt hshort) behind rfl]
        | none =>
            have hcs := ih _ (Nat.lt_succ_self _) cs rfl
            have hbefore := afterImportant?_beforeImportance hb
            cases hblank : c.isBlank with
            | true =>
                obtain ⟨line, rfl⟩ := eq_leaf_of_isBlank hblank
                rw [pieces_blank] at hall ⊢
                rw [pieces_blank, withoutEnd_cons hall, hcs]
            | false =>
                rw [pieces_other hb hblank] at hall ⊢
                rw [pieces_other hbefore hblank, hcs]
                split
                · rfl
                · exact (withoutEnd_cons rfl).symm
    · rw [beforeImportance_of_all hall, withoutEnd_of_all hall, pieces_nil]

end Kept

/-! ## The tokens of pieces -/

section Tokens

variable {cs : List Component} {w : List Token}

/-- The tokens of the pieces of components. -/
def pieceTokens (cs : List Component) : List Token := (pieces cs).flatMap Piece.tokens

theorem pieceTokens_nil : pieceTokens [] = [] := by
  rw [pieceTokens, pieces_nil]
  rfl

theorem pieceTokens_blank (line : Nat) (cs : List Component) :
    pieceTokens (.leaf .blank line :: cs) = .blank :: pieceTokens cs := by
  rw [pieceTokens, pieces_blank]
  rfl

theorem pieceTokens_important {c : Component} {behind : List Component}
    (h : afterImportant? c cs = some behind) :
    pieceTokens (c :: cs) =
      .blank :: .delim '!' :: .ident "important" :: .blank :: pieceTokens behind := by
  rw [pieceTokens, pieces_important h]
  rfl

theorem pieceTokens_other {c : Component} (h : afterImportant? c cs = none)
    (hblank : c.isBlank = false) (hblock : c.isBlock = false) :
    pieceTokens (c :: cs) = c.unnest ++ pieceTokens cs := by
  rw [pieceTokens, pieces_other h hblank, hblock]
  rfl

theorem suffix_importance (line : Nat) (blanks : List Component) (name : String) (l : Nat)
    (behind : List Component) :
    behind <:+ .leaf (.delim '!') line :: (blanks ++ .leaf (.ident name) l :: behind) :=
  ⟨.leaf (.delim '!') line :: (blanks ++ [.leaf (.ident name) l]), by simp⟩

/-- Induction on components as they are split into pieces, where no component is a block. -/
theorem pieces_induction {P : List Component → Prop} (nil : P [])
    (blank : ∀ line cs, P cs → P (.leaf .blank line :: cs))
    (important : ∀ line blanks name l behind, (∀ d ∈ blanks, d.isBlank = true) →
      Text.asciiLower name = "important" → P behind →
      P (.leaf (.delim '!') line :: (blanks ++ .leaf (.ident name) l :: behind)))
    (component : ∀ c cs, afterImportant? c cs = none → c.isBlank = false →
      (∀ d ∈ c :: cs, d.isBlock = false) → P cs → P (c :: cs))
    (hblock : ∀ c ∈ cs, c.isBlock = false) : P cs := by
  induction hn : cs.length using Nat.strongRecOn generalizing cs with
  | ind n ih =>
    subst hn
    cases cs with
    | nil => exact nil
    | cons c cs =>
      obtain ⟨hc, hcs⟩ := List.forall_mem_cons.1 hblock
      cases hb : afterImportant? c cs with
      | some behind =>
          have hshort := length_afterImportant?_lt hb
          obtain ⟨line, blanks, name, l, rfl, rfl, hblanks, hname⟩ := eq_of_afterImportant? hb
          exact important line blanks name l behind hblanks hname (ih _ (Nat.lt_succ_of_lt hshort)
            (fun d hd => hcs d (by simp [hd])) rfl)
      | none =>
          have hP := ih _ (Nat.lt_succ_self _) hcs rfl
          cases hblank : c.isBlank with
          | true =>
              obtain ⟨line, rfl⟩ := eq_leaf_of_isBlank hblank
              exact blank line cs hP
          | false => exact component c cs hb hblank hblock hP

/-- Tokens in a row at the beginning of the pieces, none of them a blank, are so in the components. -/
theorem prefix_unnest_of_pieceTokens (hblock : ∀ c ∈ cs, c.isBlock = false)
    (hw : ∀ t ∈ w, t ≠ .blank) (h : w <+: pieceTokens cs) : w <+: unnest cs := by
  have hnone : ∀ {w us : List Token}, (∀ t ∈ w, t ≠ .blank) → w <+: .blank :: us → w = [] := by
    intro w us hw hfront
    cases w with
    | nil => rfl
    | cons t w => exact absurd (List.cons_prefix_cons.1 hfront).1 (hw t List.mem_cons_self)
  revert w
  refine pieces_induction (P := fun cs => ∀ {w : List Token}, (∀ t ∈ w, t ≠ .blank) →
    w <+: pieceTokens cs → w <+: unnest cs) ?_ ?_ ?_ ?_ hblock
  · intro w hw h
    rwa [pieceTokens_nil] at h
  · intro line cs _ w hw h
    rw [pieceTokens_blank] at h
    rw [hnone hw h]
    exact List.nil_prefix
  · intro line blanks name l behind hblanks hname _ w hw h
    rw [pieceTokens_important (afterImportant?_eq line l hblanks hname behind)] at h
    rw [hnone hw h]
    exact List.nil_prefix
  · intro c cs hb hblank hblock ih w hw h
    rw [pieceTokens_other hb hblank (hblock c List.mem_cons_self)] at h
    rw [unnest]
    obtain ⟨rest, hrest⟩ := h
    rcases List.append_eq_append_iff.1 hrest with ⟨front, hfront, -⟩ | ⟨w', rfl, hw'⟩
    · exact ⟨front ++ unnest cs, by rw [hfront, List.append_assoc]⟩
    · exact (List.prefix_append_right_inj _).2
        (ih (fun t ht => hw t (List.mem_append_right _ ht)) ⟨rest, hw'.symm⟩)

/-- Tokens in a row in the pieces, none of them a blank, are so in the components, or they are of the
sign and word that an `!important` is written with. -/
theorem infix_unnest_of_pieceTokens (hblock : ∀ c ∈ cs, c.isBlock = false)
    (hw : ∀ t ∈ w, t ≠ .blank) (h : w <:+: pieceTokens cs) :
    w <:+: unnest cs ∨ w <:+: [.delim '!', .ident "important"] := by
  have hbehind : ∀ {w us : List Token}, (∀ t ∈ w, t ≠ .blank) → w <:+: .blank :: us → w <:+: us := by
    intro w us hw hrow
    rcases List.infix_cons_iff.1 hrow with hfront | hrow
    · cases w with
      | nil => exact List.nil_infix
      | cons t w => exact absurd (List.cons_prefix_cons.1 hfront).1 (hw t List.mem_cons_self)
    · exact hrow
  revert w
  refine pieces_induction (P := fun cs => ∀ {w : List Token}, (∀ t ∈ w, t ≠ .blank) →
    w <:+: pieceTokens cs → w <:+: unnest cs ∨ w <:+: [.delim '!', .ident "important"]) ?_ ?_ ?_ ?_
    hblock
  · intro w hw h
    rw [pieceTokens_nil] at h
    exact .inl h
  · intro line cs ih w hw h
    rw [pieceTokens_blank] at h
    refine (ih hw (hbehind hw h)).imp_left fun h => h.trans ?_
    rw [unnest]
    exact (List.suffix_append _ _).isInfix
  · intro line blanks name l behind hblanks hname ih w hw h
    rw [pieceTokens_important (afterImportant?_eq line l hblanks hname behind)] at h
    have hmark : w <:+: [.delim '!', .ident "important"] ++ .blank :: pieceTokens behind := hbehind hw h
    rcases List.infix_append_iff.1 hmark with h | h | ⟨w₁, w₂, rfl, h₁, h₂⟩
    · exact .inr h
    · have hsuffix := unnest_suffix (suffix_importance line blanks name l behind)
      exact (ih hw (hbehind hw h)).imp_left fun h => h.trans hsuffix.isInfix
    · refine .inr ?_
      cases w₂ with
      | nil =>
          rw [List.append_nil]
          exact h₁.isInfix
      | cons t w₂ => exact absurd (List.cons_prefix_cons.1 h₂).1 (hw t (by simp))
  · intro c cs hb hblank hblock ih w hw h
    rw [pieceTokens_other hb hblank (hblock c List.mem_cons_self)] at h
    rw [unnest]
    rcases List.infix_append_iff.1 h with h | h | ⟨w₁, w₂, rfl, h₁, h₂⟩
    · exact .inl (h.trans (List.prefix_append _ _).isInfix)
    · exact (ih hw h).imp_left fun h => h.trans (List.suffix_append _ _).isInfix
    · obtain ⟨front, hfront⟩ := h₁
      obtain ⟨rest, hrest⟩ := prefix_unnest_of_pieceTokens (fun d hd => hblock d (by simp [hd]))
        (fun t ht => hw t (List.mem_append_right _ ht)) h₂
      refine .inl ⟨front, rest, ?_⟩
      rw [← hfront, ← hrest]
      simp only [List.append_assoc]

theorem withoutBlanks_unnest_blanks {blanks : List Component}
    (h : ∀ d ∈ blanks, d.isBlank = true) : withoutBlanks (unnest blanks) = [] := by
  induction blanks with
  | nil => rfl
  | cons d blanks ih =>
      obtain ⟨hd, hds⟩ := List.forall_mem_cons.1 h
      obtain ⟨line, rfl⟩ := eq_leaf_of_isBlank hd
      rw [unnest, withoutBlanks_append, ih hds]
      rfl

/-- Where each `!important` is in lower case, the pieces have the tokens of the components, white space
aside. -/
theorem withoutBlanks_pieceTokens (hblock : ∀ c ∈ cs, c.isBlock = false) (h : PlainImportance cs) :
    withoutBlanks (pieceTokens cs) = withoutBlanks (unnest cs) := by
  replace h := h.spelled
  revert h
  refine pieces_induction (P := fun cs => (∀ line blanks name l,
    .leaf (.delim '!') line :: (blanks ++ [.leaf (.ident name) l]) <:+: cs →
      (∀ c ∈ blanks, c.isBlank = true) → Text.asciiLower name = "important" → name = "important") →
    withoutBlanks (pieceTokens cs) = withoutBlanks (unnest cs)) ?_ ?_ ?_ ?_ hblock
  · intro _
    rw [pieceTokens_nil]
    rfl
  · intro line cs ih h
    rw [pieceTokens_blank]
    exact ih fun l blanks name l' hin => h l blanks name l' (hin.trans (List.suffix_cons _ _).isInfix)
  · intro line blanks name l behind hblanks hname ih h
    obtain rfl := h line blanks name l ⟨[], behind, by simp⟩ hblanks hname
    have hsuffix := suffix_importance line blanks "important" l behind
    have hbehind := ih fun line blanks name l' hin => h line blanks name l' (hin.trans hsuffix.isInfix)
    rw [pieceTokens_important (afterImportant?_eq line l hblanks hname behind), unnest, unnest_append,
      withoutBlanks_append, withoutBlanks_append, withoutBlanks_unnest_blanks hblanks, unnest,
      withoutBlanks_append, ← hbehind]
    rfl
  · intro c cs hb hblank hblock ih h
    rw [pieceTokens_other hb hblank (hblock c List.mem_cons_self), unnest, withoutBlanks_append,
      withoutBlanks_append, ih fun l blanks name l' hin =>
        h l blanks name l' (hin.trans (List.suffix_cons _ _).isInfix)]

/-! ## Tokens that keep apart -/

theorem Component.exists_closeBracket {c : Component} (hformed : c.isFormed = true)
    {as bs : List Token} {t : Token} (h : c.unnest = as ++ t :: bs) (hopens : t.opens?.isSome = true) :
    ∃ kind, .closeBracket kind ∈ bs := by
  cases c with
  | leaf u line =>
      cases as with
      | nil =>
          obtain ⟨rfl, -⟩ := List.cons.inj h
          rw [Component.isFormed, Option.isNone_iff_eq_none] at hformed
          rw [hformed] at hopens
          cases hopens
      | cons a as => simp [Component.unnest] at h
  | group opener kind line content endLine =>
      refine ⟨kind, ?_⟩
      cases as with
      | nil =>
          obtain ⟨-, rfl⟩ := List.cons.inj h
          simp
      | cons a as =>
          obtain ⟨-, h⟩ := List.cons.inj h
          rcases List.eq_nil_or_concat bs with rfl | ⟨bs', b, rfl⟩
          · obtain ⟨-, hlast⟩ := List.append_inj' h rfl
            obtain ⟨rfl, -⟩ := List.cons.inj hlast
            cases hopens
          · rw [List.concat_eq_append] at h ⊢
            have happend : Css.unnest content ++ [.closeBracket kind] = (as ++ t :: bs') ++ [b] := by
              rw [List.append_assoc]
              exact h
            obtain ⟨-, hlast⟩ := List.append_inj' happend rfl
            rw [← hlast]
            exact List.mem_append_right _ List.mem_cons_self

/-- Behind a token that opens a bracket comes one that closes it. -/
theorem exists_closeBracket {cs : List Component} (hformed : isFormed cs = true)
    {as bs : List Token} {t : Token} (h : unnest cs = as ++ t :: bs) (hopens : t.opens?.isSome = true) :
    ∃ kind, .closeBracket kind ∈ bs := by
  induction cs generalizing as with
  | nil => simp [unnest] at h
  | cons c cs ih =>
      rw [isFormed, Bool.and_eq_true] at hformed
      rw [unnest] at h
      rcases List.append_eq_append_iff.1 h with ⟨front, -, hcs⟩ | ⟨front, hc, hfront⟩
      · exact ih hformed.2 hcs
      · cases front with
        | nil => exact ih hformed.2 (show unnest cs = [] ++ t :: bs from hfront.symm)
        | cons u front =>
            obtain ⟨rfl, rfl⟩ := List.cons.inj hfront
            obtain ⟨kind, hkind⟩ := Component.exists_closeBracket hformed.1 hc hopens
            exact ⟨kind, List.mem_append_left _ hkind⟩

/-- What comes first behind blanks does not depend on what stands behind it. -/
theorem exists_dropWhile_blank {bs : List Token} {u : Token} (hu : u ∈ bs) (hblank : u ≠ .blank) :
    ∃ v vs, ∀ rest, (bs ++ rest).dropWhile (· == .blank) = v :: (vs ++ rest) := by
  induction bs with
  | nil => cases hu
  | cons b bs ih =>
      by_cases hb : b = .blank
      · obtain ⟨v, vs, hdrop⟩ := ih ((List.mem_cons.1 hu).resolve_left fun h => hblank (h.trans hb))
        refine ⟨v, vs, fun rest => ?_⟩
        rw [List.cons_append, List.dropWhile_cons, hb, if_pos (beq_self_eq_true _), hdrop]
      · refine ⟨b, bs, fun rest => ?_⟩
        rw [List.cons_append, List.dropWhile_cons, beq_false_of_ne hb]
        rfl

theorem QuotesUrls.suffix {ts us : List Token} (h : QuotesUrls ts) (hsuffix : us <:+ ts) :
    QuotesUrls us := by
  obtain ⟨front, rfl⟩ := hsuffix
  intro as t bs heq
  exact h (front ++ as) t bs (by rw [heq, List.append_assoc])

theorem QuotesUrls.cons {t : Token} {ts : List Token} (h : QuotesUrls ts)
    (hword : t.isUrlWord = false) : QuotesUrls (t :: ts) := by
  intro as u bs heq hu
  cases as with
  | nil =>
      obtain ⟨rfl, -⟩ := List.cons.inj heq
      rw [hword] at hu
      cases hu
  | cons a as => exact h as u bs (List.cons.inj heq).2 hu

/-- The bracket of a function ends what its quote is looked for in. -/
theorem QuotesUrls.unnest_append {c : Component} (hformed : c.isFormed = true) {ts us : List Token}
    (h : QuotesUrls (c.unnest ++ ts)) (hus : QuotesUrls us) : QuotesUrls (c.unnest ++ us) := by
  intro as t bs heq hword
  have hinside : ∀ bs', c.unnest = as ++ t :: bs' → bs = bs' ++ us →
      ∃ u us, bs.dropWhile (· == .blank) = u :: us ∧ quoteNext u.text = true := by
    rintro bs' hc rfl
    obtain ⟨kind, hkind⟩ := Component.exists_closeBracket hformed hc (opens_of_isUrlWord hword)
    obtain ⟨u, us', hdrop, hquote⟩ := h as t (bs' ++ ts) (by rw [hc, List.append_assoc]; rfl) hword
    obtain ⟨v, vs, hfirst⟩ := exists_dropWhile_blank hkind nofun
    rw [hfirst] at hdrop
    obtain ⟨rfl, -⟩ := List.cons.inj hdrop
    exact ⟨_, _, hfirst us, hquote⟩
  rcases List.append_eq_append_iff.1 heq with ⟨front, -, hus'⟩ | ⟨front, hc, hfront⟩
  · exact hus front t bs hus' hword
  · cases front with
    | nil => exact hus [] t bs hfront.symm hword
    | cons u front =>
        obtain ⟨rfl, hbs⟩ := List.cons.inj hfront
        exact hinside front hc hbs

theorem QuotesUrls.pieceTokens (h : QuotesUrls (unnest cs)) (hformed : isFormed cs = true)
    (hblock : ∀ c ∈ cs, c.isBlock = false) : QuotesUrls (pieceTokens cs) := by
  revert h hformed
  refine pieces_induction (P := fun cs => QuotesUrls (unnest cs) → isFormed cs = true →
    QuotesUrls (Css.pieceTokens cs)) ?_ ?_ ?_ ?_ hblock
  · intro h _
    rwa [pieceTokens_nil]
  · intro line cs ih h hformed
    rw [pieceTokens_blank]
    rw [isFormed, Bool.and_eq_true] at hformed
    exact (ih (h.suffix (unnest_suffix (List.suffix_cons _ _))) hformed.2).cons rfl
  · intro line blanks name l behind hblanks hname ih h hformed
    rw [pieceTokens_important (afterImportant?_eq line l hblanks hname behind)]
    rw [isFormed, isFormed_append, isFormed, Bool.and_eq_true, Bool.and_eq_true, Bool.and_eq_true]
      at hformed
    have hbehind := ih (h.suffix (unnest_suffix (suffix_importance line blanks name l behind)))
      hformed.2.2.2
    exact (((hbehind.cons rfl).cons rfl).cons rfl).cons rfl
  · intro c cs hb hblank hblock ih h hformed
    rw [isFormed, Bool.and_eq_true] at hformed
    rw [pieceTokens_other hb hblank (hblock c List.mem_cons_self)]
    exact h.unnest_append hformed.1
      (ih (h.suffix (unnest_suffix (List.suffix_cons _ _))) hformed.2)

theorem mem_pieceTokens (hblock : ∀ c ∈ cs, c.isBlock = false) {t : Token} (ht : t ∈ pieceTokens cs)
    (hblank : t ≠ .blank) : t ∈ unnest cs ∨ t = .delim '!' ∨ t = .ident "important" := by
  obtain ⟨as, bs, hsplit⟩ := List.append_of_mem ht
  have hin : [t] <:+: pieceTokens cs := ⟨as, bs, by rw [hsplit, List.append_assoc]; rfl⟩
  refine (infix_unnest_of_pieceTokens hblock (List.forall_mem_singleton.2 hblank) hin).imp
    (fun hin => hin.subset List.mem_cons_self) fun hin => ?_
  have hmem := hin.subset List.mem_cons_self
  rwa [List.mem_cons, List.mem_singleton] at hmem

/-- Tokens that keep apart in components do in their pieces. -/
theorem Unglued.pieces (h : Unglued (unnest cs)) (hformed : isFormed cs = true)
    (hblock : ∀ c ∈ cs, c.isBlock = false) : Unglued (pieceTokens cs) where
  whole t ht := by
    by_cases hblank : t = .blank
    · rw [hblank]
      rfl
    · rcases mem_pieceTokens hblock ht hblank with ht | rfl | rfl
      · exact h.whole t ht
      · rfl
      · rfl
  pair t u hin ht hu := by
    rcases infix_unnest_of_pieceTokens hblock (by simpa using ⟨ht, hu⟩) hin with hin | hin
    · exact h.pair t u hin ht hu
    · cases hin.eq_of_length rfl
      decide
  mark u hin := by
    by_cases hblank : u = .blank
    · rw [hblank]
      rfl
    · rcases infix_unnest_of_pieceTokens hblock (by simpa using hblank) hin with hin | hin
      · exact h.mark u hin
      · exact absurd hin.length_le (by simp)
  url := QuotesUrls.pieceTokens h.url hformed hblock

theorem AllFirm.pieces (h : AllFirm (unnest cs)) (hblock : ∀ c ∈ cs, c.isBlock = false) :
    AllFirm (pieceTokens cs) := by
  intro t ht hblank
  rcases mem_pieceTokens hblock ht hblank with ht | rfl | rfl
  · exact h t ht hblank
  · rfl
  · decide

theorem Readable.pieces (h : Readable (unnest cs)) (hblock : ∀ c ∈ cs, c.isBlock = false) :
    Readable (pieceTokens cs) where
  sound t ht := by
    by_cases hblank : t = .blank
    · rw [hblank]
      trivial
    · rcases mem_pieceTokens hblock ht hblank with ht | rfl | rfl
      · exact h.sound t ht
      · exact ⟨rfl, ⟨by decide, by decide⟩, rfl, rfl, rfl⟩
      · exact ⟨by decide, List.forall_iff_forall_mem.1 (by decide)⟩
  alone t ht hnumeric := by
    by_cases hblank : t = .blank
    · rw [hblank] at hnumeric
      cases hnumeric
    · rcases mem_pieceTokens hblock ht hblank with ht | rfl | rfl
      · exact h.alone t ht hnumeric
      · cases hnumeric
      · cases hnumeric

end Tokens

/-! ## Values and phrases read back -/

theorem importantNext_withoutEnd {ps : List Piece} (h : ps.all Piece.isLoose = false) :
    importantNext (withoutEnd ps) = importantNext ps := by
  induction ps with
  | nil => cases h
  | cons x ps ih =>
      rw [withoutEnd_cons h]
      cases x with
      | blank => exact ih h
      | important | component => rfl

theorem all_withoutEnd {ps : List Piece} (h : ps.all Piece.isLoose = false) :
    (withoutEnd ps).all Piece.isLoose = false := by
  induction ps with
  | nil => cases h
  | cons x ps ih =>
      rw [withoutEnd_cons h]
      cases x with
      | blank | important => exact ih h
      | component => rfl

/-- What is left out at the end repeats nothing. -/
theorem repeats_withoutEnd (ps : List Piece) : repeats (withoutEnd ps) = repeats ps := by
  induction ps with
  | nil => rfl
  | cons x ps ih =>
      rcases hall : (x :: ps).all Piece.isLoose with _ | _
      · rw [withoutEnd_cons hall]
        cases x with
        | blank | component => exact ih
        | important =>
            have hps : ps.all Piece.isLoose = false := hall
            rw [repeats, repeats, ih, importantNext_withoutEnd hps, all_withoutEnd hps, hps]
      · rw [List.all_cons, Bool.and_eq_true] at hall
        rw [withoutEnd_of_all hall.2] at ih
        rw [withoutEnd_of_all (by rw [List.all_cons, hall.1, hall.2]; rfl)]
        cases x with
        | blank | component => exact ih
        | important =>
            change repeats [] = ((importantNext ps && !ps.all Piece.isLoose) || repeats ps)
            rw [hall.2, ← ih, Bool.not_true, Bool.and_false, Bool.false_or]

section Texts

variable {room : Nat} {cs : List Component}

theorem valueText_eq (h : repeats (pieces (beforeImportance cs)) = false) :
    valueText room cs = (writePieces room (pieces (beforeImportance cs)) .fresh).text := by
  rw [pieces_beforeImportance, repeats_withoutEnd] at h
  rw [valueText_eq_keptText h, keptText, pieces_beforeImportance]

theorem fits_of_mem (h : fits cs room = true) : ∀ c ∈ cs, c.fits room = true := by
  induction cs with
  | nil => exact List.forall_mem_nil _
  | cons c cs ih =>
      rw [fits, Bool.and_eq_true] at h
      exact List.forall_mem_cons.2 ⟨h.1, ih h.2⟩

theorem isFormed_of_mem (h : isFormed cs = true) : ∀ c ∈ cs, c.isFormed = true := by
  induction cs with
  | nil => exact List.forall_mem_nil _
  | cons c cs ih =>
      rw [isFormed, Bool.and_eq_true] at h
      exact List.forall_mem_cons.2 ⟨h.1, ih h.2⟩

theorem isBlock_of_fits (h : fits cs room = true) : ∀ c ∈ cs, c.isBlock = false := by
  intro c hc
  have hfits := fits_of_mem h c hc
  cases c with
  | leaf => rfl
  | group opener kind line content endLine =>
      cases room with
      | zero => cases hfits
      | succ room =>
          rw [Component.fits, Bool.and_eq_true, bne_iff_ne] at hfits
          cases kind with
          | curly => exact absurd rfl hfits.1
          | round | square => rfl

theorem writePieces_components (cs : List Component) (p : Pen) :
    writePieces room (cs.map .component) p = Pen.writeAll room cs p := by
  induction cs generalizing p with
  | nil => rw [writeAll_nil]; rfl
  | cons c cs ih =>
      rw [writeAll_cons]
      exact ih _

theorem flatMap_tokens_components (cs : List Component) :
    (cs.map Piece.component).flatMap Piece.tokens = unnest cs := by
  induction cs with
  | nil => rfl
  | cons c cs ih => rw [List.map_cons, List.flatMap_cons, ih, unnest]; rfl

/-- What the text of a part of a source needs of its tokens to read back. -/
structure Faithful (ts : List Token) : Prop where
  /-- They keep apart. -/
  unglued : Unglued ts
  /-- The first and last characters of each tell what it is. -/
  firm : AllFirm ts
  /-- Each reads back alone. -/
  readable : Readable ts

/-- A value reads back as the tokens in front of its `!important`. -/
theorem tokenList_valueText (hfits : fits (beforeImportance cs) room = true)
    (hformed : isFormed (beforeImportance cs) = true) (hplain : PlainImportance (beforeImportance cs))
    (h : Faithful (unnest (beforeImportance cs))) :
    withoutBlanks (tokenList (valueText room cs).toList) =
      withoutBlanks (unnest (beforeImportance cs)) := by
  have hblock := isBlock_of_fits hfits
  have hpieces : ∀ c, .component c ∈ pieces (beforeImportance cs) → c.isFormed = true :=
    fun c hc => isFormed_of_mem hformed c (mem_of_component_mem_pieces hc)
  rw [valueText_eq hplain.single,
    tokenList_writePieces (fun c hc => fits_of_mem hfits c (mem_of_component_mem_pieces hc)) hpieces
      (h.firm.pieces hblock) (h.readable.pieces hblock) (h.unglued.pieces hformed hblock),
    withoutBlanks_tidied hpieces]
  exact withoutBlanks_pieceTokens hblock hplain

/-- A selector or prelude reads back. -/
theorem tokenList_phraseText (hfits : fits cs room = true) (hformed : isFormed cs = true)
    (h : Faithful (unnest cs)) :
    withoutBlanks (tokenList (phraseText room cs).toList) = withoutBlanks (unnest cs) := by
  have hmem : ∀ c, .component c ∈ cs.map Piece.component → c ∈ cs := by
    intro c hc
    obtain ⟨d, hd, heq⟩ := List.mem_map.1 hc
    cases heq
    exact hd
  obtain ⟨hunglued, hfirm, hreadable⟩ := h
  rw [← flatMap_tokens_components] at hunglued hfirm hreadable
  rw [phraseText, ← writePieces_components,
    tokenList_writePieces (fun c hc => fits_of_mem hfits c (hmem c hc))
      (fun c hc => isFormed_of_mem hformed c (hmem c hc)) hfirm hreadable hunglued,
    withoutBlanks_tidied fun c hc => isFormed_of_mem hformed c (hmem c hc), flatMap_tokens_components]

end Texts

end FeatureScan.Css
