import FeatureScan.Proofs.Css.Adjacent
import FeatureScan.Proofs.Css.Tidied
import Mathlib.Data.List.Chain

/-!
# Texts that read back

Tidied tokens read back if no two of them are glued. Behind a blank, in front of one and at the brackets
nothing is, so all depends on the tokens with nothing between them.

## Main results

* `Unglued`: what is asked of tokens in a row.
* `Spaced.linked`: tokens with blanks left out still keep apart.
* `tokenList_writePieces`: the text of pieces reads back.
-/

namespace FeatureScan.Css

/-! ## What is asked of tokens -/

/-- A quote follows each function that would read as an address without one, white space aside. -/
def QuotesUrls (ts : List Token) : Prop := ∀ as t bs, ts = as ++ t :: bs → t.isUrlWord = true →
  ∃ u us, bs.dropWhile (· == .blank) = u :: us ∧ quoteNext u.text = true

/-- Tokens in a row that keep apart when their texts are written with a blank for white space. -/
structure Unglued (ts : List Token) : Prop where
  /-- All are whole. -/
  whole : ∀ t ∈ ts, t.isWhole = true
  /-- With nothing between them, one ends before the next. -/
  pair : ∀ t u, [t, u] <:+: ts → t ≠ .blank → u ≠ .blank → t.endsBefore u.text = true
  /-- They do not come together to what opens a comment of a page. -/
  mark : ∀ u, [.delim '<', .delim '!', u] <:+: ts → Text.hasFront ['-', '-'] u.text = false
  /-- No function reads as an address. -/
  url : QuotesUrls ts

/-- Tokens that were read, and of which each reads back alone. -/
structure Readable (ts : List Token) : Prop where
  /-- They were read from a source. -/
  sound : ∀ t ∈ ts, t.Sound
  /-- The text of a number reads back. -/
  alone : ∀ t ∈ ts, t.isNumeric = true → tokenList t.text = [t]

/-! ## At blanks and brackets -/

section Quiet

variable {t : Token}

/-- Anything may follow an opening bracket. -/
theorem endsBefore_of_opens (hopens : t.opens?.isSome = true) (hword : t.isUrlWord = false)
    (next : List Char) : t.endsBefore next = true := by
  cases t with
  | function name =>
      have hne : (Text.asciiLower name != "url") = true := by
        rw [Token.isUrlWord] at hword
        rw [bne, hword]
        rfl
      rw [Token.endsBefore, hne, Bool.true_or]
  | openBracket kind => rfl
  | _ => cases hopens

theorem opens_of_isUrlWord (h : t.isUrlWord = true) : t.opens?.isSome = true := by
  cases t with
  | function => rfl
  | _ => cases h

/-- A blank ends in front of every firm token. -/
theorem blank_endsBefore (hfirm : t.isFirm = true) : Token.blank.endsBefore t.text = true := by
  obtain ⟨c, cs, htext, hc⟩ := head_of_isFirm hfirm
  have hspace : isSpace c = false := by
    refine Bool.eq_false_iff.2 fun hspace => ?_
    simp only [isSpace, isLineEnd, Bool.or_eq_true, beq_iff_eq] at hspace
    rcases hspace with (rfl | rfl) | ((rfl | rfl) | rfl) <;> cases hc
  rw [Token.endsBefore, htext, List.head?_cons, Option.any_some, hspace]
  rfl

theorem isQuiet_blank : IsQuiet Token.blank.text := by
  rintro c ⟨rfl⟩
  decide

theorem isQuiet_closeBracket (kind : Bracket) : IsQuiet (Token.closeBracket kind).text := by
  cases kind <;> rintro c ⟨rfl⟩ <;> decide

end Quiet

/-! ## Blanks left out -/

section Links

variable {ts us full : List Token} {t u : Token}

/-- Tokens, the latest first, each of which ends before the next. -/
structure Linked (us : List Token) : Prop where
  /-- One ends before the next. -/
  chain : us.IsChain fun u t => t.endsBefore u.text = true
  /-- They do not come together to what opens a comment of a page. -/
  mark : ∀ u, [u, .delim '!', .delim '<'] <:+: us → Text.hasFront ['-', '-'] u.text = false

theorem dropWhile_blank_append {bs : List Token} (hbs : ∀ b ∈ bs, b = .blank) (hu : u ≠ .blank)
    (rest : List Token) : (bs ++ u :: rest).dropWhile (· == .blank) = u :: rest := by
  rw [List.dropWhile_append_of_pos fun b hb => beq_iff_eq.2 (hbs b hb), List.dropWhile_cons,
    beq_false_of_ne hu]
  rfl

/-- A latest token that is no bracket and no blank was put there. -/
theorem Spaced.exists_put (h : Spaced ts (t :: us)) (hblank : t ≠ .blank) (hopens : t.opens? = none)
    (hcloses : t.closes? = none) : ∃ as, ts = as ++ [t] ∧ Spaced as us := by
  generalize heq : t :: us = vs at h
  cases h with
  | nil => cases heq
  | @put ts vs u _ h =>
      obtain ⟨rfl, rfl⟩ := List.cons.inj heq
      exact ⟨ts, rfl, h⟩
  | @space ts vs h =>
      cases vs with
      | nil => cases heq
      | cons v vs =>
          rw [tidySpace] at heq
          split at heq
          · rename_i hkept
            obtain ⟨rfl, rfl⟩ := List.cons.inj heq
            rw [hopens, beq_false_of_ne hblank] at hkept
            cases hkept
          · exact absurd (List.cons.inj heq).1 hblank
  | close kind h =>
      obtain ⟨rfl, -⟩ := List.cons.inj heq
      cases hcloses

theorem ne_blank_of_dropLastBlanks {rest : List Token} (h : dropLastBlanks us = t :: rest) :
    t ≠ .blank := by
  rintro rfl
  have hhead := List.head?_dropWhile_not (· == Token.blank) us
  rw [show us.dropWhile (· == Token.blank) = .blank :: rest from h] at hhead
  cases hhead

/-- The latest token but blanks is no function that a quote has to follow, if none follows. -/
theorem Spaced.not_isUrlWord_last {rest next : List Token} (h : Spaced ts us)
    (hlast : dropLastBlanks us = t :: rest) (hfull : ts ++ next = full) (hunglued : Unglued full)
    (hnext : ∀ u ∈ next.head?, u ≠ .blank ∧ quoteNext u.text = false) : t.isUrlWord = false := by
  obtain ⟨as, bs, rfl, hbs⟩ := h.exists_last hlast
  refine Bool.eq_false_iff.2 fun hword => ?_
  rw [List.append_assoc, List.cons_append] at hfull
  obtain ⟨u, us, hdrop, hquote⟩ := hunglued.url as t _ hfull.symm hword
  cases next with
  | nil =>
      rw [List.dropWhile_append_of_pos fun b hb => beq_iff_eq.2 (hbs b hb)] at hdrop
      cases hdrop
  | cons v next =>
      obtain ⟨hv, hno⟩ := hnext v rfl
      rw [dropWhile_blank_append hbs hv] at hdrop
      obtain ⟨rfl, -⟩ := List.cons.inj hdrop
      rw [hno] at hquote
      cases hquote

/-- The latest token but blanks ends in front of what nothing goes on with. -/
theorem Spaced.last_endsBefore {rest : List Token} {text : List Char} (h : Spaced ts us)
    (hlast : dropLastBlanks us = t :: rest) (hfront : ts <+: full) (hunglued : Unglued full)
    (hsound : ∀ t ∈ full, t.Sound) (hword : t.isUrlWord = false) (hquiet : IsQuiet text) :
    t.endsBefore text = true := by
  obtain ⟨as, bs, rfl, -⟩ := h.exists_last hlast
  have hmem : t ∈ full := hfront.subset (by simp)
  exact endsBefore_of_quiet (hsound t hmem) (hunglued.whole t hmem)
    (ne_blank_of_dropLastBlanks hlast) hword hquiet

/-- The latest token ends before one that is put behind it. -/
theorem Spaced.head_endsBefore {next : List Token} (h : Spaced ts (t :: us)) (hu : u ≠ .blank)
    (hfull : ts ++ u :: next = full) (hunglued : Unglued full) (hfirm : AllFirm full) :
    t.endsBefore u.text = true := by
  have humem : u ∈ full := by
    rw [← hfull]
    simp
  by_cases hblank : t = .blank
  · rw [hblank]
    exact blank_endsBefore (hfirm u humem hu)
  · obtain ⟨as, bs, rfl, hbs, hopens⟩ := h.exists_head hblank
    rw [List.append_assoc, List.cons_append] at hfull
    cases hword : t.isUrlWord with
    | true =>
        obtain ⟨v, vs, hdrop, hquote⟩ := hunglued.url as t _ hfull.symm hword
        rw [dropWhile_blank_append hbs hu] at hdrop
        obtain ⟨rfl, -⟩ := List.cons.inj hdrop
        exact Token.endsBefore_of_quoteNext hword hquote
    | false =>
        rcases hopens with rfl | hopens
        · refine hunglued.pair t u ⟨as, next, ?_⟩ hblank hu
          rw [← hfull]
          simp
        · exact endsBefore_of_opens hopens hword u.text

/-- Tokens with blanks left out are linked, if all of them are unglued. -/
theorem Spaced.linked (h : Spaced ts us) (hfront : ts <+: full) (hunglued : Unglued full)
    (hfirm : AllFirm full) (hsound : ∀ t ∈ full, t.Sound) : Linked us := by
  induction h with
  | nil => exact ⟨.nil, fun u hu => by simp at hu⟩
  | @put ts us u hblank h ih =>
      have hlinked := ih ((List.prefix_append ts [u]).trans hfront)
      obtain ⟨next, hfull⟩ := hfront
      rw [List.append_assoc, List.singleton_append] at hfull
      refine ⟨?_, fun v hv => ?_⟩
      · cases us with
        | nil => exact .singleton u
        | cons t us =>
            exact .cons_cons (h.head_endsBefore hblank hfull hunglued hfirm) hlinked.chain
      · rcases List.infix_cons_iff.1 hv with ⟨us', hus⟩ | hv
        · obtain ⟨rfl, rfl⟩ := List.cons.inj hus
          obtain ⟨as, rfl, hsign⟩ := h.exists_put (by decide) rfl rfl
          obtain ⟨as, rfl, -⟩ := hsign.exists_put (by decide) rfl rfl
          refine hunglued.mark v ⟨as, next, ?_⟩
          rw [← hfull]
          simp
        · exact hlinked.mark v hv
  | @space ts us h ih =>
      have hkept := (List.prefix_append ts [.blank]).trans hfront
      have hlinked := ih hkept
      cases us with
      | nil => exact hlinked
      | cons t us =>
          rw [tidySpace]
          split
          · exact hlinked
          · rename_i hput
            rw [Bool.or_eq_true, not_or, beq_iff_eq] at hput
            have hword : t.isUrlWord = false :=
              Bool.eq_false_iff.2 fun hword => hput.2 (opens_of_isUrlWord hword)
            refine ⟨.cons_cons (h.last_endsBefore (dropLastBlanks_cons hput.1) hkept hunglued hsound
              hword isQuiet_blank) hlinked.chain, fun v hv => ?_⟩
            rcases List.infix_cons_iff.1 hv with ⟨us', hus⟩ | hv
            · obtain ⟨rfl, -⟩ := List.cons.inj hus
              rfl
            · exact hlinked.mark v hv
  | @close ts us kind h ih =>
      have hkept := (List.prefix_append ts [.closeBracket kind]).trans hfront
      have hlinked := ih hkept
      obtain ⟨next, hfull⟩ := hfront
      rw [List.append_assoc, List.singleton_append] at hfull
      have hsuffix : dropLastBlanks us <:+ us := List.dropWhile_suffix _
      refine ⟨?_, fun v hv => ?_⟩
      · cases hlast : dropLastBlanks us with
        | nil => exact .singleton _
        | cons t rest =>
            have hword := h.not_isUrlWord_last hlast hfull hunglued (by
              rintro u ⟨rfl⟩
              have hne : Token.closeBracket kind ≠ .blank := by
                intro h
                cases h
              exact ⟨hne, by cases kind <;> rfl⟩)
            have hchain := hlinked.chain.suffix hsuffix
            rw [hlast] at hchain
            exact .cons_cons (h.last_endsBefore hlast hkept hunglued hsound hword
              (isQuiet_closeBracket kind)) hchain
      · rcases List.infix_cons_iff.1 hv with ⟨us', hus⟩ | hv
        · obtain ⟨rfl, -⟩ := List.cons.inj hus
          cases kind <;> rfl
        · exact hlinked.mark v (hv.trans hsuffix.isInfix)

theorem exists_of_hasFront {front cs : List Char} (h : Text.hasFront front cs = true) :
    ∃ rest, cs = front ++ rest := by
  obtain ⟨rest, hrest⟩ := Option.isSome_iff_exists.1 h
  exact ⟨rest, Text.afterFront?_eq_some_iff.1 hrest⟩

/-- Two hyphens at the beginning belong to one token. -/
theorem not_hasFront_flatMap (hsound : ∀ u ∈ t :: ts, u.Sound) (h : Apart (t :: ts) = true)
    (hfront : Text.hasFront ['-', '-'] t.text = false) :
    Text.hasFront ['-', '-'] ((t :: ts).flatMap Token.text) = false := by
  obtain ⟨ht, hts⟩ := List.forall_mem_cons.1 hsound
  have hends := endsBefore_of_apart hts h
  have hcomment : t ≠ .comment := by
    rintro rfl
    cases hends
  refine Bool.eq_false_iff.2 fun hyes => ?_
  obtain ⟨rest, hrest⟩ := exists_of_hasFront hyes
  rw [List.flatMap_cons] at hrest
  generalize ts.flatMap Token.text = next at hends hrest
  cases htext : t.text with
  | nil => exact text_ne_nil ht hcomment htext
  | cons c cs =>
      rw [htext, List.cons_append] at hrest
      obtain ⟨rfl, hbehind⟩ := List.cons.inj hrest
      cases cs with
      | cons d ds =>
          obtain ⟨rfl, -⟩ := List.cons.inj hbehind
          rw [htext] at hfront
          cases hfront
      | nil =>
          -- A hyphen alone does not end in front of another.
          rw [List.nil_append] at hbehind
          rw [eq_delim_of_singleton ht htext (by simp), hbehind, Token.endsBefore] at hends
          simp only [signGoesOn, Bool.not_eq_true', Bool.or_eq_false_iff] at hends
          cases hends.1.1.1.1.2

/-- Tokens that are linked, and the last of which ends, are apart. -/
theorem apart_of_isChain (hsound : ∀ t ∈ ts, t.Sound)
    (hchain : ts.IsChain fun t u => t.endsBefore u.text = true)
    (hlast : ∀ t ∈ ts.getLast?, t.endsBefore [] = true)
    (hmark : ∀ u, [.delim '<', .delim '!', u] <:+: ts → Text.hasFront ['-', '-'] u.text = false) :
    Apart ts = true := by
  induction ts with
  | nil => rfl
  | cons t ts ih =>
      obtain ⟨-, hts⟩ := List.forall_mem_cons.1 hsound
      cases ts with
      | nil => exact hlast t rfl
      | cons u ts =>
          obtain ⟨hends, hchain⟩ := List.isChain_cons_cons.1 hchain
          have hrest : Apart (u :: ts) = true :=
            ih hts hchain hlast fun v hv => hmark v (hv.trans (List.suffix_cons t _).isInfix)
          rw [Apart, hends, hrest, Bool.and_true, Bool.true_and, Bool.not_eq_true']
          refine Bool.eq_false_iff.2 fun hopen => ?_
          rw [Bool.and_eq_true, Bool.and_eq_true, beq_iff_eq, beq_iff_eq] at hopen
          obtain ⟨⟨rfl, rfl⟩, hfront⟩ := hopen
          cases ts with
          | nil => cases hfront
          | cons v ts =>
              have hv := hmark v ⟨[], ts, rfl⟩
              rw [not_hasFront_flatMap (List.forall_mem_cons.1 hts).2 ?_ hv] at hfront
              · cases hfront
              · rw [Apart, Bool.and_eq_true] at hrest
                exact hrest.2

/-- What is left of the tokens but blanks is among them. -/
theorem Spaced.mem (h : Spaced ts us) (ht : t ∈ us) (hblank : t ≠ .blank) : t ∈ ts := by
  have hmem : t ∈ withoutBlanks us.reverse :=
    List.mem_filter.2 ⟨List.mem_reverse.2 ht, bne_iff_ne.2 hblank⟩
  rw [h.withoutBlanks_eq] at hmem
  exact (List.mem_filter.1 hmem).1

/-- Tokens that are unglued are apart when they are tidied. -/
theorem Spaced.apart (h : Spaced ts us) (hunglued : Unglued ts) (hfirm : AllFirm ts)
    (hsound : ∀ t ∈ ts, t.Sound) : Apart (dropLastBlanks us).reverse = true := by
  have hlinked := h.linked (List.prefix_refl ts) hunglued hfirm hsound
  have hsuffix : dropLastBlanks us <:+ us := List.dropWhile_suffix _
  refine apart_of_isChain (fun t ht => ?_) ?_ (fun t ht => ?_) fun u hu => ?_
  · by_cases hblank : t = .blank
    · rw [hblank]
      trivial
    · exact hsound t (h.mem (hsuffix.subset (List.mem_reverse.1 ht)) hblank)
  · exact List.isChain_reverse.2 (hlinked.chain.suffix hsuffix)
  · rw [List.getLast?_reverse] at ht
    obtain ⟨rest, hlast⟩ := List.head?_eq_some_iff.1 ht
    have hword := h.not_isUrlWord_last hlast (List.append_nil ts) hunglued nofun
    exact h.last_endsBefore hlast (List.prefix_refl ts) hunglued hsound hword nofun
  · rw [← List.reverse_infix, List.reverse_reverse] at hu
    exact hlinked.mark u (hu.trans hsuffix.isInfix)

end Links

/-! ## Written pieces -/

theorem holds_fresh : Pen.fresh.Holds [] := ⟨rfl, .nil⟩

/-- The text of pieces is read as their tokens, tidied. -/
theorem tokenList_writePieces {room : Nat} {ps : List Piece}
    (hfits : ∀ c, .component c ∈ ps → c.fits room = true)
    (hformed : ∀ c, .component c ∈ ps → c.isFormed = true)
    (hfirm : AllFirm (ps.flatMap Piece.tokens)) (hread : Readable (ps.flatMap Piece.tokens))
    (hunglued : Unglued (ps.flatMap Piece.tokens)) :
    tokenList (writePieces room ps .fresh).text.toList = tidied ps := by
  have hspaced : Spaced (ps.flatMap Piece.tokens) (tidyPieces ps []) := spaced_tidyPieces hformed .nil
  have hmem : ∀ t ∈ tidied ps, t ≠ .blank → t ∈ ps.flatMap Piece.tokens := fun t ht =>
    hspaced.mem ((List.dropWhile_suffix _).subset (List.mem_reverse.1 ht))
  have hsound : ∀ t ∈ tidied ps, t.Sound := by
    intro t ht
    by_cases hblank : t = .blank
    · rw [hblank]
      trivial
    · exact hread.sound t (hmem t ht hblank)
  have halone : ∀ t ∈ tidied ps, t.isNumeric = true → tokenList t.text = [t] := by
    intro t ht hnumeric
    refine hread.alone t (hmem t ht ?_) hnumeric
    rintro rfl
    cases hnumeric
  rw [(holds_fresh.writePieces hfits hformed hfirm).text]
  exact tokenList_texts hsound halone (hspaced.apart hunglued hfirm hread.sound)

end FeatureScan.Css
