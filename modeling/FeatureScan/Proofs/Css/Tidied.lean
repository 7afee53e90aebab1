import FeatureScan.Proofs.Css.Apart
import FeatureScan.Proofs.Css.Unnesting
import FeatureScan.Proofs.Css.ValueText

/-!
# White space between written tokens

The pen decides about white space by the last character that it wrote. Where that character tells of
the token that it belongs to, the pen does what could be done on the tokens themselves: white space is
one blank, none stands at the beginning, behind an opening token, in front of a closing one or at the
end. A name that ends in an escaped bracket or blank, or in a blank that is no white space of style
sheets, is taken for what it is not.

## Main results

* `Token.isFirm`: where the first and last characters of a token tell what it is.
* `Pen.Holds.writePieces`: what is written is the texts of the tidied tokens.
* `Spaced`, `spaced_tidyPieces`: where blanks are left out.
-/

namespace FeatureScan.Css

/-! ## Tidying -/

/-- Puts a blank behind tokens, the latest first, unless there is nothing to separate. -/
def tidySpace : List Token → List Token
  | [] => []
  | t :: us => if t == .blank || t.opens?.isSome then t :: us else .blank :: t :: us

/-- Takes the blanks from the end of tokens, the latest first. -/
def dropLastBlanks (us : List Token) : List Token := us.dropWhile (· == .blank)

theorem dropLastBlanks_cons {t : Token} {us : List Token} (hblank : t ≠ .blank) :
    dropLastBlanks (t :: us) = t :: us := by
  rw [dropLastBlanks, List.dropWhile_cons, beq_false_of_ne hblank]
  rfl

mutual

/-- Puts the tokens of a component behind others, the latest first. -/
def Component.tidy : Component → List Token → List Token
  | .leaf t _, us => if t = .blank then tidySpace us else t :: us
  | .group opener kind _ content _, us =>
    .closeBracket kind :: dropLastBlanks (tidy content (opener :: us))

/-- Puts the tokens of components behind others, the latest first. -/
def tidy : List Component → List Token → List Token
  | [], us => us
  | c :: cs, us => tidy cs (c.tidy us)

end

/-- The tokens of a piece of a value. An `!important` stands between blanks. -/
def Piece.tokens : Piece → List Token
  | blank => [.blank]
  | important => [.blank, .delim '!', .ident "important", .blank]
  | component c => c.unnest

/-- Puts the tokens of a piece behind others, the latest first. -/
def Piece.tidy : Piece → List Token → List Token
  | blank, us => tidySpace us
  | important, us => .blank :: .ident "important" :: .delim '!' :: tidySpace us
  | component c, us => c.tidy us

/-- Puts the tokens of pieces behind others, the latest first. -/
def tidyPieces (ps : List Piece) (us : List Token) : List Token :=
  ps.foldl (fun us x => x.tidy us) us

/-- The tokens of pieces, tidied. -/
def tidied (ps : List Piece) : List Token := (dropLastBlanks (tidyPieces ps [])).reverse

mutual

/-- Whether all of a component is written where `room` levels of nesting are allowed: it holds no block
in curly brackets and no group that is nested too deeply. -/
def Component.fits : Component → Nat → Bool
  | .leaf _ _, _ => true
  | .group _ _ _ _ _, 0 => false
  | .group _ kind _ content _, room + 1 => kind != .curly && fits content room

/-- Whether all of some components is written where `room` levels of nesting are allowed. -/
def fits : List Component → Nat → Bool
  | [], _ => true
  | c :: cs, room => c.fits room && fits cs room

end

/-! ## What the pen makes of it -/

/-- Whether the text of a token begins and ends with a character that is no blank, and ends with an
opening bracket only if it is an opening token. -/
def Token.isFirm (t : Token) : Bool :=
  (t.text.head?.any fun c => !Text.isBlank c) &&
    t.text.getLast?.any fun c => !Text.isBlank c && (c == '(' || c == '[') == t.opens?.isSome

/-- Whether tokens but blanks are firm. -/
def AllFirm (ts : List Token) : Prop := ∀ t ∈ ts, t ≠ .blank → t.isFirm = true

/-- Tokens, the latest first, in which blanks stand only behind others that may have one. -/
inductive Neat : List Token → Prop
  | nil : Neat []
  | token {t : Token} {us : List Token} (hblank : t ≠ .blank) (hfirm : t.isFirm = true)
      (h : Neat us) : Neat (t :: us)
  | blank {t : Token} {us : List Token} (hblank : t ≠ .blank) (hopens : t.opens? = none)
      (h : Neat (t :: us)) : Neat (.blank :: t :: us)

/-- A pen that has written tokens, the latest first. -/
structure Pen.Holds (p : Pen) (us : List Token) : Prop where
  /-- Their texts are what is written. -/
  written : p.written.reverse = us.reverse.flatMap Token.text
  /-- Blanks stand where they may. -/
  neat : Neat us

theorem last_of_isFirm {t : Token} (h : t.isFirm = true) : ∃ cs c, t.text = cs ++ [c] ∧
    Text.isBlank c = false ∧ (c == '(' || c == '[') = t.opens?.isSome := by
  rw [Token.isFirm, Bool.and_eq_true] at h
  rcases List.eq_nil_or_concat t.text with hnil | ⟨cs, c, hconcat⟩
  · rw [hnil] at h
    cases h.1
  · rw [List.concat_eq_append] at hconcat
    have hlast := h.2
    rw [hconcat, List.getLast?_concat, Option.any_some, Bool.and_eq_true, Bool.not_eq_true',
      beq_iff_eq] at hlast
    exact ⟨cs, c, hconcat, hlast⟩

theorem head_of_isFirm {t : Token} (h : t.isFirm = true) : ∃ c cs, t.text = c :: cs ∧
    Text.isBlank c = false := by
  rw [Token.isFirm, Bool.and_eq_true] at h
  cases htext : t.text with
  | nil =>
      rw [htext] at h
      cases h.1
  | cons c cs =>
      have hhead := h.1
      rw [htext, List.head?_cons, Option.any_some, Bool.not_eq_true'] at hhead
      exact ⟨c, cs, rfl, hhead⟩

theorem isFirm_closeBracket (kind : Bracket) : (Token.closeBracket kind).isFirm = true := by
  cases kind <;> rfl

theorem flatMap_reverse_cons (t : Token) (us : List Token) :
    (t :: us).reverse.flatMap Token.text = us.reverse.flatMap Token.text ++ t.text := by
  rw [List.reverse_cons, List.flatMap_append, List.flatMap_singleton]

/-- What is written ends with the last character of the latest token. -/
theorem written_of_token {written : List Char} {t : Token} {us : List Token} {cs : List Char}
    {c : Char} (h : written.reverse = (t :: us).reverse.flatMap Token.text)
    (htext : t.text = cs ++ [c]) :
    written = c :: (cs.reverse ++ (us.reverse.flatMap Token.text).reverse) := by
  have hwritten := congrArg List.reverse h
  rw [List.reverse_reverse, flatMap_reverse_cons, htext, List.reverse_append, List.reverse_append]
    at hwritten
  exact hwritten

/-- What is written behind a blank. -/
theorem written_of_blank {written : List Char} {us : List Token}
    (h : written.reverse = (Token.blank :: us).reverse.flatMap Token.text) :
    ∃ rest, written = ' ' :: rest ∧ rest.reverse = us.reverse.flatMap Token.text := by
  have hwritten := congrArg List.reverse h
  rw [List.reverse_reverse, flatMap_reverse_cons, List.reverse_append] at hwritten
  exact ⟨_, hwritten, List.reverse_reverse _⟩

theorem firm_of_neat {t : Token} {us : List Token} (h : Neat (t :: us)) (hblank : t ≠ .blank) :
    t.isFirm = true := by
  cases h with
  | token _ hfirm _ => exact hfirm
  | blank => exact absurd rfl hblank

/-- Neat tokens begin with no blank. -/
theorem head_of_neat {us : List Token} (h : Neat us) :
    ∀ c ∈ (us.reverse.flatMap Token.text).head?, Text.isBlank c = false := by
  induction h with
  | nil => exact fun c hc => nomatch hc
  | @token t us _ hfirm _ ih =>
      obtain ⟨d, ds, htext, hd⟩ := head_of_isFirm hfirm
      rw [flatMap_reverse_cons, List.head?_append]
      intro c hc
      cases hfront : (us.reverse.flatMap Token.text).head? with
      | none =>
          rw [hfront, htext] at hc
          obtain rfl := Option.some.inj hc
          exact hd
      | some e =>
          rw [hfront] at hc
          obtain rfl := Option.some.inj hc
          exact ih _ hfront
  | @blank t us hblank _ hneat ih =>
      rw [flatMap_reverse_cons, List.head?_append]
      intro c hc
      cases hfront : ((t :: us).reverse.flatMap Token.text).head? with
      | none =>
          have hnil := List.head?_eq_none_iff.1 hfront
          obtain ⟨d, ds, htext, -⟩ := head_of_isFirm (firm_of_neat hneat hblank)
          rw [flatMap_reverse_cons, htext] at hnil
          exact absurd hnil (by simp)
      | some e =>
          rw [hfront] at hc
          obtain rfl := Option.some.inj hc
          exact ih _ hfront

theorem ne_blank_of_opens {opener : Token} {kind : Bracket}
    (h : (opener.opens? == some kind) = true) : opener ≠ .blank := by
  rintro rfl
  cases h

namespace Pen.Holds

variable {p : Pen} {us : List Token}

theorem put (h : p.Holds us) {t : Token} (hblank : t ≠ .blank) (hfirm : t.isFirm = true) :
    (p.put t.text).Holds (t :: us) where
  written := by
    rw [flatMap_reverse_cons, Pen.put]
    dsimp only
    rw [List.reverse_append, List.reverse_reverse, h.written]
  neat := .token hblank hfirm h.neat

theorem space (h : p.Holds us) : p.space.Holds (tidySpace us) := by
  obtain ⟨written, notices⟩ := p
  have hwritten : written.reverse = us.reverse.flatMap Token.text := h.written
  have hneat := h.neat
  cases hneat with
  | nil =>
      obtain rfl : written = [] := List.reverse_eq_nil_iff.1 hwritten
      exact h
  | @token t us hblank hfirm hus =>
      obtain ⟨cs, c, htext, hc, hopens⟩ := last_of_isFirm hfirm
      have hspace : (c == ' ') = false := by
        refine beq_false_of_ne ?_
        rintro rfl
        cases hc
      have hnext := written_of_token hwritten htext
      rw [hnext, space_cons, hspace, Bool.false_or, hopens, tidySpace, beq_false_of_ne hblank,
        Bool.false_or]
      split
      · rwa [hnext] at h
      · rename_i hopens
        rw [hnext] at hwritten
        refine ⟨?_, .blank hblank (by simpa using hopens) h.neat⟩
        rw [flatMap_reverse_cons, List.reverse_cons, hwritten]
        rfl
  | @blank t us hblank hopens hus =>
      obtain ⟨rest, hnext, -⟩ := written_of_blank hwritten
      rw [hnext] at h ⊢
      exact h

/-- The blank at the end is taken from the characters as from the tokens. -/
theorem dropBlank (h : p.Holds us) :
    (p.written.dropWhile Text.isBlank).reverse = (dropLastBlanks us).reverse.flatMap Token.text ∧
      Neat (dropLastBlanks us) := by
  obtain ⟨written, notices⟩ := p
  have hwritten : written.reverse = us.reverse.flatMap Token.text := h.written
  have hneat := h.neat
  have htoken : ∀ {t : Token} {us : List Token} {written : List Char}, t ≠ .blank →
      t.isFirm = true → written.reverse = (t :: us).reverse.flatMap Token.text →
      (written.dropWhile Text.isBlank).reverse = (t :: us).reverse.flatMap Token.text := by
    intro t us written hblank hfirm hwritten
    obtain ⟨cs, c, htext, hc, -⟩ := last_of_isFirm hfirm
    rw [← hwritten, written_of_token hwritten htext, List.dropWhile_cons, hc]
    rfl
  cases hneat with
  | nil =>
      obtain rfl : written = [] := List.reverse_eq_nil_iff.1 hwritten
      exact ⟨rfl, .nil⟩
  | token hblank hfirm hus =>
      rw [dropLastBlanks_cons hblank]
      exact ⟨htoken hblank hfirm hwritten, h.neat⟩
  | @blank t us hblank hopens hus =>
      obtain ⟨rest, hnext, hrest⟩ := written_of_blank hwritten
      have hdrop : dropLastBlanks (.blank :: t :: us) = t :: us := dropLastBlanks_cons hblank
      rw [hdrop]
      refine ⟨?_, hus⟩
      rw [← htoken hblank (firm_of_neat hus hblank) hrest, hnext]
      rfl

theorem close (h : p.Holds us) (kind : Bracket) :
    (p.close kind.closer).Holds (.closeBracket kind :: dropLastBlanks us) where
  written := by
    rw [flatMap_reverse_cons, ← h.dropBlank.1, Pen.close]
    dsimp only
    rw [List.reverse_cons]
    rfl
  neat := .token nofun (isFirm_closeBracket kind) h.dropBlank.2

/-- The text is that of the tokens without a blank at the end. -/
theorem text (h : p.Holds us) :
    p.text.toList = (dropLastBlanks us).reverse.flatMap Token.text := by
  have hstart : Text.trimStart p.written.reverse = p.written.reverse := by
    have hhead := head_of_neat h.neat
    rw [← h.written] at hhead
    rw [Text.trimStart]
    cases hwritten : p.written.reverse with
    | nil => rfl
    | cons c cs =>
        rw [hwritten] at hhead
        rw [List.dropWhile_cons, hhead c rfl]
        rfl
  rw [Pen.text, String.toList_ofList, Text.trim, hstart, Text.trimEnd, List.reverse_reverse,
    h.dropBlank.1]

theorem leaf (h : p.Holds us) {t : Token} (hfirm : t ≠ .blank → t.isFirm = true) (room line : Nat) :
    (p.write room (.leaf t line)).Holds ((Component.leaf t line).tidy us) := by
  rw [write_leaf, Component.tidy]
  split
  · exact h.space
  · exact h.put ‹_› (hfirm ‹_›)

/-- What is written of components is the texts of their tokens, tidied. -/
theorem writeAll {room : Nat} {cs : List Component} (hfits : fits cs room = true)
    (hformed : isFormed cs = true) (hfirm : AllFirm (unnest cs)) (h : p.Holds us) :
    (Pen.writeAll room cs p).Holds (tidy cs us) := by
  induction room generalizing cs p us with
  | zero =>
      induction cs generalizing p us with
      | nil => rwa [writeAll_nil, tidy]
      | cons c cs ih =>
          rw [fits, Bool.and_eq_true] at hfits
          rw [isFormed, Bool.and_eq_true] at hformed
          rw [writeAll_cons, tidy]
          refine ih hfits.2 hformed.2 (fun t ht => hfirm t (List.mem_append_right _ ht)) ?_
          cases c with
          | leaf t line => exact h.leaf (hfirm t (List.mem_append_left _ List.mem_cons_self)) 0 line
          | group => cases hfits.1
  | succ room ihroom =>
      induction cs generalizing p us with
      | nil => rwa [writeAll_nil, tidy]
      | cons c cs ih =>
          rw [fits, Bool.and_eq_true] at hfits
          rw [isFormed, Bool.and_eq_true] at hformed
          rw [writeAll_cons, tidy]
          refine ih hfits.2 hformed.2 (fun t ht => hfirm t (List.mem_append_right _ ht)) ?_
          cases c with
          | leaf t line => exact h.leaf (hfirm t (List.mem_append_left _ List.mem_cons_self)) _ line
          | group opener kind line content endLine =>
              rw [Component.fits, Bool.and_eq_true, bne_iff_ne] at hfits
              rw [Component.isFormed, Bool.and_eq_true] at hformed
              obtain ⟨⟨hkind, hfitsContent⟩, -⟩ := hfits
              obtain ⟨⟨hopens, hcontent⟩, -⟩ := hformed
              have hblank := ne_blank_of_opens hopens
              rw [write_group hkind, Component.tidy]
              refine Pen.Holds.close (ihroom hfitsContent hcontent (fun t ht => ?_)
                (h.put hblank ?_)) kind
              · exact hfirm t (List.mem_append_left _
                  (List.mem_cons_of_mem _ (List.mem_append_left _ ht)))
              · exact hfirm opener (List.mem_append_left _ List.mem_cons_self) hblank

theorem important (h : p.Holds us) :
    (p.space.put "!important ".toList).Holds (Piece.important.tidy us) := by
  have hword : (Token.ident "important").text = "important".toList := by decide
  have hchars : "!important ".toList = '!' :: ("important".toList ++ [' ']) := by decide
  have hpen : p.space.put "!important ".toList =
      ((p.space.put (Token.delim '!').text).put (Token.ident "important").text).space := by
    rw [hword, hchars]
    rfl
  have hsign : (p.space.put (Token.delim '!').text).Holds (.delim '!' :: tidySpace us) :=
    h.space.put nofun rfl
  have himportant : ((p.space.put (Token.delim '!').text).put (Token.ident "important").text).Holds
      (.ident "important" :: .delim '!' :: tidySpace us) := hsign.put nofun (by decide)
  rw [hpen]
  exact himportant.space

/-- What is written of pieces is the texts of their tokens, tidied. -/
theorem writePieces {room : Nat} {ps : List Piece}
    (hfits : ∀ c, .component c ∈ ps → c.fits room = true)
    (hformed : ∀ c, .component c ∈ ps → c.isFormed = true)
    (hfirm : AllFirm (ps.flatMap Piece.tokens)) (h : p.Holds us) :
    (Css.writePieces room ps p).Holds (tidyPieces ps us) := by
  induction ps generalizing p us with
  | nil => exact h
  | cons x ps ih =>
      refine ih (fun c hc => hfits c (List.mem_cons_of_mem x hc))
        (fun c hc => hformed c (List.mem_cons_of_mem x hc))
        (fun t ht => hfirm t (List.mem_append_right _ ht)) ?_
      cases x with
      | blank => exact h.space
      | important => exact h.important
      | component c =>
          have hc : fits [c] room = true := by
            rw [fits, fits, hfits c List.mem_cons_self]
            rfl
          have hcformed : isFormed [c] = true := by
            rw [isFormed, isFormed, hformed c List.mem_cons_self]
            rfl
          refine h.writeAll hc hcformed fun t ht => hfirm t (List.mem_append_left _ ?_)
          rwa [unnest_singleton] at ht

end Pen.Holds

/-! ## Where blanks are left out -/

/-- Tokens, the latest first, that are others in their order with some of their blanks left out: one
behind another, at the beginning, behind an opening token and in front of a closing one. -/
inductive Spaced : List Token → List Token → Prop
  | nil : Spaced [] []
  | put {ts us : List Token} {t : Token} (hblank : t ≠ .blank) (h : Spaced ts us) :
      Spaced (ts ++ [t]) (t :: us)
  | space {ts us : List Token} (h : Spaced ts us) : Spaced (ts ++ [.blank]) (tidySpace us)
  | close {ts us : List Token} (kind : Bracket) (h : Spaced ts us) :
      Spaced (ts ++ [.closeBracket kind]) (.closeBracket kind :: dropLastBlanks us)

mutual

theorem Component.spaced_tidy (c : Component) (hformed : c.isFormed = true)
    {ts us : List Token} (h : Spaced ts us) : Spaced (ts ++ c.unnest) (c.tidy us) := by
  cases c with
  | leaf t line =>
      rw [Component.unnest, Component.tidy]
      split
      · rename_i hblank
        rw [hblank]
        exact .space h
      · exact .put ‹_› h
  | group opener kind line content endLine =>
      rw [Component.isFormed, Bool.and_eq_true] at hformed
      have hcontent := spaced_tidy content hformed.2 (.put (ne_blank_of_opens hformed.1) h)
      rw [Component.unnest, Component.tidy, List.append_cons, ← List.append_assoc]
      exact .close kind hcontent

/-- Tidying leaves out blanks only. -/
theorem spaced_tidy (cs : List Component) (hformed : isFormed cs = true) {ts us : List Token}
    (h : Spaced ts us) : Spaced (ts ++ unnest cs) (tidy cs us) := by
  cases cs with
  | nil =>
      rw [unnest, tidy, List.append_nil]
      exact h
  | cons c cs =>
      rw [isFormed, Bool.and_eq_true] at hformed
      rw [unnest, tidy, ← List.append_assoc]
      exact spaced_tidy cs hformed.2 (Component.spaced_tidy c hformed.1 h)

end

theorem spaced_tidyPieces {ps : List Piece}
    (hformed : ∀ c, .component c ∈ ps → c.isFormed = true) {ts us : List Token} (h : Spaced ts us) :
    Spaced (ts ++ ps.flatMap Piece.tokens) (tidyPieces ps us) := by
  induction ps generalizing ts us with
  | nil =>
      rw [List.flatMap_nil, List.append_nil]
      exact h
  | cons x ps ih =>
      rw [List.flatMap_cons, ← List.append_assoc]
      refine ih (fun c hc => hformed c (List.mem_cons_of_mem x hc)) ?_
      cases x with
      | blank => exact .space h
      | component c => exact c.spaced_tidy (hformed c List.mem_cons_self) h
      | important =>
          have hword : Spaced (ts ++ [.blank] ++ [.delim '!'] ++ [.ident "important"])
              (.ident "important" :: .delim '!' :: tidySpace us) :=
            .put nofun (.put nofun (.space h))
          have hblank := Spaced.space hword
          simp only [List.append_assoc, List.cons_append, List.nil_append] at hblank
          exact hblank

/-- The tokens but the blanks. -/
def withoutBlanks (ts : List Token) : List Token := ts.filter (· != .blank)

theorem withoutBlanks_append (ts us : List Token) :
    withoutBlanks (ts ++ us) = withoutBlanks ts ++ withoutBlanks us := List.filter_append ..

theorem withoutBlanks_dropLastBlanks (us : List Token) :
    withoutBlanks (dropLastBlanks us) = withoutBlanks us := by
  induction us with
  | nil => rfl
  | cons t us ih =>
      rw [dropLastBlanks, List.dropWhile_cons]
      split
      · rename_i hblank
        rw [beq_iff_eq.1 hblank]
        exact ih
      · rfl

theorem withoutBlanks_tidySpace (us : List Token) :
    withoutBlanks (tidySpace us) = withoutBlanks us := by
  cases us with
  | nil => rfl
  | cons t us =>
      rw [tidySpace]
      split <;> rfl

/-- Blanks aside, nothing is left out. -/
theorem Spaced.withoutBlanks_eq {ts us : List Token} (h : Spaced ts us) :
    withoutBlanks us.reverse = withoutBlanks ts := by
  have hreverse : ∀ us : List Token, withoutBlanks us.reverse = (withoutBlanks us).reverse :=
    fun us => List.filter_reverse ..
  induction h with
  | nil => rfl
  | put _ _ ih => rw [List.reverse_cons, withoutBlanks_append, withoutBlanks_append, ih]
  | space _ ih =>
      rw [hreverse, withoutBlanks_tidySpace, ← hreverse, ih, withoutBlanks_append]
      exact (List.append_nil _).symm
  | close kind _ ih =>
      rw [List.reverse_cons, withoutBlanks_append, withoutBlanks_append, hreverse,
        withoutBlanks_dropLastBlanks, ← hreverse, ih]

/-- Blanks aside, tidied tokens are those of the pieces. -/
theorem withoutBlanks_tidied {ps : List Piece}
    (hformed : ∀ c, .component c ∈ ps → c.isFormed = true) :
    withoutBlanks (tidied ps) = withoutBlanks (ps.flatMap Piece.tokens) := by
  have hspaced := (spaced_tidyPieces hformed .nil).withoutBlanks_eq
  rw [List.nil_append] at hspaced
  rw [← hspaced, tidied, withoutBlanks, List.filter_reverse, withoutBlanks, List.filter_reverse]
  exact congrArg List.reverse (withoutBlanks_dropLastBlanks _)

theorem dropLastBlanks_tidySpace (us : List Token) :
    dropLastBlanks (tidySpace us) = dropLastBlanks us := by
  cases us with
  | nil => rfl
  | cons t us =>
      rw [tidySpace]
      split <;> rfl

/-- The latest token but blanks, and what was left out behind it. -/
theorem Spaced.exists_last {ts us rest : List Token} {t : Token} (h : Spaced ts us)
    (hlast : dropLastBlanks us = t :: rest) :
    ∃ as bs, ts = as ++ t :: bs ∧ ∀ b ∈ bs, b = .blank := by
  induction h with
  | nil => cases hlast
  | @put ts us u hblank h ih =>
      rw [dropLastBlanks_cons hblank] at hlast
      obtain ⟨rfl, -⟩ := List.cons.inj hlast
      exact ⟨ts, [], rfl, List.forall_mem_nil _⟩
  | space h ih =>
      rw [dropLastBlanks_tidySpace] at hlast
      obtain ⟨as, bs, rfl, hbs⟩ := ih hlast
      refine ⟨as, bs ++ [.blank], by simp, fun b hb => ?_⟩
      rcases List.mem_append.1 hb with hb | hb
      · exact hbs b hb
      · exact List.mem_singleton.1 hb
  | @close ts us kind h ih =>
      obtain ⟨rfl, -⟩ := List.cons.inj (hlast : Token.closeBracket kind :: dropLastBlanks us = _)
      exact ⟨ts, [], rfl, List.forall_mem_nil _⟩

/-- Behind the latest token, if it is no blank, blanks were left out only if it opens a bracket. -/
theorem Spaced.exists_head {ts us : List Token} {t : Token} (h : Spaced ts (t :: us))
    (hblank : t ≠ .blank) :
    ∃ as bs, ts = as ++ t :: bs ∧ (∀ b ∈ bs, b = .blank) ∧ (bs = [] ∨ t.opens?.isSome = true) := by
  generalize heq : t :: us = vs at h
  induction h generalizing us with
  | nil => cases heq
  | @put ts vs u _ h ih =>
      obtain ⟨rfl, -⟩ := List.cons.inj heq
      exact ⟨ts, [], rfl, List.forall_mem_nil _, .inl rfl⟩
  | @space ts vs h ih =>
      cases vs with
      | nil => cases heq
      | cons v vs =>
          rw [tidySpace] at heq
          split at heq
          · rename_i hkept
            obtain ⟨rfl, rfl⟩ := List.cons.inj heq
            obtain ⟨as, bs, rfl, hbs, -⟩ := ih rfl
            refine ⟨as, bs ++ [.blank], by simp, fun b hb => ?_, .inr ?_⟩
            · rcases List.mem_append.1 hb with hb | hb
              · exact hbs b hb
              · exact List.mem_singleton.1 hb
            · rwa [beq_false_of_ne hblank, Bool.false_or] at hkept
          · exact absurd (List.cons.inj heq).1 hblank
  | @close ts vs kind h ih =>
      obtain ⟨rfl, -⟩ := List.cons.inj heq
      exact ⟨ts, [], rfl, List.forall_mem_nil _, .inl rfl⟩

end FeatureScan.Css
