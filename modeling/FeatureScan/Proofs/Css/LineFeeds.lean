import FeatureScan.Proofs.Css.Found
import FeatureScan.Proofs.Css.NumeralText
import FeatureScan.Proofs.Css.Scanned
import FeatureScan.Proofs.Css.Unnesting

/-!
# Where line feeds come from

A token is written without a line feed, whatever its name or content: an escape stands for it. Only
the text of a malformed address is kept as it was. So selectors, preludes and values hold a line feed
only where such an address runs over the end of a line. Properties and keywords are no written tokens
but names with their escapes resolved.

## Main results

* `badUrl_of_newline`: the only token with a line feed in its text.
* `onOneLine_phraseText`, `onOneLine_valueText`: what is written of components.
* `extract_reasoned`: the reason for a line feed in anything that is extracted.
-/

namespace FeatureScan.Css

/-! ## Characters and names -/

/-- A text without a line feed. -/
def OnOneLine (cs : List Char) : Prop := '\n' ∉ cs

theorem onOneLine_append {as bs : List Char} (ha : OnOneLine as) (hb : OnOneLine bs) :
    OnOneLine (as ++ bs) := fun h => (List.mem_append.1 h).elim ha hb

theorem onOneLine_cons {c : Char} {cs : List Char} (hc : c ≠ '\n') (h : OnOneLine cs) :
    OnOneLine (c :: cs) := fun hmem => (List.mem_cons.1 hmem).elim (fun heq => hc heq.symm) h

theorem onOneLine_flatMap {f : Char → List Char} (hf : ∀ c, OnOneLine (f c)) (cs : List Char) :
    OnOneLine (cs.flatMap f) := by
  intro h
  obtain ⟨c, -, hc⟩ := List.mem_flatMap.1 h
  exact hf c hc

theorem onOneLine_of_all {cs : List Char} (h : cs.all (· != '\n') = true) : OnOneLine cs :=
  fun hmem => bne_iff_ne.1 (List.all_eq_true.1 h _ hmem) rfl

theorem hexDigit_ne_newline (n : Nat) : hexDigit n ≠ '\n' := by
  have hsmall : ∀ m < 16, Nat.digitChar m ≠ '\n' := by decide
  by_cases hn : n < 16
  · exact hsmall n hn
  · rw [hexDigit, Nat.digitChar]
    iterate 16 rw [if_neg (by omega)]
    decide

theorem onOneLine_hexEscape (c : Char) : OnOneLine (hexEscape c) := by
  have hend : OnOneLine [' '] := onOneLine_of_all rfl
  unfold hexEscape
  dsimp only
  split
  · exact onOneLine_cons (by decide) (onOneLine_cons (hexDigit_ne_newline _)
      (onOneLine_cons (hexDigit_ne_newline _) hend))
  · exact onOneLine_cons (by decide) (onOneLine_cons (hexDigit_ne_newline _) hend)

theorem onOneLine_singleton {c : Char} (hc : c ≠ '\n') : OnOneLine [c] :=
  onOneLine_cons hc List.not_mem_nil

theorem onOneLine_backslash {c : Char} (hc : c ≠ '\n') : OnOneLine ['\\', c] :=
  onOneLine_cons (by decide) (onOneLine_singleton hc)

theorem onOneLine_nameChar (c : Char) : OnOneLine (nameChar c) := by
  by_cases hc : c = '\n'
  · rw [hc]
    exact onOneLine_of_all (by decide)
  · unfold nameChar
    split
    · exact onOneLine_singleton hc
    · split
      · exact onOneLine_of_all rfl
      · split
        · exact onOneLine_hexEscape c
        · exact onOneLine_backslash hc

theorem onOneLine_stringChar (c : Char) : OnOneLine (stringChar c) := by
  by_cases hc : c = '\n'
  · rw [hc]
    exact onOneLine_of_all (by decide)
  · unfold stringChar
    split
    · exact onOneLine_backslash hc
    · split
      · exact onOneLine_backslash hc
      · split
        · exact onOneLine_of_all rfl
        · split
          · exact onOneLine_hexEscape c
          · exact onOneLine_singleton hc

theorem onOneLine_urlChar (c : Char) : OnOneLine (urlChar c) := by
  by_cases hc : c = '\n'
  · rw [hc]
    exact onOneLine_of_all (by decide)
  · unfold urlChar
    split
    · exact onOneLine_hexEscape c
    · split
      · exact onOneLine_backslash hc
      · exact onOneLine_singleton hc

theorem onOneLine_escapedName (cs : List Char) : OnOneLine (escapedName cs) :=
  onOneLine_flatMap onOneLine_nameChar cs

theorem onOneLine_identBody (cs : List Char) : OnOneLine (identBody cs) := by
  unfold identBody
  split
  · split
    · exact onOneLine_append (onOneLine_hexEscape _) (onOneLine_escapedName _)
    · exact onOneLine_escapedName _
  · exact List.not_mem_nil

theorem onOneLine_escapedIdent (cs : List Char) : OnOneLine (escapedIdent cs) := by
  unfold escapedIdent
  split
  · exact List.not_mem_nil
  · exact onOneLine_cons (by decide) (onOneLine_cons (by decide) (onOneLine_escapedName _))
  · exact onOneLine_of_all rfl
  · exact onOneLine_cons (by decide) (onOneLine_identBody _)
  · exact onOneLine_identBody _

theorem onOneLine_unitText (cs : List Char) : OnOneLine (unitText cs) := by
  have hescape : OnOneLine ['\\', '6', '5', ' '] := onOneLine_of_all rfl
  unfold unitText
  split
  · exact hescape
  · exact hescape
  · exact onOneLine_append hescape (onOneLine_escapedName _)
  · exact onOneLine_append hescape (onOneLine_escapedName _)
  · exact onOneLine_escapedIdent _

/-! ## Tokens -/

theorem onOneLine_numeralText (n : Numeral) : OnOneLine n.text := by
  have hdigits : ∀ {ds : List Char}, AreDigits ds → OnOneLine ds := by
    intro ds hds hmem
    exact absurd (hds.isDigit _ hmem) (by decide)
  obtain ⟨sign, whole, fraction, power, htext, hsign, hwhole, hfraction, hpower⟩ := n.text_parts
  rw [htext]
  refine onOneLine_append ?_ (onOneLine_append (hdigits hwhole) (onOneLine_append ?_ ?_))
  · rcases hsign with rfl | rfl | rfl <;> exact onOneLine_of_all rfl
  · cases hfraction with
    | absent => exact List.not_mem_nil
    | point h => exact onOneLine_cons (by decide) (hdigits h)
  · cases hpower with
    | absent => exact List.not_mem_nil
    | plus h => exact onOneLine_cons (by decide) (hdigits h)
    | minus h => exact onOneLine_cons (by decide) (onOneLine_cons (by decide) (hdigits h))

/-- A malformed address is the only token with a line feed in its text, but for the line feed itself,
which is no token. -/
theorem badUrl_of_newline {t : Token} (hdelim : t ≠ .delim '\n') (hcompare : t ≠ .compare '\n')
    (h : '\n' ∈ t.text) : ∃ written, t = .badUrl written ∧ '\n' ∈ written.toList := by
  have hcontra : OnOneLine t.text → ∃ written, t = .badUrl written ∧ '\n' ∈ written.toList :=
    fun hone => absurd h hone
  cases t with
  | badUrl written =>
      refine ⟨written, rfl, ?_⟩
      rcases List.mem_append.1 h with h | h
      · rcases List.mem_append.1 h with h | h
        · exact absurd h (onOneLine_of_all rfl)
        · exact h
      · exact absurd h (onOneLine_of_all rfl)
  | ident name => exact hcontra (onOneLine_escapedIdent _)
  | atKeyword name | idHash name =>
      exact hcontra (onOneLine_cons (by decide) (onOneLine_escapedIdent _))
  | hash name => exact hcontra (onOneLine_cons (by decide) (onOneLine_escapedName _))
  | function name =>
      exact hcontra (onOneLine_append (onOneLine_escapedIdent _) (onOneLine_of_all rfl))
  | string value =>
      exact hcontra (onOneLine_append
        (onOneLine_cons (by decide) (onOneLine_flatMap onOneLine_stringChar _)) (onOneLine_of_all rfl))
  | badString value =>
      exact hcontra (onOneLine_cons (by decide) (onOneLine_flatMap onOneLine_stringChar _))
  | url value =>
      exact hcontra (onOneLine_append
        (onOneLine_append (onOneLine_of_all rfl) (onOneLine_flatMap onOneLine_urlChar _))
        (onOneLine_of_all rfl))
  | delim c =>
      exact hcontra (onOneLine_singleton fun hc => hdelim (congrArg Token.delim hc))
  | compare sign =>
      exact hcontra (onOneLine_cons (fun hc => hcompare (congrArg Token.compare hc))
        (onOneLine_of_all rfl))
  | number n => exact hcontra (onOneLine_numeralText n)
  | percentage n =>
      exact hcontra (onOneLine_append (onOneLine_numeralText _) (onOneLine_of_all rfl))
  | dimension n unit =>
      exact hcontra (onOneLine_append (onOneLine_numeralText n) (onOneLine_unitText _))
  | blank | comment | colon | semicolon | comma | commentOpen | commentClose =>
      exact hcontra (onOneLine_of_all rfl)
  | openBracket b | closeBracket b => cases b <;> exact hcontra (onOneLine_of_all rfl)

/-- Signs are read from characters that are no white space. -/
theorem isSpace_of_sign {c : SourceChar} {s : Source} {d : Char}
    (h : (scanToken c s).1 = .delim d ∨ (scanToken c s).1 = .compare d) : isSpace d = false := by
  have hliteral : ∀ {x : Token × Source}, x.1.isLiteral = true →
      x.1 = .delim d ∨ x.1 = .compare d → isSpace d = false := by
    rintro x hx (heq | heq) <;> rw [heq] at hx <;> cases hx
  have hscanned := scanned_scanToken c s
  generalize scanToken c s = x at hscanned h
  cases hscanned with
  | string => exact hliteral (isLiteral_scanString _ s) h
  | numeric => exact hliteral (isLiteral_scanNumeric _) h
  | identLike => exact hliteral (isLiteral_scanIdentLike _) h
  | delim _ _ _ _ halone =>
      rcases h with h | h
      · cases h
        exact halone.space
      · cases h
  | compare hcompare =>
      rcases h with h | h
      · cases h
      · cases h
        simp only [isComparison, Bool.or_eq_true, beq_iff_eq] at hcompare
        rcases hcompare with (((hc | hc) | hc) | hc) | hc <;> rw [hc] <;> rfl
  | sign hsign =>
      unfold signToken? at hsign
      split at hsign <;> cases hsign <;> rcases h with h | h <;> cases h
  | _ => rcases h with h | h <;> cases h

theorem mem_tokensFrom {last n : Nat} {s : Source} {t : PlacedToken}
    (h : t ∈ tokensFrom last n [] s) : ∃ c r, c :: r <:+ s ∧ t.token = (scanToken c r).1 := by
  induction n generalizing s with
  | zero => cases h
  | succ n ih =>
      cases s with
      | nil => cases h
      | cons c s =>
          rw [tokensFrom_cons] at h
          rcases List.mem_cons.1 h with rfl | h
          · exact ⟨c, s, List.suffix_refl _, rfl⟩
          · obtain ⟨d, r, hsuffix, ht⟩ := ih h
            have htail := (suffix_scanToken c s).trans (List.suffix_cons c s)
            exact ⟨d, r, hsuffix.trans htail, ht⟩

/-- A token of a source that is written with a line feed is a malformed address. -/
theorem badUrl_of_newline_token {source : String} {t : Token} (ht : t ∈ tokensOf source)
    (h : '\n' ∈ t.text) : ∃ written, t = .badUrl written ∧ '\n' ∈ written.toList := by
  obtain ⟨p, hp, rfl⟩ := List.mem_map.1 ht
  obtain ⟨c, r, -, htoken⟩ := mem_tokensFrom hp
  refine badUrl_of_newline (fun heq => ?_) (fun heq => ?_) h
  · have hspace := isSpace_of_sign (.inl (htoken ▸ heq))
    cases hspace
  · have hspace := isSpace_of_sign (.inr (htoken ▸ heq))
    cases hspace

/-! ## What is written of components -/

/-- Tokens that are written without a line feed. -/
def Unbroken (ts : List Token) : Prop := ∀ t ∈ ts, OnOneLine t.text

theorem Unbroken.left {ts us : List Token} (h : Unbroken (ts ++ us)) : Unbroken ts :=
  fun t ht => h t (List.mem_append_left us ht)

theorem Unbroken.right {ts us : List Token} (h : Unbroken (ts ++ us)) : Unbroken us :=
  fun t ht => h t (List.mem_append_right ts ht)

theorem Unbroken.subset {ts us : List Token} (h : Unbroken us) (hsub : ts ⊆ us) : Unbroken ts :=
  fun t ht => h t (hsub ht)

namespace Pen

/-- A pen that has written no line feed. -/
def OneLine (p : Pen) : Prop := OnOneLine p.written

variable {p : Pen}

theorem OneLine.put (h : p.OneLine) {cs : List Char} (hcs : OnOneLine cs) : (p.put cs).OneLine :=
  onOneLine_append (fun hmem => hcs (List.mem_reverse.1 hmem)) h

theorem OneLine.space (h : p.OneLine) : p.space.OneLine := by
  obtain ⟨written, notices⟩ := p
  cases written with
  | nil => exact h
  | cons c cs =>
      rw [space_cons]
      split
      · exact h
      · exact onOneLine_cons (by decide) h

theorem OneLine.close (h : p.OneLine) (b : Bracket) : (p.close b.closer).OneLine := by
  refine onOneLine_cons (by cases b <;> decide) fun hmem => ?_
  exact h ((List.dropWhile_sublist _).subset hmem)

theorem OneLine.text (h : p.OneLine) : OnOneLine p.text.toList := by
  intro hmem
  rw [Pen.text, String.toList_ofList, Text.trim, Text.trimEnd, Text.trimStart] at hmem
  have hmem := (List.dropWhile_sublist _).subset (List.mem_reverse.1 hmem)
  have hmem := (List.dropWhile_sublist _).subset (List.mem_reverse.1 hmem)
  exact h (List.mem_reverse.1 hmem)

theorem OneLine.write (h : p.OneLine) {room : Nat} {c : Component} (hc : Unbroken c.unnest)
    (hinside : ∀ deeper content q, room = deeper + 1 → Unbroken (unnest content) → q.OneLine →
      (writeAll deeper content q).OneLine) : (p.write room c).OneLine := by
  cases c with
  | leaf t line =>
      rw [write_leaf]
      split
      · exact h.space
      · exact h.put (hc t (List.mem_singleton_self t))
  | group opener kind line content endLine =>
      by_cases hkind : kind = .curly
      · subst hkind
        rwa [write_block]
      · have hopened := h.put (hc opener List.mem_cons_self)
        have hcontent : Unbroken (unnest content) :=
          Unbroken.left fun t ht => hc t (List.mem_cons_of_mem opener ht)
        rw [write_group hkind]
        cases room with
        | zero => exact OneLine.close (p := (p.put opener.text).note _) hopened kind
        | succ room => exact (hinside room content _ rfl hcontent hopened).close kind

/-- Unbroken components leave a pen on its line. -/
theorem OneLine.writeAll {room : Nat} {cs : List Component} (h : p.OneLine)
    (hcs : Unbroken (unnest cs)) : (Pen.writeAll room cs p).OneLine := by
  induction room generalizing cs p with
  | zero =>
      induction cs generalizing p with
      | nil => rwa [writeAll_nil]
      | cons c cs ih =>
          rw [writeAll_cons]
          exact ih (h.write hcs.left fun _ _ _ h0 => nomatch h0) hcs.right
  | succ room ihroom =>
      induction cs generalizing p with
      | nil => rwa [writeAll_nil]
      | cons c cs ih =>
          rw [writeAll_cons]
          refine ih (h.write hcs.left fun deeper content q hdeeper hcontent hq => ?_) hcs.right
          obtain rfl := Nat.succ.inj hdeeper
          exact ihroom hq hcontent

/-- A piece of a value is unbroken if its component is. -/
theorem OneLine.writePieces {room : Nat} {ps : List Piece} (h : p.OneLine)
    (hps : ∀ c, .component c ∈ ps → Unbroken c.unnest) : (Css.writePieces room ps p).OneLine := by
  induction ps generalizing p with
  | nil => exact h
  | cons x ps ih =>
      refine ih ?_ fun c hc => hps c (List.mem_cons_of_mem x hc)
      cases x with
      | blank => exact h.space
      | important => exact h.space.put (onOneLine_of_all (by decide))
      | component c =>
          refine h.writeAll ?_
          rw [unnest_singleton]
          exact hps c List.mem_cons_self

end Pen

theorem mem_of_mem_withoutEnd {x : Piece} {ps : List Piece} (h : x ∈ withoutEnd ps) : x ∈ ps := by
  induction ps with
  | nil => exact h
  | cons y ps ih =>
      rw [withoutEnd] at h
      split at h
      · cases h
      · exact (List.mem_cons.1 h).elim (fun heq => heq ▸ List.mem_cons_self)
          fun h => List.mem_cons_of_mem y (ih h)

theorem mem_of_mem_joined {x : Piece} {ps : List Piece} (h : x ∈ joined ps) : x ∈ ps := by
  induction ps with
  | nil => exact h
  | cons y ps ih =>
      have hcons : ∀ {z : Piece}, x ∈ z :: joined ps → x ∈ z :: ps := fun h =>
        (List.mem_cons.1 h).elim (fun heq => heq ▸ List.mem_cons_self)
          fun h => List.mem_cons_of_mem _ (ih h)
      cases y with
      | blank | component c => exact hcons h
      | important =>
          rw [joined] at h
          split at h
          · exact List.mem_cons_of_mem _ (ih h)
          · exact hcons h

theorem onOneLine_valueText {room : Nat} {cs : List Component} (h : Unbroken (unnest cs)) :
    OnOneLine (valueText room cs).toList := by
  refine Pen.OneLine.text (Pen.OneLine.writePieces List.not_mem_nil fun c hc => ?_)
  have hmem := mem_of_component_mem_pieces (mem_of_mem_joined (mem_of_mem_withoutEnd hc))
  exact h.subset ((unnest_infix_of_mem hmem).subset)

theorem onOneLine_phraseText {room : Nat} {cs : List Component} (h : Unbroken (unnest cs)) :
    OnOneLine (phraseText room cs).toList :=
  Pen.OneLine.text (Pen.OneLine.writeAll List.not_mem_nil h)

/-! ## What is extracted -/

/-- A malformed address runs over the end of a line. -/
def BreaksAddress (ts : List Token) : Prop :=
  ∃ written, .badUrl written ∈ ts ∧ '\n' ∈ written.toList

/-- A keyword has an escaped line feed in it. -/
def BreaksKeyword (ts : List Token) : Prop := ∃ name, .atKeyword name ∈ ts ∧ '\n' ∈ name.toList

/-- The property that a name stands for. -/
def propertyOf (name : String) : String :=
  if isCustomProperty name then name else Text.asciiLower name

theorem newline_mem_asciiLower (s : String) :
    '\n' ∈ (Text.asciiLower s).toList ↔ '\n' ∈ s.toList := by
  rw [Text.asciiLower, String.toList_ofList, List.mem_map]
  constructor
  · rintro ⟨c, hc, heq⟩
    rwa [← (Text.lowerChar_eq_iff rfl c).1 heq]
  · exact fun h => ⟨_, h, rfl⟩

theorem newline_mem_propertyOf (name : String) :
    '\n' ∈ (propertyOf name).toList ↔ '\n' ∈ name.toList := by
  unfold propertyOf
  split
  · exact Iff.rfl
  · exact newline_mem_asciiLower name

/-- A selector has a line feed for one of these reasons. -/
def SelectorBreaks (ts : List Token) (selector : String) : Prop :=
  '\n' ∈ selector.toList → BreaksAddress ts ∨ BreaksKeyword ts

/-- What an extraction from the tokens `ts` owes its line feeds to. -/
def Event.Reasoned (ts : List Token) : Event → Prop
  | .declaration d =>
    (∃ name, .ident name ∈ ts ∧ d.property = propertyOf name) ∧
      ('\n' ∈ d.value.toList → BreaksAddress ts) ∧ SelectorBreaks ts d.selector
  | .atRule a =>
    (∃ name, .atKeyword name ∈ ts ∧ a.keyword = Text.asciiLower name) ∧
      ('\n' ∈ a.prelude.toList → BreaksAddress ts)
  | .selector s => '\n' ∈ s.selector.toList → BreaksAddress ts
  | .notice _ => True

/-- A setting whose selector has a reason for its line feeds. -/
def Setting.Reasoned (ts : List Token) : Setting → Prop
  | .rules => True
  | .style selector _ => SelectorBreaks ts selector

theorem reasoned_atRuleSetting {ts : List Token} {setting : Setting} (h : setting.Reasoned ts)
    {name : String} (hname : .atKeyword name ∈ ts) (block : Nat) :
    (atRuleSetting setting (Text.asciiLower name) block).Reasoned ts := by
  unfold atRuleSetting
  dsimp only
  split
  · split
    · split
      · exact h
      · trivial
    · trivial
  · intro hmem
    rw [String.toList_append] at hmem
    rcases List.mem_append.1 hmem with hmem | hmem
    · exact absurd hmem (by decide)
    · exact .inr ⟨name, hname, (newline_mem_asciiLower name).1 hmem⟩

theorem breaks_of_not_unbroken {source : String} {ts : List Token}
    (hts : ts ⊆ tokensOf source ++ closers (openBehind [] (tokensOf source))) (h : ¬Unbroken ts) :
    BreaksAddress (tokensOf source) := by
  obtain ⟨t, ht⟩ := Classical.not_forall.1 h
  obtain ⟨hmem, hbreak⟩ := Classical.not_imp.1 ht
  have hbreak := Classical.not_not.1 hbreak
  rcases List.mem_append.1 (hts hmem) with hsource | hcloser
  · obtain ⟨written, rfl, hwritten⟩ := badUrl_of_newline_token hsource hbreak
    exact ⟨written, hsource, hwritten⟩
  · obtain ⟨b, -, rfl⟩ := List.mem_map.1 hcloser
    exact absurd hbreak (by cases b <;> decide)

theorem mem_tokensOf_of_unnest {source : String} {t : Token}
    (h : t ∈ tokensOf source ++ closers (openBehind [] (tokensOf source)))
    (hopen : ∀ b, t ≠ .closeBracket b) : t ∈ tokensOf source := by
  refine (List.mem_append.1 h).resolve_right fun hcloser => ?_
  obtain ⟨b, -, rfl⟩ := List.mem_map.1 hcloser
  exact hopen b rfl

theorem beforeClosing_subset (cs : List Component) : unnest (beforeClosing cs) ⊆ unnest cs := by
  conv => rhs; rw [← List.takeWhile_append_dropWhile (p := fun c => !c.closes) (l := cs)]
  rw [unnest_append]
  exact List.subset_append_left _ _

theorem beforeSemicolon_subset (cs : List Component) : unnest (beforeSemicolon cs) ⊆ unnest cs := by
  conv => rhs; rw [← List.takeWhile_append_dropWhile (p := fun c => !c.isToken .semicolon) (l := cs)]
  rw [unnest_append]
  exact List.subset_append_left _ _

/-- Line feeds in what is extracted from a source have their reasons in the source. -/
theorem law_reasoned (source : String) :
    Law (fun _ cs => unnest cs ⊆ tokensOf source ++ closers (openBehind [] (tokensOf source)))
      (Setting.Reasoned (tokensOf source)) (Event.Reasoned (tokensOf source)) where
  suffix hcs hds := fun t ht => hcs ((unnest_suffix hds).subset ht)
  content {room front opener line content endLine rest} hcs := by
    intro t ht
    refine hcs ?_
    rw [unnest_append]
    refine List.mem_append_right _ (List.mem_append_left _ ?_)
    exact List.mem_cons_of_mem _ (List.mem_append_left _ ht)
  notice _ := trivial
  item {room setting c rest} hcs hsetting endLine item hitem := by
    have hphrase : ∀ cs, unnest cs ⊆ unnest (c :: rest) →
        '\n' ∈ (phraseText room (beforeClosing cs)).toList → BreaksAddress (tokensOf source) := by
      intro cs hsub hmem
      refine breaks_of_not_unbroken (fun t ht => hcs (hsub (beforeClosing_subset cs ht))) ?_
      exact fun h => onOneLine_phraseText h hmem
    have hbehind : unnest rest ⊆ unnest (c :: rest) := List.subset_append_right _ _
    have hfinds := finds_of_nextStep hitem
    cases hfinds with
    | atRule name line _ block? =>
        have hname := mem_tokensOf_of_unnest (hcs List.mem_cons_self) nofun
        exact ⟨reasoned_atRuleSetting hsetting hname, ⟨name, hname, rfl⟩, hphrase rest hbehind⟩
    | rule line body =>
        intro block
        have htext := hphrase (c :: rest) (List.Subset.refl _)
        exact ⟨fun h => .inl (htext h), htext⟩
    | @declaration name line l _ v hcolon hblock =>
        rintro selector block rfl
        have hname := mem_tokensOf_of_unnest (hcs List.mem_cons_self) nofun
        have hvalue : unnest v ⊆ unnest rest := by
          have hdrop := (unnest_suffix (suffix_dropBlanks rest)).subset
          rw [hcolon] at hdrop
          exact fun t ht => hdrop (List.mem_append_right _ ht)
        refine ⟨⟨name, hname, rfl⟩, fun hmem => ?_, hsetting⟩
        refine breaks_of_not_unbroken (fun t ht => hcs (hbehind (hvalue ?_))) fun h =>
          onOneLine_valueText h hmem
        exact beforeSemicolon_subset v ht

/-- Every line feed in what is extracted has its reason in the source. -/
theorem extract_reasoned (source : String) :
    (∀ d ∈ (extract source).declarations, Event.Reasoned (tokensOf source) (.declaration d)) ∧
      (∀ s ∈ (extract source).selectors, Event.Reasoned (tokensOf source) (.selector s)) ∧
      ∀ a ∈ (extract source).atRules, Event.Reasoned (tokensOf source) (.atRule a) := by
  refine (law_reasoned source).extract ?_ trivial
  rw [unnest_content]
  intro t ht
  rcases List.mem_append.1 ht with h | h
  · exact List.mem_append_left _ (List.mem_filter.1 h).1
  · exact List.mem_append_right _ h

end FeatureScan.Css
