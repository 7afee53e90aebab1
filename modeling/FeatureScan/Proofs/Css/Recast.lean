import FeatureScan.Css.Extraction
import FeatureScan.Proofs.Css.Nested

/-!
# Reading recast components

Lines are read for notices only, and the case of letters counts nowhere. Recast components are read
in the same steps: what is found, the notices that are given and the components that are left are
recast. Keywords, and properties that are not the author's own, are put in small letters anyway.

## Main results

* `writeAll_recast`, `readPrelude_recast`, `readValue_recast`, `readDeclaration_recast`: the
  readers of phrases.
* `nextStep_recast`: one step.
* `steps_recast`: all steps through a block.
-/

namespace FeatureScan.Css

variable {ρ : Recasting}

/-! ## Recasting what is read -/

/-- A recast cause: the selector that it quotes is recast. -/
def Cause.recast (ρ : Recasting) : Cause → Cause
  | .ruleWithoutBlock selector => .ruleWithoutBlock (ρ.text selector)
  | .invalidDeclaration selector => .invalidDeclaration (ρ.text selector)
  | cause => cause

/-- A recast notice. -/
def Notice.recast (ρ : Recasting) (n : Notice) : Notice := ⟨ρ.line n.line, n.cause.recast ρ⟩

/-- A recast pen. -/
def Pen.recast (ρ : Recasting) (p : Pen) : Pen :=
  ⟨p.written.map ρ.char, p.notices.map (Notice.recast ρ)⟩

/-- The recast end of a prelude. -/
def PreludeEnd.recast (ρ : Recasting) : PreludeEnd → PreludeEnd
  | .block line body => .block (ρ.line line) (body.recast ρ)
  | .semicolon line => .semicolon (ρ.line line)
  | .sourceEnd => .sourceEnd

/-- The recast end of a value. -/
def ValueEnd.recast (ρ : Recasting) : ValueEnd → ValueEnd
  | .ended pen semicolon rest =>
      .ended (pen.recast ρ) (semicolon.map ρ.line) (rest.map (Component.recast ρ))
  | .nestedRule pen => .nestedRule (pen.recast ρ)

/-- A recast property. One that is not the author's own is in small letters already. -/
def Recasting.property (ρ : Recasting) (name : String) : String :=
  if isCustomProperty name then ρ.text name else name

/-- The recast end of a declaration. -/
def DeclarationEnd.recast (ρ : Recasting) : DeclarationEnd → DeclarationEnd
  | .declared property value notices rest =>
      .declared (ρ.property property) (ρ.text value) (notices.map (Notice.recast ρ))
        (rest.map (Component.recast ρ))
  | .dropped notices line rest =>
      .dropped (notices.map (Notice.recast ρ)) (ρ.line line) (rest.map (Component.recast ρ))
  | .noDeclaration notices => .noDeclaration (notices.map (Notice.recast ρ))

/-- A recast item. The keyword of an at-rule is in small letters already. -/
def Item.recast (ρ : Recasting) : Item → Item
  | .declaration property value => .declaration (ρ.property property) (ρ.text value)
  | .rule selector line body => .rule (ρ.text selector) (ρ.line line) (body.recast ρ)
  | .atRule keyword prelude body => .atRule keyword (ρ.text prelude) (body.map (Body.recast ρ))

/-- A recast step. -/
def Step.recast (ρ : Recasting) (s : Step) : Step :=
  ⟨s.notices.map (Notice.recast ρ), s.item.map (Item.recast ρ), s.rest.map (Component.recast ρ)⟩

/-- A recast setting. -/
def Setting.recast (ρ : Recasting) : Setting → Setting
  | .rules => .rules
  | .style selector block => .style (ρ.text selector) block

/-! ## Properties -/

theorem isCustomProperty_recast (name : String) :
    isCustomProperty (ρ.text name) = isCustomProperty name := by
  rw [isCustomProperty, isCustomProperty, ρ.toList_text]
  match name.toList with
  | [] => rfl
  | [c] => cases h : '-' == c <;> simp [Text.hasFront, Text.afterFront?, Bool.beq_comm]
  | c :: d :: cs =>
      have hbeq : ∀ e, ('-' == ρ.char e) = ('-' == e) := by
        intro e
        rw [Bool.beq_comm, ρ.char_beq rfl, Bool.beq_comm]
      simp only [Text.hasFront, List.map_cons, Text.afterFront?, hbeq]
      cases '-' == c <;> cases '-' == d <;> rfl

theorem isCustomProperty_property (name : String) :
    isCustomProperty (ρ.property name) = isCustomProperty name := by
  unfold Recasting.property
  split
  · exact isCustomProperty_recast name
  · rfl

theorem asciiLower_property (name : String) :
    Text.asciiLower (ρ.property name) = Text.asciiLower name := by
  unfold Recasting.property
  split
  · exact ρ.asciiLower_text name
  · rfl

theorem property_lines (g : Nat → Nat) (name : String) :
    (Recasting.lines g).property name = name := by
  rw [Recasting.property, Recasting.text_lines, ite_self]

/-- The property that a declaration is recorded under. -/
theorem recordedProperty_recast (name : String) :
    (if isCustomProperty (ρ.text name) then ρ.text name else Text.asciiLower (ρ.text name)) =
      ρ.property (if isCustomProperty name then name else Text.asciiLower name) := by
  rw [isCustomProperty_recast]
  by_cases h : isCustomProperty name = true
  · rw [if_pos h, if_pos h, Recasting.property, if_pos h]
  · have hlow : ¬isCustomProperty (Text.asciiLower name) = true := by
      rwa [show Text.asciiLower name = Recasting.small.text name from rfl, isCustomProperty_recast]
    rw [if_neg h, if_neg h, Recasting.property, if_neg hlow, ρ.asciiLower_text]

/-! ## Phrases -/

@[simp] theorem isBlank_recast (c : Component) : (c.recast ρ).isBlank = c.isBlank := by
  cases c with
  | leaf t line => cases t <;> rfl
  | group => rfl

@[simp] theorem isBlock_recast (c : Component) : (c.recast ρ).isBlock = c.isBlock := by
  cases c with
  | leaf t line => rfl
  | group opener kind => cases kind <;> rfl

/-- Whether a token is a mark of its own, without a name or text and without a letter. -/
def Token.isMark : Token → Bool
  | .blank | .colon | .semicolon => true
  | .delim c => !c.isAlpha
  | _ => false

/-- A mark is recast to itself, and nothing else is recast to it. -/
theorem Token.recast_eq_iff {t : Token} (ht : t.isMark = true) (t' : Token) :
    t'.recast ρ = t ↔ t' = t := by
  cases t with
  | blank | colon | semicolon => cases t' <;> simp [Token.recast]
  | delim c =>
      have hc : c.isAlpha = false := by simpa [Token.isMark] using ht
      cases t' <;> simp [Token.recast, ρ.char_eq_iff hc]
  | _ => cases ht

theorem Component.recast_mark {t : Token} (ht : t.isMark = true) (line : Nat) :
    (Component.leaf t line).recast ρ = .leaf t (ρ.line line) := by
  rw [Component.recast_leaf, (Token.recast_eq_iff ht t).2 rfl]

theorem isToken_recast {t : Token} (ht : t.isMark = true) (c : Component) :
    (c.recast ρ).isToken t = c.isToken t := by
  cases c with
  | leaf t' line =>
      rw [Component.recast_leaf, Component.isToken, Component.isToken, Bool.eq_iff_iff, beq_iff_eq,
        beq_iff_eq, Token.recast_eq_iff ht]
  | group => rfl

theorem eq_leaf_of_recast {c : Component} {t : Token} (ht : t.isMark = true) {line : Nat}
    (h : c.recast ρ = .leaf t line) : ∃ line', c = .leaf t line' := by
  cases c with
  | leaf t' line' =>
      rw [Component.recast_leaf, Component.leaf.injEq, Token.recast_eq_iff ht] at h
      exact ⟨line', by rw [h.1]⟩
  | group opener kind line' content endLine =>
      rw [Component.recast_group] at h
      cases h

theorem eq_group_of_recast {c : Component} {opener : Token} {kind : Bracket} {line : Nat}
    {content : List Component} {endLine : Nat}
    (h : c.recast ρ = .group opener kind line content endLine) :
    ∃ opener' line' content' endLine', c = .group opener' kind line' content' endLine' := by
  cases c with
  | leaf t' line' => cases h
  | group opener' kind' line' content' endLine' =>
      rw [Component.recast_group] at h
      cases h
      exact ⟨opener', line', content', endLine', rfl⟩

theorem dropBlanks_recast (cs : List Component) :
    dropBlanks (cs.map (Component.recast ρ)) = (dropBlanks cs).map (Component.recast ρ) := by
  induction cs with
  | nil => rfl
  | cons c cs ih =>
      unfold dropBlanks at ih ⊢
      rw [List.map_cons, List.dropWhile_cons, List.dropWhile_cons, isBlank_recast]
      split
      · exact ih
      · rfl

@[simp] theorem fresh_recast : Pen.fresh.recast ρ = Pen.fresh := rfl

@[simp] theorem penText_recast (p : Pen) : (p.recast ρ).text = ρ.text p.text := by
  rw [Pen.text, Pen.text, ρ.text_ofList]
  change String.ofList (Text.trim (p.written.map ρ.char).reverse) = _
  rw [← List.map_reverse, Text.trim_map (ρ.of_ignoresCase Text.ignoresCase_isBlank)]

@[simp] theorem space_recast (p : Pen) : (p.recast ρ).space = p.space.recast ρ := by
  obtain ⟨written, notices⟩ := p
  cases written with
  | nil => rfl
  | cons c cs =>
      simp only [Pen.space, Pen.recast, List.map_cons, ρ.char_beq (d := ' ') rfl,
        ρ.char_beq (d := '(') rfl, ρ.char_beq (d := '[') rfl]
      split
      · rfl
      · rw [List.map_cons, List.map_cons, ρ.char_of_not_isAlpha (c := ' ') rfl]

theorem put_recast (cs : List Char) (p : Pen) :
    (p.recast ρ).put (cs.map ρ.char) = (p.put cs).recast ρ := by
  simp only [Pen.put, Pen.recast, List.map_append, List.map_reverse]

/-- Signs without capitals are written as they are. -/
theorem put_small_recast {cs : List Char} (hcs : ∀ c ∈ cs, Text.lowerChar c = c) (p : Pen) :
    (p.recast ρ).put cs = (p.put cs).recast ρ := by
  rw [← put_recast, ρ.map_of_small hcs]

theorem close_recast (c : Bracket) (p : Pen) :
    (p.recast ρ).close c.closer = (p.close c.closer).recast ρ := by
  have hcloser : ρ.char c.closer = c.closer := ρ.char_of_not_isAlpha (by cases c <;> rfl)
  simp only [Pen.close, Pen.recast, List.map_cons, hcloser]
  rw [Text.map_dropWhile (ρ.of_ignoresCase Text.ignoresCase_isBlank)]

theorem reverse_notices_recast (p : Pen) :
    (p.recast ρ).notices.reverse = p.notices.reverse.map (Notice.recast ρ) :=
  List.map_reverse.symm

@[simp] theorem writeAll_nil (room : Nat) (p : Pen) : Pen.writeAll room [] p = p := by
  rw [Pen.writeAll, List.foldl_nil]

theorem writeAll_cons (room : Nat) (c : Component) (cs : List Component) (p : Pen) :
    Pen.writeAll room (c :: cs) p = Pen.writeAll room cs (p.write room c) := by
  rw [Pen.write, Pen.writeAll, Pen.writeAll, Pen.writeAll, List.foldl_cons, List.foldl_cons,
    List.foldl_nil]

/-- A bracketed group that is written: its opening token, its content if there is room for it, and
its closing bracket. -/
theorem write_group {kind : Bracket} (hkind : kind ≠ .curly) (room : Nat) (opener : Token)
    (line : Nat) (content : List Component) (endLine : Nat) (p : Pen) :
    p.write room (.group opener kind line content endLine) =
      (match room with
        | 0 => (p.put opener.text).note ⟨line, .tooDeep⟩
        | room + 1 => Pen.writeAll room content (p.put opener.text)).close kind.closer := by
  rw [Pen.write, Pen.writeAll, List.foldl_cons, List.foldl_nil]
  cases kind with
  | curly => exact absurd rfl hkind
  | round | square => cases room <;> rfl

theorem write_block (room : Nat) (opener : Token) (line : Nat) (content : List Component)
    (endLine : Nat) (p : Pen) : p.write room (.group opener .curly line content endLine) = p := by
  rw [Pen.write, Pen.writeAll, List.foldl_cons, List.foldl_nil]

theorem write_leaf (room : Nat) (t : Token) (line : Nat) (p : Pen) :
    p.write room (.leaf t line) = if t = .blank then p.space else p.put t.text := by
  rw [Pen.write, Pen.writeAll, List.foldl_cons, List.foldl_nil]
  cases t <;> rfl

theorem write_recast_of (room : Nat) (c : Component) (p : Pen)
    (h : ∀ deeper content q, room = deeper + 1 →
      Pen.writeAll deeper (content.map (Component.recast ρ)) (q.recast ρ) =
        (Pen.writeAll deeper content q).recast ρ) :
    (p.recast ρ).write room (c.recast ρ) = (p.write room c).recast ρ := by
  cases c with
  | leaf t line =>
      rw [Component.recast_leaf, write_leaf, write_leaf]
      simp only [Token.recast_eq_iff (t := .blank) rfl]
      split
      · exact space_recast p
      · rw [text_recast, put_recast]
  | group opener kind line content endLine =>
      rw [Component.recast_group]
      by_cases hkind : kind = .curly
      · subst hkind
        rw [write_block, write_block]
      · rw [write_group hkind, write_group hkind, text_recast, put_recast]
        cases room with
        | zero => exact close_recast kind ((p.put opener.text).note ⟨line, .tooDeep⟩)
        | succ room =>
            dsimp only
            rw [h room content _ rfl, close_recast]

theorem writeAll_recast (room : Nat) (cs : List Component) (p : Pen) :
    Pen.writeAll room (cs.map (Component.recast ρ)) (p.recast ρ) =
      (Pen.writeAll room cs p).recast ρ := by
  induction room generalizing cs p with
  | zero =>
      induction cs generalizing p with
      | nil => rw [List.map_nil, writeAll_nil, writeAll_nil]
      | cons c cs ih =>
          rw [List.map_cons, writeAll_cons, writeAll_cons,
            write_recast_of 0 c p (fun _ _ _ h => nomatch h), ih]
  | succ room ihroom =>
      induction cs generalizing p with
      | nil => rw [List.map_nil, writeAll_nil, writeAll_nil]
      | cons c cs ih =>
          rw [List.map_cons, writeAll_cons, writeAll_cons, write_recast_of (room + 1) c p, ih]
          rintro deeper content q h
          obtain rfl := Nat.succ.inj h
          exact ihroom content q

theorem write_recast (room : Nat) (c : Component) (p : Pen) :
    (p.recast ρ).write room (c.recast ρ) = (p.write room c).recast ρ :=
  writeAll_recast room [c] p

theorem readPrelude_recast (room : Nat) (cs : List Component) (p : Pen) :
    readPrelude room (cs.map (Component.recast ρ)) (p.recast ρ) =
      ((readPrelude room cs p).1.recast ρ, (readPrelude room cs p).2.1.recast ρ,
        (readPrelude room cs p).2.2.map (Component.recast ρ)) := by
  fun_induction readPrelude room cs p with
  | case1 p => rfl
  | case2 opener line content endLine cs p =>
      rw [List.map_cons, Component.recast_group]
      rfl
  | case3 line cs p => rfl
  | case4 c cs p hgroup hsemi ih =>
      rw [List.map_cons, readPrelude, write_recast, ih]
      · intro opener line content endLine h
        obtain ⟨opener', line', content', endLine', rfl⟩ := eq_group_of_recast h
        exact hgroup _ _ _ _ rfl
      · intro line h
        obtain ⟨line', rfl⟩ := eq_leaf_of_recast rfl h
        exact hsemi _ rfl

theorem importantBehind?_recast (cs : List Component) :
    importantBehind? (cs.map (Component.recast ρ)) =
      (importantBehind? cs).map (List.map (Component.recast ρ)) := by
  unfold importantBehind?
  rw [dropBlanks_recast]
  cases dropBlanks cs with
  | nil => rfl
  | cons c cs =>
      cases c with
      | leaf t line =>
          cases t with
          | ident name =>
              simp only [List.map_cons, Component.recast_leaf, Token.recast, ρ.asciiLower_text]
              split <;> rfl
          | _ => rfl
      | group => rfl

theorem afterImportant?_recast (c : Component) (cs : List Component) :
    afterImportant? (c.recast ρ) (cs.map (Component.recast ρ)) =
      (afterImportant? c cs).map (List.map (Component.recast ρ)) := by
  unfold afterImportant?
  rw [isToken_recast rfl, importantBehind?_recast]
  split <;> rfl

/-- What a component that is neither semicolon nor white space does, seen through the
renumbering. -/
theorem readValue_other_recast (room : Nat) (custom important : Bool) (p : Pen) {c : Component}
    (rest : List Component) (hsemi : ∀ line, c = .leaf .semicolon line → False)
    (hblank : ∀ line, c = .leaf .blank line → False) :
    readValue room custom important ((c :: rest).map (Component.recast ρ)) (p.recast ρ) =
      match (afterImportant? c rest).map (List.map (Component.recast ρ)) with
      | some behind => readValue room custom true behind (p.recast ρ)
      | none =>
        if c.isBlock then
          if custom then
            readValue room custom important (rest.map (Component.recast ρ)) (p.recast ρ)
          else .nestedRule (p.recast ρ)
        else
          readValue room custom false (rest.map (Component.recast ρ))
            (((if important then p.space.put "!important ".toList else p).write room c).recast
              ρ) := by
  rw [List.map_cons, readValue, afterImportant?_recast, isBlock_recast]
  · cases (afterImportant? c rest).map (List.map (Component.recast ρ)) with
    | some behind => rfl
    | none =>
        dsimp only
        rw [← write_recast]
        cases important
        · rfl
        · rw [if_pos rfl, if_pos rfl, space_recast, put_small_recast (Text.small_of_all rfl)]
  · intro line h
    obtain ⟨line', rfl⟩ := eq_leaf_of_recast rfl h
    exact hsemi _ rfl
  · intro line h
    obtain ⟨line', rfl⟩ := eq_leaf_of_recast rfl h
    exact hblank _ rfl

theorem readValue_recast (room : Nat) (custom important : Bool) (cs : List Component) (p : Pen) :
    readValue room custom important (cs.map (Component.recast ρ)) (p.recast ρ) =
      (readValue room custom important cs p).recast ρ := by
  fun_induction readValue room custom important cs p with
  | case1 important p =>
      rw [List.map_nil, readValue]
      rfl
  | case2 important p line rest =>
      rw [List.map_cons, Component.recast_mark rfl, readValue]
      rfl
  | case3 important p line rest ih =>
      rw [List.map_cons, Component.recast_mark rfl, readValue, space_recast, ih]
  | case4 important p c rest hsemi hblank behind hb ih =>
      rw [readValue_other_recast room custom important p rest hsemi hblank, hb]
      exact ih
  | case5 important p c rest hsemi hblank hb hblock hcustom ih =>
      rw [readValue_other_recast room custom important p rest hsemi hblank, hb, Option.map_none]
      dsimp only
      rw [if_pos hblock, if_pos hcustom]
      exact ih
  | case6 important p c rest hsemi hblank hb hblock hcustom =>
      rw [readValue_other_recast room custom important p rest hsemi hblank, hb, Option.map_none]
      dsimp only
      rw [if_pos hblock, if_neg hcustom]
      rfl
  | case7 important p c rest hsemi hblank hb hblock q ih =>
      rw [readValue_other_recast room custom important p rest hsemi hblank, hb, Option.map_none]
      dsimp only
      rw [if_neg hblock]
      exact ih

/-! ## Declarations -/

theorem skipDeclaration_recast (endLine : Nat) (cs : List Component) :
    skipDeclaration (ρ.line endLine) (cs.map (Component.recast ρ)) =
      (skipDeclaration endLine cs).recast ρ := by
  fun_induction skipDeclaration endLine cs with
  | case1 => rfl
  | case2 line rest => rfl
  | case3 c rest hsemi hblock =>
      rw [List.map_cons, skipDeclaration, isBlock_recast, if_pos hblock]
      · rfl
      · intro line h
        obtain ⟨line', rfl⟩ := eq_leaf_of_recast rfl h
        exact hsemi _ rfl
  | case4 c rest hsemi hblock ih =>
      rw [List.map_cons, skipDeclaration, isBlock_recast, if_neg hblock, ih]
      intro line h
      obtain ⟨line', rfl⟩ := eq_leaf_of_recast rfl h
      exact hsemi _ rfl

/-- What a value makes of a declaration of `name`. -/
def declarationOf (name : String) (endLine : Nat) : ValueEnd → DeclarationEnd
  | .nestedRule pen => .noDeclaration pen.notices.reverse
  | .ended pen semicolon rest =>
    if pen.text == "" && !isCustomProperty name then
      .dropped pen.notices.reverse (semicolon.getD endLine) rest
    else
      .declared (if isCustomProperty name then name else Text.asciiLower name) pen.text
        pen.notices.reverse rest

/-- Behind the name of a declaration a colon and a value come next, or it is skipped. -/
theorem readDeclaration_ident (room : Nat) (name : String) (line : Nat) (cs : List Component)
    (endLine : Nat) :
    readDeclaration room (.leaf (.ident name) line :: cs) endLine =
      match (dropBlanks cs).head?.any (Component.isToken .colon) with
      | true => declarationOf name endLine
          (readValue room (isCustomProperty name) false (dropBlanks cs).tail .fresh)
      | false => skipDeclaration endLine (dropBlanks cs).tail := by
  rw [readDeclaration]
  cases dropBlanks cs with
  | nil => rfl
  | cons c rest =>
      cases c with
      | leaf t l =>
          cases t with
          | colon =>
              change _ = declarationOf name endLine (readValue _ _ _ rest _)
              dsimp only
              cases readValue room (isCustomProperty name) false rest .fresh <;> rfl
          | _ => rfl
      | group => rfl

theorem declarationOf_recast (name : String) (endLine : Nat) (v : ValueEnd) :
    declarationOf (ρ.text name) (ρ.line endLine) (v.recast ρ) =
      (declarationOf name endLine v).recast ρ := by
  cases v with
  | nestedRule pen => simp [ValueEnd.recast, declarationOf, reverse_notices_recast,
      DeclarationEnd.recast]
  | ended pen semicolon rest =>
      simp only [ValueEnd.recast, declarationOf, penText_recast, reverse_notices_recast,
        recordedProperty_recast, ρ.text_beq_empty]
      rw [isCustomProperty_recast]
      split
      · cases semicolon <;> rfl
      · rfl

theorem readDeclaration_recast (room : Nat) (cs : List Component) (endLine : Nat) :
    readDeclaration room (cs.map (Component.recast ρ)) (ρ.line endLine) =
      (readDeclaration room cs endLine).recast ρ := by
  have hother : ∀ c rest, (∀ name line, c ≠ .leaf (.ident name) line) →
      readDeclaration room (c :: rest) endLine = .noDeclaration [] ∧
        readDeclaration room ((c :: rest).map (Component.recast ρ)) (ρ.line endLine) =
          .noDeclaration [] := by
    intro c rest hc
    cases c with
    | leaf t l =>
        cases t with
        | ident name => exact absurd rfl (hc name l)
        | _ => exact ⟨rfl, rfl⟩
    | group opener kind line content e =>
        rw [List.map_cons, Component.recast_group]
        exact ⟨rfl, rfl⟩
  cases cs with
  | nil => rfl
  | cons c rest =>
      by_cases hc : ∃ name line, c = .leaf (.ident name) line
      · obtain ⟨name, line, rfl⟩ := hc
        rw [List.map_cons, Component.recast_leaf, Token.recast, readDeclaration_ident,
          readDeclaration_ident, isCustomProperty_recast, dropBlanks_recast, List.head?_map,
          ← List.map_tail]
        have hcolon : ((dropBlanks rest).head?.map (Component.recast ρ)).any
            (Component.isToken .colon) =
              (dropBlanks rest).head?.any (Component.isToken .colon) := by
          rw [Option.any_map]
          congr 1
          exact funext (isToken_recast rfl)
        rw [hcolon]
        cases (dropBlanks rest).head?.any (Component.isToken .colon) with
        | true =>
            dsimp only
            rw [← declarationOf_recast, ← readValue_recast, fresh_recast]
        | false => exact skipDeclaration_recast endLine (dropBlanks rest).tail
      · have hne : ∀ name line, c ≠ .leaf (.ident name) line :=
          fun name line h => hc ⟨name, line, h⟩
        rw [(hother c rest hne).1, (hother c rest hne).2]
        rfl

/-! ## Steps -/

theorem ruleStep_recast (room : Nat) (cs : List Component) (endLine : Nat) :
    ruleStep room (cs.map (Component.recast ρ)) (ρ.line endLine) =
      (ruleStep room cs endLine).recast ρ := by
  unfold ruleStep
  rw [← fresh_recast (ρ := ρ), readPrelude_recast, fresh_recast]
  obtain ⟨pen, ending, rest⟩ := readPrelude room cs .fresh
  dsimp only
  rw [reverse_notices_recast, penText_recast]
  cases ending with
  | semicolon line => simp [PreludeEnd.recast, Step.recast, Notice.recast, Cause.recast]
  | sourceEnd => simp [PreludeEnd.recast, Step.recast, Notice.recast, Cause.recast]
  | block line body =>
      simp only [PreludeEnd.recast, ρ.text_beq_empty]
      split
      · simp [Step.recast, Notice.recast, Cause.recast]
      · split
        · simp [Step.recast, Notice.recast, Cause.recast]
        · simp [Step.recast, Item.recast]

theorem atRuleStep_recast (room : Nat) (name : String) (cs : List Component) :
    atRuleStep room (ρ.text name) (cs.map (Component.recast ρ)) =
      (atRuleStep room name cs).recast ρ := by
  unfold atRuleStep
  rw [← fresh_recast (ρ := ρ), readPrelude_recast, fresh_recast, ρ.asciiLower_text]
  obtain ⟨pen, ending, rest⟩ := readPrelude room cs .fresh
  dsimp only
  rw [reverse_notices_recast, penText_recast]
  cases ending with
  | semicolon line => rfl
  | sourceEnd => rfl
  | block line body =>
      simp only [PreludeEnd.recast]
      split
      · simp [Step.recast, Notice.recast, Cause.recast, Item.recast]
      · simp [Step.recast, Item.recast]

theorem rulesStep_recast (room : Nat) (c : Component) (cs : List Component) (endLine : Nat) :
    rulesStep room (c.recast ρ) (cs.map (Component.recast ρ)) (ρ.line endLine) =
      (rulesStep room c cs endLine).recast ρ := by
  have hrule := ruleStep_recast (ρ := ρ) room (c :: cs) endLine
  cases c with
  | leaf t line =>
      cases t with
      | atKeyword name => exact atRuleStep_recast room name cs
      | semicolon | commentOpen | commentClose | closeBracket b => rfl
      | _ => exact hrule
  | group opener kind line content e =>
      rw [List.map_cons, Component.recast_group] at hrule
      rw [Component.recast_group]
      exact hrule

/-- The step that follows from how reading a declaration ended; `retry` reads a rule instead. -/
def declarationStep (selector : String) (retry : Step) : DeclarationEnd → Step
  | .declared property value notices rest => ⟨notices, some (.declaration property value), rest⟩
  | .dropped notices line rest =>
      ⟨notices ++ [(⟨line, .invalidDeclaration selector⟩ : Notice)], none, rest⟩
  | .noDeclaration notices => ⟨notices ++ retry.notices, retry.item, retry.rest⟩

/-- Inside the block of a selector stand at-rules, stray semicolons, and declarations or rules. -/
theorem styleStep_eq (room : Nat) (selector : String) (c : Component) (cs : List Component)
    (endLine : Nat) :
    styleStep room selector c cs endLine =
      match c with
      | .leaf (.atKeyword name) _ => atRuleStep room name cs
      | .leaf .semicolon _ => ⟨[], none, cs⟩
      | c => declarationStep selector (ruleStep room (c :: cs) endLine)
          (readDeclaration room (c :: cs) endLine) := by
  have hother : ∀ c, (match readDeclaration room (c :: cs) endLine with
      | .declared property value notices rest =>
        (⟨notices, some (.declaration property value), rest⟩ : Step)
      | .dropped notices line rest =>
        ⟨notices ++ [(⟨line, .invalidDeclaration selector⟩ : Notice)], none, rest⟩
      | .noDeclaration notices =>
        let step := ruleStep room (c :: cs) endLine
        { step with notices := notices ++ step.notices }) =
      declarationStep selector (ruleStep room (c :: cs) endLine)
        (readDeclaration room (c :: cs) endLine) := by
    intro c
    cases readDeclaration room (c :: cs) endLine <;> rfl
  cases c with
  | leaf t line => cases t <;> rfl
  | group opener kind line content e => exact hother (.group opener kind line content e)

theorem declarationStep_recast (selector : String) (retry : Step) (d : DeclarationEnd) :
    declarationStep (ρ.text selector) (retry.recast ρ) (d.recast ρ) =
      (declarationStep selector retry d).recast ρ := by
  cases d <;> simp [declarationStep, DeclarationEnd.recast, Step.recast, Item.recast,
    Notice.recast, Cause.recast]

theorem styleStep_recast (room : Nat) (selector : String) (c : Component) (cs : List Component)
    (endLine : Nat) :
    styleStep room (ρ.text selector) (c.recast ρ) (cs.map (Component.recast ρ)) (ρ.line endLine) =
      (styleStep room selector c cs endLine).recast ρ := by
  have hother : declarationStep (ρ.text selector)
        (ruleStep room (c.recast ρ :: cs.map (Component.recast ρ)) (ρ.line endLine))
        (readDeclaration room (c.recast ρ :: cs.map (Component.recast ρ)) (ρ.line endLine)) =
      (declarationStep selector (ruleStep room (c :: cs) endLine)
        (readDeclaration room (c :: cs) endLine)).recast ρ := by
    rw [← List.map_cons, ruleStep_recast, readDeclaration_recast, declarationStep_recast]
  rw [styleStep_eq, styleStep_eq]
  cases c with
  | leaf t line =>
      cases t with
      | atKeyword name => exact atRuleStep_recast room name cs
      | semicolon => rfl
      | _ => exact hother
  | group opener kind line content e =>
      rw [Component.recast_group] at hother ⊢
      exact hother

theorem nextStep_recast (room : Nat) (setting : Setting) (c : Component) (cs : List Component)
    (endLine : Nat) :
    nextStep room (setting.recast ρ) (c.recast ρ) (cs.map (Component.recast ρ))
        (ρ.line endLine) =
      (nextStep room setting c cs endLine).recast ρ := by
  cases setting with
  | rules => exact rulesStep_recast room c cs endLine
  | style selector block => exact styleStep_recast room selector c cs endLine

/-! ## All steps of a block -/

theorem stepsFrom_nil {room : Nat} {setting : Setting} {endLine : Nat} {done : List Step}
    {cs : List Component} (h : dropBlanks cs = []) :
    stepsFrom room setting endLine done cs = done.reverse := by
  rw [stepsFrom]
  split
  · rfl
  · rename_i heq
    rw [h] at heq
    cases heq

theorem stepsFrom_cons {room : Nat} {setting : Setting} {endLine : Nat} {done : List Step}
    {cs rest : List Component} {c : Component} (h : dropBlanks cs = c :: rest) :
    stepsFrom room setting endLine done cs =
      stepsFrom room setting endLine (nextStep room setting c rest endLine :: done)
        (nextStep room setting c rest endLine).rest := by
  rw [stepsFrom]
  split
  · rename_i heq
    rw [h] at heq
    cases heq
  · rename_i heq
    rw [h] at heq
    cases heq
    rfl

theorem stepsFrom_eq_append (room : Nat) (setting : Setting) (endLine : Nat) (done : List Step)
    (cs : List Component) :
    stepsFrom room setting endLine done cs =
      done.reverse ++ stepsFrom room setting endLine [] cs := by
  induction hn : cs.length using Nat.strongRecOn generalizing done cs with
  | ind n ih =>
      cases hcs : dropBlanks cs with
      | nil => rw [stepsFrom_nil hcs, stepsFrom_nil hcs, List.reverse_nil, List.append_nil]
      | cons c rest =>
          have hle := length_dropBlanks_le cs
          have hlt := length_rest_nextStep_lt room setting c rest endLine
          rw [hcs] at hle
          rw [stepsFrom_cons hcs, stepsFrom_cons hcs, ih _ (by omega) _ _ rfl,
            ih _ (by omega) [_] _ rfl, List.reverse_cons, List.append_assoc, List.reverse_singleton]

theorem stepsFrom_recast (room : Nat) (setting : Setting) (endLine : Nat) (done : List Step)
    (cs : List Component) :
    stepsFrom room (setting.recast ρ) (ρ.line endLine) (done.map (Step.recast ρ))
        (cs.map (Component.recast ρ)) =
      (stepsFrom room setting endLine done cs).map (Step.recast ρ) := by
  fun_induction stepsFrom room setting endLine done cs with
  | case1 done cs hnil =>
      rw [stepsFrom_nil (by rw [dropBlanks_recast, hnil, List.map_nil]), List.map_reverse]
  | case2 done cs c rest hcons step ih =>
      rw [stepsFrom_cons (by rw [dropBlanks_recast, hcons, List.map_cons]), nextStep_recast]
      exact ih

/-- A recast block is read in recast steps. -/
theorem steps_recast (room : Nat) (setting : Setting) (body : Body) :
    steps room (setting.recast ρ) (body.recast ρ) =
      (steps room setting body).map (Step.recast ρ) :=
  stepsFrom_recast room setting body.endLine [] body.content

/-! ## Other lines -/

/-- A notice on another line. -/
def Notice.relined (g : Nat → Nat) (n : Notice) : Notice := ⟨g n.line, n.cause⟩

theorem Notice.recast_lines (g : Nat → Nat) : Notice.recast (.lines g) = relined g := by
  funext n
  obtain ⟨line, cause⟩ := n
  cases cause <;> simp only [recast, Cause.recast, Recasting.text_lines] <;> rfl

end FeatureScan.Css
