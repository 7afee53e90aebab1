import FeatureScan.Proofs.Css.Taking

/-!
# Steps past a component and onto it

A step looks at the components that it takes, and hardly at any other. One that leaves a component to
later steps is the same step when another of its kind stands there: of an at-keyword the name may be
another, of a group the content. One that takes a block last finds the same item with another content
in that block.

## Main results

* `readPrelude_left`, `readPrelude_taken`: preludes in front of a component and up to it.
* `readValue_swaps`, `readDeclaration_swaps`: values and declarations.
* `nextStep_swaps`: steps.
-/

namespace FeatureScan.Css

variable {x x' : Component}

/-! ## Two components of one kind -/

/-- Two keywords of at-rules, or two groups in the same brackets. -/
inductive Kindred : Component → Component → Prop
  | keyword (name name' : String) (line : Nat) :
      Kindred (.leaf (.atKeyword name) line) (.leaf (.atKeyword name') line)
  | group (opener : Token) (kind : Bracket) (line : Nat) (content content' : List Component)
      (endLine : Nat) :
      Kindred (.group opener kind line content endLine) (.group opener kind line content' endLine)

namespace Kindred

theorem isBlank_left (h : Kindred x x') : x.isBlank = false := by cases h <;> rfl

theorem isBlock_eq (h : Kindred x x') : x.isBlock = x'.isBlock := by
  cases h with
  | keyword => rfl
  | group opener kind => cases kind <;> rfl

/-- Neither is any other token. -/
theorem isToken_left (h : Kindred x x') {t : Token} (ht : ∀ name, t ≠ .atKeyword name) :
    x.isToken t = false := by
  cases h with
  | keyword name name' line => exact beq_eq_false_iff_ne.2 fun heq => ht name heq.symm
  | group => rfl

theorem symm (h : Kindred x x') : Kindred x' x := by
  cases h with
  | keyword name name' line => exact .keyword name' name line
  | group opener kind line content content' endLine =>
      exact .group opener kind line content' content endLine

end Kindred

theorem dropBlanks_middle {a : List Component} {y : Component} (hy : y.isBlank = false)
    (post : List Component) : dropBlanks (a ++ y :: post) = dropBlanks a ++ y :: post := by
  induction a with
  | nil =>
      unfold dropBlanks
      rw [List.nil_append, List.dropWhile_cons, hy]
      rfl
  | cons c a ih =>
      unfold dropBlanks at ih ⊢
      rw [List.cons_append, List.dropWhile_cons, List.dropWhile_cons]
      split
      · exact ih
      · rfl

/-! ## Preludes -/

section Prelude

variable {y y' : Component} {post : List Component}

/-- What closes a construct ends a prelude. -/
theorem readPrelude_stop {c : Component} (hc : c.closes = true) (room : Nat) (p : Pen) :
    ∃ ending, ∀ cs, readPrelude room (c :: cs) p = (p, ending, cs) := by
  cases c with
  | leaf t line =>
      have ht : t = .semicolon := beq_iff_eq.1 hc
      subst ht
      exact ⟨.semicolon line, fun _ => by rw [readPrelude]⟩
  | group opener kind line content endLine =>
      have hkind : kind = .curly := by
        cases kind with
        | curly => rfl
        | round | square => cases hc
      subst hkind
      exact ⟨.block line ⟨content, endLine⟩, fun _ => by rw [readPrelude]⟩

/-- All else is part of it. -/
theorem readPrelude_pass {c : Component} (hc : c.closes = false) (room : Nat) (cs : List Component)
    (p : Pen) : readPrelude room (c :: cs) p = readPrelude room cs (p.write room c) := by
  refine readPrelude.eq_4 room p c cs ?_ ?_
  · rintro opener line content endLine rfl
    cases hc
  · rintro line rfl
    cases hc

/-- A prelude that ends in front of a component does not look at it. -/
theorem readPrelude_left (y' : Component) {room : Nat} {a : List Component} {p : Pen}
    (h : post.length < (readPrelude room (a ++ y :: post) p).2.2.length) :
    ∃ pen ending a₂, readPrelude room (a ++ y :: post) p = (pen, ending, a₂ ++ y :: post) ∧
      readPrelude room (a ++ y' :: post) p = (pen, ending, a₂ ++ y' :: post) := by
  induction a generalizing p with
  | nil =>
      have hlt := length_readPrelude_lt room y post p
      simp only [List.nil_append, List.length_cons] at h hlt
      omega
  | cons c a ih =>
      rw [List.cons_append] at h ⊢
      rw [List.cons_append]
      cases hc : c.closes with
      | true =>
          obtain ⟨ending, hend⟩ := readPrelude_stop hc room p
          exact ⟨p, ending, a, hend _, hend _⟩
      | false =>
          rw [readPrelude_pass hc] at h ⊢
          rw [readPrelude_pass hc]
          exact ih h

/-- A prelude that ends behind a component ends at it, if that is a block, or passes it. -/
theorem readPrelude_taken {room : Nat} {a : List Component} {p : Pen} {line : Nat} {body : Body}
    (hkin : Kindred y y')
    (hrest : (readPrelude room (a ++ y :: post) p).2.2.length = post.length)
    (hend : (readPrelude room (a ++ y :: post) p).2.1 = .block line body) :
    ∃ pen opener content content' endLine, y = .group opener .curly line content endLine ∧
      y' = .group opener .curly line content' endLine ∧ body = ⟨content, endLine⟩ ∧
      readPrelude room (a ++ y :: post) p = (pen, .block line ⟨content, endLine⟩, post) ∧
      readPrelude room (a ++ y' :: post) p = (pen, .block line ⟨content', endLine⟩, post) := by
  induction a generalizing p with
  | nil =>
      rw [List.nil_append] at hrest hend ⊢
      rw [List.nil_append]
      cases hy : y.closes with
      | true =>
          cases hkin with
          | keyword => cases hy
          | group opener kind l content content' endLine =>
              have hkind : kind = .curly := by
                cases kind with
                | curly => rfl
                | round | square => cases hy
              subst hkind
              rw [readPrelude] at hend ⊢
              cases hend
              exact ⟨p, opener, content, content', endLine, rfl, rfl, rfl, rfl, by rw [readPrelude]⟩
      | false =>
          exfalso
          rw [readPrelude_pass hy] at hrest hend
          cases post with
          | nil => cases hend
          | cons d post =>
              have hlt := length_readPrelude_lt room d post (p.write room y)
              omega
  | cons c a ih =>
      rw [List.cons_append] at hrest hend ⊢
      rw [List.cons_append]
      cases hc : c.closes with
      | true =>
          obtain ⟨ending, hstop⟩ := readPrelude_stop hc room p
          rw [hstop] at hrest
          simp at hrest
          omega
      | false =>
          rw [readPrelude_pass hc] at hrest hend ⊢
          rw [readPrelude_pass hc]
          exact ih hrest hend

end Prelude

/-! ## Rules and at-rules -/

/-- An item with another block. -/
def Item.withBody (body : Body) : Item → Item
  | .declaration property value => .declaration property value
  | .rule selector line _ => .rule selector line body
  | .atRule keyword prelude _ => .atRule keyword prelude (some body)

/-- What becomes of a step where `y'` stands in the place of `y`, with `post` behind it: a step that
leaves `y` leaves `y'`, and one that takes the block `y` last takes `y'`. -/
structure Step.Swaps (y y' : Component) (post : List Component) (s s' : Step) : Prop where
  /-- The component is left. -/
  left : post.length < s.rest.length →
    ∃ a, s.rest = a ++ y :: post ∧ s' = { s with rest := a ++ y' :: post }
  /-- The component is the block that the step takes. -/
  taken : ∀ item body, s.item = some item → item.body? = some body →
    s.rest.length = post.length →
      ∃ opener line content content' endLine, y = .group opener .curly line content endLine ∧
        y' = .group opener .curly line content' endLine ∧ body = ⟨content, endLine⟩ ∧
        s' = { s with item := some (item.withBody ⟨content', endLine⟩) }

section Steps

variable {y y' : Component}

theorem swaps_atRuleStep (h : Kindred y y') (room : Nat) (name : String)
    (a post : List Component) :
    Step.Swaps y y' post (atRuleStep room name (a ++ y :: post))
      (atRuleStep room name (a ++ y' :: post)) where
  left hleft := by
    rw [rest_atRuleStep] at hleft
    obtain ⟨pen, ending, a₂, hy, hy'⟩ := readPrelude_left y' hleft
    unfold atRuleStep
    rw [hy, hy']
    cases ending with
    | block line body =>
        dsimp only
        split <;> exact ⟨a₂, rfl, rfl⟩
    | _ => exact ⟨a₂, rfl, rfl⟩
  taken item body hitem hbody hrest := by
    rw [rest_atRuleStep] at hrest
    have htaken := @readPrelude_taken y y' post room a .fresh
    unfold atRuleStep at hitem ⊢
    generalize hr : readPrelude room (a ++ y :: post) .fresh = r at hrest hitem htaken ⊢
    obtain ⟨pen, ending, rest⟩ := r
    cases ending with
    | block line inside =>
        obtain ⟨pen', opener, content, content', endLine, hy, hy', rfl, hr, hr'⟩ :=
          htaken h hrest rfl
        dsimp only at hitem
        split at hitem
        · cases hitem
          cases hbody
        · rename_i hroom
          cases hitem
          cases hbody
          cases hr
          rw [hr']
          dsimp only
          rw [if_neg hroom, if_neg hroom]
          exact ⟨opener, line, content, content', endLine, hy, hy', rfl, rfl⟩
    | _ =>
        cases hitem
        cases hbody

theorem swaps_ruleStep (h : Kindred y y') (room : Nat) (a post : List Component) (last : Nat) :
    Step.Swaps y y' post (ruleStep room (a ++ y :: post) last)
      (ruleStep room (a ++ y' :: post) last) where
  left hleft := by
    rw [rest_ruleStep] at hleft
    obtain ⟨pen, ending, a₂, hy, hy'⟩ := readPrelude_left y' hleft
    unfold ruleStep
    rw [hy, hy']
    cases ending with
    | block line body =>
        dsimp only
        split
        · exact ⟨a₂, rfl, rfl⟩
        · split <;> exact ⟨a₂, rfl, rfl⟩
    | _ => exact ⟨a₂, rfl, rfl⟩
  taken item body hitem hbody hrest := by
    rw [rest_ruleStep] at hrest
    have htaken := @readPrelude_taken y y' post room a .fresh
    unfold ruleStep at hitem ⊢
    generalize hr : readPrelude room (a ++ y :: post) .fresh = r at hrest hitem htaken ⊢
    obtain ⟨pen, ending, rest⟩ := r
    cases ending with
    | block line inside =>
        obtain ⟨pen', opener, content, content', endLine, hy, hy', rfl, hr, hr'⟩ :=
          htaken h hrest rfl
        dsimp only at hitem
        split at hitem
        · cases hitem
        · rename_i hroom
          split at hitem
          · cases hitem
          · rename_i hselector
            cases hitem
            cases hbody
            cases hr
            rw [hr']
            dsimp only
            rw [if_neg hroom, if_neg hroom, if_neg hselector, if_neg hselector]
            exact ⟨opener, line, content, content', endLine, hy, hy', rfl, rfl⟩
    | _ => cases hitem

/-! ## Values -/

theorem eq_leaf_of_isToken {c : Component} {t : Token} (h : c.isToken t = true) :
    ∃ line, c = .leaf t line := by
  cases c with
  | leaf t' line => exact ⟨line, by rw [beq_iff_eq.1 h]⟩
  | group => cases h

theorem eq_leaf_of_isBlank {c : Component} (h : c.isBlank = true) :
    ∃ line, c = .leaf .blank line := by
  cases c with
  | leaf t line => cases t <;> first | exact ⟨line, rfl⟩ | cases h
  | group => cases h

theorem closes_takeWhile_isBlank (cs : List Component) :
    ∀ c ∈ cs.takeWhile Component.isBlank, c.closes = false := by
  intro c hc
  obtain ⟨line, rfl⟩ := eq_leaf_of_isBlank (List.all_eq_true.1 List.all_takeWhile c hc)
  rfl

/-- An `!important` closes no construct. -/
theorem closes_of_afterImportant? {c : Component} {cs behind : List Component}
    (h : afterImportant? c cs = some behind) :
    ∃ front, c :: cs = front ++ behind ∧ ∀ d ∈ front, d.closes = false := by
  unfold afterImportant? at h
  split at h
  · rename_i hc
    obtain ⟨line, rfl⟩ := eq_leaf_of_isToken hc
    unfold importantBehind? at h
    split at h
    · rename_i name l rest hdrop
      split at h
      · cases h
        refine ⟨.leaf (.delim '!') line ::
          (cs.takeWhile Component.isBlank ++ [.leaf (.ident name) l]), ?_, ?_⟩
        · have hcs := List.takeWhile_append_dropWhile (p := Component.isBlank) (l := cs)
          rw [show cs.dropWhile Component.isBlank = _ from hdrop] at hcs
          simp [hcs]
        · simp only [List.mem_cons, List.mem_append, List.not_mem_nil, or_false]
          rintro d (rfl | hd | rfl)
          · rfl
          · exact closes_takeWhile_isBlank cs d hd
          · rfl
      · cases h
    · cases h
  · cases h

theorem importantBehind?_middle (h : Kindred y y') (a post : List Component) :
    importantBehind? (a ++ y :: post) = (importantBehind? a).map (· ++ y :: post) := by
  unfold importantBehind?
  rw [dropBlanks_middle h.isBlank_left]
  cases dropBlanks a with
  | nil => cases h <;> rfl
  | cons d b =>
      cases d with
      | leaf t line =>
          cases t with
          | ident name =>
              dsimp only [List.cons_append]
              split <;> rfl
          | _ => rfl
      | group => rfl

theorem afterImportant?_middle (h : Kindred y y') (c : Component) (a post : List Component) :
    afterImportant? c (a ++ y :: post) = (afterImportant? c a).map (· ++ y :: post) := by
  unfold afterImportant?
  rw [importantBehind?_middle h]
  split <;> rfl

/-- What becomes of a value where `y'` stands in the place of `y`: it ends in front, or at a block in
front or at `y`, or it passes `y`. -/
inductive ValueEnd.Swaps (y y' : Component) (post : List Component) (passing : Prop) :
    ValueEnd → ValueEnd → Prop
  | left (pen : Pen) (semicolon : Option Nat) (a : List Component) :
      Swaps y y' post passing (.ended pen semicolon (a ++ y :: post))
        (.ended pen semicolon (a ++ y' :: post))
  | nested (pen : Pen) : Swaps y y' post passing (.nestedRule pen) (.nestedRule pen)
  | passed {v v' : ValueEnd} (hp : passing)
      (hrest : ∀ pen semicolon rest, v = .ended pen semicolon rest →
        rest.length ≤ post.length) : Swaps y y' post passing v v'

theorem readValue_other {c : Component} (hsemi : c.isToken .semicolon = false)
    (hblank : c.isBlank = false) (room : Nat) (custom important : Bool) (rest : List Component)
    (p : Pen) :
    readValue room custom important (c :: rest) p =
      match afterImportant? c rest with
      | some behind => readValue room custom true behind p
      | none =>
        if c.isBlock then
          if custom then readValue room custom important rest p else .nestedRule p
        else
          readValue room custom false rest
            ((if important then p.space.put "!important ".toList else p).write room c) := by
  rw [readValue]
  · cases afterImportant? c rest <;> rfl
  · rintro line rfl
    cases hsemi
  · rintro line rfl
    cases hblank

theorem ValueEnd.Swaps.mono {post : List Component} {passing passing' : Prop} {v v' : ValueEnd}
    (h : ValueEnd.Swaps y y' post passing v v') (hp : passing → passing') :
    ValueEnd.Swaps y y' post passing' v v' := by
  cases h with
  | left pen semicolon a => exact .left pen semicolon a
  | nested pen => exact .nested pen
  | passed hpassing hrest => exact .passed (hp hpassing) hrest

theorem readValue_swaps (h : Kindred y y') (room : Nat) (custom important : Bool)
    (a post : List Component) (p : Pen) :
    ValueEnd.Swaps y y' post (custom = false → ∀ c ∈ a ++ [y], c.closes = false)
      (readValue room custom important (a ++ y :: post) p)
      (readValue room custom important (a ++ y' :: post) p) := by
  have hsemi : ∀ {z z' : Component}, Kindred z z' → z.isToken .semicolon = false :=
    fun hz => hz.isToken_left fun _ => Token.noConfusion
  induction hn : a.length using Nat.strongRecOn generalizing a important p with
  | ind n ih =>
      cases a with
      | nil =>
          have hnone : ∀ {z z' : Component}, Kindred z z' → afterImportant? z post = none := by
            intro z z' hz
            rw [afterImportant?, hz.isToken_left fun _ => Token.noConfusion]
            rfl
          have hle : ∀ (b : Bool) (q pen : Pen) (semicolon : Option Nat) (rest : List Component),
              readValue room custom b post q = .ended pen semicolon rest →
                rest.length ≤ post.length := fun _ _ _ _ _ hv => (suffix_readValue hv).length_le
          simp only [List.nil_append]
          rw [readValue_other (hsemi h) h.isBlank_left,
            readValue_other (hsemi h.symm) h.symm.isBlank_left, hnone h, hnone h.symm,
            ← h.isBlock_eq]
          dsimp only
          by_cases hblock : y.isBlock = true
          · rw [if_pos hblock, if_pos hblock]
            cases custom with
            | true => exact .passed (fun hcustom => Bool.noConfusion hcustom) (hle _ _)
            | false => exact .nested p
          · rw [if_neg hblock, if_neg hblock]
            refine .passed (fun _ c hc => ?_) (hle _ _)
            rw [List.mem_singleton.1 hc, Component.closes, Bool.eq_false_iff.2 hblock, hsemi h]
            rfl
      | cons c a =>
          simp only [List.cons_append]
          by_cases hc : c.isToken .semicolon = true
          · obtain ⟨line, rfl⟩ := eq_leaf_of_isToken hc
            rw [readValue, readValue]
            exact .left p (some line) a
          by_cases hb : c.isBlank = true
          · obtain ⟨line, rfl⟩ := eq_leaf_of_isBlank hb
            rw [readValue, readValue]
            refine (ih a.length (by simp at hn; omega) important a p.space rfl).mono fun hp hcustom => ?_
            exact List.forall_mem_cons.2 ⟨rfl, hp hcustom⟩
          have hsemic : c.isToken .semicolon = false := Bool.eq_false_iff.2 hc
          have hblank : c.isBlank = false := Bool.eq_false_iff.2 hb
          rw [readValue_other hsemic hblank, readValue_other hsemic hblank,
            afterImportant?_middle h, afterImportant?_middle h.symm]
          cases hbehind : afterImportant? c a with
          | some behind =>
              have hlt := length_afterImportant?_lt hbehind
              obtain ⟨front, hfront, hcloses⟩ := closes_of_afterImportant? hbehind
              refine (ih behind.length (by simp at hn; omega) true behind p rfl).mono
                fun hp hcustom => ?_
              rw [← List.cons_append, hfront, List.append_assoc]
              exact List.forall_mem_append.2 ⟨hcloses, hp hcustom⟩
          | none =>
              have hlt : a.length < n := by simp at hn; omega
              dsimp only [Option.map_none]
              by_cases hblock : c.isBlock = true
              · rw [if_pos hblock, if_pos hblock]
                cases custom with
                | true =>
                    exact (ih a.length hlt important a p rfl).mono fun _ hcustom =>
                      Bool.noConfusion hcustom
                | false => exact .nested p
              · rw [if_neg hblock, if_neg hblock]
                refine (ih a.length hlt false a _ rfl).mono fun hp hcustom => ?_
                refine List.forall_mem_cons.2 ⟨?_, hp hcustom⟩
                rw [Component.closes, Bool.eq_false_iff.2 hblock, hsemic]
                rfl

/-- The value of an author's own property does not end at a block. -/
theorem readValue_custom (room : Nat) (important : Bool) (cs : List Component) (p pen : Pen) :
    readValue room true important cs p ≠ .nestedRule pen := by
  fun_induction readValue room true important cs p with
  | case1 => exact fun hnested => ValueEnd.noConfusion hnested
  | case2 => exact fun hnested => ValueEnd.noConfusion hnested
  | case3 _ _ _ _ ih => exact ih
  | case4 _ _ _ _ _ _ _ _ ih => exact ih
  | case5 _ _ _ _ _ _ _ _ _ ih => exact ih
  | case6 _ _ _ _ _ _ _ _ hcustom => exact absurd rfl hcustom
  | case7 _ _ _ _ _ _ _ _ _ ih => exact ih

/-! ## Declarations -/

/-- The end of a declaration with other components left. -/
def DeclarationEnd.leaving (rest : List Component) : DeclarationEnd → DeclarationEnd
  | .declared property value notices _ => .declared property value notices rest
  | .dropped notices line _ => .dropped notices line rest
  | .noDeclaration notices => .noDeclaration notices

/-- What becomes of a declaration where `y'` stands in the place of `y`: it ends in front, or it is
none on account of what stands in front, or it passes `y`. -/
inductive DeclarationEnd.Swaps (y y' : Component) (post : List Component) (passing : Prop) :
    DeclarationEnd → DeclarationEnd → Prop
  | left (d : DeclarationEnd) (a : List Component) :
      Swaps y y' post passing (d.leaving (a ++ y :: post)) (d.leaving (a ++ y' :: post))
  | noDeclaration (notices : List Notice) :
      Swaps y y' post passing (.noDeclaration notices) (.noDeclaration notices)
  | passed {d d' : DeclarationEnd} (hp : d.rest? = none → passing)
      (hrest : ∀ rest, d.rest? = some rest → rest.length ≤ post.length) :
      Swaps y y' post passing d d'

theorem DeclarationEnd.Swaps.same {post : List Component} {passing : Prop} {d : DeclarationEnd}
    (h : ∀ rest, d.rest? = some rest → rest.length ≤ post.length) :
    DeclarationEnd.Swaps y y' post passing d d := by
  cases d with
  | noDeclaration notices => exact .noDeclaration notices
  | _ => exact .passed nofun h

theorem skipDeclaration_swaps (h : Kindred y y') (endLine : Nat) (a post : List Component)
    {passing : Prop} :
    DeclarationEnd.Swaps y y' post passing (skipDeclaration endLine (a ++ y :: post))
      (skipDeclaration endLine (a ++ y' :: post)) := by
  have hother : ∀ {c : Component} (cs : List Component), c.isToken .semicolon = false →
      skipDeclaration endLine (c :: cs) =
        if c.isBlock then .noDeclaration [] else skipDeclaration endLine cs := by
    intro c cs hc
    rw [skipDeclaration]
    rintro line rfl
    cases hc
  have hsemi : ∀ {z z' : Component}, Kindred z z' → z.isToken .semicolon = false :=
    fun hz => hz.isToken_left fun _ => Token.noConfusion
  induction a with
  | nil =>
      simp only [List.nil_append]
      rw [hother _ (hsemi h), hother _ (hsemi h.symm), ← h.isBlock_eq]
      split
      · exact .noDeclaration []
      · exact .same fun rest hrest => (suffix_skipDeclaration hrest).length_le
  | cons c a ih =>
      simp only [List.cons_append]
      by_cases hc : c.isToken .semicolon = true
      · obtain ⟨line, rfl⟩ := eq_leaf_of_isToken hc
        exact .left (.dropped [] line []) a
      · rw [hother _ (Bool.eq_false_iff.2 hc), hother _ (Bool.eq_false_iff.2 hc)]
        split
        · exact .noDeclaration []
        · exact ih

theorem declarationOf_swaps {post : List Component} {passing passing' : Prop} {v v' : ValueEnd}
    (h : ValueEnd.Swaps y y' post passing v v')
    (himp : passing → (∃ pen, v = .nestedRule pen) → passing') (name : String) (endLine : Nat) :
    DeclarationEnd.Swaps y y' post passing' (declarationOf name endLine v)
      (declarationOf name endLine v') := by
  cases h with
  | left pen semicolon a =>
      rw [declarationOf, declarationOf]
      split
      · exact .left (.dropped pen.notices.reverse (semicolon.getD endLine) []) a
      · exact .left (.declared _ pen.text pen.notices.reverse []) a
  | nested pen => exact .noDeclaration pen.notices.reverse
  | passed hp hrest =>
      cases v with
      | nestedRule pen =>
          exact .passed (fun _ => himp hp ⟨pen, rfl⟩) fun rest hsome =>
            absurd hsome.symm (Option.some_ne_none rest)
      | ended pen semicolon behind =>
          have hsome : (declarationOf name endLine (.ended pen semicolon behind)).rest? =
              some behind := by
            rw [declarationOf]
            split <;> rfl
          refine .passed (fun hnone => ?_) fun rest hd => ?_
          · rw [hsome] at hnone
            cases hnone
          · rw [hsome] at hd
            exact Option.some.inj hd ▸ hrest pen semicolon behind rfl

theorem readDeclaration_swaps (h : Kindred y y') (room : Nat) (c : Component)
    (a post : List Component) (endLine : Nat) :
    DeclarationEnd.Swaps y y' post (∀ d ∈ c :: a ++ [y], d.closes = false)
      (readDeclaration room (c :: (a ++ y :: post)) endLine)
      (readDeclaration room (c :: (a ++ y' :: post)) endLine) := by
  by_cases hc : ∃ name line, c = .leaf (.ident name) line
  · obtain ⟨name, line, rfl⟩ := hc
    rw [readDeclaration_ident, readDeclaration_ident, dropBlanks_middle h.isBlank_left,
      dropBlanks_middle h.symm.isBlank_left]
    cases hdrop : dropBlanks a with
    | nil =>
        have hcolon : ∀ {z z' : Component}, Kindred z z' →
            ([] ++ z :: post).head?.any (Component.isToken .colon) = false :=
          fun hz => hz.isToken_left fun _ => Token.noConfusion
        rw [hcolon h, hcolon h.symm]
        exact .same fun rest hrest => (suffix_skipDeclaration hrest).length_le
    | cons d b =>
        have hhead : ∀ z : Component,
            ((d :: b) ++ z :: post).head?.any (Component.isToken .colon) = d.isToken .colon :=
          fun _ => rfl
        rw [hhead, hhead]
        cases hd : d.isToken .colon with
        | false => exact skipDeclaration_swaps h endLine b post
        | true =>
            obtain ⟨l, rfl⟩ := eq_leaf_of_isToken hd
            refine declarationOf_swaps (readValue_swaps h room _ false b post .fresh) ?_ name endLine
            rintro hp ⟨pen, hpen⟩
            have hcustom : isCustomProperty name = false := by
              cases hcustom : isCustomProperty name with
              | false => rfl
              | true =>
                  rw [hcustom] at hpen
                  exact absurd hpen (readValue_custom room false _ .fresh pen)
            have ha := List.takeWhile_append_dropWhile (p := Component.isBlank) (l := a)
            rw [show a.dropWhile Component.isBlank = _ from hdrop] at ha
            rw [List.cons_append, ← ha, List.append_assoc]
            refine List.forall_mem_cons.2 ⟨rfl, List.forall_mem_append.2 ⟨closes_takeWhile_isBlank a,
              List.forall_mem_cons.2 ⟨rfl, hp hcustom⟩⟩⟩
  · have hnone : ∀ cs, readDeclaration room (c :: cs) endLine = .noDeclaration [] := by
      intro cs
      cases c with
      | leaf t line =>
          cases t with
          | ident name => exact absurd ⟨name, line, rfl⟩ hc
          | _ => rfl
      | group => rfl
    rw [hnone, hnone]
    exact .noDeclaration []

/-! ## Steps -/

theorem length_readPrelude_passing (room : Nat) {a : List Component} (post : List Component)
    (h : ∀ c ∈ a, c.closes = false) (p : Pen) :
    (readPrelude room (a ++ post) p).2.2.length ≤ post.length := by
  induction a generalizing p with
  | nil => exact length_readPrelude_le room post p
  | cons c a ih =>
      rw [List.cons_append, readPrelude_pass (h c List.mem_cons_self)]
      exact ih (fun d hd => h d (List.mem_cons_of_mem c hd)) _

theorem declarationStep_swaps {post : List Component} {passing : Prop} {selector : String}
    {retry retry' : Step} {d d' : DeclarationEnd} (hretry : Step.Swaps y y' post retry retry')
    (hd : DeclarationEnd.Swaps y y' post passing d d')
    (hp : passing → retry.rest.length ≤ post.length ∧ y.closes = false) :
    Step.Swaps y y' post (declarationStep selector retry d)
      (declarationStep selector retry' d') := by
  have hagain : ∀ notices, Step.Swaps y y' post
      (declarationStep selector retry (.noDeclaration notices))
      (declarationStep selector retry' (.noDeclaration notices)) := by
    intro notices
    refine ⟨fun hleft => ?_, fun item body hitem hbody hrest => ?_⟩
    · obtain ⟨a, hrest, rfl⟩ := hretry.left hleft
      exact ⟨a, hrest, rfl⟩
    · obtain ⟨opener, line, content, content', endLine, hy, hy', hb, rfl⟩ :=
        hretry.taken item body hitem hbody hrest
      exact ⟨opener, line, content, content', endLine, hy, hy', hb, rfl⟩
  cases hd with
  | left d a =>
      cases d with
      | declared property value notices rest =>
          refine ⟨fun _ => ⟨a, rfl, rfl⟩, fun item body hitem hbody => ?_⟩
          cases hitem
          cases hbody
      | dropped notices line rest => exact ⟨fun _ => ⟨a, rfl, rfl⟩, nofun⟩
      | noDeclaration notices => exact hagain notices
  | noDeclaration notices => exact hagain notices
  | passed hpassing hrest =>
      cases d with
      | declared property value notices rest =>
          refine ⟨fun hleft => absurd (hrest rest rfl) (Nat.not_le.2 hleft),
            fun item body hitem hbody => ?_⟩
          cases hitem
          cases hbody
      | dropped notices line rest =>
          exact ⟨fun hleft => absurd (hrest rest rfl) (Nat.not_le.2 hleft), nofun⟩
      | noDeclaration notices =>
          obtain ⟨hle, hy⟩ := hp (hpassing rfl)
          refine ⟨fun hleft => absurd hle (Nat.not_le.2 hleft), fun item body hitem hbody hr => ?_⟩
          obtain ⟨opener, line, content, content', endLine, rfl, -⟩ :=
            hretry.taken item body hitem hbody hr
          cases hy

theorem nextStep_swaps (h : Kindred y y') (room : Nat) (setting : Setting) (c : Component)
    (a post : List Component) (endLine : Nat) :
    Step.Swaps y y' post (nextStep room setting c (a ++ y :: post) endLine)
      (nextStep room setting c (a ++ y' :: post) endLine) := by
  have hskip : ∀ notices, Step.Swaps y y' post ⟨notices, none, a ++ y :: post⟩
      ⟨notices, none, a ++ y' :: post⟩ := fun notices => ⟨fun _ => ⟨a, rfl, rfl⟩, nofun⟩
  have hrule := swaps_ruleStep h room (c :: a) post endLine
  cases setting with
  | rules =>
      change Step.Swaps y y' post (rulesStep room c (a ++ y :: post) endLine)
        (rulesStep room c (a ++ y' :: post) endLine)
      cases c with
      | leaf t line =>
          cases t with
          | atKeyword name => exact swaps_atRuleStep h room name a post
          | semicolon | commentOpen | commentClose | closeBracket b => exact hskip _
          | _ => exact hrule
      | group => exact hrule
  | style selector block =>
      change Step.Swaps y y' post (styleStep room selector c (a ++ y :: post) endLine)
        (styleStep room selector c (a ++ y' :: post) endLine)
      have hdeclaration : Step.Swaps y y' post
          (declarationStep selector (ruleStep room (c :: (a ++ y :: post)) endLine)
            (readDeclaration room (c :: (a ++ y :: post)) endLine))
          (declarationStep selector (ruleStep room (c :: (a ++ y' :: post)) endLine)
            (readDeclaration room (c :: (a ++ y' :: post)) endLine)) := by
        refine declarationStep_swaps hrule (readDeclaration_swaps h room c a post endLine)
          fun hp => ⟨?_, hp y (by simp)⟩
        rw [rest_ruleStep]
        have hle := length_readPrelude_passing room post hp .fresh
        simpa using hle
      rw [styleStep_eq, styleStep_eq]
      cases c with
      | leaf t line =>
          cases t with
          | atKeyword name => exact swaps_atRuleStep h room name a post
          | semicolon => exact hskip _
          | _ => exact hdeclaration
      | group => exact hdeclaration

end Steps

end FeatureScan.Css
