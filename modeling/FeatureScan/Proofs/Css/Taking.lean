import FeatureScan.Proofs.Css.Recast

/-!
# What a step takes

A step takes components from the front of what is left of a block, and if it finds a rule or an
at-rule with a block of its own, that block is the last component it takes. So every block that is
read is a component of the block around it, and the number of components behind it says which.

## Main results

* `nextStep_takes`: what a step leaves, and that the block it finds is the last component it takes.
-/

namespace FeatureScan.Css

/-! ## Preludes and values -/

theorem suffix_readPrelude (room : Nat) (cs : List Component) (p : Pen) :
    (readPrelude room cs p).2.2 <:+ cs := by
  fun_induction readPrelude room cs p with
  | case1 p => exact List.suffix_refl _
  | case2 opener line content endLine cs p => exact List.suffix_cons _ cs
  | case3 line cs p => exact List.suffix_cons _ cs
  | case4 c cs p _ _ ih => exact ih.trans (List.suffix_cons c cs)

/-- A prelude that ends at a block takes that block last. -/
theorem readPrelude_block {room : Nat} {cs : List Component} {p : Pen} {line : Nat} {body : Body}
    (h : (readPrelude room cs p).2.1 = .block line body) :
    ∃ front opener, cs = front ++
      .group opener .curly line body.content body.endLine :: (readPrelude room cs p).2.2 := by
  fun_induction readPrelude room cs p with
  | case1 p => cases h
  | case2 opener line content endLine cs p =>
      cases h
      exact ⟨[], opener, rfl⟩
  | case3 line cs p => cases h
  | case4 c cs p _ _ ih =>
      obtain ⟨front, opener, hcs⟩ := ih h
      exact ⟨c :: front, opener, by rw [List.cons_append, ← hcs]⟩

theorem suffix_dropBlanks (cs : List Component) : dropBlanks cs <:+ cs := List.dropWhile_suffix _

theorem suffix_importantBehind? {cs rest : List Component} (h : importantBehind? cs = some rest) :
    rest <:+ cs := by
  have hdrop := suffix_dropBlanks cs
  unfold importantBehind? at h
  split at h
  · rename_i heq
    rw [heq] at hdrop
    split at h
    · cases h
      exact (List.suffix_cons _ _).trans hdrop
    · cases h
  · cases h

theorem suffix_afterImportant? {c : Component} {cs rest : List Component}
    (h : afterImportant? c cs = some rest) : rest <:+ cs := by
  unfold afterImportant? at h
  split at h
  · exact suffix_importantBehind? h
  · cases h

theorem suffix_readValue {room : Nat} {custom important : Bool} {cs : List Component} {p pen : Pen}
    {semicolon : Option Nat} {rest : List Component}
    (h : readValue room custom important cs p = .ended pen semicolon rest) : rest <:+ cs := by
  fun_induction readValue room custom important cs p with
  | case1 important p =>
      cases h
      exact List.suffix_refl _
  | case2 important p line rest =>
      cases h
      exact List.suffix_cons _ _
  | case3 important p line rest ih => exact (ih h).trans (List.suffix_cons _ _)
  | case4 important p c rest _ _ behind hb ih =>
      exact ((ih h).trans (suffix_afterImportant? hb)).trans (List.suffix_cons _ _)
  | case5 important p c rest _ _ _ _ _ ih => exact (ih h).trans (List.suffix_cons _ _)
  | case6 => cases h
  | case7 important p c rest _ _ _ _ q ih => exact (ih h).trans (List.suffix_cons _ _)

/-! ## Declarations -/

theorem suffix_skipDeclaration {endLine : Nat} {cs rest : List Component}
    (h : (skipDeclaration endLine cs).rest? = some rest) : rest <:+ cs := by
  fun_induction skipDeclaration endLine cs with
  | case1 =>
      cases h
      exact List.suffix_refl _
  | case2 line rest =>
      cases h
      exact List.suffix_cons _ _
  | case3 => cases h
  | case4 c cs _ _ ih => exact (ih h).trans (List.suffix_cons c cs)

theorem suffix_declarationOf {name : String} {endLine : Nat} {room : Nat} {custom important : Bool}
    {cs : List Component} {p : Pen} {rest : List Component}
    (h : (declarationOf name endLine (readValue room custom important cs p)).rest? = some rest) :
    rest <:+ cs := by
  cases hv : readValue room custom important cs p with
  | nestedRule pen =>
      rw [hv] at h
      cases h
  | ended pen semicolon behind =>
      rw [hv, declarationOf] at h
      have hbehind : behind = rest := by split at h <;> exact Option.some.inj h
      rw [← hbehind]
      exact suffix_readValue hv

theorem suffix_readDeclaration {room : Nat} {c : Component} {cs : List Component} {endLine : Nat}
    {rest : List Component} (h : (readDeclaration room (c :: cs) endLine).rest? = some rest) :
    rest <:+ cs := by
  by_cases hc : ∃ name line, c = .leaf (.ident name) line
  · obtain ⟨name, line, rfl⟩ := hc
    have htail : (dropBlanks cs).tail <:+ cs :=
      (List.tail_suffix _).trans (suffix_dropBlanks cs)
    rw [readDeclaration_ident] at h
    split at h
    · exact (suffix_declarationOf h).trans htail
    · exact (suffix_skipDeclaration h).trans htail
  · exfalso
    cases c with
    | leaf t line =>
        cases t with
        | ident name => exact hc ⟨name, line, rfl⟩
        | _ => cases h
    | group => cases h

/-! ## Steps -/

/-- The block of an item. -/
def Item.body? : Item → Option Body
  | .declaration _ _ => none
  | .rule _ _ body => some body
  | .atRule _ _ body => body

/-- What a step takes of `cs`: it leaves a suffix, and its block, if it finds one, is the last
component before that. -/
structure Step.Takes (cs : List Component) (s : Step) : Prop where
  /-- What is left. -/
  suffix : s.rest <:+ cs
  /-- The last component taken. -/
  body : ∀ item body, s.item = some item → item.body? = some body →
    ∃ front opener line, cs = front ++
      .group opener .curly line body.content body.endLine :: s.rest

theorem takes_of_no_item {notices : List Notice} {cs rest : List Component} (h : rest <:+ cs) :
    Step.Takes cs ⟨notices, none, rest⟩ := ⟨h, nofun⟩

theorem ruleStep_takes (room : Nat) (cs : List Component) (endLine : Nat) :
    (ruleStep room cs endLine).Takes cs := by
  have hsuffix := suffix_readPrelude room cs .fresh
  have hblock := @readPrelude_block room cs .fresh
  unfold ruleStep
  generalize readPrelude room cs .fresh = r at hsuffix hblock ⊢
  obtain ⟨pen, ending, rest⟩ := r
  cases ending with
  | semicolon line => exact takes_of_no_item hsuffix
  | sourceEnd => exact takes_of_no_item hsuffix
  | block line body =>
      dsimp only
      split
      · exact takes_of_no_item hsuffix
      · split
        · exact takes_of_no_item hsuffix
        · refine ⟨hsuffix, fun item body' hitem hbody => ?_⟩
          cases hitem
          cases hbody
          obtain ⟨front, opener, hcs⟩ := hblock rfl
          exact ⟨front, opener, line, hcs⟩

theorem atRuleStep_takes (room : Nat) (name : String) (cs : List Component) :
    (atRuleStep room name cs).Takes cs := by
  have hsuffix := suffix_readPrelude room cs .fresh
  have hblock := @readPrelude_block room cs .fresh
  have hnone : ∀ notices keyword prelude, Step.Takes cs
      ⟨notices, some (.atRule keyword prelude none), (readPrelude room cs .fresh).2.2⟩ := by
    refine fun notices keyword prelude => ⟨hsuffix, fun item body hitem hbody => ?_⟩
    cases hitem
    cases hbody
  unfold atRuleStep
  generalize readPrelude room cs .fresh = r at hsuffix hblock hnone ⊢
  obtain ⟨pen, ending, rest⟩ := r
  cases ending with
  | semicolon line => exact hnone _ _ _
  | sourceEnd => exact hnone _ _ _
  | block line body =>
      dsimp only
      split
      · exact hnone _ _ _
      · refine ⟨hsuffix, fun item body' hitem hbody => ?_⟩
        cases hitem
        cases hbody
        obtain ⟨front, opener, hcs⟩ := hblock rfl
        exact ⟨front, opener, line, hcs⟩

theorem Step.Takes.cons {c : Component} {cs : List Component} {s : Step} (h : s.Takes cs) :
    s.Takes (c :: cs) := by
  refine ⟨h.suffix.trans (List.suffix_cons c cs), fun item body hitem hbody => ?_⟩
  obtain ⟨front, opener, line, hcs⟩ := h.body item body hitem hbody
  exact ⟨c :: front, opener, line, by rw [hcs, List.cons_append]⟩

theorem declarationStep_takes {selector : String} {retry : Step} {d : DeclarationEnd}
    {cs : List Component} (hretry : retry.Takes cs)
    (hd : ∀ rest, d.rest? = some rest → rest <:+ cs) :
    (declarationStep selector retry d).Takes cs := by
  cases d with
  | declared property value notices rest =>
      refine ⟨hd rest rfl, fun item body hitem hbody => ?_⟩
      cases hitem
      cases hbody
  | dropped notices line rest => exact takes_of_no_item (hd rest rfl)
  | noDeclaration notices => exact ⟨hretry.suffix, hretry.body⟩

theorem nextStep_takes (room : Nat) (setting : Setting) (c : Component) (cs : List Component)
    (endLine : Nat) : (nextStep room setting c cs endLine).Takes (c :: cs) := by
  have hcs : cs <:+ c :: cs := List.suffix_cons c cs
  have hrule := ruleStep_takes room (c :: cs) endLine
  cases setting with
  | rules =>
      change (rulesStep room c cs endLine).Takes (c :: cs)
      cases c with
      | leaf t line =>
          cases t with
          | atKeyword name => exact (atRuleStep_takes room name cs).cons
          | semicolon | commentOpen | commentClose | closeBracket b => exact takes_of_no_item hcs
          | _ => exact hrule
      | group => exact hrule
  | style selector block =>
      change (styleStep room selector c cs endLine).Takes (c :: cs)
      have hdeclaration : (declarationStep selector (ruleStep room (c :: cs) endLine)
          (readDeclaration room (c :: cs) endLine)).Takes (c :: cs) :=
        declarationStep_takes hrule fun rest h => (suffix_readDeclaration h).trans hcs
      rw [styleStep_eq]
      cases c with
      | leaf t line =>
          cases t with
          | atKeyword name => exact (atRuleStep_takes room name cs).cons
          | semicolon => exact takes_of_no_item hcs
          | _ => exact hdeclaration
      | group => exact hdeclaration

end FeatureScan.Css
