import FeatureScan.Proofs.Css.Outline

/-!
# One component in place of another

Two texts whose tokens differ in one keyword have the same components but for that keyword, and it
stands at a spot that the tokens before it decide.

## Main results

* `Nesting.Swapped.finish`: two states of nesting that differ in one component give components that
  differ in it.
* `ofText_swapped`: the components of two texts that differ in one keyword.
-/

namespace FeatureScan.Css

/-! ## Components that differ in one -/

/-- Components are the same but for one, at a spot among them, where one list has `x` and the other
`x'`. -/
inductive Swapped (x x' : Component) : Spot → List Component → List Component → Prop
  | here (pre post : List Component) :
      Swapped x x' [pre.length] (pre ++ x :: post) (pre ++ x' :: post)
  | within (pre post : List Component) (opener : Token) (kind : Bracket) (line endLine : Nat)
      {spot : Spot} {content content' : List Component} (h : Swapped x x' spot content content') :
      Swapped x x' (pre.length :: spot) (pre ++ .group opener kind line content endLine :: post)
        (pre ++ .group opener kind line content' endLine :: post)

variable {x x' : Component}

theorem Swapped.append {spot : Spot} {cs cs' : List Component} (h : Swapped x x' spot cs cs')
    (more : List Component) : Swapped x x' spot (cs ++ more) (cs' ++ more) := by
  cases h with
  | here pre post =>
      rw [List.append_assoc, List.append_assoc, List.cons_append, List.cons_append]
      exact .here pre (post ++ more)
  | within pre post opener kind line endLine h =>
      rw [List.append_assoc, List.append_assoc, List.cons_append, List.cons_append]
      exact .within pre (post ++ more) opener kind line endLine h

namespace Nesting

/-- The spot at which the next component is added. -/
def here (n : Nesting) : Spot :=
  n.openGroups.reverse.map (·.before.length) ++ [n.current.length]

/-- States of nesting are the same but for one component. -/
inductive Swapped (x x' : Component) : Spot → Nesting → Nesting → Prop
  | innermost (gs : List OpenGroup) {spot : Spot} {cs cs' : List Component}
      (h : Css.Swapped x x' spot cs.reverse cs'.reverse) :
      Swapped x x' (gs.reverse.map (·.before.length) ++ spot) ⟨gs, cs⟩ ⟨gs, cs'⟩
  | around (opener : Token) (kind : Bracket) (line : Nat) (current : List Component) {spot : Spot}
      {gs gs' : List OpenGroup} {before before' : List Component}
      (h : Swapped x x' spot ⟨gs, before⟩ ⟨gs', before'⟩) :
      Swapped x x' spot ⟨⟨opener, kind, line, before⟩ :: gs, current⟩
        ⟨⟨opener, kind, line, before'⟩ :: gs', current⟩

/-- The next component may be either of the two. -/
theorem swapped_push (n : Nesting) (x x' : Component) :
    Swapped x x' n.here (n.push x) (n.push x') := by
  have h : Css.Swapped x x' _ _ _ := .here n.current.reverse []
  rw [List.length_reverse] at h
  refine .innermost n.openGroups ?_
  rw [List.reverse_cons, List.reverse_cons]
  exact h

variable {spot : Spot} {n n' : Nesting}

theorem Swapped.enter (h : Swapped x x' spot n n') (t : PlacedToken) (kind : Bracket) :
    Swapped x x' spot (n.enter t kind) (n'.enter t kind) := .around t.token kind t.line [] h

theorem Swapped.push (h : Swapped x x' spot n n') (c : Component) :
    Swapped x x' spot (n.push c) (n'.push c) := by
  cases h with
  | innermost gs h =>
      refine .innermost gs ?_
      rw [List.reverse_cons, List.reverse_cons]
      exact h.append [c]
  | around opener kind line current h => exact .around opener kind line (c :: current) h

theorem Swapped.close (h : Swapped x x' spot n n') (line : Nat) :
    Swapped x x' spot (n.close line) (n'.close line) := by
  cases h with
  | innermost gs h =>
      cases gs with
      | nil => exact .innermost [] h
      | cons g gs =>
          have hgroup := Css.Swapped.within g.before.reverse [] g.opener g.kind g.line line h
          rw [List.length_reverse] at hgroup
          rw [List.reverse_cons, List.map_append, List.append_assoc]
          refine .innermost gs ?_
          rw [List.reverse_cons, List.reverse_cons]
          exact hgroup
  | around opener kind l current h =>
      exact h.push (.group opener kind l current.reverse line)

theorem Swapped.innermost?_eq (h : Swapped x x' spot n n') : n.innermost? = n'.innermost? := by
  cases h <;> rfl

theorem Swapped.add (h : Swapped x x' spot n n') (t : PlacedToken) :
    Swapped x x' spot (n.add t) (n'.add t) := by
  rw [add_eq, add_eq, h.innermost?_eq]
  cases t.token.opens? with
  | some kind => exact h.enter t kind
  | none =>
      dsimp only
      split
      · exact h
      · split
        · exact h.close t.line
        · exact h.push _

theorem Swapped.foldl_add (h : Swapped x x' spot n n') (ts : List PlacedToken) :
    Swapped x x' spot (ts.foldl Nesting.add n) (ts.foldl Nesting.add n') := by
  induction ts generalizing n n' with
  | nil => exact h
  | cons t ts ih => exact ih (h.add t)

theorem openGroups_close (n : Nesting) (line : Nat) :
    (n.close line).openGroups = n.openGroups.tail := by
  obtain ⟨gs, current⟩ := n
  cases gs <;> rfl

theorem Swapped.length_openGroups (h : Swapped x x' spot n n') :
    n.openGroups.length = n'.openGroups.length := by
  induction h with
  | innermost gs h => rfl
  | around opener kind line current h ih => exact congrArg Nat.succ ih

/-- The components of two sources whose states of nesting differ in one component. -/
theorem Swapped.finish (h : Swapped x x' spot n n') (line : Nat) :
    Css.Swapped x x' spot (n.finish line) (n'.finish line) := by
  have hclose : ∀ (gs gs' : List OpenGroup) (m m' : Nesting), Swapped x x' spot m m' →
      gs.length = gs'.length → gs.length = m.openGroups.length →
      Css.Swapped x x' spot (gs.foldl (fun m _ => m.close line) m).current.reverse
        (gs'.foldl (fun m _ => m.close line) m').current.reverse := by
    intro gs
    induction gs with
    | nil =>
        intro gs' m m' h hgs hm
        rw [List.length_eq_zero_iff.1 hgs.symm]
        cases h with
        | innermost groups hcs =>
            obtain rfl : groups = [] := List.length_eq_zero_iff.1 hm.symm
            exact hcs
        | around => cases hm
    | cons g gs ih =>
        intro gs' m m' h hgs hm
        cases gs' with
        | nil => cases hgs
        | cons g' gs' =>
            refine ih gs' _ _ (h.close line) (Nat.succ.inj hgs) ?_
            rw [openGroups_close, List.length_tail, ← hm]
            rfl
  exact hclose _ _ n n' h h.length_openGroups rfl

end Nesting

/-- The components of two texts that differ in one token, which opens and closes nothing. -/
theorem ofText_swapped {as bs : List Char} {ts us : List PlacedToken} {name name' : String}
    {line last : Nat} (ha : tokens as = (ts ++ ⟨.atKeyword name, line⟩ :: us, last))
    (hb : tokens bs = (ts ++ ⟨.atKeyword name', line⟩ :: us, last)) :
    Swapped (.leaf (.atKeyword name) line) (.leaf (.atKeyword name') line)
        (ts.foldl Nesting.add .start).here (Body.ofText as).content (Body.ofText bs).content ∧
      (Body.ofText as).endLine = (Body.ofText bs).endLine := by
  have hpush := Nesting.swapped_push (ts.foldl Nesting.add .start)
    (.leaf (.atKeyword name) line) (.leaf (.atKeyword name') line)
  rw [Body.ofText, Body.ofText, ha, hb]
  dsimp only
  refine ⟨?_, rfl⟩
  rw [List.foldl_append, List.foldl_append]
  exact (hpush.foldl_add us).finish last

end FeatureScan.Css
