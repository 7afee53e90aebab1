import FeatureScan.Proofs.Css.NestingLimit

/-!
# The tokens of components

Components written out again are the tokens that they were nested from, without the comments. A
bracket that the end of the source closes gets the closing token that it lacks.

## Main results

* `unnest_content`: the components of a source written out.
* `isFormed_content`: each group has the bracket that its token opens.
-/

namespace FeatureScan.Css

mutual

/-- The tokens of a component, a group with the token that closes it. -/
def Component.unnest : Component → List Token
  | .leaf t _ => [t]
  | .group opener kind _ content _ => opener :: (unnest content ++ [.closeBracket kind])

/-- The tokens of components. -/
def unnest : List Component → List Token
  | [] => []
  | c :: cs => c.unnest ++ unnest cs

end

mutual

/-- Whether the groups in a component, and only they, have tokens that open their brackets. -/
def Component.isFormed : Component → Bool
  | .leaf t _ => t.opens?.isNone
  | .group opener kind _ content _ => opener.opens? == some kind && isFormed content

/-- Whether the groups in components, and only they, have tokens that open their brackets. -/
def isFormed : List Component → Bool
  | [] => true
  | c :: cs => c.isFormed && isFormed cs

end

theorem isFormed_append (cs ds : List Component) :
    isFormed (cs ++ ds) = (isFormed cs && isFormed ds) := by
  induction cs with
  | nil => rfl
  | cons c cs ih => rw [List.cons_append, isFormed, ih, isFormed, Bool.and_assoc]

theorem isFormed_reverse (cs : List Component) : isFormed cs.reverse = isFormed cs := by
  induction cs with
  | nil => rfl
  | cons c cs ih =>
      rw [List.reverse_cons, isFormed_append, ih, isFormed, isFormed, isFormed, Bool.and_true,
        Bool.and_comm]

theorem unnest_append (cs ds : List Component) : unnest (cs ++ ds) = unnest cs ++ unnest ds := by
  induction cs with
  | nil => rfl
  | cons c cs ih => rw [List.cons_append, unnest, ih, unnest, List.append_assoc]

theorem unnest_singleton (c : Component) : unnest [c] = c.unnest := List.append_nil _

theorem unnest_suffix {cs ds : List Component} (h : ds <:+ cs) : unnest ds <:+ unnest cs := by
  obtain ⟨front, rfl⟩ := h
  rw [unnest_append]
  exact List.suffix_append _ _

/-- The tokens of a component are in a row in those of all. -/
theorem unnest_infix_of_mem {cs : List Component} {c : Component} (h : c ∈ cs) :
    c.unnest <:+: unnest cs := by
  obtain ⟨front, back, rfl⟩ := List.append_of_mem h
  rw [unnest_append, unnest]
  exact ⟨unnest front, unnest back, List.append_assoc _ _ _⟩

/-- The tokens without the comments. -/
def withoutRemarks (ts : List Token) : List Token := ts.filter (· != .comment)

theorem withoutRemarks_append (ts us : List Token) :
    withoutRemarks (ts ++ us) = withoutRemarks ts ++ withoutRemarks us := List.filter_append ..

theorem withoutRemarks_cons {t : Token} (h : t ≠ .comment) (ts : List Token) :
    withoutRemarks (t :: ts) = t :: withoutRemarks ts :=
  List.filter_cons_of_pos (bne_iff_ne.2 h)

/-- The closing tokens that a source which ends here lacks, innermost bracket first. -/
def closers (opened : List Bracket) : List Token := opened.map .closeBracket

namespace Nesting

/-- The tokens of what stands in front of the innermost level, up to its bracket. -/
def unnestGroups : List OpenGroup → List Token
  | [] => []
  | g :: gs => unnestGroups gs ++ (unnest g.before.reverse ++ [g.opener])

/-- The tokens of what has been nested. -/
def unnested (n : Nesting) : List Token := unnestGroups n.openGroups ++ unnest n.current.reverse

theorem unnested_push (n : Nesting) (c : Component) :
    (n.push c).unnested = n.unnested ++ c.unnest := by
  rw [unnested, unnested, push, List.reverse_cons, unnest_append, unnest_singleton,
    List.append_assoc]

theorem unnested_enter (n : Nesting) (t : PlacedToken) (kind : Bracket) :
    (n.enter t kind).unnested = n.unnested ++ [t.token] := by
  have hnil : unnest ([] : List Component).reverse = [] := rfl
  rw [unnested, enter]
  dsimp only
  rw [hnil, List.append_nil, unnestGroups, unnested, List.append_assoc]

theorem unnested_close (gs : List OpenGroup) (g : OpenGroup) (current : List Component)
    (line : Nat) :
    (close ⟨g :: gs, current⟩ line).unnested =
      unnested ⟨g :: gs, current⟩ ++ [.closeBracket g.kind] := by
  have hpush : close ⟨g :: gs, current⟩ line =
      push ⟨gs, g.before⟩ (.group g.opener g.kind g.line current.reverse line) := rfl
  rw [hpush, unnested_push, Component.unnest, unnested, unnested, unnestGroups]
  simp only [List.append_assoc, List.cons_append, List.nil_append]

/-- Every token but a comment is added to what has been nested. -/
theorem unnested_add (n : Nesting) (t : PlacedToken) :
    (n.add t).unnested = n.unnested ++ withoutRemarks [t.token] := by
  have hkept : t.token ≠ .comment → withoutRemarks [t.token] = [t.token] :=
    fun h => withoutRemarks_cons h []
  rw [add_eq]
  cases hopens : t.token.opens? with
  | some kind =>
      have hne : t.token ≠ .comment := by
        intro h
        rw [h] at hopens
        cases hopens
      rw [hkept hne]
      exact unnested_enter n t kind
  | none =>
      dsimp only
      split
      · rename_i hcomment
        rw [beq_iff_eq.1 hcomment]
        exact (List.append_nil _).symm
      · rename_i hcomment
        rw [hkept fun h => hcomment (beq_iff_eq.2 h)]
        split
        · rename_i hcloses
          rw [Bool.and_eq_true, beq_iff_eq] at hcloses
          obtain ⟨hsome, hinner⟩ := hcloses
          obtain ⟨gs, current⟩ := n
          cases gs with
          | nil =>
              rw [hinner] at hsome
              cases hsome
          | cons g gs =>
              have htoken : t.token = .closeBracket g.kind := by
                cases htoken : t.token with
                | closeBracket b =>
                    rw [htoken] at hinner
                    exact congrArg Token.closeBracket (Option.some.inj hinner)
                | _ =>
                    rw [htoken] at hinner
                    cases hinner
              rw [unnested_close, htoken]
        · exact unnested_push n _

theorem unnested_foldl_add (n : Nesting) (ts : List PlacedToken) :
    (ts.foldl add n).unnested = n.unnested ++ withoutRemarks (ts.map PlacedToken.token) := by
  induction ts generalizing n with
  | nil => exact (List.append_nil _).symm
  | cons t ts ih =>
      rw [List.foldl_cons, ih, unnested_add, List.append_assoc, ← withoutRemarks_append]
      rfl

theorem unnest_finish (n : Nesting) (line : Nat) :
    unnest (n.finish line) = n.unnested ++ closers n.kinds := by
  obtain ⟨gs, current⟩ := n
  induction gs generalizing current with
  | nil => exact (List.append_nil _).symm
  | cons g gs ih =>
      have hpush : close ⟨g :: gs, current⟩ line =
          ⟨gs, .group g.opener g.kind g.line current.reverse line :: g.before⟩ := rfl
      have hunnested := unnested_close gs g current line
      rw [hpush] at hunnested
      rw [finish_cons, hpush, ih, hunnested, List.append_assoc]
      rfl

/-- What has been nested is formed. -/
structure Formed (n : Nesting) : Prop where
  /-- The innermost level. -/
  current : isFormed n.current = true
  /-- The levels in front of it. -/
  groups : ∀ g ∈ n.openGroups, g.opener.opens? = some g.kind ∧ isFormed g.before = true

theorem Formed.close {n : Nesting} (h : n.Formed) (line : Nat) : (n.close line).Formed := by
  obtain ⟨gs, current⟩ := n
  cases gs with
  | nil => exact h
  | cons g gs =>
      obtain ⟨⟨hopens, hbefore⟩, hgs⟩ := List.forall_mem_cons.1 h.groups
      refine ⟨?_, hgs⟩
      change isFormed (.group g.opener g.kind g.line current.reverse line :: g.before) = true
      rw [isFormed, Component.isFormed, hopens, isFormed_reverse, h.current, hbefore, beq_self_eq_true]
      rfl

theorem Formed.add {n : Nesting} (h : n.Formed) (t : PlacedToken) : (n.add t).Formed := by
  rw [add_eq]
  cases hopens : t.token.opens? with
  | some kind => exact ⟨rfl, List.forall_mem_cons.2 ⟨⟨hopens, h.current⟩, h.groups⟩⟩
  | none =>
      dsimp only
      split
      · exact h
      · split
        · exact h.close t.line
        · refine ⟨?_, h.groups⟩
          rw [push, isFormed, Component.isFormed, hopens, h.current]
          rfl

theorem Formed.foldl_add {n : Nesting} (h : n.Formed) (ts : List PlacedToken) :
    (ts.foldl Nesting.add n).Formed := by
  induction ts generalizing n with
  | nil => exact h
  | cons t ts ih => exact ih (h.add t)

theorem Formed.finish {n : Nesting} (h : n.Formed) (line : Nat) :
    isFormed (n.finish line) = true := by
  obtain ⟨gs, current⟩ := n
  induction gs generalizing current with
  | nil => exact (isFormed_reverse current).trans h.current
  | cons g gs ih =>
      rw [finish_cons]
      exact ih _ (h.close line)

end Nesting

/-- Each group of a source has the bracket that its token opens. -/
theorem isFormed_content (cs : List Char) : isFormed (Body.ofText cs).content = true := by
  have hstart : Nesting.start.Formed := ⟨rfl, List.forall_mem_nil _⟩
  exact (hstart.foldl_add (tokens cs).1).finish (tokens cs).2

/-- The components of a source written out are its tokens without the comments, and the closing
tokens that it lacks. -/
theorem unnest_content (cs : List Char) :
    unnest (Body.ofText cs).content =
      withoutRemarks ((tokens cs).1.map PlacedToken.token) ++
        closers (openBehind [] ((tokens cs).1.map PlacedToken.token)) := by
  have hkinds := Nesting.kinds_foldl_add .start (tokens cs).1
  have hunnested := Nesting.unnested_foldl_add .start (tokens cs).1
  rw [Body.ofText]
  dsimp only
  rw [Nesting.unnest_finish, hunnested, hkinds]
  rfl

end FeatureScan.Css
