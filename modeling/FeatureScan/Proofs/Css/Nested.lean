import FeatureScan.Proofs.Css.Recasting
import FeatureScan.Proofs.Css.Tokens

/-!
# Components up to a seam

A text that ends with its last construct leaves no bracket open, so what stands behind it is nested
on its own: the components of two texts in a row are those of the first and then those of the
second, whose lines are counted on.

## Main results

* `Nesting.foldl_add_recast`: recast tokens are nested as the tokens are.
* `Nesting.foldl_add_onto`: tokens are nested on top of what has been read as they are on their own.
* `ofText_append`: the components of two texts in a row.
-/

namespace FeatureScan.Css

variable {ρ : Recasting}

/-! ## One token -/

namespace Nesting

/-- Goes into a bracket. -/
def enter (n : Nesting) (t : PlacedToken) (kind : Bracket) : Nesting :=
  ⟨⟨t.token, kind, t.line, n.current⟩ :: n.openGroups, []⟩

/-- Adds a component at the innermost level. -/
def push (n : Nesting) (c : Component) : Nesting := ⟨n.openGroups, c :: n.current⟩

/-- The kind of the innermost bracket. -/
def innermost? (n : Nesting) : Option Bracket := n.openGroups.head?.map OpenGroup.kind

/-- A token opens a bracket, is left out, closes the innermost bracket or stays as it is. -/
theorem add_eq (n : Nesting) (t : PlacedToken) :
    n.add t =
      match t.token.opens? with
      | some kind => n.enter t kind
      | none =>
        if t.token == .comment then n
        else if t.token.closes?.isSome && t.token.closes? == n.innermost? then n.close t.line
        else n.push (.leaf t.token t.line) := by
  unfold add
  cases t.token.opens? with
  | some kind => rfl
  | none =>
      dsimp only
      congr 1
      obtain ⟨gs, current⟩ := n
      cases t.token.closes? with
      | none => rfl
      | some kind =>
          cases gs with
          | nil => rfl
          | cons o gs =>
              have hkind : (some kind == some o.kind) = (o.kind == kind) := by
                rw [Option.some_beq_some, Bool.beq_comm]
              simp only [innermost?, List.head?_cons, Option.map_some, Option.isSome_some,
                Bool.true_and, hkind]
              rfl

end Nesting

/-! ## Other letters and line numbers -/

mutual

/-- A recast component. -/
def Component.recast (ρ : Recasting) : Component → Component
  | .leaf t line => .leaf (t.recast ρ) (ρ.line line)
  | .group opener kind line content endLine =>
      .group (opener.recast ρ) kind (ρ.line line) (recastAll ρ content) (ρ.line endLine)

/-- Recast components. -/
def recastAll (ρ : Recasting) : List Component → List Component
  | [] => []
  | c :: cs => c.recast ρ :: recastAll ρ cs

end

theorem recastAll_eq_map (ρ : Recasting) (cs : List Component) :
    recastAll ρ cs = cs.map (Component.recast ρ) := by
  induction cs with
  | nil => rfl
  | cons c cs ih => rw [recastAll, ih, List.map_cons]

@[simp] theorem Component.recast_leaf (t : Token) (line : Nat) :
    (Component.leaf t line).recast ρ = .leaf (t.recast ρ) (ρ.line line) := rfl

@[simp] theorem Component.recast_group (opener : Token) (kind : Bracket) (line : Nat)
    (content : List Component) (endLine : Nat) :
    (Component.group opener kind line content endLine).recast ρ =
      .group (opener.recast ρ) kind (ρ.line line) (content.map (Component.recast ρ))
        (ρ.line endLine) := by
  rw [Component.recast, recastAll_eq_map]

/-- A recast token with its line. -/
def PlacedToken.recast (ρ : Recasting) (t : PlacedToken) : PlacedToken :=
  ⟨t.token.recast ρ, ρ.line t.line⟩

@[simp] theorem PlacedToken.recast_token (t : PlacedToken) :
    (t.recast ρ).token = t.token.recast ρ := rfl

@[simp] theorem PlacedToken.recast_line (t : PlacedToken) :
    (t.recast ρ).line = ρ.line t.line := rfl

@[simp] theorem opens?_recast (t : Token) : (t.recast ρ).opens? = t.opens? := by cases t <;> rfl

@[simp] theorem closes?_recast (t : Token) : (t.recast ρ).closes? = t.closes? := by cases t <;> rfl

theorem beq_comment_recast (t : Token) : (t.recast ρ == .comment) = (t == .comment) := by
  cases t <;> rfl

theorem Token.recast_lines (g : Nat → Nat) (t : Token) : t.recast (.lines g) = t := by
  cases t <;> simp only [Token.recast, Recasting.text_lines] <;> rfl

theorem PlacedToken.recast_lines (g : Nat → Nat) : PlacedToken.recast (.lines g) = relined g := by
  funext t
  rw [recast, Token.recast_lines]
  rfl

/-- A recast open bracket. -/
def OpenGroup.recast (ρ : Recasting) (o : OpenGroup) : OpenGroup :=
  ⟨o.opener.recast ρ, o.kind, ρ.line o.line, o.before.map (Component.recast ρ)⟩

/-- A recast piece of a style sheet. -/
def Body.recast (ρ : Recasting) (b : Body) : Body :=
  ⟨b.content.map (Component.recast ρ), ρ.line b.endLine⟩

namespace Nesting

/-- The recast state of nesting. -/
def recast (ρ : Recasting) (n : Nesting) : Nesting :=
  ⟨n.openGroups.map (OpenGroup.recast ρ), n.current.map (Component.recast ρ)⟩

theorem innermost?_recast (n : Nesting) : (n.recast ρ).innermost? = n.innermost? := by
  obtain ⟨gs, current⟩ := n
  cases gs <;> rfl

theorem close_recast (n : Nesting) (line : Nat) :
    (n.recast ρ).close (ρ.line line) = (n.close line).recast ρ := by
  obtain ⟨gs, current⟩ := n
  cases gs with
  | nil => rfl
  | cons o gs => simp [recast, close, OpenGroup.recast]

theorem add_recast (n : Nesting) (t : PlacedToken) :
    (n.recast ρ).add (t.recast ρ) = (n.add t).recast ρ := by
  rw [add_eq, add_eq, innermost?_recast, PlacedToken.recast_token, PlacedToken.recast_line,
    opens?_recast, closes?_recast, beq_comment_recast]
  cases t.token.opens? with
  | some kind => rfl
  | none =>
      dsimp only
      by_cases hc : (t.token == .comment) = true
      · rw [if_pos hc, if_pos hc]
      · rw [if_neg hc, if_neg hc]
        split
        · exact close_recast n t.line
        · rfl

theorem foldl_add_recast (n : Nesting) (ts : List PlacedToken) :
    (ts.map (PlacedToken.recast ρ)).foldl add (n.recast ρ) = (ts.foldl add n).recast ρ := by
  induction ts generalizing n with
  | nil => rfl
  | cons t ts ih => rw [List.map_cons, List.foldl_cons, List.foldl_cons, add_recast, ih]

theorem finish_recast (n : Nesting) (line : Nat) :
    (n.recast ρ).finish (ρ.line line) = (n.finish line).map (Component.recast ρ) := by
  have hclose : ∀ (gs : List OpenGroup) (m : Nesting),
      (gs.map (OpenGroup.recast ρ)).foldl (fun m _ => m.close (ρ.line line)) (m.recast ρ) =
        (gs.foldl (fun m _ => m.close line) m).recast ρ := by
    intro gs
    induction gs with
    | nil => exact fun _ => rfl
    | cons o gs ih =>
        intro m
        rw [List.map_cons, List.foldl_cons, List.foldl_cons, close_recast, ih]
  rw [finish, finish]
  change ((n.openGroups.map (OpenGroup.recast ρ)).foldl _ (n.recast ρ)).current.reverse = _
  rw [hclose]
  exact List.map_reverse.symm

/-! ## Nesting on top of what has been read -/

/-- Open brackets with more components at the outermost level. -/
def groupsOnto (base : List Component) : List OpenGroup → List OpenGroup
  | [] => []
  | [o] => [{ o with before := o.before ++ base }]
  | o :: gs => o :: groupsOnto base gs

/-- The state of nesting with `base`, in reverse, read before it at the outermost level. -/
def onto (base : List Component) (n : Nesting) : Nesting :=
  match n.openGroups with
  | [] => ⟨[], n.current ++ base⟩
  | o :: gs => ⟨groupsOnto base (o :: gs), n.current⟩

theorem close_onto (base : List Component) (n : Nesting) (line : Nat) :
    (n.onto base).close line = (n.close line).onto base := by
  obtain ⟨gs, current⟩ := n
  match gs with
  | [] => rfl
  | [o] => rfl
  | o :: p :: gs => rfl

theorem enter_onto (base : List Component) (n : Nesting) (t : PlacedToken) (kind : Bracket) :
    (n.onto base).enter t kind = (n.enter t kind).onto base := by
  obtain ⟨gs, current⟩ := n
  cases gs <;> rfl

theorem push_onto (base : List Component) (n : Nesting) (c : Component) :
    (n.onto base).push c = (n.push c).onto base := by
  obtain ⟨gs, current⟩ := n
  cases gs <;> rfl

/-- The innermost bracket does not depend on what stands before it all. -/
theorem innermost?_onto (base : List Component) (n : Nesting) :
    (n.onto base).innermost? = n.innermost? := by
  obtain ⟨gs, current⟩ := n
  match gs with
  | [] => rfl
  | [o] => rfl
  | o :: p :: gs => rfl

theorem add_onto (base : List Component) (n : Nesting) (t : PlacedToken) :
    (n.onto base).add t = (n.add t).onto base := by
  rw [add_eq, add_eq, innermost?_onto]
  cases t.token.opens? with
  | some kind => exact enter_onto base n t kind
  | none =>
      dsimp only
      by_cases hc : (t.token == .comment) = true
      · rw [if_pos hc, if_pos hc]
      · rw [if_neg hc, if_neg hc]
        split
        · exact close_onto base n t.line
        · exact push_onto base n _

/-- Tokens are nested on top of what has been read as they are on their own. -/
theorem foldl_add_onto (base : List Component) (n : Nesting) (ts : List PlacedToken) :
    ts.foldl add (n.onto base) = (ts.foldl add n).onto base := by
  induction ts generalizing n with
  | nil => rfl
  | cons t ts ih => rw [List.foldl_cons, List.foldl_cons, add_onto, ih]

theorem length_openGroups_onto (base : List Component) (n : Nesting) :
    (n.onto base).openGroups.length = n.openGroups.length := by
  have hlen : ∀ gs, (groupsOnto base gs).length = gs.length := by
    intro gs
    fun_induction groupsOnto base gs with
    | case1 => rfl
    | case2 => rfl
    | case3 o gs _ ih => rw [List.length_cons, List.length_cons, ih]
  obtain ⟨gs, current⟩ := n
  cases gs with
  | nil => rfl
  | cons o gs => exact hlen (o :: gs)

theorem finish_onto (base : List Component) (n : Nesting) (line : Nat) :
    (n.onto base).finish line = base.reverse ++ n.finish line := by
  have hclose : ∀ (gs gs' : List OpenGroup) (m : Nesting), gs.length = gs'.length →
      gs'.length = m.openGroups.length →
      (gs.foldl (fun m _ => m.close line) (m.onto base)).current =
        (gs'.foldl (fun m _ => m.close line) m).current ++ base := by
    intro gs gs'
    induction gs' generalizing gs with
    | nil =>
        intro m hlen hm
        rw [List.length_eq_zero_iff.1 hlen]
        have hnil : m.openGroups = [] := List.length_eq_zero_iff.1 hm.symm
        rw [onto, hnil]
        rfl
    | cons o gs' ih =>
        intro m hlen hm
        cases gs with
        | nil => cases hlen
        | cons p gs =>
            rw [List.foldl_cons, List.foldl_cons, close_onto]
            refine ih gs (m.close line) (Nat.succ.inj hlen) ?_
            rw [close]
            cases hg : m.openGroups with
            | nil => rw [hg] at hm; cases hm
            | cons q qs => rw [hg] at hm; exact Nat.succ.inj hm
  rw [finish, finish, hclose _ _ n (length_openGroups_onto base n) rfl, List.reverse_append]

end Nesting

/-! ## Texts in a row -/

/-- Whether a component closes a construct among rules: a block or a semicolon. -/
def Component.closes (c : Component) : Bool := c.isBlock || c.isToken .semicolon

/-- A text ends with its last construct: its last token is a semicolon or a closing curly bracket,
no bracket is open behind it, and it is that semicolon or the block with that bracket that stands
last among the components. -/
structure EndsClosed (as : List Char) : Prop where
  /-- The last token. -/
  token : ((tokens as).1.getLast?.map PlacedToken.token).any Token.endsConstruct = true
  /-- Nothing is open. -/
  outermost : ((tokens as).1.foldl Nesting.add .start).openGroups.isEmpty = true
  /-- The last component. -/
  component : (Body.ofText as).content.getLast?.any Component.closes = true

/-- The components of two texts in a row. -/
theorem ofText_append {as : List Char} (h : EndsClosed as) (bs : List Char) :
    Body.ofText (as ++ bs) =
      ⟨(Body.ofText as).content ++
          ((Body.ofText bs).recast (.lines (· + lineEnds as))).content,
        ((Body.ofText bs).recast (.lines (· + lineEnds as))).endLine⟩ := by
  have htoken := h.token
  obtain ⟨t, ht, he⟩ : ∃ t, (tokens as).1.getLast? = some t ∧ t.token.endsConstruct = true := by
    cases hl : (tokens as).1.getLast? with
    | none => rw [hl] at htoken; cases htoken
    | some t => rw [hl] at htoken; exact ⟨t, rfl, htoken⟩
  have hopen := List.isEmpty_iff.1 h.outermost
  have hstate : (tokens as).1.foldl Nesting.add .start =
      Nesting.start.onto ((tokens as).1.foldl Nesting.add .start).current := by
    rw [Nesting.onto, Nesting.start]
    dsimp only
    rw [List.nil_append, ← Nesting.start]
    generalize (tokens as).1.foldl Nesting.add .start = n at hopen ⊢
    obtain ⟨gs, current⟩ := n
    cases hopen
    rfl
  have hfront : (Body.ofText as).content =
      ((tokens as).1.foldl Nesting.add .start).current.reverse := by
    change ((tokens as).1.foldl Nesting.add .start).finish (tokens as).2 = _
    rw [Nesting.finish, hopen]
    rfl
  rw [hfront]
  unfold Body.ofText
  rw [tokens_append bs ht he]
  dsimp only
  rw [List.foldl_append, hstate, Nesting.foldl_add_onto]
  have hstart : Nesting.start.recast (.lines (· + lineEnds as)) = Nesting.start := rfl
  rw [← hstart, ← PlacedToken.recast_lines, Nesting.foldl_add_recast, hstart, Nesting.finish_onto]
  rw [← hstate]
  congr 2
  exact Nesting.finish_recast _ _

end FeatureScan.Css
