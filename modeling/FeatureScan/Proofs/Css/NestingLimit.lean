import FeatureScan.Proofs.Css.Coinciding
import FeatureScan.Proofs.Css.Joining
import FeatureScan.Proofs.Css.Swapping
import Mathlib.Data.List.Induction
import Mathlib.Data.List.Infix

/-!
# The limit to nesting

A style sheet is read with a limit to how deeply brackets are nested. The limit counts the brackets
that are open where a bracket is opened, whichever they are. It changes nothing in a style sheet
that never opens a bracket beyond it; and what stands inside a bracket beyond it is of no account.

## Main results

* `kinds_foldl_add`: the brackets that are open behind some tokens.
* `Nesting.Coincide.add`: two states of nesting that coincide do so behind another token.
* `extractWithin_congr`: limits that a style sheet keeps to make no difference.
* `tooDeep_notMem_extractUnlimited`: without a limit no bracket is nested too deeply.
* `exists_inside`: what stands inside a bracket.
* `extract_nestingLimit`: the limit to nesting is exact.
-/

namespace FeatureScan.Css

/-! ## Open brackets -/

/-- The brackets that are open behind a token, innermost first. A closing bracket closes the
innermost one if that is of its kind, and else none. -/
def Token.nest (opened : List Bracket) (t : Token) : List Bracket :=
  match t.opens? with
  | some kind => kind :: opened
  | none =>
    if t.closes?.isSome && t.closes? == opened.head? then opened.tail else opened

/-- The brackets that are open behind tokens. -/
def openBehind (opened : List Bracket) (ts : List Token) : List Bracket := ts.foldl Token.nest opened

/-- Tokens that open brackets only where less than `limit` are open. -/
def Shallow (limit : Nat) (ts : List Token) : Prop :=
  ∀ us t, us ++ [t] <+: ts → t.opens?.isSome = true → (openBehind [] us).length < limit

/-- Tokens behind the opening of a bracket that do not close it. -/
def StaysInside (kind : Bracket) (ts : List Token) : Prop :=
  ∀ us, us <+: ts → openBehind [kind] us ≠ []

instance (kind : Bracket) (ts : List Token) : Decidable (StaysInside kind ts) :=
  decidable_of_iff (∀ us ∈ ts.inits, openBehind [kind] us ≠ [])
    (forall_congr' fun us => imp_congr_left (List.mem_inits us ts))

theorem openBehind_append (opened : List Bracket) (ts us : List Token) :
    openBehind opened (ts ++ us) = openBehind (openBehind opened ts) us := List.foldl_append

theorem length_nest_le (opened : List Bracket) (t : Token) :
    (t.nest opened).length ≤ opened.length + 1 := by
  unfold Token.nest
  split
  · exact Nat.le_refl _
  · split
    · rw [List.length_tail]
      omega
    · exact Nat.le_succ _

theorem length_nest_le_of_closed (opened : List Bracket) {t : Token} (h : t.opens? = none) :
    (t.nest opened).length ≤ opened.length := by
  unfold Token.nest
  rw [h]
  dsimp only
  split
  · rw [List.length_tail]
    omega
  · exact Nat.le_refl _

theorem length_openBehind_le (ts : List Token) : (openBehind [] ts).length ≤ ts.length := by
  induction ts using List.reverseRecOn with
  | nil => exact Nat.le_refl _
  | append_singleton ts t ih =>
      have hone := length_nest_le (openBehind [] ts) t
      rw [openBehind_append, List.length_append]
      exact Nat.le_trans hone (Nat.succ_le_succ ih)

/-- No more brackets are opened than there are tokens. -/
theorem shallow_of_length_le {limit : Nat} {ts : List Token} (h : ts.length ≤ limit) :
    Shallow limit ts := by
  intro us t hus _
  have hlen := hus.length_le
  rw [List.length_append, List.length_singleton] at hlen
  have hopen := length_openBehind_le us
  omega

/-- Behind shallow tokens no more brackets are open than the limit. -/
theorem Shallow.length_openBehind {limit : Nat} {ts us : List Token} (h : Shallow limit ts)
    (hus : us <+: ts) : (openBehind [] us).length ≤ limit := by
  induction us using List.reverseRecOn with
  | nil => exact Nat.zero_le _
  | append_singleton us t ih =>
      have hle := ih ((List.prefix_append us [t]).trans hus)
      rw [openBehind_append]
      rcases ht : t.opens? with _ | kind
      · exact Nat.le_trans (length_nest_le_of_closed _ ht) hle
      · have hone := length_nest_le (openBehind [] us) t
        have hlt := h us t hus (by rw [ht]; rfl)
        exact Nat.le_trans hone hlt

namespace Nesting

/-- The kinds of the brackets that are open. -/
def kinds (n : Nesting) : List Bracket := n.openGroups.map OpenGroup.kind

theorem kinds_add (n : Nesting) (t : PlacedToken) : (n.add t).kinds = t.token.nest n.kinds := by
  have hinner : n.kinds.head? = n.innermost? := List.head?_map
  rw [add_eq, Token.nest, hinner]
  cases t.token.opens? with
  | some kind => rfl
  | none =>
      dsimp only
      by_cases hcomment : (t.token == .comment) = true
      · rw [if_pos hcomment, eq_of_beq hcomment]
        rfl
      · rw [if_neg hcomment]
        split
        · rw [kinds, openGroups_close, kinds, List.map_tail]
        · rfl

/-- The brackets that are open behind some tokens. -/
theorem kinds_foldl_add (n : Nesting) (ts : List PlacedToken) :
    (ts.foldl add n).kinds = openBehind n.kinds (ts.map PlacedToken.token) := by
  induction ts generalizing n with
  | nil => rfl
  | cons t ts ih =>
      rw [List.foldl_cons, ih, kinds_add]
      rfl

theorem length_kinds (n : Nesting) : n.kinds.length = n.openGroups.length :=
  List.length_map _

end Nesting

/-! ## States of nesting that coincide -/

/-- Components at a level of nesting coincide in two readings with limits, unless they stand too
deep for one of them. -/
def LevelCoincide (limit limit' level : Nat) (cs cs' : List Component) : Prop :=
  level ≤ limit → level ≤ limit' → Coincide (limit - level) (limit' - level) cs cs'

/-- Open brackets that coincide, level by level. -/
inductive OpenGroupsCoincide (limit limit' : Nat) : List OpenGroup → List OpenGroup → Prop
  | nil : OpenGroupsCoincide limit limit' [] []
  | cons {gs gs' : List OpenGroup} (opener : Token) (kind : Bracket) (line : Nat)
      {before before' : List Component} (h : OpenGroupsCoincide limit limit' gs gs')
      (hbefore : LevelCoincide limit limit' gs.length before.reverse before'.reverse) :
      OpenGroupsCoincide limit limit' (⟨opener, kind, line, before⟩ :: gs)
        (⟨opener, kind, line, before'⟩ :: gs')

/-- States of nesting that coincide, level by level. -/
structure Nesting.Coincide (limit limit' : Nat) (n n' : Nesting) : Prop where
  /-- The open brackets. -/
  groups : OpenGroupsCoincide limit limit' n.openGroups n'.openGroups
  /-- The components inside the innermost one. -/
  current : LevelCoincide limit limit' n.openGroups.length n.current.reverse n'.current.reverse

variable {limit limit' : Nat}

theorem OpenGroupsCoincide.kinds_eq {gs gs' : List OpenGroup}
    (h : OpenGroupsCoincide limit limit' gs gs') :
    gs.map OpenGroup.kind = gs'.map OpenGroup.kind := by
  induction h with
  | nil => rfl
  | cons opener kind line _ _ ih => rw [List.map_cons, List.map_cons, ih]

/-- A bracket at a level coincides with one that has contents that coincide one level deeper. Beyond
the limit the contents need not, if there is one limit. -/
theorem LevelCoincide.group {level : Nat} {content content' : List Component}
    (h : LevelCoincide limit limit' (level + 1) content content')
    (hroom : limit = limit' ∨ level + 1 ≤ limit ∧ level + 1 ≤ limit') (opener : Token)
    (kind : Bracket) (line endLine : Nat) :
    LevelCoincide limit limit' level [.group opener kind line content endLine]
      [.group opener kind line content' endLine] := by
  intro hle hle'
  by_cases hlt : level + 1 ≤ limit ∧ level + 1 ≤ limit'
  · have hin := h hlt.1 hlt.2
    rw [show limit - level = limit - (level + 1) + 1 by omega,
      show limit' - level = limit' - (level + 1) + 1 by omega]
    exact .group opener kind line endLine hin .nil
  · obtain rfl := hroom.resolve_right hlt
    rw [show limit - level = 0 by omega]
    exact .deep opener kind line content content' endLine .nil

theorem LevelCoincide.append {level : Nat} {cs cs' more more' : List Component}
    (h : LevelCoincide limit limit' level cs cs')
    (hmore : LevelCoincide limit limit' level more more') :
    LevelCoincide limit limit' level (cs ++ more) (cs' ++ more') :=
  fun hle hle' => (h hle hle').append (hmore hle hle')

namespace Nesting

/-- There is one limit, or both readings keep to their own. -/
def Keeps (limit limit' : Nat) (n : Nesting) : Prop :=
  limit = limit' ∨ n.openGroups.length ≤ limit ∧ n.openGroups.length ≤ limit'

namespace Coincide

variable {n n' : Nesting}

theorem innermost?_eq (h : n.Coincide limit limit' n') : n.innermost? = n'.innermost? := by
  have hkinds := congrArg List.head? h.groups.kinds_eq
  rw [List.head?_map, List.head?_map] at hkinds
  exact hkinds

theorem enter (h : n.Coincide limit limit' n') (t : PlacedToken) (kind : Bracket) :
    (n.enter t kind).Coincide limit limit' (n'.enter t kind) where
  groups := .cons t.token kind t.line h.groups h.current
  current := fun _ _ => .nil

theorem push (h : n.Coincide limit limit' n') {c c' : Component}
    (hc : LevelCoincide limit limit' n.openGroups.length [c] [c']) :
    (n.push c).Coincide limit limit' (n'.push c') where
  groups := h.groups
  current := by
    rw [Nesting.push, Nesting.push]
    dsimp only
    rw [List.reverse_cons, List.reverse_cons]
    exact h.current.append hc

theorem close (h : n.Coincide limit limit' n') (hkeeps : n.Keeps limit limit') (line : Nat) :
    (n.close line).Coincide limit limit' (n'.close line) := by
  obtain ⟨gs, current⟩ := n
  obtain ⟨gs', current'⟩ := n'
  obtain ⟨hgroups, hcurrent⟩ := h
  cases hgroups with
  | nil => exact ⟨.nil, hcurrent⟩
  | cons opener kind l hgroups hbefore =>
      have hcoincide : Nesting.Coincide limit limit' ⟨_, _⟩ ⟨_, _⟩ := ⟨hgroups, hbefore⟩
      exact hcoincide.push (hcurrent.group hkeeps opener kind l line)

/-- Two states of nesting that coincide do so behind another token. -/
theorem add (h : n.Coincide limit limit' n') (hkeeps : n.Keeps limit limit') (t : PlacedToken) :
    (n.add t).Coincide limit limit' (n'.add t) := by
  rw [add_eq, add_eq, h.innermost?_eq]
  cases t.token.opens? with
  | some kind => exact h.enter t kind
  | none =>
      dsimp only
      split
      · exact h
      · split
        · exact h.close hkeeps t.line
        · exact h.push fun _ _ => .leaf t.token t.line .nil

theorem foldl_add (h : n.Coincide limit limit' n') {ts : List PlacedToken}
    (hkeeps : ∀ us, us <+: ts → (us.foldl Nesting.add n).Keeps limit limit') :
    (ts.foldl Nesting.add n).Coincide limit limit' (ts.foldl Nesting.add n') := by
  induction ts generalizing n n' with
  | nil => exact h
  | cons t ts ih =>
      refine ih (h.add (hkeeps [] (List.nil_prefix)) t) fun us hus => ?_
      exact hkeeps (t :: us) (List.cons_prefix_cons.2 ⟨rfl, hus⟩)

theorem start : Nesting.start.Coincide limit limit' Nesting.start := ⟨.nil, fun _ _ => .nil⟩

end Coincide

/-- At the end of the source the innermost bracket is closed first. -/
theorem finish_cons {gs : List OpenGroup} {g : OpenGroup} {current : List Component} (line : Nat) :
    finish ⟨g :: gs, current⟩ line = (close ⟨g :: gs, current⟩ line).finish line := rfl

theorem Coincide.finish {n n' : Nesting} (h : n.Coincide limit limit' n')
    (hkeeps : n.Keeps limit limit') (line : Nat) :
    Css.Coincide limit limit' (n.finish line) (n'.finish line) := by
  obtain ⟨gs, current⟩ := n
  obtain ⟨gs', current'⟩ := n'
  induction gs generalizing gs' current current' with
  | nil =>
      obtain ⟨hgroups, hcurrent⟩ := h
      cases hgroups
      exact hcurrent (Nat.zero_le _) (Nat.zero_le _)
  | cons g gs ih =>
      have hclosed := h.close hkeeps line
      cases h.groups with
      | cons opener kind l hgroups hbefore =>
          rw [finish_cons, finish_cons]
          refine ih _ (hkeeps.imp_right fun hroom => ?_) _ _ hclosed
          exact ⟨Nat.le_of_succ_le hroom.1, Nat.le_of_succ_le hroom.2⟩

end Nesting

/-! ## Style sheets that keep to the limit -/

/-- Everything found in a style sheet where `limit` levels of nesting are allowed. -/
def extractWithin (limit : Nat) (source : String) : Extraction :=
  Extraction.ofEvents (findings limit (Body.ofText source.toList))

/-- The tokens of a style sheet. -/
def tokensOf (source : String) : List Token :=
  (tokens source.toList).1.map PlacedToken.token

/-- Everything found in a style sheet without a limit to nesting: a bracket cannot be nested deeper
than there are tokens. -/
def extractUnlimited (source : String) : Extraction :=
  extractWithin (tokensOf source).length source

/-- What is found in components that coincide. -/
theorem findings_coincide {limit limit' : Nat} {content content' : List Component}
    (h : Coincide limit limit' content content') (endLine : Nat) :
    findings limit ⟨content, endLine⟩ = findings limit' ⟨content', endLine⟩ := by
  have hread := readInside_coincide .rules (.inside h endLine) .start
  rw [readInside, readInside] at hread
  rw [findings, findings, hread]

/-- A style sheet that keeps to two limits has no bracket beyond either. -/
theorem content_coincide {limit limit' : Nat} {source : String}
    (h : Shallow limit (tokensOf source)) (h' : Shallow limit' (tokensOf source)) :
    Coincide limit limit' (Body.ofText source.toList).content
      (Body.ofText source.toList).content := by
  have hkeeps : ∀ us, us <+: (tokens source.toList).1 →
      (us.foldl Nesting.add .start).Keeps limit limit' := by
    intro us hus
    have hus := hus.map PlacedToken.token
    have hlen : (us.foldl Nesting.add .start).openGroups.length =
        (openBehind [] (us.map PlacedToken.token)).length := by
      rw [← Nesting.length_kinds, Nesting.kinds_foldl_add]
      rfl
    rw [Nesting.Keeps, hlen]
    exact .inr ⟨h.length_openBehind hus, h'.length_openBehind hus⟩
  have hstate := Nesting.Coincide.start.foldl_add hkeeps
  exact hstate.finish (hkeeps _ (List.prefix_refl _)) (tokens source.toList).2

/-- Limits that a style sheet keeps to make no difference. -/
theorem extractWithin_congr {limit limit' : Nat} {source : String}
    (h : Shallow limit (tokensOf source)) (h' : Shallow limit' (tokensOf source)) :
    extractWithin limit source = extractWithin limit' source :=
  congrArg Extraction.ofEvents (findings_coincide (content_coincide h h') _)

/-- Without a limit no bracket is nested too deeply. -/
theorem tooDeep_notMem_extractUnlimited (source : String) (line : Nat) :
    ⟨line, .tooDeep⟩ ∉ (extractUnlimited source).notices := by
  have hcontent : Coincide (tokensOf source).length ((tokensOf source).length + 1)
      (Body.ofText source.toList).content (Body.ofText source.toList).content :=
    content_coincide (shallow_of_length_le (Nat.le_refl _)) (shallow_of_length_le (Nat.le_succ _))
  have hquiet := quiet_readInside .rules (.inside hcontent (tokens source.toList).2)
    (Nat.succ_ne_self _).symm (r := .start) (fun _ => List.not_mem_nil)
  intro hmem
  obtain ⟨e, he, hnotice⟩ := List.mem_filterMap.1 hmem
  cases e with
  | notice n =>
      cases hnotice
      exact hquiet line (List.mem_reverse.1 he)
  | declaration | atRule | selector => cases hnotice

/-- A limit that cannot be met changes nothing. -/
theorem extractWithin_of_length_le {limit : Nat} {source : String}
    (h : (tokensOf source).length ≤ limit) :
    extractWithin limit source = extractUnlimited source :=
  extractWithin_congr (shallow_of_length_le h) (shallow_of_length_le (Nat.le_refl _))

/-! ## What stands beyond the limit -/

/-- A token on no line in particular. -/
def Token.unplaced (t : Token) : PlacedToken := ⟨t, 0⟩

/-- The components of tokens on no line in particular. -/
def componentsOf (ts : List Token) : List Component :=
  ((ts.map Token.unplaced).foldl Nesting.add .start).finish 0

/-- Lines are read for notices only. -/
theorem extract_unplaced (source : String) :
    (extract source).moved 0 (fun _ => 0) =
      Extraction.ofEvents (findings nestingLimit ⟨componentsOf (tokensOf source), 0⟩) := by
  have hbody : (Body.ofText source.toList).recast (.lines fun _ => 0) =
      ⟨componentsOf (tokensOf source), 0⟩ := by
    have htokens : (tokensOf source).map Token.unplaced =
        (tokens source.toList).1.map (PlacedToken.recast (.lines fun _ => 0)) := by
      rw [tokensOf, List.map_map, PlacedToken.recast_lines]
      rfl
    have hstart : Nesting.start.recast (.lines fun _ => 0) = .start := rfl
    rw [componentsOf, htokens, ← hstart, Nesting.foldl_add_recast]
    exact congrArg (Body.mk · 0) (Nesting.finish_recast _ _).symm
  have hread : readBody nestingLimit (Setting.carried 0 (.lines fun _ => 0) .rules)
      ((Body.ofText source.toList).recast (.lines fun _ => 0))
        (Recorder.carried 0 (.lines fun _ => 0) [] .start) =
      (readBody nestingLimit .rules (Body.ofText source.toList) .start).carried 0
        (.lines fun _ => 0) [] :=
    readBody_carried ..
  rw [← carried_lines, extract, ← ofEvents_carried, findings, findings, ← hbody]
  change readBody nestingLimit .rules _ .start = _ at hread
  rw [hread, Recorder.found, Recorder.found, Recorder.carried, List.append_nil, List.map_reverse]

/-- The innermost bracket of a level and those opened in it. -/
theorem openGroups_add_inside {n : Nesting} {extra base : List OpenGroup} {g : OpenGroup}
    (h : n.openGroups = extra ++ g :: base) (t : PlacedToken)
    (hstays : t.token.nest (extra.map OpenGroup.kind ++ [g.kind]) ≠ []) :
    ∃ more, (n.add t).openGroups = more ++ g :: base ∧
      more.map OpenGroup.kind ++ [g.kind] =
        t.token.nest (extra.map OpenGroup.kind ++ [g.kind]) := by
  have hinner : n.innermost? = (extra.map OpenGroup.kind ++ [g.kind]).head? := by
    rw [Nesting.innermost?, h]
    cases extra <;> rfl
  rw [Nesting.add_eq, hinner]
  unfold Token.nest at hstays ⊢
  rcases hopens : t.token.opens? with _ | kind
  · rw [hopens] at hstays
    dsimp only at hstays ⊢
    by_cases hcomment : (t.token == .comment) = true
    · rw [if_pos hcomment, eq_of_beq hcomment]
      exact ⟨extra, h, rfl⟩
    · rw [if_neg hcomment]
      split
      · rename_i hcloses
        rw [if_pos hcloses] at hstays
        cases extra with
        | nil => exact absurd rfl hstays
        | cons x extra => exact ⟨extra, by rw [Nesting.openGroups_close, h]; rfl, rfl⟩
      · exact ⟨extra, h, rfl⟩
  · refine ⟨⟨t.token, kind, t.line, n.current⟩ :: extra, ?_, rfl⟩
    rw [List.cons_append, ← h]
    rfl

theorem openGroups_foldl_inside {n : Nesting} {extra base : List OpenGroup} {g : OpenGroup}
    (h : n.openGroups = extra ++ g :: base) (ts : List Token)
    (hstays : ∀ us, us <+: ts → openBehind (extra.map OpenGroup.kind ++ [g.kind]) us ≠ []) :
    ∃ more, ((ts.map Token.unplaced).foldl Nesting.add n).openGroups = more ++ g :: base ∧
      more.map OpenGroup.kind ++ [g.kind] =
        openBehind (extra.map OpenGroup.kind ++ [g.kind]) ts := by
  induction ts generalizing n extra with
  | nil => exact ⟨extra, h, rfl⟩
  | cons t ts ih =>
      obtain ⟨more, hmore, hkinds⟩ := openGroups_add_inside h t.unplaced
        (hstays [t] (List.cons_prefix_cons.2 ⟨rfl, List.nil_prefix⟩))
      have hopen : ∀ us, openBehind (more.map OpenGroup.kind ++ [g.kind]) us =
          openBehind (extra.map OpenGroup.kind ++ [g.kind]) (t :: us) := by
        intro us
        rw [hkinds]
        rfl
      rw [← hopen]
      exact ih hmore fun us hus =>
        hopen us ▸ hstays (t :: us) (List.cons_prefix_cons.2 ⟨rfl, hus⟩)

/-- A bracket stays open behind tokens that stand inside it. -/
theorem openGroups_of_staysInside {n : Nesting} {base : List OpenGroup} {g : OpenGroup}
    (h : n.openGroups = g :: base) {ts : List Token} (hstays : StaysInside g.kind ts) :
    ∃ more, ((ts.map Token.unplaced).foldl Nesting.add n).openGroups = more ++ g :: base ∧
      more.map OpenGroup.kind ++ [g.kind] = openBehind [g.kind] ts := by
  have hnone : n.openGroups = [] ++ g :: base := h
  exact openGroups_foldl_inside hnone ts hstays

/-- At the end of the source the brackets opened in one are closed before it. -/
theorem finish_inside {n : Nesting} {extra base : List OpenGroup}
    (h : n.openGroups = extra ++ base) (line : Nat) :
    ∃ current, n.finish line = (⟨base, current⟩ : Nesting).finish line := by
  induction extra generalizing n with
  | nil =>
      obtain ⟨gs, current⟩ := n
      obtain rfl : gs = base := h
      exact ⟨current, rfl⟩
  | cons g extra ih =>
      obtain ⟨gs, current⟩ := n
      obtain rfl : gs = g :: (extra ++ base) := h
      exact ih (n := Nesting.close _ line) rfl

/-- The state of nesting behind tokens. -/
def stateBehind (ts : List Token) : Nesting := (ts.map Token.unplaced).foldl Nesting.add .start

theorem length_openGroups_stateBehind (ts : List Token) :
    (stateBehind ts).openGroups.length = (openBehind [] ts).length := by
  have htokens : (ts.map Token.unplaced).map PlacedToken.token = ts := by
    rw [List.map_map]
    exact List.map_id ts
  rw [← Nesting.length_kinds, stateBehind, Nesting.kinds_foldl_add, htokens]
  rfl

/-- What stands inside a bracket is what its level holds where it is closed. -/
theorem componentsOf_inside (pre : List Token) {o : Token} {kind : Bracket}
    (ho : o.opens? = some kind) {inner post : List Token} (hinner : StaysInside kind inner)
    (hend : post = [] ∨ openBehind [kind] inner = [kind]) :
    ∃ current, componentsOf (pre ++ o :: (inner ++ post)) =
      ((post.map Token.unplaced).foldl Nesting.add
        ⟨⟨o, kind, 0, (stateBehind pre).current⟩ :: (stateBehind pre).openGroups,
          current⟩).finish 0 := by
  have henter : (stateBehind pre).add o.unplaced =
      (stateBehind pre).enter o.unplaced kind := by
    rw [Nesting.add_eq, Token.unplaced, ho]
  have hopened : ((stateBehind pre).enter o.unplaced kind).openGroups =
      ⟨o, kind, 0, (stateBehind pre).current⟩ :: (stateBehind pre).openGroups := rfl
  obtain ⟨more, hmore, hkinds⟩ := openGroups_of_staysInside hopened hinner
  have hsplit : componentsOf (pre ++ o :: (inner ++ post)) =
      ((post.map Token.unplaced).foldl Nesting.add ((inner.map Token.unplaced).foldl Nesting.add
        ((stateBehind pre).enter o.unplaced kind))).finish 0 := by
    rw [componentsOf, List.map_append, List.foldl_append, List.map_cons, List.foldl_cons,
      List.map_append, List.foldl_append, ← henter]
    rfl
  rw [hsplit]
  generalize (inner.map Token.unplaced).foldl Nesting.add _ = n at hmore
  rcases hend with rfl | hend
  · exact finish_inside hmore 0
  · have hnil : more = [] := by
      have hlen := congrArg List.length (hkinds.trans hend)
      rw [List.length_append, List.length_map] at hlen
      exact List.length_eq_zero_iff.1 (Nat.add_right_cancel hlen)
    obtain ⟨gs, current⟩ := n
    rw [hnil] at hmore
    obtain rfl := hmore
    exact ⟨current, rfl⟩

/-- What stands inside a bracket beyond the limit is of no account. -/
theorem componentsOf_coincide {limit : Nat} {pre : List Token}
    (hdeep : limit ≤ (openBehind [] pre).length) {o : Token} {kind : Bracket}
    (ho : o.opens? = some kind) {inner inner' post : List Token}
    (hinner : StaysInside kind inner) (hinner' : StaysInside kind inner')
    (hend : post = [] ∨ openBehind [kind] inner = [kind] ∧ openBehind [kind] inner' = [kind]) :
    Coincide limit limit (componentsOf (pre ++ o :: (inner ++ post)))
      (componentsOf (pre ++ o :: (inner' ++ post))) := by
  obtain ⟨current, hcomponents⟩ := componentsOf_inside pre ho hinner (hend.imp_right And.left)
  obtain ⟨current', hcomponents'⟩ := componentsOf_inside pre ho hinner' (hend.imp_right And.right)
  have hpre : (stateBehind pre).Coincide limit limit (stateBehind pre) :=
    Nesting.Coincide.start.foldl_add fun _ _ => .inl rfl
  have hinside : Nesting.Coincide limit limit
      ⟨⟨o, kind, 0, (stateBehind pre).current⟩ :: (stateBehind pre).openGroups, current⟩
      ⟨⟨o, kind, 0, (stateBehind pre).current⟩ :: (stateBehind pre).openGroups, current'⟩ := by
    refine ⟨.cons o kind 0 hpre.groups hpre.current, fun hle _ => ?_⟩
    rw [List.length_cons, length_openGroups_stateBehind] at hle
    omega
  rw [hcomponents, hcomponents']
  exact (hinside.foldl_add fun _ _ => .inl rfl).finish (.inl rfl) 0

/-- A token that leaves nothing open closes the only bracket that is open. -/
theorem closes_of_nest_eq_nil {more : List Bracket} {kind : Bracket} {t : Token}
    (h : t.nest (more ++ [kind]) = []) : more = [] ∧ t.closes? = some kind := by
  unfold Token.nest at h
  split at h
  · cases h
  · split at h
    · rename_i hcloses
      cases more with
      | nil => exact ⟨rfl, eq_of_beq (Bool.and_eq_true _ _ ▸ hcloses).2⟩
      | cons b more => simp at h
    · simp at h

/-- The tokens behind an opened bracket are those that stand inside it, and then the one that closes
it, if there is one, with all others. -/
theorem exists_inside (kind : Bracket) (ts : List Token) :
    ∃ inner post, ts = inner ++ post ∧ StaysInside kind inner ∧
      (post = [] ∨ openBehind [kind] inner = [kind] ∧ ∃ c rest, post = c :: rest ∧
        c.closes? = some kind) := by
  induction ts using List.reverseRecOn with
  | nil =>
      refine ⟨[], [], rfl, fun us hus => ?_, .inl rfl⟩
      rw [List.prefix_nil.1 hus]
      exact List.cons_ne_nil kind []
  | append_singleton ts t ih =>
      obtain ⟨inner, post, rfl, hinner, hpost⟩ := ih
      rcases hpost with rfl | ⟨hbalanced, c, rest, rfl, hc⟩
      · rw [List.append_nil]
        have hopened : (Nesting.mk [⟨.blank, kind, 0, []⟩] []).openGroups =
            [⟨.blank, kind, 0, []⟩] := rfl
        obtain ⟨more, -, hopen⟩ := openGroups_of_staysInside hopened hinner
        change more.map OpenGroup.kind ++ [kind] = openBehind [kind] inner at hopen
        by_cases hlast : openBehind [kind] (inner ++ [t]) = []
        · rw [openBehind_append, ← hopen] at hlast
          obtain ⟨hnil, hcloses⟩ := closes_of_nest_eq_nil hlast
          rw [hnil, List.nil_append] at hopen
          exact ⟨inner, [t], rfl, hinner, .inr ⟨hopen.symm, t, [], rfl, hcloses⟩⟩
        · refine ⟨inner ++ [t], [], (List.append_nil _).symm, fun us hus => ?_, .inl rfl⟩
          rcases List.prefix_concat_iff.1 hus with rfl | hus
          · exact hlast
          · exact hinner us hus
      · exact ⟨inner, c :: (rest ++ [t]), by rw [List.append_assoc]; rfl, hinner,
          .inr ⟨hbalanced, c, _, rfl, hc⟩⟩

/-! ## The limit is exact -/

/-- The limit to nesting is exact. A style sheet that opens no bracket where as many are open as the
limit says is read as without a limit. And whatever stands inside a bracket that is opened where so
many are open, up to its closing bracket or the end of the source, can be replaced by other tokens
that leave none of their own brackets open: the findings are the same, with the same block numbers,
and so are the notices, but for their lines. -/
theorem extract_nestingLimit :
    (∀ source, Shallow nestingLimit (tokensOf source) →
      extract source = extractUnlimited source) ∧
    ∀ (source source' : String) (pre inner inner' post : List Token) (o : Token) (kind : Bracket),
      tokensOf source = pre ++ o :: (inner ++ post) →
      tokensOf source' = pre ++ o :: (inner' ++ post) →
      o.opens? = some kind → nestingLimit ≤ (openBehind [] pre).length →
      StaysInside kind inner → StaysInside kind inner' →
      (post = [] ∨ openBehind [kind] inner = [kind] ∧ openBehind [kind] inner' = [kind]) →
      (extract source).declarations = (extract source').declarations ∧
        (extract source).atRules = (extract source').atRules ∧
        (extract source).selectors = (extract source').selectors ∧
        (extract source).notices.map Notice.cause = (extract source').notices.map Notice.cause := by
  constructor
  · intro source h
    exact extractWithin_congr h (shallow_of_length_le (Nat.le_refl _))
  · intro source source' pre inner inner' post o kind htokens htokens' ho hdeep hinner hinner' hend
    have hcontent := componentsOf_coincide hdeep ho hinner hinner' hend
    have hmoved : (extract source).moved 0 (fun _ => 0) =
        (extract source').moved 0 fun _ => 0 := by
      rw [extract_unplaced, extract_unplaced, htokens, htokens', findings_coincide hcontent]
    have hdeclaration : Declaration.moved 0 = id := rfl
    have hselector : SelectorEntry.moved 0 = id := rfl
    have hcause : ∀ ns : List Notice,
        (ns.map (Notice.relined fun _ => 0)).map Notice.cause = ns.map Notice.cause := by
      intro ns
      rw [List.map_map]
      rfl
    obtain ⟨hdeclarations, hatRules, hselectors, hnotices⟩ := Extraction.mk.inj hmoved
    rw [hdeclaration, List.map_id, List.map_id] at hdeclarations
    rw [hselector, List.map_id, List.map_id] at hselectors
    refine ⟨hdeclarations, hatRules, hselectors, ?_⟩
    rw [← hcause, hnotices, hcause]

/-- An at-rule with a word in more brackets than the limit allows, the innermost of them closed. -/
def deepQuery (word : List Char) : String :=
  String.ofList (['@', 'm'] ++ List.replicate (nestingLimit + 1) '(' ++ word ++ [')'])

/-- The tokens of the at-rule in front of the bracket beyond the limit. -/
def deepQueryFront : List Token :=
  .atKeyword "m" :: List.replicate nestingLimit (.openBracket .round)

theorem extract_nestingLimit_deep :
    Shallow nestingLimit (tokensOf "a\x7bb:c\x7d") ∧
    extract "a\x7bb:c\x7d" = extractUnlimited "a\x7bb:c\x7d" ∧
    tokensOf (deepQuery ['a']) =
      deepQueryFront ++ .openBracket .round :: ([.ident "a"] ++ [.closeBracket .round]) ∧
    tokensOf (deepQuery ['[', ']']) = deepQueryFront ++ .openBracket .round ::
      ([.openBracket .square, .closeBracket .square] ++ [.closeBracket .round]) ∧
    nestingLimit ≤ (openBehind [] deepQueryFront).length ∧
    StaysInside .round [.ident "a"] ∧
    StaysInside .round [.openBracket .square, .closeBracket .square] ∧
    (extract (deepQuery ['a'])).atRules = (extract (deepQuery ['[', ']'])).atRules := by
  have hshallow : Shallow nestingLimit (tokensOf "a\x7bb:c\x7d") :=
    shallow_of_length_le (by decide +kernel)
  have ha : tokensOf (deepQuery ['a']) =
      deepQueryFront ++ .openBracket .round :: ([.ident "a"] ++ [.closeBracket .round]) := by
    rw [tokensOf, deepQuery, String.toList_ofList]
    decide +kernel
  have hb : tokensOf (deepQuery ['[', ']']) = deepQueryFront ++ .openBracket .round ::
      ([.openBracket .square, .closeBracket .square] ++ [.closeBracket .round]) := by
    rw [tokensOf, deepQuery, String.toList_ofList]
    decide +kernel
  have hdeep : nestingLimit ≤ (openBehind [] deepQueryFront).length := by decide +kernel
  have hinner : StaysInside .round [.ident "a"] := by decide
  have hinner' : StaysInside .round [.openBracket .square, .closeBracket .square] := by decide
  refine ⟨hshallow, extract_nestingLimit.1 _ hshallow, ha, hb, hdeep, hinner, hinner', ?_⟩
  exact (extract_nestingLimit.2 _ _ _ _ _ _ _ _ ha hb rfl hdeep hinner hinner'
    (.inr ⟨by decide, by decide⟩)).2.1

end FeatureScan.Css
