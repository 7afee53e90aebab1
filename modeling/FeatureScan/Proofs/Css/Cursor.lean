import FeatureScan.Proofs.Css.NestingLimit

/-!
# Parsers that stand in a style sheet

A parser stands somewhere in the tokens of a style sheet, inside a bracket or inside none, and hands
out one token after another, up to the token that closes its bracket. If the token handed out last
has opened a bracket of its own, a parser for what stands inside that can be made. As soon as another
token is asked for, the content of the bracket is passed over and can be entered no more.

What must not happen to calls of parsers is told as a mishap: to enter a bracket that was not opened
just now, to leave one before its end, to go round a loop without coming nearer to the end, and to
enter more brackets one inside the other than there are levels for.

A cursor shows components: those of the nested style sheet that are ahead inside its bracket. What
calls do is stated on what is shown, in the form "from one view the call gives a result and leads to
another view".

## Main results

* `lays_ofText`: a style sheet lays out its components.
* `Lays.passOver`: passing over a bracket leaves what stands behind it.
* `Gives.bind`, `Gives.again`, `Gives.leave`: calls in a row, and rounds of a loop.
* `gives_next`, `gives_nested`: the next token, and what stands inside a bracket.
-/

namespace FeatureScan.Css

/-! ## Cursors -/

/-- Where a parser stands in a style sheet. -/
structure Cursor where
  /-- The tokens ahead. Those behind the bracket that the parser stands in are among them. -/
  ahead : List PlacedToken
  /-- The line on which the source ends. -/
  lastLine : Nat
  /-- The bracket that the parser stands in. -/
  inside : Option Bracket
  /-- The line behind the token handed out last. -/
  line : Nat
  /-- The bracket that this token has opened, as long as it can be entered. -/
  opened : Option Bracket

/-- Whether a token closes the bracket that a parser stands in. -/
def PlacedToken.closes (t : PlacedToken) (inside : Option Bracket) : Bool :=
  t.token.closes?.isSome && t.token.closes? == inside

/-- Whether a token is white space or a comment. -/
def PlacedToken.isVoid (t : PlacedToken) : Bool := t.token == .blank || t.token == .comment

/-- Passes over tokens until the brackets `opened` are closed. The result is what stands behind
them, and the line there. -/
def passOver (lastLine : Nat) (opened : List Bracket) : List PlacedToken → List PlacedToken × Nat
  | [] => ([], lastLine)
  | t :: ts =>
    let left := t.token.nest opened
    if left.isEmpty then (ts, t.line) else passOver lastLine left ts

/-- Passes over what the token handed out last has opened, if it was not entered. -/
def Cursor.settle (c : Cursor) : Cursor :=
  match c.opened with
  | none => c
  | some b =>
    let (ahead, line) := passOver c.lastLine [b] c.ahead
    { c with ahead, line, opened := none }

/-! ## Calls -/

/-- What can go wrong with calls of parsers. -/
inductive Mishap
  /-- A bracket is to be entered, but the token handed out last has opened none. -/
  | notOpened
  /-- A bracket is left before all that stands in it has been read. -/
  | unread
  /-- A round of a loop has taken nothing away. -/
  | idle
  /-- More brackets are to be entered one inside the other than there are levels for. -/
  | tooDeep
  deriving DecidableEq, Repr

/-- A call of a parser. -/
abbrev Call (α : Type) := StateT Cursor (Except Mishap) α

namespace Call

/-- The next token, if there is one. -/
def next : Call (Option Token) := fun c =>
  let c := c.settle
  match c.ahead.dropWhile fun t => t.token == .comment with
  | [] => .ok (none, { c with ahead := [], line := c.lastLine })
  | t :: ts =>
    if t.closes c.inside then .ok (none, { c with ahead := t :: ts, line := t.line })
    else .ok (some t.token, { c with ahead := ts, line := t.line, opened := t.token.opens? })

/-- Passes over white space. -/
def skipBlanks : Call Unit := fun c =>
  let c := c.settle
  .ok ((), { c with ahead := c.ahead.dropWhile PlacedToken.isVoid })

/-- The next token that is no white space. -/
def nextSolid : Call (Option Token) := do
  skipBlanks
  next

/-- The line behind the token handed out last. -/
def lineHere : Call Nat := fun c => .ok (c.line, c)

/-- Tries a call, and goes back to where it began if it has not worked. -/
def attempt {α : Type} (worked : α → Bool) (call : Call α) : Call α := fun c =>
  match call c with
  | .error m => .error m
  | .ok (a, c') => .ok (a, if worked a then c' else c)

/-- Reads inside the bracket that the token handed out last has opened, with a parser for it, where
`levels` more brackets can be entered one inside the other. -/
def nested {α : Type} (levels : Nat) (inner : Call α) : Call α := fun c =>
  if levels = 0 then .error .tooDeep
  else
    match c.opened with
    | none => .error .notOpened
    | some b =>
      match inner { c with inside := some b, opened := none } with
      | .error m => .error m
      | .ok (a, c') =>
        match nextSolid c' with
        | .error m => .error m
        | .ok (some _, _) => .error .unread
        | .ok (none, c') =>
          let (ahead, line) := passOver c.lastLine [b] c'.ahead
          .ok (a, { c with ahead, line, opened := none })

/-- How a round of a loop ends. -/
inductive Round (α β : Type)
  /-- There is another round. -/
  | again (a : α)
  /-- The loop is left. -/
  | leave (b : β)

/-- Takes rounds until one of them leaves the loop. Each of the others is to take tokens away. -/
def loop {α β : Type} (round : α → Call (Round α β)) (a : α) : Call β := fun c =>
  match round a c with
  | .error m => .error m
  | .ok (.leave b, c') => .ok (b, c')
  | .ok (.again a', c') =>
    if c'.ahead.length < c.ahead.length then loop round a' c' else .error .idle
termination_by c => c.ahead.length

end Call

/-! ## What tokens lay out -/

section Closing

variable {t : PlacedToken} {b : Bracket}

theorem opens?_of_closes {inside : Option Bracket} (h : t.closes inside = true) :
    t.token.opens? = none := by
  obtain ⟨token, line⟩ := t
  cases token <;> first | rfl | cases h

/-- Outside all brackets no token closes anything. -/
theorem not_closes_none (t : PlacedToken) : t.closes none = false := by
  rw [PlacedToken.closes]
  cases t.token.closes? <;> rfl

theorem ne_comment_of_closes {inside : Option Bracket} (h : t.closes inside = true) :
    t.token ≠ .comment := by
  intro hcomment
  rw [PlacedToken.closes, hcomment] at h
  cases h

theorem ne_comment_of_opens {kind : Bracket} (h : t.token.opens? = some kind) :
    t.token ≠ .comment := by
  intro hcomment
  rw [hcomment] at h
  cases h

theorem not_closes_of_opens {kind : Bracket} (h : t.token.opens? = some kind)
    (inside : Option Bracket) : t.closes inside = false := by
  refine eq_false_of_ne_true fun hcloses => ?_
  rw [opens?_of_closes hcloses] at h
  cases h

theorem nest_of_opens {kind : Bracket} (h : t.token.opens? = some kind) (bs : List Bracket) :
    t.token.nest bs = kind :: bs := by
  rw [Token.nest, h]

theorem nest_of_closes (h : t.closes (some b) = true) (bs : List Bracket) :
    t.token.nest (b :: bs) = bs := by
  rw [Token.nest, opens?_of_closes h]
  exact if_pos h

theorem nest_of_not_closes (hopens : t.token.opens? = none) (h : t.closes (some b) = false)
    (bs : List Bracket) : t.token.nest (b :: bs) = b :: bs := by
  rw [Token.nest, hopens]
  exact if_neg (ne_true_of_eq_false h)

end Closing

/-- `Lays lastLine inside ts cs endLine behind`: read inside a bracket, the tokens `ts` are laid out
as the components `cs`, which end on line `endLine`, and behind them as the tokens `behind`, of which
the first closes the bracket. -/
inductive Lays (lastLine : Nat) :
    Option Bracket → List PlacedToken → List Component → Nat → List PlacedToken → Prop
  | sourceEnd (inside : Option Bracket) : Lays lastLine inside [] [] lastLine []
  | closed {inside : Option Bracket} {t : PlacedToken} (ts : List PlacedToken)
      (h : t.closes inside = true) : Lays lastLine inside (t :: ts) [] t.line (t :: ts)
  | comment {inside : Option Bracket} {t : PlacedToken} {ts behind : List PlacedToken}
      {cs : List Component} {endLine : Nat} (h : t.token = .comment)
      (hts : Lays lastLine inside ts cs endLine behind) :
      Lays lastLine inside (t :: ts) cs endLine behind
  | leaf {inside : Option Bracket} {t : PlacedToken} {ts behind : List PlacedToken}
      {cs : List Component} {endLine : Nat} (hopens : t.token.opens? = none)
      (hcomment : t.token ≠ .comment) (hcloses : t.closes inside = false)
      (hts : Lays lastLine inside ts cs endLine behind) :
      Lays lastLine inside (t :: ts) (.leaf t.token t.line :: cs) endLine behind
  | group {inside : Option Bracket} {t : PlacedToken} {ts left behind : List PlacedToken}
      {kind : Bracket} {content cs : List Component} {contentEnd endLine : Nat}
      (hopens : t.token.opens? = some kind)
      (hcontent : Lays lastLine (some kind) ts content contentEnd left)
      (hts : Lays lastLine inside left.tail cs endLine behind) :
      Lays lastLine inside (t :: ts) (.group t.token kind t.line content contentEnd :: cs) endLine
        behind

namespace Lays

variable {lastLine endLine : Nat} {inside : Option Bracket} {ts behind : List PlacedToken}
  {cs : List Component}

theorem length_le (h : Lays lastLine inside ts cs endLine behind) :
    behind.length ≤ ts.length := by
  induction h with
  | sourceEnd | closed => exact Nat.le_refl _
  | comment _ _ ih | leaf _ _ _ _ ih => exact Nat.le_succ_of_le ih
  | group _ _ _ ihcontent ihts =>
      rw [List.length_tail] at ihts
      rw [List.length_cons]
      omega

/-- What is laid out ends with the source or in front of a token that closes the bracket. -/
theorem behind_cases (h : Lays lastLine inside ts cs endLine behind) :
    behind = [] ∧ endLine = lastLine ∨
      ∃ t us, behind = t :: us ∧ t.closes inside = true ∧ endLine = t.line := by
  induction h with
  | sourceEnd => exact .inl ⟨rfl, rfl⟩
  | closed ts h => exact .inr ⟨_, ts, rfl, h, rfl⟩
  | comment _ _ ih | leaf _ _ _ _ ih => exact ih
  | group _ _ _ _ ih => exact ih

/-- Passing over what is laid out with the bracket around it. -/
theorem passOver_cons {b : Bracket} (h : Lays lastLine (some b) ts cs endLine behind)
    (bs : List Bracket) :
    passOver lastLine (b :: bs) ts =
      if bs.isEmpty then (behind.tail, endLine) else passOver lastLine bs behind.tail := by
  generalize hinside : some b = inside at h
  induction h generalizing b bs with
  | sourceEnd => cases bs <;> rfl
  | closed ts h =>
      subst hinside
      rw [passOver, nest_of_closes h]
      rfl
  | comment h _ ih =>
      rw [passOver, h]
      exact ih bs hinside
  | leaf hopens _ hcloses _ ih =>
      subst hinside
      rw [passOver, nest_of_not_closes hopens hcloses]
      exact ih bs rfl
  | group hopens _ _ ihcontent ihts =>
      rw [passOver, nest_of_opens hopens]
      exact (ihcontent (b :: bs) rfl).trans (ihts bs hinside)

theorem passOver (h : Lays lastLine (some b) ts cs endLine behind) :
    passOver lastLine [b] ts = (behind.tail, endLine) := h.passOver_cons []

end Lays

/-- All tokens are laid out. -/
theorem exists_lays (lastLine : Nat) (inside : Option Bracket) (ts : List PlacedToken) :
    ∃ cs endLine behind, Lays lastLine inside ts cs endLine behind := by
  induction hn : ts.length using Nat.strongRecOn generalizing inside ts with
  | ind n ih =>
      cases ts with
      | nil => exact ⟨[], lastLine, [], .sourceEnd inside⟩
      | cons t ts =>
          have hts : ts.length < n := by rw [← hn]; exact Nat.lt_succ_self _
          by_cases hcloses : t.closes inside = true
          · exact ⟨[], t.line, t :: ts, .closed ts hcloses⟩
          obtain ⟨cs, endLine, behind, hrest⟩ := ih _ hts inside ts rfl
          by_cases hcomment : t.token = .comment
          · exact ⟨cs, endLine, behind, .comment hcomment hrest⟩
          cases hopens : t.token.opens? with
          | none =>
              exact ⟨_, endLine, behind, .leaf hopens hcomment (eq_false_of_ne_true hcloses) hrest⟩
          | some kind =>
              obtain ⟨content, contentEnd, left, hcontent⟩ := ih _ hts (some kind) ts rfl
              have hleft := hcontent.length_le
              obtain ⟨cs, endLine, behind, hrest⟩ :=
                ih left.tail.length (by rw [List.length_tail]; omega) inside left.tail rfl
              exact ⟨_, endLine, behind, .group hopens hcontent hrest⟩

/-- A bracket is closed by the token in front of what is left, or by the end of the source. -/
theorem finish_foldl_add_enter {lastLine contentEnd : Nat} {kind : Bracket}
    {ts left : List PlacedToken} {content : List Component}
    (h : Lays lastLine (some kind) ts content contentEnd left) (n : Nesting) (t : PlacedToken) :
    (left.foldl Nesting.add ⟨(n.enter t kind).openGroups, content.reverse⟩).finish lastLine =
      (left.tail.foldl Nesting.add
        (n.push (.group t.token kind t.line content contentEnd))).finish lastLine := by
  have hclose : ∀ line,
      Nesting.close ⟨(n.enter t kind).openGroups, content.reverse⟩ line =
        n.push (.group t.token kind t.line content line) := by
    intro line
    rw [Nesting.enter, Nesting.close, List.reverse_reverse]
    rfl
  obtain ⟨rfl, rfl⟩ | ⟨u, us, rfl, hu, rfl⟩ := h.behind_cases
  · rw [List.tail_nil, List.foldl_nil, List.foldl_nil, ← hclose]
    rfl
  · have hadd : Nesting.add ⟨(n.enter t kind).openGroups, content.reverse⟩ u =
        n.push (.group t.token kind t.line content u.line) := by
      rw [← hclose, Nesting.add_eq, opens?_of_closes hu]
      dsimp only
      rw [if_neg (by simpa using ne_comment_of_closes hu)]
      exact if_pos hu
    rw [List.foldl_cons, hadd, List.tail_cons]

/-- Nesting tokens adds the components that they lay out. -/
theorem Lays.finish_foldl_add {lastLine endLine : Nat} {inside : Option Bracket}
    {ts behind : List PlacedToken} {cs : List Component}
    (h : Lays lastLine inside ts cs endLine behind) (n : Nesting) (hn : n.innermost? = inside) :
    (ts.foldl Nesting.add n).finish lastLine =
      (behind.foldl Nesting.add ⟨n.openGroups, cs.reverse ++ n.current⟩).finish lastLine := by
  induction h generalizing n with
  | sourceEnd | closed => rfl
  | @comment _ t _ _ _ _ h _ ih =>
      have hadd : n.add t = n := by rw [Nesting.add_eq, h]; rfl
      rw [List.foldl_cons, hadd, ih n hn]
  | @leaf _ t _ _ _ _ hopens hcomment hcloses _ ih =>
      have hadd : n.add t = n.push (.leaf t.token t.line) := by
        rw [Nesting.add_eq, hopens, hn]
        dsimp only
        rw [if_neg (by simpa using hcomment)]
        exact if_neg (ne_true_of_eq_false hcloses)
      rw [List.foldl_cons, hadd, ih (n.push _) hn, List.reverse_cons, List.append_assoc]
      rfl
  | @group _ t _ left _ kind content _ contentEnd _ hopens hcontent _ ihcontent ihts =>
      have hadd : n.add t = n.enter t kind := by rw [Nesting.add_eq, hopens]
      rw [List.foldl_cons, hadd, ihcontent (n.enter t kind) rfl,
        show (n.enter t kind).current = [] from rfl, List.append_nil,
        finish_foldl_add_enter hcontent, ihts (n.push _) hn, List.reverse_cons, List.append_assoc]
      rfl

/-- A style sheet lays out its components. -/
theorem lays_ofText (cs : List Char) :
    Lays (tokens cs).2 none (tokens cs).1 (Body.ofText cs).content (Body.ofText cs).endLine [] := by
  obtain ⟨content, endLine, behind, h⟩ := exists_lays (tokens cs).2 none (tokens cs).1
  have hbehind : behind = [] ∧ endLine = (tokens cs).2 := by
    obtain hend | ⟨t, us, -, ht, -⟩ := h.behind_cases
    · exact hend
    · rw [not_closes_none] at ht
      cases ht
  obtain ⟨rfl, rfl⟩ := hbehind
  have hcontent : (Body.ofText cs).content = content := by
    have hfold := h.finish_foldl_add .start rfl
    rw [List.foldl_nil] at hfold
    refine hfold.trans ?_
    change (content.reverse ++ []).reverse = content
    rw [List.append_nil, List.reverse_reverse]
  rw [hcontent]
  exact h

/-! ## The first token of a component -/

namespace Component

/-- The first token of a component. -/
def head : Component → Token
  | leaf t _ => t
  | group opener .. => opener

/-- The line behind that token. -/
def headLine : Component → Nat
  | leaf _ line => line
  | group _ _ line _ _ => line

/-- The line behind a component. -/
def endLine : Component → Nat
  | leaf _ line => line
  | group _ _ _ _ endLine => endLine

/-- The bracket that a component has. -/
def kind? : Component → Option Bracket
  | leaf .. => none
  | group _ kind .. => some kind

/-- What stands inside the bracket of a component. -/
def body? : Component → Option Body
  | leaf .. => none
  | group _ _ _ content endLine => some ⟨content, endLine⟩

end Component

/-- Components whose first tokens open the brackets that they have. -/
def WellHeaded (cs : List Component) : Prop := ∀ c ∈ cs, c.head.opens? = c.kind?

theorem WellHeaded.suffix {cs ds : List Component} (h : WellHeaded cs) (hds : ds <:+ cs) :
    WellHeaded ds := fun c hc => h c (hds.mem hc)

theorem Lays.wellHeaded {lastLine endLine : Nat} {inside : Option Bracket}
    {ts behind : List PlacedToken} {cs : List Component}
    (h : Lays lastLine inside ts cs endLine behind) : WellHeaded cs := by
  induction h with
  | sourceEnd | closed => exact nofun
  | comment _ _ ih => exact ih
  | leaf hopens _ _ _ ih => exact List.forall_mem_cons.2 ⟨hopens, ih⟩
  | group hopens _ _ _ ih => exact List.forall_mem_cons.2 ⟨hopens, ih⟩

theorem isBlock_eq_true_iff {c : Component} :
    c.isBlock = true ↔ ∃ opener line content endLine, c = .group opener .curly line content endLine := by
  cases c with
  | leaf t line => simp [Component.isBlock]
  | group opener kind line content endLine => cases kind <;> simp [Component.isBlock]

theorem isBlock_eq_true_iff_kind? {c : Component} : c.isBlock = true ↔ c.kind? = some .curly := by
  cases c with
  | leaf t line => exact ⟨nofun, nofun⟩
  | group opener kind line content endLine => cases kind <;> simp [Component.isBlock, Component.kind?]

section

variable {c : Component} (hopens : c.head.opens? = c.kind?)

include hopens

/-- Blocks, and they alone, begin with a bracket in curls. -/
theorem head_eq_curly_iff : c.head = .openBracket .curly ↔ c.isBlock = true := by
  rw [isBlock_eq_true_iff_kind?, ← hopens]
  constructor
  · intro h
    rw [h]
    rfl
  · intro h
    cases hhead : c.head with
    | openBracket b =>
        rw [hhead] at h
        cases h
        rfl
    | _ =>
        rw [hhead] at h
        cases h

/-- A token that opens no bracket is the first one of a leaf only. -/
theorem head_eq_iff {t : Token} (ht : t.opens? = none) : c.head = t ↔ ∃ line, c = .leaf t line := by
  cases c with
  | leaf t' line =>
      constructor
      · intro h
        exact ⟨line, by rw [← show t' = t from h]⟩
      · rintro ⟨_, h⟩
        cases h
        rfl
  | group opener kind line content endLine =>
      refine ⟨fun h => ?_, nofun⟩
      rw [h, ht] at hopens
      cases hopens

theorem isToken_eq_true_iff {t : Token} (ht : t.opens? = none) :
    c.isToken t = true ↔ c.head = t := by
  cases c with
  | leaf t' line => exact beq_iff_eq
  | group opener kind line content endLine =>
      rw [head_eq_iff hopens ht]
      exact ⟨nofun, nofun⟩

end

/-! ## What a cursor shows -/

/-- What is ahead of a parser, as components. -/
structure View where
  /-- The components ahead. -/
  rest : List Component
  /-- The line on which they end. -/
  endLine : Nat
  /-- The line behind the token handed out last. -/
  line : Nat
  /-- What this token has opened, as long as it can be entered. -/
  opened : Option Body

/-- The line behind what the token handed out last has opened. -/
def View.settledLine (v : View) : Nat := v.opened.elim v.line Body.endLine

/-- What a cursor shows inside a bracket behind which the tokens `behind` stand. -/
inductive Shows (lastLine : Nat) (inside : Option Bracket) (behind : List PlacedToken) :
    Cursor → View → Prop
  | settled {ahead : List PlacedToken} {rest : List Component} {endLine : Nat} (line : Nat)
      (h : Lays lastLine inside ahead rest endLine behind) :
      Shows lastLine inside behind ⟨ahead, lastLine, inside, line, none⟩
        ⟨rest, endLine, line, none⟩
  | opening {ahead left : List PlacedToken} {rest content : List Component}
      {endLine contentEnd : Nat} {b : Bracket} (line : Nat)
      (hcontent : Lays lastLine (some b) ahead content contentEnd left)
      (h : Lays lastLine inside left.tail rest endLine behind) :
      Shows lastLine inside behind ⟨ahead, lastLine, inside, line, some b⟩
        ⟨rest, endLine, line, some ⟨content, contentEnd⟩⟩

section Shows

variable {lastLine endLine : Nat} {inside : Option Bracket} {ts behind : List PlacedToken}
  {cs : List Component} {c : Component}

theorem Shows.settle {c : Cursor} {v : View} (h : Shows lastLine inside behind c v) :
    Shows lastLine inside behind c.settle ⟨v.rest, v.endLine, v.settledLine, none⟩ ∧
      c.settle.ahead.length ≤ c.ahead.length := by
  cases h with
  | settled line h => exact ⟨.settled line h, Nat.le_refl _⟩
  | opening line hcontent h =>
      rw [Cursor.settle]
      dsimp only
      rw [hcontent.passOver]
      have hle := hcontent.length_le
      refine ⟨.settled _ h, ?_⟩
      dsimp only
      rw [List.length_tail]
      omega

theorem Lays.nil_behind (h : Lays lastLine inside ts cs endLine behind) :
    Lays lastLine inside behind [] endLine behind := by
  obtain ⟨rfl, rfl⟩ | ⟨t, us, rfl, ht, rfl⟩ := h.behind_cases
  · exact .sourceEnd inside
  · exact .closed us ht

/-- Behind comments stands the end of the bracket, if there are no components ahead. -/
theorem Lays.dropWhile_nil (h : Lays lastLine inside ts [] endLine behind) :
    ts.dropWhile (fun t => t.token == .comment) = behind := by
  generalize hcs : ([] : List Component) = cs at h
  induction h with
  | sourceEnd => rfl
  | closed ts h => exact List.dropWhile_cons_of_neg (by simpa using ne_comment_of_closes h)
  | comment h _ ih =>
      rw [List.dropWhile_cons_of_pos (by simpa using h)]
      exact ih hcs
  | leaf | group => cases hcs

/-- Behind comments stands the first token of the first component. -/
theorem Lays.dropWhile_cons (h : Lays lastLine inside ts (c :: cs) endLine behind) :
    ∃ us, ts.dropWhile (fun t => t.token == .comment) = ⟨c.head, c.headLine⟩ :: us ∧
      PlacedToken.closes ⟨c.head, c.headLine⟩ inside = false ∧
      Shows lastLine inside behind ⟨us, lastLine, inside, c.headLine, c.kind?⟩
        ⟨cs, endLine, c.headLine, c.body?⟩ ∧
      us.length < ts.length := by
  generalize hcs : c :: cs = ds at h
  induction h with
  | sourceEnd | closed => cases hcs
  | comment h _ ih =>
      obtain ⟨us, hus, hrest, hshows, hlt⟩ := ih hcs
      rw [List.dropWhile_cons_of_pos (by simpa using h)]
      exact ⟨us, hus, hrest, hshows, Nat.lt_succ_of_lt hlt⟩
  | leaf hopens hcomment hcloses hts =>
      cases hcs
      exact ⟨_, List.dropWhile_cons_of_neg (by simpa using hcomment), hcloses, .settled _ hts,
        Nat.lt_succ_self _⟩
  | group hopens hcontent hts =>
      cases hcs
      exact ⟨_, List.dropWhile_cons_of_neg (by simpa using ne_comment_of_opens hopens),
        not_closes_of_opens hopens _, .opening _ hcontent hts, Nat.lt_succ_self _⟩

/-- What is laid out behind white space. -/
theorem Lays.dropVoid (h : Lays lastLine inside ts cs endLine behind) :
    Lays lastLine inside (ts.dropWhile PlacedToken.isVoid) (dropBlanks cs) endLine behind ∧
      ((dropBlanks cs).length < cs.length →
        (ts.dropWhile PlacedToken.isVoid).length < ts.length) := by
  have hle : ∀ us : List PlacedToken, (us.dropWhile PlacedToken.isVoid).length ≤ us.length :=
    fun us => (List.dropWhile_sublist _).length_le
  induction h with
  | sourceEnd => exact ⟨.sourceEnd _, id⟩
  | @closed _ t ts h =>
      have hvoid : t.isVoid = false := by
        obtain ⟨token, line⟩ := t
        cases token <;> first | rfl | cases h
      rw [List.dropWhile_cons_of_neg (ne_true_of_eq_false hvoid)]
      exact ⟨.closed ts h, fun h => absurd h (Nat.lt_irrefl _)⟩
  | @comment _ t ts _ _ _ h _ ih =>
      have hvoid : t.isVoid = true := by rw [PlacedToken.isVoid, h]; rfl
      rw [List.dropWhile_cons_of_pos hvoid]
      exact ⟨ih.1, fun _ => Nat.lt_succ_of_le (hle ts)⟩
  | @leaf _ t ts _ _ _ hopens hcomment hcloses hts ih =>
      by_cases hblank : t.token = .blank
      · have hvoid : t.isVoid = true := by rw [PlacedToken.isVoid, hblank]; rfl
        rw [List.dropWhile_cons_of_pos hvoid, hblank]
        exact ⟨ih.1, fun _ => Nat.lt_succ_of_le (hle ts)⟩
      · have hvoid : t.isVoid = false := by simp [PlacedToken.isVoid, hblank, hcomment]
        have hsolid : (Component.leaf t.token t.line).isBlank = false := by
          obtain ⟨token, line⟩ := t
          cases token <;> first | rfl | exact absurd rfl hblank
        rw [List.dropWhile_cons_of_neg (ne_true_of_eq_false hvoid), dropBlanks,
          List.dropWhile_cons_of_neg (ne_true_of_eq_false hsolid)]
        exact ⟨.leaf hopens hcomment hcloses hts, fun h => absurd h (Nat.lt_irrefl _)⟩
  | @group _ t ts left _ kind content cs _ _ hopens hcontent hts _ _ =>
      have hvoid : t.isVoid = false := by
        obtain ⟨token, line⟩ := t
        cases token <;> first | rfl | cases hopens
      rw [List.dropWhile_cons_of_neg (ne_true_of_eq_false hvoid)]
      exact ⟨.group hopens hcontent hts, fun h => absurd h (Nat.lt_irrefl _)⟩

end Shows

/-- `Gives call v a w`: in any bracket, where `v` is shown the call gives `a` and leads to where `w`
is shown. It never goes back, and if components are taken away then so are tokens. -/
def Gives {α : Type} (call : Call α) (v : View) (a : α) (w : View) : Prop :=
  ∀ lastLine inside behind c, Shows lastLine inside behind c v →
    ∃ c', call c = .ok (a, c') ∧ Shows lastLine inside behind c' w ∧
      c'.ahead.length ≤ c.ahead.length ∧
      (w.rest.length < v.rest.length → c'.ahead.length < c.ahead.length)

section Calls

variable {α β : Type} {v w u : View} {a : α} {b : β}

theorem Gives.pure (a : α) (v : View) : Gives (Pure.pure a) v a v :=
  fun _ _ _ c hc => ⟨c, rfl, hc, Nat.le_refl _, fun h => absurd h (Nat.lt_irrefl _)⟩

theorem Gives.bind {x : Call α} {f : α → Call β} (hx : Gives x v a w) (hf : Gives (f a) w b u) :
    Gives (x >>= f) v b u := by
  intro lastLine inside behind c hc
  obtain ⟨c₁, hx₁, hc₁, hle₁, hlt₁⟩ := hx lastLine inside behind c hc
  obtain ⟨c₂, hf₂, hc₂, hle₂, hlt₂⟩ := hf lastLine inside behind c₁ hc₁
  refine ⟨c₂, ?_, hc₂, Nat.le_trans hle₂ hle₁, fun h => ?_⟩
  · change Except.bind (x c) (fun p => f p.1 p.2) = _
    rw [hx₁]
    exact hf₂
  · by_cases hfirst : w.rest.length < v.rest.length
    · exact Nat.lt_of_le_of_lt hle₂ (hlt₁ hfirst)
    · exact Nat.lt_of_lt_of_le (hlt₂ (by omega)) hle₁

open Call

/-! ### Trying -/

theorem Gives.attempt_of_worked {worked : α → Bool} {x : Call α} (hx : Gives x v a w)
    (h : worked a = true) : Gives (attempt worked x) v a w := by
  intro lastLine inside behind c hc
  obtain ⟨c', hx', hc'⟩ := hx lastLine inside behind c hc
  refine ⟨c', ?_, hc'⟩
  rw [attempt, hx']
  dsimp only
  rw [if_pos h]

theorem Gives.attempt_of_not {worked : α → Bool} {x : Call α} (hx : Gives x v a w)
    (h : worked a = false) : Gives (attempt worked x) v a v := by
  intro lastLine inside behind c hc
  obtain ⟨c', hx', -⟩ := hx lastLine inside behind c hc
  refine ⟨c, ?_, hc, Nat.le_refl _, fun h => absurd h (Nat.lt_irrefl _)⟩
  rw [attempt, hx']
  dsimp only
  rw [if_neg (ne_true_of_eq_false h)]

/-! ### Rounds of a loop -/

theorem Gives.leave {round : α → Call (Round α β)} (h : Gives (round a) v (.leave b) w) :
    Gives (loop round a) v b w := by
  intro lastLine inside behind c hc
  obtain ⟨c', hround, hc'⟩ := h lastLine inside behind c hc
  refine ⟨c', ?_, hc'⟩
  rw [loop, hround]

theorem Gives.again {round : α → Call (Round α β)} {a' : α} (h : Gives (round a) v (.again a') w)
    (hlt : w.rest.length < v.rest.length) (hloop : Gives (loop round a') w b u) :
    Gives (loop round a) v b u := by
  intro lastLine inside behind c hc
  obtain ⟨c₁, hround, hc₁, hle₁, hlt₁⟩ := h lastLine inside behind c hc
  obtain ⟨c₂, hrest, hc₂, hle₂, -⟩ := hloop lastLine inside behind c₁ hc₁
  have hnear : c₂.ahead.length < c.ahead.length := Nat.lt_of_le_of_lt hle₂ (hlt₁ hlt)
  refine ⟨c₂, ?_, hc₂, Nat.le_of_lt hnear, fun _ => hnear⟩
  rw [loop, hround]
  dsimp only
  rw [if_pos (hlt₁ hlt)]
  exact hrest

/-! ### The next token -/

theorem gives_next_nil (endLine line : Nat) (opened : Option Body) :
    Gives next ⟨[], endLine, line, opened⟩ none ⟨[], endLine, endLine, none⟩ := by
  intro lastLine inside behind c hc
  obtain ⟨hsettled, hle⟩ := hc.settle
  generalize hd : c.settle = d at hsettled hle
  cases hsettled with
  | settled line h =>
      have hnext : ∃ c', next c = .ok (none, c') ∧ c' = ⟨behind, lastLine, inside, endLine, none⟩ := by
        simp only [next, hd, h.dropWhile_nil]
        obtain ⟨rfl, rfl⟩ | ⟨t, us, rfl, ht, rfl⟩ := h.behind_cases
        · exact ⟨_, rfl, rfl⟩
        · dsimp only
          rw [if_pos ht]
          exact ⟨_, rfl, rfl⟩
      obtain ⟨_, hnext, rfl⟩ := hnext
      exact ⟨_, hnext, .settled _ h.nil_behind, Nat.le_trans h.length_le hle,
        fun h => absurd h (Nat.lt_irrefl _)⟩

/-- The next token is the first one of the first component, and may have opened its bracket. -/
theorem gives_next (c : Component) (cs : List Component) (endLine line : Nat)
    (opened : Option Body) :
    Gives next ⟨c :: cs, endLine, line, opened⟩ (some c.head)
      ⟨cs, endLine, c.headLine, c.body?⟩ := by
  intro lastLine inside behind cursor hcursor
  obtain ⟨hsettled, hle⟩ := hcursor.settle
  generalize hd : cursor.settle = d at hsettled hle
  cases hsettled with
  | settled line h =>
      obtain ⟨us, hus, hcloses, hshows, hlt⟩ := h.dropWhile_cons
      have hnear : us.length < cursor.ahead.length := Nat.lt_of_lt_of_le hlt hle
      refine ⟨_, ?_, hshows, Nat.le_of_lt hnear, fun _ => hnear⟩
      simp only [next, hd, hus]
      rw [if_neg (ne_true_of_eq_false hcloses), h.wellHeaded c List.mem_cons_self]

theorem gives_skipBlanks (v : View) :
    Gives skipBlanks v () ⟨dropBlanks v.rest, v.endLine, v.settledLine, none⟩ := by
  intro lastLine inside behind c hc
  obtain ⟨hsettled, hle⟩ := hc.settle
  generalize hd : c.settle = d at hsettled hle
  cases hsettled with
  | settled line h =>
      obtain ⟨hrest, hlt⟩ := h.dropVoid
      refine ⟨_, by rw [skipBlanks, hd], .settled _ hrest, ?_, fun h => ?_⟩
      · exact Nat.le_trans (List.dropWhile_sublist _).length_le hle
      · exact Nat.lt_of_lt_of_le (hlt h) hle

theorem gives_nextSolid_nil {cs : List Component} (h : dropBlanks cs = []) (endLine line : Nat)
    (opened : Option Body) :
    Gives nextSolid ⟨cs, endLine, line, opened⟩ none ⟨[], endLine, endLine, none⟩ := by
  have hskip := gives_skipBlanks ⟨cs, endLine, line, opened⟩
  rw [h] at hskip
  exact hskip.bind (gives_next_nil _ _ _)

theorem gives_nextSolid {cs rest : List Component} {c : Component} (h : dropBlanks cs = c :: rest)
    (endLine line : Nat) (opened : Option Body) :
    Gives nextSolid ⟨cs, endLine, line, opened⟩ (some c.head)
      ⟨rest, endLine, c.headLine, c.body?⟩ := by
  have hskip := gives_skipBlanks ⟨cs, endLine, line, opened⟩
  rw [h] at hskip
  exact hskip.bind (gives_next _ _ _ _ _)

theorem gives_lineHere (v : View) : Gives lineHere v v.line v := by
  intro lastLine inside behind c hc
  refine ⟨c, ?_, hc, Nat.le_refl _, fun h => absurd h (Nat.lt_irrefl _)⟩
  cases hc <;> rfl

theorem Gives.of_wellHeaded {x : Call α} (h : WellHeaded v.rest → Gives x v a w) :
    Gives x v a w := by
  intro lastLine inside behind c hc
  refine h ?_ lastLine inside behind c hc
  cases hc with
  | settled line hrest => exact hrest.wellHeaded
  | opening line hcontent hrest => exact hrest.wellHeaded

/-! ### What stands inside a bracket -/

/-- The content of a bracket that was opened just now can be entered, and if it is read to its end,
the call leads behind the bracket. -/
theorem gives_nested {levels : Nat} (hlevels : levels ≠ 0) {inner : Call α} {body : Body}
    {line : Nat}
    (h : Gives inner ⟨body.content, body.endLine, line, none⟩ a ⟨[], body.endLine, body.endLine, none⟩)
    (cs : List Component) (endLine : Nat) :
    Gives (nested levels inner) ⟨cs, endLine, line, some body⟩ a
      ⟨cs, endLine, body.endLine, none⟩ := by
  intro lastLine inside behind c hc
  cases hc with
  | @opening ahead left _ _ _ contentEnd b _ hcontent hrest =>
      obtain ⟨c₁, hinner, hc₁, hle₁, -⟩ := h lastLine (some b) left _ (.settled line hcontent)
      obtain ⟨c₂, hnext, hc₂, hle₂, -⟩ :=
        gives_nextSolid_nil rfl _ _ _ lastLine (some b) left c₁ hc₁
      have hpass : passOver lastLine [b] c₂.ahead = (left.tail, contentEnd) := by
        cases hc₂ with
        | settled line h => exact h.passOver
      have hlen : left.tail.length ≤ ahead.length :=
        Nat.le_trans (by rw [List.length_tail]; omega) hcontent.length_le
      refine ⟨_, ?_, .settled _ hrest, hlen, fun h => absurd h (Nat.lt_irrefl _)⟩
      rw [nested, if_neg hlevels]
      dsimp only
      rw [hinner]
      dsimp only
      rw [hnext]
      dsimp only
      rw [hpass]

end Calls

end FeatureScan.Css
