import FeatureScan.Proofs.Css.Stepping

/-!
# The text of a value

The value of a declaration is written piece by piece. Each `!important` at its end is left out, and
what stands behind it tells whether one is at the end: so it is held back until something follows,
and of several in a row one is written. A value is written with all of them but those at its end if
none in front of its end is followed by another.

## Main results

* `readValue_eq`: what a value is, in one look at what stands in front of the first semicolon.
* `text_writeHolding`: what is written when each `!important` is held back.
* `valueText_eq_keptText`: nothing is lost where no `!important` is repeated.
* `keptText_of_notMem`: a value without an `!important` is written as any components are.
-/

namespace FeatureScan.Css

/-! ## In front of a semicolon -/

/-- The components in front of the first semicolon. -/
def beforeSemicolon (cs : List Component) : List Component :=
  cs.takeWhile fun c => !c.isToken .semicolon

/-- The components behind the first semicolon. -/
def behindSemicolon (cs : List Component) : List Component :=
  (cs.dropWhile fun c => !c.isToken .semicolon).tail

section Semicolon

variable {c : Component} {cs : List Component}

theorem beforeSemicolon_cons (h : c.isToken .semicolon = false) :
    beforeSemicolon (c :: cs) = c :: beforeSemicolon cs := by
  rw [beforeSemicolon, List.takeWhile_cons, h]
  rfl

theorem behindSemicolon_cons (h : c.isToken .semicolon = false) :
    behindSemicolon (c :: cs) = behindSemicolon cs := by
  rw [behindSemicolon, List.dropWhile_cons, h]
  rfl

theorem beforeSemicolon_semicolon (line : Nat) :
    beforeSemicolon (.leaf .semicolon line :: cs) = [] := rfl

theorem isToken_semicolon_of_closes (h : c.closes = false) : c.isToken .semicolon = false :=
  (Bool.or_eq_false_iff.1 h).2

theorem isBlock_of_closes (h : c.closes = false) : c.isBlock = false := (Bool.or_eq_false_iff.1 h).1

theorem beforeSemicolon_append {front : List Component} (h : ∀ d ∈ front, d.closes = false)
    (cs : List Component) : beforeSemicolon (front ++ cs) = front ++ beforeSemicolon cs :=
  List.takeWhile_append_of_pos fun d hd => by rw [isToken_semicolon_of_closes (h d hd)]; rfl

theorem behindSemicolon_append {front : List Component} (h : ∀ d ∈ front, d.closes = false)
    (cs : List Component) : behindSemicolon (front ++ cs) = behindSemicolon cs :=
  congrArg List.tail
    (List.dropWhile_append_of_pos fun d hd => by rw [isToken_semicolon_of_closes (h d hd)]; rfl)

theorem any_isBlock_append {front : List Component} (h : ∀ d ∈ front, d.closes = false)
    (cs : List Component) : (front ++ cs).any Component.isBlock = cs.any Component.isBlock := by
  rw [List.any_append, List.any_eq_false.2 fun d hd => by simp [isBlock_of_closes (h d hd)],
    Bool.false_or]

/-- White space is no semicolon. -/
theorem dropBlanks_beforeSemicolon (cs : List Component) :
    dropBlanks (beforeSemicolon cs) = beforeSemicolon (dropBlanks cs) := by
  induction cs with
  | nil => rfl
  | cons c cs ih =>
      unfold dropBlanks at ih ⊢
      rcases hblank : c.isBlank with _ | _
      · rw [List.dropWhile_cons, hblank]
        rcases hsemi : c.isToken .semicolon with _ | _
        · rw [beforeSemicolon_cons hsemi, List.dropWhile_cons, hblank]
          exact (beforeSemicolon_cons hsemi).symm
        · obtain ⟨line, rfl⟩ := eq_leaf_of_isToken hsemi
          rfl
      · obtain ⟨line, rfl⟩ := eq_leaf_of_isBlank hblank
        rw [beforeSemicolon_cons rfl]
        exact ih

theorem importantBehind?_beforeSemicolon (cs : List Component) :
    importantBehind? (beforeSemicolon cs) = (importantBehind? cs).map beforeSemicolon := by
  unfold importantBehind?
  rw [dropBlanks_beforeSemicolon]
  cases dropBlanks cs with
  | nil => rfl
  | cons c cs =>
      cases c with
      | leaf t line =>
          cases t with
          | ident name =>
              rw [beforeSemicolon_cons rfl]
              dsimp only
              split <;> rfl
          | semicolon => rfl
          | _ =>
              rw [beforeSemicolon_cons rfl]
              rfl
      | group =>
          rw [beforeSemicolon_cons rfl]
          rfl

theorem afterImportant?_beforeSemicolon (c : Component) (cs : List Component) :
    afterImportant? c (beforeSemicolon cs) = (afterImportant? c cs).map beforeSemicolon := by
  unfold afterImportant?
  split
  · exact importantBehind?_beforeSemicolon cs
  · rfl

end Semicolon

/-! ## Pieces -/

/-- A piece of a value. -/
inductive Piece
  | blank
  | important
  | component (c : Component)

/-- The pieces of components. A block in curly brackets is not written and is no piece. -/
def pieces (cs : List Component) : List Piece :=
  match cs with
  | [] => []
  | c :: rest =>
    match _h : afterImportant? c rest with
    | some behind => .important :: pieces behind
    | none =>
      if c.isBlank then .blank :: pieces rest
      else if c.isBlock then pieces rest
      else .component c :: pieces rest
termination_by cs.length
decreasing_by
  all_goals simp_wf
  have := length_afterImportant?_lt _h
  omega

namespace Piece

/-- Whether a piece is left out at the end of a value. -/
def isLoose : Piece → Bool
  | component _ => false
  | _ => true

/-- Writes a piece. -/
def write (room : Nat) : Piece → Pen → Pen
  | blank, p => p.space
  | important, p => p.space.put "!important ".toList
  | component c, p => p.write room c

end Piece

/-- Writes pieces. -/
def writePieces (room : Nat) (ps : List Piece) (p : Pen) : Pen :=
  ps.foldl (fun p piece => piece.write room p) p

/-- The pieces up to the last component. -/
def withoutEnd : List Piece → List Piece
  | [] => []
  | x :: ps => if (x :: ps).all Piece.isLoose then [] else x :: withoutEnd ps

/-- The text of a value: the white space and each `!important` at its end are left out. -/
def keptText (room : Nat) (cs : List Component) : String :=
  (writePieces room (withoutEnd (pieces cs)) .fresh).text

/-- Whether another `!important` follows at once. -/
def importantNext : List Piece → Bool
  | .blank :: ps => importantNext ps
  | .important :: _ => true
  | _ => false

/-- The pieces where one stands for each row of `!important`s. -/
def joined : List Piece → List Piece
  | [] => []
  | .important :: ps => if importantNext ps then joined ps else .important :: joined ps
  | .blank :: ps => .blank :: joined ps
  | .component c :: ps => .component c :: joined ps

/-- The text of a value, with one `!important` for a row of them. -/
def valueText (room : Nat) (cs : List Component) : String :=
  (writePieces room (withoutEnd (joined (pieces cs))) .fresh).text

/-- Whether an `!important` in front of the end is followed by another. -/
def repeats : List Piece → Bool
  | [] => false
  | .important :: ps => (importantNext ps && !ps.all Piece.isLoose) || repeats ps
  | _ :: ps => repeats ps

/-! ## Unfolding -/

theorem pieces_blank (line : Nat) (cs : List Component) :
    pieces (.leaf .blank line :: cs) = .blank :: pieces cs := by
  rw [pieces]
  rfl

theorem pieces_important {c : Component} {cs behind : List Component}
    (h : afterImportant? c cs = some behind) : pieces (c :: cs) = .important :: pieces behind := by
  rw [pieces]
  split
  · rename_i heq
    rw [h] at heq
    cases heq
    rfl
  · rename_i heq
    rw [h] at heq
    cases heq

theorem pieces_other {c : Component} {cs : List Component} (h : afterImportant? c cs = none)
    (hblank : c.isBlank = false) :
    pieces (c :: cs) = if c.isBlock then pieces cs else .component c :: pieces cs := by
  rw [pieces]
  split
  · rename_i heq
    rw [h] at heq
    cases heq
  · rw [hblank]
    rfl

/-- Only components of a value are its pieces. -/
theorem mem_of_component_mem_pieces {c : Component} {cs : List Component}
    (h : .component c ∈ pieces cs) : c ∈ cs := by
  induction hn : cs.length using Nat.strongRecOn generalizing cs with
  | ind n ih =>
      subst hn
      cases cs with
      | nil =>
          rw [pieces] at h
          cases h
      | cons d cs =>
          have hrest : .component c ∈ pieces cs → c ∈ d :: cs := fun h =>
            List.mem_cons_of_mem d (ih _ (Nat.lt_succ_self _) h rfl)
          rcases hb : afterImportant? d cs with _ | behind
          · rcases hblank : d.isBlank with _ | _
            · rw [pieces_other hb hblank] at h
              split at h
              · exact hrest h
              · exact (List.mem_cons.1 h).elim
                  (fun heq => Piece.component.inj heq ▸ List.mem_cons_self) hrest
            · obtain ⟨line, rfl⟩ := eq_leaf_of_isBlank hblank
              rw [pieces_blank] at h
              exact hrest ((List.mem_cons.1 h).resolve_left nofun)
          · have hlt := length_afterImportant?_lt hb
            rw [pieces_important hb] at h
            have hmem := ih _ (Nat.lt_succ_of_lt hlt) ((List.mem_cons.1 h).resolve_left nofun) rfl
            exact List.mem_cons_of_mem d ((suffix_afterImportant? hb).subset hmem)

theorem withoutEnd_of_all {ps : List Piece} (h : ps.all Piece.isLoose = true) :
    withoutEnd ps = [] := by
  cases ps with
  | nil => rfl
  | cons x ps => rw [withoutEnd, if_pos h]

theorem withoutEnd_cons {x : Piece} {ps : List Piece} (h : (x :: ps).all Piece.isLoose = false) :
    withoutEnd (x :: ps) = x :: withoutEnd ps := by
  rw [withoutEnd, h]
  rfl

theorem joined_important {ps : List Piece} (h : importantNext ps = false) :
    joined (.important :: ps) = .important :: joined ps := by
  rw [joined, if_neg (Bool.eq_false_iff.1 h)]

theorem joined_repeated {ps : List Piece} (h : importantNext ps = true) :
    joined (.important :: ps) = joined ps := by
  rw [joined, if_pos h]

theorem all_joined (ps : List Piece) :
    (joined ps).all Piece.isLoose = ps.all Piece.isLoose := by
  induction ps with
  | nil => rfl
  | cons x ps ih =>
      cases x with
      | blank => exact ih
      | component c => rfl
      | important =>
          rw [joined]
          split <;> exact ih

/-! ## Holding back -/

/-- Writes pieces, with an `!important` held back or not. -/
def writeHolding (room : Nat) : Bool → List Piece → Pen → Pen
  | _, [], p => p
  | held, .blank :: ps, p => writeHolding room held ps p.space
  | _, .important :: ps, p => writeHolding room true ps p
  | held, .component c :: ps, p =>
    writeHolding room false ps ((if held then p.space.put "!important ".toList else p).write room c)

theorem text_space (p : Pen) : p.space.text = p.text := by
  have htrim : ∀ cs : List Char, Text.trim (cs ++ [' ']) = Text.trim cs := by
    intro cs
    unfold Text.trim Text.trimStart Text.trimEnd
    rw [List.dropWhile_append]
    split
    · rename_i hnil
      rw [List.isEmpty_iff.1 hnil]
      rfl
    · rw [List.reverse_append]
      rfl
  unfold Pen.space
  split
  · rfl
  · split
    · rfl
    · rw [Pen.text, Pen.text]
      dsimp only
      rw [List.reverse_cons, htrim]

theorem space_cons (c : Char) (cs : List Char) (notices : List Notice) :
    Pen.space ⟨c :: cs, notices⟩ =
      if c == ' ' || c == '(' || c == '[' then ⟨c :: cs, notices⟩
      else ⟨' ' :: c :: cs, notices⟩ := rfl

theorem space_space (p : Pen) : p.space.space = p.space := by
  obtain ⟨written, notices⟩ := p
  cases written with
  | nil => rfl
  | cons c cs =>
      rw [space_cons]
      rcases hc : c == ' ' || c == '(' || c == '[' with _ | _
      · rfl
      · rw [if_pos rfl, space_cons, hc, if_pos rfl]

theorem space_put_important (p : Pen) :
    (p.put "!important ".toList).space = p.put "!important ".toList := by
  have hchars : "!important ".toList = "!important".toList ++ [' '] := by decide
  rw [hchars, Pen.put, List.reverse_append]
  rfl

theorem text_writeHolding_of_all (room : Nat) (held : Bool) {ps : List Piece}
    (h : ps.all Piece.isLoose = true) (p : Pen) : (writeHolding room held ps p).text = p.text := by
  induction ps generalizing held p with
  | nil => rfl
  | cons x ps ih =>
      rw [List.all_cons, Bool.and_eq_true] at h
      cases x with
      | blank => exact (ih held h.2 p.space).trans (text_space p)
      | important => exact ih true h.2 p
      | component c => cases h.1

/-- What is written when each `!important` is held back. -/
theorem text_writeHolding (room : Nat) (held : Bool) (ps : List Piece) (p : Pen) :
    (writeHolding room held ps p).text =
      (writePieces room
        (withoutEnd (joined (if held then .important :: ps else ps))) p).text := by
  induction ps generalizing held p with
  | nil => cases held <;> rfl
  | cons x ps ih =>
      rcases hall : (x :: ps).all Piece.isLoose with _ | _
      · cases x with
        | blank =>
            have hjoined : (joined ps).all Piece.isLoose = false := (all_joined ps).trans hall
            rw [writeHolding, ih]
            cases held with
            | false =>
                simp only [Bool.false_eq_true, if_false, joined]
                rw [withoutEnd_cons (x := .blank) hjoined]
                rfl
            | true =>
                rw [if_pos rfl, if_pos rfl]
                rcases hnext : importantNext ps with _ | _
                · have hbehind : importantNext (.blank :: ps) = false := hnext
                  have hblank : (.blank :: joined ps).all Piece.isLoose = false := hjoined
                  have hkept : (.important :: joined ps).all Piece.isLoose = false := hjoined
                  have hkeptBehind :
                      (.important :: .blank :: joined ps).all Piece.isLoose = false := hjoined
                  rw [joined_important hnext, joined_important hbehind, joined,
                    withoutEnd_cons hkept, withoutEnd_cons hkeptBehind, withoutEnd_cons hblank]
                  simp only [writePieces, List.foldl_cons, Piece.write, space_space,
                    space_put_important]
                · have hbehind : importantNext (.blank :: ps) = true := hnext
                  rw [joined_repeated hnext, joined_repeated hbehind, joined,
                    withoutEnd_cons (x := .blank) hjoined]
                  rfl
        | important =>
            rw [writeHolding, ih]
            cases held <;> rfl
        | component c =>
            rw [writeHolding, ih]
            cases held <;> rfl
      · rw [text_writeHolding_of_all room held hall, withoutEnd_of_all]
        · rfl
        · rw [all_joined]
          cases held <;> exact hall

theorem withoutEnd_joined {ps : List Piece} (h : repeats ps = false) :
    withoutEnd (joined ps) = withoutEnd ps := by
  induction ps with
  | nil => rfl
  | cons x ps ih =>
      rcases hall : (x :: ps).all Piece.isLoose with _ | _
      · have halljoined := (all_joined (x :: ps)).trans hall
        cases x with
        | blank =>
            rw [joined] at halljoined ⊢
            rw [withoutEnd_cons halljoined, withoutEnd_cons hall, ih h]
        | component c => rw [joined, withoutEnd_cons rfl, withoutEnd_cons rfl, ih h]
        | important =>
            rw [repeats, Bool.or_eq_false_iff] at h
            have hps : ps.all Piece.isLoose = false := hall
            rw [hps, Bool.not_false, Bool.and_true] at h
            rw [joined_important h.1] at halljoined ⊢
            rw [withoutEnd_cons halljoined, withoutEnd_cons hall, ih h.2]
      · rw [withoutEnd_of_all hall, withoutEnd_of_all ((all_joined _).trans hall)]

/-- Nothing is lost where no `!important` is repeated. -/
theorem valueText_eq_keptText {room : Nat} {cs : List Component}
    (h : repeats (pieces cs) = false) : valueText room cs = keptText room cs := by
  rw [valueText, keptText, withoutEnd_joined h]

theorem writePieces_pieces (room : Nat) {cs : List Component} (h : Piece.important ∉ pieces cs)
    (p : Pen) : writePieces room (pieces cs) p = Pen.writeAll room cs p := by
  induction cs generalizing p with
  | nil => rw [pieces, writeAll_nil]; rfl
  | cons c cs ih =>
      rcases hb : afterImportant? c cs with _ | behind
      · rcases hblank : c.isBlank with _ | _
        · rw [pieces_other hb hblank] at h ⊢
          rw [writeAll_cons]
          split at h
          · rename_i hblock
            rw [if_pos hblock, ih h]
            cases c with
            | leaf => cases hblock
            | group opener kind line content endLine =>
                cases kind with
                | curly => rw [write_block]
                | round | square => cases hblock
          · rename_i hblock
            rw [if_neg hblock]
            exact ih (List.not_mem_of_not_mem_cons h) _
        · obtain ⟨line, rfl⟩ := eq_leaf_of_isBlank hblank
          rw [pieces_blank] at h ⊢
          rw [writeAll_cons, write_leaf, if_pos rfl]
          exact ih (List.not_mem_of_not_mem_cons h) _
      · rw [pieces_important hb] at h
        exact absurd List.mem_cons_self h

/-- A value without an `!important` is written as any components are. -/
theorem keptText_of_notMem (room : Nat) {cs : List Component} (h : Piece.important ∉ pieces cs) :
    keptText room cs = (Pen.writeAll room cs .fresh).text := by
  have hend : ∀ (ps : List Piece) (p : Pen), Piece.important ∉ ps →
      (writePieces room (withoutEnd ps) p).text = (writePieces room ps p).text := by
    intro ps
    induction ps with
    | nil => exact fun _ _ => rfl
    | cons x ps ih =>
        intro p hps
        have hrest := ih (x.write room p) (List.not_mem_of_not_mem_cons hps)
        rcases hall : (x :: ps).all Piece.isLoose with _ | _
        · rw [withoutEnd_cons hall]
          exact hrest
        · rw [List.all_cons, Bool.and_eq_true] at hall
          rw [withoutEnd_of_all hall.2] at hrest
          rw [withoutEnd_of_all (by rw [List.all_cons, hall.1, hall.2]; rfl)]
          refine Eq.trans ?_ hrest
          cases x with
          | blank => exact (text_space p).symm
          | important => exact absurd List.mem_cons_self hps
          | component c => cases hall.1
  rw [keptText, hend _ _ h, writePieces_pieces room h]

/-- What a value is, in one look at what stands in front of the first semicolon. -/
theorem readValue_eq (room : Nat) (custom important : Bool) (cs : List Component) (p : Pen) :
    (custom || !(beforeSemicolon cs).any Component.isBlock) = true ∧
        (∃ semicolon, readValue room custom important cs p =
          .ended (writeHolding room important (pieces (beforeSemicolon cs)) p) semicolon
            (behindSemicolon cs)) ∨
      (custom || !(beforeSemicolon cs).any Component.isBlock) = false ∧
        ∃ pen, readValue room custom important cs p = .nestedRule pen := by
  have semicolon_of : ∀ {c : Component}, (∀ line, c = .leaf .semicolon line → False) →
      c.isToken .semicolon = false :=
    fun hc => Bool.eq_false_iff.2 fun h => (eq_leaf_of_isToken h).elim hc
  have blank_of : ∀ {c : Component}, (∀ line, c = .leaf .blank line → False) →
      c.isBlank = false :=
    fun hc => Bool.eq_false_iff.2 fun h => (eq_leaf_of_isBlank h).elim hc
  have none_of : ∀ {c : Component} {rest : List Component}, afterImportant? c rest = none →
      afterImportant? c (beforeSemicolon rest) = none := by
    intro c rest h
    rw [afterImportant?_beforeSemicolon, h]
    rfl
  fun_induction readValue room custom important cs p with
  | case1 important p =>
      refine .inl ⟨Bool.or_true _, none, ?_⟩
      rw [beforeSemicolon, List.takeWhile_nil, pieces]
      rfl
  | case2 important p line rest =>
      refine .inl ⟨Bool.or_true _, some line, ?_⟩
      rw [beforeSemicolon_semicolon, pieces]
      rfl
  | case3 important p line rest ih =>
      rw [beforeSemicolon_cons rfl, behindSemicolon_cons rfl, pieces_blank]
      exact ih
  | case4 important p c rest hsemi _ behind hb ih =>
      obtain ⟨front, hfront, hcloses⟩ := closes_of_afterImportant? hb
      have hpieces : pieces (beforeSemicolon (c :: rest)) =
          .important :: pieces (beforeSemicolon behind) := by
        rw [beforeSemicolon_cons (semicolon_of hsemi), pieces_important]
        rw [afterImportant?_beforeSemicolon, hb]
        rfl
      have hbehind : behindSemicolon (c :: rest) = behindSemicolon behind := by
        rw [hfront, behindSemicolon_append hcloses]
      have hblock : (beforeSemicolon (c :: rest)).any Component.isBlock =
          (beforeSemicolon behind).any Component.isBlock := by
        rw [hfront, beforeSemicolon_append hcloses, any_isBlock_append hcloses]
      rw [hpieces, hbehind, hblock]
      exact ih
  | case5 important p c rest hsemi hblank hb hblock hcustom ih =>
      rw [beforeSemicolon_cons (semicolon_of hsemi), behindSemicolon_cons (semicolon_of hsemi),
        pieces_other (none_of hb) (blank_of hblank), if_pos hblock]
      have hcustom : custom = true := hcustom
      rw [hcustom] at ih ⊢
      exact ih
  | case6 important p c rest hsemi hblank hb hblock hcustom =>
      refine .inr ⟨?_, p, rfl⟩
      rw [beforeSemicolon_cons (semicolon_of hsemi), List.any_cons, hblock]
      exact Bool.or_eq_false_iff.2 ⟨Bool.eq_false_iff.2 hcustom, rfl⟩
  | case7 important p c rest hsemi hblank hb hblock q =>
      rename_i ih
      rw [beforeSemicolon_cons (semicolon_of hsemi), behindSemicolon_cons (semicolon_of hsemi),
        pieces_other (none_of hb) (blank_of hblank), if_neg hblock, List.any_cons,
        Bool.eq_false_iff.2 hblock]
      exact ih

end FeatureScan.Css
