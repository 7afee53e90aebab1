import FeatureScan.Pattern.Reader

/-!
# Patterns read whichever way letters are taken

How letters are taken decides which characters a part of a pattern matches, and nothing else that a
reader looks at: where parts begin and end, how deeply they are nested, and whether what stands
there makes sense. So two readings of one text that differ in this alone keep the same shape, step
by step, and one of them comes to the end if the other does. Only the room that what was read takes
can tell them apart.

## Main results

* `Progress.step_shape`, `Progress.run_shape`: readings of one shape go on in one shape.
* `read?_eq`: a text is a pattern if it can be read and takes no more room than there is.
* `isSome_readWhole?`: whether it can be read does not depend on how letters are taken.
-/

namespace FeatureScan.Pattern

/-- Switches with the one for letter case set. -/
def Switches.cased (s : Switches) (ignoreCase : Bool) : Switches := { s with ignoreCase }

/-! ## Numbers, names and switches -/

section

variable (s : Switches) (b : Bool)

theorem skip_cased (cs : List Char) : skip (s.cased b) cs = skip s cs := rfl

theorem ahead?_cased (rest : List Char) : ahead? (s.cased b) rest = ahead? s rest := rfl

theorem hexRun_cased (n v : Nat) (cs : List Char) :
    hexRun (s.cased b) n v cs = hexRun s n v cs := by
  fun_induction hexRun s n v cs with
  | case1 => simp [hexRun]
  | case2 => simp [hexRun]
  | case3 n v c cs d hd ih => rw [hexRun, hd]; exact ih
  | case4 n v c cs hd => rw [hexRun, hd]

theorem untilBrace_cased (cs : List Char) : untilBrace (s.cased b) cs = untilBrace s cs := by
  fun_induction untilBrace s cs with
  | case1 => rw [untilBrace]
  | case2 c cs hc => rw [untilBrace, if_pos hc]
  | case3 c cs hc ih => rw [untilBrace, if_neg hc, skip_cased, ih]

theorem testName_cased (cs : List Char) : testName (s.cased b) cs = testName s cs := by
  fun_induction testName s cs with
  | case1 => rw [testName]
  | case2 c cs hc r ih => rw [testName, if_pos hc, skip_cased, ih]
  | case3 c cs hc => rw [testName, if_neg hc]

theorem digitRun_cased (cs : List Char) : digitRun (s.cased b) cs = digitRun s cs := by
  fun_induction digitRun s cs with
  | case1 => rw [digitRun]
  | case2 c cs hc r ih => rw [digitRun, if_pos hc, skip_cased, ih]
  | case3 c cs hc => rw [digitRun, if_neg hc]

theorem readHex_cased (n : Nat) (cs : List Char) : readHex (s.cased b) n cs = readHex s n cs := by
  simp only [readHex, skip_cased, hexRun_cased, untilBrace_cased]

theorem readBoundary_cased (cs : List Char) :
    readBoundary (s.cased b) cs = readBoundary s cs := by
  simp only [readBoundary, skip_cased, testName_cased]

theorem readCounts_cased (cs : List Char) : readCounts (s.cased b) cs = readCounts s cs := by
  simp only [readCounts, readCount, skip_cased, digitRun_cased]

theorem readOpening_cased (cs : List Char) : readOpening (s.cased b) cs = readOpening s cs := by
  simp only [readOpening, skip_cased]

theorem leadingHyphens_cased (room : Nat) (i : ClassItems) (cs : List Char) :
    leadingHyphens (s.cased b) room i cs = leadingHyphens s room i cs := by
  fun_induction leadingHyphens s room i cs with
  | case1 => simp [leadingHyphens]
  | case2 => simp_all [leadingHyphens]
  | case3 room i c cs hc ih => rw [leadingHyphens, if_pos hc, skip_cased, ih]
  | case4 room i c cs hc => rw [leadingHyphens, if_neg hc]

theorem readClassStart_cased (cs : List Char) :
    readClassStart (s.cased b) cs = readClassStart s cs := by
  simp only [readClassStart, skip_cased, leadingHyphens_cased]

theorem perlClass_cased (letter : Char) : perlClass (s.cased b) letter = perlClass s letter := rfl


/-! ## Atoms -/

/-- An atom without the characters of a class. -/
def Atom.shape : Atom → Atom
  | .set _ => .set .empty
  | a => a

theorem isSome_finishClass (negated : Bool) (set set' : CharSet) :
    (finishClass (s.cased b) negated set).isSome = (finishClass s negated set').isSome := by
  have hunicode : (s.cased b).unicode = s.unicode := rfl
  cases h : s.unicode <;> cases negated <;> simp [finishClass, hunicode, h]

theorem readProperty_cased (negated : Bool) (cs : List Char) :
    (readProperty (s.cased b) negated cs).map (Prod.map Atom.shape id) =
      (readProperty s negated cs).map (Prod.map Atom.shape id) := by
  have hfinish : ∀ (set? : Option CharSet) (rest : List Char),
      ((if (s.cased b).unicode then
          (set?.bind (finishClass (s.cased b) negated)).map fun set => (Atom.set set, rest)
        else none).map (Prod.map Atom.shape id)) =
      ((if s.unicode then
          (set?.bind (finishClass s negated)).map fun set => (Atom.set set, rest)
        else none).map (Prod.map Atom.shape id)) := by
    intro set? rest
    have hunicode : (s.cased b).unicode = s.unicode := rfl
    rw [hunicode]
    split
    · cases set? with
      | none => rfl
      | some set =>
          have hsome := isSome_finishClass s b negated set set
          simp only [Option.bind_some]
          cases h : finishClass (s.cased b) negated set <;> cases h' : finishClass s negated set <;>
            simp_all [Atom.shape]
    · rfl
  unfold readProperty
  dsimp only
  simp only [skip_cased, untilBrace_cased]
  split
  · rfl
  · rename_i rest _
    cases untilBrace s (skip s rest) with
    | none => rfl
    | some r => exact hfinish _ _
  · rfl
  · exact hfinish _ _

theorem readEscape_cased (cs : List Char) :
    (readEscape (s.cased b) cs).map (Prod.map Atom.shape id) =
      (readEscape s cs).map (Prod.map Atom.shape id) := by
  cases cs with
  | nil => rfl
  | cons c cs =>
      unfold readEscape
      dsimp only
      have hunicode : (s.cased b).unicode = s.unicode := rfl
      simp only [readHex_cased, readBoundary_cased, perlClass_cased, hunicode]
      split
      · rfl
      · split
        all_goals first | rfl | exact readProperty_cased s b _ _

theorem readClassAtom_cased (cs : List Char) :
    (readClassAtom (s.cased b) cs).map (Prod.map Atom.shape id) =
      (readClassAtom s cs).map (Prod.map Atom.shape id) := by
  unfold readClassAtom
  split
  · rfl
  · exact readEscape_cased s b _
  · rfl

theorem classPoint?_shape (a : Atom) : classPoint? s a.shape = classPoint? s a := by
  cases a <;> rfl

theorem isSome_classSet?_shape (a : Atom) :
    (classSet? s a.shape).isSome = (classSet? s a).isSome := by
  cases a <;> rfl

theorem classPoint?_cased (a : Atom) : classPoint? (s.cased b) a = classPoint? s a := rfl

theorem classSet?_cased (a : Atom) : classSet? (s.cased b) a = classSet? s a := rfl

/-- Two readers that agree up to a view of what they read. -/
theorem exists_of_map_eq {α β γ : Type} {f : α → γ} {g : β → γ} {x : Option α} {y : Option β}
    (h : x.map f = y.map g) :
    (x = none ∧ y = none) ∨ ∃ a b, x = some a ∧ y = some b ∧ f a = g b := by
  cases x <;> cases y <;> simp_all

/-- Two readers that agree on whether there is anything to read. -/
theorem exists_of_isSome_eq {α β : Type} {x : Option α} {y : Option β}
    (h : x.isSome = y.isSome) : (x = none ∧ y = none) ∨ ∃ a b, x = some a ∧ y = some b := by
  cases x <;> cases y <;> simp_all

theorem readClassItem_cased (cs : List Char) :
    (readClassItem (s.cased b) cs).map Prod.snd = (readClassItem s cs).map Prod.snd := by
  unfold readClassItem
  rcases exists_of_map_eq (readClassAtom_cased s b cs) with
    ⟨h, h'⟩ | ⟨⟨a, rest⟩, ⟨a', rest'⟩, h, h', hshape⟩
  · rw [h, h']
  · obtain ⟨ha, rfl⟩ : a.shape = a'.shape ∧ rest = rest' := by simpa using hshape
    rw [h, h']
    dsimp only
    rw [skip_cased]
    cases hrest : skip s rest with
    | nil => rfl
    | cons c after =>
        dsimp only
        have hpoint : classPoint? (s.cased b) a = classPoint? s a' := by
          rw [classPoint?_cased, ← classPoint?_shape, ha, classPoint?_shape]
        have hset : (classSet? (s.cased b) a).isSome = (classSet? s a').isSome := by
          rw [classSet?_cased, ← isSome_classSet?_shape, ha, isSome_classSet?_shape]
        rw [ahead?_cased, skip_cased, hpoint]
        split
        · rcases exists_of_map_eq (readClassAtom_cased s b (skip s after)) with
            ⟨h, h'⟩ | ⟨⟨d, rest₁⟩, ⟨d', rest₂⟩, h, h', hshape⟩
          · rw [h, h']
          · obtain ⟨hd, rfl⟩ : d.shape = d'.shape ∧ rest₁ = rest₂ := by simpa using hshape
            have hpoint' : classPoint? (s.cased b) d = classPoint? s d' := by
              rw [classPoint?_cased, ← classPoint?_shape, hd, classPoint?_shape]
            rw [h, h']
            dsimp only
            rw [hpoint']
        · rcases exists_of_isSome_eq hset with ⟨hs, hs'⟩ | ⟨set, set', hs, hs'⟩
          · rw [hs, hs']
          · rw [hs, hs']
            rfl

/-! ## Classes -/

/-- The side of a class without its characters. -/
def ClassSide.shape (k : ClassSide) : ClassSide := ⟨.empty, k.depth⟩

/-- Items without their characters. -/
def ClassItems.shape (i : ClassItems) : ClassItems := ⟨.empty, i.count, i.depth⟩

/-- An open class without the characters in it. -/
def OpenClass.shape (o : OpenClass) : OpenClass :=
  ⟨o.around.shape, o.negated, o.pending.map fun p => (p.1, p.2.shape)⟩

theorem shape_add {i i' : ClassItems} (h : i.shape = i'.shape) (set set' : CharSet) (depth : Nat) :
    (i.add set depth).shape = (i'.add set' depth).shape := by
  simp_all [ClassItems.shape, ClassItems.add]

theorem shape_side {i i' : ClassItems} (h : i.shape = i'.shape) : i.side.shape = i'.side.shape := by
  simp_all [ClassItems.shape, ClassItems.side, ClassSide.shape]

theorem shape_opened_class {i i' : ClassItems} (h : i.shape = i'.shape) (negated : Bool) :
    (OpenClass.mk i negated none).shape = (OpenClass.mk i' negated none).shape := by
  simp [OpenClass.shape, h]

theorem map_shape_cons {o o' : OpenClass} (h : o.shape = o'.shape) {os os' : List OpenClass}
    (hos : os.map OpenClass.shape = os'.map OpenClass.shape) :
    (o :: os).map OpenClass.shape = (o' :: os').map OpenClass.shape := by
  rw [List.map_cons, List.map_cons, h, hos]

theorem shape_close {o o' : OpenClass} (h : o.shape = o'.shape) {k k' : ClassSide}
    (hk : k.shape = k'.shape) :
    (o.close (s.cased b) k).shape = (o'.close s k').shape := by
  obtain ⟨around, negated, pending⟩ := o
  obtain ⟨around', negated', pending'⟩ := o'
  simp only [OpenClass.shape, OpenClass.mk.injEq] at h
  obtain ⟨-, -, hpending⟩ := h
  rcases exists_of_map_eq hpending with ⟨rfl, rfl⟩ | ⟨⟨op, k₁⟩, ⟨op', k₂⟩, rfl, rfl, heq⟩
  · exact hk
  · simp_all [OpenClass.close, ClassSide.shape]

theorem readAsciiClass?_cased (cs : List Char) :
    (readAsciiClass? (s.cased b) cs).map (fun r => (r.1.isSome, r.2)) =
      (readAsciiClass? s cs).map fun r => (r.1.isSome, r.2) := by
  unfold readAsciiClass?
  split
  · dsimp only
    split
    · rw [Option.map_map, Option.map_map]
      congr 1
      funext set
      simp only [Function.comp_apply, isSome_finishClass s b _ set set]
    · rfl
  · rfl

theorem readClassFrom_cased {room : Nat} {levels levels' : List OpenClass}
    {items items' : ClassItems}
    (hlevels : levels.map OpenClass.shape = levels'.map OpenClass.shape)
    (hitems : items.shape = items'.shape) (cs : List Char) :
    (readClassFrom (s.cased b) room levels items cs).map (Prod.map ClassSide.shape id) =
      (readClassFrom s room levels' items' cs).map (Prod.map ClassSide.shape id) := by
  induction room generalizing levels levels' items items' cs with
  | zero => rfl
  | succ room ih =>
      cases levels with
      | nil =>
          obtain rfl : levels' = [] := by simpa using hlevels.symm
          simp [readClassFrom]
      | cons level outer =>
          obtain ⟨level', outer', rfl, hlevel, houter⟩ := List.map_eq_cons_iff.1 hlevels.symm
          replace hlevel := hlevel.symm
          replace houter := houter.symm
          unfold readClassFrom
          rw [skip_cased]
          cases hcs : skip s cs with
          | nil => rfl
          | cons c rest =>
              dsimp only
              have hside := shape_close s b hlevel (shape_side hitems)
              have hfinish := isSome_finishClass s b level'.negated
                (level.close (s.cased b) items.side).chars (level'.close s items'.side).chars
              obtain ⟨haround, hnegated, hpending⟩ :
                  level.around.shape = level'.around.shape ∧ level.negated = level'.negated ∧
                    level.pending.map (fun p => (p.1, p.2.shape)) =
                      level'.pending.map fun p => (p.1, p.2.shape) := by
                simpa [OpenClass.shape] using hlevel
              rw [hnegated]
              split
              · rcases exists_of_map_eq (readAsciiClass?_cased s b rest) with
                  ⟨h, h'⟩ | ⟨⟨set, rest₁⟩, ⟨set', rest₂⟩, h, h', heq⟩
                · rw [h, h', readClassStart_cased]
                  dsimp only
                  split
                  · rfl
                  · exact ih (map_shape_cons (shape_opened_class hitems _) hlevels) rfl _
                · obtain ⟨hset, rfl⟩ : set.isSome = set'.isSome ∧ rest₁ = rest₂ := by
                    simpa using heq
                  rw [h, h']
                  rcases exists_of_isSome_eq hset with ⟨rfl, rfl⟩ | ⟨set, set', rfl, rfl⟩
                  · rfl
                  · exact ih hlevels (shape_add hitems _ _ _) _
              · split
                · have houter' : outer.isEmpty = outer'.isEmpty := by
                    cases outer <;> cases outer' <;> simp_all
                  have hdepth := congrArg ClassSide.depth hside
                  simp only [ClassSide.shape] at hdepth
                  rcases exists_of_isSome_eq hfinish with ⟨h, h'⟩ | ⟨set, set', h, h'⟩
                  · rw [h, h']
                  · rw [h, h', houter']
                    dsimp only
                    rw [hdepth]
                    split
                    · rfl
                    · exact ih houter (shape_add haround _ _ _) _
                · cases hop : ClassOp.ofChars? c (rest.head?.getD ' ') with
                  | some op =>
                      dsimp only
                      refine ih ?_ rfl _
                      simp_all [OpenClass.shape]
                  | none =>
                      dsimp only
                      rcases exists_of_map_eq (readClassItem_cased s b (c :: rest)) with
                        ⟨h, h'⟩ | ⟨⟨set, rest₁⟩, ⟨set', rest₂⟩, h, h', hrest⟩
                      · rw [h, h']
                      · obtain rfl : rest₁ = rest₂ := hrest
                        rw [h, h']
                        exact ih hlevels (shape_add hitems _ _ _) _


end

/-! ## Pieces -/

/-- A piece without what it matches. -/
def Piece.shape (p : Piece) : Piece := { p with node := .empty }

theorem shape_repeated {p p' : Piece} (h : p.shape = p'.shape) (min : Nat) (max : Option Nat) :
    (p.repeated min max).shape = (p'.repeated min max).shape := by
  simp_all [Piece.shape, Piece.repeated]

theorem foldl_depth (ps : List Piece) :
    ps.foldl (fun d p => Nat.max d p.depth) 0 =
      (ps.map Piece.shape).foldl (fun d p => Nat.max d p.depth) 0 := by
  rw [List.foldl_map]
  rfl

theorem shape_seqs {ps ps' : List Piece} (h : ps.map Piece.shape = ps'.map Piece.shape) :
    (Piece.seqs ps).shape = (Piece.seqs ps').shape := by
  have hdepth := (foldl_depth ps).trans ((congrArg _ h).trans (foldl_depth ps').symm)
  rcases ps with _ | ⟨p, _ | ⟨q, ps⟩⟩ <;> rcases ps' with _ | ⟨p', _ | ⟨q', ps'⟩⟩ <;>
    simp_all [Piece.shape, Piece.seqs]

theorem shape_alts {ps ps' : List Piece} (h : ps.map Piece.shape = ps'.map Piece.shape) :
    (Piece.alts ps).shape = (Piece.alts ps').shape := by
  have hdepth := (foldl_depth ps).trans ((congrArg _ h).trans (foldl_depth ps').symm)
  rcases ps with _ | ⟨p, _ | ⟨q, ps⟩⟩ <;> rcases ps' with _ | ⟨p', _ | ⟨q', ps'⟩⟩ <;>
    simp_all [Piece.shape, Piece.alts]

/-- A group that is open, without what its pieces match and without the switch for letter case. -/
def OpenPiece.shape (o : OpenPiece) : OpenPiece :=
  ⟨o.items.map Piece.shape, o.branches.map Piece.shape, o.switches.cased false, o.counted⟩

namespace Progress

/-- What has been read, without what its pieces match and without the switch for letter case. -/
def shape (r : Progress) : Progress :=
  ⟨r.groups.map OpenPiece.shape, r.items.map Piece.shape, r.branches.map Piece.shape,
    r.switches.cased false, r.names⟩

variable {r r' : Progress} (h : r.shape = r'.shape)
include h

theorem switches_of_shape : ∃ b, r.switches = r'.switches.cased b := by
  have hswitches := congrArg switches h
  refine ⟨r.switches.ignoreCase, ?_⟩
  simp only [shape, Switches.cased, Switches.mk.injEq] at hswitches
  cases hs : r.switches
  cases hs' : r'.switches
  simp_all [Switches.cased]

theorem shape_add {p p' : Piece} (hp : p.shape = p'.shape) :
    (r.add p).shape = (r'.add p').shape := by
  simp_all [shape, add]

theorem shape_seqs_items :
    (Piece.seqs r.items.reverse).shape = (Piece.seqs r'.items.reverse).shape := by
  have hitems : r.items.map Piece.shape = r'.items.map Piece.shape := by
    simpa [shape] using congrArg items h
  exact shape_seqs (by rw [List.map_reverse, List.map_reverse, hitems])

theorem shape_barred :
    ({ r with branches := .seqs r.items.reverse :: r.branches, items := [] } : Progress).shape =
      { r' with branches := .seqs r'.items.reverse :: r'.branches, items := [] }.shape := by
  have hseqs := shape_seqs_items h
  simp only [shape, Progress.mk.injEq] at h ⊢
  obtain ⟨hgroups, -, hbranches, hswitches, hnames⟩ := h
  exact ⟨hgroups, trivial, by rw [List.map_cons, List.map_cons, hseqs, hbranches], hswitches,
    hnames⟩

theorem shape_whole : r.whole.shape = r'.whole.shape := by
  have hseqs := shape_seqs_items h
  simp only [shape, Progress.mk.injEq] at h
  obtain ⟨-, -, hbranches, -, -⟩ := h
  refine shape_alts ?_
  simp only [List.reverse_cons, List.map_append, List.map_reverse, hbranches, List.map_cons, hseqs]

theorem shape_repeatLast (min : Nat) (max : Option Nat) :
    (r.repeatLast min max).map shape = (r'.repeatLast min max).map shape := by
  obtain ⟨groups, items, branches, switches, names⟩ := r
  obtain ⟨groups', items', branches', switches', names'⟩ := r'
  simp only [shape, Progress.mk.injEq] at h
  obtain ⟨hgroups, hitems, hbranches, hswitches, hnames⟩ := h
  cases items with
  | nil =>
      obtain rfl : items' = [] := by simpa using hitems.symm
      rfl
  | cons p ps =>
      obtain ⟨p', ps', rfl, hp, hps⟩ := List.map_eq_cons_iff.1 hitems.symm
      have hrepeatable : p.repeatable = p'.repeatable := by
        simpa [Piece.shape] using (congrArg Piece.repeatable hp).symm
      have hrepeated := shape_repeated hp.symm min max
      simp only [repeatLast, hrepeatable]
      split
      · simp_all [shape]
      · rfl

theorem shape_openGroup (counted : Bool) :
    (r.openGroup counted).shape = (r'.openGroup counted).shape := by
  simp_all [shape, openGroup, OpenPiece.shape]

theorem shape_closeGroup : r.closeGroup.map shape = r'.closeGroup.map shape := by
  have hwhole := shape_whole h
  simp only [shape, Progress.mk.injEq] at h
  obtain ⟨hgroups, -, -, -, hnames⟩ := h
  unfold closeGroup
  cases hg : r.groups with
  | nil =>
      have hg' : r'.groups = [] := by simpa [hg] using hgroups.symm
      rw [hg']
  | cons g gs =>
      rw [hg] at hgroups
      obtain ⟨g', gs', hg', hhead, htail⟩ := List.map_eq_cons_iff.1 hgroups.symm
      simp only [OpenPiece.shape, OpenPiece.mk.injEq] at hhead
      obtain ⟨hitems, hbranches, hswitches, -⟩ := hhead
      have hdepth : r.whole.depth = r'.whole.depth := by
        simpa [Piece.shape] using congrArg Piece.depth hwhole
      rw [hg']
      simp [shape, Piece.shape, hitems, hbranches, hswitches, htail, hdepth, hnames]

end Progress

/-! ## Reading on -/

theorem set_cased {s s' : Switches} (h : s.cased false = s'.cased false) (value : Bool)
    (w : Switch) : (s.set value w).cased false = (s'.set value w).cased false := by
  cases w <;> simp_all [Switches.cased, Switches.set]

theorem apply_cased {s s' : Switches} (h : s.cased false = s'.cased false) (l : SwitchList) :
    (s.apply l).cased false = (s'.apply l).cased false := by
  unfold Switches.apply
  induction l.seen generalizing s s' with
  | nil => exact h
  | cons w ws ih => exact ih (set_cased h w.2 w.1)

theorem readClass_cased (s : Switches) (b : Bool) (cs : List Char) :
    (readClass (s.cased b) cs).map (Prod.map ClassSide.shape id) =
      (readClass s cs).map (Prod.map ClassSide.shape id) := by
  unfold readClass
  rw [readClassStart_cased]
  cases readClassStart s cs with
  | none => rfl
  | some start => exact readClassFrom_cased s b rfl rfl _

namespace Progress

theorem shape_opened {r r' : Progress} (h : r.shape = r'.shape) (o : Opening) :
    (r.opened o).map shape = (r'.opened o).map shape := by
  have hswitches : r.switches.cased false = r'.switches.cased false := congrArg switches h
  have hopened := shape_openGroup h
  cases o with
  | switches l =>
      have happly := apply_cased hswitches l
      have hset : ({ r with switches := r.switches.apply l } : Progress).shape =
          ({ r' with switches := r'.switches.apply l } : Progress).shape := by
        simp_all [shape]
      exact congrArg some (shape_add hset rfl)
  | plain l =>
      have happly := apply_cased hswitches l
      have hfalse := hopened false
      simp_all [opened, shape, openGroup]
  | counted name? =>
      cases name? with
      | none => exact congrArg some (hopened true)
      | some name =>
          have hnames : r.names = r'.names := by simpa [shape] using congrArg names h
          have htrue := hopened true
          simp only [opened, hnames]
          split
          · rfl
          · simp_all [shape]

theorem atom?_cased (s : Switches) (b : Bool) {a a' : Atom} (h : a.shape = a'.shape) :
    (atom? (s.cased b) a).map Piece.shape = (atom? s a').map Piece.shape := by
  cases a <;> cases a' <;> cases h <;> try rfl
  rename_i c byte
  have hunicode : (s.cased b).unicode = s.unicode := rfl
  simp only [atom?, hunicode]
  split <;> rfl

/-- Readers whose results look alike, and that go on with what they have read alike. -/
theorem map_map_of_shape {x y : Option Progress} (h : x.map shape = y.map shape)
    (rest : List Char) :
    (x.map fun r => (r, rest)).map (Prod.map shape id) =
      (y.map fun r => (r, rest)).map (Prod.map shape id) := by
  cases x <;> cases y <;> simp_all

theorem map_add_of_shape {r r' : Progress} (h : r.shape = r'.shape) {x y : Option Piece}
    (hp : x.map Piece.shape = y.map Piece.shape) (rest : List Char) :
    (x.map fun p => (r.add p, rest)).map (Prod.map shape id) =
      (y.map fun p => (r'.add p, rest)).map (Prod.map shape id) := by
  rcases exists_of_map_eq hp with ⟨rfl, rfl⟩ | ⟨p, p', rfl, rfl, hshape⟩
  · rfl
  · exact congrArg some (Prod.ext (shape_add h hshape) rfl)

theorem step_shape {r r' : Progress} (h : r.shape = r'.shape) (c : Char) (cs : List Char) :
    (r.step c cs).map (Prod.map shape id) = (r'.step c cs).map (Prod.map shape id) := by
  obtain ⟨b, hb⟩ := switches_of_shape h
  have hbarred := shape_barred h
  unfold step
  dsimp only
  rw [hb] at hbarred ⊢
  split
  · rw [readOpening_cased]
    cases readOpening r'.switches cs with
    | none => rfl
    | some o => exact map_map_of_shape (shape_opened h o.1) o.2
  · exact map_map_of_shape (shape_closeGroup h) cs
  · exact congrArg some (Prod.ext hbarred rfl)
  · rcases exists_of_map_eq (readClass_cased r'.switches b cs) with
      ⟨hk, hk'⟩ | ⟨⟨k, rest⟩, ⟨k', rest'⟩, hk, hk', heq⟩
    · rw [hk, hk']
      rfl
    · obtain ⟨hshape, rfl⟩ : k.shape = k'.shape ∧ rest = rest' := by simpa using heq
      have hdepth : k.depth = k'.depth := by
        simpa [ClassSide.shape] using congrArg ClassSide.depth hshape
      rw [hk, hk']
      exact congrArg some (Prod.ext (shape_add h (by simp [Piece.shape, hdepth])) rfl)
  · exact map_map_of_shape (shape_repeatLast h _ _) _
  · exact map_map_of_shape (shape_repeatLast h _ _) _
  · exact map_map_of_shape (shape_repeatLast h _ _) _
  · rw [readCounts_cased]
    cases readCounts r'.switches cs with
    | none => rfl
    | some k => exact map_map_of_shape (shape_repeatLast h _ _) _
  · rcases exists_of_map_eq (readEscape_cased r'.switches b cs) with
      ⟨ha, ha'⟩ | ⟨⟨a, rest⟩, ⟨a', rest'⟩, ha, ha', heq⟩
    · rw [ha, ha']
      rfl
    · obtain ⟨hshape, rfl⟩ : a.shape = a'.shape ∧ rest = rest' := by simpa using heq
      rw [ha, ha']
      exact map_add_of_shape h (atom?_cased r'.switches b hshape) rest
  · exact map_add_of_shape h (rfl : (dot? r'.switches).map Piece.shape = _) cs
  · exact congrArg some (Prod.ext (shape_add h rfl) rfl)
  · exact congrArg some (Prod.ext (shape_add h rfl) rfl)
  · exact map_add_of_shape h (atom?_cased r'.switches b rfl) cs

/-- Reading to the end does not depend on how letters are taken, up to what is matched. -/
theorem run_shape {r r' : Progress} (h : r.shape = r'.shape) (room : Nat) (cs : List Char) :
    (run room r cs).map shape = (run room r' cs).map shape := by
  induction room generalizing r r' cs with
  | zero => rfl
  | succ room ih =>
      obtain ⟨b, hb⟩ := switches_of_shape h
      unfold run
      rw [hb, skip_cased]
      cases skip r'.switches cs with
      | nil => exact congrArg some h
      | cons c rest =>
          dsimp only
          rcases exists_of_map_eq (step_shape h c rest) with
            ⟨hr, hr'⟩ | ⟨⟨q, after⟩, ⟨q', after'⟩, hr, hr', heq⟩
          · rw [hr, hr']
          · obtain ⟨hshape, rfl⟩ : q.shape = q'.shape ∧ after = after' := by simpa using heq
            rw [hr, hr']
            exact ih hshape after

end Progress

/-! ## Reading to the end -/

/-- The piece that a text is read as, whatever room it takes. -/
def readWhole? (ignoreCase : Bool) (source : String) : Option Piece :=
  let cs := source.toList
  (Progress.run (cs.length + 1) { switches := { ignoreCase } } cs).bind fun r =>
    if r.groups.isEmpty && r.whole.depth ≤ nestingLimit then some r.whole else none

/-- A text is a pattern if it can be read and what is read takes no more room than there is. -/
theorem read?_eq (ignoreCase : Bool) (source : String) :
    read? ignoreCase source = (readWhole? ignoreCase source).bind fun p =>
      if p.node.fits then some ⟨source, p.node⟩ else none := by
  unfold read? readWhole?
  dsimp only
  cases Progress.run (source.toList.length + 1) { switches := { ignoreCase } } source.toList with
  | none => rfl
  | some r =>
      simp only [Option.bind_some, Progress.finish]
      cases r.groups.isEmpty <;> cases hd : decide (r.whole.depth ≤ nestingLimit) <;>
        cases hf : r.whole.node.fits <;> simp_all

/-- Whether a text can be read does not depend on how letters are taken. -/
theorem isSome_readWhole? (ignoreCase ignoreCase' : Bool) (source : String) :
    (readWhole? ignoreCase source).isSome = (readWhole? ignoreCase' source).isSome := by
  have hstart : (Progress.shape { switches := { ignoreCase } }) =
      Progress.shape { switches := { ignoreCase := ignoreCase' } } := rfl
  unfold readWhole?
  dsimp only
  rcases exists_of_map_eq
      (Progress.run_shape hstart (source.toList.length + 1) source.toList) with
    ⟨h, h'⟩ | ⟨r, r', h, h', hshape⟩
  · rw [h, h']
  · have hdepth : r.whole.depth = r'.whole.depth := by
      simpa [Piece.shape] using congrArg Piece.depth (Progress.shape_whole hshape)
    have hgroups : r.groups.isEmpty = r'.groups.isEmpty := by
      have hmap := congrArg (fun q => q.groups.isEmpty) hshape
      simpa [Progress.shape] using hmap
    rw [h, h']
    simp only [Option.bind_some, hdepth, hgroups]
    split <;> rfl

end FeatureScan.Pattern
