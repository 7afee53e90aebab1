import FeatureScan.Proofs.Pattern.CaseBlind

/-!
# Reading a pattern part by part

A pattern is read from its front, so what it reads as follows from what its parts read as. Under the
switch that builtin rules set, a word is read as its letters with their variants in case.

## Main results

* `Leads.run_eq`: what leads to the end of the text is the reading of the text.
* `leads_word`: a word is read letter by letter.
* `leads_optional`: a group that may be left out is read as what is in it, repeated at most once.
-/

namespace FeatureScan.Pattern.Progress

/-- Reading on from a state leads to another one with some of the text left. -/
def Leads (r : Progress) (cs : List Char) (r' : Progress) (rest : List Char) : Prop :=
  ∃ n, n + rest.length ≤ cs.length ∧ ∀ room, run (room + n) r cs = run room r' rest

variable {r r' r'' : Progress} {cs rest rest' : List Char}

theorem Leads.trans (h : Leads r cs r' rest) (h' : Leads r' rest r'' rest') :
    Leads r cs r'' rest' := by
  obtain ⟨n, hn, hrun⟩ := h
  obtain ⟨m, hm, hrun'⟩ := h'
  refine ⟨m + n, by omega, fun room => ?_⟩
  rw [← Nat.add_assoc, hrun, hrun']

/-- What leads to the end of the text is the reading of the text. -/
theorem Leads.run_eq (h : Leads r cs r' []) : run (cs.length + 1) r cs = some r' := by
  obtain ⟨n, hn, hrun⟩ := h
  obtain ⟨room, hroom⟩ := Nat.exists_eq_add_of_le' hn
  have hlength : cs.length + 1 = room + 1 + n := by
    simp only [List.length_nil] at hroom
    omega
  rw [hlength, hrun]
  cases r'.switches.spaced <;> simp [run, skip, skipSpacing]

theorem leads_step {c : Char} (hr : r.switches = caseless) (hlength : rest.length ≤ cs.length)
    (h : r.step c cs = some (r', rest)) : Leads r (c :: cs) r' rest := by
  refine ⟨1, by rw [List.length_cons]; omega, fun room => ?_⟩
  simp only [run, hr, skip, caseless, Bool.false_eq_true, if_false, h]

/-! ## Words -/

/-- The characters that mean something else than themselves. -/
def signs : List Char := ['(', ')', '|', '[', '?', '*', '+', '\x7b', '\\', '.', '^', '$']

/-- The piece of a letter. -/
def letterPiece (c : Char) : Piece := { node := .chars (Unicode.foldedChar c) }

theorem leads_letter (hr : r.switches = caseless) {c : Char} (hc : c ∉ signs) :
    Leads r (c :: cs) (r.add (letterPiece c)) cs := by
  refine leads_step hr (Nat.le_refl _) ?_
  unfold step
  rw [hr]
  simp only [signs, List.mem_cons, List.not_mem_nil, or_false, not_or] at hc
  split <;> first | rfl | (exfalso; simp_all)

/-- A word is read letter by letter. -/
theorem leads_word (word : List Char) (hr : r.switches = caseless)
    (hw : word.all (fun c => !signs.contains c) = true) :
    Leads r (word ++ cs) { r with items := (word.map letterPiece).reverse ++ r.items } cs := by
  induction word generalizing r with
  | nil => exact ⟨0, by simp, fun _ => rfl⟩
  | cons c word ih =>
      rw [List.all_cons, Bool.and_eq_true, Bool.not_eq_true'] at hw
      have hc : c ∉ signs := by
        rw [← List.contains_iff_mem, hw.1]
        exact Bool.false_ne_true
      have htail := ih (r := r.add (letterPiece c)) hr hw.2
      have hword := (leads_letter hr hc).trans htail
      simpa only [add, List.map_cons, List.reverse_cons, List.append_assoc, List.cons_append,
        List.nil_append] using hword

/-! ## Repetitions -/

theorem leads_star {p : Piece} {items : List Piece} (hr : r.switches = caseless)
    (hitems : r.items = p :: items) (hp : p.repeatable = true) (hlazy : dropLazy cs = cs) :
    Leads r ('*' :: cs) { r with items := .repeated 0 none p :: items } cs := by
  refine leads_step hr (Nat.le_refl _) ?_
  simp only [step, repeatLast, hitems, hp, if_true, Option.map_some, hlazy]

theorem leads_blank (hr : r.switches = caseless) :
    Leads r ('\\' :: 's' :: cs) (r.add { node := .chars Unicode.blankChars }) cs := by
  refine leads_step hr (Nat.le_succ _) ?_
  unfold step
  rw [hr]
  rfl

theorem leads_class {text : List Char} {k : ClassSide} (hr : r.switches = caseless)
    (h : readClass caseless (text ++ cs) = some (k, cs)) :
    Leads r ('[' :: (text ++ cs)) (r.add { node := .chars k.chars, depth := k.depth }) cs := by
  refine leads_step hr (by simp) ?_
  unfold step
  simp only [hr, h, Option.map_some]

/-! ## Groups that may be left out -/

theorem leads_open (hr : r.switches = caseless) :
    Leads r ('(' :: '?' :: ':' :: cs) (r.openGroup false) cs := by
  obtain ⟨groups, items, branches, switches, names⟩ := r
  obtain rfl : switches = caseless := hr
  exact leads_step rfl (by simp; omega) rfl

theorem leads_bar (hr : r.switches = caseless) :
    Leads r ('|' :: cs)
      { r with branches := .seqs r.items.reverse :: r.branches, items := [] } cs :=
  leads_step hr (Nat.le_refl _) rfl

/-- A group that may be left out is read as what is in it, repeated at most once. -/
theorem leads_optional {items branches : List Piece} {groups : List OpenPiece}
    (hr : r.switches = caseless) (hgroups : r.groups = ⟨items, branches, caseless, false⟩ :: groups)
    (hlazy : dropLazy cs = cs) :
    Leads r (')' :: '?' :: cs)
      { r with groups, branches,
               items := .repeated 0 (some 1)
                 { node := r.whole.node, depth := r.whole.depth + 1 } :: items } cs := by
  obtain ⟨_, inner, alternatives, switches, names⟩ := r
  obtain rfl : switches = caseless := hr
  obtain rfl := hgroups
  refine (leads_step rfl (Nat.le_refl _) rfl).trans (leads_step rfl (Nat.le_refl _) ?_)
  simp only [step, repeatLast, if_true, Option.map_some, hlazy]
  rfl

/-! ## Pieces one after another -/

/-- A text is read as some pieces, whatever stands in front of it and behind it. -/
def Yields (text : List Char) (ps : List Piece) : Prop :=
  ∀ (r : Progress) (cs : List Char), r.switches = caseless → dropLazy cs = cs →
    Leads r (text ++ cs) { r with items := ps.reverse ++ r.items } cs

theorem Yields.append {text text' : List Char} {ps ps' : List Piece} (h : Yields text ps)
    (h' : Yields text' ps') (hlazy : ∀ cs, dropLazy (text' ++ cs) = text' ++ cs) :
    Yields (text ++ text') (ps ++ ps') := by
  intro r cs hr hcs
  have hfirst := h r (text' ++ cs) hr (hlazy cs)
  have hsecond := h' { r with items := ps.reverse ++ r.items } cs hr hcs
  have hboth := hfirst.trans hsecond
  rw [List.append_assoc, List.reverse_append, List.append_assoc]
  exact hboth

theorem yields_word {word : List Char} (hw : word.all (fun c => !signs.contains c) = true) :
    Yields word (word.map letterPiece) := fun _ _ hr _ => leads_word word hr hw

/-- A text that is read as some pieces is a pattern for these pieces one after another. -/
theorem Yields.read?_eq {source : String} {ps : List Piece} (h : Yields source.toList ps)
    (hdepth : (Piece.seqs ps).depth ≤ nestingLimit) (hfits : (Piece.seqs ps).node.fits = true) :
    read? true source = some ⟨source, (Piece.seqs ps).node⟩ := by
  have hrun := h { switches := caseless } [] rfl rfl
  rw [List.append_nil] at hrun
  have hwhole : Progress.whole { switches := caseless, items := ps.reverse ++ [] } =
      Piece.seqs ps := by
    rw [whole, List.append_nil, List.reverse_reverse]
    rfl
  have hfinish : finish { switches := caseless, items := ps.reverse ++ [] } =
      some (Piece.seqs ps) := by
    unfold finish
    dsimp only
    rw [hwhole, hfits, decide_eq_true hdepth]
    rfl
  change (run (source.toList.length + 1) { switches := caseless } source.toList).bind _ = _
  rw [hrun.run_eq, Option.bind_some, hfinish, Option.map_some]

end FeatureScan.Pattern.Progress
