import FeatureScan.Proofs.Pattern.Matching
import FeatureScan.Proofs.Pattern.Folded
import FeatureScan.Proofs.Pattern.Remaining

/-!
# Patterns that do not tell a capital from its small letter

A pattern that is read with letters standing for their variants, and that sets no switches itself,
holds blind sets only: characters and classes are taken with all variants, and the classes of Perl
are blind as they are. Such a pattern finds the same in texts that are alike, since its conditions
on positions ignore case as well.

## Main results

* `reach_alike`, `occursIn_alike`: what a blind pattern finds in texts that are alike.
* `Progress.Blind.step`: a step through a pattern without switches keeps everything blind.
* `caseBlind_read?`: a pattern without switches is blind.
-/

namespace FeatureScan.Pattern

open Text

/-! ## Matching -/

/-- Whether all sets of a pattern are blind. -/
def Node.CaseBlind : Node → Prop
  | .empty | .look _ => True
  | .chars set => set.CaseBlind
  | .seq a b | .alt a b => a.CaseBlind ∧ b.CaseBlind
  | .group a | .many _ _ a => a.CaseBlind

section Matching

variable {cs ds : List Char}

theorem any_after? (h : Alike cs ds) {f : Char → Bool} (hf : IgnoresCase f) (p : Nat) :
    ((Subject.ofChars cs).after? p).any f = ((Subject.ofChars ds).after? p).any f := by
  have hget := h.any_getElem? hf p
  rwa [← List.getElem?_toArray, ← List.getElem?_toArray] at hget

theorem any_before? (h : Alike cs ds) {f : Char → Bool} (hf : IgnoresCase f) (p : Nat) :
    ((Subject.ofChars cs).before? p).any f = ((Subject.ofChars ds).before? p).any f := by
  cases p with
  | zero => rfl
  | succ p => exact any_after? h hf p

theorem size_alike (h : Alike cs ds) :
    (Subject.ofChars cs).chars.size = (Subject.ofChars ds).chars.size := by
  simpa only [Subject.ofChars, List.size_toArray] using h.length_eq

theorem beq_some_eq_any (c? : Option Char) (d : Char) : (c? == some d) = c?.any (· == d) := by
  cases c? <;> rfl

theorem ignoresCase_isAsciiWord : IgnoresCase isAsciiWord := ignoresCase_of_capitals (by decide)

theorem ignoresCase_isWord : IgnoresCase isWord := by
  have hletter : ∀ n < 26, (Char.ofNat (65 + n + 32)).toNat < 0x80 ∧
      (Char.ofNat (65 + n)).toNat < 0x80 := by decide
  apply ignoresCase_of_capitals
  intro n hn
  rw [isWord, isWord, if_pos (hletter n hn).1, if_pos (hletter n hn).2]
  revert n
  decide

/-- Conditions on positions ignore case. -/
theorem holds_alike (h : Alike cs ds) (l : Look) (p : Nat) :
    l.holds (Subject.ofChars cs) p = l.holds (Subject.ofChars ds) p := by
  have hsign : ∀ {d : Char}, d.isAlpha = false →
      ((Subject.ofChars cs).before? p == some d) = ((Subject.ofChars ds).before? p == some d) ∧
        ((Subject.ofChars cs).after? p == some d) = ((Subject.ofChars ds).after? p == some d) := by
    intro d hd
    simp only [beq_some_eq_any]
    exact ⟨any_before? h (ignoresCase_beq hd) p, any_after? h (ignoresCase_beq hd) p⟩
  obtain ⟨hbefore, hafter⟩ := hsign (d := '\n') rfl
  obtain ⟨hbefore', hafter'⟩ := hsign (d := '\r') rfl
  cases l with
  | start => rfl
  | finish => simp only [Look.holds, size_alike h]
  | lineStart returns => cases returns <;> simp only [Look.holds, bne, hbefore, hbefore', hafter]
  | lineFinish returns =>
      cases returns <;> simp only [Look.holds, bne, size_alike h, hbefore', hafter, hafter']
  | word test unicode =>
      cases unicode with
      | false =>
          simp only [Look.holds, if_false, Bool.false_eq_true,
            any_before? h ignoresCase_isAsciiWord, any_after? h ignoresCase_isAsciiWord]
      | true =>
          simp only [Look.holds, if_true, any_before? h ignoresCase_isWord,
            any_after? h ignoresCase_isWord]

theorem past?_alike (h : Alike cs ds) {set : CharSet} (hset : set.CaseBlind) (p : Nat) :
    past? (Subject.ofChars cs) set p = past? (Subject.ofChars ds) set p := by
  have heq : ∀ s : Subject, past? s set p =
      if (s.after? p).any set.contains then some (p + 1) else none := by
    intro s
    unfold past?
    cases s.after? p <;> rfl
  rw [heq, heq, any_after? h hset.ignoresCase]

/-- A blind pattern leads to the same positions in texts that are alike. -/
theorem reach_alike (h : Alike cs ds) {n : Node} (hn : n.CaseBlind) (ps : List Nat) :
    n.reach (Subject.ofChars cs) ps = n.reach (Subject.ofChars ds) ps := by
  induction n generalizing ps with
  | empty => rfl
  | chars set =>
      rw [Node.reach, Node.reach, funext (past?_alike h hn)]
  | look l => rw [Node.reach, Node.reach, funext (holds_alike h l)]
  | seq a b iha ihb =>
      unfold Node.reach
      rw [iha hn.1]
      split
      · rfl
      · exact ihb hn.2 _
  | alt a b iha ihb => rw [Node.reach, Node.reach, iha hn.1, ihb hn.2]
  | group a iha => exact iha hn ps
  | many least most a iha =>
      unfold Node.reach
      rw [funext (iha hn), size_alike h]

/-- A blind pattern occurs in a text exactly if it occurs in one that is alike. -/
theorem occursIn_alike (h : Alike cs ds) {n : Node} (hn : n.CaseBlind) :
    n.occursIn (Subject.ofChars cs) = n.occursIn (Subject.ofChars ds) := by
  have hpositions : (Subject.ofChars cs).positions = (Subject.ofChars ds).positions := by
    simp only [Subject.ofChars, List.size_toArray, h.length_eq]
  rw [Node.occursIn, Node.occursIn, reach_alike h hn, hpositions]

end Matching

/-! ## Putting patterns together -/

theorem Node.CaseBlind.repeated {a : Node} (h : a.CaseBlind) (least : Nat) (most : Option Nat) :
    (Node.repeated least most a).CaseBlind := by
  unfold Node.repeated
  split
  · trivial
  · split <;> exact h

theorem caseBlind_seqs {ns : List Node} (h : ∀ n ∈ ns, n.CaseBlind) : (Node.seqs ns).CaseBlind := by
  fun_induction Node.seqs ns with
  | case1 => trivial
  | case2 n => exact h n List.mem_cons_self
  | case3 n ns _ ih =>
      exact ⟨h n List.mem_cons_self, ih fun n hn => h n (List.mem_cons_of_mem _ hn)⟩

theorem Node.CaseBlind.either {a b : Node} (ha : a.CaseBlind) (hb : b.CaseBlind) :
    (Node.either a b).CaseBlind := by
  have hset : ∀ {n : Node} {set : CharSet}, n.CaseBlind → n.set? = some set → set.CaseBlind := by
    intro n set hn h
    cases n with
    | chars s =>
        cases h
        exact hn
    | _ => cases h
  unfold Node.either
  split
  · rename_i s t hs ht
    exact (hset ha hs).union (hset hb ht)
  · exact ⟨ha, hb⟩

theorem caseBlind_alts {ns : List Node} (h : ∀ n ∈ ns, n.CaseBlind) : (Node.alts ns).CaseBlind := by
  fun_induction Node.alts ns with
  | case1 => trivial
  | case2 n => exact h n List.mem_cons_self
  | case3 n ns _ ih =>
      exact (h n List.mem_cons_self).either (ih fun n hn => h n (List.mem_cons_of_mem _ hn))

/-- Pieces that are blind. -/
def AllBlind (ps : List Piece) : Prop := ∀ p ∈ ps, p.node.CaseBlind

theorem allBlind_cons {p : Piece} {ps : List Piece} (hp : p.node.CaseBlind) (h : AllBlind ps) :
    AllBlind (p :: ps) := List.forall_mem_cons.2 ⟨hp, h⟩

theorem AllBlind.reverse {ps : List Piece} (h : AllBlind ps) : AllBlind ps.reverse :=
  fun p hp => h p (List.mem_reverse.1 hp)

theorem AllBlind.nodes {ps : List Piece} (h : AllBlind ps) :
    ∀ n ∈ ps.map Piece.node, n.CaseBlind := by
  intro n hn
  obtain ⟨p, hp, rfl⟩ := List.mem_map.1 hn
  exact h p hp

theorem AllBlind.seqs {ps : List Piece} (h : AllBlind ps) : (Piece.seqs ps).node.CaseBlind := by
  unfold Piece.seqs
  split
  · trivial
  · exact h _ List.mem_cons_self
  · exact caseBlind_seqs h.nodes

theorem AllBlind.alts {ps : List Piece} (h : AllBlind ps) : (Piece.alts ps).node.CaseBlind := by
  unfold Piece.alts
  split
  · exact h _ List.mem_cons_self
  · exact caseBlind_alts h.nodes

/-! ## Reading sets -/

/-- The switches of a pattern whose letters stand for their variants, and that sets none itself. -/
def caseless : Switches := { ignoreCase := true }

theorem caseBlind_finishClass {negated : Bool} {set set' : CharSet}
    (h : finishClass caseless negated set = some set') : set'.CaseBlind := by
  have hset : finishClass caseless negated set =
      some (if negated then (Unicode.foldedSet set).compl else Unicode.foldedSet set) := rfl
  rw [hset] at h
  cases h
  split
  · exact (Unicode.caseBlind_foldedSet set).compl
  · exact Unicode.caseBlind_foldedSet set

theorem caseBlind_perlClass {letter : Char} {set : CharSet}
    (h : perlClass caseless letter = some set) : set.CaseBlind := by
  unfold perlClass at h
  simp only [caseless, if_true] at h
  split at h
  · cases h
    split
    exacts [Unicode.caseBlind_digitChars, Unicode.caseBlind_blankChars,
      Unicode.caseBlind_wordChars]
  · cases h
    apply CharSet.CaseBlind.compl
    split
    exacts [Unicode.caseBlind_digitChars, Unicode.caseBlind_blankChars,
      Unicode.caseBlind_wordChars]

/-- An atom whose set, if it is one, is blind. -/
def Atom.CaseBlind : Atom → Prop
  | .set chars => chars.CaseBlind
  | _ => True

theorem caseBlind_readHex {digits : Nat} {cs : List Char} {r : Atom × List Char}
    (h : readHex caseless digits cs = some r) : r.1.CaseBlind := by
  unfold readHex at h
  split at h
  · cases h
  · split at h
    · cases h
    · split at h
      · cases h
      · cases h
        trivial
  · split at h
    · cases h
    · obtain ⟨c, -, rfl⟩ := Option.map_eq_some_iff.1 h
      trivial

theorem caseBlind_readProperty {negated : Bool} {cs : List Char} {r : Atom × List Char}
    (h : readProperty caseless negated cs = some r) : r.1.CaseBlind := by
  have hfinish : ∀ {set? : Option CharSet} {rest : List Char},
      ((set?.bind (finishClass caseless negated)).map fun set => (Atom.set set, rest)) = some r →
        r.1.CaseBlind := by
    intro set? rest h
    obtain ⟨set, hset, rfl⟩ := Option.map_eq_some_iff.1 h
    obtain ⟨set', -, hset⟩ := Option.bind_eq_some_iff.1 hset
    exact caseBlind_finishClass hset
  unfold readProperty at h
  dsimp only at h
  split at h
  · cases h
  · obtain ⟨r', -, h⟩ := Option.bind_eq_some_iff.1 h
    exact hfinish h
  · cases h
  · exact hfinish h

theorem caseBlind_readEscape {cs : List Char} {r : Atom × List Char}
    (h : readEscape caseless cs = some r) : r.1.CaseBlind := by
  cases cs with
  | nil => cases h
  | cons c cs =>
      unfold readEscape at h
      dsimp only at h
      split at h
      · cases h
        trivial
      · split at h
        · exact caseBlind_readHex h
        · exact caseBlind_readHex h
        · exact caseBlind_readHex h
        · exact caseBlind_readProperty h
        · exact caseBlind_readProperty h
        all_goals first
          | (obtain ⟨set, hset, rfl⟩ := Option.map_eq_some_iff.1 h
             exact caseBlind_perlClass hset)
          | (cases h
             trivial)
          | (obtain ⟨t, ht, rfl⟩ := Option.map_eq_some_iff.1 h
             trivial)

theorem caseBlind_readClassFrom {room : Nat} {levels : List OpenClass} {items : ClassItems}
    {cs : List Char} {r : ClassSide × List Char}
    (h : readClassFrom caseless room levels items cs = some r) : r.1.chars.CaseBlind := by
  induction room generalizing levels items cs with
  | zero => cases h
  | succ room ih =>
      unfold readClassFrom at h
      split at h
      · cases h
      · cases h
      · dsimp only at h
        split at h
        · split at h
          · exact ih h
          · cases h
          · split at h
            · cases h
            · exact ih h
        · split at h
          · split at h
            · cases h
            · rename_i set hset
              split at h
              · cases h
                exact caseBlind_finishClass hset
              · exact ih h
          · split at h
            · exact ih h
            · split at h
              · cases h
              · exact ih h

theorem caseBlind_readClass {cs : List Char} {r : ClassSide × List Char}
    (h : readClass caseless cs = some r) : r.1.chars.CaseBlind := by
  unfold readClass at h
  split at h
  · cases h
  · exact caseBlind_readClassFrom h

theorem caseBlind_atom? {a : Atom} (ha : a.CaseBlind) {p : Piece}
    (h : Progress.atom? caseless a = some p) : p.node.CaseBlind := by
  cases a with
  | set chars =>
      cases h
      exact ha
  | look l =>
      cases h
      trivial
  | char c byte =>
      cases h
      exact Unicode.caseBlind_foldedChar c

theorem caseBlind_dot? {p : Piece} (h : Progress.dot? caseless = some p) : p.node.CaseBlind := by
  cases h
  apply CharSet.CaseBlind.compl
  exact CharSet.caseBlind_of_const (b := false) (by decide)

/-! ## Reading patterns -/

/-- Whether a pattern sets no switches: what stands behind a parenthesis is no question mark, or one
with a colon. -/
def switchless : List Char → Bool
  | [] => true
  | c :: cs => !(c == '(' && cs.head? == some '?' && cs.tail.head? != some ':') && switchless cs

theorem switchless_of_suffix {cs rest : List Char} (h : switchless cs = true) (hs : rest <:+ cs) :
    switchless rest = true := by
  induction cs with
  | nil => rw [List.suffix_nil.1 hs]; rfl
  | cons c cs ih =>
      rcases List.suffix_cons_iff.1 hs with rfl | hs
      · exact h
      · exact ih (Bool.and_eq_true_iff.1 h).2 hs

/-- An opening parenthesis in a pattern without switches introduces a group. -/
theorem readOpening_of_switchless {cs : List Char} {r : Opening × List Char}
    (hs : switchless ('(' :: cs) = true) (h : readOpening caseless cs = some r) :
    r.1 = .plain {} ∨ r.1 = .counted none := by
  have hskip : skip caseless cs = cs := rfl
  unfold readOpening at h
  rw [hskip] at h
  split at h
  · cases h
  · cases h
  · cases h
  · cases h
  · simp [switchless] at hs
  · simp [switchless] at hs
  · rename_i rest _ _ _ _ _ _
    cases rest with
    | nil => cases h
    | cons c rest =>
        by_cases hc : c = ':'
        · subst hc
          cases h
          exact Or.inl rfl
        · simp [switchless, hc] at hs
  · cases h
    exact Or.inr rfl

namespace Progress

/-- So far only blind parts have been read, and the switches are those of the start. -/
structure Blind (r : Progress) : Prop where
  switches : r.switches = caseless
  items : AllBlind r.items
  branches : AllBlind r.branches
  groups : ∀ g ∈ r.groups, g.switches = caseless ∧ AllBlind g.items ∧ AllBlind g.branches

variable {r : Progress}

theorem Blind.whole (h : r.Blind) : r.whole.node.CaseBlind :=
  AllBlind.alts (AllBlind.reverse (allBlind_cons h.items.reverse.seqs h.branches))

theorem Blind.add (h : r.Blind) {p : Piece} (hp : p.node.CaseBlind) : (r.add p).Blind :=
  { h with items := allBlind_cons hp h.items }

theorem Blind.repeatLast (h : r.Blind) {least : Nat} {most : Option Nat} {r' : Progress}
    (hr : r.repeatLast least most = some r') : r'.Blind := by
  unfold Progress.repeatLast at hr
  split at hr
  · rename_i p ps hitems
    have hblind := h.items
    rw [hitems] at hblind
    obtain ⟨hp, hps⟩ := List.forall_mem_cons.1 hblind
    split at hr
    · cases hr
      exact { h with items := allBlind_cons (hp.repeated least most) hps }
    · cases hr
  · cases hr

theorem Blind.openGroup (h : r.Blind) (counted : Bool) : (r.openGroup counted).Blind where
  switches := h.switches
  items := List.forall_mem_nil _
  branches := List.forall_mem_nil _
  groups := List.forall_mem_cons.2 ⟨⟨h.switches, h.items, h.branches⟩, h.groups⟩

theorem Blind.closeGroup (h : r.Blind) {r' : Progress} (hr : r.closeGroup = some r') :
    r'.Blind := by
  unfold Progress.closeGroup at hr
  split at hr
  · cases hr
  · rename_i g gs hgroups
    have hblind := h.groups
    rw [hgroups] at hblind
    obtain ⟨⟨hswitches, hitems, hbranches⟩, hgs⟩ := List.forall_mem_cons.1 hblind
    cases hr
    refine ⟨hswitches, allBlind_cons ?_ hitems, hbranches, hgs⟩
    dsimp only
    split <;> exact h.whole

/-- A step through a pattern without switches keeps everything blind. -/
theorem Blind.step (h : r.Blind) {c : Char} {cs : List Char} (hs : switchless (c :: cs) = true)
    {r' : Progress × List Char} (hr : r.step c cs = some r') : r'.1.Blind := by
  unfold Progress.step at hr
  rw [h.switches] at hr
  dsimp only at hr
  split at hr
  · obtain ⟨o, ho, hr⟩ := Option.bind_eq_some_iff.1 hr
    obtain ⟨q, hq, rfl⟩ := Option.map_eq_some_iff.1 hr
    rcases readOpening_of_switchless hs ho with hplain | hcounted
    · rw [hplain] at hq
      cases hq
      exact { h.openGroup false with switches := h.switches }
    · rw [hcounted] at hq
      cases hq
      exact h.openGroup true
  · obtain ⟨q, hq, rfl⟩ := Option.map_eq_some_iff.1 hr
    exact h.closeGroup hq
  · cases hr
    exact ⟨rfl, List.forall_mem_nil _, allBlind_cons h.items.reverse.seqs h.branches, h.groups⟩
  · obtain ⟨k, hk, rfl⟩ := Option.map_eq_some_iff.1 hr
    exact h.add (caseBlind_readClass hk)
  · obtain ⟨q, hq, rfl⟩ := Option.map_eq_some_iff.1 hr
    exact h.repeatLast hq
  · obtain ⟨q, hq, rfl⟩ := Option.map_eq_some_iff.1 hr
    exact h.repeatLast hq
  · obtain ⟨q, hq, rfl⟩ := Option.map_eq_some_iff.1 hr
    exact h.repeatLast hq
  · obtain ⟨k, -, hr⟩ := Option.bind_eq_some_iff.1 hr
    obtain ⟨q, hq, rfl⟩ := Option.map_eq_some_iff.1 hr
    exact h.repeatLast hq
  · obtain ⟨a, ha, hr⟩ := Option.bind_eq_some_iff.1 hr
    obtain ⟨q, hq, rfl⟩ := Option.map_eq_some_iff.1 hr
    exact h.add (caseBlind_atom? (caseBlind_readEscape ha) hq)
  · obtain ⟨q, hq, rfl⟩ := Option.map_eq_some_iff.1 hr
    exact h.add (caseBlind_dot? hq)
  · cases hr
    exact h.add trivial
  · cases hr
    exact h.add trivial
  · obtain ⟨q, hq, rfl⟩ := Option.map_eq_some_iff.1 hr
    exact h.add (caseBlind_atom? (a := .char c false) trivial hq)

/-- A run through a pattern without switches keeps everything blind. -/
theorem Blind.run {room : Nat} (h : r.Blind) {cs : List Char} (hs : switchless cs = true)
    {r' : Progress} (hr : Progress.run room r cs = some r') : r'.Blind := by
  induction room generalizing r cs with
  | zero => cases hr
  | succ room ih =>
      have hskip : skip r.switches cs = cs := by
        rw [h.switches]
        rfl
      unfold Progress.run at hr
      rw [hskip] at hr
      split at hr
      · cases hr
        exact h
      · rename_i c rest
        split at hr
        · rename_i q rest' hstep
          have hsuf : rest' <:+ c :: rest := (suffix_step hstep).trans (List.suffix_cons c rest)
          exact ih (h.step hs hstep) (switchless_of_suffix hs hsuf) hr
        · cases hr

end Progress

/-- A pattern without switches is blind when its letters are read for all their variants. -/
theorem caseBlind_read? {source : String} (hs : switchless source.toList = true) {p : Pattern}
    (h : Pattern.read? true source = some p) : p.node.CaseBlind := by
  obtain ⟨r, hr, h⟩ := Option.bind_eq_some_iff.1 h
  obtain ⟨whole, hfinish, rfl⟩ := Option.map_eq_some_iff.1 h
  have hstart : Progress.Blind { switches := { ignoreCase := true } } :=
    ⟨rfl, List.forall_mem_nil _, List.forall_mem_nil _, List.forall_mem_nil _⟩
  have hblind := (hstart.run hs hr).whole
  unfold Progress.finish at hfinish
  dsimp only at hfinish
  split at hfinish
  · cases hfinish
    exact hblind
  · cases hfinish

end FeatureScan.Pattern
