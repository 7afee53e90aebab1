import FeatureScan.Proofs.Pattern.Positions

/-!
# What patterns match

A match of a pattern begins at one position of a subject and ends at another; which pairs match
follows the construction of the pattern. Searching finds exactly the ends of the matches from where
it starts. Where a pattern does not look around, only the characters between the two positions count.

## Main results

* `mem_reach`: searching finds the ends of matches, all of them and no others.
* `occursIn_iff`: a pattern occurs in a subject if and only if there is a match.
* `takes_of_matches`, `matches_of_takes`: matches by the characters that they take.
-/

namespace FeatureScan.Pattern

/-! ## Matches -/

/-- Whether a pattern matches from a position to a position. -/
def Node.Matches (s : Subject) : Node → Nat → Nat → Prop
  | .empty, p, q => p = q
  | .chars set, p, q => ∃ c, s.after? p = some c ∧ set.contains c = true ∧ q = p + 1
  | .look l, p, q => l.holds s p = true ∧ p = q
  | .seq a b, p, q => ∃ r, a.Matches s p r ∧ b.Matches s r q
  | .alt a b, p, q => a.Matches s p q ∨ b.Matches s p q
  | .group a, p, q => a.Matches s p q
  | .many least most a, p, q =>
      ∃ n, least ≤ n ∧ (∀ m ∈ most, n ≤ max least m) ∧ Iterated (a.Matches s) n p q

variable {size : Nat} {R R' : Nat → Nat → Prop} {step step' : List Nat → List Nat}

theorem follows_comp (h : Follows size R step) (h' : Follows size R' step') :
    Follows size (fun p q => ∃ r, R p r ∧ R' r q) fun ps => step' (step ps) where
  mem hp q := by
    rw [h'.mem (h.inOrder hp)]
    constructor
    · rintro ⟨r, hr, hq⟩
      obtain ⟨p, hp', hr⟩ := (h.mem hp r).1 hr
      exact ⟨p, hp', r, hr, hq⟩
    · rintro ⟨p, hp', r, hr, hq⟩
      exact ⟨r, (h.mem hp r).2 ⟨p, hp', hr⟩, hq⟩
  inOrder hp := h'.inOrder (h.inOrder hp)
  forward hp := fun ⟨_, hr, hq⟩ =>
    Nat.le_trans (h.forward hp hr) (h'.forward (h.le hp hr) hq)

theorem follows_merge (h : Follows size R step) (h' : Follows size R' step') :
    Follows size (fun p q => R p q ∨ R' p q) fun ps => merge (step ps) (step' ps) where
  mem hp q := by
    rw [mem_merge, h.mem hp, h'.mem hp, ← exists_or]
    simp only [and_or_left]
  inOrder hp := (h.inOrder hp).merge (h'.inOrder hp)
  forward hp := fun hR => hR.elim (h.forward hp) (h'.forward hp)

theorem follows_chars (s : Subject) (set : CharSet) :
    Follows s.chars.size ((Node.chars set).Matches s) ((Node.chars set).reach s) where
  mem hp q := mem_reach_chars
  inOrder {ps} hp := by
    refine ⟨?_, fun q hq => ?_⟩
    · refine List.Pairwise.filterMap (past? s set) ?_ hp.increasing
      intro p p' hlt q hq q' hq'
      have hpast : ∀ {p q}, q ∈ past? s set p → q = p + 1 := by
        intro p q hq
        unfold past? at hq
        grind
      rw [hpast hq, hpast hq']
      exact Nat.succ_lt_succ hlt
    · obtain ⟨p, -, c, hc, -, rfl⟩ := mem_reach_chars.1 hq
      exact (Array.getElem?_eq_some_iff.1 hc).1
  forward := by
    rintro p q - ⟨c, -, -, rfl⟩
    exact Nat.le_succ p

theorem follows_look (s : Subject) (l : Look) :
    Follows s.chars.size ((Node.look l).Matches s) ((Node.look l).reach s) where
  mem hp q := by
    rw [Node.reach, List.mem_filter]
    constructor
    · rintro ⟨hq, hl⟩
      exact ⟨q, hq, hl, rfl⟩
    · rintro ⟨p, hp, hl, rfl⟩
      exact ⟨hp, hl⟩
  inOrder hp := hp.sublist List.filter_sublist
  forward _ h := Nat.le_of_eq h.2

theorem follows_many {most : Option Nat} {least : Nat} {a : Node} {s : Subject}
    (h : Follows s.chars.size (a.Matches s) (a.reach s)) :
    Follows s.chars.size ((Node.many least most a).Matches s) ((Node.many least most a).reach s) := by
  have htimes := follows_times h least
  cases most with
  | some k =>
      have hupTo := follows_comp htimes (follows_upTo h (k - least))
      refine hupTo.congr fun p q => ?_
      constructor
      · rintro ⟨n, hleast, hmost, hR⟩
        have hle : n ≤ max least k := hmost k rfl
        obtain ⟨m, rfl⟩ := Nat.exists_eq_add_of_le hleast
        obtain ⟨r, hr, hq⟩ := iterated_add.1 hR
        exact ⟨r, hr, m, by omega, hq⟩
      · rintro ⟨r, hr, m, hm, hq⟩
        refine ⟨least + m, Nat.le_add_right _ _, ?_, iterated_add.2 ⟨r, hr, hq⟩⟩
        rintro k' ⟨⟩
        omega
  | none =>
      have hany : ∀ {again}, Follows s.chars.size (fun p q => ∃ n, Iterated (a.Matches s) n p q)
          again → Follows s.chars.size ((Node.many least none a).Matches s)
            fun ps => again (times (a.reach s) least ps) := by
        intro again hagain
        refine (follows_comp htimes hagain).congr fun p q => ?_
        constructor
        · rintro ⟨n, hleast, -, hR⟩
          obtain ⟨m, rfl⟩ := Nat.exists_eq_add_of_le hleast
          obtain ⟨r, hr, hq⟩ := iterated_add.1 hR
          exact ⟨r, hr, m, hq⟩
        · rintro ⟨r, hr, m, hq⟩
          exact ⟨least + m, Nat.le_add_right _ _, nofun, iterated_add.2 ⟨r, hr, hq⟩⟩
      by_cases hu : a.isUnbounded = true
      · have hreach : (Node.many least none a).reach s = fun ps =>
            spread (a.reach s) (s.chars.size + 1) [] (times (a.reach s) least ps)
              (times (a.reach s) least ps) := by
          funext ps
          rw [Node.reach, if_pos hu]
        rw [hreach]
        exact hany (follows_spread h)
      · have hreach : (Node.many least none a).reach s = fun ps =>
            sweep (a.reach s) (s.chars.size + 1) [] (times (a.reach s) least ps) := by
          funext ps
          rw [Node.reach, if_neg hu]
        rw [hreach]
        exact hany (follows_sweep h)

/-- Searching for a pattern follows its matches. -/
theorem follows_reach (s : Subject) (n : Node) :
    Follows s.chars.size (n.Matches s) (n.reach s) := by
  induction n with
  | empty =>
      refine ⟨fun hp q => ?_, fun hp => hp, fun _ h => Nat.le_of_eq h⟩
      simp [Node.reach, Node.Matches]
  | chars set => exact follows_chars s set
  | look l => exact follows_look s l
  | seq a b iha ihb =>
      have hreach : ∀ {ps}, InOrder s.chars.size ps →
          (Node.seq a b).reach s ps = b.reach s (a.reach s ps) := by
        intro ps hp
        rw [Node.reach]
        split
        · rename_i hnil
          rw [hnil]
          refine (List.eq_nil_iff_forall_not_mem.2 fun q hq => ?_).symm
          obtain ⟨r, hr, -⟩ := (ihb.mem (inOrder_nil _) q).1 hq
          exact List.not_mem_nil hr
        · rfl
      have hcomp := follows_comp iha ihb
      exact ⟨fun hp q => by rw [hreach hp]; exact hcomp.mem hp q,
        fun hp => by rw [hreach hp]; exact hcomp.inOrder hp, hcomp.forward⟩
  | alt a b iha ihb => exact follows_merge iha ihb
  | group a ih => exact ih
  | many least most a ih => exact follows_many ih

/-- Searching finds the ends of matches, all of them and no others. -/
theorem mem_reach {s : Subject} {ps : List Nat} (hp : InOrder s.chars.size ps) (n : Node) (q : Nat) :
    q ∈ n.reach s ps ↔ ∃ p ∈ ps, n.Matches s p q :=
  (follows_reach s n).mem hp q

theorem inOrder_positions (cs : List Char) :
    InOrder (Subject.ofChars cs).chars.size (Subject.ofChars cs).positions :=
  ⟨List.pairwise_lt_range, fun _ hp => Nat.le_of_lt_succ (List.mem_range.1 hp)⟩

/-- A pattern occurs in a subject if and only if there is a match. -/
theorem occursIn_iff (n : Node) (cs : List Char) :
    n.occursIn (Subject.ofChars cs) = true ↔
      ∃ p q, p ≤ cs.length ∧ n.Matches (Subject.ofChars cs) p q := by
  have hmem := mem_reach (inOrder_positions cs) n
  have hpos : ∀ p, p ∈ (Subject.ofChars cs).positions ↔ p ≤ cs.length := fun p =>
    List.mem_range.trans Nat.lt_succ_iff
  rw [Node.occursIn, Bool.not_eq_true', List.isEmpty_eq_false_iff_exists_mem]
  constructor
  · rintro ⟨q, hq⟩
    obtain ⟨p, hp, hR⟩ := (hmem q).1 hq
    exact ⟨p, q, (hpos p).1 hp, hR⟩
  · rintro ⟨p, q, hp, hR⟩
    exact ⟨q, (hmem q).2 ⟨p, (hpos p).2 hp, hR⟩⟩

/-! ## What a match takes -/

/-- Whether a pattern can take some characters, if its conditions on positions hold. -/
def Node.Takes : Node → List Char → Prop
  | .empty, cs => cs = []
  | .chars set, cs => ∃ c, set.contains c = true ∧ cs = [c]
  | .look _, cs => cs = []
  | .seq a b, cs => ∃ as bs, a.Takes as ∧ b.Takes bs ∧ cs = as ++ bs
  | .alt a b, cs => a.Takes cs ∨ b.Takes cs
  | .group a, cs => a.Takes cs
  | .many least most a, cs =>
      ∃ parts : List (List Char), least ≤ parts.length ∧
        (∀ m ∈ most, parts.length ≤ max least m) ∧ (∀ part ∈ parts, a.Takes part) ∧
          cs = parts.flatten

/-- Whether a pattern asks nothing of positions. -/
def Node.isPlain : Node → Bool
  | .empty => true
  | .chars _ => true
  | .look _ => false
  | .seq a b => a.isPlain && b.isPlain
  | .alt a b => a.isPlain && b.isPlain
  | .group a => a.isPlain
  | .many _ _ a => a.isPlain

/-- Whether no set of a pattern holds a character. -/
def Node.avoids (c : Char) : Node → Bool
  | .empty => true
  | .chars set => !set.contains c
  | .look _ => true
  | .seq a b => a.avoids c && b.avoids c
  | .alt a b => a.avoids c && b.avoids c
  | .group a => a.avoids c
  | .many _ _ a => a.avoids c

/-- The text between two positions. -/
structure Between (cs : List Char) (p q : Nat) (mid : List Char) : Prop where
  /-- The text on its two sides. -/
  split : ∃ pre post, cs = pre ++ mid ++ post ∧ pre.length = p
  /-- The second position. -/
  length : q = p + mid.length

theorem between_of_eq {cs pre mid post : List Char} (h : pre ++ mid ++ post = cs) :
    Between cs pre.length (pre.length + mid.length) mid :=
  ⟨⟨pre, post, h.symm, rfl⟩, rfl⟩

theorem between_nil {cs : List Char} {p : Nat} (hp : p ≤ cs.length) : Between cs p p [] :=
  ⟨⟨cs.take p, cs.drop p, by simp, List.length_take_of_le hp⟩, rfl⟩

theorem Between.append {cs mid mid' : List Char} {p q r : Nat} (h : Between cs p r mid)
    (h' : Between cs r q mid') : Between cs p q (mid ++ mid') := by
  obtain ⟨⟨pre, post, hcs, hpre⟩, hr⟩ := h
  obtain ⟨⟨pre', post', hcs', hpre'⟩, hq⟩ := h'
  have hfront : pre' = pre ++ mid := by
    have hlength : pre'.length = (pre ++ mid).length := by
      rw [List.length_append]
      omega
    have hboth : pre' ++ (mid' ++ post') = pre ++ mid ++ post := by
      rw [← hcs, hcs', List.append_assoc]
    exact List.append_inj_left hboth hlength
  refine ⟨⟨pre, post', ?_, hpre⟩, by rw [List.length_append]; omega⟩
  rw [hcs', hfront]
  simp only [List.append_assoc]

theorem Between.le {cs mid : List Char} {p q : Nat} (h : Between cs p q mid) : q ≤ cs.length := by
  obtain ⟨⟨pre, post, rfl, hpre⟩, hq⟩ := h
  simp only [List.length_append]
  omega

theorem Between.tail {cs mid : List Char} {c : Char} {p q : Nat} (h : Between cs p q (c :: mid)) :
    Between cs (p + 1) q mid := by
  obtain ⟨⟨pre, post, rfl, rfl⟩, rfl⟩ := h
  refine ⟨⟨pre ++ [c], post, ?_, List.length_append⟩, ?_⟩
  · simp only [List.append_assoc, List.cons_append, List.nil_append]
  · rw [List.length_cons]
    omega

/-- The characters between two positions are those of the whole text at the positions there. -/
theorem Between.mem_iff {cs mid : List Char} {p q : Nat} (h : Between cs p q mid) {c : Char} :
    c ∈ mid ↔ ∃ r, p ≤ r ∧ r < q ∧ cs[r]? = some c := by
  obtain ⟨⟨pre, post, rfl, rfl⟩, rfl⟩ := h
  rw [List.mem_iff_getElem?]
  constructor
  · rintro ⟨i, hi⟩
    have hlt : i < mid.length := (List.getElem?_eq_some_iff.1 hi).1
    refine ⟨pre.length + i, by omega, by omega, ?_⟩
    rw [List.append_assoc, List.getElem?_append_right (by omega), Nat.add_sub_cancel_left,
      List.getElem?_append_left hlt]
    exact hi
  · rintro ⟨r, hle, hlt, hr⟩
    refine ⟨r - pre.length, ?_⟩
    rw [List.append_assoc, List.getElem?_append_right hle,
      List.getElem?_append_left (by omega)] at hr
    exact hr

/-- A match takes the characters between its two positions. -/
theorem takes_of_matches {n : Node} {cs : List Char} {p q : Nat} (hp : p ≤ cs.length)
    (h : n.Matches (Subject.ofChars cs) p q) : ∃ mid, Between cs p q mid ∧ n.Takes mid := by
  induction n generalizing p q with
  | empty => exact ⟨[], (show p = q from h) ▸ between_nil hp, rfl⟩
  | chars set =>
      obtain ⟨c, hc, hset, rfl⟩ := h
      have hget : cs[p]? = some c := by simpa [Subject.after?, Subject.ofChars] using hc
      obtain ⟨hlt, hget⟩ := List.getElem?_eq_some_iff.1 hget
      refine ⟨[c], ⟨⟨cs.take p, cs.drop (p + 1), ?_, ?_⟩, rfl⟩, c, hset, rfl⟩
      · rw [List.append_assoc, List.singleton_append, ← hget, List.getElem_cons_drop,
          List.take_append_drop]
      · rw [List.length_take]
        omega
  | look l => exact ⟨[], h.2 ▸ between_nil hp, rfl⟩
  | seq a b iha ihb =>
      obtain ⟨r, ha, hb⟩ := h
      obtain ⟨as, hra, hta⟩ := iha hp ha
      obtain ⟨bs, hrb, htb⟩ := ihb hra.le hb
      exact ⟨as ++ bs, hra.append hrb, as, bs, hta, htb, rfl⟩
  | alt a b iha ihb =>
      rcases h with h | h
      · obtain ⟨mid, hm, ht⟩ := iha hp h
        exact ⟨mid, hm, Or.inl ht⟩
      · obtain ⟨mid, hm, ht⟩ := ihb hp h
        exact ⟨mid, hm, Or.inr ht⟩
  | group a ih => exact ih hp h
  | many least most a ih =>
      obtain ⟨n, hleast, hmost, hR⟩ := h
      have hparts : ∀ {n p}, p ≤ cs.length → Iterated (a.Matches (Subject.ofChars cs)) n p q →
          ∃ parts : List (List Char), parts.length = n ∧ (∀ part ∈ parts, a.Takes part) ∧
            Between cs p q parts.flatten := by
        intro n
        induction n with
        | zero => exact fun hp hR => ⟨[], rfl, nofun, (show _ = q from hR) ▸ between_nil hp⟩
        | succ n ihn =>
            rintro p hp ⟨r, hr, hq⟩
            obtain ⟨part, hb, ht⟩ := ih hp hr
            obtain ⟨parts, hlength, hall, hbs⟩ := ihn hb.le hq
            refine ⟨part :: parts, by rw [List.length_cons, hlength], fun x hx => ?_,
              hb.append hbs⟩
            rcases List.mem_cons.1 hx with rfl | hx
            · exact ht
            · exact hall x hx
      obtain ⟨parts, rfl, hall, hb⟩ := hparts hp hR
      exact ⟨parts.flatten, hb, parts, hleast, hmost, hall, rfl⟩

/-- Wherever a pattern that asks nothing of positions finds characters that it can take, it
matches. -/
theorem matches_of_takes {n : Node} (hn : n.isPlain = true) {cs mid : List Char} {p q : Nat}
    (hb : Between cs p q mid) (h : n.Takes mid) : n.Matches (Subject.ofChars cs) p q := by
  have hsplit : ∀ {p q : Nat} {as bs : List Char}, Between cs p q (as ++ bs) →
      Between cs p (p + as.length) as ∧ Between cs (p + as.length) q bs := by
    rintro p q as bs ⟨⟨pre, post, hcs, rfl⟩, hq⟩
    rw [List.length_append] at hq
    exact ⟨⟨⟨pre, bs ++ post, by simp [hcs], rfl⟩, rfl⟩,
      ⟨⟨pre ++ as, post, by simp [hcs], List.length_append⟩, by omega⟩⟩
  induction n generalizing p q mid with
  | empty =>
      obtain rfl : mid = [] := h
      exact hb.length.symm
  | chars set =>
      obtain ⟨c, hset, rfl⟩ := h
      obtain ⟨⟨pre, post, rfl, rfl⟩, rfl⟩ := hb
      exact ⟨c, by simp [Subject.after?, Subject.ofChars], hset, rfl⟩
  | look l => cases hn
  | seq a b iha ihb =>
      obtain ⟨hna, hnb⟩ := Bool.and_eq_true_iff.1 hn
      obtain ⟨as, bs, hta, htb, rfl⟩ := h
      obtain ⟨hba, hbb⟩ := hsplit hb
      exact ⟨_, iha hna hba hta, ihb hnb hbb htb⟩
  | alt a b iha ihb =>
      obtain ⟨hna, hnb⟩ := Bool.and_eq_true_iff.1 hn
      rcases h with h | h
      · exact Or.inl (iha hna hb h)
      · exact Or.inr (ihb hnb hb h)
  | group a ih => exact ih hn hb h
  | many least most a ih =>
      obtain ⟨parts, hleast, hmost, hall, rfl⟩ := h
      refine ⟨parts.length, hleast, hmost, ?_⟩
      clear hleast hmost
      induction parts generalizing p with
      | nil => exact hb.length.symm
      | cons part parts ihp =>
          obtain ⟨hbp, hbs⟩ := hsplit hb
          exact ⟨_, ih hn hbp (hall part List.mem_cons_self),
            ihp (fun x hx => hall x (List.mem_cons_of_mem part hx)) hbs⟩

/-- A pattern takes no character that all its sets lack. -/
theorem not_mem_of_avoids {c : Char} {n : Node} (hn : n.avoids c = true) {cs : List Char}
    (h : n.Takes cs) : c ∉ cs := by
  induction n generalizing cs with
  | empty => exact (show cs = [] from h) ▸ List.not_mem_nil
  | chars set =>
      obtain ⟨d, hset, rfl⟩ := h
      rintro hc
      rw [List.mem_singleton.1 hc, Node.avoids, hset] at hn
      cases hn
  | look l => exact (show cs = [] from h) ▸ List.not_mem_nil
  | seq a b iha ihb =>
      obtain ⟨hna, hnb⟩ := Bool.and_eq_true_iff.1 hn
      obtain ⟨as, bs, hta, htb, rfl⟩ := h
      exact fun hc => (List.mem_append.1 hc).elim (iha hna hta) (ihb hnb htb)
  | alt a b iha ihb =>
      obtain ⟨hna, hnb⟩ := Bool.and_eq_true_iff.1 hn
      exact h.elim (iha hna) (ihb hnb)
  | group a ih => exact ih hn h
  | many least most a ih =>
      obtain ⟨parts, -, -, hall, rfl⟩ := h
      intro hc
      obtain ⟨part, hpart, hc⟩ := List.mem_flatten.1 hc
      exact ih hn (hall part hpart) hc

/-! ## Sequences and repetitions -/

/-- Whether patterns, one after the other, can take some characters. -/
def TakesAll : List Node → List Char → Prop
  | [], cs => cs = []
  | n :: ns, cs => ∃ as bs, n.Takes as ∧ TakesAll ns bs ∧ cs = as ++ bs

theorem takes_seqs {ns : List Node} {cs : List Char} (h : TakesAll ns cs) :
    (Node.seqs ns).Takes cs := by
  fun_induction Node.seqs ns generalizing cs with
  | case1 => exact h
  | case2 n =>
      obtain ⟨as, bs, hn, hnil, rfl⟩ := h
      obtain rfl : bs = [] := hnil
      rwa [List.append_nil]
  | case3 n ns _ ih =>
      obtain ⟨as, bs, hn, hns, rfl⟩ := h
      exact ⟨as, bs, hn, ih hns, rfl⟩

theorem TakesAll.cons {n : Node} {ns : List Node} {as bs : List Char} (h : n.Takes as)
    (h' : TakesAll ns bs) : TakesAll (n :: ns) (as ++ bs) := ⟨as, bs, h, h', rfl⟩

theorem takesAll_singleton {n : Node} {cs : List Char} (h : n.Takes cs) : TakesAll [n] cs :=
  ⟨cs, [], h, rfl, (List.append_nil cs).symm⟩

theorem TakesAll.append {ns ns' : List Node} {as bs : List Char} (h : TakesAll ns as)
    (h' : TakesAll ns' bs) : TakesAll (ns ++ ns') (as ++ bs) := by
  induction ns generalizing as with
  | nil =>
      obtain rfl : as = [] := h
      exact h'
  | cons n ns ih =>
      obtain ⟨x, y, hx, hy, rfl⟩ := h
      exact ⟨x, y ++ bs, hx, ih hy, List.append_assoc _ _ _⟩

/-- A set any number of times takes its characters. -/
theorem takes_many_chars {set : CharSet} {cs : List Char}
    (h : ∀ c ∈ cs, set.contains c = true) : (Node.many 0 none (.chars set)).Takes cs := by
  refine ⟨cs.map fun c => [c], Nat.zero_le _, nofun, fun part hpart => ?_, ?_⟩
  · obtain ⟨c, hc, rfl⟩ := List.mem_map.1 hpart
    exact ⟨c, h c hc, rfl⟩
  · rw [← List.flatMap_def, List.flatMap_singleton']

theorem takes_optional_nil (n : Node) : (Node.many 0 (some 1) n).Takes [] :=
  ⟨[], Nat.le_refl _, fun _ _ => Nat.zero_le _, nofun, rfl⟩

theorem takes_optional {n : Node} {cs : List Char} (h : n.Takes cs) :
    (Node.many 0 (some 1) n).Takes cs := by
  refine ⟨[cs], Nat.zero_le _, ?_, fun part hpart => ?_, (List.flatten_singleton).symm⟩
  · rintro m ⟨⟩
    exact Nat.le_refl _
  · rw [List.mem_singleton.1 hpart]
    exact h

end FeatureScan.Pattern
