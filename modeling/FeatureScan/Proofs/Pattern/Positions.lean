import FeatureScan.Pattern.Reach
import Mathlib.Data.List.Perm.Subperm

/-!
# Steps of positions

A step takes lists of positions to lists of positions. If it follows a relation that never leads
back, so do the ways to repeat it: a number of times, up to a number of times, and any number of
times, where two ways of searching come to the same.

## Main results

* `follows_times`, `follows_upTo`: repeating a step a given number of times, or up to it.
* `follows_sweep`, `follows_spread`: repeating a step any number of times.
-/

namespace FeatureScan.Pattern

/-! ## Lists of positions -/

/-- Positions of a subject of `size` characters, in order. -/
structure InOrder (size : Nat) (ps : List Nat) : Prop where
  /-- The order. -/
  increasing : ps.Pairwise (· < ·)
  /-- The bound. -/
  le : ∀ p ∈ ps, p ≤ size

variable {size : Nat} {ps qs : List Nat}

theorem inOrder_nil (size : Nat) : InOrder size [] := ⟨List.Pairwise.nil, nofun⟩

theorem inOrder_singleton {p : Nat} (h : p ≤ size) : InOrder size [p] := by
  refine ⟨List.pairwise_singleton _ _, fun q hq => ?_⟩
  rw [List.mem_singleton.1 hq]
  exact h

theorem InOrder.sublist (h : InOrder size ps) (hs : qs.Sublist ps) : InOrder size qs :=
  ⟨h.increasing.sublist hs, fun q hq => h.le q (hs.subset hq)⟩

theorem InOrder.tail {p : Nat} (h : InOrder size (p :: ps)) : InOrder size ps :=
  h.sublist (List.sublist_cons_self p ps)

theorem InOrder.lt {p : Nat} (h : InOrder size (p :: ps)) : ∀ q ∈ ps, p < q :=
  (List.pairwise_cons.1 h.increasing).1

/-- Positions found and positions ahead of them. -/
theorem increasing_append {as bs : List Nat} (ha : as.Pairwise (· < ·)) (hb : bs.Pairwise (· < ·))
    (hab : ∀ a ∈ as, ∀ b ∈ bs, a < b) : (as ++ bs).Pairwise (· < ·) :=
  List.pairwise_append.2 ⟨ha, hb, hab⟩

theorem increasing_mergeOnto {acc as bs : List Nat} (hacc : acc.reverse.Pairwise (· < ·))
    (ha : as.Pairwise (· < ·)) (hb : bs.Pairwise (· < ·)) (hlta : ∀ x ∈ acc, ∀ a ∈ as, x < a)
    (hltb : ∀ x ∈ acc, ∀ b ∈ bs, x < b) : (mergeOnto acc as bs).Pairwise (· < ·) := by
  have hcons : ∀ {acc : List Nat} {x : Nat}, acc.reverse.Pairwise (· < ·) → (∀ y ∈ acc, y < x) →
      (x :: acc).reverse.Pairwise (· < ·) := by
    intro acc x h hx
    rw [List.reverse_cons]
    refine increasing_append h (List.pairwise_singleton _ _) fun y hy z hz => ?_
    rw [List.mem_singleton.1 hz]
    exact hx y (List.mem_reverse.1 hy)
  fun_induction mergeOnto acc as bs with
  | case1 acc bs =>
      rw [List.reverseAux_eq]
      exact increasing_append hacc hb fun x hx => hltb x (List.mem_reverse.1 hx)
  | case2 acc as =>
      rw [List.reverseAux_eq]
      exact increasing_append hacc ha fun x hx => hlta x (List.mem_reverse.1 hx)
  | case3 acc a as b bs h ih =>
      obtain ⟨ha', has⟩ := List.pairwise_cons.1 ha
      obtain ⟨hb', -⟩ := List.pairwise_cons.1 hb
      have hrest : ∀ x ∈ acc, ∀ y ∈ as, x < y := fun x hx y hy =>
        hlta x hx y (List.mem_cons_of_mem a hy)
      have hover : ∀ y ∈ b :: bs, a < y :=
        List.forall_mem_cons.2 ⟨h, fun y hy => Nat.lt_trans h (hb' y hy)⟩
      exact ih (hcons hacc fun x hx => hlta x hx a List.mem_cons_self) has hb
        (List.forall_mem_cons.2 ⟨ha', hrest⟩) (List.forall_mem_cons.2 ⟨hover, hltb⟩)
  | case4 acc a as b bs h h' ih =>
      obtain ⟨ha', -⟩ := List.pairwise_cons.1 ha
      obtain ⟨hb', hbs⟩ := List.pairwise_cons.1 hb
      have hrest : ∀ x ∈ acc, ∀ y ∈ bs, x < y := fun x hx y hy =>
        hltb x hx y (List.mem_cons_of_mem b hy)
      have hover : ∀ y ∈ a :: as, b < y :=
        List.forall_mem_cons.2 ⟨h', fun y hy => Nat.lt_trans h' (ha' y hy)⟩
      exact ih (hcons hacc fun x hx => hltb x hx b List.mem_cons_self) ha hbs
        (List.forall_mem_cons.2 ⟨hover, hlta⟩) (List.forall_mem_cons.2 ⟨hb', hrest⟩)
  | case5 acc a as b bs h h' ih =>
      obtain rfl : a = b := by omega
      obtain ⟨ha', has⟩ := List.pairwise_cons.1 ha
      obtain ⟨hb', hbs⟩ := List.pairwise_cons.1 hb
      have hresta : ∀ x ∈ acc, ∀ y ∈ as, x < y := fun x hx y hy =>
        hlta x hx y (List.mem_cons_of_mem a hy)
      have hrestb : ∀ x ∈ acc, ∀ y ∈ bs, x < y := fun x hx y hy =>
        hltb x hx y (List.mem_cons_of_mem a hy)
      exact ih (hcons hacc fun x hx => hlta x hx a List.mem_cons_self) has hbs
        (List.forall_mem_cons.2 ⟨ha', hresta⟩) (List.forall_mem_cons.2 ⟨hb', hrestb⟩)

theorem InOrder.merge (hp : InOrder size ps) (hq : InOrder size qs) :
    InOrder size (merge ps qs) := by
  refine ⟨increasing_mergeOnto List.Pairwise.nil hp.increasing hq.increasing nofun nofun,
    fun x hx => ?_⟩
  rcases (mem_merge ps qs).1 hx with hx | hx
  · exact hp.le x hx
  · exact hq.le x hx

/-- Merging what adds nothing to the length adds nothing. -/
theorem subset_of_length_merge (hp : InOrder size ps)
    (h : (merge ps qs).length = ps.length) : qs ⊆ ps := by
  have hnodup : ps.Nodup := hp.increasing.imp Nat.ne_of_lt
  have hsub : ps ⊆ Pattern.merge ps qs := fun x hx => (mem_merge ps qs).2 (Or.inl hx)
  have hperm := (List.subperm_of_subset hnodup hsub).perm_of_length_le (Nat.le_of_eq h)
  exact fun x hx => hperm.mem_iff.2 ((mem_merge ps qs).2 (Or.inr hx))

/-- The walk along both lists meets every position that both have. -/
theorem mem_lessOnto {acc as bs : List Nat} (ha : as.Pairwise (· < ·)) (hb : bs.Pairwise (· < ·))
    (x : Nat) : x ∈ lessOnto acc as bs ↔ x ∈ acc ∨ x ∈ as ∧ x ∉ bs := by
  fun_induction lessOnto acc as bs with
  | case1 acc bs => simp
  | case2 acc as => simp [List.reverseAux_eq]
  | case3 acc a as b bs h ih =>
      obtain ⟨-, has⟩ := List.pairwise_cons.1 ha
      obtain ⟨hb', -⟩ := List.pairwise_cons.1 hb
      rw [ih has hb]
      have hnot : a ∉ b :: bs := by
        intro hmem
        rcases List.mem_cons.1 hmem with rfl | hmem
        · exact Nat.lt_irrefl _ h
        · exact Nat.lt_asymm h (hb' a hmem)
      simp only [List.mem_cons]
      constructor
      · rintro ((rfl | hx) | hx)
        · exact Or.inr ⟨Or.inl rfl, by simpa using hnot⟩
        · exact Or.inl hx
        · exact Or.inr ⟨Or.inr hx.1, hx.2⟩
      · rintro (hx | ⟨rfl | hx, hxb⟩)
        · exact Or.inl (Or.inr hx)
        · exact Or.inl (Or.inl rfl)
        · exact Or.inr ⟨hx, hxb⟩
  | case4 acc a as b bs h h' ih =>
      obtain ⟨ha', -⟩ := List.pairwise_cons.1 ha
      obtain ⟨-, hbs⟩ := List.pairwise_cons.1 hb
      rw [ih ha hbs]
      have hne : ∀ x ∈ a :: as, x ≠ b := by
        rintro x hx rfl
        rcases List.mem_cons.1 hx with rfl | hx
        · exact Nat.lt_irrefl _ h'
        · exact Nat.lt_asymm h' (ha' x hx)
      refine or_congr_right (and_congr_right fun hx => not_congr ?_)
      rw [List.mem_cons]
      exact (or_iff_right (hne x hx)).symm
  | case5 acc a as b bs h h' ih =>
      obtain rfl : a = b := by omega
      obtain ⟨ha', has⟩ := List.pairwise_cons.1 ha
      obtain ⟨-, hbs⟩ := List.pairwise_cons.1 hb
      rw [ih has hbs]
      refine or_congr_right ?_
      simp only [List.mem_cons]
      constructor
      · rintro ⟨hx, hxb⟩
        exact ⟨Or.inr hx, not_or.2 ⟨Nat.ne_of_gt (ha' x hx), hxb⟩⟩
      · rintro ⟨rfl | hx, hxb⟩
        · exact absurd (Or.inl rfl) hxb
        · exact ⟨hx, fun hmem => hxb (Or.inr hmem)⟩

theorem mem_less (hp : InOrder size ps) (hq : InOrder size qs) (x : Nat) :
    x ∈ less ps qs ↔ x ∈ ps ∧ x ∉ qs := by
  rw [less, mem_lessOnto hp.increasing hq.increasing]
  exact or_iff_right List.not_mem_nil

theorem sublist_lessOnto (acc as bs : List Nat) :
    (lessOnto acc as bs).Sublist (acc.reverse ++ as) := by
  fun_induction lessOnto acc as bs with
  | case1 acc bs => simp
  | case2 acc as => rw [List.reverseAux_eq]
  | case3 acc a as b bs h ih => simpa using ih
  | case4 acc a as b bs h h' ih => exact ih
  | case5 acc a as b bs h h' ih =>
      exact ih.trans ((List.sublist_cons_self a as).append_left acc.reverse)

theorem InOrder.less (hp : InOrder size ps) (qs : List Nat) : InOrder size (less ps qs) :=
  hp.sublist (sublist_lessOnto [] ps qs)

theorem passBelow_eq (bound : Nat) (passed ps : List Nat) :
    passBelow bound passed ps =
      ((ps.takeWhile (· < bound)).reverse ++ passed, ps.dropWhile (· < bound)) := by
  induction ps generalizing passed with
  | nil => rfl
  | cons p ps ih =>
      rw [passBelow, List.takeWhile_cons, List.dropWhile_cons]
      by_cases h : p < bound
      · simp [h, ih]
      · simp [h]

/-! ## Relations -/

/-- Going `n` times along a relation. -/
def Iterated (R : Nat → Nat → Prop) : Nat → Nat → Nat → Prop
  | 0, p, q => p = q
  | n + 1, p, q => ∃ r, R p r ∧ Iterated R n r q

theorem iterated_add {R : Nat → Nat → Prop} {m n p q : Nat} :
    Iterated R (m + n) p q ↔ ∃ r, Iterated R m p r ∧ Iterated R n r q := by
  induction m generalizing p with
  | zero =>
      rw [Nat.zero_add]
      constructor
      · exact fun h => ⟨p, rfl, h⟩
      · rintro ⟨r, rfl, h⟩
        exact h
  | succ m ih =>
      rw [Nat.succ_add]
      constructor
      · rintro ⟨x, hx, h⟩
        obtain ⟨r, hr, hq⟩ := ih.1 h
        exact ⟨r, ⟨x, hx, hr⟩, hq⟩
      · rintro ⟨r, ⟨x, hx, hr⟩, hq⟩
        exact ⟨x, hx, ih.2 ⟨r, hr, hq⟩⟩

/-- A step follows a relation: it leads from some positions to all that they are related to, keeps
positions in order and does not lead back. -/
structure Follows (size : Nat) (R : Nat → Nat → Prop) (step : List Nat → List Nat) : Prop where
  /-- Where it leads. -/
  mem : ∀ {ps}, InOrder size ps → ∀ q, q ∈ step ps ↔ ∃ p ∈ ps, R p q
  /-- The order. -/
  inOrder : ∀ {ps}, InOrder size ps → InOrder size (step ps)
  /-- No way back. -/
  forward : ∀ {p q}, p ≤ size → R p q → p ≤ q

variable {R : Nat → Nat → Prop} {step : List Nat → List Nat}

theorem Follows.le (h : Follows size R step) {p q : Nat} (hp : p ≤ size) (hR : R p q) :
    q ≤ size :=
  (h.inOrder (inOrder_singleton hp)).le q
    ((h.mem (inOrder_singleton hp) q).2 ⟨p, List.mem_singleton_self p, hR⟩)

theorem Follows.congr {R' : Nat → Nat → Prop} (h : Follows size R step)
    (hR : ∀ p q, R' p q ↔ R p q) : Follows size R' step where
  mem hp q := by simp only [hR, h.mem hp q]
  inOrder := h.inOrder
  forward hp hR' := h.forward hp ((hR _ _).1 hR')

theorem Follows.iterated_le (h : Follows size R step) {n p q : Nat} (hp : p ≤ size)
    (hR : Iterated R n p q) : p ≤ q ∧ q ≤ size := by
  induction n generalizing p with
  | zero => exact ⟨Nat.le_of_eq hR, hR ▸ hp⟩
  | succ n ih =>
      obtain ⟨r, hr, hq⟩ := hR
      have := ih (h.le hp hr) hq
      exact ⟨Nat.le_trans (h.forward hp hr) this.1, this.2⟩

/-! ## Repeating a step a number of times -/

theorem follows_times (h : Follows size R step) (n : Nat) :
    Follows size (Iterated R n) (times step n) := by
  induction n with
  | zero =>
      refine ⟨fun {ps} hp q => ?_, fun hp => hp, fun _ h => Nat.le_of_eq h⟩
      simp [times, Iterated]
  | succ n ih =>
      have htimes : ∀ {ps}, InOrder size ps → times step (n + 1) ps = times step n (step ps) := by
        intro ps hp
        rw [times]
        split
        · rename_i hempty
          obtain rfl := List.isEmpty_iff.1 hempty
          refine (List.eq_nil_iff_forall_not_mem.2 fun q hq => ?_).symm
          obtain ⟨r, hr, -⟩ := (ih.mem (h.inOrder hp) q).1 hq
          obtain ⟨p, hp', -⟩ := (h.mem hp r).1 hr
          exact List.not_mem_nil hp'
        · rfl
      refine ⟨fun hp q => ?_, fun hp => ?_, fun hp hR => (h.iterated_le hp hR).1⟩
      · rw [htimes hp, ih.mem (h.inOrder hp)]
        constructor
        · rintro ⟨r, hr, hq⟩
          obtain ⟨p, hp', hr⟩ := (h.mem hp r).1 hr
          exact ⟨p, hp', r, hr, hq⟩
        · rintro ⟨p, hp', r, hr, hq⟩
          exact ⟨r, (h.mem hp r).2 ⟨p, hp', hr⟩, hq⟩
      · rw [htimes hp]
        exact ih.inOrder (h.inOrder hp)

/-- What is closed under a relation holds everything that can be reached from it. -/
theorem mem_of_iterated {ps : List Nat} (hclosed : ∀ p ∈ ps, ∀ q, R p q → q ∈ ps) {n p q : Nat}
    (hp : p ∈ ps) (h : Iterated R n p q) : q ∈ ps := by
  induction n generalizing p with
  | zero => exact h ▸ hp
  | succ n ih =>
      obtain ⟨r, hr, hq⟩ := h
      exact ih (hclosed p hp r hr) hq

theorem follows_upTo (h : Follows size R step) (n : Nat) :
    Follows size (fun p q => ∃ m ≤ n, Iterated R m p q) (upTo step n) := by
  induction n with
  | zero =>
      refine ⟨fun {ps} hp q => ?_, fun hp => hp, ?_⟩
      · simp [upTo, Iterated]
      · rintro p q hp ⟨m, -, hR⟩
        exact (h.iterated_le hp hR).1
  | succ n ih =>
      refine ⟨fun {ps} hp q => ?_, fun {ps} hp => ?_, ?_⟩
      · rw [upTo]
        split
        · rename_i hlength
          have hsub := subset_of_length_merge hp (beq_iff_eq.1 hlength)
          have hclosed : ∀ p ∈ ps, ∀ q, R p q → q ∈ ps := fun p hp' q hq =>
            hsub ((h.mem hp q).2 ⟨p, hp', hq⟩)
          constructor
          · exact fun hq => ⟨q, hq, 0, Nat.zero_le _, rfl⟩
          · rintro ⟨p, hp', m, -, hR⟩
            exact mem_of_iterated hclosed hp' hR
        · rw [ih.mem (hp.merge (h.inOrder hp))]
          constructor
          · rintro ⟨r, hr, m, hm, hR⟩
            rcases (mem_merge _ _).1 hr with hr | hr
            · exact ⟨r, hr, m, Nat.le_succ_of_le hm, hR⟩
            · obtain ⟨p, hp', hpr⟩ := (h.mem hp r).1 hr
              exact ⟨p, hp', m + 1, Nat.succ_le_succ hm, r, hpr, hR⟩
          · rintro ⟨p, hp', m, hm, hR⟩
            cases m with
            | zero => exact ⟨p, (mem_merge _ _).2 (Or.inl hp'), 0, Nat.zero_le _, hR⟩
            | succ m =>
                obtain ⟨r, hpr, hR⟩ := hR
                exact ⟨r, (mem_merge _ _).2 (Or.inr ((h.mem hp r).2 ⟨p, hp', hpr⟩)), m,
                  Nat.le_of_succ_le_succ hm, hR⟩
      · rw [upTo]
        split
        · exact hp
        · exact ih.inOrder (hp.merge (h.inOrder hp))
      · rintro p q hp ⟨m, -, hR⟩
        exact (h.iterated_le hp hR).1

/-! ## Repeating a step any number of times, one position after the other -/

/-- Along a relation that does not lead back, the way goes on from a later position or ends. -/
theorem Follows.iterated_cases (h : Follows size R step) {n p q : Nat} (hp : p ≤ size)
    (hR : Iterated R n p q) : q = p ∨ ∃ r, R p r ∧ p < r ∧ ∃ m, Iterated R m r q := by
  induction n with
  | zero => exact Or.inl hR.symm
  | succ n ih =>
      obtain ⟨r, hr, hq⟩ := hR
      rcases Nat.lt_or_eq_of_le (h.forward hp hr) with hlt | rfl
      · exact Or.inr ⟨r, hr, hlt, n, hq⟩
      · exact ih hq

theorem mem_sweep (h : Follows size R step) {room : Nat} {done waiting : List Nat}
    (hw : InOrder size waiting) (hroom : ∀ p ∈ waiting, size < p + room) (q : Nat) :
    q ∈ sweep step room done waiting ↔ q ∈ done ∨ ∃ p ∈ waiting, ∃ n, Iterated R n p q := by
  induction room generalizing done waiting with
  | zero =>
      have hnil : waiting = [] := List.eq_nil_iff_forall_not_mem.2 fun p hp =>
        Nat.not_lt.2 (hw.le p hp) (hroom p hp)
      subst hnil
      simp [sweep]
  | succ room ih =>
      cases waiting with
      | nil => simp [sweep]
      | cons p ps =>
          have hp : p ≤ size := hw.le p List.mem_cons_self
          have hstep := h.inOrder (inOrder_singleton hp)
          have hmem : ∀ r, r ∈ merge ((step [p]).filter (p < ·)) ps ↔
              (R p r ∧ p < r) ∨ r ∈ ps := by
            intro r
            rw [mem_merge, List.mem_filter, h.mem (inOrder_singleton hp)]
            simp
          have hnext : InOrder size (merge ((step [p]).filter (p < ·)) ps) :=
            (hstep.sublist List.filter_sublist).merge hw.tail
          rw [sweep, ih hnext]
          · constructor
            · rintro (hq | ⟨r, hr, n, hR⟩)
              · rcases List.mem_cons.1 hq with rfl | hq
                · exact Or.inr ⟨q, List.mem_cons_self, 0, rfl⟩
                · exact Or.inl hq
              · rcases (hmem r).1 hr with ⟨hpr, -⟩ | hr
                · exact Or.inr ⟨p, List.mem_cons_self, n + 1, r, hpr, hR⟩
                · exact Or.inr ⟨r, List.mem_cons_of_mem p hr, n, hR⟩
            · rintro (hq | ⟨r, hr, n, hR⟩)
              · exact Or.inl (List.mem_cons_of_mem p hq)
              · rcases List.mem_cons.1 hr with rfl | hr
                · rcases h.iterated_cases hp hR with rfl | ⟨x, hx, hlt, m, hR⟩
                  · exact Or.inl List.mem_cons_self
                  · exact Or.inr ⟨x, (hmem x).2 (Or.inl ⟨hx, hlt⟩), m, hR⟩
                · exact Or.inr ⟨r, (hmem r).2 (Or.inr hr), n, hR⟩
          · intro r hr
            have hlt : p < r := by
              rcases (hmem r).1 hr with ⟨-, hlt⟩ | hr
              · exact hlt
              · exact hw.lt r hr
            have := hroom p List.mem_cons_self
            omega

theorem inOrder_sweep (h : Follows size R step) {room : Nat} {done waiting : List Nat}
    (hdw : InOrder size (done.reverse ++ waiting)) :
    InOrder size (sweep step room done waiting) := by
  induction room generalizing done waiting with
  | zero => exact hdw
  | succ room ih =>
      cases waiting with
      | nil =>
          rw [List.append_nil] at hdw
          exact hdw
      | cons p ps =>
          have hw : InOrder size (p :: ps) := hdw.sublist (List.sublist_append_right _ _)
          have hp : p ≤ size := hw.le p List.mem_cons_self
          have hdone : InOrder size (done.reverse ++ [p]) :=
            hdw.sublist ((List.singleton_sublist.2 List.mem_cons_self).append_left _)
          have hfront : InOrder size ((step [p]).filter (p < ·)) :=
            (h.inOrder (inOrder_singleton hp)).sublist List.filter_sublist
          have hnext := hfront.merge hw.tail
          refine ih ⟨?_, ?_⟩
          · rw [List.reverse_cons]
            refine increasing_append hdone.increasing hnext.increasing fun x hx r hr => ?_
            have hxp : x ≤ p := by
              rcases List.mem_append.1 hx with hx | hx
              · exact Nat.le_of_lt ((List.pairwise_append.1 hdw.increasing).2.2 x hx p
                  List.mem_cons_self)
              · exact Nat.le_of_eq (List.mem_singleton.1 hx)
            have hpr : p < r := by
              rcases (mem_merge _ _).1 hr with hr | hr
              · simpa using (List.mem_filter.1 hr).2
              · exact hw.lt r hr
            exact Nat.lt_of_le_of_lt hxp hpr
          · rw [List.reverse_cons]
            intro x hx
            rcases List.mem_append.1 hx with hx | hx
            · exact hdone.le x hx
            · exact hnext.le x hx

/-- Sweeping from some positions takes a step any number of times. -/
theorem follows_sweep (h : Follows size R step) :
    Follows size (fun p q => ∃ n, Iterated R n p q) (sweep step (size + 1) []) where
  mem {ps} hp q := by
    rw [mem_sweep h hp fun p _ => by omega]
    exact or_iff_right List.not_mem_nil
  inOrder hp := inOrder_sweep h (by simpa using hp)
  forward hp := fun ⟨_, hR⟩ => (h.iterated_le hp hR).1

/-! ## Repeating a step any number of times, all new positions at once -/

/-- The state of spreading: `passed`, in reverse, and `found` are the positions so far; from all but
the `fresh` ones every step leads to one of them. -/
structure Spreading (size : Nat) (R : Nat → Nat → Prop) (room : Nat)
    (passed found fresh : List Nat) : Prop where
  /-- The positions so far are in order. -/
  known : InOrder size (passed.reverse ++ found)
  /-- So are the fresh ones. -/
  inOrder : InOrder size fresh
  /-- They are among those found. -/
  subset : fresh ⊆ found
  /-- What is passed is behind them. -/
  behind : ∀ x ∈ passed, ∀ y ∈ fresh, x < y
  /-- Steps from other positions lead nowhere new. -/
  closed : ∀ x ∈ passed.reverse ++ found, x ∉ fresh → ∀ y, R x y → y ∈ passed.reverse ++ found
  /-- There is room for every further position. -/
  room : ∀ y ∈ fresh, size < y + room

section Spreading

variable {room : Nat} {passed found fresh : List Nat}

theorem lt_of_mem_takeWhile {bound x : Nat} {ps : List Nat}
    (hx : x ∈ ps.takeWhile (· < bound)) : x < bound :=
  of_decide_eq_true (List.all_eq_true.1 List.all_takeWhile x hx)

theorem mem_dropWhile_of_le {bound x : Nat} {ps : List Nat} (hx : x ∈ ps) (hle : bound ≤ x) :
    x ∈ ps.dropWhile (· < bound) := by
  rw [← List.takeWhile_append_dropWhile (p := (· < bound)) (l := ps)] at hx
  rcases List.mem_append.1 hx with hx | hx
  · exact absurd (lt_of_mem_takeWhile hx) (Nat.not_lt.2 hle)
  · exact hx

/-- New positions are beyond the lowest fresh one. -/
theorem Spreading.lt_of_new (hs : Spreading size R (room + 1) passed found fresh)
    (h : Follows size R step) {y : Nat} (hy : y ∈ less (step fresh) found) :
    ∃ x ∈ fresh, R x y ∧ x < y := by
  have hfound : InOrder size found := hs.known.sublist (List.sublist_append_right _ _)
  obtain ⟨hy, hnot⟩ := (mem_less (h.inOrder hs.inOrder) hfound y).1 hy
  obtain ⟨x, hx, hR⟩ := (h.mem hs.inOrder y).1 hy
  have hne : x ≠ y := fun heq => hnot (heq ▸ hs.subset hx)
  exact ⟨x, hx, hR, Nat.lt_of_le_of_ne (h.forward (hs.inOrder.le x hx) hR) hne⟩

theorem reverse_passBelow (q : Nat) (passed ps : List Nat) :
    (passBelow q passed ps).1.reverse ++ (passBelow q passed ps).2 = passed.reverse ++ ps := by
  rw [passBelow_eq]
  dsimp only
  rw [List.reverse_append, List.reverse_reverse, List.append_assoc,
    List.takeWhile_append_dropWhile]

/-- With the new positions added, no step from the positions before leads out. -/
theorem Spreading.step_mem (hs : Spreading size R (room + 1) passed found fresh)
    (h : Follows size R step) {x y : Nat} (hx : x ∈ passed.reverse ++ found) (hR : R x y) :
    y ∈ passed.reverse ++ merge found (less (step fresh) found) := by
  have hfound : InOrder size found := hs.known.sublist (List.sublist_append_right _ _)
  by_cases hfresh : x ∈ fresh
  · have hy : y ∈ step fresh := (h.mem hs.inOrder y).2 ⟨x, hfresh, hR⟩
    refine List.mem_append_right _ ((mem_merge _ _).2 ?_)
    by_cases hyf : y ∈ found
    · exact Or.inl hyf
    · exact Or.inr ((mem_less (h.inOrder hs.inOrder) hfound y).2 ⟨hy, hyf⟩)
  · rcases List.mem_append.1 (hs.closed x hx hfresh y hR) with hy | hy
    · exact List.mem_append_left _ hy
    · exact List.mem_append_right _ ((mem_merge _ _).2 (Or.inl hy))

theorem Spreading.next (hs : Spreading size R (room + 1) passed found fresh)
    (h : Follows size R step) {q : Nat} {qs : List Nat} (hnew : less (step fresh) found = q :: qs) :
    Spreading size R room (passBelow q passed (merge found (q :: qs))).1
      (passBelow q passed (merge found (q :: qs))).2 (q :: qs) := by
  have hfound : InOrder size found := hs.known.sublist (List.sublist_append_right _ _)
  have hq : InOrder size (q :: qs) := hnew ▸ (h.inOrder hs.inOrder).less found
  have hmerge := hfound.merge hq
  have hlow : ∀ y ∈ q :: qs, q ≤ y := by
    intro y hy
    rcases List.mem_cons.1 hy with rfl | hy
    · exact Nat.le_refl _
    · exact Nat.le_of_lt (hq.lt y hy)
  have hpassed : ∀ x ∈ passed, ∀ y ∈ merge found (q :: qs), x < y := by
    intro x hx y hy
    rcases (mem_merge _ _).1 hy with hy | hy
    · exact (List.pairwise_append.1 hs.known.increasing).2.2 x (List.mem_reverse.2 hx) y hy
    · obtain ⟨z, hz, -, hlt⟩ := hs.lt_of_new h (hnew ▸ hy)
      exact Nat.lt_trans (hs.behind x hx z hz) hlt
  refine ⟨?_, hq, ?_, ?_, ?_, ?_⟩
  · rw [reverse_passBelow]
    refine ⟨increasing_append (List.pairwise_append.1 hs.known.increasing).1 hmerge.increasing
      fun x hx => hpassed x (List.mem_reverse.1 hx), fun x hx => ?_⟩
    rcases List.mem_append.1 hx with hx | hx
    · exact hs.known.le x (List.mem_append_left _ hx)
    · exact hmerge.le x hx
  · intro y hy
    rw [passBelow_eq]
    exact mem_dropWhile_of_le ((mem_merge _ _).2 (Or.inr hy)) (hlow y hy)
  · intro x hx y hy
    rw [passBelow_eq] at hx
    rcases List.mem_append.1 hx with hx | hx
    · exact Nat.lt_of_lt_of_le (lt_of_mem_takeWhile (List.mem_reverse.1 hx)) (hlow y hy)
    · exact hpassed x hx y ((mem_merge _ _).2 (Or.inr hy))
  · rw [reverse_passBelow]
    intro x hx hxq y hR
    have hold : x ∈ passed.reverse ++ found := by
      rcases List.mem_append.1 hx with hx | hx
      · exact List.mem_append_left _ hx
      · rcases (mem_merge _ _).1 hx with hx | hx
        · exact List.mem_append_right _ hx
        · exact absurd hx hxq
    rw [← hnew]
    exact hs.step_mem h hold hR
  · intro y hy
    obtain ⟨x, hx, -, hlt⟩ := hs.lt_of_new h (hnew ▸ hy)
    have := hs.room x hx
    omega

/-- If nothing is fresh, or its steps lead nowhere new, the positions so far are all. -/
theorem Spreading.mem_iff (hs : Spreading size R room passed found fresh)
    (hstep : ∀ x ∈ fresh, ∀ y, R x y → y ∈ passed.reverse ++ found) (q : Nat) :
    q ∈ passed.reverse ++ found ↔
      ∃ p ∈ passed.reverse ++ found, ∃ n, Iterated R n p q := by
  constructor
  · exact fun hq => ⟨q, hq, 0, rfl⟩
  · rintro ⟨p, hp, n, hR⟩
    refine mem_of_iterated (fun x hx y hxy => ?_) hp hR
    by_cases hfresh : x ∈ fresh
    · exact hstep x hfresh y hxy
    · exact hs.closed x hx hfresh y hxy

theorem mem_spread (h : Follows size R step)
    (hs : Spreading size R room passed found fresh) (q : Nat) :
    q ∈ spread step room passed found fresh ↔
      ∃ p ∈ passed.reverse ++ found, ∃ n, Iterated R n p q := by
  induction room generalizing passed found fresh with
  | zero =>
      rw [spread, List.reverseAux_eq]
      refine hs.mem_iff (fun x hx => ?_) q
      exact absurd (hs.room x hx) (Nat.not_lt.2 (hs.inOrder.le x hx))
  | succ room ih =>
      have hfound : InOrder size found := hs.known.sublist (List.sublist_append_right _ _)
      rw [spread]
      cases hnew : less (step fresh) found with
      | nil =>
          dsimp only
          rw [List.reverseAux_eq]
          refine hs.mem_iff (fun x hx y hR => ?_) q
          have hy : y ∈ step fresh := (h.mem hs.inOrder y).2 ⟨x, hx, hR⟩
          by_cases hyf : y ∈ found
          · exact List.mem_append_right _ hyf
          · have := (mem_less (h.inOrder hs.inOrder) hfound y).2 ⟨hy, hyf⟩
            rw [hnew] at this
            exact absurd this List.not_mem_nil
      | cons r rs =>
          have hnext := hs.next h hnew
          dsimp only
          rw [ih hnext]
          have hknown : ∀ p, p ∈ (passBelow r passed (merge found (r :: rs))).1.reverse ++
              (passBelow r passed (merge found (r :: rs))).2 ↔
                p ∈ passed.reverse ++ found ∨ p ∈ r :: rs := by
            intro p
            rw [passBelow_eq]
            dsimp only
            rw [List.reverse_append, List.reverse_reverse, List.append_assoc,
              List.takeWhile_append_dropWhile, List.mem_append, mem_merge, ← or_assoc,
              List.mem_append]
          constructor
          · rintro ⟨p, hp, n, hR⟩
            rcases (hknown p).1 hp with hp | hp
            · exact ⟨p, hp, n, hR⟩
            · obtain ⟨x, hx, hxp, -⟩ := hs.lt_of_new h (hnew ▸ hp)
              exact ⟨x, List.mem_append_right _ (hs.subset hx), n + 1, p, hxp, hR⟩
          · rintro ⟨p, hp, n, hR⟩
            exact ⟨p, (hknown p).2 (Or.inl hp), n, hR⟩

theorem inOrder_spread (h : Follows size R step)
    (hs : Spreading size R room passed found fresh) :
    InOrder size (spread step room passed found fresh) := by
  induction room generalizing passed found fresh with
  | zero =>
      rw [spread, List.reverseAux_eq]
      exact hs.known
  | succ room ih =>
      rw [spread]
      cases hnew : less (step fresh) found with
      | nil =>
          dsimp only
          rw [List.reverseAux_eq]
          exact hs.known
      | cons r rs => exact ih (hs.next h hnew)

end Spreading

theorem spreading_start (hp : InOrder size ps) : Spreading size R (size + 1) [] ps ps where
  known := hp
  inOrder := hp
  subset := List.Subset.refl _
  behind := nofun
  closed x hx hnot := absurd hx hnot
  room y _ := by omega

/-- Spreading from some positions takes a step any number of times. -/
theorem follows_spread (h : Follows size R step) :
    Follows size (fun p q => ∃ n, Iterated R n p q)
      fun ps => spread step (size + 1) [] ps ps where
  mem hp q := mem_spread h (spreading_start hp) q
  inOrder hp := inOrder_spread h (spreading_start hp)
  forward hp := fun ⟨_, hR⟩ => (h.iterated_le hp hR).1

end FeatureScan.Pattern
