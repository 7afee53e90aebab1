/-!
# Sets of characters

A set of characters is kept as its edges: the code points, in increasing order, at which membership
changes, beginning outside. Every operation of sets is one walk along the edges of both, and what it
makes is in order again.

## Main results

* `inside_combineFrom`: a combination holds a character as the operation says of its parts.
* `holds_union`, `holds_inter`, `holds_diff`: so do the operations on sets.
* `holds_ofPoints`: a set of points holds exactly these.
* `contains_compl`: the complement holds exactly the other characters.
-/

namespace FeatureScan

/-- A set of characters, by the code points at which membership changes. -/
structure CharSet where
  /-- The edges, in increasing order. -/
  edges : List Nat
  /-- They increase strictly. -/
  sorted : edges.Pairwise (· < ·)
  deriving DecidableEq, Repr

namespace CharSet

/-- The membership of `n` behind those of the edges that are not above it, if membership is `b`
before the first. -/
def inside : Bool → List Nat → Nat → Bool
  | b, [], _ => b
  | b, e :: es, n => if n < e then b else inside (!b) es n

/-- Whether a code point belongs to a set. -/
def holds (s : CharSet) (n : Nat) : Bool := inside false s.edges n

/-- Whether a character belongs to a set. -/
def contains (s : CharSet) (c : Char) : Bool := s.holds c.toNat

/-- The set without characters. -/
def empty : CharSet := ⟨[], .nil⟩

/-- The set of all characters. -/
def full : CharSet := ⟨[0], List.pairwise_singleton _ 0⟩

/-- The code points from `lo` to `hi`; a range may be given by its ends in one order only. -/
def range (lo hi : Nat) : CharSet :=
  if h : lo ≤ hi then ⟨[lo, hi + 1], List.pairwise_pair.2 (Nat.lt_succ_of_le h)⟩ else empty

/-- The set of one character. -/
def single (c : Char) : CharSet := range c.toNat c.toNat

/-- Whether a set has no edge, and so no character. -/
def isEmpty (s : CharSet) : Bool := s.edges.isEmpty

/-! ## Combining -/

/-- The next edge of a combination, if the operation gives another membership than before. -/
def edgeIf (change : Bool) (e : Nat) (rest : List Nat) : List Nat :=
  if change then e :: rest else rest

/-- The edges of the combination of two sets by a truth function, from a point on where the
memberships are `p` and `q`. -/
def combineFrom (f : Bool → Bool → Bool) : Bool → Bool → List Nat → List Nat → List Nat
  | _, _, [], [] => []
  | p, q, a :: as, [] => edgeIf (f p q != f (!p) q) a (combineFrom f (!p) q as [])
  | p, q, [], b :: bs => edgeIf (f p q != f p (!q)) b (combineFrom f p (!q) [] bs)
  | p, q, a :: as, b :: bs =>
    if a < b then edgeIf (f p q != f (!p) q) a (combineFrom f (!p) q as (b :: bs))
    else if b < a then edgeIf (f p q != f p (!q)) b (combineFrom f p (!q) (a :: as) bs)
    else edgeIf (f p q != f (!p) (!q)) a (combineFrom f (!p) (!q) as bs)
  termination_by _ _ as bs => as.length + bs.length

theorem mem_edgeIf {change : Bool} {e x : Nat} {rest : List Nat} (h : x ∈ edgeIf change e rest) :
    x = e ∨ x ∈ rest := by
  unfold edgeIf at h
  split at h
  · simpa using h
  · exact .inr h

/-- A combination has no edge of its own. -/
theorem mem_or_mem_of_mem_combineFrom {f : Bool → Bool → Bool} {p q : Bool} {as bs : List Nat}
    {x : Nat} (h : x ∈ combineFrom f p q as bs) : x ∈ as ∨ x ∈ bs := by
  fun_induction combineFrom f p q as bs with
  | case1 => simp at h
  | case2 p q a as ih | case3 p q b bs ih => rcases mem_edgeIf h with rfl | h <;> grind
  | case4 p q a as b bs hab ih | case5 p q a as b bs hab hba ih | case6 p q a as b bs hab hba ih =>
    rcases mem_edgeIf h with rfl | h <;> grind

theorem forall_lt_of_lt_head {e n : Nat} {es : List Nat} (h : (e :: es).Pairwise (· < ·))
    (hn : n < e) : ∀ x ∈ e :: es, n < x := by
  intro x hx
  rcases List.mem_cons.1 hx with rfl | hx
  · exact hn
  · exact Nat.lt_trans hn ((List.pairwise_cons.1 h).1 x hx)

theorem sorted_edgeIf {change : Bool} {e : Nat} {rest : List Nat}
    (h : rest.Pairwise (· < ·)) (he : ∀ x ∈ rest, e < x) :
    (edgeIf change e rest).Pairwise (· < ·) := by
  unfold edgeIf
  split
  · exact List.pairwise_cons.2 ⟨he, h⟩
  · exact h

/-- The edges of a combination increase as those of its parts do. -/
theorem sorted_combineFrom (f : Bool → Bool → Bool) {p q : Bool} {as bs : List Nat}
    (ha : as.Pairwise (· < ·)) (hb : bs.Pairwise (· < ·)) :
    (combineFrom f p q as bs).Pairwise (· < ·) := by
  fun_induction combineFrom f p q as bs with
  | case1 => exact .nil
  | case2 p q a as ih =>
    obtain ⟨hlt, has⟩ := List.pairwise_cons.1 ha
    refine sorted_edgeIf (ih has hb) fun x hx => ?_
    exact (mem_or_mem_of_mem_combineFrom hx).elim (hlt x) (by simp)
  | case3 p q b bs ih =>
    obtain ⟨hlt, hbs⟩ := List.pairwise_cons.1 hb
    refine sorted_edgeIf (ih ha hbs) fun x hx => ?_
    exact (mem_or_mem_of_mem_combineFrom hx).elim (by simp) (hlt x)
  | case4 p q a as b bs hab ih =>
    obtain ⟨hlt, has⟩ := List.pairwise_cons.1 ha
    refine sorted_edgeIf (ih has hb) fun x hx => ?_
    exact (mem_or_mem_of_mem_combineFrom hx).elim (hlt x) (forall_lt_of_lt_head hb hab x)
  | case5 p q a as b bs hab hba ih =>
    obtain ⟨hlt, hbs⟩ := List.pairwise_cons.1 hb
    refine sorted_edgeIf (ih ha hbs) fun x hx => ?_
    exact (mem_or_mem_of_mem_combineFrom hx).elim (forall_lt_of_lt_head ha hba x) (hlt x)
  | case6 p q a as b bs hab hba ih =>
    obtain ⟨hlta, has⟩ := List.pairwise_cons.1 ha
    obtain ⟨hltb, hbs⟩ := List.pairwise_cons.1 hb
    refine sorted_edgeIf (ih has hbs) fun x hx => ?_
    obtain rfl : a = b := by omega
    exact (mem_or_mem_of_mem_combineFrom hx).elim (hlta x) (hltb x)

/-- The combination of two sets by a truth function that is false of two absences. -/
def combine (f : Bool → Bool → Bool) (s t : CharSet) : CharSet :=
  ⟨combineFrom f false false s.edges t.edges, sorted_combineFrom f s.sorted t.sorted⟩

/-- The characters of either set. -/
def union (s t : CharSet) : CharSet := combine (· || ·) s t

/-- The characters of both sets. -/
def inter (s t : CharSet) : CharSet := combine (· && ·) s t

/-- The characters of the first set that are not in the second. -/
def diff (s t : CharSet) : CharSet := combine (fun p q => p && !q) s t

/-- The characters of exactly one of two sets. -/
def symmDiff (s t : CharSet) : CharSet := combine (· != ·) s t

/-- The edges with membership changed from the start on. -/
def complEdges : List Nat → List Nat
  | 0 :: es => es
  | es => 0 :: es

theorem sorted_complEdges {es : List Nat} (h : es.Pairwise (· < ·)) :
    (complEdges es).Pairwise (· < ·) := by
  cases es with
  | nil => exact List.pairwise_singleton _ 0
  | cons e es =>
    cases e with
    | zero => exact (List.pairwise_cons.1 h).2
    | succ e => exact List.pairwise_cons.2 ⟨forall_lt_of_lt_head h (Nat.succ_pos e), h⟩

/-- The characters outside a set. -/
def compl (s : CharSet) : CharSet := ⟨complEdges s.edges, sorted_complEdges s.sorted⟩

/-- The union of several sets. -/
def unions (ss : List CharSet) : CharSet := ss.foldl union empty

/-- The set of the code points in a list of ranges. -/
def ofRanges (rs : List (Nat × Nat)) : CharSet := unions (rs.map fun r => range r.1 r.2)

/-! ## Sets of points -/

/-- The edges of a list of code points in order, of which `lo` to `hi` are read already. -/
def pointEdges : Nat → Nat → List Nat → List Nat
  | lo, hi, [] => [lo, hi + 1]
  | lo, hi, n :: ns =>
    if n ≤ hi + 1 then pointEdges lo (max hi n) ns else lo :: (hi + 1) :: pointEdges n n ns

theorem sorted_pointEdges {lo hi : Nat} (h : lo ≤ hi) (ns : List Nat) :
    (∀ e ∈ pointEdges lo hi ns, lo ≤ e) ∧ (pointEdges lo hi ns).Pairwise (· < ·) := by
  induction ns generalizing lo hi with
  | nil =>
    refine ⟨?_, List.pairwise_pair.2 (Nat.lt_succ_of_le h)⟩
    intro e he
    simp only [pointEdges, List.mem_cons, List.not_mem_nil, or_false] at he
    omega
  | cons n ns ih =>
    rw [pointEdges]
    by_cases hn : n ≤ hi + 1
    · rw [if_pos hn]
      exact ih (by omega)
    · rw [if_neg hn]
      obtain ⟨hle, hrest⟩ := ih (Nat.le_refl n)
      refine ⟨?_, ?_⟩
      · intro e he
        rcases List.mem_cons.1 he with rfl | he
        · exact Nat.le_refl e
        · rcases List.mem_cons.1 he with rfl | he
          · omega
          · have := hle e he
            omega
      · refine List.pairwise_cons.2 ⟨?_, List.pairwise_cons.2 ⟨?_, hrest⟩⟩
        · intro e he
          rcases List.mem_cons.1 he with rfl | he
          · omega
          · have := hle e he
            omega
        · intro e he
          have := hle e he
          omega

/-- Puts a code point at its place in a list in order. -/
def placePoint (n : Nat) : List Nat → List Nat
  | [] => [n]
  | m :: ms => if n ≤ m then n :: m :: ms else m :: placePoint n ms

/-- The set of the code points in a list. -/
def ofPoints (ns : List Nat) : CharSet :=
  match ns.foldr placePoint [] with
  | [] => empty
  | n :: ns => ⟨pointEdges n n ns, (sorted_pointEdges (Nat.le_refl n) ns).2⟩

/-- Whether a set holds characters of ASCII only. -/
def isAscii (s : CharSet) : Bool := !s.holds 0x10FFFF && s.edges.all (· ≤ 0x80)

/-! ## Membership -/

theorem contains_empty (c : Char) : empty.contains c = false := rfl

theorem contains_full (c : Char) : full.contains c = true := by
  simp [contains, holds, full, inside]

theorem contains_single (c d : Char) : (single c).contains d = true ↔ d = c := by
  have hrange : (single c).edges = [c.toNat, c.toNat + 1] := by
    rw [single, range, dif_pos (Nat.le_refl _)]
  rw [contains, holds, hrange]
  constructor
  · intro h
    have heq : d.toNat = c.toNat := by
      unfold inside at h
      split at h
      · cases h
      · unfold inside at h
        split at h
        · omega
        · cases h
    exact Char.toNat_inj.1 heq
  · rintro rfl
    simp [inside]

theorem inside_not (b : Bool) (es : List Nat) (n : Nat) :
    inside (!b) es n = !inside b es n := by
  induction es generalizing b with
  | nil => rfl
  | cons e es ih =>
    unfold inside
    split
    · rfl
    · exact ih _

theorem inside_complEdges (es : List Nat) (n : Nat) :
    inside false (complEdges es) n = !inside false es n := by
  have hzero : ∀ es, inside false (0 :: es) n = inside true es n := fun es => by
    simp [inside]
  cases es with
  | nil => exact hzero []
  | cons e es =>
    cases e with
    | zero =>
      show inside false es n = !inside false (0 :: es) n
      rw [hzero, ← inside_not]
      rfl
    | succ e => exact (hzero _).trans (inside_not false _ n)

theorem holds_compl (s : CharSet) (n : Nat) : s.compl.holds n = !s.holds n :=
  inside_complEdges s.edges n

theorem contains_compl (s : CharSet) (c : Char) : s.compl.contains c = !s.contains c :=
  holds_compl s c.toNat

/-- A walk that has not reached its first edge has not changed. -/
theorem inside_of_forall_lt {b : Bool} {es : List Nat} {n : Nat} (h : ∀ e ∈ es, n < e) :
    inside b es n = b := by
  cases es with
  | nil => rfl
  | cons e es => simp [inside, h e (by simp)]

theorem inside_edgeIf_of_le {p p' : Bool} {e n : Nat} {rest : List Nat} (h : e ≤ n) :
    inside p (edgeIf (p != p') e rest) n = inside p' rest n := by
  unfold edgeIf
  cases p <;> cases p' <;> simp [inside, Nat.not_lt.2 h]

theorem inside_combineFrom_of_lt (f : Bool → Bool → Bool) {p q : Bool} {as bs : List Nat} {n : Nat}
    (ha : ∀ e ∈ as, n < e) (hb : ∀ e ∈ bs, n < e) :
    inside (f p q) (combineFrom f p q as bs) n = f (inside p as n) (inside q bs n) := by
  rw [inside_of_forall_lt ha, inside_of_forall_lt hb, inside_of_forall_lt]
  intro e he
  exact (mem_or_mem_of_mem_combineFrom he).elim (ha e) (hb e)

theorem inside_cons_of_le {b : Bool} {e n : Nat} {es : List Nat} (h : e ≤ n) :
    inside b (e :: es) n = inside (!b) es n := by
  simp [inside, Nat.not_lt.2 h]

/-- A combination holds a character as the truth function says of its parts. -/
theorem inside_combineFrom (f : Bool → Bool → Bool) {p q : Bool} {as bs : List Nat} {n : Nat}
    (ha : as.Pairwise (· < ·)) (hb : bs.Pairwise (· < ·)) :
    inside (f p q) (combineFrom f p q as bs) n = f (inside p as n) (inside q bs n) := by
  by_cases hn : (∀ e ∈ as, n < e) ∧ ∀ e ∈ bs, n < e
  · exact inside_combineFrom_of_lt f hn.1 hn.2
  · fun_induction combineFrom f p q as bs with
    | case1 => rfl
    | case2 p q a as ih =>
      have hle : a ≤ n := Nat.not_lt.1 fun h => hn ⟨forall_lt_of_lt_head ha h, by simp⟩
      rw [inside_edgeIf_of_le hle, inside_cons_of_le hle]
      by_cases h : ∀ e ∈ as, n < e
      · exact inside_combineFrom_of_lt f h (by simp)
      · exact ih (List.pairwise_cons.1 ha).2 hb (fun hh => h hh.1)
    | case3 p q b bs ih =>
      have hle : b ≤ n := Nat.not_lt.1 fun h => hn ⟨by simp, forall_lt_of_lt_head hb h⟩
      rw [inside_edgeIf_of_le hle, inside_cons_of_le hle]
      by_cases h : ∀ e ∈ bs, n < e
      · exact inside_combineFrom_of_lt f (by simp) h
      · exact ih ha (List.pairwise_cons.1 hb).2 (fun hh => h hh.2)
    | case4 p q a as b bs hab ih =>
      have hle : a ≤ n := Nat.not_lt.1 fun h =>
        hn ⟨forall_lt_of_lt_head ha h, forall_lt_of_lt_head hb (Nat.lt_trans h hab)⟩
      rw [inside_edgeIf_of_le hle, inside_cons_of_le hle]
      by_cases h : (∀ e ∈ as, n < e) ∧ ∀ e ∈ b :: bs, n < e
      · exact inside_combineFrom_of_lt f h.1 h.2
      · exact ih (List.pairwise_cons.1 ha).2 hb h
    | case5 p q a as b bs hab hba ih =>
      have hle : b ≤ n := Nat.not_lt.1 fun h =>
        hn ⟨forall_lt_of_lt_head ha (Nat.lt_trans h hba), forall_lt_of_lt_head hb h⟩
      rw [inside_edgeIf_of_le hle, @inside_cons_of_le q b n bs hle]
      by_cases h : (∀ e ∈ a :: as, n < e) ∧ ∀ e ∈ bs, n < e
      · exact inside_combineFrom_of_lt f h.1 h.2
      · exact ih ha (List.pairwise_cons.1 hb).2 h
    | case6 p q a as b bs hab hba ih =>
      have heq : a = b := by omega
      subst heq
      have hle : a ≤ n := Nat.not_lt.1 fun h =>
        hn ⟨forall_lt_of_lt_head ha h, forall_lt_of_lt_head hb h⟩
      rw [inside_edgeIf_of_le hle, @inside_cons_of_le p a n as hle,
        @inside_cons_of_le q a n bs hle]
      by_cases h : (∀ e ∈ as, n < e) ∧ ∀ e ∈ bs, n < e
      · exact inside_combineFrom_of_lt f h.1 h.2
      · exact ih (List.pairwise_cons.1 ha).2 (List.pairwise_cons.1 hb).2 h

/-! ## Membership in combinations -/

theorem holds_combine {f : Bool → Bool → Bool} (hf : f false false = false) (s t : CharSet)
    (n : Nat) : (combine f s t).holds n = f (s.holds n) (t.holds n) := by
  have h := inside_combineFrom f (n := n) (p := false) (q := false) s.sorted t.sorted
  rwa [hf] at h

theorem holds_union (s t : CharSet) (n : Nat) :
    (s.union t).holds n = (s.holds n || t.holds n) := holds_combine rfl s t n

theorem holds_inter (s t : CharSet) (n : Nat) :
    (s.inter t).holds n = (s.holds n && t.holds n) := holds_combine rfl s t n

theorem holds_diff (s t : CharSet) (n : Nat) :
    (s.diff t).holds n = (s.holds n && !t.holds n) := holds_combine rfl s t n

theorem holds_symmDiff (s t : CharSet) (n : Nat) :
    (s.symmDiff t).holds n = (s.holds n != t.holds n) := holds_combine rfl s t n

theorem holds_unions (ss : List CharSet) (n : Nat) :
    (unions ss).holds n = ss.any fun s => s.holds n := by
  have hfold : ∀ t : CharSet, (ss.foldl union t).holds n =
      (t.holds n || ss.any fun s => s.holds n) := by
    induction ss with
    | nil => simp
    | cons s ss ih =>
      intro t
      rw [List.foldl_cons, ih, holds_union, List.any_cons, Bool.or_assoc]
  exact hfold empty

theorem holds_range (lo hi n : Nat) : (range lo hi).holds n = decide (lo ≤ n ∧ n ≤ hi) := by
  unfold range holds
  by_cases h : lo ≤ hi
  · rw [dif_pos h]
    simp only [inside]
    grind
  · rw [dif_neg h]
    simp only [empty, inside]
    grind

/-! ## Membership in sets of points -/

theorem mem_placePoint (n m : Nat) (ms : List Nat) : m ∈ placePoint n ms ↔ m = n ∨ m ∈ ms := by
  induction ms with
  | nil => simp [placePoint]
  | cons k ms ih =>
    rw [placePoint]
    split
    · simp
    · simp only [List.mem_cons, ih]
      grind

theorem sorted_placePoint (n : Nat) {ms : List Nat} (h : ms.Pairwise (· ≤ ·)) :
    (placePoint n ms).Pairwise (· ≤ ·) := by
  induction ms with
  | nil => exact List.pairwise_singleton _ n
  | cons m ms ih =>
    obtain ⟨hle, hms⟩ := List.pairwise_cons.1 h
    rw [placePoint]
    by_cases hn : n ≤ m
    · rw [if_pos hn]
      refine List.pairwise_cons.2 ⟨fun x hx => ?_, h⟩
      rcases List.mem_cons.1 hx with rfl | hx
      · exact hn
      · exact Nat.le_trans hn (hle x hx)
    · rw [if_neg hn]
      refine List.pairwise_cons.2 ⟨fun x hx => ?_, ih hms⟩
      rcases (mem_placePoint n x ms).1 hx with rfl | hx
      · omega
      · exact hle x hx

/-- The edges of points in order enclose these points and those between `lo` and `hi`. -/
theorem inside_pointEdges {lo hi : Nat} (h : lo ≤ hi) {ns : List Nat} (hns : ns.Pairwise (· ≤ ·))
    (hlo : ∀ n ∈ ns, lo ≤ n) (x : Nat) :
    inside false (pointEdges lo hi ns) x = true ↔ (lo ≤ x ∧ x ≤ hi) ∨ x ∈ ns := by
  induction ns generalizing lo hi with
  | nil =>
    simp only [pointEdges, inside, List.not_mem_nil, or_false]
    grind
  | cons n ns ih =>
    obtain ⟨hle, hrest⟩ := List.pairwise_cons.1 hns
    have hn := hlo n List.mem_cons_self
    rw [pointEdges, List.mem_cons]
    by_cases hnear : n ≤ hi + 1
    · rw [if_pos hnear, ih (by omega) hrest fun m hm => hlo m (List.mem_cons_of_mem n hm)]
      grind
    · rw [if_neg hnear]
      have hfar := ih (Nat.le_refl n) hrest hle
      simp only [inside, Bool.not_false, Bool.not_true]
      grind

theorem holds_ofPoints (ns : List Nat) (x : Nat) : (ofPoints ns).holds x = true ↔ x ∈ ns := by
  have hmem : x ∈ ns.foldr placePoint [] ↔ x ∈ ns := by
    induction ns with
    | nil => rfl
    | cons n ns ih => rw [List.foldr_cons, mem_placePoint, ih, List.mem_cons]
  have hsorted : (ns.foldr placePoint []).Pairwise (· ≤ ·) := by
    clear hmem
    induction ns with
    | nil => exact .nil
    | cons n ns ih => exact sorted_placePoint n ih
  rw [← hmem, ofPoints]
  cases hplaced : ns.foldr placePoint [] with
  | nil => simp [holds, empty, inside]
  | cons m ms =>
    rw [hplaced] at hsorted
    obtain ⟨hle, hms⟩ := List.pairwise_cons.1 hsorted
    show inside false (pointEdges m m ms) x = true ↔ _
    rw [inside_pointEdges (Nat.le_refl m) hms hle, List.mem_cons]
    grind

end CharSet

end FeatureScan
