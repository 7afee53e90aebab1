import FeatureScan.Pattern.Node

/-!
# Searching

The positions at which matches end that begin at given positions, as lists in increasing order.
Every operation works on all positions at once, so that no position is looked at twice for the same
part of a pattern.

## Main results

* `mem_merge`: merging two lists of positions forgets none and invents none.
* `mem_reach_chars`: a set of characters leads exactly one position on.
-/

namespace FeatureScan.Pattern

/-- Merges two increasing lists of positions onto the reverse of what is merged already. -/
def mergeOnto : List Nat → List Nat → List Nat → List Nat
  | acc, [], bs => acc.reverseAux bs
  | acc, as, [] => acc.reverseAux as
  | acc, a :: as, b :: bs =>
    if a < b then mergeOnto (a :: acc) as (b :: bs)
    else if b < a then mergeOnto (b :: acc) (a :: as) bs
    else mergeOnto (a :: acc) as bs
  termination_by _ as bs => as.length + bs.length

/-- The positions of either list, in increasing order. -/
def merge (as bs : List Nat) : List Nat := mergeOnto [] as bs

theorem mem_mergeOnto {x : Nat} (acc as bs : List Nat) :
    x ∈ mergeOnto acc as bs ↔ x ∈ acc ∨ x ∈ as ∨ x ∈ bs := by
  fun_induction mergeOnto acc as bs with
  | case1 acc bs => simp [List.reverseAux_eq]
  | case2 acc as => simp [List.reverseAux_eq]
  | case3 acc a as b bs h ih => rw [ih]; simp only [List.mem_cons]; grind
  | case4 acc a as b bs h h' ih => rw [ih]; simp only [List.mem_cons]; grind
  | case5 acc a as b bs h h' ih =>
    obtain rfl : a = b := by omega
    rw [ih]
    simp only [List.mem_cons]
    grind

theorem mem_merge {x : Nat} (as bs : List Nat) : x ∈ merge as bs ↔ x ∈ as ∨ x ∈ bs := by
  simpa [merge] using mem_mergeOnto [] as bs

/-- Puts those positions of an increasing list that are not in another one onto the reverse of those
found already. -/
def lessOnto : List Nat → List Nat → List Nat → List Nat
  | acc, [], _ => acc.reverse
  | acc, as, [] => acc.reverseAux as
  | acc, a :: as, b :: bs =>
    if a < b then lessOnto (a :: acc) as (b :: bs)
    else if b < a then lessOnto acc (a :: as) bs
    else lessOnto acc as bs
  termination_by _ as bs => as.length + bs.length

/-- The positions of an increasing list that are not in another one. -/
def less (as bs : List Nat) : List Nat := lessOnto [] as bs

/-- Moves the positions below a bound from the front of a list to the reverse of those passed. -/
def passBelow (bound : Nat) : List Nat → List Nat → List Nat × List Nat
  | passed, [] => (passed, [])
  | passed, p :: ps => if p < bound then passBelow bound (p :: passed) ps else (passed, p :: ps)

/-- Takes a step `n` times; once nothing is left, nothing comes back. -/
def times (step : List Nat → List Nat) : Nat → List Nat → List Nat
  | 0, ps => ps
  | n + 1, ps => if ps.isEmpty then [] else times step n (step ps)

/-- Takes a step up to `n` times, and stops when that leads to no new position. -/
def upTo (step : List Nat → List Nat) : Nat → List Nat → List Nat
  | 0, ps => ps
  | n + 1, ps =>
    let wider := merge ps (step ps)
    if wider.length == ps.length then ps else upTo step n wider

/-- Takes a step any number of times. Steps never lead back, so the lowest position that waits is
done with once it has been stepped from; `room` bounds how many there can be. -/
def sweep (step : List Nat → List Nat) : Nat → List Nat → List Nat → List Nat
  | 0, done, waiting => done.reverse ++ waiting
  | _ + 1, done, [] => done.reverse
  | room + 1, done, p :: ps =>
    sweep step room (p :: done) (merge ((step [p]).filter (p < ·)) ps)

/-- Takes a step any number of times, from all positions that are new at once. Steps never lead
back, so positions below all new ones are passed for good; `room` bounds how often there is a new
one. -/
def spread (step : List Nat → List Nat) : Nat → List Nat → List Nat → List Nat → List Nat
  | 0, passed, found, _ => passed.reverseAux found
  | room + 1, passed, found, fresh =>
    match less (step fresh) found with
    | [] => passed.reverseAux found
    | q :: qs =>
      let (passed, found) := passBelow q passed (merge found (q :: qs))
      spread step room passed found (q :: qs)

/-- The position behind a character of a set. -/
def past? (s : Subject) (set : CharSet) (p : Nat) : Option Nat :=
  match s.after? p with
  | some c => if set.contains c then some (p + 1) else none
  | none => none

/-- Whether a step of a node may lead to any number of positions. -/
def Node.isUnbounded : Node → Bool
  | .empty | .chars _ | .look _ => false
  | .seq a b | .alt a b => a.isUnbounded || b.isUnbounded
  | .group a => a.isUnbounded
  | .many _ max a => max.isNone || a.isUnbounded

/-- The positions at which matches end that begin at one of the given positions. -/
def Node.reach (s : Subject) : Node → List Nat → List Nat
  | .empty, ps => ps
  | .chars set, ps => ps.filterMap (past? s set)
  | .look l, ps => ps.filter (l.holds s)
  | .seq a b, ps =>
    match a.reach s ps with
    | [] => []
    | qs => b.reach s qs
  | .alt a b, ps => merge (a.reach s ps) (b.reach s ps)
  | .group a, ps => a.reach s ps
  | .many min max a, ps =>
    let first := times (a.reach s) min ps
    match max with
    | some n => upTo (a.reach s) (n - min) first
    | none =>
      if a.isUnbounded then spread (a.reach s) (s.chars.size + 1) [] first first
      else sweep (a.reach s) (s.chars.size + 1) [] first

/-- Whether there is a match anywhere in a subject. -/
def Node.occursIn (n : Node) (s : Subject) : Bool := !(n.reach s s.positions).isEmpty

theorem mem_reach_chars {s : Subject} {set : CharSet} {ps : List Nat} {q : Nat} :
    q ∈ (Node.chars set).reach s ps ↔
      ∃ p ∈ ps, ∃ c, s.after? p = some c ∧ set.contains c = true ∧ q = p + 1 := by
  unfold Node.reach past?
  simp only [List.mem_filterMap]
  constructor
  · rintro ⟨p, hp, h⟩
    split at h
    · next c hc => exact ⟨p, hp, c, hc, by grind⟩
    · simp at h
  · rintro ⟨p, hp, c, hc, hset, rfl⟩
    exact ⟨p, hp, by simp [hc, hset]⟩

end FeatureScan.Pattern
