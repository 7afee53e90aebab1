import FeatureScan.Pattern.Escape
import FeatureScan.Proofs.Text.CaseBlind

/-!
# Sets that do not tell a capital from its small letter

A set with all variants of its characters holds a letter of ASCII if it holds the other form of the
letter, whatever set it was made from. The tables of case folding matter for this at one row only:
the first one folds the capitals, no other holds a letter of ASCII, and nothing folds to a capital.

## Main results

* `caseBlind_foldedSet`, `caseBlind_foldedChar`: sets with all variants.
* `caseBlind_perlClass`: the classes of digits, white space and word characters.
-/

namespace FeatureScan

open Text

namespace CharSet

/-- Whether a set holds a capital exactly if it holds the small letter. -/
def CaseBlind (s : CharSet) : Prop := ∀ n, 65 ≤ n → n ≤ 90 → s.holds (n + 32) = s.holds n

/-- Such a set answers alike for a character and its small letter. -/
theorem CaseBlind.ignoresCase {s : CharSet} (h : s.CaseBlind) : IgnoresCase s.contains := by
  intro c
  by_cases hc : 'A' ≤ c ∧ c ≤ 'Z'
  · rw [contains, contains, toNat_lowerChar_of_upper hc]
    exact h c.toNat hc.1 hc.2
  · rw [lowerChar, if_neg hc]

theorem CaseBlind.compl {s : CharSet} (h : s.CaseBlind) : s.compl.CaseBlind := by
  intro n hlo hhi
  rw [holds_compl, holds_compl, h n hlo hhi]

theorem CaseBlind.union {s t : CharSet} (hs : s.CaseBlind) (ht : t.CaseBlind) :
    (s.union t).CaseBlind := by
  intro n hlo hhi
  rw [holds_union, holds_union, hs n hlo hhi, ht n hlo hhi]

/-- What is the same for all letters of ASCII is blind. -/
theorem caseBlind_of_const {s : CharSet} {b : Bool}
    (h : ∀ i < 26, s.holds (i + 65) = b ∧ s.holds (i + 97) = b) : s.CaseBlind := by
  intro n hlo hhi
  obtain ⟨hcapital, hsmall⟩ := h (n - 65) (by omega)
  rw [show n + 32 = n - 65 + 97 by omega, hsmall, ← hcapital]
  congr 1
  omega

end CharSet

namespace Unicode

/-! ## The rows of the tables -/

theorem lt_first_add_offset : ∀ r ∈ foldRows, (90 : Int) < r.first + r.offset := by decide +kernel

/-- A row that starts up to the small letters is the row of the capitals. -/
theorem eq_of_first_le : ∀ r ∈ foldRows, r.first ≤ 122 →
    r.first = 65 ∧ r.count = 26 ∧ r.stride = 1 ∧ r.offset = 32 := by decide +kernel

/-- The row of the capitals. -/
def capitals : FoldRow := ⟨65, 26, 1, 32⟩

theorem capitals_mem : capitals ∈ foldRows := List.mem_cons_self

theorem FoldRow.first_le_of_mem {r : FoldRow} {m : Nat} (h : m ∈ r.members) : r.first ≤ m := by
  obtain ⟨i, -, rfl⟩ := List.mem_map.1 h
  exact Nat.le_add_right _ _

/-- Nothing folds to a capital. -/
theorem lt_apply {r : FoldRow} (hr : r ∈ foldRows) {m : Nat} (hm : r.first ≤ m) :
    90 < r.apply m := by
  have := lt_first_add_offset r hr
  unfold FoldRow.apply
  omega

/-- Of the letters of ASCII only the capitals fold. -/
theorem apply_of_letter {r : FoldRow} (hr : r ∈ foldRows) {m : Nat} (hm : m ∈ r.members)
    (hle : m ≤ 122) : m ≤ 90 ∧ r.apply m = m + 32 := by
  obtain ⟨hfirst, hcount, hstride, hoffset⟩ :=
    eq_of_first_le r hr (Nat.le_trans (FoldRow.first_le_of_mem hm) hle)
  obtain ⟨i, hi, rfl⟩ := List.mem_map.1 hm
  have hlt := List.mem_range.1 hi
  unfold FoldRow.apply
  rw [hfirst, hstride, hoffset]
  rw [hcount] at hlt
  omega

theorem mem_capitals {n : Nat} (hlo : 65 ≤ n) (hhi : n ≤ 90) : n ∈ capitals.members :=
  List.mem_map.2 ⟨n - 65, List.mem_range.2 (show n - 65 < 26 by omega),
    show 65 + (n - 65) * 1 = n by omega⟩

theorem apply_capitals (n : Nat) : capitals.apply n = n + 32 := by
  show ((n : Int) + 32).toNat = n + 32
  omega

/-! ## Sets with all variants -/

theorem mem_foldSteps {rule : FoldRow → Nat → Option Nat} {x : Nat} :
    x ∈ foldSteps rule ↔ ∃ r ∈ foldRows, ∃ m ∈ r.members, rule r m = some x := by
  simp only [foldSteps, List.mem_flatMap, List.mem_filterMap]

/-- A set with what its characters fold to. -/
def withTargets (s : CharSet) : CharSet :=
  s.union (.ofPoints (foldSteps fun r n => if s.holds n then some (r.apply n) else none))

theorem holds_withTargets (s : CharSet) (x : Nat) :
    (withTargets s).holds x = true ↔
      s.holds x = true ∨ ∃ r ∈ foldRows, ∃ m ∈ r.members, s.holds m = true ∧ r.apply m = x := by
  rw [withTargets, CharSet.holds_union, Bool.or_eq_true, CharSet.holds_ofPoints, mem_foldSteps]
  simp only [Option.ite_none_right_eq_some, Option.some.injEq]

theorem holds_foldedSet (s : CharSet) (x : Nat) :
    (foldedSet s).holds x = true ↔
      (withTargets s).holds x = true ∨
        ∃ r ∈ foldRows, x ∈ r.members ∧ (withTargets s).holds (r.apply x) = true := by
  have hunion : foldedSet s = (withTargets s).union (.ofPoints (foldSteps fun r n =>
      if (withTargets s).holds (r.apply n) then some n else none)) := rfl
  rw [hunion, CharSet.holds_union, Bool.or_eq_true, CharSet.holds_ofPoints, mem_foldSteps]
  simp only [Option.ite_none_right_eq_some, Option.some.injEq]
  apply or_congr Iff.rfl
  constructor
  · rintro ⟨r, hr, m, hm, hholds, rfl⟩
    exact ⟨r, hr, hm, hholds⟩
  · rintro ⟨r, hr, hm, hholds⟩
    exact ⟨r, hr, x, hm, hholds, rfl⟩

theorem holds_withTargets_capital {s : CharSet} {n : Nat} (hhi : n ≤ 90) :
    (withTargets s).holds n = true ↔ s.holds n = true := by
  rw [holds_withTargets]
  constructor
  · rintro (h | ⟨r, hr, m, hm, -, happly⟩)
    · exact h
    · have := lt_apply hr (FoldRow.first_le_of_mem hm)
      omega
  · exact Or.inl

/-- With all its variants a set does not tell a capital from its small letter. -/
theorem caseBlind_foldedSet (s : CharSet) : (foldedSet s).CaseBlind := by
  intro n hlo hhi
  have hmem := mem_capitals hlo hhi
  -- both letters are in the set if what the capital folds to is in it with the targets
  have hsmall : (foldedSet s).holds (n + 32) = true ↔ (withTargets s).holds (n + 32) = true := by
    rw [holds_foldedSet]
    constructor
    · rintro (h | ⟨r, hr, hm, -⟩)
      · exact h
      · have := (apply_of_letter hr hm (by omega)).1
        omega
    · exact Or.inl
  have hcapital : (foldedSet s).holds n = true ↔ (withTargets s).holds (n + 32) = true := by
    rw [holds_foldedSet]
    constructor
    · rintro (h | ⟨r, hr, hm, h⟩)
      · exact (holds_withTargets s (n + 32)).2 (Or.inr ⟨capitals, capitals_mem, n, hmem,
          (holds_withTargets_capital hhi).1 h, apply_capitals n⟩)
      · rwa [(apply_of_letter hr hm (by omega)).2] at h
    · intro h
      exact Or.inr ⟨capitals, capitals_mem, hmem, by rwa [apply_capitals]⟩
  rw [Bool.eq_iff_iff, hsmall, hcapital]

/-! ## Single characters -/

theorem FoldRow.mem_of_holds {r : FoldRow} {n : Nat} (h : r.holds n = true) : n ∈ r.members := by
  simp only [FoldRow.holds, Bool.and_eq_true, decide_eq_true_eq, beq_iff_eq] at h
  obtain ⟨⟨hle, hmod⟩, hlt⟩ := h
  refine List.mem_map.2 ⟨(n - r.first) / r.stride, List.mem_range.2 hlt, ?_⟩
  have := Nat.div_mul_cancel (Nat.dvd_of_mod_eq_zero hmod)
  omega

theorem holds_capitals {n : Nat} (hlo : 65 ≤ n) (hhi : n ≤ 90) : capitals.holds n = true := by
  show (decide (65 ≤ n) && (n - 65) % 1 == 0 && decide ((n - 65) / 1 < 26)) = true
  rw [Nat.mod_one, Nat.div_one, Bool.and_eq_true, Bool.and_eq_true, decide_eq_true_eq,
    decide_eq_true_eq]
  exact ⟨⟨hlo, rfl⟩, by omega⟩

/-- No character folds to a capital. -/
theorem fold_capital {n k : Nat} (hlo : 65 ≤ k) (hhi : k ≤ 90) : fold n ≠ k := by
  unfold fold
  split
  · rename_i r hr
    have hholds : r.holds n = true := by simpa using List.find?_some hr
    have := lt_apply (List.mem_of_find?_eq_some hr)
      (FoldRow.first_le_of_mem (FoldRow.mem_of_holds hholds))
    omega
  · rename_i hnone
    rintro rfl
    have := List.find?_eq_none.1 hnone capitals capitals_mem
    exact this (holds_capitals hlo hhi)

theorem mem_foldSources {n m : Nat} :
    m ∈ foldSources n ↔ ∃ r ∈ foldRows, m = ((n : Int) - r.offset).toNat ∧ r.holds m = true ∧
      r.apply m = n := by
  simp only [foldSources, List.mem_filterMap, Option.ite_none_right_eq_some, Option.some.injEq,
    Bool.and_eq_true, beq_iff_eq]
  constructor
  · rintro ⟨r, hr, ⟨hholds, happly⟩, rfl⟩
    exact ⟨r, hr, rfl, hholds, happly⟩
  · rintro ⟨r, hr, rfl, hholds, happly⟩
    exact ⟨r, hr, ⟨hholds, happly⟩, rfl⟩

/-- With its variants a character does not tell a capital from its small letter. -/
theorem caseBlind_foldedChar (c : Char) : (foldedChar c).CaseBlind := by
  intro k hlo hhi
  have hsmall : k + 32 ∈ variants c.toNat ↔ fold c.toNat = k + 32 := by
    rw [variants, List.mem_cons, mem_foldSources]
    constructor
    · rintro (h | ⟨r, hr, -, hholds, -⟩)
      · exact h.symm
      · have := (apply_of_letter hr (FoldRow.mem_of_holds hholds) (by omega)).1
        omega
    · intro h
      exact Or.inl h.symm
  have hcapital : k ∈ variants c.toNat ↔ fold c.toNat = k + 32 := by
    rw [variants, List.mem_cons, mem_foldSources]
    constructor
    · rintro (h | ⟨r, hr, -, hholds, happly⟩)
      · exact absurd h.symm (fold_capital hlo hhi)
      · rw [← happly, (apply_of_letter hr (FoldRow.mem_of_holds hholds) (by omega)).2]
    · intro h
      refine Or.inr ⟨capitals, capitals_mem, ?_, holds_capitals hlo hhi, ?_⟩
      · rw [h]
        show k = (((k + 32 : Nat) : Int) - 32).toNat
        omega
      · rw [apply_capitals, h]
  rw [foldedChar, Bool.eq_iff_iff, CharSet.holds_ofPoints, CharSet.holds_ofPoints, hsmall,
    hcapital]

/-! ## Classes -/

theorem caseBlind_wordChars : wordChars.CaseBlind := by
  have hletters : ∀ i < 26, (category "lu").holds (i + 65) = true ∧
      (category "ll").holds (i + 97) = true := by decide +kernel
  have hword : ∀ n, ((category "lu").holds n || (category "ll").holds n) = true →
      wordChars.holds n = true := by
    intro n hn
    rw [wordChars, CharSet.holds_unions, List.any_cons, alphabetic, CharSet.holds_unions,
      List.any_cons, List.any_cons, lowercase, uppercase, CharSet.holds_union,
      CharSet.holds_union]
    rcases Bool.or_eq_true_iff.1 hn with h | h <;> simp only [h, Bool.true_or, Bool.or_true]
  apply CharSet.caseBlind_of_const (b := true)
  intro i hi
  obtain ⟨hcapital, hsmall⟩ := hletters i hi
  exact ⟨hword _ (by rw [hcapital, Bool.true_or]), hword _ (by rw [hsmall, Bool.or_true])⟩

theorem caseBlind_digitChars : digitChars.CaseBlind :=
  CharSet.caseBlind_of_const (b := false) (by decide +kernel)

theorem caseBlind_blankChars : blankChars.CaseBlind :=
  CharSet.caseBlind_of_const (b := false) (by decide +kernel)

end Unicode

end FeatureScan
