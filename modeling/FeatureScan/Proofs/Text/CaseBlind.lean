import FeatureScan.Text.Ascii
import FeatureScan.Text.Blank

/-!
# What does not depend on case

A function of characters ignores case if it gives the same for a capital and for its small letter.
There are 26 capitals, so for a given function this is a finite check. Texts are alike if they are
the same in small letters.

## Main results

* `ignoresCase_of_capitals`: only the capitals need to be checked.
* `lowerChar_eq_iff`: a sign that is no letter has no other form.
* `trim_map`: what is trimmed off a text does not depend on case.
-/

namespace FeatureScan.Text

variable {α β : Type}

/-- A function that gives the same for a capital and for its small letter. -/
def IgnoresCase (f : Char → α) : Prop := ∀ c, f (lowerChar c) = f c

theorem ignoresCase_of_capitals {f : Char → α}
    (h : ∀ n < 26, f (Char.ofNat (65 + n + 32)) = f (Char.ofNat (65 + n))) : IgnoresCase f := by
  intro c
  by_cases hc : 'A' ≤ c ∧ c ≤ 'Z'
  · have hlo : 65 ≤ c.toNat := hc.1
    have hhi : c.toNat ≤ 90 := hc.2
    have hcapital := h (c.toNat - 65) (by omega)
    rw [show 65 + (c.toNat - 65) = c.toNat by omega, Char.ofNat_toNat] at hcapital
    rw [lowerChar, if_pos hc]
    exact hcapital
  · rw [lowerChar, if_neg hc]

theorem IgnoresCase.comp {f : Char → α} (hf : IgnoresCase f) (k : α → β) :
    IgnoresCase fun c => k (f c) := by
  intro c
  show k (f (lowerChar c)) = k (f c)
  rw [hf]

/-- Signs and small letters, by a look at each of them. -/
theorem small_of_all {cs : List Char} (h : (cs.all fun c => lowerChar c == c) = true) :
    ∀ c ∈ cs, lowerChar c = c :=
  fun c hc => beq_iff_eq.1 (List.all_eq_true.1 h c hc)

/-- What ignores case is the same for characters with the same small letter. -/
theorem IgnoresCase.eq_of_lowerChar_eq {f : Char → α} (hf : IgnoresCase f) {c d : Char}
    (h : lowerChar c = lowerChar d) : f c = f d := by
  rw [← hf c, h, hf d]

theorem ignoresCase_beq {d : Char} (hd : d.isAlpha = false) : IgnoresCase (· == d) := by
  have hletters : ∀ n < 26, (Char.ofNat (65 + n + 32)).isAlpha = true ∧
      (Char.ofNat (65 + n)).isAlpha = true := by decide
  apply ignoresCase_of_capitals
  intro n hn
  have hsmall : Char.ofNat (65 + n + 32) ≠ d := by
    intro h
    rw [← h, (hletters n hn).1] at hd
    cases hd
  have hcapital : Char.ofNat (65 + n) ≠ d := by
    intro h
    rw [← h, (hletters n hn).2] at hd
    cases hd
  show (Char.ofNat (65 + n + 32) == d) = (Char.ofNat (65 + n) == d)
  rw [beq_eq_false_iff_ne.2 hsmall, beq_eq_false_iff_ne.2 hcapital]

theorem lowerChar_beq {d : Char} (hd : d.isAlpha = false) (c : Char) :
    (lowerChar c == d) = (c == d) := ignoresCase_beq hd c

/-- A sign that is no letter has no other form. -/
theorem lowerChar_eq_iff {d : Char} (hd : d.isAlpha = false) (c : Char) :
    lowerChar c = d ↔ c = d := by
  have h := Bool.eq_iff_iff.1 (ignoresCase_beq hd c)
  rwa [beq_iff_eq, beq_iff_eq] at h

theorem ignoresCase_isBlank : IgnoresCase isBlank := ignoresCase_of_capitals (by decide)

/-! ## Texts -/

/-- Texts that are the same in small letters. -/
def Alike (cs ds : List Char) : Prop := cs.map lowerChar = ds.map lowerChar

theorem Alike.refl (cs : List Char) : Alike cs cs := rfl

theorem Alike.length_eq {cs ds : List Char} (h : Alike cs ds) : cs.length = ds.length := by
  have hlength := congrArg List.length h
  rwa [List.length_map, List.length_map] at hlength

/-- What ignores case is the same at each place of texts that are alike. -/
theorem Alike.any_getElem? {cs ds : List Char} (h : Alike cs ds) {f : Char → Bool}
    (hf : IgnoresCase f) (n : Nat) : cs[n]?.any f = ds[n]?.any f := by
  have hlower : ∀ es : List Char, (es.map lowerChar)[n]?.any f = es[n]?.any f := by
    intro es
    rw [List.getElem?_map, Option.any_map]
    congr 1
    exact funext hf
  rw [← hlower, h, hlower]

theorem Alike.cons {c d : Char} {cs ds : List Char} (hc : lowerChar c = lowerChar d)
    (h : Alike cs ds) : Alike (c :: cs) (d :: ds) := by
  rw [Alike, List.map_cons, List.map_cons, hc, h]

theorem Alike.reverse {cs ds : List Char} (h : Alike cs ds) : Alike cs.reverse ds.reverse := by
  rw [Alike, List.map_reverse, List.map_reverse, h]

theorem Alike.asciiLower_eq {cs ds : List Char} (h : Alike cs ds) :
    asciiLower (String.ofList cs) = asciiLower (String.ofList ds) := by
  rw [asciiLower, asciiLower, String.toList_ofList, String.toList_ofList, h]

theorem asciiLower_append (s t : String) : asciiLower (s ++ t) = asciiLower s ++ asciiLower t := by
  rw [asciiLower, String.toList_append, List.map_append, String.ofList_append]
  rfl

/-- Strings that are the same in small letters are alike in their characters. -/
theorem alike_of_asciiLower_eq {s t : String} (h : asciiLower s = asciiLower t) :
    Alike s.toList t.toList := String.ofList_injective h

theorem map_dropWhile {p : α → Bool} {f : α → α} (h : ∀ a, p (f a) = p a) (as : List α) :
    (as.map f).dropWhile p = (as.dropWhile p).map f := by
  rw [List.dropWhile_map]
  congr 2
  exact funext h

/-- What is trimmed off a text does not depend on a change of characters that keeps the blanks. -/
theorem trim_map {f : Char → Char} (h : ∀ c, isBlank (f c) = isBlank c) (cs : List Char) :
    trim (cs.map f) = (trim cs).map f := by
  unfold trim trimEnd trimStart
  rw [map_dropWhile h, ← List.map_reverse, map_dropWhile h, List.map_reverse]

end FeatureScan.Text
