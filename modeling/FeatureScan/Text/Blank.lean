/-!
# Blank characters

The blanks of Unicode (property `White_Space`), trimming by them, and the cutting of a text into
words at the five blanks of ASCII.

## Main results

* `isBlank_of_isAsciiBlank`: each of the five ASCII blanks is a blank of Unicode.
* `isEmpty_of_mem_words`: no word is empty.
* `trimEnd_append_of_not_isBlank`: trimming at the end stops at the last character that is no blank.
-/

namespace FeatureScan.Text

/-- The characters with the Unicode property `White_Space`. -/
def isBlank (c : Char) : Bool :=
  let n := c.toNat
  (9 ≤ n && n ≤ 13) || n == 0x20 || n == 0x85 || n == 0xA0 || n == 0x1680 ||
    (0x2000 ≤ n && n ≤ 0x200A) || n == 0x2028 || n == 0x2029 || n == 0x202F || n == 0x205F ||
    n == 0x3000

/-- Tab, line feed, form feed, carriage return and space. -/
def isAsciiBlank (c : Char) : Bool :=
  c == '\t' || c == '\n' || c == '\x0c' || c == '\r' || c == ' '

theorem isBlank_of_isAsciiBlank {c : Char} (h : isAsciiBlank c = true) : isBlank c = true := by
  simp only [isAsciiBlank, Bool.or_eq_true, beq_iff_eq] at h
  rcases h with (((rfl | rfl) | rfl) | rfl) | rfl <;> decide

/-! ## Trimming -/

/-- Drops the blanks in front. -/
def trimStart (cs : List Char) : List Char := cs.dropWhile isBlank

/-- Drops the blanks at the end. -/
def trimEnd (cs : List Char) : List Char := (cs.reverse.dropWhile isBlank).reverse

/-- Drops the blanks at both ends. -/
def trim (cs : List Char) : List Char := trimEnd (trimStart cs)

/-- `trim` on strings. -/
def trimmed (s : String) : String := String.ofList (trim s.toList)

@[simp] theorem trimEnd_nil : trimEnd [] = [] := rfl

@[simp] theorem trimStart_nil : trimStart [] = [] := rfl

@[simp] theorem trim_nil : trim [] = [] := rfl

theorem trimEnd_append_of_not_isBlank (cs : List Char) {c : Char} (h : isBlank c = false) :
    trimEnd (cs ++ [c]) = cs ++ [c] := by
  simp [trimEnd, h]

/-! ## Words -/

/-- The pieces between ASCII blanks; `word` holds the letters of the current piece in reverse. -/
def wordsFrom : List Char → List Char → List (List Char)
  | word, [] => if word.isEmpty then [] else [word.reverse]
  | word, c :: cs =>
    if isAsciiBlank c then
      if word.isEmpty then wordsFrom [] cs else word.reverse :: wordsFrom [] cs
    else wordsFrom (c :: word) cs

/-- The words of a text: its longest pieces without ASCII blanks, in order. -/
def words (s : String) : List String :=
  (wordsFrom [] s.toList).map String.ofList

theorem ne_nil_of_mem_wordsFrom {word cs w : List Char} (h : w ∈ wordsFrom word cs) : w ≠ [] := by
  induction cs generalizing word with
  | nil =>
    rw [wordsFrom] at h
    split at h
    · cases h
    · next hword =>
      rw [List.mem_singleton.1 h]
      simpa using hword
  | cons c cs ih =>
    rw [wordsFrom] at h
    split at h
    · split at h
      · exact ih h
      · next hword =>
        rcases List.mem_cons.1 h with rfl | hrest
        · simpa using hword
        · exact ih hrest
    · exact ih h

theorem isEmpty_of_mem_words {s w : String} (h : w ∈ words s) : w.isEmpty = false := by
  obtain ⟨cs, hcs, rfl⟩ := List.mem_map.1 h
  have hne := ne_nil_of_mem_wordsFrom hcs
  simpa [String.isEmpty_iff] using hne

end FeatureScan.Text
