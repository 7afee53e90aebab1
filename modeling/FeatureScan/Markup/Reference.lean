import FeatureScan.Markup.Entity

/-!
# Character references

An ampersand may begin a reference to a character, by its number or by a name. Of several names that
the text begins with the longest counts. What begins no reference is an ampersand and ordinary text.

## Main results

* `length_read_rest_le`: what follows a reference is no longer than what follows the ampersand.
* `resolveOnto_of_plain`: a text without ampersand and null stands for itself.
-/

namespace FeatureScan.Markup.Reference

/-- Whether a character is an ASCII letter or digit. -/
def isAlphanumeric (c : Char) : Bool := c.isAlpha || c.isDigit

/-- The characters that the numbers from 0x80 to 0x9F stand for in old pages. -/
def oldNumbers : List (Nat × Nat) := [
  (0x80, 0x20AC), (0x82, 0x201A), (0x83, 0x0192), (0x84, 0x201E), (0x85, 0x2026), (0x86, 0x2020),
  (0x87, 0x2021), (0x88, 0x02C6), (0x89, 0x2030), (0x8A, 0x0160), (0x8B, 0x2039), (0x8C, 0x0152),
  (0x8E, 0x017D), (0x91, 0x2018), (0x92, 0x2019), (0x93, 0x201C), (0x94, 0x201D), (0x95, 0x2022),
  (0x96, 0x2013), (0x97, 0x2014), (0x98, 0x02DC), (0x99, 0x2122), (0x9A, 0x0161), (0x9B, 0x203A),
  (0x9C, 0x0153), (0x9E, 0x017E), (0x9F, 0x0178)]

/-- The character of a number. What is no character is replaced by the mark for that. -/
def ofNumber (n : Nat) : Char :=
  if n == 0 || n > 0x10FFFF || (0xD800 ≤ n && n ≤ 0xDFFF) then '\uFFFD'
  else Char.ofNat (((oldNumbers.find? fun p => p.1 == n).map Prod.snd).getD n)

/-- The value of a digit, if it is one in the base. -/
def digitIn? (hexadecimal : Bool) (c : Char) : Option Nat :=
  if c.isDigit then some (c.toNat - 48)
  else if hexadecimal && 'a' ≤ c && c ≤ 'f' then some (c.toNat - 87)
  else if hexadecimal && 'A' ≤ c && c ≤ 'F' then some (c.toNat - 55)
  else none

/-- Reads digits onto a number, and tells the number and what follows. -/
def digits (hexadecimal : Bool) (n : Nat) : List Char → Nat × List Char
  | [] => (n, [])
  | c :: cs =>
    match digitIn? hexadecimal c with
    | some d => digits hexadecimal (n * (if hexadecimal then 16 else 10) + d) cs
    | none => (n, c :: cs)

/-- What follows, without a semicolon in front. -/
def dropSemicolon : List Char → List Char
  | ';' :: cs => cs
  | cs => cs

/-- Reads a number of which at least one digit is there. -/
def numeric? (hexadecimal : Bool) (cs : List Char) : Option (List Char × List Char) :=
  if (cs.head?.bind (digitIn? hexadecimal)).isSome then
    let (n, rest) := digits hexadecimal 0 cs
    some ([ofNumber n], dropSemicolon rest)
  else none

/-- The longest name among those without a semicolon that the text begins with, of at most a given
length. -/
def oldName? (cs : List Char) : Nat → Option (List Char)
  | 0 => none
  | n + 1 => if Entity.isOld (cs.take (n + 1)) then some (cs.take (n + 1)) else oldName? cs n

/-- Whether an old name in an attribute counts, by what follows it: where the text goes on like a
name or a value, the ampersand was one itself. -/
def endsInAttribute : List Char → Bool
  | [] => true
  | c :: _ => c != '=' && !isAlphanumeric c

/-- Reads a name. -/
def named? (inAttribute : Bool) (cs : List Char) : Option (List Char × List Char) :=
  let word := cs.takeWhile isAlphanumeric
  let behind := cs.drop word.length
  match (if behind.head? == some ';' then Entity.characters? word else none) with
  | some characters => some (characters, behind.drop 1)
  | none => do
    let name ← oldName? word (min word.length 6)
    let rest := cs.drop name.length
    if inAttribute && !endsInAttribute rest then none
    else
      let characters ← Entity.characters? name
      some (characters, rest)

/-- Reads the reference behind an ampersand: its characters, and what follows it. -/
def read? (inAttribute : Bool) : List Char → Option (List Char × List Char)
  | '#' :: 'x' :: cs | '#' :: 'X' :: cs => numeric? true cs
  | '#' :: cs => numeric? false cs
  | cs => named? inAttribute cs

/-! ## Texts with references -/

/-- Replaces references, and null by the mark for what is no character. `done` is what has been
passed, in reverse, and so many characters that follow are part of a reference just read. -/
def resolveOnto (inAttribute : Bool) (done : List Char) : Nat → List Char → List Char
  | _, [] => done.reverse
  | n + 1, _ :: cs => resolveOnto inAttribute done n cs
  | 0, c :: cs =>
    if c == '&' then
      match read? inAttribute cs with
      | some (characters, rest) =>
        resolveOnto inAttribute (characters.reverse ++ done) (cs.length - rest.length) cs
      | none => resolveOnto inAttribute (c :: done) 0 cs
    else resolveOnto inAttribute ((if c == '\x00' then '\uFFFD' else c) :: done) 0 cs

/-- The value of an attribute, from what is written. -/
def attributeValue (written : List Char) : String :=
  String.ofList (resolveOnto true [] 0 written)

/-! ## Sizes -/

theorem length_digits_le (hexadecimal : Bool) (n : Nat) (cs : List Char) :
    (digits hexadecimal n cs).2.length ≤ cs.length := by
  induction cs generalizing n with
  | nil => simp [digits]
  | cons c cs ih =>
    unfold digits
    split
    · exact Nat.le_succ_of_le (ih _)
    · simp

theorem length_dropSemicolon_le (cs : List Char) : (dropSemicolon cs).length ≤ cs.length := by
  unfold dropSemicolon
  split <;> simp

theorem length_numeric_rest_le {hexadecimal : Bool} {cs characters rest : List Char}
    (h : numeric? hexadecimal cs = some (characters, rest)) : rest.length ≤ cs.length := by
  unfold numeric? at h
  split at h
  · simp only [Option.some.injEq, Prod.mk.injEq] at h
    obtain ⟨-, rfl⟩ := h
    exact Nat.le_trans (length_dropSemicolon_le _) (length_digits_le _ _ _)
  · simp at h

theorem length_named_rest_le {inAttribute : Bool} {cs characters rest : List Char}
    (h : named? inAttribute cs = some (characters, rest)) : rest.length ≤ cs.length := by
  simp only [named?] at h
  split at h
  · simp only [Option.some.injEq, Prod.mk.injEq] at h
    obtain ⟨-, rfl⟩ := h
    simp
  · cases hn : oldName? (cs.takeWhile isAlphanumeric)
      (min (cs.takeWhile isAlphanumeric).length 6) with
    | none => simp [hn] at h
    | some name =>
      simp only [hn, Option.bind_eq_bind, Option.bind_some] at h
      split at h
      · simp at h
      · cases hc : Entity.characters? name with
        | none => simp [hc] at h
        | some c =>
          simp only [hc, Option.bind_some, Option.some.injEq, Prod.mk.injEq] at h
          obtain ⟨-, rfl⟩ := h
          simp

theorem length_read_rest_le {inAttribute : Bool} {cs characters rest : List Char}
    (h : read? inAttribute cs = some (characters, rest)) : rest.length ≤ cs.length := by
  unfold read? at h
  split at h
  · exact Nat.le_trans (length_numeric_rest_le h) (by simp; omega)
  · exact Nat.le_trans (length_numeric_rest_le h) (by simp; omega)
  · exact Nat.le_trans (length_numeric_rest_le h) (by simp)
  · exact length_named_rest_le h

/-! ## Plain texts -/

theorem resolveOnto_of_plain (inAttribute : Bool) (done : List Char) {cs : List Char}
    (h : ∀ c ∈ cs, c ≠ '&' ∧ c ≠ '\x00') :
    resolveOnto inAttribute done 0 cs = done.reverse ++ cs := by
  induction cs generalizing done with
  | nil => simp [resolveOnto]
  | cons c cs ih =>
    have hc := h c (by simp)
    have ih := ih (c :: done) fun d hd => h d (List.mem_cons_of_mem _ hd)
    simp [resolveOnto, hc.1, hc.2, ih]

end FeatureScan.Markup.Reference
