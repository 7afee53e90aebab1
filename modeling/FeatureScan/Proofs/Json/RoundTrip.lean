import FeatureScan.Json.Reader
import FeatureScan.Json.Writer

/-!
# What is written reads back

A value that is written in any layout that keeps its characters, and read again, is the same value.
Its numbers have to be integers of 64 bits, since others are rounded, and it may be nested no deeper
than the reader goes. Behind a value stands what the writer puts there: a comma, a closing bracket,
a line end or nothing.

## Main results

* `readStringFrom_flatMap`: a string reads back.
* `readNumber_digits`: the digits of an integer read back.
* `readValue_write`: a value reads back, and what stands behind it is left.
* `read?_text`: the text of a value reads as that value.
* `parse?_text`: with the keys of its objects in order, it is also parsed as that value.
-/

namespace FeatureScan.Json

/-! ## Strings -/

theorem hexValue?_digitChar : ∀ n < 16, hexValue? (Nat.digitChar n) = some n := by decide

theorem readHex4_hex4 {n : Nat} (h : n < 0x10000) (cs : List Char) :
    readHex4 (hex4 n ++ cs) = some (n, cs) := by
  have hdigit : ∀ m, hexValue? (Nat.digitChar (m % 16)) = some (m % 16) := fun m =>
    hexValue?_digitChar _ (Nat.mod_lt _ (by decide))
  have hvalue : 4096 * (n / 4096 % 16) + 256 * (n / 256 % 16) + 16 * (n / 16 % 16) + n % 16 = n := by
    omega
  simp [readHex4, hex4, hdigit, hvalue]

/-- How a character stands in a string: behind a backslash, as its code, or as it is. -/
theorem charText_cases {l : Layout} (hl : l.asciiOnly = false) (c : Char) :
    (∃ e, escaped? e = some c ∧ charText l c = ['\\', e]) ∨
      (c.toNat < 0x20 ∧ charText l c = unitEscape c.toNat) ∨
      (c ≠ '\x22' ∧ c ≠ '\\' ∧ ¬c.toNat < 0x20 ∧ charText l c = [c]) := by
  unfold charText
  by_cases hquote : c = '\x22'
  · exact .inl ⟨'\x22', by rw [hquote]; rfl, by rw [hquote]; rfl⟩
  by_cases hslash : c = '\\'
  · exact .inl ⟨'\\', by rw [hslash]; rfl, by rw [hslash]; rfl⟩
  by_cases hback : c = '\x08'
  · exact .inl ⟨'b', by rw [hback]; rfl, by rw [hback]; rfl⟩
  by_cases hfeed : c = '\x0c'
  · exact .inl ⟨'f', by rw [hfeed]; rfl, by rw [hfeed]; rfl⟩
  by_cases hline : c = '\n'
  · exact .inl ⟨'n', by rw [hline]; rfl, by rw [hline]; rfl⟩
  by_cases hreturn : c = '\r'
  · exact .inl ⟨'r', by rw [hreturn]; rfl, by rw [hreturn]; rfl⟩
  by_cases htab : c = '\t'
  · exact .inl ⟨'t', by rw [htab]; rfl, by rw [htab]; rfl⟩
  simp only [beq_iff_eq, hquote, hslash, hback, hfeed, hline, hreturn, htab, hl, if_false,
    Bool.false_and, Bool.false_eq_true]
  by_cases hcontrol : c.toNat < 0x20
  · exact .inr (.inl ⟨hcontrol, if_pos hcontrol⟩)
  · exact .inr (.inr ⟨hquote, hslash, hcontrol, if_neg hcontrol⟩)

/-- A character of a string reads back. -/
theorem readStringFrom_charText {l : Layout} (hl : l.asciiOnly = false) (c : Char) (fuel : Nat)
    (done cs : List Char) :
    readStringFrom (fuel + 1) done (charText l c ++ cs) = readStringFrom fuel (c :: done) cs := by
  rcases charText_cases hl c with
    ⟨e, he, htext⟩ | ⟨hcontrol, htext⟩ | ⟨hquote, hslash, hcontrol, htext⟩ <;> rw [htext]
  · have hu : e ≠ 'u' := by
      rintro rfl
      cases he
    simp only [List.cons_append, List.nil_append]
    rw [readStringFrom, if_neg (by decide), if_pos (by decide), he]
    exact hu
  · have hchar : readUnicode (hex4 c.toNat ++ cs) = some (c, cs) := by
      have hhex := readHex4_hex4 (n := c.toNat) (by omega) cs
      have hlow : ¬(0xDC00 ≤ c.toNat ∧ c.toNat ≤ 0xDFFF) := by omega
      have hhigh : ¬(0xD800 ≤ c.toNat ∧ c.toNat ≤ 0xDBFF) := by omega
      simp [readUnicode, hhex, hlow, hhigh]
    rw [unitEscape, List.cons_append, List.cons_append, readStringFrom, if_neg (by decide),
      if_pos (by decide), hchar]
  · rw [List.singleton_append, readStringFrom.eq_def]
    simp only [beq_iff_eq, hquote, hslash, hcontrol, if_false]

/-- A string reads back. -/
theorem readStringFrom_flatMap {l : Layout} (hl : l.asciiOnly = false) (s rest : List Char)
    {fuel : Nat} (hfuel : s.length < fuel) (done : List Char) :
    readStringFrom fuel done (s.flatMap (charText l) ++ '\x22' :: rest) =
      some (String.ofList (done.reverse ++ s), rest) := by
  induction s generalizing fuel done with
  | nil =>
      obtain ⟨fuel, rfl⟩ := Nat.exists_eq_add_of_lt hfuel
      simp [readStringFrom]
  | cons c s ih =>
      obtain ⟨fuel, rfl⟩ : ∃ n, fuel = n + 1 := ⟨fuel - 1, by omega⟩
      rw [List.flatMap_cons, List.append_assoc, readStringFrom_charText hl,
        ih (by simpa using hfuel), List.reverse_cons, List.append_assoc, List.singleton_append]

theorem length_le_flatMap_charText {l : Layout} (hl : l.asciiOnly = false) (s : List Char) :
    s.length ≤ (s.flatMap (charText l)).length := by
  have hchar : ∀ c, 1 ≤ (charText l c).length := by
    intro c
    rcases charText_cases hl c with ⟨e, -, htext⟩ | ⟨-, htext⟩ | ⟨-, -, -, htext⟩ <;> rw [htext]
    · exact Nat.le_succ 1
    · exact Nat.succ_pos _
    · exact Nat.le_refl 1
  induction s with
  | nil => exact Nat.le_refl _
  | cons c s ih =>
      have hc := hchar c
      rw [List.flatMap_cons, List.length_append, List.length_cons]
      omega

/-- The string of a value or of a key, behind its opening quote. -/
theorem readStringFrom_stringText {l : Layout} (hl : l.asciiOnly = false) (s : String)
    (rest : List Char) {fuel : Nat} (hfuel : (stringText l s).length ≤ fuel) :
    readStringFrom fuel [] ((stringText l s).tail ++ rest) = some (s, rest) := by
  have hlength := length_le_flatMap_charText hl s.toList
  have hshape : (stringText l s).tail ++ rest =
      s.toList.flatMap (charText l) ++ '\x22' :: rest := by
    simp [stringText]
  rw [hshape, readStringFrom_flatMap hl]
  · rw [List.reverse_nil, List.nil_append, String.ofList_toList]
  · simp only [stringText, List.length_append, List.length_cons, List.length_nil] at hfuel
    omega

/-! ## Numbers -/

/-- What may stand behind a value: the mark that goes on or ends what it is part of, or nothing. -/
def Ends (rest : List Char) : Prop := ∀ c, rest.head? = some c → c ∈ [',', ']', '}', '\n']

theorem ends_nil : Ends [] := nofun

theorem ends_cons {c : Char} (h : c ∈ [',', ']', '}', '\n']) (rest : List Char) :
    Ends (c :: rest) := by
  rintro _ ⟨⟩
  exact h

theorem Ends.head_eq {c : Char} {rest : List Char} (h : Ends (c :: rest)) :
    c = ',' ∨ c = ']' ∨ c = '}' ∨ c = '\n' := by
  simpa using h c rfl

/-- An integer of 64 bits. -/
def Number.IsWord : Number → Prop
  | .natural n => n < wordLimit
  | .negative n => 0 < n ∧ n ≤ Nat.pow 2 63
  | .float _ => False

/-- The digits of a number in base ten. -/
def digits (n : Nat) : List Nat := (Nat.toDigits 10 n).map fun c => c.toNat - 48

theorem foldl_digits (n : Nat) : (digits n).foldl (fun v d => v * 10 + d) 0 = n := by
  have h : Nat.ofDigitChars 10 (Nat.toDigits 10 n) 0 = n := Nat.ofDigitChars_ten_toDigits
  rw [Nat.ofDigitChars_eq_foldl] at h
  rw [digits, List.foldl_map]
  simp only [Nat.mul_comm 10] at h
  exact h

theorem digits_ne_nil (n : Nat) : digits n ≠ [] :=
  fun h => Nat.toDigits_ne_nil (List.map_eq_nil_iff.1 h)

/-- No zero leads, but where it is the only digit. -/
theorem length_digits_of_head_zero (n : Nat) (h : (digits n).head? = some 0) :
    (digits n).length = 1 := by
  induction n using Nat.strongRecOn with
  | ind n ih =>
      have hsplit : digits n =
          if n < 10 then [(Nat.digitChar n).toNat - 48]
          else digits (n / 10) ++ [(Nat.digitChar (n % 10)).toNat - 48] := by
        rw [digits, Nat.toDigits_eq_if (by decide)]
        split <;> simp [digits]
      rw [hsplit] at h ⊢
      split
      · rfl
      · rename_i hn
        rw [if_neg hn] at h
        have hhead : (digits (n / 10)).head? = some 0 := by
          cases hd : digits (n / 10) with
          | nil => exact absurd hd (digits_ne_nil _)
          | cons d ds => simpa [hd] using h
        have hone := ih (n / 10) (by omega) hhead
        have hzero : n / 10 = 0 := by
          obtain ⟨d, hd⟩ := List.length_eq_one_iff.1 hone
          have hvalue := foldl_digits (n / 10)
          rw [hd] at hhead hvalue
          obtain rfl : d = 0 := Option.some.inj hhead
          simpa using hvalue.symm
        omega

theorem digitValue?_of_isDigit {c : Char} (h : c.isDigit = true) :
    digitValue? c = some (c.toNat - 48) := by
  have hrange : '0' ≤ c ∧ c ≤ '9' := by
    simpa [Char.isDigit, Char.le_def] using h
  rw [digitValue?, if_pos hrange]

theorem digitValue?_of_ends {c : Char} {rest : List Char} (h : Ends (c :: rest)) :
    digitValue? c = none := by
  obtain rfl | rfl | rfl | rfl := h.head_eq <;> rfl

/-- Digits are read up to what stands behind the value. -/
theorem readDigits_append {ds rest : List Char} (hds : ∀ c ∈ ds, c.isDigit = true)
    (hrest : Ends rest) (done : List Nat) :
    readDigits done (ds ++ rest) = (done.reverse ++ ds.map (fun c => c.toNat - 48), rest) := by
  induction ds generalizing done with
  | nil =>
      cases rest with
      | nil => simp [readDigits]
      | cons c rest => simp [readDigits, digitValue?_of_ends hrest]
  | cons c ds ih =>
      have hc := digitValue?_of_isDigit (hds c List.mem_cons_self)
      have hds := ih (fun d hd => hds d (List.mem_cons_of_mem _ hd)) ((c.toNat - 48) :: done)
      rw [List.cons_append, readDigits, hc]
      simpa using hds

theorem readFraction_of_ends {rest : List Char} (h : Ends rest) :
    readFraction rest = some (none, rest) := by
  unfold readFraction
  split
  · simpa using h '.' rfl
  · rfl

theorem readPower_of_ends {rest : List Char} (h : Ends rest) :
    readPower rest = some (none, rest) := by
  cases rest with
  | nil => rfl
  | cons c rest => obtain rfl | rfl | rfl | rfl := h.head_eq <;> rfl

/-- The digits of an integer are read as they were written. -/
theorem readWritten_digits (negative : Bool) (n : Nat) {rest : List Char} (h : Ends rest) :
    readWritten negative (Nat.toDigits 10 n ++ rest) =
      some (⟨negative, digits n, none, none⟩, rest) := by
  have hread : readDigits [] (Nat.toDigits 10 n ++ rest) = (digits n, rest) :=
    readDigits_append (fun c hc => Nat.isDigit_of_mem_toDigits (by decide) (by decide) hc) h []
  simpa [readWritten, hread, readFraction_of_ends h, readPower_of_ends h] using
    And.intro (digits_ne_nil n) (length_digits_of_head_zero n)

/-- All digits count as long as their value fits. -/
theorem addDigits_of_lt {ds : List Nat} {v : Nat}
    (h : ds.foldl (fun v d => v * 10 + d) v < wordLimit) (count : Nat) :
    addDigits v count ds = (ds.foldl (fun v d => v * 10 + d) v, count + ds.length, true) := by
  induction ds generalizing v count with
  | nil => rfl
  | cons d ds ih =>
      have hle : ∀ (ds : List Nat) (v : Nat), v ≤ ds.foldl (fun v d => v * 10 + d) v := by
        intro ds
        induction ds with
        | nil => exact fun v => Nat.le_refl v
        | cons d ds ih => exact fun v => Nat.le_trans (by omega) (ih (v * 10 + d))
      have hfits : v * 10 + d < wordLimit := Nat.lt_of_le_of_lt (hle ds _) h
      rw [addDigits, if_pos hfits, ih h, List.foldl_cons, List.length_cons, Nat.add_assoc,
        Nat.add_comm 1]

/-- The digits of an integer of 64 bits read back. -/
theorem readNumber_digits {n : Nat} (hn : n < wordLimit) {rest : List Char} (h : Ends rest) :
    readNumber false (Nat.toDigits 10 n ++ rest) = some (.natural n, rest) ∧
      (0 < n → n ≤ Nat.pow 2 63 →
        readNumber true (Nat.toDigits 10 n ++ rest) = some (.negative n, rest)) := by
  have hadd : addDigits 0 0 (digits n) = (n, (digits n).length, true) := by
    have hvalue := foldl_digits n
    rw [addDigits_of_lt (by rwa [hvalue]), hvalue, Nat.zero_add]
  constructor
  · simp [readNumber, readWritten_digits false n h, Written.number?, hadd]
  · intro hpos hle
    simp [readNumber, readWritten_digits true n h, Written.number?, hadd, hpos, hle]

/-! ## Values -/

/-- A value that reads back: its numbers are integers of 64 bits, and it is nested at most so
deep. -/
def Fits : Nat → Json → Prop
  | _, .null => True
  | _, .bool _ => True
  | _, .number n => n.IsWord
  | _, .string _ => True
  | 0, .array _ => False
  | 0, .object _ => False
  | depth + 1, .array items => ∀ j ∈ items, Fits depth j
  | depth + 1, .object members => ∀ m ∈ members, Fits depth m.2

section Layout

variable {l : Layout}

theorem skipSpace_lines (l : Layout) (level : Nat) (cs : List Char) :
    skipSpace (l.lines level ++ cs) = skipSpace cs := by
  have hspaces : ∀ n, skipSpace (List.replicate n ' ' ++ cs) = skipSpace cs := by
    intro n
    induction n with
    | zero => rfl
    | succ n ih => exact ih
  unfold Layout.lines
  split
  · exact hspaces _
  · rfl

theorem ends_lines (level : Nat) {c : Char} (h : c ∈ [',', ']', '}', '\n']) (rest : List Char) :
    Ends (l.lines level ++ c :: rest) := by
  unfold Layout.lines
  split
  · exact ends_cons (by decide) _
  · exact ends_cons h _

theorem readValue_lines (fuel depth level : Nat) (cs : List Char) :
    readValue fuel depth (l.lines level ++ cs) = readValue fuel depth cs := by
  rw [readValue, skipSpace_lines, ← readValue]

/-- No value begins with a closing bracket. -/
theorem readValue_closer {fuel depth : Nat} {cs rest : List Char}
    (h : skipSpace cs = ']' :: rest) : readValue fuel depth cs = none := by
  rw [readValue, h]
  rfl

theorem readValue_digit {c : Char} (h : c.isDigit = true) (fuel depth : Nat) (cs : List Char) :
    readValue fuel depth (c :: cs) =
      (readNumber false (c :: cs)).map fun (n, cs) => (number n, cs) := by
  have hne : ∀ d : Char, d.isDigit = false → (c == d) = false := by
    intro d hd
    rw [beq_eq_false_iff_ne]
    rintro rfl
    rw [hd] at h
    cases h
  have hspace : isSpace c = false := by
    simp [isSpace, hne ' ' rfl, hne '\n' rfl, hne '\t' rfl, hne '\x0d' rfl]
  rw [readValue, skipSpace_of_not_isSpace _ hspace]
  simp [hne '\x22' rfl, hne '-' rfl, digitValue?_of_isDigit h]

/-- A number reads back. -/
theorem readValue_number {n : Number} (hn : n.IsWord) (fuel depth : Nat) {rest : List Char}
    (h : Ends rest) : readValue fuel depth (n.text ++ rest) = some (number n, rest) := by
  cases n with
  | natural n =>
      have hread := (readNumber_digits (show n < wordLimit from hn) h).1
      have htext : (Number.natural n).text = Nat.toDigits 10 n := by
        rw [Number.text, Nat.toString_eq_ofList_toDigits, String.toList_ofList]
      obtain ⟨c, cs, hcs⟩ := List.exists_cons_of_ne_nil (Nat.toDigits_ne_nil (n := n) (b := 10))
      have hc : c.isDigit = true :=
        Nat.isDigit_of_mem_toDigits (n := n) (b := 10) (by decide) (by decide)
          (hcs ▸ List.mem_cons_self)
      rw [htext, hcs, List.cons_append, readValue_digit hc, ← List.cons_append, ← hcs, hread]
      rfl
  | negative n =>
      obtain ⟨hpos, hle⟩ : 0 < n ∧ n ≤ Nat.pow 2 63 := hn
      have hword : n < wordLimit := Nat.lt_of_le_of_lt hle (by decide)
      have hread := (readNumber_digits hword h).2 hpos hle
      have htext : (Number.negative n).text = '-' :: Nat.toDigits 10 n := by
        rw [Number.text, Nat.toString_eq_ofList_toDigits, String.toList_ofList]
      rw [htext, List.cons_append, readValue, skipSpace_of_not_isSpace _ rfl]
      simp [hread]
  | float x => exact absurd hn not_false

/-! ### Items -/

theorem ends_writeItems (l : Layout) (level inner : Nat) (js : List Json) (rest : List Char) :
    Ends (writeItems l inner js ++ (l.lines level ++ ']' :: rest)) := by
  cases js with
  | nil =>
      rw [writeItems]
      exact ends_lines level (by decide) rest
  | cons j js =>
      rw [writeItems]
      exact ends_cons (by decide) _

theorem length_writeItems (l : Layout) (inner : Nat) (js : List Json) :
    js.length ≤ (writeItems l inner js).length ∧
      ∀ j ∈ js, (write l inner j).length ≤ (writeItems l inner js).length := by
  induction js with
  | nil => exact ⟨Nat.zero_le _, nofun⟩
  | cons j js ih =>
      simp only [writeItems, List.length_cons, List.length_append]
      refine ⟨by omega, fun j' hj' => ?_⟩
      rcases List.mem_cons.1 hj' with rfl | hj'
      · omega
      · have hle := ih.2 j' hj'
        omega

/-- The items behind the first one read back, if each does. -/
theorem readItems_write {item : List Char → Option (Json × List Char)} {level inner : Nat}
    {js : List Json} {rest : List Char}
    (hitem : ∀ j ∈ js, ∀ rest, Ends rest →
      item (l.lines inner ++ (write l inner j ++ rest)) = some (j, rest))
    {j : Json} {text : List Char} {fuel : Nat} (hfuel : js.length < fuel) (done : List Json)
    (hfirst : item text =
      some (j, writeItems l inner js ++ (l.lines level ++ ']' :: rest))) :
    readItems item fuel done text = some (array (done.reverse ++ j :: js), rest) := by
  induction js generalizing j text fuel done with
  | nil =>
      obtain ⟨fuel, rfl⟩ : ∃ n, fuel = n + 1 := ⟨fuel - 1, by omega⟩
      have hclose : skipSpace (l.lines level ++ ']' :: rest) = ']' :: rest := by
        rw [skipSpace_lines]
        exact skipSpace_of_not_isSpace _ rfl
      simp [readItems, hfirst, writeItems, hclose]
  | cons j' js ih =>
      obtain ⟨fuel, rfl⟩ : ∃ n, fuel = n + 1 := ⟨fuel - 1, by omega⟩
      have hnext := hitem j' List.mem_cons_self _ (ends_writeItems l level inner js rest)
      have hjs : js.length < fuel := Nat.lt_of_succ_lt_succ hfuel
      have htail := ih (fun j hj => hitem j (List.mem_cons_of_mem _ hj)) hjs (j :: done) hnext
      rw [readItems, hfirst]
      simp only [writeItems, List.cons_append, List.append_assoc]
      rw [skipSpace_of_not_isSpace _ rfl]
      simpa using htail

/-! ### Members -/

theorem ends_writeMembers (l : Layout) (level inner : Nat) (ms : List (String × Json))
    (rest : List Char) : Ends (writeMembers l inner ms ++ (l.lines level ++ '\x7d' :: rest)) := by
  rcases ms with _ | ⟨⟨k, j⟩, ms⟩
  · rw [writeMembers]
    exact ends_lines level (by decide) rest
  · rw [writeMembers]
    exact ends_cons (by decide) _

theorem length_writeMembers (l : Layout) (inner : Nat) (ms : List (String × Json)) :
    ms.length ≤ (writeMembers l inner ms).length ∧
      ∀ m ∈ ms, (writeMember l inner m.1 m.2).length ≤ (writeMembers l inner ms).length := by
  induction ms with
  | nil => exact ⟨Nat.zero_le _, nofun⟩
  | cons m ms ih =>
      obtain ⟨k, j⟩ := m
      simp only [writeMembers, List.length_cons, List.length_append]
      refine ⟨by omega, fun m' hm' => ?_⟩
      rcases List.mem_cons.1 hm' with rfl | hm'
      · dsimp only
        omega
      · have hle := ih.2 m' hm'
        omega

/-- A key reads back, and what is left begins its value. -/
theorem readKey_writeMember (hl : l.asciiOnly = false) {k : String} {fuel : Nat}
    (hfuel : (stringText l k).length ≤ fuel) (inner : Nat) (j : Json) (rest : List Char) :
    ∃ cs, readKey fuel (l.lines inner ++ (writeMember l inner k j ++ rest)) = some (k, cs) ∧
      skipSpace cs = skipSpace (write l inner j ++ rest) := by
  have hkey : ∀ cs, readKey fuel (l.lines inner ++ (stringText l k ++ (':' :: cs))) =
      some (k, cs) := by
    intro cs
    have hstring := readStringFrom_stringText hl k (':' :: cs) hfuel
    have hshape : stringText l k ++ (':' :: cs) =
        '\x22' :: ((stringText l k).tail ++ (':' :: cs)) := rfl
    rw [readKey, skipSpace_lines, hshape, skipSpace_of_not_isSpace _ rfl]
    simp only [hstring, skipSpace_of_not_isSpace _ (show isSpace ':' = false from rfl)]
  cases hspread : l.spread with
  | true =>
      refine ⟨' ' :: (write l inner j ++ rest), ?_, rfl⟩
      simpa [writeMember, hspread] using hkey (' ' :: (write l inner j ++ rest))
  | false =>
      refine ⟨write l inner j ++ rest, ?_, rfl⟩
      simpa [writeMember, hspread] using hkey (write l inner j ++ rest)

/-- The members behind the first one read back, if each does. -/
theorem readMembers_write {value : String → List Char → Option (Json × List Char)} {fuel : Nat}
    {level inner : Nat} {ms : List (String × Json)} {rest : List Char}
    (hmember : ∀ m ∈ ms, ∀ rest, Ends rest →
      ∃ cs, readKey fuel (l.lines inner ++ (writeMember l inner m.1 m.2 ++ rest)) = some (m.1, cs) ∧
        value m.1 cs = some (m.2, rest))
    {k : String} {j : Json} {text cs : List Char} {count : Nat} (hcount : ms.length < count)
    (done : List (String × Json)) (hkey : readKey fuel text = some (k, cs))
    (hvalue : value k cs =
      some (j, writeMembers l inner ms ++ (l.lines level ++ '\x7d' :: rest))) :
    readMembers fuel value count done text = some (object (done.reverse ++ (k, j) :: ms), rest) := by
  induction ms generalizing k j text cs count done with
  | nil =>
      obtain ⟨count, rfl⟩ : ∃ n, count = n + 1 := ⟨count - 1, by omega⟩
      have hclose : skipSpace (l.lines level ++ '\x7d' :: rest) = '\x7d' :: rest := by
        rw [skipSpace_lines]
        exact skipSpace_of_not_isSpace _ rfl
      simp [readMembers, hkey, hvalue, writeMembers, hclose]
  | cons m ms ih =>
      obtain ⟨k', j'⟩ := m
      obtain ⟨count, rfl⟩ : ∃ n, count = n + 1 := ⟨count - 1, by omega⟩
      obtain ⟨cs', hkey', hvalue'⟩ :=
        hmember (k', j') List.mem_cons_self _ (ends_writeMembers l level inner ms rest)
      have hms : ms.length < count := Nat.lt_of_succ_lt_succ hcount
      have htail :=
        ih (fun m hm => hmember m (List.mem_cons_of_mem _ hm)) hms ((k, j) :: done) hkey' hvalue'
      rw [readMembers, hkey]
      simp only [hvalue, writeMembers, List.cons_append, List.append_assoc]
      rw [skipSpace_of_not_isSpace _ rfl]
      simpa using htail

/-! ### All values -/

/-- What is neither array nor object reads back at any depth. -/
theorem readValue_leaf (hl : l.asciiOnly = false) {j : Json} (hj : Fits 0 j) (fuel depth level : Nat)
    {rest : List Char} (hrest : Ends rest) (hfuel : (write l level j).length ≤ fuel) :
    readValue fuel depth (write l level j ++ rest) = some (j, rest) := by
  cases j with
  | null =>
      rw [write, readValue]
      rfl
  | bool b =>
      rw [write, readValue]
      cases b <;> rfl
  | number n =>
      rw [write]
      exact readValue_number hj fuel depth hrest
  | string s =>
      rw [write] at hfuel ⊢
      have hstring := readStringFrom_stringText hl s rest hfuel
      have hshape : stringText l s ++ rest = '\x22' :: ((stringText l s).tail ++ rest) := rfl
      rw [hshape, readValue, skipSpace_of_not_isSpace _ rfl]
      simp [hstring]
  | array items => exact absurd hj not_false
  | object members => exact absurd hj not_false

theorem readValue_openArray (fuel depth : Nat) (cs : List Char) :
    readValue fuel (depth + 1) ('[' :: cs) =
      match skipSpace cs with
      | ']' :: cs => some (array [], cs)
      | _ => readItems (readValue fuel depth) fuel [] cs := by
  rw [readValue, skipSpace_of_not_isSpace _ rfl]
  rfl

theorem readValue_openObject (fuel depth : Nat) (cs : List Char) :
    readValue fuel (depth + 1) ('\x7b' :: cs) =
      match skipSpace cs with
      | '\x7d' :: cs => some (object [], cs)
      | _ => readMembers fuel (fun _ => readValue fuel depth) fuel [] cs := by
  rw [readValue, skipSpace_of_not_isSpace _ rfl]
  rfl

/-- An array reads back if its items do, one level further in. -/
theorem readValue_array {fuel depth level : Nat} {items : List Json} {rest : List Char}
    (hitem : ∀ j ∈ items, (write l (level + 1) j).length ≤ fuel → ∀ rest, Ends rest →
      readValue fuel depth (write l (level + 1) j ++ rest) = some (j, rest))
    (hfuel : (write l level (.array items)).length ≤ fuel) :
    readValue fuel (depth + 1) (write l level (.array items) ++ rest) =
      some (.array items, rest) := by
  cases items with
  | nil =>
      rw [write, List.cons_append, readValue_openArray]
      rfl
  | cons j js =>
      obtain ⟨hcount, hlengths⟩ := length_writeItems l (level + 1) js
      simp only [write, List.cons_append, List.length_cons, List.length_append] at hfuel
      have hlines : ∀ i ∈ j :: js, ∀ rest, Ends rest →
          readValue fuel depth (l.lines (level + 1) ++ (write l (level + 1) i ++ rest)) =
            some (i, rest) := by
        intro i hi rest hrest
        rw [readValue_lines]
        refine hitem i hi ?_ rest hrest
        rcases List.mem_cons.1 hi with rfl | hi
        · omega
        · have hle := hlengths i hi
          omega
      have hfirst := hlines j List.mem_cons_self _ (ends_writeItems l level (level + 1) js rest)
      have hitems := readItems_write (fun i hi => hlines i (List.mem_cons_of_mem _ hi))
        (show js.length < fuel by omega) [] hfirst
      simp only [write, List.cons_append, List.append_assoc, List.nil_append]
      rw [readValue_openArray]
      split
      · rename_i hclose
        rw [readValue_closer hclose] at hfirst
        cases hfirst
      · exact hitems

theorem readMembers_closer {fuel count : Nat}
    {value : String → List Char → Option (Json × List Char)} {done : List (String × Json)}
    {cs rest : List Char} (h : skipSpace cs = '\x7d' :: rest) :
    readMembers fuel value count done cs = none := by
  have hkey : readKey fuel cs = none := by
    rw [readKey, h]
    rfl
  cases count with
  | zero => rfl
  | succ count => rw [readMembers, hkey]

/-- The members of an object read back, if each value does behind its key. -/
theorem readMembers_object (hl : l.asciiOnly = false)
    {value : String → List Char → Option (Json × List Char)} {fuel level : Nat} {k : String}
    {j : Json} {ms : List (String × Json)} {rest : List Char}
    (hvalue : ∀ m ∈ (k, j) :: ms, (write l (level + 1) m.2).length ≤ fuel →
      ∀ cs rest, Ends rest → skipSpace cs = skipSpace (write l (level + 1) m.2 ++ rest) →
        value m.1 cs = some (m.2, rest))
    (hfuel : (write l level (.object ((k, j) :: ms))).length ≤ fuel) :
    readMembers fuel value fuel []
        (l.lines (level + 1) ++ (writeMember l (level + 1) k j ++
          (writeMembers l (level + 1) ms ++ (l.lines level ++ '\x7d' :: rest)))) =
      some (object ((k, j) :: ms), rest) := by
  obtain ⟨hcount, hlengths⟩ := length_writeMembers l (level + 1) ms
  simp only [write, List.cons_append, List.length_cons, List.length_append] at hfuel
  have hmember : ∀ m ∈ (k, j) :: ms, ∀ rest, Ends rest →
      ∃ cs, readKey fuel (l.lines (level + 1) ++
          (writeMember l (level + 1) m.1 m.2 ++ rest)) = some (m.1, cs) ∧
        value m.1 cs = some (m.2, rest) := by
    intro m hm rest hrest
    have hlength : (writeMember l (level + 1) m.1 m.2).length ≤ fuel := by
      rcases List.mem_cons.1 hm with rfl | hm
      · dsimp only
        omega
      · have hle := hlengths m hm
        omega
    simp only [writeMember, List.length_append] at hlength
    obtain ⟨cs, hkey, hspace⟩ := readKey_writeMember hl
      (show (stringText l m.1).length ≤ fuel by omega) (level + 1) m.2 rest
    exact ⟨cs, hkey, hvalue m hm (by omega) cs rest hrest hspace⟩
  obtain ⟨cs, hkey, hfirst⟩ :=
    hmember (k, j) List.mem_cons_self _ (ends_writeMembers l level (level + 1) ms rest)
  exact readMembers_write (fun m hm => hmember m (List.mem_cons_of_mem _ hm))
    (show ms.length < fuel by omega) [] hkey hfirst

/-- An object reads back if the values of its members do, one level further in. -/
theorem readValue_object (hl : l.asciiOnly = false) {fuel depth level : Nat}
    {members : List (String × Json)} {rest : List Char}
    (hvalue : ∀ m ∈ members, (write l (level + 1) m.2).length ≤ fuel → ∀ rest, Ends rest →
      readValue fuel depth (write l (level + 1) m.2 ++ rest) = some (m.2, rest))
    (hfuel : (write l level (.object members)).length ≤ fuel) :
    readValue fuel (depth + 1) (write l level (.object members) ++ rest) =
      some (.object members, rest) := by
  rcases members with _ | ⟨⟨k, j⟩, ms⟩
  · rw [write, List.cons_append, readValue_openObject]
    rfl
  · have hbehind : ∀ m ∈ (k, j) :: ms, (write l (level + 1) m.2).length ≤ fuel →
        ∀ cs rest, Ends rest → skipSpace cs = skipSpace (write l (level + 1) m.2 ++ rest) →
          readValue fuel depth cs = some (m.2, rest) := by
      intro m hm hle cs rest hrest hspace
      rw [readValue, hspace, ← readValue]
      exact hvalue m hm hle rest hrest
    have hmembers : readMembers fuel (fun _ => readValue fuel depth) fuel [] _ =
        some (object ((k, j) :: ms), rest) := readMembers_object hl hbehind hfuel
    simp only [write, List.cons_append, List.append_assoc, List.nil_append]
    rw [readValue_openObject]
    split
    · rename_i hclose
      rw [readMembers_closer hclose] at hmembers
      cases hmembers
    · exact hmembers

/-- A value reads back, and what stands behind it is left. -/
theorem readValue_write (hl : l.asciiOnly = false) {depth : Nat} {j : Json} (hj : Fits depth j)
    {fuel level : Nat} {rest : List Char} (hrest : Ends rest)
    (hfuel : (write l level j).length ≤ fuel) :
    readValue fuel depth (write l level j ++ rest) = some (j, rest) := by
  induction depth generalizing j fuel level rest with
  | zero => exact readValue_leaf hl hj fuel 0 level hrest hfuel
  | succ depth ih =>
      cases j with
      | array items =>
          exact readValue_array (fun j hi hle rest hrest => ih (hj j hi) hrest hle) hfuel
      | object members =>
          exact readValue_object hl (fun m hm hle rest hrest => ih (hj m hm) hrest hle) hfuel
      | null => exact readValue_leaf hl (j := .null) hj fuel _ level hrest hfuel
      | bool b => exact readValue_leaf hl (j := .bool b) hj fuel _ level hrest hfuel
      | number n => exact readValue_leaf hl (j := .number n) hj fuel _ level hrest hfuel
      | string s => exact readValue_leaf hl (j := .string s) hj fuel _ level hrest hfuel

/-- The text of a value reads as that value. -/
theorem read?_text (hl : l.asciiOnly = false) {j : Json} (hj : Fits depthLimit j) :
    read? (text l j) = some j := by
  have hread : readValue ((write l 0 j).length + 1) depthLimit (write l 0 j ++ []) = some (j, []) :=
    readValue_write hl hj ends_nil (Nat.le_succ _)
  rw [List.append_nil] at hread
  simp [read?, readAll, text, hread, skipSpace]

/-! ## Canonical values -/

theorem canonicalItems_eq_map (js : List Json) : canonicalItems js = js.map canonical := by
  induction js with
  | nil => rfl
  | cons j js ih => rw [canonicalItems, ih, List.map_cons]

theorem canonicalMembers_eq_map (ms : List (String × Json)) :
    canonicalMembers ms = ms.map fun m => (m.1, m.2.canonical) := by
  induction ms with
  | nil => rfl
  | cons m ms ih => rw [canonicalMembers, ih, List.map_cons]

/-- A value that is parsed from its text as it is: one that reads back, with the keys of its objects
in order. -/
structure Plain (depth : Nat) (j : Json) : Prop where
  fits : j.Fits depth
  canonical_eq : j.canonical = j

theorem plain_string (depth : Nat) (s : String) : (string s).Plain depth := by
  cases depth <;> exact ⟨trivial, rfl⟩

theorem plain_array {depth : Nat} {items : List Json} (h : ∀ j ∈ items, j.Plain depth) :
    (array items).Plain (depth + 1) := by
  refine ⟨fun j hj => (h j hj).fits, ?_⟩
  rw [canonical, canonicalItems_eq_map, List.map_congr_left fun j hj => (h j hj).canonical_eq,
    List.map_id']

theorem plain_strings (depth : Nat) (l : List String) : (strings l).Plain (depth + 1) := by
  refine plain_array fun j hj => ?_
  obtain ⟨s, -, rfl⟩ := List.mem_map.1 hj
  exact plain_string depth s

theorem plain_object {depth : Nat} {ms : List (String × Json)}
    (hkeys : (ms.map Prod.fst).Pairwise (· < ·)) (h : ∀ m ∈ ms, m.2.Plain depth) :
    (object ms).Plain (depth + 1) := by
  refine ⟨fun m hm => (h m hm).fits, ?_⟩
  have hvalues : canonicalMembers ms = ms := by
    have hsame : ∀ m ∈ ms, (m.1, m.2.canonical) = m := fun m hm => by rw [(h m hm).canonical_eq]
    rw [canonicalMembers_eq_map, List.map_congr_left hsame, List.map_id']
  rw [canonical, hvalues, Dict.ofList_entries ⟨ms, List.pairwise_map.1 hkeys⟩, ofDict]

/-- The text of a plain value is parsed as that value. -/
theorem parse?_text (hl : l.asciiOnly = false) {j : Json} (h : j.Plain depthLimit) :
    parse? (text l j) = some j := by
  rw [parse?, read?_text hl h.fits, Option.map_some, h.canonical_eq]

end Layout

end FeatureScan.Json
