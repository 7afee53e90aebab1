import FeatureScan.Json.Fields
import FeatureScan.Json.Record
import FeatureScan.Proofs.Json.Nesting

/-!
# Records read back

Reading a record passes over what stands behind a key that is no field. An object whose keys are all
fields is read from its text all the same, and so is a named case with such an object. A record is
read with natural numbers of 64 bits only, so what was read can be written and read once more.

## Main results

* `readRecord?_text`: the text of an object whose keys are fields reads as that object.
* `readCase?_text`: the text of a case with such an object reads as that case.
* `counted_of_readRecord?`: the natural numbers that a record is read with have 64 bits.
-/

namespace FeatureScan.Json

/-! ## What is written -/

section Layout

variable {l : Layout} {names : List String} {fuel depth level : Nat}

theorem skipSpace_brace (cs : List Char) : skipSpace ('\x7b' :: cs) = '\x7b' :: cs := rfl

/-- An object reads back with its own way to read the values, if each value does behind its key. -/
theorem readObject_write (hl : l.asciiOnly = false)
    {value : String → Nat → List Char → Option (Json × List Char)}
    {members : List (String × Json)} {cs rest : List Char}
    (hvalue : ∀ m ∈ members, (write l (level + 1) m.2).length ≤ fuel →
      ∀ cs rest, Ends rest → skipSpace cs = skipSpace (write l (level + 1) m.2 ++ rest) →
        value m.1 fuel cs = some (m.2, rest))
    (hfuel : (write l level (.object members)).length ≤ fuel)
    (hcs : skipSpace cs = skipSpace (write l level (.object members) ++ rest)) :
    readObject value depth fuel cs = some (.object members, rest) := by
  rcases members with _ | ⟨⟨k, j⟩, ms⟩
  · rw [readObject, hcs, write, List.cons_append, skipSpace_brace]
    rfl
  · have hmembers : readMembers fuel (fun key => value key fuel) fuel [] _ =
        some (object ((k, j) :: ms), rest) := readMembers_object hl hvalue hfuel
    rw [readObject, hcs]
    simp only [write, List.cons_append, List.append_assoc, List.nil_append, skipSpace_brace]
    split
    · rename_i hclose
      rw [readMembers_closer hclose] at hmembers
      cases hmembers
    · exact hmembers

/-- An object whose keys are fields reads back as a record. -/
theorem readRecord_write (hl : l.asciiOnly = false) {members : List (String × Json)}
    (hnames : ∀ m ∈ members, m.1 ∈ names) (hfits : ∀ m ∈ members, m.2.Fits (depth - 1))
    (hfuel : (write l level (.object members)).length ≤ fuel) {cs rest : List Char}
    (hcs : skipSpace cs = skipSpace (write l level (.object members) ++ rest)) :
    readRecord names depth fuel cs = some (.object members, rest) := by
  refine readObject_write hl (fun m hm hle cs rest hrest hspace => ?_) hfuel hcs
  have hfield : names.contains m.1 = true := List.contains_iff_mem.2 (hnames m hm)
  simp only [hfield, if_true]
  rw [readValue, hspace, ← readValue]
  exact readValue_write hl (hfits m hm) hrest hle

/-- What a reader takes from the text of a value, if it takes the value from there. -/
theorem readAll_text {reader : Nat → List Char → Option (Json × List Char)} {j : Json}
    (h : reader ((write l 0 j).length + 1) (write l 0 j) = some (j, [])) :
    readAll reader (text l j) = some j := by
  simp [readAll, text, h, skipSpace]

/-- The text of an object whose keys are fields reads as that object. -/
theorem readRecord?_text (hl : l.asciiOnly = false) {members : List (String × Json)}
    (hnames : ∀ m ∈ members, m.1 ∈ names) (hfits : (object members).Fits depthLimit) :
    readRecord? names (text l (.object members)) = some (.object members) := by
  have hvalues : ∀ m ∈ members, m.2.Fits (depthLimit - 1) := hfits
  refine readAll_text (readRecord_write hl hnames hvalues (Nat.le_succ _) ?_)
  rw [List.append_nil]

/-- The text of a case with an object whose keys are fields reads as that case. -/
theorem readCase?_text (hl : l.asciiOnly = false) {name : String} {members : List (String × Json)}
    (hnames : ∀ m ∈ members, m.1 ∈ names) (hfits : ∀ m ∈ members, m.2.Fits 125) :
    readCase? names (text l (.object [(name, .object members)])) =
      some (.object [(name, .object members)]) := by
  refine readAll_text (readObject_write hl (fun m hm hle cs rest _ hspace => ?_) (Nat.le_succ _) ?_)
  · obtain rfl := List.mem_singleton.1 hm
    exact readRecord_write hl hnames hfits hle hspace
  · rw [List.append_nil]

/-- The text of a case without an object reads as its name. -/
theorem readCase?_text_string (hl : l.asciiOnly = false) (name : String) :
    readCase? names (text l (.string name)) = some (.string name) := by
  refine readAll_text ?_
  have hread : readValue ((write l 0 (.string name)).length + 1) depthLimit
      (write l 0 (.string name) ++ []) = some (.string name, []) :=
    readValue_write hl (plain_string depthLimit name).fits ends_nil (Nat.le_succ _)
  rw [List.append_nil] at hread
  rw [write] at hread ⊢
  exact hread

end Layout

/-! ## What is read -/

/-- A value that is no natural number of more than 64 bits. -/
def Counted (j : Json) : Prop := ∀ n, j.nat? = some n → n < wordLimit

theorem counted_of_nat?_eq_none {j : Json} (h : j.nat? = none) : j.Counted := by
  intro n hn
  rw [h] at hn
  cases hn

theorem addDigits_lt {ds : List Nat} {v : Nat} (h : v < wordLimit) (count : Nat) :
    (addDigits v count ds).1 < wordLimit := by
  induction ds generalizing v count with
  | nil => exact h
  | cons d ds ih =>
      rw [addDigits]
      split
      · rename_i hfits
        exact ih hfits _
      · exact h

theorem floatOfParts_eq_some {negative : Bool} {significand : Nat} {exponent : Int} {n : Number}
    (h : floatOfParts negative significand exponent = some n) : ∃ x, n = .float x := by
  unfold floatOfParts at h
  dsimp only at h
  split at h
  · exact ⟨_, (Option.some.inj h).symm⟩
  split at h
  · split at h
    · cases h
    · split at h
      · cases h
      · exact ⟨_, (Option.some.inj h).symm⟩
  · split at h
    · exact ⟨_, (Option.some.inj h).symm⟩
    · split at h <;> exact ⟨_, (Option.some.inj h).symm⟩

/-- Digits that do not all fit, a point or a power of ten make a number a floating one. -/
theorem counted_number? {w : Written} {n : Number} (h : w.number? = some n) :
    (number n).Counted := by
  have hfloat : ∀ {negative significand exponent},
      floatOfParts negative significand exponent = some n → (number n).Counted := by
    intro negative significand exponent hparts
    obtain ⟨x, rfl⟩ := floatOfParts_eq_some hparts
    exact counted_of_nat?_eq_none rfl
  have hdigits : (addDigits 0 0 w.whole).1 < wordLimit := addDigits_lt (by decide) 0
  unfold Written.number? at h
  dsimp only at h
  generalize (if (addDigits 0 0 w.whole).2.2 then (0 : Int) else _) = spare at h
  split at h
  · split at h
    · cases h
      intro m hm
      cases hm
      exact hdigits
    · split at h <;> cases h <;> exact counted_of_nat?_eq_none rfl
  · split at h
    · exact hfloat h
    · split at h
      · split at h
        · cases h
        · exact hfloat h
      · exact hfloat h

theorem counted_readNumber {negative : Bool} {cs rest : List Char} {n : Number}
    (h : readNumber negative cs = some (n, rest)) : (number n).Counted := by
  simp only [readNumber, Option.bind_eq_bind, Option.bind_eq_some_iff, Option.pure_def,
    Option.some.injEq, Prod.mk.injEq] at h
  obtain ⟨⟨w, cs'⟩, -, n', hn, rfl, -⟩ := h
  exact counted_number? hn

theorem counted_readValue {fuel depth : Nat} {cs rest : List Char} {j : Json}
    (h : readValue fuel depth cs = some (j, rest)) : j.Counted := by
  rw [readValue.eq_def] at h
  split at h
  · cases h
  · split at h
    · obtain ⟨⟨s, cs⟩, -, hs⟩ := Option.map_eq_some_iff.1 h
      cases hs
      exact counted_of_nat?_eq_none rfl
    split at h
    · obtain ⟨⟨n, cs⟩, hread, hn⟩ := Option.map_eq_some_iff.1 h
      cases hn
      exact counted_readNumber hread
    split at h
    · obtain ⟨⟨n, cs⟩, hread, hn⟩ := Option.map_eq_some_iff.1 h
      cases hn
      exact counted_readNumber hread
    split at h
    · cases depth with
      | zero => cases h
      | succ depth =>
          dsimp only at h
          split at h
          · cases h
            exact counted_of_nat?_eq_none rfl
          · obtain ⟨items, rfl, -⟩ :=
              forall_mem_readItems (P := fun _ => True) (fun _ _ _ _ => trivial)
                (fun _ _ => trivial) h
            exact counted_of_nat?_eq_none rfl
    split at h
    · cases depth with
      | zero => cases h
      | succ depth =>
          dsimp only at h
          split at h
          · cases h
            exact counted_of_nat?_eq_none rfl
          · obtain ⟨members, rfl, -⟩ := forall_mem_readMembers (P := fun _ => True)
              (fun _ _ _ _ _ => trivial) (fun _ _ => trivial) h
            exact counted_of_nat?_eq_none rfl
    · unfold readWord at h
      split at h <;> cases h <;> exact counted_of_nat?_eq_none rfl

/-- The values of the fields of a record have no natural numbers of more than 64 bits. -/
def PartsCounted : Json → Prop
  | array items => ∀ i ∈ items, i.Counted
  | object members => ∀ m ∈ members, m.2.Counted
  | _ => True

theorem partsCounted_readValue {fuel depth : Nat} {cs rest : List Char} {j : Json}
    (h : readValue fuel depth cs = some (j, rest)) : j.PartsCounted := by
  rcases readValue_cases h with ⟨harray, hobject⟩ |
    ⟨inner, -, rfl | rfl | ⟨cs, hitems⟩ | ⟨cs, hmembers⟩⟩
  · cases j with
    | array items => cases harray
    | object members => cases hobject
    | _ => trivial
  · exact nofun
  · exact nofun
  · have hnone : ∀ i ∈ ([] : List Json), i.Counted := nofun
    obtain ⟨items, rfl, hall⟩ :=
      forall_mem_readItems (fun _ _ _ hread => counted_readValue hread) hnone hitems
    exact hall
  · have hnone : ∀ m ∈ ([] : List (String × Json)), m.2.Counted := nofun
    obtain ⟨members, rfl, hall⟩ :=
      forall_mem_readMembers (fun _ _ _ _ hread => counted_readValue hread) hnone hmembers
    exact hall

/-- The natural numbers that a record is read with have 64 bits. -/
theorem partsCounted_readRecord {names : List String} {depth fuel : Nat} {cs rest : List Char}
    {j : Json} (h : readRecord names depth fuel cs = some (j, rest)) : j.PartsCounted := by
  have hfield : ∀ key cs i rest,
      (if names.contains key then readValue fuel (depth - 1) cs
        else (skipValue fuel cs).map fun cs => (null, cs)) = some (i, rest) → i.Counted := by
    intro key cs i rest hread
    split at hread
    · exact counted_readValue hread
    · obtain ⟨cs', -, hnull⟩ := Option.map_eq_some_iff.1 hread
      cases hnull
      exact counted_of_nat?_eq_none rfl
  have hnone : ∀ m ∈ ([] : List (String × Json)), m.2.Counted := nofun
  unfold readRecord readObject at h
  split at h
  · split at h
    · cases h
      exact nofun
    · obtain ⟨members, rfl, hall⟩ := forall_mem_readMembers hfield hnone h
      exact hall
  · exact partsCounted_readValue h

theorem partsCounted_readRecord? {names : List String} {text : String} {j : Json}
    (h : readRecord? names text = some j) : j.PartsCounted := by
  unfold readRecord? readAll at h
  dsimp only at h
  split at h
  · rename_i hread
    split at h
    · cases h
      exact partsCounted_readRecord hread
    · cases h
  · cases h

/-- What a field of such a record is read as has 64 bits. -/
theorem PartsCounted.lt_of_required? {names : List String} {name : String} {j : Json} {f : Fields}
    {n : Nat} (h : j.PartsCounted) (hfields : j.fields? names = some f)
    (hread : f.required? name nat? = some n) : n < wordLimit := by
  obtain ⟨i, hget, hn⟩ := Option.bind_eq_some_iff.1 hread
  obtain ⟨m, hfind, rfl⟩ := Option.map_eq_some_iff.1 hget
  have hm : m ∈ f.values := List.mem_of_find?_eq_some hfind
  cases j with
  | array items =>
      obtain ⟨-, rfl⟩ : items.length ≤ names.length ∧ _ = f := by
        simpa [fields?] using hfields
      exact h m.2 (List.of_mem_zip hm).2 n hn
  | object members =>
      obtain ⟨-, rfl⟩ : _ ∧ _ = f := by
        simpa [fields?] using hfields
      exact h m (List.mem_filter.1 hm).1 n hn
  | _ => cases hfields

end FeatureScan.Json
