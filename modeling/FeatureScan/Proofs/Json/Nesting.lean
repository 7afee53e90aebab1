import FeatureScan.Proofs.Json.RoundTrip

/-!
# What was read can be written again

A value that has been read is nested no deeper than the reader goes, and a value that has been
parsed has the keys of its objects in order. Only its numbers keep it from being written to a text
that is parsed as the same value: others than integers of 64 bits are rounded.

## Main results

* `nested_readValue`: what is read is nested no deeper than the reader goes.
* `Nested.canonical_canonical`: the canonical form is its own canonical form.
* `Nested.fits`: what keeps a value from being read back is its depth or its numbers.
* `parse?_object`: the members of a parsed object stand in order, and are nested and canonical.
-/

namespace FeatureScan.Json

/-! ## Depth and numbers -/

/-- A value of objects and arrays that are nested at most so deep. -/
def Nested : Nat → Json → Prop
  | 0, .array _ => False
  | 0, .object _ => False
  | depth + 1, .array items => ∀ j ∈ items, Nested depth j
  | depth + 1, .object members => ∀ m ∈ members, Nested depth m.2
  | _, .null => True
  | _, .bool _ => True
  | _, .number _ => True
  | _, .string _ => True

mutual

/-- The numbers in a value. -/
def numbers : Json → List Number
  | number n => [n]
  | array items => numbersOfItems items
  | object members => numbersOfMembers members
  | _ => []

/-- `numbers` of items. -/
def numbersOfItems : List Json → List Number
  | [] => []
  | j :: js => j.numbers ++ numbersOfItems js

/-- `numbers` of the values of members. -/
def numbersOfMembers : List (String × Json) → List Number
  | [] => []
  | (_, j) :: ms => j.numbers ++ numbersOfMembers ms

end

theorem mem_numbersOfItems {n : Number} {j : Json} {items : List Json} (hj : j ∈ items)
    (hn : n ∈ j.numbers) : n ∈ numbersOfItems items := by
  induction items with
  | nil => cases hj
  | cons i items ih =>
      rw [numbersOfItems, List.mem_append]
      rcases List.mem_cons.1 hj with rfl | hj
      · exact .inl hn
      · exact .inr (ih hj)

theorem mem_numbersOfMembers {n : Number} {m : String × Json} {members : List (String × Json)}
    (hm : m ∈ members) (hn : n ∈ m.2.numbers) : n ∈ numbersOfMembers members := by
  induction members with
  | nil => cases hm
  | cons m' members ih =>
      rw [numbersOfMembers, List.mem_append]
      rcases List.mem_cons.1 hm with rfl | hm
      · exact .inl hn
      · exact .inr (ih hm)

/-- What keeps a value from being read back is its depth or its numbers. -/
theorem Nested.fits {depth : Nat} {j : Json} (hj : j.Nested depth)
    (hwords : ∀ n ∈ j.numbers, n.IsWord) : j.Fits depth := by
  induction depth generalizing j with
  | zero =>
      cases j with
      | array items => exact hj
      | object members => exact hj
      | number n => exact hwords n List.mem_cons_self
      | null => trivial
      | bool b => trivial
      | string s => trivial
  | succ depth ih =>
      cases j with
      | array items =>
          intro i hi
          exact ih (hj i hi) fun n hn => hwords n (mem_numbersOfItems hi hn)
      | object members =>
          intro m hm
          exact ih (hj m hm) fun n hn => hwords n (mem_numbersOfMembers hm hn)
      | number n => exact hwords n List.mem_cons_self
      | null => trivial
      | bool b => trivial
      | string s => trivial

/-! ## What is read -/

/-- What holds of everything that an array reader takes for an item holds of all its items. -/
theorem forall_mem_readItems {item : List Char → Option (Json × List Char)} {P : Json → Prop}
    (hitem : ∀ cs j rest, item cs = some (j, rest) → P j) {fuel : Nat} {done : List Json}
    {cs rest : List Char} {j : Json} (hdone : ∀ i ∈ done, P i)
    (h : readItems item fuel done cs = some (j, rest)) :
    ∃ items, j = array items ∧ ∀ i ∈ items, P i := by
  induction fuel generalizing done cs with
  | zero => cases h
  | succ fuel ih =>
      rw [readItems] at h
      split at h
      · cases h
      · rename_i i after hread
        have hall : ∀ i' ∈ i :: done, P i' := by
          intro i' hi'
          rcases List.mem_cons.1 hi' with rfl | hi'
          · exact hitem _ _ _ hread
          · exact hdone i' hi'
        split at h
        · exact ih hall h
        · cases h
          refine ⟨_, rfl, ?_⟩
          intro i' hi'
          exact hall i' (List.mem_reverse.1 hi')
        · cases h

/-- The same of an object reader and the values of its members. -/
theorem forall_mem_readMembers {fuel : Nat}
    {value : String → List Char → Option (Json × List Char)} {P : Json → Prop}
    (hvalue : ∀ key cs j rest, value key cs = some (j, rest) → P j) {count : Nat}
    {done : List (String × Json)} {cs rest : List Char} {j : Json} (hdone : ∀ m ∈ done, P m.2)
    (h : readMembers fuel value count done cs = some (j, rest)) :
    ∃ members, j = object members ∧ ∀ m ∈ members, P m.2 := by
  induction count generalizing done cs with
  | zero => cases h
  | succ count ih =>
      rw [readMembers] at h
      split at h
      · cases h
      · split at h
        · cases h
        · rename_i key _ _ _ i after hread
          have hall : ∀ m ∈ (key, i) :: done, P m.2 := by
            intro m hm
            rcases List.mem_cons.1 hm with rfl | hm
            · exact hvalue _ _ _ _ hread
            · exact hdone m hm
          split at h
          · exact ih hall h
          · cases h
            refine ⟨_, rfl, ?_⟩
            intro m hm
            exact hall m (List.mem_reverse.1 hm)
          · cases h

/-- A value without parts is nested not at all. -/
theorem nested_leaf {j : Json} (harray : j.array? = none) (hobject : j.object? = none)
    (depth : Nat) : j.Nested depth := by
  cases j with
  | array items => cases harray
  | object members => cases hobject
  | null => cases depth <;> trivial
  | bool b => cases depth <;> trivial
  | number n => cases depth <;> trivial
  | string s => cases depth <;> trivial

/-- How a value has been read: as one without parts, or as an array or an object of values that are
nested one level less. -/
theorem readValue_cases {fuel depth : Nat} {cs rest : List Char} {j : Json}
    (h : readValue fuel depth cs = some (j, rest)) :
    (j.array? = none ∧ j.object? = none) ∨
      ∃ inner, depth = inner + 1 ∧
        (j = array [] ∨ j = object [] ∨
          (∃ cs, readItems (readValue fuel inner) fuel [] cs = some (j, rest)) ∨
          ∃ cs, readMembers fuel (fun _ => readValue fuel inner) fuel [] cs = some (j, rest)) := by
  rw [readValue.eq_def] at h
  split at h
  · cases h
  · split at h
    · obtain ⟨⟨s, cs⟩, -, hs⟩ := Option.map_eq_some_iff.1 h
      cases hs
      exact .inl ⟨rfl, rfl⟩
    split at h
    · obtain ⟨⟨n, cs⟩, -, hn⟩ := Option.map_eq_some_iff.1 h
      cases hn
      exact .inl ⟨rfl, rfl⟩
    split at h
    · obtain ⟨⟨n, cs⟩, -, hn⟩ := Option.map_eq_some_iff.1 h
      cases hn
      exact .inl ⟨rfl, rfl⟩
    split at h
    · cases depth with
      | zero => cases h
      | succ inner =>
          refine .inr ⟨inner, rfl, ?_⟩
          dsimp only at h
          split at h
          · cases h
            exact .inl rfl
          · exact .inr (.inr (.inl ⟨_, h⟩))
    split at h
    · cases depth with
      | zero => cases h
      | succ inner =>
          refine .inr ⟨inner, rfl, ?_⟩
          dsimp only at h
          split at h
          · cases h
            exact .inr (.inl rfl)
          · exact .inr (.inr (.inr ⟨_, h⟩))
    · unfold readWord at h
      split at h <;> cases h <;> exact .inl ⟨rfl, rfl⟩

/-- What is read is nested no deeper than the reader goes. -/
theorem nested_readValue {fuel depth : Nat} {cs rest : List Char} {j : Json}
    (h : readValue fuel depth cs = some (j, rest)) : j.Nested depth := by
  induction depth generalizing cs rest j with
  | zero =>
      rcases readValue_cases h with ⟨harray, hobject⟩ | ⟨inner, hinner, -⟩
      · exact nested_leaf harray hobject 0
      · cases hinner
  | succ depth ih =>
      rcases readValue_cases h with ⟨harray, hobject⟩ | ⟨inner, hinner, hparts⟩
      · exact nested_leaf harray hobject _
      · cases hinner
        rcases hparts with rfl | rfl | ⟨cs, hitems⟩ | ⟨cs, hmembers⟩
        · exact nofun
        · exact nofun
        · have hnone : ∀ i ∈ ([] : List Json), i.Nested depth := nofun
          obtain ⟨items, rfl, hall⟩ := forall_mem_readItems (fun _ _ _ hread => ih hread) hnone hitems
          exact hall
        · have hnone : ∀ m ∈ ([] : List (String × Json)), m.2.Nested depth := nofun
          obtain ⟨members, rfl, hall⟩ :=
            forall_mem_readMembers (fun _ _ _ _ hread => ih hread) hnone hmembers
          exact hall

theorem nested_read? {text : String} {j : Json} (h : read? text = some j) :
    j.Nested depthLimit := by
  unfold read? readAll at h
  dsimp only at h
  split at h
  · rename_i hread
    split at h
    · cases h
      exact nested_readValue hread
    · cases h
  · cases h

/-! ## Canonical forms -/

/-- The members of the canonical form of an object. -/
theorem canonical_object (members : List (String × Json)) :
    (object members).canonical =
      ofDict (.ofList (members.map fun m => (m.1, m.2.canonical))) := by
  rw [canonical, canonicalMembers_eq_map]

/-- Each of them comes from a member of the object. -/
theorem exists_of_mem_canonical {members : List (String × Json)} {m : String × Json}
    (h : m ∈ (Dict.ofList (members.map fun m => (m.1, m.2.canonical))).entries) :
    ∃ m' ∈ members, m = (m'.1, m'.2.canonical) := by
  obtain ⟨m', hm', rfl⟩ := List.mem_map.1 (Dict.mem_ofList h)
  exact ⟨m', hm', rfl⟩

/-- The canonical form is nested as deep as the value. -/
theorem Nested.canonical {depth : Nat} {j : Json} (h : j.Nested depth) :
    j.canonical.Nested depth := by
  induction depth generalizing j with
  | zero =>
      cases j with
      | array items => exact h
      | object members => exact h
      | _ => trivial
  | succ depth ih =>
      cases j with
      | array items =>
          rw [Json.canonical, canonicalItems_eq_map]
          intro j hj
          obtain ⟨i, hi, rfl⟩ := List.mem_map.1 hj
          exact ih (h i hi)
      | object members =>
          rw [canonical_object]
          intro m hm
          obtain ⟨m', hm', rfl⟩ := exists_of_mem_canonical hm
          exact ih (h m' hm')
      | _ => trivial

/-- The canonical form is its own canonical form. -/
theorem Nested.canonical_canonical {depth : Nat} {j : Json} (h : j.Nested depth) :
    j.canonical.canonical = j.canonical := by
  induction depth generalizing j with
  | zero =>
      cases j with
      | array items => exact absurd h not_false
      | object members => exact absurd h not_false
      | _ => rfl
  | succ depth ih =>
      cases j with
      | array items =>
          have hitems : ∀ i ∈ items, i.canonical.canonical = i.canonical := by
            intro i hi
            exact ih (h i hi)
          simp only [Json.canonical, canonicalItems_eq_map, List.map_map]
          congr 1
          exact List.map_congr_left hitems
      | object members =>
          have hmembers : ∀ m ∈ (Dict.ofList (members.map fun m => (m.1, m.2.canonical))).entries,
              (m.1, m.2.canonical) = m := by
            intro m hm
            obtain ⟨m', hm', rfl⟩ := exists_of_mem_canonical hm
            rw [ih (h m' hm')]
          rw [canonical_object, ofDict, canonical_object, List.map_congr_left hmembers, List.map_id',
            Dict.ofList_entries]
          rfl
      | _ => rfl

/-! ## What is parsed -/

/-- The members of a parsed object stand in the order of their keys, and each is nested and
canonical. -/
theorem parse?_object {text : String} {members : List (String × Json)}
    (h : parse? text = some (object members)) :
    (members.map Prod.fst).Pairwise (· < ·) ∧
      ∀ m ∈ members, m.2.Nested 126 ∧ m.2.canonical = m.2 := by
  obtain ⟨j, hread, hcanonical⟩ := Option.map_eq_some_iff.1 h
  have hnested : j.Nested depthLimit := nested_read? hread
  cases j with
  | object written =>
      rw [canonical_object] at hcanonical
      cases hcanonical
      refine ⟨Dict.keys_sorted _, ?_⟩
      intro m hm
      obtain ⟨m', hm', rfl⟩ := exists_of_mem_canonical hm
      have hvalue : m'.2.Nested 126 := hnested m' hm'
      exact ⟨hvalue.canonical, hvalue.canonical_canonical⟩
  | array items =>
      rw [canonical] at hcanonical
      cases hcanonical
  | _ => cases hcanonical

/-- So each can be written again if its numbers can. -/
theorem plain_of_parse? {text : String} {members : List (String × Json)}
    (h : parse? text = some (object members)) {m : String × Json} (hm : m ∈ members)
    (hwords : ∀ n ∈ m.2.numbers, n.IsWord) : m.2.Plain 126 := by
  obtain ⟨hnested, hcanonical⟩ := (parse?_object h).2 m hm
  exact ⟨hnested.fits hwords, hcanonical⟩

end FeatureScan.Json
