/-!
# Sorted dictionaries

A dictionary with text keys, kept as a list in strictly increasing order of its keys (the order of
code points, which is also that of the UTF-8 bytes). The order is part of the type, so two
dictionaries with the same answers are equal, and what is printed from one is in key order.

## Main results

* `Dict.get?_insert`: looking up after an insertion.
* `Dict.get?_mapValues`: looking up after a function has been applied to the values.
* `Dict.ofList_entries`: a dictionary is made again of its entries.
* `Dict.mem_ofList`: the entries of a dictionary are among the pairs it is made of.
* `Dict.get?_ofList_eq_some_iff`: they are all of these pairs if the keys are different.
* `Dict.ext_get?`: dictionaries that answer every look-up alike are equal.
* `Dict.mem_keys_iff`: the keys are those with an answer.
-/

namespace FeatureScan

/-- A finite map from texts, sorted by key. -/
structure Dict (α : Type) where
  /-- The pairs of key and value, in strictly increasing order of the keys. -/
  entries : List (String × α)
  /-- Keys increase, so none repeats. -/
  sorted : entries.Pairwise (fun a b => a.1 < b.1)

namespace Dict

variable {α β : Type}

instance [Repr α] : Repr (Dict α) := ⟨fun d n => reprPrec d.entries n⟩

instance [DecidableEq α] : DecidableEq (Dict α) := fun a b =>
  if h : a.entries = b.entries then
    isTrue (by cases a; cases b; simp_all)
  else isFalse (fun e => h (e ▸ rfl))

/-- Two dictionaries with the same entries are equal. -/
theorem ext_entries {a b : Dict α} (h : a.entries = b.entries) : a = b := by
  cases a; cases b; simp_all

/-- The dictionary without entries. -/
def empty : Dict α := ⟨[], List.Pairwise.nil⟩

instance : Inhabited (Dict α) := ⟨empty⟩

instance : EmptyCollection (Dict α) := ⟨empty⟩

/-! ## Insertion into a sorted list -/

/-- Puts a pair at its place; a pair with the same key gives way. -/
def place (k : String) (v : α) : List (String × α) → List (String × α)
  | [] => [(k, v)]
  | (k', v') :: rest =>
    if k < k' then (k, v) :: (k', v') :: rest
    else if k = k' then (k, v) :: rest
    else (k', v') :: place k v rest

theorem mem_place {k : String} {v : α} {e : String × α} {l : List (String × α)}
    (h : e ∈ place k v l) : e = (k, v) ∨ e ∈ l := by
  induction l with
  | nil => simpa [place] using h
  | cons hd tl ih =>
    obtain ⟨k', v'⟩ := hd
    simp only [place] at h
    split at h
    · simpa using h
    · split at h
      · simp only [List.mem_cons] at h ⊢
        exact h.imp id Or.inr
      · simp only [List.mem_cons] at h ⊢
        rcases h with h | h
        · exact Or.inr (Or.inl h)
        · exact (ih h).imp id Or.inr

private theorem lt_of_not_lt_of_ne {a b : String} (h : ¬ a < b) (hne : a ≠ b) : b < a := by
  rcases String.le_total a b with hle | hle
  · exact absurd (String.le_antisymm hle (String.not_lt.mp h)) hne
  · exact Decidable.byContradiction fun hn =>
      hne (String.le_antisymm (String.not_lt.mp hn) hle)

theorem place_sorted {k : String} {v : α} {l : List (String × α)}
    (h : l.Pairwise (fun a b => a.1 < b.1)) :
    (place k v l).Pairwise (fun a b => a.1 < b.1) := by
  induction l with
  | nil => simp [place]
  | cons hd tl ih =>
    obtain ⟨k', v'⟩ := hd
    have hd' := (List.pairwise_cons.1 h).1
    have tl' := (List.pairwise_cons.1 h).2
    simp only [place]
    split
    · rename_i hlt
      refine List.pairwise_cons.2 ⟨fun e he => ?_, h⟩
      rcases List.mem_cons.1 he with rfl | he
      · exact hlt
      · exact String.lt_trans hlt (hd' e he)
    · split
      · rename_i _ heq
        subst heq
        exact List.pairwise_cons.2 ⟨hd', tl'⟩
      · rename_i hlt hne
        refine List.pairwise_cons.2 ⟨fun e he => ?_, ih tl'⟩
        rcases mem_place he with rfl | he
        · exact lt_of_not_lt_of_ne hlt hne
        · exact hd' e he

/-! ## Operations -/

/-- The dictionary with `k` mapped to `v`, and otherwise unchanged. -/
def insert (d : Dict α) (k : String) (v : α) : Dict α :=
  ⟨place k v d.entries, place_sorted d.sorted⟩

/-- The value of a key. -/
def get? (d : Dict α) (k : String) : Option α :=
  (d.entries.find? fun e => e.1 == k).map Prod.snd

/-- Whether a key has a value. -/
def contains (d : Dict α) (k : String) : Bool := (d.get? k).isSome

/-- The keys in order. -/
def keys (d : Dict α) : List String := d.entries.map Prod.fst

/-- The values in the order of their keys. -/
def values (d : Dict α) : List α := d.entries.map Prod.snd

/-- The number of entries. -/
def size (d : Dict α) : Nat := d.entries.length

/-- Whether there is no entry. -/
def isEmpty (d : Dict α) : Bool := d.entries.isEmpty

/-- The dictionary of a list of pairs; of two pairs with one key the later counts. -/
def ofList (l : List (String × α)) : Dict α := l.foldl (fun d e => d.insert e.1 e.2) empty

/-- Applies a function to every value. -/
def mapValues (f : String → α → β) (d : Dict α) : Dict β :=
  ⟨d.entries.map fun e => (e.1, f e.1 e.2), by
    rw [List.pairwise_map]; exact d.sorted⟩

/-- The entries that a test accepts. -/
def filter (p : String → α → Bool) (d : Dict α) : Dict α :=
  ⟨d.entries.filter fun e => p e.1 e.2, d.sorted.filter _⟩

/-! ## Laws -/

@[simp] theorem get?_empty (k : String) : (empty : Dict α).get? k = none := rfl

theorem find?_place (k k' : String) (v : α) (l : List (String × α)) :
    ((place k v l).find? fun e => e.1 == k').map Prod.snd =
      if k = k' then some v else (l.find? fun e => e.1 == k').map Prod.snd := by
  induction l with
  | nil =>
    by_cases h : k = k'
    · simp [place, h]
    · simp [place, h, beq_eq_false_iff_ne.2 h]
  | cons hd tl ih =>
    obtain ⟨a, b⟩ := hd
    simp only [place]
    split
    · by_cases h : k = k'
      · simp [h]
      · rw [List.find?_cons, beq_eq_false_iff_ne.2 h, if_neg h]
    · split
      · rename_i _ heq
        subst heq
        by_cases h : k = k'
        · simp [h]
        · simp [beq_eq_false_iff_ne.2 h, h]
      · rename_i _ hne
        by_cases ha : a = k'
        · have hk : k ≠ k' := fun h => hne (h.trans ha.symm)
          simp [ha, hk]
        · rw [List.find?_cons, List.find?_cons, beq_eq_false_iff_ne.2 ha]
          exact ih

/-- A look-up after an insertion finds the new value at its key and the old one elsewhere. -/
theorem get?_insert (d : Dict α) (k k' : String) (v : α) :
    (d.insert k v).get? k' = if k = k' then some v else d.get? k' :=
  find?_place k k' v d.entries

theorem get?_eq_some_iff (d : Dict α) (k : String) (v : α) :
    d.get? k = some v ↔ (k, v) ∈ d.entries := by
  obtain ⟨l, hl⟩ := d
  simp only [get?]
  induction l with
  | nil => simp
  | cons hd tl ih =>
    obtain ⟨a, b⟩ := hd
    have hd' := (List.pairwise_cons.1 hl).1
    have ih := ih (List.pairwise_cons.1 hl).2
    by_cases h : a = k
    · subst h
      simp only [List.find?, beq_self_eq_true, Option.map_some, Option.some.injEq, List.mem_cons,
        Prod.mk.injEq, true_and]
      constructor
      · exact fun h => Or.inl h.symm
      · rintro (h | h)
        · exact h.symm
        · exact absurd (hd' _ h) (String.lt_irrefl _)
    · simp only [List.find?, beq_eq_false_iff_ne.2 h, List.mem_cons, Prod.mk.injEq, Ne.symm h,
        false_and, false_or]
      exact ih

/-- Two increasing lists with the same members are equal. -/
theorem eq_of_mem_iff {l₁ l₂ : List (String × α)} (h₁ : l₁.Pairwise (fun a b => a.1 < b.1))
    (h₂ : l₂.Pairwise (fun a b => a.1 < b.1)) (h : ∀ e, e ∈ l₁ ↔ e ∈ l₂) : l₁ = l₂ := by
  induction l₁ generalizing l₂ with
  | nil =>
    cases l₂ with
    | nil => rfl
    | cons b l₂ => exact absurd ((h b).2 (by simp)) (by simp)
  | cons a l₁ ih =>
    cases l₂ with
    | nil => exact absurd ((h a).1 (by simp)) (by simp)
    | cons b l₂ =>
      have ha := (List.pairwise_cons.1 h₁).1
      have hb := (List.pairwise_cons.1 h₂).1
      have hab : a = b := by
        rcases List.mem_cons.1 ((h a).1 (by simp)) with e | m
        · exact e
        · rcases List.mem_cons.1 ((h b).2 (by simp)) with e | m'
          · exact e.symm
          · exact absurd (String.lt_trans (ha b m') (hb a m)) (String.lt_irrefl _)
      subst hab
      rw [ih (List.pairwise_cons.1 h₁).2 (List.pairwise_cons.1 h₂).2]
      intro e
      constructor
      · intro he
        rcases List.mem_cons.1 ((h e).1 (List.mem_cons_of_mem _ he)) with rfl | m
        · exact absurd (ha _ he) (String.lt_irrefl _)
        · exact m
      · intro he
        rcases List.mem_cons.1 ((h e).2 (List.mem_cons_of_mem _ he)) with rfl | m
        · exact absurd (hb _ he) (String.lt_irrefl _)
        · exact m

/-- Dictionaries that answer every look-up alike are equal. -/
theorem ext_get? {a b : Dict α} (h : ∀ k, a.get? k = b.get? k) : a = b :=
  ext_entries <| eq_of_mem_iff a.sorted b.sorted fun e => by
    rw [← get?_eq_some_iff a e.1 e.2, ← get?_eq_some_iff b e.1 e.2, h]

theorem get?_mapValues (f : String → α → β) (d : Dict α) (k : String) :
    (d.mapValues f).get? k = (d.get? k).map (f k) := by
  obtain ⟨l, hl⟩ := d
  unfold mapValues get?
  dsimp only
  clear hl
  induction l with
  | nil => rfl
  | cons e l ih =>
      rw [List.map_cons, List.find?_cons, List.find?_cons]
      by_cases h : (e.1 == k) = true
      · simp [beq_iff_eq.1 h]
      · simpa [h] using ih

/-- Inserting pairs whose keys are all different. -/
theorem get?_foldl_insert (l : List (String × α)) (hl : l.Pairwise fun a b => a.1 < b.1)
    (d : Dict α) (k : String) :
    (l.foldl (fun d e => d.insert e.1 e.2) d).get? k =
      ((l.find? fun e => e.1 == k).map Prod.snd).or (d.get? k) := by
  induction l generalizing d with
  | nil => rfl
  | cons e l ih =>
      obtain ⟨he, hl⟩ := List.pairwise_cons.1 hl
      rw [List.foldl_cons, ih hl, get?_insert, List.find?_cons]
      by_cases h : e.1 = k
      · have hnone : (l.find? fun e => e.1 == k) = none := by
          refine List.find?_eq_none.2 fun e' he' => ?_
          rw [beq_iff_eq, ← h]
          exact fun heq => String.lt_irrefl _ (heq ▸ he e' he')
        simp [h, hnone]
      · rw [if_neg h, beq_eq_false_iff_ne.2 h]

/-- A dictionary is made again of its entries. -/
theorem ofList_entries (d : Dict α) : ofList d.entries = d :=
  ext_get? fun k => by
    rw [ofList, get?_foldl_insert d.entries d.sorted, get?_empty, Option.or_none, get?]

theorem mem_ofList {l : List (String × α)} {e : String × α} (h : e ∈ (ofList l).entries) :
    e ∈ l := by
  have hfold : ∀ (l : List (String × α)) (d : Dict α),
      e ∈ (l.foldl (fun d e => d.insert e.1 e.2) d).entries → e ∈ l ∨ e ∈ d.entries := by
    intro l
    induction l with
    | nil => exact fun d he => .inr he
    | cons e' l ih =>
        intro d he
        rcases ih _ he with hl | hd
        · exact .inl (List.mem_cons_of_mem _ hl)
        · rcases mem_place hd with rfl | hd
          · exact .inl List.mem_cons_self
          · exact .inr hd
  exact (hfold l empty h).resolve_right List.not_mem_nil

/-- Of pairs with different keys none is lost. -/
theorem get?_ofList_eq_some_iff {l : List (String × α)} (h : (l.map Prod.fst).Nodup) (k : String)
    (v : α) : (ofList l).get? k = some v ↔ (k, v) ∈ l := by
  have hfold : ∀ (l : List (String × α)) (d : Dict α), (l.map Prod.fst).Nodup →
      ((l.foldl (fun d e => d.insert e.1 e.2) d).get? k = some v ↔
        (k, v) ∈ l ∨ k ∉ l.map Prod.fst ∧ d.get? k = some v) := by
    intro l
    induction l with
    | nil => simp
    | cons e l ih =>
        intro d hl
        rw [List.map_cons, List.nodup_cons] at hl
        rw [List.foldl_cons, ih _ hl.2, get?_insert, List.map_cons]
        by_cases hk : e.1 = k
        · subst hk
          have hlast : ∀ v', (e.1, v') ∉ l := fun v' hmem =>
            hl.1 (List.mem_map.2 ⟨_, hmem, rfl⟩)
          simp [hlast, hl.1, Prod.ext_iff, eq_comm]
        · have hother : ¬ (k, v) = e := fun heq => hk (by rw [← heq])
          simp [hk, hother, Ne.symm hk]
  rw [ofList, hfold l empty h]
  simp

theorem contains_eq_true_iff (d : Dict α) (k : String) : d.contains k = true ↔ k ∈ d.keys := by
  simp only [contains, Option.isSome_iff_exists, keys, List.mem_map]
  constructor
  · rintro ⟨v, h⟩
    exact ⟨(k, v), (get?_eq_some_iff d k v).1 h, rfl⟩
  · rintro ⟨⟨k', v⟩, h, rfl⟩
    exact ⟨v, (get?_eq_some_iff d _ v).2 h⟩

/-- The keys are the texts with an answer. -/
theorem mem_keys_iff (d : Dict α) (k : String) : k ∈ d.keys ↔ ∃ v, d.get? k = some v := by
  rw [← contains_eq_true_iff, contains, Option.isSome_iff_exists]

/-- The keys increase strictly. -/
theorem keys_sorted (d : Dict α) : d.keys.Pairwise (· < ·) := by
  rw [keys, List.pairwise_map]; exact d.sorted

end Dict

/-! ## Sets of names -/

/-- A finite set of texts, sorted. -/
abbrev NameSet := Dict Unit

namespace NameSet

/-- The members in order. -/
def toList (s : NameSet) : List String := Dict.keys s

/-- The set with one more member. -/
def add (s : NameSet) (x : String) : NameSet := Dict.insert s x ()

/-- Whether a text is a member. -/
def has (s : NameSet) (x : String) : Bool := Dict.contains s x

/-- The set of the texts in a list. -/
def ofNames (l : List String) : NameSet := l.foldl add Dict.empty

/-- The set with the members of both. -/
def union (s t : NameSet) : NameSet := (toList t).foldl add s

theorem mem_add (s : NameSet) (x y : String) : y ∈ (s.add x).toList ↔ y = x ∨ y ∈ s.toList := by
  simp only [toList, Dict.mem_keys_iff, add, Dict.get?_insert]
  by_cases h : x = y
  · simp [h]
  · simp [h, Ne.symm h]

theorem mem_foldl_add (l : List String) (s : NameSet) (y : String) :
    y ∈ (l.foldl add s).toList ↔ y ∈ l ∨ y ∈ s.toList := by
  induction l generalizing s with
  | nil => simp
  | cons x l ih =>
    simp only [List.foldl_cons, ih, mem_add, List.mem_cons]
    constructor
    · rintro (h | h | h) <;> simp [h]
    · rintro ((h | h) | h) <;> simp [h]

theorem mem_union (s t : NameSet) (y : String) :
    y ∈ (s.union t).toList ↔ y ∈ s.toList ∨ y ∈ t.toList := by
  rw [union, mem_foldl_add, or_comm]

theorem mem_ofNames (l : List String) (y : String) : y ∈ (ofNames l).toList ↔ y ∈ l := by
  rw [ofNames, mem_foldl_add]
  exact or_iff_left nofun

/-- Sets with the same members are equal. -/
theorem ext_mem {s t : NameSet} (h : ∀ y, y ∈ s.toList ↔ y ∈ t.toList) : s = t := by
  refine Dict.ext_get? fun y => Option.ext fun u => ?_
  have hmem : ∀ r : NameSet, Dict.get? r y = some u ↔ y ∈ r.toList := fun r =>
    ⟨fun hu => (Dict.mem_keys_iff r y).2 ⟨u, hu⟩, fun hy => (Dict.mem_keys_iff r y).1 hy |>.elim fun _ hv => hv⟩
  rw [hmem, hmem, h]

end NameSet

end FeatureScan
