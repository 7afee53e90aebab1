import FeatureScan.Css.Scan

/-!
# Scanning up to a seam

Two sources are joined at a seam: the first one keeps its characters, its lines may be renumbered,
and the second one stands behind it. A scanner that stops before the seam must not notice. It may
look up to three characters beyond what it takes, so the seam has to be guarded: right before it
stands a sign that ends constructs, which no scanner looks past. A scanner that does not stop before
the end of the first source does not stop before the seam either.

## Main results

* `IsLocal.bind`, `IsLocal.ite`: scanners made of local scanners are local.
* `isLocal_scanString`, `isLocal_scanIdentLike`: strings, names, functions and addresses are read in
  a local way.
-/

namespace FeatureScan.Css

/-- A character on another line. -/
abbrev SourceChar.relined (g : Nat → Nat) (c : SourceChar) : SourceChar := ⟨c.char, g c.line⟩

/-- Whether a character ends a construct at its level. -/
def endsConstruct (c : Char) : Bool := c == ';' || c == '\x7d'

/-- Whether no scanner looks past a character: one that ends a construct, or the sign in front of the
keyword of an at-rule. -/
def guards (c : Char) : Bool := endsConstruct c || c == '@'

namespace Source

/-- A source with its lines renumbered, and another source behind it. -/
def joined (g : Nat → Nat) (b s : Source) : Source := s.map (SourceChar.relined g) ++ b

@[simp] theorem joined_nil (g : Nat → Nat) (b : Source) : joined g b [] = b := rfl

@[simp] theorem joined_cons (g : Nat → Nat) (b : Source) (c : SourceChar) (s : Source) :
    joined g b (c :: s) = c.relined g :: joined g b s := rfl

theorem joined_id (b s : Source) : joined id b s = s ++ b := by
  rw [joined]
  congr 1
  exact List.map_id _

@[simp] theorem length_joined (g : Nat → Nat) (b s : Source) :
    (joined g b s).length = s.length + b.length := by
  simp [joined]

/-- The seam behind `s` is guarded: nothing stands behind it, or a guard stands right before it. -/
def Guarded (b s : Source) : Prop := b = [] ∨ ∃ c ∈ s.getLast?, guards c.char = true

theorem Guarded.of_suffix {b r s : Source} (h : Guarded b r) (hs : r <:+ s) : Guarded b s := by
  rcases h with h | ⟨c, hc, he⟩
  · exact Or.inl h
  · obtain ⟨t, rfl⟩ := hs
    refine Or.inr ⟨c, ?_, he⟩
    rw [Option.mem_def] at hc ⊢
    rw [List.getLast?_append, hc, Option.some_or]

theorem Guarded.suffix {b r s : Source} (h : Guarded b s) (hs : r <:+ s) (hr : r ≠ []) :
    Guarded b r := by
  rcases h with h | ⟨c, hc, he⟩
  · exact Or.inl h
  · obtain ⟨t, rfl⟩ := hs
    refine Or.inr ⟨c, ?_, he⟩
    rw [Option.mem_def] at hc ⊢
    rwa [List.getLast?_append, List.getLast?_eq_some_getLast hr, Option.some_or,
      ← List.getLast?_eq_some_getLast hr] at hc

theorem Guarded.eq_nil {b : Source} (h : Guarded b []) : b = [] := by
  simpa [Guarded] using h

/-- The guard is not the first character, so it stands in the rest. -/
theorem Guarded.tail {b s : Source} {c : SourceChar} (h : Guarded b (c :: s))
    (hc : guards c.char = false) : Guarded b s := by
  rcases h with h | ⟨d, hd, he⟩
  · exact Or.inl h
  · cases s with
    | nil =>
        simp only [List.getLast?_singleton, Option.mem_def, Option.some.injEq] at hd
        rw [← hd, hc] at he
        cases he
    | cons e s =>
        rw [List.getLast?_cons_cons] at hd
        exact Or.inr ⟨d, hd, he⟩

/-- A source that ends with a guard, if it has an end. Any seam behind it is guarded. -/
def Sealed (s : Source) : Prop := ∀ c ∈ s.getLast?, guards c.char = true

theorem Sealed.suffix {r s : Source} (h : Sealed s) (hr : r <:+ s) : Sealed r := by
  obtain ⟨t, rfl⟩ := hr
  intro c hc
  refine h c ?_
  rw [Option.mem_def] at hc ⊢
  rw [List.getLast?_append, hc, Option.some_or]

theorem Sealed.guarded {s : Source} (h : Sealed s) (hs : s ≠ []) (b : Source) : Guarded b s :=
  Or.inr ⟨s.getLast hs, List.getLast?_eq_some_getLast hs, h _ (List.getLast?_eq_some_getLast hs)⟩

/-- A last character that is no guard does not seal. -/
theorem Sealed.ne_nil {s : Source} {c : SourceChar} (h : Sealed (c :: s))
    (hc : guards c.char = false) : s ≠ [] := by
  rintro rfl
  rw [h c rfl] at hc
  cases hc

/-! ## Looking ahead -/

section LookAhead

variable {g : Nat → Nat} {b s : Source}

theorem peek?_joined (h : Guarded b s) : peek? (joined g b s) = peek? s := by
  cases s with
  | nil => rw [h.eq_nil]; rfl
  | cons c s => rfl

theorem isEmpty_joined (h : Guarded b s) : (joined g b s).isEmpty = s.isEmpty := by
  cases s with
  | nil => rw [h.eq_nil]; rfl
  | cons c s => rfl

theorem atLineEnd_joined (h : Guarded b s) : atLineEnd (joined g b s) = atLineEnd s := by
  rw [atLineEnd, atLineEnd, peek?_joined h]

theorem second?_cons (c : SourceChar) (s : Source) : second? (c :: s) = peek? s := by
  cases s <;> rfl

theorem third?_cons (c : SourceChar) (s : Source) : third? (c :: s) = second? s := by
  cases s with
  | nil => rfl
  | cons d s => cases s <;> rfl

theorem second?_joined (h : Guarded b s) (hs : ∀ c ∈ peek? s, guards c = false) :
    second? (joined g b s) = second? s := by
  cases s with
  | nil => rw [h.eq_nil]; rfl
  | cons c s =>
      rw [joined_cons, second?_cons, second?_cons, peek?_joined (h.tail (hs _ rfl))]

theorem third?_joined (h : Guarded b s) (hs : ∀ c ∈ peek? s, guards c = false)
    (hs' : ∀ c ∈ second? s, guards c = false) :
    third? (joined g b s) = third? s := by
  cases s with
  | nil => rw [h.eq_nil]; rfl
  | cons c s =>
      rw [second?_cons] at hs'
      rw [joined_cons, third?_cons, third?_cons, second?_joined (h.tail (hs _ rfl)) hs']

theorem atIdent_joined (h : Guarded b s) : atIdent (joined g b s) = atIdent s := by
  unfold atIdent
  rw [peek?_joined h]
  split
  · rfl
  · rw [second?_joined h (by simp_all [guards, endsConstruct])]
  · rw [second?_joined h (by simp_all [guards, endsConstruct])]
  · rfl

end LookAhead

end Source

open Source

/-! ## Local scanners -/

/-- A scanner takes from the front, and in front of a guarded seam it notices nothing of what stands
behind. If it takes all there is in front, it goes on to the seam at least. -/
structure IsLocal {α : Type} (f : Source → α × Source) : Prop where
  suffix : ∀ s, (f s).2 <:+ s
  joined : ∀ {g : Nat → Nat} {b s : Source}, Guarded b (f s).2 →
    f (Source.joined g b s) = ((f s).1, Source.joined g b (f s).2)
  reaches_of_ne_nil : ∀ {g : Nat → Nat} {b s : Source}, Sealed s → s ≠ [] → (f s).2 = [] →
    (f (Source.joined g b s)).2 <:+ b

theorem IsLocal.reaches {α : Type} {f : Source → α × Source} (h : IsLocal f) {g : Nat → Nat}
    {b s : Source} (hs : Sealed s) (hnil : (f s).2 = []) : (f (Source.joined g b s)).2 <:+ b := by
  cases s with
  | nil => exact h.suffix b
  | cons c s => exact h.reaches_of_ne_nil hs (List.cons_ne_nil c s) hnil

/-- A scanner stops in front of a seam as if nothing stood behind it, or goes on to the seam. -/
theorem IsLocal.joined_or_reaches {α : Type} {f : Source → α × Source} (h : IsLocal f)
    (g : Nat → Nat) (b : Source) {s : Source} (hs : Sealed s) :
    f (Source.joined g b s) = ((f s).1, Source.joined g b (f s).2) ∨
      (f s).2 = [] ∧ (f (Source.joined g b s)).2 <:+ b := by
  by_cases hnil : (f s).2 = []
  · exact Or.inr ⟨hnil, h.reaches hs hnil⟩
  · exact Or.inl (h.joined ((hs.suffix (h.suffix s)).guarded hnil b))

theorem IsLocal.guarded {α : Type} {f : Source → α × Source} (h : IsLocal f) {b s : Source}
    (hb : Guarded b (f s).2) : Guarded b s := hb.of_suffix (h.suffix s)

theorem suffix_tail (s : Source) : s.tail <:+ s := List.tail_suffix s

theorem tail_joined {g : Nat → Nat} {b s : Source} (h : Guarded b s.tail) :
    (joined g b s).tail = joined g b s.tail := by
  cases s with
  | nil => rw [Guarded.eq_nil h]; rfl
  | cons c s => rfl

theorem drop_joined {g : Nat → Nat} {b : Source} (n : Nat) {s : Source} (h : Guarded b (s.drop n)) :
    (joined g b s).drop n = joined g b (s.drop n) := by
  induction n generalizing s with
  | zero => rfl
  | succ n ih =>
      cases s with
      | nil =>
          rw [List.drop_nil] at h
          rw [h.eq_nil]
          rfl
      | cons c s => exact ih h

theorem tail_reaches {g : Nat → Nat} {b s : Source} (h : s.tail = []) :
    (joined g b s).tail <:+ b := by
  cases s with
  | nil => exact suffix_tail b
  | cons c s =>
      obtain rfl : s = [] := h
      exact List.suffix_refl b

theorem drop_reaches {g : Nat → Nat} {b s : Source} (n : Nat) (h : s.drop n = []) :
    (joined g b s).drop n <:+ b := by
  rw [joined, List.drop_append, ← List.map_drop, h]
  exact List.drop_suffix _ b

theorem dropWhile_joined {g : Nat → Nat} {b : Source} (p : Char → Bool) {s : Source}
    (h : Guarded b (s.dropWhile fun c => p c.char)) :
    ((joined g b s).dropWhile fun c => p c.char) = joined g b (s.dropWhile fun c => p c.char) := by
  induction s with
  | nil => rw [Guarded.eq_nil h]; rfl
  | cons c s ih =>
      rw [List.dropWhile_cons] at h
      rw [joined_cons, List.dropWhile_cons, List.dropWhile_cons]
      split
      · rename_i hc
        rw [if_pos hc] at h
        exact ih h
      · rfl

section Combining

variable {α β : Type}

theorem isLocal_pure (a : α) : IsLocal fun s => (a, s) where
  suffix _ := List.suffix_refl _
  joined _ := rfl
  reaches_of_ne_nil _ hs h := absurd h hs

theorem isLocal_tail (a : α) : IsLocal fun s => (a, s.tail) where
  suffix := suffix_tail
  joined h := Prod.ext rfl (tail_joined h)
  reaches_of_ne_nil _ _ h := tail_reaches h

theorem IsLocal.bind {f : Source → α × Source} {k : α → Source → β × Source} (hf : IsLocal f)
    (hk : ∀ a, IsLocal (k a)) : IsLocal fun s => k (f s).1 (f s).2 where
  suffix s := ((hk _).suffix _).trans (hf.suffix s)
  joined {g b s} h := by
    rw [hf.joined ((hk _).guarded h)]
    exact (hk _).joined h
  reaches_of_ne_nil {g b s} hs _ h := by
    rcases hf.joined_or_reaches g b hs with hj | ⟨-, hr⟩
    · rw [hj]
      exact (hk _).reaches (hs.suffix (hf.suffix s)) h
    · exact ((hk _).suffix _).trans hr

theorem IsLocal.map {f : Source → α × Source} (hf : IsLocal f) (k : α → β) :
    IsLocal fun s => (k (f s).1, (f s).2) :=
  hf.bind fun a => isLocal_pure (k a)

/-- A choice is local if its condition does not look past a guard. -/
theorem IsLocal.ite {p : Source → Bool} {f k : Source → α × Source}
    (hp : ∀ {g : Nat → Nat} {b s : Source}, Guarded b s → p (Source.joined g b s) = p s)
    (hf : IsLocal f) (hk : IsLocal k) : IsLocal fun s => if p s then f s else k s where
  suffix s := by
    split
    · exact hf.suffix s
    · exact hk.suffix s
  joined {g b s} h := by
    cases hps : p s with
    | true =>
        rw [hps, if_pos rfl] at h
        rw [hp (hf.guarded h), hps, if_pos rfl, if_pos rfl, hf.joined h]
    | false =>
        rw [hps, if_neg Bool.false_ne_true] at h
        rw [hp (hk.guarded h), hps, if_neg Bool.false_ne_true, if_neg Bool.false_ne_true,
          hk.joined h]
  reaches_of_ne_nil {g b s} hs hne h := by
    rw [hp (hs.guarded hne b)]
    split
    · rename_i hps
      rw [if_pos hps] at h
      exact hf.reaches hs h
    · rename_i hps
      rw [if_neg hps] at h
      exact hk.reaches hs h

/-- A scanner that looks at the first character, and either takes it and goes on in a local way, or
stops in front of it. -/
theorem isLocal_ofHead {f : Source → α × Source} (a : α) (e : Char → α) (p : Char → Bool)
    (k : Char → Source → α × Source) (hk : ∀ c, IsLocal (k c)) (hnil : f [] = (a, []))
    (hcons : ∀ c s, f (c :: s) = if p c.char then k c.char s else (e c.char, c :: s)) :
    IsLocal f where
  suffix s := by
    cases s with
    | nil => simp only [hnil, List.suffix_refl]
    | cons c s =>
        rw [hcons]
        split
        · exact ((hk _).suffix s).trans (List.suffix_cons c s)
        · exact List.suffix_refl _
  joined {g b s} h := by
    cases s with
    | nil =>
        rw [hnil] at h
        rw [Guarded.eq_nil h, Source.joined_nil, hnil]
        rfl
    | cons c s =>
        rw [hcons] at h
        rw [Source.joined_cons, hcons, hcons]
        cases hc : p c.char with
        | true =>
            rw [hc, if_pos rfl] at h
            rw [if_pos rfl, if_pos rfl, (hk _).joined h]
        | false =>
            rw [if_neg Bool.false_ne_true, if_neg Bool.false_ne_true]
            rfl
  reaches_of_ne_nil {g b s} hs hne h := by
    cases s with
    | nil => exact absurd rfl hne
    | cons c s =>
        rw [hcons] at h
        rw [Source.joined_cons, hcons]
        split at h
        · rename_i hc
          rw [if_pos hc]
          exact (hk _).reaches (hs.suffix (List.suffix_cons c s)) h
        · cases h

end Combining

/-! ## Escapes -/

theorem isLocal_scanHex (left value : Nat) : IsLocal (scanHex left value) := by
  induction left generalizing value with
  | zero => exact isLocal_pure value
  | succ left ih =>
      refine isLocal_ofHead value (fun _ => value) (fun c => (hexValue? c).isSome)
        (fun c => scanHex left (16 * value + (hexValue? c).getD 0)) (fun c => ih _) rfl ?_
      intro c s
      rw [scanHex]
      cases hexValue? c.char <;> rfl

theorem isLocal_dropOneSpace : IsLocal fun s => ((), dropOneSpace s) := by
  refine isLocal_ofHead () (fun _ => ()) isSpace
    (fun c s => if c == '\r' && peek? s == some '\n' then ((), s.tail) else ((), s)) ?_ rfl ?_
  · intro c
    exact IsLocal.ite (p := fun s => c == '\r' && peek? s == some '\n')
      (fun h => by rw [peek?_joined h]) (isLocal_tail ()) (isLocal_pure ())
  · intro c s
    rw [dropOneSpace]
    by_cases hc : c.char = '\r'
    · cases hp : peek? s == some '\n' <;> simp [hc, isSpace, isLineEnd]
    · cases hsp : isSpace c.char <;> simp [hc]

theorem isLocal_scanEscape : IsLocal scanEscape := by
  have hdigits : IsLocal fun s =>
      (charOfCode (scanHex 6 0 s).1, dropOneSpace (scanHex 6 0 s).2) :=
    (isLocal_scanHex 6 0).bind fun n => isLocal_dropOneSpace.map fun _ => charOfCode n
  have hother : IsLocal fun s => (((peek? s).filter (·.toNat ≠ 0)).getD '\ufffd', s.tail) :=
    isLocal_ofHead '\ufffd' id (fun _ => true)
      (fun c s => ((some c |>.filter (·.toNat ≠ 0)).getD '\ufffd', s)) (fun _ => isLocal_pure _) rfl
      (fun _ _ => rfl)
  have hboth := IsLocal.ite (p := fun s => (peek? s).any fun c => (hexValue? c).isSome)
    (fun h => by rw [peek?_joined h]) hdigits hother
  refine cast (congrArg IsLocal (funext fun s => ?_)) hboth
  cases s with
  | nil => rfl
  | cons c s =>
      rw [scanEscape]
      by_cases hz : c.char.toNat = 0 <;> simp [peek?, hz, Option.filter]

/-! ## Names -/

theorem suffix_scanNameFrom (fuel : Nat) (name : List Char) (s : Source) :
    (scanNameFrom fuel name s).2 <:+ s := by
  fun_induction scanNameFrom fuel name s with
  | case1 => exact List.suffix_refl _
  | case2 => exact List.suffix_refl _
  | case3 _ _ c s _ ih => exact ih.trans (List.suffix_cons c s)
  | case4 => exact List.suffix_refl _
  | case5 _ _ c s _ _ _ e rest hr ih =>
      have := isLocal_scanEscape.suffix s
      rw [hr] at this
      exact (ih.trans this).trans (List.suffix_cons c s)
  | case6 _ _ c s _ _ _ ih => exact ih.trans (List.suffix_cons c s)
  | case7 => exact List.suffix_refl _

/-- Reading a name does not depend on the room given, as long as there is enough. -/
theorem scanNameFrom_joined {g : Nat → Nat} {b : Source} (n : Nat) (name : List Char) (s : Source)
    (hn : s.length < n) (h : Guarded b (scanNameFrom n name s).2) (m : Nat)
    (hm : (joined g b s).length < m) :
    scanNameFrom m name (joined g b s) =
      ((scanNameFrom n name s).1, joined g b (scanNameFrom n name s).2) := by
  obtain ⟨m, rfl⟩ : ∃ k, m = k + 1 := ⟨m - 1, by omega⟩
  fun_induction scanNameFrom n name s generalizing m with
  | case1 => simp at hn
  | case2 => rw [Guarded.eq_nil h]; rfl
  | case3 n name c s hc ih =>
      rw [joined_cons, scanNameFrom, if_pos hc]
      simp only [length_joined, joined_cons, List.length_cons] at hn hm ih
      obtain ⟨m, rfl⟩ : ∃ k, m = k + 1 := ⟨m - 1, by omega⟩
      exact ih (by omega) h m (by omega)
  | case4 n name c s hc hb hl =>
      have hs : Guarded b s := h.tail (by simp_all [guards, endsConstruct])
      rw [joined_cons, scanNameFrom, if_neg hc, if_pos hb, atLineEnd_joined hs, if_pos hl]
  | case5 n name c s hc hb hl e rest hr ih =>
      have hrest : Guarded b rest := h.of_suffix (suffix_scanNameFrom _ _ _)
      have hle := (isLocal_scanEscape.suffix s).length_le
      have hs : Guarded b s := isLocal_scanEscape.guarded (by rw [hr]; exact hrest)
      have hesc := isLocal_scanEscape.joined (g := g) (s := s) (by rw [hr]; exact hrest)
      rw [hr] at hesc hle
      rw [joined_cons, scanNameFrom, if_neg hc, if_pos hb, atLineEnd_joined hs, if_neg hl, hesc]
      simp only [length_joined, joined_cons, List.length_cons] at hn hm ih hle
      obtain ⟨m, rfl⟩ : ∃ k, m = k + 1 := ⟨m - 1, by omega⟩
      exact ih (by omega) h m (by omega)
  | case6 n name c s hc hb hz ih =>
      rw [joined_cons, scanNameFrom, if_neg hc, if_neg hb, if_pos hz]
      simp only [length_joined, joined_cons, List.length_cons] at hn hm ih
      obtain ⟨m, rfl⟩ : ∃ k, m = k + 1 := ⟨m - 1, by omega⟩
      exact ih (by omega) h m (by omega)
  | case7 n name c s hc hb hz =>
      rw [joined_cons, scanNameFrom, if_neg hc, if_neg hb, if_neg hz]

/-- A name that goes on to the end of a source goes on to what stands behind it. -/
theorem scanNameFrom_reaches {g : Nat → Nat} {b : Source} (n : Nat) (name : List Char) (s : Source)
    (hn : s.length < n) (hs : Sealed s) (h : (scanNameFrom n name s).2 = []) (m : Nat)
    (hm : (joined g b s).length < m) : (scanNameFrom m name (joined g b s)).2 <:+ b := by
  obtain ⟨m, rfl⟩ : ∃ k, m = k + 1 := ⟨m - 1, by omega⟩
  fun_induction scanNameFrom n name s generalizing m with
  | case1 => simp at hn
  | case2 => exact suffix_scanNameFrom _ _ _
  | case3 n name c s hc ih =>
      rw [joined_cons, scanNameFrom, if_pos hc]
      simp only [length_joined, joined_cons, List.length_cons] at hn hm ih
      obtain ⟨m, rfl⟩ : ∃ k, m = k + 1 := ⟨m - 1, by omega⟩
      exact ih (by omega) (hs.suffix (List.suffix_cons c s)) h m (by omega)
  | case4 => cases h
  | case5 n name c s hc hb hl e rest hr ih =>
      have htail : Sealed s := hs.suffix (List.suffix_cons c s)
      have hne : s ≠ [] := hs.ne_nil (by simp_all [guards, endsConstruct])
      have hle := (isLocal_scanEscape.suffix s).length_le
      have hrest := htail.suffix (isLocal_scanEscape.suffix s)
      have hesc := isLocal_scanEscape.joined_or_reaches g b htail
      rw [hr] at hesc hle hrest
      rw [joined_cons, scanNameFrom, if_neg hc, if_pos hb, atLineEnd_joined (htail.guarded hne b),
        if_neg hl]
      simp only [length_joined, joined_cons, List.length_cons] at hn hm ih hle
      rcases hesc with hesc | ⟨-, hesc⟩
      · rw [hesc]
        obtain ⟨m, rfl⟩ : ∃ k, m = k + 1 := ⟨m - 1, by omega⟩
        exact ih (by omega) hrest h m (by omega)
      · exact (suffix_scanNameFrom _ _ _).trans hesc
  | case6 n name c s hc hb hz ih =>
      rw [joined_cons, scanNameFrom, if_neg hc, if_neg hb, if_pos hz]
      simp only [length_joined, joined_cons, List.length_cons] at hn hm ih
      obtain ⟨m, rfl⟩ : ∃ k, m = k + 1 := ⟨m - 1, by omega⟩
      exact ih (by omega) (hs.suffix (List.suffix_cons c s)) h m (by omega)
  | case7 => cases h

theorem isLocal_scanName : IsLocal scanName where
  suffix s := suffix_scanNameFrom _ _ _
  joined {g b s} h := by
    have := scanNameFrom_joined (g := g) (s.length + 1) [] s (by omega) h
      ((joined g b s).length + 1) (by omega)
    rw [scanName, this]
    rfl
  reaches_of_ne_nil hs _ h :=
    scanNameFrom_reaches _ [] _ (Nat.lt_succ_self _) hs h _ (Nat.lt_succ_self _)

/-! ## Strings -/

theorem suffix_scanStringFrom (quote : Char) (fuel : Nat) (value : List Char) (s : Source) :
    (scanStringFrom quote fuel value s).2 <:+ s := by
  fun_induction scanStringFrom quote fuel value s with
  | case1 => exact List.suffix_refl _
  | case2 => exact List.suffix_refl _
  | case3 _ _ c s => exact List.suffix_cons c s
  | case4 => exact List.suffix_refl _
  | case5 _ _ c s => exact List.nil_suffix
  | case6 _ _ c s _ _ _ _ _ ih =>
      exact (ih.trans (isLocal_dropOneSpace.suffix s)).trans (List.suffix_cons c s)
  | case7 _ _ c s _ _ _ _ _ e rest hr ih =>
      have := isLocal_scanEscape.suffix s
      rw [hr] at this
      exact (ih.trans this).trans (List.suffix_cons c s)
  | case8 _ _ c s _ _ _ _ ih => exact ih.trans (List.suffix_cons c s)
  | case9 _ _ c s _ _ _ _ ih => exact ih.trans (List.suffix_cons c s)

theorem scanStringFrom_joined {g : Nat → Nat} {b : Source} (quote : Char) (n : Nat)
    (value : List Char) (s : Source) (hn : s.length < n)
    (h : Guarded b (scanStringFrom quote n value s).2) :
    ∀ m, (joined g b s).length < m →
      scanStringFrom quote m value (joined g b s) =
        ((scanStringFrom quote n value s).1, joined g b (scanStringFrom quote n value s).2) := by
  intro m hm
  obtain ⟨m, rfl⟩ : ∃ k, m = k + 1 := ⟨m - 1, by omega⟩
  fun_induction scanStringFrom quote n value s generalizing m with
  | case1 => simp at hn
  | case2 => rw [Guarded.eq_nil h]; rfl
  | case3 n value c s hc =>
      rw [joined_cons, scanStringFrom, if_pos hc]
  | case4 n value c s hc hl =>
      rw [joined_cons, scanStringFrom, if_neg hc, if_pos hl]
  | case5 n value c s hc hl hb he =>
      rw [joined_cons, scanStringFrom, if_neg hc, if_neg hl, if_pos hb]
      rw [List.isEmpty_iff.1 he, Guarded.eq_nil h]
      rfl
  | case6 n value c s hc hl hb he ha ih =>
      have hs : Guarded b s :=
        isLocal_dropOneSpace.guarded (h.of_suffix (suffix_scanStringFrom _ _ _ _))
      have hd : dropOneSpace (joined g b s) = joined g b (dropOneSpace s) :=
        (Prod.mk.inj (isLocal_dropOneSpace.joined (h.of_suffix (suffix_scanStringFrom _ _ _ _)))).2
      have hle := (isLocal_dropOneSpace.suffix s).length_le
      rw [joined_cons, scanStringFrom, if_neg hc, if_neg hl, if_pos hb, isEmpty_joined hs,
        if_neg he, atLineEnd_joined hs, if_pos ha, hd]
      simp only [length_joined, joined_cons, List.length_cons] at hn hm ih hle
      obtain ⟨m, rfl⟩ : ∃ k, m = k + 1 := ⟨m - 1, by omega⟩
      exact ih (by omega) h m (by omega)
  | case7 n value c s hc hl hb he ha e rest hr ih =>
      have hrest : Guarded b rest := h.of_suffix (suffix_scanStringFrom _ _ _ _)
      have hle := (isLocal_scanEscape.suffix s).length_le
      have hs : Guarded b s := isLocal_scanEscape.guarded (by rw [hr]; exact hrest)
      have hesc := isLocal_scanEscape.joined (g := g) (s := s) (by rw [hr]; exact hrest)
      rw [hr] at hesc hle
      rw [joined_cons, scanStringFrom, if_neg hc, if_neg hl, if_pos hb, isEmpty_joined hs,
        if_neg he, atLineEnd_joined hs, if_neg ha, hesc]
      simp only [length_joined, joined_cons, List.length_cons] at hn hm ih hle
      obtain ⟨m, rfl⟩ : ∃ k, m = k + 1 := ⟨m - 1, by omega⟩
      exact ih (by omega) h m (by omega)
  | case8 n value c s hc hl hb hz ih =>
      rw [joined_cons, scanStringFrom, if_neg hc, if_neg hl, if_neg hb, if_pos hz]
      simp only [length_joined, joined_cons, List.length_cons] at hn hm ih
      obtain ⟨m, rfl⟩ : ∃ k, m = k + 1 := ⟨m - 1, by omega⟩
      exact ih (by omega) h m (by omega)
  | case9 n value c s hc hl hb hz ih =>
      rw [joined_cons, scanStringFrom, if_neg hc, if_neg hl, if_neg hb, if_neg hz]
      simp only [length_joined, joined_cons, List.length_cons] at hn hm ih
      obtain ⟨m, rfl⟩ : ∃ k, m = k + 1 := ⟨m - 1, by omega⟩
      exact ih (by omega) h m (by omega)

theorem scanStringFrom_reaches {g : Nat → Nat} {b : Source} (quote : Char) (n : Nat)
    (value : List Char) (s : Source) (hn : s.length < n) (hs : Sealed s)
    (h : (scanStringFrom quote n value s).2 = []) :
    ∀ m, (joined g b s).length < m → (scanStringFrom quote m value (joined g b s)).2 <:+ b := by
  intro m hm
  obtain ⟨m, rfl⟩ : ∃ k, m = k + 1 := ⟨m - 1, by omega⟩
  fun_induction scanStringFrom quote n value s generalizing m with
  | case1 => simp at hn
  | case2 => exact suffix_scanStringFrom _ _ _ _
  | case3 n value c s hc =>
      rw [joined_cons, scanStringFrom, if_pos hc, show s = [] from h]
      exact List.suffix_refl b
  | case4 => cases h
  | case5 n value c s hc hl hb he =>
      exact absurd (List.isEmpty_iff.1 he) (hs.ne_nil (by simp_all [guards, endsConstruct]))
  | case6 n value c s hc hl hb he ha ih =>
      have htail : Sealed s := hs.suffix (List.suffix_cons c s)
      have hg := htail.guarded (hs.ne_nil (by simp_all [guards, endsConstruct])) b
      have hle := (isLocal_dropOneSpace.suffix s).length_le
      rw [joined_cons, scanStringFrom, if_neg hc, if_neg hl, if_pos hb, isEmpty_joined hg,
        if_neg he, atLineEnd_joined hg, if_pos ha]
      simp only [length_joined, joined_cons, List.length_cons] at hn hm ih hle
      rcases isLocal_dropOneSpace.joined_or_reaches g b htail with hd | ⟨-, hd⟩
      · rw [show dropOneSpace (joined g b s) = _ from (Prod.mk.inj hd).2]
        obtain ⟨m, rfl⟩ : ∃ k, m = k + 1 := ⟨m - 1, by omega⟩
        exact ih (by omega) (htail.suffix (isLocal_dropOneSpace.suffix s)) h m (by omega)
      · exact (suffix_scanStringFrom _ _ _ _).trans hd
  | case7 n value c s hc hl hb he ha e rest hr ih =>
      have htail : Sealed s := hs.suffix (List.suffix_cons c s)
      have hg := htail.guarded (hs.ne_nil (by simp_all [guards, endsConstruct])) b
      have hle := (isLocal_scanEscape.suffix s).length_le
      have hrest := htail.suffix (isLocal_scanEscape.suffix s)
      have hesc := isLocal_scanEscape.joined_or_reaches g b htail
      rw [hr] at hesc hle hrest
      rw [joined_cons, scanStringFrom, if_neg hc, if_neg hl, if_pos hb, isEmpty_joined hg,
        if_neg he, atLineEnd_joined hg, if_neg ha]
      simp only [length_joined, joined_cons, List.length_cons] at hn hm ih hle
      rcases hesc with hesc | ⟨-, hesc⟩
      · rw [hesc]
        obtain ⟨m, rfl⟩ : ∃ k, m = k + 1 := ⟨m - 1, by omega⟩
        exact ih (by omega) hrest h m (by omega)
      · exact (suffix_scanStringFrom _ _ _ _).trans hesc
  | case8 n value c s hc hl hb hz ih =>
      rw [joined_cons, scanStringFrom, if_neg hc, if_neg hl, if_neg hb, if_pos hz]
      simp only [length_joined, joined_cons, List.length_cons] at hn hm ih
      obtain ⟨m, rfl⟩ : ∃ k, m = k + 1 := ⟨m - 1, by omega⟩
      exact ih (by omega) (hs.suffix (List.suffix_cons c s)) h m (by omega)
  | case9 n value c s hc hl hb hz ih =>
      rw [joined_cons, scanStringFrom, if_neg hc, if_neg hl, if_neg hb, if_neg hz]
      simp only [length_joined, joined_cons, List.length_cons] at hn hm ih
      obtain ⟨m, rfl⟩ : ∃ k, m = k + 1 := ⟨m - 1, by omega⟩
      exact ih (by omega) (hs.suffix (List.suffix_cons c s)) h m (by omega)

theorem isLocal_scanString (quote : Char) : IsLocal (scanString quote) where
  suffix s := suffix_scanStringFrom _ _ _ _
  joined {g b s} h :=
    scanStringFrom_joined quote (s.length + 1) [] s (by omega) h
      ((joined g b s).length + 1) (by omega)
  reaches_of_ne_nil hs _ h :=
    scanStringFrom_reaches quote _ [] _ (Nat.lt_succ_self _) hs h _ (Nat.lt_succ_self _)

/-! ## Addresses -/

theorem suffix_skipBadUrl (s : Source) : skipBadUrl s <:+ s := by
  fun_induction skipBadUrl s with
  | case1 => exact List.suffix_refl _
  | case2 => exact List.suffix_refl _
  | case3 => exact List.nil_suffix
  | case4 => exact List.suffix_refl _
  | case5 c d s _ _ ih => exact (ih.trans (List.suffix_cons d s)).trans (List.suffix_cons c _)
  | case6 c d s _ _ ih => exact ih.trans (List.suffix_cons c _)

theorem skipBadUrl_joined {g : Nat → Nat} {b s : Source} (h : Guarded b (skipBadUrl s).tail) :
    skipBadUrl (joined g b s) = joined g b (skipBadUrl s) := by
  fun_induction skipBadUrl s with
  | case1 => rw [Guarded.eq_nil h]; rfl
  | case2 c hc =>
      rw [Guarded.eq_nil h, joined_cons, joined_nil, skipBadUrl, if_pos hc]
  | case3 c hc =>
      rw [Guarded.eq_nil h, joined_cons, joined_nil, skipBadUrl, if_neg hc]
  | case4 c d s hc =>
      rw [joined_cons, joined_cons, skipBadUrl, if_pos hc]
  | case5 c d s hc hd ih =>
      rw [joined_cons, joined_cons, skipBadUrl, if_neg hc, if_pos hd, ih h]
  | case6 c d s hc hd ih =>
      rw [joined_cons, joined_cons, skipBadUrl, if_neg hc, if_neg hd, ← joined_cons, ih h]

theorem skipBadUrl_reaches {g : Nat → Nat} {b s : Source} (hs : Sealed s)
    (h : (skipBadUrl s).tail = []) : (skipBadUrl (joined g b s)).tail <:+ b := by
  fun_induction skipBadUrl s with
  | case1 => exact (suffix_tail _).trans (suffix_skipBadUrl b)
  | case2 c hc => exact absurd rfl (hs.ne_nil (by simp_all [guards, endsConstruct]))
  | case3 c hc =>
      have hb : c.char ≠ '\\' := by
        intro hb
        exact absurd rfl (hs.ne_nil (by simp [hb, guards, endsConstruct]))
      rw [joined_cons, joined_nil]
      cases b with
      | nil =>
          rw [skipBadUrl, if_neg hc]
          exact List.suffix_refl _
      | cons d b =>
          rw [skipBadUrl, if_neg hc, if_neg (by simp [hb])]
          exact (suffix_tail _).trans (suffix_skipBadUrl _)
  | case4 => cases h
  | case5 c d s hc hd ih =>
      rw [joined_cons, joined_cons, skipBadUrl, if_neg hc, if_pos hd]
      exact ih (hs.suffix ((List.suffix_cons d s).trans (List.suffix_cons c _))) h
  | case6 c d s hc hd ih =>
      rw [joined_cons, joined_cons, skipBadUrl, if_neg hc, if_neg hd, ← joined_cons]
      exact ih (hs.suffix (List.suffix_cons c _)) h

theorem suffix_badUrl (start s : Source) : (badUrl start s).2 <:+ s :=
  (suffix_tail _).trans (suffix_skipBadUrl s)

/-- The written text of a bad address lies in front of the seam. -/
theorem text_take_joined {g : Nat → Nat} {b r s : Source} (hr : r <:+ s) :
    Source.text ((joined g b s).take ((joined g b s).length - (joined g b r).length)) =
      Source.text (s.take (s.length - r.length)) := by
  obtain ⟨t, rfl⟩ := hr
  have hlen : (joined g b (t ++ r)).length - (joined g b r).length = t.length := by
    simp only [length_joined, List.length_append]
    omega
  have hlen' : (t ++ r).length - r.length = t.length := by simp
  rw [hlen, hlen', List.take_left]
  rw [joined, List.map_append, List.append_assoc, List.take_left' (by simp)]
  simp [Source.text, Function.comp_def]

theorem badUrl_joined {g : Nat → Nat} {b start s : Source} (hs : s <:+ start)
    (h : Guarded b (badUrl start s).2) :
    badUrl (joined g b start) (joined g b s) =
      ((badUrl start s).1, joined g b (badUrl start s).2) := by
  have hskip := skipBadUrl_joined (g := g) (b := b) (s := s) h
  simp only [badUrl, hskip, text_take_joined ((suffix_skipBadUrl s).trans hs)]
  rw [tail_joined h]

theorem suffix_endUrl (start : Source) (value : String) (s : Source) :
    (endUrl start value s).2 <:+ s := by
  have hd := List.dropWhile_suffix (l := s) fun c => isSpace c.char
  unfold endUrl
  split
  · exact List.nil_suffix
  · rename_i c rest heq
    rw [heq] at hd
    have hrest := (List.suffix_cons c rest).trans hd
    split
    · exact hrest
    · exact (suffix_badUrl start rest).trans hrest

theorem endUrl_joined {g : Nat → Nat} {b start s : Source} (value : String) (hs : s <:+ start)
    (h : Guarded b (endUrl start value s).2) :
    endUrl (joined g b start) value (joined g b s) =
      ((endUrl start value s).1, joined g b (endUrl start value s).2) := by
  have hd := List.dropWhile_suffix (l := s) fun c => isSpace c.char
  have hj : Guarded b (s.dropWhile fun c => isSpace c.char) := by
    unfold endUrl at h
    split at h
    · rename_i heq
      rw [heq]
      exact h
    · rename_i c rest heq
      rw [heq]
      split at h
      · exact h.of_suffix (List.suffix_cons c rest)
      · exact h.of_suffix ((suffix_badUrl start rest).trans (List.suffix_cons c rest))
  unfold endUrl at h ⊢
  rw [dropWhile_joined isSpace hj]
  split at h
  · rename_i heq
    rw [heq, Guarded.eq_nil h]
    rfl
  · rename_i c rest heq
    rw [heq] at hd ⊢
    rw [joined_cons]
    split at h
    · rename_i hc
      simp only [hc, if_true]
    · rename_i hc
      simp only [hc]
      exact badUrl_joined (((List.suffix_cons c rest).trans hd).trans hs) h

/-- A sealed source is no white space. -/
theorem eq_nil_of_dropWhile_isSpace {s : Source} (hs : Sealed s)
    (h : (s.dropWhile fun c => isSpace c.char) = []) : s = [] := by
  by_cases hne : s = []
  · exact hne
  exfalso
  have htake := List.takeWhile_append_dropWhile (p := fun c => isSpace c.char) (l := s)
  rw [h, List.append_nil] at htake
  have hspace := List.all_eq_true.1 (List.all_takeWhile (p := fun c => isSpace c.char) (l := s))
    (s.getLast hne) (htake.symm ▸ List.getLast_mem hne)
  have hguard := hs _ (List.getLast?_eq_some_getLast hne)
  generalize (s.getLast hne).char = c at hspace hguard
  rcases (by simpa [guards, endsConstruct, or_assoc] using hguard :
    c = ';' ∨ c = '\x7d' ∨ c = '@') with rfl | rfl | rfl <;> cases hspace

theorem endUrl_reaches {g : Nat → Nat} {b start s : Source} (start' : Source) (value : String)
    (hs : Sealed s) (h : (endUrl start value s).2 = []) :
    (endUrl start' value (joined g b s)).2 <:+ b := by
  have hd := List.dropWhile_suffix (l := s) fun c => isSpace c.char
  have hnil := eq_nil_of_dropWhile_isSpace hs
  unfold endUrl at h
  split at h
  · rename_i heq
    rw [hnil heq]
    exact suffix_endUrl _ _ b
  · rename_i c rest heq
    rw [heq] at hd
    have hw := hs.suffix hd
    have hj := dropWhile_joined (g := g) (b := b) (s := s) isSpace
      (by rw [heq]; exact hw.guarded (List.cons_ne_nil c rest) b)
    rw [endUrl, hj, heq, joined_cons]
    dsimp only
    split at h
    · rename_i hc
      rw [if_pos hc, show rest = [] from h]
      exact List.suffix_refl b
    · rename_i hc
      rw [if_neg hc]
      exact skipBadUrl_reaches (hw.suffix (List.suffix_cons c rest)) h

theorem suffix_scanUrlFrom (start : Source) (fuel : Nat) (value : List Char) (s : Source) :
    (scanUrlFrom start fuel value s).2 <:+ s := by
  fun_induction scanUrlFrom start fuel value s with
  | case1 => exact List.suffix_refl _
  | case2 => exact List.suffix_refl _
  | case3 => exact suffix_endUrl _ _ _
  | case4 _ _ c s => exact List.suffix_cons c s
  | case5 _ _ c s => exact (suffix_badUrl start s).trans (List.suffix_cons c s)
  | case6 _ _ c s => exact (suffix_badUrl start s).trans (List.suffix_cons c s)
  | case7 _ _ c s _ _ _ _ _ e rest hr ih =>
      have := isLocal_scanEscape.suffix s
      rw [hr] at this
      exact (ih.trans this).trans (List.suffix_cons c s)
  | case8 _ _ c s _ _ _ _ _ ih => exact ih.trans (List.suffix_cons c s)
  | case9 _ _ c s _ _ _ _ _ ih => exact ih.trans (List.suffix_cons c s)

theorem scanUrlFrom_joined {g : Nat → Nat} {b : Source} (start : Source) (n : Nat)
    (value : List Char) (s : Source) (hs : s <:+ start) (hn : s.length < n)
    (h : Guarded b (scanUrlFrom start n value s).2) (m : Nat) (hm : (joined g b s).length < m) :
    scanUrlFrom (joined g b start) m value (joined g b s) =
      ((scanUrlFrom start n value s).1, joined g b (scanUrlFrom start n value s).2) := by
  obtain ⟨m, rfl⟩ : ∃ k, m = k + 1 := ⟨m - 1, by omega⟩
  fun_induction scanUrlFrom start n value s generalizing m with
  | case1 => simp at hn
  | case2 => rw [Guarded.eq_nil h]; rfl
  | case3 n value c s hc =>
      rw [joined_cons, scanUrlFrom, if_pos hc, ← joined_cons]
      exact endUrl_joined _ hs h
  | case4 n value c s hc hp =>
      rw [joined_cons, scanUrlFrom, if_neg hc, if_pos hp]
  | case5 n value c s hc hp hb =>
      rw [joined_cons, scanUrlFrom, if_neg hc, if_neg hp, if_pos hb]
      exact badUrl_joined ((List.suffix_cons c s).trans hs) h
  | case6 n value c s hc hp hb he ha =>
      have hg : Guarded b s := h.of_suffix (suffix_badUrl start s)
      rw [joined_cons, scanUrlFrom, if_neg hc, if_neg hp, if_neg hb, if_pos he,
        atLineEnd_joined hg, if_pos ha]
      exact badUrl_joined ((List.suffix_cons c s).trans hs) h
  | case7 n value c s hc hp hb he ha e rest hr ih =>
      have hrest : Guarded b rest := h.of_suffix (suffix_scanUrlFrom _ _ _ _)
      have hsuf := isLocal_scanEscape.suffix s
      have hg : Guarded b s := isLocal_scanEscape.guarded (by rw [hr]; exact hrest)
      have hesc := isLocal_scanEscape.joined (g := g) (s := s) (by rw [hr]; exact hrest)
      rw [hr] at hesc hsuf
      have hle := hsuf.length_le
      rw [joined_cons, scanUrlFrom, if_neg hc, if_neg hp, if_neg hb, if_pos he,
        atLineEnd_joined hg, if_neg ha, hesc]
      simp only [length_joined, joined_cons, List.length_cons] at hn hm ih hle
      obtain ⟨m, rfl⟩ : ∃ k, m = k + 1 := ⟨m - 1, by omega⟩
      exact ih ((hsuf.trans (List.suffix_cons c s)).trans hs) (by omega) h m (by omega)
  | case8 n value c s hc hp hb he hz ih =>
      rw [joined_cons, scanUrlFrom, if_neg hc, if_neg hp, if_neg hb, if_neg he, if_pos hz]
      simp only [length_joined, joined_cons, List.length_cons] at hn hm ih
      obtain ⟨m, rfl⟩ : ∃ k, m = k + 1 := ⟨m - 1, by omega⟩
      exact ih ((List.suffix_cons c s).trans hs) (by omega) h m (by omega)
  | case9 n value c s hc hp hb he hz ih =>
      rw [joined_cons, scanUrlFrom, if_neg hc, if_neg hp, if_neg hb, if_neg he, if_neg hz]
      simp only [length_joined, joined_cons, List.length_cons] at hn hm ih
      obtain ⟨m, rfl⟩ : ∃ k, m = k + 1 := ⟨m - 1, by omega⟩
      exact ih ((List.suffix_cons c s).trans hs) (by omega) h m (by omega)

theorem scanUrlFrom_reaches {g : Nat → Nat} {b : Source} (start start' : Source) (n : Nat)
    (value : List Char) (s : Source) (hn : s.length < n) (hs : Sealed s)
    (h : (scanUrlFrom start n value s).2 = []) (m : Nat) (hm : (joined g b s).length < m) :
    (scanUrlFrom start' m value (joined g b s)).2 <:+ b := by
  obtain ⟨m, rfl⟩ : ∃ k, m = k + 1 := ⟨m - 1, by omega⟩
  fun_induction scanUrlFrom start n value s generalizing m with
  | case1 => simp at hn
  | case2 => exact suffix_scanUrlFrom _ _ _ _
  | case3 n value c s hc =>
      rw [joined_cons, scanUrlFrom, if_pos hc, ← joined_cons]
      exact endUrl_reaches _ _ hs h
  | case4 n value c s hc hp =>
      rw [joined_cons, scanUrlFrom, if_neg hc, if_pos hp, show s = [] from h]
      exact List.suffix_refl b
  | case5 n value c s hc hp hb =>
      rw [joined_cons, scanUrlFrom, if_neg hc, if_neg hp, if_pos hb]
      exact skipBadUrl_reaches (hs.suffix (List.suffix_cons c s)) h
  | case6 n value c s hc hp hb he ha =>
      have htail : Sealed s := hs.suffix (List.suffix_cons c s)
      have hne : s ≠ [] := hs.ne_nil (by simp_all [guards, endsConstruct])
      rw [joined_cons, scanUrlFrom, if_neg hc, if_neg hp, if_neg hb, if_pos he,
        atLineEnd_joined (htail.guarded hne b), if_pos ha]
      exact skipBadUrl_reaches htail h
  | case7 n value c s hc hp hb he ha e rest hr ih =>
      have htail : Sealed s := hs.suffix (List.suffix_cons c s)
      have hne : s ≠ [] := hs.ne_nil (by simp_all [guards, endsConstruct])
      have hle := (isLocal_scanEscape.suffix s).length_le
      have hrest := htail.suffix (isLocal_scanEscape.suffix s)
      have hesc := isLocal_scanEscape.joined_or_reaches g b htail
      rw [hr] at hesc hle hrest
      rw [joined_cons, scanUrlFrom, if_neg hc, if_neg hp, if_neg hb, if_pos he,
        atLineEnd_joined (htail.guarded hne b), if_neg ha]
      simp only [length_joined, joined_cons, List.length_cons] at hn hm ih hle
      rcases hesc with hesc | ⟨-, hesc⟩
      · rw [hesc]
        obtain ⟨m, rfl⟩ : ∃ k, m = k + 1 := ⟨m - 1, by omega⟩
        exact ih (by omega) hrest h m (by omega)
      · exact (suffix_scanUrlFrom _ _ _ _).trans hesc
  | case8 n value c s hc hp hb he hz ih =>
      rw [joined_cons, scanUrlFrom, if_neg hc, if_neg hp, if_neg hb, if_neg he, if_pos hz]
      simp only [length_joined, joined_cons, List.length_cons] at hn hm ih
      obtain ⟨m, rfl⟩ : ∃ k, m = k + 1 := ⟨m - 1, by omega⟩
      exact ih (by omega) (hs.suffix (List.suffix_cons c s)) h m (by omega)
  | case9 n value c s hc hp hb he hz ih =>
      rw [joined_cons, scanUrlFrom, if_neg hc, if_neg hp, if_neg hb, if_neg he, if_neg hz]
      simp only [length_joined, joined_cons, List.length_cons] at hn hm ih
      obtain ⟨m, rfl⟩ : ∃ k, m = k + 1 := ⟨m - 1, by omega⟩
      exact ih (by omega) (hs.suffix (List.suffix_cons c s)) h m (by omega)

/-- The source behind an address, where a quote comes first: there is none, and nothing is taken. -/
theorem isLocal_scanUrl? (t : Token) : IsLocal fun s => (scanUrl? s).getD (t, s) where
  suffix s := by
    have hd := List.dropWhile_suffix (l := s) fun c => isSpace c.char
    dsimp only [scanUrl?]
    split
    · exact List.nil_suffix
    · rename_i c rest heq
      rw [heq] at hd
      split
      · exact List.suffix_refl _
      · split
        · exact (List.suffix_cons c rest).trans hd
        · exact (suffix_scanUrlFrom _ _ _ _).trans (by rw [heq]; exact hd)
  joined {g b s} h := by
    have hd := List.dropWhile_suffix (l := s) fun c => isSpace c.char
    dsimp only [scanUrl?] at h ⊢
    generalize hstart : (s.dropWhile fun c => isSpace c.char) = start at h hd ⊢
    cases start with
    | nil =>
        have hj := dropWhile_joined (g := g) (b := b) (s := s) isSpace (by rw [hstart]; exact h)
        rw [hj, hstart, Guarded.eq_nil h]
        rfl
    | cons c rest =>
        dsimp only at h ⊢
        have hc : Guarded b (c :: rest) := by
          split at h
          · exact h.suffix hd (by simp)
          · split at h
            · exact h.of_suffix (List.suffix_cons c rest)
            · exact h.of_suffix (suffix_scanUrlFrom _ _ _ _)
        have hj := dropWhile_joined (g := g) (b := b) (s := s) isSpace (by rw [hstart]; exact hc)
        rw [hj, hstart, joined_cons]
        dsimp only
        split at h
        · rename_i hq
          rw [if_pos hq, if_pos hq]
          rfl
        · rename_i hq
          rw [if_neg hq, if_neg hq]
          split at h
          · rename_i hp
            rw [if_pos hp, if_pos hp]
            rfl
          · rename_i hp
            rw [if_neg hp, if_neg hp]
            exact scanUrlFrom_joined (c :: rest) _ [] (c :: rest) (List.suffix_refl _) (by omega) h _
              (by simp)
  reaches_of_ne_nil {g b s} hs hne h := by
    have hd := List.dropWhile_suffix (l := s) fun c => isSpace c.char
    have hnil := eq_nil_of_dropWhile_isSpace hs
    dsimp only [scanUrl?] at h ⊢
    generalize hstart : (s.dropWhile fun c => isSpace c.char) = start at h hd hnil ⊢
    cases start with
    | nil => exact absurd (hnil rfl) hne
    | cons c rest =>
        have hw := hs.suffix hd
        have hj := dropWhile_joined (g := g) (b := b) (s := s) isSpace
          (by rw [hstart]; exact hw.guarded (List.cons_ne_nil c rest) b)
        rw [hj, hstart, joined_cons]
        dsimp only at h ⊢
        split at h
        · exact absurd h hne
        · rename_i hq
          rw [if_neg hq]
          split at h
          · rename_i hp
            rw [if_pos hp, show rest = [] from h]
            exact List.suffix_refl b
          · rename_i hp
            rw [if_neg hp, ← joined_cons]
            exact scanUrlFrom_reaches _ _ _ [] (c :: rest) (Nat.lt_succ_self _) hw h _
              (Nat.lt_succ_self _)

/-- What follows a name: the parenthesis that makes it a function or an address, or nothing that
belongs to it. -/
def scanCall (name : String) (s : Source) : Token × Source :=
  if peek? s == some '(' then
    if Text.asciiLower name == "url" then (scanUrl? s.tail).getD (.function name, s.tail)
    else (.function name, s.tail)
  else (.ident name, s)

theorem scanIdentLike_eq (s : Source) :
    scanIdentLike s = scanCall (scanName s).1 (scanName s).2 := by
  unfold scanIdentLike scanCall
  generalize scanName s = p
  obtain ⟨name, rest⟩ := p
  cases rest with
  | nil => rfl
  | cons c rest => simp [peek?]

theorem isLocal_scanCall (name : String) : IsLocal (scanCall name) := by
  refine IsLocal.ite (p := fun s => peek? s == some '(') (fun h => by rw [peek?_joined h]) ?_
    (isLocal_pure _)
  split
  · exact (isLocal_tail ()).bind fun _ => isLocal_scanUrl? (.function name)
  · exact isLocal_tail _

theorem isLocal_scanIdentLike : IsLocal scanIdentLike :=
  funext scanIdentLike_eq ▸ isLocal_scanName.bind isLocal_scanCall

end FeatureScan.Css
