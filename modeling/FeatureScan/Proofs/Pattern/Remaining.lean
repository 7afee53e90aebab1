import FeatureScan.Pattern.Reader

/-!
# What readers of patterns leave

Whatever a reader takes from the text of a pattern, it takes from the front.

## Main results

* `suffix_readEscape`, `suffix_readClass`, `suffix_readCounts`, `suffix_readOpening`: the readers of
  constructs.
* `suffix_step`: one step through a pattern.
-/

namespace FeatureScan.Pattern

variable {s : Switches}

/-! ## Spacing and characters -/

theorem suffix_skipSpacing (inComment : Bool) (cs : List Char) :
    skipSpacing inComment cs <:+ cs := by
  fun_induction skipSpacing inComment cs with
  | case1 => exact List.suffix_refl _
  | case2 c cs ih => exact ih.trans (List.suffix_cons c cs)
  | case3 c cs _ ih => exact ih.trans (List.suffix_cons c cs)
  | case4 c cs _ _ ih => exact ih.trans (List.suffix_cons c cs)
  | case5 => exact List.suffix_refl _

theorem suffix_skip (s : Switches) (cs : List Char) : skip s cs <:+ cs := by
  unfold skip
  split
  · exact suffix_skipSpacing _ _
  · exact List.suffix_refl _

/-- What follows a character that spacing was skipped to. -/
theorem suffix_of_skip_eq {cs rest : List Char} {c : Char} (h : skip s cs = c :: rest) :
    rest <:+ cs :=
  (List.suffix_cons c rest).trans (h ▸ suffix_skip s cs)

theorem suffix_hexRun {n v : Nat} {cs : List Char} {r : Nat × List Char}
    (h : hexRun s n v cs = some r) : r.2 <:+ cs := by
  fun_induction hexRun s n v cs with
  | case1 =>
      cases h
      exact List.suffix_refl _
  | case2 => cases h
  | case3 n v c cs d hd ih => exact ((ih h).trans (suffix_skip s cs)).trans (List.suffix_cons c cs)
  | case4 => cases h

theorem suffix_untilBrace {cs : List Char} {r : List Char × List Char}
    (h : untilBrace s cs = some r) : r.2 <:+ cs := by
  fun_induction untilBrace s cs generalizing r with
  | case1 => cases h
  | case2 c cs =>
      cases h
      exact List.suffix_cons c cs
  | case3 c cs _ ih =>
      obtain ⟨r', hr', rfl⟩ := Option.map_eq_some_iff.1 h
      exact ((ih hr').trans (suffix_skip s cs)).trans (List.suffix_cons c cs)

theorem suffix_readHex {digits : Nat} {cs : List Char} {r : Atom × List Char}
    (h : readHex s digits cs = some r) : r.2 <:+ cs := by
  unfold readHex at h
  split at h
  · cases h
  · rename_i rest heq
    split at h
    · cases h
    · rename_i ds rest' hbrace
      split at h
      · cases h
      · cases h
        exact ((suffix_skip s rest').trans (suffix_untilBrace hbrace)).trans
          ((suffix_skip s rest).trans (suffix_of_skip_eq heq))
  · split at h
    · cases h
    · rename_i v rest hrun
      obtain ⟨c, -, rfl⟩ := Option.map_eq_some_iff.1 h
      exact (suffix_hexRun hrun).trans (suffix_skip s cs)

theorem suffix_readProperty {negated : Bool} {cs : List Char} {r : Atom × List Char}
    (h : readProperty s negated cs = some r) : r.2 <:+ cs := by
  have hfinish : ∀ {set? : Option CharSet} {rest : List Char},
      (if s.unicode then
        (set?.bind (finishClass s negated)).map fun set => (Atom.set set, rest)
      else none) = some r → r.2 = rest := by
    intro set? rest h
    split at h
    · obtain ⟨set, -, rfl⟩ := Option.map_eq_some_iff.1 h
      rfl
    · cases h
  unfold readProperty at h
  dsimp only at h
  split at h
  · cases h
  · rename_i rest heq
    obtain ⟨r', hr', h⟩ := Option.bind_eq_some_iff.1 h
    rw [hfinish h]
    exact (suffix_untilBrace hr').trans ((suffix_skip s rest).trans (suffix_of_skip_eq heq))
  · cases h
  · rename_i c rest _ _ heq
    rw [hfinish h]
    exact (suffix_skip s rest).trans (suffix_of_skip_eq heq)

/-! ## Escapes -/

theorem suffix_testName (s : Switches) (cs : List Char) : (testName s cs).2 <:+ cs := by
  fun_induction testName s cs with
  | case1 => exact List.suffix_refl _
  | case2 c cs _ r ih => exact (ih.trans (suffix_skip s cs)).trans (List.suffix_cons c cs)
  | case3 => exact List.suffix_refl _

theorem suffix_readBoundary {cs : List Char} {r : WordTest × List Char}
    (h : readBoundary s cs = some r) : r.2 <:+ cs := by
  unfold readBoundary at h
  split at h
  · rename_i rest
    split at h
    · cases h
    · rename_i c cs' heq
      split at h
      · split at h
        · rename_i name rest' hname
          obtain ⟨t, -, rfl⟩ := Option.map_eq_some_iff.1 h
          have hsuf : rest' <:+ c :: cs' := by
            have htest := suffix_testName s (c :: cs')
            rw [hname] at htest
            exact (List.suffix_cons _ rest').trans htest
          exact (hsuf.trans (heq ▸ suffix_skip s rest)).trans (List.suffix_cons _ rest)
        · cases h
      · cases h
        exact List.suffix_refl _
  · cases h
    exact List.suffix_refl _

theorem suffix_readEscape {cs : List Char} {r : Atom × List Char}
    (h : readEscape s cs = some r) : r.2 <:+ cs := by
  cases cs with
  | nil => cases h
  | cons c cs =>
      refine List.IsSuffix.trans ?_ (List.suffix_cons c cs)
      unfold readEscape at h
      dsimp only at h
      split at h
      · cases h
        exact List.suffix_refl _
      · split at h
        · exact suffix_readHex h
        · exact suffix_readHex h
        · exact suffix_readHex h
        · exact suffix_readProperty h
        · exact suffix_readProperty h
        all_goals first
          | (obtain ⟨set, -, rfl⟩ := Option.map_eq_some_iff.1 h
             exact List.suffix_refl _)
          | (cases h
             exact List.suffix_refl _)
          | (obtain ⟨t, ht, rfl⟩ := Option.map_eq_some_iff.1 h
             exact suffix_readBoundary ht)

/-! ## Classes -/

theorem suffix_readAsciiClass? {cs : List Char} {r : Option CharSet × List Char}
    (h : readAsciiClass? s cs = some r) : r.2 <:+ cs := by
  unfold readAsciiClass? at h
  split at h
  · rename_i cs
    dsimp only at h
    split at h
    · rename_i rest heq
      obtain ⟨set, -, rfl⟩ := Option.map_eq_some_iff.1 h
      have htail : rest <:+ ':' :: ']' :: rest :=
        (List.suffix_cons _ rest).trans (List.suffix_cons _ _)
      have hname := (heq ▸ htail).trans (List.dropWhile_suffix _)
      split at hname
      · exact (hname.trans (List.suffix_cons _ _)).trans (List.suffix_cons _ _)
      · exact hname.trans (List.suffix_cons _ _)
    · cases h
  · cases h

theorem suffix_leadingHyphens {room : Nat} {i : ClassItems} {cs : List Char}
    {r : ClassItems × List Char} (h : leadingHyphens s room i cs = some r) : r.2 <:+ cs := by
  fun_induction leadingHyphens s room i cs with
  | case1 => cases h
  | case2 i cs =>
      cases h
      exact List.suffix_refl _
  | case3 room i c cs _ ih => exact ((ih h).trans (suffix_skip s cs)).trans (List.suffix_cons c cs)
  | case4 room i c cs =>
      cases h
      exact List.suffix_refl _

theorem suffix_readClassStart {cs : List Char} {r : Bool × ClassItems × List Char}
    (h : readClassStart s cs = some r) : r.2.2 <:+ cs := by
  unfold readClassStart at h
  dsimp only at h
  split at h
  · cases h
  · rename_i items rest hhyphens
    have hrest : rest <:+ cs := by
      have hfront := suffix_leadingHyphens hhyphens
      split at hfront
      · rename_i rest' heq
        exact (hfront.trans (suffix_skip s rest')).trans (suffix_of_skip_eq heq)
      · exact hfront.trans (suffix_skip s cs)
    split at h
    · rename_i rest'
      split at h
      · split at h
        · cases h
        · cases h
          exact ((suffix_skip s rest').trans (List.suffix_cons _ rest')).trans hrest
      · cases h
        exact hrest
    · cases h
      exact hrest

theorem suffix_readClassAtom {cs : List Char} {r : Atom × List Char}
    (h : readClassAtom s cs = some r) : r.2 <:+ cs := by
  unfold readClassAtom at h
  split at h
  · cases h
  · exact (suffix_readEscape h).trans (List.suffix_cons _ _)
  · cases h
    exact List.suffix_cons _ _

theorem suffix_readClassItem {cs : List Char} {r : CharSet × List Char}
    (h : readClassItem s cs = some r) : r.2 <:+ cs := by
  unfold readClassItem at h
  split at h
  · cases h
  · rename_i a rest hatom
    have hrest : rest <:+ cs := suffix_readClassAtom hatom
    split at h
    · cases h
    · rename_i c rest' heq
      have hrest' : rest' <:+ cs := (suffix_of_skip_eq heq).trans hrest
      dsimp only at h
      split at h
      · split at h
        · cases h
        · rename_i b rest'' hatom'
          have hrest'' : rest'' <:+ cs :=
            ((suffix_readClassAtom hatom').trans (suffix_skip s rest')).trans hrest'
          split at h
          · split at h
            · cases h
              exact hrest''
            · cases h
          · cases h
      · obtain ⟨set, -, rfl⟩ := Option.map_eq_some_iff.1 h
        exact (heq ▸ suffix_skip s rest).trans hrest

theorem suffix_readClassFrom {room : Nat} {levels : List OpenClass} {items : ClassItems}
    {cs : List Char} {r : ClassSide × List Char}
    (h : readClassFrom s room levels items cs = some r) : r.2 <:+ cs := by
  induction room generalizing levels items cs with
  | zero => cases h
  | succ room ih =>
      unfold readClassFrom at h
      split at h
      · cases h
      · cases h
      · rename_i level outer c rest heq
        have hrest : rest <:+ cs := suffix_of_skip_eq heq
        dsimp only at h
        split at h
        · split at h
          · rename_i set rest' hascii
            exact (ih h).trans ((suffix_readAsciiClass? hascii).trans hrest)
          · cases h
          · split at h
            · cases h
            · rename_i negated inner rest' hstart
              exact (ih h).trans ((suffix_readClassStart hstart).trans hrest)
        · split at h
          · split at h
            · cases h
            · split at h
              · cases h
                exact hrest
              · exact (ih h).trans hrest
          · split at h
            · exact (ih h).trans ((List.drop_suffix 1 rest).trans hrest)
            · split at h
              · cases h
              · rename_i set rest' hitem
                exact (ih h).trans ((suffix_readClassItem hitem).trans (heq ▸ suffix_skip s cs))

theorem suffix_readClass {cs : List Char} {r : ClassSide × List Char}
    (h : readClass s cs = some r) : r.2 <:+ cs := by
  unfold readClass at h
  split at h
  · cases h
  · rename_i negated items rest hstart
    exact (suffix_readClassFrom h).trans (suffix_readClassStart hstart)

/-! ## Repetitions and groups -/

theorem suffix_digitRun (s : Switches) (cs : List Char) : (digitRun s cs).2 <:+ cs := by
  fun_induction digitRun s cs with
  | case1 => exact List.suffix_refl _
  | case2 c cs _ r ih => exact (ih.trans (suffix_skip s cs)).trans (List.suffix_cons c cs)
  | case3 => exact List.suffix_refl _

theorem suffix_readCount (s : Switches) (cs : List Char) : (readCount s cs).2 <:+ cs :=
  ((List.dropWhile_suffix _).trans (suffix_digitRun s _)).trans (List.dropWhile_suffix _)

theorem suffix_dropLazy (cs : List Char) : dropLazy cs <:+ cs := by
  unfold dropLazy
  split
  · exact List.suffix_cons _ _
  · exact List.suffix_refl _

theorem suffix_readCounts {cs : List Char} {r : (Nat × Option Nat) × List Char}
    (h : readCounts s cs = some r) : r.2 <:+ cs := by
  have hfinish : ∀ {p : Prop} [Decidable p] {counts : Nat × Option Nat} {rest : List Char},
      (if p then some (counts, dropLazy (skip s rest)) else none) = some r →
        r.2 <:+ '\x7d' :: rest := by
    intro p _ counts rest h
    split at h
    · cases h
      exact ((suffix_dropLazy _).trans (suffix_skip s rest)).trans (List.suffix_cons _ rest)
    · cases h
  have hcount : ∀ {n? : Option Nat} {cs rest : List Char}, readCount s cs = (n?, rest) →
      rest <:+ cs := by
    intro n? cs rest h
    have := suffix_readCount s cs
    rwa [h] at this
  unfold readCounts at h
  dsimp only at h
  split at h
  · cases h
  · rename_i least rest hleast
    have hrest : rest <:+ cs :=
      (List.suffix_cons _ rest).trans ((hcount hleast).trans (suffix_skip s cs))
    split at h
    · rename_i rest' heq
      have hclose : '\x7d' :: rest' <:+ rest := heq ▸ suffix_skip s rest
      exact ((hfinish h).trans hclose).trans hrest
    · split at h
      · cases h
      · rename_i most rest' hmost
        split at h
        · exact (hfinish h).trans ((hcount hmost).trans ((suffix_skip s rest).trans hrest))
        · cases h
  · rename_i n rest _ hn
    split at h
    · exact (hfinish h).trans ((hcount hn).trans (suffix_skip s cs))
    · cases h

theorem suffix_readName {cs : List Char} {r : String × List Char} (h : readName cs = some r) :
    r.2 <:+ cs := by
  unfold readName at h
  dsimp only at h
  split at h
  · rename_i rest c more heq hname
    split at h
    · cases h
      exact (List.suffix_cons _ _).trans (heq ▸ List.dropWhile_suffix _)
    · cases h
  · cases h

theorem suffix_readSwitches {l : SwitchList} {cs : List Char} {r : SwitchList × Char × List Char}
    (h : readSwitches l cs = some r) : r.2.2 <:+ cs := by
  fun_induction readSwitches l cs with
  | case1 => cases h
  | case2 => cases h
  | case3 l c cs =>
      cases h
      exact List.suffix_cons c cs
  | case4 => cases h
  | case5 l c cs _ _ _ ih => exact (ih h).trans (List.suffix_cons c cs)
  | case6 => cases h
  | case7 => cases h
  | case8 l c cs _ _ w _ _ ih => exact (ih h).trans (List.suffix_cons c cs)

theorem suffix_readOpening {cs : List Char} {r : Opening × List Char}
    (h : readOpening s cs = some r) : r.2 <:+ cs := by
  have hskip : ∀ (front : List Char) {rest}, skip s cs = front ++ rest → rest <:+ cs := by
    intro front rest h
    exact (List.suffix_append front rest).trans (h ▸ suffix_skip s cs)
  unfold readOpening at h
  split at h
  · cases h
  · cases h
  · cases h
  · cases h
  · rename_i rest heq
    obtain ⟨n, hn, rfl⟩ := Option.map_eq_some_iff.1 h
    exact (suffix_readName hn).trans (hskip ['?', 'P', '<'] heq)
  · rename_i rest _ _ heq
    obtain ⟨n, hn, rfl⟩ := Option.map_eq_some_iff.1 h
    exact (suffix_readName hn).trans (hskip ['?', '<'] heq)
  · rename_i rest _ _ _ _ _ _ heq
    have hrest : rest <:+ cs := hskip ['?'] heq
    split at h
    · cases h
    · rename_i l rest' hswitches
      split at h
      · cases h
      · cases h
        exact (suffix_readSwitches hswitches).trans hrest
    · rename_i l c rest' _ hswitches
      cases h
      exact (suffix_readSwitches hswitches).trans hrest
  · cases h
    exact suffix_skip s cs

/-! ## Steps -/

/-- A step leaves a part of what stands behind its first character. -/
theorem suffix_step {p : Progress} {c : Char} {cs : List Char} {r : Progress × List Char}
    (h : p.step c cs = some r) : r.2 <:+ cs := by
  unfold Progress.step at h
  dsimp only at h
  split at h
  · obtain ⟨o, ho, h⟩ := Option.bind_eq_some_iff.1 h
    obtain ⟨q, -, rfl⟩ := Option.map_eq_some_iff.1 h
    exact suffix_readOpening ho
  · obtain ⟨q, -, rfl⟩ := Option.map_eq_some_iff.1 h
    exact List.suffix_refl _
  · cases h
    exact List.suffix_refl _
  · obtain ⟨k, hk, rfl⟩ := Option.map_eq_some_iff.1 h
    exact suffix_readClass hk
  · obtain ⟨q, -, rfl⟩ := Option.map_eq_some_iff.1 h
    exact suffix_dropLazy _
  · obtain ⟨q, -, rfl⟩ := Option.map_eq_some_iff.1 h
    exact suffix_dropLazy _
  · obtain ⟨q, -, rfl⟩ := Option.map_eq_some_iff.1 h
    exact suffix_dropLazy _
  · obtain ⟨k, hk, h⟩ := Option.bind_eq_some_iff.1 h
    obtain ⟨q, -, rfl⟩ := Option.map_eq_some_iff.1 h
    exact suffix_readCounts hk
  · obtain ⟨a, ha, h⟩ := Option.bind_eq_some_iff.1 h
    obtain ⟨q, -, rfl⟩ := Option.map_eq_some_iff.1 h
    exact suffix_readEscape ha
  · obtain ⟨q, -, rfl⟩ := Option.map_eq_some_iff.1 h
    exact List.suffix_refl _
  · cases h
    exact List.suffix_refl _
  · cases h
    exact List.suffix_refl _
  · obtain ⟨q, -, rfl⟩ := Option.map_eq_some_iff.1 h
    exact List.suffix_refl _

end FeatureScan.Pattern
