import FeatureScan.Proofs.Css.Tokens
import FeatureScan.Text.Vendor

/-!
# The sign in front of an at-rule

Where the sign in front of an at-rule is a token of its own, the tokens before it are those of the
text up to it, whatever stands behind. A vendor tag right behind the sign becomes part of the keyword,
and no other token changes.

## Main results

* `tokensFrom_at`: the tokens of a source around such a sign.
* `tokens_sign`: the tokens of a text around such a sign, and those with a vendor tag behind it.
* `exists_sign`: in front of every keyword of an at-rule stands such a sign.
-/

namespace FeatureScan.Css

open Source

/-! ## Signs that are tokens of their own -/

/-- The outcome of a scanner that takes nothing more where it finds a mere sign. -/
def StopsAtSign (s : Source) (x : Token × Source) : Prop := ∀ c, x.1 = .delim c → x.2 = s

theorem StopsAtSign.ite {p : Prop} [Decidable p] {s : Source} {x y : Token × Source}
    (hx : StopsAtSign s x) (hy : StopsAtSign s y) : StopsAtSign s (if p then x else y) := by
  split
  · exact hx
  · exact hy

theorem stopsAtSign_of_isLiteral {s : Source} {x : Token × Source} (h : x.1.isLiteral = true) :
    StopsAtSign s x := by
  intro c hc
  rw [hc] at h
  cases h

theorem stopsAtSign_delim (c : Char) (s : Source) : StopsAtSign s (.delim c, s) := fun _ _ => rfl

/-- A sign that is a token of its own is one character. -/
theorem stopsAtSign_scanToken (c : SourceChar) (s : Source) : StopsAtSign s (scanToken c s) := by
  have hnumber : ∀ r, StopsAtSign s (scanNumeric r) :=
    fun r => stopsAtSign_of_isLiteral (isLiteral_scanNumeric r)
  have hword : ∀ r, StopsAtSign s (scanIdentLike r) :=
    fun r => stopsAtSign_of_isLiteral (isLiteral_scanIdentLike r)
  unfold scanToken
  refine .ite nofun ?_
  refine .ite (stopsAtSign_of_isLiteral (isLiteral_scanString _ s)) ?_
  refine .ite (.ite nofun (.ite nofun (stopsAtSign_delim _ s))) ?_
  refine .ite nofun ?_
  refine .ite (.ite (hnumber _) (stopsAtSign_delim _ s)) ?_
  refine .ite (.ite (hnumber _) (.ite nofun (.ite (hword _) (stopsAtSign_delim _ s)))) ?_
  refine .ite (.ite (hnumber _) (stopsAtSign_delim _ s)) ?_
  refine .ite nofun ?_
  refine .ite (hnumber _) ?_
  refine .ite nofun ?_
  refine .ite (.ite nofun (stopsAtSign_delim _ s)) ?_
  refine .ite (.ite (stopsAtSign_delim _ s) (hword _)) ?_
  refine .ite (hword _) ?_
  cases signToken? c.char with
  | some t => exact fun _ _ => rfl
  | none => exact stopsAtSign_delim _ s

/-! ## Tokens around the sign -/

/-- Behind the sign of an at-rule stands its keyword, or the sign is just that. -/
theorem scanToken_at (line : Nat) (s : Source) :
    scanToken ⟨'@', line⟩ s =
      if atIdent s then (.atKeyword (scanName s).1, (scanName s).2) else (.delim '@', s) := rfl

theorem tokensFrom_nil (last n : Nat) : tokensFrom last n [] [] = [] := by cases n <;> rfl

theorem tokensFrom_ne_nil {last n : Nat} {s : Source} (hs : s ≠ []) (hn : 0 < n) :
    tokensFrom last n [] s ≠ [] := by
  obtain ⟨n, rfl⟩ : ∃ k, n = k + 1 := ⟨n - 1, by omega⟩
  cases s with
  | nil => exact absurd rfl hs
  | cons c s =>
      rw [tokensFrom_cons]
      exact List.cons_ne_nil _ _

/-- The tokens of a source are those up to the sign and those from it on. The line of the sign is the
last one of the source that ends with it. -/
theorem tokensFrom_at {last n m : Nat} (last' : Nat) {s : Source} (b : Source) {sign : SourceChar}
    {ts : List PlacedToken} {line : Nat} (hsign : sign.char = '@') (hn : (s ++ [sign]).length < n)
    (h : tokensFrom last n [] (s ++ [sign]) = ts ++ [⟨.delim '@', line⟩])
    (hm : (s ++ sign :: b).length < m) :
    line = last ∧
      tokensFrom last' m [] (s ++ sign :: b) = ts ++ tokensFrom last' m [] (sign :: b) := by
  -- The induction is on the room, which every token of `s` takes some of.
  induction n generalizing s m ts with
  | zero => simp at hn
  | succ n ih =>
      cases s with
      | nil =>
          rw [List.nil_append, tokensFrom_cons] at h
          have hrest : (scanToken sign []).2 = [] :=
            List.suffix_nil.1 (suffix_scanToken sign [])
          rw [hrest, tokensFrom_nil] at h
          have hts : ts = [] := by
            have hlen := congrArg List.length h
            simpa using hlen
          rw [hts, List.nil_append] at h
          refine ⟨(congrArg PlacedToken.line (List.cons.inj h).1).symm, ?_⟩
          rw [hts, List.nil_append, List.nil_append]
      | cons c s =>
          obtain ⟨m, rfl⟩ : ∃ k, m = k + 1 := ⟨m - 1, by omega⟩
          rw [List.cons_append, tokensFrom_cons] at h
          have hstop := stopsAtSign_scanToken c (s ++ [sign])
          have hsuf := suffix_scanToken c (s ++ [sign])
          have hjoin := @scanToken_joined id b (s ++ [sign]) c
          generalize scanToken c (s ++ [sign]) = x at h hstop hsuf hjoin
          obtain ⟨t, r⟩ := x
          dsimp only at h hsuf hjoin
          cases ts with
          | nil =>
              -- The sign would be the token that starts with `c`, but more stands behind that one.
              exfalso
              obtain ⟨ht, hnil⟩ := List.cons.inj h
              have hr : r = s ++ [sign] := hstop '@' (congrArg PlacedToken.token ht)
              rw [hr] at hnil
              exact tokensFrom_ne_nil (by simp) (by simp at hn; omega) hnil
          | cons t' ts =>
              obtain ⟨ht, hts⟩ := List.cons.inj h
              obtain ⟨r, rfl⟩ : ∃ r', r = r' ++ [sign] := by
                rcases List.eq_nil_or_concat r with rfl | ⟨r', e, rfl⟩
                · rw [tokensFrom_nil] at hts
                  simp at hts
                · obtain ⟨p, hp⟩ := hsuf
                  rw [List.concat_eq_append, ← List.append_assoc] at hp
                  rw [List.concat_eq_append, (List.append_inj' hp rfl).2]
                  exact ⟨r', rfl⟩
              have hle := hsuf.length_le
              have hguard : Guarded b (r ++ [sign]) :=
                Or.inr ⟨sign, by simp, by rw [guards, hsign]; rfl⟩
              have hscan := hjoin hguard
              rw [joined_id, joined_id, List.append_assoc, List.append_assoc] at hscan
              simp only [List.cons_append, List.length_cons, List.length_append] at hn hm hle
              obtain ⟨hlast, hrest⟩ := ih (s := r) (m := m) (by simp; omega) hts (by simp; omega)
              refine ⟨hlast, ?_⟩
              have hline : lineAt last' (r ++ sign :: b) = lineAt last (r ++ [sign]) := by
                cases r <;> rfl
              rw [List.cons_append, tokensFrom_cons,
                show scanToken c (s ++ sign :: b) = (t, r ++ sign :: b) from hscan]
              dsimp only
              rw [hrest, hline, ht, List.cons_append,
                tokensFrom_room (n := m) (m := m + 1) (s := sign :: b) (by simp; omega)
                  (by simp; omega)]

/-! ## A tag in front of a name -/

theorem scanNameFrom_eq_append (fuel : Nat) (name : List Char) (s : Source) :
    scanNameFrom fuel name s =
      (name.reverse ++ (scanNameFrom fuel [] s).1, (scanNameFrom fuel [] s).2) := by
  induction fuel generalizing name s with
  | zero => simp [scanNameFrom]
  | succ fuel ih =>
      cases s with
      | nil => simp [scanNameFrom]
      | cons c s =>
          have hgo : ∀ (d : Char) (r : Source), scanNameFrom fuel (d :: name) r =
              (name.reverse ++ (scanNameFrom fuel [d] r).1, (scanNameFrom fuel [d] r).2) := by
            intro d r
            rw [ih, ih [d], List.reverse_cons, List.append_assoc]
            rfl
          rw [scanNameFrom, scanNameFrom]
          split
          · exact hgo _ _
          · split
            · split
              · simp
              · exact hgo _ _
            · split
              · exact hgo _ _
              · simp

/-- Plain characters in front of a name belong to it. -/
theorem scanName_append {tag : Source} (htag : ∀ c ∈ tag, isPlainNameChar c.char = true)
    (s : Source) :
    scanName (tag ++ s) = (String.ofList (Source.text tag) ++ (scanName s).1, (scanName s).2) := by
  have hfrom : ∀ (fuel : Nat) (name : List Char),
      scanNameFrom (tag.length + fuel) name (tag ++ s) =
        scanNameFrom fuel ((Source.text tag).reverse ++ name) s := by
    induction tag with
    | nil => intro fuel name; simp [Source.text]
    | cons c tag ih =>
        intro fuel name
        have hc : (isPlainNameChar c.char || isWide c.char) = true := by
          rw [htag c List.mem_cons_self, Bool.true_or]
        rw [List.length_cons, Nat.add_right_comm, List.cons_append, scanNameFrom, if_pos hc,
          ih fun d hd => htag d (List.mem_cons_of_mem c hd)]
        simp [Source.text]
  rw [scanName, List.length_append, Nat.add_assoc, hfrom, scanNameFrom_eq_append]
  simp [scanName]

/-- Nothing is taken where a name is empty. -/
theorem rest_scanNameFrom_of_nil {fuel : Nat} {s : Source}
    (h : (scanNameFrom fuel [] s).1 = []) : (scanNameFrom fuel [] s).2 = s := by
  have hgo : ∀ fuel (c : Char) (r : Source), (scanNameFrom fuel [c] r).1 ≠ [] := by
    intro fuel c r
    rw [scanNameFrom_eq_append]
    exact List.cons_ne_nil _ _
  cases fuel with
  | zero => rfl
  | succ fuel =>
      cases s with
      | nil => rfl
      | cons c s =>
          rw [scanNameFrom] at h ⊢
          split at h
          · exact absurd h (hgo _ _ _)
          · rename_i hc
            rw [if_neg hc]
            split at h
            · rename_i hb
              rw [if_pos hb]
              split at h
              · rename_i hl
                rw [if_pos hl]
              · exact absurd h (hgo _ _ _)
            · rename_i hb
              rw [if_neg hb]
              split at h
              · exact absurd h (hgo _ _ _)
              · rename_i hz
                rw [if_neg hz]

/-- A name that starts here has at least one character. -/
theorem scanName_ne_empty {s : Source} (h : atIdent s = true) : (scanName s).1 ≠ "" := by
  intro hname
  cases s with
  | nil => cases h
  | cons c s =>
      have hnil : (scanNameFrom ((c :: s).length + 1) [] (c :: s)).1 = [] := by
        simpa [scanName] using hname
      have hle := (suffix_scanName_of_atIdent h).length_le
      change (scanNameFrom ((c :: s).length + 1) [] (c :: s)).2.length ≤ s.length at hle
      rw [rest_scanNameFrom_of_nil hnil, List.length_cons] at hle
      omega

/-! ## A tag behind the sign -/

/-- Plain characters end no line. -/
theorem placesFrom_plain {tag : List Char} (htag : ∀ c ∈ tag, isPlainNameChar c = true)
    (line : Nat) : placesFrom [] line tag = (tag.map (⟨·, line⟩), line) := by
  induction tag with
  | nil => rfl
  | cons c tag ih =>
      have hc : endsLine c tag = false := by
        have hplain := htag c List.mem_cons_self
        have hnot : ∀ d, isPlainNameChar d = false → c ≠ d := by
          rintro d hd rfl
          rw [hd] at hplain
          cases hplain
        rw [endsLine, beq_eq_false_iff_ne.2 (hnot '\n' (by decide)),
          beq_eq_false_iff_ne.2 (hnot '\x0c' (by decide)),
          beq_eq_false_iff_ne.2 (hnot '\r' (by decide))]
        rfl
      rw [placesFrom_cons, hc, if_neg Bool.false_ne_true,
        ih fun d hd => htag d (List.mem_cons_of_mem c hd)]
      rfl

/-- The sign of an at-rule ends no line. -/
theorem placesFrom_sign (line : Nat) (front : List Char) :
    ∃ s last, placesFrom [] line (front ++ ['@']) = (s ++ [⟨'@', last⟩], last) := by
  induction front generalizing line with
  | nil => exact ⟨[], line, rfl⟩
  | cons c front ih =>
      rw [List.cons_append, placesFrom_cons]
      obtain ⟨s, last, h⟩ := ih (if endsLine c (front ++ ['@']) then line + 1 else line)
      rw [h]
      exact ⟨_ :: s, last, rfl⟩

theorem plain_of_vendorTag {tag : List Char} (h : tag ∈ Text.vendorTags) :
    ∀ c ∈ tag, isPlainNameChar c = true := by
  simp only [Text.vendorTags, List.mem_cons, List.not_mem_nil, or_false] at h
  rcases h with rfl | rfl | rfl | rfl <;> exact List.all_eq_true.1 rfl

/-- An identifier starts with a vendor tag, whatever stands behind it. -/
theorem atIdent_vendorTag {tag : List Char} (h : tag ∈ Text.vendorTags) (line : Nat) (s : Source) :
    atIdent (tag.map (⟨·, line⟩) ++ s) = true := by
  simp only [Text.vendorTags, List.mem_cons, List.not_mem_nil, or_false] at h
  rcases h with rfl | rfl | rfl | rfl <;> rfl

/-- Whether a name starts does not depend on the line. -/
theorem atIdent_placesFrom (line : Nat) (cs : List Char) :
    atIdent (placesFrom [] line cs).1 = atIdent (places cs).1 := by
  have hfrom : ∀ k, atIdent (placesFrom [] k cs).1 = atIdent (placesFrom [] 0 cs).1 := by
    intro k
    have hline := atIdent_joined (g := (· + k)) (b := []) (s := (placesFrom [] 0 cs).1) (Or.inl rfl)
    rw [joined, List.append_nil] at hline
    rw [← hline, ← Nat.zero_add k, placesFrom_add, Nat.zero_add]
  rw [hfrom, places, hfrom 1]

/-- Behind a sign that is a token of its own and has a name behind it stands the keyword of an
at-rule. A vendor tag behind the sign becomes part of that keyword, and all other tokens stay. -/
theorem tokens_sign {front back : List Char} {ts : List PlacedToken} {line : Nat}
    (hsign : (tokens (front ++ ['@'])).1 = ts ++ [⟨.delim '@', line⟩])
    (hident : atIdent (places back).1 = true) :
    ∃ name behind us last, name ≠ "" ∧
      tokens (front ++ '@' :: back) = (ts ++ ⟨.atKeyword name, behind⟩ :: us, last) ∧
      ∀ tag ∈ Text.vendorTags, tokens (front ++ '@' :: (tag ++ back)) =
        (ts ++ ⟨.atKeyword (String.ofList tag ++ name), behind⟩ :: us, last) := by
  obtain ⟨s, last, hplaces⟩ := placesFrom_sign 1 front
  have htokens : tokens (front ++ ['@']) =
      (tokensFrom last ((s ++ [(⟨'@', last⟩ : SourceChar)]).length + 1) [] (s ++ [⟨'@', last⟩]),
        last) := by
    rw [tokens, places, hplaces]
  rw [htokens] at hsign
  -- What stands behind the sign is numbered from its line on.
  have hbehind : ∀ text : List Char, tokens (front ++ '@' :: text) =
      (ts ++ tokensFrom (placesFrom [] line text).2 ((placesFrom [] line text).1.length + 2) []
        (⟨'@', line⟩ :: (placesFrom [] line text).1), (placesFrom [] line text).2) := by
    intro text
    obtain ⟨rfl, hfrom⟩ := tokensFrom_at (placesFrom [] last text).2 (placesFrom [] last text).1 rfl
      (Nat.lt_succ_self _) hsign (Nat.lt_succ_self _)
    have hsource : places (front ++ '@' :: text) =
        (s ++ ⟨'@', line⟩ :: (placesFrom [] line text).1, (placesFrom [] line text).2) := by
      rw [places, ← List.singleton_append, ← List.append_assoc,
        placesFrom_append text (by simp), hplaces, List.append_assoc, List.singleton_append]
    rw [tokens, hsource]
    dsimp only
    rw [hfrom, tokensFrom_room (m := (placesFrom [] line text).1.length + 2)]
    · rw [List.length_append, List.length_cons]
      omega
    · rw [List.length_cons]
      omega
  rw [← atIdent_placesFrom line] at hident
  have hback := hbehind back
  generalize hsource : placesFrom [] line back = p at hback hident
  obtain ⟨source, last'⟩ := p
  dsimp only at hback hident
  refine ⟨(scanName source).1, lineAt last' (scanName source).2,
    tokensFrom last' (source.length + 1) [] (scanName source).2, last',
    scanName_ne_empty hident, ?_, fun tag htag => ?_⟩
  · rw [hback, tokensFrom_cons, scanToken_at, if_pos hident]
  · have hplain := plain_of_vendorTag htag
    have htagged : placesFrom [] line (tag ++ back) = (tag.map (⟨·, line⟩) ++ source, last') := by
      rw [placesFrom_append, placesFrom_plain hplain, hsource]
      rintro c hc rfl
      exact absurd (hplain _ (List.mem_of_getLast? hc)) (by decide)
    have hname : scanName (tag.map (⟨·, line⟩) ++ source) =
        (String.ofList tag ++ (scanName source).1, (scanName source).2) := by
      rw [scanName_append]
      · simp [Source.text, Function.comp_def]
      · simpa using hplain
    have hle := (isLocal_scanName.suffix source).length_le
    rw [hbehind, htagged]
    dsimp only
    rw [tokensFrom_cons, scanToken_at, if_pos (atIdent_vendorTag htag line source), hname]
    dsimp only
    rw [tokensFrom_room (m := source.length + 1)]
    · rw [List.length_append, List.length_map]
      omega
    · omega

/-! ## Keywords have a sign of their own -/

theorem ne_atKeyword_ite {p : Prop} [Decidable p] {x y : Token × Source} {name : String}
    (hx : x.1 ≠ .atKeyword name) (hy : y.1 ≠ .atKeyword name) :
    (if p then x else y).1 ≠ .atKeyword name := by
  split
  · exact hx
  · exact hy

/-- The keyword of an at-rule stands behind its sign. -/
theorem sign_of_atKeyword {c : SourceChar} {s : Source} {name : String}
    (h : (scanToken c s).1 = .atKeyword name) : c.char = '@' ∧ atIdent s = true := by
  by_cases hc : c.char = '@'
  · obtain ⟨c, line⟩ := c
    subst hc
    rw [scanToken_at] at h
    split at h
    · exact ⟨rfl, ‹_›⟩
    · cases h
  · have hliteral : ∀ {x : Token × Source}, x.1.isLiteral = true → x.1 ≠ .atKeyword name := by
      intro x hx heq
      rw [heq] at hx
      cases hx
    have hnumber : ∀ r, (scanNumeric r).1 ≠ .atKeyword name :=
      fun r => hliteral (isLiteral_scanNumeric r)
    have hword : ∀ r, (scanIdentLike r).1 ≠ .atKeyword name :=
      fun r => hliteral (isLiteral_scanIdentLike r)
    refine absurd h ?_
    unfold scanToken
    refine ne_atKeyword_ite nofun ?_
    refine ne_atKeyword_ite (hliteral (isLiteral_scanString _ s)) ?_
    refine ne_atKeyword_ite (ne_atKeyword_ite nofun (ne_atKeyword_ite nofun nofun)) ?_
    refine ne_atKeyword_ite nofun ?_
    refine ne_atKeyword_ite (ne_atKeyword_ite (hnumber _) nofun) ?_
    refine ne_atKeyword_ite
      (ne_atKeyword_ite (hnumber _) (ne_atKeyword_ite nofun (ne_atKeyword_ite (hword _) nofun))) ?_
    refine ne_atKeyword_ite (ne_atKeyword_ite (hnumber _) nofun) ?_
    refine ne_atKeyword_ite nofun ?_
    refine ne_atKeyword_ite (hnumber _) ?_
    refine ne_atKeyword_ite nofun ?_
    rw [if_neg (by simpa using hc)]
    refine ne_atKeyword_ite (ne_atKeyword_ite nofun (hword _)) ?_
    refine ne_atKeyword_ite (hword _) ?_
    cases hsign : signToken? c.char with
    | some t =>
        rintro rfl
        unfold signToken? at hsign
        split at hsign <;> cases hsign
    | none => nofun

/-- A token that ends in front of a sealed stretch is the same when the source ends there. -/
theorem scanToken_of_append {s b r : Source} {c : SourceChar} {t : Token} (hs : Sealed s)
    (hr : r ≠ []) (h : scanToken c (s ++ b) = (t, r ++ b)) : scanToken c s = (t, r) := by
  have hsuffix := suffix_scanToken c (s ++ b)
  rw [h] at hsuffix
  have hne : s ≠ [] := by
    rintro rfl
    have hle := hsuffix.length_le
    have hpos := List.length_pos_iff.2 hr
    simp only [List.nil_append, List.length_append] at hle
    omega
  by_cases hnil : (scanToken c s).2 = []
  · have hreaches := scanToken_reaches (g := id) (b := b) hs hne hnil
    rw [joined_id] at hreaches
    have hle := (show (scanToken c (s ++ b)).2 <:+ b from hreaches).length_le
    have hpos := List.length_pos_iff.2 hr
    rw [h, List.length_append] at hle
    omega
  · have hj := scanToken_joined (g := id) (b := b)
      ((hs.suffix (suffix_scanToken c s)).guarded hnil b)
    rw [joined_id, joined_id] at hj
    have heq := h.symm.trans hj
    obtain ⟨ht, hrest⟩ := Prod.mk.inj heq
    exact Prod.ext ht.symm (List.append_cancel_right hrest).symm

theorem sealed_concat {sign : SourceChar} (h : sign.char = '@') (s : Source) :
    Sealed (s ++ [sign]) := by
  intro c hc
  rw [List.getLast?_concat, Option.mem_some_iff] at hc
  rw [← hc, guards, h]
  rfl

/-- The tokens in front of the keyword of an at-rule are those of the source that ends with its
sign. -/
theorem tokensFrom_keyword {last n : Nat} {s : Source} {ts us : List PlacedToken} {name : String}
    {line : Nat} (h : tokensFrom last n [] s = ts ++ ⟨.atKeyword name, line⟩ :: us) :
    ∃ s₁ sign b, s = s₁ ++ sign :: b ∧ sign.char = '@' ∧ atIdent b = true ∧
      ∀ last' m, (s₁ ++ [sign]).length < m →
        tokensFrom last' m [] (s₁ ++ [sign]) = ts ++ [⟨.delim '@', last'⟩] := by
  induction n generalizing s ts with
  | zero => simp [tokensFrom] at h
  | succ n ih =>
      cases s with
      | nil => simp [tokensFrom] at h
      | cons c s =>
          rw [tokensFrom_cons] at h
          cases ts with
          | nil =>
              obtain ⟨hhead, -⟩ := List.cons.inj h
              obtain ⟨hc, hident⟩ := sign_of_atKeyword (congrArg PlacedToken.token hhead)
              refine ⟨[], c, s, rfl, hc, hident, fun last' m hm => ?_⟩
              obtain ⟨m, rfl⟩ : ∃ k, m = k + 1 := ⟨m - 1, by omega⟩
              obtain ⟨c, l⟩ := c
              obtain rfl : c = '@' := hc
              rw [List.nil_append, tokensFrom_cons, scanToken_at]
              exact congrArg _ (tokensFrom_nil last' m)
          | cons t ts =>
              obtain ⟨rfl, htail⟩ := List.cons.inj h
              obtain ⟨r, sign, b, hr, hsign, hident, htokens⟩ := ih htail
              obtain ⟨p, hp⟩ := suffix_scanToken c s
              refine ⟨c :: (p ++ r), sign, b, ?_, hsign, hident, fun last' m hm => ?_⟩
              · rw [List.cons_append, List.append_assoc, ← hr, hp]
              · obtain ⟨m, rfl⟩ : ∃ k, m = k + 1 := ⟨m - 1, by omega⟩
                have hfull : scanToken c (p ++ r ++ [sign] ++ b) =
                    ((scanToken c s).1, r ++ [sign] ++ b) := by
                  rw [List.append_assoc _ [sign], List.append_assoc r, List.singleton_append,
                    List.append_assoc, ← hr, hp]
                have hscan := scanToken_of_append (sealed_concat hsign (p ++ r)) (by simp) hfull
                rw [List.cons_append, tokensFrom_cons, hscan]
                dsimp only
                have hline : lineAt last' (r ++ [sign]) = lineAt last (scanToken c s).2 := by
                  rw [hr]
                  cases r <;> rfl
                rw [htokens last' m (by simp at hm ⊢; omega), hline, List.cons_append]

/-- In front of the keyword of an at-rule stands its sign, and the tokens before it are those of the
text that ends with the sign. -/
theorem exists_sign {cs : List Char} {ts us : List PlacedToken} {name : String} {line last : Nat}
    (h : tokens cs = (ts ++ ⟨.atKeyword name, line⟩ :: us, last)) :
    ∃ front back l, cs = front ++ '@' :: back ∧ atIdent (places back).1 = true ∧
      (tokens (front ++ ['@'])).1 = ts ++ [⟨.delim '@', l⟩] := by
  obtain ⟨s, ⟨sign, l⟩, b, hs, hsign, hident, htokens⟩ := tokensFrom_keyword (Prod.mk.inj h).1
  obtain rfl : sign = '@' := hsign
  have hcs : cs = Source.text s ++ ['@'] ++ Source.text b := by
    rw [← places_chars cs, places, hs]
    simp [Source.text]
  -- The places of a text begin with those of its beginning.
  have hplaces : placesFrom [] 1 (Source.text s ++ ['@'] ++ Source.text b) = _ :=
    placesFrom_append (Source.text b) (by simp)
  rw [← hcs] at hplaces
  have hlength : (placesFrom [] 1 (Source.text s ++ ['@'])).1.length =
      (s ++ [(⟨'@', l⟩ : SourceChar)]).length := by
    have hchars := congrArg List.length (placesFrom_chars [] 1 (Source.text s ++ ['@']))
    simpa [Source.text] using hchars
  rw [← List.singleton_append, ← List.append_assoc, hplaces] at hs
  obtain ⟨hfront, hback⟩ := List.append_inj hs hlength
  refine ⟨Source.text s, Source.text b, (placesFrom [] 1 (Source.text s ++ ['@'])).2, ?_, ?_, ?_⟩
  · rw [hcs, List.append_assoc, List.singleton_append]
  · rw [← atIdent_placesFrom (placesFrom [] 1 (Source.text s ++ ['@'])).2, hback]
    exact hident
  · rw [tokens, places]
    dsimp only
    rw [hfront]
    exact htokens _ _ (Nat.lt_succ_self _)

end FeatureScan.Css
