import FeatureScan.Proofs.Pattern.Matching

/-!
# What matches between blanks matches alone

A stretch of text with a blank on either side is seen by a pattern much as if it stood alone: a
condition that holds somewhere in the stretch holds there too when nothing else is left, for blanks
belong to no word and end no line. So what matches within the stretch matches in it alone. What
takes the blank in front matches alone if the start of the subject would do for it.

## Main results

* `Look.holds_of_spaced`: a condition that holds within the stretch holds in the stretch alone.
* `matches_of_spaced`: what matches within the stretch matches in the stretch alone.
* `occursIn_of_spaced`: the same for patterns that begin with one character or the start.
-/

namespace FeatureScan

/-- A subject with another one in it, from a position on and with a blank on either side. -/
structure Subject.Spaced (s inner : Subject) (start : Nat) : Prop where
  /-- Behind a position stands what the inner one has there, or a blank at its end. -/
  after? : ∀ r ≤ inner.chars.size, s.after? (start + r) = some ((inner.after? r).getD ' ')
  /-- Before a position stands what the inner one has there, or a blank at its start. -/
  before? : ∀ r ≤ inner.chars.size, s.before? (start + r) = some ((inner.before? r).getD ' ')

namespace Subject.Spaced

variable {s inner : Subject} {start : Nat}

theorem pos (h : s.Spaced inner start) : 0 < start := by
  have hbefore := h.before? 0 (Nat.zero_le _)
  cases start with
  | zero => cases hbefore
  | succ start => exact Nat.succ_pos start

theorem lt_size (h : s.Spaced inner start) : start + inner.chars.size < s.chars.size :=
  (Array.getElem?_eq_some_iff.1 (h.after? _ (Nat.le_refl _))).1

end Subject.Spaced

theorem Subject.spaced_ofChars (pre mid post : List Char) :
    (ofChars (pre ++ ' ' :: (mid ++ ' ' :: post))).Spaced (ofChars mid) (pre.length + 1) := by
  have hget : ∀ r ≤ mid.length,
      (pre ++ ' ' :: (mid ++ ' ' :: post))[pre.length + 1 + r]? = some (mid[r]?.getD ' ') := by
    intro r hr
    rw [List.getElem?_append_right (by omega),
      show pre.length + 1 + r - pre.length = r + 1 by omega, List.getElem?_cons_succ]
    rcases Nat.lt_or_eq_of_le hr with hlt | rfl
    · rw [List.getElem?_append_left hlt, List.getElem?_eq_getElem hlt]
      rfl
    · rw [List.getElem?_append_right (Nat.le_refl _), Nat.sub_self, List.getElem?_cons_zero,
        List.getElem?_eq_none (Nat.le_refl _)]
      rfl
  constructor
  · intro r hr
    simpa [after?, ofChars] using hget r (by simpa [ofChars] using hr)
  · intro r hr
    cases r with
    | zero => simp [before?, ofChars]
    | succ r =>
        have hlt : r < mid.length := Nat.lt_of_succ_le (by simpa [ofChars] using hr)
        simpa [before?, ofChars, Nat.add_assoc] using hget r (Nat.le_of_lt hlt)

namespace Pattern

variable {s inner : Subject} {start : Nat}

/-! ## Conditions -/

/-- A blank is no other sign, so in its place there may as well be nothing. -/
theorem getD_blank_eq_iff {c : Char} (hc : c ≠ ' ') (o : Option Char) :
    o.getD ' ' = c ↔ o = some c := by
  cases o with
  | none => simp [hc.symm]
  | some d => simp

/-- A blank belongs to no word, so in its place there may as well be nothing. -/
theorem isWord_getD_blank (unicode : Bool) (o : Option Char) :
    (if unicode then isWord else isAsciiWord) (o.getD ' ') =
      o.any (if unicode then isWord else isAsciiWord) := by
  cases o with
  | none => cases unicode <;> decide
  | some d => rfl

/-- A condition that holds within the stretch holds in the stretch alone. -/
theorem Look.holds_of_spaced (hs : s.Spaced inner start) {l : Look} {r : Nat}
    (hr : r ≤ inner.chars.size) (h : l.holds s (start + r) = true) : l.holds inner r = true := by
  have hstart : start ≠ 0 := Nat.ne_of_gt hs.pos
  have hfinish : start + r ≠ s.chars.size := by
    have hlt := hs.lt_size
    omega
  have hnewline := getD_blank_eq_iff (c := '\n') (by decide)
  have hreturn := getD_blank_eq_iff (c := '\r') (by decide)
  unfold Look.holds at h ⊢
  rw [hs.before? r hr, hs.after? r hr] at h
  cases l with
  | start => simp [hstart] at h
  | finish => simp [hfinish] at h
  | lineStart returns =>
      cases returns with
      | false =>
          simp only [Option.some_beq_some, beq_iff_eq, Bool.or_eq_true, Nat.add_eq_zero_iff, hstart,
            false_and, false_or, hnewline] at h ⊢
          exact .inr h
      | true =>
          simp only [Option.some_beq_some, beq_iff_eq, bne_iff_ne, ne_eq, Option.some_inj,
            Bool.or_eq_true, Bool.and_eq_true, Nat.add_eq_zero_iff, hstart, false_and, false_or,
            hnewline, hreturn] at h ⊢
          exact h.imp .inr id
  | lineFinish returns =>
      cases returns with
      | false =>
          simp only [Option.some_beq_some, beq_iff_eq, Bool.or_eq_true, hfinish, false_or,
            hnewline] at h ⊢
          exact .inr h
      | true =>
          simp only [Option.some_beq_some, beq_iff_eq, bne_iff_ne, ne_eq, Option.some_inj,
            Bool.or_eq_true, Bool.and_eq_true, hfinish, false_or, hnewline,
            hreturn] at h ⊢
          exact h.imp .inr id
  | word test unicode =>
      dsimp only at h ⊢
      rw [Option.any_some, Option.any_some, isWord_getD_blank, isWord_getD_blank] at h
      exact h

/-! ## Matches -/

theorem le_of_iterated {R : Nat → Nat → Prop} (hR : ∀ {p q}, R p q → p ≤ q) {n p q : Nat}
    (h : Iterated R n p q) : p ≤ q := by
  induction n generalizing p with
  | zero => exact Nat.le_of_eq h
  | succ n ih =>
      obtain ⟨r, hr, hq⟩ := h
      exact Nat.le_trans (hR hr) (ih hq)

/-- Matches go forward. -/
theorem le_of_matches {n : Node} {p q : Nat} (h : n.Matches s p q) : p ≤ q := by
  induction n generalizing p q with
  | empty => exact Nat.le_of_eq h
  | chars set =>
      obtain ⟨c, -, -, rfl⟩ := h
      exact Nat.le_succ p
  | look l => exact Nat.le_of_eq h.2
  | seq a b iha ihb =>
      obtain ⟨r, ha, hb⟩ := h
      exact Nat.le_trans (iha ha) (ihb hb)
  | alt a b iha ihb => exact h.elim iha ihb
  | group a ih => exact ih h
  | many least most a ih =>
      obtain ⟨n, -, -, hR⟩ := h
      exact le_of_iterated ih hR

/-- What matches within the stretch matches in the stretch alone. -/
theorem matches_of_spaced (hs : s.Spaced inner start) {n : Node} {p q : Nat}
    (hq : q ≤ inner.chars.size) (h : n.Matches s (start + p) (start + q)) : n.Matches inner p q := by
  induction n generalizing p q with
  | empty => exact Nat.add_left_cancel h
  | chars set =>
      obtain ⟨c, hc, hset, hnext⟩ := h
      obtain rfl : q = p + 1 := by omega
      rw [hs.after? p (by omega)] at hc
      have hget : inner.after? p = some c := by
        obtain ⟨d, hd⟩ : ∃ d, inner.after? p = some d :=
          ⟨_, Array.getElem?_eq_getElem (Nat.lt_of_succ_le hq)⟩
        rw [hd] at hc ⊢
        exact hc
      exact ⟨c, hget, hset, rfl⟩
  | look l =>
      obtain ⟨hl, heq⟩ := h
      obtain rfl : p = q := Nat.add_left_cancel heq
      exact ⟨l.holds_of_spaced hs hq hl, rfl⟩
  | seq a b iha ihb =>
      obtain ⟨r, ha, hb⟩ := h
      have hpr := le_of_matches ha
      have hrq := le_of_matches hb
      obtain ⟨r, rfl⟩ := Nat.exists_eq_add_of_le (Nat.le_of_add_right_le hpr)
      exact ⟨r, iha (by omega) ha, ihb hq hb⟩
  | alt a b iha ihb => exact h.imp (iha hq) (ihb hq)
  | group a ih => exact ih hq h
  | many least most a ih =>
      obtain ⟨n, hleast, hmost, hR⟩ := h
      refine ⟨n, hleast, hmost, ?_⟩
      clear hleast hmost
      induction n generalizing p with
      | zero => exact Nat.add_left_cancel hR
      | succ n ihn =>
          obtain ⟨r, hr, hrest⟩ := hR
          have hpr := le_of_matches hr
          have hrq := le_of_iterated le_of_matches hrest
          obtain ⟨r, rfl⟩ := Nat.exists_eq_add_of_le (Nat.le_of_add_right_le hpr)
          exact ⟨r, ih (by omega) hr, ihn hrest⟩

/-! ## Patterns that begin with one character -/

/-- Takes one character, or stands at the start of the subject. -/
def Node.oneOrStart : Node → Bool
  | .chars _ => true
  | .look .start => true
  | .alt a b => a.oneOrStart && b.oneOrStart
  | .group a => a.oneOrStart
  | _ => false

/-- Matches at the start of every subject. -/
def Node.startWillDo : Node → Bool
  | .look .start => true
  | .alt a b => a.startWillDo || b.startWillDo
  | .group a => a.startWillDo
  | _ => false

/-- Whether a pattern begins with one character, for which the start of the subject would do too. -/
def Node.opensAtStart : Node → Bool
  | .seq a _ => a.oneOrStart && a.startWillDo
  | .alt a b => a.opensAtStart && b.opensAtStart
  | .group a => a.opensAtStart
  | _ => false

theorem eq_succ_of_oneOrStart {n : Node} (hn : n.oneOrStart = true) {p q : Nat} (hp : 0 < p)
    (h : n.Matches s p q) : q = p + 1 := by
  induction n with
  | chars set =>
      obtain ⟨c, -, -, hq⟩ := h
      exact hq
  | look l =>
      cases l with
      | start =>
          have hzero : p = 0 := by simpa [Look.holds] using h.1
          omega
      | _ => cases hn
  | alt a b iha ihb =>
      obtain ⟨ha, hb⟩ := Bool.and_eq_true_iff.1 hn
      exact h.elim (iha ha) (ihb hb)
  | group a ih => exact ih hn h
  | _ => cases hn

theorem matches_of_startWillDo {n : Node} (hn : n.startWillDo = true) : n.Matches s 0 0 := by
  induction n with
  | look l =>
      cases l with
      | start => exact ⟨rfl, rfl⟩
      | _ => cases hn
  | alt a b iha ihb => exact (Bool.or_eq_true_iff.1 hn).imp iha ihb
  | group a ih => exact ih hn
  | _ => cases hn

/-- What takes the blank in front of the stretch matches in the stretch alone, if the start of the
subject would do for the blank. -/
theorem matches_of_spaced_opening {front : Nat} (hs : s.Spaced inner (front + 1))
    (hfront : 0 < front) {n : Node} (hn : n.opensAtStart = true) {q : Nat}
    (hq : q ≤ front + 1 + inner.chars.size) (h : n.Matches s front q) :
    ∃ q', n.Matches inner 0 q' := by
  induction n with
  | seq a b =>
      obtain ⟨hone, hstart⟩ := Bool.and_eq_true_iff.1 hn
      obtain ⟨r, hfirst, hrest⟩ := h
      obtain rfl := eq_succ_of_oneOrStart hone hfront hfirst
      obtain ⟨q, rfl⟩ := Nat.exists_eq_add_of_le (le_of_matches hrest)
      exact ⟨q, 0, matches_of_startWillDo hstart, matches_of_spaced hs (by omega) hrest⟩
  | alt a b iha ihb =>
      obtain ⟨ha, hb⟩ := Bool.and_eq_true_iff.1 hn
      exact h.elim (fun h => (iha ha h).imp fun _ => .inl) fun h => (ihb hb h).imp fun _ => .inr
  | group a ih => exact ih hn h
  | _ => cases hn

/-- A pattern that matches within a stretch between blanks, or from the blank in front where the start
of the subject would do, occurs in the stretch alone. -/
theorem occursIn_of_spaced {n : Node} {cs mid : List Char} {i j p q : Nat}
    (hb : Between cs i j (' ' :: mid ++ [' '])) (hi : 0 < i)
    (hp : i < p ∨ p = i ∧ n.opensAtStart = true) (hq : q < j)
    (h : n.Matches (.ofChars cs) p q) : n.occursIn (.ofChars mid) = true := by
  obtain ⟨⟨pre, post, rfl, rfl⟩, rfl⟩ := hb
  have hs : (Subject.ofChars (pre ++ (' ' :: mid ++ [' ']) ++ post)).Spaced (.ofChars mid)
      (pre.length + 1) := by
    have hspaced := Subject.spaced_ofChars pre mid post
    simpa using hspaced
  have hsize : (Subject.ofChars mid).chars.size = mid.length := by simp [Subject.ofChars]
  simp only [List.length_append, List.length_cons, List.length_nil] at hq
  rw [occursIn_iff]
  rcases hp with hp | ⟨rfl, hn⟩
  · obtain ⟨p, rfl⟩ := Nat.exists_eq_add_of_le (Nat.succ_le_of_lt hp)
    obtain ⟨q, rfl⟩ := Nat.exists_eq_add_of_le (Nat.le_of_add_right_le (le_of_matches h))
    have hpq := le_of_matches h
    exact ⟨p, q, by omega, matches_of_spaced hs (by omega) h⟩
  · obtain ⟨q', hq'⟩ := matches_of_spaced_opening hs hi hn (by omega) h
    exact ⟨0, q', Nat.zero_le _, hq'⟩

end Pattern

end FeatureScan
