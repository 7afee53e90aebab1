import FeatureScan.Json.Reader

/-!
# Reading records

A member of a record that is no field is passed over. What is passed over has to keep to the grammar
of JSON texts, but need not have a value: a number may be too great, a surrogate may stand alone,
and objects and arrays may be nested at any depth.

## Main results

* `skipString_of_readStringFrom`: passing over a string that has a value leaves what reading leaves.
-/

namespace FeatureScan.Json

/-! ## Passing over values -/

/-- Passes over a string behind its opening quote. -/
def skipString : List Char → Option (List Char)
  | [] => none
  | '\x22' :: cs => some cs
  | '\\' :: 'u' :: cs =>
    match cs with
    | a :: b :: c :: d :: cs => if [a, b, c, d].all isHexDigit then skipString cs else none
    | _ => none
  | '\\' :: c :: cs => if (escaped? c).isSome then skipString cs else none
  | c :: cs => if c.toNat < 0x20 then none else skipString cs

theorem readHex4_eq_some {cs rest : List Char} {n : Nat} (h : readHex4 cs = some (n, rest)) :
    ∃ a b c d, cs = a :: b :: c :: d :: rest ∧ [a, b, c, d].all isHexDigit = true := by
  unfold readHex4 at h
  split at h
  · rename_i a b c d cs
    simp only [Option.bind_eq_bind, Option.bind_eq_some_iff, Option.pure_def, Option.some.injEq,
      Prod.mk.injEq] at h
    obtain ⟨x, ha, y, hb, z, hc, w, hd, -, rfl⟩ := h
    exact ⟨a, b, c, d, rfl, by simp [isHexDigit, ha, hb, hc, hd]⟩
  · cases h

theorem skipString_readHex4 {cs rest : List Char} {n : Nat} (h : readHex4 cs = some (n, rest)) :
    skipString ('\\' :: 'u' :: cs) = skipString rest := by
  obtain ⟨a, b, c, d, rfl, hall⟩ := readHex4_eq_some h
  simp only [skipString, hall, if_true]

theorem skipString_readUnicode {cs rest : List Char} {c : Char}
    (h : readUnicode cs = some (c, rest)) : skipString ('\\' :: 'u' :: cs) = skipString rest := by
  unfold readUnicode at h
  simp only [Option.bind_eq_bind, Option.bind_eq_some_iff] at h
  obtain ⟨⟨n, cs'⟩, h₁, h⟩ := h
  rw [skipString_readHex4 h₁]
  simp only at h
  split at h
  · cases h
  · split at h
    · split at h
      · rename_i cs''
        simp only [Option.bind_eq_some_iff] at h
        obtain ⟨⟨m, cs'''⟩, h₂, h⟩ := h
        rw [skipString_readHex4 h₂]
        simp only at h
        split at h
        · simp only [Option.pure_def, Option.some.injEq, Prod.mk.injEq] at h
          rw [h.2]
        · cases h
      · cases h
    · simp only [Option.pure_def, Option.some.injEq, Prod.mk.injEq] at h
      rw [h.2]

theorem skipString_escaped {c e : Char} {cs : List Char} (h : escaped? c = some e) :
    skipString ('\\' :: c :: cs) = skipString cs := by
  have hu : c ≠ 'u' := by rintro rfl; simp [escaped?] at h
  rw [skipString]
  · simp [h]
  · simp [hu]

theorem skipString_plain {c : Char} {cs : List Char} (hq : c ≠ '\x22') (hb : c ≠ '\\')
    (hc : ¬ c.toNat < 0x20) : skipString (c :: cs) = skipString cs := by
  rw [skipString]
  · simp [hc]
  · exact hq
  · intro cs'; simp [hb]
  · intro c' cs'; simp [hb]

/-- Passing over a string that has a value leaves what reading it leaves. -/
theorem skipString_of_readStringFrom {fuel : Nat} {done cs rest : List Char} {s : String}
    (h : readStringFrom fuel done cs = some (s, rest)) : skipString cs = some rest := by
  fun_induction readStringFrom fuel done cs with
  | case1 => cases h
  | case2 => cases h
  | case3 fuel done c cs hc =>
    obtain rfl : c = '\x22' := by simpa using hc
    simp only [Option.some.injEq, Prod.mk.injEq] at h
    simp [skipString, h.2]
  | case4 fuel done c hq hc cs d cs' hu ih =>
    obtain rfl : c = '\\' := by simpa using hc
    rw [skipString_readUnicode hu]
    exact ih h
  | case5 => cases h
  | case6 fuel done c hq hc d cs' hn e he ih =>
    obtain rfl : c = '\\' := by simpa using hc
    rw [skipString_escaped he]
    exact ih h
  | case7 => cases h
  | case8 => cases h
  | case9 => cases h
  | case10 fuel done c cs hq hb hc ih =>
    rw [skipString_plain (by simpa using hq) (by simpa using hb) hc]
    exact ih h

/-- Passes over items or members, given how to pass over one of them; `closer` ends them. -/
def skipItems (closer : Char) (item : List Char → Option (List Char)) :
    Nat → List Char → Option (List Char)
  | 0, _ => none
  | fuel + 1, cs =>
    match item cs with
    | none => none
    | some cs =>
      match skipSpace cs with
      | [] => none
      | c :: cs =>
        if c == ',' then skipItems closer item fuel cs else if c == closer then some cs else none

/-- Passes over a key and the colon behind it. -/
def skipKey (cs : List Char) : Option (List Char) :=
  match skipSpace cs with
  | '\x22' :: cs =>
    match (skipString cs).map skipSpace with
    | some (':' :: cs) => some cs
    | _ => none
  | _ => none

/-- Passes over a value in a text of length `fuel`. -/
def skipValue : Nat → List Char → Option (List Char)
  | 0, _ => none
  | fuel + 1, cs =>
    match skipSpace cs with
    | [] => none
    | c :: cs =>
      if c == '\x22' then skipString cs
      else if c == '-' then (readWritten true cs).map Prod.snd
      else if (digitValue? c).isSome then (readWritten false (c :: cs)).map Prod.snd
      else if c == '[' then
        match skipSpace cs with
        | ']' :: cs => some cs
        | _ => skipItems ']' (skipValue fuel) (fuel + 1) cs
      else if c == '{' then
        match skipSpace cs with
        | '}' :: cs => some cs
        | _ => skipItems '}' (fun cs => (skipKey cs).bind (skipValue fuel)) (fuel + 1) cs
      else (readWord (c :: cs)).map Prod.snd

/-! ## Records -/

/-- Reads an object with its own way to read the value behind each key, and any other value at most
`depth` levels deep. -/
def readObject (value : String → Nat → List Char → Option (Json × List Char)) (depth fuel : Nat)
    (cs : List Char) : Option (Json × List Char) :=
  match skipSpace cs with
  | '{' :: cs =>
    match skipSpace cs with
    | '}' :: cs => some (object [], cs)
    | _ => readMembers fuel (fun key => value key fuel) fuel [] cs
  | cs => readValue fuel depth cs

/-- Reads a record: what is no field is passed over and counts as null. -/
def readRecord (names : List String) (depth fuel : Nat) (cs : List Char) :
    Option (Json × List Char) :=
  readObject
    (fun key fuel cs =>
      if names.contains key then readValue fuel (depth - 1) cs
      else (skipValue fuel cs).map fun cs => (null, cs))
    depth fuel cs

/-- The record in a JSON text, with the values of its fields. -/
def readRecord? (names : List String) (text : String) : Option Json :=
  readAll (fun fuel => readRecord names depthLimit fuel) text

/-- The value of a JSON text; an object is a named case with a record. -/
def readCase? (names : List String) (text : String) : Option Json :=
  readAll
    (fun fuel => readObject (fun _ fuel => readRecord names (depthLimit - 1) fuel) depthLimit fuel)
    text

end FeatureScan.Json
