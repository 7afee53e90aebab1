import FeatureScan.Markup.Tag

/-!
# Raw text

Inside some elements there are no tags but the one that ends the element. Scripts may hide end tags
in what looks like a comment, and start tags of scripts within.

## Main results

* `length_afterName_le`: what follows a name is no longer than the text with it.
-/

namespace FeatureScan.Markup.RawText

/-- What follows a name in any case, if the name ends there. -/
def afterName? (name : List Char) (cs : List Char) : Option (List Char) :=
  let rest := cs.drop name.length
  if (cs.take name.length).map Text.lowerChar == name &&
      rest.head?.any fun c => Tag.isGap c || c == '/' || c == '>' then some rest
  else none

/-- Finds the tag that ends an element, and tells what follows its name. -/
def ending? (name : List Char) : List Char → Option (List Char)
  | [] => none
  | '<' :: '/' :: cs => (afterName? name cs).or (ending? name cs)
  | _ :: cs => ending? name cs

/-- How far a script has come in hiding its text. The numbers count the dashes just read, up to
two. -/
inductive Cover
  /-- Nothing is hidden. -/
  | none
  /-- Inside what looks like a comment. -/
  | comment (dashes : Nat)
  /-- Inside a script within such a comment. -/
  | script (dashes : Nat)

/-- The name of scripts. -/
def scriptName : List Char := "script".toList

/-- How many dashes have been read after one more character. -/
def dashesAfter (dashes : Nat) (c : Char) : Nat := if c == '-' then min (dashes + 1) 2 else 0

/-- The cover behind a character that begins no tag. -/
def Cover.after : Cover → Char → Cover
  | .none, _ => .none
  | .comment n, c => if c == '>' && n == 2 then .none else .comment (dashesAfter n c)
  | .script n, c => if c == '>' && n == 2 then .none else .script (dashesAfter n c)

/-- The cover behind the sign that may begin a tag, by what follows it. -/
def Cover.afterOpener : Cover → List Char → Cover
  | .none, cs => if Text.hasFront "!--".toList cs then .comment 0 else .none
  | .comment _, cs => if (afterName? scriptName cs).isSome then .script 0 else .comment 0
  | .script _, '/' :: cs => if (afterName? scriptName cs).isSome then .comment 0 else .script 0
  | .script _, _ => .script 0

/-- Whether an end tag counts under a cover. -/
def Cover.showsEnd : Cover → Bool
  | .script _ => false
  | _ => true

/-- What follows the name of an end tag of a script behind `<`, if the tag counts under a cover. -/
def scriptEndingHere? (cover : Cover) (cs : List Char) : Option (List Char) :=
  if cover.showsEnd then (Text.afterFront? ['/'] cs).bind (afterName? scriptName) else none

/-- Finds the tag that ends a script, and tells what follows its name. -/
def scriptEnding? (cover : Cover) : List Char → Option (List Char)
  | [] => none
  | '<' :: cs =>
    match scriptEndingHere? cover cs with
    | some rest => some rest
    | none => scriptEnding? (cover.afterOpener cs) cs
  | c :: cs => scriptEnding? (cover.after c) cs

/-! ## Sizes -/

theorem length_afterName_le {name cs rest : List Char} (h : afterName? name cs = some rest) :
    rest.length ≤ cs.length := by
  simp only [afterName?] at h
  split at h
  · simp only [Option.some.injEq] at h
    subst h
    simp
  · simp at h

theorem length_ending_le {name cs rest : List Char} (h : ending? name cs = some rest) :
    rest.length ≤ cs.length := by
  fun_induction ending? name cs with
  | case1 => simp at h
  | case2 cs ih =>
    rcases Option.or_eq_some_iff.1 h with h | ⟨-, h⟩
    · exact Nat.le_trans (length_afterName_le h) (by simp; omega)
    · exact Nat.le_trans (ih h) (by simp; omega)
  | case3 c cs _ ih => exact Nat.le_trans (ih h) (by simp)

theorem length_scriptEnding_le {cover : Cover} {cs rest : List Char}
    (h : scriptEnding? cover cs = some rest) : rest.length ≤ cs.length := by
  fun_induction scriptEnding? cover cs with
  | case1 => simp at h
  | case2 cover cs behind hb =>
    simp only [Option.some.injEq] at h
    subst h
    unfold scriptEndingHere? at hb
    split at hb
    · obtain ⟨a, ha, hn⟩ := Option.bind_eq_some_iff.1 hb
      have := Text.afterFront?_eq_some_iff.1 ha
      subst this
      exact Nat.le_trans (length_afterName_le hn) (by simp; omega)
    · simp at hb
  | case3 cover cs _ ih => exact Nat.le_trans (ih h) (by simp)
  | case4 cover c cs _ ih => exact Nat.le_trans (ih h) (by simp)

end FeatureScan.Markup.RawText
