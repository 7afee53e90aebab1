import FeatureScan.Proofs.Css.LineFeeds
import FeatureScan.Proofs.Css.Outline
import FeatureScan.Proofs.Pattern.Matching

/-!
# One line for each block, selector and at-rule

The text that patterns look at has a line for every block with declarations, for every selector
without and for every at-rule, each ended by a line feed. It has no other line feeds if and only if
none of these lines holds one, and then a pattern for the rest of a line takes what is left of an
at-rule and never more.

## Main results

* `matchable_rows`: the lines of the text.
* `matches_restOfLine`: what the rest of a line is.
* `extract_oneLine`: when every line is whole, and the reasons for those that are not.
-/

namespace FeatureScan.Css

open Pattern

/-! ## Lines without their ends -/

/-- The line of a block without its end. -/
def blockRow (selector : String) (ds : List Declaration) : String :=
  selector ++ " \x7b" ++ String.join (ds.map Declaration.text) ++ " \x7d"

/-- The line of a selector without declarations, without its end. -/
def SelectorEntry.row (s : SelectorEntry) : String := s.selector ++ " \x7b \x7d"

/-- The line of an at-rule without its end. -/
def AtRule.row (a : AtRule) : String :=
  if a.prelude == "" then "@" ++ a.keyword else "@" ++ a.keyword ++ " " ++ a.prelude

/-- Lines, each with its end. -/
def ended (rows : List String) : List Char := rows.flatMap fun row => row.toList ++ ['\n']

theorem toList_blockLine (selector : String) (ds : List Declaration) :
    (blockLine selector ds).toList = (blockRow selector ds).toList ++ ['\n'] := by
  have hend : " \x7d\n".toList = " \x7d".toList ++ ['\n'] := by decide
  rw [blockLine, String.toList_append, hend, ← List.append_assoc, ← String.toList_append]
  rfl

theorem SelectorEntry.toList_text (s : SelectorEntry) : s.text.toList = s.row.toList ++ ['\n'] := by
  have hend : " \x7b \x7d\n".toList = " \x7b \x7d".toList ++ ['\n'] := by decide
  rw [SelectorEntry.text, String.toList_append, hend, ← List.append_assoc, ← String.toList_append]
  rfl

theorem AtRule.toList_text (a : AtRule) : a.text.toList = a.row.toList ++ ['\n'] := by
  have hend : "\n".toList = ['\n'] := by decide
  rw [AtRule.text, AtRule.row]
  split <;> rw [String.toList_append, hend]

theorem toList_join_lines {α : Type} {f g : α → String}
    (h : ∀ x, (f x).toList = (g x).toList ++ ['\n']) (xs : List α) :
    (String.join (xs.map f)).toList = ended (xs.map g) := by
  induction xs with
  | nil => rfl
  | cons x xs ih =>
      rw [List.map_cons, String.join_cons, String.toList_append, h, ih]
      rfl

theorem ended_append (rows more : List String) : ended (rows ++ more) = ended rows ++ ended more :=
  List.flatMap_append

/-! ## Lines of an extraction -/

/-- The selectors without declarations. -/
def Extraction.bare (e : Extraction) : List SelectorEntry :=
  e.selectors.filter fun s => !e.declarations.any (·.block == s.block)

/-- The lines for blocks with declarations, selectors without, and at-rules. -/
def Extraction.rows (e : Extraction) (blocks : List SelectorEntry) : List String :=
  blocks.map (fun b => blockRow b.selector (e.declarations.filter (·.block == b.block))) ++
    e.bare.map SelectorEntry.row ++ e.atRules.map AtRule.row

/-- No text of an extraction holds a line feed. -/
structure Extraction.OneLined (e : Extraction) : Prop where
  /-- The declarations with their selectors. -/
  declarations : ∀ d ∈ e.declarations,
    OnOneLine d.property.toList ∧ OnOneLine d.value.toList ∧ OnOneLine d.selector.toList
  /-- The selectors. -/
  selectors : ∀ s ∈ e.selectors, OnOneLine s.selector.toList
  /-- The at-rules. -/
  atRules : ∀ a ∈ e.atRules, OnOneLine a.keyword.toList ∧ OnOneLine a.prelude.toList

theorem matchable_rows {e : Extraction}
    (h : ∀ d ∈ e.declarations, ∀ d' ∈ e.declarations, d.block = d'.block →
      d.selector = d'.selector) :
    ∃ blocks : List SelectorEntry,
      blocks.Pairwise (fun b c => b.block < c.block) ∧
      (∀ b, b ∈ blocks ↔ ∃ d ∈ e.declarations, b = ⟨d.selector, d.block⟩) ∧
      e.matchable.toList = ended (e.rows blocks) := by
  obtain ⟨blocks, hordered, hmem, -, htext⟩ := matchable_lines h
  have hline : ∀ b : SelectorEntry,
      (blockLine b.selector (e.declarations.filter (·.block == b.block))).toList =
        (blockRow b.selector (e.declarations.filter (·.block == b.block))).toList ++ ['\n'] :=
    fun b => toList_blockLine b.selector _
  have hblocks := toList_join_lines hline blocks
  have hbare := toList_join_lines SelectorEntry.toList_text e.bare
  have hatRules := toList_join_lines AtRule.toList_text e.atRules
  refine ⟨blocks, hordered, hmem, ?_⟩
  rw [htext, Extraction.rows, ended_append, ended_append, ← hblocks, ← hbare, ← hatRules,
    ← String.toList_append, ← String.toList_append, ← String.join_append, ← String.join_append]
  rfl

theorem onOneLine_atRuleRow {a : AtRule} (hkeyword : OnOneLine a.keyword.toList)
    (hprelude : OnOneLine a.prelude.toList) : OnOneLine a.row.toList := by
  have hsign : OnOneLine ("@" ++ a.keyword).toList := by
    rw [String.toList_append]
    exact onOneLine_append (onOneLine_of_all rfl) hkeyword
  unfold AtRule.row
  split
  · exact hsign
  · rw [String.toList_append, String.toList_append]
    exact onOneLine_append (onOneLine_append hsign (onOneLine_of_all rfl)) hprelude

theorem onOneLine_blockRow {selector : String} {ds : List Declaration}
    (hselector : OnOneLine selector.toList)
    (hds : ∀ d ∈ ds, OnOneLine d.property.toList ∧ OnOneLine d.value.toList) :
    OnOneLine (blockRow selector ds).toList := by
  have hjoin : OnOneLine (String.join (ds.map Declaration.text)).toList := by
    induction ds with
    | nil => exact List.not_mem_nil
    | cons d ds ih =>
        obtain ⟨⟨hproperty, hvalue⟩, hds⟩ := List.forall_mem_cons.1 hds
        have hcolon : OnOneLine [':'] := onOneLine_of_all rfl
        have hend : OnOneLine [';'] := onOneLine_of_all rfl
        rw [List.map_cons, String.join_cons, String.toList_append, Declaration.toList_text]
        exact onOneLine_append
          (onOneLine_append
            (onOneLine_append (onOneLine_cons (by decide) hproperty) hcolon)
            (onOneLine_append (onOneLine_cons (by decide) hvalue) hend))
          (ih hds)
  rw [blockRow, String.toList_append, String.toList_append, String.toList_append]
  exact onOneLine_append
    (onOneLine_append (onOneLine_append hselector (onOneLine_of_all rfl)) hjoin)
    (onOneLine_of_all rfl)

/-- Every line of an extraction whose texts hold no line feed is whole. -/
theorem onOneLine_rows {e : Extraction} (h : e.OneLined) {blocks : List SelectorEntry}
    (hblocks : ∀ b ∈ blocks, ∃ d ∈ e.declarations, b = ⟨d.selector, d.block⟩) :
    ∀ row ∈ e.rows blocks, OnOneLine row.toList := by
  intro row hrow
  rcases List.mem_append.1 hrow with hrow | hrow
  · rcases List.mem_append.1 hrow with hrow | hrow
    · obtain ⟨b, hb, rfl⟩ := List.mem_map.1 hrow
      obtain ⟨d, hd, rfl⟩ := hblocks b hb
      refine onOneLine_blockRow (h.declarations d hd).2.2 fun d' hd' => ?_
      obtain ⟨hproperty, hvalue, -⟩ := h.declarations d' (List.mem_filter.1 hd').1
      exact ⟨hproperty, hvalue⟩
    · obtain ⟨s, hs, rfl⟩ := List.mem_map.1 hrow
      rw [SelectorEntry.row, String.toList_append]
      exact onOneLine_append (h.selectors s (List.mem_filter.1 hs).1) (onOneLine_of_all rfl)
  · obtain ⟨a, ha, rfl⟩ := List.mem_map.1 hrow
    obtain ⟨hkeyword, hprelude⟩ := h.atRules a ha
    exact onOneLine_atRuleRow hkeyword hprelude

/-! ## Counting and cutting lines -/

theorem count_ended_cons (row : String) (rows : List String) :
    (ended (row :: rows)).count '\n' = row.toList.count '\n' + 1 + (ended rows).count '\n' := by
  have hcons : ended (row :: rows) = row.toList ++ ['\n'] ++ ended rows := rfl
  have hend : ['\n'].count '\n' = 1 := by decide
  rw [hcons, List.count_append, List.count_append, hend]

/-- There are at least as many line feeds as lines. -/
theorem length_le_count_ended (rows : List String) : rows.length ≤ (ended rows).count '\n' := by
  induction rows with
  | nil => exact Nat.le_refl _
  | cons row rows ih =>
      rw [count_ended_cons, List.length_cons]
      omega

/-- There are no more if no line holds one. -/
theorem count_ended_iff (rows : List String) :
    (ended rows).count '\n' = rows.length ↔ ∀ row ∈ rows, OnOneLine row.toList := by
  induction rows with
  | nil => exact ⟨fun _ => List.forall_mem_nil _, fun _ => rfl⟩
  | cons row rows ih =>
      have hle := length_le_count_ended rows
      have hrow : row.toList.count '\n' = 0 ↔ OnOneLine row.toList := List.count_eq_zero
      rw [count_ended_cons, List.length_cons, List.forall_mem_cons, ← ih, ← hrow]
      omega

theorem splitOn_ended {rows : List String} (h : ∀ row ∈ rows, OnOneLine row.toList) :
    (ended rows).splitOn '\n' = rows.map String.toList ++ [[]] := by
  induction rows with
  | nil => rfl
  | cons row rows ih =>
      obtain ⟨hrow, hrows⟩ := List.forall_mem_cons.1 h
      have hcons : ended (row :: rows) = row.toList ++ '\n' :: ended rows :=
        List.append_assoc _ _ _
      rw [hcons, List.splitOn_append_cons_self_of_not_mem hrow, ih hrows]
      rfl

/-! ## The rest of a line -/

/-- Any characters but a line feed. -/
def restOfLine : Node := .many 0 none (.chars (CharSet.single '\n').compl)

theorem read?_restOfLine (ignoreCase : Bool) :
    (Pattern.read? ignoreCase "[^\\n]*").map Pattern.node = some restOfLine := by
  cases ignoreCase <;> decide +kernel

/-- From inside a line, a pattern for the rest of it goes as far as the end of the line. -/
theorem matches_restOfLine {front row back : List Char} (hrow : OnOneLine row) {i : Nat}
    (hi : i ≤ row.length) (j : Nat) :
    restOfLine.Matches (Subject.ofChars (front ++ (row ++ '\n' :: back))) (front.length + i) j ↔
      front.length + i ≤ j ∧ j ≤ front.length + row.length := by
  have hlength : front.length + i ≤ (front ++ (row ++ '\n' :: back)).length := by
    rw [List.length_append, List.length_append]
    omega
  constructor
  · intro h
    obtain ⟨mid, hbetween, htakes⟩ := takes_of_matches hlength h
    have hmid : OnOneLine mid := not_mem_of_avoids (by decide +kernel) htakes
    refine ⟨by rw [hbetween.length]; omega, Nat.le_of_not_lt fun hj => hmid ?_⟩
    refine hbetween.mem_iff.2 ⟨front.length + row.length, by omega, hj, ?_⟩
    rw [List.getElem?_append_right (by omega), Nat.add_sub_cancel_left,
      List.getElem?_append_right (Nat.le_refl _), Nat.sub_self]
    rfl
  · rintro ⟨hle, hj⟩
    obtain ⟨k, rfl⟩ : ∃ k, j = front.length + i + k := ⟨j - (front.length + i), by omega⟩
    have hsplit : front ++ row.take i ++ (row.drop i).take k ++
        ((row.drop i).drop k ++ '\n' :: back) = front ++ (row ++ '\n' :: back) := by
      simp only [List.append_assoc]
      rw [← List.append_assoc ((row.drop i).take k), List.take_append_drop,
        ← List.append_assoc (row.take i), List.take_append_drop]
    have hbetween := between_of_eq hsplit
    rw [List.length_append, List.length_take_of_le hi,
      List.length_take_of_le (by rw [List.length_drop]; omega)] at hbetween
    refine matches_of_takes rfl hbetween (takes_many_chars fun c hc => ?_)
    have hne : c ≠ '\n' := by
      rintro rfl
      exact hrow (List.mem_of_mem_drop (List.mem_of_mem_take hc))
    rw [CharSet.contains_compl, Bool.not_eq_true', Bool.eq_false_iff, Ne, CharSet.contains_single]
    exact hne

/-! ## Every line of a style sheet -/

theorem selector_of_block (source : String) :
    ∀ d ∈ (extract source).declarations, ∀ d' ∈ (extract source).declarations,
      d.block = d'.block → d.selector = d'.selector := by
  rw [← extraction_traceText]
  have h := traceText_sound source
  intro d hd d' hd' hblock
  obtain ⟨spot, hn⟩ := h.numbered hd
  obtain ⟨spot', hn'⟩ := h.numbered hd'
  rw [← hblock] at hn'
  exact congrArg Opening.selector (hn.eq hn')

theorem getLast?_ended (rows : List String) : ∀ c ∈ (ended rows).getLast?, c = '\n' := by
  rcases rows.eq_nil_or_concat with rfl | ⟨front, row, rfl⟩
  · nofun
  · intro c hc
    have hconcat : ended (front ++ [row]) = ended front ++ row.toList ++ ['\n'] := by
      rw [ended_append, List.append_assoc]
      exact congrArg (ended front ++ ·) (List.append_nil _)
    rw [List.concat_eq_append, hconcat, List.getLast?_concat] at hc
    exact (Option.some.inj hc).symm

/-- A property and a keyword hold a line feed if and only if the name that was read does, where an
escape put it; a value, prelude or selector holds one only where a malformed address runs over the
end of a line. The text that patterns look at has one line for each block with declarations, each
selector without and each at-rule; it has no line feeds but those at the ends of these lines if and
only if each of them is whole, and then it is cut into just them. From any place in the line of an
at-rule that is whole, a pattern for the rest of the line goes as far as the end of that line, and no
further. -/
theorem extract_oneLine (source : String) :
    ((∀ d ∈ (extract source).declarations,
        (∃ name, .ident name ∈ tokensOf source ∧ d.property = propertyOf name ∧
          ('\n' ∈ d.property.toList ↔ '\n' ∈ name.toList)) ∧
        ('\n' ∈ d.value.toList → BreaksAddress (tokensOf source)) ∧
        ('\n' ∈ d.selector.toList →
          BreaksAddress (tokensOf source) ∨ BreaksKeyword (tokensOf source))) ∧
      (∀ s ∈ (extract source).selectors,
        '\n' ∈ s.selector.toList → BreaksAddress (tokensOf source)) ∧
      ∀ a ∈ (extract source).atRules,
        (∃ name, .atKeyword name ∈ tokensOf source ∧ a.keyword = Text.asciiLower name ∧
          ('\n' ∈ a.keyword.toList ↔ '\n' ∈ name.toList)) ∧
        ('\n' ∈ a.prelude.toList → BreaksAddress (tokensOf source))) ∧
    (∃ blocks : List SelectorEntry,
      blocks.Pairwise (fun b c => b.block < c.block) ∧
      (∀ b, b ∈ blocks ↔ ∃ d ∈ (extract source).declarations, b = ⟨d.selector, d.block⟩) ∧
      (extract source).matchable.toList = ended ((extract source).rows blocks) ∧
      ((extract source).matchable.toList.count '\n' = ((extract source).rows blocks).length ↔
        ∀ row ∈ (extract source).rows blocks, OnOneLine row.toList) ∧
      ((extract source).OneLined → (extract source).matchable.toList.splitOn '\n' =
        ((extract source).rows blocks).map String.toList ++ [[]])) ∧
    ∀ before a after, (extract source).atRules = before ++ a :: after →
      OnOneLine a.keyword.toList → OnOneLine a.prelude.toList →
        ∃ front, (extract source).matchable.toList =
            front ++ (a.row.toList ++ '\n' :: ended (after.map AtRule.row)) ∧
          (∀ c ∈ front.getLast?, c = '\n') ∧
          ∀ ignoreCase, ∃ pattern, Pattern.read? ignoreCase "[^\\n]*" = some pattern ∧
            ∀ i ≤ a.row.toList.length, ∀ j,
              pattern.node.Matches (.ofString (extract source).matchable) (front.length + i) j ↔
                front.length + i ≤ j ∧ j ≤ front.length + a.row.toList.length := by
  obtain ⟨hdeclarations, hselectors, hatRules⟩ := extract_reasoned source
  obtain ⟨blocks, hordered, hmem, htext⟩ := matchable_rows (selector_of_block source)
  refine ⟨⟨fun d hd => ?_, hselectors, fun a ha => ?_⟩,
    ⟨blocks, hordered, hmem, htext, ?_, fun h => ?_⟩, fun before a after hsplit hkeyword hprelude => ?_⟩
  · obtain ⟨⟨name, hname, hproperty⟩, hvalue, hselector⟩ := hdeclarations d hd
    refine ⟨⟨name, hname, hproperty, ?_⟩, hvalue, hselector⟩
    rw [hproperty, newline_mem_propertyOf]
  · obtain ⟨⟨name, hname, hkeyword⟩, hprelude⟩ := hatRules a ha
    refine ⟨⟨name, hname, hkeyword, ?_⟩, hprelude⟩
    rw [hkeyword, newline_mem_asciiLower]
  · rw [htext, count_ended_iff]
  · rw [htext, splitOn_ended (onOneLine_rows h fun b hb => (hmem b).1 hb)]
  · have hrow := onOneLine_atRuleRow hkeyword hprelude
    obtain ⟨front, hfront⟩ : ∃ front, (extract source).rows blocks =
        front ++ a.row :: after.map AtRule.row := by
      rw [Extraction.rows, hsplit, List.map_append, List.map_cons, ← List.append_assoc]
      exact ⟨_, rfl⟩
    have hlines : (extract source).matchable.toList =
        ended front ++ (a.row.toList ++ '\n' :: ended (after.map AtRule.row)) := by
      rw [htext, hfront, ended_append]
      exact congrArg (ended front ++ ·) (List.append_assoc _ _ _)
    refine ⟨ended front, hlines, getLast?_ended front, fun ignoreCase => ?_⟩
    obtain ⟨pattern, hread, hnode⟩ := Option.map_eq_some_iff.1 (read?_restOfLine ignoreCase)
    refine ⟨pattern, hread, fun i hi j => ?_⟩
    rw [hnode, Subject.ofString, hlines]
    exact matches_restOfLine hrow hi j

-- An escaped line feed in a selector is written as an escape again.
example : (extract ".\\a x\x7bb:c\x7d").matchable = ".\\a x \x7b b: c; \x7d\n" := by
  decide +kernel

/-- The keyword of an at-rule and the name of a property are not written as tokens are, and neither is
a malformed address: each of these lines is broken in two. -/
theorem matchable_broken_lines :
    (extract "@\\a x;").atRules = [⟨"\nx", ""⟩] ∧ (extract "@\\a x;").matchable = "@\nx\n" ∧
    (extract "a\x7b\\a x:1\x7d").matchable = "a \x7b \nx: 1; \x7d\n" ∧
    (extract "a\x7bb:url(x y\nz)\x7d").matchable = "a \x7b b: url(x y\nz); \x7d\n" := by
  decide +kernel

end FeatureScan.Css
