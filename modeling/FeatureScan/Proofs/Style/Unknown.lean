import FeatureScan.Proofs.Css.Joining
import FeatureScan.Proofs.Css.Lines
import FeatureScan.Proofs.Pattern.Alone
import FeatureScan.Proofs.Style.Features

/-!
# Names that a rule knows

A property is asked for by its name and a colon alone, with nothing in front and no value behind. A
pattern that matches where a declaration is written therefore makes the name known if the match
keeps to the name and its colon, or takes no more than the character in front where the start of the
text would do. A pattern that asks for a value, or for a character in front, finds the feature and
leaves its name unknown.

## Main results

* `exists_between_text`: a declaration is written somewhere, and never at the very start.
* `isKnown_of_matches`: a match that keeps to a name and its colon makes the name known.
* `not_unrecognized_of_matches`: such a name is not reported as unknown, and the feature is found.
-/

namespace FeatureScan.Style

open Pattern Css

/-! ## Where a declaration is written -/

theorem infix_join {s : String} {ss : List String} (h : s ∈ ss) :
    s.toList <:+: (String.join ss).toList := by
  rw [String.toList_join, List.flatMap_def]
  exact List.infix_of_mem_flatten (List.mem_map_of_mem h)

/-- A declaration is written somewhere, and never at the very start. -/
theorem exists_between_text {e : Extraction} {d : Declaration} (hd : d ∈ e.declarations) :
    ∃ i j, 0 < i ∧ Between e.matchable.toList i j d.text.toList := by
  obtain ⟨b, hb, hblock⟩ := (grouped_ofDeclarations e.declarations).covers d hd
  have hown : d ∈ b.declarations.reverse := by
    rw [((grouped_ofDeclarations e.declarations).holds b hb).declarations]
    exact List.mem_filter.2 ⟨hd, beq_iff_eq.2 hblock.symm⟩
  obtain ⟨front, behind, hline⟩ : d.text.toList <:+:
      (String.join (b.declarations.reverse.map Declaration.text)).toList :=
    infix_join (List.mem_map_of_mem hown)
  obtain ⟨before, after, htext⟩ : b.text.toList <:+: e.matchable.toList := by
    have hlines : b.text ∈ (BlockText.ofDeclarations e.declarations).map BlockText.text :=
      List.mem_map_of_mem (List.mem_reverse.1 hb)
    exact infix_join (List.mem_append_left _ (List.mem_append_left _ hlines))
  rw [BlockText.text_eq, blockLine, String.toList_append, String.toList_append, ← hline] at htext
  have hsplit : (before ++ (b.selector ++ " \x7b").toList ++ front) ++ d.text.toList ++
      (behind ++ " \x7d\n".toList ++ after) = e.matchable.toList := by
    rw [← htext]
    simp only [List.append_assoc]
  refine ⟨_, _, ?_, between_of_eq hsplit⟩
  simp only [List.length_append, String.toList_append]
  have hopening : " \x7b".toList.length = 2 := by decide
  omega

/-! ## Asking for a name -/

theorem matchesAny_of_mem {rules : LayeredTable} {r : CompiledRule} (hr : r ∈ rules.toList)
    {pattern : Pattern} (hpattern : pattern ∈ r.patterns) {s : Subject}
    (h : pattern.occursIn s = true) : rules.matchesAny s = true :=
  List.any_eq_true.2 ⟨r, hr, List.any_eq_true.2 ⟨pattern, hpattern, h⟩⟩

/-- A match that keeps to a name and its colon makes the name known. -/
theorem isKnown_of_matches {rules : LayeredTable} {r : CompiledRule} (hr : r ∈ rules.toList)
    {pattern : Pattern} (hpattern : pattern ∈ r.patterns) {cs : List Char} {d : Declaration}
    {i j p q : Nat} (hi : 0 < i) (hplace : Between cs i j d.text.toList)
    (hp : i < p ∨ p = i ∧ pattern.node.opensAtStart = true)
    (hq : q ≤ i + (d.property.toList.length + 2)) (h : pattern.node.Matches (.ofChars cs) p q) :
    isKnown rules isPlainProperty (· ++ ":") d.property = true := by
  have hstretch : Between cs i (i + (d.property.toList.length + 3))
      (' ' :: (d.property.toList ++ [':']) ++ [' ']) := by
    obtain ⟨⟨pre, post, rfl, rfl⟩, -⟩ := hplace
    have hcut : pre ++ (' ' :: (d.property.toList ++ [':']) ++ [' ']) ++
        (d.value.toList ++ [';'] ++ post) = pre ++ d.text.toList ++ post := by
      rw [Declaration.toList_text]
      simp only [List.append_assoc, List.cons_append, List.nil_append]
    simpa using between_of_eq hcut
  have hoccurs : pattern.occursIn (.ofString (d.property ++ ":")) = true := by
    have hmid : (d.property ++ ":").toList = d.property.toList ++ [':'] := String.toList_append
    rw [Pattern.occursIn, Subject.ofString, hmid]
    exact occursIn_of_spaced hstretch hi hp (by omega) h
  have hprobe : probe rules (d.property ++ ":") = true := matchesAny_of_mem hr hpattern hoccurs
  simp [isKnown, hprobe]

theorem mem_features_of_matches {rules : LayeredTable} (reportUnknown : Bool) {source : String}
    {r : CompiledRule} (hr : r ∈ rules.toList) {pattern : Pattern} (hpattern : pattern ∈ r.patterns)
    {p q : Nat} (hp : p ≤ (extract source).matchable.toList.length)
    (h : pattern.node.Matches (.ofString (extract source).matchable) p q) :
    r.id ∈ (scan rules reportUnknown source).features.toList := by
  have hoccurs : pattern.occursIn (.ofString (extract source).matchable) = true :=
    (occursIn_iff _ _).2 ⟨p, q, hp, h⟩
  obtain ⟨m, hm, hfeature⟩ := (find?_eq_some_iff _ r).2 ⟨pattern, hpattern, hoccurs⟩
  rw [features_scan, ScanResult.features_foldl_record]
  exact .inr ⟨m, List.mem_filterMap.2 ⟨r, hr, hm⟩, hfeature⟩

/-! ## One rule on its own -/

/-- A user's rules that leave one rule to find anything: every builtin rule gives way to one without
patterns, and `z` has the one pattern. -/
def soleRule (pattern : String) : Dict Rule :=
  (builtinTable.rules.mapValues fun id _ => ⟨id, [], id, customCategory, []⟩).insert "z"
    ⟨"z", [pattern], "z", customCategory, []⟩

theorem get?_soleRule (pattern id : String) :
    (soleRule pattern).get? id =
      if "z" = id then some ⟨"z", [pattern], "z", customCategory, []⟩
      else (builtinTable.get? id).map fun _ => ⟨id, [], id, customCategory, []⟩ := by
  rw [soleRule, Dict.get?_insert, Dict.get?_mapValues, RuleTable.get?]

theorem keyed_soleRule (pattern : String) : (soleRule pattern).Keyed :=
  (Dict.keyed_mapValues (fun _ _ => rfl) builtinTable.rules).insert
    ⟨"z", [pattern], "z", customCategory, []⟩

/-- Every rule in force is the user's. -/
theorem get?_layered_soleRule (pattern id : String) :
    (layered (soleRule pattern)).get? id = ((soleRule pattern).get? id).map fun r =>
      .ofRule true (LayeredTable.layerOver builtinTable r) r := by
  rw [get?_layered (keyed_soleRule pattern), get?_soleRule]
  split
  · rw [Option.map_some, Option.some_or]
  · cases builtinTable.get? id with
    | none => rw [Option.map_none, Option.map_none, Option.none_or, Option.map_none]
    | some r => rw [Option.map_some, Option.map_some, Option.some_or]

theorem exists_mem_soleRule (pattern : String) :
    ∃ r ∈ (layered (soleRule pattern)).toList, r.id = "z" ∧
      r.patterns = [pattern].filterMap (Pattern.read? true) := by
  refine ⟨.ofRule true (LayeredTable.layerOver builtinTable
    ⟨"z", [pattern], "z", customCategory, []⟩) ⟨"z", [pattern], "z", customCategory, []⟩,
    (LayeredTable.mem_toList _ _).2 ⟨"z", ?_⟩, rfl, rfl⟩
  rw [get?_layered_soleRule, get?_soleRule, if_pos rfl, Option.map_some]

/-- No other pattern is left. -/
theorem read?_of_mem_soleRule {pattern : String} {r : CompiledRule}
    (hr : r ∈ (layered (soleRule pattern)).toList) {p : Pattern} (hp : p ∈ r.patterns) :
    Pattern.read? true pattern = some p := by
  obtain ⟨id, hid⟩ := (LayeredTable.mem_toList _ _).1 hr
  rw [get?_layered_soleRule, get?_soleRule] at hid
  split at hid
  · obtain rfl := Option.some.inj hid
    simpa [CompiledRule.ofRule] using hp
  · obtain ⟨rule, hrule, rfl⟩ := Option.map_eq_some_iff.1 hid
    obtain ⟨builtin, -, rfl⟩ := Option.map_eq_some_iff.1 hrule
    exact absurd hp List.not_mem_nil

/-- A name is unknown where the one pattern is not found in it. -/
theorem probe_soleRule {pattern text : String}
    (h : ((Pattern.read? true pattern).any fun p => p.occursIn (.ofString text)) = false) :
    probe (layered (soleRule pattern)) text = false := by
  rw [probe, LayeredTable.matchesAny, ← Bool.not_eq_true, List.any_eq_true]
  rintro ⟨r, hr, hoccurs⟩
  obtain ⟨p, hp, hoccurs⟩ := List.any_eq_true.1 hoccurs
  rw [read?_of_mem_soleRule hr hp, Option.any_some, hoccurs] at h
  cases h

theorem not_isPlainProperty_z : isPlainProperty "z" = false := by
  rw [isPlainProperty, NameSet.has, ← Bool.not_eq_true, Dict.contains_eq_true_iff]
  exact fun h => absurd ((NameSet.mem_ofNames _ _).1 h) (by decide)

/-- The one declaration, and how it is written. -/
theorem extract_z : (extract "a\x7bz:1\x7d").declarations = [⟨"z", "1", "a", 1⟩] ∧
    (extract "a\x7bz:1\x7d").matchable = "a \x7b z: 1; \x7d\n" := by
  decide +kernel

/-- Where the one pattern matches, by searching. -/
theorem matches_soleRule (pattern : String) {i j : Nat} (hi : i ≤ 12)
    (h : ((Pattern.read? true pattern).any fun p =>
      (p.node.reach (.ofString "a \x7b z: 1; \x7d\n") [i]).contains j) = true) :
    ∃ r ∈ (layered (soleRule pattern)).toList, r.id = "z" ∧ ∃ p ∈ r.patterns,
      Pattern.read? true pattern = some p ∧
        p.node.Matches (.ofString "a \x7b z: 1; \x7d\n") i j := by
  obtain ⟨r, hr, hid, hpatterns⟩ := exists_mem_soleRule pattern
  cases hread : Pattern.read? true pattern with
  | none =>
      rw [hread] at h
      cases h
  | some p =>
      rw [hread, Option.any_some, List.contains_iff_mem] at h
      have hsize : (Subject.ofString "a \x7b z: 1; \x7d\n").chars.size = 12 := by decide
      have hinOrder : InOrder (Subject.ofString "a \x7b z: 1; \x7d\n").chars.size [i] :=
        inOrder_singleton (by rw [hsize]; exact hi)
      obtain ⟨i', hi', hmatches⟩ := (mem_reach hinOrder p.node j).1 h
      obtain rfl := List.mem_singleton.1 hi'
      exact ⟨r, hr, hid, p, by simp [hpatterns, hread], rfl, hmatches⟩

/-- With the one pattern, a match goes across the name of the one declaration and its colon, which
stand at 4 and 5; the feature is found, and the name is reported as unknown. -/
structure LeavesUnknown (pattern : String) : Prop where
  /-- The match. -/
  covers : ∃ r ∈ (layered (soleRule pattern)).toList, r.id = "z" ∧ ∃ p ∈ r.patterns, ∃ i j,
    i ≤ 4 ∧ 6 ≤ j ∧ p.node.Matches (.ofString "a \x7b z: 1; \x7d\n") i j
  /-- The feature. -/
  finds : "z" ∈ (scan (layered (soleRule pattern)) true "a\x7bz:1\x7d").features.toList
  /-- The name. -/
  reports : "property: z" ∈
    (scan (layered (soleRule pattern)) true "a\x7bz:1\x7d").unrecognized.toList

/-- A pattern that matches across the name and its colon finds the feature, and leaves the name
unknown if it is not found in the name and a colon alone. -/
theorem leavesUnknown_of_reach {pattern : String} {i j : Nat} (hi : i ≤ 4) (hj : 6 ≤ j)
    (h : ((Pattern.read? true pattern).any fun p =>
      (p.node.reach (.ofString "a \x7b z: 1; \x7d\n") [i]).contains j) = true)
    (hname : ((Pattern.read? true pattern).any fun p => p.occursIn (.ofString "z:")) = false) :
    LeavesUnknown pattern := by
  obtain ⟨hdeclarations, hmatchable⟩ := extract_z
  obtain ⟨r, hr, hid, p, hp, -, hmatches⟩ := matches_soleRule pattern (by omega) h
  refine ⟨⟨r, hr, hid, p, hp, i, j, hi, hj, hmatches⟩, ?_, ?_⟩
  · rw [← hmatchable] at hmatches
    have hle : i ≤ (extract "a\x7bz:1\x7d").matchable.toList.length := by
      rw [hmatchable]
      exact Nat.le_trans hi (by decide)
    rw [← hid]
    exact mem_features_of_matches true hr hp hle hmatches
  · have hbase : Text.dropVendorTag "z" = "z" := by decide
    have hcolon : "z" ++ ":" = "z:" := by decide
    have hprobe := probe_soleRule hname
    rw [unrecognized_scan, if_pos rfl, mem_unrecognized]
    refine .inl ⟨⟨"z", "1", "a", 1⟩, ?_, by decide, ?_, rfl⟩
    · rw [hdeclarations]
      exact List.mem_singleton_self _
    · simp [isKnown, hbase, not_isPlainProperty_z, hcolon, hprobe]

/-! ## Matches of names -/

/-- Where a pattern of a rule in force matches a declaration within its name and colon, or from the
character in front where the start of the text would do, the feature is found and the name is not
reported as unknown. -/
theorem not_unrecognized_of_matches (rules : LayeredTable) (reportUnknown : Bool) (source : String)
    {d : Declaration} (hd : d ∈ (extract source).declarations) :
    (∃ i j, 0 < i ∧ Between (extract source).matchable.toList i j d.text.toList) ∧
      ∀ i j, 0 < i → Between (extract source).matchable.toList i j d.text.toList →
        ∀ r ∈ rules.toList, ∀ pattern ∈ r.patterns, ∀ p q,
          (i < p ∨ p = i ∧ pattern.node.opensAtStart = true) →
          q ≤ i + (d.property.toList.length + 2) →
          pattern.node.Matches (.ofString (extract source).matchable) p q →
            r.id ∈ (scan rules reportUnknown source).features.toList ∧
            "property: " ++ d.property ∉ (scan rules reportUnknown source).unrecognized.toList := by
  refine ⟨exists_between_text hd, ?_⟩
  intro i j hi hplace r hr pattern hpattern p q hp hq hmatches
  constructor
  · have hle : p ≤ (extract source).matchable.toList.length := by
      have hend := hplace.le
      have hlength := hplace.length
      have hpq := le_of_matches hmatches
      rw [Declaration.toList_text] at hlength
      simp only [List.length_append, List.length_cons] at hlength
      omega
    exact mem_features_of_matches reportUnknown hr hpattern hle hmatches
  · rw [unrecognized_scan]
    cases reportUnknown with
    | false => exact List.not_mem_nil
    | true =>
        rw [if_pos rfl, mem_unrecognized]
        rintro (⟨d', -, -, hunknown, hname⟩ | ⟨a, -, -, hname⟩)
        · rw [String.append_right_inj] at hname
          rw [hname, isKnown_of_matches hr hpattern hi hplace hp hq hmatches] at hunknown
          cases hunknown
        · have hfirst := congrArg (fun s => s.toList.head?) hname
          rw [String.toList_append, String.toList_append] at hfirst
          exact absurd hfirst (by simp)

/-- The blank in front of the name, for which the start of the text would do. -/
theorem not_unrecognized_of_matches_opening :
    (⟨"z", "1", "a", 1⟩ : Declaration) ∈ (extract "a\x7bz:1\x7d").declarations ∧
      "z" ∈ (scan (layered (soleRule "(?:^| )z:")) true "a\x7bz:1\x7d").features.toList ∧
      "property: z" ∉
        (scan (layered (soleRule "(?:^| )z:")) true "a\x7bz:1\x7d").unrecognized.toList := by
  obtain ⟨hdeclarations, hmatchable⟩ := extract_z
  have hmem : (⟨"z", "1", "a", 1⟩ : Declaration) ∈ (extract "a\x7bz:1\x7d").declarations := by
    rw [hdeclarations]
    exact List.mem_singleton_self _
  have hplace : Between (extract "a\x7bz:1\x7d").matchable.toList 3 9
      (Declaration.text ⟨"z", "1", "a", 1⟩).toList := by
    rw [hmatchable]
    exact ⟨⟨"a \x7b".toList, " \x7d\n".toList, by decide, by decide⟩, by decide⟩
  have hopens : ∀ p, Pattern.read? true "(?:^| )z:" = some p → p.node.opensAtStart = true := by
    have hread : ((Pattern.read? true "(?:^| )z:").all fun p => p.node.opensAtStart) = true := by
      decide +kernel
    intro p hp
    simpa [hp] using hread
  obtain ⟨r, hr, hid, p, hp, hread, hmatches⟩ :=
    matches_soleRule "(?:^| )z:" (i := 3) (j := 6) (by decide) (by decide +kernel)
  rw [← hmatchable] at hmatches
  have hknown := (not_unrecognized_of_matches (layered (soleRule "(?:^| )z:")) true _ hmem).2 3 9
    (by decide) hplace r hr p hp 3 6 (.inr ⟨rfl, hopens p hread⟩) (by decide) hmatches
  rw [hid] at hknown
  exact ⟨hmem, hknown⟩

/-- A pattern that asks for the value, and one that asks for the blank in front: each finds its
feature by a match across the name of the one declaration and its colon, and the name is reported as
unknown. -/
theorem unrecognized_despite_match :
    (extract "a\x7bz:1\x7d").declarations = [⟨"z", "1", "a", 1⟩] ∧
      (extract "a\x7bz:1\x7d").matchable = "a \x7b z: 1; \x7d\n" ∧
      LeavesUnknown "z: 1" ∧ LeavesUnknown " z:" := by
  obtain ⟨hdeclarations, hmatchable⟩ := extract_z
  refine ⟨hdeclarations, hmatchable, ?_, ?_⟩
  · exact leavesUnknown_of_reach (i := 4) (j := 8) (by decide) (by decide) (by decide +kernel)
      (by decide +kernel)
  · exact leavesUnknown_of_reach (i := 3) (j := 6) (by decide) (by decide) (by decide +kernel)
      (by decide +kernel)

end FeatureScan.Style
