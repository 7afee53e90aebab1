import FeatureScan.Batch

/-!
# Results merged, and batches

Of a result merged in, the details of features that are not known yet are added behind the old ones,
the first one of each. What is added does not depend on how a row of results is put in brackets,
because a detail is passed over for the same features, whether they are known from the left or from
within the row. A batch is such a row. It has to be cut with care: the empty result in front of a
result may change it, as its features may come without details and its details may repeat.

## Main results

* `ScanResult.details_foldl_record_eq`, `ScanResult.newFindings_newFindings`: what is added, and
  what is added of what is added.
* `ScanResult.merge_assoc`: merging is associative.
* `Scanner.merged_append_eq_merge`: the outcomes of two batches in a row.
* `Scanner.batch_laws`: how results are merged, and what each file gives to a batch.
-/

namespace FeatureScan

theorem NameSet.has_eq_true_iff (s : NameSet) (x : String) : s.has x = true ↔ x ∈ s.toList :=
  Dict.contains_eq_true_iff s x

namespace ScanResult

open NameSet (has_eq_true_iff)

/-! ## What is added -/

/-- The findings of features that are not known, the first one of each. -/
def newFindings (known : NameSet) : List Match → List Match
  | [] => []
  | m :: ms =>
    if known.has m.feature then newFindings known ms
    else m :: newFindings (known.add m.feature) ms

/-- Recording a row of findings adds those that are new. -/
theorem details_foldl_record_eq (ms : List Match) (r : ScanResult) :
    (ms.foldl record r).details = r.details ++ newFindings r.features ms := by
  induction ms generalizing r with
  | nil => simp [newFindings]
  | cons m ms ih =>
      rw [List.foldl_cons, ih, newFindings]
      by_cases hknown : r.features.has m.feature = true
      · have hrecord : r.record m = r := if_pos hknown
        rw [hrecord, if_pos hknown]
      · have hrecord : r.record m =
            { r with features := r.features.add m.feature, details := r.details ++ [m] } :=
          if_neg hknown
        rw [hrecord, if_neg hknown, List.append_assoc]
        rfl

/-- Behind some findings, those are new whose features are neither known nor found before. -/
theorem newFindings_append {known all : NameSet} {ms : List Match} (ms' : List Match)
    (hall : ∀ x, x ∈ all.toList ↔ x ∈ known.toList ∨ ∃ m ∈ ms, m.feature = x) :
    newFindings known (ms ++ ms') = newFindings known ms ++ newFindings all ms' := by
  induction ms generalizing known with
  | nil =>
      have heq : all = known := by
        refine NameSet.ext_mem fun x => ?_
        simp [hall]
      rw [heq]
      rfl
  | cons m ms ih =>
      rw [List.cons_append, newFindings, newFindings]
      by_cases hknown : known.has m.feature = true
      · rw [if_pos hknown, if_pos hknown]
        refine ih fun x => ?_
        have hmem := (has_eq_true_iff known m.feature).1 hknown
        rw [hall]
        grind
      · rw [if_neg hknown, if_neg hknown, List.cons_append]
        rw [ih]
        intro x
        rw [hall, NameSet.mem_add]
        grind

/-- What is new of what is new within a row is what is new to both. -/
theorem newFindings_newFindings {known inner both : NameSet} (ms : List Match)
    (hboth : ∀ x, x ∈ both.toList ↔ x ∈ known.toList ∨ x ∈ inner.toList) :
    newFindings known (newFindings inner ms) = newFindings both ms := by
  induction ms generalizing known inner both with
  | nil => rfl
  | cons m ms ih =>
      have hhas := hboth m.feature
      simp only [← has_eq_true_iff] at hhas
      rw [newFindings, newFindings]
      by_cases hinner : inner.has m.feature = true
      · rw [if_pos hinner, if_pos (hhas.2 (.inr hinner))]
        exact ih hboth
      · rw [if_neg hinner, newFindings]
        by_cases hknown : known.has m.feature = true
        · rw [if_pos hknown, if_pos (hhas.2 (.inl hknown))]
          -- The feature is known already, so that it does not count that it is met within the row.
          refine ih fun x => ?_
          have hmem := (has_eq_true_iff known m.feature).1 hknown
          rw [hboth, NameSet.mem_add]
          grind
        · have hneither : ¬ both.has m.feature = true := by
            intro h
            exact (hhas.1 h).elim hknown hinner
          rw [if_neg hknown, if_neg hneither]
          refine congrArg (m :: ·) (ih fun x => ?_)
          rw [NameSet.mem_add, NameSet.mem_add, NameSet.mem_add, hboth]
          grind

/-! ## Merging -/

theorem details_merge (r other : ScanResult) :
    (r.merge other).details = r.details ++ newFindings r.features other.details :=
  details_foldl_record_eq other.details r

theorem mem_unrecognized_merge (r other : ScanResult) (x : String) :
    x ∈ (r.merge other).unrecognized.toList ↔
      x ∈ r.unrecognized.toList ∨ x ∈ other.unrecognized.toList := by
  rw [merge, NameSet.mem_union, unrecognized_foldl_record]

/-- Together with what is known, the new findings of a row have the features of the whole row. -/
theorem exists_newFindings_iff (known : NameSet) (ms : List Match) (x : String) :
    (x ∈ known.toList ∨ ∃ m ∈ newFindings known ms, m.feature = x) ↔
      x ∈ known.toList ∨ ∃ m ∈ ms, m.feature = x := by
  induction ms generalizing known with
  | nil => rfl
  | cons m ms ih =>
      rw [newFindings]
      by_cases hknown : known.has m.feature = true
      · have hmem := (has_eq_true_iff known m.feature).1 hknown
        rw [if_pos hknown, ih]
        grind
      · have hrest := ih (known.add m.feature)
        rw [NameSet.mem_add] at hrest
        rw [if_neg hknown]
        grind

theorem ext_parts {a b : ScanResult} (hfeatures : a.features = b.features)
    (hdetails : a.details = b.details) (hunrecognized : a.unrecognized = b.unrecognized) :
    a = b := by
  obtain ⟨fa, da, ua⟩ := a
  obtain ⟨fb, db, ub⟩ := b
  subst hfeatures hdetails hunrecognized
  rfl

/-- Merging is associative. -/
theorem merge_assoc (a b c : ScanResult) : (a.merge b).merge c = a.merge (b.merge c) := by
  refine ext_parts ?_ ?_ ?_
  · refine NameSet.ext_mem fun x => ?_
    have hnew := exists_newFindings_iff b.features c.details x
    rw [mem_features_merge, mem_features_merge, mem_features_merge, details_merge,
      mem_features_merge]
    simp only [List.mem_append]
    grind
  · -- The features known before `c` are those of `a`, those that `b` details, and those of `b`.
    have hall : ∀ x, x ∈ (b.details.foldl record a).features.toList ↔
        x ∈ a.features.toList ∨ ∃ m ∈ b.details, m.feature = x := fun x =>
      features_foldl_record b.details a x
    have hboth : ∀ x, x ∈ (a.merge b).features.toList ↔
        x ∈ (b.details.foldl record a).features.toList ∨ x ∈ b.features.toList := by
      intro x
      rw [mem_features_merge, hall, or_assoc]
    rw [details_merge, details_merge, details_merge, details_merge, newFindings_append _ hall,
      newFindings_newFindings _ hboth, List.append_assoc]
  · refine NameSet.ext_mem fun x => ?_
    rw [mem_unrecognized_merge, mem_unrecognized_merge, mem_unrecognized_merge,
      mem_unrecognized_merge, or_assoc]

/-- The empty result in front of a row makes no difference behind another result. -/
theorem merge_empty_merge (a r : ScanResult) : a.merge (empty.merge r) = a.merge r := by
  rw [← merge_assoc, merge_empty]

/-- A row of results is merged in as one. -/
theorem foldl_merge (rs : List ScanResult) (a : ScanResult) :
    rs.foldl merge a = a.merge (rs.foldl merge empty) := by
  induction rs generalizing a with
  | nil => exact (merge_empty a).symm
  | cons r rs ih =>
      calc (r :: rs).foldl merge a
          = (a.merge r).merge (rs.foldl merge empty) := ih (a.merge r)
        _ = (a.merge (empty.merge r)).merge (rs.foldl merge empty) := by rw [merge_empty_merge]
        _ = a.merge ((empty.merge r).merge (rs.foldl merge empty)) := merge_assoc _ _ _
        _ = a.merge ((r :: rs).foldl merge empty) := by rw [List.foldl_cons, ih (empty.merge r)]

theorem mem_features_foldl_merge (rs : List ScanResult) (a : ScanResult) (x : String) :
    x ∈ (rs.foldl merge a).features.toList ↔ x ∈ a.features.toList ∨
      ∃ r ∈ rs, (∃ m ∈ r.details, m.feature = x) ∨ x ∈ r.features.toList := by
  induction rs generalizing a with
  | nil => simp
  | cons r rs ih =>
      rw [List.foldl_cons, ih, mem_features_merge]
      simp only [List.mem_cons, or_assoc, exists_eq_or_imp]

theorem mem_unrecognized_foldl_merge (rs : List ScanResult) (a : ScanResult) (x : String) :
    x ∈ (rs.foldl merge a).unrecognized.toList ↔
      x ∈ a.unrecognized.toList ∨ ∃ r ∈ rs, x ∈ r.unrecognized.toList := by
  induction rs generalizing a with
  | nil => simp
  | cons r rs ih =>
      rw [List.foldl_cons, ih, mem_unrecognized_merge]
      simp only [List.mem_cons, or_assoc, exists_eq_or_imp]

end ScanResult

/-! ## Sources -/

namespace Text

theorem dropByteOrderMark_mark (s : String) : dropByteOrderMark ("\uFEFF" ++ s) = s := by
  have hlist : ("\uFEFF" ++ s).toList = '\uFEFF' :: s.toList := by
    rw [String.toList_append]
    rfl
  rw [dropByteOrderMark, hlist]
  exact String.ofList_toList

theorem dropByteOrderMark_of_no_mark {s : String} (h : s.toList.head? ≠ some '\uFEFF') :
    dropByteOrderMark s = s := by
  rw [dropByteOrderMark]
  split
  · next cs hcs =>
    rw [hcs] at h
    exact absurd rfl h
  · rfl

end Text

namespace Files

/-- A file holds a source: its text is that source, or that source behind a mark of byte order. -/
inductive HoldsSource (f : Files) (path : String) : String → Prop
  | plain (content : ByteArray) (source : String) (h : f.read path = .ok content)
      (hbytes : String.fromUTF8? content = some source)
      (hmark : source.toList.head? ≠ some '\uFEFF') : HoldsSource f path source
  | marked (content : ByteArray) (source : String) (h : f.read path = .ok content)
      (hbytes : String.fromUTF8? content = some ("\uFEFF" ++ source)) : HoldsSource f path source

/-- Why a file is skipped in a batch. -/
inductive IsSkipped (f : Files) (path : String) : Prop
  /-- Its name tells no language. -/
  | unsupported (h : Language.ofPath? path = none)
  /-- It is not there, or cannot be read. -/
  | unreadable (e : PathFault) (h : f.read path = .error e)
  /-- Its bytes are no text. -/
  | noText (content : ByteArray) (h : f.read path = .ok content)
      (hbytes : String.fromUTF8? content = none)

variable {f : Files} {path source : String}

theorem HoldsSource.source_eq (h : f.HoldsSource path source) : f.source path = .ok source := by
  cases h with
  | plain content _ h hbytes hmark =>
      simp only [Files.source, h, hbytes, Text.dropByteOrderMark_of_no_mark hmark]
  | marked content _ h hbytes =>
      simp only [Files.source, h, hbytes, Text.dropByteOrderMark_mark]

/-- A file is skipped, or has a language and holds a source. -/
theorem isSkipped_or (f : Files) (path : String) :
    f.IsSkipped path ∨
      ∃ l source, Language.ofPath? path = some l ∧ f.HoldsSource path source := by
  cases hl : Language.ofPath? path with
  | none => exact .inl (.unsupported hl)
  | some l =>
      cases hread : f.read path with
      | error e => exact .inl (.unreadable e hread)
      | ok content =>
          cases htext : String.fromUTF8? content with
          | none => exact .inl (.noText content hread htext)
          | some text =>
              by_cases hmark : text.toList.head? = some '\uFEFF'
              · obtain ⟨cs, hcs⟩ := List.head?_eq_some_iff.1 hmark
                have heq : text = "\uFEFF" ++ String.ofList cs := by
                  rw [← String.ofList_toList (s := text), hcs]
                  exact String.ofList_cons
                rw [heq] at htext
                exact .inr ⟨l, _, rfl, .marked content _ hread htext⟩
              · exact .inr ⟨l, text, rfl, .plain content text hread htext hmark⟩

end Files

/-! ## Batches -/

namespace Scanner

variable {s : Scanner} {f : Files} {path source : String}

theorem toOption_scanFile_of_isSkipped (h : f.IsSkipped path) :
    (s.scanFile f path).value.toOption = none := by
  cases hl : Language.ofPath? path with
  | none => simp [scanFile, hl, Except.toOption]
  | some l =>
      have hsource : (f.source path).toOption = none := by
        cases h with
        | unsupported h =>
            rw [hl] at h
            cases h
        | unreadable e h => cases e <;> simp [Files.source, h, Except.toOption]
        | noText content h hbytes => simp [Files.source, h, hbytes, Except.toOption]
      cases he : f.source path with
      | error e => simp [scanFile, scanFileAs, hl, he, Except.toOption]
      | ok source =>
          rw [he] at hsource
          cases hsource

/-- The outcomes of two batches in a row. -/
theorem merged_append_eq_merge (a b : List (Except Fault ScanResult)) :
    merged (a ++ b) = (merged a).merge (merged b) := by
  rw [merged_append, ScanResult.foldl_merge]
  rfl

theorem value_scanFiles_append (s : Scanner) (f : Files) (ps qs : List String) :
    (s.scanFiles f (ps ++ qs)).value = (s.scanFiles f ps).value.merge (s.scanFiles f qs).value := by
  simp only [scanFiles, List.map_append, merged_append_eq_merge]

/-- The results that paths give are those of the paths that occur. -/
theorem mem_results_iff (s : Scanner) (f : Files) (paths : List String) (r : ScanResult) :
    r ∈ ((paths.map (s.scanFile f)).map Logged.value).filterMap Except.toOption ↔
      ∃ p ∈ paths, (s.scanFile f p).value.toOption = some r := by
  simp only [List.map_map, List.mem_filterMap, List.mem_map, Function.comp]
  constructor
  · rintro ⟨o, ⟨p, hp, rfl⟩, ho⟩
    exact ⟨p, hp, ho⟩
  · rintro ⟨p, hp, ho⟩
    exact ⟨_, ⟨p, hp, rfl⟩, ho⟩

/-- What a batch finds depends on nothing but which files are in it. -/
theorem features_scanFiles_congr (s : Scanner) (f : Files) {ps qs : List String}
    (h : ∀ p, p ∈ ps ↔ p ∈ qs) :
    (s.scanFiles f ps).value.features = (s.scanFiles f qs).value.features ∧
      (s.scanFiles f ps).value.unrecognized = (s.scanFiles f qs).value.unrecognized := by
  have hresults : ∀ r, r ∈ ((ps.map (s.scanFile f)).map Logged.value).filterMap Except.toOption ↔
      r ∈ ((qs.map (s.scanFile f)).map Logged.value).filterMap Except.toOption := by
    intro r
    simp only [mem_results_iff, h]
  constructor
  · refine NameSet.ext_mem fun x => ?_
    simp only [scanFiles, merged, ScanResult.mem_features_foldl_merge, hresults]
  · refine NameSet.ext_mem fun x => ?_
    simp only [scanFiles, merged, ScanResult.mem_unrecognized_foldl_merge, hresults]

/-- A path in the midst of a batch. -/
theorem value_scanFiles_cons (s : Scanner) (f : Files) (ps qs : List String) (path : String) :
    (s.scanFiles f (ps ++ path :: qs)).value =
      ((s.scanFiles f ps).value.merge (s.scanFiles f [path]).value).merge
        (s.scanFiles f qs).value := by
  rw [ScanResult.merge_assoc, ← value_scanFiles_append, ← value_scanFiles_append]
  rfl

/-- Files of which one can be scanned. -/
def mixedFiles : Files :=
  { entries :=
      [(["a.css"], .file ("\uFEFF" ++ "a\x7bfilter:none\x7d").toUTF8),
        (["b.js"], .file ⟨#[0xE9]⟩), (["c.txt"], .file "fetch(1)".toUTF8)] }

end Scanner

end FeatureScan
