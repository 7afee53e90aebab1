import FeatureScan.Encoding
import FeatureScan.Proofs.Document.Reload
import FeatureScan.Proofs.Json.Records

/-!
# Written forms lose nothing

Findings, results, reports, rules and layers read back from what is written of them: from the value,
from the value with its members sorted by key, and from the text of the value. Evidence stands among
the fields of its finding under a key that tells its kind, a rule leaves out its keywords if it has
none, and the language of a report may be unknown; reading takes account of each. What was read from
another form (an array of fields, a record with members that are no fields, a missing field) is
written in full, so it reads back from there.

In a text a count has 64 bits. Every count that was read from a text has.

## Main results

* `Lossless`: what it means that a written form loses nothing.
* `records_lossless`: the forms of findings, results, reports, rules and layers lose nothing.
-/

namespace FeatureScan

/-- A way to write values as JSON, and to read them from JSON values and from texts, that loses
nothing of the values that can be written. -/
structure Lossless {α : Type} (write : α → Json) (read? : Json → Option α)
    (readText? : String → Option α) (CanBeWritten : α → Prop) : Prop where
  /-- A value reads back from its form. -/
  value : ∀ x, read? (write x) = some x
  /-- And from its form with the members of objects sorted by key. -/
  sorted : ∀ x, read? (write x).canonical = some x
  /-- And from the text of its form. -/
  text : ∀ x, CanBeWritten x →
    ∀ l : Json.Layout, l.asciiOnly = false → readText? (Json.text l (write x)) = some x
  /-- What was read from some JSON value reads back once it is written. -/
  valueAgain : ∀ j x, read? j = some x →
    read? (write x) = some x ∧ read? (write x).canonical = some x
  /-- And so does what was read from a text, from a text. -/
  textAgain : ∀ t x, readText? t = some x →
    ∀ l : Json.Layout, l.asciiOnly = false → readText? (Json.text l (write x)) = some x

/-- What was read again needs no argument of its own if it can be written. -/
theorem Lossless.of_reads {α : Type} {write : α → Json} {read? : Json → Option α}
    {readText? : String → Option α} {CanBeWritten : α → Prop}
    (hvalue : ∀ x, read? (write x) = some x) (hsorted : ∀ x, read? (write x).canonical = some x)
    (htext : ∀ x, CanBeWritten x →
      ∀ l : Json.Layout, l.asciiOnly = false → readText? (Json.text l (write x)) = some x)
    (hread : ∀ t x, readText? t = some x → CanBeWritten x) :
    Lossless write read? readText? CanBeWritten where
  value := hvalue
  sorted := hsorted
  text := htext
  valueAgain _ x _ := ⟨hvalue x, hsorted x⟩
  textAgain t x h := htext x (hread t x h)

/-! ## Lists, dictionaries and sets -/

namespace Json

theorem canonical_strings (l : List String) : (strings l).canonical = strings l :=
  (plain_strings 0 l).canonical_eq

/-- Items of which each reads back. -/
theorem mapM_map {α β : Type} {write : α → β} {read : β → Option α}
    (h : ∀ x, read (write x) = some x) (l : List α) : (l.map write).mapM read = some l := by
  induction l with
  | nil => rfl
  | cons x l ih => simp [List.mapM_cons, h, ih]

theorem list?_map {α : Type} {write : α → Json} {read : Json → Option α}
    (h : ∀ x, read (write x) = some x) (l : List α) :
    list? read (.array (l.map write)) = some l := by
  rw [list?, array?, Option.bind_some, mapM_map h]

theorem dict?_ofDict {α : Type} {write : α → Json} {read : Json → Option α}
    (h : ∀ x, read (write x) = some x) (d : Dict α) :
    dict? read (.ofDict (d.mapValues fun _ v => write v)) = some d := by
  have hentry : ∀ e : String × α, ((read (write e.2)).map fun v => (e.1, v)) = some e :=
    fun e => by rw [h, Option.map_some]
  have hentries : (d.entries.map fun e => (e.1, write e.2)).mapM
      (fun m => (read m.2).map fun v => (m.1, v)) = some d.entries := mapM_map hentry d.entries
  simp only [dict?, ofDict, Dict.mapValues, object?, Option.bind_eq_bind, Option.bind_some,
    hentries, Option.pure_def, Dict.ofList_entries]

theorem fits_array {depth : Nat} {items : List Json} (h : ∀ j ∈ items, j.Fits depth) :
    (array items).Fits (depth + 1) := h

end Json

theorem NameSet.ofJson?_strings (s : NameSet) : NameSet.ofJson? (.strings s.toList) = some s := by
  rw [NameSet.ofJson?, Json.strings?_strings, Option.map_some]
  congr 1
  exact NameSet.ext_mem fun x => NameSet.mem_ofNames _ _

/-! ## Findings -/

namespace Match

theorem ofJson?_toJson (m : Match) : ofJson? m.toJson = some m := by
  obtain ⟨feature, description, evidence⟩ := m
  have hevidence := Evidence.ofMember?_toMember evidence
  cases evidence <;>
    simp_all [ofJson?, toJson, Evidence.toMember, Evidence.keys, Json.object?, Json.fields?,
      Json.Fields.required?, Json.Fields.get?, Json.string?]

theorem ofJson?_canonical (m : Match) : ofJson? m.toJson.canonical = some m := by
  obtain ⟨feature, description, evidence⟩ := m
  have hevidence := Evidence.ofMember?_toMember evidence
  rw [toJson, Json.canonical_object]
  cases evidence <;>
    simp only [Evidence.toMember, List.map_cons, List.map_nil, Json.canonical,
      Json.canonical_strings, Json.ofDict, Dict.ofList, Dict.empty, List.foldl_cons,
      List.foldl_nil, Dict.insert, Dict.place, String.reduceLT, String.reduceEq,
      ↓reduceIte] at hevidence ⊢ <;>
    simp_all [ofJson?, Evidence.keys, Json.object?, Json.fields?, Json.Fields.required?,
      Json.Fields.get?, Json.string?]

theorem fits_toJson (depth : Nat) (m : Match) : m.toJson.Fits (depth + 2) := by
  have hstring : ∀ s, (Json.string s).Fits (depth + 1) := fun _ => trivial
  intro member hmember
  simp only [List.mem_cons, List.not_mem_nil, or_false] at hmember
  obtain rfl | rfl | rfl := hmember
  · exact hstring m.feature
  · exact hstring m.description
  · cases m.evidence with
    | properties patterns => exact (Json.plain_strings depth patterns).fits
    | pattern source => exact hstring source
    | element name => exact hstring name
    | «attribute» text => exact hstring text
    | detector description => exact hstring description

/-- The written form of findings. -/
theorem lossless : Lossless toJson ofJson? ofText? fun _ => True := by
  refine .of_reads ofJson?_toJson ofJson?_canonical (fun m _ l hl => ?_) fun _ _ _ => trivial
  rw [ofText?, Json.read?_text hl (m.fits_toJson 125), Option.bind_some, ofJson?_toJson]

end Match

/-! ## Results -/

namespace ScanResult

theorem ofJson?_toJson (r : ScanResult) : ofJson? r.toJson = some r := by
  simp [ofJson?, toJson, toMembers, fieldNames, Json.fields?, Json.Fields.required?,
    Json.Fields.get?, NameSet.ofJson?_strings, Json.list?_map Match.ofJson?_toJson]

theorem canonical_toJson (r : ScanResult) : r.toJson.canonical =
    .object [("details", .array (r.details.map fun m => m.toJson.canonical)),
      ("features", .strings r.features.toList),
      ("unrecognized", .strings r.unrecognized.toList)] := by
  rw [toJson, Json.canonical_object]
  simp only [toMembers, List.map_cons, List.map_nil, Json.canonical_strings, Json.canonical,
    Json.canonicalItems_eq_map, List.map_map, Json.ofDict, Dict.ofList, Dict.empty,
    List.foldl_cons, List.foldl_nil, Dict.insert, Dict.place, String.reduceLT, String.reduceEq,
    ↓reduceIte]
  rfl

theorem ofJson?_canonical (r : ScanResult) : ofJson? r.toJson.canonical = some r := by
  simp [canonical_toJson, ofJson?, fieldNames, Json.fields?, Json.Fields.required?,
    Json.Fields.get?, NameSet.ofJson?_strings, Json.list?_map Match.ofJson?_canonical]

theorem fits_toJson (depth : Nat) (r : ScanResult) : r.toJson.Fits (depth + 4) := by
  have hstrings : ∀ l, (Json.strings l).Fits (depth + 3) :=
    fun l => (Json.plain_strings (depth + 2) l).fits
  intro member hmember
  simp only [toMembers, List.mem_cons, List.not_mem_nil, or_false] at hmember
  obtain rfl | rfl | rfl := hmember
  · exact hstrings r.features.toList
  · refine Json.fits_array fun j hj => ?_
    obtain ⟨m, -, rfl⟩ := List.mem_map.1 hj
    exact m.fits_toJson depth
  · exact hstrings r.unrecognized.toList

/-- The written form of results. -/
theorem lossless : Lossless toJson ofJson? ofText? fun _ => True := by
  refine .of_reads ofJson?_toJson ofJson?_canonical (fun r _ l hl => ?_) fun _ _ _ => trivial
  have hnames : ∀ m ∈ r.toMembers, m.1 ∈ fieldNames := by
    simp [toMembers, fieldNames]
  have hread : Json.readRecord? fieldNames (Json.text l r.toJson) = some r.toJson :=
    Json.readRecord?_text hl hnames (r.fits_toJson 123)
  rw [ofText?, hread, Option.bind_some, ofJson?_toJson]

end ScanResult

/-! ## Reports -/

namespace Report

/-- A report with counts of 64 bits. -/
structure CountsFit (r : Report) : Prop where
  totalFeatures : r.totalFeatures < Json.wordLimit
  totalUnrecognized : r.totalUnrecognized < Json.wordLimit

theorem nullable?_language (language : Option Language) :
    Json.nullable? Language.ofJson? ((language.map Language.toJson).getD .null) =
      some language := by
  cases language with
  | none => rfl
  | some l => simp [Json.nullable?, Language.toJson, Language.ofJson?, Json.case?]

theorem ofJson?_toJson (r : Report) : ofJson? r.toJson = some r := by
  simp [ofJson?, toJson, fieldNames, languageIn?, Json.fields?, Json.Fields.required?,
    Json.Fields.withDefault?, Json.Fields.get?, nullable?_language, Json.nat?, Json.nat,
    Json.strings?_strings, Json.dict?_ofDict Json.strings?_strings]

theorem canonical_toJson (r : Report) : r.toJson.canonical =
    .object [("by_category", .ofDict (r.byCategory.mapValues fun _ l => .strings l)),
      ("custom_features", .strings r.customFeatures),
      ("language", (r.language.map Language.toJson).getD .null),
      ("total_features", .nat r.totalFeatures), ("total_unrecognized", .nat r.totalUnrecognized),
      ("unrecognized", .strings r.unrecognized)] := by
  have hlanguage : ((r.language.map Language.toJson).getD .null).canonical =
      (r.language.map Language.toJson).getD .null := by
    cases r.language <;> rfl
  have hcategories : (Json.ofDict (r.byCategory.mapValues fun _ l => .strings l)).canonical =
      .ofDict (r.byCategory.mapValues fun _ l => .strings l) :=
    (Document.plain_written r.byCategory (Json.plain_strings 0)).canonical_eq
  rw [toJson, Json.canonical_object]
  simp only [List.map_cons, List.map_nil, hlanguage, hcategories, Json.canonical_strings]
  simp only [Json.nat, Json.canonical, Json.ofDict, Dict.ofList, Dict.empty, List.foldl_cons,
    List.foldl_nil, Dict.insert, Dict.place, String.reduceLT, String.reduceEq, ↓reduceIte]

theorem ofJson?_canonical (r : Report) : ofJson? r.toJson.canonical = some r := by
  simp [canonical_toJson, ofJson?, fieldNames, languageIn?, Json.fields?, Json.Fields.required?,
    Json.Fields.withDefault?, Json.Fields.get?, nullable?_language, Json.nat?, Json.nat,
    Json.strings?_strings, Json.dict?_ofDict Json.strings?_strings]

theorem fits_toJson (depth : Nat) {r : Report} (h : r.CountsFit) : r.toJson.Fits (depth + 3) := by
  have hstrings : ∀ l, (Json.strings l).Fits (depth + 2) :=
    fun l => (Json.plain_strings (depth + 1) l).fits
  intro member hmember
  simp only [List.mem_cons, List.not_mem_nil, or_false] at hmember
  obtain rfl | rfl | rfl | rfl | rfl | rfl := hmember
  · cases r.language <;> trivial
  · exact h.totalFeatures
  · exact (Document.plain_written r.byCategory (Json.plain_strings depth)).fits
  · exact hstrings r.customFeatures
  · exact h.totalUnrecognized
  · exact hstrings r.unrecognized

/-- What was read from a text has counts of 64 bits. -/
theorem countsFit_of_ofText? {t : String} {r : Report} (h : ofText? t = some r) : r.CountsFit := by
  obtain ⟨j, hj, hr⟩ := Option.bind_eq_some_iff.1 h
  have hcounted := Json.partsCounted_readRecord? hj
  simp only [ofJson?, Option.bind_eq_bind, Option.bind_eq_some_iff, Option.pure_def,
    Option.some.injEq] at hr
  obtain ⟨f, hf, _, -, total, htotal, _, -, _, -, unknown, hunknown, _, -, rfl⟩ := hr
  exact ⟨hcounted.lt_of_required? hf htotal, hcounted.lt_of_required? hf hunknown⟩

/-- The written form of reports. -/
theorem lossless : Lossless toJson ofJson? ofText? CountsFit := by
  refine .of_reads ofJson?_toJson ofJson?_canonical (fun r hr l hl => ?_)
    fun _ _ => countsFit_of_ofText?
  have hread : Json.readRecord? fieldNames (Json.text l r.toJson) = some r.toJson := by
    refine Json.readRecord?_text hl ?_ (fits_toJson 124 hr)
    simp [fieldNames]
  rw [ofText?, hread, Option.bind_some, ofJson?_toJson]

end Report

/-! ## Rules and layers -/

namespace Rule

theorem ofJson?_toJson (r : Rule) : ofJson? r.toJson = some r := by
  obtain ⟨id, patterns, description, category, keywords⟩ := r
  cases keywords <;>
    simp [ofJson?, toJson, fieldNames, Json.fields?, Json.Fields.required?,
      Json.Fields.withDefault?, Json.Fields.get?, Json.string?, Json.strings?_strings]

theorem ofJson?_canonical (r : Rule) : ofJson? r.toJson.canonical = some r := by
  obtain ⟨id, patterns, description, category, keywords⟩ := r
  rw [toJson, Json.canonical_object]
  cases keywords <;>
    simp only [List.isEmpty_nil, List.isEmpty_cons, Bool.false_eq_true, List.cons_append,
      List.nil_append, List.append_nil, List.map_cons, List.map_nil, Json.canonical,
      Json.canonical_strings, Json.ofDict, Dict.ofList, Dict.empty, List.foldl_cons,
      List.foldl_nil, Dict.insert, Dict.place, String.reduceLT, String.reduceEq, ↓reduceIte] <;>
    simp [ofJson?, fieldNames, Json.fields?, Json.Fields.required?, Json.Fields.withDefault?,
      Json.Fields.get?, Json.string?, Json.strings?_strings]

theorem fits_toJson (depth : Nat) (r : Rule) : r.toJson.Fits (depth + 2) := by
  have hstring : ∀ s, (Json.string s).Fits (depth + 1) := fun _ => trivial
  intro member hmember
  simp only [List.mem_append, List.mem_cons, List.not_mem_nil, or_false] at hmember
  rcases hmember with (rfl | rfl | rfl | rfl) | hkeywords
  · exact hstring r.id
  · exact (Json.plain_strings depth r.patterns).fits
  · exact hstring r.description
  · exact hstring r.category
  · split at hkeywords
    · cases hkeywords
    · obtain rfl := List.mem_singleton.1 hkeywords
      exact (Json.plain_strings depth r.keywords).fits

/-- The written form of rules. -/
theorem lossless : Lossless toJson ofJson? ofText? fun _ => True := by
  refine .of_reads ofJson?_toJson ofJson?_canonical (fun r _ l hl => ?_) fun _ _ _ => trivial
  have hread : Json.readRecord? fieldNames (Json.text l r.toJson) = some r.toJson := by
    refine Json.readRecord?_text hl (fun m hm => ?_) (r.fits_toJson 125)
    have hkey : m.1 = "id" ∨ m.1 = "patterns" ∨ m.1 = "description" ∨ m.1 = "category" ∨
        m.1 = "keywords" := by
      simp only [List.mem_append, List.mem_cons, List.not_mem_nil, or_false] at hm
      rcases hm with (rfl | rfl | rfl | rfl) | hm
      · exact .inl rfl
      · exact .inr (.inl rfl)
      · exact .inr (.inr (.inl rfl))
      · exact .inr (.inr (.inr (.inl rfl)))
      · split at hm
        · cases hm
        · obtain rfl := List.mem_singleton.1 hm
          exact .inr (.inr (.inr (.inr rfl)))
    simpa [fieldNames] using hkey
  rw [ofText?, hread, Option.bind_some, ofJson?_toJson]

end Rule

namespace Layer

/-- The written form of layers. -/
theorem lossless : Lossless toJson ofJson? ofText? fun _ => True := by
  refine .of_reads ofJson?_toJson ?_ (fun layer _ l hl => ?_) fun _ _ _ => trivial
  · intro layer
    cases layer <;> rfl
  · have hread : Json.readCase? fieldNames (Json.text l layer.toJson) = some layer.toJson := by
      cases layer with
      | builtin => exact Json.readCase?_text_string hl "builtin"
      | custom overrides =>
          refine Json.readCase?_text hl ?_ ?_ <;> intro m hm
          · simp_all [fieldNames]
          · obtain rfl := List.mem_singleton.1 hm
            trivial
    rw [ofText?, hread, Option.bind_some, ofJson?_toJson]

end Layer

/-- **Written forms lose nothing**: findings with any evidence, results whose details repeat or
disagree with their features, reports with or without a language, rules with or without keywords,
and layers. -/
theorem records_lossless :
    Lossless Match.toJson Match.ofJson? Match.ofText? (fun _ => True) ∧
      Lossless ScanResult.toJson ScanResult.ofJson? ScanResult.ofText? (fun _ => True) ∧
      Lossless Report.toJson Report.ofJson? Report.ofText? Report.CountsFit ∧
      Lossless Rule.toJson Rule.ofJson? Rule.ofText? (fun _ => True) ∧
      Lossless Layer.toJson Layer.ofJson? Layer.ofText? (fun _ => True) :=
  ⟨Match.lossless, ScanResult.lossless, Report.lossless, Rule.lossless, Layer.lossless⟩

end FeatureScan
