import FeatureScan.Proofs.Css.Joining
import FeatureScan.Proofs.Css.Reached

/-!
# Names with a vendor tag

A vendor tag changes nothing but the name that it stands in front of. The at-rule with the tag holds
what it holds without, and where its block belongs to a pseudo-selector made of its keyword, the tag
is in that. What is known without a tag is known with it.

## Main results

* `dropVendorTag_append`: the name behind a tag.
* `isKnown_vendorTag`: a known name stays known.
* `vendorTag_transparent`: what a style sheet says, and which names are unknown.
-/

namespace FeatureScan.Css

/-! ## At-rules -/

/-- What is recorded of an at-rule under a keyword, where the pseudo-selector of its block is left
open in `row`. -/
def AtRuleReading.recorded (a : AtRuleReading) (keyword : String) (row : List Slot) : List Event :=
  .atRule ⟨keyword, a.prelude⟩ :: row.map (Slot.fill ("@" ++ keyword))

/-- The findings in the block of an at-rule differ in the pseudo-selector only, and those of a
container do not differ. -/
theorem findings_uniform (a : AtRuleReading) (base : String) (k : Nat) :
    ∃ row : List Slot,
      (∀ keyword, Text.dropVendorTag keyword = base →
        a.findings keyword k = row.map (Slot.fill ("@" ++ keyword))) ∧
      (containerKeywords.contains base = true → ∀ slot ∈ row, ∃ e, slot = .fixed e) := by
  unfold AtRuleReading.findings
  cases a.block? with
  | none => exact ⟨[], fun _ _ => rfl, fun _ => nofun⟩
  | some body =>
      obtain ⟨last, row, hrow, hfixed⟩ := readAtRuleBody_uniform a.room a.outer base body k
      refine ⟨row.reverse, fun keyword hbase => ?_, fun hcontainer slot hslot => ?_⟩
      · dsimp only
        rw [hrow keyword hbase, Recorder.found, List.map_reverse]
      · exact hfixed hcontainer slot (List.mem_reverse.1 hslot)

/-- What a style sheet says with a vendor tag in front of the name of an at-rule, and without it. -/
theorem extract_vendorTag {front back : String} {a : AtRuleReading}
    (ha : atRuleBetween? front back = some a) {tag : List Char} (htag : tag ∈ Text.vendorTags)
    (hplain : Text.dropVendorTag a.keyword = a.keyword) :
    ∃ before after k row,
      (∀ keyword, Text.dropVendorTag keyword = a.keyword →
        a.findings keyword k = row.map (Slot.fill ("@" ++ keyword))) ∧
      (containerKeywords.contains a.keyword = true → ∀ slot ∈ row, ∃ e, slot = .fixed e) ∧
      extract (front ++ "@" ++ back) =
        .ofEvents (before ++ a.recorded a.keyword row ++ after) ∧
      extract (front ++ "@" ++ (String.ofList tag ++ back)) =
        .ofEvents (before ++ a.recorded (String.ofList tag ++ a.keyword) row ++ after) := by
  obtain ⟨hne, -, before, after, k, hfound, hfound'⟩ := readBody_rekeyed ha htag hplain
  obtain ⟨row, hrow, hfixed⟩ := findings_uniform a a.keyword k
  rw [hrow _ hplain] at hfound
  rw [hrow _ (Text.dropVendorTag_append htag hne)] at hfound'
  refine ⟨before, after, k, row, hrow, hfixed, ?_, ?_⟩
  · have hsource : (front ++ "@" ++ back).toList = front.toList ++ '@' :: back.toList := by simp
    rw [extract, findings, hsource, hfound, AtRuleReading.recorded, List.append_assoc, List.cons_append]
  · have hsource : (front ++ "@" ++ (String.ofList tag ++ back)).toList =
        front.toList ++ '@' :: (tag ++ back.toList) := by simp
    rw [extract, findings, hsource, hfound', AtRuleReading.recorded, List.append_assoc, List.cons_append]

end FeatureScan.Css

namespace FeatureScan.Style

open Css

/-! ## Unknown names -/

/-- A name that is known is known with any vendor tag. -/
theorem isKnown_vendorTag {tag : List Char} (htag : tag ∈ Text.vendorTags) {rules : LayeredTable}
    {isPlain : String → Bool} {written : String → String} {name : String} (hname : name ≠ "")
    (hplain : Text.dropVendorTag name = name) (h : isKnown rules isPlain written name = true) :
    isKnown rules isPlain written (String.ofList tag ++ name) = true := by
  have hbase := Text.dropVendorTag_append htag hname
  unfold isKnown at h ⊢
  dsimp only at h ⊢
  rw [hplain] at h
  rw [hbase]
  cases hlist : isPlain name with
  | true => rfl
  | false =>
      have hprobe : probe rules (written name) = true := by simpa [hlist] using h
      have htagged : name ≠ String.ofList tag ++ name := by
        intro heq
        have hlength := congrArg String.length heq
        rw [String.length_append, String.length_ofList] at hlength
        have hpos := Text.length_vendorTag_pos htag
        omega
      rw [hprobe, bne_iff_ne.2 htagged]
      simp

/-- No report of a property is one of an at-rule. -/
theorem property_ne_atRule (name keyword : String) : "property: " ++ name ≠ "@-rule: @" ++ keyword := by
  intro h
  have hhead := congrArg (fun s => s.toList.head?) h
  simp at hhead

/-- A property is reported where it is written and not known. -/
theorem property_mem_unrecognized_iff (rules : LayeredTable) (e : Extraction) (name : String) :
    "property: " ++ name ∈ (unrecognized rules e).toList ↔
      (∃ d ∈ e.declarations, d.property = name) ∧ isAuthors name = false ∧
        isKnown rules isPlainProperty (· ++ ":") name = false := by
  rw [mem_unrecognized]
  constructor
  · rintro (⟨d, hd, hauthors, hknown, hname⟩ | ⟨r, -, -, hname⟩)
    · obtain rfl : d.property = name := by simpa using hname
      exact ⟨⟨d, hd, rfl⟩, hauthors, hknown⟩
    · exact absurd hname.symm (property_ne_atRule _ _)
  · rintro ⟨⟨d, hd, rfl⟩, hauthors, hknown⟩
    exact Or.inl ⟨d, hd, hauthors, hknown, rfl⟩

/-- An at-rule is reported where it is written and not known. -/
theorem atRule_mem_unrecognized_iff (rules : LayeredTable) (e : Extraction) (name : String) :
    "@-rule: @" ++ name ∈ (unrecognized rules e).toList ↔
      (∃ r ∈ e.atRules, r.keyword = name) ∧
        isKnown rules isPlainAtRule ("@" ++ ·) name = false := by
  rw [mem_unrecognized]
  constructor
  · rintro (⟨d, -, -, -, hname⟩ | ⟨r, hr, hknown, hname⟩)
    · exact absurd hname (property_ne_atRule _ _)
    · obtain rfl : r.keyword = name := by simpa using hname
      exact ⟨⟨r, hr, rfl⟩, hknown⟩
  · rintro ⟨⟨r, hr, rfl⟩, hknown⟩
    exact Or.inr ⟨r, hr, hknown, rfl⟩

/-- A name without a vendor tag that is not an author's own. -/
structure IsBare (name : String) : Prop where
  /-- It is a name. -/
  nonempty : name ≠ ""
  /-- It has no tag. -/
  untagged : Text.dropVendorTag name = name
  /-- It is in common use. -/
  common : isAuthors name = false

/-! ## Main result -/

/-- A vendor tag is transparent. Every at-rule of a style sheet stands at a sign where the reader
comes to it. Put in front of its name, a tag changes in what the style sheet says the keyword of that
at-rule and, where its block belongs to a pseudo-selector, that pseudo-selector in the findings made
in the block; the block of a container gives the same findings. And where a name that is in use is not
reported as unknown, no style sheet has it reported with a tag. -/
theorem vendorTag_transparent {tag : List Char} (htag : tag ∈ Text.vendorTags) :
    (∀ (source : String), ∀ r ∈ (extract source).atRules,
      ∃ front back a, source = front ++ "@" ++ back ∧ atRuleBetween? front back = some a ∧
        r = ⟨a.keyword, a.prelude⟩) ∧
    (∀ (front back : String) (a : AtRuleReading), atRuleBetween? front back = some a →
      Text.dropVendorTag a.keyword = a.keyword →
        ∃ before after k row,
          (∀ keyword, Text.dropVendorTag keyword = a.keyword →
            a.findings keyword k = row.map (Slot.fill ("@" ++ keyword))) ∧
          (containerKeywords.contains a.keyword = true → ∀ slot ∈ row, ∃ e, slot = .fixed e) ∧
          extract (front ++ "@" ++ back) =
            .ofEvents (before ++ a.recorded a.keyword row ++ after) ∧
          extract (front ++ "@" ++ (String.ofList tag ++ back)) =
            .ofEvents (before ++ a.recorded (String.ofList tag ++ a.keyword) row ++ after)) ∧
    ∀ (rules : LayeredTable) (e e' : Extraction) (name : String), IsBare name →
      ((∃ d ∈ e.declarations, d.property = name) →
        "property: " ++ name ∉ (unrecognized rules e).toList →
          "property: " ++ (String.ofList tag ++ name) ∉ (unrecognized rules e').toList) ∧
      ((∃ r ∈ e.atRules, r.keyword = name) →
        "@-rule: @" ++ name ∉ (unrecognized rules e).toList →
          "@-rule: @" ++ (String.ofList tag ++ name) ∉ (unrecognized rules e').toList) := by
  refine ⟨fun source r hr => exists_atRuleBetween? hr,
    fun front back a ha hplain => extract_vendorTag ha htag hplain,
    fun rules e e' name hbare => ⟨fun hused hsilent => ?_, fun hused hsilent => ?_⟩⟩
  · have hknown : isKnown rules isPlainProperty (· ++ ":") name = true := by
      rw [property_mem_unrecognized_iff] at hsilent
      simpa [hused, hbare.common] using hsilent
    rw [property_mem_unrecognized_iff, isKnown_vendorTag htag hbare.nonempty hbare.untagged hknown]
    simp
  · have hknown : isKnown rules isPlainAtRule ("@" ++ ·) name = true := by
      rw [atRule_mem_unrecognized_iff] at hsilent
      simpa [hused] using hsilent
    rw [atRule_mem_unrecognized_iff, isKnown_vendorTag htag hbare.nonempty hbare.untagged hknown]
    simp

/-- An at-rule inside a rule, with a container inside it, and a property and an at-rule in common
use. -/
theorem vendorTag_transparent_page :
    "-ms-".toList ∈ Text.vendorTags ∧
    (⟨"media", "d"⟩ ∈ (extract "a\x7b@page\x7bb:c;@media d\x7be:f\x7d\x7d\x7d").atRules ∧
      ∃ front back a, "a\x7b@page\x7bb:c;@media d\x7be:f\x7d\x7d\x7d" = front ++ "@" ++ back ∧
        atRuleBetween? front back = some a ∧ ⟨"media", "d"⟩ = (⟨a.keyword, a.prelude⟩ : AtRule)) ∧
    (∃ a, atRuleBetween? "a\x7b" "page\x7bb:c;@media d\x7be:f\x7d\x7d\x7d" = some a ∧
      Text.dropVendorTag a.keyword = a.keyword ∧
      ∃ before after k row,
        (∀ keyword, Text.dropVendorTag keyword = a.keyword →
          a.findings keyword k = row.map (Slot.fill ("@" ++ keyword))) ∧
        (containerKeywords.contains a.keyword = true → ∀ slot ∈ row, ∃ e, slot = .fixed e) ∧
        extract ("a\x7b" ++ "@" ++ "page\x7bb:c;@media d\x7be:f\x7d\x7d\x7d") =
          .ofEvents (before ++ a.recorded a.keyword row ++ after) ∧
        extract ("a\x7b" ++ "@" ++
            (String.ofList "-ms-".toList ++ "page\x7bb:c;@media d\x7be:f\x7d\x7d\x7d")) =
          .ofEvents (before ++ a.recorded (String.ofList "-ms-".toList ++ a.keyword) row ++
            after)) ∧
    (IsBare "color" ∧ IsBare "page") ∧
    ∀ rules e',
      "property: " ++ (String.ofList "-ms-".toList ++ "color") ∉ (unrecognized rules e').toList ∧
      "@-rule: @" ++ (String.ofList "-ms-".toList ++ "page") ∉ (unrecognized rules e').toList := by
  have htag : "-ms-".toList ∈ Text.vendorTags := by decide
  have hcolor : IsBare "color" := ⟨by decide, by decide, by decide⟩
  have hpage : IsBare "page" := ⟨by decide, by decide, by decide⟩
  have hfound : (atRuleBetween? "a\x7b" "page\x7bb:c;@media d\x7be:f\x7d\x7d\x7d").map
      AtRuleReading.keyword = some "page" := by decide +kernel
  obtain ⟨a, ha, hkeyword⟩ := Option.map_eq_some_iff.1 hfound
  have hplain : Text.dropVendorTag a.keyword = a.keyword := by rw [hkeyword, hpage.untagged]
  have hmedia : ⟨"media", "d"⟩ ∈
      (extract "a\x7b@page\x7bb:c;@media d\x7be:f\x7d\x7d\x7d").atRules := by decide +kernel
  refine ⟨htag, ⟨hmedia, (vendorTag_transparent htag).1 _ _ hmedia⟩,
    ⟨a, ha, hplain, (vendorTag_transparent htag).2.1 _ _ a ha hplain⟩,
    ⟨hcolor, hpage⟩, fun rules e' => ⟨?_, ?_⟩⟩
  · refine ((vendorTag_transparent htag).2.2 rules
      ⟨[⟨"color", "b", "a", 1⟩], [], [], []⟩ e' "color" hcolor).1
      ⟨_, List.mem_singleton_self _, rfl⟩ ?_
    have hlist : isPlainProperty "color" = true := by decide +kernel
    rw [property_mem_unrecognized_iff, isKnown, hcolor.untagged, hlist]
    simp
  · refine ((vendorTag_transparent htag).2.2 rules
      ⟨[], [⟨"page", ""⟩], [], []⟩ e' "page" hpage).2
      ⟨_, List.mem_singleton_self _, rfl⟩ ?_
    have hlist : isPlainAtRule "page" = true := by decide +kernel
    rw [atRule_mem_unrecognized_iff, isKnown, hpage.untagged, hlist]
    simp

end FeatureScan.Style
