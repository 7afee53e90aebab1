import FeatureScan.Proofs.Markup.ClosedForm

/-!
# Attributes that are hit and reported

An entry for an attribute with a value is asked for by name, colon and value. Which attributes are
known is told from the keys of the entries, each cut at its first colon. A name without a colon comes
back from its keys; one with a colon never does, as the key is cut inside the name. So an attribute
that a document hits an entry for is reported as unknown all the same if and only if its name has a
colon, no entry is for the name alone, and the name is not plain.

## Main results

* `knownAttribute_of_hits`: an attribute without a colon in its name is known if an entry is hit.
* `attributeReport_of_hits`: when an attribute is reported although an entry is hit.
* `attributeReport_of_epub_type`: a page on which it is.
-/

namespace FeatureScan

namespace Markup

/-! ## Entries that an attribute hits -/

/-- An attribute of a place hits an entry in force for a feature: one for its name, for its name with
its value, or for its name with one of the relations that it states. -/
inductive Place.Hits (p : Place) (entries : Entries) (name x : String) : Prop
  | named (a : Attribute) (ha : a ∈ p.attributes) (hname : Text.asciiLower a.name = name)
      (h : Leads entries .attributes name x)
  | valued (a : Attribute) (ha : a ∈ p.attributes) (hname : Text.asciiLower a.name = name)
      (hvalue : plainValue name a.value ≠ "")
      (h : Leads entries .attributeValues (name ++ ":" ++ plainValue name a.value) x)
  | related (a : Attribute) (ha : a ∈ p.attributes) (hname : Text.asciiLower a.name = name)
      (hrel : name = "rel") (token : String) (htoken : token ∈ Text.words (plainValue "rel" a.value))
      (h : Leads entries .attributeValues (name ++ ":" ++ token) x)

namespace Place.Hits

variable {p : Place} {entries : Entries} {name x : String}

theorem exists_attribute (h : p.Hits entries name x) :
    ∃ a ∈ p.attributes, Text.asciiLower a.name = name := by
  cases h with
  | named a ha hname _ => exact ⟨a, ha, hname⟩
  | valued a ha hname _ _ => exact ⟨a, ha, hname⟩
  | related a ha hname _ _ _ _ => exact ⟨a, ha, hname⟩

theorem foundAt (h : p.Hits entries name x) : FoundAt entries p x := by
  cases h with
  | named a ha hname h =>
      subst hname
      exact .attributeName a ha h
  | valued a ha hname hvalue h =>
      subst hname
      exact .value a ha hvalue h
  | related a ha hname hrel token htoken h =>
      subst hrel
      exact .relation a ha hname token htoken h

/-- The entry is for the name alone, or for the name and something behind a colon. -/
theorem leads (h : p.Hits entries name x) :
    Leads entries .attributes name x ∨
      ∃ value, Leads entries .attributeValues (name ++ ":" ++ value) x := by
  cases h with
  | named _ _ _ h => exact .inl h
  | valued _ _ _ _ h => exact .inr ⟨_, h⟩
  | related _ _ _ _ _ _ h => exact .inr ⟨_, h⟩

end Place.Hits

/-- Whether an attribute is known whose entry is hit: always if there is no colon in its name, and
else if an entry is for the name alone. -/
theorem knownAttribute_of_hits {p : Place} {entries : Entries} {name x : String}
    (h : p.Hits entries name x) :
    KnownAttribute entries name ↔ ':' ∉ name.toList ∨ ∃ y, Leads entries .attributes name y := by
  constructor
  · intro hknown
    cases hknown with
    | named y hy => exact .inr ⟨y, hy⟩
    | valued value y hcolon hy => exact .inl hcolon
  · rintro (hcolon | ⟨y, hy⟩)
    · rcases h.leads with hname | ⟨value, hvalue⟩
      · exact .named x hname
      · exact .valued value x hcolon hvalue
    · exact .named y hy

/-- The report of an attribute is none of an element, and tells the name. -/
theorem reportedAt_attribute_iff (entries : Entries) (p : Place) (name : String) :
    ReportedAt entries p ("attribute: " ++ name) ↔
      (∃ a ∈ p.attributes, Text.asciiLower a.name = name) ∧ ¬ KnownAttribute entries name ∧
        isPlainAttribute name = false := by
  constructor
  · generalize htext : "attribute: " ++ name = text
    intro h
    cases h with
    | elementName hhyphen hforeign hnone =>
        have hfirst := congrArg (fun s : String => s.toList.head?) htext
        simp at hfirst
    | attributeName a ha hunknown hplain =>
        have hname : name = Text.asciiLower a.name := String.append_right_inj _ |>.1 htext
        subst hname
        exact ⟨⟨a, ha, rfl⟩, hunknown, hplain⟩
  · rintro ⟨⟨a, ha, rfl⟩, hunknown, hplain⟩
    exact .attributeName a ha hunknown hplain

end Markup

/-! ## Documents -/

namespace Scanner

open Markup

/-- An attribute for which a document hits an entry in force leads to the feature of that entry. It is
reported as unknown nevertheless if and only if there is a colon in its name, no entry in force is
for the name alone, the name is not plain, and unknown names are asked for. -/
theorem attributeReport_of_hits (d : Document) (options : ScanOptions) (source name x : String)
    (h : ∃ p, (parse source).HasPlace none [] p ∧ p.Hits d.html name x) :
    x ∈ ((make options d).scan .html source).features.toList ∧
    ("attribute: " ++ name ∈ ((make options d).scan .html source).unrecognized.toList ↔
      ':' ∈ name.toList ∧ (∀ y, ¬ Leads d.html .attributes name y) ∧
        isPlainAttribute name = false ∧ options.reportUnknown = true) := by
  obtain ⟨p, hp, hits⟩ := h
  obtain ⟨hfound, hreported, hunasked, -, -, -, hscan⟩ :=
    Rulebook.scanTree_closed_form d (parse source)
  rw [hscan]
  refine ⟨(hfound _ x).2 ⟨p, hp, hits.foundAt⟩, ?_⟩
  cases hoptions : options.reportUnknown with
  | false =>
      rw [hunasked]
      simp [NameSet.toList, Dict.keys, Dict.empty]
  | true =>
      have hunknown : ¬ KnownAttribute d.html name ↔
          ':' ∈ name.toList ∧ ∀ y, ¬ Leads d.html .attributes name y := by
        rw [knownAttribute_of_hits hits, not_or, not_not, not_exists]
      rw [hreported]
      simp only [reportedAt_attribute_iff, hunknown, and_true]
      constructor
      · rintro ⟨-, -, -, ⟨hcolon, hnone⟩, hplain⟩
        exact ⟨hcolon, hnone, hplain⟩
      · rintro ⟨hcolon, hnone, hplain⟩
        exact ⟨p, hp, hits.exists_attribute, ⟨hcolon, hnone⟩, hplain⟩

/-- An object with an entry for an attribute with a colon in its name. -/
def epubRoot : Json :=
  .object [("html", .object [("attribute_values",
    .object [("epub:type:footnote", .string "epub-footnote")])])]

/-- The document that is read from it. -/
def epubDocument : Document :=
  { html := { attributeValues := .ofList [("epub:type:footnote", "epub-footnote")] } }

/-- A page with one such attribute. -/
def epubPage : String := "<p epub:type=Footnote>"

/-- The paragraph of the page. -/
def epubPlace : Place :=
  ⟨"p", [⟨"epub:type", "Footnote", false⟩], some "body", ["body", "html"]⟩

theorem hasPlace_epubPlace : (parse epubPage).HasPlace none [] epubPlace :=
  (Element.mem_places_iff _ _).1 (by decide +kernel)

theorem hits_epubPlace : epubPlace.Hits epubDocument.html "epub:type" "epub-footnote" :=
  .valued ⟨"epub:type", "Footnote", false⟩ (by decide) (by decide) (by decide) (.custom (by decide))

theorem attributeReport_of_hits_epub :
    "epub-footnote" ∈ ((make {} epubDocument).scan .html epubPage).features.toList ∧
    "attribute: epub:type" ∈ ((make {} epubDocument).scan .html epubPage).unrecognized.toList := by
  have hnone : ∀ y, ¬ Leads epubDocument.html .attributes "epub:type" y := by
    have hbuiltin : ∀ e ∈ Catalog.builtinLookup .attributes, e.1 ≠ "epub:type" := by decide
    intro y h
    cases h with
    | custom h => cases h
    | builtin _ h => exact hbuiltin _ h rfl
  obtain ⟨hfound, hreported⟩ := attributeReport_of_hits epubDocument {} epubPage "epub:type"
    "epub-footnote" ⟨epubPlace, hasPlace_epubPlace, hits_epubPlace⟩
  exact ⟨hfound, hreported.2 ⟨by decide, hnone, by decide, rfl⟩⟩

/-- The page hits the entry of the document, and its attribute is reported as unknown. -/
theorem attributeReport_of_epub_type :
    Document.ofJson epubRoot = .ok epubDocument ∧
    (parse epubPage).HasPlace none [] epubPlace ∧
    epubPlace.Hits epubDocument.html "epub:type" "epub-footnote" ∧
    ((make {} epubDocument).scan .html epubPage).features.toList = ["epub-footnote"] ∧
    ((make {} epubDocument).scan .html epubPage).unrecognized.toList =
      ["attribute: epub:type"] :=
  ⟨rfl, hasPlace_epubPlace, hits_epubPlace, by decide +kernel, by decide +kernel⟩

end Scanner

end FeatureScan
