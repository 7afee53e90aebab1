import FeatureScan.Document
import FeatureScan.Proofs.Json.RoundTrip

/-!
# Documents read back

Reading a document leaves out what makes no sense and brings the rest into one form. What is read
is settled: it is a document in that form. A settled document is written so that every entry reads
as it was, and its text is the text of a canonical value, so it reads back from there as well.

## Main results

* `settled_of_ofJson?`: what has been read is settled.
* `Settled.ofJson?_toJson`: a settled document reads back from its value.
* `Settled.ofText_text`: and from the text of its value.
* `ofJson_reload`: a document that has been read reads back.
-/

namespace FeatureScan.Document

/-! ## What has been read -/

/-- Rules as they are read: under a key that is no comment, with the key as their id, in the
category of the user's rules. -/
def RulesSettled (rules : Dict Rule) : Prop :=
  ∀ e ∈ rules.entries, isComment e.1 = false ∧ e.2.id = e.1 ∧ e.2.category = customCategory

/-- Entries as they are read: under a key in small letters that is no comment. -/
def EntriesSettled (entries : Dict String) : Prop :=
  ∀ e ∈ entries.entries, isComment e.1 = false ∧ Text.asciiLower e.1 = e.1

/-- A document as it is read. -/
structure Settled (d : Document) : Prop where
  css : RulesSettled d.css
  javaScript : RulesSettled d.javaScript
  html : ∀ kind, EntriesSettled (d.html.get kind)

theorem isComment_asciiLower (key : String) : isComment (Text.asciiLower key) = isComment key := by
  rw [isComment, isComment, Text.asciiLower, String.toList_ofList, List.head?_map]
  cases key.toList.head? with
  | none => rfl
  | some c =>
      have hsame := Text.lowerChar_eq_low_line_iff c
      exact Bool.eq_iff_iff.2 (by simpa using hsame)

theorem isComment_of_mem_members {content : List (String × Json)} {m : String × Json}
    (h : m ∈ members content) : isComment m.1 = false := by
  simpa using (List.mem_filter.1 h).2

theorem rulesSettled_rulesOf (content : List (String × Json)) : RulesSettled (rulesOf content) := by
  intro e he
  obtain ⟨m, hm, hrule⟩ := List.mem_filterMap.1 (Dict.mem_ofList he)
  obtain ⟨r, hr, rfl⟩ := Option.map_eq_some_iff.1 hrule
  obtain ⟨patterns, -, rfl⟩ := Option.map_eq_some_iff.1 hr
  exact ⟨isComment_of_mem_members hm, rfl, rfl⟩

theorem entriesSettled_entriesOf (lookup : List (String × Json)) :
    EntriesSettled (entriesOf lookup) := by
  intro e he
  obtain ⟨m, hm, hentry⟩ := List.mem_filterMap.1 (Dict.mem_ofList he)
  obtain ⟨id, -, rfl⟩ := Option.map_eq_some_iff.1 hentry
  exact ⟨(isComment_asciiLower m.1).trans (isComment_of_mem_members hm),
    Text.asciiLower_asciiLower m.1⟩

/-- Every lookup is read on its own. -/
theorem get_foldl_set (f : LookupKind → Dict String) (kind : LookupKind) :
    (LookupKind.all.foldl (fun e k => e.set k (f k)) ({} : Entries)).get kind = f kind := by
  cases kind <;> rfl

theorem ofJson_eq_ok_iff {root : Json} {d : Document} :
    ofJson root = .ok d ↔ ofJson? root = some d := by
  unfold ofJson
  cases ofJson? root with
  | none => exact ⟨nofun, nofun⟩
  | some d' => exact ⟨fun h => by cases h; rfl, fun h => by cases h; rfl⟩

/-- What has been read is settled. -/
theorem settled_of_ofJson? {root : Json} {d : Document} (h : ofJson? root = some d) :
    d.Settled := by
  obtain ⟨content, -, rfl⟩ := Option.map_eq_some_iff.1 h
  refine ⟨rulesSettled_rulesOf _, rulesSettled_rulesOf _, fun kind => ?_⟩
  rw [get_foldl_set]
  exact entriesSettled_entriesOf _

/-! ## Reading what was written -/

theorem stringItems_map (l : List String) : stringItems (l.map Json.string) = l := by
  rw [stringItems, List.filterMap_map]
  exact List.filterMap_some

/-- The entry of a rule reads as that rule, with its keywords or without any. -/
theorem rule?_ruleJson {r : Rule} (hcategory : r.category = customCategory) :
    rule? r.id (ruleJson r) = some r := by
  obtain ⟨id, patterns, description, category, keywords⟩ := r
  obtain rfl : category = customCategory := hcategory
  have hpatterns := stringItems_map patterns
  have hkeywords := stringItems_map keywords
  cases keywords with
  | nil =>
      simp [rule?, ruleJson, patterns?, Json.member?, Json.object?, Json.strings, Json.string?,
        hpatterns]
  | cons k ks =>
      rw [List.map_cons] at hkeywords
      simp [rule?, ruleJson, patterns?, Json.member?, Json.object?, Json.strings, Json.string?,
        Json.array?, hpatterns, hkeywords]

/-- Entries of which each reads as it was are read as the dictionary they were written from. -/
theorem ofList_members_written {α : Type} {d : Dict α} {write : α → Json}
    {read? : String × Json → Option (String × α)}
    (h : ∀ e ∈ d.entries, isComment e.1 = false ∧ read? (e.1, write e.2) = some e) :
    Dict.ofList ((members (d.mapValues fun _ v => write v).entries).filterMap read?) = d := by
  have hmembers : members (d.mapValues fun _ v => write v).entries =
      d.entries.map fun e => (e.1, write e.2) := by
    refine List.filter_eq_self.2 fun m hm => ?_
    obtain ⟨e, he, rfl⟩ := List.mem_map.1 hm
    simp [(h e he).1]
  have hread : ∀ l : List (String × α), (∀ e ∈ l, read? (e.1, write e.2) = some e) →
      (l.map fun e => (e.1, write e.2)).filterMap read? = l := by
    intro l hl
    induction l with
    | nil => rfl
    | cons e l ih =>
        rw [List.map_cons, List.filterMap_cons_some (hl e List.mem_cons_self),
          ih fun e' he' => hl e' (List.mem_cons_of_mem _ he')]
  rw [hmembers, hread d.entries fun e he => (h e he).2, Dict.ofList_entries]

theorem rulesOf_written {rules : Dict Rule} (h : RulesSettled rules) :
    rulesOf (rules.mapValues fun _ r => ruleJson r).entries = rules := by
  refine ofList_members_written fun e he => ?_
  obtain ⟨hkey, hid, hcategory⟩ := h e he
  refine ⟨hkey, ?_⟩
  rw [← hid, rule?_ruleJson hcategory, Option.map_some, hid]

theorem entriesOf_written {entries : Dict String} (h : EntriesSettled entries) :
    entriesOf (entries.mapValues fun _ id => Json.string id).entries = entries := by
  refine ofList_members_written fun e he => ?_
  obtain ⟨hkey, hlower⟩ := h e he
  refine ⟨hkey, ?_⟩
  rw [hlower]
  rfl

theorem sectionOf_toJson_css (d : Document) :
    sectionOf d.toJson .css = (d.css.mapValues fun _ r => ruleJson r).entries := rfl

theorem sectionOf_toJson_javaScript (d : Document) :
    sectionOf d.toJson .javaScript = (d.javaScript.mapValues fun _ r => ruleJson r).entries := rfl

theorem lookupOf_toJson (d : Document) (kind : LookupKind) :
    lookupOf d.toJson kind = ((d.html.get kind).mapValues fun _ id => Json.string id).entries := by
  cases kind <;> rfl

/-- A settled document reads back from its value. -/
theorem Settled.ofJson?_toJson {d : Document} (h : d.Settled) : ofJson? d.toJson = some d := by
  have hlookup : ∀ kind, entriesOf (lookupOf d.toJson kind) = d.html.get kind := fun kind => by
    rw [lookupOf_toJson, entriesOf_written (h.html kind)]
  have hhtml : LookupKind.all.foldl (fun e k => e.set k (entriesOf (lookupOf d.toJson k))) {} =
      d.html := by
    simp only [hlookup]
    rfl
  have hread : ofJson? d.toJson = some
      { css := rulesOf (sectionOf d.toJson .css)
        javaScript := rulesOf (sectionOf d.toJson .javaScript)
        html := LookupKind.all.foldl (fun e k => e.set k (entriesOf (lookupOf d.toJson k))) {} } :=
    rfl
  rw [hread, hhtml, sectionOf_toJson_css, sectionOf_toJson_javaScript, rulesOf_written h.css,
    rulesOf_written h.javaScript]

/-! ## The text of a document -/

theorem plain_ruleJson (depth : Nat) (r : Rule) : (ruleJson r).Plain (depth + 2) := by
  refine Json.plain_object ?_ fun m hm => ?_
  · have hshort : ["description", "patterns"].Pairwise (· < ·) := by decide
    have hlong : ["description", "keywords", "patterns"].Pairwise (· < ·) := by decide
    split
    · exact hshort
    · exact hlong
  · simp only [List.mem_append, List.mem_singleton] at hm
    rcases hm with (rfl | hm) | rfl
    · exact Json.plain_string _ r.description
    · split at hm
      · cases hm
      · obtain rfl := List.mem_singleton.1 hm
        exact Json.plain_strings depth r.keywords
    · exact Json.plain_strings depth r.patterns

theorem plain_written {α : Type} {depth : Nat} {write : α → Json} (d : Dict α)
    (h : ∀ v, (write v).Plain depth) :
    (Json.ofDict (d.mapValues fun _ v => write v)).Plain (depth + 1) := by
  refine Json.plain_object (d.mapValues fun _ v => write v).keys_sorted fun m hm => ?_
  obtain ⟨e, -, rfl⟩ := List.mem_map.1 hm
  exact h e.2

/-- Each section of a document is written with its keys in order, three levels deep. -/
theorem plain_of_mem_toJson (depth : Nat) (d : Document) {m : String × Json}
    (hm : m ∈ (d.toJson.object?).getD []) : m.2.Plain (depth + 3) := by
  have hrules : ∀ rules, (rulesJson rules).Plain (depth + 3) :=
    fun rules => plain_written rules (plain_ruleJson depth)
  have hentries : ∀ entries, (entriesJson entries).Plain (depth + 2) :=
    fun entries => plain_written entries (Json.plain_string _)
  have hkinds : ["attribute_values", "attributes", "elements", "input_types"].Pairwise (· < ·) := by
    decide
  simp only [toJson, Json.object?, Option.getD_some, List.mem_cons, List.not_mem_nil,
    or_false] at hm
  rcases hm with rfl | rfl | rfl
  · exact hrules d.css
  · refine Json.plain_object hkinds fun m hm => ?_
    simp only [List.mem_cons, List.not_mem_nil, or_false] at hm
    rcases hm with rfl | rfl | rfl | rfl <;> exact hentries _
  · exact hrules d.javaScript

/-- A document is written with its keys in order, four levels deep. -/
theorem plain_toJson (depth : Nat) (d : Document) : d.toJson.Plain (depth + 4) := by
  have hsections : ["css", "html", "javascript"].Pairwise (· < ·) := by decide
  exact Json.plain_object hsections fun m hm => plain_of_mem_toJson depth d hm

/-- A settled document reads back from the text of its value. -/
theorem Settled.ofText_text {d : Document} (h : d.Settled) {l : Json.Layout}
    (hl : l.asciiOnly = false) : ofText (Json.text l d.toJson) = .ok d := by
  have hparse : Json.parse? (Json.text l d.toJson) = some d.toJson :=
    Json.parse?_text hl (plain_toJson 123 d)
  rw [ofText, hparse]
  exact ofJson_eq_ok_iff.2 h.ofJson?_toJson

/-- A document that has been read reads back, from its value and from the text of its value. -/
theorem ofJson_reload {root : Json} {d : Document} (h : ofJson root = .ok d) :
    ofJson d.toJson = .ok d ∧ ofText (Json.text Json.pretty d.toJson) = .ok d := by
  have hsettled := settled_of_ofJson? (ofJson_eq_ok_iff.1 h)
  exact ⟨ofJson_eq_ok_iff.2 hsettled.ofJson?_toJson, hsettled.ofText_text rfl⟩

/-- A document with comments, entries that make no sense, a single pattern, items that are no
strings, rules without descriptions, and keys of a lookup that differ in case. -/
def untidy : Json :=
  .object [
    ("_comment", .string "rules of the house"),
    ("css", .object [
      ("_note", .object [("patterns", .strings ["x"])]),
      ("bare", .object [("description", .string "Bare")]),
      ("odd", Json.nat 42),
      ("zoom", .object [
        ("description", .null),
        ("keywords", .array [.string "size", .bool true]),
        ("patterns", .string "zoom\\s*:")])]),
    ("html", .object [
      ("attributes", .string "none"),
      ("elements", .object [
        ("Dialog", .string "dialog"), ("_p", .string "p"), ("dIALOG", .string "modal")]),
      ("input_types", .object [("color", Json.nat 5)])]),
    ("javascript", .object [
      ("empty", .object [("keywords", .string "none"), ("patterns", .array [.null])])])]

/-- What is left of it. -/
def tidied : Document where
  css := .ofList [("zoom", ⟨"zoom", ["zoom\\s*:"], "zoom", customCategory, ["size"]⟩)]
  javaScript := .ofList [("empty", ⟨"empty", [], "empty", customCategory, []⟩)]
  html := { elements := .ofList [("dialog", "modal")] }

theorem ofJson_reload_untidy :
    ofJson untidy = .ok tidied ∧
      ofJson tidied.toJson = .ok tidied ∧ ofText (Json.text Json.pretty tidied.toJson) = .ok tidied := by
  have h : ofJson untidy = .ok tidied := by rfl
  exact ⟨h, ofJson_reload h⟩

end FeatureScan.Document
