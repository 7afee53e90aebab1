import FeatureScan.Proofs.Document.Reload
import FeatureScan.Proofs.Json.Nesting
import FeatureScan.Store

/-!
# What a store keeps and what its file holds

A store that reads its file holds the rules of the object that the file holds, and no rules where
that is none. Saving puts the rules of a document and the comments that stood in the file before
into one object; this object is read back, and with it the rules.

## Main results

* `Files.json?_of_no_object`: without an object there is nothing to read rules from.
* `get?_saved`: what is saved has the comments of the file and the rest of the document.
* `json?_trySave`: the file holds what was saved.
* `rules_agree_with_file`: the rules of a store, its file and its raw object agree.
-/

namespace FeatureScan

open Document (isComment)

/-! ## Reading a file -/

/-- Why a file gives no rules. -/
inductive Files.HoldsNoObject (f : Files) (path : String) : Prop
  /-- It is not there, or cannot be read. -/
  | unreadable (e : PathFault) (h : f.read path = .error e)
  /-- Its bytes are no text. -/
  | noText (content : ByteArray) (h : f.read path = .ok content)
      (hbytes : String.fromUTF8? content = none)
  /-- Its text is no JSON. -/
  | noJson (content : ByteArray) (text : String) (h : f.read path = .ok content)
      (hbytes : String.fromUTF8? content = some text) (htext : Json.parse? text = none)
  /-- What it holds is no object. -/
  | noObject (content : ByteArray) (text : String) (value : Json) (h : f.read path = .ok content)
      (hbytes : String.fromUTF8? content = some text) (htext : Json.parse? text = some value)
      (hvalue : value.object? = none)

namespace Files

/-- Without an object there is nothing to read rules from. -/
theorem json?_of_no_object {f : Files} {path : String} (h : f.HoldsNoObject path) :
    (f.json? path).bind Json.object? = none := by
  cases h with
  | unreadable e h => simp [json?, text?, h, Except.toOption]
  | noText content h hbytes => simp [json?, text?, h, hbytes, Except.toOption]
  | noJson content text h hbytes htext => simp [json?, text?, h, hbytes, htext, Except.toOption]
  | noObject content text value h hbytes htext hvalue =>
      simp [json?, text?, h, hbytes, htext, hvalue, Except.toOption]

/-- What a file holds once a text has been written into it. -/
theorem json?_write {f g : Files} {path text : String} (h : f.write path text.toUTF8 = .ok g) :
    g.json? path = Json.parse? text := by
  have htext : g.text? path = some text := by
    rw [text?, read_write h]
    exact fromUTF8?_toUTF8 text
  rw [json?, htext, Option.bind_some]

end Files

namespace Document

/-- A document is told by the sections of the object that it is read from. -/
theorem ofJson?_congr {content content' : List (String × Json)}
    (h : ∀ s : Section, (Json.object content).member? s.key = (Json.object content').member? s.key) :
    ofJson? (.object content) = ofJson? (.object content') := by
  have hsection : ∀ s, sectionOf (.object content) s = sectionOf (.object content') s := by
    intro s
    rw [sectionOf, sectionOf, h]
  have hlookup : ∀ kind, lookupOf (.object content) kind = lookupOf (.object content') kind := by
    intro kind
    rw [lookupOf, lookupOf, hsection]
  simp only [ofJson?, Json.object?, Option.map_some, hsection, hlookup]

end Document

namespace Store

/-- The rules that a store reads are those of its raw object. -/
theorem ofJson_raw (s : Store) (f : Files) :
    Document.ofJson (s.raw f) = .ok (f.document s.path) := by
  rw [Document.ofJson_eq_ok_iff, raw, rawMembers, Files.document]
  cases f.json? s.path with
  | none => rfl
  | some value => cases value <;> rfl

/-! ## The object that is saved -/

/-- The members of the raw object stand in the order of their keys, and each can be written again if
its numbers can. -/
theorem rawMembers_parsed (s : Store) (f : Files) :
    ((s.rawMembers f).map Prod.fst).Pairwise (· < ·) ∧
      ∀ m ∈ s.rawMembers f, (∀ n ∈ m.2.numbers, n.IsWord) → m.2.Plain 126 := by
  cases htext : f.text? s.path with
  | none => simp [rawMembers, Files.json?, htext]
  | some text =>
      cases hparse : Json.parse? text with
      | none => simp [rawMembers, Files.json?, htext, hparse]
      | some value =>
          cases value with
          | object members =>
              have hmembers : s.rawMembers f = members := by
                simp [rawMembers, Files.json?, htext, hparse, Json.object?]
              rw [hmembers]
              refine ⟨(Json.parse?_object hparse).1, ?_⟩
              intro m hm hwords
              exact Json.plain_of_parse? hparse hm hwords
          | _ => simp [rawMembers, Files.json?, htext, hparse, Json.object?]

/-- Members chosen by their keys answer for the keys that are chosen. -/
theorem find?_filter_key (choose : String → Bool) (members : List (String × Json)) (key : String) :
    (members.filter fun m => choose m.1).find? (fun m => m.1 == key) =
      if choose key then members.find? fun m => m.1 == key else none := by
  induction members with
  | nil => cases choose key <;> rfl
  | cons m members ih =>
      by_cases hkey : m.1 = key
      · by_cases hchosen : choose key = true
        · simp [hkey, hchosen]
        · have hleft : choose m.1 = false := by simpa [hkey] using hchosen
          rw [List.filter_cons, hleft, if_neg Bool.false_ne_true, ih, if_neg hchosen,
            if_neg hchosen]
      · have hrest : (m :: members).find? (fun m => m.1 == key) =
            members.find? fun m => m.1 == key := by
          simp [hkey]
        rw [hrest, ← ih, List.filter_cons]
        split
        · simp [hkey]
        · rfl

/-- What is saved for a document over the members of an object. -/
def saved (d : Document) (old : List (String × Json)) : Dict Json :=
  .ofList ((d.toJson.object?).getD [] ++ old.filter fun m => isComment m.1)

theorem withComments_eq (d : Document) (old : List (String × Json)) :
    withComments d old = .ofDict (saved d old) := rfl

/-- What is saved has the comments of the object and the rest of the document. -/
theorem get?_saved (d : Document) {old : List (String × Json)}
    (hold : (old.map Prod.fst).Pairwise (· < ·)) (key : String) :
    (saved d old).get? key =
      if isComment key then (Json.object old).member? key else d.toJson.member? key := by
  obtain ⟨content, hcontent⟩ : ∃ content, d.toJson = .object content := ⟨_, rfl⟩
  have hkeys : content.map Prod.fst = ["css", "html", "javascript"] := by
    cases hcontent
    rfl
  have hsorted : (content.map Prod.fst).Pairwise (· < ·) := by
    rw [hkeys]
    decide
  have hcomments : (old.filter fun m => isComment m.1).Pairwise fun a b => a.1 < b.1 :=
    (List.pairwise_map.1 hold).filter _
  -- Both lists are in order, and a comment is in the second one or in none.
  have hget : (saved d old).get? key =
      (((old.filter fun m => isComment m.1).find? fun m => m.1 == key).map Prod.snd).or
        ((content.find? fun m => m.1 == key).map Prod.snd) := by
    rw [saved, hcontent, Json.object?, Option.getD_some, Dict.ofList, List.foldl_append,
      Dict.get?_foldl_insert _ hcomments, Dict.get?_foldl_insert _ (List.pairwise_map.1 hsorted),
      Dict.get?_empty, Option.or_none]
  rw [hget, find?_filter_key, hcontent]
  by_cases hcomment : isComment key = true
  · have hnone : (content.find? fun m => m.1 == key) = none := by
      rw [List.find?_eq_none]
      intro m hm hkey
      have hmem : key ∈ ["css", "html", "javascript"] := by
        rw [← hkeys, ← beq_iff_eq.1 hkey]
        exact List.mem_map_of_mem hm
      have hnot : ∀ k ∈ ["css", "html", "javascript"], isComment k = false := by decide
      rw [hnot key hmem] at hcomment
      cases hcomment
    rw [if_pos hcomment, if_pos hcomment, hnone]
    exact Option.or_none
  · rw [if_neg hcomment, if_neg hcomment]
    rfl

/-- What is saved is written to a text that is parsed as it. -/
theorem plain_withComments (d : Document) {old : List (String × Json)}
    (hold : ∀ m ∈ old, isComment m.1 = true → m.2.Plain 126) :
    (withComments d old).Plain Json.depthLimit := by
  rw [withComments_eq]
  refine Json.plain_object (saved d old).keys_sorted ?_
  intro m hm
  rcases List.mem_append.1 (Dict.mem_ofList hm) with hnew | hcomment
  · exact Document.plain_of_mem_toJson 123 d hnew
  · obtain ⟨hmem, hkey⟩ := List.mem_filter.1 hcomment
    exact hold m hmem hkey

/-! ## Saving -/

section Saving

variable {s : Store} {f : Files} {d : Document}

/-- A save without a fault has made the folders, written the text into the file and taken the
document over. -/
theorem trySave_of_no_fault (h : (s.trySave f d).value.fault? = none) :
    ∃ made written, f.makeFolders (Path.folder s.path) = (made, none) ∧
      made.write s.path (s.textFor f d).toUTF8 = .ok written ∧
      (s.trySave f d).value = ⟨written, s.replace d, none⟩ := by
  unfold trySave at h ⊢
  dsimp only at h ⊢
  split at h
  · cases h
  · rename_i made hmade
    split at h
    · cases h
    · rename_i written hwritten
      exact ⟨made, written, hmade, hwritten, rfl⟩

/-- The file holds what was saved. -/
theorem json?_trySave (h : (s.trySave f d).value.fault? = none)
    (hwords : ∀ m ∈ s.rawMembers f, isComment m.1 = true → ∀ n ∈ m.2.numbers, n.IsWord) :
    (s.trySave f d).value.files.json? s.path = some (withComments d (s.rawMembers f)) := by
  obtain ⟨made, written, -, hwritten, houtcome⟩ := trySave_of_no_fault h
  have hplain : (withComments d (s.rawMembers f)).Plain Json.depthLimit := by
    refine plain_withComments d ?_
    intro m hm hcomment
    exact (rawMembers_parsed s f).2 m hm (hwords m hm hcomment)
  rw [houtcome, Files.json?_write hwritten, textFor]
  exact Json.parse?_text rfl hplain

/-- A document that has been read is read back from what is saved for it. -/
theorem ofJson?_withComments (hd : d.Settled) {old : List (String × Json)}
    (hold : (old.map Prod.fst).Pairwise (· < ·)) :
    Document.ofJson? (withComments d old) = some d := by
  have hmember : ∀ part : Section,
      (withComments d old).member? part.key = d.toJson.member? part.key := by
    intro part
    have hpart : isComment part.key = false := by
      cases part <;> decide
    have hget := get?_saved d hold part.key
    rw [hpart] at hget
    exact hget
  exact (Document.ofJson?_congr hmember).trans hd.ofJson?_toJson

/-- The rules of a store that reads its file, the file, and the raw object agree. What is read are
the rules of the raw object, none where the file holds no object. What has been saved is what the
store holds then and what it reads again; in the file it stands with the comments that stood there
before, provided that their numbers are integers of 64 bits. -/
theorem rules_agree_with_file (hloads : s.loads = true) (f : Files) :
    Document.ofJson ((s.reload f).value.raw f) = .ok (s.reload f).value.rules ∧
    (f.HoldsNoObject s.path → (s.reload f).value.rules = .empty ∧ s.raw f = .object []) ∧
    ∀ (root : Json) (d : Document), Document.ofJson root = .ok d →
      (s.trySave f d).value.fault? = none →
      (∀ m ∈ s.rawMembers f, isComment m.1 = true → ∀ n ∈ m.2.numbers, n.IsWord) →
      (s.trySave f d).value.store.rules = d ∧
      (∃ kept : Dict Json,
        (s.trySave f d).value.store.raw (s.trySave f d).value.files = .ofDict kept ∧
        ∀ key, kept.get? key =
          if isComment key then (s.raw f).member? key else d.toJson.member? key) ∧
      ((s.trySave f d).value.store.reload (s.trySave f d).value.files).value.rules = d := by
  have hreload : (s.reload f).value.rules = f.document s.path := rules_reload s f hloads
  have hraw : (s.reload f).value.raw f = s.raw f := by
    rw [raw, rawMembers, path_reload, raw, rawMembers]
  refine ⟨?_, ?_, ?_⟩
  · rw [hraw, hreload]
    exact ofJson_raw s f
  · intro hnone
    have hobject := Files.json?_of_no_object hnone
    have hmembers : s.raw f = .object [] := by
      rw [raw, rawMembers, hobject, Option.getD_none]
    have hdocument := ofJson_raw s f
    rw [hmembers] at hdocument
    refine ⟨?_, hmembers⟩
    rw [hreload]
    exact (Except.ok.inj hdocument).symm
  · intro root d hroot hsaved hwords
    have hsettled := Document.settled_of_ofJson? (Document.ofJson_eq_ok_iff.1 hroot)
    have hsorted := (rawMembers_parsed s f).1
    have hjson := json?_trySave hsaved hwords
    obtain ⟨made, written, -, -, houtcome⟩ := trySave_of_no_fault hsaved
    rw [houtcome] at hjson ⊢
    have hpath : (s.replace d).path = s.path := rfl
    have hloads' : (s.replace d).loads = true := hloads
    refine ⟨rfl, ⟨saved d (s.rawMembers f), ?_, get?_saved d hsorted⟩, ?_⟩
    · rw [raw, rawMembers, hpath, hjson]
      rfl
    · have hread := ofJson?_withComments hsettled hsorted
      rw [rules_reload _ _ hloads', Files.document, hpath, hjson, Option.bind_some, hread,
        Option.getD_some]

/-- An object with a comment, and with a number where rules should be. -/
def notes : Json :=
  .object [("_since", .array [.number (.negative 1), .string "2020"]), ("css", Json.nat 7)]

/-- The files with that object alone. -/
def notesFiles : Files :=
  { entries := [(["rules.json"], .file (Json.text Json.compact notes).toUTF8)] }

/-- A store that reads a file. -/
def reading (path : String) : Store := { path, loads := true }

/-- An object with a rule for one feature. -/
def zoomRoot : Json :=
  .object [("css", .object [("zoom", .object [("patterns", .string "zoom:")])])]

/-- The document that is read from it. -/
def zoomDocument : Document :=
  { css := .ofList [("zoom", ⟨"zoom", ["zoom:"], "zoom", customCategory, []⟩)] }

/-- The store reads that object. -/
theorem rawMembers_notes :
    (reading "rules.json").rawMembers notesFiles =
      [("_since", .array [.number (.negative 1), .string "2020"]), ("css", Json.nat 7)] := by
  have hplain : notes.Plain Json.depthLimit := by
    have hkeys : ["_since", "css"].Pairwise (· < ·) := by decide
    refine Json.plain_object hkeys fun m hm => ?_
    simp only [List.mem_cons, List.not_mem_nil, or_false] at hm
    rcases hm with rfl | rfl
    · refine Json.plain_array fun j hj => ?_
      simp only [List.mem_cons, List.not_mem_nil, or_false] at hj
      rcases hj with rfl | rfl
      · exact ⟨⟨Nat.one_pos, by decide⟩, rfl⟩
      · exact Json.plain_string _ _
    · exact ⟨show 7 < Json.wordLimit by decide, rfl⟩
  have hfile : notesFiles.read "rules.json" = .ok (Json.text Json.compact notes).toUTF8 := by rfl
  have htext : notesFiles.text? "rules.json" = some (Json.text Json.compact notes) := by
    rw [Files.text?, hfile]
    exact fromUTF8?_toUTF8 _
  have hjson : notesFiles.json? "rules.json" = some notes := by
    rw [Files.json?, htext]
    exact Json.parse?_text rfl hplain
  have hpath : (reading "rules.json").path = "rules.json" := rfl
  rw [rawMembers, hpath, hjson]
  rfl

theorem rules_agree_with_file_notes :
    notesFiles.HoldsNoObject "absent.json" ∧
    ((reading "absent.json").reload notesFiles).value.rules = .empty ∧
    Document.ofJson zoomRoot = .ok zoomDocument ∧
    (∀ m ∈ (reading "rules.json").rawMembers notesFiles, isComment m.1 = true →
      ∀ n ∈ m.2.numbers, n.IsWord) ∧
    ∃ o, ((reading "rules.json").trySave notesFiles zoomDocument).value = o ∧ o.fault? = none ∧
      o.store.rules = zoomDocument ∧ (o.store.reload o.files).value.rules = zoomDocument ∧
      (o.store.raw o.files).member? "_since" =
        some (.array [.number (.negative 1), .string "2020"]) ∧
      (o.store.raw o.files).member? "css" = zoomDocument.toJson.member? "css" := by
  have habsent : notesFiles.HoldsNoObject "absent.json" := .unreadable .missing rfl
  have hroot : Document.ofJson zoomRoot = .ok zoomDocument := by rfl
  have hsave : ((reading "rules.json").trySave notesFiles zoomDocument).value.fault? = none := by
    rfl
  have hwords : ∀ m ∈ (reading "rules.json").rawMembers notesFiles, isComment m.1 = true →
      ∀ n ∈ m.2.numbers, n.IsWord := by
    intro m hm hcomment n hn
    rw [rawMembers_notes] at hm
    simp only [List.mem_cons, List.not_mem_nil, or_false] at hm
    rcases hm with rfl | rfl
    · obtain rfl := List.mem_singleton.1 hn
      exact ⟨Nat.one_pos, by decide⟩
    · exact absurd hcomment (by decide)
  obtain ⟨-, hempty, -⟩ := rules_agree_with_file (s := reading "absent.json") rfl notesFiles
  obtain ⟨-, -, hafter⟩ := rules_agree_with_file (s := reading "rules.json") rfl notesFiles
  obtain ⟨hrules, ⟨kept, hraw, hget⟩, hagain⟩ := hafter zoomRoot zoomDocument hroot hsave hwords
  refine ⟨habsent, (hempty habsent).1, hroot, hwords, _, rfl, hsave, hrules, hagain, ?_, ?_⟩
  · have hsince := hget "_since"
    rw [raw, rawMembers_notes] at hsince
    rw [hraw]
    exact hsince
  · rw [hraw]
    exact hget "css"

end Saving

end Store

end FeatureScan
