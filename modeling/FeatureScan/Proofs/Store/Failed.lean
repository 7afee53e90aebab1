import FeatureScan.Proofs.Store.Saving

/-!
# Saving that fails

The folders of a document are made before it is written, and they stay when the writing fails. No
file is touched by that, and none comes to be read through them: where a folder could not be made,
the path still leads nowhere, and where only the writing failed, it leads to no file. So what was
asked of the store and of its file before is answered alike afterwards. Only why a path leads to no
file may be told otherwise, since some of the folders on its way may have been missing before.

## Main results

* `Path.pieces_of_folder`: behind the folder of a path there is at least one piece.
* `Files.walk_makeFrom_of_fault`: no way leads through a folder that could not be made.
* `Files.read_makeFolders`: making folders makes no file readable.
* `Store.unchanged_of_fault`: an attempt to save that fails changes nothing that can be asked for.
-/

namespace FeatureScan

/-! ## The folder of a path -/

namespace Text

theorem piecesFrom_eq_splitOnPPrepend (separator : Char) (piece cs : List Char) :
    piecesFrom separator piece cs = cs.splitOnPPrepend (· == separator) piece := by
  induction cs generalizing piece with
  | nil => rw [piecesFrom, List.splitOnPPrepend_nil]
  | cons c cs ih =>
      rw [piecesFrom, List.splitOnPPrepend_cons_eq_if, ih, ih, List.splitOnPPrepend_nil_right]

theorem pieces_eq_splitOn (separator : Char) (cs : List Char) :
    pieces separator cs = cs.splitOn separator := by
  rw [pieces, piecesFrom_eq_splitOnPPrepend, List.splitOnPPrepend_nil_right,
    List.splitOn_eq_splitOnP]

theorem notMem_of_mem_piecesFrom {separator : Char} {piece cs p : List Char}
    (hpiece : separator ∉ piece) (h : p ∈ piecesFrom separator piece cs) : separator ∉ p := by
  induction cs generalizing piece with
  | nil =>
      obtain rfl := List.mem_singleton.1 h
      simpa using hpiece
  | cons c cs ih =>
      rw [piecesFrom] at h
      split at h
      · rcases List.mem_cons.1 h with rfl | h
        · simpa using hpiece
        · exact ih List.not_mem_nil h
      · rename_i hc
        have hne : separator ≠ c := fun heq => hc (by simp [heq])
        exact ih (by simp [hne, hpiece]) h

end Text

namespace Path

/-- Pieces of a path with slashes between them are cut there. -/
theorem pieces_intercalate {path : String} {ps : List String} (hps : ∀ p ∈ ps, p ∈ pieces path)
    (hne : ps ≠ []) : pieces ("/".intercalate ps) = ps := by
  have hnone : ∀ cs ∈ ps.map String.toList, '/' ∉ cs := by
    intro cs hcs
    obtain ⟨p, hp, rfl⟩ := List.mem_map.1 hcs
    obtain ⟨piece, hpiece, rfl⟩ := List.mem_map.1 (hps p hp)
    rw [String.toList_ofList]
    exact Text.notMem_of_mem_piecesFrom List.not_mem_nil hpiece
  have hsplit : Text.pieces '/' ("/".intercalate ps).toList = ps.map String.toList := by
    rw [String.toList_intercalate, Text.pieces_eq_splitOn]
    exact List.splitOn_intercalate '/' hnone (by simpa using hne)
  rw [pieces, hsplit, List.map_map]
  simp [Function.comp_def]

/-- Behind the folder of a path there is at least one piece. -/
theorem pieces_of_folder {path : String} (h : folder path ≠ "") :
    ∃ p ps, pieces path = pieces (folder path) ++ p :: ps := by
  obtain ⟨front, hfront⟩ : ∃ front,
      front = ((pieces path).reverse.dropWhile stays).tail.reverse := ⟨_, rfl⟩
  have hfolder : folder path = "/".intercalate front := by rw [hfront, folder]
  have hne : front ≠ [] := by
    rintro rfl
    exact h hfolder
  obtain ⟨p, back, hpath⟩ : ∃ p back, pieces path = front ++ p :: back := by
    have hback := List.takeWhile_append_dropWhile (p := stays) (l := (pieces path).reverse)
    cases hdrop : (pieces path).reverse.dropWhile stays with
    | nil =>
        rw [hdrop] at hfront
        exact absurd hfront hne
    | cons p rest =>
        rw [hdrop, List.tail_cons] at hfront
        rw [hdrop] at hback
        refine ⟨p, ((pieces path).reverse.takeWhile stays).reverse, ?_⟩
        rw [hfront, ← List.reverse_inj, ← hback]
        simp [hback]
  have hmem : ∀ q ∈ front, q ∈ pieces path := by
    intro q hq
    rw [hpath]
    exact List.mem_append_left _ hq
  exact ⟨p, back, by rw [hfolder, pieces_intercalate hmem hne, hpath]⟩

end Path

/-! ## Making folders -/

namespace Files

variable {f : Files}

/-- A step towards what is not there leaves what is. -/
theorem at?_put_of_at? {l m : Location} {e new : FileEntry} (hm : f.at? m = none)
    (hl : f.at? l = some e) : (f.put m new).at? l = some e := by
  have hne : m ≠ [] := by
    rintro rfl
    cases hm
  have hother : l ≠ m := by
    rintro rfl
    rw [hm] at hl
    cases hl
  rw [at?_put f new hne, if_neg hother, hl]

/-- A folder stays while others are made. -/
theorem folder_makeFrom {l l' : Location} {ps : List String} (h : f.at? l' = some .folder) :
    (f.makeFrom l ps).1.at? l' = some .folder := by
  induction ps generalizing f l with
  | nil => exact h
  | cons p ps ih =>
      unfold makeFrom
      split
      · exact h
      · split
        · exact ih h
        · exact h
        · rename_i hnone
          exact ih (at?_put_of_at? hnone h)

theorem folder_makeFolders {path : String} {l : Location} (h : f.at? l = some .folder) :
    (f.makeFolders path).1.at? l = some .folder := by
  unfold makeFolders
  split
  · exact folder_makeFrom h
  · exact h

theorem step_of_folder {g : Files} {l m : Location} {p : String}
    (hg : f.at? l = some .folder → g.at? l = some .folder) (h : f.step l p = .ok m) :
    g.step l p = .ok m := by
  have hl := at?_of_step h
  rw [step_congr ((hg hl).trans hl.symm), h]

/-- No way leads on from a file. -/
theorem walk_of_file {l l' : Location} {content : ByteArray} (h : f.at? l = some (.file content))
    (p : String) (ps : List String) : f.walk l (p :: ps) ≠ .ok l' := by
  rw [walk_cons, step, h]
  exact nofun

/-- No way leads through a folder that could not be made. -/
theorem walk_makeFrom_of_fault {l : Location} {ps : List String} {e : PathFault}
    (h : (f.makeFrom l ps).2 = some e) (p : String) (qs : List String) (l' : Location) :
    (f.makeFrom l ps).1.walk l (ps ++ p :: qs) ≠ .ok l' := by
  induction ps generalizing f l with
  | nil => cases h
  | cons q ps ih =>
      rw [List.cons_append, walk_cons]
      unfold makeFrom at h ⊢
      split at h
      · rename_i hstep
        rw [hstep]
        exact nofun
      · rename_i m hstep
        split at h
        · rw [step_of_folder folder_makeFrom hstep]
          exact ih h
        · rename_i content hm
          rw [hstep, Except.bind]
          cases ps with
          | nil => exact walk_of_file hm p qs
          | cons q' ps => exact walk_of_file hm q' (ps ++ p :: qs)
        · rename_i hm
          rw [step_of_folder (fun hl => folder_makeFrom (at?_put_of_at? hm hl)) hstep]
          exact ih h

/-- Nor does a path whose folder could not be made lead anywhere. -/
theorem locate_makeFolders_of_fault {path : String} {e : PathFault}
    (h : (f.makeFolders (Path.folder path)).2 = some e) (hpath : Path.isUsable (Path.folder path))
    (l : Location) : (f.makeFolders (Path.folder path)).1.locate path ≠ .ok l := by
  have hfolder : Path.folder path ≠ "" := by
    intro hempty
    rw [hempty] at h
    cases h
  obtain ⟨p, ps, hpieces⟩ := Path.pieces_of_folder hfolder
  unfold makeFolders at h ⊢
  rw [if_pos hpath] at h ⊢
  unfold locate
  split
  · exact nofun
  · split
    · rw [hpieces]
      exact walk_makeFrom_of_fault h p ps l
    · exact nofun

/-- What is read from a file. -/
theorem read_eq_ok_iff {path : String} {content : ByteArray} :
    f.read path = .ok content ↔ ∃ l, f.locate path = .ok l ∧ f.file? l = some content := by
  unfold read file?
  cases f.locate path with
  | error e => simp [bind, Except.bind]
  | ok l =>
      simp only [bind, Except.bind, Except.ok.injEq, exists_eq_left']
      cases f.at? l with
      | none => simp
      | some e => cases e <;> simp

/-- Making folders leaves a file readable. -/
theorem read_makeFolders {path folder : String} {content : ByteArray}
    (h : f.read path = .ok content) : (f.makeFolders folder).1.read path = .ok content := by
  obtain ⟨l, hl, hfile⟩ := read_eq_ok_iff.1 h
  refine read_eq_ok_iff.2 ⟨l, ?_, ?_⟩
  · exact locate_of_folders (fun _ => folder_makeFolders) hl
  · rw [file?_makeFolders, hfile]

/-- So a file that cannot be read behind them could not be read before. -/
theorem toOption_read_makeFolders {path folder : String}
    (h : ∀ content, (f.makeFolders folder).1.read path ≠ .ok content) :
    ((f.makeFolders folder).1.read path).toOption = (f.read path).toOption := by
  have hbefore : ∀ content, f.read path ≠ .ok content :=
    fun content hread => h content (read_makeFolders hread)
  cases hafter : (f.makeFolders folder).1.read path with
  | ok content => exact absurd hafter (h content)
  | error e =>
      cases hread : f.read path with
      | ok content => exact absurd hread (hbefore content)
      | error e' => rfl

/-- What can be read can be written. -/
theorem write_of_read {path : String} {content : ByteArray} (new : ByteArray)
    (h : f.read path = .ok content) :
    ∃ g, f.write path new = .ok g := by
  obtain ⟨l, hl, hfile⟩ := read_eq_ok_iff.1 h
  refine ⟨f.put l (.file new), ?_⟩
  unfold write
  unfold file? at hfile
  rw [hl]
  simp only [bind, Except.bind]
  split at hfile
  · rename_i he
    rw [he]
  · cases hfile

end Files

namespace Store

variable {s : Store} {f : Files} {d : Document}

/-- A save with a fault has left what making the folders left, which may have failed. Otherwise the
writing has. -/
theorem trySave_fault_cases (h : (s.trySave f d).value.fault? ≠ none) :
    (s.trySave f d).value.store = s ∧
      (s.trySave f d).value.files = (f.makeFolders (Path.folder s.path)).1 ∧
      ((∃ e, (f.makeFolders (Path.folder s.path)).2 = some e) ∨
        ∃ e, (f.makeFolders (Path.folder s.path)).1.write s.path (s.textFor f d).toUTF8 =
          .error e) := by
  unfold trySave at h ⊢
  dsimp only at h ⊢
  cases hmake : f.makeFolders (Path.folder s.path) with
  | mk made fault? =>
      cases fault? with
      | some e => exact ⟨rfl, rfl, .inl ⟨e, rfl⟩⟩
      | none =>
          rw [hmake] at h
          dsimp only at h ⊢
          cases hwrite : made.write s.path (s.textFor f d).toUTF8 with
          | error e => exact ⟨rfl, rfl, .inr ⟨e, rfl⟩⟩
          | ok written =>
              rw [hwrite] at h
              exact absurd rfl h

/-- After a save that failed, the path of the store leads to the content that it led to. -/
theorem toOption_read_of_fault (h : (s.trySave f d).value.fault? ≠ none) :
    ((s.trySave f d).value.files.read s.path).toOption = (f.read s.path).toOption := by
  obtain ⟨-, hfiles, hcause⟩ := trySave_fault_cases h
  rw [hfiles]
  rcases hcause with ⟨e, hmake⟩ | ⟨e, hwrite⟩
  · by_cases hpath : Path.isUsable (Path.folder s.path)
    · refine Files.toOption_read_makeFolders fun content hread => ?_
      obtain ⟨l, hl, -⟩ := Files.read_eq_ok_iff.1 hread
      exact Files.locate_makeFolders_of_fault hmake hpath l hl
    · rw [Files.makeFolders, if_neg hpath]
  · refine Files.toOption_read_makeFolders fun content hread => ?_
    obtain ⟨g, hg⟩ := Files.write_of_read (s.textFor f d).toUTF8 hread
    rw [hwrite] at hg
    cases hg

theorem value_save (s : Store) (f : Files) (d : Document) :
    (s.save f d).value = (s.trySave f d).value := by
  simp only [save, Logged.value_bind, Logged.value_pure]

/-- **An attempt to save that fails changes nothing**: not the store, no file, and nothing of what
is read at its path, again or as a raw object. It does not matter whether the fault is returned or
noted. -/
theorem unchanged_of_fault (s : Store) (f : Files) (d : Document) {o : SaveOutcome}
    (hsave : o = (s.trySave f d).value ∨ o = (s.save f d).value) (hfault : o.fault? ≠ none) :
    o.store = s ∧ (∀ l, o.files.file? l = f.file? l) ∧
      (o.files.read s.path).toOption = (f.read s.path).toOption ∧
      (o.store.reload o.files).value = (s.reload f).value ∧ o.store.raw o.files = s.raw f := by
  obtain rfl : o = (s.trySave f d).value := by
    rcases hsave with rfl | rfl
    · rfl
    · exact value_save s f d
  obtain ⟨hstore, hfile⟩ := trySave_of_fault s f d hfault
  have hread := toOption_read_of_fault hfault
  have hjson : (s.trySave f d).value.files.json? s.path = f.json? s.path := by
    rw [Files.json?, Files.text?, hread, Files.json?, Files.text?]
  refine ⟨hstore, hfile, hread, ?_, ?_⟩
  · rw [hstore, reload, reload, Files.document, hjson, Files.document]
    split <;> rfl
  · rw [hstore, raw, rawMembers, hjson, raw, rawMembers]

/-- The way to the file of a store leads through a folder that is not there, back, and then through
a file. -/
def blocked : Store := reading "new/../rules.json/more.json"

/-- The folder is made and stays; all else is as it was. -/
theorem unchanged_of_fault_blocked :
    ∃ o, o = (blocked.trySave notesFiles zoomDocument).value ∧ o.fault? = some .unwritable ∧
      notesFiles.at? ["new"] = none ∧ o.files.at? ["new"] = some .folder ∧
      o.files.file? ["rules.json"] = notesFiles.file? ["rules.json"] ∧ o.store = blocked ∧
      (o.store.reload o.files).value = (blocked.reload notesFiles).value ∧
      o.store.raw o.files = blocked.raw notesFiles := by
  have hfault : (blocked.trySave notesFiles zoomDocument).value.fault? = some .unwritable := by rfl
  have hmade :
      (blocked.trySave notesFiles zoomDocument).value.files.at? ["new"] = some .folder := by
    rfl
  have hsome : (blocked.trySave notesFiles zoomDocument).value.fault? ≠ none := by
    rw [hfault]
    exact nofun
  obtain ⟨hstore, hfile, -, hreload, hraw⟩ :=
    unchanged_of_fault blocked notesFiles zoomDocument (.inl rfl) hsome
  exact ⟨_, rfl, hfault, by rfl, hmade, hfile ["rules.json"], hstore, hreload, hraw⟩

end Store
end FeatureScan
