import FeatureScan.Path

/-!
# Files

A tree of folders and files, held as the places that something stands at. A path is looked up from
the top, which is also the working folder and the folder above itself; every piece of it has to be
looked up in a folder.

## Main results

* `Files.read_write`: what has been written is read back.
* `Files.file?_makeFolders`: making folders leaves every file as it is.
-/

namespace FeatureScan

/-- A place in the tree: the names on the way to it, the innermost first. The top has none. -/
abbrev Location := List String

/-- What stands at a place. -/
inductive FileEntry
  /-- A file with its content. -/
  | file (content : ByteArray)
  /-- A folder. -/
  | folder

/-- Why a path leads to nothing of use. -/
inductive PathFault
  /-- Something on the way does not exist. -/
  | missing
  /-- Something on the way is no folder. -/
  | notFolder
  /-- A folder stands where a file is asked for. -/
  | isFolder
  /-- The path or a name in it cannot be looked up. -/
  | unusable
  deriving DecidableEq, Repr

/-- A tree of files. -/
structure Files where
  /-- What stands where; the top is not listed. -/
  entries : List (Location × FileEntry) := []

namespace Files

/-- The tree without files. -/
def empty : Files := {}

instance : Inhabited Files := ⟨empty⟩

/-- What stands at a place. -/
def at? (f : Files) (l : Location) : Option FileEntry :=
  if l = [] then some .folder else (f.entries.find? fun e => e.1 == l).map Prod.snd

/-- The content of the file at a place. -/
def file? (f : Files) (l : Location) : Option ByteArray :=
  match f.at? l with
  | some (.file content) => some content
  | _ => none

/-- The tree with something put at a place below the top. -/
def put (f : Files) (l : Location) (e : FileEntry) : Files :=
  { entries := (l, e) :: f.entries.filter fun x => x.1 != l }

/-- The tree with nothing at a place below the top. -/
def clear (f : Files) (l : Location) : Files :=
  { entries := f.entries.filter fun x => x.1 != l }

/-! ## Looking up -/

/-- How many bytes a name may have. -/
def nameLimit : Nat := 255

/-- The place that one piece of a path leads to. -/
def step (f : Files) (l : Location) (piece : String) : Except PathFault Location :=
  match f.at? l with
  | none => .error .missing
  | some (.file _) => .error .notFolder
  | some .folder =>
    if Path.stays piece then .ok l
    else if piece == ".." then .ok l.tail
    else if piece.utf8ByteSize > nameLimit then .error .unusable
    else .ok (piece :: l)

/-- The place that pieces of a path lead to. -/
def walk (f : Files) (l : Location) (pieces : List String) : Except PathFault Location :=
  pieces.foldlM f.step l

/-- The place that a path leads to. Nothing has to stand there. -/
def locate (f : Files) (path : String) : Except PathFault Location :=
  if path = "" then .error .missing
  else if Path.isUsable path then f.walk [] (Path.pieces path)
  else .error .unusable

/-- The content of a file. -/
def read (f : Files) (path : String) : Except PathFault ByteArray := do
  let l ← f.locate path
  match f.at? l with
  | none => .error .missing
  | some .folder => .error .isFolder
  | some (.file content) => .ok content

/-! ## Changing -/

/-- The tree with a file written anew. Its folder has to exist. -/
def write (f : Files) (path : String) (content : ByteArray) : Except PathFault Files := do
  let l ← f.locate path
  match f.at? l with
  | some .folder => .error .isFolder
  | _ => .ok (f.put l (.file content))

/-- The tree without a file. -/
def remove (f : Files) (path : String) : Except PathFault Files := do
  let l ← f.locate path
  match f.at? l with
  | none => .error .missing
  | some .folder => .error .isFolder
  | some (.file _) => .ok (f.clear l)

/-- Makes the folders on the way from a place; those made before a fault stay. -/
def makeFrom (f : Files) (l : Location) : List String → Files × Option PathFault
  | [] => (f, none)
  | p :: ps =>
    match f.step l p with
    | .error e => (f, some e)
    | .ok l =>
      match f.at? l with
      | some .folder => makeFrom f l ps
      | some (.file _) => (f, some .notFolder)
      | none => makeFrom (f.put l .folder) l ps

/-- Makes a folder and those that it lies in, as far as they are not there. -/
def makeFolders (f : Files) (path : String) : Files × Option PathFault :=
  if Path.isUsable path then f.makeFrom [] (Path.pieces path) else (f, some .unusable)

/-! ## Laws of places -/

@[simp] theorem at?_nil (f : Files) : f.at? [] = some .folder := rfl

theorem find?_other (entries : List (Location × FileEntry)) {l l' : Location} (h : l' ≠ l) :
    ((entries.filter fun x => x.1 != l).find? fun x => x.1 == l') =
      entries.find? fun x => x.1 == l' := by
  rw [List.find?_filter]
  congr 1
  funext x
  by_cases hx : x.1 = l'
  · simp [hx, h]
  · simp [hx]

theorem at?_put (f : Files) {l : Location} (e : FileEntry) (hl : l ≠ []) (l' : Location) :
    (f.put l e).at? l' = if l' = l then some e else f.at? l' := by
  by_cases h : l' = l
  · subst h
    simp [at?, put, hl]
  · rw [if_neg h]
    simp only [at?, put]
    rw [List.find?_cons_of_neg (by simpa using Ne.symm h), find?_other _ h]

theorem at?_clear (f : Files) {l : Location} (hl : l ≠ []) (l' : Location) :
    (f.clear l).at? l' = if l' = l then none else f.at? l' := by
  by_cases h : l' = l
  · subst h
    simp [at?, clear, hl]
  · rw [if_neg h]
    simp only [at?, clear]
    rw [find?_other _ h]

/-! ## Laws of looking up -/

theorem walk_cons (f : Files) (l : Location) (p : String) (ps : List String) :
    f.walk l (p :: ps) = (f.step l p).bind fun l => f.walk l ps := rfl

/-- A step needs a folder. -/
theorem at?_of_step {f : Files} {l l' : Location} {p : String} (h : f.step l p = .ok l') :
    f.at? l = some .folder := by
  unfold step at h
  split at h <;> first | cases h | assumption

/-- A step looks at nothing but the place that it starts from. -/
theorem step_congr {f g : Files} {l : Location} (h : g.at? l = f.at? l) (p : String) :
    g.step l p = f.step l p := by
  unfold step
  rw [h]

/-- A way through the folders of one tree is a way through another that has these folders. -/
theorem walk_of_folders {f g : Files}
    (h : ∀ l, f.at? l = some .folder → g.at? l = some .folder) {l l' : Location}
    {ps : List String} (hw : f.walk l ps = .ok l') : g.walk l ps = .ok l' := by
  induction ps generalizing l with
  | nil => exact hw
  | cons p ps ih =>
    rw [walk_cons] at hw ⊢
    cases hs : f.step l p with
    | error e => rw [hs] at hw; cases hw
    | ok m =>
      rw [hs] at hw
      have he := at?_of_step hs
      rw [step_congr ((h l he).trans he.symm), hs]
      exact ih hw

theorem locate_of_folders {f g : Files}
    (h : ∀ l, f.at? l = some .folder → g.at? l = some .folder) {path : String} {l : Location}
    (hl : f.locate path = .ok l) : g.locate path = .ok l := by
  unfold locate at hl ⊢
  split
  · next hp => rw [if_pos hp] at hl; cases hl
  · next hp =>
    rw [if_neg hp] at hl
    split
    · next hu => rw [if_pos hu] at hl; exact walk_of_folders h hl
    · next hu => rw [if_neg hu] at hl; cases hl

/-- What has been written is read back. -/
theorem read_write {f g : Files} {path : String} {content : ByteArray}
    (h : f.write path content = .ok g) : g.read path = .ok content := by
  unfold write at h
  cases hl : f.locate path with
  | error e => rw [hl] at h; cases h
  | ok l =>
    rw [hl] at h
    have hn : f.at? l ≠ some .folder := by
      intro he
      simp only [bind, Except.bind, he] at h
      cases h
    have hg : g = f.put l (.file content) := by
      have hw : (match f.at? l with
          | some .folder => Except.error PathFault.isFolder
          | _ => .ok (f.put l (.file content))) = .ok g := h
      split at hw
      · next he => exact absurd he hn
      · injection hw with hw
        exact hw.symm
    have hl0 : l ≠ [] := fun h0 => hn (h0 ▸ at?_nil f)
    have hput := at?_put f (.file content) hl0
    have hloc : g.locate path = .ok l := by
      refine locate_of_folders (fun m hm => ?_) hl
      rw [hg, hput, if_neg]
      · exact hm
      · rintro rfl; exact hn hm
    unfold read
    rw [hloc]
    simp only [bind, Except.bind, hg, hput, if_true]

/-! ## Laws of making folders -/

theorem file?_put_folder {f : Files} {l : Location} (h : f.at? l = none) (l' : Location) :
    (f.put l .folder).file? l' = f.file? l' := by
  have hl : l ≠ [] := fun h0 => by simp [h0] at h
  unfold file?
  rw [at?_put f .folder hl]
  by_cases he : l' = l
  · rw [if_pos he, he, h]
  · rw [if_neg he]

theorem file?_makeFrom (f : Files) (l : Location) (ps : List String) (l' : Location) :
    (f.makeFrom l ps).1.file? l' = f.file? l' := by
  induction ps generalizing f l with
  | nil => rfl
  | cons p ps ih =>
    unfold makeFrom
    split
    · rfl
    · split
      · exact ih f _
      · rfl
      · next h => rw [ih, file?_put_folder h]

/-- Making folders leaves every file as it is. -/
theorem file?_makeFolders (f : Files) (path : String) (l : Location) :
    (f.makeFolders path).1.file? l = f.file? l := by
  unfold makeFolders
  split
  · exact file?_makeFrom f [] _ l
  · rfl

end Files

end FeatureScan
