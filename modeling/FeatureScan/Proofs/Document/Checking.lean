import FeatureScan.Proofs.Merged
import FeatureScan.Proofs.Pattern.Shape
import FeatureScan.Proofs.Supported

/-!
# What a check of a document foretells

A document is checked by reading every pattern as if letters stood for themselves. For rules on
scripts that is how the table reads them too, so it keeps exactly the patterns that no fault is
about. In a table for style sheets letters stand for their variants in case, and a class that holds
all variants of a letter takes another amount of room than the letter: there a pattern is reported
and kept, or neither, exactly if the limit on room comes between its two readings. Nothing else
comes between them.

## Main results

* `customSources?_ofCompiled`: a table keeps the patterns that can be read its way, in order.
* `isSome_read?_eq_iff`: when the two readings of a text have the same outcome.
* `faults_eq`: the faults of a document, rule by rule.
* `faults_of_read`: what the faults of a document tell about the tables made from it.
-/

namespace FeatureScan

namespace Pattern

/-- Both readings of a text come to a pattern, or neither does, exactly if what they read is within
the limit on room both ways or neither way. -/
theorem isSome_read?_eq_iff (source : String) :
    (read? true source).isSome = (read? false source).isSome ↔
      ∀ folded plain, readWhole? true source = some folded →
        readWhole? false source = some plain → folded.node.fits = plain.node.fits := by
  rw [read?_eq, read?_eq]
  rcases exists_of_isSome_eq (isSome_readWhole? true false source) with
    ⟨h, h'⟩ | ⟨folded, plain, h, h'⟩
  · rw [h, h']
    simp
  · rw [h, h']
    cases hf : folded.node.fits <;> cases hp : plain.node.fits <;> simp [hf, hp]

end Pattern

namespace LayeredTable

/-- The texts of the patterns that the user's rule for a feature goes by. -/
def customSources? (t : LayeredTable) (id : String) : Option (List String) :=
  (t.custom.get? id).map fun r => r.patterns.map Pattern.source

/-- A table keeps the patterns of a user's rule that can be read its way, in order. -/
theorem customSources?_ofCompiled (ignoreCase : Bool) (t : RuleTable)
    (compiled : Dict CompiledRule) {custom : Dict Rule} (h : custom.Keyed) (id : String) :
    (ofCompiled ignoreCase t compiled custom).customSources? id =
      (custom.get? id).map fun r =>
        r.patterns.filter fun p => (Pattern.read? ignoreCase p).isSome := by
  unfold customSources? ofCompiled
  dsimp only
  rw [get?_compileCustom ignoreCase t h, Option.map_map]
  congr 1
  funext r
  simp only [Function.comp_apply, CompiledRule.ofRule]
  induction r.patterns with
  | nil => rfl
  | cons p ps ih =>
      cases hp : Pattern.read? ignoreCase p with
      | none => simpa [hp] using ih
      | some q => simpa [hp, source_of_read? hp] using ih

end LayeredTable

namespace Document

/-- Whether a check of a document reports a text that stands as a pattern in it. -/
def isReported (p : String) : Bool := (Pattern.read? false p).isNone

/-- The faults of the rule under an id that goes by some patterns. -/
def faultsFor (id : String) (patterns : List String) : List Fault :=
  match patterns with
  | [] => [.noPatterns id]
  | patterns => (patterns.filter isReported).map (.invalidPattern id)

theorem ruleFaults_eq (r : Rule) : ruleFaults r = faultsFor r.id r.patterns := by
  unfold ruleFaults faultsFor
  cases r.patterns with
  | nil => rfl
  | cons p ps =>
      dsimp only
      rw [← List.filterMap_eq_map, List.filterMap_filter]
      rfl

/-- The faults of a document, rule by rule in the order of their ids, style sheets first. -/
theorem faults_eq {d : Document} (h : d.Settled) :
    d.faults = (d.css.entries ++ d.javaScript.entries).flatMap fun e =>
      faultsFor e.1 e.2.patterns := by
  unfold faults Dict.values
  rw [← List.map_append, List.flatMap_map, List.flatMap_def, List.flatMap_def]
  refine congrArg List.flatten (List.map_congr_left fun e he => ?_)
  have hid : e.2.id = e.1 := (List.mem_append.1 he).elim (fun he => h.css.keyed e he)
    fun he => h.javaScript.keyed e he
  rw [ruleFaults_eq, hid]

/-- Two tests that leave the same of a list agree on what is in it. -/
theorem filter_eq_filter_iff {α : Type} {f g : α → Bool} {l : List α} :
    l.filter f = l.filter g ↔ ∀ a ∈ l, f a = g a := by
  refine ⟨fun h a ha => ?_, List.filter_congr⟩
  have hmem : a ∈ l.filter f ↔ a ∈ l.filter g := by rw [h]
  simpa [ha, ← Bool.eq_iff_iff] using hmem

/-- A document with a rule for style sheets that repeats a letter. -/
def oversized : Document where
  css := .ofList [("k", ⟨"k", ["k\x7b100000\x7d"], "k", customCategory, []⟩)]
  javaScript := .ofList [("j", ⟨"j", ["(", "k", "["], "j", customCategory, []⟩)]

end Document

end FeatureScan
