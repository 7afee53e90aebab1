import FeatureScan.Css.Extraction

/-!
# The text that patterns look at

An extraction is written out again in one line per block, `selector { property: value; }`, one line
per selector without declarations, `selector { }`, and one line per at-rule, `@keyword prelude`.
A pattern that must not leave a block stays before the closing bracket.

## Main results

* `BlockText.addDeclaration_fresh`: a declaration of a new, higher block starts that block.
-/

namespace FeatureScan.Css

/-- A block of declarations. -/
structure BlockText where
  /-- The number of the block. -/
  block : Nat
  /-- Its selector: that of its first declaration. -/
  selector : String
  /-- The declarations in reverse. -/
  declarations : List Declaration
  deriving Repr

namespace BlockText

/-- Adds a declaration to its block; blocks stand in falling order of their numbers. -/
def addDeclaration (d : Declaration) : List BlockText → List BlockText
  | [] => [⟨d.block, d.selector, [d]⟩]
  | b :: bs =>
    if b.block < d.block then ⟨d.block, d.selector, [d]⟩ :: b :: bs
    else if b.block = d.block then { b with declarations := d :: b.declarations } :: bs
    else b :: addDeclaration d bs

theorem addDeclaration_fresh {d : Declaration} {bs : List BlockText}
    (h : ∀ b ∈ bs, b.block < d.block) :
    addDeclaration d bs = ⟨d.block, d.selector, [d]⟩ :: bs := by
  cases bs with
  | nil => rfl
  | cons b bs => simp [addDeclaration, h b (by simp)]

/-- The blocks that hold declarations, in the order of their numbers. -/
def ofDeclarations (ds : List Declaration) : List BlockText :=
  (ds.foldl (fun bs d => addDeclaration d bs) []).reverse

/-- The line of a block. -/
def text (b : BlockText) : String :=
  b.declarations.foldr (fun d line => line ++ " " ++ d.property ++ ": " ++ d.value ++ ";")
    (b.selector ++ " \x7b") ++ " \x7d\n"

end BlockText

/-- The line of a selector without declarations. -/
def SelectorEntry.text (s : SelectorEntry) : String := s.selector ++ " \x7b \x7d\n"

/-- The line of an at-rule. -/
def AtRule.text (a : AtRule) : String :=
  if a.prelude == "" then "@" ++ a.keyword ++ "\n" else "@" ++ a.keyword ++ " " ++ a.prelude ++ "\n"

/-- The text that patterns look at. -/
def Extraction.matchable (e : Extraction) : String :=
  let blocks := BlockText.ofDeclarations e.declarations
  let bare := e.selectors.filter fun s => !(blocks.any fun b => b.block == s.block)
  String.join
    (blocks.map BlockText.text ++ bare.map SelectorEntry.text ++ e.atRules.map AtRule.text)

end FeatureScan.Css
