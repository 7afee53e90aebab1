import FeatureScan.Markup.Rules.Foreign

/-!
# Reading a document

A document is read token by token, and each token acts on the tree. Reading never fails: of whatever
is written a document is made.

## Main results

* `not_mem_withoutReturns`: no carriage return is left of the ends of lines.
-/

namespace FeatureScan.Markup

/-- Puts a line feed for every end of a line; `done` is what has been passed, in reverse. -/
def withoutReturnsOnto (done : List Char) : List Char → List Char
  | [] => done.reverse
  | '\r' :: '\n' :: cs => withoutReturnsOnto ('\n' :: done) cs
  | c :: cs => withoutReturnsOnto ((if c == '\r' then '\n' else c) :: done) cs

/-- The text with a line feed for every end of a line. -/
def withoutReturns (cs : List Char) : List Char := withoutReturnsOnto [] cs

/-- The text without a byte order mark in front. -/
def withoutMark : List Char → List Char
  | [] => []
  | c :: cs => if c == '\uFEFF' then cs else c :: cs

/-- Whether plain sections are allowed: they are in foreign elements. -/
def allowsCharacters (b : Building) : Bool := b.currentIs fun n => n.vocabulary != .html

/-- Takes tokens until the text ends; `fuel` bounds their number. -/
def takeAll (content : Content) : Nat → Building → List Char → Building
  | 0, b, _ => b
  | fuel + 1, b, cs =>
    match Token.next? (allowsCharacters b) content cs with
    | none => (b.take .finale).1
    | some r =>
      let (b, content?) := b.take r.token
      takeAll (content?.getD r.content) fuel b r.rest

/-- What is built from a text. Every token takes something off it, so its length bounds their
number. -/
def building (source : String) : Building :=
  let cs := withoutReturns (withoutMark source.toList)
  takeAll .data (cs.length + 1) {} cs

/-- The document of a text. -/
def parse (source : String) : Element :=
  ((building source).tree.root?).getD (.mk "html" [] [] [])

theorem not_mem_withoutReturnsOnto {done : List Char} (h : '\r' ∉ done) (cs : List Char) :
    '\r' ∉ withoutReturnsOnto done cs := by
  fun_induction withoutReturnsOnto done cs with
  | case1 done => simpa using h
  | case2 done cs ih => exact ih (by simpa using h)
  | case3 done c cs _ ih =>
    refine ih ?_
    by_cases hc : c = '\r'
    · simpa [hc] using h
    · simpa [hc] using ⟨Ne.symm hc, h⟩

theorem not_mem_withoutReturns (cs : List Char) : '\r' ∉ withoutReturns cs :=
  not_mem_withoutReturnsOnto (by simp) cs

end FeatureScan.Markup
