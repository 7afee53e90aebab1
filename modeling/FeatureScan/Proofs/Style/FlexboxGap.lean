import FeatureScan.Proofs.Css.Outline
import FeatureScan.Proofs.Css.Scope
import FeatureScan.Proofs.Pattern.Matching
import FeatureScan.Proofs.Pattern.Stepwise
import FeatureScan.Proofs.Style.Features

/-!
# The gap of flexboxes

The builtin rule for gaps in flexboxes looks for two declarations of one block, the one that makes a
flexbox and the one that sets a gap, and lets anything but a closing bracket stand between them. So
it never joins declarations of two blocks, and it joins two of one block if and only if nothing
written between them holds such a bracket.

## Main results

* `flexboxGap_scoped`: what the rule matches stays within one block.
* `flexboxGap_of_block`: two declarations of one block match if and only if no closing bracket is
  written between them.
-/

namespace FeatureScan.Style

open Pattern Css Progress

/-! ## The patterns -/

/-- The letters of a word, each in either case. -/
def letters (word : String) : List Node := word.toList.map fun c => .chars (Unicode.foldedChar c)

/-- Any number of blanks. -/
def blanks : Node := .many 0 none (.chars Unicode.blankChars)

/-- A colon. -/
def colon : Node := .chars (.single ':')

/-- What stands in front of the name of a property: a bracket, a semicolon or a blank. -/
def front : Node := .chars ((CharSet.ofPoints [59, 123]).union Unicode.blankChars)

/-- Anything inside a block. -/
def inside : Node := .many 0 none (.chars (CharSet.single '\x7d').compl)

/-- A declaration that makes a flexbox. -/
def flexNodes : List Node :=
  letters "display" ++ [blanks, colon, blanks, .many 0 (some 1) (.seqs (letters "inline-"))] ++
    letters "flex"

/-- The name of a property that sets a gap. -/
def gapNodes : List Node :=
  [front, .many 0 (some 1) (.alt (.seqs (letters "row-")) (.seqs (letters "column-")))] ++
    letters "gap" ++ [blanks, colon]

/-- A flexbox and then a gap. -/
def flexThenGap : Node := .seqs (flexNodes ++ inside :: gapNodes)

/-- A gap and then a flexbox. -/
def gapThenFlex : Node := .seqs (gapNodes ++ inside :: flexNodes)

theorem readClass_inside (cs : List Char) :
    readClass caseless ("^\x7d]".toList ++ cs) =
      some (⟨(Unicode.foldedSet (CharSet.empty.union (.range 125 125))).compl, 1⟩, cs) := rfl

theorem readClass_front (cs : List Char) :
    readClass caseless ("\x7b;\\s]".toList ++ cs) =
      some (⟨Unicode.foldedSet
        (((CharSet.empty.union (.range 123 123)).union (.range 59 59)).union Unicode.blankChars),
        2⟩, cs) := rfl

/-- A closing bracket has no variants. -/
theorem foldedSet_inside :
    Unicode.foldedSet (CharSet.empty.union (.range 125 125)) = .single '\x7d' := by
  decide +kernel

/-- Nor has any character that stands in front of the name of a property. -/
theorem foldedSet_front :
    Unicode.foldedSet (((CharSet.empty.union (.range 123 123)).union (.range 59 59)).union
      Unicode.blankChars) = (CharSet.ofPoints [59, 123]).union Unicode.blankChars := by
  decide +kernel

theorem yields_blanks :
    Yields "\\s*".toList [.repeated 0 none { node := .chars Unicode.blankChars }] :=
  fun _ _ hr hcs => (leads_blank hr).trans (leads_star hr rfl rfl hcs)

theorem yields_colon : Yields ":".toList [{ node := colon }] := by
  have hcolon : Unicode.foldedChar ':' = .single ':' := by decide +kernel
  intro r cs hr _
  have hletter : Leads r (':' :: cs) (r.add (letterPiece ':')) cs := leads_letter hr (by decide)
  rw [letterPiece, hcolon] at hletter
  exact hletter

/-- The piece of anything inside a block. -/
def insidePiece : Pattern.Piece :=
  .repeated 0 none { node := .chars (CharSet.single '\x7d').compl, depth := 1 }

theorem yields_inside : Yields "[^\x7d]*".toList [insidePiece] := by
  intro r cs hr hcs
  have hclass := leads_class hr (readClass_inside ('*' :: cs))
  rw [foldedSet_inside] at hclass
  exact hclass.trans (leads_star hr rfl rfl hcs)

theorem yields_front : Yields "[\x7b;\\s]".toList [{ node := front, depth := 2 }] := by
  intro r cs hr _
  have hclass := leads_class hr (readClass_front cs)
  rw [foldedSet_front] at hclass
  exact hclass

/-- A word that may be left out. -/
theorem yields_inline :
    Yields "(?:inline-)?".toList
      [.repeated 0 (some 1) { node := .seqs (letters "inline-"), depth := 2 }] := by
  intro r cs hr hcs
  have hword : Leads (r.openGroup false) ("inline-".toList ++ (")?".toList ++ cs))
      { r.openGroup false with items := ("inline-".toList.map letterPiece).reverse ++ [] }
      (")?".toList ++ cs) := leads_word _ hr (by decide)
  exact ((leads_open hr).trans hword).trans (leads_optional hr (by rw [← hr]; rfl) hcs)

theorem yields_direction :
    Yields "(?:row-|column-)?".toList
      [.repeated 0 (some 1)
        { node := .alt (.seqs (letters "row-")) (.seqs (letters "column-")), depth := 3 }] := by
  intro r cs hr hcs
  let inner := r.openGroup false
  let rowItems := ("row-".toList.map letterPiece).reverse ++ []
  have hrow : Leads inner ("row-".toList ++ ("|column-)?".toList ++ cs))
      { inner with items := rowItems } ("|column-)?".toList ++ cs) := leads_word _ hr (by decide)
  have hbar : Leads { inner with items := rowItems } ("|column-)?".toList ++ cs)
      { inner with branches := [.seqs rowItems.reverse], items := [] }
      ("column-".toList ++ (")?".toList ++ cs)) := leads_bar hr
  have hcolumn := hbar.trans (leads_word _ hr (by decide))
  exact ((leads_open hr).trans (hrow.trans hcolumn)).trans
    (leads_optional hr (by rw [← hr]; rfl) hcs)

/-- The pieces of a declaration that makes a flexbox. -/
def flexPieces : List Pattern.Piece :=
  "display".toList.map letterPiece ++
    ([.repeated 0 none { node := .chars Unicode.blankChars }] ++
      ([{ node := colon }] ++
        ([.repeated 0 none { node := .chars Unicode.blankChars }] ++
          ([.repeated 0 (some 1) { node := .seqs (letters "inline-"), depth := 2 }] ++
            "flex".toList.map letterPiece))))

theorem yields_flex : Yields "display\\s*:\\s*(?:inline-)?flex".toList flexPieces := by
  have hdisplay : Yields "display".toList ("display".toList.map letterPiece) :=
    yields_word (by decide)
  have hflex : Yields "flex".toList ("flex".toList.map letterPiece) := yields_word (by decide)
  exact hdisplay.append (yields_blanks.append (yields_colon.append (yields_blanks.append
    (yields_inline.append hflex fun _ => rfl) fun _ => rfl) fun _ => rfl) fun _ => rfl) fun _ => rfl

/-- The pieces of the name of a property that sets a gap. -/
def gapPieces : List Pattern.Piece :=
  [{ node := front, depth := 2 }] ++
    ([.repeated 0 (some 1)
        { node := .alt (.seqs (letters "row-")) (.seqs (letters "column-")), depth := 3 }] ++
      ("gap".toList.map letterPiece ++
        ([.repeated 0 none { node := .chars Unicode.blankChars }] ++ [{ node := colon }])))

theorem yields_gap : Yields "[\x7b;\\s](?:row-|column-)?gap\\s*:".toList gapPieces := by
  have hgap : Yields "gap".toList ("gap".toList.map letterPiece) := yields_word (by decide)
  exact yields_front.append (yields_direction.append (hgap.append
    (yields_blanks.append yields_colon fun _ => rfl) fun _ => rfl) fun _ => rfl) fun _ => rfl

/-- The pattern for a flexbox and then a gap. -/
theorem read?_flexThenGap :
    (Pattern.read? true
        "display\\s*:\\s*(?:inline-)?flex[^\x7d]*[\x7b;\\s](?:row-|column-)?gap\\s*:").map
      Pattern.node = some flexThenGap := by
  have hyields :
      Yields "display\\s*:\\s*(?:inline-)?flex[^\x7d]*[\x7b;\\s](?:row-|column-)?gap\\s*:".toList
        (flexPieces ++ ([insidePiece] ++ gapPieces)) :=
    yields_flex.append (yields_inside.append yields_gap fun _ => rfl) fun _ => rfl
  have hfits : flexThenGap.fits = true := by decide +kernel
  exact congrArg (Option.map Pattern.node) (hyields.read?_eq (by decide) hfits)

/-- The pattern for a gap and then a flexbox. -/
theorem read?_gapThenFlex :
    (Pattern.read? true
        "[\x7b;\\s](?:row-|column-)?gap\\s*:[^\x7d]*display\\s*:\\s*(?:inline-)?flex").map
      Pattern.node = some gapThenFlex := by
  have hyields :
      Yields "[\x7b;\\s](?:row-|column-)?gap\\s*:[^\x7d]*display\\s*:\\s*(?:inline-)?flex".toList
        (gapPieces ++ ([insidePiece] ++ flexPieces)) :=
    yields_gap.append (yields_inside.append yields_flex fun _ => rfl) fun _ => rfl
  have hfits : gapThenFlex.fits = true := by decide +kernel
  exact congrArg (Option.map Pattern.node) (hyields.read?_eq (by decide) hfits)

/-- The patterns of the rule. -/
theorem patterns_flexboxGap :
    ((RuleTable.defined Catalog.styleTopics).find? fun r => r.id == "flexbox-gap").map
        (fun r => (r.patterns.filterMap (Pattern.read? true)).map Pattern.node) =
      some [flexThenGap, gapThenFlex] := by
  have hpatterns : ((RuleTable.defined Catalog.styleTopics).find?
      fun r => r.id == "flexbox-gap").map Rule.patterns =
      some ["display\\s*:\\s*(?:inline-)?flex[^\x7d]*[\x7b;\\s](?:row-|column-)?gap\\s*:",
        "[\x7b;\\s](?:row-|column-)?gap\\s*:[^\x7d]*display\\s*:\\s*(?:inline-)?flex"] := by
    decide +kernel
  obtain ⟨r, hr, hr'⟩ := Option.map_eq_some_iff.1 hpatterns
  obtain ⟨p, hp, hflex⟩ := Option.map_eq_some_iff.1 read?_flexThenGap
  obtain ⟨q, hq, hgap⟩ := Option.map_eq_some_iff.1 read?_gapThenFlex
  rw [hr, Option.map_some, hr', List.filterMap_cons_some hp, List.filterMap_cons_some hq,
    List.filterMap_nil, List.map_cons, List.map_cons, List.map_nil, hflex, hgap]

/-- The rule in force without rules of a user. -/
theorem get?_flexboxGap :
    ∃ r, (layered .empty).get? "flexbox-gap" = some r ∧
      ∀ n, n ∈ [flexThenGap, gapThenFlex] ↔ ∃ pattern ∈ r.patterns, pattern.node = n := by
  obtain ⟨rule, hrule, hpatterns⟩ := Option.map_eq_some_iff.1 patterns_flexboxGap
  have hbuiltin : builtinTable.get? "flexbox-gap" = some rule :=
    (RuleTable.get?_ofTopics .css Catalog.styleTopics "flexbox-gap").trans hrule
  refine ⟨CompiledRule.ofRule true .builtin rule, ?_, fun n => ?_⟩
  · rw [get?_layered_empty, hbuiltin, Option.map_some]
  · rw [← hpatterns]
    exact List.mem_map

/-- Neither pattern has a set with a closing bracket. -/
theorem avoids_flexboxGap : ∀ n ∈ [flexThenGap, gapThenFlex], n.avoids '\x7d' = true := by
  decide +kernel

/-- Neither pattern asks anything of positions. -/
theorem isPlain_flexboxGap : ∀ n ∈ [flexThenGap, gapThenFlex], n.isPlain = true := by
  decide +kernel

theorem occursIn_ofString (n : Node) (s : String) :
    n.occursIn (.ofString s) = true ↔
      ∃ p q, p ≤ s.toList.length ∧ n.Matches (.ofString s) p q :=
  occursIn_iff n s.toList

/-- The rule reports its feature if and only if one of its patterns matches somewhere. -/
theorem mem_features_flexboxGap {r : CompiledRule}
    (h : (layered .empty).get? "flexbox-gap" = some r) (reportUnknown : Bool) (source : String) :
    "flexbox-gap" ∈ (scan (layered .empty) reportUnknown source).features.toList ↔
      ∃ pattern ∈ r.patterns, ∃ p q, p ≤ (extract source).matchable.toList.length ∧
        pattern.node.Matches (.ofString (extract source).matchable) p q := by
  rw [mem_features_scan (wellKeyed_layered .empty)]
  constructor
  · intro hmem
    obtain ⟨r', hr', pattern, hpattern, hoccurs⟩ := hmem
    obtain rfl : r' = r := Option.some.inj (hr'.symm.trans h)
    exact ⟨pattern, hpattern, (occursIn_ofString pattern.node _).1 hoccurs⟩
  · intro hmatch
    obtain ⟨pattern, hpattern, hmatches⟩ := hmatch
    exact ⟨r, h, pattern, hpattern, (occursIn_ofString pattern.node _).2 hmatches⟩

/-! ## One block at a time -/

theorem scoped_nil : Scoped [] :=
  ⟨fun _ _ _ _ h => absurd h List.not_mem_nil, fun _ _ _ h => absurd h List.not_mem_nil⟩

/-- A pattern without closing brackets matches within one block. -/
theorem scoped_of_matches {e : Extraction} {n : Node} (hn : n.avoids '\x7d' = true) {p q : Nat}
    (h : n.Matches (.ofString e.matchable) p q) : Scoped ((e.markedText.drop p).take (q - p)) := by
  have hlength : e.markedText.length = e.matchable.toList.length := by
    rw [← chars_markedText, List.length_map]
  by_cases hp : p ≤ e.matchable.toList.length
  · obtain ⟨mid, hmid, htakes⟩ := takes_of_matches hp h
    refine scoped_of_infix (e := e) ?_ ?_
    · exact (List.take_prefix _ _).isInfix.trans (List.drop_suffix _ _).isInfix
    · have hchars : ((e.markedText.drop p).take (q - p)).map Prod.fst = mid := by
        obtain ⟨⟨pre, post, hcs, rfl⟩, rfl⟩ := hmid
        rw [List.map_take, List.map_drop, chars_markedText, hcs, List.append_assoc,
          List.drop_left, Nat.add_sub_cancel_left, List.take_left]
      rw [hchars]
      exact not_mem_of_avoids hn htakes
  · have hnil : e.markedText.drop p = [] := List.drop_eq_nil_of_le (by omega)
    rw [hnil, List.take_nil]
    exact scoped_nil

/-- What a style sheet's text holds without a closing bracket is of one block at most, and so is
what the rule matches. -/
theorem flexboxGap_scoped (source : String) (reportUnknown : Bool) :
    (extract source).markedText.map Prod.fst = (extract source).matchable.toList ∧
    (∀ d ∈ (extract source).declarations,
      marked (.declaration d.block) d.text <:+: (extract source).markedText) ∧
    (∀ a ∈ (extract source).atRules, marked .atRule a.text <:+: (extract source).markedText) ∧
    (∀ piece, piece <:+: (extract source).markedText → '\x7d' ∉ piece.map Prod.fst →
      Scoped piece) ∧
    ∃ r, (layered .empty).get? "flexbox-gap" = some r ∧
      (∀ pattern ∈ r.patterns, ∀ p q,
        pattern.node.Matches (.ofString (extract source).matchable) p q →
          Scoped (((extract source).markedText.drop p).take (q - p))) ∧
      ("flexbox-gap" ∈ (scan (layered .empty) reportUnknown source).features.toList ↔
        ∃ pattern ∈ r.patterns, ∃ p q, p ≤ (extract source).matchable.toList.length ∧
          pattern.node.Matches (.ofString (extract source).matchable) p q) := by
  obtain ⟨r, hr, hnodes⟩ := get?_flexboxGap
  refine ⟨chars_markedText _, fun d hd => ?_, fun a ha => atRule_infix_markedText ha,
    fun piece => scoped_of_infix, r, hr, ?_, mem_features_flexboxGap hr reportUnknown source⟩
  · have hown : d ∈ (extract source).declarations.filter (·.block == d.block) :=
      List.mem_filter.2 ⟨hd, beq_self_eq_true _⟩
    obtain ⟨before, after, hsplit⟩ := List.append_of_mem hown
    have hblock : (extract source).declarations.filter (·.block == d.block) =
        before ++ [d] ++ after := by
      rw [hsplit, List.append_assoc, List.singleton_append]
    have hinfix := declarations_infix_markedText hblock (List.cons_ne_nil d [])
    rwa [List.flatMap_singleton] at hinfix
  · intro pattern hpattern p q hmatches
    have hnode := (hnodes pattern.node).2 ⟨pattern, hpattern, rfl⟩
    exact scoped_of_matches (avoids_flexboxGap _ hnode) hmatches

/-! ## Letters in either case -/

theorem eq_or_eq_toUpper (c : Char) : c = Text.lowerChar c ∨ c = (Text.lowerChar c).toUpper := by
  unfold Text.lowerChar
  split
  · rename_i h
    right
    have hlo : 65 ≤ c.toNat := h.1
    have hhi : c.toNat ≤ 90 := h.2
    have hall : ∀ n < 26, Char.ofNat (n + 65) = (Char.ofNat (n + 65 + 32)).toUpper := by decide
    have hc := hall (c.toNat - 65) (by omega)
    rwa [Nat.sub_add_cancel hlo, Char.ofNat_toNat] at hc
  · exact Or.inl rfl

/-- The set of a letter of the patterns' words has it in either case. -/
theorem bothCases : (["display", "inline-", "flex", "row-", "column-", "gap"].all fun word =>
    word.toList.all fun l => (Unicode.foldedChar l).contains l &&
      (Unicode.foldedChar l).contains l.toUpper) = true := by
  decide +kernel

/-- The letters of a word take it in either case. -/
theorem takesAll_letters {word : String}
    (hword : word ∈ ["display", "inline-", "flex", "row-", "column-", "gap"]) {cs : List Char}
    (hcs : cs.map Text.lowerChar = word.toList) : TakesAll (letters word) cs := by
  have hboth := List.all_eq_true.1 (List.all_eq_true.1 bothCases word hword)
  rw [letters]
  rw [← hcs] at hboth ⊢
  clear hcs hword
  induction cs with
  | nil => rfl
  | cons c cs ih =>
      have htail := ih fun l hl => hboth l (List.mem_cons_of_mem _ hl)
      obtain ⟨hlower, hupper⟩ := Bool.and_eq_true_iff.1
        (hboth (Text.lowerChar c) List.mem_cons_self)
      have hc : (Unicode.foldedChar (Text.lowerChar c)).contains c = true := by
        have hcase := eq_or_eq_toUpper c
        generalize Text.lowerChar c = l at hcase hlower hupper ⊢
        rcases hcase with rfl | rfl
        · exact hlower
        · exact hupper
      have hhead : (Node.chars (Unicode.foldedChar (Text.lowerChar c))).Takes [c] := ⟨c, hc, rfl⟩
      exact TakesAll.cons hhead htail

/-! ## What stands between -/

theorem takes_inside {cs : List Char} (h : '\x7d' ∉ cs) : inside.Takes cs := by
  refine takes_many_chars fun c hc => ?_
  rw [CharSet.contains_compl, Bool.not_eq_true', Bool.eq_false_iff, Ne, CharSet.contains_single]
  rintro rfl
  exact h hc

theorem takes_blank : blanks.Takes [' '] :=
  takes_many_chars fun c hc => by
    rw [List.mem_singleton.1 hc]
    decide +kernel

theorem takes_no_blank : blanks.Takes [] := takes_many_chars nofun

theorem takes_colon : colon.Takes [':'] := ⟨':', by decide, rfl⟩

theorem takes_front : front.Takes [' '] := ⟨' ', by decide +kernel, rfl⟩

/-! ## Two declarations of one block -/

/-- A declaration that makes a flexbox. -/
structure IsFlex (d : Declaration) : Prop where
  /-- Its property. -/
  property : d.property = "display"
  /-- Its value. -/
  value : Text.asciiLower d.value ∈ ["flex", "inline-flex"]

/-- A declaration that sets a gap. -/
def IsGap (d : Declaration) : Prop := d.property ∈ ["gap", "row-gap", "column-gap"]

/-- Whether a declaration's value and the declarations behind it are written without closing
brackets. -/
structure Unbroken (first : Declaration) (between : List Declaration) : Prop where
  /-- The value. -/
  value : '\x7d' ∉ first.value.toList
  /-- The declarations. -/
  between : ∀ d ∈ between, '\x7d' ∉ d.text.toList

theorem takesAll_flexNodes {v : String} (hv : Text.asciiLower v ∈ ["flex", "inline-flex"]) :
    TakesAll flexNodes ("display: ".toList ++ v.toList) := by
  have hchars : ∀ {w : String}, Text.asciiLower v = w → v.toList.map Text.lowerChar = w.toList := by
    rintro w rfl
    exact String.toList_ofList.symm
  have hname : TakesAll (letters "display") "display".toList :=
    takesAll_letters (by decide) (by decide)
  have hvalue : ∀ {opt cs : List Char},
      (Node.many 0 (some 1) (.seqs (letters "inline-"))).Takes opt →
        cs.map Text.lowerChar = "flex".toList →
          TakesAll flexNodes ("display".toList ++ ([] ++ ([':'] ++ ([' '] ++ opt))) ++ cs) := by
    intro opt cs hopt hcs
    have hcolon := TakesAll.cons takes_no_blank (TakesAll.cons takes_colon
      (TakesAll.cons takes_blank (takesAll_singleton hopt)))
    exact (hname.append hcolon).append (takesAll_letters (by decide) hcs)
  rcases List.mem_cons.1 hv with hv | hv
  · exact hvalue (takes_optional_nil _) (hchars hv)
  · have hsplit : "inline-flex".toList = "inline-".toList ++ "flex".toList := by decide
    have hv := hchars (List.mem_singleton.1 hv)
    rw [hsplit] at hv
    obtain ⟨as, bs, hcs, has, hbs⟩ := List.map_eq_append_iff.1 hv
    have hinline : (Node.seqs (letters "inline-")).Takes as :=
      takes_seqs (takesAll_letters (by decide) has)
    rw [hcs, ← List.append_assoc]
    exact hvalue (takes_optional hinline) hbs

theorem takesAll_gapNodes {property : String} (hp : property ∈ ["gap", "row-gap", "column-gap"]) :
    TakesAll gapNodes (' ' :: property.toList ++ [':']) := by
  have hname : ∀ {opt : List Char},
      (Node.many 0 (some 1) (.alt (.seqs (letters "row-")) (.seqs (letters "column-")))).Takes opt →
        TakesAll gapNodes (([' '] ++ opt) ++ "gap".toList ++ ([] ++ [':'])) := by
    intro opt hopt
    have hgap : TakesAll (letters "gap") "gap".toList := takesAll_letters (by decide) (by decide)
    have hfront := TakesAll.cons takes_front (takesAll_singleton hopt)
    have hcolon := TakesAll.cons takes_no_blank (takesAll_singleton takes_colon)
    exact (hfront.append hgap).append hcolon
  have hrow : (Node.seqs (letters "row-")).Takes "row-".toList :=
    takes_seqs (takesAll_letters (by decide) (by decide))
  have hcolumn : (Node.seqs (letters "column-")).Takes "column-".toList :=
    takes_seqs (takesAll_letters (by decide) (by decide))
  simp only [List.mem_cons, List.not_mem_nil, or_false] at hp
  rcases hp with rfl | rfl | rfl
  · exact hname (takes_optional_nil _)
  · exact hname (takes_optional (Or.inl hrow))
  · exact hname (takes_optional (Or.inr hcolumn))

/-- A flexbox and a gap with no closing bracket between them can be taken. -/
theorem takes_flexThenGap {v property : String} {mid : List Char}
    (hv : Text.asciiLower v ∈ ["flex", "inline-flex"])
    (hp : property ∈ ["gap", "row-gap", "column-gap"]) (hmid : '\x7d' ∉ mid) :
    flexThenGap.Takes
      ("display: ".toList ++ v.toList ++ (mid ++ (' ' :: property.toList ++ [':']))) :=
  takes_seqs ((takesAll_flexNodes hv).append
    (TakesAll.cons (takes_inside hmid) (takesAll_gapNodes hp)))

theorem takes_gapThenFlex {v property : String} {mid : List Char}
    (hv : Text.asciiLower v ∈ ["flex", "inline-flex"])
    (hp : property ∈ ["gap", "row-gap", "column-gap"]) (hmid : '\x7d' ∉ mid) :
    gapThenFlex.Takes
      (' ' :: property.toList ++ [':'] ++ (mid ++ ("display: ".toList ++ v.toList))) :=
  takes_seqs ((takesAll_gapNodes hp).append
    (TakesAll.cons (takes_inside hmid) (takesAll_flexNodes hv)))

/-- The text of declarations that follow each other. -/
def lineChars (ds : List Declaration) : List Char := ds.flatMap fun d => d.text.toList

theorem Unbroken.lineChars {first : Declaration} {between : List Declaration}
    (h : Unbroken first between) : '\x7d' ∉ lineChars between := by
  intro hc
  obtain ⟨d, hd, hc⟩ := List.mem_flatMap.1 hc
  exact h.between d hd hc

/-- Of two declarations with no closing bracket between them, one of the patterns takes all from the
first name to the second. -/
theorem takes_pair {first second : Declaration} {between : List Declaration}
    (hpair : IsFlex first ∧ IsGap second ∨ IsGap first ∧ IsFlex second)
    (h : Unbroken first between) :
    ∃ n ∈ [flexThenGap, gapThenFlex], ∃ lead mid tail : List Char,
      first.text.toList ++ lineChars between ++ second.text.toList = lead ++ mid ++ tail ∧
      lead.length ≤ 1 ∧ tail.length < second.text.toList.length ∧ n.Takes mid := by
  rcases hpair with ⟨hflex, hgap⟩ | ⟨hgap, hflex⟩
  · have hmid : '\x7d' ∉ ';' :: lineChars between :=
      List.not_mem_cons_of_ne_of_not_mem (by decide) h.lineChars
    refine ⟨flexThenGap, List.mem_cons_self, [' '], _, ' ' :: second.value.toList ++ [';'], ?_,
      Nat.le_refl _, ?_, takes_flexThenGap hflex.value hgap hmid⟩
    · have hname : "display".toList ++ [':', ' '] = "display: ".toList := by decide
      rw [Declaration.toList_text first, Declaration.toList_text second, hflex.property, ← hname]
      simp only [List.append_assoc, List.cons_append, List.nil_append]
    · rw [Declaration.toList_text second]
      simp only [List.length_append, List.length_cons]
      omega
  · have hmid : '\x7d' ∉ ' ' :: first.value.toList ++ [';'] ++ lineChars between ++ [' '] := by
      simp only [List.mem_append, List.mem_cons, List.not_mem_nil, or_false, not_or]
      exact ⟨⟨⟨⟨by decide, h.value⟩, by decide⟩, h.lineChars⟩, by decide⟩
    refine ⟨gapThenFlex, List.mem_cons_of_mem _ List.mem_cons_self, [], _, [';'], ?_,
      Nat.zero_le _, ?_, takes_gapThenFlex hflex.value hgap hmid⟩
    · have hname : "display".toList ++ [':', ' '] = "display: ".toList := by decide
      rw [Declaration.toList_text first, Declaration.toList_text second, hflex.property, ← hname]
      simp only [List.append_assoc, List.cons_append, List.nil_append]
    · rw [Declaration.toList_text second]
      simp only [List.length_append, List.length_cons]
      omega

/-- What matches across a declaration's value and the declarations behind it has no closing bracket
there. -/
theorem unbroken_of_matches {n : Node} (hn : n.avoids '\x7d' = true) {cs : List Char}
    {first : Declaration} {between : List Declaration} {i k p q : Nat}
    (hb : Between cs i k (first.text.toList ++ lineChars between)) (hp : p ≤ i + 1) (hq : k ≤ q)
    (h : n.Matches (Subject.ofChars cs) p q) : Unbroken first between := by
  rw [Declaration.toList_text] at hb
  have hrest := hb.tail
  have hle : p ≤ cs.length := by
    have hk := hrest.le
    have hlength := hrest.length
    omega
  obtain ⟨mid, hmid, htakes⟩ := takes_of_matches hle h
  have hnot : '\x7d' ∉ mid := not_mem_of_avoids hn htakes
  have hsub : ∀ c, c ∈ first.property.toList ++ [':'] ++ (' ' :: first.value.toList ++ [';']) ++
      lineChars between → c ∈ mid := by
    intro c hc
    obtain ⟨r, hir, hrk, hget⟩ := hrest.mem_iff.1 hc
    exact hmid.mem_iff.2 ⟨r, by omega, by omega, hget⟩
  constructor
  · intro hc
    refine hnot (hsub _ ?_)
    simp only [List.mem_append, List.mem_cons]
    exact Or.inl (Or.inr (Or.inl (Or.inr hc)))
  · intro d hd hc
    refine hnot (hsub _ (List.mem_append_right _ ?_))
    exact List.mem_flatMap.2 ⟨d, hd, hc⟩

/-- Declarations of a block that follow each other stand one behind the other in the text. -/
theorem lineChars_infix_matchable {e : Extraction} {n : Nat} {before mid after : List Declaration}
    (h : e.declarations.filter (·.block == n) = before ++ mid ++ after) (hmid : mid ≠ []) :
    lineChars mid <:+: e.matchable.toList := by
  have hinfix := (declarations_infix_markedText h hmid).map Prod.fst
  rw [chars_markedText, List.map_flatMap] at hinfix
  simp only [chars_marked] at hinfix
  exact hinfix

/-- Wherever the text of the two declarations stands, one of the patterns matches from the first
name to behind the second. -/
theorem matches_pair {cs pre post : List Char} {first second : Declaration}
    {between : List Declaration}
    (hpair : IsFlex first ∧ IsGap second ∨ IsGap first ∧ IsFlex second)
    (h : Unbroken first between)
    (htext : pre ++ (first.text.toList ++ lineChars between ++ second.text.toList) ++ post = cs) :
    ∃ n ∈ [flexThenGap, gapThenFlex], ∃ p q, p ≤ pre.length + 1 ∧
      pre.length + (first.text.toList ++ lineChars between).length < q ∧
        n.Matches (Subject.ofChars cs) p q := by
  obtain ⟨n, hn, lead, mid, tail, hpieces, hlead, htail, htakes⟩ := takes_pair hpair h
  have hcs : pre ++ lead ++ mid ++ (tail ++ post) = cs := by
    rw [← htext, hpieces]
    simp only [List.append_assoc]
  have hmid := between_of_eq hcs
  have hlengths := congrArg List.length hpieces
  simp only [List.length_append] at hlengths hmid
  refine ⟨n, hn, _, _, ?_, ?_, matches_of_takes (isPlain_flexboxGap n hn) hmid htakes⟩
  · omega
  · rw [List.length_append]
    omega

/-- The rule finds two declarations of one block if and only if no closing bracket is written
between them. -/
theorem flexboxGap_of_block {source : String} {n : Nat} {before between after : List Declaration}
    {first second : Declaration}
    (hblock : (extract source).declarations.filter (·.block == n) =
      before ++ first :: between ++ second :: after)
    (hpair : IsFlex first ∧ IsGap second ∨ IsGap first ∧ IsFlex second) (reportUnknown : Bool) :
    ∃ r, (layered .empty).get? "flexbox-gap" = some r ∧ ∃ i k l,
      Between (extract source).matchable.toList i k (first.text.toList ++ lineChars between) ∧
      Between (extract source).matchable.toList k l second.text.toList ∧
      ((∃ pattern ∈ r.patterns, ∃ p q, p ≤ i + 1 ∧ k < q ∧
          pattern.node.Matches (.ofString (extract source).matchable) p q) ↔
        Unbroken first between) ∧
      (Unbroken first between →
        "flexbox-gap" ∈ (scan (layered .empty) reportUnknown source).features.toList) := by
  obtain ⟨r, hr, hnodes⟩ := get?_flexboxGap
  have hsplit : (extract source).declarations.filter (·.block == n) =
      before ++ (first :: between ++ [second]) ++ after := by
    rw [hblock]
    simp only [List.append_assoc, List.cons_append, List.nil_append]
  obtain ⟨pre, post, htext⟩ := lineChars_infix_matchable hsplit (List.cons_ne_nil _ _)
  have hchars : lineChars (first :: between ++ [second]) =
      first.text.toList ++ lineChars between ++ second.text.toList := by
    simp only [lineChars, List.flatMap_append, List.flatMap_cons, List.flatMap_nil, List.append_nil]
  rw [hchars] at htext
  have hfront : pre ++ (first.text.toList ++ lineChars between) ++
      (second.text.toList ++ post) = (extract source).matchable.toList := by
    rw [← htext]
    simp only [List.append_assoc]
  have hfirst := between_of_eq hfront
  have hbehind : pre ++ (first.text.toList ++ lineChars between) ++ second.text.toList ++ post =
      (extract source).matchable.toList := by
    rw [← htext]
    simp only [List.append_assoc]
  have hsecond := between_of_eq hbehind
  rw [List.length_append] at hsecond
  have hfound : Unbroken first between → ∃ pattern ∈ r.patterns, ∃ p q, p ≤ pre.length + 1 ∧
      pre.length + (first.text.toList ++ lineChars between).length < q ∧
        pattern.node.Matches (.ofString (extract source).matchable) p q := by
    intro h
    obtain ⟨n, hn, hmatches⟩ := matches_pair hpair h htext
    obtain ⟨pattern, hpattern, rfl⟩ := (hnodes n).1 hn
    exact ⟨pattern, hpattern, hmatches⟩
  refine ⟨r, hr, _, _, _, hfirst, hsecond, ⟨?_, hfound⟩, fun h => ?_⟩
  · intro hmatch
    obtain ⟨pattern, hpattern, p, q, hp, hq, hmatches⟩ := hmatch
    have hnode := (hnodes pattern.node).2 ⟨pattern, hpattern, rfl⟩
    exact unbroken_of_matches (avoids_flexboxGap _ hnode) hfirst hp (Nat.le_of_lt hq) hmatches
  · obtain ⟨pattern, hpattern, p, q, hp, hq, hmatches⟩ := hfound h
    have hle : pre.length + 1 ≤ (extract source).matchable.toList.length := by
      have hend := hfirst.le
      rw [Declaration.toList_text, List.length_append] at hend
      simp only [List.cons_append, List.length_cons] at hend
      omega
    exact (mem_features_flexboxGap hr reportUnknown source).2
      ⟨pattern, hpattern, p, q, Nat.le_trans hp hle, hmatches⟩

/-- A flexbox, another declaration and a gap. -/
theorem flexboxGap_of_block_colored :
    (extract ".x\x7bdisplay:flex;color:red;gap:1px\x7d").declarations.filter (·.block == 1) =
      [] ++ ⟨"display", "flex", ".x", 1⟩ :: [⟨"color", "red", ".x", 1⟩] ++
        ⟨"gap", "1px", ".x", 1⟩ :: [] ∧
    IsFlex ⟨"display", "flex", ".x", 1⟩ ∧ IsGap ⟨"gap", "1px", ".x", 1⟩ ∧
    Unbroken ⟨"display", "flex", ".x", 1⟩ [⟨"color", "red", ".x", 1⟩] ∧
    "flexbox-gap" ∈ (scan (layered .empty) false
      ".x\x7bdisplay:flex;color:red;gap:1px\x7d").features.toList := by
  have hblock : (extract ".x\x7bdisplay:flex;color:red;gap:1px\x7d").declarations.filter
      (·.block == 1) = [] ++ ⟨"display", "flex", ".x", 1⟩ :: [⟨"color", "red", ".x", 1⟩] ++
        ⟨"gap", "1px", ".x", 1⟩ :: [] := by
    decide +kernel
  have hflex : IsFlex ⟨"display", "flex", ".x", 1⟩ := ⟨rfl, by decide⟩
  have hgap : IsGap ⟨"gap", "1px", ".x", 1⟩ := List.mem_cons_self
  have hunbroken : Unbroken ⟨"display", "flex", ".x", 1⟩ [⟨"color", "red", ".x", 1⟩] :=
    ⟨by decide, by decide⟩
  obtain ⟨r, -, i, k, l, -, -, -, hreported⟩ :=
    flexboxGap_of_block hblock (Or.inl ⟨hflex, hgap⟩) false
  exact ⟨hblock, hflex, hgap, hunbroken, hreported hunbroken⟩

/-- A string with a closing bracket between a flexbox and a gap hides them from the rule. -/
theorem flexboxGap_hidden_by_string :
    (extract ".x\x7bdisplay:flex;content:\"\x7d\";gap:1px\x7d").declarations =
      [⟨"display", "flex", ".x", 1⟩, ⟨"content", "\"\x7d\"", ".x", 1⟩, ⟨"gap", "1px", ".x", 1⟩] ∧
    "flexbox-gap" ∉ (scan (layered .empty) false
      ".x\x7bdisplay:flex;content:\"\x7d\";gap:1px\x7d").features.toList := by
  refine ⟨by decide +kernel, ?_⟩
  obtain ⟨r, hr, hnodes⟩ := get?_flexboxGap
  rw [mem_features_flexboxGap hr]
  intro hmatch
  obtain ⟨pattern, hpattern, hmatches⟩ := hmatch
  have hnever : ∀ n ∈ [flexThenGap, gapThenFlex], n.occursIn (.ofString (extract
      ".x\x7bdisplay:flex;content:\"\x7d\";gap:1px\x7d").matchable) = false := by
    decide +kernel
  have hnode := (hnodes pattern.node).2 ⟨pattern, hpattern, rfl⟩
  have hoccurs := (occursIn_ofString pattern.node _).2 hmatches
  rw [hnever _ hnode] at hoccurs
  cases hoccurs

end FeatureScan.Style
