import FeatureScan.Markup.Doctype
import FeatureScan.Markup.RawText
import FeatureScan.Text.Blank

/-!
# Tokens of markup

A text is read one token at a time, since what the tree says about the current element decides how
the text goes on. Of character data only what matters for the tree is kept: whether it is a line
break, another blank, or more than that.

## Main results

* `length_next_lt`: every token takes something off the text.
-/

namespace FeatureScan.Markup

/-- A token. -/
inductive Token
  /-- The declaration of a document type. -/
  | doctype (d : Doctype)
  /-- A start tag. -/
  | start (tag : Tag)
  /-- An end tag. -/
  | finish (name : String)
  /-- A line feed. -/
  | lineBreak
  /-- Blanks. -/
  | blank
  /-- Characters of which one at least is no blank. -/
  | text
  /-- A null character. -/
  | null
  /-- A comment, or something else that leaves no mark on the tree. -/
  | remark
  /-- The end of the text. -/
  | finale
  deriving DecidableEq, Repr

/-- How the text ahead is to be read. -/
inductive Content
  /-- As tags and text. -/
  | data
  /-- As raw text up to the end tag of an element. -/
  | raw (name : List Char)
  /-- As a script. -/
  | script
  /-- As text to the very end. -/
  | plain
  /-- As a section of plain characters. -/
  | characters
  deriving DecidableEq, Repr

namespace Token

/-- The token for one character. -/
def ofChar (c : Char) : Token :=
  if c == '\n' then .lineBreak
  else if Text.isAsciiBlank c then .blank
  else if c == '\x00' then .null
  else .text

/-- The token for the characters of a reference. -/
def ofChars : List Char → Token
  | [c] => ofChar c
  | _ => .text

/-- What is read: the token, how the text goes on, and the text that is left. -/
structure Reading where
  /-- The token. -/
  token : Token
  /-- How the text goes on. -/
  content : Content
  /-- The text that is left. -/
  rest : List Char

/-- A token between tags and text. -/
def inData (token : Token) (rest : List Char) : Reading := ⟨token, .data, rest⟩

/-- What follows a comment, whose two dashes in front have been read. -/
def afterComment : List Char → List Char
  | [] => []
  | '-' :: '-' :: '>' :: cs => cs
  | '-' :: '-' :: '!' :: '>' :: cs => cs
  | _ :: cs => afterComment cs

/-- What follows the first closing sign. -/
def afterCloser (cs : List Char) : List Char := (cs.dropWhile (· != '>')).drop 1

/-- What follows a word in any case, if the text begins with it. -/
def afterWord? (word cs : List Char) : Option (List Char) :=
  if (cs.take word.length).map Text.lowerChar == word then some (cs.drop word.length) else none

/-- Reads a declaration of a document type behind its keyword. -/
def doctypeFrom (cs : List Char) : Reading :=
  let d := Doctype.ofContent (cs.takeWhile (· != '>'))
  let isClosed := (cs.dropWhile (· != '>')).head?.isSome
  inData (.doctype (if isClosed then d else { d with broken := true })) (afterCloser cs)

/-- Reads what an exclamation mark begins. -/
def declaration (charactersAllowed : Bool) (cs : List Char) : Reading :=
  match cs with
  | '-' :: '-' :: '>' :: rest => inData .remark rest
  | '-' :: '-' :: '-' :: '>' :: rest => inData .remark rest
  | '-' :: '-' :: rest => inData .remark (afterComment rest)
  | cs =>
    match afterWord? "doctype".toList cs with
    | some rest => doctypeFrom rest
    | none =>
      match (if charactersAllowed then Text.afterFront? "[CDATA[".toList cs else none) with
      | some rest => ⟨.remark, .characters, rest⟩
      | none => inData .remark (afterCloser cs)

/-- Reads a tag from its name on. A tag that is never closed is dropped with all that follows. -/
def tagFrom (make : Tag → Token) (cs : List Char) : Reading :=
  match Tag.read? cs with
  | some (tag, rest) => inData (make tag) rest
  | none => inData .remark []

/-- The end tag that a tag makes. -/
def ending (tag : Tag) : Token := .finish tag.name

/-- Reads what stands behind the sign that opens a tag. -/
def opened (charactersAllowed : Bool) (cs : List Char) : Reading :=
  match cs with
  | '!' :: rest => declaration charactersAllowed rest
  | '?' :: rest => inData .remark (afterCloser rest)
  | '/' :: [] => inData .text []
  | '/' :: '>' :: rest => inData .remark rest
  | '/' :: c :: rest =>
    if c.isAlpha then tagFrom ending (c :: rest) else inData .remark (afterCloser (c :: rest))
  | c :: rest => if c.isAlpha then tagFrom .start (c :: rest) else inData .text (c :: rest)
  | [] => inData .text []

/-- Whether a character is one of a run of text. -/
def isInRun (c : Char) : Bool := c != '<' && c != '&' && c != '\x00' && !Text.isAsciiBlank c

/-- Reads a token between tags and text. -/
def readData (charactersAllowed : Bool) (c : Char) (cs : List Char) : Reading :=
  if c == '<' then opened charactersAllowed cs
  else if c == '&' then
    match Reference.read? false cs with
    | some (characters, rest) => inData (ofChars characters) rest
    | none => inData .text cs
  else if isInRun c then inData .text (cs.dropWhile isInRun)
  else inData (ofChar c) cs

/-- Reads the end tag whose name has just been read. Without one the text ends. -/
def endTagFrom (name : List Char) : Option (List Char) → Reading
  | none => inData .remark []
  | some rest =>
    match Tag.readFrom .name { name := name.reverse } rest with
    | some (tag, rest) => inData (ending tag) rest
    | none => inData .remark []

/-- Reads the next token, if the text is not at its end. -/
def next? (charactersAllowed : Bool) (content : Content) : List Char → Option Reading
  | [] => none
  | c :: cs => some <|
    match content with
    | .data => readData charactersAllowed c cs
    | .raw name => endTagFrom name (RawText.ending? name (c :: cs))
    | .script => endTagFrom RawText.scriptName (RawText.scriptEnding? .none (c :: cs))
    | .plain => ⟨if c == '\x00' then .text else ofChar c, .plain, cs⟩
    | .characters =>
      match Text.afterFront? "]]>".toList (c :: cs) with
      | some rest => inData .remark rest
      | none => ⟨ofChar c, .characters, cs⟩

/-! ## Progress -/

theorem length_afterComment_le (cs : List Char) : (afterComment cs).length ≤ cs.length := by
  fun_induction afterComment cs with
  | case1 => simp
  | case2 cs => simp; omega
  | case3 cs => simp; omega
  | case4 c cs _ _ ih => exact Nat.le_succ_of_le ih

theorem length_dropWhile_le {α : Type} (p : α → Bool) (l : List α) :
    (l.dropWhile p).length ≤ l.length := (List.dropWhile_sublist p).length_le

theorem length_afterCloser_le (cs : List Char) : (afterCloser cs).length ≤ cs.length := by
  have := length_dropWhile_le (· != '>') cs
  simp [afterCloser]
  omega

theorem length_tagFrom_rest_le (make : Tag → Token) (cs : List Char) :
    (tagFrom make cs).rest.length ≤ cs.length := by
  unfold tagFrom
  split
  · next h => exact Nat.le_of_lt (Tag.length_read_rest_lt h)
  · simp [inData]

theorem length_declaration_rest_le (charactersAllowed : Bool) (cs : List Char) :
    (declaration charactersAllowed cs).rest.length ≤ cs.length := by
  unfold declaration
  split
  · simp [inData]; omega
  · simp [inData]; omega
  · next rest _ _ => have := length_afterComment_le rest; simp [inData]; omega
  · split
    · next rest h =>
      have := length_afterCloser_le rest
      simp only [afterWord?] at h
      split at h
      · simp only [Option.some.injEq] at h
        subst h
        simp only [doctypeFrom, inData]
        refine Nat.le_trans this ?_
        simp
      · simp at h
    · split
      · next rest h =>
        split at h
        · rw [Text.afterFront?_eq_some_iff] at h
          simp [h]
          omega
        · simp at h
      · exact length_afterCloser_le _

theorem length_opened_rest_le (charactersAllowed : Bool) (cs : List Char) :
    (opened charactersAllowed cs).rest.length ≤ cs.length := by
  unfold opened
  split
  · exact Nat.le_succ_of_le (length_declaration_rest_le _ _)
  · exact Nat.le_succ_of_le (length_afterCloser_le _)
  · simp [inData]
  · simp [inData]; omega
  · split
    · exact Nat.le_succ_of_le (length_tagFrom_rest_le _ _)
    · exact Nat.le_succ_of_le (length_afterCloser_le _)
  · split
    · exact length_tagFrom_rest_le _ _
    · simp [inData]
  · simp [inData]

theorem length_readData_rest_le (charactersAllowed : Bool) (c : Char) (cs : List Char) :
    (readData charactersAllowed c cs).rest.length ≤ cs.length := by
  unfold readData
  split
  · exact length_opened_rest_le _ _
  · split
    · split
      · next h => exact Reference.length_read_rest_le h
      · simp [inData]
    · split
      · exact length_dropWhile_le _ _
      · simp [inData]

theorem length_endTagFrom_rest_lt {name cs : List Char} {found? : Option (List Char)}
    (h : ∀ rest, found? = some rest → rest.length ≤ cs.length) (hcs : cs ≠ []) :
    (endTagFrom name found?).rest.length < cs.length := by
  have hpos : 0 < cs.length := List.length_pos_iff.2 hcs
  unfold endTagFrom
  split
  · exact hpos
  · next rest =>
    split
    · next hr => exact Nat.lt_of_lt_of_le (Tag.length_readFrom_rest_lt hr) (h rest rfl)
    · exact hpos

/-- Every token takes something off the text. -/
theorem length_next_lt {charactersAllowed : Bool} {content : Content} {cs : List Char} {r : Reading}
    (h : next? charactersAllowed content cs = some r) : r.rest.length < cs.length := by
  cases cs with
  | nil => simp [next?] at h
  | cons c cs =>
    simp only [next?, Option.some.injEq] at h
    subst h
    cases content with
    | data => exact Nat.lt_succ_of_le (length_readData_rest_le _ _ _)
    | raw name =>
      exact length_endTagFrom_rest_lt (fun _ => RawText.length_ending_le) (by simp)
    | script =>
      exact length_endTagFrom_rest_lt (fun _ => RawText.length_scriptEnding_le) (by simp)
    | plain => simp
    | characters =>
      simp only
      split
      · next h =>
        rw [Text.afterFront?_eq_some_iff] at h
        rw [h]
        simp [inData]
        omega
      · simp

end Token

end FeatureScan.Markup
