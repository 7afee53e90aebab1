import FeatureScan.Markup.Element
import FeatureScan.Markup.ElementName

/-!
# Trees under construction

While a document is read its elements move: they are put before tables, or handed from one element
to another. So they are kept in a table, with their parents and children as numbers. A template is
followed by a node for what it holds, which is its first child.

## Main results

* `size_create`: a new element takes one number, a template two.
-/

namespace FeatureScan.Markup

/-- A node of a tree under construction. -/
structure Node where
  /-- The name; none if the node is for what a template holds. -/
  name? : Option ElementName
  /-- The attributes. -/
  attributes : List Attribute := []
  /-- The children, the latest first. -/
  children : List Nat := []
  /-- The parent. -/
  parent? : Option Nat := none
  deriving Repr

/-- A tree under construction. -/
structure Tree where
  /-- The nodes by number. -/
  nodes : Array Node := #[]

namespace Tree

/-- The number of the next node. -/
def size (t : Tree) : Nat := t.nodes.size

/-- Changes a node. -/
def alter (t : Tree) (id : Nat) (f : Node → Node) : Tree := ⟨t.nodes.modify id f⟩

/-- The parent of a node. -/
def parent? (t : Tree) (id : Nat) : Option Nat := t.nodes[id]?.bind Node.parent?

/-- The tree with a new element that is nowhere yet; its number is the size of the tree before. -/
def create (t : Tree) (name : ElementName) (attributes : List Attribute) : Tree :=
  let id := t.size
  if name == .html "template" then
    ⟨(t.nodes.push { name? := some name, attributes, children := [id + 1] }).push
      { name? := none, parent? := some id }⟩
  else ⟨t.nodes.push { name? := some name, attributes }⟩

/-- The node for what a template holds. -/
def contentsOf (template : Nat) : Nat := template + 1

/-- Takes a node out of its parent. -/
def detach (t : Tree) (id : Nat) : Tree :=
  match t.parent? id with
  | none => t
  | some parent =>
    (t.alter parent fun n => { n with children := n.children.filter (· != id) }).alter id
      fun n => { n with parent? := none }

/-- Makes a node the last child of another. -/
def append (t : Tree) (parent id : Nat) : Tree :=
  ((t.detach id).alter parent fun n => { n with children := id :: n.children }).alter id
    fun n => { n with parent? := some parent }

/-- Puts a number into a list of latest first, before another number in document order. -/
def placeBefore (sibling id : Nat) : List Nat → List Nat
  | [] => [id]
  | c :: cs => if c == sibling then c :: id :: cs else c :: placeBefore sibling id cs

/-- Puts a node before another one that has a parent. -/
def insertBefore (t : Tree) (sibling id : Nat) : Tree :=
  let t := t.detach id
  match t.parent? sibling with
  | none => t
  | some parent =>
    (t.alter parent fun n => { n with children := placeBefore sibling id n.children }).alter id
      fun n => { n with parent? := some parent }

/-- Hands all children of a node to another one. -/
def handOver (t : Tree) (source target : Nat) : Tree :=
  match t.nodes[source]? with
  | none => t
  | some n => n.children.reverse.foldl (fun t id => t.append target id) t

/-- Adds the attributes that an element has not got yet. -/
def addAttributes (t : Tree) (id : Nat) (attributes : List Attribute) : Tree :=
  t.alter id fun n =>
    { n with attributes := n.attributes ++ attributes.filter fun a =>
        !n.attributes.any fun b => b.name == a.name && b.foreign == a.foreign }

/-! ## The finished tree -/

/-- The element of a node; `fuel` bounds the depth. What a node for the contents of a template has
becomes its contents. -/
def elementAt? (t : Tree) : Nat → Nat → Option Element
  | 0, _ => none
  | fuel + 1, id =>
    match t.nodes[id]? with
    | some ⟨some name, attributes, children, _⟩ =>
      let isHolder := fun c => (t.nodes[c]?.map Node.name?) == some none
      let (holders, elements) := children.reverse.partition isHolder
      let held := holders.flatMap fun h => ((t.nodes[h]?.map Node.children).getD []).reverse
      some (.mk name.label attributes (held.filterMap (t.elementAt? fuel))
        (elements.filterMap (t.elementAt? fuel)))
    | _ => none

/-- The element that was created first, with everything in it. -/
def root? (t : Tree) : Option Element := t.elementAt? t.size 0

theorem size_create (t : Tree) (name : ElementName) (attributes : List Attribute) :
    (t.create name attributes).size =
      t.size + if name == .html "template" then 2 else 1 := by
  simp only [create]
  split <;> simp [size]

end Tree

end FeatureScan.Markup
