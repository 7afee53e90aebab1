import FeatureScan.Markup.Tag

/-!
# Elements

A document is a tree of elements. What a template holds lies apart from its children: it is in the
document, but has no parent. A place is an element as a scan meets it, with the names of the
elements around it.

## Main results

* `placesOnto_eq`: the places of an element come before those collected so far.
* `head?_places`: the first place is that of the element itself.
-/

namespace FeatureScan.Markup

/-- An element with everything in it. -/
inductive Element
  /-- An element by its name, its attributes, what it holds as a template, and its children. -/
  | mk (name : String) (attributes : List Attribute) (contents children : List Element)

/-- An element as a scan meets it. -/
structure Place where
  /-- The name of the element. -/
  name : String
  /-- The attributes, in order. -/
  attributes : List Attribute
  /-- The name of the parent, if it has one. -/
  parent? : Option String
  /-- The names of the elements around it, from the inside. -/
  ancestors : List String
  deriving DecidableEq, Repr

namespace Element

mutual

/-- Puts the places of an element, in document order, before others. -/
def placesOnto (later : List Place) (parent? : Option String) (ancestors : List String) :
    Element → List Place
  | .mk name attributes contents children =>
    let inside := name :: ancestors
    ⟨name, attributes, parent?, ancestors⟩ ::
      allPlacesOnto (allPlacesOnto later (some name) inside children) none inside contents

/-- Puts the places of several elements, in document order, before others. -/
def allPlacesOnto (later : List Place) (parent? : Option String) (ancestors : List String) :
    List Element → List Place
  | [] => later
  | e :: es => placesOnto (allPlacesOnto later parent? ancestors es) parent? ancestors e

end

/-- The places of a document, in document order. -/
def places (root : Element) : List Place := placesOnto [] none [] root

mutual

theorem placesOnto_eq (later : List Place) (parent? : Option String) (ancestors : List String)
    (e : Element) :
    placesOnto later parent? ancestors e = placesOnto [] parent? ancestors e ++ later := by
  cases e with
  | mk name attributes contents children =>
    simp only [placesOnto, List.cons_append, List.cons.injEq, true_and]
    rw [allPlacesOnto_eq _ none, allPlacesOnto_eq later,
      allPlacesOnto_eq (allPlacesOnto [] (some name) (name :: ancestors) children) none,
      List.append_assoc]

theorem allPlacesOnto_eq (later : List Place) (parent? : Option String) (ancestors : List String)
    (es : List Element) :
    allPlacesOnto later parent? ancestors es = allPlacesOnto [] parent? ancestors es ++ later := by
  cases es with
  | nil => rfl
  | cons e es =>
    simp only [allPlacesOnto]
    rw [placesOnto_eq, allPlacesOnto_eq later,
      placesOnto_eq (allPlacesOnto [] parent? ancestors es),
      List.append_assoc]

end

theorem head?_places (name : String) (attributes : List Attribute)
    (contents children : List Element) :
    (Element.mk name attributes contents children).places.head? =
      some ⟨name, attributes, none, []⟩ := by
  simp [places, placesOnto]

end Element

end FeatureScan.Markup
