import FeatureScan.Text.Ascii

/-!
# Vendor tags

Browsers ship trial versions of a property or at-rule under a tagged name such as `-webkit-filter`.
This module takes the tag off.

## Main results

* `dropVendorTag_append`: the name behind a tag is what was put there.
-/

namespace FeatureScan.Text

/-- The tags in front of a vendor's name for a property or at-rule. -/
def vendorTags : List (List Char) :=
  ["-webkit-".toList, "-moz-".toList, "-ms-".toList, "-o-".toList]

/-- The name behind the first vendor tag after which something is left; a name without such a tag
stays as it is. -/
def dropVendorTag (name : String) : String :=
  let behind := vendorTags.findSome? fun tag =>
    match afterFront? tag name.toList with
    | some (c :: rest) => some (String.ofList (c :: rest))
    | _ => none
  behind.getD name

theorem dropVendorTag_append {tag : List Char} (h : tag ∈ vendorTags) {name : String}
    (hname : name ≠ "") : dropVendorTag (String.ofList tag ++ name) = name := by
  obtain ⟨cs, rfl⟩ : ∃ cs, name = String.ofList cs := ⟨name.toList, String.ofList_toList.symm⟩
  cases cs with
  | nil => exact absurd rfl hname
  | cons c cs =>
      unfold dropVendorTag
      rw [String.toList_append, String.toList_ofList, String.toList_ofList]
      simp only [vendorTags, List.mem_cons, List.not_mem_nil, or_false] at h
      rcases h with rfl | rfl | rfl | rfl <;> rfl

theorem length_vendorTag_pos {tag : List Char} (h : tag ∈ vendorTags) : 0 < tag.length := by
  revert tag
  decide

theorem asciiLower_vendorTag {tag : List Char} (h : tag ∈ vendorTags) :
    asciiLower (String.ofList tag) = String.ofList tag := by
  simp only [vendorTags, List.mem_cons, List.not_mem_nil, or_false] at h
  rcases h with rfl | rfl | rfl | rfl <;> rfl

end FeatureScan.Text
