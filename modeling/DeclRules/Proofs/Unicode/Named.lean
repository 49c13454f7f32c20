import DeclRules.Proofs.Unicode.CharSet
import DeclRules.Unicode.Age
import DeclRules.Unicode.Folding
import DeclRules.Unicode.Property
import DeclRules.Unicode.Script
import DeclRules.Unicode.Segmentation

/-! # Sets that have a name

Whatever set a name stands for is proper, since it was built by the operations on sets: each of
them ends in `CharSet.ofRanges`. The tables of properties, categories and breaks are gone through
once (`properTable_properties` and its likes), and the look-ups by name only choose from them. -/

namespace DeclRules.Unicode

open CharSet

/-- All sets of a table are proper. -/
def ProperTable (table : List (List String × CharSet)) : Prop := ∀ w ∈ table, w.2.Proper

theorem ProperTable.nil : ProperTable [] := by simp [ProperTable]

theorem ProperTable.cons {names : List String} {s : CharSet} {table : List (List String × CharSet)}
    (hs : s.Proper) (h : ProperTable table) : ProperTable ((names, s) :: table) :=
  List.forall_mem_cons.mpr ⟨hs, h⟩

theorem ProperTable.find {table : List (List String × CharSet)} (h : ProperTable table)
    {p : List String × CharSet → Bool} {s : CharSet} (hs : (table.find? p).map (·.2) = some s) :
    s.Proper := by
  obtain ⟨w, hw, rfl⟩ := Option.map_eq_some_iff.mp hs
  exact h w (List.mem_of_find?_eq_some hw)

theorem properTable_categories : ProperTable Category.named := by
  unfold Category.named
  repeat' first
    | exact proper_ofHex _
    | exact proper_unions _
    | exact proper_compl _
    | exact .nil
    | apply ProperTable.cons

theorem properTable_properties : ProperTable Property.named := by
  unfold Property.named
  repeat' first
    | exact proper_ofHex _
    | exact proper_unions _
    | exact proper_union _ _
    | exact proper_compl _
    | exact .nil
    | apply ProperTable.cons

theorem properTable_grapheme : ProperTable Segmentation.grapheme := by
  unfold Segmentation.grapheme
  repeat' first
    | exact proper_ofHex _
    | exact proper_union _ _
    | exact proper_ofRanges _
    | exact .nil
    | apply ProperTable.cons

theorem properTable_wordBreak : ProperTable Segmentation.wordBreak := by
  unfold Segmentation.wordBreak
  repeat' first
    | exact proper_ofHex _
    | exact .nil
    | apply ProperTable.cons

theorem properTable_sentence : ProperTable Segmentation.sentence := by
  unfold Segmentation.sentence
  repeat' first
    | exact proper_ofHex _
    | exact .nil
    | apply ProperTable.cons

theorem proper_of_property? {name : String} {s : CharSet} (h : property? name = some s) :
    s.Proper := properTable_properties.find h

theorem proper_of_generalCategory? {name : String} {s : CharSet}
    (h : generalCategory? name = some s) : s.Proper := by
  unfold generalCategory? at h
  split at h
  · cases h
    exact proper_all
  · split at h
    · cases h
      exact proper_compl _
    · split at h
      · cases h
        exact proper_range ..
      · exact properTable_categories.find h

theorem proper_of_age? {name : String} {s : CharSet} (h : age? name = some s) : s.Proper := by
  unfold age? at h
  split at h
  · cases h
  · cases h
    exact proper_unions _

theorem proper_of_script? {name : String} {s : CharSet}
    (h : (script? name).map (·.set) = some s) : s.Proper := by
  obtain ⟨e, -, rfl⟩ := Option.map_eq_some_iff.mp h
  exact proper_ofHex e.own

theorem proper_of_scriptExtensions? {name : String} {s : CharSet}
    (h : (script? name).map (·.extensions) = some s) : s.Proper := by
  obtain ⟨e, -, rfl⟩ := Option.map_eq_some_iff.mp h
  exact proper_ofHex (e.extended.getD e.own)

theorem proper_foldCase (s : CharSet) : s.foldCase.Proper := proper_ofRanges _

theorem proper_foldAsciiCase (s : CharSet) : s.foldAsciiCase.Proper := proper_ofRanges _

end DeclRules.Unicode
