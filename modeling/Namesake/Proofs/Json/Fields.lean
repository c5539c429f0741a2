import Namesake.Json.Value

/-!
# The fields of an object

Setting a field changes what is found under its key and nothing else. So fields that are laid over
others leave alone what is found under any other key.

## Main results

* `Fields.lookup_set` — what is found after a field has been set
* `Fields.lookup_merge_of_notMem` — what is found after others have been laid over
-/

namespace Namesake.Fields

variable {fields more : Fields} {key : String}

theorem lookup_cons_eq (fields : Fields) (key k : String) (v : Json) :
    List.lookup key ((k, v) :: fields) = if key = k then some v else fields.lookup key := by
  rw [List.lookup_cons]
  by_cases h : key = k
  · subst h
    rw [beq_self_eq_true, if_pos rfl]
  · rw [beq_eq_false_iff_ne.2 h, if_neg h]

/-- The field that has been set is found, and every other one as before. -/
theorem lookup_set (fields : Fields) (k key : String) (value : Json) :
    (fields.set k value).lookup key = if key = k then some value else fields.lookup key := by
  induction fields with
  | nil => exact lookup_cons_eq [] key k value
  | cons field fields ih =>
    obtain ⟨name, v⟩ := field
    rw [set]
    by_cases hname : name = k
    · subst hname
      rw [if_pos rfl, lookup_cons_eq, lookup_cons_eq]
      split <;> rfl
    · rw [if_neg hname, lookup_cons_eq, lookup_cons_eq, ih]
      by_cases hkey : key = name
      · subst hkey
        rw [if_pos rfl, if_neg hname, if_pos rfl]
      · rw [if_neg hkey, if_neg hkey]

/-- Fields that are laid over leave those alone that have other keys. -/
theorem lookup_merge_of_notMem (h : ∀ field ∈ more, key ≠ field.1) :
    (fields.merge more).lookup key = fields.lookup key := by
  induction more generalizing fields with
  | nil => rfl
  | cons field more ih =>
    obtain ⟨hfield, hrest⟩ := List.forall_mem_cons.1 h
    show ((fields.set field.1 field.2).merge more).lookup key = _
    rw [ih hrest, lookup_set, if_neg hfield]

end Namesake.Fields
