import Shorthand.Proofs.Entries.Definitions

set_option autoImplicit false
set_option relaxedAutoImplicit false

/-!
# Tables updated with tables

What definitions make of a table depends only on what they make alone: the table keeps its names
where they are, the ones that are defined again take their new values, and the others follow at
the end.

## Main definitions

* `Shorthand.Entries.updated` — a table updated with another.

## Main results

* `Shorthand.Entries.updated_insert` — updating with one more definition is one more definition.
* `Shorthand.Entries.insertAll_eq_updated` — definitions update a table with what they make alone.
-/

namespace Shorthand.Entries

variable {β : Type} {old new es : Entries β} {name : Text}

/-- A table updated with another: each name of the old one keeps its place and takes its value
from the new one if it has one there, and the other names of the new one follow in their order. -/
def updated (old new : Entries β) : Entries β :=
  old.map (fun e => (e.1, (find? new e.1).getD e.2)) ++ new.filter fun e => !has old e.1

/-- Nothing is updated with an empty table. -/
@[simp] lemma updated_nil (old : Entries β) : updated old [] = old := by
  simp [updated, find?]

/-! ## One definition in parts of a table -/

/-- A name of the first part is defined there. -/
lemma insert_append_of_mem (h : name ∈ keys es) (others : Entries β) (value : β) :
    insert (es ++ others) name value = insert es name value ++ others := by
  induction es with
  | nil => exact absurd h List.not_mem_nil
  | cons e rest ih =>
    obtain ⟨key, v⟩ := e
    by_cases hkey : key = name
    · simp [insert, hkey]
    · have hrest : name ∈ keys rest := by simpa [keys, Ne.symm hkey] using h
      simp [insert, hkey, ih hrest]

/-- Any other is defined in the second. -/
lemma insert_append_of_notMem (h : name ∉ keys es) (others : Entries β) (value : β) :
    insert (es ++ others) name value = es ++ insert others name value := by
  induction es with
  | nil => rfl
  | cons e rest ih =>
    obtain ⟨key, v⟩ := e
    obtain ⟨hkey, hrest⟩ : name ≠ key ∧ name ∉ keys rest := by simpa [keys] using h
    simp [insert, Ne.symm hkey, ih hrest]

/-- Among some of the names only a definition of one of them counts. -/
lemma filter_insert (p : Text → Bool) (es : Entries β) (name : Text) (value : β) :
    (insert es name value).filter (fun e => p e.1) =
      if p name then insert (es.filter fun e => p e.1) name value
      else es.filter fun e => p e.1 := by
  induction es with
  | nil => by_cases hp : p name <;> simp [insert, hp]
  | cons e rest ih =>
    obtain ⟨key, v⟩ := e
    by_cases hkey : key = name
    · subst hkey
      by_cases hp : p key <;> simp [insert, hp]
    · by_cases hp : p name <;> by_cases hpkey : p key <;> simp_all [insert]

/-- A name of a table that gets its values from a function takes the new value in its place. -/
lemma insert_map (hes : (keys es).Nodup) (h : name ∈ keys es) (f : Text × β → β) (value : β) :
    insert (es.map fun e => (e.1, f e)) name value =
      es.map fun e => (e.1, if name = e.1 then value else f e) := by
  induction es with
  | nil => exact absurd h List.not_mem_nil
  | cons e rest ih =>
    obtain ⟨key, v⟩ := e
    obtain ⟨hnew, hrest⟩ : key ∉ keys rest ∧ (keys rest).Nodup := List.nodup_cons.mp hes
    rw [List.map_cons, List.map_cons, insert]
    by_cases hkey : key = name
    · subst hkey
      -- the name does not come again, so the rest stays as it is
      have hsame : (rest.map fun e => (e.1, f e)) =
          rest.map fun e => (e.1, if key = e.1 then value else f e) := by
        apply List.map_congr_left
        intro e he
        have hne : key ≠ e.1 := fun heq => hnew (heq ▸ List.mem_map_of_mem he)
        rw [if_neg hne]
      simp [hsame]
    · have hmem : name ∈ keys rest := by simpa [keys, Ne.symm hkey] using h
      simp [hkey, Ne.symm hkey, ih hrest hmem]

/-! ## Updating -/

/-- Other values leave the names as they are. -/
lemma keys_map_value (es : Entries β) (f : Text × β → β) :
    keys (es.map fun e => (e.1, f e)) = keys es := by
  simp [keys]

/-- **Updating with one more definition is one more definition.** -/
theorem updated_insert (hold : (keys old).Nodup) (new : Entries β) (name : Text) (value : β) :
    updated old (insert new name value) = insert (updated old new) name value := by
  have hvalue (e : Text × β) : (find? (insert new name value) e.1).getD e.2 =
      if name = e.1 then value else (find? new e.1).getD e.2 := by
    rw [find?_insert]
    split_ifs <;> rfl
  simp only [updated, hvalue, filter_insert fun key => !has old key]
  by_cases h : name ∈ keys old
  · have hhas : has old name = true := (has_iff_mem_keys old name).mpr h
    rw [insert_append_of_mem (by rwa [keys_map_value]), insert_map hold h, hhas]
    rfl
  · have hhas : has old name = false := by rwa [← Bool.not_eq_true, has_iff_mem_keys]
    rw [insert_append_of_notMem (by rwa [keys_map_value]), hhas]
    congr 1
    apply List.map_congr_left
    intro e he
    have hne : name ≠ e.1 := fun heq => h (heq ▸ List.mem_map_of_mem he)
    rw [if_neg hne]

/-- **Definitions update a table** with what they make alone. -/
theorem insertAll_eq_updated (hold : (keys old).Nodup) (definitions : Entries β) :
    insertAll old definitions = updated old (insertAll [] definitions) := by
  induction definitions using List.reverseRecOn with
  | nil => exact (updated_nil old).symm
  | append_singleton definitions d ih =>
    rw [insertAll_concat, insertAll_concat, updated_insert hold, ih]

end Shorthand.Entries
