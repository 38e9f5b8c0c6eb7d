import Mathlib.Data.List.Induction
import Mathlib.Data.List.Nodup
import Shorthand.Entries

set_option autoImplicit false
set_option relaxedAutoImplicit false

/-!
# Tables of definitions

What a table holds after a list of definitions, from an empty one: the names in the order in which
each was defined first, and for each name the value that it was given last.

## Main results

* `Shorthand.Entries.keys_insertAll` — the names, in the order of their first definitions.
* `Shorthand.Entries.nodup_keys_insertAll` — no name is repeated.
* `Shorthand.Entries.find?_insertAll` — the value of a name is that of its last definition.
* `Shorthand.Entries.length_insertAll_eq_iff` — there are as many entries as definitions when no
  name is defined twice, and fewer otherwise.
-/

namespace Shorthand.Entries

variable {β : Type}

/-- One definition after others. -/
lemma insertAll_concat (es definitions : Entries β) (d : Text × β) :
    insertAll es (definitions ++ [d]) = insert (insertAll es definitions) d.1 d.2 := by
  rw [insertAll, List.foldl_append]
  rfl

/-- Without repetitions a name that came before is dropped at the end, and any other stays. -/
lemma eraseDups_concat (names : List Text) (name : Text) :
    (names ++ [name]).eraseDups =
      if name ∈ names then names.eraseDups else names.eraseDups ++ [name] := by
  rw [List.eraseDups_append]
  split_ifs with h
  · simp [List.removeAll, h]
  · simp [List.removeAll, h, List.eraseDups_cons]

/-- **The names of a table** are those that were defined, without repetitions, in the order of
their first definitions. -/
theorem keys_insertAll (definitions : Entries β) :
    keys (insertAll [] definitions) = (definitions.map (·.1)).eraseDups := by
  induction definitions using List.reverseRecOn with
  | nil => rfl
  | append_singleton definitions d ih =>
    have hmem : d.1 ∈ keys (insertAll [] definitions) ↔ d.1 ∈ definitions.map (·.1) := by
      rw [ih, List.mem_eraseDups]
    rw [insertAll_concat, keys_insert, List.map_append, List.map_singleton, eraseDups_concat, ← ih]
    simp only [hmem]

/-- A definition repeats no name. -/
lemma nodup_keys_insert {es : Entries β} (h : (keys es).Nodup) (name : Text) (value : β) :
    (keys (insert es name value)).Nodup := by
  rw [keys_insert]
  split_ifs with hmem
  · exact h
  · rw [← List.concat_eq_append]
    exact h.concat hmem

/-- **No name of a table is repeated.** -/
theorem nodup_keys_insertAll (definitions : Entries β) :
    (keys (insertAll [] definitions)).Nodup := by
  induction definitions using List.reverseRecOn with
  | nil => exact List.nodup_nil
  | append_singleton definitions d ih =>
    rw [insertAll_concat]
    exact nodup_keys_insert ih d.1 d.2

/-- **The value of a name** is that of its last definition. -/
theorem find?_insertAll (definitions : Entries β) (name : Text) :
    find? (insertAll [] definitions) name = definitions.reverse.lookup name := by
  induction definitions using List.reverseRecOn with
  | nil => rfl
  | append_singleton definitions d ih =>
    obtain ⟨key, value⟩ := d
    rw [insertAll_concat, find?_insert, List.reverse_append, List.reverse_singleton,
      List.singleton_append, List.lookup_cons, ih]
    by_cases h : key = name
    · rw [if_pos h, h, beq_self_eq_true]
    · rw [if_neg h, beq_false_of_ne (Ne.symm h)]

/-- A name without a definition keeps its value. -/
lemma find?_insertAll_of_notMem {definitions : Entries β} {name : Text}
    (h : name ∉ keys definitions) (es : Entries β) :
    find? (insertAll es definitions) name = find? es name := by
  induction definitions generalizing es with
  | nil => rfl
  | cons d rest ih =>
    obtain ⟨hne, hrest⟩ : name ≠ d.1 ∧ name ∉ keys rest := by simpa [keys] using h
    exact (ih hrest _).trans ((find?_insert es d.1 name d.2).trans (if_neg (Ne.symm hne)))

/-- A name with one definition has its value. -/
lemma find?_insertAll_of_mem {definitions : Entries β} {name : Text} {value : β}
    (hnodup : (keys definitions).Nodup) (h : (name, value) ∈ definitions) (es : Entries β) :
    find? (insertAll es definitions) name = some value := by
  induction definitions generalizing es with
  | nil => exact absurd h List.not_mem_nil
  | cons d rest ih =>
    obtain ⟨hnew, hrest⟩ : d.1 ∉ keys rest ∧ (keys rest).Nodup := List.nodup_cons.mp hnodup
    rcases List.mem_cons.mp h with rfl | h
    · exact (find?_insertAll_of_notMem hnew _).trans
        ((find?_insert es name name value).trans (if_pos rfl))
    · exact ih hrest h _

/-- A definition adds an entry if its name is new. -/
lemma length_insert (es : Entries β) (name : Text) (value : β) :
    (insert es name value).length = if name ∈ keys es then es.length else es.length + 1 := by
  have hlength (es : Entries β) : (keys es).length = es.length := List.length_map _
  rw [← hlength, keys_insert]
  split_ifs
  · exact hlength es
  · rw [List.length_append, hlength, List.length_singleton]

/-- The names of a table are those of the definitions. -/
lemma mem_keys_insertAll (definitions : Entries β) (name : Text) :
    name ∈ keys (insertAll [] definitions) ↔ name ∈ keys definitions := by
  rw [keys_insertAll, List.mem_eraseDups]
  rfl

/-- There are no more entries than definitions. -/
lemma length_insertAll_le (definitions : Entries β) :
    (insertAll [] definitions).length ≤ definitions.length := by
  induction definitions using List.reverseRecOn with
  | nil => exact Nat.le_refl 0
  | append_singleton definitions d ih =>
    rw [insertAll_concat, length_insert, List.length_append, List.length_singleton]
    split_ifs <;> omega

/-- **There are as many entries as definitions** exactly when no name is defined twice. -/
theorem length_insertAll_eq_iff (definitions : Entries β) :
    (insertAll [] definitions).length = definitions.length ↔ (keys definitions).Nodup := by
  induction definitions using List.reverseRecOn with
  | nil => simp [insertAll, keys]
  | append_singleton definitions d ih =>
    have hkeys : keys (definitions ++ [d]) = keys definitions ++ [d.1] := List.map_append
    have hle := length_insertAll_le definitions
    rw [insertAll_concat, length_insert, List.length_append, List.length_singleton, hkeys,
      ← List.concat_eq_append, List.nodup_concat]
    simp only [mem_keys_insertAll]
    split_ifs with hmem
    · exact iff_of_false (by omega) fun h => h.1 hmem
    · rw [Nat.add_right_cancel_iff, ih]
      exact (and_iff_right hmem).symm

/-- There is a value only for a name of the table. -/
lemma find?_eq_none_iff {es : Entries β} {name : Text} : find? es name = none ↔ name ∉ keys es := by
  rw [← has_iff_mem_keys, has, Bool.not_eq_true, Option.isSome_eq_false_iff,
    Option.isNone_iff_eq_none]

/-- A new name goes to the end. -/
lemma insert_of_notMem {es : Entries β} {name : Text} (h : name ∉ keys es) (value : β) :
    insert es name value = es ++ [(name, value)] := by
  induction es with
  | nil => rfl
  | cons e es ih =>
    obtain ⟨key, other⟩ := e
    obtain ⟨hkey, hes⟩ : name ≠ key ∧ name ∉ keys es := by simpa [keys] using h
    rw [insert, if_neg (Ne.symm hkey), ih hes, List.cons_append]

/-- The value of a name among values that were all changed alike. -/
lemma lookup_map {α : Type} (f : α → β) (es : Entries α) (name : Text) :
    (es.map fun (key, value) => (key, f value)).lookup name = (es.lookup name).map f := by
  induction es with
  | nil => rfl
  | cons e rest ih =>
    obtain ⟨key, value⟩ := e
    rw [List.map_cons, List.lookup_cons, List.lookup_cons, ih]
    cases name == key <;> rfl

end Shorthand.Entries
