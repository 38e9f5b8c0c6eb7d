import Shorthand.Text.Basic

set_option autoImplicit false
set_option relaxedAutoImplicit false

/-!
# Entries in order of first definition

A table of named entries is a list of pairs. A name that is defined again keeps its place and takes
the new value; a new name goes to the end. Names are texts, but nothing here depends on it.

## Main definitions

* `Shorthand.Entries` — pairs of a name and a value.
* `Shorthand.Entries.find?` — the value of a name.
* `Shorthand.Entries.insert` — a definition.

## Main results

* `Shorthand.Entries.find?_insert` — a definition is found, and changes no other name.
* `Shorthand.Entries.keys_insert` — a definition keeps the order of the names.
* `Shorthand.Entries.eq_or_mem_of_mem_insert` — it adds no other entry.
* `Shorthand.Entries.insert_insert` — only the last definition of a name counts.
-/

namespace Shorthand

/-- Pairs of a name and a value, in order of first definition. -/
abbrev Entries (β : Type) := List (Text × β)

namespace Entries

variable {κ β : Type}

/-- The names, in order. -/
def keys (es : List (κ × β)) : List κ := es.map (·.1)

variable [DecidableEq κ]

/-- The value of a name. -/
def find? (es : List (κ × β)) (key : κ) : Option β :=
  match es with
  | [] => none
  | (k, v) :: rest => if k = key then some v else find? rest key

/-- Whether a name is defined. -/
def has (es : List (κ × β)) (key : κ) : Bool := (find? es key).isSome

/-- A definition: it replaces the value of a defined name and appends a new one. -/
def insert (es : List (κ × β)) (key : κ) (value : β) : List (κ × β) :=
  match es with
  | [] => [(key, value)]
  | (k, v) :: rest => if k = key then (k, value) :: rest else (k, v) :: insert rest key value

/-- The definitions of a list, one after the other. -/
def insertAll (es : List (κ × β)) (definitions : List (κ × β)) : List (κ × β) :=
  definitions.foldl (fun es (k, v) => insert es k v) es

/-- **A definition is found,** and changes no other name. -/
theorem find?_insert (es : List (κ × β)) (key other : κ) (value : β) :
    find? (insert es key value) other = if key = other then some value else find? es other := by
  induction es with
  | nil => rfl
  | cons e rest ih =>
    obtain ⟨k, v⟩ := e
    by_cases hk : k = key
    · subst hk
      by_cases ho : k = other <;> simp [insert, find?, ho]
    · by_cases ho : k = other
      · subst ho
        simp [insert, find?, hk, Ne.symm hk]
      · simp [insert, find?, hk, ho, ih]

/-- **A definition keeps the order of the names.** -/
theorem keys_insert (es : List (κ × β)) (key : κ) (value : β) :
    keys (insert es key value) = if key ∈ keys es then keys es else keys es ++ [key] := by
  induction es with
  | nil => simp [insert, keys]
  | cons e rest ih =>
    obtain ⟨k, v⟩ := e
    simp only [keys, List.map_cons, List.mem_cons] at ih ⊢
    by_cases hk : k = key
    · subst hk
      simp [insert]
    · by_cases hm : key ∈ rest.map (·.1) <;>
        simp_all [insert, Ne.symm hk]

/-- What is in a table after a definition is the definition, or was there before. -/
theorem eq_or_mem_of_mem_insert {es : List (κ × β)} {key : κ} {value : β} {e : κ × β}
    (h : e ∈ insert es key value) : e = (key, value) ∨ e ∈ es := by
  induction es with
  | nil => exact .inl (List.mem_singleton.mp h)
  | cons entry rest ih =>
    rw [insert] at h
    split at h
    · rename_i hk
      rcases List.mem_cons.mp h with rfl | h
      · exact .inl (by rw [hk])
      · exact .inr (List.mem_cons_of_mem _ h)
    · rcases List.mem_cons.mp h with rfl | h
      · exact .inr List.mem_cons_self
      · exact (ih h).imp_right (List.mem_cons_of_mem _)

/-- **Only the last definition of a name counts.** -/
theorem insert_insert (es : List (κ × β)) (key : κ) (first second : β) :
    insert (insert es key first) key second = insert es key second := by
  induction es with
  | nil => simp [insert]
  | cons e rest ih =>
    obtain ⟨k, v⟩ := e
    by_cases hk : k = key <;> simp [insert, hk, ih]

/-- A name is defined exactly when it is one of the names. -/
theorem has_iff_mem_keys (es : List (κ × β)) (key : κ) : has es key = true ↔ key ∈ keys es := by
  induction es with
  | nil => simp [has, find?, keys]
  | cons e rest ih =>
    obtain ⟨k, v⟩ := e
    by_cases hk : k = key
    · simp [has, find?, keys, hk]
    · simp only [has, keys] at ih
      simp [has, find?, keys, hk, Ne.symm hk, ih]

end Entries

end Shorthand
