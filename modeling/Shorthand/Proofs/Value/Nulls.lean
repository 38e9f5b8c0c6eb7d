import Mathlib.Data.List.Basic
import Shorthand.Value.Basic

set_option autoImplicit false
set_option relaxedAutoImplicit false

/-!
# Tables without nulls

A path of names leads from a table to the values in it and in its subtables. Without its nulls a
table leads to the same values but null, by the same paths and in the same order. Subtables stay
when nothing is left in them, and so do the nulls in arrays, for no path leads into an array.

## Main definitions

* `Shorthand.Value.Reaches` — a path of names leads from a value to another.
* `Shorthand.Value.Purges` — a value is another without the nulls that can be reached.

## Main results

* `Shorthand.Value.entriesWithoutNulls_eq` — the entries that are left, in closed form.
* `Shorthand.Value.reaches_withoutNulls_iff` — what is reached when the nulls are gone.
* `Shorthand.Value.purges_entriesWithoutNulls` — exactly the nulls that can be reached are
  removed, and doing it again changes nothing.
-/

namespace Shorthand.Value

variable {v w : Value} {name : Text} {path : List Text} {entries : Entries Value}

/-! ## Paths -/

/-- A path of names leads from a value to another, through tables only. -/
inductive Reaches : Value → List Text → Value → Prop
  | here (v : Value) : Reaches v [] v
  | within {entries : Entries Value} {name : Text} {path : List Text} {v w : Value} :
    (name, v) ∈ entries → Reaches v path w → Reaches (.table entries) (name :: path) w

/-- The empty path leads nowhere else. -/
lemma reaches_nil : Reaches v [] w ↔ v = w := by
  constructor
  · rintro ⟨⟩
    rfl
  · rintro rfl
    exact .here v

/-- Any other path starts with a name of a table. -/
lemma reaches_cons :
    Reaches v (name :: path) w ↔ ∃ entries, v = .table entries ∧ ∃ u, (name, u) ∈ entries ∧
    Reaches u path w := by
  constructor
  · rintro (_ | ⟨hmem, hreaches⟩)
    exact ⟨_, rfl, _, hmem, hreaches⟩
  · rintro ⟨entries, rfl, u, hmem, hreaches⟩
    exact .within hmem hreaches

/-- It is null. -/
def isNull : Value → Bool
  | .null => true
  | _ => false

/-- From null a path leads only to null. -/
lemma Reaches.isNull_eq_false (h : Reaches v path w) (hw : w.isNull = false) :
    v.isNull = false := by
  cases h with
  | here => exact hw
  | within => rfl

/-! ## What is left of a value -/

/-- It is null exactly when the value was. -/
lemma isNull_withoutNulls (v : Value) : v.withoutNulls.isNull = v.isNull := by
  cases v <;> rfl

/-- What is no table is left as it is. -/
lemma withoutNulls_of_not_table (h : ∀ entries, v ≠ .table entries) : v.withoutNulls = v := by
  cases v with
  | table entries => exact absurd rfl (h entries)
  | _ => rfl

/-- **The entries that are left,** in closed form: those that are not null, in their order, each
without its own nulls. -/
theorem entriesWithoutNulls_eq (entries : Entries Value) :
    entriesWithoutNulls entries =
      (entries.filter fun e => !e.2.isNull).map fun e => (e.1, e.2.withoutNulls) := by
  induction entries with
  | nil => rfl
  | cons e rest ih =>
    obtain ⟨name, v⟩ := e
    cases v <;> simp [entriesWithoutNulls, isNull, ih]

/-- Their names are those of the entries that are not null. -/
lemma keys_entriesWithoutNulls (entries : Entries Value) :
    Entries.keys (entriesWithoutNulls entries) =
      Entries.keys (entries.filter fun e => !e.2.isNull) := by
  rw [entriesWithoutNulls_eq, Entries.keys, List.map_map]
  rfl

/-- Each is what is left of an entry that is not null. -/
lemma mem_entriesWithoutNulls :
    (name, w) ∈ entriesWithoutNulls entries ↔
      ∃ v, (name, v) ∈ entries ∧ v.isNull = false ∧ v.withoutNulls = w := by
  rw [entriesWithoutNulls_eq, List.mem_map]
  constructor
  · rintro ⟨⟨name', v⟩, hmem, heq⟩
    obtain ⟨rfl, rfl⟩ := Prod.mk.inj heq
    obtain ⟨hmem, hnull⟩ := List.mem_filter.mp hmem
    exact ⟨v, hmem, by simpa using hnull, rfl⟩
  · rintro ⟨v, hmem, hnull, rfl⟩
    exact ⟨(name, v), List.mem_filter.mpr ⟨hmem, by simpa using hnull⟩, rfl⟩

/-- **What is reached when the nulls are gone** is what is left of the values that were reached
before and are not null.

**Proof sketch.** Induction on the path. No value on the way is null, for from null no path leads
on. -/
theorem reaches_withoutNulls_iff (hv : v.isNull = false) :
    Reaches v.withoutNulls path w ↔
      ∃ u, Reaches v path u ∧ u.isNull = false ∧ u.withoutNulls = w := by
  induction path generalizing v with
  | nil =>
    rw [reaches_nil]
    constructor
    · rintro rfl
      exact ⟨v, .here v, hv, rfl⟩
    · rintro ⟨u, hreaches, -, rfl⟩
      rw [reaches_nil.mp hreaches]
  | cons name path ih =>
    rw [reaches_cons]
    constructor
    · rintro ⟨left, hleft, _, hmem, hreaches⟩
      cases v with
      | table entries =>
        obtain rfl : entriesWithoutNulls entries = left := Value.table.inj hleft
        obtain ⟨x, hx, hnull, rfl⟩ := mem_entriesWithoutNulls.mp hmem
        obtain ⟨u', hreaches, hkept⟩ := (ih hnull).mp hreaches
        exact ⟨u', .within hx hreaches, hkept⟩
      | _ => exact nomatch hleft
    · rintro ⟨u', hreaches, hu', hw⟩
      obtain ⟨entries, rfl, u, hmem, hreaches⟩ := reaches_cons.mp hreaches
      have hu := hreaches.isNull_eq_false hu'
      exact ⟨_, rfl, _, mem_entriesWithoutNulls.mpr ⟨u, hmem, hu, rfl⟩,
        (ih hu).mpr ⟨u', hreaches, hu', hw⟩⟩

-- by structural induction on the value and on its entries at once
mutual

/-- What is left of a value has no nulls to remove. -/
lemma withoutNulls_withoutNulls : ∀ v : Value, v.withoutNulls.withoutNulls = v.withoutNulls
  | .table entries => by
    rw [withoutNulls, withoutNulls, entriesWithoutNulls_entriesWithoutNulls entries]
  | .null | .bool _ | .int _ | .float _ | .text _ | .moment _ | .array _ => rfl

/-- So it is with the entries of a table. -/
lemma entriesWithoutNulls_entriesWithoutNulls :
    ∀ entries : List (Text × Value),
      entriesWithoutNulls (entriesWithoutNulls entries) = entriesWithoutNulls entries
  | [] => rfl
  | (name, v) :: rest => by
    have hv := withoutNulls_withoutNulls v
    have hrest := entriesWithoutNulls_entriesWithoutNulls rest
    have hnull := isNull_withoutNulls v
    rw [entriesWithoutNulls_eq] at hrest ⊢
    cases h : v.isNull <;> simp_all [entriesWithoutNulls_eq]

end

/-! ## Exactly the nulls are removed -/

/-- The value `r` is the value `d` without the nulls that can be reached in it. -/
structure Purges (d r : Value) : Prop where
  /-- What is neither null nor a table is reached by the same paths. An array is compared as a
  whole. -/
  kept : ∀ path v, v.isNull = false → (∀ es, v ≠ .table es) → (Reaches r path v ↔ Reaches d path v)
  /-- Tables are reached by the same paths. -/
  tables : ∀ path, (∃ es, Reaches r path (.table es)) ↔ ∃ es, Reaches d path (.table es)
  /-- No null is reached. -/
  nulls : ∀ path, ¬Reaches r path .null
  /-- The names of a table are those that are not null, in the same order. -/
  order : ∀ path names, (∃ es, Reaches r path (.table es) ∧ Entries.keys es = names) ↔
    ∃ es, Reaches d path (.table es) ∧ Entries.keys (es.filter fun e => !e.2.isNull) = names

/-- What is neither null nor a table is reached as before. -/
lemma reaches_withoutNulls_of_not_table (hv : v.isNull = false) (hw : w.isNull = false)
    (htable : ∀ es, w ≠ .table es) : Reaches v.withoutNulls path w ↔ Reaches v path w := by
  rw [reaches_withoutNulls_iff hv]
  constructor
  · rintro ⟨u, hu, -, rfl⟩
    have hsame : u.withoutNulls = u :=
      withoutNulls_of_not_table fun es he =>
        htable (entriesWithoutNulls es) (by rw [he, withoutNulls])
    rwa [hsame]
  · exact fun h => ⟨w, h, hw, withoutNulls_of_not_table htable⟩

/-- Null is not reached. -/
lemma not_reaches_null (hv : v.isNull = false) : ¬Reaches v.withoutNulls path .null := by
  intro h
  obtain ⟨u, -, hu, hleft⟩ := (reaches_withoutNulls_iff hv).mp h
  rw [← isNull_withoutNulls, hleft] at hu
  exact nomatch hu

/-- Tables are reached by the same paths as before, and each is what is left of one. -/
lemma reaches_table_withoutNulls_iff (hv : v.isNull = false) {left : Entries Value} :
    Reaches v.withoutNulls path (.table left) ↔
      ∃ es, Reaches v path (.table es) ∧ entriesWithoutNulls es = left := by
  rw [reaches_withoutNulls_iff hv]
  constructor
  · rintro ⟨u, hreaches, -, hleft⟩
    cases u with
    | table es => exact ⟨es, hreaches, Value.table.inj hleft⟩
    | _ => exact nomatch hleft
  · rintro ⟨es, hreaches, rfl⟩
    exact ⟨.table es, hreaches, rfl, rfl⟩

/-- What holds of the tables that are reached. -/
lemma exists_reaches_table_iff (hv : v.isNull = false) (path : List Text)
    (P : Entries Value → Prop) :
    (∃ left, Reaches v.withoutNulls path (.table left) ∧ P left) ↔
      ∃ es, Reaches v path (.table es) ∧ P (entriesWithoutNulls es) := by
  simp only [reaches_table_withoutNulls_iff hv]
  constructor
  · rintro ⟨_, ⟨es, hreaches, rfl⟩, hleft⟩
    exact ⟨es, hreaches, hleft⟩
  · rintro ⟨es, hreaches, hleft⟩
    exact ⟨_, ⟨es, hreaches, rfl⟩, hleft⟩

/-- What is left of a value is the value without the nulls that can be reached. -/
lemma purges_withoutNulls (hv : v.isNull = false) : Purges v v.withoutNulls where
  kept _ _ := reaches_withoutNulls_of_not_table hv
  tables path := by simpa only [and_true] using exists_reaches_table_iff hv path fun _ => True
  nulls _ := not_reaches_null hv
  order path names := by
    rw [exists_reaches_table_iff hv path]
    simp only [keys_entriesWithoutNulls]

/-- **Exactly the nulls that can be reached are removed** from a table, and doing it again changes
nothing.

**Proof sketch.** What is reached is what is left of what was reached before
(`reaches_withoutNulls_iff`). Nothing is taken from what is no table, and from a table only
entries that are null (`keys_entriesWithoutNulls`). -/
theorem purges_entriesWithoutNulls (entries : Entries Value) :
    Purges (.table entries) (.table (entriesWithoutNulls entries)) ∧
      entriesWithoutNulls (entriesWithoutNulls entries) = entriesWithoutNulls entries := by
  have hnull : (Value.table entries).isNull = false := rfl
  exact ⟨purges_withoutNulls hnull, entriesWithoutNulls_entriesWithoutNulls entries⟩

/-- A table that is left with nothing stays, and so do false, zero and a null in an array. -/
example :
    entriesWithoutNulls
        [("a".toList, .null), ("b".toList, .table [("c".toList, .null)]), ("d".toList, .bool false),
          ("e".toList, .array [.null]), ("f".toList, .int 0)] =
      [("b".toList, .table []), ("d".toList, .bool false), ("e".toList, .array [.null]),
        ("f".toList, .int 0)] := rfl

end Shorthand.Value
