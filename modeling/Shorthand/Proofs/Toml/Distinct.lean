import Mathlib.Data.List.Basic
import Shorthand.Proofs.Entries.Definitions
import Shorthand.Toml.Read

set_option autoImplicit false
set_option relaxedAutoImplicit false

/-!
# Distinct names

A document that defines a name twice has no value. So in the table that a document is read as, and
in every table in it, no name stands twice, however the tables came about: by headers, by dotted
keys or as inline values.

## Main definitions

* `Shorthand.Value.Distinct` — no table in a value has a name twice.

## Main results

* `Shorthand.Toml.distinct_within` — a change at a path keeps names distinct if it does so where
  it is made.
* `Shorthand.Toml.distinct_read` — the table of a document has distinct names.
-/

namespace Shorthand

open Toml.Tree (isInline)

/-- No table in a value has a name twice. -/
inductive Value.Distinct : Value → Prop
  | table {es : Entries Value} : (Entries.keys es).Nodup → (∀ e ∈ es, Distinct e.2) →
      Distinct (.table es)
  | array {items : List Value} : (∀ v ∈ items, Distinct v) → Distinct (.array items)
  | scalar {v : Value} : isInline v = false → Distinct v

/-- What is found stands in the table. -/
lemma Entries.mem_of_find?_eq_some {β : Type} {es : Entries β} {name : Text} {v : β}
    (h : find? es name = some v) : (name, v) ∈ es := by
  induction es with
  | nil => exact nomatch h
  | cons e rest ih =>
    obtain ⟨key, w⟩ := e
    rw [find?] at h
    split_ifs at h with hkey
    · obtain rfl := Option.some.inj h
      exact hkey ▸ List.mem_cons_self
    · exact List.mem_cons_of_mem _ (ih h)

namespace Value

variable {es : Entries Value} {items : List Value} {name : Text} {v : Value}

/-- An empty table has no name twice. -/
lemma distinct_table_nil : Distinct (.table []) := .table List.nodup_nil (List.forall_mem_nil _)

/-- The names of a table. -/
lemma Distinct.nodup (h : Distinct (.table es)) : (Entries.keys es).Nodup := by
  cases h with
  | table hnodup _ => exact hnodup
  | scalar h => exact nomatch h

/-- The values of a table. -/
lemma Distinct.of_find? (h : Distinct (.table es)) (hv : Entries.find? es name = some v) :
    v.Distinct := by
  cases h with
  | table _ hvalues => exact hvalues _ (Entries.mem_of_find?_eq_some hv)
  | scalar h => exact nomatch h

/-- The items of an array. -/
lemma Distinct.of_mem (h : Distinct (.array items)) (hv : v ∈ items) : v.Distinct := by
  cases h with
  | array hitems => exact hitems v hv
  | scalar h => exact nomatch h

/-- A definition. -/
lemma Distinct.insert (h : Distinct (.table es)) (name : Text) (hv : v.Distinct) :
    Distinct (.table (Entries.insert es name v)) := by
  cases h with
  | table hnodup hvalues =>
    refine .table (Entries.nodup_keys_insert hnodup name v) fun e he => ?_
    rcases Entries.eq_or_mem_of_mem_insert he with rfl | he
    · exact hv
    · exact hvalues e he
  | scalar h => exact nomatch h

/-- Another last item, or one more. -/
lemma Distinct.concat {front : List Value} (h : ∀ w ∈ front, w.Distinct) (hv : v.Distinct) :
    Distinct (.array (front ++ [v])) :=
  .array (List.forall_mem_append.mpr ⟨h, List.forall_mem_singleton.mpr hv⟩)

end Value

namespace Toml

open Value

variable {t t' : Tree} {es es' : Entries Value} {name : Text} {v : Value} {s rest : Text}

/-! ## Tables under construction -/

/-- **A change at a path** keeps names distinct if it does so where it is made. -/
theorem distinct_within {throughArrays : Bool} {f : Entries Value → Option (Entries Value)}
    (hf : ∀ es es', Distinct (.table es) → f es = some es' → Distinct (.table es')) {path : Key}
    (hes : Distinct (.table es)) (h : within throughArrays f path es = some es') :
    Distinct (.table es') := by
  induction path generalizing es es' with
  | nil => exact hf es es' hes h
  | cons k path ih =>
    rw [within] at h
    split at h
    · obtain ⟨sub, hsub, rfl⟩ := Option.map_eq_some_iff.mp h
      exact hes.insert k (ih distinct_table_nil hsub)
    · rename_i sub hfind
      obtain ⟨sub', hsub, rfl⟩ := Option.map_eq_some_iff.mp h
      exact hes.insert k (ih (hes.of_find? hfind) hsub)
    · rename_i items hfind
      have hitems := hes.of_find? hfind
      split at h
      · rename_i sub hlast
        obtain ⟨sub', hsub, rfl⟩ := Option.map_eq_some_iff.mp h
        have hmem := List.mem_of_getLast? hlast
        exact hes.insert k
          (.concat (fun w hw => hitems.of_mem ((List.dropLast_sublist items).subset hw))
          (ih (hitems.of_mem hmem) hsub))
      · exact nomatch h
    · exact nomatch h

/-- A new definition. -/
lemma distinct_define (hv : v.Distinct) (hes : Distinct (.table es))
    (h : Tree.define name v es = some es') :
    Distinct (.table es') := by
  rw [Tree.define] at h
  split_ifs at h
  obtain rfl := Option.some.inj h
  exact hes.insert name hv

/-- One more empty table in an array. -/
lemma distinct_appendItem (hes : Distinct (.table es)) (h : Tree.appendItem name es = some es') :
    Distinct (.table es') := by
  rw [Tree.appendItem] at h
  split at h
  · obtain rfl := Option.some.inj h
    exact hes.insert name (.array (List.forall_mem_singleton.mpr distinct_table_nil))
  · rename_i items hfind
    obtain rfl := Option.some.inj h
    exact hes.insert name (.concat (fun w hw => (hes.of_find? hfind).of_mem hw) distinct_table_nil)
  · exact nomatch h

/-- The tables so far have distinct names. -/
def Tree.Distinct (t : Tree) : Prop := Value.Distinct (.table t.root)

/-- A table header. -/
lemma Tree.Distinct.openTable (ht : t.Distinct) {k : Key} (h : t.openTable k = some t') :
    t'.Distinct := by
  rw [Tree.openTable] at h
  split_ifs at h
  obtain ⟨root, hroot, rfl⟩ := Option.map_eq_some_iff.mp h
  refine distinct_within (fun es es' hes h => ?_) ht hroot
  obtain rfl := Option.some.inj h
  exact hes

/-- An array-of-tables header. -/
lemma Tree.Distinct.openItem (ht : t.Distinct) {k : Key} (h : t.openItem k = some t') :
    t'.Distinct := by
  rw [Tree.openItem] at h
  split at h
  · exact nomatch h
  · split_ifs at h
    obtain ⟨root, hroot, rfl⟩ := Option.map_eq_some_iff.mp h
    exact distinct_within (fun _ _ => distinct_appendItem) ht hroot

/-- A key with its value. -/
lemma Tree.Distinct.assign (ht : t.Distinct) {k : Key} (hv : v.Distinct)
    (h : t.assign k v = some t') :
    t'.Distinct := by
  rw [Tree.assign] at h
  split at h
  · exact nomatch h
  · dsimp only at h
    split at h
    · exact nomatch h
    · obtain ⟨root, hroot, rfl⟩ := Option.map_eq_some_iff.mp h
      exact distinct_within (fun _ _ => distinct_define hv) ht hroot

/-! ## Values -/

/-- A decimal number is neither an array nor a table. -/
lemma isInline_decimalNumber (h : decimalNumber s = some (v, rest)) : isInline v = false := by
  unfold decimalNumber at h
  obtain ⟨_, -, h⟩ := Option.bind_eq_some_iff.mp h
  dsimp only at h
  split_ifs at h
  all_goals
    obtain ⟨rfl, -⟩ := Prod.mk.inj (Option.some.inj h)
    rfl

/-- Nor is any other number. -/
lemma isInline_number (h : number s = some (v, rest)) : isInline v = false := by
  unfold number at h
  split at h
  · cases h
    rfl
  · split at h
    · rename_i p hdecimal
      obtain rfl := Option.some.inj h
      exact isInline_decimalNumber hdecimal
    · obtain ⟨_, -, heq⟩ := Option.map_eq_some_iff.mp h
      cases heq
      rfl

/-- Nor is any other scalar. -/
lemma isInline_scalar (h : scalar s = some (v, rest)) : isInline v = false := by
  have hof {α β : Type} {o : Option α} {f : α → Value × β} {r : β}
      (hf : ∀ a, isInline (f a).1 = false)
        (h : o.map f = some (v, r)) : isInline v = false := by
    obtain ⟨a, -, heq⟩ := Option.map_eq_some_iff.mp h
    rw [← hf a, heq]
  unfold scalar at h
  split at h
  · exact hof (fun _ => rfl) h
  · exact hof (fun _ => rfl) h
  · split_ifs at h
    · cases h
      rfl
    · cases h
      rfl
    · split at h
      · exact hof (fun _ => rfl) h
      · split at h
        · cases h
          rfl
        · exact isInline_number h

/-- What is read with a number of characters left has distinct names: a value, the items of an
array, and the members of an inline table that are read into others. -/
structure ReadsDistinct (fuel : ℕ) : Prop where
  value : ∀ {weight s v rest}, value weight fuel s = some (v, rest) → v.Distinct
  items : ∀ {weight s vs rest}, items weight fuel s = some (vs, rest) → ∀ v ∈ vs, v.Distinct
  members : ∀ {weight sealedKeys s rest} {es es' : Entries Value}, Distinct (.table es) →
    members weight fuel sealedKeys es s = some (es', rest) → Distinct (.table es')

/-- A value, with one more character left. -/
lemma ReadsDistinct.value_succ {fuel : ℕ} (ih : ReadsDistinct fuel) {weight : ℕ}
    (h : Toml.value weight (fuel + 1) s = some (v, rest)) : v.Distinct := by
  unfold Toml.value at h
  split at h
  · split_ifs at h
    obtain ⟨_, -, h⟩ := Option.bind_eq_some_iff.mp h
    split at h
    · cases h
      exact .array (List.forall_mem_nil _)
    · obtain ⟨_, hitems, heq⟩ := Option.map_eq_some_iff.mp h
      cases heq
      exact .array (ih.items hitems)
  · split_ifs at h
    split at h
    · cases h
      exact distinct_table_nil
    · obtain ⟨_, hmembers, heq⟩ := Option.map_eq_some_iff.mp h
      cases heq
      exact ih.members distinct_table_nil hmembers
  · exact .scalar (isInline_scalar h)

/-- The items of an array, with one more character left. -/
lemma ReadsDistinct.items_succ {fuel : ℕ} (ih : ReadsDistinct fuel) {weight : ℕ} {vs : List Value}
    (h : Toml.items weight (fuel + 1) s = some (vs, rest)) : ∀ v ∈ vs, v.Distinct := by
  rw [Toml.items] at h
  obtain ⟨⟨v, r⟩, hv, h⟩ := Option.bind_eq_some_iff.mp h
  obtain ⟨_, -, h⟩ := Option.bind_eq_some_iff.mp h
  have hsingle : ∀ w ∈ [v], w.Distinct := List.forall_mem_singleton.mpr (ih.value hv)
  split at h
  · cases h
    exact hsingle
  · obtain ⟨_, -, h⟩ := Option.bind_eq_some_iff.mp h
    split at h
    · cases h
      exact hsingle
    · obtain ⟨⟨ws, _⟩, hws, heq⟩ := Option.bind_eq_some_iff.mp h
      cases heq
      exact List.forall_mem_cons.mpr ⟨ih.value hv, ih.items hws⟩
  · exact nomatch h

/-- The members of an inline table, with one more character left. -/
lemma ReadsDistinct.members_succ {fuel : ℕ} (ih : ReadsDistinct fuel) {weight : ℕ}
    {sealedKeys : List Key} (hes : Distinct (.table es))
    (h : Toml.members weight (fuel + 1) sealedKeys es s = some (es', rest)) :
    Distinct (.table es') := by
  rw [Toml.members] at h
  obtain ⟨_, -, h⟩ := Option.bind_eq_some_iff.mp h
  obtain ⟨_, -, h⟩ := Option.bind_eq_some_iff.mp h
  obtain ⟨⟨v, _⟩, hv, h⟩ := Option.bind_eq_some_iff.mp h
  dsimp only at h
  split at h
  · exact nomatch h
  · obtain ⟨name, -, h⟩ := Option.bind_eq_some_iff.mp h
    obtain ⟨more, hmore, h⟩ := Option.bind_eq_some_iff.mp h
    have hdistinct : Distinct (.table more) :=
      distinct_within (fun _ _ => distinct_define (ih.value hv)) hes hmore
    split at h
    · cases h
      exact hdistinct
    · exact ih.members hdistinct h
    · exact nomatch h

/-- **Values and the parts of inline values have distinct names,** by induction on the characters
that are left. -/
theorem readsDistinct (fuel : ℕ) : ReadsDistinct fuel := by
  induction fuel with
  | zero => exact ⟨nofun, nofun, fun _ => nofun⟩
  | succ fuel ih => exact ⟨ih.value_succ, ih.items_succ, ih.members_succ⟩

/-! ## Lines -/

/-- A header. -/
lemma Tree.Distinct.headerLine (ht : t.Distinct) (h : headerLine t s = some (t', rest)) :
    t'.Distinct := by
  have hclosed : t.closePending.Distinct := ht
  unfold Toml.headerLine at h
  split at h
  · obtain ⟨_, -, h⟩ := Option.bind_eq_some_iff.mp h
    obtain ⟨opened, hopened, h⟩ := Option.bind_eq_some_iff.mp h
    obtain ⟨_, -, h⟩ := Option.bind_eq_some_iff.mp h
    obtain ⟨_, -, h⟩ := Option.bind_eq_some_iff.mp h
    cases h
    exact hclosed.openItem hopened
  · obtain ⟨_, -, h⟩ := Option.bind_eq_some_iff.mp h
    obtain ⟨opened, hopened, h⟩ := Option.bind_eq_some_iff.mp h
    obtain ⟨_, -, h⟩ := Option.bind_eq_some_iff.mp h
    cases h
    exact hclosed.openTable hopened
  · exact nomatch h

/-- A key with its value. -/
lemma Tree.Distinct.pairLine (ht : t.Distinct) (h : pairLine t s = some (t', rest)) :
    t'.Distinct := by
  rw [Toml.pairLine] at h
  obtain ⟨_, -, h⟩ := Option.bind_eq_some_iff.mp h
  obtain ⟨_, -, h⟩ := Option.bind_eq_some_iff.mp h
  obtain ⟨⟨v, _⟩, hv, h⟩ := Option.bind_eq_some_iff.mp h
  obtain ⟨assigned, hassigned, h⟩ := Option.bind_eq_some_iff.mp h
  cases h
  exact ht.assign ((readsDistinct _).value hv) hassigned

/-- Whatever stands on a line. -/
lemma Tree.Distinct.statement (ht : t.Distinct) (h : statement t s = some (t', rest)) :
    t'.Distinct := by
  unfold Toml.statement at h
  split at h
  · cases h
    exact ht
  · split_ifs at h
    · cases h
      exact ht
    · obtain ⟨_, hheader, heq⟩ := Option.map_eq_some_iff.mp h
      cases heq
      exact ht.headerLine hheader
    · obtain ⟨_, hpair, heq⟩ := Option.map_eq_some_iff.mp h
      cases heq
      exact ht.pairLine hpair

/-- Lines one after the other. -/
lemma Tree.Distinct.readLines {fuel : ℕ} (ht : t.Distinct) (h : readLines fuel t s = some t') :
    t'.Distinct := by
  induction fuel generalizing t s with
  | zero => exact nomatch h
  | succ fuel ih =>
    rw [Toml.readLines] at h
    obtain ⟨⟨next, _⟩, hnext, h⟩ := Option.bind_eq_some_iff.mp h
    have hdistinct : next.Distinct := ht.statement hnext
    obtain ⟨_, -, h⟩ := Option.bind_eq_some_iff.mp h
    split at h
    · cases h
      exact hdistinct
    · exact ih hdistinct h
    · exact nomatch h

/-- **The table of a document has distinct names,** and so has every table in it.

**Proof sketch.** A line keeps the names of the tables so far distinct, for it defines a name only
where that is new (`distinct_within`, `distinct_define`); and so does a member of an inline table
(`readsDistinct`). -/
theorem distinct_read {file : Entries Value} (h : read s = some file) : Distinct (.table file) := by
  obtain ⟨t, ht, rfl⟩ := Option.map_eq_some_iff.mp h
  have hempty : Tree.Distinct {} := distinct_table_nil
  exact hempty.readLines ht

end Toml

end Shorthand
