import Mathlib.Tactic.Lemma
import Shorthand.Files

set_option autoImplicit false
set_option relaxedAutoImplicit false

/-!
# What was stored is read back

A file that could be stored once can be stored again, and then holds the bytes that were stored
last. The difficulty is in the names: a name may lead through directories that the first store
made, and back out of them through double points. But every place on the way is a directory, and a
file is never put in the place of a directory, so that a name leads to the same place before and
after.

## Main definitions

* `Shorthand.Files.Leads` — parts of a name lead from one place to another.

## Main results

* `Shorthand.Files.Leads.mono`, `Shorthand.Files.node?_put_file` — they still do after a file was
  put somewhere.
* `Shorthand.Files.leads_of_makeDirectories`, `Shorthand.Files.makeDirectories_of_leads` —
  directories can be made for a name exactly when the name then leads to a directory.
* `Shorthand.Files.exists_store_file` — what a store that succeeds has done.
* `Shorthand.Files.store_file_again` — it succeeds again, and the bytes are there.
-/

namespace Shorthand.Files

variable {fs after : Files} {p : Path} {place there : Place} {parts : List Text}

/-! ## Parts that lead somewhere -/

/-- Parts of a name lead from one place to another. -/
def Leads (fs : Files) (place : Place) (parts : List Text) (there : Place) : Prop :=
  parts.foldlM fs.enter place = .ok there

/-- No parts lead nowhere else. -/
lemma leads_nil : fs.Leads place [] there ↔ place = there := by
  simp [Leads, pure, Except.pure]

/-- The first part is entered, and the others lead on from there. -/
lemma leads_cons {part : Text} :
    fs.Leads place (part :: parts) there ↔
      ∃ next, fs.enter place part = .ok next ∧ fs.Leads next parts there := by
  cases h : fs.enter place part with
  | error f => simp [Leads, h, bind, Except.bind]
  | ok next => simp [Leads, h, bind, Except.bind]

/-- Only a directory can be entered. -/
lemma node?_of_enter {part : Text} (h : fs.enter place part = .ok there) :
    fs.node? place = some .directory := by
  rw [enter] at h
  split at h
  · cases h
  · cases h
  · assumption

/-- Which place a part leads to depends on the directory alone. -/
lemma enter_congr (h : after.node? place = fs.node? place) (part : Text) :
    after.enter place part = fs.enter place part := by
  simp [enter, h]

/-- There is something at every place on the way when there is something at its end. -/
lemma Leads.isSome_node? (h : fs.Leads place parts there) (hn : (fs.node? there).isSome) :
    (fs.node? place).isSome := by
  cases parts with
  | nil => rwa [leads_nil.mp h]
  | cons part parts =>
    obtain ⟨next, he, -⟩ := leads_cons.mp h
    simp [node?_of_enter he]

/-- Parts lead to the same place as long as all directories stay. -/
lemma Leads.mono (h : fs.Leads place parts there)
    (hd : ∀ x, fs.node? x = some .directory → after.node? x = some .directory) :
    after.Leads place parts there := by
  induction parts generalizing place with
  | nil => exact leads_nil.mpr (leads_nil.mp h)
  | cons part parts ih =>
    obtain ⟨next, he, hn⟩ := leads_cons.mp h
    have hp := node?_of_enter he
    exact leads_cons.mpr ⟨next, by rw [enter_congr ((hd place hp).trans hp.symm), he], ih hn⟩

/-- A file that is put where there is no directory leaves all directories. -/
lemma node?_put_file {bytes : List UInt8} (hp : fs.node? place ≠ some .directory) (x : Place)
    (hx : fs.node? x = some .directory) :
    (fs.put place (.file bytes)).node? x = some .directory := by
  rw [node?_put, if_neg (by rintro rfl; exact hp hx), hx]

/-! ## Directories -/

/-- **Directories that were made for a name are there,** and everything that was there before. -/
theorem leads_of_makeDirectories (h : fs.makeDirectories place parts = (after, none)) :
    after.here = fs.here ∧ (∀ x, fs.node? x = some .directory → after.node? x = some .directory) ∧
      ∃ there, after.Leads place parts there ∧ after.node? there = some .directory := by
  induction parts generalizing fs place with
  | nil =>
    rw [makeDirectories] at h
    split at h
    · rename_i hd
      cases h
      exact ⟨rfl, fun _ hx => hx, place, leads_nil.mpr rfl, hd⟩
    · cases h
  | cons part parts ih =>
    rw [makeDirectories] at h
    split at h
    · cases h
    · rename_i next he
      -- Whether the directory was there or is made: all directories stay.
      obtain ⟨made, hmade, hhere, hkeep⟩ : ∃ made : Files,
          (if (fs.node? next).isSome then fs else fs.put next .directory) = made ∧
          made.here = fs.here ∧
          ∀ x, fs.node? x = some .directory → made.node? x = some .directory := by
        refine ⟨_, rfl, ?_, fun x hx => ?_⟩
        · split <;> rfl
        · split
          · exact hx
          · rw [node?_put, hx]
            split <;> rfl
      rw [hmade] at h
      obtain ⟨hh, hk, there, hl, hd⟩ := ih h
      have hp := node?_of_enter he
      have henter : after.enter place part = .ok next :=
        (enter_congr ((hk place (hkeep place hp)).trans hp.symm) part).trans he
      exact ⟨hh.trans hhere, fun x hx => hk x (hkeep x hx), there,
        leads_cons.mpr ⟨next, henter, hl⟩, hd⟩

/-- **Nothing is made for a name that leads to a directory.** -/
theorem makeDirectories_of_leads (h : fs.Leads place parts there)
    (hd : fs.node? there = some .directory) : fs.makeDirectories place parts = (fs, none) := by
  induction parts generalizing place with
  | nil =>
    rw [leads_nil] at h
    simp [makeDirectories, h, hd]
  | cons part parts ih =>
    obtain ⟨next, he, hn⟩ := leads_cons.mp h
    have hs : (fs.node? next).isSome := hn.isSome_node? (by simp [hd])
    rw [makeDirectories, he]
    simp only [hs, if_true]
    exact ih hn

/-! ## Files -/

/-- A name leads to a place when it is not too long and its parts lead there. -/
lemma walk_eq_ok : fs.walk p = .ok place ↔
    Text.byteLength p.toText ≤ maxPathBytes ∧ fs.Leads (fs.start p) p.parts place := by
  rw [walk]
  split
  · rename_i hlong
    simp [Nat.not_le.mpr hlong]
  · rename_i hshort
    simp [Nat.not_lt.mp hshort, Leads]

/-- A file is written wherever no directory stands. -/
lemma write_eq_ok {bytes : List UInt8} : fs.write p bytes = .ok after ↔
    ∃ place, fs.walk p = .ok place ∧ fs.node? place ≠ some .directory ∧
      fs.put place (.file bytes) = after := by
  simp only [write, bind, Except.bind, pure, Except.pure, throw, throwThe, MonadExceptOf.throw]
  cases fs.walk p with
  | error f => simp
  | ok place => cases hn : fs.node? place with
    | none => simp [hn]
    | some node => cases node <;> simp [hn]

/-- The directory of a name is made when it is not too long and the directories are made. -/
lemma makeParent_eq_none : fs.makeParent p = (after, none) ↔
    Text.byteLength p.parent.toText ≤ maxPathBytes ∧
      fs.makeDirectories (fs.start p) p.parent.parts = (after, none) := by
  rw [makeParent]
  split
  · rename_i hlong
    simp [Nat.not_le.mpr hlong]
  · rename_i hshort
    simp [Nat.not_lt.mp hshort]

/-- A file is stored once the directory of its name is made and the file is written. -/
lemma store_file_eq_none {bytes : List UInt8} : fs.store p (.file bytes) = (after, none) ↔
    ∃ made, fs.makeParent p = (made, none) ∧ made.write p bytes = .ok after := by
  rw [store]
  obtain ⟨made, _ | fault⟩ := fs.makeParent p
  · cases hw : made.write p bytes <;> simp [hw]
  · simp

/-- A name that is short enough, whose directory is there, and where no directory stands: a file
can be stored there. -/
structure Storable (fs : Files) (p : Path) (place : Place) : Prop where
  parent_short : Text.byteLength p.parent.toText ≤ maxPathBytes
  parent : ∃ there, fs.Leads (fs.start p) p.parent.parts there ∧ fs.node? there = some .directory
  walk : fs.walk p = .ok place
  free : fs.node? place ≠ some .directory

/-- What can be stored is stored, and nothing else changes. -/
lemma Storable.store (h : fs.Storable p place) (bytes : List UInt8) :
    fs.store p (.file bytes) = (fs.put place (.file bytes), none) := by
  obtain ⟨there, hl, hd⟩ := h.parent
  exact store_file_eq_none.mpr ⟨fs,
    makeParent_eq_none.mpr ⟨h.parent_short, makeDirectories_of_leads hl hd⟩,
    write_eq_ok.mpr ⟨place, h.walk, h.free, rfl⟩⟩

/-- A name stays one where a file can be stored after a file was put there. -/
lemma Storable.put (h : fs.Storable p place) (bytes : List UInt8) :
    (fs.put place (.file bytes)).Storable p place where
  parent_short := h.parent_short
  parent :=
    let ⟨there, hl, hd⟩ := h.parent
    ⟨there, hl.mono (node?_put_file h.free), node?_put_file h.free there hd⟩
  walk :=
    let ⟨hshort, hl⟩ := walk_eq_ok.mp h.walk
    walk_eq_ok.mpr ⟨hshort, hl.mono (node?_put_file h.free)⟩
  free := by simp [node?_put]

/-- What is put at a name is found there. -/
lemma Storable.find_put (h : fs.Storable p place) (bytes : List UInt8) :
    (fs.put place (.file bytes)).find p = .ok (.file bytes) := by
  simp [find, (h.put bytes).walk, node?_put, bind, Except.bind, pure, Except.pure]

/-- **A store that succeeds has made the directories and put the file there.** -/
theorem exists_store_file {bytes : List UInt8} (h : fs.store p (.file bytes) = (after, none)) :
    ∃ made place, Storable made p place ∧ after = put made place (.file bytes) := by
  obtain ⟨made, hm, hw⟩ := store_file_eq_none.mp h
  obtain ⟨hshort, hd⟩ := makeParent_eq_none.mp hm
  obtain ⟨place, hwalk, hfree, rfl⟩ := write_eq_ok.mp hw
  obtain ⟨hhere, -, there, hl, hthere⟩ := leads_of_makeDirectories hd
  have hstart : made.start p = fs.start p := by simp [start, hhere]
  exact ⟨made, place, ⟨hshort, ⟨there, by rwa [hstart], hthere⟩, hwalk, hfree⟩, rfl⟩

/-- **What could be stored once can be stored again, and is read back.** -/
theorem store_file_again {first : List UInt8} (h : fs.store p (.file first) = (after, none))
    (bytes : List UInt8) : ∃ last, after.store p (.file bytes) = (last, none) ∧
      last.exists? p = .ok true ∧ last.read p = .ok bytes := by
  obtain ⟨made, place, hs, rfl⟩ := exists_store_file h
  have hagain := hs.put first
  have hfind := hagain.find_put bytes
  exact ⟨_, hagain.store bytes, by simp [exists?, hfind],
    by simp [read, hfind, bind, Except.bind, pure, Except.pure]⟩

end Shorthand.Files
