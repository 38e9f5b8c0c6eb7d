import Mathlib.Data.Finset.Card
import Shorthand.Proofs.Source.Meaning
import Shorthand.Proofs.Text.Trim

set_option autoImplicit false
set_option relaxedAutoImplicit false

/-!
# Writing a source

A source can be written from definitions: each becomes a record with blanks around it, and the
records are joined by the text between them. Reading undoes writing for definitions that can be
told apart again.

The texts between records and between the parts of a record may be any that are not empty. They
may overlap themselves, so it is not enough that neither occurs in what is written: none may begin
in a record and end behind it.

## Main definitions

* `Shorthand.Source.Written` — a definition as it is written.
* `Shorthand.Source.Written.Readable` — it can be told apart from the texts around it.
* `Shorthand.Source.write` — the source with a list of definitions.

## Main results

* `Shorthand.Source.Written.Readable.saying_piece` — a readable piece says its definition.
* `Shorthand.Source.parse_write` — reading undoes writing.
-/

namespace Shorthand.Source

open Text

/-! ## Definitions as they are written -/

/-- A definition as it is written, with the blanks before and after its record. -/
structure Written where
  before : Text := []
  trigger : Text
  raw : Text
  after : Text := []
  deriving DecidableEq, Repr

namespace Written

/-- The record: a trigger and an expansion, parted by a text. -/
def record (parts : Text) (w : Written) : Text := w.trigger ++ parts ++ w.raw

/-- The record with its blanks. -/
def piece (parts : Text) (w : Written) : Text := w.before ++ w.record parts ++ w.after

/-- What is defined. -/
def definition (w : Written) : Text × Text := (w.trigger, w.raw)

/-- A written definition can be told apart from the texts around it: from its blanks, from the
text between records and from the text that parts it. -/
structure Readable (between parts : Text) (w : Written) : Prop where
  named : w.trigger ≠ []
  blank_before : ∀ c ∈ w.before, isBlank c
  blank_after : ∀ c ∈ w.after, isBlank c
  bare : Bare isBlank (w.record parts)
  parted : FirstAt parts (w.trigger ++ parts) w.trigger.length
  ended : FirstAt between (w.piece parts ++ between) (w.piece parts).length

/-- Looking at the text that is written decides whether it can be read back. -/
instance decidableReadable (between parts : Text) (w : Written) :
    Decidable (w.Readable between parts) :=
  decidable_of_iff
    (w.trigger ≠ [] ∧ w.before.all isBlank ∧ w.after.all isBlank ∧
      Bare isBlank (w.record parts) ∧ FirstAt parts (w.trigger ++ parts) w.trigger.length ∧
      FirstAt between (w.piece parts ++ between) (w.piece parts).length)
    ⟨fun ⟨h₁, h₂, h₃, h₄, h₅, h₆⟩ =>
        ⟨h₁, List.all_eq_true.mp h₂, List.all_eq_true.mp h₃, h₄, h₅, h₆⟩,
      fun h => ⟨h.named, List.all_eq_true.mpr h.blank_before,
        List.all_eq_true.mpr h.blank_after, h.bare, h.parted, h.ended⟩⟩

variable {between parts : Text} {w : Written}

/-- Trimming gives the record back. -/
lemma Readable.trim_piece (h : w.Readable between parts) : trim (w.piece parts) = w.record parts :=
  trimBoth_eq_iff.mpr ⟨h.bare, w.before, w.after, rfl, h.blank_before, h.blank_after⟩

/-- **A readable piece says its definition.** -/
theorem Readable.saying_piece (hp : parts ≠ []) (h : w.Readable between parts) :
    saying parts (trim (w.piece parts)) = some (.defines w.trigger w.raw) := by
  rw [h.trim_piece]
  exact ((Says.defines h.named (h.parted.append w.raw)).eq_saying hp).symm

end Written

variable {between parts : Text} {ws : List Written}

/-! ## Sources of written definitions -/

/-- The source with a list of definitions. -/
def write (between parts : Text) (ws : List Written) : Text :=
  join (Divider.resolved between) (ws.map (·.piece parts))

/-- What the pieces of a written source say. -/
def writtenSayings (ws : List Written) : List (Option Outcome) :=
  if ws = [] then [none] else ws.map fun w => some (.defines w.trigger w.raw)

/-- The pieces of a written source say its definitions. A source without any is one blank piece. -/
lemma sayings_write (hb : between ≠ []) (hp : parts ≠ [])
    (h : ∀ w ∈ ws, w.Readable (Divider.resolved between) parts) :
    ((splitOn (Divider.resolved between) (write between parts ws)).map trim).map (saying parts) =
      writtenSayings ws := by
  rw [writtenSayings]
  split_ifs with hws
  · rw [hws]
    rfl
  · have hended : ∀ p ∈ ws.map (·.piece parts),
        FirstAt (Divider.resolved between) (p ++ Divider.resolved between) p.length := by
      intro p hmem
      obtain ⟨w, hw, rfl⟩ := List.mem_map.mp hmem
      exact (h w hw).ended
    have hsplit := splitOn_join (Divider.resolved_ne_nil hb) (by simpa using hws) hended
    rw [write, hsplit, List.map_map, List.map_map]
    exact List.map_congr_left fun w hw => (h w hw).saying_piece hp

/-- They say nothing but definitions. -/
lemma definitions_writtenSayings (ws : List Written) :
    definitions (writtenSayings ws) = ws.map (·.definition) := by
  rw [writtenSayings]
  split_ifs with hws
  · rw [hws]
    rfl
  · rw [definitions, List.filterMap_map]
    exact congrFun List.filterMap_eq_map' ws

/-- None of them is malformed. -/
lemma rejected_not_mem_writtenSayings (ws : List Written) (reason : Reason) :
    some (.rejected reason) ∉ writtenSayings ws := by
  rw [writtenSayings]
  split_ifs <;> simp

/-- **Reading undoes writing.** Nothing is reported, the table has one entry for each trigger, in
the order of their first definitions, and its expansion is that of its last definition.

**Proof sketch.** The text between records comes first at each joint, so the source splits into
the pieces that it was joined from (`splitOn_join`). Each of these says its definition
(`Written.Readable.saying_piece`), and a reading is what follows from what the pieces say
(`exists_tells`). -/
theorem parse_write (hb : between ≠ []) (hp : parts ≠ [])
    (h : ∀ w ∈ ws, w.Readable (Divider.resolved between) parts) :
    ∃ r, parse (.text between) (.text parts) (write between parts ws) = .ok r ∧
      r.diagnostics = [] ∧
      Entries.keys r.snippets = (ws.map (·.trigger)).eraseDups ∧
      (∀ trigger, Entries.find? r.snippets trigger =
        ((ws.map (·.definition)).reverse.lookup trigger).map Escape.compile) ∧
      r.snippets.length = (ws.map (·.trigger)).toFinset.card := by
  obtain ⟨r, hparse, htells⟩ := exists_tells hb hp (write between parts ws)
  rw [sayings_write hb hp h] at htells
  have hdefinitions := definitions_writtenSayings ws
  have hkeys : Entries.keys r.snippets = (ws.map (·.trigger)).eraseDups := by
    rw [htells.triggers, hdefinitions, List.map_map]
    rfl
  refine ⟨r, hparse, ?_, hkeys, fun trigger => ?_, ?_⟩
  · refine List.eq_nil_iff_forall_not_mem.mpr fun x hx => ?_
    obtain ⟨-, hx⟩ := (htells.diagnosed x).mp hx
    exact rejected_not_mem_writtenSayings ws x.reason (List.mem_of_getElem? hx)
  · rw [htells.expansions, hdefinitions]
  · have hset : (ws.map (·.trigger)).toFinset = (Entries.keys r.snippets).toFinset := by
      ext trigger
      rw [hkeys, List.mem_toFinset, List.mem_toFinset, List.mem_eraseDups]
    rw [hset, List.toFinset_card_of_nodup htells.distinct, Entries.keys, List.length_map]

/-- Texts that overlap themselves, next to their own characters, and a trigger that is defined
again. -/
theorem parse_write_overlapping :
    let ws : List Written :=
      [{ before := [' '], trigger := ['a'], raw := "-1".toList, after := ['\t'] },
        { trigger := "b=c".toList, raw := ['='] },
        { trigger := ['a'], raw := "2==".toList, after := ['\n'] }]
    (∀ w ∈ ws, w.Readable "--".toList "==".toList) ∧
      write "--".toList "==".toList ws = " a==-1\t--b=c===--a==2==\n".toList ∧
      ∃ r, parse (.text "--".toList) (.text "==".toList) (write "--".toList "==".toList ws) =
        .ok r ∧
        r.diagnostics = [] ∧
        Entries.keys r.snippets = [['a'], "b=c".toList] ∧
        Entries.find? r.snippets ['a'] = some (Escape.compile "2==".toList) ∧
        r.snippets.length = 2 := by
  intro ws
  have hb : "--".toList ≠ [] := by decide
  have hp : "==".toList ≠ [] := by decide
  have hws : ∀ w ∈ ws, w.Readable "--".toList "==".toList := by decide
  obtain ⟨r, hparse, hdiagnostics, hkeys, hexpansions, hcount⟩ := parse_write hb hp hws
  exact ⟨hws, by decide, r, hparse, hdiagnostics, hkeys, hexpansions ['a'], hcount⟩

end Shorthand.Source
