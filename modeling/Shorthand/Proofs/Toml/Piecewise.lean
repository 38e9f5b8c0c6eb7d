import Mathlib.Data.List.TakeWhile
import Shorthand.Toml.Piecewise

set_option autoImplicit false
set_option relaxedAutoImplicit false

/-!
# The pieces of a document make up the document

Written piece by piece, a document comes out whole if no number in it has too many digits. Otherwise
the start of it comes out.

## Main results

* `Shorthand.Toml.text_pieces` — the pieces of a document are the document.
* `Shorthand.Toml.isTooLong_pieces` — a piece fails just if a number in the document has too many
  digits.
* `Shorthand.Toml.writeUntil_eq` — without such a number all of the document is written.
* `Shorthand.Toml.writeUntil_isPrefix` — in any case the start of it is.
-/

namespace Shorthand

/-! ## Numbers with too many digits -/

/-- An array cannot be shown if one of its items cannot. -/
lemma Value.itemsAreTooLong_eq_any (items : List Value) :
    itemsAreTooLong items = items.any isTooLong := by
  induction items with
  | nil => rfl
  | cons v rest ih => rw [itemsAreTooLong, List.any_cons, ih]

/-- A table cannot be shown if the value of one of its entries cannot. -/
lemma Value.entriesAreTooLong_eq_any (entries : Entries Value) :
    entriesAreTooLong entries = entries.any fun e => e.2.isTooLong := by
  induction entries with
  | nil => rfl
  | cons e rest ih => rw [entriesAreTooLong, List.any_cons, ih]

namespace Toml

/-- It is only left open how an array is to be written if it cannot be written at all. -/
lemma isTooLong_of_isUnsettled {v : Value} (h : isUnsettled v = true) : v.isTooLong = true := by
  cases v with
  | array items =>
    rw [isUnsettled, Bool.and_eq_true] at h
    obtain ⟨item, hfound, hlong⟩ := (Option.any_eq_true _ _).mp h.2
    rw [Value.isTooLong, Value.itemsAreTooLong_eq_any]
    exact List.any_eq_true.mpr ⟨item, List.mem_of_find?_eq_some hfound, hlong⟩
  | _ => cases h

/-- Only tables have headers in an array that is not plain. -/
lemma forall_table_of_not_isPlain {items : List Value} (h : isPlain (.array items) = false) :
    ∀ v ∈ items, ∃ entries, v = .table entries := by
  have htables : isTableArray (.array items) = true := by
    rw [isPlain, Bool.not_eq_false', Bool.and_eq_true] at h
    exact h.1
  cases items with
  | nil => cases htables
  | cons v rest =>
    intro w hw
    have hw' := List.all_eq_true.mp htables w hw
    cases w with
    | table entries => exact ⟨entries, rfl⟩
    | _ => cases hw'

/-! ## The text of the pieces -/

/-- The text of pieces. -/
def joined (ps : List Piece) : Text := ps.flatMap (·.text)

/-- Pieces side by side make texts side by side. -/
lemma joined_append (ps qs : List Piece) : joined (ps ++ qs) = joined ps ++ joined qs :=
  List.flatMap_append

/-- The empty line before a table. -/
lemma joined_gap (after : Bool) : joined (gap after) = if after then ['\n'] else [] := by
  cases after <;> rfl

/-- The plain entries of a table. -/
lemma joined_plainPieces (entries : Entries Value) :
    joined (plainPieces entries) = writePlain entries := by
  rw [joined, plainPieces, List.flatMap_map, writePlain]

mutual

/-- The pieces of a table are what is written of it. -/
theorem joined_tablePieces (name : Text) (inArray : Bool) (entries : List (Text × Value)) :
    joined (tablePieces name inArray entries) = writeTable name inArray entries := by
  have hsubtables := joined_subtablePieces name
    (!(tableHeader name inArray entries ++ writePlain entries).isEmpty) entries
  rw [tablePieces, writeTable]
  simp only [List.cons_append]
  rw [joined, List.flatMap_cons, List.flatMap_cons, ← joined, joined_append, joined_plainPieces,
    hsubtables]
  simp

/-- So are those of its subtables. -/
theorem joined_subtablePieces (name : Text) (after : Bool) : ∀ entries : List (Text × Value),
    joined (subtablePieces name after entries) = writeSubtables name after entries
  | [] => by simp only [subtablePieces, writeSubtables, joined, List.flatMap_nil]
  | (key, .table entries) :: rest => by
    rw [subtablePieces, writeSubtables, joined_append, joined_append, joined_gap,
      joined_tablePieces, joined_subtablePieces name true rest]
  | (key, .array items) :: rest => by
    rw [subtablePieces, writeSubtables]
    split
    · exact joined_subtablePieces name after rest
    · rw [joined_append, joined_itemPieces, joined_subtablePieces name true rest]
  | (_, .null) :: rest | (_, .bool _) :: rest | (_, .int _) :: rest | (_, .float _) :: rest
  | (_, .text _) :: rest | (_, .moment _) :: rest => by
    simpa only [subtablePieces, writeSubtables] using joined_subtablePieces name after rest

/-- So are those of the tables of an array. -/
theorem joined_itemPieces (name : Text) (after : Bool) : ∀ items : List Value,
    joined (itemPieces name after items) = writeTableItems name after items
  | [] => by simp only [itemPieces, writeTableItems, joined, List.flatMap_nil]
  | .table entries :: rest => by
    rw [itemPieces, writeTableItems, joined_append, joined_append, joined_gap, joined_tablePieces,
      joined_itemPieces name true rest]
  | .null :: rest | .bool _ :: rest | .int _ :: rest | .float _ :: rest | .text _ :: rest
  | .moment _ :: rest | .array _ :: rest => by
    simpa only [itemPieces, writeTableItems] using joined_itemPieces name after rest

end

/-- **The pieces of a document are the document.** -/
theorem text_pieces (entries : Entries Value) : joined (pieces entries) = write entries :=
  joined_tablePieces [] false entries

/-! ## Pieces that fail -/

/-- The plain entries of a table fail just if one of them has a number with too many digits. -/
lemma isTooLong_plainPieces (entries : Entries Value) :
    (plainPieces entries).any (·.isTooLong) =
      (entries.filter fun e => isPlain e.2).any fun e => e.2.isTooLong := by
  rw [plainPieces, List.any_map]
  rfl

/-- The empty line has no number. -/
lemma isTooLong_gap (after : Bool) : (gap after).any (·.isTooLong) = false := by
  cases after <;> rfl

/-- An entry that is not plain has a number with too many digits, or one of the rest has. -/
lemma any_filter_cons_of_not_isPlain {key : Text} {v : Value} (h : isPlain v = false)
    (rest : Entries Value) :
    (((key, v) :: rest).filter fun e => !isPlain e.2).any (fun e => e.2.isTooLong) =
      (v.isTooLong || (rest.filter fun e => !isPlain e.2).any fun e => e.2.isTooLong) := by
  simp [h]

/-- A plain entry is left out. -/
lemma any_filter_cons_of_isPlain {key : Text} {v : Value} (h : isPlain v = true)
    (rest : Entries Value) :
    (((key, v) :: rest).filter fun e => !isPlain e.2).any (fun e => e.2.isTooLong) =
      (rest.filter fun e => !isPlain e.2).any fun e => e.2.isTooLong := by
  simp [h]

/-- Whether any entry has a number with too many digits can be asked of the plain ones, of the
others, and of those of which it is left open how they are to be written. -/
lemma any_isUnsettled_or_plain_or_rest (entries : Entries Value) :
    ((entries.any fun e => isUnsettled e.2) ||
      ((entries.filter fun e => isPlain e.2).any fun e => e.2.isTooLong) ||
        (entries.filter fun e => !isPlain e.2).any fun e => e.2.isTooLong) =
      entries.any fun e => e.2.isTooLong := by
  rw [Bool.eq_iff_iff]
  simp only [Bool.or_eq_true, List.any_eq_true, List.mem_filter, Bool.not_eq_true']
  constructor
  · rintro ((⟨e, he, h⟩ | ⟨e, ⟨he, -⟩, h⟩) | ⟨e, ⟨he, -⟩, h⟩)
    · exact ⟨e, he, isTooLong_of_isUnsettled h⟩
    · exact ⟨e, he, h⟩
    · exact ⟨e, he, h⟩
  · rintro ⟨e, he, h⟩
    cases hplain : isPlain e.2 with
    | true => exact .inl (.inr ⟨e, ⟨he, hplain⟩, h⟩)
    | false => exact .inr ⟨e, ⟨he, hplain⟩, h⟩

mutual

/-- A piece of a table fails just if a number in the table has too many digits. -/
theorem isTooLong_tablePieces (name : Text) (inArray : Bool) (entries : List (Text × Value)) :
    (tablePieces name inArray entries).any (·.isTooLong) = Value.entriesAreTooLong entries := by
  have hsubtables := isTooLong_subtablePieces name
    (!(tableHeader name inArray entries ++ writePlain entries).isEmpty) entries
  rw [tablePieces, Value.entriesAreTooLong_eq_any, ← any_isUnsettled_or_plain_or_rest]
  simp only [List.cons_append, List.any_cons, List.any_append, isTooLong_plainPieces, hsubtables,
    Bool.false_or, Bool.or_assoc]

/-- So does one of its subtables. -/
theorem isTooLong_subtablePieces (name : Text) (after : Bool) : ∀ entries : List (Text × Value),
    (subtablePieces name after entries).any (·.isTooLong) =
      (entries.filter fun e => !isPlain e.2).any fun e => e.2.isTooLong
  | [] => by simp only [subtablePieces, List.filter_nil, List.any_nil]
  | (key, .table entries) :: rest => by
    rw [any_filter_cons_of_not_isPlain rfl, subtablePieces]
    rw [List.any_append, List.any_append, isTooLong_gap, Bool.false_or, isTooLong_tablePieces,
      isTooLong_subtablePieces name true rest, Value.isTooLong]
  | (key, .array items) :: rest => by
    rw [subtablePieces]
    split
    · rename_i hplain
      rw [any_filter_cons_of_isPlain hplain, isTooLong_subtablePieces name after rest]
    · rename_i hplain
      rw [Bool.not_eq_true] at hplain
      rw [any_filter_cons_of_not_isPlain hplain, List.any_append,
        isTooLong_itemPieces _ _ items (forall_table_of_not_isPlain hplain),
        isTooLong_subtablePieces name true rest, Value.isTooLong]
  | (_, .null) :: rest | (_, .bool _) :: rest | (_, .int _) :: rest | (_, .float _) :: rest
  | (_, .text _) :: rest | (_, .moment _) :: rest => by
    rw [any_filter_cons_of_isPlain rfl]
    simpa only [subtablePieces] using isTooLong_subtablePieces name after rest

/-- So does one of the tables of an array. -/
theorem isTooLong_itemPieces (name : Text) (after : Bool) : ∀ items : List Value,
    (∀ v ∈ items, ∃ entries, v = .table entries) →
      (itemPieces name after items).any (·.isTooLong) = Value.itemsAreTooLong items
  | [], _ => by simp only [itemPieces, List.any_nil, Value.itemsAreTooLong]
  | .table entries :: rest, h => by
    have hrest := isTooLong_itemPieces name true rest fun v hv => h v (List.mem_cons_of_mem _ hv)
    rw [itemPieces, List.any_append, List.any_append, isTooLong_gap, Bool.false_or,
      isTooLong_tablePieces, hrest, Value.itemsAreTooLong, Value.isTooLong]
  | .null :: rest, h | .bool _ :: rest, h | .int _ :: rest, h | .float _ :: rest, h
  | .text _ :: rest, h | .moment _ :: rest, h | .array _ :: rest, h => by
    obtain ⟨entries, hentries⟩ := h _ List.mem_cons_self
    cases hentries

end

/-- **A piece fails** just if a number in the document has too many digits. -/
theorem isTooLong_pieces (entries : Entries Value) :
    (pieces entries).any (·.isTooLong) = Value.entriesAreTooLong entries :=
  isTooLong_tablePieces [] false entries

/-! ## What is written -/

/-- All of a document is written just if no number in it has too many digits. -/
lemma writeUntil_snd (entries : Entries Value) :
    (writeUntil entries).2 = !Value.entriesAreTooLong entries := by
  rw [← isTooLong_pieces, List.not_any_eq_all_not]
  rfl

/-- **Without a number with too many digits all of the document is written.** -/
theorem writeUntil_eq {entries : Entries Value} (h : Value.entriesAreTooLong entries = false) :
    writeUntil entries = (write entries, true) := by
  have hall : (pieces entries).all (!·.isTooLong) = true := by
    have hwhole := writeUntil_snd entries
    rw [h] at hwhole
    exact hwhole
  rw [writeUntil, hall, List.takeWhile_eq_self_iff.mpr (List.all_eq_true.mp hall), ← joined,
    text_pieces]

/-- **In any case the start of the document is written.** -/
theorem writeUntil_isPrefix (entries : Entries Value) :
    (writeUntil entries).1 <+: write entries := by
  obtain ⟨rest, hrest⟩ :=
    List.takeWhile_prefix (fun p : Piece => !p.isTooLong) (l := pieces entries)
  refine ⟨joined rest, ?_⟩
  rw [← text_pieces, ← hrest, joined_append]
  rfl

end Toml

end Shorthand
