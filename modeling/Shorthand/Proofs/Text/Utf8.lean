import Mathlib.Tactic.Lemma
import Shorthand.Text.Utf8

set_option autoImplicit false
set_option relaxedAutoImplicit false

/-!
# Texts survive their bytes

The bytes of a text are those of the string with the same code points, taken out of an array one
after the other. Put back into an array they are well-formed, for they were those of a string, and
no code point is written in two ways.

## Main results

* `Shorthand.Text.decode?_encode` — a text is read back from its bytes.
-/

namespace Shorthand.Text

/-- The bytes that are still to be taken out of an array follow those that were taken out before. -/
lemma byteArray_toList_loop (b : ByteArray) (i : Nat) (taken : List UInt8) :
    ByteArray.toList.loop b i taken = taken.reverse ++ b.data.toList.drop i := by
  fun_induction ByteArray.toList.loop b i taken with
  | case1 i taken hi ih =>
    have hlt : i < b.data.toList.length := by simpa using hi
    have hget : b.get! i = b.data.toList[i] := getElem!_pos b.data i (by simpa using hi)
    rw [ih, hget, List.reverse_cons, List.append_assoc, List.singleton_append,
      ← List.drop_eq_getElem_cons hlt]
  | case2 i taken hi =>
    rw [List.drop_eq_nil_of_le (by simpa using hi), List.append_nil]

/-- The bytes of an array, one after the other. -/
lemma byteArray_toList (b : ByteArray) : b.toList = b.data.toList := by
  rw [ByteArray.toList, byteArray_toList_loop]
  rfl

/-- **A text is read back from its bytes.** -/
theorem decode?_encode (s : Text) : decode? (encode s) = some s := by
  have hbytes : (⟨(encode s).toArray⟩ : ByteArray) = (String.ofList s).toByteArray := by
    rw [encode, byteArray_toList]
    rfl
  rw [decode?, hbytes, String.fromUTF8?, dif_pos (String.ofList s).isValidUTF8]
  exact congrArg some String.toList_ofList

end Shorthand.Text
