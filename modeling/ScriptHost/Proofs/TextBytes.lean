import Mathlib.Tactic.Lemma
import ScriptHost.Measure.Fingerprint

/-!
# The bytes of a text

The bytes that a text is written with determine the text, and each of the first 128 characters is
written with one byte.
-/

namespace ScriptHost

namespace Measure

/-- Listing bytes from a place on adds them to those listed before. -/
lemma toList_loop (bs : ByteArray) (i : Nat) (r : List UInt8) :
    ByteArray.toList.loop bs i r = r.reverse ++ bs.data.toList.drop i := by
  fun_induction ByteArray.toList.loop bs i r with
  | case1 i r h ih =>
    have hi : i < bs.data.toList.length := by simpa using h
    have hget : bs.get! i = bs.data.toList.get ⟨i, hi⟩ := getElem!_pos bs.data i (by simpa using h)
    rw [ih, List.drop_eq_getElem_cons hi, hget]
    simp
  | case2 i r h =>
    have hi : bs.data.toList.length ≤ i := by simpa using h
    simp [List.drop_eq_nil_of_le hi]

/-- The bytes of a text are those it is stored in. -/
lemma utf8_eq (s : String) : utf8 s = s.toByteArray.data.toList := by
  rw [utf8, ByteArray.toList, String.toUTF8_eq_toByteArray, toList_loop]
  simp

/-- The bytes of two texts in a row follow each other. -/
lemma utf8_append (s t : String) : utf8 (s ++ t) = utf8 s ++ utf8 t := by
  simp [utf8_eq, String.toByteArray_append]

/-- Different texts are written with different bytes. -/
lemma utf8_inj {s t : String} : utf8 s = utf8 t ↔ s = t := by
  rw [utf8_eq, utf8_eq, Array.toList_inj, ← String.toByteArray_inj, ByteArray.ext_iff]

/-- A text is written character by character. -/
lemma utf8_ofList (cs : List Char) :
    utf8 (String.ofList cs) = cs.flatMap String.utf8EncodeChar := by
  rw [utf8_eq, String.toByteArray_ofList, List.utf8Encode, List.toList_data_toByteArray]

/-- A plain character is one byte. -/
lemma utf8EncodeChar_of_lt {c : Char} (h : c.toNat < 128) :
    String.utf8EncodeChar c = [c.toNat.toUInt8] := by
  have hle : c.val.toNat ≤ 127 := Nat.le_of_lt_succ h
  rw [String.utf8EncodeChar]
  exact if_pos hle

end Measure

end ScriptHost
