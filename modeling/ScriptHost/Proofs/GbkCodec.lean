import Mathlib.Tactic.Lemma
import ScriptHost.Text.Charset

/-!
# Writing and reading GBK

What is written in GBK is read back: the characters that the code has come back in their order, and
the others, which writing leaves out, are missing. The code table is only looked up in it, never
gone through: a character is found at the place where it is, whatever the table holds.
-/

namespace ScriptHost.Text

/-! ### Places in the table -/

lemma size_gbkPage : gbkPage.size = 126 := by
  simp [gbkPage]

/-- A line of the table has no more places than there are trail bytes. -/
lemma size_le_of_mem_gbkPage {row : Array Char} (h : row ∈ gbkPage) : row.size ≤ gbkPlaces := by
  simp only [gbkPage, List.mem_toArray, List.mem_map] at h
  obtain ⟨text, _, rfl⟩ := h
  rw [List.size_toArray, List.length_take]
  exact Nat.min_le_left _ _

/-- The trail byte of a place is a byte, and leads back to the place. -/
lemma trailIndex?_trailOfIndex {i : Nat} (h : i < gbkPlaces) :
    trailOfIndex i < 256 ∧ trailIndex? (trailOfIndex i) = some i := by
  unfold gbkPlaces at h
  unfold trailOfIndex
  split
  · refine ⟨by omega, ?_⟩
    rw [trailIndex?, if_pos (by omega)]
    simp
  · refine ⟨by omega, ?_⟩
    rw [trailIndex?, if_neg (by omega), if_pos (by omega)]
    simp

lemma gbkPair?_eq_some {c : Char} {lead trail : UInt8} (h : gbkPair? c = some (lead, trail)) :
    0x80 ≤ c.toNat ∧ ∃ r row i, gbkPage[r]? = some row ∧ row[i]? = some c ∧
      lead = (r + 0x81).toUInt8 ∧ trail = (trailOfIndex i).toUInt8 := by
  unfold gbkPair? at h
  split at h
  · simp at h
  · next hc =>
    refine ⟨by omega, ?_⟩
    split at h
    · simp at h
    · next r hr =>
      split at h
      · simp at h
      · next i hi =>
        obtain ⟨rfl, rfl⟩ := Prod.mk.inj (Option.some.inj h)
        obtain ⟨hlt, _⟩ := Array.findIdx?_eq_some_iff_getElem.1 hr
        rw [Array.getD_eq_getD_getElem?, Array.getElem?_eq_getElem hlt, Option.getD_some] at hi
        obtain ⟨hlt', hfound, _⟩ := Array.findIdx?_eq_some_iff_getElem.1 hi
        refine ⟨r, gbkPage[r], i, Array.getElem?_eq_getElem hlt, ?_, rfl, rfl⟩
        rw [Array.getElem?_eq_getElem hlt']
        simpa using hfound

/-- The bytes of a character by the line and the place where it is found. -/
lemma gbkPair?_of_findIdx? {c : Char} {r i : Nat} (hplain : ¬ c.toNat < 0x80)
    (hrow : (gbkPage.findIdx? fun row => row.contains c) = some r)
    (hplace : ((gbkPage.getD r #[]).findIdx? fun d => d == c) = some i) :
    gbkPair? c = some ((r + 0x81).toUInt8, (trailOfIndex i).toUInt8) := by
  unfold gbkPair?
  rw [if_neg hplain, hrow]
  dsimp only
  rw [hplace]

/-- The bytes of a character lead back to it. -/
theorem gbkChar?_of_gbkPair? {c : Char} {lead trail : UInt8} (h : gbkPair? c = some (lead, trail)) :
    0x80 ≤ lead.toNat ∧ gbkChar? lead trail = some c := by
  obtain ⟨hc, r, row, i, hrow, hplace, rfl, rfl⟩ := gbkPair?_eq_some h
  have hr : r < 126 := by
    rw [← size_gbkPage]
    exact (Array.getElem?_eq_some_iff.1 hrow).1
  have hi : i < gbkPlaces := by
    have hmem : row ∈ gbkPage := Array.mem_of_getElem? hrow
    exact Nat.lt_of_lt_of_le (Array.getElem?_eq_some_iff.1 hplace).1 (size_le_of_mem_gbkPage hmem)
  obtain ⟨hbyte, htrail⟩ := trailIndex?_trailOfIndex hi
  have hlead : ((r + 0x81).toUInt8).toNat = r + 0x81 := Nat.mod_eq_of_lt (by omega)
  have htrail' : ((trailOfIndex i).toUInt8).toNat = trailOfIndex i := Nat.mod_eq_of_lt hbyte
  have hspace : (c == ' ') = false := by
    refine beq_eq_false_iff_ne.2 fun h => ?_
    rw [h] at hc
    exact absurd hc (by decide)
  refine ⟨by omega, ?_⟩
  rw [gbkChar?, hlead, htrail', if_neg (by omega), Nat.add_sub_cancel, hrow, htrail]
  simp [hplace, hspace]

namespace Charset

/-! ### Texts -/

/-- The bytes of a character are read as that character, whatever comes after them. -/
lemma step_charBytes {c : Char} {bytes : List UInt8} (h : gbk.charBytes? c = some bytes)
    (rest : List UInt8) :
    bytes ≠ [] ∧ gbk.step (bytes ++ rest) = .char c bytes.length := by
  rw [charBytes?, pairBytes] at h
  split at h
  · next hplain =>
    obtain rfl := Option.some.inj h
    have hbyte : (c.toNat.toUInt8).toNat = c.toNat := Nat.mod_eq_of_lt (by omega)
    refine ⟨by simp, ?_⟩
    simp only [step, stepPair, List.cons_append, List.nil_append, hbyte, if_pos hplain]
    simp
  · obtain ⟨⟨lead, trail⟩, hpair, rfl⟩ := Option.map_eq_some_iff.1 h
    obtain ⟨hlead, hchar⟩ := gbkChar?_of_gbkPair? hpair
    refine ⟨by simp, ?_⟩
    simp only [step, stepPair, List.cons_append, List.nil_append, if_neg (Nat.not_lt.2 hlead),
      hchar]
    rfl

lemma decodeLossy_charBytes {c : Char} {bytes : List UInt8} (h : gbk.charBytes? c = some bytes)
    (rest : List UInt8) : gbk.decodeLossy (bytes ++ rest) = c :: gbk.decodeLossy rest := by
  obtain ⟨hne, hstep⟩ := step_charBytes h rest
  cases bytes with
  | nil => exact absurd rfl hne
  | cons b bs =>
    rw [List.cons_append] at hstep ⊢
    rw [decodeLossy, hstep]
    simp

/-- A text that was written in GBK is read back without the characters that the code lacks. -/
theorem decodeLossy_encodeLossy (text : List Char) :
    gbk.decodeLossy (gbk.encodeLossy text) = text.filter fun c => (gbk.charBytes? c).isSome := by
  induction text with
  | nil => rw [encodeLossy, List.flatMap_nil, decodeLossy, List.filter_nil]
  | cons c text ih =>
    rw [encodeLossy, List.flatMap_cons, ← encodeLossy]
    cases hc : gbk.charBytes? c with
    | none => simp [hc, ih]
    | some bytes => simp [hc, decodeLossy_charBytes hc, ih]

end Charset

/-! ### Line ends -/

/-- A text without carriage returns has its line ends already. -/
lemma unifyLineEnds_eq_self {cs : List Char} (h : '\r' ∉ cs) : unifyLineEnds cs = cs := by
  induction cs with
  | nil => rfl
  | cons c cs ih =>
    rw [List.mem_cons, not_or] at h
    obtain ⟨hc, hcs⟩ := h
    rw [unifyLineEnds, ih hcs, if_neg (Ne.symm hc)]
    exact fun _ hreturn _ => hc hreturn.symm

end ScriptHost.Text
