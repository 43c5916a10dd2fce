import ScriptHost.Proofs.ExactNumbers

/-!
# Equal values

Equality of values goes across their types: true, one, the double one and the complex number one are
equal. What equal values have in common is what they stand for, their essence. Two values are equal
if and only if they have the same essence (`Value.same_iff`), and so equality is symmetric and
transitive on all values, lists and tuples of values included. Not a number has no essence, and a
value is equal to itself unless not a number is in it (`Value.same_self`).
-/

namespace ScriptHost

open ScriptHost.Calendar ScriptHost.Number

/-- What values stand for. -/
inductive Essence where
  | null
  | number (re im : Quantity)
  | text (s : String)
  | bytes (data : List UInt8)
  | moment (m : Moment)
  | date (d : Date)
  | time (t : TimeOfDay)
  | span (s : Span)
  | object (id : Nat)
  | function (origin : Origin)
  | list (items : List Essence)
  | tuple (items : List Essence)

/-- What a number stands for, among all values. -/
def Num.essence? (m : Num) : Option Essence :=
  m.quantity?.map (.number · (.finite 0))

/-- What a complex number stands for. -/
def Number.ComplexNumber.essence? (a : ComplexNumber) : Option Essence := do
  let re ← (Num.float a.re).quantity?
  let im ← (Num.float a.im).quantity?
  return .number re im

namespace Value

mutual

/-- What a value stands for. -/
def essence? : Value → Option Essence
  | null => some .null
  | bool b => (Num.int (if b then 1 else 0)).essence?
  | int n => (Num.int n).essence?
  | float x => (Num.float x).essence?
  | text s => some (.text s)
  | list items => (essences? items).map .list
  | tuple items => (essences? items).map .tuple
  | bytes data => some (.bytes data)
  | moment m => some (.moment m)
  | date d => some (.date d)
  | time t => some (.time t)
  | span s => some (.span s)
  | complex a => a.essence?
  | object _ id => some (.object id)
  | function _ origin => some (.function origin)

/-- What the items of a list stand for. -/
def essences? : List Value → Option (List Essence)
  | [] => some []
  | x :: xs => do
    let e ← x.essence?
    let es ← essences? xs
    return e :: es

end

mutual

/-- Whether a value is not a number or has it as a part. -/
def hasNaN : Value → Bool
  | float x => x.isNaN
  | complex a => a.re.isNaN || a.im.isNaN
  | list items => anyNaN items
  | tuple items => anyNaN items
  | _ => false

/-- Whether not a number is in a list of values. -/
def anyNaN : List Value → Bool
  | [] => false
  | x :: xs => x.hasNaN || anyNaN xs

end

/-! ### Numbers -/

lemma order?_iff_essence? (m n : Num) : (m.order? n == some .eq) = true ↔
    ∃ e, m.essence? = some e ∧ n.essence? = some e := by
  rw [beq_iff_eq, Num.order?_eq_iff]
  constructor
  · rintro ⟨e, hm, hn⟩
    exact ⟨_, by rw [Num.essence?, hm]; rfl, by rw [Num.essence?, hn]; rfl⟩
  · rintro ⟨e, hm, hn⟩
    obtain ⟨x, hx, rfl⟩ := Option.map_eq_some_iff.1 hm
    obtain ⟨y, hy, hxy⟩ := Option.map_eq_some_iff.1 hn
    cases hxy
    exact ⟨x, hx, hy⟩

lemma complexSame_iff (a b : ComplexNumber) :
    a.same b = true ↔ ∃ e, a.essence? = some e ∧ b.essence? = some e := by
  have hpart (x y : Float) : (x == y) = true ↔
      ∃ e, (Num.float x).quantity? = some e ∧ (Num.float y).quantity? = some e :=
        Num.beq_iff_quantity? x y
  rw [ComplexNumber.same, Bool.and_eq_true, hpart, hpart]
  simp only [ComplexNumber.essence?, Option.bind_eq_bind, Option.bind_eq_some_iff, Option.pure_def,
    Option.some.injEq]
  constructor
  · rintro ⟨⟨re, ha, hb⟩, im, ha', hb'⟩
    exact ⟨_, ⟨re, ha, im, ha', rfl⟩, re, hb, im, hb', rfl⟩
  · rintro ⟨e, ⟨re, ha, im, ha', rfl⟩, re', hb, im', hb', he⟩
    cases he
    exact ⟨⟨re, ha, hb⟩, im, ha', hb'⟩

lemma essence?_ofFloat (x : Float) :
    (ComplexNumber.ofFloat x).essence? = (Num.float x).essence? := by
  have hzero : (Num.float 0.0).quantity? = some (.finite 0) :=
    congrArg _ (congrArg _ (Binary.value_eq_zero rfl))
  rw [ComplexNumber.ofFloat, ComplexNumber.essence?, Num.essence?, hzero]
  cases (Num.float x).quantity? <;> rfl

lemma complex?_bool (b : Bool) : (bool b).complex? = (int (if b then 1 else 0)).complex? := rfl

/-- The complex number that a value counts as stands for what the value does. -/
lemma essence?_of_complex? {v : Value} {c : ComplexNumber} (h : v.complex? = some c) :
    c.essence? = v.essence? := by
  have hwhole {n : Int} (h : (int n).complex? = some c) : c.essence? = (Num.int n).essence? := by
    simp only [complex?, number?] at h
    split at h
    · next x hx =>
      split at h
      · next heq =>
        cases h
        obtain ⟨e, hxe, hne⟩ := (order?_iff_essence? _ _).1 heq
        rw [essence?_ofFloat, hxe, hne]
      · cases h
    · cases h
  cases v with
  | complex a =>
    cases h
    rfl
  | float x =>
    cases h
    exact essence?_ofFloat x
  | int n => exact hwhole h
  | bool b => exact hwhole (complex?_bool b ▸ h)
  | _ => cases h

/-- A value that stands for a complex number counts as one. -/
lemma exists_complex? {v : Value} {a : ComplexNumber} {e : Essence} (ha : a.essence? = some e)
    (hv : v.essence? = some e) : ∃ c, v.complex? = some c := by
  obtain ⟨re, hre, im, him, rfl⟩ :
      ∃ re, (Num.float a.re).quantity? = some re ∧ ∃ im, (Num.float a.im).quantity? = some im ∧
        Essence.number re im = e := by
    simpa [ComplexNumber.essence?, Option.bind_eq_some_iff] using ha
  have hwhole {n : Int} (hn : (Num.int n).essence? = some (.number re im)) :
      ∃ c, (int n).complex? = some c := by
    cases hn
    obtain ⟨b, hparts, hb⟩ := Parts.exists_finite hre
    obtain ⟨x, c, hx, hc, hvalue⟩ := ofInt?_of_value (isDouble_of_parts hparts) hb
    have heq : (Num.float x).order? (.int n) = some .eq := by
      rw [Num.order?_eq_iff]
      exact ⟨.finite n, by rw [Num.quantity?, hc, Parts.quantity?, hvalue], rfl⟩
    exact ⟨.ofFloat x, by simp [complex?, number?, hx, heq]⟩
  cases v with
  | complex c => exact ⟨c, rfl⟩
  | float x => exact ⟨.ofFloat x, rfl⟩
  | int n => exact hwhole hv
  | bool b => exact hwhole hv
  | list items => simp [essence?] at hv
  | tuple items => simp [essence?] at hv
  | _ => cases hv

/-- Equality with a complex number. -/
lemma exists_complex?_same_iff (a : ComplexNumber) (v : Value) :
    (∃ c, v.complex? = some c ∧ a.same c = true) ↔
      ∃ e, a.essence? = some e ∧ v.essence? = some e := by
  constructor
  · rintro ⟨c, hc, hsame⟩
    rw [complexSame_iff, essence?_of_complex? hc] at hsame
    exact hsame
  · rintro ⟨e, ha, hv⟩
    obtain ⟨c, hc⟩ := exists_complex? ha hv
    refine ⟨c, hc, ?_⟩
    rw [complexSame_iff, essence?_of_complex? hc]
    exact ⟨e, ha, hv⟩

lemma complex_same_iff (a : ComplexNumber) (v : Value) :
    (complex a).same v = true ↔ ∃ e, a.essence? = some e ∧ v.essence? = some e := by
  rw [← exists_complex?_same_iff, same]
  cases v.complex? <;> simp

lemma same_complex_iff (v : Value) (a : ComplexNumber) :
    v.same (complex a) = true ↔ ∃ e, v.essence? = some e ∧ a.essence? = some e := by
  have hcomm (c : ComplexNumber) : c.same a = true ↔ a.same c = true := by
    rw [complexSame_iff, complexSame_iff]
    simp only [and_comm]
  simp only [and_comm (a := v.essence? = _)]
  rw [← exists_complex?_same_iff]
  cases v with
  | complex b => simp [same, complex?, hcomm]
  | _ =>
    simp only [same]
    split <;> simp_all

/-- Equality with a number that is whole or double. -/
lemma same_iff_of_number? {a : Value} {m : Num} (ha : a.number? = some m) (b : Value) :
    a.same b = true ↔ ∃ e, a.essence? = some e ∧ b.essence? = some e := by
  cases b with
  | complex y => exact same_complex_iff _ y
  | bool y => cases a <;> cases ha <;> exact order?_iff_essence? _ _
  | int n => cases a <;> cases ha <;> exact order?_iff_essence? _ _
  | float y => cases a <;> cases ha <;> exact order?_iff_essence? _ _
  | _ => cases a <;> cases ha <;> simp [same, number?, essence?, Num.essence?]

/-! ### All values -/

lemma exists_some_eq_iff {x y : Essence} : (∃ e, some x = some e ∧ some y = some e) ↔ x = y := by
  constructor
  · rintro ⟨e, hx, hy⟩
    exact Option.some.inj (hx.trans hy.symm)
  · rintro rfl
    exact ⟨x, rfl, rfl⟩

lemma essences?_nil : essences? [] = some [] := rfl

lemma essences?_cons_eq_some {x : Value} {xs : List Value} {es : List Essence} :
    essences? (x :: xs) = some es ↔
      ∃ e rest, x.essence? = some e ∧ essences? xs = some rest ∧ es = e :: rest := by
  simp only [essences?, Option.bind_eq_bind, Option.bind_eq_some_iff, Option.pure_def,
    Option.some.injEq, exists_and_left, eq_comm (a := es)]

mutual

/-- Two values are equal if and only if they stand for the same. -/
theorem same_iff (a b : Value) :
    a.same b = true ↔ ∃ e, a.essence? = some e ∧ b.essence? = some e := by
  cases a with
  | complex x => exact complex_same_iff x b
  | list xs =>
    cases b with
    | complex y => exact same_complex_iff _ y
    | list ys => simp [same, sameItems_iff xs ys, essence?, Option.map_eq_some_iff, and_comm]
    | _ => simp [same, number?, essence?, Num.essence?]
  | tuple xs =>
    cases b with
    | complex y => exact same_complex_iff _ y
    | tuple ys => simp [same, sameItems_iff xs ys, essence?, Option.map_eq_some_iff, and_comm]
    | _ => simp [same, number?, essence?, Num.essence?]
  | bool x => exact same_iff_of_number? rfl b
  | int n => exact same_iff_of_number? rfl b
  | float x => exact same_iff_of_number? rfl b
  | _ =>
    cases b with
    | complex y => exact same_complex_iff _ y
    | _ => simp only [same, number?, essence?, Num.essence?, exists_some_eq_iff] <;> simp

/-- Lists of values are equal if and only if their items stand for the same. -/
theorem sameItems_iff (xs ys : List Value) :
    sameItems xs ys = true ↔ ∃ es, essences? xs = some es ∧ essences? ys = some es := by
  cases xs with
  | nil => cases ys <;> simp [sameItems, essences?_nil, essences?_cons_eq_some]
  | cons x xs =>
    cases ys with
    | nil => simp [sameItems, essences?_nil, essences?_cons_eq_some]
    | cons y ys =>
      rw [sameItems, Bool.and_eq_true, same_iff x y, sameItems_iff xs ys]
      simp only [essences?_cons_eq_some]
      constructor
      · rintro ⟨⟨e, hx, hy⟩, es, hxs, hys⟩
        exact ⟨e :: es, ⟨e, es, hx, hxs, rfl⟩, e, es, hy, hys, rfl⟩
      · rintro ⟨_, ⟨e, es, hx, hxs, rfl⟩, e', es', hy, hys, he⟩
        cases he
        exact ⟨⟨e, hx, hy⟩, es, hxs, hys⟩

end

mutual

/-- A value is equal to itself unless not a number is in it. -/
theorem same_self (v : Value) : v.same v = !v.hasNaN := by
  cases v with
  | list items => rw [same, hasNaN, sameItems_self items]
  | tuple items => rw [same, hasNaN, sameItems_self items]
  | complex a => simp [same, complex?, hasNaN, ComplexNumber.same, Num.beq_self_eq_not_isNaN]
  | float x =>
    rw [hasNaN, ← Num.beq_self_eq_not_isNaN, Bool.eq_iff_iff, Num.beq_iff_quantity?, same_iff]
    simp [essence?, Num.essence?, Num.quantity?]
  | _ => simp [same, number?, Num.order?, hasNaN]

/-- A list of values is equal to itself unless not a number is in it. -/
theorem sameItems_self (vs : List Value) : sameItems vs vs = !anyNaN vs := by
  cases vs with
  | nil => rfl
  | cons v vs => rw [sameItems, anyNaN, same_self v, sameItems_self vs, Bool.not_or]

end

variable {a b c : Value}

/-- Equality is symmetric. -/
theorem same_comm (a b : Value) : a.same b = b.same a := by
  rw [Bool.eq_iff_iff, same_iff, same_iff]
  simp only [and_comm]

/-- Equality is transitive. -/
theorem same_trans (hab : a.same b = true) (hbc : b.same c = true) : a.same c = true := by
  obtain ⟨e, ha, hb⟩ := (same_iff a b).1 hab
  obtain ⟨e', hb', hc⟩ := (same_iff b c).1 hbc
  rw [hb] at hb'
  cases hb'
  exact (same_iff a c).2 ⟨e, ha, hc⟩

/-- Equal values are equal to the same values. -/
lemma same_congr_left (h : a.same b = true) (c : Value) : a.same c = b.same c := by
  rw [Bool.eq_iff_iff]
  exact ⟨fun hac => same_trans (same_comm a b ▸ h) hac, fun hbc => same_trans h hbc⟩

end Value

end ScriptHost
