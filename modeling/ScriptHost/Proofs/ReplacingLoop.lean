import ScriptHost.Proofs.FirstOccurrence

/-!
# Replacing turn by turn

Occurrences are replaced without regard to case by walking along the text. One turn of the walk
writes the new text where the small form of the text goes on with what is looked for, as long as the
count allows it, and otherwise one character; the walk ends when its place is beyond the text. Each
turn gets ahead if what is looked for is not empty. An empty text is found at the start as often as
the count allows, so with a count that never runs out the walk has no end: no result is ever there,
and memory is used up. In all other cases the walk ends and has written the result.
-/

namespace ScriptHost

open Number Text

/-- The whole numbers less than a number are those less than its ceiling. -/
lemma Number.Binary.compareInt_gt_iff (b : Binary) (k : Int) :
    b.compareInt k = .gt ↔ k < b.ceil := by
  have hpos : (0 : Int) < b.fraction.2 := by
    unfold Binary.fraction scale
    split
    · exact Int.one_pos
    · exact Int.natCast_pos.2 (Nat.mul_pos Nat.one_pos (Nat.two_pow_pos _))
  have hgt : b.compareInt k = .gt ↔ k * b.fraction.2 < b.signed b.fraction.1 := compare_gt_iff_gt
  have hceil : b.ceil = -(Int.fdiv (-(b.signed b.fraction.1)) b.fraction.2) := rfl
  have hquotient := @Int.ediv_lt_iff_lt_mul (-b.signed b.fraction.1) (-k) _ hpos
  rw [Int.neg_mul] at hquotient
  rw [hgt, hceil, Int.fdiv_eq_ediv_of_nonneg _ (Int.le_of_lt hpos)]
  omega

namespace TextFunction

/-! ### Counts -/

/-- Whether one more occurrence may be replaced: always if the count is minus one, otherwise while
the count is greater than the number of those replaced so far. -/
def mayReplace (count : Value) (replaced : Nat) : Except Fault Bool :=
  if count.same (.int (-1)) then .ok true else (Value.int replaced).compareWith .lt count

/-- Values that can be counts: any number, and what is equal to minus one. -/
def IsCount (count : Value) : Prop :=
  count.same (.int (-1)) = true ∨ count.number?.isSome = true

/-- Counts that never run out: infinity, and what is equal to minus one. -/
def Boundless (count : Value) : Prop :=
  count.same (.int (-1)) = true ∨ ∃ x, count = .float x ∧ parts x = .infinite false

/-- The limit that a count sets, if it sets one. -/
def limitOf (count : Value) : Except Fault (Option Int) :=
  if count.same (.int (-1)) then .ok none else countLimit count

/-- Whether a number of replacements is below a limit. -/
def within (limit : Option Int) (replaced : Nat) : Bool :=
  limit.all fun n => (replaced : Int) < n

lemma compareWith_lt_float (k : Int) (x : Float) :
    (Value.int k).compareWith .lt (.float x) = .ok ((Num.int k).order? (.float x) == some .lt) := by
  simp only [Value.compareWith, Value.number?]
  cases (Num.int k).order? (.float x) with
  | none => rfl
  | some o => cases o <;> rfl

/-- Comparing the number of replacements with the count is comparing it with the limit. -/
lemma mayReplace_eq (count : Value) (k : Nat) :
    mayReplace count k = (limitOf count).map (within · k) := by
  unfold mayReplace limitOf
  split
  · rfl
  · cases count with
    | bool b => exact compareWith_lt_int k (if b then 1 else 0)
    | int n => exact compareWith_lt_int k n
    | float x =>
      rw [compareWith_lt_float]
      simp only [Num.order?, countLimit, Value.number?]
      cases parts x with
      | finite b =>
        change Except.ok (some (b.compareInt k).swap == some .lt) =
          Except.ok (decide ((k : Int) < b.ceil))
        rw [Except.ok.injEq, Bool.eq_iff_iff, beq_iff_eq, Option.some_inj, Ordering.swap_eq_lt,
          b.compareInt_gt_iff, decide_eq_true_iff]
      | infinite negative => cases negative <;> rfl
      | notANumber => rfl
    | _ => rfl

lemma limitOf_eq_none_iff {count : Value} : limitOf count = .ok none ↔ Boundless count := by
  unfold limitOf Boundless
  split
  · next hone => simp [hone]
  · next hone =>
    rw [or_iff_right hone]
    cases count with
    | float x =>
      simp only [countLimit, Value.number?]
      cases hparts : parts x with
      | infinite negative => cases negative <;> simp [hparts]
      | _ => simp [hparts]
    | _ => simp [countLimit, Value.number?]

lemma exists_limitOf_iff {count : Value} : (∃ limit, limitOf count = .ok limit) ↔
    IsCount count := by
  unfold limitOf IsCount
  split
  · next hone => simp [hone]
  · next hone =>
    rw [or_iff_right hone]
    cases count with
    | float x =>
      simp only [countLimit, Value.number?]
      cases parts x <;> simp
    | _ => simp [countLimit, Value.number?]

/-! ### The walk -/

/-- What is replaced: the occurrences of an old text by a new one, as many as a count allows. -/
structure Replacing where
  text : List Char
  old : List Char
  new : List Char
  count : Value

/-- Where a walk stands: its place in the text, how many occurrences have been replaced, and what
has been written. -/
structure Walk where
  place : Nat := 0
  replaced : Nat := 0
  written : List Char := []

namespace Replacing

/-- Whether the small form of the text goes on with that of the old text. -/
def found (p : Replacing) (place : Nat) : Bool :=
  ((lower p.text).drop place).take (lower p.old).length == lower p.old

/-- One turn of the walk, at a place inside the text. -/
def turn (p : Replacing) (s : Walk) : Except Fault Walk := do
  if (← mayReplace p.count s.replaced) && p.found s.place then
    return ⟨s.place + (lower p.old).length, s.replaced + 1, s.written ++ p.new⟩
  else return ⟨s.place + 1, s.replaced, s.written ++ (p.text.drop s.place).take 1⟩

/-- The walk gets from one state to another in so many turns, each of them at a place inside the
text. -/
inductive Reaches (p : Replacing) : Nat → Walk → Walk → Prop
  | refl (s : Walk) : Reaches p 0 s s
  | step {k : Nat} {s t u : Walk} (hinside : s.place < p.text.length) (hturn : p.turn s = .ok t)
      (hrest : Reaches p k t u) : Reaches p (k + 1) s u

/-- The walk ends in a state after so many turns. -/
structure EndsAfter (p : Replacing) (k : Nat) (s : Walk) : Prop where
  reached : p.Reaches k {} s
  outside : p.text.length ≤ s.place

/-- After any number of turns the walk is still inside the text. -/
def Endless (p : Replacing) : Prop :=
  ∀ k, ∃ s, p.Reaches k {} s ∧ s.place < p.text.length

variable {p : Replacing} {s t u : Walk} {j k : Nat} {limit : Option Int}

lemma Reaches.trans (hst : p.Reaches j s t) (htu : p.Reaches k t u) : p.Reaches (j + k) s u := by
  induction hst with
  | refl s => rwa [Nat.zero_add]
  | step hinside hturn _ ih =>
    rw [Nat.add_right_comm]
    exact .step hinside hturn (ih htu)

/-- There is one way to walk, so what is reached later is reached from what is reached before. -/
lemma Reaches.of_add (hst : p.Reaches j s t) (hsu : p.Reaches (j + k) s u) : p.Reaches k t u := by
  induction hst with
  | refl s => rwa [Nat.zero_add] at hsu
  | step hinside hturn _ ih =>
    rw [Nat.add_right_comm] at hsu
    cases hsu with
    | step _ hturn' hrest =>
      obtain rfl := Except.ok.inj (hturn.symm.trans hturn')
      exact ih hrest

lemma Reaches.eq_of_outside (h : p.Reaches k s t) (hs : p.text.length ≤ s.place) :
    k = 0 ∧ s = t := by
  cases h with
  | refl => exact ⟨rfl, rfl⟩
  | step hinside => omega

lemma EndsAfter.unique (hj : p.EndsAfter j s) (hk : p.EndsAfter k t) : j = k ∧ s = t := by
  wlog hle : j ≤ k generalizing j k s t
  · obtain ⟨hkj, hts⟩ := this hk hj (by omega)
    exact ⟨hkj.symm, hts.symm⟩
  obtain ⟨i, rfl⟩ := Nat.exists_eq_add_of_le hle
  obtain ⟨rfl, hst⟩ := (hj.reached.of_add hk.reached).eq_of_outside hj.outside
  exact ⟨rfl, hst⟩

lemma EndsAfter.not_endless (h : p.EndsAfter k s) : ¬ p.Endless := by
  intro hendless
  obtain ⟨t, ht, -⟩ := hendless (k + 1)
  obtain ⟨hone, -⟩ := (h.reached.of_add ht).eq_of_outside h.outside
  exact absurd hone Nat.one_ne_zero

lemma EndsAfter.turn_ne_error (h : p.EndsAfter k s) (htext : p.text ≠ []) (fault : Fault) :
    p.turn {} ≠ .error fault := by
  intro hturn
  cases h.reached with
  | refl => exact htext (List.length_eq_zero_iff.1 (Nat.le_zero.1 h.outside))
  | step _ hturn' => cases hturn.symm.trans hturn'

/-! ### One turn -/

lemma found_iff {place : Nat} : p.found place = true ↔ lower p.old <+:
    (lower p.text).drop place := by
  rw [found, beq_iff_eq, List.prefix_iff_eq_take, eq_comm]

lemma turn_eq_map (p : Replacing) (s : Walk) :
    p.turn s = (limitOf p.count).map fun limit =>
      if within limit s.replaced && p.found s.place then
        ⟨s.place + (lower p.old).length, s.replaced + 1, s.written ++ p.new⟩
      else ⟨s.place + 1, s.replaced, s.written ++ (p.text.drop s.place).take 1⟩ := by
  rw [turn, mayReplace_eq]
  cases limitOf p.count with
  | error fault => rfl
  | ok limit =>
    simp only [Except.map, ok_bind]
    split <;> rfl

lemma turn_of_found (hlimit : limitOf p.count = .ok limit)
    (hwithin : within limit s.replaced = true) (hfound : p.found s.place = true) :
    p.turn s = .ok ⟨s.place + (lower p.old).length, s.replaced + 1, s.written ++ p.new⟩ := by
  rw [turn_eq_map, hlimit, Except.map, if_pos (by rw [hwithin, hfound, Bool.and_self])]

lemma turn_of_not_found (hlimit : limitOf p.count = .ok limit)
    (h : ¬ (within limit s.replaced && p.found s.place) = true) :
    p.turn s = .ok ⟨s.place + 1, s.replaced, s.written ++ (p.text.drop s.place).take 1⟩ := by
  rw [turn_eq_map, hlimit, Except.map, if_neg h]

/-! ### All turns -/

/-- How many more occurrences may be replaced. -/
def remaining (limit : Option Int) (replaced : Nat) : Option Nat :=
  limit.map fun n => n.toNat - replaced

lemma remaining_ne_zero_iff {replaced : Nat} :
    remaining limit replaced ≠ some 0 ↔ within limit replaced = true := by
  cases limit with
  | none => simp [remaining, within]
  | some n =>
    simp only [remaining, within, Option.map_some, Ne, Option.some_inj, Option.all_some,
      decide_eq_true_iff]
    omega

lemma remaining_succ (limit : Option Int) (replaced : Nat) :
    remaining limit (replaced + 1) = (remaining limit replaced).map (· - 1) := by
  cases limit <;> rfl

/-- The walk ends from any state in which every turn gets ahead, and it writes what `replaceInStep`
has for the rest of the text. -/
theorem exists_end (hlimit : limitOf p.count = .ok limit) (s : Walk)
    (hahead : lower p.old ≠ [] ∨ remaining limit s.replaced = some 0) :
    ∃ k t, p.Reaches k s t ∧ p.text.length ≤ t.place ∧ k ≤ p.text.length - s.place ∧
      t.written = s.written ++ replaceInStep (lower p.old) p.new (remaining limit s.replaced)
        (p.text.drop s.place)
        ((lower p.text).drop s.place) := by
  induction hn : p.text.length - s.place using Nat.strong_induction_on generalizing s with
  | _ n ih =>
    by_cases hinside : s.place < p.text.length
    · obtain ⟨c, cs, hcs⟩ : ∃ c cs, p.text.drop s.place = c :: cs :=
        List.exists_cons_of_ne_nil (by simpa using hinside)
      by_cases hfound : (within limit s.replaced && p.found s.place) = true
      · rw [Bool.and_eq_true] at hfound
        have hleft := remaining_ne_zero_iff.2 hfound.1
        have hold := hahead.resolve_right hleft
        have hpos := List.length_pos_iff.2 hold
        obtain ⟨k, t, hreaches, hend, hk, hwritten⟩ := ih _ (by dsimp only; omega)
          ⟨s.place + (lower p.old).length, s.replaced + 1, s.written ++ p.new⟩ (.inl hold) rfl
        refine ⟨k + 1, t, .step hinside (turn_of_found hlimit hfound.1 hfound.2) hreaches, hend, ?_,
          ?_⟩
        · dsimp only at hk
          omega
        · rw [hwritten, hcs, replaceInStep, if_pos (replaces_iff.2 ⟨hleft, found_iff.1 hfound.2⟩),
            remaining_succ,
            List.append_assoc, ← drop_length_cons hold c cs, ← hcs, List.drop_drop, List.drop_drop]
      · obtain ⟨k, t, hreaches, hend, hk, hwritten⟩ := ih _ (by dsimp only; omega)
          ⟨s.place + 1, s.replaced, s.written ++ (p.text.drop s.place).take 1⟩ hahead rfl
        refine ⟨k + 1, t, .step hinside (turn_of_not_found hlimit hfound) hreaches, hend, ?_, ?_⟩
        · dsimp only at hk
          omega
        · have hkeeps : ¬ (remaining limit s.replaced != some 0 &&
              ((lower p.text).drop s.place).take (lower p.old).length == lower p.old) = true := by
            rwa [replaces_iff, remaining_ne_zero_iff, ← found_iff, ← Bool.and_eq_true]
          have hrest : p.text.drop (s.place + 1) = cs := by
            rw [← List.drop_drop, hcs]
            rfl
          rw [hwritten, hrest, hcs, replaceInStep, if_neg hkeeps, List.append_assoc, List.drop_drop]
          rfl
    · refine ⟨0, s, .refl s, by omega, Nat.zero_le _, ?_⟩
      rw [List.drop_eq_nil_of_le (by omega), replaceInStep_nil, List.append_nil]

/-- An empty text is found at the start again and again. -/
lemma reaches_of_old_eq_nil (hlimit : limitOf p.count = .ok limit) (hold : p.old = [])
    (htext : p.text ≠ []) (k : Nat) (hwithin : ∀ j < k, within limit j = true) :
      p.Reaches k {} ⟨0, k, (List.replicate k p.new).flatten⟩ := by
  induction k with
  | zero => exact .refl _
  | succ k ih =>
    have hlow : lower p.old = [] := lower_eq_nil_iff.2 hold
    have hturn := turn_of_found (s := ⟨0, k, (List.replicate k p.new).flatten⟩) hlimit
      (hwithin k (Nat.lt_succ_self k))
      (found_iff.2 (by simp [hlow]))
    rw [hlow] at hturn
    refine (ih fun j hj => hwithin j (Nat.lt_succ_of_lt hj)).trans (.step ?_ hturn ?_)
    · exact List.length_pos_iff.2 htext
    · rw [List.replicate_succ', List.flatten_append, List.flatten_singleton]
      exact .refl _

end Replacing

/-! ### What the function has -/

lemma replaceAnyCase_of_ne_nil {old : List Char} (hold : old ≠ []) (text new : List Char)
    (limit : Option Int) :
    replaceAnyCase text old new limit =
      .ok (replaceInStep (lower old) new (limit.map Int.toNat) text (lower text)) := by
  have hempty : ¬ (lower old).isEmpty = true := by simpa [lower_eq_nil_iff] using hold
  simp only [replaceAnyCase, if_neg hempty]

lemma replaceAnyCase_nil {text : List Char} (htext : text ≠ []) (new : List Char) :
    replaceAnyCase text [] new none = .error .outOfMemory ∧
      ∀ n, replaceAnyCase text [] new (some n) =
        .ok ((List.replicate n.toNat new).flatten ++ text) := by
  obtain ⟨c, cs, rfl⟩ := List.exists_cons_of_ne_nil htext
  exact ⟨rfl, fun _ => rfl⟩

variable {p : Replacing} {e f r : Value}

lemma replaceOf_of_text_ne_nil (he : chars e = .ok p.text) (hf : chars f = .ok p.old)
    (hr : chars r = .ok p.new) (htext : p.text ≠ []) :
    replaceOf e f r p.count (.int 1) =
      limitOf p.count >>= fun limit => (replaceAnyCase p.text p.old p.new limit).map ofChars := by
  have hcase : anyCase (.int 1) = true := rfl
  have hempty : ¬ p.text.isEmpty = true := by simpa using htext
  have hmap (x : Except Fault (List Char)) : (do return ofChars (← x)) = x.map ofChars := by
    cases x <;> rfl
  simp only [replaceOf, he, hf, hr, ok_bind, hcase, if_true, if_neg hempty, limitOf, hmap]
  split <;> rfl

/-- Where the walk has an end, the function has what is written there. -/
theorem exists_endsAfter (he : chars e = .ok p.text) (hf : chars f = .ok p.old)
    (hr : chars r = .ok p.new)
    (hends : p.text = [] ∨ IsCount p.count ∧ (p.old ≠ [] ∨ ¬ Boundless p.count)) :
    ∃ k s, p.EndsAfter k s ∧ (p.old ≠ [] → k ≤ p.text.length) ∧
      replaceOf e f r p.count (.int 1) = .ok (ofChars s.written) := by
  by_cases htext : p.text = []
  · refine ⟨0, {}, ⟨.refl _, by simp [htext]⟩, fun _ => Nat.zero_le _, ?_⟩
    rw [htext] at he
    have hcase : anyCase (.int 1) = true := rfl
    simp only [replaceOf, he, hf, hr, ok_bind, hcase, if_true, List.isEmpty_nil]
    rfl
  obtain ⟨hcount, hahead⟩ := hends.resolve_left htext
  obtain ⟨limit, hlimit⟩ := exists_limitOf_iff.2 hcount
  rw [replaceOf_of_text_ne_nil he hf hr htext, hlimit, ok_bind]
  by_cases hold : p.old = []
  · -- The new text is written as often as the count allows, and then the whole text.
    obtain ⟨n, rfl⟩ : ∃ n, limit = some n := by
      refine Option.ne_none_iff_exists'.1 ?_
      rintro rfl
      exact hahead.resolve_left (not_not.2 hold) (limitOf_eq_none_iff.1 hlimit)
    have hspent : Replacing.remaining (some n) n.toNat = some 0 := by simp [Replacing.remaining]
    have hwithin : ∀ j < n.toNat, within (some n) j = true := by
      intro j hj
      simp only [within, Option.all_some, decide_eq_true_iff]
      omega
    obtain ⟨k, s, hreaches, hend, -, hwritten⟩ :=
      Replacing.exists_end hlimit ⟨0, n.toNat, (List.replicate n.toNat p.new).flatten⟩ (.inr hspent)
    refine ⟨_, s, ⟨(Replacing.reaches_of_old_eq_nil hlimit hold htext _ hwithin).trans hreaches,
      hend⟩,
      fun h => absurd hold h, ?_⟩
    rw [hspent, replaceInStep_zero] at hwritten
    rw [hwritten, hold, (replaceAnyCase_nil htext p.new).2]
    rfl
  · have hlow : lower p.old ≠ [] := mt lower_eq_nil_iff.1 hold
    obtain ⟨k, s, hreaches, hend, hk, hwritten⟩ := Replacing.exists_end hlimit {} (.inl hlow)
    refine ⟨k, s, ⟨hreaches, hend⟩, fun _ => hk, ?_⟩
    rw [hwritten, replaceAnyCase_of_ne_nil hold]
    rfl

lemma endless_of_boundless (he : chars e = .ok p.text) (hf : chars f = .ok p.old)
    (hr : chars r = .ok p.new)
    (htext : p.text ≠ []) (hold : p.old = []) (hcount : Boundless p.count) :
    p.Endless ∧ replaceOf e f r p.count (.int 1) = .error .outOfMemory := by
  have hlimit := limitOf_eq_none_iff.2 hcount
  constructor
  · intro k
    exact ⟨_, Replacing.reaches_of_old_eq_nil hlimit hold htext k fun _ _ => rfl,
      List.length_pos_iff.2 htext⟩
  · rw [replaceOf_of_text_ne_nil he hf hr htext, hlimit, hold, ok_bind,
      (replaceAnyCase_nil htext p.new).1]
    rfl

lemma exists_fault_of_not_isCount (he : chars e = .ok p.text) (hf : chars f = .ok p.old)
    (hr : chars r = .ok p.new) (htext : p.text ≠ []) (hcount : ¬ IsCount p.count) :
    ∃ fault, p.turn {} = .error fault ∧ replaceOf e f r p.count (.int 1) = .error fault := by
  rw [replaceOf_of_text_ne_nil he hf hr htext, Replacing.turn_eq_map]
  cases hlimit : limitOf p.count with
  | ok limit => exact absurd (exists_limitOf_iff.1 ⟨limit, hlimit⟩) hcount
  | error fault => exact ⟨fault, rfl, rfl⟩

end TextFunction

namespace Catalog

open TextFunction

/-- The walk of `Replace` along a text without regard to case ends exactly if the text is empty, or
if the count is one and either what is looked for is not empty or the count runs out. `Replace` has
what was written at the end, and each turn got ahead if what is looked for is not empty. Otherwise
the walk has no end, or its first turn has a fault. -/
theorem replace_ends_iff {replace : Routine} (hreplace : texts.lookup "Replace" = some replace)
    {e f r : Value}
    {p : Replacing} (he : chars e = .ok p.text) (hf : chars f = .ok p.old) (hr : chars r =
      .ok p.new) (w : World) :
    ((∃ k s, p.EndsAfter k s) ↔ p.text = [] ∨ IsCount p.count ∧ (p.old ≠ [] ∨ ¬ Boundless p.count))
      ∧
    (∀ k s, p.EndsAfter k s → (p.old ≠ [] → k ≤ p.text.length) ∧
      (replace.call [e, f, r, .int 1, p.count, .int 1] []).carryOut w =
        (.ok (ofChars s.written), w)) ∧
    (p.text ≠ [] → p.old = [] → Boundless p.count → p.Endless ∧
      (replace.call [e, f, r, .int 1, p.count, .int 1] []).carryOut w = (.error .outOfMemory, w)) ∧
    (p.text ≠ [] → ¬ IsCount p.count → ∃ fault, p.turn {} = .error fault ∧
      (replace.call [e, f, r, .int 1, p.count, .int 1] []).carryOut w = (.error fault, w)) := by
  simp only [carryOut_replace hreplace, Prod.mk.injEq, and_true]
  have hends : (∃ k s, p.EndsAfter k s) ↔ p.text = [] ∨ IsCount p.count ∧
      (p.old ≠ [] ∨ ¬ Boundless p.count) := by
    constructor
    · rintro ⟨k, s, hend⟩
      by_contra hnot
      obtain ⟨htext, hnot⟩ := not_or.1 hnot
      by_cases hcount : IsCount p.count
      · obtain ⟨hold, hbound⟩ := not_or.1 fun h => hnot ⟨hcount, h⟩
        exact hend.not_endless (endless_of_boundless he hf hr htext (not_not.1 hold)
          (not_not.1 hbound)).1
      · obtain ⟨fault, hturn, -⟩ := exists_fault_of_not_isCount he hf hr htext hcount
        exact hend.turn_ne_error htext fault hturn
    · intro h
      obtain ⟨k, s, hend, -⟩ := exists_endsAfter he hf hr h
      exact ⟨k, s, hend⟩
  refine ⟨hends, ?_, ?_, ?_⟩
  · intro k s hend
    obtain ⟨j, t, hend', hj, hresult⟩ := exists_endsAfter he hf hr (hends.1 ⟨k, s, hend⟩)
    obtain ⟨rfl, rfl⟩ := hend.unique hend'
    exact ⟨hj, hresult⟩
  · exact endless_of_boundless he hf hr
  · exact exists_fault_of_not_isCount he hf hr

/-- An empty text that is looked for twice is found twice at the start; then the text is walked
along. -/
theorem replace_ends_iff_nothingTwice : ∃ replace, texts.lookup "Replace" = some replace ∧
    Replacing.EndsAfter ⟨"ab".toList, [], "-".toList, .int 2⟩ 4 ⟨2, 2, "--ab".toList⟩ ∧
    (replace.call [.text "ab", .text "", .text "-", .int 1, .int 2, .int 1] []).carryOut
      Script.firstScene.world =
      (.ok (.text "--ab"), Script.firstScene.world) := by
  obtain ⟨replace, hreplace⟩ : ∃ replace, texts.lookup "Replace" = some replace := ⟨_, rfl⟩
  have hends : Replacing.EndsAfter ⟨"ab".toList, [], "-".toList, .int 2⟩ 4 ⟨2, 2, "--ab".toList⟩ :=
    ⟨.step (by decide) rfl (.step (by decide) rfl
      (.step (by decide) rfl (.step (by decide) rfl (.refl _)))), by decide⟩
  have hresult :=
    ((replace_ends_iff hreplace (e := .text "ab") (f := .text "") (r := .text "-") rfl rfl rfl
    Script.firstScene.world).2.1 _ _ hends).2
  exact ⟨replace, hreplace, hends, hresult⟩

/-- Nothing is looked for, with the count that stands for all occurrences: the walk never leaves the
start. -/
theorem replace_nothing_endless :
    Replacing.Endless ⟨"a".toList, [], "b".toList, .int (-1)⟩ ∧
    (¬ ∃ k s, Replacing.EndsAfter ⟨"a".toList, [], "b".toList, .int (-1)⟩ k s) ∧
    ∃ replace, texts.lookup "Replace" = some replace ∧
      (replace.call [.text "a", .text "", .text "b", .int 1, .int (-1), .int 1] []).carryOut
        Script.firstScene.world =
        (.error .outOfMemory, Script.firstScene.world) := by
  obtain ⟨replace, hreplace⟩ : ∃ replace, texts.lookup "Replace" = some replace := ⟨_, rfl⟩
  obtain ⟨hendless, hresult⟩ := endless_of_boundless (p := ⟨"a".toList, [], "b".toList, .int (-1)⟩)
    (e := .text "a") (f := .text "") (r := .text "b") rfl rfl rfl (by decide) rfl (.inl rfl)
  refine ⟨hendless, ?_, replace, hreplace, ?_⟩
  · rintro ⟨k, s, hend⟩
    exact hend.not_endless hendless
  · rw [carryOut_replace hreplace, hresult]

end Catalog

end ScriptHost
