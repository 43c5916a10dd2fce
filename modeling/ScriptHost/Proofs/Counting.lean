import ScriptHost.Proofs.Literals

/-!
# Counting loops

A counting loop has no statements in it. All it does is to count, which leaves its variable at the
last value. Both ends are meant to be reached, and counting up they are: the last value is the last
one that does not pass the end. To get there the end is moved up by one, as the value that is not
taken any more. Counting down it would have to be moved down, so that the last two values are
missing (`Count.executeLine_counts`).
-/

namespace ScriptHost.Script

open ScriptHost.Number ScriptHost.Text

/-! ### Counting -/

/-- Whether a counter has not reached `stop`. -/
def Before (stop step n : Int) : Prop :=
  if 0 < step then n < stop else stop < n

/-- Counting from a value on until `stop` is reached, with the last value that was taken so far and
the one in the end. -/
inductive Counts (stop step : Int) : Int → Option Int → Option Int → Prop
  | reached {n : Int} {last : Option Int} : ¬ Before stop step n → Counts stop step n last last
  | next {n : Int} {last result : Option Int} : Before stop step n →
      Counts stop step (n + step) (some n) result → Counts stop step n last result

/-- How many steps can be taken before `stop` is reached; negative if it has been. -/
def stepsBefore (start stop step : Int) : Int :=
  if 0 < step then (stop - start - 1) / step else (start - stop - 1) / -step

section

variable {start stop step : Int}

lemma before_iff (hstep : step ≠ 0) : Before stop step start ↔ 0 ≤ stepsBefore start stop step := by
  unfold Before stepsBefore
  split
  · next hpos =>
    rw [Int.ediv_nonneg_iff_of_pos hpos]
    omega
  · next hneg =>
    rw [Int.ediv_nonneg_iff_of_pos (by omega)]
    omega

/-- One step is one step less. -/
lemma stepsBefore_next (hstep : step ≠ 0) :
    stepsBefore (start + step) stop step = stepsBefore start stop step - 1 := by
  unfold stepsBefore
  split
  · have hless : stop - (start + step) - 1 = stop - start - 1 + -1 * step := by omega
    rw [hless, Int.add_mul_ediv_right _ _ hstep]
    omega
  · have hless : start + step - stop - 1 = start - stop - 1 + -1 * -step := by omega
    rw [hless, Int.add_mul_ediv_right _ _ (by omega)]
    omega

lemma lastCount?_of_before (h : Before stop step start) :
    lastCount? start stop step = some (start + step * stepsBefore start stop step) := by
  unfold Before at h
  unfold lastCount? stepsBefore
  split at h
  · next hpos => rw [if_pos hpos, if_pos h, if_pos hpos]
  · next hneg => rw [if_neg hneg, if_pos h, if_neg hneg]

lemma lastCount?_of_not_before (h : ¬ Before stop step start) :
    lastCount? start stop step = none := by
  unfold Before at h
  unfold lastCount?
  split at h
  · next hpos => rw [if_pos hpos, if_neg h]
  · next hneg => rw [if_neg hneg, if_neg h]

/-- The last value is the one that counting comes to. -/
theorem counts_lastCount? (hstep : step ≠ 0) (last : Option Int) :
    Counts stop step start last ((lastCount? start stop step).or last) := by
  -- The induction is on the steps that are left.
  obtain ⟨k, hk⟩ : ∃ k : Nat, stepsBefore start stop step < k :=
    ⟨(stepsBefore start stop step + 1).toNat, by omega⟩
  induction k generalizing start last with
  | zero =>
    have hreached : ¬ Before stop step start := by
      rw [before_iff hstep]
      omega
    rw [lastCount?_of_not_before hreached]
    exact .reached hreached
  | succ k ih =>
    by_cases hbefore : Before stop step start
    · have hnext : Counts stop step (start + step) (some start)
          ((lastCount? (start + step) stop step).or (some start)) :=
        ih (some start) (by rw [stepsBefore_next hstep]; omega)
      have hsame : (lastCount? (start + step) stop step).or (some start) =
          (lastCount? start stop step).or last := by
        rw [lastCount?_of_before hbefore, Option.some_or]
        by_cases hmore : Before stop step (start + step)
        · rw [lastCount?_of_before hmore, stepsBefore_next hstep, Option.some_or, Int.mul_sub]
          congr 1
          omega
        · rw [lastCount?_of_not_before hmore, Option.none_or]
          rw [before_iff hstep, stepsBefore_next hstep] at hmore
          rw [before_iff hstep] at hbefore
          have hzero : stepsBefore start stop step = 0 := by omega
          rw [hzero, Int.mul_zero, Int.add_zero]
      rw [hsame] at hnext
      exact .next hbefore hnext
    · rw [lastCount?_of_not_before hbefore]
      exact .reached hbefore

/-! ### Both ends -/

/-- The last value that does not pass `stop`, by the number of steps that fit in between. -/
def lastWithin? (start stop step : Int) : Option Int :=
  if 0 ≤ (stop - start).fdiv step then some (start + step * (stop - start).fdiv step) else none

/-- Counting up comes to the last value that does not pass the end, counting down to the last one
that keeps a distance of two. -/
lemma lastCount?_eq (hstep : step ≠ 0) :
    lastCount? start (stop + 1) step =
      lastWithin? start (if 0 < step then stop else stop + 2) step := by
  have hsteps : stepsBefore start (stop + 1) step =
      ((if 0 < step then stop else stop + 2) - start).fdiv step := by
    unfold stepsBefore
    by_cases hpos : 0 < step
    · have hsame : stop + 1 - start - 1 = stop - start := by omega
      rw [if_pos hpos, if_pos hpos, Int.fdiv_eq_ediv_of_nonneg _ (by omega), hsame]
    · have hsame : start - (stop + 1) - 1 = -(stop + 2 - start) := by omega
      rw [if_neg hpos, if_neg hpos, ← Int.neg_fdiv_neg, Int.fdiv_eq_ediv_of_nonneg _ (by omega),
        hsame]
  unfold lastWithin?
  rw [← hsteps]
  by_cases hbefore : Before (stop + 1) step start
  · rw [lastCount?_of_before hbefore, if_pos ((before_iff hstep).1 hbefore)]
  · rw [lastCount?_of_not_before hbefore, if_neg (mt (before_iff hstep).2 hbefore)]

/-- Counting down, the last value that does not pass the end. -/
lemma lastWithin?_of_neg (hneg : step < 0) :
    lastWithin? start stop step =
      if stop ≤ start then some (start + step * ((start - stop) / -step)) else none := by
  have hsteps : (stop - start).fdiv step = (start - stop) / -step := by
    rw [← Int.neg_fdiv_neg, Int.fdiv_eq_ediv_of_nonneg _ (by omega), Int.neg_sub]
  have hfit : 0 ≤ (start - stop) / -step ↔ stop ≤ start := by
    rw [Int.ediv_nonneg_iff_of_pos (by omega)]
    omega
  unfold lastWithin?
  rw [hsteps]
  simp only [hfit]

/-- Values that are two apart have as many steps before them exactly if the larger one is two past
the last step. -/
lemma sub_two_ediv_eq_iff {n k : Int} (hk : 0 < k) : (n - 2) / k = n / k ↔ 2 ≤ n % k := by
  have hle : (n - 2) / k ≤ n / k := Int.ediv_le_ediv hk (by omega)
  have hfit : n / k ≤ (n - 2) / k ↔ n / k * k ≤ n - 2 := Int.le_ediv_iff_mul_le hk
  have hparts := Int.ediv_mul_add_emod n k
  omega

end

/-! ### Loops between literals -/

/-- A loop that counts from one literal to another, perhaps by a third one. -/
structure Count where
  name : List Char
  start : Literal
  stop : Literal
  step? : Option Literal
  name_ne_nil : name ≠ []
  isWord_of_mem : ∀ c ∈ name, isWord c = true
  free : FreeOfConstants name

namespace Count

variable (k : Count)

/-- The step is one if it is not given. -/
def step : Int :=
  (k.step?.map Literal.value).getD 1

def literals : List Literal :=
  [k.start, k.stop] ++ k.step?.toList

/-- The first literal that has too many digits. -/
def tooLong? : Option Literal :=
  k.literals.find? fun l => digitLimit < l.digits.length

/-- What comes after the word before the end. -/
def ending : List Char :=
  k.step?.elim k.stop.text fun l => k.stop.text ++ ' ' :: ("Step".toList ++ ' ' :: l.text)

def line : List Char :=
  "For".toList ++ ' ' :: (k.name ++ ' ' :: (['='] ++ ' ' ::
    (k.start.text ++ ' ' :: ("To".toList ++ ' ' :: k.ending))))

/-- Leaves the variable at the last value, if there is one. -/
def leave (scene : Scene) (last : Option Int) : Scene :=
  last.elim scene fun n => scene.onSession fun s => assign s k.name (.int n)

lemma substitute_ending : substitute k.ending = k.ending := by
  have hstep : substitute "Step".toList = "Step".toList := by decide
  unfold ending
  cases k.step? with
  | none => exact k.stop.isPhrase_text.substitute_eq
  | some l =>
    dsimp only [Option.elim]
    rw [substitute_append_cons (by decide), substitute_append_cons (by decide), hstep,
      k.stop.isPhrase_text.substitute_eq, l.isPhrase_text.substitute_eq]

lemma prepare_line (s : Session) : prepare s k.line = k.line := by
  have hfor : substitute "For".toList = "For".toList := by decide
  have hequals : substitute ['='] = ['='] := by decide
  have hto : substitute "To".toList = "To".toList := by decide
  have hname : substitute k.name = k.name := (substitute_eq_self_iff k.name).2 k.free
  have hline : substitute k.line = k.line := by
    unfold line
    rw [substitute_append_cons (by decide), substitute_append_cons (by decide),
      substitute_append_cons (by decide), substitute_append_cons (by decide),
      substitute_append_cons (by decide), hfor, hname, hequals, hto,
      k.start.isPhrase_text.substitute_eq, k.substitute_ending]
  rw [prepare, hline, ite_self]
  exact withoutLabel_cons (by decide) (by decide) (by decide) _

lemma kindOf_line (d : Dialect) : kindOf d k.line = .loop := by
  have hupper (cs : List Char) : upper ("For ".toList ++ cs) = "FOR ".toList ++ upper cs := by
    rw [upper_append]
    rfl
  have hkind (cs : List Char) : kindByStart openings ("FOR ".toList ++ cs) = some .loop := rfl
  have hline : k.line = "For ".toList ++ k.line.drop 4 := rfl
  rw [hline, kindOf, hupper]
  simp only [hkind]

lemma lastParts_ending (make : List Char → Option (List Char) → Shape.Loop) :
    Shape.lastParts "step" make k.ending = some (make k.stop.text (k.step?.map Literal.text)) := by
  have hname : IsName "step".toList := isName_of_all (by decide) (by decide)
  have hstop : Without "step" k.stop.text := k.stop.without_text hname
  unfold ending
  cases k.step? with
  | none => exact Shape.lastParts_eq_none make (by decide) (by decide) k.stop.isPhrase_text hstop
  | some l =>
    have hword : sameWord "Step".toList "step".toList = true := by decide
    exact Shape.lastParts_eq_some make (by decide) (by decide) hword k.stop.isPhrase_text hstop
      l.isPhrase_text

lemma isBlank_of_head?_ending : ∀ c ∈ k.ending.head?, isBlank c = false := by
  unfold ending
  cases k.step? with
  | none => simpa using k.stop.isPhrase_text.isBlank_of_head? []
  | some l => exact k.stop.isPhrase_text.isBlank_of_head? _

/-- The parts of the loop are found. -/
lemma loop_line :
    Shape.loop k.line =
      some ⟨k.name, k.start.text, k.stop.text, k.step?.map Literal.text⟩ := by
  have hblank : ∀ c ∈ [' '], isBlank c = true := List.forall_mem_singleton.2 (by decide)
  have hfor : sameWord "For".toList "for".toList = true := by decide
  have hto : sameWord "To".toList "to".toList = true := by decide
  have hname : IsName "to".toList := isName_of_all (by decide) (by decide)
  have hfirst (cs : List Char) : ∀ c ∈ (k.name ++ cs).head?, isBlank c = false := by
    intro c hc
    rw [List.head?_append_of_ne_nil _ k.name_ne_nil] at hc
    have hword := k.isWord_of_mem c (List.mem_of_head? hc)
    rw [Bool.eq_false_iff]
    intro hc
    rw [isWord_of_isBlank hc] at hword
    cases hword
  rw [line, Shape.loop, Shape.keyword_append hfor]
  apply Shape.blanks_append hblank le_rfl (hfirst _)
  apply Shape.longest_append k.isWord_of_mem (List.length_pos_of_ne_nil k.name_ne_nil)
  · apply Shape.blanks_append hblank (Nat.zero_le _)
    · rintro c ⟨⟩
      decide
    refine (Shape.char_cons _ _ _).trans ?_
    apply Shape.blanks_append hblank (Nat.zero_le _) (k.start.isPhrase_text.isBlank_of_head? _)
    exact Shape.part_between (by decide) (by decide) hto k.start.isPhrase_text
      (k.start.without_text hname) k.isBlank_of_head?_ending
      (k.lastParts_ending (Shape.Loop.mk k.name k.start.text))
  · -- The name ends at a blank.
    intro x y hxy hx hword
    obtain ⟨c, x, rfl⟩ := List.exists_cons_of_ne_nil hx
    have hc := hword c List.mem_cons_self
    obtain ⟨rfl, -⟩ := List.cons.inj hxy
    cases hc

/-! ### Executing a loop -/

lemma take_wholeValue_text (lib : Library) (l : Literal) (scene : Scene) :
    (wholeValue lib l.text).take scene =
      if digitLimit < l.digits.length then (.error (.numeralTooLong (some l.digits.length)), scene)
      else (.ok l.value, scene) := by
  rw [wholeValue, Step.take_bind, l.evaluate_text]
  by_cases hlong : digitLimit < l.digits.length
  · rw [if_pos hlong, if_pos hlong]
    rfl
  · rw [if_neg hlong, if_neg hlong]
    rfl

/-- Counting leaves the variable at the last value. -/
lemma take_countThrough (start stop : Int) (hstep : k.step ≠ 0) (scene : Scene) :
    (countThrough k.name start stop k.step).take scene =
      (.ok (), k.leave scene (lastCount? start (stop + 1) k.step)) := by
  rw [countThrough, if_neg (by simpa using hstep)]
  cases lastCount? start (stop + 1) k.step with
  | none => rfl
  | some n => rfl

lemma take_executeLine_line (lib : Library) (scene : Scene) :
    (executeLine lib k.line).take scene = (executeLoop lib k.line).take scene := by
  rw [take_executeLine, k.prepare_line, k.kindOf_line, if_neg (by decide)]
  rfl

/-- The literals are converted one after the other, and then the loop counts. -/
lemma take_line (lib : Library) (scene : Scene) :
    (executeLine lib k.line).take scene =
      k.tooLong?.elim ((countThrough k.name k.start.value k.stop.value k.step).take scene)
        fun l => (.error (.numeralTooLong (some l.digits.length)), scene) := by
  rw [take_executeLine_line, executeLoop, k.loop_line]
  dsimp only
  rw [Step.take_bind, take_wholeValue_text]
  unfold tooLong? literals step
  by_cases hstart : digitLimit < k.start.digits.length
  · rw [if_pos hstart]
    simp [hstart]
  rw [if_neg hstart]
  dsimp only
  rw [Step.take_bind, take_wholeValue_text]
  by_cases hstop : digitLimit < k.stop.digits.length
  · rw [if_pos hstop]
    simp [hstart, hstop]
  rw [if_neg hstop]
  dsimp only
  cases k.step? with
  | none => simp [hstart, hstop]
  | some l =>
    dsimp only [Option.map_some]
    rw [Step.take_bind, take_wholeValue_text]
    by_cases hlong : digitLimit < l.digits.length
    · rw [if_pos hlong]
      simp [hstart, hstop, hlong]
    · rw [if_neg hlong]
      simp [hstart, hstop, hlong]

/-- What the variable is left at. -/
lemma variableValue?_leave (scene : Scene) (last : Option Int) :
    variableValue? (k.leave scene last).session k.name =
      (last.map Value.int).or (variableValue? scene.session k.name) := by
  cases last with
  | none => rfl
  | some n => exact variableValue?_assign _ k.name (.int n)

/-- The loops that leave the variable as they should: those that count up or do not count at all,
and those that count down and whose last value before the end is at least two away from it, or is in
the variable already. -/
def ReachesEnd (s : Session) : Prop :=
  0 < k.step ∨ k.start.value < k.stop.value ∨ 2 ≤ (k.start.value - k.stop.value) % -k.step ∨
    k.start.value < k.stop.value + 2 ∧
      variableValue? s k.name = (lastWithin? k.start.value k.stop.value k.step).map Value.int

lemma variableValue?_leave_eq_iff (hstep : k.step ≠ 0) (scene : Scene) :
    variableValue? (k.leave scene (lastCount? k.start.value (k.stop.value + 1) k.step)).session
        k.name =
      variableValue? (k.leave scene (lastWithin? k.start.value k.stop.value k.step)).session
        k.name ↔
    k.ReachesEnd scene.session := by
  rw [k.variableValue?_leave, k.variableValue?_leave, lastCount?_eq hstep]
  unfold ReachesEnd
  by_cases hpos : 0 < k.step
  · rw [if_pos hpos]
    exact iff_of_true rfl (.inl hpos)
  have hneg : k.step < 0 := by omega
  rw [if_neg hpos, lastWithin?_of_neg hneg, lastWithin?_of_neg hneg]
  generalize variableValue? scene.session k.name = before
  generalize k.start.value = start, k.stop.value = stop, k.step = step at *
  by_cases hnone : start < stop
  · rw [if_neg (by omega), if_neg (by omega)]
    exact iff_of_true rfl (.inr (.inl hnone))
  have hfit : stop ≤ start := by omega
  rw [if_pos hfit, Option.map_some, Option.some_or]
  by_cases hnear : start < stop + 2
  · -- No value is taken, but there should have been one.
    have hrest : ¬ 2 ≤ (start - stop) % -step := by
      have hquot : 0 ≤ (start - stop) / -step * -step :=
        Int.mul_nonneg (Int.ediv_nonneg (by omega) (by omega)) (by omega)
      have hparts := Int.ediv_mul_add_emod (start - stop) (-step)
      omega
    rw [if_neg (by omega), Option.map_none, Option.none_or]
    constructor
    · intro h
      exact .inr (.inr (.inr ⟨hnear, h⟩))
    · rintro (h | h | h | ⟨-, h⟩)
      · omega
      · omega
      · exact absurd h hrest
      · exact h
  · -- The last value is the same exactly if as many steps are taken.
    have hsteps : start - (stop + 2) = start - stop - 2 := by omega
    have hsame : start + step * ((start - stop - 2) / -step) =
        start + step * ((start - stop) / -step) ↔ 2 ≤ (start - stop) % -step := by
      rw [← sub_two_ediv_eq_iff (show 0 < -step by omega)]
      constructor
      · intro h
        exact Int.eq_of_mul_eq_mul_left hstep (by omega)
      · intro h
        rw [h]
    rw [if_pos (by omega), hsteps, Option.map_some, Option.some_or]
    simp only [Option.some.injEq, Value.int.injEq, hsame]
    constructor
    · intro h
      exact .inr (.inr (.inl h))
    · rintro (h | h | h | ⟨h, -⟩)
      · omega
      · omega
      · exact h
      · omega

/-- What a loop between literals comes to. A literal with too many digits is a fault, and nothing is
changed. Otherwise the loop counts until it reaches the value after the end, which leaves the
variable at the last value that does not pass the end if it counts up, and does not pass the second
value before the end if it counts down. So the variable is left as it should be exactly if the loop
reaches its end. -/
theorem executeLine_counts (hstep : k.step ≠ 0) (lib : Library) (scene : Scene) :
    (∀ l, k.tooLong? = some l → (executeLine lib k.line).take scene =
      (.error (.numeralTooLong (some l.digits.length)), scene)) ∧
    (k.tooLong? = none → ∃ last,
      Counts (k.stop.value + 1) k.step k.start.value none last ∧
      last = lastWithin? k.start.value (if 0 < k.step then k.stop.value else k.stop.value + 2)
        k.step ∧
      (executeLine lib k.line).take scene = (.ok (), k.leave scene last) ∧
      (variableValue? (k.leave scene last).session k.name =
          variableValue? (k.leave scene
            (lastWithin? k.start.value k.stop.value k.step)).session k.name ↔
        k.ReachesEnd scene.session)) := by
  constructor
  · intro l hl
    rw [take_line, hl]
    rfl
  · intro hshort
    have hcounts : Counts (k.stop.value + 1) k.step k.start.value none
        ((lastCount? k.start.value (k.stop.value + 1) k.step).or none) :=
      counts_lastCount? hstep none
    rw [Option.or_none] at hcounts
    refine ⟨_, hcounts, lastCount?_eq hstep, ?_, k.variableValue?_leave_eq_iff hstep scene⟩
    rw [take_line, hshort]
    exact k.take_countThrough _ _ hstep scene

lemma isWord_v : ∀ c ∈ ['v'], isWord c = true :=
  List.forall_mem_singleton.2 (by decide)

lemma freeOfConstants_v : FreeOfConstants ['v'] :=
  (substitute_eq_self_iff ['v']).1 (by decide)

/-- A loop of the variable `v`. -/
def ofInts (start stop step : Int) : Count where
  name := ['v']
  start := Literal.ofInt start
  stop := Literal.ofInt stop
  step? := some (Literal.ofInt step)
  name_ne_nil := List.cons_ne_nil 'v' []
  isWord_of_mem := isWord_v
  free := freeOfConstants_v

/-- A loop down from seven to zero by five leaves two, which is right. -/
theorem executeLine_counts_sevenDown :
    (ofInts 7 0 (-5)).step ≠ 0 ∧ (ofInts 7 0 (-5)).tooLong? = none ∧
      (ofInts 7 0 (-5)).line = "For v = 7 To 0 Step -5".toList ∧
      (ofInts 7 0 (-5)).ReachesEnd firstScene.session ∧
      ∃ after, (executeLine (library .capital) (ofInts 7 0 (-5)).line).take firstScene =
          (.ok (), after) ∧
        variableValue? after.session ['v'] = some (.int 2) := by
  have hstep : (ofInts 7 0 (-5)).step ≠ 0 := by decide
  have hshort : (ofInts 7 0 (-5)).tooLong? = none := by decide
  have hends : (ofInts 7 0 (-5)).ReachesEnd firstScene.session := .inr (.inr (.inl (by decide)))
  obtain ⟨last, -, -, htake, hvalue⟩ :=
    (executeLine_counts (ofInts 7 0 (-5)) hstep (library .capital) firstScene).2 hshort
  refine ⟨hstep, hshort, by decide, hends, _, htake, ?_⟩
  have htwo : lastWithin? (ofInts 7 0 (-5)).start.value (ofInts 7 0 (-5)).stop.value
      (ofInts 7 0 (-5)).step = some 2 := by decide
  rw [htwo] at hvalue
  exact (hvalue.2 hends).trans (variableValue?_leave _ _ _)

/-- A loop down from three to one leaves three. -/
theorem end_missed_down :
    ∃ after, (executeLine (library .capital) "For v = 3 To 1 Step -1".toList).take firstScene =
        (.ok (), after) ∧
      variableValue? after.session ['v'] = some (.int 3) ∧ lastWithin? 3 1 (-1) = some 1 := by
  have hline : "For v = 3 To 1 Step -1".toList = (ofInts 3 1 (-1)).line := by decide
  have hshort : (ofInts 3 1 (-1)).tooLong? = none := by decide
  have hlast : lastCount? (ofInts 3 1 (-1)).start.value ((ofInts 3 1 (-1)).stop.value + 1)
      (ofInts 3 1 (-1)).step = some 3 := by decide
  refine ⟨(ofInts 3 1 (-1)).leave firstScene (some 3), ?_, ?_, by decide⟩
  · rw [hline, take_line, hshort, ← hlast]
    exact take_countThrough _ _ _ (by decide) firstScene
  · exact variableValue?_leave _ _ _

end Count

end ScriptHost.Script
