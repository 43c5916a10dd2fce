import ScriptHost.Proofs.Calls
import ScriptHost.Proofs.Numerals

/-!
# Operands that cannot be evaluated

A text that is taken for a numeral and is none cannot be converted, and this is not caught: it makes
the evaluation of the operand fail, and that of a call if the text is among the arguments. Arguments
go up to the first closing parenthesis, so there are no calls among them, and the fault comes from
no deeper place.

Any other operand has a value, since calls and formulas catch the faults that happen in them. They
let the script be left, and a number of too many digits cannot be joined with an ampersand. Nothing
else can happen (`evaluateOperand_outcome`).
-/

namespace ScriptHost

open ScriptHost.Number ScriptHost.Text

/-! ### Steps that fail -/

namespace Script.Step

variable {α β : Type}

/-- A step that gives no value in a scene. -/
def FailsIn (scene : Scene) (s : Step α) : Prop :=
  ∃ e, (s.take scene).1 = .error e

/-- A step whose fault in a scene, if there is one, is of a kind. -/
def FaultsIn (scene : Scene) (P : Fault → Prop) (s : Step α) : Prop :=
  ∀ e, (s.take scene).1 = .error e → P e

variable {scene : Scene}

lemma FailsIn.bind {s : Step α} (h : s.FailsIn scene) (f : α → Step β) :
    (s >>= f).FailsIn scene := by
  obtain ⟨e, he⟩ := h
  rw [FailsIn, take_bind]
  rcases hs : s.take scene with ⟨e' | x, after⟩
  · exact ⟨e', rfl⟩
  · rw [hs] at he
    cases he

/-- What comes after a step fails, so it does not matter what the step gives. -/
lemma failsIn_bind (s : Step α) {f : α → Step β} (h : ∀ x after, (f x).FailsIn after) :
    (s >>= f).FailsIn scene := by
  rw [FailsIn, take_bind]
  rcases s.take scene with ⟨e | x, after⟩
  · exact ⟨e, rfl⟩
  · exact h x after

/-- If one item cannot be dealt with, all of them cannot. -/
lemma failsIn_mapM {f : α → Step β} {xs : List α} {x : α} (hx : x ∈ xs)
    (h : ∀ scene, (f x).FailsIn scene) : (xs.mapM f).FailsIn scene := by
  induction xs generalizing scene with
  | nil => cases hx
  | cons y ys ih =>
    rw [List.mapM_cons]
    rcases List.mem_cons.1 hx with rfl | hx
    · exact (h scene).bind _
    · exact failsIn_bind _ fun _ _ => (ih hx).bind _

section FaultsIn

variable {P : Fault → Prop}

lemma faultsIn_pure (a : α) : FaultsIn scene P (pure a : Step α) := by
  intro e h
  cases h

lemma faultsIn_act {a : Act α} (h : ∀ w e, (a.carryOut w).1 = .error e → P e) :
    FaultsIn scene P (act a) := by
  intro e he
  rw [take_act] at he
  exact h scene.world e he

lemma FaultsIn.bind {s : Step α} (h : s.FaultsIn scene P) {f : α → Step β}
    (hf : ∀ x after, (f x).FaultsIn after P) : (s >>= f).FaultsIn scene P := by
  intro e he
  rw [take_bind] at he
  rcases hs : s.take scene with ⟨e' | x, after⟩
  · rw [hs] at he
    obtain rfl := Except.error.inj he
    exact h e' (by rw [hs])
  · rw [hs] at he
    exact hf x after e he

lemma faultsIn_mapM {f : α → Step β} {xs : List α}
    (h : ∀ x ∈ xs, ∀ scene, (f x).FaultsIn scene P) : (xs.mapM f).FaultsIn scene P := by
  induction xs generalizing scene with
  | nil => exact faultsIn_pure _
  | cons y ys ih =>
    rw [List.mapM_cons]
    refine (h y List.mem_cons_self scene).bind fun _ _ => ?_
    exact (ih fun x hx => h x (List.mem_cons_of_mem y hx)).bind fun _ _ => faultsIn_pure _

end FaultsIn

end Script.Step

/-! ### The texts of values -/

lemma eq_of_wholeText_eq_error {n : Int} {e : Fault} (h : wholeText n = .error e) :
    e = .numeralTooLong none := by
  unfold wholeText at h
  generalize tenPow digitLimit = bound at h
  split at h
  · exact (Except.error.inj h).symm
  · cases h

/-- A computation in two parts fails in the first part or in the second. -/
lemma eq_error_of_bind {α β : Type} {x : Except Fault α} {f : α → Except Fault β} {e : Fault}
    (h : x >>= f = .error e) : x = .error e ∨ ∃ a, f a = .error e := by
  cases x with
  | error e' =>
    obtain rfl := Except.error.inj h
    exact .inl rfl
  | ok a => exact .inr ⟨a, h⟩

mutual

/-- A value as it is shown in a list fails to have a text only if a number is too long. -/
lemma eq_of_quoted_eq_error (v : Value) {e : Fault} (h : v.quoted = .error e) :
    e = .numeralTooLong none := by
  cases v with
  | int n =>
    rw [Value.quoted] at h
    exact eq_of_wholeText_eq_error h
  | list items =>
    rw [Value.quoted] at h
    rcases eq_error_of_bind h with hitems | ⟨texts, h⟩
    · exact eq_of_quotedItems_eq_error items hitems
    · cases h
  | tuple items =>
    rw [Value.quoted] at h
    rcases eq_error_of_bind h with hitems | ⟨texts, h⟩
    · exact eq_of_quotedItems_eq_error items hitems
    · rcases texts with _ | ⟨p, _ | ⟨q, texts⟩⟩ <;> cases h
  | _ =>
    rw [Value.quoted] at h
    cases h

lemma eq_of_quotedItems_eq_error (vs : List Value) {e : Fault}
    (h : Value.quotedItems vs = .error e) : e = .numeralTooLong none := by
  cases vs with
  | nil => cases h
  | cons v vs =>
    rw [Value.quotedItems] at h
    rcases eq_error_of_bind h with hv | ⟨p, h⟩
    · exact eq_of_quoted_eq_error v hv
    · rcases eq_error_of_bind h with hvs | ⟨ps, h⟩
      · exact eq_of_quotedItems_eq_error vs hvs
      · cases h

end

lemma eq_of_display_eq_error {v : Value} {e : Fault} (h : v.display = .error e) :
    e = .numeralTooLong none := by
  unfold Value.display at h
  split at h
  · cases h
  · cases h
  · cases h
  · cases h
  · cases h
  · exact eq_of_quoted_eq_error _ h

namespace Script

/-! ### Calls -/

/-- The parts of a call: a word, and what is between its parentheses up to the first that closes. -/
lemma Shape.exists_of_call {cs name args : List Char} (h : Shape.call cs = some (name, args)) :
    ∃ more, cs = name ++ '(' :: (args ++ ')' :: more) ∧ name ≠ [] ∧
      (∀ c ∈ name, isWord c = true) ∧ ')' ∉ args := by
  obtain ⟨n, hn, h⟩ := List.exists_of_findSome?_eq_some h
  have hword := List.mem_reverse.1 hn
  obtain ⟨inner, hinner, h⟩ := exists_of_char h
  obtain ⟨m, hm, h⟩ := List.exists_of_findSome?_eq_some h
  have hargs := List.mem_reverse.1 hm
  obtain ⟨more, hmore, h⟩ := exists_of_char h
  obtain ⟨rfl, rfl⟩ := Prod.mk.inj (Option.some.inj h)
  refine ⟨more, ?_, ?_, all_of_mem_lengths hword, fun hmem => ?_⟩
  · rw [← hmore, List.take_append_drop, ← hinner, List.take_append_drop]
  · exact List.ne_nil_of_length_pos (least_le_of_mem_lengths hword)
  · exact absurd (all_of_mem_lengths hargs ')' hmem) (by decide)

/-- A failing call is reported, so only leaving the script gets through. -/
lemma isExit_of_callLibrary {lib : Library} {name : String} {args : List Value} {w : World}
    {e : Fault} (h : ((callLibrary lib name args).carryOut w).1 = .error e) : e.isExit = true := by
  unfold callLibrary at h
  split at h
  · next r _ =>
    rw [Act.carryOut_recover] at h
    rcases hcall : (r.call args []).carryOut w with ⟨e' | v, after⟩
    · rw [hcall] at h
      dsimp only at h
      split at h
      · next hexit =>
        obtain rfl := Except.error.inj h
        exact hexit
      · cases h
    · rw [hcall] at h
      cases h
  · cases h

/-- So it is with formulas. -/
lemma faultsIn_formulaValue {P : Fault → Prop} (hexit : ∀ e, e.isExit = true → P e)
    (lib : Library) (cs : List Char) (scene : Scene) : (formulaValue lib cs).FaultsIn scene P := by
  intro e he
  rw [formulaValue, Step.take_recover] at he
  rcases hs : (lib.evaluator lib.frame cs).take scene with ⟨e' | v, after⟩
  · rw [hs] at he
    dsimp only at he
    split at he
    · next hleft =>
      obtain rfl := Except.error.inj he
      exact hexit e' hleft
    · cases he
  · rw [hs] at he
    cases he

/-! ### Operands -/

/-- A text that is taken for a numeral and is none. -/
def IsBroken (t : List Char) : Prop :=
  looksNumeric t = true ∧ ¬ IsNumeral t

/-- What is taken for a numeral is not empty and not quoted. -/
lemma ne_nil_of_looksNumeric {t : List Char} (h : looksNumeric t = true) :
    t ≠ [] ∧ quotedText? t = none := by
  have hne : t ≠ [] := by
    rintro rfl
    cases h
  obtain ⟨c, cs, rfl⟩ := List.exists_cons_of_ne_nil hne
  have hquote : isQuote c = false := by
    rw [Bool.eq_false_iff]
    intro hc
    rcases inNumeral_of_looksNumeric h c List.mem_cons_self with hdigit | rfl | rfl
    · rcases (Bool.or_eq_true _ _).mp hc with hc | hc
      · rw [eq_of_beq hc] at hdigit
        exact absurd hdigit (by decide)
      · rw [eq_of_beq hc] at hdigit
        exact absurd hdigit (by decide)
    · exact absurd hc (by decide)
    · exact absurd hc (by decide)
  refine ⟨hne, ?_⟩
  unfold quotedText?
  split
  · next a b ha _ =>
    obtain rfl := Option.some.inj ha
    rw [hquote]
    rfl
  · rfl

section Operands

variable {lib : Library} {scene : Scene} {cs : List Char}

lemma evaluateOperand_of_looksNumeric (h : looksNumeric (strip cs) = true) :
    evaluateOperand lib cs = Step.act (Act.ofExcept (numeral (strip cs))) := by
  obtain ⟨hne, hquoted⟩ := ne_nil_of_looksNumeric h
  rw [evaluateOperand, if_neg (by simpa using hne), hquoted]
  dsimp only
  rw [if_pos h]

/-- A broken numeral has no value. -/
lemma failsIn_of_isBroken (h : IsBroken (strip cs)) (scene : Scene) :
    (evaluateOperand lib cs).FailsIn scene := by
  rw [evaluateOperand_of_looksNumeric h.1, Step.FailsIn, Step.take_act, Act.carryOut_ofExcept]
  cases hnumeral : numeral (strip cs) with
  | error e => exact ⟨e, rfl⟩
  | ok v => exact absurd ((numeral_eq_ok_iff h.1).1 ⟨v, hnumeral⟩) h.2

/-- An operand that is no broken numeral fails only as a call. -/
lemma faultsIn_evaluateOperand {P : Fault → Prop} (hexit : ∀ e, e.isExit = true → P e)
    (hnumeral : ¬ IsBroken (strip cs))
    (hcall : variableValue? scene.session (strip cs) = none → looksLikeCall (strip cs) = true →
      (callFunction lib (strip cs)).FaultsIn scene P) :
    (evaluateOperand lib cs).FaultsIn scene P := by
  by_cases hnumeric : looksNumeric (strip cs) = true
  · obtain ⟨v, hv⟩ := (numeral_eq_ok_iff hnumeric).2 (not_not.1 fun h => hnumeral ⟨hnumeric, h⟩)
    rw [evaluateOperand_of_looksNumeric hnumeric, hv]
    exact Step.faultsIn_pure v
  · rw [evaluateOperand, if_neg hnumeric]
    split
    · exact Step.faultsIn_pure _
    · split
      · exact Step.faultsIn_pure _
      · rw [Step.FaultsIn, Step.take_bind, Step.take_get]
        dsimp only
        split
        · exact Step.faultsIn_pure _
        · next hword =>
          split
          · next hlike =>
            have hvariable : variableValue? scene.session (strip cs) = none := by
              simp only [wordValue?, Option.or_eq_none_iff, Option.map_eq_none_iff] at hword
              exact hword.2.2
            exact (hcall hvariable hlike).bind fun _ _ => Step.faultsIn_pure _
          · exact faultsIn_formulaValue hexit lib _ scene

/-- The operands of an argument. -/
def operandsOf (p : List Char) : List (List Char) :=
  if '&' ∈ p then operands p else [p]

lemma infix_of_mem_operandsOf {p q : List Char} (h : q ∈ operandsOf p) : q <:+: p := by
  unfold operandsOf at h
  split at h
  · exact infix_of_mem_operands h
  · obtain rfl := List.mem_singleton.1 h
    exact List.infix_rfl

lemma failsIn_concatenation {ps : List (List Char)} {p : List Char} (hp : p ∈ ps)
    (h : ∀ scene, (evaluateOperand lib p).FailsIn scene) :
    (concatenation lib ps).FailsIn scene := by
  induction ps generalizing scene with
  | nil => cases hp
  | cons q ps ih =>
    rw [concatenation]
    rcases List.mem_cons.1 hp with rfl | hp
    · exact (h scene).bind _
    · exact Step.failsIn_bind _ fun _ _ => Step.failsIn_bind _ fun _ _ => (ih hp).bind _

lemma faultsIn_concatenation {P : Fault → Prop} (hlong : P (.numeralTooLong none))
    {ps : List (List Char)} (h : ∀ p ∈ ps, ∀ scene, (evaluateOperand lib p).FaultsIn scene P) :
    (concatenation lib ps).FaultsIn scene P := by
  have htext (v : Value) (w : World) (e : Fault) (he : ((operandText v).carryOut w).1 = .error e) :
      P e := by
    unfold operandText at he
    split at he
    · cases he
    · rw [Act.display, Act.carryOut_ofExcept] at he
      rw [eq_of_display_eq_error he]
      exact hlong
  induction ps generalizing scene with
  | nil => exact Step.faultsIn_pure _
  | cons q ps ih =>
    rw [concatenation]
    refine (h q List.mem_cons_self scene).bind fun v _ =>
      (Step.faultsIn_act (htext v)).bind fun _ _ => ?_
    exact (ih fun p hp => h p (List.mem_cons_of_mem q hp)).bind fun _ _ => Step.faultsIn_pure _

/-- An expression fails if one of its operands does. -/
lemma failsIn_evaluate {p q : List Char} (hq : q ∈ operandsOf p)
    (h : ∀ scene, (evaluateOperand lib q).FailsIn scene) : (evaluate lib p).FailsIn scene := by
  unfold operandsOf at hq
  split at hq
  · next hmem =>
    rw [evaluate_of_mem lib hmem]
    exact (failsIn_concatenation hq h).bind _
  · next hmem =>
    obtain rfl := List.mem_singleton.1 hq
    rw [evaluate_of_notMem lib hmem]
    exact h scene

lemma faultsIn_evaluate {P : Fault → Prop} {p : List Char}
    (hlong : '&' ∈ p → P (.numeralTooLong none))
    (h : ∀ q ∈ operandsOf p, ∀ scene, (evaluateOperand lib q).FaultsIn scene P) :
    (evaluate lib p).FaultsIn scene P := by
  unfold operandsOf at h
  split at h
  · next hmem =>
    rw [evaluate_of_mem lib hmem]
    exact (faultsIn_concatenation (hlong hmem) h).bind fun _ _ => Step.faultsIn_pure _
  · next hmem =>
    rw [evaluate_of_notMem lib hmem]
    exact h p (List.mem_singleton.2 rfl) scene

end Operands

/-- Operands that have no value: broken numerals, and calls that are not also names of variables,
with a broken numeral among their arguments. -/
inductive Refused (s : Session) (cs : List Char) : Prop
  | numeral : IsBroken (strip cs) → Refused s cs
  | argument {name args p q : List Char} : variableValue? s (strip cs) = none →
      endsWith [')'] (strip cs) = true → Shape.call (strip cs) = some (name, args) →
      p ∈ argumentTexts args → q ∈ operandsOf p → IsBroken (strip q) → Refused s cs

section Refused

variable {lib : Library} {scene : Scene} {cs : List Char}

/-- A refused operand has no value. -/
lemma Refused.failsIn (h : Refused scene.session cs) : (evaluateOperand lib cs).FailsIn scene := by
  cases h with
  | numeral h => exact failsIn_of_isBroken h scene
  | @argument name args p q hvariable hends hcall hp hq h =>
    have hargs : (evaluateArguments lib args).FailsIn scene :=
      Step.failsIn_mapM hp fun _ => failsIn_evaluate hq (failsIn_of_isBroken h)
    obtain ⟨more, hcs, hne, hword, -⟩ := Shape.exists_of_call hcall
    have hmem : '(' ∈ strip cs := by
      rw [hcs]
      simp
    have hlike : looksLikeCall (strip cs) = true := by
      rw [looksLikeCall, hends, List.contains_iff_mem.2 hmem]
      rfl
    have hquoted : quotedText? (strip cs) = none := by
      obtain ⟨c, name, rfl⟩ := List.exists_cons_of_ne_nil hne
      have hquote := (not_scanned_of_isWord (hword c List.mem_cons_self)).1
      unfold quotedText?
      split
      · next a b ha _ =>
        rw [hcs, List.cons_append, List.head?_cons] at ha
        obtain rfl := Option.some.inj ha
        rw [hquote]
        rfl
      · rfl
    have hfull : ¬ (strip cs).isEmpty = true := by
      rw [List.isEmpty_iff]
      exact List.ne_nil_of_mem hmem
    rw [evaluateOperand, if_neg hfull, hquoted]
    dsimp only
    rw [looksNumeric_of_mem (by decide) (by decide) (by decide) hmem, if_neg (by decide),
      Step.FailsIn, Step.take_bind, Step.take_get]
    dsimp only
    rw [wordValue?_of_mem (by decide) (by decide) hmem hvariable]
    dsimp only
    rw [hlike, if_pos rfl, callFunction_of_call lib hcall]
    exact (hargs.bind _).bind _

/-- The operands of the arguments of a call have no closing parenthesis, so they are no calls. -/
lemma looksLikeCall_of_argument {name args p q : List Char}
    (hcall : Shape.call (strip cs) = some (name, args)) (hp : p ∈ argumentTexts args)
    (hq : q ∈ operandsOf p) : looksLikeCall (strip q) = false := by
  obtain ⟨more, -, -, -, hclose⟩ := Shape.exists_of_call hcall
  have hwithin : strip q <:+: args :=
    (strip_isInfix q).trans ((infix_of_mem_operandsOf hq).trans (infix_of_mem_argumentTexts hp))
  rw [looksLikeCall, Bool.and_eq_false_iff, Bool.eq_false_iff (b := endsWith _ _)]
  refine .inr fun hends => hclose (hwithin.subset ?_)
  exact (List.isSuffixOf_iff_suffix.1 hends).subset List.mem_cons_self

/-- Any other operand has a value, unless the script is left or a number is too long to be joined.
-/
lemma faultsIn_of_not_refused (h : ¬ Refused scene.session cs) :
    (evaluateOperand lib cs).FaultsIn scene
      fun e => e.isExit = true ∨ '&' ∈ cs ∧ e = .numeralTooLong none := by
  refine faultsIn_evaluateOperand (fun e he => .inl he) (fun hbroken => h (.numeral hbroken)) ?_
  intro hvariable hlike
  cases hcall : Shape.call (strip cs) with
  | none =>
    rw [callFunction]
    split
    · exact Step.faultsIn_pure _
    · next hsome =>
      rw [hcall] at hsome
      cases hsome
  | some parts =>
    obtain ⟨name, args⟩ := parts
    have hwithin {p : List Char} (hp : p ∈ argumentTexts args) : p <:+: cs :=
      (infix_of_mem_argumentTexts hp).trans
        ((Shape.parts_of_call hcall).2.1.trans (strip_isInfix cs))
    rw [callFunction_of_call lib hcall]
    refine Step.FaultsIn.bind (Step.faultsIn_mapM fun p hp _ => ?_) fun values _ =>
      Step.faultsIn_act fun _ _ he => .inl (isExit_of_callLibrary he)
    refine faultsIn_evaluate (fun hmem => .inr ⟨(hwithin hp).subset hmem, rfl⟩) fun q hq _ => ?_
    refine faultsIn_evaluateOperand (fun e he => .inl he) (fun hbroken => ?_) fun _ hlike' => ?_
    · exact h (.argument hvariable ((Bool.and_eq_true _ _).mp hlike).2 hcall hp hq hbroken)
    · rw [looksLikeCall_of_argument hcall hp hq] at hlike'
      cases hlike'

end Refused

/-! ### Two numbers with a minus sign between them -/

/-- Digits, a minus sign and digits are taken for a numeral. -/
lemma looksNumeric_minus (a b : Nat) : looksNumeric (natDigits a ++ '-' :: natDigits b) = true := by
  have hpoint : '.' ∉ natDigits a ++ '-' :: natDigits b := by
    simp [notMem_natDigits]
  have herase : eraseFirst '-' (eraseFirst '.' (natDigits a ++ '-' :: natDigits b)) =
      natDigits a ++ natDigits b := by
    rw [eraseFirst, eraseFirst, List.erase_of_not_mem hpoint,
      List.erase_append_right _ (notMem_natDigits (by decide) a), List.erase_cons_head]
  have hdigit : ∀ c ∈ natDigits a ++ natDigits b, isDigit c = true := by
    intro c hc
    have hplain : c.isDigit = true := by
      rcases List.mem_append.1 hc with hc | hc
      · exact isDigit_of_mem_natDigits hc
      · exact isDigit_of_mem_natDigits hc
    rw [isDigit, isDecimal_of_isDigit hplain, Bool.true_or]
  rw [looksNumeric, herase, List.all_eq_true.2 hdigit]
  simp [natDigits_ne_nil]

/-- Why digits, a minus sign and digits cannot be converted: there are too many digits before the
sign, or else the sign is in the wrong place. -/
def differenceFault (a b : Nat) : Fault :=
  if digitLimit < (natDigits a).length then .numeralTooLong (some (natDigits a).length)
  else .badWholeText (String.ofList (natDigits a ++ '-' :: natDigits b))

lemma evaluateOperand_minus (lib : Library) (a b : Nat) :
    evaluateOperand lib (natDigits a ++ '-' :: natDigits b) = throw (differenceFault a b) := by
  have hnumeric := looksNumeric_minus a b
  have ht := inNumeral_of_looksNumeric hnumeric
  have hsigned : (natDigits a ++ '-' :: natDigits b).head? ≠ some '-' := by
    intro h
    rw [List.head?_append_of_ne_nil _ (natDigits_ne_nil a)] at h
    exact notMem_natDigits (by decide) a (List.mem_of_head? h)
  have hhead : ∀ c ∈ ('-' :: natDigits b).head?, isDecimal c = false := by
    intro c hc
    obtain rfl := Option.some.inj hc
    decide
  have hwhole : readWhole (natDigits a ++ '-' :: natDigits b) =
      if digitLimit < (natDigits a).length then .tooLong (natDigits a).length
      else .notANumeral := by
    rw [readWhole_of_takeSign ht (fun c hc => isDecimal_of_isDigit (isDigit_of_mem_natDigits hc))
        (fun c hc => ht c (List.mem_append_right _ hc)) hhead (takeSign_unsigned ht hsigned),
      if_neg (natDigits_ne_nil a), if_neg (List.cons_ne_nil _ _)]
  have hpoint : ¬ (natDigits a ++ '-' :: natDigits b).contains '.' = true := by
    simp [notMem_natDigits]
  have hstrip := strip_of_inNumeral ht
  rw [evaluateOperand_of_looksNumeric (by rwa [hstrip]), hstrip, numeral, if_neg hpoint,
    Value.toWhole, Value.textToWhole, String.toList_ofList, hwhole, differenceFault]
  by_cases hlong : digitLimit < (natDigits a).length
  · rw [if_pos hlong, if_pos hlong]
    rfl
  · rw [if_neg hlong, if_neg hlong]
    rfl

/-! ### What evaluating an operand comes to -/

/-- A refused operand has no value in any scene of its session, and any other one has a value,
unless the script is left by way of it or a number is too long to be joined with an ampersand. Two
numbers with a minus sign and no blanks between them are always refused. -/
theorem evaluateOperand_outcome (lib : Library) (scene : Scene) (cs : List Char) :
    (Refused scene.session cs → (evaluateOperand lib cs).FailsIn scene) ∧
      (¬ Refused scene.session cs → (evaluateOperand lib cs).FaultsIn scene
        fun e => e.isExit = true ∨ '&' ∈ cs ∧ e = .numeralTooLong none) ∧
      ∀ a b : Nat, evaluateOperand lib (natDigits a ++ '-' :: natDigits b) =
        throw (differenceFault a b) :=
  ⟨Refused.failsIn, faultsIn_of_not_refused, evaluateOperand_minus lib⟩

/-- A call with a minus sign after the point of its second argument. -/
def brokenCall : List Char := "ABS(3, 1.-2)".toList

lemma refused_brokenCall : Refused freshSession brokenCall := by
  have hbroken : IsBroken "1.-2".toList := by
    refine ⟨by decide, fun h => ?_⟩
    rw [isNumeral_iff_of_head? (by decide)] at h
    exact minus_notMem_of_isUnsigned h (by decide)
  have hcall : Shape.call (strip brokenCall) = some ("ABS".toList, "3, 1.-2".toList) := by decide
  have hargument : "1.-2".toList ∈ argumentTexts "3, 1.-2".toList := by decide
  have hoperand : "1.-2".toList ∈ operandsOf "1.-2".toList := by decide
  exact .argument (by decide) (by decide) hcall hargument hoperand hbroken

/-- The call has no value, while a difference with blanks around the minus sign has one. -/
theorem evaluateOperand_outcome_brokenCall :
    Refused freshSession brokenCall ∧
      (evaluateOperand (library .capital) brokenCall).FailsIn firstScene ∧
      ¬ Refused freshSession "1 - 2".toList ∧
      (evaluateOperand (library .capital) "1 - 2".toList).FaultsIn firstScene
        fun e => e.isExit = true := by
  have hspaced : ¬ Refused freshSession "1 - 2".toList := by
    rintro (⟨hnumeric, -⟩ | ⟨-, hends, -⟩)
    · exact absurd hnumeric (by decide)
    · exact absurd hends (by decide)
  refine ⟨refused_brokenCall,
    (evaluateOperand_outcome (library .capital) firstScene brokenCall).1 refused_brokenCall,
    hspaced, fun e he => ?_⟩
  rcases (evaluateOperand_outcome (library .capital) firstScene _).2.1 hspaced e he with
    hexit | ⟨hmem, -⟩
  · exact hexit
  · exact absurd hmem (by decide)

/-- A difference of two numbers, written without blanks, ends in a fault. -/
theorem unspaced_difference_refused :
    ((evaluateOperand (library .capital) "1-2".toList).take firstScene).1 =
      .error (.badWholeText "1-2") := by
  have htext : "1-2".toList = natDigits 1 ++ '-' :: natDigits 2 := by decide
  have hfault : differenceFault 1 2 = .badWholeText "1-2" := by
    rw [differenceFault, if_neg (by decide), ← htext, String.ofList_toList]
  rw [htext, evaluateOperand_minus, hfault]
  rfl

end Script

end ScriptHost
