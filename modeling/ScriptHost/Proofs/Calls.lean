import ScriptHost.Proofs.Arguments
import ScriptHost.Proofs.QuotedStatements
import ScriptHost.Proofs.Readers
import ScriptHost.Proofs.VariableStore

/-!
# Calls in calls

A call has quoted texts and further calls as arguments. What it should mean is plain: the function
is applied to what the arguments mean. Evaluating the text of a call does something else. The
arguments are looked for in the text up to the first closing parenthesis, wherever that stands, and
if there is an ampersand anywhere, the value is turned into a text (`evaluate_call`). So a call with
a call in it means something else, and a call of quoted texts means what it should if there is
neither a closing parenthesis nor an ampersand in them.
-/

namespace ScriptHost.Script

open ScriptHost.Text

/-! ### Calls and what they mean -/

/-- A quoted text, or a call of a function with such arguments. -/
inductive Term where
  | quoted (t : String)
  | call (name : List Char) (args : List Term)

namespace Term

mutual

/-- The text of a term. -/
def text : Term → List Char
  | quoted t => literal t
  | call name args => name ++ '(' :: (", ".toList.intercalate (texts args) ++ [')'])

/-- The texts of terms. -/
def texts : List Term → List (List Char)
  | [] => []
  | a :: as => text a :: texts as

end

mutual

/-- What a term means: a quoted text itself, and a call the function applied to what the arguments
mean. -/
def meaning (lib : Library) : Term → Act Value
  | quoted t => pure (.text t)
  | call name args => do
    let values ← meanings lib args
    orEmpty <$> callLibrary lib (String.ofList (upper name)) values

/-- What terms mean, one after the other. -/
def meanings (lib : Library) : List Term → Act (List Value)
  | [] => pure []
  | a :: as => do
    let v ← meaning lib a
    let vs ← meanings lib as
    return v :: vs

end

/-- The text between the parentheses of a call. -/
def inner (args : List Term) : List Char :=
  ", ".toList.intercalate (texts args)

/-- There are no double quotes in the quoted texts, and the functions have names. -/
inductive WellFormed : Term → Prop
  | quoted {t : String} (h : '"' ∉ t.toList) : WellFormed (quoted t)
  | call {name : List Char} {args : List Term} (hne : name ≠ []) (hword : ∀ c ∈ name,
    isWord c = true)
    (hargs : ∀ a ∈ args, WellFormed a) : WellFormed (call name args)

lemma texts_eq (args : List Term) : texts args = args.map text := by
  induction args with
  | nil => rfl
  | cons a args ih => rw [texts, List.map_cons, ih]

lemma texts_quoted (ts : List String) : texts (ts.map .quoted) = ts.map literal := by
  rw [texts_eq, List.map_map]
  rfl

lemma WellFormed.arguments {name : List Char} {args : List Term}
    (h : (Term.call name args).WellFormed) :
    ∀ a ∈ args, a.WellFormed := by
  cases h with
  | call _ _ hargs => exact hargs

lemma text_call (name : List Char) (args : List Term) :
    (call name args).text = name ++ '(' :: (inner args ++ [')']) := by
  rw [text, inner]

end Term

/-! ### The text of a call as an operand -/

lemma isOperand_append {a b : List Char} (ha : IsOperand a) (hb : IsOperand b) :
    IsOperand (a ++ b) := by
  refine ⟨?_, ha.inside.append ?_⟩
  · rw [quoteAfter_append, ha.closed, hb.closed]
  · rw [ha.closed]
    exact hb.inside

lemma isOperand_word {w : List Char} (hw : ∀ c ∈ w, isWord c = true) : IsOperand w := by
  refine isOperand_of_forall (fun c hc => (not_scanned_of_isWord (hw c hc)).1) fun hmem => ?_
  exact absurd (hw '&' hmem) (by decide)

lemma isOperand_intercalate {sep : List Char} (hsep : IsOperand sep) {ps : List (List Char)}
    (h : ∀ p ∈ ps, IsOperand p) : IsOperand (sep.intercalate ps) := by
  induction ps with
  | nil => exact isOperand_of_forall (by simp) (by simp)
  | cons p ps ih =>
    have hp := h p List.mem_cons_self
    cases ps with
    | nil => simpa using hp
    | cons q ps =>
      rw [List.intercalate_cons_cons]
      exact isOperand_append (isOperand_append hp hsep) (ih fun p' hp' =>
        h p' (List.mem_cons_of_mem p hp'))

/-- The text of a term closes the quotations that it opens, and its ampersands are quoted. -/
lemma Term.WellFormed.isOperand {t : Term} (h : t.WellFormed) : IsOperand t.text := by
  induction h with
  | quoted h => exact isOperand_literal h
  | @call name args hne hword hargs ih =>
    have hparen : IsOperand ['('] := isOperand_of_forall (by simp [isQuote]) (by decide)
    have hclose : IsOperand [')'] := isOperand_of_forall (by simp [isQuote]) (by decide)
    have hsep : IsOperand ", ".toList := isOperand_of_forall (by simp [isQuote]) (by decide)
    have hinner : IsOperand (Term.inner args) := by
      refine isOperand_intercalate hsep fun p hp => ?_
      rw [Term.texts_eq] at hp
      obtain ⟨a, ha, rfl⟩ := List.mem_map.1 hp
      exact ih a ha
    rw [Term.text_call, ← List.singleton_append, ← List.append_assoc]
    exact isOperand_append (isOperand_append (isOperand_word hword) hparen)
      (isOperand_append hinner hclose)

/-! ### Reading a call -/

/-- The arguments of a call go to the first closing parenthesis. -/
lemma Shape.call_append {name : List Char} (hne : name ≠ []) (hword : ∀ c ∈ name, isWord c = true)
    (args : List Char) :
    Shape.call (name ++ '(' :: (args ++ [')'])) = some (name, args.takeWhile (· != ')')) := by
  have hcut :
      args ++ [')'] = args.takeWhile (· != ')') ++ (args.dropWhile (· != ')') ++ [')']) := by
    rw [← List.append_assoc, List.takeWhile_append_dropWhile]
  obtain ⟨rest, hrest⟩ : ∃ rest, args.dropWhile (· != ')') ++ [')'] = ')' :: rest := by
    have hhead := List.head?_dropWhile_not (· != ')') args
    cases hdrop : args.dropWhile (· != ')') with
    | nil => exact ⟨[], rfl⟩
    | cons c rest =>
      rw [hdrop] at hhead
      obtain rfl : c = ')' := by simpa using hhead
      exact ⟨rest ++ [')'], rfl⟩
  -- Neither reader could take more: a parenthesis is no part of a name, and no argument goes past
  -- a closing one.
  refine longest_append hword (List.length_pos_of_ne_nil hne) ?_ fun x y hxy hx hall => ?_
  · rw [Shape.char, if_pos (by decide), hcut, hrest]
    refine longest_append (List.all_eq_true.1 List.all_takeWhile) (Nat.zero_le _) rfl ?_
    intro x y hxy hx hall
    obtain ⟨c, x, rfl⟩ := List.exists_cons_of_ne_nil hx
    obtain ⟨rfl, -⟩ := List.cons.inj hxy
    exact absurd (hall ')' List.mem_cons_self) (by decide)
  · obtain ⟨c, x, rfl⟩ := List.exists_cons_of_ne_nil hx
    obtain ⟨rfl, -⟩ := List.cons.inj hxy
    exact absurd (hall '(' List.mem_cons_self) (by decide)

/-- A text that is read as a call calls the function with the values of the arguments. -/
lemma callFunction_of_call (lib : Library) {cs name args : List Char}
    (h : Shape.call cs = some (name, args)) :
    callFunction lib cs = evaluateArguments lib args >>= fun vs =>
      Step.act (callLibrary lib (String.ofList (upper name)) vs) := by
  rw [callFunction]
  split
  · next hnone =>
    rw [h] at hnone
    cases hnone
  · next name' args' hsome =>
    obtain ⟨rfl, rfl⟩ := Prod.mk.inj (Option.some.inj (h.symm.trans hsome))
    rw [evaluateArguments]
    simp

/-! ### Evaluating a call -/

section Evaluate

variable {lib : Library} {scene : Scene} {name args : List Char}

lemma looksNumeric_of_mem {d : Char} (hd : isDigit d = false) (hminus : d ≠ '-') (hpoint : d ≠ '.')
    {cs : List Char} (h : d ∈ cs) : looksNumeric cs = false := by
  have hmem : d ∈ eraseFirst '-' (eraseFirst '.' cs) :=
    (List.mem_erase_of_ne hminus).2 ((List.mem_erase_of_ne hpoint).2 h)
  rw [looksNumeric, Bool.and_eq_false_iff]
  exact .inr (List.all_eq_false.2 ⟨d, hmem, by rw [hd]; decide⟩)

/-- A call is evaluated with the arguments up to the first closing parenthesis. -/
lemma evaluateOperand_call (hne : name ≠ []) (hword : ∀ c ∈ name, isWord c = true)
    (hvariable : variableValue? scene.session (name ++ '(' :: (args ++ [')'])) = none) :
    (evaluateOperand lib (name ++ '(' :: (args ++ [')']))).take scene =
      (orEmpty <$> (evaluateArguments lib (args.takeWhile (· != ')')) >>= fun vs =>
        Step.act (callLibrary lib (String.ofList (upper name)) vs))).take scene := by
  have hcall := Shape.call_append hne hword args
  have hlast : (name ++ '(' :: (args ++ [')'])).getLast? = some ')' := by
    rw [← List.cons_append, ← List.append_assoc]
    exact List.getLast?_concat
  have hparen : '(' ∈ name ++ '(' :: (args ++ [')']) := by simp
  have hends : looksLikeCall (name ++ '(' :: (args ++ [')'])) = true := by
    rw [looksLikeCall, endsWith, Bool.and_eq_true, List.contains_iff_mem,
      List.isSuffixOf_iff_suffix]
    exact ⟨hparen, name ++ '(' :: args, by simp⟩
  obtain ⟨c, name, rfl⟩ := List.exists_cons_of_ne_nil hne
  have hfirst := hword c List.mem_cons_self
  have hquoted : quotedText? (c :: name ++ '(' :: (args ++ [')'])) = none := by
    rw [quotedText?, hlast, List.cons_append, List.head?_cons]
    simp [(not_scanned_of_isWord hfirst).1]
  have hstrip : strip (c :: name ++ '(' :: (args ++ [')'])) = c :: name ++
      '(' :: (args ++ [')']) := by
    refine strip_eq_self ?_ ?_
    · rintro d ⟨⟩
      rw [Bool.eq_false_iff]
      intro hblank
      rw [isWord_of_isBlank hblank] at hfirst
      cases hfirst
    · rw [hlast]
      rintro d ⟨⟩
      decide
  rw [evaluateOperand, hstrip, if_neg (by simp), hquoted]
  dsimp only
  rw [looksNumeric_of_mem (by decide) (by decide) (by decide) hparen, if_neg (by decide),
    Step.take_bind, Step.take_get]
  dsimp only
  rw [wordValue?_of_mem (by decide) (by decide) hparen hvariable]
  dsimp only
  rw [hends, if_pos rfl, callFunction_of_call lib hcall]
  rfl

/-- What an expression makes of the value of its only operand: its text if there is an ampersand. -/
def displayed (cs : List Char) (v : Step Value) : Step Value :=
  if '&' ∈ cs then do return .text (← Step.act (operandText (← v))) else v

lemma take_displayed_congr {v u : Step Value} (h : v.take scene = u.take scene) (cs : List Char) :
    (displayed cs v).take scene = (displayed cs u).take scene := by
  unfold displayed
  split
  · rw [Step.take_bind, Step.take_bind, h]
  · exact h

/-- An expression whose ampersands are all quoted is a single operand. -/
lemma evaluate_of_isOperand {cs : List Char} (h : IsOperand cs) :
    evaluate lib cs = displayed cs (evaluateOperand lib cs) := by
  rw [displayed]
  split
  · next hmem =>
    rw [evaluate_of_mem lib hmem, operands, operandPiecesFrom_of_isOperand h, concatenation_filter]
    simp [concatenation]
  · next hmem => exact evaluate_of_notMem lib hmem

end Evaluate

/-! ### Calls of quoted texts -/

/-- In a quotation, nothing changes what is open but the quote that closes it. -/
lemma Nesting.after_of_notMem {q : Char} {cs : List Char} (h : q ∉ cs) (depth : Int) :
    Nesting.after ⟨some q, depth⟩ cs = ⟨some q, depth⟩ := by
  induction cs with
  | nil => rfl
  | cons c cs ih =>
    rw [List.mem_cons, not_or] at h
    have hc : (c == q) = false := beq_eq_false_iff_ne.2 (Ne.symm h.1)
    have hstep : Nesting.step ⟨some q, depth⟩ c = ⟨some q, depth⟩ := by
      simp [Nesting.step, afterQuote, hc]
    rw [Nesting.after_cons, hstep, ih h.2]

/-- A quoted text can stand between commas. -/
lemma isArgument_literal {t : String} (h : '"' ∉ t.toList) : IsArgument (literal t) := by
  have hopen : Nesting.outside.step '"' = ⟨some '"', 0⟩ := by decide
  have hinside : Nesting.CommasInside ⟨some '"', 0⟩ t.toList := by
    intro before rest hcut
    have hbefore : '"' ∉ before := fun hmem => h (by rw [hcut]; exact List.mem_append_left _ hmem)
    rw [Nesting.after_of_notMem hbefore]
    decide
  rw [literal, List.cons_append]
  refine ⟨?_, ?_⟩
  · rw [Nesting.after_cons, hopen, Nesting.after_append, Nesting.after_of_notMem h]
    decide
  · rw [Nesting.commasInside_cons, hopen, Nesting.commasInside_append]
    exact ⟨by decide, hinside, Nesting.commasInside_of_notMem _ (by decide)⟩

lemma isArgument_cons_blank {p : List Char} (h : IsArgument p) : IsArgument (' ' :: p) := by
  have hstep : Nesting.outside.step ' ' = .outside := by decide
  refine ⟨?_, ?_⟩
  · rw [Nesting.after_cons, hstep, h.closed]
  · rw [Nesting.commasInside_cons, hstep]
    exact ⟨by decide, h.inside⟩

/-- Blanks after commas belong to the arguments. -/
lemma intercalate_comma_blank (p : List Char) (ps : List (List Char)) :
    ", ".toList.intercalate (p :: ps) = [','].intercalate (p :: ps.map (' ' :: ·)) := by
  induction ps generalizing p with
  | nil => simp
  | cons q ps ih =>
    have hblank (qs : List (List Char)) :
        [','].intercalate ((' ' :: q) :: qs) = ' ' :: [','].intercalate (q :: qs) := by
      cases qs with
      | nil => simp
      | cons r qs => simp [List.intercalate_cons_cons]
    rw [List.intercalate_cons_cons, ih, List.map_cons, List.intercalate_cons_cons, hblank]
    simp

lemma strip_literal (t : String) : strip (literal t) = literal t := by
  have hnone : ∀ c ∈ ([] : List Char).head?, isBlank c = false := by simp
  exact strip_append_literal hnone t

/-- Quoted texts between commas are the arguments again. -/
lemma argumentTexts_quoted {ts : List String} (h : ∀ t ∈ ts, '"' ∉ t.toList) :
    argumentTexts (Term.inner (ts.map .quoted)) = ts.map literal := by
  have hblank : isBlank ' ' = true := by decide
  have hstrip (u : String) : strip (' ' :: literal u) = literal u := by
    rw [strip_cons_of_isBlank hblank, strip_literal]
  rw [Term.inner, Term.texts_quoted]
  cases ts with
  | nil => decide
  | cons t ts =>
    have hpieces : ∀ p ∈ literal t :: (ts.map literal).map (' ' :: ·),
        IsArgument p ∧ strip p ≠ [] := by
      intro p hp
      rcases List.mem_cons.1 hp with rfl | hp
      · rw [strip_literal]
        exact ⟨isArgument_literal (h t List.mem_cons_self), by simp [literal]⟩
      · rw [List.map_map] at hp
        obtain ⟨u, hu, rfl⟩ := List.mem_map.1 hp
        refine ⟨isArgument_cons_blank (isArgument_literal (h u (List.mem_cons_of_mem t hu))), ?_⟩
        rw [Function.comp_apply, hstrip]
        simp [literal]
    rw [List.map_cons, intercalate_comma_blank, argumentTexts_intercalate (by simp)
      (fun p hp => (hpieces p hp).1) fun p hp => (hpieces p hp).2]
    simp [strip_literal, hstrip]

/-- The arguments of a call of quoted texts mean what they should. -/
lemma evaluateArguments_quoted (lib : Library) {ts : List String} (h : ∀ t ∈ ts, '"' ∉ t.toList) :
    evaluateArguments lib (Term.inner (ts.map .quoted)) =
      Step.act (Term.meanings lib (ts.map .quoted)) := by
  rw [evaluateArguments, argumentTexts_quoted h]
  induction ts with
  | nil => rfl
  | cons t ts ih =>
    rw [List.map_cons, List.map_cons, List.mapM_cons, Term.meanings, Term.meaning,
      evaluate_literal lib (h t List.mem_cons_self),
      ih fun t' ht' => h t' (List.mem_cons_of_mem t ht'), Step.act_bind, Step.act_pure]
    refine congrArg _ (funext fun v => ?_)
    rw [Step.act_bind]
    exact congrArg _ (funext fun vs => (Step.act_pure _).symm)

/-! ### Closing parentheses -/

/-- A call closes its parenthesis, so only quoted texts are without closing ones. -/
lemma exists_quoted {args : List Term} (h : ∀ a ∈ args, ')' ∉ a.text) :
    ∃ ts : List String, args = ts.map .quoted ∧ ∀ t ∈ ts, ')' ∉ t.toList := by
  induction args with
  | nil => exact ⟨[], rfl, by simp⟩
  | cons a args ih =>
    have ha := h a List.mem_cons_self
    obtain ⟨ts, rfl, hts⟩ := ih fun b hb => h b (List.mem_cons_of_mem a hb)
    cases a with
    | quoted t =>
      refine ⟨t :: ts, rfl, List.forall_mem_cons.2 ⟨fun hmem => ha ?_, hts⟩⟩
      rw [Term.text, literal]
      simp [hmem]
    | call name args =>
      rw [Term.text_call] at ha
      simp at ha

/-- No closing parenthesis stands between quoted texts that have none. -/
lemma close_notMem_inner {ts : List String} (h : ∀ t ∈ ts, ')' ∉ t.toList) :
    ')' ∉ Term.inner (ts.map .quoted) := by
  rw [Term.inner, Term.texts_quoted]
  refine notMem_intercalate (by decide) fun p hp => ?_
  obtain ⟨t, ht, rfl⟩ := List.mem_map.1 hp
  rw [literal]
  simp [h t ht]

lemma takeWhile_inner {ts : List String} (h : ∀ t ∈ ts, ')' ∉ t.toList) :
    (Term.inner (ts.map .quoted)).takeWhile (· != ')') = Term.inner (ts.map .quoted) := by
  refine List.takeWhile_eq_self_iff.2 fun c hc => bne_iff_ne.2 ?_
  rintro rfl
  exact close_notMem_inner h hc

lemma quote_notMem {ts : List String} (h : ∀ a ∈ ts.map Term.quoted, a.WellFormed) :
    ∀ t ∈ ts, '"' ∉ t.toList := by
  intro t ht
  cases h _ (List.mem_map_of_mem ht) with
  | quoted hquote => exact hquote

/-- The arguments up to the first closing parenthesis are those of the call exactly if they are
quoted texts without closing parentheses. -/
lemma argumentTexts_inner_iff {args : List Term} (h : ∀ a ∈ args, a.WellFormed) :
    argumentTexts ((Term.inner args).takeWhile (· != ')')) = Term.texts args ↔
      ∃ ts : List String, args = ts.map .quoted ∧ ∀ t ∈ ts, ')' ∉ t.toList := by
  constructor
  · intro heq
    refine exists_quoted fun a ha hmem => ?_
    have htext : a.text ∈ Term.texts args := by
      rw [Term.texts_eq]
      exact List.mem_map_of_mem ha
    rw [← heq] at htext
    have hcut := (infix_of_mem_argumentTexts htext).subset hmem
    exact absurd (List.mem_takeWhile_imp (p := (· != ')')) hcut) (by decide)
  · rintro ⟨ts, rfl, hclose⟩
    rw [takeWhile_inner hclose, argumentTexts_quoted (quote_notMem h), Term.texts_quoted]

/-- The text of a call is evaluated with the arguments up to its first closing parenthesis, and the
value becomes a text if there is an ampersand in it. These are the arguments of the call exactly if
they are quoted texts without closing parentheses, and then the call means what it should, up to the
ampersands. -/
theorem evaluate_call (lib : Library) (scene : Scene) {name : List Char} {args : List Term}
    (h : (Term.call name args).WellFormed)
    (hvariable : variableValue? scene.session (Term.call name args).text = none) :
    (evaluate lib (Term.call name args).text).take scene = (displayed (Term.call name args).text
        (orEmpty <$> (evaluateArguments lib ((Term.inner args).takeWhile (· != ')')) >>= fun vs =>
          Step.act (callLibrary lib (String.ofList (upper name)) vs)))).take scene ∧
      (argumentTexts ((Term.inner args).takeWhile (· != ')')) = Term.texts args ↔
        ∃ ts : List String, args = ts.map .quoted ∧ ∀ t ∈ ts, ')' ∉ t.toList) ∧
      ∀ ts : List String, args = ts.map .quoted → (∀ t ∈ ts, ')' ∉ t.toList) →
        (evaluate lib (Term.call name args).text).take scene =
          (displayed (Term.call name args).text
            (Step.act ((Term.call name args).meaning lib))).take scene := by
  have hargs := h.arguments
  have hcall : (evaluate lib (Term.call name args).text).take scene =
      (displayed (Term.call name args).text
        (orEmpty <$> (evaluateArguments lib ((Term.inner args).takeWhile (· != ')')) >>= fun vs =>
          Step.act (callLibrary lib (String.ofList (upper name)) vs)))).take scene := by
    rw [evaluate_of_isOperand h.isOperand]
    refine take_displayed_congr ?_ _
    cases h with
    | call hne hword _ =>
      rw [Term.text_call] at hvariable ⊢
      exact evaluateOperand_call hne hword hvariable
  refine ⟨hcall, argumentTexts_inner_iff hargs, ?_⟩
  rintro ts rfl hclose
  rw [hcall, takeWhile_inner hclose, evaluateArguments_quoted lib (quote_notMem hargs),
    Term.meaning, ← map_bind, Step.act_map, Step.act_bind]

/-- A call of a quoted text with a comma and an opening parenthesis. -/
def openCall : Term := .call "UCase".toList [.quoted "a, (b"]

/-- The comma and the parenthesis do not matter. -/
theorem evaluate_call_openCall :
    openCall.WellFormed ∧ variableValue? freshSession openCall.text = none ∧
      (evaluate (library .capital) openCall.text).take firstScene =
        (Step.act (openCall.meaning (library .capital))).take firstScene := by
  have hformed : openCall.WellFormed := by
    refine .call (by decide) (List.all_eq_true.1 (by decide)) fun a ha => ?_
    rw [List.mem_singleton.1 ha]
    exact .quoted (by decide)
  have hvariable : variableValue? freshSession openCall.text = none := by decide
  have hcall := (evaluate_call (library .capital) firstScene hformed hvariable).2.2 ["a, (b"] rfl
    (by decide)
  rw [displayed, if_neg (by decide)] at hcall
  exact ⟨hformed, hvariable, hcall⟩

/-- A call of a function on what another one gives. -/
def nestedCall : Term := .call "UCASE".toList [.call "TRIM".toList [.quoted "a"]]

/-- The inner call is not made: its text without the closing parenthesis is the argument of the
outer one. -/
theorem inner_call_not_made :
    (evaluate (library .capital) nestedCall.text).take firstScene =
        (.ok (.text "TRIM(\"A\""), firstScene) ∧
      (nestedCall.meaning (library .capital)).carryOut firstScene.world =
        (.ok (.text "A"), firstScene.world) := by
  have hinner : (evaluate (library .capital) "TRIM(\"a\"".toList).take firstScene =
      (.ok (.text "TRIM(\"a\""), firstScene) := by
    rw [take_evaluate_formula _ (by decide) (by decide) (by decide) (by decide) (by decide)
      (by decide) (by decide)]
    exact Library.ReadsFormula.take_unreadable rfl (by decide)
  have hargs : (evaluateArguments (library .capital) "TRIM(\"a\"".toList).take firstScene =
      (.ok [.text "TRIM(\"a\""], firstScene) := by
    have htexts : argumentTexts "TRIM(\"a\"".toList = ["TRIM(\"a\"".toList] := by decide
    rw [evaluateArguments, htexts, List.mapM_cons, List.mapM_nil, Step.take_bind, hinner]
    rfl
  have htext : nestedCall.text = "UCASE".toList ++ '(' :: ("TRIM(\"a\")".toList ++ [')']) := by
    decide
  have hcut : "TRIM(\"a\")".toList.takeWhile (· != ')') = "TRIM(\"a\"".toList := by decide
  refine ⟨?_, rfl⟩
  rw [htext, evaluate_of_notMem _ (by decide),
    evaluateOperand_call (by decide) (List.all_eq_true.1 (by decide)) (by decide), hcut,
    map_eq_pure_bind, Step.take_bind, Step.take_bind, hargs]
  rfl

end ScriptHost.Script
