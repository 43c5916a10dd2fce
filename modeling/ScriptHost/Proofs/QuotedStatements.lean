import ScriptHost.Proofs.SingleLine

/-!
# Statements with a quoted text

What the characters of a quoted text can do to the statement that it stands in. The value of a text
between quotes is that text, whatever it holds (`evaluate_literal`). But constants are replaced in a
line before anything else is looked at, and the kind of a statement is told from the whole line. So
a quoted text is printed as it is only if it names no constant and holds no equals sign, or holds a
`THEN` along with it, and it is assigned as it is only if it names no constant and holds no `THEN`:
`take_quoted_iff`.
-/

namespace ScriptHost.Script

open ScriptHost.Text

/-! ### Quoted texts -/

section Literal

variable {t : String}

/-- The value of a text between double quotes is that text, also if there are ampersands in it. -/
lemma evaluate_literal (lib : Library) (h : '"' ∉ t.toList) :
    evaluate lib (literal t) = pure (.text t) := by
  by_cases hmem : '&' ∈ literal t
  · have hpieces : operandPiecesFrom none [] (literal t) = [literal t] := by
      have hops : ∀ p ∈ [literal t], IsOperand p := by simpa using isOperand_literal h
      simpa using operandPiecesFrom_intercalate (by simp) hops
    have hvalue : concatenation lib (operands (literal t)) = pure t := by
      rw [operands, hpieces, concatenation_filter]
      simpa [String.join] using concatenation_literals lib [t]
    rw [evaluate_of_mem lib hmem, hvalue]
    rfl
  · rw [evaluate_of_notMem lib hmem, evaluateOperand_literal]

/-- There are no blanks at the end of a line that ends in a quoted text. -/
lemma strip_append_literal {first : List Char} (hfirst : ∀ c ∈ first.head?, isBlank c = false)
    (t : String) : strip (first ++ literal t) = first ++ literal t := by
  have hblank : isBlank '"' = false := by decide
  have hlast : (first ++ literal t).getLast? = some '"' := by
    rw [literal, ← List.append_assoc]
    exact List.getLast?_concat
  refine strip_eq_self (fun c hc => ?_) fun c hc => ?_
  · cases first with
    | nil =>
      obtain rfl : '"' = c := Option.some.inj hc
      exact hblank
    | cons d first => exact hfirst c hc
  · obtain rfl : '"' = c := Option.some.inj (hlast.symm.trans hc)
    exact hblank

/-- A quoted text after the replacement of constants. -/
def replaced (t : String) : String :=
  String.ofList (substitute t.toList)

lemma substitute_literal (t : String) : substitute (literal t) = literal (replaced t) := by
  have hquote : isWord '"' = false := by decide
  have hnone : substitute [] = [] := by decide
  have hclose : substitute (t.toList ++ ['"']) = substitute t.toList ++ ['"'] := by
    rw [substitute_append_cons hquote, hnone]
  have hopen : substitute ([] ++ '"' :: (t.toList ++ ['"'])) =
      substitute [] ++ '"' :: substitute (t.toList ++ ['"']) := substitute_append_cons hquote _ _
  rw [hnone, hclose, List.nil_append, List.nil_append] at hopen
  rw [literal, literal, replaced, String.toList_ofList]
  exact hopen

lemma quote_notMem_replaced (h : '"' ∉ t.toList) : '"' ∉ (replaced t).toList := by
  rw [replaced, String.toList_ofList]
  exact fun hmem => h (mem_of_mem_substitute (by decide) hmem)

lemma replaced_eq_iff : replaced t = t ↔ FreeOfConstants t.toList := by
  rw [← substitute_eq_self_iff, ← String.toList_inj, replaced, String.toList_ofList]

/-- A word without quotes is no part of a line with a quoted text but of what stands around the text
or of the text. -/
lemma then_mem_iff {first : List Char} (hfirst : ¬ " THEN ".toList <:+: first) (t : String) :
    " THEN ".toList <:+: first ++ upper (literal t) ↔ " THEN ".toList <:+: upper t.toList := by
  have hquote : '"' ∉ " THEN ".toList := by decide
  have hupper : upper (literal t) = '"' :: (upper t.toList ++ ['"']) := by
    have hmark : upper ['"'] = ['"'] := by decide
    have hparts : literal t = ['"'] ++ (t.toList ++ ['"']) := rfl
    rw [hparts, upper_append, upper_append, hmark, List.singleton_append]
  rw [hupper]
  constructor
  · intro h
    rcases infix_of_infix_append_cons hquote h with h | h
    · exact absurd h hfirst
    · rcases infix_of_infix_append_cons hquote h with h | h
      · exact h
      · exact absurd h (by simp)
  · intro h
    refine h.trans ⟨first ++ ['"'], ['"'], ?_⟩
    simp

lemma then_mem_printLine (t : String) :
    " THEN ".toList <:+: upper (printLine (literal t)) ↔ " THEN ".toList <:+: upper t.toList := by
  have hword : ¬ " THEN ".toList <:+: "WSCRIPT.ECHO ".toList := by
    rw [← occurs_eq_false_iff]
    decide
  rw [upper_printLine]
  exact then_mem_iff hword t

lemma then_mem_assignLine (t : String) :
    " THEN ".toList <:+: upper (assignLine (literal t)) ↔ " THEN ".toList <:+: upper t.toList := by
  have hname : ¬ " THEN ".toList <:+: "X = ".toList := by
    rw [← occurs_eq_false_iff]
    decide
  rw [upper_assignLine]
  exact then_mem_iff hname t

end Literal

/-! ### Printing a quoted text -/

section Print

variable {lib : Library} {scene after : Scene} {t : String}

/-- What is printed can be read off the scene. -/
lemma printing_inj {a b : String} (h : scene.printing a = scene.printing b) : a = b := by
  have houtput : scene.world.output ++ a = scene.world.output ++ b :=
    congrArg (fun s : Scene => s.world.output) h
  have hlists := congrArg String.toList houtput
  rw [String.toList_append, String.toList_append] at hlists
  exact String.toList_inj.1 (List.append_cancel_left hlists)

/-- How a line that prints a quoted text is taken depends on that text. -/
lemma kindOf_printLine_literal (d : Dialect) (t : String) :
    kindOf d (printLine (literal t)) =
      if '=' ∈ t.toList ∧ ¬ " THEN ".toList <:+: upper t.toList then .assignment else .echo := by
  have hequals : '=' ∈ literal t ↔ '=' ∈ t.toList := by simp [literal]
  rw [kindOf_printLine]
  exact if_congr (and_congr hequals (not_congr (then_mem_printLine t))) rfl rfl

/-- A line that is taken for a printing one prints the quoted text with its constants replaced. -/
lemma take_printLine_literal (hs : scene.session.constants = true) (hquote : '"' ∉ t.toList)
    (h : '=' ∉ (replaced t).toList ∨ " THEN ".toList <:+: upper (replaced t).toList) :
    (executeLine lib (printLine (literal t))).take scene =
      (.ok (), scene.printing (replaced t ++ "\n")) := by
  have hprepared : prepare scene.session (printLine (literal t)) =
      printLine (literal (replaced t)) := by
    rw [prepare_printLine hs, substitute_literal]
  have hkind : kindOf lib.dialect (prepare scene.session (printLine (literal t))) = .echo := by
    rw [hprepared, kindOf_printLine_literal, if_neg]
    rintro ⟨hequals, hthen⟩
    rcases h with h | h
    · exact h hequals
    · exact hthen h
  rw [take_executeLine_of_kind lib hkind (by decide), hprepared]
  exact take_executeEcho lib scene
    (by rw [evaluate_literal lib (quote_notMem_replaced hquote), Step.take_pure])

/-- A successful assignment to a name that was not there is seen in the variables. -/
lemma not_alike_executeAssignment {line : List Char} (hequals : '=' ∈ line)
    (hname : pairGet? (String.ofList (strip (line.takeWhile (· != '=')))) scene.session.variables =
      none)
    (h : (executeAssignment lib line).take scene = (.ok (), after)) :
    ¬ Alike scene.session after.session := by
  intro halike
  rw [executeAssignment, if_pos (List.contains_iff_mem.2 hequals), Step.take_bind] at h
  rcases hvalue : (evaluate lib (strip ((line.dropWhile (· != '=')).drop 1))).take scene with
    ⟨e | v, mid⟩
  · rw [hvalue] at h
    exact absurd (congrArg Prod.fst h) (by simp)
  · rw [hvalue] at h
    have hsession : after.session =
        assign mid.session (strip (line.takeWhile (· != '='))) v :=
      (congrArg (fun r => r.2.session) h).symm
    rw [halike.variables_eq, hsession, assign, pairGet?_pairSet, if_pos rfl] at hname
    cases hname

/-- No variable of a fresh session has a quote in its name. -/
lemma pairGet?_freshSession {name : List Char} (h : '"' ∈ name) :
    pairGet? (String.ofList name) freshSession.variables = none := by
  have hne (key : String) (hkey : '"' ∉ key.toList) : String.ofList name ≠ key := by
    rintro rfl
    rw [String.toList_ofList] at hkey
    exact hkey h
  rw [freshSession, pairGet?_cons, if_neg (hne _ (by decide)), pairGet?_cons,
    if_neg (hne _ (by decide))]
  rfl

/-- What stands before the first equals sign of a line that prints a quoted text has the opening
quote in it. -/
lemma quote_mem_takeWhile (t : String) :
    '"' ∈ strip ((printLine (literal t)).takeWhile (· != '=')) := by
  have hword : ("WScript.Echo ".toList.all (· != '=')) = true := by decide
  have hmem : '"' ∈ (literal t).takeWhile (· != '=') := by simp [literal]
  have hparts : (printLine (literal t)).takeWhile (· != '=') =
      "WScript.Echo ".toList ++ (literal t).takeWhile (· != '=') :=
    List.takeWhile_append_of_pos (List.all_eq_true.1 hword)
  rw [hparts]
  exact mem_strip (by decide) (List.mem_append_right _ hmem)

/-- A line that prints, but is taken for an assignment, does not leave the variables as they are, or
fails. -/
lemma not_alike_printLine_literal (hs : scene.session.constants = true)
    (hvariables : ∀ name, '"' ∈ name →
      pairGet? (String.ofList name) scene.session.variables = none)
    (hequals : '=' ∈ (replaced t).toList)
    (hthen : ¬ " THEN ".toList <:+: upper (replaced t).toList)
    (h : (executeLine lib (printLine (literal t))).take scene = (.ok (), after)) :
    ¬ Alike scene.session after.session := by
  have hprepared : prepare scene.session (printLine (literal t)) =
      printLine (literal (replaced t)) := by
    rw [prepare_printLine hs, substitute_literal]
  have hkind : kindOf lib.dialect (prepare scene.session (printLine (literal t))) =
      .assignment := by
    rw [hprepared, kindOf_printLine_literal, if_pos ⟨hequals, hthen⟩]
  rw [take_executeLine_of_kind lib hkind (by decide), hprepared] at h
  generalize replaced t = u at hequals h
  have hmem : '=' ∈ printLine (literal u) := by simp [printLine_eq, literal, hequals]
  exact not_alike_executeAssignment hmem (hvariables _ (quote_mem_takeWhile u)) h

/-- In a fresh session, a quoted text is printed as it is and nothing else is done exactly if it
names no constant and its line is not taken for an assignment. -/
lemma take_printLine_literal_iff (w : World) (hquote : '"' ∉ t.toList) :
    (executeLine lib (printLine (literal t))).take ⟨freshSession, w⟩ =
        (.ok (), Scene.printing (t ++ "\n") ⟨freshSession, w⟩) ↔
      FreeOfConstants t.toList ∧
        ('=' ∉ t.toList ∨ " THEN ".toList <:+: upper t.toList) := by
  constructor
  · intro h
    by_cases hkind : '=' ∉ (replaced t).toList ∨ " THEN ".toList <:+: upper (replaced t).toList
    · rw [take_printLine_literal rfl hquote hkind] at h
      have htext : replaced t ++ "\n" = t ++ "\n" := printing_inj (congrArg Prod.snd h)
      have hsame : replaced t = t := by
        have hlists := congrArg String.toList htext
        rw [String.toList_append, String.toList_append] at hlists
        exact String.toList_inj.1 (List.append_cancel_right hlists)
      rw [hsame] at hkind
      exact ⟨replaced_eq_iff.1 hsame, hkind⟩
    · rw [not_or, not_not] at hkind
      exact absurd (.refl freshSession) (not_alike_printLine_literal rfl
        (fun _ => pairGet?_freshSession) hkind.1 hkind.2 h)
  · rintro ⟨hfree, hkind⟩
    have hsame := replaced_eq_iff.2 hfree
    have hprint : (executeLine lib (printLine (literal t))).take ⟨freshSession, w⟩ =
        (.ok (), Scene.printing (replaced t ++ "\n") ⟨freshSession, w⟩) :=
      take_printLine_literal rfl hquote (hsame.symm ▸ hkind)
    rwa [hsame] at hprint

/-- A script that prints a quoted text does what its line does. -/
lemma run_printLine_literal (hlib : lib.evaluator.Confined) (hs : scene.session.constants = true)
    (hquote : '"' ∉ t.toList) (hline : '\n' ∉ t.toList)
    (h : '=' ∉ (replaced t).toList ∨ " THEN ".toList <:+: upper (replaced t).toList) :
    (run lib (printLine (literal t))).take scene =
      (.ok (), Scene.printing (replaced t ++ "\n") (scene.atLine 1)) := by
  have hstrip : strip (printLine (literal t)) = printLine (literal t) :=
    strip_append_literal (by rintro c ⟨⟩; decide) t
  have hnewline : '\n' ∉ printLine (literal t) := by simp [printLine_eq, literal, hline]
  refine run_of_executeLine_ok hlib hnewline (by rw [hstrip]; rfl) ?_
  rw [hstrip]
  exact take_printLine_literal hs hquote h

end Print

/-! ### Assigning a quoted text -/

/-- In a fresh session, a quoted text is assigned as it is exactly if it names no constant and its
line is not taken for something else than an assignment. -/
lemma variableValue?_literal_iff {t : String} {lib : Library} (hlib : lib.evaluator.Confined)
    (w : World) (hquote : '"' ∉ t.toList) (hline : '\n' ∉ t.toList) :
    variableValue? ((run lib (assignLine (literal t))).take ⟨freshSession, w⟩).2.session ['x'] =
        some (.text t) ↔
      FreeOfConstants t.toList ∧ ¬ " THEN ".toList <:+: upper t.toList := by
  have hquoted : strip ([] ++ literal t) = [] ++ literal t := strip_append_literal (by simp) t
  have hassigned : strip (assignLine (literal t)) = assignLine (literal t) :=
    strip_append_literal (by rintro c ⟨⟩; decide) t
  have hne : strip (literal t) ≠ [] := by
    rw [List.nil_append] at hquoted
    rw [hquoted]
    simp [literal]
  have hnewline : '\n' ∉ literal t := by simp [literal, hline]
  rw [variableValue?_run_assignLine hlib w hnewline hne, hassigned, substitute_assignLine,
    substitute_literal, evaluate_literal lib (quote_notMem_replaced hquote), ← replaced_eq_iff]
  have hthen := then_mem_assignLine (replaced t)
  constructor
  · intro h
    split at h
    · cases h
    · next hkept =>
      have hsame : replaced t = t := Value.text.inj (Option.some.inj h)
      rw [hthen, hsame] at hkept
      exact ⟨hsame, hkept⟩
  · rintro ⟨hsame, hkept⟩
    rw [if_neg (by rw [hthen, hsame]; exact hkept), hsame]
    rfl

/-! ### Which texts are safe -/

/-- What quoted texts do to the statements that they stand in, in a fresh session. A line that
prints a quoted text prints that text and does nothing else exactly if the text names no constant
and holds no equals sign, or a `THEN` between blanks along with it; then the script of that line
does nothing but print it. After a script that assigns a quoted text to a variable, the variable has
that text for its value exactly if the text names no constant and holds no `THEN` between blanks. -/
theorem take_quoted_iff {lib : Library} (hlib : lib.evaluator.Confined) (w : World) (t : String)
    (hquote : '"' ∉ t.toList) (hline : '\n' ∉ t.toList) :
    ((executeLine lib (printLine (literal t))).take ⟨freshSession, w⟩ =
        (.ok (), Scene.printing (t ++ "\n") ⟨freshSession, w⟩) ↔
      FreeOfConstants t.toList ∧ ('=' ∉ t.toList ∨ " THEN ".toList <:+: upper t.toList)) ∧
    (FreeOfConstants t.toList ∧ ('=' ∉ t.toList ∨ " THEN ".toList <:+: upper t.toList) →
      (run lib (printLine (literal t))).take ⟨freshSession, w⟩ =
        (.ok (), Scene.printing (t ++ "\n") (Scene.atLine 1 ⟨freshSession, w⟩))) ∧
    (variableValue? ((run lib (assignLine (literal t))).take ⟨freshSession, w⟩).2.session ['x'] =
        some (.text t) ↔
      FreeOfConstants t.toList ∧ ¬ " THEN ".toList <:+: upper t.toList) := by
  refine ⟨take_printLine_literal_iff w hquote, ?_, variableValue?_literal_iff hlib w hquote hline⟩
  rintro ⟨hfree, hkind⟩
  have hsame := replaced_eq_iff.2 hfree
  have hprint : (run lib (printLine (literal t))).take ⟨freshSession, w⟩ =
      (.ok (), Scene.printing (replaced t ++ "\n") (Scene.atLine 1 ⟨freshSession, w⟩)) :=
    run_printLine_literal hlib rfl hquote hline (hsame.symm ▸ hkind)
  rwa [hsame] at hprint

/-- A text that looks like a conditional is printed, but cannot be assigned. -/
theorem take_quoted_iff_conditional :
    (run (library .capital) (printLine (literal "if a = (b & c) then d"))).take firstScene =
        (.ok (), Scene.printing "if a = (b & c) then d\n" (Scene.atLine 1 firstScene)) ∧
      variableValue? ((run (library .capital)
        (assignLine (literal "if a = (b & c) then d"))).take firstScene).2.session ['x'] ≠
        some (.text "if a = (b & c) then d") := by
  have hfree : FreeOfConstants "if a = (b & c) then d".toList := by
    rw [← substitute_eq_self_iff]
    decide
  have hthen : " THEN ".toList <:+: upper "if a = (b & c) then d".toList := by
    rw [← occurs_iff]
    decide
  obtain ⟨-, hprint, hassign⟩ := take_quoted_iff (confined_library .capital) firstScene.world
    "if a = (b & c) then d" (by decide) (by decide)
  exact ⟨hprint ⟨hfree, .inr hthen⟩, fun h => (hassign.1 h).2 hthen⟩

/-- The name of a constant is not printed but its value, and a text with a `THEN` in it is not
assigned. -/
theorem quoted_texts_misread :
    (run (library .capital) (printLine (literal "vbYes"))).take firstScene =
        (.ok (), Scene.printing "6\n" (Scene.atLine 1 firstScene)) ∧
      variableValue? ((run (library .capital)
        (assignLine (literal "now then go"))).take firstScene).2.session ['x'] = none := by
  have hvalue : replaced "vbYes" = "6" := by decide
  have hprint : (run (library .capital) (printLine (literal "vbYes"))).take firstScene =
      (.ok (), Scene.printing (replaced "vbYes" ++ "\n") (Scene.atLine 1 firstScene)) :=
    run_printLine_literal (confined_library .capital) rfl (by decide) (by decide) (.inl (by decide))
  rw [hvalue] at hprint
  refine ⟨hprint, ?_⟩
  have hthen : " THEN ".toList <:+:
      upper (substitute (strip (assignLine (literal "now then go")))) := by
    rw [← occurs_iff]
    decide
  exact (variableValue?_run_assignLine (confined_library .capital) firstScene.world (by decide)
    (by decide)).trans (if_pos hthen)

end ScriptHost.Script
