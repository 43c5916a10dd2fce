import ScriptHost.Proofs.SingleLine

/-!
# Arguments between commas

Arguments are cut by a scanner that knows what is open: a quotation perhaps, and a number of
parentheses. Texts that close what they open and have no comma outside of it are found again as the
pieces between the commas (`argumentTexts_intercalate`). Replacing constants changes nothing of
that, since neither a name nor a numeral has a character that the scanner looks for
(`IsArgument.substitute`).
-/

namespace ScriptHost.Script

open ScriptHost.Text

/-! ### What is open -/

/-- What is open at a place in a text: a quotation perhaps, and so many parentheses. -/
structure Nesting where
  inside : Option Char
  depth : Int
  deriving DecidableEq

namespace Nesting

/-- Nothing is open. -/
def outside : Nesting := ⟨none, 0⟩

/-- What is open after a character. -/
def step (n : Nesting) (c : Char) : Nesting :=
  if isQuote c then ⟨afterQuote n.inside c, n.depth⟩
  else if n.inside.isSome then n
  else ⟨n.inside, depthAfter n.depth c⟩

/-- What is open after a text. -/
def after (n : Nesting) (cs : List Char) : Nesting :=
  cs.foldl step n

/-- Each comma of a text is inside a quotation or parentheses. -/
def CommasInside (n : Nesting) (cs : List Char) : Prop :=
  ∀ before rest, cs = before ++ ',' :: rest → n.after before ≠ outside

lemma eq_outside {n : Nesting} (hinside : n.inside = none) (hdepth : n.depth = 0) :
    n = outside := by
  obtain ⟨inside, depth⟩ := n
  dsimp only at hinside hdepth
  rw [hinside, hdepth, outside]

variable (n : Nesting)

lemma after_cons (c : Char) (cs : List Char) : n.after (c :: cs) = (n.step c).after cs :=
  rfl

lemma after_append (a b : List Char) : n.after (a ++ b) = (n.after a).after b :=
  List.foldl_append

lemma commasInside_nil : n.CommasInside [] := by
  intro before rest h
  exact absurd h.symm (by simp)

lemma commasInside_cons (c : Char) (cs : List Char) :
    n.CommasInside (c :: cs) ↔ (c = ',' → n ≠ outside) ∧ (n.step c).CommasInside cs := by
  constructor
  · intro h
    refine ⟨?_, fun before rest hcs => ?_⟩
    · rintro rfl
      exact h [] cs rfl
    · exact h (c :: before) rest (by rw [hcs, List.cons_append])
  · rintro ⟨hfirst, hrest⟩ before rest h
    cases before with
    | nil => exact hfirst (List.cons.inj h).1
    | cons d before =>
      obtain ⟨rfl, hcs⟩ := List.cons.inj h
      exact hrest before rest hcs

instance decidableCommasInside : (n : Nesting) → (cs : List Char) → Decidable (n.CommasInside cs)
  | n, [] => .isTrue (commasInside_nil n)
  | n, c :: cs =>
    have := decidableCommasInside (n.step c) cs
    decidable_of_iff _ (n.commasInside_cons c cs).symm

lemma commasInside_append (a b : List Char) :
    n.CommasInside (a ++ b) ↔ n.CommasInside a ∧ (n.after a).CommasInside b := by
  induction a generalizing n with
  | nil => exact ⟨fun h => ⟨commasInside_nil n, h⟩, fun h => h.2⟩
  | cons c a ih =>
    rw [List.cons_append, commasInside_cons, commasInside_cons, ih, after_cons, and_assoc]

lemma commasInside_of_notMem {cs : List Char} (h : ',' ∉ cs) : n.CommasInside cs := by
  rintro before rest rfl
  simp at h

/-- Quotes and parentheses alone change what is open. -/
lemma step_eq_self {c : Char} (hquote : isQuote c = false) (hopen : c ≠ '(') (hclose : c ≠ ')') :
    n.step c = n := by
  have hdepth : depthAfter n.depth c = n.depth := by simp [depthAfter, hopen, hclose]
  rw [step, hquote, hdepth]
  simp

lemma after_eq_self {cs : List Char} (h : ∀ c ∈ cs, isQuote c = false ∧ c ≠ '(' ∧ c ≠ ')') :
    n.after cs = n := by
  induction cs with
  | nil => rfl
  | cons c cs ih =>
    obtain ⟨hquote, hopen, hclose⟩ := h c List.mem_cons_self
    rw [after_cons, step_eq_self n hquote hopen hclose]
    exact ih fun d hd => h d (List.mem_cons_of_mem c hd)

end Nesting

/-- A text that can stand between commas: it closes every quotation and every parenthesis that it
opens, and each comma in it is inside of one. -/
structure IsArgument (p : List Char) : Prop where
  closed : Nesting.outside.after p = .outside
  inside : Nesting.outside.CommasInside p

instance (p : List Char) : Decidable (IsArgument p) :=
  decidable_of_iff (Nesting.outside.after p = .outside ∧ Nesting.outside.CommasInside p)
    ⟨fun h => ⟨h.1, h.2⟩, fun h => ⟨h.closed, h.inside⟩⟩

/-! ### The scanner -/

/-- A text without commas outside goes into the piece that is being read. -/
lemma commaPiecesFrom_append {n : Nesting} {p : List Char} (h : n.CommasInside p)
    (cur rest : List Char) :
    commaPiecesFrom n.inside n.depth cur (p ++ rest) =
      commaPiecesFrom (n.after p).inside (n.after p).depth (p.reverse ++ cur) rest := by
  induction p generalizing n cur with
  | nil => rfl
  | cons c p ih =>
    obtain ⟨hfirst, hrest⟩ := (n.commasInside_cons c p).1 h
    have hnext : commaPiecesFrom (n.step c).inside (n.step c).depth (c :: cur) (p ++ rest) =
        commaPiecesFrom (n.after (c :: p)).inside (n.after (c :: p)).depth ((c :: p).reverse ++ cur)
          rest := by
      rw [ih hrest, Nesting.after_cons, List.reverse_cons, List.append_assoc, List.singleton_append]
    rw [← hnext, List.cons_append, commaPiecesFrom, Nesting.step]
    by_cases hquote : isQuote c = true
    · rw [if_pos hquote, if_pos hquote]
    · rw [if_neg hquote, if_neg hquote]
      by_cases hinside : n.inside.isSome = true
      · rw [if_pos hinside, if_pos hinside]
      · have hcut : ¬ (c == ',' && n.depth == 0) = true := by
          intro hcut
          obtain ⟨hcomma, hdepth⟩ := (Bool.and_eq_true _ _).mp hcut
          exact hfirst (eq_of_beq hcomma)
            (Nesting.eq_outside (Option.not_isSome_iff_eq_none.1 hinside) (eq_of_beq hdepth))
        rw [if_neg hinside, if_neg hinside, if_neg hcut]

/-- A text without commas outside is a single piece. -/
lemma commaPieces_of_commasInside {p : List Char} (h : Nesting.outside.CommasInside p) :
    commaPieces p = [p] := by
  have hread := commaPiecesFrom_append h [] []
  rw [List.append_nil, List.append_nil, commaPiecesFrom, List.reverse_reverse] at hread
  exact hread

/-- An argument before a comma is the first piece, and the others stand after the comma. -/
lemma commaPieces_append_cons {p : List Char} (h : IsArgument p) (rest : List Char) :
    commaPieces (p ++ ',' :: rest) = p :: commaPieces rest := by
  have hread := commaPiecesFrom_append h.inside [] (',' :: rest)
  rw [h.closed, List.append_nil, commaPiecesFrom, if_neg (by decide), if_neg (by decide),
    if_pos (by decide), List.reverse_reverse] at hread
  exact hread

/-- Arguments that were joined by commas are the pieces between the commas. -/
theorem commaPieces_intercalate {ps : List (List Char)} (hne : ps ≠ [])
    (h : ∀ p ∈ ps, IsArgument p) : commaPieces ([','].intercalate ps) = ps := by
  induction ps with
  | nil => exact absurd rfl hne
  | cons p ps ih =>
    have hp := h p List.mem_cons_self
    cases ps with
    | nil => simpa using commaPieces_of_commasInside hp.inside
    | cons q ps =>
      have hrest := ih (by simp) fun p' hp' => h p' (List.mem_cons_of_mem p hp')
      rw [List.intercalate_cons_cons, List.append_assoc, List.singleton_append,
        commaPieces_append_cons hp, hrest]

lemma exists_of_strip_ne_nil {p : List Char} (h : strip p ≠ []) : ∃ c ∈ p, isBlank c = false := by
  by_contra hnone
  refine h ?_
  have hblank : ∀ c ∈ p, isBlank c = true := by
    intro c hc
    by_contra hc'
    exact hnone ⟨c, hc, Bool.eq_false_iff.2 hc'⟩
  have hstrip := strip_append_append hblank [] (show ∀ c ∈ ([] : List Char), isBlank c = true by
    simp)
  rw [List.append_nil, List.append_nil] at hstrip
  exact hstrip

/-- Arguments that were joined by commas are found again, without the blanks around them. -/
theorem argumentTexts_intercalate {ps : List (List Char)} (hne : ps ≠ [])
    (h : ∀ p ∈ ps, IsArgument p) (hfull : ∀ p ∈ ps, strip p ≠ []) :
    argumentTexts ([','].intercalate ps) = ps.map strip := by
  have hpieces := commaPieces_intercalate hne h
  have hlast : ¬ (ps.getLast? == some []) = true := by
    intro hempty
    have hmem := List.mem_of_getLast? (eq_of_beq hempty)
    exact hfull [] hmem rfl
  have hblank : ¬ (strip ([','].intercalate ps)).isEmpty = true := by
    obtain ⟨p, rest, rfl⟩ := List.exists_cons_of_ne_nil hne
    obtain ⟨c, hc, hc'⟩ := exists_of_strip_ne_nil (hfull p List.mem_cons_self)
    have hmem : c ∈ [','].intercalate (p :: rest) := by
      cases rest with
      | nil => simpa using hc
      | cons q rest =>
        rw [List.intercalate_cons_cons, List.append_assoc]
        exact List.mem_append_left _ hc
    rw [List.isEmpty_iff]
    exact List.ne_nil_of_mem (mem_strip hc' hmem)
  rw [argumentTexts, if_neg hblank, splitArguments, hpieces, dropEmptyLast, if_neg hlast]

/-! ### Characters of texts between separators -/

lemma notMem_intercalate {sep : List Char} {ps : List (List Char)} {c : Char} (hsep : c ∉ sep)
    (h : ∀ p ∈ ps, c ∉ p) : c ∉ sep.intercalate ps := by
  induction ps with
  | nil => simp
  | cons p ps ih =>
    have hp := h p List.mem_cons_self
    cases ps with
    | nil => simpa using hp
    | cons q ps =>
      rw [List.intercalate_cons_cons, List.mem_append, List.mem_append]
      rintro ((hmem | hmem) | hmem)
      · exact hp hmem
      · exact hsep hmem
      · exact ih (fun p' hp' => h p' (List.mem_cons_of_mem p hp')) hmem

/-! ### Replacing constants -/

/-- A text is a run of word characters, or such a run and what comes after it; its constants are
replaced in the run and in what comes after it. -/
lemma substitute_cases (cs : List Char) :
    ((∀ c ∈ cs, isWord c = true) ∧ ∀ c ∈ substitute cs, isWord c = true) ∨
      ∃ w w' c rest, cs = w ++ c :: rest ∧ substitute cs = w' ++ c :: substitute rest ∧
        (∀ d ∈ w, isWord d = true) ∧ (∀ d ∈ w', isWord d = true) ∧ (w = [] → w' = []) ∧
        isWord c = false := by
  have hrun {w : List Char} (hw : ∀ c ∈ w, isWord c = true) : ∀ c ∈ substitute w,
      isWord c = true := by
    by_cases hne : w = []
    · have hnone : substitute [] = [] := by decide
      rw [hne, hnone]
      simp
    · rw [substitute_word hne hw]
      exact isWord_constantText hw
  rcases forall_isWord_or_exists cs with hall | ⟨w, c, rest, rfl, hw, hc⟩
  · exact .inl ⟨hall, hrun hall⟩
  · refine .inr ⟨w, substitute w, c, rest, rfl, substitute_append_cons hc w rest, hw, hrun hw, ?_,
      hc⟩
    rintro rfl
    decide

lemma not_scanned_of_isWord {c : Char} (h : isWord c = true) :
    isQuote c = false ∧ c ≠ '(' ∧ c ≠ ')' ∧ c ≠ ',' := by
  refine ⟨?_, ?_, ?_, ?_⟩
  · rw [Bool.eq_false_iff]
    intro hquote
    rcases (Bool.or_eq_true _ _).mp hquote with hc | hc
    · rw [eq_of_beq hc] at h
      exact absurd h (by decide)
    · rw [eq_of_beq hc] at h
      exact absurd h (by decide)
  · rintro rfl
    exact absurd h (by decide)
  · rintro rfl
    exact absurd h (by decide)
  · rintro rfl
    exact absurd h (by decide)

namespace Nesting

lemma after_word {w : List Char} (hw : ∀ c ∈ w, isWord c = true) (n : Nesting) : n.after w = n := by
  refine after_eq_self n fun c hc => ?_
  obtain ⟨hquote, hopen, hclose, -⟩ := not_scanned_of_isWord (hw c hc)
  exact ⟨hquote, hopen, hclose⟩

lemma commasInside_word {w : List Char} (hw : ∀ c ∈ w, isWord c = true) (n : Nesting) :
    n.CommasInside w :=
  commasInside_of_notMem n fun hmem => (not_scanned_of_isWord (hw _ hmem)).2.2.2 rfl

/-- Replacing constants changes nothing of what is open. -/
lemma after_substitute (n : Nesting) (cs : List Char) : n.after (substitute cs) = n.after cs := by
  induction hlen : cs.length using Nat.strongRecOn generalizing n cs with
  | _ k ih =>
    rcases substitute_cases cs with ⟨hcs, hsub⟩ | ⟨w, w', c, rest, rfl, hsub, hw, hw', -, -⟩
    · rw [after_word hcs, after_word hsub]
    · have hrest := ih rest.length (by simp [← hlen]; omega) (n.step c) rest rfl
      rw [hsub, after_append, after_append, after_word hw, after_word hw', after_cons, after_cons,
        hrest]

/-- Replacing constants brings no comma outside. -/
lemma CommasInside.substitute {n : Nesting} {cs : List Char} (h : n.CommasInside cs) :
    n.CommasInside (substitute cs) := by
  induction hlen : cs.length using Nat.strongRecOn generalizing n cs with
  | _ k ih =>
    rcases substitute_cases cs with ⟨-, hsub⟩ | ⟨w, w', c, rest, rfl, hsub, hw, hw', -, -⟩
    · exact commasInside_word hsub n
    · rw [commasInside_append, after_word hw, commasInside_cons] at h
      rw [hsub, commasInside_append, after_word hw', commasInside_cons]
      exact ⟨commasInside_word hw' n, h.2.1, ih rest.length (by simp [← hlen]; omega) h.2.2 rfl⟩

end Nesting

/-- An argument stays one when its constants are replaced. -/
theorem IsArgument.substitute {p : List Char} (h : IsArgument p) : IsArgument (substitute p) :=
  ⟨by rw [Nesting.after_substitute, h.closed], h.inside.substitute⟩

/-- Constants are replaced in each of several texts between separators. -/
lemma substitute_intercalate {c : Char} (hc : isWord c = false) (ps : List (List Char)) :
    substitute ([c].intercalate ps) = [c].intercalate (ps.map substitute) := by
  induction ps with
  | nil =>
    show substitute [] = []
    decide
  | cons p ps ih =>
    cases ps with
    | nil => simp
    | cons q ps =>
      rw [List.intercalate_cons_cons, List.append_assoc, List.singleton_append,
        substitute_append_cons hc, ih, List.map_cons, List.map_cons, List.map_cons,
        List.intercalate_cons_cons, List.append_assoc, List.singleton_append]

end ScriptHost.Script
