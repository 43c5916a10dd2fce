import ScriptHost.Proofs.Arguments
import ScriptHost.Proofs.Conditionals

/-!
# The two ways to ask for a message box

A message box is asked for with its arguments in parentheses or listed after the word. In
parentheses they are cut at the commas outside quotations and parentheses. In a list they are cut at
the first two commas wherever these stand, and a list that starts with a parenthesis is not taken
for one. So the two ways come to the same (`take_messageBox_eq`) if no argument that has to be cut
off holds a comma and the first one does not start with a parenthesis.
-/

namespace ScriptHost.Script

open ScriptHost.Text

/-! ### Arguments with blanks around them -/

lemma isBlank_of_head?_strip_append {a : List Char} (h : strip a ≠ []) (m : List Char) :
    ∀ c ∈ (strip a ++ m).head?, isBlank c = false := by
  rw [List.head?_append_of_ne_nil _ h]
  exact fun c hc => isBlank_of_head?_strip hc

lemma dropWhile_isBlank_append {l m : List Char} (hl : ∀ c ∈ l, isBlank c = true)
    (hm : ∀ c ∈ m.head?, isBlank c = false) : (l ++ m).dropWhile isBlank = m := by
  rw [List.dropWhile_append_of_pos hl]
  cases m with
  | nil => rfl
  | cons c m => rw [List.dropWhile_cons_of_neg (by rw [hm c rfl]; decide)]

lemma strip_strip_append {a r : List Char} (hr : ∀ c ∈ r, isBlank c = true) :
    strip (strip a ++ r) = strip a := by
  have hstrip := strip_append_append (l := []) (by simp) (strip a) hr
  rwa [List.nil_append, strip_strip] at hstrip

/-! ### The two statements -/

/-- A message box with arguments listed after the word. Blanks around commas belong to the
arguments. -/
def boxList (args : List (List Char)) : List Char :=
  "MsgBox ".toList ++ [','].intercalate args

/-- A message box with arguments in parentheses. -/
def boxCall (args : List (List Char)) : List Char :=
  "MsgBox(".toList ++ ([','].intercalate args ++ [')'])

/-- Arguments that can be listed as well as put into parentheses. The first two commas have to be
those between the arguments, the list must not start like a call, and an equals sign would make an
assignment of either statement. -/
structure Listable (args : List (List Char)) : Prop where
  argument : ∀ a ∈ args, IsArgument a
  full : ∀ a ∈ args, strip a ≠ []
  oneLine : ∀ a ∈ args, '\n' ∉ a
  equals : ∀ a ∈ args, '=' ∉ a
  commas : ∀ a ∈ args.take 2, ',' ∉ a
  opening : ∀ a ∈ args.head?, '(' ∉ (strip a).head?

lemma boxList_eq (args : List (List Char)) :
    boxList args = "MsgBox".toList ++ ' ' :: [','].intercalate args :=
  rfl

lemma boxCall_eq (args : List (List Char)) :
    boxCall args = "MsgBox".toList ++ '(' :: ([','].intercalate args ++ [')']) :=
  rfl

section Parts

variable {R : Type} {a l r : List Char} {k : List Char → List Char → Option R} {d : List Char → R}

/-- The last argument of a list goes to the end, with the blanks after it. -/
lemma part_last (ha : a = l ++ strip a ++ r) (hfull : strip a ≠ []) (hline : '\n' ∉ a)
    (hcomma : ',' ∉ a) :
    Shape.part (strip a ++ r) (fun x cs => (Shape.comma cs (k x)).or (Shape.done cs (d x))) =
      some (d (strip a ++ r)) := by
  have hmem {c : Char} (hc : c ∈ strip a ++ r) : c ∈ a := by
    rw [ha, List.append_assoc]
    exact List.mem_append_right l hc
  refine Shape.part_end (by simp [hfull]) (fun hc => hline (hmem hc)) fun x y hxy => ?_
  refine Shape.comma_eq_none_of_notMem fun hc => hcomma (hmem ?_)
  rw [← hxy]
  exact List.mem_append_right x hc

/-- An argument of a list that another one follows goes to the blanks before the comma. -/
lemma part_followed {after m : List Char} {res : R} (hfull : strip a ≠ []) (hline : '\n' ∉ a)
    (hcomma : ',' ∉ a) (hr : ∀ c ∈ r, isBlank c = true) (hafter : ∀ c ∈ after, isBlank c = true)
    (hm : ∀ c ∈ m.head?, isBlank c = false) (hk : k (strip a) m = some res) :
    Shape.part (strip a ++ (r ++ ',' :: (after ++ m)))
      (fun x cs => (Shape.comma cs (k x)).or (Shape.done cs (d x))) = some res := by
  have hmem {c : Char} (hc : c ∈ strip a) : c ∈ a := (strip_isInfix a).subset hc
  exact Shape.part_comma hfull (fun _ hc => isBlank_of_getLast?_strip hc) (fun hc =>
    hcomma (hmem hc))
    (fun hc => hline (hmem hc)) hr hafter hm hk

end Parts

/-- Up to three arguments of a list are found again. -/
lemma exists_listed {a : List Char} {more : List (List Char)} (h : Listable (a :: more))
    (hlen : more.length ≤ 2) :
    ∃ first second third, Shape.listed "msgbox" (boxList (a :: more)) =
        some (first, second, third) ∧ strip first = strip a ∧
      second.map strip = more[0]?.map strip ∧ third.map strip = more[1]?.map strip := by
  have ha := h.full a List.mem_cons_self
  have hline : '\n' ∉ a := h.oneLine a List.mem_cons_self
  have hcomma : ',' ∉ a := h.commas a (by simp)
  obtain ⟨l, r, hl, hr, hcut⟩ := exists_strip a
  have hblanks : ∀ c ∈ ' ' :: l, isBlank c = true := List.forall_mem_cons.2 ⟨by decide, hl⟩
  rw [boxList_eq, Shape.listed, Shape.keyword_append (by decide)]
  rcases more with _ | ⟨b, _ | ⟨c, _ | ⟨d, more⟩⟩⟩
  · have htext : [','].intercalate [a] = l ++ (strip a ++ r) := by
      conv_lhs => rw [hcut]
      simp
    refine ⟨strip a ++ r, none, none, ?_, strip_strip_append hr, rfl, rfl⟩
    rw [htext]
    refine Shape.blanks_append hblanks (by simp) (isBlank_of_head?_strip_append ha _) ?_
    exact part_last hcut ha hline hcomma
  · have hb := h.full b (by simp)
    obtain ⟨l', r', hl', hr', hcut'⟩ := exists_strip b
    have htext : [','].intercalate [a, b] =
        l ++ (strip a ++ (r ++ ',' :: (l' ++ (strip b ++ r')))) := by
      conv_lhs => rw [hcut, hcut']
      simp
    refine ⟨strip a, some (strip b ++ r'), none, ?_, strip_strip a, ?_, rfl⟩
    · rw [htext]
      refine Shape.blanks_append hblanks (by simp) (isBlank_of_head?_strip_append ha _) ?_
      refine part_followed ha hline hcomma hr hl' (isBlank_of_head?_strip_append hb _) ?_
      exact part_last hcut' hb (h.oneLine b (by simp)) (h.commas b (by simp))
    · simp [strip_strip_append hr']
  · have hb := h.full b (by simp)
    have hc := h.full c (by simp)
    obtain ⟨l', r', hl', hr', hcut'⟩ := exists_strip b
    obtain ⟨l'', r'', hl'', hr'', hcut''⟩ := exists_strip c
    have htext : [','].intercalate [a, b, c] = l ++ (strip a ++ (r ++ ',' ::
        (l' ++ (strip b ++ (r' ++ ',' :: (l'' ++ (strip c ++ r''))))))) := by
      conv_lhs => rw [hcut, hcut', hcut'']
      simp
    have hline'' : '\n' ∉ strip c ++ r'' := by
      intro hmem
      refine h.oneLine c (by simp) ?_
      rw [hcut'', List.append_assoc]
      exact List.mem_append_right l'' hmem
    refine ⟨strip a, some (strip b), some (strip c ++ r''), ?_, strip_strip a, ?_, ?_⟩
    · rw [htext]
      refine Shape.blanks_append hblanks (by simp) (isBlank_of_head?_strip_append ha _) ?_
      refine part_followed ha hline hcomma hr hl' (isBlank_of_head?_strip_append hb _) ?_
      refine part_followed hb (h.oneLine b (by simp)) (h.commas b (by simp)) hr' hl''
        (isBlank_of_head?_strip_append hc _) ?_
      -- After the second comma everything is the third argument.
      exact Shape.part_end (f := fun _ _ => none) (by simp [hc]) hline'' fun _ _ _ => rfl
    · simp [strip_strip]
    · simp [strip_strip_append hr'']
  · rw [List.length_cons, List.length_cons, List.length_cons] at hlen
    omega

/-- The arguments in parentheses go to the last closing one. -/
lemma called_boxCall {args : List (List Char)} (h : ∀ a ∈ args, '\n' ∉ a) :
    Shape.called "msgbox" (boxCall args) = some ([','].intercalate args) := by
  have hline : '\n' ∉ [','].intercalate args := notMem_intercalate (by decide) h
  rw [boxCall_eq, Shape.called, Shape.keyword_append (by decide)]
  refine Shape.blanks_append (l := []) (by simp) le_rfl ?_ ?_
  · rintro c ⟨⟩
    decide
  · rw [Shape.char, if_pos (by decide)]
    refine Shape.longest_append (Shape.inLine_of_notMem hline) (Nat.zero_le _) rfl
      fun x y hxy hx _ => ?_
    rcases List.append_eq_singleton_iff.1 hxy with ⟨rfl, -⟩ | ⟨-, rfl⟩
    · exact absurd rfl hx
    · rfl

/-- A list is not taken for arguments in parentheses if it does not start with one. -/
lemma called_boxList {a : List Char} {more : List (List Char)} (h : Listable (a :: more)) :
    Shape.called "msgbox" (boxList (a :: more)) = none := by
  obtain ⟨l, r, hl, -, hcut⟩ := exists_strip a
  obtain ⟨rest, htext⟩ : ∃ rest, [','].intercalate (a :: more) = l ++ (strip a ++ rest) := by
    cases more with
    | nil => exact ⟨r, by conv_lhs => rw [hcut]; simp⟩
    | cons b more => exact ⟨r ++ ',' :: [','].intercalate (b :: more), by
        rw [List.intercalate_cons_cons]
        conv_lhs => rw [hcut]
        simp⟩
  rw [boxList_eq, Shape.called, Shape.keyword_append (by decide), htext,
    Option.eq_none_iff_forall_ne_some]
  intro res hres
  obtain ⟨taken, more', hsplit, -, htaken, hres⟩ := Shape.exists_of_blanks hres
  obtain ⟨after, rfl, -⟩ := Shape.exists_of_char hres
  have hblanks : ∀ c ∈ ' ' :: l, isBlank c = true := List.forall_mem_cons.2 ⟨by decide, hl⟩
  have hopen : ∀ c ∈ ('(' :: after).head?, isBlank c = false := by
    rintro c ⟨⟩
    decide
  have hstart := dropWhile_isBlank_append htaken hopen
  have hfull := h.full a List.mem_cons_self
  rw [hsplit, ← List.cons_append,
    dropWhile_isBlank_append hblanks (isBlank_of_head?_strip_append hfull rest)] at hstart
  have hhead := congrArg List.head? hstart
  rw [List.head?_append_of_ne_nil _ hfull] at hhead
  exact h.opening a rfl hhead

/-! ### Understanding the statements -/

/-- A text as it is understood: with its constants replaced if the session knows them. -/
def understood (s : Session) (cs : List Char) : List Char :=
  if s.constants then substitute cs else cs

/-- Replacing constants leaves something of a run of word characters. -/
lemma exists_substitute_word {w : List Char} (hne : w ≠ []) (hw : ∀ c ∈ w, isWord c = true) :
    ∃ d more, substitute w = d :: more ∧ isWord d = true := by
  have hne' : constantText w ≠ [] := by
    rcases constantText_cases w with h | ⟨n, h⟩
    · rwa [h]
    · rw [h]
      exact natDigits_ne_nil n
  obtain ⟨d, more, hd⟩ := List.exists_cons_of_ne_nil hne'
  refine ⟨d, more, (substitute_word hne hw).trans hd, isWord_constantText hw d ?_⟩
  rw [hd]
  exact List.mem_cons_self

/-- A text starts as before when its constants are replaced, or with a word character. -/
lemma exists_substitute_cons (c : Char) (cs : List Char) :
    ∃ d more, substitute (c :: cs) = d :: more ∧ (d = c ∨ isWord d = true) := by
  rcases forall_isWord_or_exists (c :: cs) with hall | ⟨w, d, rest, hcut, hw, hd⟩
  · obtain ⟨e, more, he, hword⟩ := exists_substitute_word (by simp) hall
    exact ⟨e, more, he, .inr hword⟩
  · rw [hcut, substitute_append_cons hd]
    cases w with
    | nil =>
      have hnone : substitute [] = [] := by decide
      rw [hnone]
      exact ⟨d, substitute rest, rfl, .inl (List.cons.inj hcut).1.symm⟩
    | cons x w =>
      obtain ⟨e, more, he, hword⟩ := exists_substitute_word (by simp) hw
      rw [he]
      exact ⟨e, _, rfl, .inr hword⟩

lemma head?_strip_cons {d : Char} (h : isBlank d = false) (more : List Char) :
    (strip (d :: more)).head? = some d := by
  have hne : strip (d :: more) ≠ [] := List.ne_nil_of_mem (mem_strip h List.mem_cons_self)
  obtain ⟨l, r, hl, -, hcut⟩ := exists_strip (d :: more)
  cases l with
  | nil =>
    have hhead := congrArg List.head? hcut
    rw [List.nil_append, List.head?_append_of_ne_nil _ hne] at hhead
    exact hhead.symm
  | cons b l =>
    obtain ⟨rfl, -⟩ := List.cons.inj hcut
    rw [hl d List.mem_cons_self] at h
    cases h

/-- A text that is not blank starts as before when its constants are replaced, or with a word
character. -/
lemma exists_strip_substitute {a : List Char} (h : strip a ≠ []) :
    ∃ d, (strip (substitute a)).head? = some d ∧ (d ∈ (strip a).head? ∨ isWord d = true) := by
  obtain ⟨c, cs, hcs⟩ := List.exists_cons_of_ne_nil h
  obtain ⟨d, more, hd, hcases⟩ := exists_substitute_cons c cs
  have hblank : isBlank d = false := by
    rcases hcases with rfl | hword
    · exact isBlank_of_head?_strip (by rw [hcs]; rfl)
    · rw [Bool.eq_false_iff]
      intro hblank
      rw [isWord_of_isBlank hblank] at hword
      cases hword
  refine ⟨d, ?_, ?_⟩
  · rw [← strip_substitute_strip, hcs, hd, head?_strip_cons hblank]
  · rw [hcs]
    exact hcases.imp_left fun hdc => by rw [hdc]; rfl

/-- Arguments can still be listed when their constants are replaced. -/
lemma Listable.substitute {args : List (List Char)} (h : Listable args) :
    Listable (args.map substitute) := by
  have hmem (c : Char) (hc : c.isDigit = false) {as : List (List Char)} (has : ∀ a ∈ as, c ∉ a) :
      ∀ b ∈ as.map Script.substitute, c ∉ b := by
    intro b hb hcb
    obtain ⟨a, ha, rfl⟩ := List.mem_map.1 hb
    exact has a ha (mem_of_mem_substitute hc hcb)
  refine ⟨?_, ?_, hmem '\n' (by decide) h.oneLine, hmem '=' (by decide) h.equals, ?_, ?_⟩
  · intro b hb
    obtain ⟨a, ha, rfl⟩ := List.mem_map.1 hb
    exact (h.argument a ha).substitute
  · intro b hb hblank
    obtain ⟨a, ha, rfl⟩ := List.mem_map.1 hb
    obtain ⟨d, hd, -⟩ := exists_strip_substitute (h.full a ha)
    rw [hblank] at hd
    cases hd
  · rw [← List.map_take]
    exact hmem ',' (by decide) h.commas
  · intro b hb hopen
    rw [List.head?_map] at hb
    obtain ⟨a, ha, rfl⟩ := Option.map_eq_some_iff.1 hb
    obtain ⟨d, hd, hcases⟩ := exists_strip_substitute (h.full a (List.mem_of_mem_head? ha))
    obtain rfl : d = '(' := Option.some.inj (hd.symm.trans hopen)
    rcases hcases with hstart | hword
    · exact h.opening a ha hstart
    · exact absurd hword (by decide)

lemma Listable.understood {args : List (List Char)} (h : Listable args) (s : Session) :
    Listable (args.map (understood s)) := by
  unfold Script.understood
  split
  · exact h.substitute
  · rwa [List.map_id']

lemma substitute_msgBox : substitute "MsgBox".toList = "MsgBox".toList := by
  decide

/-- The arguments of a list are understood one by one. -/
lemma prepare_boxList (s : Session) (args : List (List Char)) :
    prepare s (boxList args) = boxList (args.map (understood s)) := by
  have hlabel (args : List (List Char)) : withoutLabel (boxList args) = boxList args :=
    withoutLabel_cons (by decide) (by decide) (by decide) _
  unfold prepare understood
  split
  · rw [boxList_eq, substitute_append_cons (by decide), substitute_msgBox,
      substitute_intercalate (by decide), ← boxList_eq, hlabel]
  · rw [hlabel, List.map_id']

/-- The arguments in parentheses are understood one by one. -/
lemma prepare_boxCall (s : Session) (args : List (List Char)) :
    prepare s (boxCall args) = boxCall (args.map (understood s)) := by
  have hlabel (args : List (List Char)) : withoutLabel (boxCall args) = boxCall args :=
    withoutLabel_cons (by decide) (by decide) (by decide) _
  have hnone : Script.substitute [] = [] := by decide
  unfold prepare understood
  split
  · rw [boxCall_eq, substitute_append_cons (by decide), substitute_msgBox,
      substitute_append_cons (by decide), hnone,
      substitute_intercalate (by decide), ← boxCall_eq, hlabel]
  · rw [hlabel, List.map_id']

/-- Both statements are taken for a message box where it is a statement. -/
lemma kindOf_messageBox {cs : List Char} (h : '=' ∉ cs) :
    kindOf .capital ("MsgBox".toList ++ cs) = .messageBox := by
  have hupper : upper ("MsgBox".toList ++ cs) = "MSGBOX".toList ++ upper cs := by
    rw [upper_append]
    rfl
  have hopening : kindByStart openings ("MSGBOX".toList ++ upper cs) = none := rfl
  have hcommand : kindByStart (commands .capital) ("MSGBOX".toList ++ upper cs) =
      some .messageBox :=
    rfl
  have hequals : ("MsgBox".toList ++ cs).contains '=' = false := by
    simpa using h
  rw [kindOf, hupper]
  simp only [hopening, hcommand, hequals, Bool.false_and, Bool.false_eq_true, if_false]

/-! ### Showing the box -/

/-- The routine that shows a message box. -/
abbrev box (lib : Library) : Routine := (Catalog.messageBox lib.dialect).2

lemma call_box_one (lib : Library) (p : Value) :
    (box lib).call [p] [] = (box lib).call [p, .int 0, .text ""] [] :=
  rfl

lemma call_box_two (lib : Library) (p b : Value) :
    (box lib).call [p, b] [] = (box lib).call [p, b, .text ""] [] :=
  rfl

lemma executeMessageBox_boxCall (lib : Library) {args : List (List Char)} (hne : args ≠ [])
    (h : ∀ a ∈ args, IsArgument a) (hfull : ∀ a ∈ args, strip a ≠ [])
    (hline : ∀ a ∈ args, '\n' ∉ a) :
    executeMessageBox lib (boxCall args) =
      args.mapM (evaluate lib) >>= fun values => Step.act ((box lib).call values []) := by
  have hvalues : evaluateArguments lib ([','].intercalate args) = args.mapM (evaluate lib) := by
    rw [evaluateArguments, argumentTexts_intercalate hne h hfull, List.mapM_map]
    exact congrArg (args.mapM ·) (funext fun a => evaluate_strip lib a)
  rw [executeMessageBox, called_boxCall hline]
  dsimp only
  rw [callWith, hvalues]

/-- Shows a message box with the values of a prompt and perhaps of buttons and a title. -/
def showParts (lib : Library) (prompt : List Char) (buttons title : Option (List Char)) :
    Step Value := do
  let prompt ← evaluate lib prompt
  let whole ← wholeValue lib (buttons.getD ['0'])
  let title ← evaluate lib (title.getD [])
  Step.act ((box lib).call [prompt, .int whole, title] [])

lemma executeMessageBox_of_listed (lib : Library) {line first : List Char}
    {second third : Option (List Char)} (hcalled : Shape.called "msgbox" line = none)
    (hlisted : Shape.listed "msgbox" line = some (first, second, third)) :
    executeMessageBox lib line = showParts lib first second third := by
  have hpart (otherwise : String) (p : Option (List Char)) :
      evaluate lib (partOr otherwise p) = evaluate lib (p.getD otherwise.toList) := by
    cases p with
    | none => rfl
    | some t => exact evaluate_strip lib t
  rw [executeMessageBox, hcalled, hlisted]
  dsimp only
  simp only [wholeValue, evaluate_strip, hpart, showParts]
  rfl

lemma showParts_congr (lib : Library) {a b : List Char} {p q p' q' : Option (List Char)}
    (hab : strip a = strip b) (hp : p.map strip = p'.map strip) (hq : q.map strip = q'.map strip) :
    showParts lib a p q = showParts lib b p' q' := by
  have hpart {p q : Option (List Char)} (hpq : p.map strip = q.map strip) (otherwise : List Char) :
      evaluate lib (p.getD otherwise) = evaluate lib (q.getD otherwise) := by
    cases p with
    | none => rw [Option.map_eq_none_iff.1 hpq.symm]
    | some t =>
      obtain ⟨u, rfl, hu⟩ := Option.map_eq_some_iff.1 hpq.symm
      rw [Option.getD_some, Option.getD_some, ← evaluate_strip, ← hu, evaluate_strip]
  rw [showParts, showParts, ← evaluate_strip lib a, hab, evaluate_strip]
  simp only [wholeValue, hpart hp, hpart hq]

lemma executeMessageBox_boxList (lib : Library) {a : List Char} {more : List (List Char)}
    (h : Listable (a :: more)) (hlen : more.length ≤ 2) :
    executeMessageBox lib (boxList (a :: more)) = showParts lib a more[0]? more[1]? := by
  obtain ⟨first, second, third, hlisted, hfirst, hsecond, hthird⟩ := exists_listed h hlen
  rw [executeMessageBox_of_listed lib (called_boxList h) hlisted]
  exact showParts_congr lib hfirst hsecond hthird

/-- After a text has been evaluated, another one has no value but a whole number. -/
def WholeAfter (lib : Library) (scene : Scene) (a b : List Char) : Prop :=
  ∀ p v mid last, (evaluate lib a).take scene = (.ok p, mid) →
    (evaluate lib b).take mid = (.ok v, last) → ∃ n, v = .int n

/-- A list shows what a call with the values of its arguments shows. -/
lemma take_showParts (lib : Library) {scene : Scene} {a : List Char} {more : List (List Char)}
    (hlen : more.length ≤ 2) (hwhole : ∀ b ∈ more.head?, WholeAfter lib scene a b) :
    (showParts lib a more[0]? more[1]?).take scene =
      ((a :: more).mapM (evaluate lib) >>= fun values =>
        Step.act ((box lib).call values [])).take scene := by
  have hzero : evaluate lib ['0'] = pure (.int 0) := by
    rw [evaluate_of_looksNumeric (by decide) (by decide) (by decide) (by decide)]
    exact Step.act_pure _
  have hempty : evaluate lib [] = pure (.text "") := by
    rw [evaluate]
    rfl
  rw [showParts, List.mapM_cons, bind_assoc, Step.take_bind, Step.take_bind]
  rcases hprompt : (evaluate lib a).take scene with ⟨e | p, mid⟩
  · rfl
  have htoWhole (n : Int) : Step.act (Act.ofExcept (Value.int n).toWhole) = pure n :=
    Step.act_pure n
  rcases more with _ | ⟨b, _ | ⟨c, _ | ⟨d, more⟩⟩⟩
  · simp only [List.getElem?_nil, Option.getD_none, wholeValue, hzero, hempty, htoWhole, pure_bind,
      List.mapM_nil, call_box_one]
  · simp only [List.getElem?_cons_zero, List.getElem?_cons_succ, List.getElem?_nil,
      Option.getD_some, Option.getD_none, wholeValue, hempty, pure_bind, bind_assoc, List.mapM_cons,
      List.mapM_nil, call_box_two]
    rw [Step.take_bind, Step.take_bind]
    rcases hbuttons : (evaluate lib b).take mid with ⟨e | v, last⟩
    · rfl
    · obtain ⟨n, rfl⟩ := hwhole b rfl p v mid last hprompt hbuttons
      simp only [htoWhole, pure_bind]
  · simp only [List.getElem?_cons_zero, List.getElem?_cons_succ, Option.getD_some, wholeValue,
      pure_bind, bind_assoc, List.mapM_cons, List.mapM_nil]
    rw [Step.take_bind, Step.take_bind]
    rcases hbuttons : (evaluate lib b).take mid with ⟨e | v, last⟩
    · rfl
    · obtain ⟨n, rfl⟩ := hwhole b rfl p v mid last hprompt hbuttons
      simp only [htoWhole, pure_bind]
  · rw [List.length_cons, List.length_cons, List.length_cons] at hlen
    omega

/-- Shows a message box with the values of arguments. -/
def showBox (lib : Library) (args : List (List Char)) : Step Unit := do
  let scene ← get
  discard ((args.map (understood scene.session)).mapM (evaluate lib) >>= fun values =>
    Step.act ((box lib).call values []))

lemma take_showBox (lib : Library) (args : List (List Char)) (scene : Scene) :
    (showBox lib args).take scene =
      (discard ((args.map (understood scene.session)).mapM (evaluate lib) >>= fun values =>
        Step.act ((box lib).call values []))).take scene := by
  rw [showBox, Step.take_bind, Step.take_get]

/-- A line that is understood as a message box executes one. -/
lemma take_executeLine_messageBox {lib : Library} (hdialect : lib.dialect = .capital)
    {scene : Scene} {line cs : List Char}
    (hline : prepare scene.session line = "MsgBox".toList ++ cs) (h : '=' ∉ cs) :
    (executeLine lib line).take scene =
      (discard (executeMessageBox lib (prepare scene.session line))).take scene := by
  have hkind : kindOf lib.dialect (prepare scene.session line) = .messageBox := by
    rw [hdialect, hline, kindOf_messageBox h]
  exact take_executeLine_of_kind lib hkind (by decide)

/-- Arguments in parentheses are evaluated and shown. -/
lemma take_executeLine_boxCall {lib : Library} (hdialect : lib.dialect = .capital) {scene : Scene}
    {args : List (List Char)} (hne : args ≠ [])
    (h : ∀ a ∈ args.map (understood scene.session), IsArgument a)
    (hfull : ∀ a ∈ args.map (understood scene.session), strip a ≠ [])
    (hline : ∀ a ∈ args.map (understood scene.session), '\n' ∉ a)
    (hequals : ∀ a ∈ args.map (understood scene.session), '=' ∉ a) :
    (executeLine lib (boxCall args)).take scene = (showBox lib args).take scene := by
  have hinner : '=' ∉ [','].intercalate (args.map (understood scene.session)) :=
    notMem_intercalate (by decide) hequals
  have hplain :
      '=' ∉ '(' :: ([','].intercalate (args.map (understood scene.session)) ++ [')']) := by
    simp [hinner]
  rw [take_executeLine_messageBox hdialect (prepare_boxCall scene.session args) hplain,
    prepare_boxCall, executeMessageBox_boxCall lib (by simpa using hne) h hfull hline, take_showBox]

/-- Up to three arguments that can be listed, of which the second gives a whole number if any, are
evaluated and shown, whether they are listed or in parentheses. -/
theorem take_messageBox_eq (lib : Library) (scene : Scene) {a : List Char}
    {more : List (List Char)} (hdialect : lib.dialect = .capital) (h : Listable (a :: more))
    (hlen : more.length ≤ 2)
    (hwhole : ∀ b ∈ more.head?, WholeAfter lib scene (understood scene.session a)
      (understood scene.session b)) :
    (executeLine lib (boxList (a :: more))).take scene = (showBox lib (a :: more)).take scene ∧
      (executeLine lib (boxCall (a :: more))).take scene =
        (showBox lib (a :: more)).take scene := by
  have hargs := h.understood scene.session
  refine ⟨?_, take_executeLine_boxCall hdialect (by simp) hargs.argument hargs.full hargs.oneLine
    hargs.equals⟩
  have hplain : '=' ∉ ' ' :: [','].intercalate ((a :: more).map (understood scene.session)) := by
    simp only [List.mem_cons, not_or]
    exact ⟨by decide, notMem_intercalate (by decide) hargs.equals⟩
  have hwhole' : ∀ b ∈ (more.map (understood scene.session)).head?, WholeAfter lib scene
      (understood scene.session a) b := by
    intro b hb
    rw [List.head?_map] at hb
    obtain ⟨c, hc, rfl⟩ := Option.map_eq_some_iff.1 hb
    exact hwhole c hc
  rw [take_executeLine_messageBox hdialect (prepare_boxList scene.session (a :: more)) hplain,
    prepare_boxList, List.map_cons,
    executeMessageBox_boxList lib (by rwa [List.map_cons] at hargs) (by simpa using hlen),
    take_showBox, Step.take_discard, Step.take_discard,
    take_showParts lib (by simpa using hlen) hwhole', List.map_cons]

/-- A prompt, a number that asks for two buttons, and a title with a comma in it. -/
def titledBox : List (List Char) :=
  ["vbYes".toList, " 4".toList, " \"a, b\"".toList]

lemma listable_titledBox : Listable titledBox := by
  refine ⟨?_, ?_, ?_, ?_, ?_, ?_⟩
  all_goals decide

/-- The title may have a comma. -/
theorem take_messageBox_eq_titledBox :
    Listable titledBox ∧
      (executeLine (library .capital) (boxList titledBox)).take firstScene =
        (showBox (library .capital) titledBox).take firstScene ∧
      (executeLine (library .capital) (boxCall titledBox)).take firstScene =
        (showBox (library .capital) titledBox).take firstScene := by
  refine ⟨listable_titledBox, ?_⟩
  refine take_messageBox_eq (library .capital) firstScene rfl listable_titledBox (by decide) ?_
  rintro b ⟨⟩ p v w w' - hv
  have hfour : understood firstScene.session " 4".toList = " 4".toList := by decide
  have hvalue : evaluate (library .capital) " 4".toList = pure (.int 4) := by
    rw [← evaluate_strip, evaluate_of_looksNumeric (by decide) (by decide) (by decide) (by decide)]
    exact Step.act_pure _
  rw [hfour, hvalue, Step.take_pure] at hv
  exact ⟨4, (Except.ok.inj (Prod.mk.inj hv).1).symm⟩

/-- A prompt in quotes with a comma in it. -/
def commaBox : List (List Char) := ["\"a, b\"".toList]

lemma understood_commaBox : commaBox.map (understood firstScene.session) = commaBox := by
  decide

/-- The first scene after a box with a prompt has been shown. -/
def shownScene (prompt : String) : Scene :=
  { firstScene with world := { firstScene.world with
      effects := firstScene.world.effects.push (.shown (.text "VBScript") prompt) } }

/-- In parentheses the prompt is shown. -/
lemma take_boxCall_commaBox :
    (executeLine (library .capital) (boxCall commaBox)).take firstScene =
      (.ok (), shownScene "a, b") := by
  have hprompt : evaluate (library .capital) "\"a, b\"".toList = pure (.text "a, b") := by
    rw [evaluate_of_notMem _ (by decide)]
    exact evaluateOperand_literal _ "a, b"
  have hcall : (executeLine (library .capital) (boxCall commaBox)).take firstScene =
      (showBox (library .capital) commaBox).take firstScene := by
    refine take_executeLine_boxCall rfl (by decide) ?_ ?_ ?_ ?_
    all_goals
      rw [understood_commaBox]
      decide
  rw [hcall, take_showBox, Step.take_discard, understood_commaBox, commaBox, List.mapM_cons,
    List.mapM_nil, hprompt]
  rfl

/-- In a list the prompt is cut, and its second half is no number that asks for buttons. -/
lemma take_boxList_commaBox :
    (executeLine (library .capital) (boxList commaBox)).take firstScene =
      (.error (.badWholeText "b\""), firstScene) := by
  have hlisted : Shape.listed "msgbox" (boxList commaBox) =
      some ("\"a".toList, some "b\"".toList, none) := by
    decide
  have hvalue {t : List Char} (ht : strip t = t ∧ t ≠ [] ∧ '&' ∉ t ∧ quotedText? t = none ∧
      looksNumeric t = false ∧ wordValue? firstScene.session t = none ∧ looksLikeCall t = false)
      (hformula : Formula.Tree.ofText? t = none) :
      (evaluate (library .capital) t).take firstScene =
        (.ok (.text (String.ofList t)), firstScene) := by
    obtain ⟨hstrip, hne, hjoined, hquoted, hnumeric, hword, hcall⟩ := ht
    rw [take_evaluate_formula _ hstrip hne hjoined hquoted hnumeric hword hcall]
    exact Library.ReadsFormula.take_unreadable rfl hformula
  have hfirst := hvalue (t := "\"a".toList) (by decide) (by decide)
  have hsecond := hvalue (t := "b\"".toList) (by decide) (by decide)
  have hline : prepare firstScene.session (boxList commaBox) = boxList commaBox := by
    rw [prepare_boxList, understood_commaBox]
  rw [take_executeLine_messageBox rfl (hline.trans (boxList_eq commaBox)) (by decide), hline,
    executeMessageBox_of_listed _ (by decide) hlisted, Step.take_discard, showParts,
    Step.take_bind, hfirst]
  dsimp only
  rw [Option.getD_some, wholeValue, Step.take_bind, Step.take_bind, hsecond]
  rfl

/-- The prompt is one argument. It is shown if it stands in parentheses, and not if it is listed. -/
theorem quoted_prompt_cut_at_comma :
    (∀ a ∈ commaBox, IsArgument a) ∧
      (executeLine (library .capital) (boxCall commaBox)).take firstScene =
        (.ok (), shownScene "a, b") ∧
      (executeLine (library .capital) (boxList commaBox)).take firstScene =
        (.error (.badWholeText "b\""), firstScene) :=
  ⟨by decide, take_boxCall_commaBox, take_boxList_commaBox⟩

end ScriptHost.Script
