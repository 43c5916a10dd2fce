import Mathlib.Data.List.Infix
import ScriptHost.Proofs.Composition
import ScriptHost.Proofs.Readers
import ScriptHost.Proofs.SingleLine
import ScriptHost.Proofs.VariableStore

/-!
# Conditionals that span lines

A line that starts with `If` and has a `Then` is the head of a conditional that spans lines, unless
it ends with `End If`. The head is executed as a line of its own, and the lines up to the one that
starts with `End If` are passed over: they are the body, which is never executed. If nothing comes
after `Then`, the head is no statement, and the conditional does nothing at all. If a statement
comes after `Then`, the head is executed as it should be, and what is passed over are the lines
after it; if none of them starts with `End If`, that is the rest of the script.
-/

namespace ScriptHost.Script

open ScriptHost.Number ScriptHost.Text

/-! ### The word that divides a conditional -/

namespace Shape

/-- A conditional has a `then` with blanks around it, something before these and something after
them. -/
lemma exists_then {cs : List Char} {c : Conditional} (h : conditional cs = some c) :
    ∃ before word after, cs = before ++ word ++ after ∧ 3 ≤ before.length ∧ 2 ≤ after.length ∧
      (∀ b ∈ before.getLast?, isBlank b = true) ∧ sameWord word "then".toList = true ∧
      ∀ b ∈ after.head?, isBlank b = true := by
  obtain ⟨word₁, m₁, rfl, hif, h⟩ := exists_of_keyword h
  obtain ⟨blanks₁, m₂, rfl, hone, _, h⟩ := exists_of_blanks h
  obtain ⟨condition, m₃, rfl, _, h⟩ := shortest_eq_some h
  obtain ⟨blanks₂, m₄, rfl, htwo, hblank₂, h⟩ := exists_of_blanks h
  obtain ⟨word₂, m₅, rfl, hthen, h⟩ := exists_of_keyword h
  obtain ⟨blanks₃, m₆, rfl, hthree, hblank₃, h⟩ := exists_of_blanks h
  obtain ⟨yes, m₇, rfl, hyes, h⟩ := shortest_eq_some h
  have hlen := length_eq_of_sameWord hif
  refine ⟨word₁ ++ (blanks₁ ++ (condition ++ blanks₂)), word₂, blanks₃ ++ (yes ++ m₇), by simp, ?_,
    ?_, ?_, hthen, ?_⟩
  · have hif' : "if".toList.length = 2 := rfl
    simp only [List.length_append]
    omega
  · simp only [List.length_append]
    omega
  · intro b hb
    have hne : blanks₂ ≠ [] := List.ne_nil_of_length_pos htwo
    rw [← List.append_assoc, ← List.append_assoc, List.getLast?_append_of_ne_nil _ hne] at hb
    exact hblank₂ b (List.mem_of_getLast? hb)
  · intro b hb
    have hne : blanks₃ ≠ [] := List.ne_nil_of_length_pos hthree
    rw [List.head?_append_of_ne_nil _ hne] at hb
    exact hblank₃ b (List.mem_of_head? hb)

end Shape

/-- No word of a text is `then`, in any case. -/
def ThenFree (cs : List Char) : Prop :=
  ∀ w, IsWordOf w cs → sameWord w "then".toList = false

/-- Only plain letters stand for those of `then`. -/
lemma isWord_of_fold {c : Char} (h : fold c ∈ "then".toList) : isWord c = true := by
  by_cases hplain : c.toNat < 128
  · exact forall_plain (P := fun c => fold c ∈ "then".toList → isWord c = true) (by decide) hplain h
  · have hletters : "then".toList.all (fun d => d.toNat < 128 && d != 's' && d != 'i' && d != 'k') =
        true := by
      decide
    have hletter := List.all_eq_true.1 hletters _ h
    unfold fold at hletter
    grind

lemma isWord_of_sameWord_then {w : List Char} (h : sameWord w "then".toList = true) :
    ∀ c ∈ w, isWord c = true := by
  intro c hc
  have hthen : "then".toList.map fold = "then".toList := by decide
  have hmap : w.map fold = "then".toList := by
    rw [← hthen]
    exact eq_of_beq h
  exact isWord_of_fold (hmap ▸ List.mem_map_of_mem hc)

/-- The first line of a conditional that spans lines. -/
def headLine (c : List Char) : List Char :=
  "If ".toList ++ (c ++ " Then".toList)

/-- Only the first character of the end of the head is blank. -/
lemma eq_nil_of_then_eq_append {a b : List Char} (h : " Then".toList = a ++ b) (hb : b ≠ [])
    (hblank : ∀ c ∈ b.head?, isBlank c = true) : a = [] := by
  cases a with
  | nil => rfl
  | cons x a =>
    obtain ⟨d, b, rfl⟩ := List.exists_cons_of_ne_nil hb
    have hd : d ∈ "Then".toList := by
      have htail : "Then".toList = a ++ d :: b := (List.cons.inj h).2
      rw [htail]
      simp
    have hletters : "Then".toList.all (fun d => !isBlank d) = true := by decide
    have hletter := List.all_eq_true.1 hletters d hd
    rw [hblank d rfl] at hletter
    cases hletter

/-- If no word of the condition is `then`, the head alone is no conditional: nothing comes after its
`Then`. -/
lemma conditional_headLine {c : List Char} (h : ThenFree c) :
    Shape.conditional (headLine c) = none := by
  rw [Option.eq_none_iff_forall_ne_some]
  intro parts hparts
  obtain ⟨before, word, after, hcut, hbefore, hafter, hlast, hthen, hhead⟩ :=
    Shape.exists_then hparts
  have hafterNe : after ≠ [] := List.ne_nil_of_length_pos (by omega)
  -- What comes before the word goes on after `If` and a blank.
  obtain ⟨front, rfl⟩ : ∃ front, before = "If ".toList ++ front := by
    have hprefix : "If ".toList <+: before := by
      have hstart : "If ".toList <+: headLine c := List.prefix_append _ _
      refine List.prefix_of_prefix_length_le hstart ?_ hbefore
      rw [hcut, List.append_assoc]
      exact List.prefix_append _ _
    obtain ⟨front, hfront⟩ := hprefix
    exact ⟨front, hfront.symm⟩
  have hcut : c ++ " Then".toList = (front ++ word) ++ after := by
    simpa [headLine] using hcut
  have hfront : ∀ b ∈ front.getLast?, isWord b = false := by
    intro b hb
    have hne : front ≠ [] := by
      rintro rfl
      cases hb
    refine isWord_of_isBlank (hlast b ?_)
    rw [List.getLast?_append_of_ne_nil _ hne]
    exact hb
  have hwordNe : word ≠ [] := by
    rintro rfl
    exact absurd hthen (by decide)
  have hwhole : ∃ back, c = front ++ word ++ back ∧ ∀ b ∈ back.head?, isWord b = false := by
    rcases List.append_eq_append_iff.1 hcut with ⟨rest, hword, htail⟩ | ⟨rest, hc, htail⟩
    · obtain rfl := eq_nil_of_then_eq_append htail hafterNe hhead
      exact ⟨[], by simpa using hword.symm, by simp⟩
    · refine ⟨rest, hc, fun b hb => isWord_of_isBlank (hhead b ?_)⟩
      have hne : rest ≠ [] := by
        rintro rfl
        cases hb
      rw [htail, List.head?_append_of_ne_nil _ hne]
      exact hb
  obtain ⟨back, hc, hback⟩ := hwhole
  have hfree := h word ⟨hwordNe, isWord_of_sameWord_then hthen, front, back, hc, hfront, hback⟩
  rw [hfree] at hthen
  cases hthen

lemma ThenFree.substitute {c : List Char} (h : ThenFree c) : ThenFree (substitute c) := by
  intro w hw
  obtain ⟨u, hu, rfl⟩ := exists_word_of_substitute hw
  rcases constantText_cases u with hsame | ⟨n, hdigits⟩
  · rw [hsame]
    exact h u hu
  · rw [hdigits, Bool.eq_false_iff]
    intro hthen
    obtain ⟨d, ds, hcons⟩ := List.exists_cons_of_ne_nil (natDigits_ne_nil n)
    have hd : d.isDigit = true := isDigit_of_mem_natDigits (by rw [hcons]; exact List.mem_cons_self)
    have hfold : fold d = 't' := by
      have hmap := eq_of_beq hthen
      rw [hcons] at hmap
      exact (List.cons.inj hmap).1
    have hdigit := isDigit_fold (toNat_lt_of_isDigit hd)
    rw [hfold, hd] at hdigit
    cases hdigit

/-! ### Understanding the head -/

lemma headLine_eq (c : List Char) : headLine c = "If".toList ++ ' ' ::
    (c ++ ' ' :: "Then".toList) :=
  rfl

lemma substitute_headLine (c : List Char) : substitute (headLine c) = headLine (substitute c) := by
  have hif : substitute "If".toList = "If".toList := by decide
  have hthen : substitute "Then".toList = "Then".toList := by decide
  rw [headLine_eq, substitute_append_cons (by decide), substitute_append_cons (by decide), hif,
    hthen, headLine_eq]

/-- The head is understood as the head of the condition with its constants replaced. -/
lemma prepare_headLine (s : Session) (c : List Char) :
    prepare s (headLine c) = headLine (if s.constants then substitute c else c) := by
  have hlabel (c : List Char) : withoutLabel (headLine c) = headLine c :=
    withoutLabel_cons (by decide) (by decide) (by decide) _
  rw [prepare]
  split
  · rw [substitute_headLine, hlabel]
  · exact hlabel c

/-- A line that starts with `If` and a blank is a conditional. -/
lemma kindOf_if (d : Dialect) (cs : List Char) : kindOf d ("If ".toList ++ cs) = .conditional := by
  have hupper : upper ("If ".toList ++ cs) = "IF ".toList ++ upper cs := by
    rw [upper_append]
    rfl
  have hkind : kindByStart openings ("IF ".toList ++ upper cs) = some .conditional := rfl
  rw [kindOf, hupper]
  simp only [hkind]

/-- Executing the head of a conditional does nothing, whatever the condition. -/
lemma take_executeLine_headLine (lib : Library) {c : List Char} (h : ThenFree c) (scene : Scene) :
    (executeLine lib (headLine c)).take scene = (.ok (), scene) := by
  have hfree : ThenFree (if scene.session.constants then Script.substitute c else c) := by
    split
    · exact h.substitute
    · exact h
  rw [take_executeLine, prepare_headLine, headLine, kindOf_if, if_pos rfl, executeConditional,
    ← headLine, conditional_headLine hfree]
  rfl

/-! ### Small letters -/

/-- A letter gives its small form, and the others follow in some context. -/
lemma exists_lowerFrom_cons (inWord : Bool) (c : Char) (cs : List Char) :
    ∃ front state, lowerFrom inWord (c :: cs) = front ++ lowerFrom state cs := by
  rw [lowerFrom]
  by_cases hplain : c.toNat < 128
  · exact ⟨[c.toLower], _, if_pos hplain⟩
  · by_cases hsigma : (c.toNat == 0x3a3) = true
    · exact ⟨[_], _, (if_neg hplain).trans (if_pos hsigma)⟩
    · exact ⟨lowerChar c, _, (if_neg hplain).trans (if_neg hsigma)⟩

/-- The small form of a text ends with the small form of its end, in some context. -/
lemma exists_lowerFrom_append (inWord : Bool) (a b : List Char) :
    ∃ front state, lowerFrom inWord (a ++ b) = front ++ lowerFrom state b := by
  induction a generalizing inWord with
  | nil => exact ⟨[], inWord, rfl⟩
  | cons c a ih =>
    obtain ⟨first, next, hfirst⟩ := exists_lowerFrom_cons inWord c (a ++ b)
    obtain ⟨front, state, hfront⟩ := ih next
    refine ⟨first ++ front, state, ?_⟩
    rw [List.cons_append, hfirst, hfront, List.append_assoc]

lemma exists_lower_if (cs : List Char) :
    ∃ more, lower ("If ".toList ++ cs) = "if ".toList ++ more :=
  ⟨_, rfl⟩

/-- A line that starts with `If` and has a `Then` is the head of a conditional that spans lines,
unless it ends with `End If`. -/
lemma isHead_eq (c rest : List Char) :
    isHead ("If ".toList ++ (c ++ (" Then".toList ++ rest))) =
      !endsWith " end if".toList (lower ("If ".toList ++ (c ++ (" Then".toList ++ rest)))) := by
  obtain ⟨more, hmore⟩ := exists_lower_if (c ++ (" Then".toList ++ rest))
  have hstart : "if ".toList.isPrefixOf (lower ("If ".toList ++ (c ++ (" Then".toList ++ rest)))) =
      true := by
    rw [hmore, List.isPrefixOf_iff_prefix]
    exact List.prefix_append _ _
  have hthen : occurs " then".toList (lower ("If ".toList ++ (c ++ (" Then".toList ++ rest)))) =
      true := by
    obtain ⟨front, state, h⟩ :=
      exists_lowerFrom_append false ("If ".toList ++ c) (" Then".toList ++ rest)
    obtain ⟨back, hback⟩ :
        ∃ back, lowerFrom state (" Then".toList ++ rest) = " then".toList ++ back := ⟨_, rfl⟩
    rw [List.append_assoc, hback] at h
    rw [occurs_iff, lower, h]
    exact ⟨front, back, by simp⟩
  rw [isHead, hstart, hthen]
  rfl

lemma isHead_headLine (c : List Char) : isHead (headLine c) = true := by
  have hhead := isHead_eq c []
  rw [List.append_nil] at hhead
  rw [headLine, hhead, Bool.not_eq_true', Bool.eq_false_iff]
  intro hend
  obtain ⟨front, state, h⟩ := exists_lowerFrom_append false ("If ".toList ++ c) " Then".toList
  have hthen : lowerFrom state " Then".toList = " then".toList := by cases state <;> rfl
  rw [hthen, List.append_assoc] at h
  rw [endsWith, List.isSuffixOf_iff_suffix, lower, h] at hend
  obtain ⟨x, hx⟩ := hend
  have hlast := congrArg List.getLast? hx
  rw [List.getLast?_append_of_ne_nil _ (by decide),
    List.getLast?_append_of_ne_nil _ (by decide)] at hlast
  exact absurd hlast (by decide)

/-! ### Passing over lines -/

/-- The lines after a head are passed over up to the first one that ends the conditional. -/
lemma skipped_append {line : List Char} (hhead : isHead line = true) {body : List (List Char)}
    (hbody : ∀ l ∈ body, isTail l = false) {tail : List Char} (htail : isTail tail = true)
    (more : List (List Char)) : skipped line (body ++ tail :: more) = body.length + 1 := by
  have hpass : (body ++ tail :: more).takeWhile (fun l => !isTail l) = body := by
    rw [List.takeWhile_append_of_pos fun l hl => by rw [hbody l hl]; rfl,
      List.takeWhile_cons_of_neg (by rw [htail]; decide), List.append_nil]
  rw [skipped, if_pos hhead, hpass]

/-- If no line ends the conditional, all lines are passed over. -/
lemma skipped_of_forall {line : List Char} (hhead : isHead line = true) {more : List (List Char)}
    (hmore : ∀ l ∈ more, isTail l = false) : skipped line more = more.length + 1 := by
  have hpass : more.takeWhile (fun l => !isTail l) = more :=
    List.takeWhile_eq_self_iff.2 fun l hl => by rw [hmore l hl]; rfl
  rw [skipped, if_pos hhead, hpass]

/-- A line that keeps all lines after it from being executed is all that the run does. -/
lemma play_of_skipped {lib : Library} {n : Nat} {line : List Char} {more : List (List Char)}
    {scene after : Scene} (hline : '\n' ∉ line) (hstrip : strip line = line)
    (hbusy : isIdle line = false)
    (h : (executeLine lib line).take (scene.atLine n) = (.ok (), after))
    (hskipped : more.length ≤ skipped line more) :
    play lib ⟨n, line :: more, scene⟩ = (.ok (), after) := by
  rw [← hstrip] at hbusy h
  rw [← attempt_of_notMem lib hline] at h
  rw [play_eq_turn, turn_ok hbusy h]
  dsimp only
  rw [hstrip, List.drop_eq_nil_of_le hskipped, play_nil]

/-! ### Conditionals with a body -/

/-- The script of a conditional that spans lines. -/
def block (c : List Char) (body : List (List Char)) : List Char :=
  ['\n'].intercalate (headLine c :: (body ++ ["End If".toList]))

lemma strip_headLine (c : List Char) : strip (headLine c) = headLine c := by
  refine strip_eq_self ?_ ?_
  · rintro d ⟨⟩
    decide
  · intro d hd
    rw [headLine, List.getLast?_append_of_ne_nil _ (by simp),
      List.getLast?_append_of_ne_nil _ (by decide)] at hd
    obtain rfl : 'n' = d := Option.some.inj hd
    decide

lemma newline_notMem_headLine {c : List Char} (hc : '\n' ∉ c) : '\n' ∉ headLine c := by
  simp [headLine, hc]

lemma lines_block {c : List Char} {body : List (List Char)} (hc : '\n' ∉ c)
    (hbody : ∀ l ∈ body, '\n' ∉ l) : lines (block c body) =
      headLine c :: (body ++ ["End If".toList]) := by
  refine List.splitOn_intercalate '\n' ?_ (List.cons_ne_nil _ _)
  intro l hl
  rw [List.mem_cons, List.mem_append, List.mem_singleton] at hl
  rcases hl with rfl | hl | rfl
  · exact newline_notMem_headLine hc
  · exact hbody l hl
  · decide

/-- If the head is executed without an error, that is all that the conditional does: its body is
passed over. -/
lemma take_run_block {lib : Library} (hlib : lib.evaluator.Confined) {scene after : Scene}
    {c : List Char} {body : List (List Char)} (hc : '\n' ∉ c) (hbody : ∀ l ∈ body, '\n' ∉ l ∧
      isTail l = false)
    (h : (executeLine lib (headLine c)).take (scene.atLine 1) = (.ok (), after)) :
    (run lib (block c body)).take scene = (.ok (), after) := by
  have hskipped := skipped_append (isHead_headLine c) (fun l hl => (hbody l hl).2)
    (show isTail "End If".toList = true by decide) []
  rw [take_run hlib, start, lines_block hc fun l hl => (hbody l hl).1]
  refine play_of_skipped (newline_notMem_headLine hc) (strip_headLine c) rfl h ?_
  rw [hskipped]
  simp

/-- Two scenes show the same variables and the same output. -/
structure Scene.Agree (a b : Scene) : Prop where
  variables_eq : a.session.variables = b.session.variables
  output_eq : a.world.output = b.world.output
  effects_eq : a.world.effects = b.world.effects

/-- The body of a conditional that spans lines is never executed. Without an error in the head, the
conditional does what its head does as a line of its own. If no word of the condition is `then`,
that is nothing, so that the conditional does what it should exactly if the body would change
nothing where the condition holds, and evaluating the condition shows nothing where it does not. -/
theorem run_block {lib : Library} (hlib : lib.evaluator.Confined) (scene : Scene) {c : List Char}
    {body : List (List Char)} (hc : '\n' ∉ c) (hbody : ∀ l ∈ body, '\n' ∉ l ∧ isTail l = false) :
    (∀ after, (executeLine lib (headLine c)).take (scene.atLine 1) = (.ok (), after) →
      (run lib (block c body)).take scene = (.ok (), after)) ∧
    (ThenFree c →
      (run lib (block c body)).take scene = (.ok (), scene.atLine 1) ∧
      ∀ v after, (evaluate lib c).take scene = (.ok v, after) →
        (Scene.Agree ((run lib (block c body)).take scene).2
            (if v.truthy then ((run lib (['\n'].intercalate body)).take scene).2 else after) ↔
          Scene.Agree scene
            (if v.truthy then ((run lib (['\n'].intercalate body)).take scene).2
              else after))) := by
  refine ⟨fun after => take_run_block hlib hc hbody, fun hfree => ?_⟩
  have hrun : (run lib (block c body)).take scene = (.ok (), scene.atLine 1) :=
    take_run_block hlib hc hbody (take_executeLine_headLine lib hfree (scene.atLine 1))
  refine ⟨hrun, fun v after _ => ?_⟩
  rw [hrun]
  exact ⟨fun h => ⟨h.variables_eq, h.output_eq, h.effects_eq⟩,
    fun h => ⟨h.variables_eq, h.output_eq, h.effects_eq⟩⟩

lemma thenFree_of_length_lt {cs : List Char} (h : cs.length < 4) : ThenFree cs := by
  intro w hw
  obtain ⟨before, after, rfl, -⟩ := hw.whole
  rw [Bool.eq_false_iff]
  intro hthen
  have hlen : w.length = 4 := length_eq_of_sameWord hthen
  simp only [List.length_append] at h
  omega

/-- A conditional that should assign to a variable does nothing. -/
theorem run_block_assignment :
    ('\n' ∉ ['1'] ∧ ∀ l ∈ [assignLine ['1']], '\n' ∉ l ∧ isTail l = false) ∧
      (run (library .capital) (block ['1'] [assignLine ['1']])).take firstScene =
        (.ok (), firstScene.atLine 1) := by
  have hc : '\n' ∉ ['1'] := by decide
  have hbody : ∀ l ∈ [assignLine ['1']], '\n' ∉ l ∧ isTail l = false := by
    rintro l hl
    rw [List.mem_singleton.1 hl]
    decide
  exact ⟨⟨hc, hbody⟩,
    ((run_block (confined_library .capital) firstScene hc hbody).2
      (thenFree_of_length_lt (by decide))).1⟩

lemma evaluate_one (lib : Library) : evaluate lib ['1'] = pure (.int 1) := by
  rw [evaluate_of_looksNumeric (by decide) (by decide) (by decide) (by decide)]
  exact Step.act_pure _

lemma variableValue?_run_assignOne :
    variableValue? ((run (library .capital) (assignLine ['1'])).take firstScene).2.session ['x'] =
      some (.int 1) := by
  have hthen : ¬ " THEN ".toList <:+: upper (substitute (strip (assignLine ['1']))) := by decide
  have hone : substitute ['1'] = ['1'] := by decide
  have hvalue := variableValue?_run_assignLine (confined_library .capital) firstScene.world
    (show '\n' ∉ ['1'] by decide) (by decide)
  rw [if_neg hthen, hone, evaluate_one] at hvalue
  exact hvalue

/-- The condition holds, and the conditional does not do what its body does. -/
theorem block_body_not_executed :
    evaluate (library .capital) ['1'] = pure (.int 1) ∧
      (Value.int 1).truthy = true ∧
      ¬ Scene.Agree ((run (library .capital) (block ['1'] [assignLine ['1']])).take firstScene).2
        ((run (library .capital) (assignLine ['1'])).take firstScene).2 := by
  refine ⟨evaluate_one _, rfl, fun h => ?_⟩
  have hhead := take_executeLine_headLine (library .capital)
    (thenFree_of_length_lt (show ['1'].length < 4 by decide)) (firstScene.atLine 1)
  have hrun : (run (library .capital) (block ['1'] [assignLine ['1']])).take firstScene =
      (.ok (), firstScene.atLine 1) := by
    refine take_run_block (confined_library .capital) (by decide) ?_ hhead
    rintro l hl
    rw [List.mem_singleton.1 hl]
    decide
  have hvalue := variableValue?_run_assignOne
  rw [variableValue?, ← h.variables_eq, hrun] at hvalue
  exact absurd (variableValue?_freshSession.symm.trans hvalue) (by simp)

/-! ### Conditionals on one line -/

/-- A conditional on one line. -/
def thenLine (c s : List Char) : List Char :=
  "If ".toList ++ (c ++ (" Then".toList ++ ' ' :: s))

lemma strip_thenLine {s : List Char} (hs : strip s = s) (hne : s ≠ []) (c : List Char) :
    strip (thenLine c s) = thenLine c s := by
  refine strip_eq_self ?_ ?_
  · rintro d ⟨⟩
    decide
  · intro d hd
    obtain ⟨e, s, rfl⟩ := List.exists_cons_of_ne_nil hne
    have hlast : (thenLine c (e :: s)).getLast? = (e :: s).getLast? := by
      have hcut : thenLine c (e :: s) = ("If ".toList ++ (c ++ " Then ".toList)) ++ (e :: s) := by
        simp [thenLine]
      rw [hcut, List.getLast?_append_of_ne_nil _ (List.cons_ne_nil e s)]
    rw [hlast, ← hs] at hd
    exact isBlank_of_getLast?_strip hd

lemma isHead_thenLine (c s : List Char) :
    isHead (thenLine c s) = !endsWith " end if".toList (lower (thenLine c s)) :=
  isHead_eq c (' ' :: s)

/-- A conditional on one line is complete on its line exactly if it ends with `End If`. Then the
script goes on with the next line; otherwise the lines after it are taken for its body, and if none
of them ends it, they are never executed. -/
theorem run_thenLine {lib : Library} (hlib : lib.evaluator.Confined) {scene after : Scene}
    {c s rest : List Char} (hc : '\n' ∉ c) (hline : '\n' ∉ s) (hs : strip s = s) (hne : s ≠ [])
    (hrest : ∀ l ∈ lines rest, isTail l = false)
    (h : (executeLine lib (thenLine c s)).take (scene.atLine 1) = (.ok (), after)) :
    if endsWith " end if".toList (lower (thenLine c s)) then
      LaterBy 1 ((run lib rest).take after) ((run lib (thenLine c s ++ '\n' :: rest)).take scene)
    else (run lib (thenLine c s ++ '\n' :: rest)).take scene = (.ok (), after) := by
  have hstrip := strip_thenLine hs hne c
  have hnewline : '\n' ∉ thenLine c s := by simp [thenLine, hc, hline]
  have hsingle := lines_of_notMem hnewline
  have hhead := isHead_thenLine c s
  split
  · next hend =>
    have hskipped : skipped (thenLine c s) [] = 0 := by
      rw [skipped, hhead, hend]
      rfl
    have hturn : turn lib (start scene (thenLine c s)) = .onward ⟨2, [], after⟩ := by
      have hbusy : isIdle (strip (thenLine c s)) = false := by
        rw [hstrip]
        rfl
      have hattempt : (attempt lib (thenLine c s)).take (scene.atLine 1) = (.ok (), after) := by
        rw [attempt_of_notMem lib hnewline, hstrip, h]
      rw [start, hsingle, turn_ok hbusy hattempt, hstrip, hskipped]
      rfl
    have hlater := laterBy_of_reaches hlib (.single hturn) (by rw [start, hsingle]; rfl) rfl rest
    rw [hsingle] at hlater
    exact hlater
  · next hend =>
    have hopen : isHead (thenLine c s) = true := by
      rw [hhead, Bool.not_eq_true']
      exact Bool.eq_false_iff.2 hend
    have hskipped := skipped_of_forall hopen hrest
    rw [take_run hlib, start, lines_append, hsingle, List.singleton_append]
    refine play_of_skipped hnewline hstrip rfl h ?_
    rw [hskipped]
    exact Nat.le_succ _

/-- A condition that does not hold, and a statement. -/
def idleThenLine : List Char := thenLine ['0'] "y = 1".toList

lemma take_executeLine_idleThenLine :
    (executeLine (library .capital) idleThenLine).take (firstScene.atLine 1) =
      (.ok (), firstScene.atLine 1) := by
  have hprepare : prepare (firstScene.atLine 1).session idleThenLine = idleThenLine := by decide
  have hkind : kindOf (library .capital).dialect idleThenLine = .conditional := kindOf_if _ _
  have hshape : Shape.conditional idleThenLine = some ⟨['0'], "y = 1".toList, none⟩ := by rfl
  have hvalue : evaluate (library .capital) ['0'] = Step.act (Act.ofExcept (numeral ['0'])) :=
    evaluate_of_looksNumeric (by decide) (by decide) (by decide) (by decide) _
  rw [take_executeLine, hprepare, if_pos hkind, executeConditional, hshape]
  dsimp only
  rw [Step.take_bind, hvalue]
  rfl

lemma isTail_assignOne : ∀ l ∈ lines (assignLine ['1']), isTail l = false := by
  intro l hl
  rw [lines_of_notMem (by decide), List.mem_singleton] at hl
  rw [hl]
  decide

lemma not_endsWith_idleThenLine : ¬ endsWith " end if".toList (lower idleThenLine) = true := by
  decide

/-- The line after a conditional on one line is not executed. -/
theorem run_thenLine_assignment :
    (executeLine (library .capital) idleThenLine).take (firstScene.atLine 1) =
        (.ok (), firstScene.atLine 1) ∧
      (run (library .capital) (idleThenLine ++ '\n' :: assignLine ['1'])).take firstScene =
        (.ok (), firstScene.atLine 1) := by
  have h := run_thenLine (confined_library .capital) (by decide) (by decide) (by decide) (by decide)
    isTail_assignOne take_executeLine_idleThenLine
  rw [← idleThenLine, if_neg not_endsWith_idleThenLine] at h
  exact ⟨take_executeLine_idleThenLine, h⟩

/-- Executed by itself after the conditional, the line assigns to a variable; as the next line of
the script it does not. -/
theorem line_after_conditional_not_executed :
    (executeLine (library .capital) idleThenLine).take (firstScene.atLine 1) =
        (.ok (), firstScene.atLine 1) ∧
      variableValue? ((run (library .capital) (assignLine ['1'])).take
        (firstScene.atLine 1)).2.session ['x'] = some (.int 1) ∧
      variableValue? ((run (library .capital) (idleThenLine ++ '\n' :: assignLine ['1'])).take
        firstScene).2.session ['x'] = none := by
  have hskipped : [assignLine ['1']].length ≤ skipped idleThenLine [assignLine ['1']] := by decide
  have hrun : (run (library .capital) (idleThenLine ++ '\n' :: assignLine ['1'])).take firstScene =
      (.ok (), firstScene.atLine 1) := by
    rw [take_run (confined_library .capital), start, lines_append, lines_of_notMem (by decide),
      lines_of_notMem (by decide)]
    exact play_of_skipped (by decide) (by decide) (by decide) take_executeLine_idleThenLine hskipped
  have hreline : (run (library .capital) (assignLine ['1'])).take (firstScene.atLine 1) =
      (run (library .capital) (assignLine ['1'])).take firstScene := by
    rw [take_run (confined_library .capital), take_run (confined_library .capital)]
    exact @play_reline (library .capital) (start firstScene (assignLine ['1']))
      (List.splitOn_ne_nil _ _) fun _ => 1
  refine ⟨take_executeLine_idleThenLine, ?_, ?_⟩
  · rw [hreline]
    exact variableValue?_run_assignOne
  · rw [hrun]
    exact variableValue?_freshSession

end ScriptHost.Script
