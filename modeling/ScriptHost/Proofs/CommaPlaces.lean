import Mathlib.Data.List.Induction
import Mathlib.Data.List.Range
import ScriptHost.Proofs.Calls

/-!
# The places where arguments are cut

A list of arguments is cut at commas. Which commas these are is told by the text before each of
them: no quotation is open there, and of the parentheses outside quotations as many were closed as
were opened (`isCut`). Between one such place and the next stands an argument, so that nothing of
the text is lost but the commas and, in the end, the blanks around the arguments
(`splitArguments_eq`). A list of quoted texts is the plainest case: whatever the texts hold, each of
them is an argument, and its value is the text (`mapM_evaluate_literals`).
-/

namespace ScriptHost.Script

open ScriptHost.Text

/-! ### Places -/

/-- How often a character stands outside quotations. -/
def outsideCount (c : Char) (cs : List Char) : Nat :=
  (List.range cs.length).countP fun i => cs[i]? == some c && (quoteAfter none (cs.take i)).isNone

/-- How many more parentheses are opened than closed outside quotations. -/
def depthOf (cs : List Char) : Int :=
  outsideCount '(' cs - outsideCount ')' cs

/-- Whether a text is cut at a place: there is a comma, and neither a quotation nor a parenthesis is
open before it. -/
def isCut (cs : List Char) (i : Nat) : Bool :=
  cs[i]? == some ',' && (quoteAfter none (cs.take i)).isNone && depthOf (cs.take i) == 0

/-- The places where a text is cut, from left to right. -/
def cutPlaces (cs : List Char) : List Nat :=
  (List.range cs.length).filter (isCut cs)

/-- The characters of a text from one place up to another. -/
def stretch (cs : List Char) (first last : Nat) : List Char :=
  (cs.take last).drop first

/-- What stands before, between and after some places of a text. -/
def stretches (places : List Nat) (cs : List Char) : List (List Char) :=
  List.zipWith (stretch cs) (0 :: places.map (· + 1)) (places ++ [cs.length])

/-! ### What the scanner knows at a place -/

lemma quoteAfter_concat (cs : List Char) (d : Char) :
    quoteAfter none (cs ++ [d]) =
      if isQuote d then afterQuote (quoteAfter none cs) d else quoteAfter none cs := by
  rw [quoteAfter_append]
  rfl

lemma outsideCount_concat (c : Char) (cs : List Char) (d : Char) :
    outsideCount c (cs ++ [d]) =
      outsideCount c cs + if d == c && (quoteAfter none cs).isNone then 1 else 0 := by
  have hbefore : (List.range cs.length).countP (fun i => (cs ++ [d])[i]? == some c &&
      (quoteAfter none ((cs ++ [d]).take i)).isNone) = outsideCount c cs := by
    apply List.countP_congr
    intro i hi
    have hlt : i < cs.length := List.mem_range.1 hi
    rw [List.getElem?_append_left hlt, List.take_append_of_le_length hlt.le]
  rw [outsideCount, List.length_append, List.length_singleton, List.range_succ, List.countP_append,
    hbefore, List.countP_singleton]
  simp

lemma depthAfter_of_isQuote {c : Char} (h : isQuote c = true) (depth : Int) :
    depthAfter depth c = depth := by
  have hopen : c ≠ '(' := by
    rintro rfl
    exact absurd h (by decide)
  have hclose : c ≠ ')' := by
    rintro rfl
    exact absurd h (by decide)
  simp [depthAfter, hopen, hclose]

/-- A character outside quotations changes the depth as the scanner reckons it. -/
lemma depthOf_concat (cs : List Char) (d : Char) :
    depthOf (cs ++ [d]) =
      if (quoteAfter none cs).isNone then depthAfter (depthOf cs) d else depthOf cs := by
  rw [depthOf, depthOf, outsideCount_concat, outsideCount_concat]
  by_cases hinside : (quoteAfter none cs).isNone = true
  · rw [if_pos hinside, hinside, depthAfter]
    grind
  · simp [hinside]

/-- What the scanner knows after a text is the quotation that is open and the depth. -/
lemma after_outside (cs : List Char) :
    Nesting.outside.after cs = ⟨quoteAfter none cs, depthOf cs⟩ := by
  induction cs using List.reverseRecOn with
  | nil => rfl
  | append_singleton cs d ih =>
    have hstep : Nesting.outside.after (cs ++ [d]) =
        Nesting.step ⟨quoteAfter none cs, depthOf cs⟩ d := by
      rw [Nesting.after_append, ih]
      rfl
    rw [hstep, Nesting.step, quoteAfter_concat, depthOf_concat]
    by_cases hquote : isQuote d = true
    · rw [if_pos hquote, if_pos hquote, depthAfter_of_isQuote hquote, ite_self]
    · rw [if_neg hquote, if_neg hquote]
      cases hinside : quoteAfter none cs with
      | none => rfl
      | some q => rfl

/-- A text is cut at a comma before which nothing is open. -/
lemma isCut_iff {cs : List Char} {i : Nat} :
    isCut cs i = true ↔ cs[i]? = some ',' ∧ Nesting.outside.after (cs.take i) = .outside := by
  rw [isCut, after_outside, Nesting.outside, Bool.and_eq_true, Bool.and_eq_true, beq_iff_eq,
    Option.isNone_iff_eq_none, beq_iff_eq, Nesting.mk.injEq, and_assoc]

/-! ### From one cut to the next -/

lemma commasInside_or_exists (n : Nesting) (cs : List Char) :
    n.CommasInside cs ∨
      ∃ p rest, cs = p ++ ',' :: rest ∧ n.CommasInside p ∧ n.after p = .outside := by
  induction cs generalizing n with
  | nil => exact .inl n.commasInside_nil
  | cons c cs ih =>
    by_cases hcut : c = ',' ∧ n = .outside
    · obtain ⟨rfl, rfl⟩ := hcut
      exact .inr ⟨[], cs, rfl, Nesting.commasInside_nil _, rfl⟩
    · have hfirst : c = ',' → n ≠ .outside := fun hc hn => hcut ⟨hc, hn⟩
      rcases ih (n.step c) with hall | ⟨p, rest, rfl, hp, hafter⟩
      · exact .inl ((n.commasInside_cons c cs).2 ⟨hfirst, hall⟩)
      · exact .inr ⟨c :: p, rest, rfl, (n.commasInside_cons c p).2 ⟨hfirst, hp⟩, hafter⟩

/-- Arguments are found one after the other: a text has no comma outside, or an argument and a comma
come before the rest of it. -/
theorem cut_induction {motive : List Char → Prop}
    (last : ∀ cs, Nesting.outside.CommasInside cs → motive cs)
    (cut : ∀ p rest, IsArgument p → motive rest → motive (p ++ ',' :: rest)) (cs : List Char) :
    motive cs := by
  induction hlen : cs.length using Nat.strongRecOn generalizing cs with
  | _ k ih =>
    rcases commasInside_or_exists .outside cs with hall | ⟨p, rest, rfl, hp, hafter⟩
    · exact last cs hall
    · apply cut p rest ⟨hafter, hp⟩
      apply ih rest.length _ rest rfl
      rw [← hlen, List.length_append, List.length_cons]
      omega

/-- A text without commas outside is not cut. -/
lemma cutPlaces_of_commasInside {cs : List Char} (h : Nesting.outside.CommasInside cs) :
    cutPlaces cs = [] := by
  rw [cutPlaces, List.filter_eq_nil_iff]
  intro i _ hcut
  obtain ⟨hcomma, houtside⟩ := isCut_iff.1 hcut
  obtain ⟨hlt, hget⟩ := List.getElem?_eq_some_iff.1 hcomma
  refine h (cs.take i) (cs.drop (i + 1)) ?_ houtside
  rw [← hget, List.getElem_cons_drop, List.take_append_drop]

/-- After an argument, the comma is a place where the text is cut, and the other places are those of
the rest. -/
lemma cutPlaces_append_cons {p : List Char} (h : IsArgument p) (rest : List Char) :
    cutPlaces (p ++ ',' :: rest) = p.length :: (cutPlaces rest).map (p.length + 1 + ·) := by
  have hbefore : (List.range p.length).filter (isCut (p ++ ',' :: rest)) = [] := by
    rw [← cutPlaces_of_commasInside h.inside, cutPlaces]
    apply List.filter_congr
    intro i hi
    have hlt : i < p.length := List.mem_range.1 hi
    rw [isCut, isCut, List.getElem?_append_left hlt, List.take_append_of_le_length hlt.le]
  have hcomma : isCut (p ++ ',' :: rest) p.length = true := by
    rw [isCut_iff, List.take_left]
    exact ⟨by simp, h.closed⟩
  have hafter (j : Nat) : isCut (p ++ ',' :: rest) (p.length + 1 + j) = isCut rest j := by
    have htext : p ++ ',' :: rest = (p ++ [',']) ++ rest := by simp
    have hlen : p.length + 1 + j = (p ++ [',']).length + j := by simp
    have hnone : Nesting.outside.after (p ++ [',']) = .outside := by
      rw [Nesting.after_append, h.closed]
      rfl
    rw [Bool.eq_iff_iff, isCut_iff, isCut_iff, htext, hlen, List.take_length_add_append,
      Nesting.after_append, hnone, List.getElem?_append_right (Nat.le_add_right _ _),
      Nat.add_sub_cancel_left]
  have hlen : (p ++ ',' :: rest).length = p.length + 1 + rest.length := by
    rw [List.length_append, List.length_cons]
    omega
  rw [cutPlaces, hlen, List.range_add, List.range_succ, List.filter_append, List.filter_append,
    hbefore, List.filter_singleton, hcomma, List.filter_map, cutPlaces]
  have hcongr : (List.range rest.length).filter (isCut (p ++ ',' :: rest) ∘ fun j =>
      p.length + 1 + j) =
      (List.range rest.length).filter (isCut rest) :=
    List.filter_congr fun j _ => hafter j
  rw [hcongr]
  rfl

lemma stretches_nil (cs : List Char) : stretches [] cs = [cs] := by
  simp [stretches, stretch]

/-- The first stretch goes to the first place, and the others lie in what comes after it. -/
lemma stretches_append_cons (p : List Char) (c : Char) (rest : List Char) (places : List Nat) :
    stretches (p.length :: places.map (p.length + 1 + ·)) (p ++ c :: rest) =
      p :: stretches places rest := by
  have hfirst : stretch (p ++ c :: rest) 0 p.length = p := by
    rw [stretch, List.take_left, List.drop_zero]
  have hshift (i j : Nat) :
      stretch (p ++ c :: rest) (p.length + 1 + i) (p.length + 1 + j) = stretch rest i j := by
    have htext : p ++ c :: rest = (p ++ [c]) ++ rest := by simp
    have hlen (k : Nat) : p.length + 1 + k = (p ++ [c]).length + k := by simp
    rw [stretch, htext, hlen, hlen, List.take_length_add_append, List.drop_length_add_append,
      stretch]
  have hstarts : (p.length :: places.map (p.length + 1 + ·)).map (· + 1) =
      (0 :: places.map (· + 1)).map (p.length + 1 + ·) := by
    simp [Function.comp_def, Nat.add_assoc]
  have hends : places.map (p.length + 1 + ·) ++ [(p ++ c :: rest).length] =
      (places ++ [rest.length]).map (p.length + 1 + ·) := by
    rw [List.map_append, List.map_singleton, List.length_append, List.length_cons, Nat.add_assoc,
      Nat.add_comm rest.length 1]
  rw [stretches, hstarts, List.cons_append, hends, List.zipWith_cons_cons, hfirst,
    List.zipWith_map, stretches]
  simp only [hshift]

/-- The scanner finds what stands between the places. -/
theorem commaPieces_eq (cs : List Char) : commaPieces cs = stretches (cutPlaces cs) cs := by
  induction cs using cut_induction with
  | last cs h => rw [commaPieces_of_commasInside h, cutPlaces_of_commasInside h, stretches_nil]
  | cut p rest h ih =>
    rw [commaPieces_append_cons h, cutPlaces_append_cons h, stretches_append_cons, ih]

/-- The pieces with commas between them are the text. -/
theorem intercalate_commaPieces (cs : List Char) : [','].intercalate (commaPieces cs) = cs := by
  induction cs using cut_induction with
  | last cs h => simp [commaPieces_of_commasInside h]
  | cut p rest h ih =>
    have hne : commaPieces rest ≠ [] := by
      intro hnil
      rw [commaPieces_eq, stretches] at hnil
      simp at hnil
    obtain ⟨q, qs, hq⟩ := List.exists_cons_of_ne_nil hne
    rw [commaPieces_append_cons h, hq, List.intercalate_cons_cons, ← hq, ih]
    simp

/-- The arguments are what stands between the commas before which neither a quotation nor a
parenthesis is open, without the blanks around it. What stands after the last one is left out
exactly if it is empty. Joined by commas again, the stretches are the text. -/
theorem splitArguments_eq (cs : List Char) :
    splitArguments cs =
        (if (stretches (cutPlaces cs) cs).getLast? = some [] then
          (stretches (cutPlaces cs) cs).dropLast
        else stretches (cutPlaces cs) cs).map strip ∧
      [','].intercalate (stretches (cutPlaces cs) cs) = cs := by
  rw [← commaPieces_eq]
  refine ⟨?_, intercalate_commaPieces cs⟩
  rw [splitArguments, dropEmptyLast]
  simp only [beq_iff_eq]

/-- A parenthesis that was never opened hides the commas after it until another one makes up for it;
a comma at the very end leaves nothing behind. -/
example : splitArguments "a), b(, 'c, \"d', e,".toList =
    ["a), b(".toList, "'c, \"d'".toList, "e".toList] := by
  decide

/-! ### Quoted texts -/

lemma Term.meanings_quoted (lib : Library) (ts : List String) :
    Term.meanings lib (ts.map .quoted) = pure (ts.map .text) := by
  induction ts with
  | nil => rfl
  | cons t ts ih =>
    rw [List.map_cons, Term.meanings, Term.meaning, ih]
    rfl

/-- Quoted texts between commas are arguments, whatever they hold, and their values are the texts,
in every scene. -/
theorem mapM_evaluate_literals (lib : Library) {ts : List String} (hne : ts ≠ [])
    (h : ∀ t ∈ ts, '"' ∉ t.toList) :
    splitArguments (", ".toList.intercalate (ts.map literal)) = ts.map literal ∧
      (splitArguments (", ".toList.intercalate (ts.map literal))).mapM (evaluate lib) =
        pure (ts.map .text) := by
  have hsplit : splitArguments (", ".toList.intercalate (ts.map literal)) = ts.map literal := by
    have htexts := argumentTexts_quoted h
    rw [Term.inner, Term.texts_quoted, argumentTexts] at htexts
    split at htexts
    · exact absurd htexts.symm (by simpa using hne)
    · exact htexts
  have hvalues := evaluateArguments_quoted lib h
  rw [evaluateArguments, argumentTexts_quoted h, Term.meanings_quoted, Step.act_pure] at hvalues
  refine ⟨hsplit, ?_⟩
  rw [hsplit, hvalues]

theorem mapM_evaluate_literals_threeTexts :
    splitArguments "\"a, b)\", \"it's & (x\", \"\"".toList =
        ["\"a, b)\"".toList, "\"it's & (x\"".toList, "\"\"".toList] ∧
      ["\"a, b)\"".toList, "\"it's & (x\"".toList, "\"\"".toList].mapM
          (evaluate (library .capital)) =
        pure [.text "a, b)", .text "it's & (x", .text ""] := by
  have htexts : ∀ t ∈ ["a, b)", "it's & (x", ""], '"' ∉ t.toList := by
    simp only [List.forall_mem_cons]
    decide
  obtain ⟨hsplit, hvalues⟩ :=
    mapM_evaluate_literals (library .capital) (by decide) htexts
  rw [hsplit] at hvalues
  exact ⟨hsplit, hvalues⟩

end ScriptHost.Script
