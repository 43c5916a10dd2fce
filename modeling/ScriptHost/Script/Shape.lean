import ScriptHost.Text.Blank
import ScriptHost.Text.Letter
import ScriptHost.Text.Word

/-!
# Shapes of statements

A statement is recognised by its shape: keywords in any case, blanks, and parts of which as much or
as little as possible is taken. A reader gives what it took and the rest to the reader that follows;
when that one refuses, it tries the next length. So the first way in which all parts fit is the one
that counts.
-/

namespace ScriptHost.Script.Shape

open ScriptHost.Text

variable {R : Type}

/-! ### Readers -/

/-- Reads a keyword, case aside. -/
def keyword (w : String) (cs : List Char) (next : List Char → Option R) : Option R :=
  if sameWord (cs.take w.length) w.toList then next (cs.drop w.length) else none

/-- Reads one character. -/
def char (c : Char) (cs : List Char) (next : List Char → Option R) : Option R :=
  match cs with
  | d :: rest => if d == c then next rest else none
  | [] => none

/-- The lengths of the runs at the start of a text that a reader may take, the least ones first. -/
def lengths (p : Char → Bool) (least : Nat) (cs : List Char) : List Nat :=
  List.range' least ((cs.takeWhile p).length + 1 - least)

/-- Reads a run of at least `least` characters, as few as possible. -/
def shortest (p : Char → Bool) (least : Nat) (cs : List Char)
    (next : List Char → List Char → Option R) : Option R :=
  (lengths p least cs).findSome? fun n => next (cs.take n) (cs.drop n)

/-- Reads a run of at least `least` characters, as many as possible. -/
def longest (p : Char → Bool) (least : Nat) (cs : List Char)
    (next : List Char → List Char → Option R) : Option R :=
  (lengths p least cs).reverse.findSome? fun n => next (cs.take n) (cs.drop n)

/-- Reads at least `least` blanks. -/
def blanks (least : Nat) (cs : List Char) (next : List Char → Option R) : Option R :=
  longest isBlank least cs fun _ rest => next rest

/-- Whether a character may stand inside a line. -/
def inLine (c : Char) : Bool := c != '\n'

/-- Reads some characters of a line, as few as possible. -/
def part (cs : List Char) (next : List Char → List Char → Option R) : Option R :=
  shortest inLine 1 cs next

/-- Reads some characters of a line, as many as possible. -/
def rest (cs : List Char) (next : List Char → List Char → Option R) : Option R :=
  longest inLine 1 cs next

/-- Nothing is left, but for one line break perhaps. -/
def atEnd (cs : List Char) : Bool :=
  cs.isEmpty || cs == ['\n']

/-- Ends a shape. -/
def done (cs : List Char) (r : R) : Option R :=
  if atEnd cs then some r else none

/-! ### Shapes -/

/-- The parts of a conditional: a condition, what to do if it holds, and what to do otherwise. -/
structure Conditional where
  condition : List Char
  yes : List Char
  no : Option (List Char)

/-- The statement of a conditional that is to be executed, if there is one. -/
def Conditional.pick (c : Conditional) (holds : Bool) : Option (List Char) :=
  if holds then some c.yes else c.no

/-- `If condition Then statement`, perhaps with `Else statement`. -/
def conditional (cs : List Char) : Option Conditional :=
  keyword "if" cs fun cs => blanks 1 cs fun cs => part cs fun condition cs =>
  blanks 1 cs fun cs => keyword "then" cs fun cs => blanks 1 cs fun cs => part cs fun yes cs =>
    (blanks 1 cs fun cs => keyword "else" cs fun cs => blanks 1 cs fun cs => rest cs fun no cs =>
      done cs ⟨condition, yes, some no⟩).or (done cs ⟨condition, yes, none⟩)

/-- The parts of a counting loop. -/
structure Loop where
  name : List Char
  start : List Char
  stop : List Char
  step : Option (List Char)

/-- `For name = start To stop`, perhaps with `Step step`. -/
def loop (cs : List Char) : Option Loop :=
  keyword "for" cs fun cs => blanks 1 cs fun cs => longest isWord 1 cs fun name cs =>
  blanks 0 cs fun cs => char '=' cs fun cs => blanks 0 cs fun cs => part cs fun start cs =>
  blanks 1 cs fun cs => keyword "to" cs fun cs => blanks 1 cs fun cs => part cs fun stop cs =>
    (blanks 1 cs fun cs => keyword "step" cs fun cs => blanks 1 cs fun cs => rest cs fun step cs =>
      done cs ⟨name, start, stop, some step⟩).or (done cs ⟨name, start, stop, none⟩)

/-- `Set name = expression`. -/
def setting (cs : List Char) : Option (List Char × List Char) :=
  keyword "set" cs fun cs => blanks 1 cs fun cs => longest isWord 1 cs fun name cs =>
  blanks 0 cs fun cs => char '=' cs fun cs => blanks 0 cs fun cs => rest cs fun expression _ =>
    some (name, expression)

/-- `While condition`. -/
def whileLoop (cs : List Char) : Option (List Char) :=
  keyword "while" cs fun cs => blanks 1 cs fun cs => rest cs fun condition _ => some condition

/-- A keyword with arguments in parentheses, up to the last closing one. -/
def called (w : String) (cs : List Char) : Option (List Char) :=
  keyword w cs fun cs => blanks 0 cs fun cs =>
    char '(' cs fun cs => longest inLine 0 cs fun args cs =>
    char ')' cs fun _ => some args

/-- A comma with blanks around it. -/
def comma (cs : List Char) (next : List Char → Option R) : Option R :=
  blanks 0 cs fun cs => char ',' cs fun cs => blanks 0 cs next

/-- A keyword with up to three arguments after it. -/
def listed (w : String) (cs : List Char) :
    Option (List Char × Option (List Char) × Option (List Char)) :=
  keyword w cs fun cs => blanks 1 cs fun cs => part cs fun first cs =>
    (comma cs fun cs => part cs fun second cs =>
      (comma cs fun cs => part cs fun third cs => done cs (first, some second, some third)).or
        (done cs (first, some second, none))).or (done cs (first, none, none))

/-- A name with arguments in parentheses, up to the first closing one. -/
def call (cs : List Char) : Option (List Char × List Char) :=
  longest isWord 1 cs fun name cs => char '(' cs fun cs => longest (· != ')') 0 cs fun args cs =>
    char ')' cs fun _ => some (name, args)

/-! ### What readers leave

If a shape fits, each of its readers took a piece of the text and the next one got what was left,
which is an end of the text. -/

theorem keyword_eq_some {w : String} {cs : List Char} {next : List Char → Option R} {r : R}
    (h : keyword w cs next = some r) :
    ∃ more, more <:+ cs ∧ w.length + more.length = cs.length ∧ next more = some r := by
  unfold keyword at h
  split at h
  · next hs =>
    refine ⟨cs.drop w.length, List.drop_suffix _ _, ?_, h⟩
    have hlen : min w.length cs.length = w.length := by
      simpa [String.length_toList] using length_eq_of_sameWord hs
    simp only [List.length_drop]
    omega
  · simp at h

theorem char_eq_some {c : Char} {cs : List Char} {next : List Char → Option R} {r : R}
    (h : char c cs next = some r) : ∃ more, more <:+ cs ∧ more.length < cs.length ∧
      next more = some r := by
  unfold char at h
  split at h
  · split at h
    · exact ⟨_, List.suffix_cons _ _, by simp, h⟩
    · simp at h
  · simp at h

theorem least_le_of_mem_lengths {p : Char → Bool} {least n : Nat} {cs : List Char}
    (h : n ∈ lengths p least cs) :
    least ≤ (cs.take n).length := by
  have hle : (cs.takeWhile p).length ≤ cs.length := (List.takeWhile_sublist p).length_le
  simp only [lengths, List.mem_range'_1] at h
  simp only [List.length_take]
  omega

theorem shortest_eq_some {p : Char → Bool} {least : Nat} {cs : List Char}
    {next : List Char → List Char → Option R} {r : R} (h : shortest p least cs next = some r) :
    ∃ taken more, taken ++ more = cs ∧ least ≤ taken.length ∧ next taken more = some r := by
  obtain ⟨n, hn, hr⟩ := List.exists_of_findSome?_eq_some h
  exact ⟨cs.take n, cs.drop n, List.take_append_drop n cs, least_le_of_mem_lengths hn, hr⟩

theorem longest_eq_some {p : Char → Bool} {least : Nat} {cs : List Char}
    {next : List Char → List Char → Option R} {r : R} (h : longest p least cs next = some r) :
    ∃ taken more, taken ++ more = cs ∧ least ≤ taken.length ∧ next taken more = some r := by
  obtain ⟨n, hn, hr⟩ := List.exists_of_findSome?_eq_some h
  exact ⟨cs.take n, cs.drop n, List.take_append_drop n cs,
    least_le_of_mem_lengths (List.mem_reverse.1 hn), hr⟩

theorem blanks_eq_some {least : Nat} {cs : List Char} {next : List Char → Option R} {r : R}
    (h : blanks least cs next = some r) : ∃ more, more <:+ cs ∧ next more = some r := by
  obtain ⟨taken, more, happ, _, hr⟩ := longest_eq_some h
  exact ⟨more, ⟨taken, happ⟩, hr⟩

theorem done_eq_some {cs : List Char} {r s : R} (h : done cs r = some s) : r = s := by
  unfold done at h
  split at h
  · exact Option.some.inj h
  · simp at h

/-- The parts of a conditional lie in what follows its first word. -/
theorem parts_of_conditional {cs : List Char} {c : Conditional} (h : conditional cs = some c) :
    ∃ body, body <:+ cs ∧ body.length < cs.length ∧ c.condition <:+: body ∧ c.yes <:+: body ∧
      ∀ no, c.no = some no → no <:+: body := by
  obtain ⟨body, h0, hlen, h⟩ := keyword_eq_some h
  obtain ⟨_, h1, h⟩ := blanks_eq_some h
  obtain ⟨condition, m2, h2, _, h⟩ := shortest_eq_some h
  obtain ⟨_, h3, h⟩ := blanks_eq_some h
  obtain ⟨_, h4, _, h⟩ := keyword_eq_some h
  obtain ⟨_, h5, h⟩ := blanks_eq_some h
  obtain ⟨yes, m6, h6, _, h⟩ := shortest_eq_some h
  have hif : "if".length = 2 := rfl
  have hcondition : condition <:+: body := List.IsInfix.trans ⟨[], m2, h2⟩ h1.isInfix
  have hstart := ((h5.trans h4).trans h3).trans (.trans ⟨condition, h2⟩ h1)
  have hyes : yes <:+: body := List.IsInfix.trans ⟨[], m6, h6⟩ hstart.isInfix
  rcases Option.or_eq_some_iff.1 h with h | ⟨_, h⟩
  · obtain ⟨_, h7, h⟩ := blanks_eq_some h
    obtain ⟨_, h8, _, h⟩ := keyword_eq_some h
    obtain ⟨_, h9, h⟩ := blanks_eq_some h
    obtain ⟨no, m10, h10, _, h⟩ := longest_eq_some h
    obtain rfl := done_eq_some h
    have hend := ((h9.trans h8).trans h7).trans (.trans ⟨yes, h6⟩ hstart)
    refine ⟨body, h0, by omega, hcondition, hyes, fun other hother => ?_⟩
    obtain rfl := Option.some.inj hother
    exact List.IsInfix.trans ⟨[], m10, h10⟩ hend.isInfix
  · obtain rfl := done_eq_some h
    exact ⟨body, h0, by omega, hcondition, hyes, by simp⟩

/-- The statement that is picked lies in the conditional and is shorter than it. -/
theorem infix_of_pick {cs line : List Char} {c : Conditional} {holds : Bool}
    (h : conditional cs = some c)
    (hpick : c.pick holds = some line) : line <:+: cs ∧ line.length < cs.length := by
  obtain ⟨body, hbody, hlen, _, hyes, hno⟩ := parts_of_conditional h
  have hline : line <:+: body := by
    cases holds with
    | true =>
      obtain rfl := Option.some.inj hpick
      exact hyes
    | false => exact hno line hpick
  exact ⟨hline.trans hbody.isInfix, Nat.lt_of_le_of_lt hline.length_le hlen⟩

/-- Name and arguments of a call lie in the call, and the arguments are shorter than it. -/
theorem parts_of_call {cs name args : List Char} (h : call cs = some (name, args)) :
    name <:+: cs ∧ args <:+: cs ∧ args.length < cs.length := by
  obtain ⟨word, m0, h0, _, h⟩ := longest_eq_some h
  obtain ⟨_, h1, hlt, h⟩ := char_eq_some h
  obtain ⟨inner, m2, h2, _, h⟩ := longest_eq_some h
  obtain ⟨_, _, _, h⟩ := char_eq_some h
  obtain ⟨hname, hinner⟩ := Prod.mk.inj (Option.some.inj h)
  subst hname hinner
  have hargs : inner <:+: m0 := List.IsInfix.trans ⟨[], m2, h2⟩ h1.isInfix
  have hm0 : m0 <:+ cs := ⟨word, h0⟩
  have hle : inner.length ≤ m0.length - 1 := by
    have := congrArg List.length h2
    simp only [List.length_append] at this
    omega
  have := hm0.length_le
  exact ⟨⟨[], m0, h0⟩, hargs.trans hm0.isInfix, by omega⟩

end ScriptHost.Script.Shape
