import ScriptHost.Text.Blank

/-!
# Cutting expressions

Arguments are cut at commas outside quotes and parentheses, operands at ampersands outside quotes.
Either quote character opens a quotation, and only the same character closes it.
-/

namespace ScriptHost.Script

open ScriptHost.Text

/-- Whether a character opens or closes quotations. -/
def isQuote (c : Char) : Bool :=
  c == '"' || c == '\x27'

/-- The quotation that is open after a quote character: it opens one, closes its own kind, and does
nothing inside the other kind. -/
def afterQuote (inside : Option Char) (c : Char) : Option Char :=
  match inside with
  | none => some c
  | some q => if c == q then none else some q

/-- How a comma at depth zero and a parenthesis change the depth of parentheses. -/
def depthAfter (depth : Int) (c : Char) : Int :=
  if c == '(' then depth + 1 else if c == ')' then depth - 1 else depth

/-- Cuts at the commas outside quotes and parentheses; `cur` is the piece read so far, backwards. -/
def commaPiecesFrom (inside : Option Char) (depth : Int) (cur : List Char) :
    List Char → List (List Char)
  | [] => [cur.reverse]
  | c :: cs =>
    if isQuote c then commaPiecesFrom (afterQuote inside c) depth (c :: cur) cs
    else if inside.isSome then commaPiecesFrom inside depth (c :: cur) cs
    else if c == ',' && depth == 0 then cur.reverse :: commaPiecesFrom inside depth [] cs
    else commaPiecesFrom inside (depthAfter depth c) (c :: cur) cs

/-- The pieces of a text between the commas outside quotes and parentheses. -/
def commaPieces (cs : List Char) : List (List Char) :=
  commaPiecesFrom none 0 [] cs

/-- Leaves out the last piece if it is empty. -/
def dropEmptyLast (ps : List (List Char)) : List (List Char) :=
  if ps.getLast? == some [] then ps.dropLast else ps

/-- The arguments in a text: its pieces without the blanks around them. Nothing after the last comma
is no argument. -/
def splitArguments (cs : List Char) : List (List Char) :=
  (dropEmptyLast (commaPieces cs)).map strip

/-- Cuts at the ampersands outside quotes; `cur` is the piece read so far, backwards. -/
def operandPiecesFrom (inside : Option Char) (cur : List Char) : List Char → List (List Char)
  | [] => [cur.reverse]
  | c :: cs =>
    if isQuote c then operandPiecesFrom (afterQuote inside c) (c :: cur) cs
    else if c == '&' && inside.isNone then cur.reverse :: operandPiecesFrom inside [] cs
    else operandPiecesFrom inside (c :: cur) cs

/-- The operands that ampersands join; blank ones are left out. -/
def operands (cs : List Char) : List (List Char) :=
  ((operandPiecesFrom none [] cs).map strip).filter fun p => !p.isEmpty

/-! ### Pieces lie in the text -/

theorem infix_of_mem_commaPiecesFrom {p : List Char} (inside : Option Char) (depth : Int)
    (cur cs : List Char)
    (h : p ∈ commaPiecesFrom inside depth cur cs) : p <:+: cur.reverse ++ cs := by
  induction cs generalizing inside depth cur with
  | nil =>
    simp only [commaPiecesFrom, List.mem_singleton] at h
    simp [h]
  | cons c cs ih =>
    -- Reading on moves a character from the rest to the piece, which leaves the two together as
    -- they are.
    have hcons (inside : Option Char) (depth : Int)
        (h : p ∈ commaPiecesFrom inside depth (c :: cur) cs) :
        p <:+: cur.reverse ++ c :: cs := by
      simpa using ih inside depth (c :: cur) h
    unfold commaPiecesFrom at h
    split at h
    · exact hcons _ _ h
    · split at h
      · exact hcons _ _ h
      · split at h
        · rcases List.mem_cons.1 h with rfl | h
          · exact (List.prefix_append _ _).isInfix
          · exact (ih _ _ [] h).trans ⟨cur.reverse ++ [c], [], by simp⟩
        · exact hcons _ _ h

theorem infix_of_mem_splitArguments {p cs : List Char} (h : p ∈ splitArguments cs) : p <:+: cs := by
  obtain ⟨q, hq, rfl⟩ := List.mem_map.1 h
  have hmem : q ∈ commaPieces cs := by
    unfold dropEmptyLast at hq
    split at hq
    · exact (List.dropLast_sublist _).mem hq
    · exact hq
  exact (strip_isInfix q).trans (infix_of_mem_commaPiecesFrom none 0 [] cs hmem)

theorem infix_of_mem_operandPiecesFrom {p : List Char} (inside : Option Char) (cur cs : List Char)
    (h : p ∈ operandPiecesFrom inside cur cs) : p <:+: cur.reverse ++ cs := by
  induction cs generalizing inside cur with
  | nil =>
    simp only [operandPiecesFrom, List.mem_singleton] at h
    simp [h]
  | cons c cs ih =>
    have hcons (inside : Option Char) (h : p ∈ operandPiecesFrom inside (c :: cur) cs) :
        p <:+: cur.reverse ++ c :: cs := by
      simpa using ih inside (c :: cur) h
    unfold operandPiecesFrom at h
    split at h
    · exact hcons _ h
    · split at h
      · rcases List.mem_cons.1 h with rfl | h
        · exact (List.prefix_append _ _).isInfix
        · exact (ih _ [] h).trans ⟨cur.reverse ++ [c], [], by simp⟩
      · exact hcons _ h

theorem infix_of_mem_operands {p cs : List Char} (h : p ∈ operands cs) : p <:+: cs := by
  obtain ⟨q, hq, rfl⟩ := List.mem_map.1 (List.mem_filter.1 h).1
  exact (strip_isInfix q).trans (infix_of_mem_operandPiecesFrom none [] cs hq)

end ScriptHost.Script
