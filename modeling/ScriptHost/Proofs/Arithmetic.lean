import ScriptHost.Proofs.Literals

/-!
# Arithmetic expressions

Sums, differences and products of whole numbers and names, with parentheses and with blanks around
the operators. What is written is ranked by how strongly it binds, so that every text of this kind
is the text of one expression, and its value is the one that is meant.

The text is cut into the tokens of the expression (`Arithmetic.scans_text`), with the brackets that
are open around it and whatever comes after it.
-/

namespace ScriptHost.Formula

open ScriptHost.Number ScriptHost.Text
open ScriptHost.Script (IsName)

/-- The signs between the terms of a sum. -/
inductive Sign where
  | plus
  | minus

namespace Sign

def symbol : Sign → String
  | plus => "+"
  | minus => "-"

def operation : Sign → BinaryOp
  | plus => .add
  | minus => .sub

def apply : Sign → Int → Int → Int
  | plus, a, b => a + b
  | minus, a, b => a - b

end Sign

/-- How strongly the parts of an expression bind. -/
inductive Rank where
  | sum
  | product
  | factor

/-- Arithmetic expressions. -/
inductive Arithmetic : Rank → Type
  | literal (l : Literal) : Arithmetic .factor
  | name (x : List Char) : Arithmetic .factor
  | group (e : Arithmetic .sum) : Arithmetic .factor
  | ofFactor (f : Arithmetic .factor) : Arithmetic .product
  | times (p : Arithmetic .product) (f : Arithmetic .factor) : Arithmetic .product
  | ofProduct (p : Arithmetic .product) : Arithmetic .sum
  | plus (e : Arithmetic .sum) (s : Sign) (p : Arithmetic .product) : Arithmetic .sum

namespace Arithmetic

def text {r : Rank} : Arithmetic r → List Char
  | literal l => l.text
  | name x => x
  | group e => '(' :: (e.text ++ [')'])
  | ofFactor f => f.text
  | times p f => p.text ++ ' ' :: ("*".toList ++ ' ' :: f.text)
  | ofProduct p => p.text
  | plus e s p => e.text ++ ' ' :: (s.symbol.toList ++ ' ' :: p.text)

/-- The number that is meant, with numbers for the names. -/
def value (env : List Char → Int) {r : Rank} : Arithmetic r → Int
  | literal l => l.value
  | name x => env x
  | group e => e.value env
  | ofFactor f => f.value env
  | times p f => p.value env * f.value env
  | ofProduct p => p.value env
  | plus e s p => s.apply (e.value env) (p.value env)

def names {r : Rank} : Arithmetic r → List (List Char)
  | literal _ => []
  | name x => [x]
  | group e => e.names
  | ofFactor f => f.names
  | times p f => p.names ++ f.names
  | ofProduct p => p.names
  | plus e _ p => e.names ++ p.names

def literals {r : Rank} : Arithmetic r → List Literal
  | literal l => [l]
  | name _ => []
  | group e => e.literals
  | ofFactor f => f.literals
  | times p f => p.literals ++ f.literals
  | ofProduct p => p.literals
  | plus e _ p => e.literals ++ p.literals

/-- How deep parentheses are nested. -/
def depth {r : Rank} : Arithmetic r → Nat
  | literal _ => 0
  | name _ => 0
  | group e => e.depth + 1
  | ofFactor f => f.depth
  | times p f => max p.depth f.depth
  | ofProduct p => p.depth
  | plus e _ p => max e.depth p.depth

def tokens {r : Rank} : Arithmetic r → List Token
  | literal l => l.tokens
  | name x => [.name (String.ofList x)]
  | group e => .sign "(" :: (e.tokens ++ [.sign ")"])
  | ofFactor f => f.tokens
  | times p f => p.tokens ++ .sign "*" :: f.tokens
  | ofProduct p => p.tokens
  | plus e s p => e.tokens ++ .sign s.symbol :: p.tokens

variable {r : Rank}

/-- What formulas read of an expression: the literals are readable, and no name is a reserved word.
-/
structure IsReadable (e : Arithmetic r) : Prop where
  literals : ∀ l ∈ e.literals, l.IsReadable
  names : ∀ x ∈ e.names, IsName x ∧ reserved.contains (String.ofList x) = false

/-! ### Characters -/

/-- An expression has no characters but those of its names and literals, blanks, operators and
parentheses. -/
lemma mem_text {e : Arithmetic r} (hnames : ∀ x ∈ e.names, IsName x) {c : Char} (hc : c ∈ e.text) :
    isPlainWord c = true ∨ c ∈ [' ', '+', '-', '*', '(', ')'] := by
  induction e with
  | literal l =>
    rcases l.mem_text hc with hdigit | rfl
    · exact .inl (Script.forall_plain (P := fun c => c.isDigit = true → isPlainWord c = true)
        (by decide) (Script.toNat_lt_of_isDigit hdigit) hdigit)
    · exact .inr (by decide)
  | name x => exact .inl ((hnames x List.mem_cons_self).chars c hc)
  | group e ih =>
    simp only [text, List.mem_cons, List.mem_append, List.not_mem_nil, or_false] at hc
    rcases hc with rfl | hc | rfl
    · exact .inr (by decide)
    · exact ih hnames hc
    · exact .inr (by decide)
  | ofFactor f ih => exact ih hnames hc
  | times p f ihp ihf =>
    simp only [text, List.mem_cons, List.mem_append] at hc
    rcases hc with hc | rfl | hc | rfl | hc
    · exact ihp (fun x hx => hnames x (List.mem_append_left _ hx)) hc
    · exact .inr (by decide)
    · exact .inr (by rw [List.mem_singleton.1 hc]; decide)
    · exact .inr (by decide)
    · exact ihf (fun x hx => hnames x (List.mem_append_right _ hx)) hc
  | ofProduct p ih => exact ih hnames hc
  | plus e s p ihe ihp =>
    simp only [text, List.mem_cons, List.mem_append] at hc
    rcases hc with hc | rfl | hc | rfl | hc
    · exact ihe (fun x hx => hnames x (List.mem_append_left _ hx)) hc
    · exact .inr (by decide)
    · cases s with
      | plus => exact .inr (by rw [List.mem_singleton.1 hc]; decide)
      | minus => exact .inr (by rw [List.mem_singleton.1 hc]; decide)
    · exact .inr (by decide)
    · exact ihp (fun x hx => hnames x (List.mem_append_right _ hx)) hc

/-! ### Scanning -/

/-- An expression is cut into its tokens. -/
theorem scans_text {r : Rank} {e : Arithmetic r} (he : e.IsReadable) {open_ : List String}
    (hdepth : open_.length + e.depth ≤ depthLimit) {rest : List Char} (hrest : EndsOperand rest)
    {ts : Option (List Token)} (h : Scans open_ rest ts) :
    Scans open_ (e.text ++ rest) (ts.map (e.tokens ++ ·)) := by
  induction e generalizing open_ rest ts with
  | literal l =>
    have hscan := l.scans_text hrest h
    rwa [if_pos (he.literals l List.mem_cons_self)] at hscan
  | name x =>
    obtain ⟨hx, hfree⟩ := he.names x List.mem_cons_self
    exact scans_word hx hfree hrest h
  | group e ih =>
    simp only [depth] at hdepth
    have hscan := Scans.group (by omega) h fun hinner =>
      ih ⟨he.literals, he.names⟩ (by rw [List.length_cons]; omega)
        (endsOperand_cons (.inr rfl) rest) hinner
    simpa only [text, tokens, Option.map_map, Function.comp_def, List.append_assoc,
      List.cons_append, List.nil_append] using hscan
  | ofFactor f ih => exact ih ⟨he.literals, he.names⟩ hdepth hrest h
  | times p f ihp ihf =>
    simp only [depth] at hdepth
    have hright := ihf ⟨fun l hl => he.literals l (List.mem_append_right _ hl),
      fun x hx => he.names x (List.mem_append_right _ hx)⟩ (by omega) hrest h
    have hsign : "*" ∈ spacedSigns := by decide
    have hleft := ihp ⟨fun l hl => he.literals l (List.mem_append_left _ hl),
      fun x hx => he.names x (List.mem_append_left _ hx)⟩ (by omega) (endsOperand_cons (.inl rfl) _)
      (Scans.spaced hsign hright)
    simpa only [text, tokens, Option.map_map, Function.comp_def, List.append_assoc,
      List.cons_append] using hleft
  | ofProduct p ih => exact ih ⟨he.literals, he.names⟩ hdepth hrest h
  | plus e s p ihe ihp =>
    simp only [depth] at hdepth
    have hright := ihp ⟨fun l hl => he.literals l (List.mem_append_right _ hl),
      fun x hx => he.names x (List.mem_append_right _ hx)⟩ (by omega) hrest h
    have hsign : s.symbol ∈ spacedSigns := by cases s <;> decide
    have hleft := ihe ⟨fun l hl => he.literals l (List.mem_append_left _ hl),
      fun x hx => he.names x (List.mem_append_left _ hx)⟩ (by omega) (endsOperand_cons (.inl rfl) _)
      (Scans.spaced hsign hright)
    simpa only [text, tokens, Option.map_map, Function.comp_def, List.append_assoc,
      List.cons_append] using hleft

end Arithmetic

end ScriptHost.Formula
