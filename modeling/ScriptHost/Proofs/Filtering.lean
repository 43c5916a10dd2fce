import ScriptHost.Proofs.FirstOccurrence
import ScriptHost.Proofs.Refusals

/-!
# Filtering a list

`Filter` keeps the items of a list whose text holds a pattern, or those whose text does not. The
items kept by the one and by the other make up the list: each item is in exactly one of the two, and
both are in the order of the list. Whether a text holds a pattern is what `InStr` decides too, from
a search for the first occurrence. Both fail only where a value has no text, which is a whole number
with too many digits or a list that has one.
-/

namespace ScriptHost

/-- A list is made up of two others if its items are taken from the front of the one or of the other
until both are used up. -/
inductive Interleaved {α : Type} : List α → List α → List α → Prop
  | nil : Interleaved [] [] []
  | left {x : α} {xs ys zs : List α} : Interleaved xs ys zs → Interleaved (x :: xs) ys (x :: zs)
  | right {y : α} {xs ys zs : List α} : Interleaved xs ys zs → Interleaved xs (y :: ys) (y :: zs)

namespace Interleaved

variable {α : Type} {xs ys zs : List α}

lemma length_add (h : Interleaved xs ys zs) : xs.length + ys.length = zs.length := by
  induction h with
  | nil => rfl
  | left _ ih =>
    rw [List.length_cons, List.length_cons]
    omega
  | right _ ih =>
    rw [List.length_cons, List.length_cons]
    omega

/-- A list is made up of the items that have a property and of those that do not. -/
lemma filter_filter_not (p : α → Bool) (zs : List α) :
    Interleaved (zs.filter p) (zs.filter fun z => !p z) zs := by
  induction zs with
  | nil => exact .nil
  | cons z zs ih =>
    cases hz : p z with
    | true =>
      rw [List.filter_cons_of_pos hz, List.filter_cons_of_neg (by simp [hz])]
      exact .left ih
    | false =>
      rw [List.filter_cons_of_neg (by simp [hz]), List.filter_cons_of_pos (by simp [hz])]
      exact .right ih

end Interleaved

namespace TextFunction

open Text DateFunction

lemma chars_of_display {v : Value} {t : String} (h : v.display = .ok t) :
    chars v = .ok t.toList := by
  rw [chars, h]
  rfl

lemma chars_of_display_error {v : Value} {e : Fault} (h : v.display = .error e) :
    chars v = .error e := by
  rw [chars, h]
  rfl

lemma positionOf_one_of_chars {a b : Value} {text old : List Char} (ha : chars a = .ok text)
    (hb : chars b = .ok old)
    (c : Value) : positionOf (.int 1) a b c = .ok (.int (position 1 text old (anyCase c))) := by
  simp only [positionOf, one, compareWith_lt_int, ok_bind, ha, hb]
  rfl

/-- A search fails as the texts fail that it needs: they are made one after the other, and can only
fail alike. -/
lemma positionOf_one_error {a b : Value} {e : Fault}
    (h : a.display = .error e ∨ b.display = .error e) (c : Value) :
    positionOf (.int 1) a b c = .error e := by
  have hstart : (Value.int 1).compareWith .lt one = .ok false := compareWith_lt_int 1 1
  cases ha : a.display with
  | error e' =>
    obtain rfl : e' = e := by
      rcases h with h | h
      · rw [ha] at h
        exact Except.error.inj h
      · rw [eq_of_display_eq_error ha, eq_of_display_eq_error h]
    simp only [positionOf, hstart, ok_bind, chars_of_display_error ha]
    rfl
  | ok t =>
    have hb : b.display = .error e := h.resolve_left (by rw [ha]; exact nofun)
    simp only [positionOf, hstart, ok_bind, chars_of_display ha, chars_of_display_error hb]
    rfl

/-- The position is zero only if there is no occurrence; the empty text occurs at the start of every
text. -/
lemma position_one_ne_zero_iff {text old : List Char} {mode : Bool} :
    position 1 text old mode ≠ 0 ↔ compared mode old <:+: compared mode text := by
  rw [position_one, ← Script.findFrom_isSome_iff _ 0]
  cases findFrom (compared mode old) 0 (compared mode text) with
  | none => simp
  | some i => simp

end TextFunction

namespace ListFunction

open Text TextFunction DateFunction

variable {mode keep : Bool} {pattern : List Char}

lemma matchesText_iff {text : List Char} :
    matchesText mode pattern text = true ↔ compared mode pattern <:+: compared mode text := by
  cases mode with
  | false => exact Script.occurs_iff
  | true => exact Script.occurs_iff

/-- Whether a value has a text that holds a pattern. -/
def holds (mode : Bool) (pattern : List Char) (x : Value) : Bool :=
  ((chars x).toOption.map (matchesText mode pattern)).getD false

lemma holds_of_chars {x : Value} {text : List Char} (h : chars x = .ok text) :
    holds mode pattern x = matchesText mode pattern text := by
  rw [holds, h]
  rfl

/-- If all items have texts, then those that hold the pattern are kept, or all the others. -/
lemma filterItems_eq_filter {xs : List Value} (h : ∀ x ∈ xs, ∃ t, x.display = .ok t) :
    filterItems mode keep pattern xs = .ok (xs.filter fun x => holds mode pattern x == keep) := by
  induction xs with
  | nil => rfl
  | cons x xs ih =>
    obtain ⟨t, ht⟩ := h x List.mem_cons_self
    have hx := chars_of_display ht
    have hrest := ih fun y hy => h y (List.mem_cons_of_mem x hy)
    rw [filterItems, hx, ok_bind, hrest, ok_bind, ← holds_of_chars hx, List.filter_cons]
    rfl

lemma mem_of_display {x y : Value} {ys : List Value} {e : Fault} {t : String} (hx : x ∈ y :: ys)
    (he : x.display = .error e) (hy : y.display = .ok t) : x ∈ ys := by
  refine List.mem_of_ne_of_mem ?_ hx
  rintro rfl
  rw [he] at hy
  cases hy

/-- An item without a text makes the whole filter fail. -/
lemma filterItems_error {xs : List Value} {x : Value} {e : Fault} (hx : x ∈ xs)
    (he : x.display = .error e) :
    filterItems mode keep pattern xs = .error e := by
  induction xs with
  | nil => exact absurd hx List.not_mem_nil
  | cons y ys ih =>
    rw [filterItems]
    cases hy : y.display with
    | error e' =>
      rw [chars_of_display_error hy, eq_of_display_eq_error hy, eq_of_display_eq_error he]
      rfl
    | ok t =>
      rw [chars_of_display hy, ok_bind, ih (mem_of_display hx he hy)]
      rfl

lemma filterOf_list {v : Value} {t : String} (hv : v.display = .ok t) {xs : List Value}
    (h : ∀ x ∈ xs, ∃ t, x.display = .ok t) (keep : Bool) (c : Value) :
    filterOf (.list xs) v (.bool keep) c =
      .ok (.list (xs.filter fun x => holds (anyCase c) t.toList x == keep)) := by
  have htruthy : (Value.bool keep).truthy = keep := rfl
  simp only [filterOf, chars_of_display hv, ok_bind, htruthy, filterItems_eq_filter h]
  rfl

lemma filterOf_list_error {v x : Value} {xs : List Value} {e : Fault} (hx : x ∈ v :: xs)
    (he : x.display = .error e)
    (keep : Value) (c : Value) : filterOf (.list xs) v keep c = .error e := by
  cases hv : v.display with
  | error e' =>
    simp only [filterOf, chars_of_display_error hv]
    rw [eq_of_display_eq_error hv, eq_of_display_eq_error he]
    rfl
  | ok t =>
    simp only [filterOf, chars_of_display hv, ok_bind,
      filterItems_error (mem_of_display hx he hv) he]
    rfl

end ListFunction

namespace Catalog

open Text TextFunction ListFunction

lemma carryOut_filter {filter : Routine} (h : lists.lookup "Filter" = some filter)
    (xs v keep compare : Value)
    (w : World) : (filter.call [xs, v, keep, compare] []).carryOut w =
      (filterOf xs v keep compare, w) := by
  obtain rfl : _ = filter := Option.some.inj h
  exact carryOut_of_run rfl rfl w

/-- `Filter` gives the items in which `InStr` finds the value, and all the others if it is to
exclude them, both in the order of the list, which is made up of the two. If the value or an item
has no text, then `Filter` fails, and so does `InStr` for that item. -/
theorem filter_by_inStr {filter inStr : Routine} (hfilter : lists.lookup "Filter" = some filter)
    (hinStr : texts.lookup "InStr" = some inStr) (xs : List Value) (v compare : Value) (w : World) :
    ((∀ x ∈ v :: xs, ∃ t, x.display = .ok t) → ∃ found : Value → Bool,
      (∀ x ∈ xs, ∃ p : Nat, (inStr.call [.int 1, x, v, compare] []).carryOut w = (.ok (.int p), w) ∧
        (found x = true ↔ p ≠ 0)) ∧
      (filter.call [.list xs, v, .bool true, compare] []).carryOut w =
        (.ok (.list (xs.filter found)), w) ∧
      (filter.call [.list xs, v, .bool false, compare] []).carryOut w =
        (.ok (.list (xs.filter fun x => !found x)), w) ∧
      (xs.filter found).length + (xs.filter fun x => !found x).length = xs.length ∧
      Interleaved (xs.filter found) (xs.filter fun x => !found x) xs) ∧
    ∀ x ∈ v :: xs, ∀ e, x.display = .error e →
      (∀ keep, (filter.call [.list xs, v, keep, compare] []).carryOut w = (.error e, w)) ∧
      ∀ y ∈ xs, y = x ∨ v = x → (inStr.call [.int 1, y, v, compare] []).carryOut w =
        (.error e, w) := by
  constructor
  · intro htexts
    obtain ⟨t, hv⟩ := htexts v List.mem_cons_self
    have hitems : ∀ x ∈ xs, ∃ t, x.display = .ok t :=
      fun x hx => htexts x (List.mem_cons_of_mem v hx)
    have hmerge := Interleaved.filter_filter_not (holds (anyCase compare) t.toList) xs
    refine ⟨holds (anyCase compare) t.toList, ?_, ?_, ?_, hmerge.length_add, hmerge⟩
    · intro x hx
      obtain ⟨u, hu⟩ := hitems x hx
      have hchars := chars_of_display hu
      refine ⟨position 1 u.toList t.toList (anyCase compare), ?_, ?_⟩
      · rw [carryOut_inStr hinStr, positionOf_one_of_chars hchars (chars_of_display hv)]
      · rw [holds_of_chars hchars, matchesText_iff, position_one_ne_zero_iff]
    · rw [carryOut_filter hfilter, filterOf_list hv hitems]
      simp only [beq_true]
    · rw [carryOut_filter hfilter, filterOf_list hv hitems]
      simp only [beq_false]
  · intro x hx e he
    constructor
    · intro keep
      rw [carryOut_filter hfilter, filterOf_list_error hx he]
    · rintro y - hy
      have hfails : y.display = .error e ∨ v.display = .error e := by
        rcases hy with rfl | rfl
        · exact .inl he
        · exact .inr he
      rw [carryOut_inStr hinStr, positionOf_one_error hfails]

/-- Items of several kinds, with case ignored. -/
theorem filter_by_inStr_fourItems : ∃ filter inStr, lists.lookup "Filter" = some filter ∧
    texts.lookup "InStr" = some inStr ∧
    (filter.call [.list [.text "xAn", .bool true, .text "", .null], .text "N", .bool true,
      .int 1] []).carryOut
      Script.firstScene.world = (.ok (.list [.text "xAn", .null]), Script.firstScene.world) ∧
    (filter.call [.list [.text "xAn", .bool true, .text "", .null], .text "N", .bool false,
      .int 1] []).carryOut
      Script.firstScene.world = (.ok (.list [.bool true, .text ""]), Script.firstScene.world) := by
  obtain ⟨filter, hfilter⟩ : ∃ filter, lists.lookup "Filter" = some filter := ⟨_, rfl⟩
  obtain ⟨inStr, hinStr⟩ : ∃ inStr, texts.lookup "InStr" = some inStr := ⟨_, rfl⟩
  have htexts : ∀ x ∈ [.text "N", .text "xAn", .bool true, .text "", .null],
      ∃ t, Value.display x = .ok t := by
    simp [Value.display, Value.quoted]
  obtain ⟨found, hfound, hkept, hothers, -⟩ := (filter_by_inStr hfilter hinStr
    [.text "xAn", .bool true, .text "", .null] (.text "N") (.int 1) Script.firstScene.world).1
      htexts
  have hcase : anyCase (.int 1) = true := rfl
  have hiff {x : Value} {t : String} (hx : x ∈ [.text "xAn", .bool true, .text "", .null])
      (ht : x.display = .ok t) : found x = true ↔
        Text.lower "N".toList <:+: Text.lower t.toList := by
    obtain ⟨p, hp, hzero⟩ := hfound x hx
    rw [carryOut_inStr hinStr, positionOf_one_of_chars (chars_of_display ht) (chars_of_display rfl),
      hcase] at hp
    have hposition : (position 1 t.toList "N".toList true : Int) = p := by simpa using hp
    rw [hzero, ← Int.natCast_inj.1 hposition, position_one_ne_zero_iff, compared_true,
      compared_true]
  have hfirst : found (.text "xAn") = true := (hiff (by simp) rfl).2 (by decide)
  have hsecond : found (.bool true) = false :=
    Bool.eq_false_iff.2 fun h => absurd ((hiff (by simp) rfl).1 h) (by decide)
  have hthird : found (.text "") = false :=
    Bool.eq_false_iff.2 fun h => absurd ((hiff (by simp) rfl).1 h) (by decide)
  have hfourth : found .null = true := (hiff (by simp) rfl).2 (by decide)
  simp only [List.filter_cons, hfirst, hsecond, hthird, hfourth] at hkept hothers
  exact ⟨filter, inStr, hfilter, hinStr, hkept, hothers⟩

/-- A value with too many digits for a text makes `Filter` fail on the empty list too, of which
nothing would have been left out. -/
theorem filter_fails_on_empty_list : ∃ filter, lists.lookup "Filter" = some filter ∧
    (filter.call [.list [], .int (Number.tenPow 4300 : Nat), .bool true, .int 0] []).carryOut
      Script.firstScene.world =
      (.error (.numeralTooLong none), Script.firstScene.world) ∧
    (filter.call [.list [], .int (Number.tenPow 4300 : Nat), .bool true, .int 0] []).carryOut
      Script.firstScene.world ≠
      (.ok (.list []), Script.firstScene.world) := by
  obtain ⟨filter, hfilter⟩ : ∃ filter, lists.lookup "Filter" = some filter := ⟨_, rfl⟩
  have hdisplay : (Value.int (Number.tenPow 4300 : Nat)).display =
      .error (.numeralTooLong none) := by
    rw [Value.display, Value.quoted, wholeText, Int.natAbs_natCast]
    · exact if_pos (Nat.le_refl _)
    all_goals exact nofun
  have hfails :
      (filter.call [.list [], .int (Number.tenPow 4300 : Nat), .bool true, .int 0] []).carryOut
      Script.firstScene.world = (.error (.numeralTooLong none), Script.firstScene.world) := by
    rw [carryOut_filter hfilter, filterOf_list_error List.mem_cons_self hdisplay]
  refine ⟨filter, hfilter, hfails, ?_⟩
  rw [hfails]
  intro h
  cases (Prod.mk.inj h).1

end Catalog

end ScriptHost
