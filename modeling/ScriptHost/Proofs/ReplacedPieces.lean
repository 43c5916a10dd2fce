import ScriptHost.Proofs.ReplacingLoop

/-!
# The pieces that are replaced

An occurrence is looked for in the small form of a text, and the piece that gives way to the new
text is taken from the text at the same place. The two go together as long as the small form keeps
the length of the text: up to the first dotted capital i each piece reads like what is looked for,
but for a capital sigma, which may read otherwise in the text than in the piece alone. Behind a
dotted capital i the places no longer agree, and any piece may be lost.
-/

namespace ScriptHost

namespace Text

/-- Letters that are no dotted capital i have as many letters as small forms, and a sigma has a
sigma. -/
lemma exists_lowerFrom_append {x : List Char} (hdotted : 'İ' ∉ x) (inWord : Bool) (cs : List Char) :
    ∃ low state, lowerFrom inWord (x ++ cs) = low ++ lowerFrom state cs ∧ low.length = x.length ∧
      ('Σ' ∈ x → 'σ' ∈ low ∨ 'ς' ∈ low) := by
  induction x generalizing inWord with
  | nil => exact ⟨[], inWord, rfl, rfl, fun h => absurd h List.not_mem_nil⟩
  | cons c x ih =>
    rw [List.mem_cons, not_or] at hdotted
    obtain ⟨low, state, hlow, hlength, hsigma⟩ := ih hdotted.2 (inWordAfter inWord c)
    refine ⟨smallForm inWord c (x ++ cs) ++ low, state, ?_, ?_, ?_⟩
    · rw [List.cons_append, lowerFrom_cons, hlow, List.append_assoc]
    · rw [List.length_append, length_smallForm, if_neg (Ne.symm hdotted.1), hlength,
        List.length_cons, Nat.add_comm]
    · intro hmem
      rcases List.mem_cons.1 hmem with rfl | hmem
      · rw [smallForm_sigma]
        split <;> simp
      · exact (hsigma hmem).imp (List.mem_append_right _) (List.mem_append_right _)

/-- A letter is in no piece that reads like a single other one. -/
lemma notMem_of_lower_eq_singleton {c d : Char} {piece : List Char} (hpiece : lower piece = [d])
    (hc : lower [c] ≠ [d]) : c ∉ piece := by
  intro hmem
  have hlength : piece.length + piece.count 'İ' = 1 := by
    rw [← length_lowerFrom false, ← lower, hpiece, List.length_singleton]
  obtain ⟨b, rfl⟩ : ∃ b, piece = [b] := by
    have hpos := List.length_pos_of_mem hmem
    exact List.length_eq_one_iff.1 (by omega)
  obtain rfl := List.mem_singleton.1 hmem
  exact hc hpiece

set_option maxRecDepth 20000 in
lemma smallRuns_apart_finalSigma : smallRuns.all (fun r => r.last < 0x3c2 || 0x3c2 < r.first) =
    true := by
  unfold smallRuns tableItems
  simp only [List.flatMap_cons, List.all_toArray]
  repeat rw [String.toList_ofList]
  decide

/-- The final sigma is small. -/
lemma lowerChar_finalSigma : lowerChar 'ς' = ['ς'] := by
  have hnone :
      smallRuns.find? (fun r => r.first ≤ 0x3c2 && 0x3c2 ≤ r.last &&
        (0x3c2 - r.first) % r.step == 0) = none := by
    rw [Array.find?_eq_none]
    intro r hr htest
    have hapart := Array.all_eq_true_iff_forall_mem.1 smallRuns_apart_finalSigma r hr
    simp only [Bool.or_eq_true, Bool.and_eq_true, decide_eq_true_iff] at hapart htest
    omega
  have hshift : shift smallRuns 0x3c2 = 0x3c2 := by
    rw [shift, hnone]
  change [Char.ofNat (shift smallRuns 0x3c2)] = ['ς']
  rw [hshift]

/-- Some pieces of a text, each of them fit for its place, give way to a new text, and all other
characters are kept. One piece starts at the earliest where the one before it ends. -/
inductive Exchanged (Fits : Nat → List Char → Prop) (new : List Char) :
    Nat → List Char → List Char → Prop
  | done (place : Nat) : Exchanged Fits new place [] []
  | keep {place : Nat} {text result : List Char} (c : Char)
    (hrest : Exchanged Fits new (place + 1) text result) :
      Exchanged Fits new place (c :: text) (c :: result)
  | give {place : Nat} {piece text result : List Char} (hfits : Fits place piece)
      (hrest : Exchanged Fits new (place + piece.length) text result) :
      Exchanged Fits new place (piece ++ text) (new ++ result)

variable {Fits Fits' : Nat → List Char → Prop} {new text result : List Char} {place : Nat}

lemma Exchanged.mono (hfits : ∀ place piece, Fits place piece → Fits' place piece)
    (h : Exchanged Fits new place text result) : Exchanged Fits' new place text result := by
  induction h with
  | done place => exact .done place
  | keep c _ ih => exact .keep c ih
  | give hpiece _ ih => exact .give (hfits _ _ hpiece) ih

/-- A character that is in no piece that fits is kept. -/
lemma Exchanged.mem_of_mem (h : Exchanged Fits new place text result) {x : Char}
    (hfits : ∀ place piece, Fits place piece → x ∉ piece) (hx : x ∈ text) : x ∈ result := by
  induction h with
  | done => exact hx
  | keep c _ ih =>
    rcases List.mem_cons.1 hx with rfl | hx
    · exact List.mem_cons_self
    · exact List.mem_cons_of_mem c (ih hx)
  | give hpiece _ ih =>
    rcases List.mem_append.1 hx with hx | hx
    · exact absurd hx (hfits _ _ hpiece)
    · exact List.mem_append_right _ (ih hx)

end Text

namespace TextFunction

open Text

namespace Replacing

variable {p : Replacing} {s t : Walk} {k place : Nat} {piece : List Char}

/-- The piece of the text that lies where the small form of the text goes on with that of the old
text. -/
structure Takes (p : Replacing) (place : Nat) (piece : List Char) : Prop where
  found : lower p.old <+: (lower p.text).drop place
  piece_eq : piece = (p.text.drop place).take (lower p.old).length

/-- A piece that reads like the old text. -/
def Alike (p : Replacing) (_place : Nat) (piece : List Char) : Prop :=
  lower piece = lower p.old

/-- What one turn does: a piece gives way to the new text, or a character is kept. -/
lemma turn_cases (h : p.turn s = .ok t) :
    (p.found s.place = true ∧
      t = ⟨s.place + (lower p.old).length, s.replaced + 1, s.written ++ p.new⟩) ∨
      t = ⟨s.place + 1, s.replaced, s.written ++ (p.text.drop s.place).take 1⟩ := by
  rw [turn_eq_map] at h
  cases hlimit : limitOf p.count with
  | error fault =>
    rw [hlimit] at h
    cases h
  | ok limit =>
    rw [hlimit, Except.map, Except.ok.injEq] at h
    subst h
    split
    · next hfound => exact .inl ⟨(Bool.and_eq_true_iff.1 hfound).2, rfl⟩
    · exact .inr rfl

/-- What all turns do. -/
theorem Reaches.exchanged (h : p.Reaches k s t) (hend : p.text.length ≤ t.place) :
    ∃ result, t.written = s.written ++ result ∧
      Exchanged p.Takes p.new s.place (p.text.drop s.place) result := by
  induction h with
  | refl s =>
    refine ⟨[], (List.append_nil _).symm, ?_⟩
    rw [List.drop_eq_nil_of_le hend]
    exact .done _
  | @step k s t u hinside hturn hrest ih =>
    obtain ⟨result, hwritten, hexchanged⟩ := ih hend
    rcases turn_cases hturn with ⟨hfound, rfl⟩ | rfl
    · have htakes : p.Takes s.place ((p.text.drop s.place).take (lower p.old).length) :=
        ⟨found_iff.1 hfound, rfl⟩
      refine ⟨p.new ++ result, by rw [hwritten, List.append_assoc], ?_⟩
      rw [← List.take_append_drop (lower p.old).length (p.text.drop s.place), List.drop_drop]
      refine .give htakes ?_
      by_cases hlong : s.place + (lower p.old).length ≤ p.text.length
      · rwa [List.length_take_of_le (by rw [List.length_drop]; omega)]
      · -- The small form is longer than the text, and the occurrence in it ends beyond the text:
        -- nothing is left.
        have hoverrun : p.text.length ≤ s.place + (lower p.old).length := by omega
        obtain ⟨-, rfl⟩ := hrest.eq_of_outside hoverrun
        obtain rfl : result = [] := by simpa using hwritten
        have hnothing : p.text.drop (s.place + (lower p.old).length) = [] :=
          List.drop_eq_nil_of_le hoverrun
        rw [hnothing]
        exact .done _
    · obtain ⟨c, cs, hcs⟩ : ∃ c cs, p.text.drop s.place = c :: cs :=
        List.exists_cons_of_ne_nil (by simpa using hinside)
      have hnext : p.text.drop (s.place + 1) = cs := by
        rw [← List.drop_drop, hcs]
        rfl
      rw [hcs] at hwritten
      refine ⟨c :: result, by rw [hwritten, List.append_assoc]; rfl, ?_⟩
      rw [hcs]
      exact .keep c (hnext ▸ hexchanged)

/-- The small form of the text goes on at a place with that of the rest, if no dotted capital i came
before. -/
lemma exists_drop_lower {cs : List Char} (hdotted : 'İ' ∉ cs.take place) :
    ∃ state, (lower cs).drop place = lowerFrom state (cs.drop place) := by
  obtain ⟨low, state, hlow, hlength, -⟩ := exists_lowerFrom_append hdotted false (cs.drop place)
  refine ⟨state, ?_⟩
  rw [List.take_append_drop] at hlow
  rw [lower, hlow]
  rcases Nat.le_total place cs.length with hle | hge
  · rw [List.drop_left' (by rw [hlength, List.length_take_of_le hle])]
  · rw [List.drop_eq_nil_of_le hge, lowerFrom, List.append_nil, List.drop_eq_nil_of_le]
    rwa [hlength, List.take_of_length_le hge]

/-- A piece reads like the old text if no dotted capital i has come up to its end, and if it has no
capital sigma or the old text has no sigma. -/
theorem Takes.alike (h : p.Takes place piece)
    (hdotted : 'İ' ∉ p.text.take (place + (lower p.old).length))
    (hsigma : 'Σ' ∉ piece ∨ 'σ' ∉ lower p.old ∧ 'ς' ∉ lower p.old) : p.Alike place piece := by
  obtain ⟨hfound, hpiece⟩ := h
  rw [List.take_add, ← hpiece, List.mem_append, not_or] at hdotted
  obtain ⟨state, hstate⟩ := exists_drop_lower hdotted.1
  obtain ⟨low, next, hlow, hlength, hmem⟩ :=
    exists_lowerFrom_append hdotted.2 state (p.text.drop (place + (lower p.old).length))
  have hrest : piece ++ p.text.drop (place + (lower p.old).length) = p.text.drop place := by
    rw [hpiece, ← List.drop_drop, List.take_append_drop]
  rw [hrest] at hlow
  rw [hstate, hlow] at hfound
  -- The small forms of the letters of the piece are the occurrence.
  have hle : piece.length ≤ (lower p.old).length := by
    rw [hpiece]
    exact List.length_take_le _ _
  have hstarts : lower p.old <+: low := by
    by_cases hlong : place + (lower p.old).length ≤ p.text.length
    · have hwhole : (lower p.old).length = low.length := by
        rw [hlength, hpiece, List.length_take_of_le (by rw [List.length_drop]; omega)]
      exact List.prefix_of_prefix_length_le hfound (List.prefix_append low _) hwhole.le
    · rwa [List.drop_eq_nil_of_le (by omega), lowerFrom, List.append_nil] at hfound
  obtain rfl : lower p.old = low := hstarts.eq_of_length_le (hlength.trans_le hle)
  have hplain : 'Σ' ∉ piece := by
    rcases hsigma with hsigma | ⟨hinner, hfinal⟩
    · exact hsigma
    · intro hpieceSigma
      exact (hmem hpieceSigma).elim hinner hfinal
  obtain ⟨next', hnext'⟩ :=
    exists_lowerFrom_append_of_notMem hplain state (p.text.drop (place + (lower p.old).length))
  rw [hrest, hlow, ← lower_of_notMem hplain] at hnext'
  have hkeeps : (lower piece).length = piece.length := length_lower_eq_iff.2 hdotted.2
  exact (List.append_inj hnext' (hlength.trans hkeeps.symm)).1.symm

end Replacing

/-- After an occurrence that ends with the text or beyond it nothing is left. -/
lemma replaceOf_of_firstAt_last {e f r : Value} {text old new : List Char} {i : Nat}
    (he : chars e = .ok text) (hf : chars f = .ok old) (hr : chars r = .ok new)
    (hold : lower old ≠ []) (h : FirstAt (lower old) (lower text) i) (hinside : i < text.length)
    (hlast : text.length ≤ i + (lower old).length) :
    replaceOf e f r (.int (-1)) (.int 1) = .ok (ofChars (text.take i ++ new)) := by
  rw [replaceOf_text rfl he hf hr hold, replaceInStep_of_firstAt hold h hinside (by decide),
    List.drop_eq_nil_of_le hlast, replaceInStep_nil, List.append_nil]

end TextFunction

namespace Catalog

open Text TextFunction

/-- `Replace` without regard to case gives up the pieces that lie where the old text stands in the
small form. They read like the old text as far as no dotted capital i has come, where they have no
capital sigma or the old text no sigma; so in a text without these `Replace` gives up pieces that
read like the old text, and keeps everything else. -/
theorem replace_exchanged {replace : Routine} (hreplace : texts.lookup "Replace" = some replace)
    {e f r : Value}
    {p : Replacing} (he : chars e = .ok p.text) (hf : chars f = .ok p.old) (hr : chars r =
      .ok p.new)
    (hold : p.old ≠ []) (hcount : IsCount p.count) (w : World) :
    ∃ k s, p.EndsAfter k s ∧
      (replace.call [e, f, r, .int 1, p.count, .int 1] []).carryOut w =
        (.ok (ofChars s.written), w) ∧
      Exchanged p.Takes p.new 0 p.text s.written ∧
      (∀ place piece, p.Takes place piece → 'İ' ∉ p.text.take (place + (lower p.old).length) →
        'Σ' ∉ piece ∨ 'σ' ∉ lower p.old ∧ 'ς' ∉ lower p.old → p.Alike place piece) ∧
      ('İ' ∉ p.text → 'Σ' ∉ p.text ∨ 'σ' ∉ lower p.old ∧ 'ς' ∉ lower p.old →
        Exchanged p.Alike p.new 0 p.text s.written) := by
  obtain ⟨k, s, hend, -, hresult⟩ := exists_endsAfter he hf hr (.inr ⟨hcount, .inl hold⟩)
  obtain ⟨result, hwritten, hexchanged⟩ := hend.reached.exchanged hend.outside
  obtain rfl : s.written = result := hwritten
  refine ⟨k, s, hend, ?_, hexchanged, fun _ _ htakes => htakes.alike, ?_⟩
  · rw [carryOut_replace hreplace, hresult]
  · intro hdotted hsigma
    refine Exchanged.mono ?_ hexchanged
    intro place piece htakes
    refine htakes.alike ?_ (hsigma.imp_left ?_)
    · exact fun hmem => hdotted (List.mem_of_mem_take hmem)
    · intro hnone hmem
      rw [htakes.piece_eq] at hmem
      exact hnone (List.mem_of_mem_drop (List.mem_of_mem_take hmem))

/-- The one occurrence is written in capitals and small letters; the letters after it are kept as
they are. -/
theorem replace_exchanged_anaNa : ∃ replace, texts.lookup "Replace" = some replace ∧
    (replace.call [.text "xAnaNa", .text "ana", .text "-", .int 1, .int 1, .int 1] []).carryOut
      Script.firstScene.world = (.ok (.text "x-Na"), Script.firstScene.world) ∧
    Exchanged (fun _ piece => lower piece = lower "ana".toList) "-".toList 0 "xAnaNa".toList
      "x-Na".toList := by
  obtain ⟨replace, hreplace⟩ : ∃ replace, texts.lookup "Replace" = some replace := ⟨_, rfl⟩
  have hfirst : FirstAt (compared true "ana".toList) (compared true "xAnaNa".toList) 1 :=
    firstAt_succ_iff.2 ⟨by decide, firstAt_zero (by decide)⟩
  have hcase : anyCase (.int 1) = true := rfl
  have hresult : replaceOf (.text "xAnaNa") (.text "ana") (.text "-") (.int 1) (.int 1) =
      .ok (.text "x-Na") := by
    rw [← hcase] at hfirst
    rw [replaceOf_of_firstAt rfl rfl rfl (by decide) hfirst (by decide) (by decide)]
    rfl
  obtain ⟨k, s, -, hcall, -, -, halike⟩ :=
    replace_exchanged hreplace (e := .text "xAnaNa") (f := .text "ana")
    (r := .text "-") (p := ⟨"xAnaNa".toList, "ana".toList, "-".toList, .int 1⟩) rfl rfl rfl
      (by decide) (.inr rfl)
    Script.firstScene.world
  have hwritten : s.written = "x-Na".toList := by
    rw [carryOut_replace hreplace, hresult] at hcall
    have htext := Value.text.inj (Except.ok.inj (Prod.mk.inj hcall).1)
    rw [htext, String.toList_ofList]
  have hexchanged := halike (by decide) (.inl (by decide))
  rw [hwritten] at hexchanged
  exact ⟨replace, hreplace, by rw [carryOut_replace hreplace, hresult], hexchanged⟩

/-- Behind a dotted capital i the letter after the occurrence is given up, and a sigma that ends a
word only in the text is given up for a final one. -/
theorem replace_loses_letters : ∃ replace, texts.lookup "Replace" = some replace ∧
    ((replace.call [.text "İab", .text "a", .text "X", .int 1, .int (-1), .int 1] []).carryOut
        Script.firstScene.world = (.ok (.text "İaX"), Script.firstScene.world) ∧
      ¬ Exchanged (fun _ piece => lower piece = lower "a".toList) "X".toList 0 "İab".toList
        "İaX".toList) ∧
    (replace.call [.text "AΣ", .text "ς", .text "x", .int 1, .int (-1), .int 1] []).carryOut
        Script.firstScene.world = (.ok (.text "Ax"), Script.firstScene.world) ∧
      ¬ Exchanged (fun _ piece => lower piece = lower "ς".toList) "x".toList 0 "AΣ".toList
        "Ax".toList := by
  obtain ⟨replace, hreplace⟩ : ∃ replace, texts.lookup "Replace" = some replace := ⟨_, rfl⟩
  have hdotted : lower "İab".toList = ['i', Char.ofNat 0x307, 'a', 'b'] := by
    rw [lower_of_notMem (by decide)]
    decide
  have hfinal : lower "ς".toList = ['ς'] := by
    change lower ['ς'] = ['ς']
    rw [lower_of_notMem (by decide), List.flatMap_singleton, lowerChar_finalSigma]
  have hsigma : lower "AΣ".toList = ['a', 'ς'] := by
    have hend : goesOn [] = false := rfl
    have hword : inWordAfter false 'A' = true := rfl
    change lowerFrom false ['A', 'Σ'] = ['a', 'ς']
    rw [lowerFrom_cons, lowerFrom_cons, smallForm_sigma, hword, hend]
    rfl
  refine ⟨replace, hreplace, ⟨?_, ?_⟩, ?_, ?_⟩
  · have hfirst : FirstAt (lower "a".toList) (lower "İab".toList) 2 := by
      rw [hdotted]
      exact firstAt_succ_iff.2 ⟨by decide, firstAt_succ_iff.2 ⟨by decide, firstAt_zero (by decide)⟩⟩
    rw [carryOut_replace hreplace,
      replaceOf_of_firstAt_last rfl rfl rfl (by decide) hfirst (by decide) (by decide)]
    rfl
  · intro hexchanged
    have hkept := hexchanged.mem_of_mem (x := 'b')
      (fun _ _ hpiece => notMem_of_lower_eq_singleton (hpiece.trans (by decide)) (d := 'a')
        (by decide)) (by decide)
    exact absurd hkept (by decide)
  · have hfirst : FirstAt (lower "ς".toList) (lower "AΣ".toList) 1 := by
      rw [hsigma, hfinal]
      exact firstAt_succ_iff.2 ⟨by decide, firstAt_zero (by decide)⟩
    rw [carryOut_replace hreplace,
      replaceOf_of_firstAt_last rfl rfl rfl (mt lower_eq_nil_iff.1 (by decide)) hfirst (by decide)
        (by rw [hfinal]; decide)]
    rfl
  · intro hexchanged
    have hkept := hexchanged.mem_of_mem (x := 'Σ')
      (fun _ _ hpiece => notMem_of_lower_eq_singleton (hpiece.trans hfinal) (by decide)) (by decide)
    exact absurd hkept (by decide)

end Catalog

end ScriptHost
