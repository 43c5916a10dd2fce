import ScriptHost.Proofs.Members
import ScriptHost.Proofs.SameValues
import ScriptHost.Proofs.Turns

/-!
# Dictionaries as ordered maps

What a dictionary answers is told by the requests that were made to it. The item under a key is that
of the last request that put something under an equal key, unless it was taken away later
(`heldItem?`), and the keys are those that were put in when they were not there and not taken away
since, in that order (`liveKeys`). Neither is defined by way of the entries.

Equality of values is symmetric and transitive, and this is what makes the entries work: of the keys
in the entries at most one is equal to a key that is looked for. Nothing here depends on the mode in
which keys are said to be compared: it is kept and told, and no operation looks at it.
-/

namespace ScriptHost

namespace Dictionary

/-! ### Entries -/

section Entries

variable (k key item : Value) (es : List (Value × Value))

/-- The keys of entries. -/
def keysOf : List Value := es.map (·.1)

/-- No two keys of entries are equal. -/
def Distinct : Prop := (keysOf es).Pairwise fun a b => a.same b = false

lemma lookup?_eq_none_iff : lookup? k es = none ↔ ∀ k' ∈ keysOf es, k'.same k = false := by
  induction es with
  | nil => simp [lookup?, keysOf]
  | cons e es ih =>
    obtain ⟨k', v⟩ := e
    rw [lookup?]
    cases h : k'.same k with
    | true => simp [keysOf, h]
    | false => simpa [keysOf, h] using ih

/-- What is found after an item was put under a key. -/
lemma lookup?_insert :
    lookup? k (insert key item es) = if key.same k then some item else lookup? k es := by
  induction es with
  | nil => rfl
  | cons e es ih =>
    obtain ⟨k', v⟩ := e
    rw [insert]
    cases hkey : k'.same key with
    | true =>
      rw [if_pos rfl, lookup?, lookup?, Value.same_congr_left hkey]
      split <;> rfl
    | false =>
      rw [if_neg (by simp), lookup?, lookup?, ih]
      -- The key cannot be equal to both, since they are not equal.
      cases hk : key.same k with
      | false => rfl
      | true =>
        rw [← Value.same_comm, Value.same_congr_left hk, Value.same_comm] at hkey
        rw [hkey]
        rfl

/-- An item goes to the place of an equal key, and the key stays as it is spelled there; a key that
is equal to none goes to the end. -/
lemma keysOf_insert : keysOf (insert key item es) =
    if (lookup? key es).isSome then keysOf es else keysOf es ++ [key] := by
  induction es with
  | nil => rfl
  | cons e es ih =>
    obtain ⟨k', v⟩ := e
    unfold keysOf at ih ⊢
    rw [insert, lookup?]
    cases k'.same key with
    | true => rfl
    | false =>
      simp only [Bool.false_eq_true, if_false, List.map_cons, ih]
      split <;> rfl

variable {es}

lemma Distinct.insert (h : Distinct es) : Distinct (insert key item es) := by
  unfold Distinct
  rw [keysOf_insert]
  split
  · exact h
  · next hnone =>
    rw [Option.not_isSome_iff_eq_none, lookup?_eq_none_iff] at hnone
    rw [List.pairwise_append]
    exact ⟨h, List.pairwise_singleton _ _, by simpa using hnone⟩

/-- Taking a key away takes all equal keys away: there is one at most. -/
lemma keysOf_erase (h : Distinct es) :
    keysOf (erase key es) = (keysOf es).filter fun k' => !k'.same key := by
  induction es with
  | nil => rfl
  | cons e es ih =>
    obtain ⟨k', v⟩ := e
    obtain ⟨hhead, htail⟩ := List.pairwise_cons.1 h
    rw [erase]
    cases hkey : k'.same key with
    | true =>
      have hothers : ∀ a ∈ keysOf es, (!a.same key) = true := by
        intro a ha
        rw [Value.same_comm, ← Value.same_congr_left hkey, hhead a ha]
        rfl
      simp only [if_true, keysOf, List.map_cons, List.filter_cons, hkey, Bool.not_true,
        Bool.false_eq_true, if_false]
      exact (List.filter_eq_self.2 hothers).symm
    | false =>
      simp only [Bool.false_eq_true, if_false, keysOf, List.map_cons, List.filter_cons, hkey,
        Bool.not_false, if_true]
      exact congrArg _ (ih htail)

/-- What is found after a key was taken away. -/
lemma lookup?_erase (h : Distinct es) :
    lookup? k (erase key es) = if key.same k then none else lookup? k es := by
  cases hk : key.same k with
  | true =>
    rw [if_pos rfl, lookup?_eq_none_iff, keysOf_erase key h]
    intro k' hk'
    have hnot : k'.same key = false := by simpa using (List.mem_filter.1 hk').2
    rw [Value.same_comm, ← Value.same_congr_left hk, Value.same_comm]
    exact hnot
  | false =>
    rw [if_neg (by simp)]
    clear h
    induction es with
    | nil => rfl
    | cons e es ih =>
      obtain ⟨k', v⟩ := e
      rw [erase, lookup?]
      cases hkey : k'.same key with
      | true =>
        rw [Value.same_congr_left hkey, hk]
        rfl
      | false =>
        rw [if_neg (by simp), lookup?, ih]

lemma erase_of_lookup?_eq_none (h : lookup? key es = none) : erase key es = es := by
  induction es with
  | nil => rfl
  | cons e es ih =>
    obtain ⟨k', v⟩ := e
    rw [lookup?] at h
    rw [erase]
    cases hkey : k'.same key with
    | true =>
      rw [hkey] at h
      cases h
    | false =>
      rw [hkey] at h
      rw [if_neg (by simp), ih h]

/-- The items are what is found under the keys. -/
lemma items_eq (h : Distinct es) (hself : ∀ k' ∈ keysOf es, k'.same k' = true) :
    es.map (·.2) = (keysOf es).map fun k' => (lookup? k' es).getD .null := by
  induction es with
  | nil => rfl
  | cons e es ih =>
    obtain ⟨k', v⟩ := e
    obtain ⟨hhead, htail⟩ := List.pairwise_cons.1 h
    have hothers : (keysOf es).map (fun a => (lookup? a ((k', v) :: es)).getD .null) =
        (keysOf es).map fun a => (lookup? a es).getD .null := by
      refine List.map_congr_left fun a ha => ?_
      rw [lookup?, hhead a ha]
      rfl
    have hfirst : lookup? k' ((k', v) :: es) = some v := by
      rw [lookup?, hself k' (by simp [keysOf]), if_pos rfl]
    rw [show keysOf ((k', v) :: es) = k' :: keysOf es from rfl, List.map_cons, List.map_cons,
      hothers, hfirst, ← ih htail fun a ha => hself a (List.mem_cons_of_mem _ ha)]
    rfl

end Entries

/-! ### Requests -/

/-- A value that can be a key. Not a number is left out, since it is not equal to itself. -/
structure IsKey (v : Value) : Prop where
  unhashable? : v.unhashable? = none
  hasNaN : v.hasNaN = false

lemma IsKey.same_self {v : Value} (h : IsKey v) : v.same v = true := by
  rw [Value.same_self, h.hasNaN]
  rfl

/-- What a dictionary can be asked for. -/
inductive Request where
  | add (key item : Value)
  | assign (key item : Value)
  | remove (key : Value)
  | removeAll
  | read (key : Value)
  | contains (key : Value)
  | keys
  | items
  | count
  | mode
  | setMode (m : Value)

namespace Request

/-- The key that a request is about. -/
def key? : Request → Option Value
  | add key _ | assign key _ | remove key | read key | contains key => some key
  | _ => none

/-- The key of a request can be a key. -/
def IsProper (r : Request) : Prop :=
  ∀ key, r.key? = some key → IsKey key

/-- Makes a request to a dictionary. -/
def make (d : Value) : Request → Act Value
  | add key item => Member.callMethod d "Add" [key, item] []
  | assign key item => Member.setItem d key item
  | remove key => Member.callMethod d "Remove" [key] []
  | removeAll => Member.callMethod d "RemoveAll" [] []
  | read key => Member.item d key
  | contains key => Member.callMethod d "Exists" [key] []
  | keys => Member.callMethod d "Keys" [] []
  | items => Member.callMethod d "Items" [] []
  | count => Member.readAttribute d "Count"
  | mode => Member.readAttribute d "CompareMode"
  | setMode m => do
    Member.setAttribute d "CompareMode" m
    return .null

/-- The dictionary after a request. -/
def effect (d : Dictionary) : Request → Dictionary
  | add key item | assign key item => d.put key item
  | remove key => d.remove key
  | removeAll => d.clear
  | setMode m => d.setMode m
  | _ => d

/-- The answer to a request. -/
def answer (d : Dictionary) : Request → Value
  | read key => (d.get? key).getD .null
  | contains key => .bool (d.contains key)
  | keys => .list d.keys
  | items => .list d.items
  | count => .int d.count
  | mode => d.mode
  | _ => .null

end Request

/-- A world in which a dictionary has been replaced. -/
def stored (w : World) (id : Nat) (d : Dictionary) : World :=
  { w with objects := w.objects.modify id fun o => { o with body := .dictionary d } }

section Requests

variable {w : World} {id : Nat} {d : Dictionary} (h : w.objects[id]? = some ⟨.dictionary d, []⟩)

include h

lemma getElem?_stored (d' : Dictionary) :
    (stored w id d').objects[id]? = some ⟨.dictionary d', []⟩ := by
  simp [stored, Array.getElem?_modify, h]

lemma stored_self : stored w id d = w := by
  have hobjects : (w.objects.modify id fun o => { o with body := .dictionary d }) = w.objects := by
    refine Array.ext_getElem? fun i => ?_
    rw [Array.getElem?_modify]
    split
    · next hi => rw [← hi, h]; rfl
    · rfl
  rw [stored, hobjects]

lemma carryOut_method {name : String} {r : Routine} (hproperty : property? id d name = none)
    (hmethod : method? id d name = some r) {args values : List Value}
    (hargs : r.signature.bind args [] = .ok values) :
    (Member.callMethod (.object .dictionary id) name args []).carryOut w =
      (r.run values).carryOut w := by
  rw [Member.carryOut_callMethod h nofun hproperty ?_ hmethod, Routine.call_of_bind hargs]
  rfl

omit h in
lemma carryOut_checkKey_bind {α : Type} {key : Value} (hkey : IsKey key) (f : Unit → Act α) :
    (checkKey key >>= f).carryOut w = (f ()).carryOut w := by
  rw [checkKey, hkey.unhashable?]
  rfl

/-- What a request comes to. -/
theorem carryOut_make (r : Request) (hr : r.IsProper) :
    (r.make (.object .dictionary id)).carryOut w =
      (.ok (r.answer d), stored w id (r.effect d)) := by
  -- A request that only reads stores the dictionary that is there.
  have hread (answer : Except Fault Value) : (answer, w) = (answer, stored w id d) := by
    rw [stored_self h]
  cases r with
  | add key item =>
    rw [Request.make, carryOut_method h rfl rfl rfl]
    exact carryOut_checkKey_bind (hr key rfl) _
  | assign key item =>
    rw [Request.make, Member.carryOut_setItem h]
    exact carryOut_checkKey_bind (hr key rfl) _
  | remove key =>
    rw [Request.make, carryOut_method h rfl rfl rfl]
    exact carryOut_checkKey_bind (hr key rfl) _
  | removeAll =>
    rw [Request.make, carryOut_method h rfl rfl rfl]
    rfl
  | read key =>
    rw [Request.make, Member.carryOut_item h]
    exact (carryOut_checkKey_bind (hr key rfl) _).trans (hread _)
  | contains key =>
    rw [Request.make, carryOut_method h rfl rfl rfl]
    exact (carryOut_checkKey_bind (hr key rfl) _).trans (hread _)
  | keys =>
    rw [Request.make, carryOut_method h rfl rfl rfl]
    exact hread _
  | items =>
    rw [Request.make, carryOut_method h rfl rfl rfl]
    exact hread _
  | count =>
    rw [Request.make, Member.carryOut_readAttribute h (p := ⟨pure (.int d.count), none⟩) rfl]
    exact hread _
  | mode =>
    rw [Request.make, Member.carryOut_readAttribute h (p := ⟨pure d.mode, _⟩) rfl]
    exact hread _
  | setMode m =>
    rw [Request.make, Act.carryOut_bind, Member.carryOut_setAttribute h nofun rfl]
    rfl

end Requests

/-! ### Histories -/

namespace Request

/-- The key and the item of a request that puts an item under a key. -/
def put? : Request → Option (Value × Value)
  | add key item | assign key item => some (key, item)
  | _ => none

/-- Whether a request takes the item under a key away. -/
def cancels (k : Value) : Request → Bool
  | remove key => key.same k
  | removeAll => true
  | _ => false

/-- The item that there is under a key after a request, if the request is about that. -/
def itemAfter? (k : Value) : Request → Option (Option Value)
  | add key item | assign key item => if key.same k then some (some item) else none
  | remove key => if key.same k then some none else none
  | removeAll => some none
  | _ => none

lemma itemAfter?_of_put? {r : Request} {key item : Value} (h : r.put? = some (key, item))
    (k : Value) : r.itemAfter? k = if key.same k then some (some item) else none := by
  cases r <;> cases h <;> rfl

lemma itemAfter?_of_put?_eq_none {r : Request} (h : r.put? = none) (k : Value) :
    r.itemAfter? k = if r.cancels k then some none else none := by
  cases r <;> first | rfl | cases h

end Request

/-- The item under a key after some requests: what the last of them says that is about it. -/
def heldItem? (k : Value) (rs : List Request) : Option Value :=
  (rs.filterMap (Request.itemAfter? k)).getLast?.join

/-- The key that a request brings in between others: one that nothing is held under before, and that
is not taken away later. -/
def opened? (before : List Request) (r : Request) (later : List Request) : Option Value :=
  (r.put?.map (·.1)).filter fun key =>
    (heldItem? key before).isNone && later.all fun r' => !r'.cancels key

/-- The keys that there are after some requests, as they were first spelled, in the order in which
they were brought in. -/
def liveKeys (rs : List Request) : List Value :=
  (List.range rs.length).filterMap fun i =>
    rs[i]?.bind fun r => opened? (rs.take i) r (rs.drop (i + 1))

/-- The dictionary after some requests. -/
def after (d : Dictionary) (rs : List Request) : Dictionary :=
  rs.foldl Request.effect d

lemma after_concat (d : Dictionary) (rs : List Request) (r : Request) :
    d.after (rs ++ [r]) = r.effect (d.after rs) := by
  simp [after]

lemma heldItem?_concat (k : Value) (rs : List Request) (r : Request) :
    heldItem? k (rs ++ [r]) = (r.itemAfter? k).getD (heldItem? k rs) := by
  rw [heldItem?, List.filterMap_append]
  cases h : r.itemAfter? k with
  | none => simp [heldItem?, h]
  | some item => simp [h]

lemma opened?_concat (before : List Request) (r : Request) (later : List Request) (r' : Request) :
    opened? before r (later ++ [r']) = (opened? before r later).filter fun k => !r'.cancels k := by
  simp only [opened?, Option.filter_filter, List.all_append, List.all_cons, List.all_nil,
    Bool.and_true, Bool.and_assoc]

lemma liveKeys_concat (rs : List Request) (r : Request) :
    liveKeys (rs ++ [r]) =
      (liveKeys rs).filter (fun k => !r.cancels k) ++ (opened? rs r []).toList := by
  unfold liveKeys
  rw [List.length_append, List.length_singleton, List.range_succ, List.filterMap_append,
    List.filter_filterMap]
  congr 1
  · refine List.filterMap_congr fun i hi => ?_
    have hlt : i < rs.length := List.mem_range.1 hi
    rw [List.getElem?_append_left hlt, List.take_append_of_le_length hlt.le,
      List.drop_append_of_le_length hlt, List.getElem?_eq_getElem hlt]
    exact opened?_concat _ _ _ _
  · have hlast : (rs ++ [r])[rs.length]? = some r := by simp
    rw [List.filterMap_cons, hlast]
    simp only [Option.bind_some, List.take_left, List.filterMap_nil]
    rw [List.drop_eq_nil_of_le (by simp)]
    cases opened? rs r [] <;> rfl

/-- The entries of a dictionary say what the requests say. -/
structure Agrees (d : Dictionary) (rs : List Request) : Prop where
  distinct : Distinct d.entries
  isKey : ∀ k ∈ keysOf d.entries, IsKey k
  lookup : ∀ k, lookup? k d.entries = heldItem? k rs
  keys : keysOf d.entries = liveKeys rs

namespace Agrees

variable {d d' : Dictionary} {rs : List Request} {r : Request}

lemma nil : Agrees {} [] :=
  ⟨List.Pairwise.nil, by simp [keysOf], fun _ => rfl, rfl⟩

/-- A request that puts an item under a key. -/
lemma put (h : Agrees d rs) {key item : Value} (hr : r.put? = some (key, item))
    (hcancels : ∀ k, r.cancels k = false) (hkey : IsKey key) :
    Agrees (d.put key item) (rs ++ [r]) where
  distinct := h.distinct.insert key item
  isKey k hk := by
    rw [Dictionary.put, keysOf_insert] at hk
    split at hk
    · exact h.isKey k hk
    · rcases List.mem_append.1 hk with hk | hk
      · exact h.isKey k hk
      · rw [List.mem_singleton.1 hk]
        exact hkey
  lookup k := by
    rw [Dictionary.put, lookup?_insert, heldItem?_concat, Request.itemAfter?_of_put? hr, h.lookup]
    split <;> rfl
  keys := by
    have hkept : (liveKeys rs).filter (fun k => !r.cancels k) = liveKeys rs :=
      List.filter_eq_self.2 fun k _ => by rw [hcancels]; rfl
    rw [Dictionary.put, keysOf_insert, liveKeys_concat, hkept, h.keys, h.lookup, opened?, hr]
    cases hheld : heldItem? key rs <;> simp [Option.filter, hheld]

/-- A request that takes items away. -/
lemma cancel (h : Agrees d rs) (hr : r.put? = none) (hentries : ∀ k, lookup? k d'.entries =
      if r.cancels k then none else lookup? k d.entries)
    (hkeys : keysOf d'.entries = (keysOf d.entries).filter fun k => !r.cancels k) :
    Agrees d' (rs ++ [r]) where
  distinct := by
    rw [Distinct, hkeys]
    exact h.distinct.filter _
  isKey k hk := by
    rw [hkeys] at hk
    exact h.isKey k (List.mem_filter.1 hk).1
  lookup k := by
    rw [hentries, heldItem?_concat, Request.itemAfter?_of_put?_eq_none hr, h.lookup]
    split <;> rfl
  keys := by
    rw [hkeys, h.keys, liveKeys_concat, opened?, hr]
    simp

/-- A request that changes no entry. -/
lemma idle (h : Agrees d rs) (hr : r.put? = none) (hcancels : ∀ k, r.cancels k = false)
    (hentries : d'.entries = d.entries) : Agrees d' (rs ++ [r]) := by
  refine h.cancel hr (fun k => ?_) ?_
  · rw [hentries, hcancels]
    rfl
  · rw [hentries]
    exact (List.filter_eq_self.2 fun k _ => by rw [hcancels]; rfl).symm

lemma entries_setMode (d : Dictionary) (m : Value) : (d.setMode m).entries = d.entries := by
  unfold setMode
  split <;> rfl

/-- What one request does to the entries agrees with what it says. -/
theorem effect (h : Agrees d rs) (hr : r.IsProper) :
    Agrees (r.effect d) (rs ++ [r]) := by
  cases r with
  | add key item => exact h.put rfl (fun _ => rfl) (hr key rfl)
  | assign key item => exact h.put rfl (fun _ => rfl) (hr key rfl)
  | remove key =>
    refine h.cancel rfl (fun k => lookup?_erase k key h.distinct) ?_
    rw [show (Request.effect d (.remove key)).entries = erase key d.entries from rfl,
      keysOf_erase key h.distinct]
    simp only [Request.cancels, Value.same_comm key]
  | removeAll => exact h.cancel rfl (fun _ => rfl) (by simp [Request.cancels]; rfl)
  | setMode m => exact h.idle rfl (fun _ => rfl) (entries_setMode d m)
  | _ => exact h.idle rfl (fun _ => rfl) rfl

/-- So does what any number of requests does. -/
theorem run (hrs : ∀ r ∈ rs, r.IsProper) : Agrees (after {} rs) rs := by
  induction rs using List.reverseRecOn with
  | nil => exact nil
  | append_singleton rs r ih =>
    rw [after_concat]
    exact (ih fun r' hr' => hrs r' (List.mem_append_left _ hr')).effect
      (hrs r (List.mem_append_right _ (List.mem_singleton_self r)))

end Agrees

/-! ### What a dictionary answers -/

/-- Makes requests to a dictionary, one after the other. -/
def makeAll (d : Value) (rs : List Request) : Act (List Value) :=
  rs.mapM (Request.make d)

lemma stored_stored (w : World) (id : Nat) (d d' : Dictionary) :
    stored (stored w id d) id d' = stored w id d' := by
  have hobjects : (stored w id d).objects.modify id (fun o => { o with body := .dictionary d' }) =
      w.objects.modify id fun o => { o with body := .dictionary d' } := by
    refine Array.ext_getElem? fun i => ?_
    simp only [stored, Array.getElem?_modify]
    split
    · rw [Option.map_map]
      rfl
    · rfl
  simp only [stored] at hobjects ⊢
  rw [hobjects]

/-- Requests are answered, and the dictionary is what they make of it. -/
lemma carryOut_makeAll {w : World} {id : Nat} {d : Dictionary} {rs : List Request}
    (h : w.objects[id]? = some ⟨.dictionary d, []⟩) (hrs : ∀ r ∈ rs, r.IsProper) :
    ∃ answers, (makeAll (.object .dictionary id) rs).carryOut w =
      (.ok answers, stored w id (d.after rs)) := by
  induction rs generalizing w d with
  | nil => exact ⟨[], congrArg (Prod.mk _) (stored_self h).symm⟩
  | cons r rs ih =>
    have hfirst := carryOut_make h r (hrs r List.mem_cons_self)
    obtain ⟨answers, hrest⟩ := ih (getElem?_stored h (r.effect d)) fun r' hr' =>
      hrs r' (List.mem_cons_of_mem _ hr')
    refine ⟨r.answer d :: answers, ?_⟩
    unfold makeAll at hrest ⊢
    rw [List.mapM_cons, Act.carryOut_bind, hfirst]
    dsimp only
    rw [Act.carryOut_bind, hrest, stored_stored]
    rfl

/-- A dictionary answers as the requests say that were made to it. -/
structure Reflects (d : Value) (w : World) (rs : List Request) : Prop where
  /-- The item under a key, null if there is none. -/
  read : ∀ k, IsKey k →
    (Request.make d (.read k)).carryOut w = (.ok ((heldItem? k rs).getD .null), w)
  contains : ∀ k, IsKey k →
    (Request.make d (.contains k)).carryOut w = (.ok (.bool (heldItem? k rs).isSome), w)
  keys : (Request.make d .keys).carryOut w = (.ok (.list (liveKeys rs)), w)
  /-- The items stand in the order of the keys. -/
  items : (Request.make d .items).carryOut w =
    (.ok (.list ((liveKeys rs).map fun k => (heldItem? k rs).getD .null)), w)
  count : (Request.make d .count).carryOut w = (.ok (.int (liveKeys rs).length), w)
  /-- Taking away what is not there changes nothing. -/
  remove_absent : ∀ k, IsKey k → heldItem? k rs = none →
    (Request.make d (.remove k)).carryOut w = (.ok .null, w)
  isKey : ∀ k ∈ liveKeys rs, IsKey k
  distinct : (liveKeys rs).Pairwise fun a b => a.same b = false
  /-- Something is held under the keys that are equal to one of these, and under no others. -/
  live_iff : ∀ k, (∃ k' ∈ liveKeys rs, k'.same k = true) ↔ (heldItem? k rs).isSome = true

lemma reflects_of_agrees {w : World} {id : Nat} {d : Dictionary} {rs : List Request}
    (h : w.objects[id]? = some ⟨.dictionary d, []⟩) (hd : Agrees d rs) :
    Reflects (.object .dictionary id) w rs := by
  have hanswer (r : Request) (hr : r.IsProper) (heffect : r.effect d = d) :
      (r.make (.object .dictionary id)).carryOut w = (.ok (r.answer d), w) := by
    rw [carryOut_make h r hr, heffect, stored_self h]
  have hkey {k : Value} (hk : IsKey k) : ∀ key, some k = some key → IsKey key := by
    rintro key ⟨⟩
    exact hk
  refine ⟨fun k hk => ?_, fun k hk => ?_, ?_, ?_, ?_, fun k hk hnone => ?_, ?_, ?_, fun k => ?_⟩
  · rw [hanswer (.read k) (hkey hk) rfl, ← hd.lookup]
    rfl
  · rw [hanswer (.contains k) (hkey hk) rfl, ← hd.lookup]
    rfl
  · rw [hanswer .keys nofun rfl, ← hd.keys]
    rfl
  · have hitems := items_eq hd.distinct fun k hk => (hd.isKey k hk).same_self
    simp only [hd.lookup, hd.keys] at hitems
    rw [hanswer .items nofun rfl, ← hitems]
    rfl
  · rw [hanswer .count nofun rfl, ← hd.keys, keysOf, List.length_map]
    rfl
  · refine hanswer (.remove k) (hkey hk) ?_
    rw [Request.effect, remove, erase_of_lookup?_eq_none k ((hd.lookup k).trans hnone)]
  · rw [← hd.keys]
    exact hd.isKey
  · rw [← hd.keys]
    exact hd.distinct
  · rw [← hd.keys, ← hd.lookup, ← not_iff_not, Option.not_isSome_iff_eq_none, lookup?_eq_none_iff]
    simp

/-- Creates a dictionary and makes requests to it. -/
def serve (rs : List Request) : Act Value := do
  let d ← Act.create (.dictionary {})
  let _ ← makeAll d rs
  return d

lemma exists_carryOut_serve (w : World) {rs : List Request} (hrs : ∀ r ∈ rs, r.IsProper) :
    ∃ id after, (serve rs).carryOut w = (.ok (.object .dictionary id), after) ∧
      after.objects[id]? = some ⟨.dictionary (Dictionary.after {} rs), []⟩ := by
  have hthere : (w.adding (.dictionary {})).objects[w.objects.size]? =
      some ⟨.dictionary {}, []⟩ := w.getElem?_adding
  have hcreate : (Act.create (.dictionary {})).carryOut w =
      (.ok (.object .dictionary w.objects.size), w.adding (.dictionary {})) := rfl
  obtain ⟨answers, hall⟩ := carryOut_makeAll hthere hrs
  refine ⟨w.objects.size, _, ?_, getElem?_stored hthere _⟩
  rw [serve, Act.carryOut_bind, hcreate]
  dsimp only
  rw [Act.carryOut_bind, hall]
  rfl

/-- Whatever is asked of a new dictionary, it answers, and after that it answers as an ordered map
does. -/
theorem reflects_of_requests (w : World) (rs : List Request) (hrs : ∀ r ∈ rs, r.IsProper) :
    ∃ d after, (serve rs).carryOut w = (.ok d, after) ∧ Reflects d after rs := by
  obtain ⟨id, after, hserve, hthere⟩ := exists_carryOut_serve w hrs
  exact ⟨_, after, hserve, reflects_of_agrees hthere (Agrees.run hrs)⟩

/-- One key in three spellings, which is taken away and comes back behind another one. -/
def threeSpellings : List Request :=
  [.add (.int 1) (.text "a"), .assign (.bool true) (.text "b"), .add (.text "x") .null,
    .remove (.float 1.0), .assign (.bool true) (.text "c")]

theorem reflects_of_requests_threeSpellings :
    (∀ r ∈ threeSpellings, r.IsProper) ∧
      liveKeys threeSpellings = [.text "x", .bool true] ∧
      heldItem? (.int 1) threeSpellings = some (.text "c") ∧
      ∃ d after, (serve threeSpellings).carryOut Script.firstScene.world = (.ok d, after) ∧
        Reflects d after threeSpellings := by
  have hproper : ∀ r ∈ threeSpellings, r.IsProper := by
    simp only [threeSpellings, List.forall_mem_cons, List.not_mem_nil, false_imp_iff, implies_true,
      and_true]
    refine ⟨?_, ?_, ?_, ?_, ?_⟩
    all_goals
      rintro key ⟨⟩
      exact ⟨rfl, by with_unfolding_all rfl⟩
  exact ⟨hproper, by with_unfolding_all rfl, by with_unfolding_all rfl,
    reflects_of_requests Script.firstScene.world threeSpellings hproper⟩

/-! ### Spellings of texts -/

lemma same_text_iff {key : Value} {s : String} : key.same (.text s) = true ↔ key = .text s := by
  cases key <;> simp [Value.same, Value.number?, Value.complex?]

/-- What is held under a key was put there by some request, and no later one is about that. -/
lemma heldItem?_eq_some_iff {k v : Value} {rs : List Request} :
    heldItem? k rs = some v ↔ ∃ before r later, rs = before ++ r :: later ∧
      r.itemAfter? k = some (some v) ∧ ∀ r' ∈ later, r'.itemAfter? k = none := by
  rw [heldItem?, Option.join_eq_some_iff, List.getLast?_eq_some_iff]
  constructor
  · rintro ⟨items, hitems⟩
    obtain ⟨before, rest, rfl, -, hrest⟩ := List.filterMap_eq_append_iff.1 hitems
    obtain ⟨between, r, later, rfl, -, hr, hlater⟩ := List.filterMap_eq_cons_iff.1 hrest
    refine ⟨before ++ between, r, later, by rw [List.append_assoc], hr, ?_⟩
    exact fun r' hr' => List.filterMap_eq_nil_iff.1 hlater r' hr'
  · rintro ⟨before, r, later, rfl, hr, hlater⟩
    refine ⟨before.filterMap (Request.itemAfter? k), ?_⟩
    rw [List.filterMap_append, List.filterMap_cons, hr, List.filterMap_eq_nil_iff.2 hlater]

/-- The requests that change what is held under a text, in this very spelling. -/
def Request.Spells (s : String) : Request → Prop
  | add key _ | assign key _ | remove key => key = .text s
  | removeAll => True
  | _ => False

/-- The last of some requests that changes what is held under a text puts an item there. -/
def HoldsUnder (s : String) (v : Value) (rs : List Request) : Prop :=
  ∃ before r later, rs = before ++ r :: later ∧ r.put? = some (.text s, v) ∧
    ∀ r' ∈ later, ¬ r'.Spells s

lemma holdsUnder_iff {s : String} {v : Value} {rs : List Request} :
    HoldsUnder s v rs ↔ heldItem? (.text s) rs = some v := by
  have hput (r : Request) : r.itemAfter? (.text s) = some (some v) ↔
      r.put? = some (.text s, v) := by
    cases r <;> simp [Request.itemAfter?, Request.put?, same_text_iff]
  have hspells (r : Request) : r.itemAfter? (.text s) = none ↔ ¬ r.Spells s := by
    cases r <;> simp [Request.itemAfter?, Request.Spells, same_text_iff]
  rw [heldItem?_eq_some_iff, HoldsUnder]
  simp only [hput, hspells]

lemma isKey_text (s : String) : IsKey (.text s) :=
  ⟨rfl, rfl⟩

/-- In a dictionary every spelling of a text is a key of its own. -/
structure SpellsApart (d : Value) (w : World) (rs : List Request) (keys : List Value) : Prop where
  /-- What was put under a spelling is there until it is changed under that spelling. -/
  held : ∀ s v, HoldsUnder s v rs →
    (Request.make d (.contains (.text s))).carryOut w = (.ok (.bool true), w) ∧
      (Request.make d (.read (.text s))).carryOut w = (.ok v, w)
  /-- Nothing is under a spelling that nothing was put under, whatever is under others. -/
  absent : ∀ s, (∀ v, ¬ HoldsUnder s v rs) →
    (Request.make d (.contains (.text s))).carryOut w = (.ok (.bool false), w) ∧
      (Request.make d (.read (.text s))).carryOut w = (.ok .null, w)
  keys_eq : (Request.make d .keys).carryOut w = (.ok (.list keys), w)
  nodup : keys.Nodup
  mem_keys_iff : ∀ s, .text s ∈ keys ↔ ∃ v, HoldsUnder s v rs
  /-- So every spelling counts. -/
  count_eq : (Request.make d .count).carryOut w = (.ok (.int keys.length), w)

lemma Reflects.spellsApart {d : Value} {w : World} {rs : List Request} (h : Reflects d w rs) :
    SpellsApart d w rs (liveKeys rs) where
  held s v hv := by
    rw [holdsUnder_iff] at hv
    rw [h.contains _ (isKey_text s), h.read _ (isKey_text s), hv]
    exact ⟨rfl, rfl⟩
  absent s hs := by
    have hnone : heldItem? (.text s) rs = none :=
      Option.eq_none_iff_forall_ne_some.2 fun v hv => hs v (holdsUnder_iff.2 hv)
    rw [h.contains _ (isKey_text s), h.read _ (isKey_text s), hnone]
    exact ⟨rfl, rfl⟩
  keys_eq := h.keys
  nodup := by
    refine h.distinct.imp_of_mem fun {a b} ha _ hab heq => ?_
    rw [← heq, (h.isKey a ha).same_self] at hab
    cases hab
  mem_keys_iff s := by
    have hlive := h.live_iff (.text s)
    simp only [same_text_iff, exists_eq_right, Option.isSome_iff_exists, ← holdsUnder_iff] at hlive
    exact hlive
  count_eq := h.count

lemma mode_after {rs : List Request} (h : ∀ m, .setMode m ∉ rs) (d : Dictionary) :
    (d.after rs).mode = d.mode := by
  induction rs generalizing d with
  | nil => rfl
  | cons r rs ih =>
    refine (ih (fun m hm => h m (List.mem_cons_of_mem _ hm)) _).trans ?_
    cases r with
    | setMode m => exact absurd List.mem_cons_self (h m)
    | _ => rfl

/-- A dictionary that was told to compare texts without regard to case keeps that in mind, and it
keeps the spellings of texts apart all the same. -/
theorem spellings_apart (w : World) (rs : List Request) (hrs : ∀ r ∈ rs, r.IsProper) :
    ∃ d after keys, (serve (.setMode (.int 1) :: rs)).carryOut w = (.ok d, after) ∧
      SpellsApart d after (.setMode (.int 1) :: rs) keys ∧
      ((∀ m, .setMode m ∉ rs) →
        (Request.make d .mode).carryOut after = (.ok (.int 1), after)) := by
  have hproper : ∀ r ∈ .setMode (.int 1) :: rs, r.IsProper :=
    List.forall_mem_cons.2 ⟨nofun, hrs⟩
  obtain ⟨id, after, hserve, hthere⟩ := exists_carryOut_serve w hproper
  refine ⟨_, after, _, hserve, (reflects_of_agrees hthere (Agrees.run hproper)).spellsApart, ?_⟩
  intro hmode
  have hkept : (Dictionary.after {} (.setMode (.int 1) :: rs)).mode = .int 1 := mode_after hmode _
  rw [carryOut_make hthere .mode nofun, Request.answer, hkept]
  exact congrArg _ (stored_self hthere)

/-- A letter is added in both cases. -/
def bothCases : List Request :=
  [.add (.text "a") (.int 1), .add (.text "A") (.int 2)]

theorem spellings_apart_bothCases :
    (∀ r ∈ bothCases, r.IsProper) ∧ ∃ d after keys,
      (serve (.setMode (.int 1) :: bothCases)).carryOut Script.firstScene.world = (.ok d, after) ∧
      SpellsApart d after (.setMode (.int 1) :: bothCases) keys ∧
      ((∀ m, .setMode m ∉ bothCases) →
        (Request.make d .mode).carryOut after = (.ok (.int 1), after)) := by
  have hproper : ∀ r ∈ bothCases, r.IsProper := by
    simp only [bothCases, List.forall_mem_cons, List.not_mem_nil, false_imp_iff, implies_true,
      and_true]
    refine ⟨?_, ?_⟩
    all_goals
      rintro key ⟨⟩
      exact isKey_text _
  exact ⟨hproper, spellings_apart Script.firstScene.world bothCases hproper⟩

/-- Told to compare texts without regard to case, a dictionary does not find a key in capitals. -/
theorem capital_not_found :
    Text.lower "A".toList = Text.lower "a".toList ∧
      ((serve [.setMode (.int 1), .add (.text "a") (.int 1)] >>= fun d =>
        Request.make d (.contains (.text "A"))).carryOut Script.firstScene.world).1 =
        .ok (.bool false) := by
  have hlower {c : Char} (hc : c.toNat < 128) : Text.lower [c] = [c.toLower] := by
    rw [Text.lower, Text.lowerFrom, if_pos hc]
    rfl
  refine ⟨(hlower (c := 'A') (by decide)).trans (hlower (c := 'a') (by decide)).symm, ?_⟩
  have hproper : ∀ r ∈ [.setMode (.int 1), .add (.text "a") (.int 1)], Request.IsProper r := by
    simp only [List.forall_mem_cons, List.not_mem_nil, false_imp_iff, implies_true, and_true]
    refine ⟨nofun, ?_⟩
    rintro key ⟨⟩
    exact isKey_text "a"
  obtain ⟨id, after, hserve, hthere⟩ := exists_carryOut_serve Script.firstScene.world hproper
  have hcontains := (reflects_of_agrees hthere (Agrees.run hproper)).contains _ (isKey_text "A")
  rw [Act.carryOut_bind, hserve]
  dsimp only
  rw [hcontains]
  with_unfolding_all rfl

end Dictionary

end ScriptHost
