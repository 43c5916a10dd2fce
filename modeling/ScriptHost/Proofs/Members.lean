import ScriptHost.Object.Member
import ScriptHost.Proofs.Acts

/-!
# Members of objects in a world

An object is a number, and what it is stands in the world. These laws say what reading and setting
an attribute, calling a method and indexing come to when the body of the object is known and nothing
has been set on it.
-/

namespace ScriptHost

namespace World

/-- A world with one object more. -/
def adding (w : World) (b : Body) : World :=
  { w with objects := w.objects.push ⟨b, []⟩ }

lemma getElem?_adding (w : World) {b : Body} :
    (w.adding b).objects[w.objects.size]? = some ⟨b, []⟩ := by
  simp [adding]

end World

/-- A routine acts on the values that its parameters get. -/
lemma Routine.call_of_bind {r : Routine} {args values : List Value}
    (h : r.signature.bind args [] = .ok values) : r.call args [] = r.run values := by
  rw [call, h]
  exact pure_bind values r.run

/-- A routine that only works out a result leaves the world as it is. -/
lemma Catalog.carryOut_of_run {r : Routine} {args vs : List Value} {result : Except Fault Value}
    (hbind : r.signature.bind args [] = .ok vs) (hrun : r.run vs = Act.ofExcept result)
    (w : World) : (r.call args []).carryOut w = (result, w) := by
  rw [Routine.call_of_bind hbind, hrun, Act.carryOut_ofExcept]

namespace Member

variable {w : World} {kind : ObjectKind} {id : Nat} {b : Body} {name : String}

/-- An object is found under its number. -/
lemma carryOut_objectOf {o : Object} (h : w.objects[id]? = some o) :
    (objectOf (.object kind id)).carryOut w = (.ok (some (kind, id, o)), w) := by
  have hfound : (Act.object? id).carryOut w = (.ok (some o), w) := by
    rw [← h]
    rfl
  rw [objectOf, Act.carryOut_bind, hfound]
  rfl

/-- A property is read as the object says. -/
lemma carryOut_readAttribute (h : w.objects[id]? = some ⟨b, []⟩) {p : Property}
    (hproperty : property? id b name = some p) :
    (readAttribute (.object kind id) name).carryOut w = p.read.carryOut w := by
  rw [readAttribute, Act.carryOut_bind, carryOut_objectOf h]
  dsimp only
  rw [hproperty]

/-- A property is set as the object says. -/
lemma carryOut_setAttribute (h : w.objects[id]? = some ⟨b, []⟩) (hb : b.kind ≠ .automation)
    {read : Act Value} {set : Value → Act Unit}
    (hproperty : property? id b name = some { read := read, write := some set }) (x : Value) :
    (setAttribute (.object kind id) name x).carryOut w = (set x).carryOut w := by
  rw [setAttribute, Act.carryOut_bind, carryOut_objectOf h]
  dsimp only
  split
  · exact absurd rfl hb
  · rw [hproperty]

/-- A method is called as the object says. -/
lemma carryOut_callMethod (h : w.objects[id]? = some ⟨b, []⟩) (hb : b.kind ≠ .automation)
    (hproperty : property? id b name = none) (hfield : field? b name = none) {r : Routine}
    (hmethod : method? id b name = some r) (args : List Value) :
    (callMethod (.object kind id) name args []).carryOut w = (r.call args []).carryOut w := by
  have hnone : pairGet? name [] = none := rfl
  rw [callMethod, Act.carryOut_bind, carryOut_objectOf h]
  dsimp only
  rw [hproperty, hfield, hmethod, hnone, Option.or_none]
  cases b with
  | automation properties => exact absurd rfl hb
  | _ => rfl

/-- An item of a dictionary is read. -/
lemma carryOut_item {d : Dictionary} (h : w.objects[id]? = some ⟨.dictionary d, []⟩) (key : Value) :
    (item (.object kind id) key).carryOut w = (Dictionary.readItem d key).carryOut w := by
  unfold item
  rw [Act.carryOut_bind, carryOut_objectOf h]

/-- An item of a dictionary is set. -/
lemma carryOut_setItem {d : Dictionary} (h : w.objects[id]? = some ⟨.dictionary d, []⟩)
    (key x : Value) :
    (setItem (.object kind id) key x).carryOut w =
      (Dictionary.writeItem id d key x).carryOut w := by
  unfold setItem
  rw [Act.carryOut_bind, carryOut_objectOf h]

/-- A method of a new object. -/
lemma carryOut_create_callMethod (hb : b.kind ≠ .automation)
    (hproperty : property? w.objects.size b name = none) (hfield : field? b name = none)
    {r : Routine} (hmethod : method? w.objects.size b name = some r) {args values : List Value}
    (hargs : r.signature.bind args [] = .ok values) :
    (Act.create b >>= fun o => callMethod o name args []).carryOut w =
      (r.run values).carryOut (w.adding b) := by
  rw [← Routine.call_of_bind hargs]
  exact carryOut_callMethod w.getElem?_adding hb hproperty hfield hmethod args

end Member

end ScriptHost
