import Mathlib.Data.List.DropRight
import ScriptHost.Proofs.Members
import ScriptHost.Proofs.Traces

/-!
# Reading a text in memory line by line

A stream on a text in memory is read line by line until it says that it is at its end. What it hands
out are the pieces of the text between newlines (`linesOf`). Asking whether the end is reached and
reading everything go elsewhere in the text and come back (`Cursor.run_atEnd`,
`Cursor.run_readAll`), and a closed stream stays closed: whatever is requested of a stream, it goes
on as `Serves` says.
-/

namespace ScriptHost.Stream

/-! ### The lines of a text -/

/-- The pieces of a text between newlines; an empty piece at the end is left out. -/
def pieces (s : List Char) : List (List Char) :=
  if (s.splitOn '\n').getLast? = some [] then (s.splitOn '\n').dropLast else s.splitOn '\n'

/-- The pieces of a text between newlines without carriage returns at their ends. -/
def linesOf (s : List Char) : List (List Char) :=
  (pieces s).map (·.rdropWhile (· == '\r'))

lemma pieces_newline {a : List Char} (ha : '\n' ∉ a) (b : List Char) :
    pieces (a ++ '\n' :: b) = a :: pieces b := by
  obtain ⟨p, ps, hps⟩ := List.exists_cons_of_ne_nil (List.splitOn_ne_nil '\n' b)
  rw [pieces, pieces, List.splitOn_append_cons_self, List.splitOn_eq_singleton ha, hps]
  simp only [List.singleton_append, List.getLast?_cons_cons, List.dropLast_cons_cons]
  split <;> rfl

lemma pieces_plain {a : List Char} (ha : '\n' ∉ a) (hne : a ≠ []) : pieces a = [a] := by
  rw [pieces, List.splitOn_eq_singleton ha, if_neg (by simpa using hne)]

/-- A text either has no newline or is cut at its first one. -/
lemma exists_newline (s : List Char) : '\n' ∉ s ∨ ∃ a b, '\n' ∉ a ∧ s = a ++ '\n' :: b := by
  by_cases h : '\n' ∈ s
  · obtain ⟨a, b, rfl, ha⟩ := List.eq_append_cons_of_mem h
    exact .inr ⟨a, b, ha, rfl⟩
  · exact .inl h

lemma takeWhile_newline {a : List Char} (ha : '\n' ∉ a) (b : List Char) :
    (a ++ b).takeWhile (· != '\n') = a ++ b.takeWhile (· != '\n') :=
  List.takeWhile_append_of_pos fun _ hc => bne_iff_ne.2 fun h => ha (h ▸ hc)

lemma rdropWhile_newline {a : List Char} (ha : '\n' ∉ a) : a.rdropWhile (· == '\n') = a := by
  rw [List.rdropWhile_eq_self_iff]
  intro hne h
  exact ha (beq_iff_eq.1 h ▸ List.getLast_mem hne)

lemma trimLine_eq (line : List Char) :
    trimLine line = (line.rdropWhile (· == '\n')).rdropWhile (· == '\r') := rfl

/-- The line that is read at a position before the end of a text is the first one of the text from
there on, and the others are those of the text from the position after it. -/
lemma linesOf_drop {s : List Char} {position : Nat} (h : position < s.length) :
    lineAt s position ≠ [] ∧ linesOf (s.drop position) =
      trimLine (lineAt s position) :: linesOf (s.drop (position + (lineAt s position).length)) := by
  rw [← List.drop_drop, trimLine_eq]
  unfold lineAt
  have hne : s.drop position ≠ [] := by simpa using h
  rcases exists_newline (s.drop position) with hplain | ⟨a, b, ha, hcut⟩
  · have hall := takeWhile_newline hplain []
    rw [List.append_nil, List.takeWhile_nil, List.append_nil] at hall
    dsimp only
    rw [hall, if_neg (Nat.lt_irrefl _), rdropWhile_newline hplain, List.drop_length, linesOf,
      pieces_plain hplain hne]
    exact ⟨hne, rfl⟩
  · have hend : (a ++ ['\n']).rdropWhile (· == '\n') = a := by
      rw [List.rdropWhile_concat_pos _ _ _ rfl, rdropWhile_newline ha]
    have hline : (a ++ '\n' :: b).takeWhile (· != '\n') = a := by simp [takeWhile_newline ha]
    have hrest : (a ++ '\n' :: b).drop (a ++ ['\n']).length = b := by simp
    rw [hcut]
    dsimp only
    rw [hline, if_pos (by simp), hend, hrest, linesOf, pieces_newline ha]
    exact ⟨by simp, rfl⟩

/-! ### Moves of the position -/

namespace Cursor

variable (c : Cursor)

/-- Whatever was read in between, a cursor that goes back to a position it was told stands there, in
the text that it was in. -/
lemma run_return {α : Type} {f : StateM Cursor α} (hf : (f.run c).2.text = c.text) :
    (do
      let place ← tell
      let a ← f
      seek place
      return a : StateM Cursor α).run c = ((f.run c).1, c) := by
  obtain ⟨text, position⟩ := c
  exact Prod.ext rfl (congrArg (fun t => Cursor.mk t position) hf)

/-- Reading everything goes to the start and to the end of the text, and back. -/
lemma run_readAll : readAll.run c = (c.text, c) :=
  run_return c (f := do seek 0; read none) rfl

/-- The test for the end goes to the end of the text, and back. -/
lemma run_atEnd : atEnd.run c = (decide (c.text.length ≤ c.position), c) :=
  run_return c (f := do
    let place ← tell
    seekEnd
    return decide ((← tell) ≤ place)) rfl

end Cursor

/-! ### Requests -/

/-- What can be requested of a stream. -/
inductive Request where
  | read (characters : Value)
  | readLine
  | readAll
  | write (text : Value)
  | writeLine (text : Value)
  | writeAnsi (text : Value)
  | close
  | atEnd
  | line
  | column
  | encoding

namespace Request

/-- Makes a request to a stream. -/
def perform (o : Value) : Request → Act Value
  | read characters => Member.callMethod o "Read" [characters] []
  | readLine => Member.callMethod o "ReadLine" [] []
  | readAll => Member.callMethod o "ReadAll" [] []
  | write text => Member.callMethod o "Write" [text] []
  | writeLine text => Member.callMethod o "WriteLine" [text] []
  | writeAnsi text => Member.callMethod o "WriteANSI" [text] []
  | close => Member.callMethod o "Close" [] []
  | atEnd => Member.readAttribute o "AtEndOfStream"
  | line => Member.readAttribute o "Line"
  | column => Member.readAttribute o "Column"
  | encoding => Member.readAttribute o "Encoding"

/-- The requests that only look. -/
def IsProbe : Request → Prop
  | readAll | atEnd => True
  | _ => False

/-- The requests that read or write. -/
def Transfers : Request → Prop
  | read _ | readLine | readAll | write _ | writeLine _ | writeAnsi _ => True
  | _ => False

/-- The requests that change the text of a stream or close it. -/
def Alters : Request → Prop
  | write _ | writeLine _ | writeAnsi _ | close => True
  | _ => False

end Request

/-! ### Streams in a world -/

/-- A world in which an object is the stream given. -/
def withStream (w : World) (id : Nat) (s : Stream) : World :=
  { w with objects := w.objects.modify id fun o => { o with body := .stream s } }

/-- An object is a stream, and nothing has been set on it. -/
def Is (w : World) (id : Nat) (s : Stream) : Prop :=
  w.objects[id]? = some ⟨.stream s, []⟩

variable {w : World} {id : Nat} {s : Stream}

lemma Is.withStream (h : Is w id s) (s' : Stream) : Is (withStream w id s') id s' := by
  unfold Is at *
  simp [Stream.withStream, Array.getElem?_modify, h]

/-- Putting a stream back as it was leaves the world as it was. -/
lemma Is.withStream_self (h : Is w id s) : Stream.withStream w id s = w := by
  have hsame : w.objects.modify id (fun o => { o with body := .stream s }) = w.objects := by
    refine Array.ext_getElem? fun i => ?_
    rw [Array.getElem?_modify]
    split
    · next hi => subst hi; rw [h]; rfl
    · rfl
  rw [Stream.withStream, hsame]

variable {name : String} {r : Routine} {args values : List Value}

lemma Is.carryOut_method (h : Is w id s) (hproperty : property? id s name = none)
    (hmethod : method? id s name = some r) (hbind : r.signature.bind args [] = .ok values) :
    (Member.callMethod (.object .stream id) name args []).carryOut w =
      (r.run values).carryOut w := by
  rw [Member.carryOut_callMethod h (by simp [Body.kind]) hproperty rfl hmethod,
    Routine.call_of_bind hbind]

lemma carryOut_checkOpen_bind {α : Type} (f : Unit → Act α) (w : World) :
    (checkOpen s >>= f).carryOut w = if s.closed then (.error .streamClosed, w)
      else (f ()).carryOut w := by
  unfold checkOpen
  split <;> rfl

/-! ### Streams on texts in memory -/

/-- A stream on a text in memory, at a position. -/
def OnMemory (s : Stream) : Prop :=
  ∃ text position, s.channel = .memory text position

section Memory

variable {text : List Char} {position : Nat}

lemma atEnd_memory : atEnd (.memory text position) =
    pure (.memory text position, decide (text.length ≤ position)) := by
  rw [atEnd, Cursor.work, Cursor.run_atEnd]
  rfl

lemma readAll_memory : readAll (.memory text position) = pure
    (.memory text position, .ok text) := by
  rw [readAll, Cursor.work, Cursor.run_readAll]
  rfl

lemma Is.carryOut_atEnd (h : Is w id s) (hs : s.channel = .memory text position) :
    (Request.atEnd.perform (.object .stream id)).carryOut w =
      (.ok (.bool (s.closed || decide (text.length ≤ position))), w) := by
  refine (Member.carryOut_readAttribute h rfl).trans ?_
  obtain ⟨channel, encoding, closed, line, column⟩ := s
  obtain rfl : channel = _ := hs
  cases closed with
  | true => rfl
  | false =>
    dsimp only [Property.read]
    rw [if_neg Bool.false_ne_true, atEnd_memory]
    exact Prod.ext rfl h.withStream_self

lemma Is.carryOut_readAll (h : Is w id s) (hs : s.channel = .memory text position)
    (hopen : s.closed = false) :
    (Request.readAll.perform (.object .stream id)).carryOut w =
      (.ok (.text (.ofList text)), w) := by
  refine (h.carryOut_method rfl rfl rfl).trans ?_
  obtain ⟨channel, encoding, closed, line, column⟩ := s
  obtain rfl : channel = _ := hs
  obtain rfl : closed = _ := hopen
  dsimp only [Routine.run, Routine.on0]
  rw [readAll_memory]
  exact Prod.ext rfl h.withStream_self

/-- Reading a line hands it out without its end and goes on behind it; a line that is there is
counted. -/
lemma Is.carryOut_readLine (h : Is w id s) (hs : s.channel = .memory text position)
    (hopen : s.closed = false) :
    (Request.readLine.perform (.object .stream id)).carryOut w =
      (.ok (.text (.ofList (trimLine (lineAt text position)))), Stream.withStream w id
        (if (lineAt text position).isEmpty then
          { s with channel := .memory text (position + (lineAt text position).length) }
        else { s with
          channel := .memory text (position + (lineAt text position).length), line :=
            s.line + 1, column := 1 })) := by
  refine (h.carryOut_method rfl rfl rfl).trans ?_
  obtain ⟨channel, encoding, closed, line, column⟩ := s
  obtain rfl : channel = _ := hs
  obtain rfl : closed = _ := hopen
  rfl

/-- A closed stream neither reads nor writes. -/
lemma Is.carryOut_transfer (h : Is w id s) (hclosed : s.closed = true) {r : Request}
    (hr : r.Transfers) :
    (r.perform (.object .stream id)).carryOut w = (.error .streamClosed, w) := by
  obtain ⟨channel, encoding, closed, line, column⟩ := s
  obtain rfl : closed = _ := hclosed
  cases r with
  | read _ | readLine | readAll | write _ | writeLine _ | writeAnsi _ =>
    exact (h.carryOut_method rfl rfl rfl).trans rfl
  | close | atEnd | line | column | encoding => exact False.elim hr

lemma Is.carryOut_close (h : Is w id s) (hs : s.channel = .memory text position) :
    (Request.close.perform (.object .stream id)).carryOut w =
      (.ok .null, Stream.withStream w id { s with closed := true }) := by
  refine (h.carryOut_method rfl rfl rfl).trans ?_
  obtain ⟨channel, encoding, closed, line, column⟩ := s
  obtain rfl : channel = _ := hs
  cases closed with
  | true => exact Prod.ext rfl h.withStream_self.symm
  | false => rfl

end Memory

/-! ### What a request can do -/

/-- What a request can make of a stream on a text in memory: another stream on a text in memory. It
is the same one if the stream is closed, and the same text, closed or open as it was, unless the
request alters the stream. -/
structure Leads (s : Stream) (r : Request) (s' : Stream) : Prop where
  onMemory : s'.OnMemory
  text_eq : ¬ r.Alters → ∀ text position, s.channel = .memory text position →
    s'.closed = s.closed ∧ ∃ position', s'.channel = .memory text position'
  eq_of_closed : s.closed = true → s' = s

lemma Leads.refl (hs : s.OnMemory) (r : Request) : s.Leads r s :=
  ⟨hs, fun _ _ position h => ⟨rfl, position, h⟩, fun _ => rfl⟩

/-- Writing to a text in memory gives another one, or fails. -/
lemma write_memory (text : List Char) (position : Nat) (v : Value) :
    (∃ text' position', write (.memory text position) v = pure (.memory text' position')) ∨
      ∃ e, write (.memory text position) v = throw e := by
  cases v with
  | text t => exact .inl ⟨_, _, rfl⟩
  | _ => exact .inr ⟨_, rfl⟩

lemma Leads.of_alters {s' : Stream} {r : Request} (hr : r.Alters) (hs' : s'.OnMemory)
    (hclosed : s.closed = true → s' = s) : s.Leads r s' :=
  ⟨hs', fun hnot => absurd hr hnot, hclosed⟩

/-- An open stream that stands somewhere else in its text. -/
lemma Leads.moved {text : List Char} {position : Nat} (hs : s.channel = .memory text position)
    (hopen : s.closed = false) (r : Request) (position' line column : Nat) :
    s.Leads r { s with channel := .memory text position', line := line, column := column } := by
  refine ⟨⟨text, position', rfl⟩, fun _ text' position'' h => ?_, fun hclosed => ?_⟩
  · rw [hs] at h
    cases h
    exact ⟨rfl, position', rfl⟩
  · rw [hopen] at hclosed
    cases hclosed

/-- Reading from an open stream goes on in its text, or fails. -/
lemma exists_readMethod {text : List Char} {position : Nat} (hs : s.channel = .memory text position)
    (hopen : s.closed = false) (characters : Value) :
    (∃ position' out, (readMethod id s characters).carryOut w =
      (.ok out, Stream.withStream w id { s with channel := .memory text position' })) ∨
      ∃ e, (readMethod id s characters).carryOut w = (.error e, w) := by
  obtain ⟨channel, encoding, closed, line, column⟩ := s
  obtain rfl : channel = _ := hs
  obtain rfl : closed = _ := hopen
  rw [readMethod, carryOut_checkOpen_bind, if_neg Bool.false_ne_true]
  dsimp only
  rw [Act.carryOut_bind, Act.carryOut_ofExcept]
  rcases (if characters.same (.int (-1)) then .ok none else countOf characters : Except Fault
    (Option Nat)) with e | n
  · exact .inr ⟨e, rfl⟩
  · exact .inl ⟨_, _, rfl⟩

lemma Is.carryOut_writeLine (h : Is w id s) {text : List Char} {position : Nat}
    (hs : s.channel = .memory text position) (hopen : s.closed = false) (v : Value) :
    ((Request.writeLine v).perform (.object .stream id)).carryOut w =
      (Act.ofExcept (v.add (.text "\n")) >>= writeMethod id s).carryOut w := by
  refine (h.carryOut_method rfl rfl rfl).trans ?_
  obtain ⟨channel, encoding, closed, line, column⟩ := s
  obtain rfl : channel = _ := hs
  obtain rfl : closed = _ := hopen
  rfl

/-- Writing to an open stream changes its text, or fails. -/
lemma exists_writeMethod (hs : s.OnMemory) (hopen : s.closed = false) (v : Value) :
    (∃ s', s'.OnMemory ∧ (writeMethod id s v).carryOut w = (.ok .null, Stream.withStream w id s')) ∨
      ∃ e, (writeMethod id s v).carryOut w = (.error e, w) := by
  obtain ⟨text, position, hs⟩ := hs
  rw [writeMethod, carryOut_checkOpen_bind, hopen, hs]
  rcases write_memory text position v with ⟨text', position', hwrite⟩ | ⟨e, hwrite⟩
  · refine .inl ⟨{ s with channel := .memory text' position', closed := false },
      ⟨text', position', rfl⟩, ?_⟩
    rw [hwrite]
    rfl
  · refine .inr ⟨e, ?_⟩
    rw [hwrite]
    rfl

/-- The stream after a request. -/
lemma Is.exists_worldAfter (h : Is w id s) (hs : s.OnMemory) (r : Request) :
    ∃ s', s.Leads r s' ∧ worldAfter (Request.perform (.object .stream id)) r w =
      Stream.withStream w id s' := by
  have hsame : ∃ s', s.Leads r s' ∧ w = Stream.withStream w id s' :=
    ⟨s, .refl hs r, h.withStream_self.symm⟩
  obtain ⟨text, position, hmemory⟩ := hs
  unfold worldAfter
  by_cases hclosed : s.closed = true ∧ r.Transfers
  · rw [h.carryOut_transfer hclosed.1 hclosed.2]
    exact hsame
  · have hopen (hr : r.Transfers) : s.closed = false := by simpa [hr] using hclosed
    have hnever (hr : r.Transfers) (s' : Stream) (hclosed : s.closed = true) : s' = s := by
      rw [hopen hr] at hclosed
      cases hclosed
    have hwritten (v : Value) (hr : r.Transfers) (halters : r.Alters) :
        ∃ s', s.Leads r s' ∧ ((writeMethod id s v).carryOut w).2 = Stream.withStream w id s' := by
      rcases exists_writeMethod ⟨text, position, hmemory⟩ (hopen hr) v with
        ⟨s', hs', hwrite⟩ | ⟨e, hwrite⟩
      · exact ⟨s', .of_alters halters hs' (hnever hr s'), by rw [hwrite]⟩
      · rw [hwrite]
        exact hsame
    cases r with
    | atEnd =>
      rw [h.carryOut_atEnd hmemory]
      exact hsame
    | line | column | encoding =>
      rw [Request.perform, Member.carryOut_readAttribute h rfl]
      exact hsame
    | close =>
      rw [h.carryOut_close hmemory]
      refine ⟨{ s with closed := true },
        .of_alters trivial ⟨text, position, hmemory⟩ fun hclosed => ?_, rfl⟩
      rw [← hclosed]
    | readAll =>
      rw [h.carryOut_readAll hmemory (hopen trivial)]
      exact hsame
    | readLine =>
      rw [h.carryOut_readLine hmemory (hopen trivial)]
      refine ⟨_, ?_, rfl⟩
      split
      · exact .moved hmemory (hopen trivial) _ _ s.line s.column
      · exact .moved hmemory (hopen trivial) _ _ (s.line + 1) 1
    | read characters =>
      rw [Request.perform, h.carryOut_method rfl rfl rfl]
      rcases exists_readMethod hmemory (hopen trivial) characters with
        ⟨position', out, hread⟩ | ⟨e, hread⟩
      · exact ⟨_, .moved hmemory (hopen trivial) _ position' s.line s.column,
          congrArg Prod.snd hread⟩
      · exact (congrArg Prod.snd hread) ▸ hsame
    | write v | writeAnsi v =>
      rw [Request.perform, h.carryOut_method rfl rfl rfl]
      exact hwritten v trivial trivial
    | writeLine v =>
      rw [h.carryOut_writeLine hmemory (hopen trivial), Act.carryOut_bind, Act.carryOut_ofExcept]
      rcases v.add (.text "\n") with e | line
      · exact hsame
      · exact hwritten line trivial trivial

/-- Requests that only look leave everything as it is. -/
lemma Is.worldAfter_probe (h : Is w id s) (hs : s.OnMemory) {r : Request} (hr : r.IsProbe) :
    worldAfter (Request.perform (.object .stream id)) r w = w := by
  obtain ⟨text, position, hs⟩ := hs
  cases r with
  | atEnd => exact congrArg Prod.snd (h.carryOut_atEnd hs)
  | readAll =>
    cases hclosed : s.closed with
    | true => exact congrArg Prod.snd (h.carryOut_transfer (r := .readAll) hclosed trivial)
    | false => exact congrArg Prod.snd (h.carryOut_readAll hs hclosed)
  | _ => exact False.elim hr

lemma Is.worldAfterAll_probes (h : Is w id s) (hs : s.OnMemory) {rs : List Request}
    (hrs : ∀ r ∈ rs, r.IsProbe) :
    worldAfterAll (Request.perform (.object .stream id)) rs w = w := by
  refine worldAfterAll_induction (P := (· = w)) (fun r hr w' hw' => ?_) rfl
  rw [hw']
  exact h.worldAfter_probe hs (hrs r hr)

/-! ### Reading to the end -/

/-- The lines of a text as they are handed out. -/
def lineValues (text : List Char) : List Value :=
  (linesOf text).map fun l => .text (.ofList l)

/-- A turn of reading: the stream says that it is not at its end, and a line is read. Before each of
both, requests that only look may be made. -/
def Turn (o : Value) (w : World) (line : Value) (after : World) : Prop :=
  ∃ (ps qs : List Request) (between : World), (∀ p ∈ ps ++ qs, p.IsProbe) ∧
    (Request.atEnd.perform o).carryOut (worldAfterAll (Request.perform o) ps w) =
      (.ok (.bool false), between) ∧
    (Request.readLine.perform o).carryOut (worldAfterAll (Request.perform o) qs between) =
      (.ok line, after)

/-- Turns of reading, one after the other. -/
inductive Reads (o : Value) (w : World) : List Value → World → Prop
  | start : Reads o w [] w
  | turn {lines : List Value} {line : Value} {before after : World} :
    Reads o w lines before → Turn o before line after → Reads o w (lines ++ [line]) after

/-- An open stream stands behind the lines that were read, and has counted them. -/
def StandsBehind (text : List Char) (encoding : Value) (id : Nat) (lines : List Value) (w : World) :
    Prop :=
  ∃ position, Is w id ⟨.memory text position, encoding, false, lines.length + 1, 1⟩ ∧
    lineValues text = lines ++ lineValues (text.drop position)

namespace StandsBehind

variable {text : List Char} {encoding : Value} {lines : List Value}

/-- The lines that were read are counted, and counting starts with one. -/
lemma carryOut_line (h : StandsBehind text encoding id lines w) :
    (Request.line.perform (.object .stream id)).carryOut w =
      (.ok (.int (1 + lines.length)), w) := by
  obtain ⟨position, h, -⟩ := h
  have hcount : (1 + lines.length : Int) = ((lines.length + 1 : Nat) : Int) := by omega
  rw [Request.perform, Member.carryOut_readAttribute h rfl, hcount]
  rfl

/-- Either all lines were read, or the next one can be read. -/
lemma progress (h : StandsBehind text encoding id lines w) :
    (lines = lineValues text ∧ (Request.atEnd.perform (.object .stream id)).carryOut w =
      (.ok (.bool true), w)) ∨
      ∃ line after, (Request.atEnd.perform (.object .stream id)).carryOut w =
        (.ok (.bool false), w) ∧
        (Request.readLine.perform (.object .stream id)).carryOut w = (.ok line, after) ∧
        StandsBehind text encoding id (lines ++ [line]) after := by
  obtain ⟨position, h, hlines⟩ := h
  rw [h.carryOut_atEnd rfl]
  rcases Nat.lt_or_ge position text.length with hlt | hle
  · obtain ⟨hne, hnext⟩ := linesOf_drop hlt
    refine .inr ⟨_, _, by simpa using hlt, h.carryOut_readLine rfl rfl, ?_⟩
    rw [if_neg (by simpa using hne)]
    refine ⟨_, by simpa using h.withStream _, ?_⟩
    rw [hlines, lineValues, hnext]
    simp [lineValues]
  · refine .inl ⟨?_, by simpa using hle⟩
    rw [hlines, List.drop_eq_nil_of_le hle]
    exact (List.append_nil lines).symm

/-- After a turn, the line of that turn is among those that were read. -/
lemma turn (h : StandsBehind text encoding id lines w) {line : Value} {after : World}
    (hturn : Turn (.object .stream id) w line after) :
      StandsBehind text encoding id (lines ++ [line]) after := by
  obtain ⟨ps, qs, between, hprobes, hend, hread⟩ := hturn
  have hkept {rs : List Request} (hrs : ∀ r ∈ rs, r.IsProbe) :
      worldAfterAll (Request.perform (.object .stream id)) rs w = w := by
    obtain ⟨position, h, -⟩ := h
    exact h.worldAfterAll_probes ⟨text, position, rfl⟩ hrs
  rw [hkept fun p hp => hprobes p (List.mem_append_left _ hp)] at hend
  rcases h.progress with ⟨-, hat⟩ | ⟨line', after', hnot, hnext, hstands⟩
  · rw [hat] at hend
    cases hend
  · rw [hnot] at hend
    cases hend
    rw [hkept fun p hp => hprobes p (List.mem_append_right _ hp), hnext] at hread
    cases hread
    exact hstands

lemma reads (h : StandsBehind text encoding id [] w) {after : World}
    (hreads : Reads (.object .stream id) w lines after) :
      StandsBehind text encoding id lines after := by
  induction hreads with
  | start => exact h
  | turn _ hturn ih => exact ih.turn hturn

/-- Reading goes on until all lines were read. -/
lemma exists_reads {start : World} {rest : List Value}
    (hreads : Reads (.object .stream id) start lines w)
    (h : StandsBehind text encoding id lines w) (hrest : lineValues text = lines ++ rest) :
    ∃ after, Reads (.object .stream id) start (lineValues text) after := by
  induction rest generalizing lines w with
  | nil =>
    rw [hrest, List.append_nil]
    exact ⟨w, hreads⟩
  | cons line rest ih =>
    rcases h.progress with ⟨hall, -⟩ | ⟨line', after, hnot, hnext, hstands⟩
    · rw [← hall] at hrest
      simp at hrest
    · have hturn : Turn (.object .stream id) w line' after := ⟨[], [], w, by simp, hnot, hnext⟩
      obtain rfl : line' = line := by
        obtain ⟨position, -, hlines⟩ := hstands
        rw [hrest, List.append_assoc] at hlines
        exact ((List.cons.inj (List.append_cancel_left hlines)).1).symm
      exact ih (hreads.turn hturn) hstands (by rw [hrest, List.append_assoc, List.singleton_append])

end StandsBehind

/-! ### What a stream does for its reader -/

/-- What a stream on a text in memory does from the start on. -/
structure Serves (o : Value) (w : World) (text : List Char) : Prop where
  /-- The lines that were read are counted. They are either all, and then the stream says that it is
  at its end, or the first ones, and then it says that it is not and hands out the next one. -/
  reads : ∀ lines after, Reads o w lines after →
    (Request.line.perform o).carryOut after = (.ok (.int (1 + lines.length)), after) ∧
      ((lines = lineValues text ∧ (Request.atEnd.perform o).carryOut after =
        (.ok (.bool true), after)) ∨
        ∃ line later, (Request.atEnd.perform o).carryOut after = (.ok (.bool false), after) ∧
          (Request.readLine.perform o).carryOut after = (.ok line, later) ∧
            lines ++ [line] <+: lineValues text)
  /-- All lines can be read. -/
  readsAll : ∃ after, Reads o w (lineValues text) after
  /-- Requests that only look can be inserted anywhere. -/
  undisturbed : InsertsFreely (Request.perform o) Request.IsProbe w
  /-- As long as nothing is written and the stream is not closed, reading everything gives the whole
  text. -/
  whole : ∀ rs : List Request, (∀ r ∈ rs, ¬ r.Alters) → ∀ x ∈ trace (Request.perform o) rs w,
    x.1 = .readAll → x.2 = .ok (.text (.ofList text))
  /-- Whatever was done before, a stream that was closed neither reads nor writes, is at its end,
  and stays as it is. -/
  closed : ∀ before later : List Request, ∀ shut,
    shut = worldAfterAll (Request.perform o) (before ++ [.close]) w →
    worldAfterAll (Request.perform o) later shut = shut ∧
      ∀ x ∈ trace (Request.perform o) later shut,
      (x.1.Transfers → x.2 = .error .streamClosed) ∧ (x.1 = .atEnd → x.2 = .ok (.bool true)) ∧
        (x.1 = .close → x.2 = .ok .null)

section Serving

variable {text : List Char} {encoding : Value}

/-- An object is a stream on a text in memory. -/
def IsOnMemory (id : Nat) (w : World) : Prop :=
  ∃ s, Is w id s ∧ s.OnMemory

lemma IsOnMemory.worldAfter (h : IsOnMemory id w) (r : Request) :
    IsOnMemory id (worldAfter (Request.perform (.object .stream id)) r w) := by
  obtain ⟨s, h, hs⟩ := h
  obtain ⟨s', hleads, hafter⟩ := h.exists_worldAfter hs r
  rw [hafter]
  exact ⟨s', h.withStream s', hleads.onMemory⟩

lemma IsOnMemory.undisturbed (h : IsOnMemory id w) :
    InsertsFreely (Request.perform (.object .stream id)) Request.IsProbe w := by
  refine .of_kept (P := IsOnMemory id) (fun r w hw => hw.worldAfter r) (fun r w hr hw => ?_) h
  obtain ⟨s, h, hs⟩ := hw
  exact h.worldAfter_probe hs hr

/-- Reading everything gives the whole text as long as nothing alters the stream. -/
lemma Is.whole {position line column : Nat}
    (h : Is w id ⟨.memory text position, encoding, false, line, column⟩)
    {rs : List Request} (hrs : ∀ r ∈ rs, ¬ r.Alters) :
    ∀ x ∈ trace (Request.perform (.object .stream id)) rs w, x.1 = .readAll →
      x.2 = .ok (.text (.ofList text)) := by
  refine forall_mem_trace (Q := fun r x => r = Request.readAll → x = .ok (.text (.ofList text)))
    (P := fun w => ∃ s position, Is w id s ∧ s.closed = false ∧ s.channel = .memory text position)
    (fun r hr w hw => ?_) ⟨_, position, h, rfl, rfl⟩
  obtain ⟨s, position, h, hopen, hs⟩ := hw
  constructor
  · obtain ⟨s', hleads, hafter⟩ := h.exists_worldAfter ⟨text, position, hs⟩ r
    obtain ⟨hclosed, position', hs'⟩ := hleads.text_eq (hrs r hr) text position hs
    rw [hafter]
    exact ⟨s', position', h.withStream s', hclosed.trans hopen, hs'⟩
  · rintro rfl
    exact congrArg Prod.fst (h.carryOut_readAll hs hopen)

/-- A closed stream stays as it is. -/
lemma Is.shut (h : Is w id s) (hs : s.OnMemory) (hclosed : s.closed = true) (rs : List Request) :
    worldAfterAll (Request.perform (.object .stream id)) rs w = w ∧
      ∀ x ∈ trace (Request.perform (.object .stream id)) rs w,
        (x.1.Transfers → x.2 = .error .streamClosed) ∧ (x.1 = .atEnd → x.2 = .ok (.bool true)) ∧
          (x.1 = .close → x.2 = .ok .null) := by
  have hkept (r : Request) : worldAfter (Request.perform (.object .stream id)) r w = w := by
    obtain ⟨s', hleads, hafter⟩ := h.exists_worldAfter hs r
    rw [hafter, hleads.eq_of_closed hclosed, h.withStream_self]
  constructor
  · exact worldAfterAll_induction (P := (· = w)) (fun r _ w' hw' => by rw [hw', hkept]) rfl
  · refine forall_mem_trace (Q := fun (r : Request) x => (r.Transfers → x = .error .streamClosed) ∧
      (r = .atEnd → x = .ok (.bool true)) ∧ (r = .close → x = .ok .null)) (P :=
        (· = w)) (fun r _ w' hw' => ?_) rfl
    subst hw'
    obtain ⟨text, position, hs⟩ := hs
    refine ⟨hkept r, fun hr => congrArg Prod.fst (h.carryOut_transfer hclosed hr), ?_, ?_⟩
    · rintro rfl
      rw [h.carryOut_atEnd hs, hclosed]
      rfl
    · rintro rfl
      exact congrArg Prod.fst (h.carryOut_close hs)

end Serving

/-- A new stream on a text in memory hands out the lines of the text, whatever else is asked of it
in between, until it is closed. -/
theorem serves_create (w : World) (text : List Char) (encoding : Value) :
    ∃ o after, (create (.memory text 0) encoding).carryOut w = (.ok o, after) ∧
      Serves o after text := by
  have hnew : Is (w.adding (.stream ⟨.memory text 0, encoding, false, 1, 1⟩)) w.objects.size
      ⟨.memory text 0, encoding, false, 1, 1⟩ := w.getElem?_adding
  have hstands : StandsBehind text encoding w.objects.size [] _ := ⟨0, hnew, rfl⟩
  refine ⟨.object .stream w.objects.size, w.adding _, rfl, ?_, ?_, ?_, ?_, ?_⟩
  · intro lines after hreads
    have hbehind := hstands.reads hreads
    refine ⟨hbehind.carryOut_line, ?_⟩
    rcases hbehind.progress with hall | ⟨line, later, hnot, hnext, ⟨position, -, hlines⟩⟩
    · exact .inl hall
    · exact .inr ⟨line, later, hnot, hnext, _, hlines.symm⟩
  · exact hstands.exists_reads .start (List.nil_append _).symm
  · exact IsOnMemory.undisturbed ⟨_, hnew, text, 0, rfl⟩
  · exact fun rs hrs => hnew.whole hrs
  · rintro before later shut rfl
    rw [worldAfterAll_append]
    obtain ⟨s, h, text', position, hs⟩ : IsOnMemory w.objects.size (worldAfterAll _ before _) :=
      worldAfterAll_induction (P := IsOnMemory _) (fun r _ w hw => hw.worldAfter r)
        ⟨_, hnew, text, 0, rfl⟩
    have hclose : worldAfterAll _ [Request.close] _ = _ := congrArg Prod.snd (h.carryOut_close hs)
    rw [hclose]
    exact (h.withStream { s with closed := true }).shut ⟨text', position, hs⟩ rfl later

end ScriptHost.Stream
