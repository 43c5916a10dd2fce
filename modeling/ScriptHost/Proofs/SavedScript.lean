import ScriptHost.Proofs.Composition
import ScriptHost.Proofs.FileTree
import ScriptHost.Proofs.GbkCodec

/-!
# Scripts that were saved

A script is saved with a head of four lines, three comments and an empty line, in a file in GBK. If
all its characters can be written in GBK and none is a carriage return, then running the file does
what the script does in a new session, and only the line numbers are larger by four:
`runScript_saved`.

Three things are put together for this. The file is found again under the path that it was opened
by, with the bytes that were written (`AnsiFile.locate_of_write`). The bytes are decoded to the head
and the script (`readBack_header`). And lines that hold nothing to execute only shift the line
numbers of the lines after them (`laterBy_of_idle`). The comments at the head need not come back as
they were, since they stay comments whatever is lost from them.
-/

namespace ScriptHost

open ScriptHost.Calendar ScriptHost.Number ScriptHost.Text

namespace Storage

/-- What a file that was opened for writing tells about its path: the path ended without a slash and
led to a file or a free name, where there is an empty file now. -/
lemma of_openForWriting {path : String} {w w' : World} {r : Route}
    (h : (openForWriting .truncate path).carryOut w = (.ok r, w')) :
    Disk.isPath path = true ∧ path.endsWith "/" = false ∧ (w.disk.locate path).On r ∧
      (∀ n, w.disk.locate path = .found r n → n.isFolder = false) ∧
      w' = { w with disk := w.disk.put r (some (.file [] w.clock.epochMicros)) } := by
  unfold openForWriting at h
  obtain ⟨_, mid, hcheck, h⟩ := Act.exists_of_carryOut_bind_eq_ok h
  unfold checkPath at hcheck
  split at hcheck
  · next hpath =>
    obtain rfl : w = mid := congrArg Prod.snd hcheck
    dsimp only at h
    obtain ⟨d, mid, hdisk, h⟩ := Act.exists_of_carryOut_bind_eq_ok h
    obtain ⟨hd, hmid⟩ := Prod.mk.inj hdisk
    obtain rfl := Except.ok.inj hd
    subst hmid
    cases hslash : path.endsWith "/" with
    | true =>
      simp only [hslash, if_true] at h
      split at h <;> cases congrArg Prod.fst h
    | false =>
      simp only [hslash, Bool.false_eq_true, if_false] at h
      split at h
      · next r' content modified hlocate =>
        obtain ⟨hr, hw⟩ := Prod.mk.inj h
        obtain rfl := Except.ok.inj hr
        refine ⟨hpath, rfl, ?_, fun n hn => ?_, hw.symm⟩
        · rw [hlocate]
          exact .found _ _
        · rw [hlocate] at hn
          cases hn
          rfl
      · cases congrArg Prod.fst h
      · next parent name slash hlocate =>
        obtain ⟨hr, hw⟩ := Prod.mk.inj h
        obtain rfl := Except.ok.inj hr
        refine ⟨hpath, rfl, ?_, fun n hn => ?_, hw.symm⟩
        · rw [hlocate]
          exact .vacant _ _ _
        · rw [hlocate] at hn
          cases hn
      · cases congrArg Prod.fst h
  · cases congrArg Prod.fst hcheck

/-- A file that was opened for writing and given some bytes is there with these bytes. -/
lemma locate_setContent {path : String} {w w' : World} {r : Route} (content : List UInt8)
    (h : (openForWriting .truncate path).carryOut w = (.ok r, w')) :
    ∃ modified, Disk.isPath path = true ∧
      ((setContent r content).carryOut w').1 = .ok () ∧
      ((setContent r content).carryOut w').2.disk.locate path =
        .found r (.file content modified) := by
  obtain ⟨hpath, hslash, hon, hfile, rfl⟩ := of_openForWriting h
  have hopen := Disk.locate_put [] w.clock.epochMicros hslash hon hfile
  have hthere := Disk.get?_of_locate hopen
  -- The bytes take the place of the empty file, which the path leads to.
  have hon' : ((w.disk.put r (some (.file [] w.clock.epochMicros))).locate path).On r := by
    rw [hopen]
    exact .found _ _
  have hbytes := Disk.locate_put content w.clock.epochMicros hslash hon' fun n hn => by
    rw [hopen] at hn
    cases hn
    rfl
  have hset : (setContent r content).carryOut
      { w with disk := w.disk.put r (some (.file [] w.clock.epochMicros)) } =
      (.ok (), { w with
        disk := (w.disk.put r (some (.file [] w.clock.epochMicros))).put r
          (some (.file content w.clock.epochMicros)) }) := by
    unfold setContent
    rw [Act.carryOut_bind, disk, Act.carryOut_bind, Act.carryOut_get]
    dsimp only
    rw [Act.carryOut_pure]
    dsimp only
    rw [hthere]
    rfl
  exact ⟨w.clock.epochMicros, hpath, by rw [hset], by rw [hset]; exact hbytes⟩

end Storage

namespace AnsiFile

/-- Writing that succeeds leaves a file with the bytes of the text. -/
lemma locate_of_write {path text : String} {w w' : World}
    (h : (write (.text path) (.text text)).carryOut w = (.ok (), w')) :
    ∃ r modified, Disk.isPath path = true ∧
      w'.disk.locate path = .found r (.file (Charset.gbk.encodeLossy text.toList) modified) := by
  unfold write at h
  obtain ⟨path', mid, hgiven, h⟩ := Act.exists_of_carryOut_bind_eq_ok h
  obtain ⟨hsame, rfl⟩ := Prod.mk.inj hgiven
  obtain rfl := Except.ok.inj hsame
  obtain ⟨_, folders, _, h⟩ := Act.exists_of_carryOut_bind_eq_ok h
  obtain ⟨r, opened, hopen, h⟩ := Act.exists_of_carryOut_bind_eq_ok h
  obtain ⟨modified, hpath, _, hlocate⟩ :=
    Storage.locate_setContent (Charset.gbk.encodeLossy text.toList) hopen
  refine ⟨r, modified, hpath, ?_⟩
  dsimp only at h
  rw [h] at hlocate
  exact hlocate

/-- Saving answers that it succeeded only if it did. -/
lemma write_of_save {filename content : Value} {w w' : World}
    (h : (save filename content).carryOut w = (.ok (.bool true), w')) :
    (write filename content).carryOut w = (.ok (), w') := by
  unfold save at h
  rw [Act.carryOut_recover, Act.carryOut_bind] at h
  rcases hwrite : (write filename content).carryOut w with ⟨e | _, after⟩
  · rw [hwrite] at h
    dsimp only at h
    split at h
    · cases congrArg Prod.fst h
    · obtain ⟨_, _, _, h⟩ := Act.exists_of_carryOut_bind_eq_ok h
      obtain ⟨_, _, _, h⟩ := Act.exists_of_carryOut_bind_eq_ok h
      cases congrArg Prod.fst h
  · rw [hwrite] at h
    obtain ⟨_, rfl⟩ := Prod.mk.inj h
    rfl

/-- The text of a file is read without changing the world. -/
lemma carryOut_readText {path : String} {w : World} {r : Route} {content : List UInt8}
    {modified : Int} (hpath : Disk.isPath path = true)
    (h : w.disk.locate path = .found r (.file content modified)) :
    (readText (.text path)).carryOut w =
      (.ok (unifyLineEnds (Charset.gbk.decodeLossy content)), w) := by
  have hopen : (Storage.openForReading path).carryOut w = (.ok (r, content, modified), w) := by
    unfold Storage.openForReading Storage.checkPath Storage.disk
    rw [if_pos hpath, Act.carryOut_bind, Act.carryOut_pure]
    dsimp only
    rw [Act.carryOut_bind, Act.carryOut_bind, Act.carryOut_get]
    dsimp only
    rw [Act.carryOut_pure]
    dsimp only
    rw [h]
    rfl
  unfold readText
  rw [Act.carryOut_bind, Act.carryOut_ofExcept]
  dsimp only [Storage.openText]
  rw [Act.carryOut_bind, hopen]
  rfl

end AnsiFile

namespace Script

/-! ### Lines that hold nothing to execute -/

/-- A line that starts with a quote is a comment. -/
lemma isIdle_strip_quote (rest : List Char) : isIdle (strip ('\x27' :: rest)) = true := by
  have hquote : isBlank '\x27' = false := by decide
  have hleft : stripLeft ('\x27' :: rest) = '\x27' :: rest := by simp [stripLeft, hquote]
  have hright : stripRight ('\x27' :: rest) = '\x27' :: stripRight rest ∨
      stripRight ('\x27' :: rest) = ['\x27'] := by
    unfold stripRight
    rw [List.reverse_cons, List.dropWhile_append]
    split
    · right
      simp [hquote]
    · left
      simp
  unfold strip
  rw [hleft]
  rcases hright with h | h <;> rw [h] <;> rfl

/-- A run passes over lines that hold nothing to execute, and only the line number tells. -/
lemma Reaches.of_idle (lib : Library) (n : Nat) {ls : List (List Char)}
    (h : ∀ l ∈ ls, isIdle (strip l) = true) (scene : Scene) :
    ∃ f, Reaches lib ⟨n, ls, scene⟩ ⟨n + ls.length, [], scene.onSession (reline f)⟩ := by
  induction ls generalizing n scene with
  | nil => exact ⟨id, .refl⟩
  | cons l ls ih =>
    obtain ⟨f, hreach⟩ := ih (n + 1) (fun l' hl' => h l' (List.mem_cons_of_mem l hl'))
      (scene.atLine n)
    refine ⟨fun _ => f n, .head (turn_idle (h l List.mem_cons_self)) ?_⟩
    rw [List.length_cons, Nat.add_comm ls.length, ← Nat.add_assoc]
    exact hreach

/-- Lines before a script that hold nothing to execute only make its line numbers larger. -/
lemma laterBy_of_idle {lib : Library} (hlib : lib.evaluator.Confined) {a : List Char}
    (h : ∀ l ∈ lines a, isIdle (strip l) = true) (b : List Char) (scene : Scene) :
    LaterBy (lines a).length ((run lib b).take scene) ((run lib (a ++ '\n' :: b)).take scene) := by
  obtain ⟨f, hreach⟩ := Reaches.of_idle lib 1 h scene
  have hsame : (run lib b).take (scene.onSession (reline f)) = (run lib b).take scene := by
    rw [take_run hlib, take_run hlib]
    exact play_reline lib (p := ⟨1, lines b, scene⟩) (List.splitOn_ne_nil _ _) f
  rw [← hsame]
  exact laterBy_of_reaches hlib hreach rfl rfl b

/-! ### The head of a saved script -/

/-- The comments at the head of a saved script. -/
def headComments (m : Moment) : List (List Char) :=
  ["' VBScript 文件 - 生成于 ".toList ++ stamp m, "' 编码: ANSI (GBK)".toList,
    "' ===========================================".toList]

/-- Lines with their line breaks. -/
def broken (ls : List (List Char)) : List Char :=
  ls.flatMap fun l => l ++ ['\n']

/-- The head of a saved script is the comments and an empty line. -/
lemma toList_header (m : Moment) : (header m).toList = broken (headComments m) ++ ['\n'] := by
  unfold header broken headComments
  simp [String.toList_append, String.toList_ofList]

lemma lines_broken {ls : List (List Char)} (h : ∀ l ∈ ls, '\n' ∉ l) :
    lines (broken ls) = ls ++ [[]] := by
  induction ls with
  | nil => rfl
  | cons l ls ih =>
    have hl : lines l = [l] := List.splitOn_eq_singleton (h l List.mem_cons_self)
    have happend : broken (l :: ls) = l ++ '\n' :: broken ls := by simp [broken]
    rw [happend, lines_append, hl, ih fun l' hl' => h l' (List.mem_cons_of_mem l hl')]
    rfl

/-- Whether a character can be written in GBK. -/
def inGbk (c : Char) : Bool :=
  (Charset.gbk.charBytes? c).isSome

lemma inGbk_of_plain {c : Char} (h : c.toNat < 0x80) : inGbk c = true := by
  simp [inGbk, Charset.charBytes?, Charset.pairBytes, h]

lemma filter_broken (ls : List (List Char)) :
    (broken ls).filter inGbk = broken (ls.map (List.filter inGbk)) := by
  have hbreak : inGbk '\n' = true := inGbk_of_plain (by decide)
  simp [broken, List.filter_flatMap, List.flatMap_map, hbreak]

/-- No comment at the head has a line break of either kind in it. -/
lemma notMem_headComments (m : Moment) {l : List Char} (h : l ∈ headComments m) :
    '\n' ∉ l ∧ '\r' ∉ l := by
  have hn (n : Nat) := notMem_natDigits (c := '\n') (by decide) n
  have hr (n : Nat) := notMem_natDigits (c := '\r') (by decide) n
  simp only [headComments, List.mem_cons, List.not_mem_nil, or_false] at h
  rcases h with rfl | rfl | rfl
  · simp [stamp, padded, hn, hr]
  · decide
  · decide

/-- After writing, the comments at the head are comments. -/
lemma isIdle_headComments (m : Moment) {l : List Char} (h : l ∈ headComments m) :
    isIdle (strip (l.filter inGbk)) = true := by
  have hquote : inGbk '\x27' = true := inGbk_of_plain (by decide)
  have hcomment (rest : List Char) : isIdle (strip (('\x27' :: rest).filter inGbk)) = true := by
    rw [List.filter_cons_of_pos hquote]
    exact isIdle_strip_quote _
  simp only [headComments, List.mem_cons, List.not_mem_nil, or_false] at h
  rcases h with rfl | rfl | rfl <;> exact hcomment _

/-- The head of a saved script as it is read back, without the last line break: the comments as far
as they can be written. -/
def savedHead (m : Moment) : List Char :=
  broken ((headComments m).map (List.filter inGbk))

/-- A saved script is read back as its head and the script. -/
lemma readBack_header (m : Moment) {code : List Char} (h : ∀ c ∈ code, c ≠ '\r' ∧ inGbk c = true) :
    unifyLineEnds (Charset.gbk.decodeLossy (Charset.gbk.encodeLossy ((header m).toList ++ code))) =
      savedHead m ++ '\n' :: code := by
  have hbreak : inGbk '\n' = true := inGbk_of_plain (by decide)
  have hcode : code.filter inGbk = code := List.filter_eq_self.2 fun c hc => (h c hc).2
  have htext : Charset.gbk.decodeLossy (Charset.gbk.encodeLossy ((header m).toList ++ code)) =
      savedHead m ++ '\n' :: code := by
    rw [Charset.decodeLossy_encodeLossy, toList_header]
    change List.filter inGbk _ = _
    rw [List.filter_append, List.filter_append, filter_broken, hcode]
    simp [savedHead, hbreak]
  rw [htext]
  refine unifyLineEnds_eq_self fun hreturn => ?_
  rcases List.mem_append.1 hreturn with hhead | htail
  · obtain ⟨l, hl, hmem⟩ := List.mem_flatMap.1 hhead
    obtain ⟨comment, hcomment, rfl⟩ := List.mem_map.1 hl
    rcases List.mem_append.1 hmem with hmem | hmem
    · exact (notMem_headComments m hcomment).2 (List.mem_filter.1 hmem).1
    · simp at hmem
  · rcases List.mem_cons.1 htail with hmem | hmem
    · simp at hmem
    · exact (h _ hmem).1 rfl

/-- A script with the head of a saved one does what it does without, four lines further on. -/
lemma laterBy_savedHead {lib : Library} (hlib : lib.evaluator.Confined) (m : Moment)
    (code : List Char) (scene : Scene) :
    LaterBy 4 ((run lib code).take scene)
      ((run lib (savedHead m ++ '\n' :: code)).take scene) := by
  have hlines : lines (savedHead m) = (headComments m).map (List.filter inGbk) ++ [[]] := by
    refine lines_broken fun l hl hbreak => ?_
    obtain ⟨comment, hcomment, rfl⟩ := List.mem_map.1 hl
    exact (notMem_headComments m hcomment).1 (List.mem_filter.1 hbreak).1
  have hidle : ∀ l ∈ lines (savedHead m), isIdle (strip l) = true := by
    intro l hl
    rw [hlines] at hl
    rcases List.mem_append.1 hl with hl | hl
    · obtain ⟨comment, hcomment, rfl⟩ := List.mem_map.1 hl
      exact isIdle_headComments m hcomment
    · obtain rfl := List.mem_singleton.1 hl
      rfl
  have hlater := laterBy_of_idle hlib hidle code scene
  rw [hlines] at hlater
  exact hlater

/-! ### Running a saved script -/

/-- What running a text in a new session does to the world. -/
lemma carryOut_runFresh (lib : Library) (code : List Char) (w : World) :
    (runFresh lib (.text (String.ofList code))).carryOut w =
      (((run lib code).take ⟨freshSession, w⟩).1,
        ((run lib code).take ⟨freshSession, w⟩).2.world) := by
  unfold runFresh
  rw [Act.carryOut_bind, Act.carryOut_ofExcept, codeOf, String.toList_ofList]
  change (inSession freshSession (run lib code) >>= fun _ => pure () : Act Unit).carryOut w = _
  unfold inSession
  rw [Act.carryOut_bind, Act.carryOut_bind, Act.carryOut_get]
  dsimp only
  rcases (run lib code).take ⟨freshSession, w⟩ with ⟨e | _, after⟩ <;> rfl

/-- A path that leads to a file exists. -/
lemma carryOut_pathExists {path : String} {w : World} {r : Route} {n : Node}
    (hpath : Disk.isPath path = true) (h : w.disk.locate path = .found r n) :
    (Storage.pathExists (.text path)).carryOut w = (.ok true, w) := by
  have hnode : w.disk.node? path = some n := by simp [Disk.node?, hpath, h]
  have hexists : (Storage.pathExists (.text path)).carryOut w =
      (.ok (w.disk.node? path).isSome, w) := rfl
  rw [hexists, hnode]
  rfl

/-- Running a script file runs the text in it in a new session. -/
lemma carryOut_runScript_file (lib : Library) {path : String} {w : World} {r : Route}
    {content : List UInt8} {modified : Int} (hpath : Disk.isPath path = true)
    (h : w.disk.locate path = .found r (.file content modified)) :
    (runScript lib (.text path) .null).carryOut w =
      (((run lib (unifyLineEnds (Charset.gbk.decodeLossy content))).take ⟨freshSession, w⟩).1.map
          fun _ => .bool true,
        ((run lib (unifyLineEnds (Charset.gbk.decodeLossy content))).take
          ⟨freshSession, w⟩).2.world) := by
  unfold runScript
  rw [Act.carryOut_bind, carryOut_pathExists hpath h]
  dsimp only
  rw [if_pos rfl, Act.carryOut_bind, AnsiFile.carryOut_readText hpath h]
  dsimp only
  rw [Act.carryOut_bind, Act.carryOut_pure]
  dsimp only
  rw [Act.carryOut_bind, carryOut_runFresh]
  rcases (run lib _).take ⟨freshSession, w⟩ with ⟨e | _, after⟩ <;> rfl

/-- The name of the file that a script is saved to: the extension is added unless the name ends in
it, case aside. -/
def savedName (name : String) : String :=
  if endsWith ".vbs".toList (lower name.toList) then name else name ++ ".vbs"

/-- Saving a script writes it with its head to the file of its name. -/
lemma carryOut_save (name code : String) (w : World) :
    (save (.text name) (.text code)).carryOut w =
      (AnsiFile.save (.text (savedName name)) (.text (header w.clock ++ code))).carryOut w := by
  have hname : fileName (.text name) = .ok (savedName name) := rfl
  unfold save
  rw [Act.carryOut_bind, hname, Act.carryOut_ofExcept]
  dsimp only
  rw [Act.carryOut_bind, Act.carryOut_get]

/-- A script that was saved behaves as the script itself does in a new session at that time: the
file is there under the name with the extension, what is read from it drives a new session to the
same end, four lines further on, and running the file does that to the world. -/
theorem runScript_saved {lib : Library} (hlib : lib.evaluator.Confined) (name code : String)
    (w after : World) (hcode : ∀ c ∈ code.toList, c ≠ '\r' ∧ inGbk c = true)
    (hsave : (save (.text name) (.text code)).carryOut w = (.ok (.bool true), after)) :
    ∃ text, (AnsiFile.readText (.text (savedName name))).carryOut after = (.ok text, after) ∧
      LaterBy 4 ((run lib code.toList).take ⟨freshSession, after⟩)
        ((run lib text).take ⟨freshSession, after⟩) ∧
      (runScript lib (.text (savedName name)) .null).carryOut after =
        (((run lib text).take ⟨freshSession, after⟩).1.map fun _ => .bool true,
          ((run lib text).take ⟨freshSession, after⟩).2.world) := by
  rw [carryOut_save] at hsave
  obtain ⟨r, modified, hpath, hlocate⟩ := AnsiFile.locate_of_write (AnsiFile.write_of_save hsave)
  rw [String.toList_append] at hlocate
  have hread := AnsiFile.carryOut_readText hpath hlocate
  have hrun := carryOut_runScript_file lib hpath hlocate
  rw [readBack_header w.clock hcode] at hread hrun
  exact ⟨_, hread, laterBy_savedHead hlib w.clock code.toList _, hrun⟩

/-- Whether an answer is yes. -/
def isYes : Except Fault Value → Bool
  | .ok (.bool b) => b
  | _ => false

lemma eq_of_isYes {r : Except Fault Value} (h : isYes r = true) : r = .ok (.bool true) := by
  unfold isYes at h
  split at h
  · rw [h]
  · cases h

/-- The world after a script of one line was saved in an empty folder. -/
def savedWorld : World :=
  ((save (.text "test") (.text "1-")).carryOut firstScene.world).2

lemma carryOut_save_test :
    (save (.text "test") (.text "1-")).carryOut firstScene.world =
      (.ok (.bool true), savedWorld) := by
  have hyes : isYes ((save (.text "test") (.text "1-")).carryOut firstScene.world).1 = true := by
    decide +kernel
  rw [← eq_of_isYes hyes]
  rfl

/-- A script can be saved under a name without the extension and be run from the file. -/
theorem runScript_saved_test :
    ∃ text, (AnsiFile.readText (.text "test.vbs")).carryOut savedWorld = (.ok text, savedWorld) ∧
      LaterBy 4 ((run (library .capital) "1-".toList).take ⟨freshSession, savedWorld⟩)
        ((run (library .capital) text).take ⟨freshSession, savedWorld⟩) ∧
      (runScript (library .capital) (.text "test.vbs") .null).carryOut savedWorld =
        (((run (library .capital) text).take ⟨freshSession, savedWorld⟩).1.map fun _ => .bool true,
          ((run (library .capital) text).take ⟨freshSession, savedWorld⟩).2.world) := by
  have hname : savedName "test" = "test.vbs" := by decide +kernel
  have hplain : ∀ c ∈ "1-".toList, c ≠ '\r' ∧ c.toNat < 0x80 := by simp
  have hsaved := runScript_saved (confined_library .capital) "test" "1-" firstScene.world savedWorld
    (fun c hc => ⟨(hplain c hc).1, inGbk_of_plain (hplain c hc).2⟩) carryOut_save_test
  rw [hname] at hsaved
  exact hsaved

end Script

end ScriptHost
