import ScriptHost.Proofs.FailedSave
import ScriptHost.Proofs.Members

/-!
# Writing where something is already

Files are written in several ways, and all of them can be told not to replace anything. The writers
that open a file make the folders on the way first and then open the file as one that must not be
there yet; those that copy look whether something is at the destination. Either way a path that
leads to a file or a folder is refused, and a tree without links is left as it was
(`disk_of_refused`). With links the folders that are made may not be those on the way
(`disk_of_refused_linked`).
-/

namespace ScriptHost

namespace Disk

/-- Something is found by a path that leads to something. -/
lemma locate_of_pathExists {d : Disk} {path : String} (h : d.pathExists path = true) :
    isPath path = true ∧ ∃ r n, d.locate path = .found r n := by
  unfold pathExists node? at h
  split at h
  · next hpath =>
    split at h
    · next r n hplace => exact ⟨hpath, r, n, hplace⟩
    · cases h
  · cases h

/-- It lies at the end of the route that the path spells, if there are no links. -/
lemma get?_routeOf_of_pathExists {d : Disk} (hd : d.top.LinkFree) {path : String}
    (h : d.pathExists path = true) : ∃ n, d.top.get? (d.routeOf path) = some n := by
  obtain ⟨-, r, n, hplace⟩ := locate_of_pathExists h
  have hr : r = d.routeOf path := by
    refine eq_routeOf_of_on hd ?_
    rw [hplace]
    exact .found r n
  exact ⟨n, hr ▸ get?_of_locate hplace⟩

end Disk

namespace Storage

variable {w : World} {path : String}

/-- On the way to something that is there, no folder is missing. -/
lemma keptOn_disk {d : Disk} (hd : d.top.LinkFree) (h : d.pathExists path = true) :
    KeptOn (fun w => w.disk = d) (d.routeOf path).dropLast := by
  rintro w parent name m rfl hon hm hfolder hfree
  obtain ⟨n, hthere⟩ := Disk.get?_routeOf_of_pathExists hd h
  obtain ⟨t, ht⟩ := hon.trans (List.dropLast_prefix _)
  rw [← ht, Node.get?_append, hfree] at hthere
  cases hthere

/-- So making the folders that it lies in changes nothing. -/
lemma disk_makeFolderOf (hw : w.disk.IsProper) (h : w.disk.pathExists path = true) :
    ((makeFolderOf path).carryOut w).2.disk = w.disk ∧
      ∀ e, ((makeFolderOf path).carryOut w).1 = .error e → e.isExit = false :=
  keeps_makeFolderOf hw (fun _ hsame => congrArg Disk.here hsame)
    (fun _ hsame => hsame ▸ hw.linkFree) (keptOn_disk hw.linkFree h) w rfl

/-- What is there is not opened as a file that must not be there. -/
lemma openForWriting_fresh_of_pathExists (h : w.disk.pathExists path = true) :
    ∃ e, (openForWriting .fresh path).carryOut w = (.error e, w) ∧ e.isExit = false := by
  obtain ⟨hpath, r, n, hplace⟩ := Disk.locate_of_pathExists h
  unfold openForWriting
  rw [carryOut_checkPath_bind, if_pos hpath]
  dsimp only
  rw [carryOut_disk_bind]
  cases hslash : path.endsWith "/" with
  | true =>
    -- A slash at the end asks for a folder, so nothing is opened wherever the path leads.
    rcases w.disk.locate (if true then bare path else path) with ⟨r, _ | _ | _⟩ | _ | e
    all_goals exact ⟨_, rfl, rfl⟩
  | false =>
    rw [if_neg (by simp), hplace]
    rcases n with _ | _ | _
    all_goals exact ⟨_, rfl, rfl⟩

/-- Neither is it if the folders on the way are made before, which changes nothing. -/
lemma openToSave_fresh_of_pathExists (hw : w.disk.IsProper) (h : w.disk.pathExists path = true) :
    ∃ e after, (openToSave .fresh path).carryOut w = (.error e, after) ∧ after.disk = w.disk ∧
      e.isExit = false := by
  have hfolders := disk_makeFolderOf hw h
  unfold openToSave
  rw [Act.carryOut_bind]
  revert hfolders
  rcases (makeFolderOf path).carryOut w with ⟨e | _, mid⟩ <;> rintro ⟨hdisk, hexit⟩
  · exact ⟨e, mid, rfl, hdisk, hexit e rfl⟩
  · obtain ⟨e, hopen, he⟩ := openForWriting_fresh_of_pathExists (w := mid)
      ((congrArg (fun d => d.pathExists path) hdisk).trans h)
    exact ⟨e, mid, hopen, hdisk, he⟩

end Storage

namespace FileSystem

open ScriptHost.Text

/-! ### The writers -/

/-- A way of writing to a path. -/
inductive Writing where
  | createTextFile (wide : Option Value)
  | saveToFile (content : Value) (encoding : String)
  | copyFile (source : String)
  | copyFolder (source : String)
  /-- The file at the source is asked to copy itself. -/
  | copyOf (source : String)

namespace Writing

/-- The object that writes. -/
def writer : Writing → Body
  | copyOf source => .file (.text source)
  | _ => .fileSystem

/-- The name of the method. -/
def method : Writing → String
  | createTextFile _ => "CreateTextFile"
  | saveToFile .. => "SaveToFile"
  | copyFile _ => "CopyFile"
  | copyFolder _ => "CopyFolder"
  | copyOf _ => "Copy"

/-- The arguments of the method. -/
def arguments (path : String) (replace : Value) : Writing → List Value
  | createTextFile wide => .text path :: replace :: wide.toList
  | saveToFile content encoding => [.text path, content, .text encoding, replace]
  | copyFile source => [.text source, .text path, replace]
  | copyFolder source => [.text source, .text path, replace]
  | copyOf _ => [.text path, replace]

/-- Writes to a path, by a new object. -/
def act (path : String) (replace : Value) (writing : Writing) : Act Value := do
  let writer ← Act.create writing.writer
  Member.callMethod writer writing.method (writing.arguments path replace) []

/-- How a writer says that it has failed. -/
def IsFailure : Writing → Except Fault Value → Prop
  | createTextFile _, answer =>
    answer = .error .alreadyExists ∨ ∃ message, answer = .error (.creationFailed message)
  | _, answer => answer = .ok (.bool false)

/-- What the method does. -/
def task (path : String) (replace : Value) : Writing → Act Value
  | createTextFile wide => FileSystem.createTextFile (.text path) replace (wide.getD (.bool false))
  | saveToFile content encoding =>
    FileSystem.saveToFile (.text path) content (.text encoding) replace
  | copyFile source => FileSystem.copyFile (.text source) (.text path) replace
  | copyFolder source => FileSystem.copyFolder (.text source) (.text path) replace
  | copyOf source => do
    if ← isInTheWay replace (.text path) then return .bool false
    attemptQuietly (copyFileTo (.text source) (.text path))

/-- The routine under the name of the method, with the values of its parameters. -/
lemma exists_routine (path : String) (replace : Value) (writing : Writing) (id : Nat) :
    ∃ r values, Member.method? id writing.writer writing.method = some r ∧
      r.signature.bind (writing.arguments path replace) [] = .ok values ∧
      r.run values = writing.task path replace := by
  cases writing with
  | createTextFile wide =>
    cases wide with
    | none => exact ⟨_, _, rfl, rfl, rfl⟩
    | some wide => exact ⟨_, _, rfl, rfl, rfl⟩
  | saveToFile content encoding => exact ⟨_, _, rfl, rfl, rfl⟩
  | copyFile source => exact ⟨_, _, rfl, rfl, rfl⟩
  | copyFolder source => exact ⟨_, _, rfl, rfl, rfl⟩
  | copyOf source => exact ⟨_, _, rfl, rfl, rfl⟩

/-- Writing is the task of the method in a world with one object more. -/
lemma carryOut_act (path : String) (replace : Value) (writing : Writing) (w : World) :
    (writing.act path replace).carryOut w =
      (writing.task path replace).carryOut (w.adding writing.writer) := by
  obtain ⟨r, values, hr, hvalues, hrun⟩ := writing.exists_routine path replace w.objects.size
  rw [← hrun]
  refine Member.carryOut_create_callMethod ?_ ?_ ?_ hr hvalues
  · cases writing <;> nofun
  · cases writing <;> rfl
  · cases writing <;> rfl

end Writing

/-! ### A path that leads somewhere -/

section Refused

variable {w : World} {path : String} {replace : Value}

lemma modeFor_eq_fresh (hreplace : replace.truthy = false) : modeFor replace = .fresh := by
  simp [modeFor, hreplace]

/-- A file that cannot be opened is not saved. -/
lemma carryOut_saving_of_error {opening : Act Route} {cs : Charset} {content : Value}
    {complaint : Fault → String} {e : Fault} {after : World}
    (h : opening.carryOut w = (.error e, after)) (he : e.isExit = false) :
    ∃ last, (saving opening cs content complaint).carryOut w = (.ok (.bool false), last) ∧
      last.disk = after.disk := by
  unfold saving
  rw [Act.carryOut_recover, Act.carryOut_bind, h]
  dsimp only
  rw [if_neg (by simp [he])]
  exact ⟨_, rfl, rfl⟩

variable (hpath : w.disk.pathExists path = true) (hreplace : replace.truthy = false)

include hpath hreplace

lemma createTextFile_refused (hw : w.disk.IsProper) (wide : Value) :
    ∃ e after, (createTextFile (.text path) replace wide).carryOut w = (.error e, after) ∧
      after.disk = w.disk ∧ (e = .alreadyExists ∨ ∃ message, e = .creationFailed message) := by
  obtain ⟨e, after, hopen, hdisk, he⟩ := Storage.openToSave_fresh_of_pathExists hw hpath
  have hcreate : createTextFile (.text path) replace wide =
      Act.recover (Storage.openToSave (modeFor replace) path >>= fun r =>
        Stream.create (.writer r (if wide.truthy then .utf8 else .gbk) false 0 [])
          (.text (if wide.truthy then Charset.utf8 else .gbk).name)) fun e =>
        throw (if Storage.isTaken e then .alreadyExists else .creationFailed e.message) := by
    have htext : Act.ofExcept (Storage.pathText (.text path)) = pure path := rfl
    unfold createTextFile Storage.openToSave modeFor
    simp only [htext, pure_bind, bind_assoc]
  rw [hcreate, modeFor_eq_fresh hreplace, Act.carryOut_recover, Act.carryOut_bind, hopen]
  dsimp only
  rw [if_neg (by simp [he]), Act.carryOut_throw]
  refine ⟨_, after, rfl, hdisk, ?_⟩
  split
  · exact .inl rfl
  · exact .inr ⟨_, rfl⟩

lemma saveToFile_refused (hw : w.disk.IsProper) (content : Value) (encoding : String) :
    ∃ after, (saveToFile (.text path) content (.text encoding) replace).carryOut w =
      (.ok (.bool false), after) ∧ after.disk = w.disk := by
  obtain ⟨e, after, hopen, hdisk, he⟩ := Storage.openToSave_fresh_of_pathExists hw hpath
  rw [saveToFile_eq_saving, modeFor_eq_fresh hreplace]
  obtain ⟨last, hlast, hsame⟩ := carryOut_saving_of_error hopen he
  exact ⟨last, hlast, hsame.trans hdisk⟩

/-- A copy that must not replace anything finds what is in its way. -/
lemma carryOut_isInTheWay : (isInTheWay replace (.text path)).carryOut w = (.ok true, w) := by
  have hexists : (Storage.pathExists (.text path)).carryOut w =
      (.ok (w.disk.pathExists path), w) := rfl
  rw [isInTheWay, hreplace, if_neg (by simp), hexists, hpath]

/-- So it is refused. -/
lemma copying_refused (copying : Act Value) :
    (do
      if ← isInTheWay replace (.text path) then return .bool false
      copying : Act Value).carryOut w = (.ok (.bool false), w) := by
  rw [Act.carryOut_bind, carryOut_isInTheWay hpath hreplace]
  rfl

/-- The same if it is looked first whether the source is there. -/
lemma copyingFrom_refused (source : String) (copying : Act Value) :
    (do
      if !(← Storage.pathExists (.text source)) then return .bool false
      if ← isInTheWay replace (.text path) then return .bool false
      copying : Act Value).carryOut w = (.ok (.bool false), w) := by
  have hexists : (Storage.pathExists (.text source)).carryOut w =
      (.ok (w.disk.pathExists source), w) := rfl
  rw [Act.carryOut_bind, hexists]
  dsimp only
  split
  · rfl
  · exact copying_refused hpath hreplace copying

/-- No way of writing to a path that leads somewhere replaces what is there. -/
lemma task_refused (hw : w.disk.IsProper) (writing : Writing) :
    writing.IsFailure ((writing.task path replace).carryOut w).1 ∧
      ((writing.task path replace).carryOut w).2.disk = w.disk := by
  cases writing with
  | createTextFile wide =>
    obtain ⟨e, after, hcreate, hdisk, he⟩ :=
      createTextFile_refused hpath hreplace hw (wide.getD (.bool false))
    rw [Writing.task, hcreate]
    refine ⟨?_, hdisk⟩
    rcases he with rfl | ⟨message, rfl⟩
    · exact .inl rfl
    · exact .inr ⟨message, rfl⟩
  | saveToFile content encoding =>
    obtain ⟨after, hsave, hdisk⟩ := saveToFile_refused hpath hreplace hw content encoding
    rw [Writing.task, hsave]
    exact ⟨rfl, hdisk⟩
  | copyFile source =>
    rw [Writing.task, copyFile, copyingFrom_refused hpath hreplace]
    exact ⟨rfl, rfl⟩
  | copyFolder source =>
    rw [Writing.task, copyFolder, copyingFrom_refused hpath hreplace]
    exact ⟨rfl, rfl⟩
  | copyOf source =>
    rw [Writing.task, copying_refused hpath hreplace]
    exact ⟨rfl, rfl⟩

end Refused

/-- Writing to a path that leads to a file or a folder, without leave to replace what is there,
fails and leaves all files and folders as they were, if there are no links. This holds for every way
of writing, and whatever is to be written. -/
theorem disk_of_refused (w : World) (hw : w.disk.IsProper) (path : String)
    (hpath : w.disk.pathExists path = true) (replace : Value) (hreplace : replace.truthy = false)
    (writing : Writing) :
    writing.IsFailure ((writing.act path replace).carryOut w).1 ∧
      ((writing.act path replace).carryOut w).2.disk = w.disk := by
  rw [Writing.carryOut_act]
  exact task_refused (w := w.adding writing.writer) hpath hreplace hw writing

/-- With leave to replace them, the three bytes were lost to this text. -/
theorem disk_of_refused_threeBytes :
    threeBytes.disk.IsProper ∧ threeBytes.disk.pathExists "a.txt" = true ∧
      (Value.bool false).truthy = false ∧
      (Writing.saveToFile (.text "丂") "GB2312").IsFailure (((Writing.saveToFile (.text "丂")
        "GB2312").act "a.txt" (.bool false)).carryOut threeBytes).1 ∧
      (((Writing.saveToFile (.text "丂") "GB2312").act "a.txt" (.bool false)).carryOut
        threeBytes).2.disk = threeBytes.disk :=
  have hpath : threeBytes.disk.pathExists "a.txt" = true := by decide +kernel
  ⟨isProper_threeBytes, hpath, rfl,
    disk_of_refused threeBytes isProper_threeBytes "a.txt" hpath (.bool false) rfl _⟩

/-- A world with a link in the current folder to a folder that lies elsewhere. -/
def linked : World :=
  let other : Node := .folder [("dir", .folder []), ("sub", .folder [("x", .file [111] 0)])]
  { Script.firstScene.world with
    disk := ⟨.folder [("home", .folder [("link", .link ["other", "dir"])]), ("other", other)],
      ["home"]⟩ }

/-- Two dots after a link lead back from where it leads to, and not to where it lies. So the path
leads to a file of the other folder, which is refused, but a folder is made in the current one
before. -/
theorem disk_of_refused_linked :
    linked.disk.pathExists "link/../sub/x" = true ∧ linked.disk.pathExists "sub" = false ∧
      (((Writing.saveToFile (.text "new") "ANSI").act "link/../sub/x" (.bool false)).carryOut
        linked).1 = .ok (.bool false) ∧
      (((Writing.saveToFile (.text "new") "ANSI").act "link/../sub/x" (.bool false)).carryOut
        linked).2.disk.pathExists "sub" = true := by
  refine ⟨by decide +kernel, by decide +kernel, ?_, by decide +kernel⟩
  with_unfolding_all rfl

end FileSystem

end ScriptHost
