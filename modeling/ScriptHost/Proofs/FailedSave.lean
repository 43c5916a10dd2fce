import ScriptHost.Object.FileSystem
import ScriptHost.Proofs.MakingFolders
import ScriptHost.Proofs.SavedScript

/-!
# Saving that fails

A text is saved in three stages: the folders on the way are made, the file is opened, which empties
it, and the text is written. Whether the text can be written at all is found out in the last one. So
there are two ways to fail. If the file cannot be opened, then it is as it was. If it can, then the
text cannot be written, and the file is left empty: `bytes?_of_failed_save`.

That making folders changes nothing about the file is the part that looks at the tree. A folder is
made only on the route that the path spells, above its end. So before and after there is nothing at
the end of that route, and a path leads nowhere else (`Storage.keptOn_bytes?`).
-/

namespace ScriptHost

open ScriptHost.Text

namespace Disk

/-- The bytes of the file that a path leads to. -/
def bytes? (d : Disk) (path : String) : Option (List UInt8) :=
  match d.node? path with
  | some (.file content _) => some content
  | _ => none

lemma bytes?_of_locate {d : Disk} {path : String} {r : Route} {content : List UInt8}
    {modified : Int} (hpath : isPath path = true)
    (h : d.locate path = .found r (.file content modified)) : d.bytes? path = some content := by
  simp [bytes?, node?, hpath, h]

/-- A path leads to no file if there is nothing at the end of the route that it spells. -/
lemma bytes?_eq_none {d : Disk} (hd : d.top.LinkFree) {path : String}
    (h : d.top.get? (d.routeOf path) = none) : d.bytes? path = none := by
  cases hplace : d.locate path with
  | found r n =>
    have hr : r = d.routeOf path := by
      refine eq_routeOf_of_on hd ?_
      rw [hplace]
      exact .found r n
    have hthere := get?_of_locate hplace
    rw [hr, h] at hthere
    cases hthere
  | vacant parent name slash => simp [bytes?, node?, hplace]
  | failed e => simp [bytes?, node?, hplace]

/-- The route that a path spells depends on the current folder only. -/
lemma routeOf_congr {d d' : Disk} (h : d'.here = d.here) (path : String) :
    d'.routeOf path = d.routeOf path := by
  unfold routeOf startOf
  rw [h]

end Disk

namespace Storage

/-! ### Making folders -/

/-- Making a folder above the end of the route that a path spells changes nothing about the file
that the path leads to. There is none, before and after. -/
lemma keptOn_bytes? (d : Disk) (path : String) (content : Option (List UInt8)) :
    KeptOn (fun w => w.disk.here = d.here ∧ w.disk.top.LinkFree ∧ w.disk.bytes? path = content)
      (d.routeOf path).dropLast := by
  rintro w parent name m ⟨hw, hlinks, rfl⟩ hon hm hfolder hfree
  obtain ⟨s, hs, hbelow⟩ : ∃ s, s ≠ [] ∧ d.routeOf path = (parent ++ [name]) ++ s := by
    obtain ⟨t, ht⟩ := hon
    have hne : d.routeOf path ≠ [] := by
      intro hnil
      rw [hnil] at ht
      simp at ht
    refine ⟨t ++ [(d.routeOf path).getLast hne], by simp, ?_⟩
    rw [← List.append_assoc, ht, List.dropLast_concat_getLast]
  have hlinks' : (w.disk.put (parent ++ [name]) (some (.folder []))).top.LinkFree :=
    hlinks.put (fun x hx => Option.some.inj hx ▸ .folder (by simp)) _
  have hbefore : w.disk.bytes? path = none := by
    refine Disk.bytes?_eq_none hlinks ?_
    rw [Disk.routeOf_congr hw, hbelow, Node.get?_append, hfree]
    rfl
  have hafter : (w.disk.put (parent ++ [name]) (some (.folder []))).bytes? path = none := by
    have hsame : (w.disk.put (parent ++ [name]) (some (.folder []))).routeOf path =
        d.routeOf path := Disk.routeOf_congr hw path
    have hput := Node.get?_put_snoc hm hfolder name (.folder [])
    obtain ⟨first, rest, rfl⟩ := List.exists_cons_of_ne_nil hs
    refine Disk.bytes?_eq_none hlinks' ?_
    rw [hsame, hbelow, Node.get?_append, Disk.put, hput]
    rfl
  exact ⟨hw, hlinks', hafter.trans hbefore.symm⟩

/-- Making the folders that a file will lie in changes nothing about the file. -/
lemma bytes?_makeFolderOf {w : World} (hw : w.disk.IsProper) (path : String) :
    ((makeFolderOf path).carryOut w).2.disk.bytes? path = w.disk.bytes? path :=
  (keeps_makeFolderOf hw (fun _ h => h.1) (fun _ h => h.2.1) (keptOn_bytes? w.disk path _) w
    ⟨rfl, hw.linkFree, rfl⟩).1.2.2

/-! ### Opening a file to save a text in it -/

/-- Opening a file that may be there or not, after the folders on the way to it have been made. -/
def openToSave (mode : WriteMode) (path : String) : Act Route := do
  makeFolderOf path
  openForWriting mode path

/-- A file that cannot be opened is left as it is. -/
lemma eq_of_openForWriting_error {mode : WriteMode} {path : String} {w w' : World} {e : Fault}
    (h : (openForWriting mode path).carryOut w = (.error e, w')) : w' = w := by
  unfold openForWriting at h
  rw [carryOut_checkPath_bind] at h
  split at h
  · dsimp only at h
    rw [carryOut_disk_bind] at h
    have hsame (f : Fault) (h : (throw f : Act Route).carryOut w = (.error e, w')) : w' = w :=
      (Prod.mk.inj h).2.symm
    have hopened (r : Route) (h : (present >>= fun now =>
        putNode r (some (.file [] now)) >>= fun _ => pure r : Act Route).carryOut w =
        (.error e, w')) : w' = w := by
      cases congrArg Prod.fst h
    split at h
    · split at h
      · exact hsame _ h
      · cases mode with
        | fresh => exact hsame _ h
        | truncate => exact hopened _ h
        | append => cases congrArg Prod.fst h
    · split at h <;> exact hsame _ h
    · split at h
      · exact hsame _ h
      · exact hopened _ h
    · exact hsame _ h
  · exact (Prod.mk.inj h).2.symm

/-- Opening a file that must not be there does what opening does. -/
lemma openForWriting_truncate_of_fresh {path : String} {w w' : World} {r : Route}
    (h : (openForWriting .fresh path).carryOut w = (.ok r, w')) :
    (openForWriting .truncate path).carryOut w = (.ok r, w') := by
  unfold openForWriting at h ⊢
  rw [carryOut_checkPath_bind] at h ⊢
  split at h
  · next hpath =>
    rw [if_pos hpath]
    dsimp only at h ⊢
    rw [carryOut_disk_bind] at h ⊢
    cases hplace : w.disk.locate (if path.endsWith "/" then bare path else path) with
    | found r n =>
      rw [hplace] at h
      cases n <;> (dsimp only at h; split at h <;> cases congrArg Prod.fst h)
    | vacant parent name slash =>
      rw [hplace] at h
      exact h
    | failed e =>
      rw [hplace] at h
      exact h
  · cases h

/-- A file that has been opened is empty. -/
lemma bytes?_of_openForWriting {mode : WriteMode} (hmode : mode ≠ .append) {path : String}
    {w w' : World} {r : Route} (h : (openForWriting mode path).carryOut w = (.ok r, w')) :
    w'.disk.bytes? path = some [] := by
  have htruncate : (openForWriting .truncate path).carryOut w = (.ok r, w') := by
    cases mode with
    | truncate => exact h
    | fresh => exact openForWriting_truncate_of_fresh h
    | append => exact absurd rfl hmode
  obtain ⟨hpath, hslash, hon, hfile, rfl⟩ := of_openForWriting htruncate
  exact Disk.bytes?_of_locate hpath (Disk.locate_put [] _ hslash hon hfile)

/-- What opening a file does to its bytes: they are lost if it succeeds. -/
lemma bytes?_openForWriting {mode : WriteMode} (hmode : mode ≠ .append) (path : String)
    (w : World) : ((openForWriting mode path).carryOut w).2.disk.bytes? path =
      if ((openForWriting mode path).carryOut w).1.isOk then some [] else w.disk.bytes? path := by
  rcases hopen : (openForWriting mode path).carryOut w with ⟨e | r, after⟩
  · rw [eq_of_openForWriting_error hopen]
    rfl
  · exact bytes?_of_openForWriting hmode hopen

/-- The same if the folders on the way to the file are made before. -/
lemma bytes?_openToSave {mode : WriteMode} (hmode : mode ≠ .append) (path : String)
    {w : World} (hw : w.disk.IsProper) : ((openToSave mode path).carryOut w).2.disk.bytes? path =
      if ((openToSave mode path).carryOut w).1.isOk then some [] else w.disk.bytes? path := by
  have hfolders := bytes?_makeFolderOf hw path
  unfold openToSave
  rw [Act.carryOut_bind]
  revert hfolders
  rcases (makeFolderOf path).carryOut w with ⟨e | _, mid⟩ <;> intro hfolders
  · exact hfolders
  · rw [← hfolders]
    exact bytes?_openForWriting hmode path mid

/-- A text that cannot be written in a character set is refused before anything is written. -/
lemma carryOut_writeText_error {cs : Charset} {text : List Char} {fault : EncodeFault}
    (h : cs.encode text = .error fault) (r : Route) (w : World) :
    (writeText cs r text).carryOut w = (.error (.encoding fault), w) := by
  unfold writeText
  rw [h]
  rfl

lemma carryOut_writeText_ok {cs : Charset} {text : List Char} {bytes : List UInt8}
    (h : cs.encode text = .ok bytes) (r : Route) (w : World) :
    ((writeText cs r text).carryOut w).1 = .ok () := by
  unfold writeText setContent
  rw [h]
  dsimp only
  rw [carryOut_disk_bind]
  split <;> rfl

end Storage

namespace FileSystem

/-! ### Saving a text -/

/-- A text that can be written in a character set; other values cannot be written. -/
def Writable (cs : Charset) (content : Value) : Prop :=
  ∃ text bytes, content = .text text ∧ cs.encode text.toList = .ok bytes

/-- Opens a file, puts a text into it and answers whether that succeeded; if not, prints why. -/
def saving (opening : Act Route) (cs : Charset) (content : Value) (complaint : Fault → String) :
    Act Value :=
  Act.recover (do
    let r ← opening
    putText cs r content
    return .bool true) fun e => do
    Act.print (complaint e)
    return .bool false

/-- A content is found to be unwritable before anything is written. -/
lemma of_putText_error {cs : Charset} {r : Route} {content : Value} {w w' : World} {e : Fault}
    (h : (putText cs r content).carryOut w = (.error e, w')) :
    w' = w ∧ ¬ Writable cs content := by
  have hcases : (∃ text, content = .text text) ∨
      ((putText cs r content).carryOut w = (.error (.fileText content.argumentName), w) ∧
        ∀ text, content ≠ .text text) := by
    cases content with
    | text text => exact .inl ⟨text, rfl⟩
    | _ => exact .inr ⟨rfl, fun text => by simp⟩
  rcases hcases with ⟨text, rfl⟩ | ⟨hput, hother⟩
  · rw [show putText cs r (.text text) = Storage.writeText cs r text.toList from rfl] at h
    cases hencode : cs.encode text.toList with
    | ok bytes =>
      have hok := Storage.carryOut_writeText_ok hencode r w
      rw [h] at hok
      cases hok
    | error fault =>
      rw [Storage.carryOut_writeText_error hencode] at h
      refine ⟨(Prod.mk.inj h).2.symm, ?_⟩
      rintro ⟨text', bytes, htext, hbytes⟩
      cases htext
      rw [hencode] at hbytes
      cases hbytes
  · rw [hput] at h
    refine ⟨(Prod.mk.inj h).2.symm, ?_⟩
    rintro ⟨text, _, htext, _⟩
    exact hother text htext

/-- If saving fails, then either the file could not be opened or the content could not be written,
and nothing happened to the file after it was opened. -/
lemma of_saving_false {opening : Act Route} {cs : Charset} {content : Value}
    {complaint : Fault → String} {w after : World}
    (h : (saving opening cs content complaint).carryOut w = (.ok (.bool false), after)) :
    after.disk = (opening.carryOut w).2.disk ∧
      ((opening.carryOut w).1.isOk = true → ¬ Writable cs content) := by
  -- What is printed about a failure does not touch the files.
  have hprinted {e : Fault} {mid : World} (h : (if e.isExit then (.error e, mid) else
      (do Act.print (complaint e); return .bool false : Act Value).carryOut mid) =
      (.ok (.bool false), after)) : after.disk = mid.disk := by
    split at h
    · cases h
    · rw [← (Prod.mk.inj h).2]
  unfold saving at h
  rw [Act.carryOut_recover, Act.carryOut_bind] at h
  rcases hopen : opening.carryOut w with ⟨e | r, mid⟩
  · rw [hopen] at h
    exact ⟨hprinted h, fun hok => by cases hok⟩
  · rw [hopen] at h
    dsimp only at h
    rw [Act.carryOut_bind] at h
    rcases hput : (putText cs r content).carryOut mid with ⟨e | _, last⟩
    · rw [hput] at h
      obtain ⟨rfl, hcontent⟩ := of_putText_error hput
      exact ⟨hprinted h, fun _ => hcontent⟩
    · rw [hput] at h
      cases congrArg Prod.fst h

/-- A text that cannot be written is not saved in a file that can be opened. -/
lemma saving_eq_false {opening : Act Route} {cs : Charset} {text : String} {fault : EncodeFault}
    (complaint : Fault → String) {w : World} (hopen : (opening.carryOut w).1.isOk = true)
    (hencode : cs.encode text.toList = .error fault) :
    ((saving opening cs (.text text) complaint).carryOut w).1 = .ok (.bool false) := by
  unfold saving
  rw [Act.carryOut_recover, Act.carryOut_bind]
  revert hopen
  rcases opening.carryOut w with ⟨e | r, mid⟩ <;> intro hopen
  · cases hopen
  · dsimp only
    have hput : (putText cs r (.text text)).carryOut mid = (.error (.encoding fault), mid) :=
      Storage.carryOut_writeText_error hencode r mid
    rw [Act.carryOut_bind, hput]
    rfl

/-- What has become of the file at a path when saving a content there has failed. -/
structure FailedAt (opening : Act Route) (cs : Charset) (content : Value) (path : String)
    (w after : World) : Prop where
  /-- The file is as it was exactly if it could not be opened or had nothing to lose. -/
  kept_iff : after.disk.bytes? path = w.disk.bytes? path ↔
    (opening.carryOut w).1.isOk = false ∨ w.disk.bytes? path = some []
  /-- A file that could be opened is left empty. -/
  emptied : (opening.carryOut w).1.isOk = true → after.disk.bytes? path = some []
  /-- Only a content that cannot be written is in the way after that. -/
  kept_of_writable : Writable cs content → after.disk.bytes? path = w.disk.bytes? path

lemma failedAt_of_saving {opening : Act Route} {cs : Charset} {content : Value} {path : String}
    {complaint : Fault → String} {w after : World}
    (hbytes : (opening.carryOut w).2.disk.bytes? path =
      if (opening.carryOut w).1.isOk then some [] else w.disk.bytes? path)
    (h : (saving opening cs content complaint).carryOut w = (.ok (.bool false), after)) :
    FailedAt opening cs content path w after := by
  obtain ⟨hdisk, hcontent⟩ := of_saving_false h
  rw [← hdisk] at hbytes
  cases hok : (opening.carryOut w).1.isOk with
  | true =>
    rw [hok, if_pos rfl] at hbytes
    refine ⟨?_, fun _ => hbytes, fun hwritable => absurd hwritable (hcontent hok)⟩
    rw [hbytes, hok]
    simp [eq_comm]
  | false =>
    rw [hok, if_neg (by simp)] at hbytes
    exact ⟨⟨fun _ => .inl hok, fun _ => hbytes⟩, fun hopen => (by rw [hok] at hopen; cases hopen),
      fun _ => hbytes⟩

/-- How a file is opened to save a text in it. -/
def modeFor (replace : Value) : Storage.WriteMode :=
  if replace.truthy then .truncate else .fresh

lemma modeFor_ne_append (replace : Value) : modeFor replace ≠ .append := by
  unfold modeFor
  split <;> simp

lemma saveToFile_eq_saving (path encoding : String) (content replace : Value) :
    saveToFile (.text path) content (.text encoding) replace =
      saving (Storage.openToSave (modeFor replace) path) (charsetNamed encoding.toList) content
        fun e => if Storage.isTaken e then "文件已存在" else "保存失败: " ++ e.message := by
  have hcomplain (e : Fault) : (if Storage.isTaken e then do
        Act.print "文件已存在"
        return .bool false
      else do
        Act.print ("保存失败: " ++ e.message)
        return .bool false : Act Value) = do
      Act.print (if Storage.isTaken e then "文件已存在" else "保存失败: " ++ e.message)
      return .bool false := by
    split <;> rfl
  have hname : capitalizable (.text encoding) = pure encoding.toList := rfl
  have hpath : Act.ofExcept (Storage.pathText (.text path)) = pure path := rfl
  unfold saveToFile saving Storage.openToSave modeFor
  simp only [hname, hpath, pure_bind, bind_assoc, hcomplain]

/-- What has become of a file in which the file system object could not save a content. -/
lemma failedAt_of_saveToFile {w after : World} (hw : w.disk.IsProper) {path encoding : String}
    {content replace : Value}
    (h : (saveToFile (.text path) content (.text encoding) replace).carryOut w =
      (.ok (.bool false), after)) :
    FailedAt (Storage.openToSave (modeFor replace) path) (charsetNamed encoding.toList) content
      path w after := by
  rw [saveToFile_eq_saving] at h
  exact failedAt_of_saving (Storage.bytes?_openToSave (modeFor_ne_append replace) path hw) h

lemma createFile_eq_saving (name : String) (content : Value) {encoding : String}
    (h : String.ofList (upper encoding.toList) ≠ "ANSI") :
    Script.createFile (.text name) content (.text encoding) =
      saving (Storage.openForWriting .truncate (Script.savedName name))
        (Script.charsetNamed (String.ofList (upper encoding.toList))) content
        fun e => "创建文件失败: " ++ e.message := by
  have hencoding : ¬ (String.ofList (upper encoding.toList) == "ANSI") = true := by simpa using h
  have hwrite (name : String) (cs : Charset) : Script.writeFile name cs content =
      Storage.openForWriting .truncate name >>= fun r => putText cs r content := by
    cases content <;> rfl
  have hname : Act.ofExcept (Script.fileName (.text name)) = pure (Script.savedName name) := rfl
  unfold Script.createFile saving
  simp only [hname, hwrite, pure_bind, bind_assoc, if_neg hencoding]

/-- A text that was not saved leaves the file as it was if the file could not be opened, or if it
was empty already, and only then; a file that could be opened is left empty. So nothing is lost
with a text that can be written. This holds for texts saved by the file system object, which makes
the folders on the way first, and for scripts that are created in an encoding of their own. -/
theorem bytes?_of_failed_save (w after : World) (hw : w.disk.IsProper) (name encoding : String)
    (content replace : Value) :
    ((saveToFile (.text name) content (.text encoding) replace).carryOut w =
        (.ok (.bool false), after) →
      FailedAt (Storage.openToSave (modeFor replace) name) (charsetNamed encoding.toList) content
        name w after) ∧
    (String.ofList (upper encoding.toList) ≠ "ANSI" →
      (Script.createFile (.text name) content (.text encoding)).carryOut w =
        (.ok (.bool false), after) →
      FailedAt (Storage.openForWriting .truncate (Script.savedName name))
        (Script.charsetNamed (String.ofList (upper encoding.toList))) content
        (Script.savedName name) w after) := by
  refine ⟨failedAt_of_saveToFile hw, fun hencoding h => ?_⟩
  rw [createFile_eq_saving name content hencoding] at h
  exact failedAt_of_saving (Storage.bytes?_openForWriting (by simp) _ w) h

/-! ### A text that is lost -/

set_option maxRecDepth 8000 in
/-- Of the first three ideographs of the main block two are written out in the table. -/
lemma filter_basicLines :
    basicLines.flatten.filter (fun c => 0x4e00 ≤ c.toNat && c.toNat ≤ 0x4e02) = ['丁', '一'] := by
  unfold basicLines basicRows
  -- Reading the rows as lists of characters first saves `decide` the decoding of them.
  repeat rw [List.map_cons, String.toList_ofList]
  decide +kernel

lemma any_basicLines_iff {c : Char} (h : (0x4e00 ≤ c.toNat && c.toNat ≤ 0x4e02) = true) :
    basicLines.any (·.contains c) = true ↔ c ∈ ['丁', '一'] := by
  rw [← filter_basicLines, List.mem_filter, and_iff_left h]
  simp

lemma exists_furtherIdeographs : ∃ rest, furtherIdeographs = '丂' :: rest := by
  have hone := (any_basicLines_iff (c := '一') (by decide)).2 (by decide)
  have htwo := (any_basicLines_iff (c := '丁') (by decide)).2 (by decide)
  have hthree := mt (any_basicLines_iff (c := '丂') (by decide)).1 (by decide)
  have hblock : (List.range' 0x4e00 20902).map Char.ofNat =
      '一' :: '丁' :: '丂' :: (List.range' 0x4e03 20899).map Char.ofNat := rfl
  rw [furtherIdeographs, hblock, List.filter_cons_of_neg (by rw [hone]; decide),
    List.filter_cons_of_neg (by rw [htwo]; decide), List.filter_cons_of_pos (by simpa using hthree),
      List.cons_append]
  exact ⟨_, rfl⟩

/-- The first character of the table is in GBK and not in GB2312. -/
lemma encode_gb2312_first : ∃ fault, Charset.gb2312.encode ['丂'] = .error fault := by
  obtain ⟨rest, hrest⟩ := exists_furtherIdeographs
  have hpair : gbkPair? '丂' = some (0x81, 0x40) := by
    have hline : (gbkLine 0).take gbkPlaces = '丂' :: rest.take 189 := by
      rw [gbkLine, if_pos (by decide), hrest, List.take_take]
      rfl
    have hpage : ∃ lines, gbkPage = (('丂' :: rest.take 189).toArray :: lines).toArray := by
      rw [gbkPage, List.range_succ_eq_map, List.map_cons, hline]
      exact ⟨_, rfl⟩
    obtain ⟨lines, hpage⟩ := hpage
    have hrow : (gbkPage.findIdx? fun row => row.contains '丂') = some 0 := by
      rw [hpage, List.findIdx?_toArray, List.findIdx?_cons]
      simp
    have hplace : ((gbkPage.getD 0 #[]).findIdx? fun c => c == '丂') = some 0 := by
      rw [hpage]
      simp [List.findIdx?_cons]
    exact gbkPair?_of_findIdx? (by decide) hrow hplace
  have hnone : Charset.gb2312.charBytes? '丂' = none := by
    have hbasic : gb2312Pair? '丂' = none := by
      unfold gb2312Pair?
      rw [hpair]
      rfl
    have hplain : ¬ '丂'.toNat < 0x80 := by decide
    rw [Charset.charBytes?, Charset.pairBytes, if_neg hplain, hbasic]
    rfl
  refine ⟨⟨.gb2312, 0, '丂'⟩, ?_⟩
  rw [Charset.encode, Charset.encodeFrom, hnone]

/-- A world with a file of three bytes in the current folder. -/
def threeBytes : World :=
  { Script.firstScene.world with
    disk := ⟨.folder [("home", .folder [("a.txt", .file [111, 108, 100] 0)])], ["home"]⟩ }

/-- The attempt to put a character that GB2312 lacks in the place of the three bytes. -/
def replacing : Except Fault Value × World :=
  (saveToFile (.text "a.txt") (.text "丂") (.text "GB2312") (.bool true)).carryOut threeBytes

lemma isProper_threeBytes : threeBytes.disk.IsProper := by
  have hhome : (Node.folder [("a.txt", .file [111, 108, 100] 0)]).LinkFree :=
    .folder (by simpa using Node.LinkFree.file [111, 108, 100] 0)
  refine ⟨.folder (by simpa using hhome), fun name hname => ?_⟩
  obtain rfl : name = "home" := List.mem_singleton.1 hname
  exact ⟨by simp, by simp, by simp, by simp⟩

lemma isOk_openToSave_threeBytes :
    ((Storage.openToSave .truncate "a.txt").carryOut threeBytes).1.isOk = true := by
  decide +kernel

/-- An attempt with a known answer. It is a variable here, since the attempt above would be
evaluated and the whole code table searched. -/
lemma eq_of_answer {attempt : Except Fault Value × World} {answer : Value}
    (h : attempt.1 = .ok answer) : attempt = (.ok answer, attempt.2) :=
  Prod.ext h rfl

lemma replacing_eq : replacing = (.ok (.bool false), replacing.2) := by
  obtain ⟨fault, hfault⟩ := encode_gb2312_first
  have hcharset : charsetNamed "GB2312".toList = .gb2312 := by decide
  have hanswer : replacing.1 = .ok (.bool false) := by
    unfold replacing
    rw [saveToFile_eq_saving, hcharset]
    exact saving_eq_false _ isOk_openToSave_threeBytes (by simpa using hfault)
  exact eq_of_answer hanswer

theorem bytes?_of_failed_save_threeBytes :
    threeBytes.disk.IsProper ∧ replacing = (.ok (.bool false), replacing.2) ∧
      FailedAt (Storage.openToSave (modeFor (.bool true)) "a.txt") (charsetNamed "GB2312".toList)
        (.text "丂") "a.txt" threeBytes replacing.2 :=
  ⟨isProper_threeBytes, replacing_eq,
    (bytes?_of_failed_save threeBytes replacing.2 isProper_threeBytes "a.txt" "GB2312" (.text "丂")
      (.bool true)).1 replacing_eq⟩

/-- Saving a text can fail and take the former bytes of the file with it. -/
theorem failed_save_loses_bytes :
    replacing.1 = .ok (.bool false) ∧ threeBytes.disk.bytes? "a.txt" = some [111, 108, 100] ∧
      replacing.2.disk.bytes? "a.txt" = some [] := by
  have hlost := failedAt_of_saveToFile isProper_threeBytes replacing_eq
  refine ⟨congrArg Prod.fst replacing_eq, by decide +kernel, ?_⟩
  exact hlost.emptied isOk_openToSave_threeBytes

end FileSystem

end ScriptHost
