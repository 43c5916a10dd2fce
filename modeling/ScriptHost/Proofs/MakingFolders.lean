import ScriptHost.Proofs.PathRoutes

/-!
# Making the folders on the way to a file

Before a file is written, the folders that it will lie in are made as far as they are missing. All
that this can do to a tree without links is to put an empty folder under a free name on the route to
the file, above its end. So a property of the world that this does not touch is kept by all of it
(`Storage.keeps_makeFolderOf`).
-/

namespace ScriptHost

namespace Act

variable {α β : Type} {P : World → Prop}

/-- An act that keeps a property of the world, also if it fails, and does not leave the script. -/
def Keeps (P : World → Prop) (a : Act α) : Prop :=
  ∀ w, P w → P (a.carryOut w).2 ∧ ∀ e, (a.carryOut w).1 = .error e → e.isExit = false

namespace Keeps

lemma pure (x : α) : Keeps P (Pure.pure x : Act α) :=
  fun _ hw => ⟨hw, nofun⟩

lemma throw {e : Fault} (he : e.isExit = false) : Keeps P (MonadExcept.throw e : Act α) := by
  refine fun w hw => ⟨hw, fun e' he' => ?_⟩
  rw [← Except.error.inj he']
  exact he

lemma bind {a : Act α} {f : α → Act β} (ha : Keeps P a) (hf : ∀ x, Keeps P (f x)) :
    Keeps P (a >>= f) := by
  intro w hw
  have hmid := ha w hw
  revert hmid
  rw [carryOut_bind]
  rcases a.carryOut w with ⟨e | x, mid⟩ <;> intro hmid
  · exact ⟨hmid.1, fun e' he' => hmid.2 e' (congrArg _ (Except.error.inj he'))⟩
  · exact hf x mid hmid.1

lemma tryCatch {a : Act α} {handler : Fault → Act α} (ha : Keeps P a)
    (hhandler : ∀ e, e.isExit = false → Keeps P (handler e)) :
    Keeps P (MonadExcept.tryCatch a handler : Act α) := by
  intro w hw
  have hmid := ha w hw
  revert hmid
  rw [carryOut_tryCatch]
  rcases a.carryOut w with ⟨e | x, mid⟩ <;> intro hmid
  · exact hhandler e (hmid.2 e rfl) mid hmid.1
  · exact ⟨hmid.1, nofun⟩

end Keeps

end Act

namespace Storage

open Act (Keeps)

variable {P : World → Prop} {route : Route}

lemma keeps_disk : Keeps P disk :=
  fun _ hw => ⟨hw, nofun⟩

/-- A property that is kept when a folder is made on a route: under a free name in a folder. -/
def KeptOn (P : World → Prop) (route : Route) : Prop :=
  ∀ w parent name m, P w → parent ++ [name] <+: route → w.disk.top.get? parent = some m →
    m.isFolder = true → w.disk.top.get? (parent ++ [name]) = none →
    P { w with disk := w.disk.put (parent ++ [name]) (some (.folder [])) }

variable (hroute : ∀ name ∈ route, Disk.IsEntryName name)
  (hlinks : ∀ w, P w → w.disk.top.LinkFree) (h : KeptOn P route)

include hroute hlinks h

/-- Making one folder on a route. -/
lemma keeps_makeFolder {folder : String} (hslash : ∃ rest, folder.toList = '/' :: rest)
    (hnames : Disk.names folder <+: route) : Keeps P (makeFolder folder) := by
  intro w hw
  have hthrow (e : Fault) (he : e.isExit = false) : Keeps P (throw e : Act Unit) := .throw he
  unfold makeFolder
  rw [carryOut_checkPath_bind, carryOut_disk_bind]
  split
  · cases hplace : w.disk.locate (bare folder) with
    | found r n => exact hthrow _ rfl w hw
    | failed e => exact hthrow _ rfl w hw
    | vacant parent name slash =>
      have hmade : parent ++ [name] = Disk.names folder := by
        rw [← routeOf_bare (d := w.disk) hslash fun n hn => hroute n (hnames.subset hn)]
        refine Disk.eq_routeOf_of_on (hlinks w hw) ?_
        rw [hplace]
        exact .vacant _ _ _
      obtain ⟨m, hm, hfolder, hfree⟩ := Disk.exists_folder_of_locate hplace
      exact ⟨h w parent name m hw (hmade ▸ hnames) hm hfolder hfree, nofun⟩
  · exact hthrow _ rfl w hw

/-- Making a folder on a route and the folders it lies in. -/
lemma keeps_makeFoldersFrom (okIfThere : Bool) (fuel : Nat) {folder : String}
    (hslash : ∃ rest, folder.toList = '/' :: rest) (hnames : Disk.names folder <+: route) :
    Keeps P (makeFoldersFrom okIfThere fuel folder) := by
  induction fuel generalizing folder with
  | zero => exact keeps_makeFolder hroute hlinks h hslash hnames
  | succ fuel ih =>
    have hthis : Keeps P (MonadExcept.tryCatch (makeFolder folder) fun e => do
        if isOs e && okIfThere && (← disk).isFolder folder then pure () else throw e) := by
      refine (keeps_makeFolder hroute hlinks h hslash hnames).tryCatch fun e he => ?_
      refine keeps_disk.bind fun there => ?_
      split
      · exact .pure ()
      · exact .throw he
    have hparents {head : String} (hslash : ∃ rest, head.toList = '/' :: rest)
        (hnames : Disk.names head <+: route) :
        Keeps P (MonadExcept.tryCatch (makeFoldersFrom okIfThere fuel head) fun e =>
          if isTaken e then pure () else throw e) := by
      refine (ih hslash hnames).tryCatch fun e he => ?_
      split
      · exact .pure ()
      · exact .throw he
    -- The folder part is taken twice if the folder is given with a slash at its end.
    obtain ⟨hslash₁, hnames₁⟩ := Disk.of_headTail hslash
    obtain ⟨hslash₂, hnames₂⟩ := Disk.of_headTail hslash₁
    unfold makeFoldersFrom
    split
    next head₁ tail₁ hfirst =>
    rw [hfirst] at hslash₁ hnames₁ hslash₂ hnames₂
    split
    next head tail hsecond =>
    have hhead : (∃ rest, head.toList = '/' :: rest) ∧ Disk.names head <+: route := by
      split at hsecond
      · rw [hsecond] at hslash₂ hnames₂
        exact ⟨hslash₂, hnames₂.trans (hnames₁.trans hnames)⟩
      · cases hsecond
        exact ⟨hslash₁, hnames₁.trans hnames⟩
    refine keeps_disk.bind fun there => ?_
    have hrest : Keeps P (if (!head.isEmpty && !tail.isEmpty && !there.pathExists head &&
        tail == ".") then pure () else MonadExcept.tryCatch (makeFolder folder) fun e => do
          if isOs e && okIfThere && (← disk).isFolder folder then pure () else throw e) := by
      split
      · exact .pure ()
      · exact hthis
    dsimp only
    split
    · exact (hparents hhead.1 hhead.2).bind fun _ => hrest
    · exact hrest

omit hroute hlinks h

/-- Making the folders that a file will lie in. -/
theorem keeps_makeFolderOf {d : Disk} (hd : d.IsProper) {path : String}
    (hhere : ∀ w, P w → w.disk.here = d.here) (hlinks : ∀ w, P w → w.disk.top.LinkFree)
    (h : KeptOn P (d.routeOf path).dropLast) : Keeps P (makeFolderOf path) := by
  obtain ⟨hslash, hnames⟩ := Disk.of_parentName_absolute hd path
  have hentry : ∀ name ∈ (d.routeOf path).dropLast, Disk.IsEntryName name := fun name hname =>
    Disk.isEntryName_routeOf hd path name (List.dropLast_subset _ hname)
  intro w hw
  have habsolute : (absolutePath path).carryOut w =
      (.ok (PathText.absolute (Disk.routeText d.here) path), w) := by
    rw [← hhere w hw]
    rfl
  rw [makeFolderOf, Act.carryOut_bind, habsolute]
  dsimp only
  generalize PathText.parentName _ = folder at hslash hnames ⊢
  exact keeps_makeFoldersFrom hentry hlinks h true folder.length hslash (hnames ▸ List.prefix_rfl)
    w hw

end Storage

end ScriptHost
