import Mathlib.Data.List.Induction
import ScriptHost.Proofs.Members
import ScriptHost.Proofs.PathRoutes
import ScriptHost.Proofs.Turns

/-!
# Shells and the current folder

There is one current folder, and every shell has a copy of its path. The copy is made when the shell
is created and when a folder is assigned to it, and it is what reading the folder of the shell
gives. A folder that is assigned to one shell is not told to the others. So a shell tells the folder
that was current when it was last settled, by being created or by going to a folder itself, and that
is the current one exactly if the current folder is that one still or again (`currentDirectory_eq`).
-/

namespace ScriptHost.Shell

/-! ### Moves -/

/-- What is done with shells: one more is created, or a folder is assigned to one of them. Shells
are counted in the order of their creation. -/
inductive Move where
  | create
  | assign (shell : Nat) (path : Value)

/-- Makes a move, with the shells that there are before it and after it. -/
def Move.make (shells : List Value) : Move → Act (List Value)
  | create => do
    let shell ← Shell.create
    return shells ++ [shell]
  | assign i path => do
    match shells[i]? with
    | some shell => Member.setAttribute shell "CurrentDirectory" path
    | none => pure ()
    return shells

/-- Makes moves one after the other, from no shells on. -/
def makeMoves (moves : List Move) : Act (List Value) :=
  moves.foldlM Move.make []

/-- The world after moves. -/
def worldAfter (w : World) (moves : List Move) : World :=
  ((makeMoves moves).carryOut w).2

/-- The path of the current folder. -/
def folderOf (w : World) : String :=
  Disk.routeText w.disk.here

/-- Whether a move creates a shell. -/
def Move.isCreation : Move → Bool
  | create => true
  | assign .. => false

/-- How many shells moves create. -/
def created (moves : List Move) : Nat :=
  moves.countP Move.isCreation

/-- It is possible to go to a folder. -/
def CanGo (w : World) (path : Value) : Prop :=
  ((Storage.changeFolder path).carryOut w).1.isOk = true

/-- A move after others settles a shell if it creates the shell or takes it to a folder. -/
def Settles (w : World) (before : List Move) (i : Nat) : Move → Prop
  | .create => i = created before
  | .assign j path => i = j ∧ i < created before ∧ CanGo (worldAfter w before) path

/-- The first of some moves, up to the last one of all that settles a shell. -/
structure LastSettled (w : World) (moves : List Move) (i : Nat) (settled : List Move) : Prop where
  settles : ∃ before m, settled = before ++ [m] ∧ Settles w before i m
  rest : ∃ later, moves = settled ++ later ∧
    ∀ a m b, later = a ++ m :: b → ¬ Settles w (settled ++ a) i m

section LastSettled

variable {w : World} {moves settled : List Move} {i : Nat} {m : Move}

lemma lastSettled_of_settles (h : Settles w moves i m) :
    LastSettled w (moves ++ [m]) i (moves ++ [m]) where
  settles := ⟨moves, m, rfl, h⟩
  rest := ⟨[], (List.append_nil _).symm, by simp⟩

lemma LastSettled.append (h : LastSettled w moves i settled) (hm : ¬ Settles w moves i m) :
    LastSettled w (moves ++ [m]) i settled where
  settles := h.settles
  rest := by
    obtain ⟨later, rfl, hlater⟩ := h.rest
    refine ⟨later ++ [m], by rw [List.append_assoc], fun a x b hcut => ?_⟩
    rcases List.eq_nil_or_concat b with rfl | ⟨b, y, rfl⟩
    · obtain ⟨rfl, hx⟩ := List.append_inj' hcut rfl
      rw [← (List.cons.inj hx).1]
      exact hm
    · rw [List.concat_eq_append, ← List.cons_append, ← List.append_assoc] at hcut
      exact hlater a x b (List.append_inj' hcut rfl).1

end LastSettled

/-! ### Going to a folder -/

/-- Going to a folder changes the current folder, or fails and changes nothing. -/
lemma carryOut_changeFolder (path : Value) (w : World) :
    (∃ r, (Storage.changeFolder path).carryOut w =
        (.ok (), { w with disk := { w.disk with here := r } })) ∨
      ∃ e, e.isExit = false ∧ (Storage.changeFolder path).carryOut w = (.error e, w) := by
  unfold Storage.changeFolder
  rw [Act.carryOut_bind, Act.carryOut_ofExcept]
  cases hpath : Storage.lookupText "chdir" path with
  | error e =>
    refine .inr ⟨e, ?_, rfl⟩
    unfold Storage.lookupText at hpath
    split at hpath
    · cases hpath
    · split at hpath
      · cases hpath
      · cases hpath
        rfl
  | ok text =>
    cases text with
    | none => exact .inr ⟨.badDescriptor, rfl, rfl⟩
    | some text =>
      dsimp only
      rw [Storage.carryOut_checkPath_bind, Storage.carryOut_disk_bind]
      split
      · rcases w.disk.locate text with ⟨r, c | es | goal⟩ | _ | e
        · exact .inr ⟨_, rfl, rfl⟩
        · exact .inl ⟨r, rfl⟩
        · exact .inr ⟨_, rfl, rfl⟩
        · exact .inr ⟨_, rfl, rfl⟩
        · exact .inr ⟨_, rfl, rfl⟩
      · exact .inr ⟨_, rfl, rfl⟩

/-- The world after a shell has gone to a folder. -/
def gone (w : World) (id : Nat) (r : Route) : World :=
  { w with
    disk := { w.disk with here := r }
    objects := w.objects.modify id fun o => { o with body := .shell (Disk.routeText r) } }

/-- A shell that goes to a folder takes the current folder and its copy along. One that cannot go
there says why, and all else stays. -/
lemma carryOut_setFolder (id : Nat) (path : Value) (w : World) :
    (CanGo w path ∧ ∃ r, (setFolder id path).carryOut w = (.ok (), gone w id r)) ∨
      (¬ CanGo w path ∧
        ∃ text, (setFolder id path).carryOut w =
          (.ok (), { w with output := w.output ++ text })) := by
  unfold CanGo setFolder
  rw [Act.carryOut_recover, Act.carryOut_bind]
  rcases carryOut_changeFolder path w with ⟨r, h⟩ | ⟨e, hexit, h⟩
  · rw [h]
    exact .inl ⟨rfl, r, rfl⟩
  · rw [h]
    refine .inr ⟨by simp [Except.isOk, Except.toBool], "切换目录失败: " ++ e.message ++ "\n", ?_⟩
    dsimp only
    rw [hexit]
    rfl

/-! ### Shells and their copies -/

/-- The shells that there are, the first of which has the number `base`, and the copies that they
have of the current folder's path. -/
structure Holds (base : Nat) (shells : List Value) (folders : List String) (w : World) : Prop where
  length_eq : shells.length = folders.length
  shell : ∀ i < folders.length, shells[i]? = some (.object .shell (base + i))
  size_eq : w.objects.size = base + folders.length
  body : ∀ i folder, folders[i]? = some folder → w.objects[base + i]? = some ⟨.shell folder, []⟩

namespace Holds

variable {base : Nat} {shells : List Value} {folders : List String} {w : World}

lemma start (w : World) : Holds w.objects.size [] [] w :=
  ⟨rfl, by simp, rfl, by simp⟩

/-- What is done besides the objects does not matter. -/
lemma congr (h : Holds base shells folders w) {w' : World} (hw : w'.objects = w.objects) :
    Holds base shells folders w' :=
  ⟨h.length_eq, h.shell, by rw [hw, h.size_eq], by rw [hw]; exact h.body⟩

/-- The folder of a shell is read off its copy. -/
lemma carryOut_read (h : Holds base shells folders w) {i : Nat} {shell : Value}
    (hshell : shells[i]? = some shell) : ∃ folder, folders[i]? = some folder ∧
      (Member.readAttribute shell "CurrentDirectory").carryOut w = (.ok (.text folder), w) := by
  obtain ⟨hlt, -⟩ := List.getElem?_eq_some_iff.1 hshell
  rw [h.length_eq] at hlt
  rw [h.shell i hlt] at hshell
  obtain rfl := Option.some.inj hshell
  have hfolder := List.getElem?_eq_getElem hlt
  refine ⟨_, hfolder, ?_⟩
  rw [Member.carryOut_readAttribute (h.body i _ hfolder) rfl]
  rfl

/-- A shell that is created has a copy of the current folder's path. -/
lemma carryOut_create (h : Holds base shells folders w) : ∃ shells' after,
    (Move.make shells .create).carryOut w = (.ok shells', after) ∧
      folderOf after = folderOf w ∧ Holds base shells' (folders ++ [folderOf w]) after := by
  refine ⟨shells ++ [.object .shell w.objects.size],
    { w with objects := w.objects.push ⟨.shell (folderOf w), []⟩ }, rfl, rfl, ?_, ?_, ?_, ?_⟩
  · rw [List.length_append, List.length_append, h.length_eq, List.length_singleton,
      List.length_singleton]
  · intro i hi
    rw [List.length_append, List.length_singleton] at hi
    rw [List.getElem?_append, h.length_eq]
    split
    · next hlt => exact h.shell i hlt
    · next hge =>
      obtain rfl : i = folders.length := by omega
      rw [h.size_eq, Nat.sub_self]
      rfl
  · rw [Array.size_push, h.size_eq, List.length_append, List.length_singleton, Nat.add_assoc]
  · intro i folder hfolder
    rw [Array.getElem?_push, h.size_eq]
    rw [List.getElem?_append] at hfolder
    split at hfolder
    · next hlt =>
      rw [if_neg (by omega)]
      exact h.body i folder hfolder
    · next hge =>
      obtain ⟨hi, hfolder⟩ := List.getElem?_eq_some_iff.1 hfolder
      obtain rfl : i = folders.length := by
        rw [List.length_singleton] at hi
        omega
      rw [if_pos rfl, ← hfolder]
      simp

/-- A shell that goes to a folder has a copy of its path, and the copies of the others stay. -/
lemma gone (h : Holds base shells folders w) (i : Nat) (r : Route) :
    Holds base shells (folders.set i (Disk.routeText r)) (Shell.gone w (base + i) r) := by
  refine ⟨?_, ?_, ?_, ?_⟩
  · rw [List.length_set, h.length_eq]
  · rw [List.length_set]
    exact h.shell
  · rw [Shell.gone, Array.size_modify, h.size_eq, List.length_set]
  · intro j folder hfolder
    rw [Shell.gone, Array.getElem?_modify]
    rw [List.getElem?_set] at hfolder
    split at hfolder
    · next hij =>
      subst hij
      split at hfolder
      · next hlt =>
        obtain rfl := Option.some.inj hfolder
        rw [if_pos rfl, h.body i _ (List.getElem?_eq_getElem hlt)]
        rfl
      · cases hfolder
    · next hij =>
      rw [if_neg (by omega)]
      exact h.body j folder hfolder

/-- A folder is assigned to a shell, which goes there, or cannot go there and stays. -/
lemma carryOut_assign (h : Holds base shells folders w) {i : Nat} (hi : i < folders.length)
    (path : Value) : ∃ after, (Move.make shells (.assign i path)).carryOut w = (.ok shells, after) ∧
      ((CanGo w path ∧ Holds base shells (folders.set i (folderOf after)) after) ∨
        (¬ CanGo w path ∧ folderOf after = folderOf w ∧ Holds base shells folders after)) := by
  have hbody := h.body i _ (List.getElem?_eq_getElem hi)
  have hmake : (Move.make shells (.assign i path)).carryOut w =
      ((setFolder (base + i) path) >>= fun _ => pure shells : Act (List Value)).carryOut w := by
    rw [Move.make, h.shell i hi]
    dsimp only
    rw [Act.carryOut_bind, Act.carryOut_bind, Member.carryOut_setAttribute hbody nofun rfl]
  rw [hmake, Act.carryOut_bind]
  rcases carryOut_setFolder (base + i) path w with ⟨hgo, r, hset⟩ | ⟨hgo, text, hset⟩
  · rw [hset]
    exact ⟨_, rfl, .inl ⟨hgo, h.gone i r⟩⟩
  · rw [hset]
    exact ⟨_, rfl, .inr ⟨hgo, rfl, h.congr rfl⟩⟩

end Holds

/-! ### All moves -/

lemma makeMoves_concat (moves : List Move) (m : Move) :
    makeMoves (moves ++ [m]) = makeMoves moves >>= fun shells => m.make shells := by
  unfold makeMoves
  rw [List.foldlM_append]
  simp

lemma created_concat (moves : List Move) (m : Move) :
    created (moves ++ [m]) = created moves + if m.isCreation then 1 else 0 := by
  unfold created
  rw [List.countP_append, List.countP_singleton]

/-- Every copy is that of the folder that was current when its shell was last settled. -/
structure Explained (w : World) (moves : List Move) (folders : List String) : Prop where
  length_eq : folders.length = created moves
  settled : ∀ i folder, folders[i]? = some folder →
    ∃ settled, LastSettled w moves i settled ∧ folder = folderOf (worldAfter w settled)

namespace Explained

variable {w : World} {moves : List Move} {folders : List String}

lemma nil (w : World) : Explained w [] [] :=
  ⟨rfl, by simp⟩

/-- The copy of a shell that a move does not settle is explained by the moves before. -/
lemma kept (h : Explained w moves folders) {m : Move} {i : Nat} {folder : String}
    (hfolder : folders[i]? = some folder) (hother : ¬ Settles w moves i m) :
    ∃ settled, LastSettled w (moves ++ [m]) i settled ∧
      folder = folderOf (worldAfter w settled) := by
  obtain ⟨settled, hlast, hfolder⟩ := h.settled i folder hfolder
  exact ⟨settled, hlast.append hother, hfolder⟩

lemma create (h : Explained w moves folders) :
    Explained w (moves ++ [.create])
      (folders ++ [folderOf (worldAfter w (moves ++ [.create]))]) := by
  refine ⟨?_, fun i folder hfolder => ?_⟩
  · rw [List.length_append, List.length_singleton, h.length_eq, created_concat]
    rfl
  · rw [List.getElem?_append] at hfolder
    split at hfolder
    · next hlt =>
      refine h.kept hfolder fun hnew => ?_
      rw [Settles, ← h.length_eq] at hnew
      omega
    · next hge =>
      obtain ⟨hi, rfl⟩ := List.getElem?_eq_some_iff.1 hfolder
      have hnew : Settles w moves i .create := by
        rw [List.length_singleton] at hi
        rw [Settles, ← h.length_eq]
        omega
      refine ⟨_, lastSettled_of_settles hnew, ?_⟩
      simp

lemma length_eq_assign (h : Explained w moves folders) (j : Nat) (path : Value) :
    folders.length = created (moves ++ [.assign j path]) := by
  rw [created_concat, h.length_eq]
  rfl

/-- A shell has gone to a folder. -/
lemma assign (h : Explained w moves folders) {j : Nat} {path : Value}
    (hj : Settles w moves j (.assign j path)) : Explained w (moves ++ [.assign j path])
      (folders.set j (folderOf (worldAfter w (moves ++ [.assign j path])))) := by
  refine ⟨?_, fun i folder hfolder => ?_⟩
  · rw [List.length_set]
    exact h.length_eq_assign j path
  · rw [List.getElem?_set] at hfolder
    split at hfolder
    · next hij =>
      subst hij
      split at hfolder
      · exact ⟨_, lastSettled_of_settles hj, (Option.some.inj hfolder).symm⟩
      · cases hfolder
    · next hij => exact h.kept hfolder fun hnew => hij hnew.1.symm

/-- No shell has gone anywhere. -/
lemma stay (h : Explained w moves folders) {j : Nat} {path : Value}
    (hj : ¬ Settles w moves j (.assign j path)) :
    Explained w (moves ++ [.assign j path]) folders := by
  refine ⟨h.length_eq_assign j path, fun i folder hfolder => h.kept hfolder fun hnew => hj ?_⟩
  obtain ⟨rfl, hi, hgo⟩ := hnew
  exact ⟨rfl, hi, hgo⟩

end Explained

/-- What one more move does: the shells and their copies are there and explained again, and the
current folder is changed only by a shell that goes to a folder. -/
lemma exists_holds_concat {w mid : World} {moves : List Move} {shells : List Value}
    {folders : List String} (hmoves : (makeMoves moves).carryOut w = (.ok shells, mid))
    (hholds : Holds w.objects.size shells folders mid) (hexplained : Explained w moves folders)
    (m : Move) : ∃ shells' folders' after,
      (makeMoves (moves ++ [m])).carryOut w = (.ok shells', after) ∧
        Holds w.objects.size shells' folders' after ∧ Explained w (moves ++ [m]) folders' ∧
        ((∀ j path, m = .assign j path → ¬ Settles w moves j m) →
          folderOf after = folderOf mid) := by
  have hmid : worldAfter w moves = mid := by rw [worldAfter, hmoves]
  have hstep : (makeMoves (moves ++ [m])).carryOut w = (m.make shells).carryOut mid := by
    rw [makeMoves_concat, Act.carryOut_bind, hmoves]
  have hlast : worldAfter w (moves ++ [m]) = ((m.make shells).carryOut mid).2 := by
    rw [worldAfter, hstep]
  rw [hstep]
  cases m with
  | create =>
    obtain ⟨shells', after, hcreate, hsame, hholds'⟩ := hholds.carryOut_create
    have hcopy := hexplained.create
    rw [hlast, hcreate, hsame] at hcopy
    exact ⟨shells', _, after, hcreate, hholds', hcopy, fun _ => hsame⟩
  | assign j path =>
    by_cases hj : j < folders.length
    · obtain ⟨after, hassign, hcases⟩ := hholds.carryOut_assign hj path
      have hsettles : Settles w moves j (.assign j path) ↔ CanGo mid path := by
        rw [Settles, hmid, ← hexplained.length_eq]
        simp [hj]
      rcases hcases with ⟨hgo, hholds'⟩ | ⟨hgo, hsame, hholds'⟩
      · have hcopy := hexplained.assign (hsettles.2 hgo)
        rw [hlast, hassign] at hcopy
        exact ⟨shells, _, after, hassign, hholds', hcopy, fun hstay =>
          absurd (hsettles.2 hgo) (hstay j path rfl)⟩
      · exact ⟨shells, folders, after, hassign, hholds',
          hexplained.stay fun hj => hgo (hsettles.1 hj), fun _ => hsame⟩
    · have hnone : shells[j]? = none := by
        rw [List.getElem?_eq_none_iff, hholds.length_eq]
        omega
      have hmake : (Move.make shells (.assign j path)).carryOut mid = (.ok shells, mid) := by
        rw [Move.make, hnone]
        rfl
      refine ⟨shells, folders, mid, hmake, hholds, hexplained.stay fun hnew => hj ?_, fun _ => rfl⟩
      rw [hexplained.length_eq]
      exact hnew.2.1

/-- After any moves, all copies are explained. -/
lemma exists_holds (w : World) (moves : List Move) :
    ∃ shells folders after, (makeMoves moves).carryOut w = (.ok shells, after) ∧
      Holds w.objects.size shells folders after ∧ Explained w moves folders := by
  induction moves using List.reverseRecOn with
  | nil => exact ⟨[], [], w, rfl, .start w, .nil w⟩
  | append_singleton moves m ih =>
    obtain ⟨shells, folders, mid, hmoves, hholds, hexplained⟩ := ih
    obtain ⟨shells', folders', after, hmoves', hholds', hexplained', -⟩ :=
      exists_holds_concat hmoves hholds hexplained m
    exact ⟨shells', folders', after, hmoves', hholds', hexplained'⟩

/-- The current folder stays if no shell goes to a folder. -/
lemma folderOf_worldAfter_append (w : World) (settled later : List Move)
    (h : ∀ a j path b, later = a ++ .assign j path :: b →
      ¬ Settles w (settled ++ a) j (.assign j path)) :
    folderOf (worldAfter w (settled ++ later)) = folderOf (worldAfter w settled) := by
  induction later using List.reverseRecOn with
  | nil => rw [List.append_nil]
  | append_singleton later m ih =>
    obtain ⟨shells, folders, mid, hmoves, hholds, hexplained⟩ := exists_holds w (settled ++ later)
    obtain ⟨shells', folders', after, hmoves', -, -, hsame⟩ :=
      exists_holds_concat hmoves hholds hexplained m
    have hmid : worldAfter w (settled ++ later) = mid := by rw [worldAfter, hmoves]
    have hafter : worldAfter w (settled ++ (later ++ [m])) = after := by
      rw [← List.append_assoc, worldAfter, hmoves']
    have hbefore := ih fun a j path b hcut =>
      h a j path (b ++ [m]) (by rw [hcut, List.append_assoc, List.cons_append])
    rw [hafter, ← hbefore, hmid]
    refine hsame fun j path hm => ?_
    subst hm
    exact h later j path [] rfl

/-- All moves can be made, and every shell tells the folder that was current when it was last
settled. This is the current folder exactly if that folder is current still or again, and in
particular if no shell has gone to a folder since. -/
theorem currentDirectory_eq (w : World) (moves : List Move) :
    ∃ shells, (makeMoves moves).carryOut w = (.ok shells, worldAfter w moves) ∧
      shells.length = created moves ∧
      ∀ i shell, shells[i]? = some shell → ∃ settled, LastSettled w moves i settled ∧
        (Member.readAttribute shell "CurrentDirectory").carryOut (worldAfter w moves) =
          (.ok (.text (folderOf (worldAfter w settled))), worldAfter w moves) ∧
        ((Member.readAttribute shell "CurrentDirectory").carryOut (worldAfter w moves) =
            (.ok (.text (folderOf (worldAfter w moves))), worldAfter w moves) ↔
          folderOf (worldAfter w settled) = folderOf (worldAfter w moves)) ∧
        ((∀ a j path b, moves = settled ++ a ++ .assign j path :: b →
            ¬ Settles w (settled ++ a) j (.assign j path)) →
          folderOf (worldAfter w settled) = folderOf (worldAfter w moves)) := by
  obtain ⟨shells, folders, after, hmoves, hholds, hexplained⟩ := exists_holds w moves
  have hafter : worldAfter w moves = after := by rw [worldAfter, hmoves]
  refine ⟨shells, by rw [hafter, hmoves], hholds.length_eq.trans hexplained.length_eq, ?_⟩
  intro i shell hshell
  obtain ⟨folder, hfolder, hread⟩ := hholds.carryOut_read hshell
  obtain ⟨settled, hlast, rfl⟩ := hexplained.settled i folder hfolder
  refine ⟨settled, hlast, by rw [hafter, hread], ?_, fun hstay => ?_⟩
  · rw [hafter, hread]
    simp
  · obtain ⟨later, rfl, -⟩ := hlast.rest
    refine (folderOf_worldAfter_append w settled later fun a j path b hcut => ?_).symm
    exact hstay a j path b (by rw [hcut, List.append_assoc])

/-- A world with a folder in the current one. -/
def innerFolder : World :=
  { Script.firstScene.world with
    disk := ⟨.folder [("home", .folder [("a", .folder [])])], ["home"]⟩
    objects := #[] }

/-- Two shells are created, and the first one goes to the inner folder. -/
def firstGoes : List Move := [.create, .create, .assign 0 (.text "a")]

/-- The other shell still tells the outer folder. -/
theorem other_shell_not_told :
    ((makeMoves firstGoes).carryOut innerFolder).1 =
        .ok [.object .shell 0, .object .shell 1] ∧
      folderOf (worldAfter innerFolder firstGoes) = "/home/a" ∧
      ((Member.readAttribute (.object .shell 0) "CurrentDirectory").carryOut
        (worldAfter innerFolder firstGoes)).1 = .ok (.text "/home/a") ∧
      ((Member.readAttribute (.object .shell 1) "CurrentDirectory").carryOut
        (worldAfter innerFolder firstGoes)).1 = .ok (.text "/home") := by
  refine ⟨?_, ?_, ?_, ?_⟩
  all_goals with_unfolding_all rfl

end ScriptHost.Shell
