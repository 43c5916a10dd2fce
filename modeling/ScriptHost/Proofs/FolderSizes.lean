import Mathlib.Algebra.BigOperators.Group.List.Basic
import Mathlib.Algebra.GroupWithZero.Nat
import Mathlib.Data.List.Nodup
import ScriptHost.Proofs.Members
import ScriptHost.Proofs.PathRoutes
import ScriptHost.Proofs.Turns

/-!
# The sizes of folders

The size of a folder is found by a walk through the tree, while its files and subfolders are listed
by tests on paths. Both see the same entries, those whose paths are not too long. The walk gets only
so deep, and a folder that lies deeper breaks it off. If there is none, then the size is the number
of bytes in all files below, and so the sum of the sizes of the listed files and folders; otherwise
it is no more than that (`folder_sizes`), and it can be less (`folder_size_deep`).
-/

namespace ScriptHost

open ScriptHost.Text

/-! ### Trees -/

namespace Node

/-- A name that an entry of a folder can have. -/
structure CanName (name : String) : Prop extends Disk.IsEntryName name where
  nameSize_le : Disk.nameSize name ≤ 255
  isPath : Disk.isPath name = true

/-- A tree without links in which the entries of every folder have different names. -/
inductive IsTree : Node → Prop where
  | file (content : List UInt8) (modified : Int) : IsTree (file content modified)
  | folder {es : List (String × Node)} : (∀ e ∈ es, CanName e.1) → (es.map Prod.fst).Nodup →
      (∀ e ∈ es, IsTree e.2) → IsTree (folder es)

lemma IsTree.canName {es : List (String × Node)} (h : (Node.folder es).IsTree) {e : String × Node}
    (he : e ∈ es) :
    CanName e.1 := by
  cases h with
  | folder hnames hnodup htrees => exact hnames e he

lemma IsTree.isLink_eq {n : Node} (h : n.IsTree) : n.isLink = false := by
  cases h <;> rfl

lemma IsTree.of_mem {es : List (String × Node)} (h : (Node.folder es).IsTree) {e : String × Node}
    (he : e ∈ es) : e.2.IsTree := by
  cases h with
  | folder hnames hnodup htrees => exact htrees e he

lemma IsTree.nodup_names {es : List (String × Node)} (h : (Node.folder es).IsTree) :
    (es.map Prod.fst).Nodup := by
  cases h with
  | folder hnames hnodup htrees => exact hnodup

mutual

/-- The files in a tree with their routes and bytes. -/
def files : Node → List (Route × List UInt8)
  | file c _ => [([], c)]
  | folder es => filesOf es
  | link _ => []

/-- The files in and below the entries of a folder. -/
def filesOf : List (String × Node) → List (Route × List UInt8)
  | [] => []
  | e :: es => e.2.files.map (fun f => (e.1 :: f.1, f.2)) ++ filesOf es

end

lemma files_folder (es : List (String × Node)) :
    (folder es).files = es.flatMap fun e => e.2.files.map fun f => (e.1 :: f.1, f.2) := by
  rw [files]
  induction es with
  | nil => rfl
  | cons e es ih => rw [filesOf, ih, List.flatMap_cons]

lemma lookup_of_mem {es : List (String × Node)} (hes : (es.map Prod.fst).Nodup) {e : String × Node}
    (he : e ∈ es) :
    es.lookup e.1 = some e.2 := by
  obtain ⟨before, after, rfl⟩ := List.append_of_mem he
  refine List.lookup_eq_some_iff.2 ⟨before, after, rfl, fun x hx => ?_⟩
  rw [List.map_append, List.map_cons, List.nodup_append] at hes
  exact bne_iff_ne.2 (hes.2.2 x.1 (List.mem_map_of_mem hx) e.1 List.mem_cons_self).symm

/-- The listed files are those that routes lead to. -/
lemma IsTree.mem_files {n : Node} (h : n.IsTree) {r : Route} {c : List UInt8} :
    (r, c) ∈ n.files ↔ ∃ m, n.get? r = some (.file c m) := by
  induction h generalizing r with
  | file content modified =>
    cases r with
    | nil => simp [files, get?, eq_comm]
    | cons name r => simp [files, get?, entries]
  | folder hnames hnodup htrees ih =>
    rw [files_folder, List.mem_flatMap]
    constructor
    · rintro ⟨e, he, hmem⟩
      obtain ⟨f, hf, heq⟩ := List.mem_map.1 hmem
      obtain ⟨rfl, rfl⟩ := Prod.mk.inj heq
      rw [get?, entries, lookup_of_mem hnodup he]
      exact (ih e he).1 hf
    · rintro ⟨m, hm⟩
      cases r with
      | nil => cases hm
      | cons name r =>
        rw [get?, entries] at hm
        split at hm
        · next x hx =>
          have he := mem_of_lookup hx
          exact ⟨_, he, List.mem_map.2 ⟨(r, c), (ih _ he).2 ⟨m, hm⟩, rfl⟩⟩
        · cases hm

/-- No file is listed twice. -/
lemma IsTree.nodup_files {n : Node} (h : n.IsTree) : (n.files.map Prod.fst).Nodup := by
  induction h with
  | file content modified => exact List.nodup_singleton _
  | folder hnames hnodup htrees ih =>
    rw [files_folder, List.map_flatMap, List.nodup_flatMap]
    constructor
    · intro e he
      rw [List.map_map]
      have hmap := (ih e he).map (fun _ _ => (List.cons.inj · |>.2) : Function.Injective (e.1 :: ·))
      rwa [List.map_map] at hmap
    · -- Routes through different entries differ in their first names.
      refine (List.pairwise_map.1 hnodup).imp fun {e e'} hne r hr hr' => hne ?_
      obtain ⟨f, hf, rfl⟩ := List.mem_map.1 (by simpa only [List.map_map] using hr)
      obtain ⟨f', hf', heq⟩ := List.mem_map.1 (by simpa only [List.map_map] using hr')
      exact (List.cons.inj heq).1.symm

/-- Routes to files spell names that entries can have. -/
lemma IsTree.canName_of_mem_files {n : Node} (h : n.IsTree) {f : Route × List UInt8}
    (hf : f ∈ n.files) :
    ∀ name ∈ f.1, CanName name := by
  induction h generalizing f with
  | file content modified =>
    obtain rfl := List.mem_singleton.1 hf
    exact fun name hname => absurd hname List.not_mem_nil
  | folder hnames hnodup htrees ih =>
    rw [files_folder, List.mem_flatMap] at hf
    obtain ⟨e, he, hmem⟩ := hf
    obtain ⟨g, hg, rfl⟩ := List.mem_map.1 hmem
    intro name hname
    rcases List.mem_cons.1 hname with rfl | hname
    · exact hnames e he
    · exact ih e he hg name hname

lemma IsTree.get? {n m : Node} (h : n.IsTree) {r : Route} (hm : n.get? r = some m) : m.IsTree := by
  induction h generalizing r with
  | file content modified =>
    cases r with
    | nil =>
      obtain rfl := Option.some.inj hm
      exact .file content modified
    | cons name r => cases hm
  | folder hnames hnodup htrees ih =>
    cases r with
    | nil =>
      obtain rfl := Option.some.inj hm
      exact .folder hnames hnodup htrees
    | cons name r =>
      rw [Node.get?, entries] at hm
      split at hm
      · next x hx => exact ih _ (mem_of_lookup hx) hm
      · cases hm

/-- A tree in which no folder lies too deep: so many folders can be entered one from the other. -/
inductive DepthLe : Nat → Node → Prop where
  | file (k : Nat) (content : List UInt8) (modified : Int) : DepthLe k (file content modified)
  | folder {k : Nat} {es : List (String × Node)} (hes : ∀ e ∈ es, DepthLe k e.2) :
    DepthLe (k + 1) (folder es)

lemma DepthLe.succ {k : Nat} {n : Node} (h : n.DepthLe k) : n.DepthLe (k + 1) := by
  induction h with
  | file k content modified => exact .file _ content modified
  | folder _ ih => exact .folder ih

end Node

/-! ### Paths of entries -/

namespace Disk

variable {d : Disk} {p : String} {es : List (String × Node)} {n : Node}

/-- What stands between the path of a folder and the name of an entry. -/
def separator (p : String) : String :=
  if p.isEmpty || p.endsWith "/" then "" else "/"

lemma IsEntryName.not_startsWith_slash {name : String} (h : IsEntryName name) :
    ¬ name.startsWith "/" = true := by
  rw [startsWith_slash]
  rintro ⟨rest, hrest⟩
  exact h.slash_notMem (hrest ▸ List.mem_cons_self)

lemma joined_eq {name : String} (hname : IsEntryName name) (p : String) :
    PathText.joined p name = p ++ separator p ++ name := by
  rw [PathText.joined, if_neg hname.not_startsWith_slash, separator]
  split
  · rw [String.append_empty]
  · rfl

lemma joined_injective {name name' : String} (hname : IsEntryName name) (hname' : IsEntryName name')
    (h : PathText.joined p name = PathText.joined p name') : name = name' := by
  rw [joined_eq hname, joined_eq hname'] at h
  have hlist := congrArg String.toList h
  rw [String.toList_append, String.toList_append (s := p ++ separator p)] at hlist
  exact String.toList_inj.1 (List.append_cancel_left hlist)

lemma utf8ByteSize_le_joined {name : String} (hname : IsEntryName name) (p : String) :
    p.utf8ByteSize ≤ (PathText.joined p name).utf8ByteSize := by
  rw [joined_eq hname, String.utf8ByteSize_append, String.utf8ByteSize_append]
  omega

lemma node?_eq_some_iff : d.node? p = some n ↔ isPath p = true ∧ ∃ r, d.locate p = .found r n := by
  unfold node?
  split
  · next hpath =>
    split
    · next r m hlocate => simp_all
    · next hnot => simp_all
  · next hpath => simp [hpath]

/-- A path that leads to something is not too long. -/
lemma utf8ByteSize_le_of_node? (h : d.node? p = some n) : p.utf8ByteSize ≤ 4095 := by
  obtain ⟨-, r, hr⟩ := node?_eq_some_iff.1 h
  exact (leads_of_locate hr (.found r n)).2.1

/-- Names lead on from where other names have led. -/
lemma Leads.append {top : Node} {slash slash' : Bool} {at_ r : Route} {ns rest : List String}
    {q : Place} (h : Leads top slash at_ ns (.found r n)) (hrest : Leads top slash' r rest q) :
    Leads top slash' at_ (ns ++ rest) q := by
  generalize hp : Place.found r n = p at h
  induction h with
  | stop _ _ _ =>
    cases hp
    exact hrest
  | stay hn _ ih => exact .stay hn (ih hp)
  | back hn _ ih => exact .back hn (ih hp)
  | enter hn hname hentry _ ih => exact .enter hn hname hentry (ih hp)
  | free _ _ _ => cases hp

lemma isPath_append {a b : String} : isPath (a ++ b) = (isPath a && isPath b) := by
  simp [isPath, String.toList_append, Bool.not_or]

lemma isPath_joined {name : String} (hname : Node.CanName name) (hp : isPath p = true) :
    isPath (PathText.joined p name) = true := by
  have hseparator : isPath (separator p) = true := by
    unfold separator
    split <;> rfl
  rw [joined_eq hname.toIsEntryName, isPath_append, isPath_append, hp, hseparator, hname.isPath]
  rfl

lemma startsWith_joined {name : String} (hname : IsEntryName name) (hp : p ≠ "") :
    (PathText.joined p name).startsWith "/" = p.startsWith "/" := by
  have hne : p.toList ≠ [] := fun h => hp (String.toList_eq_nil_iff.1 h)
  obtain ⟨c, cs, hcs⟩ := List.exists_cons_of_ne_nil hne
  rw [Bool.eq_iff_iff, startsWith_slash, startsWith_slash, joined_eq hname, String.toList_append,
    String.toList_append, hcs]
  simp

lemma endsWith_joined {name : String} (hname : IsEntryName name) (p : String) :
    (PathText.joined p name).endsWith "/" = false := by
  rw [← Bool.not_eq_true]
  intro hends
  obtain ⟨rest, hrest⟩ := exists_of_endsWith_slash hends
  have hne : name.toList ≠ [] := fun h => hname.ne_empty (String.toList_eq_nil_iff.1 h)
  rw [joined_eq hname, String.toList_append] at hrest
  have hlast := congrArg List.getLast? hrest
  rw [List.getLast?_append_of_ne_nil _ hne, List.getLast?_concat] at hlast
  exact hname.slash_notMem (List.mem_of_getLast? hlast)

/-- A path to a folder leads on to each of its entries, unless it gets too long. -/
lemma locate_joined {r : Route} (hr : d.locate p = .found r (.folder es))
    (hes : (Node.folder es).IsTree)
    {e : String × Node} (he : e ∈ es) : d.locate (PathText.joined p e.1) =
      if 4095 < (PathText.joined p e.1).utf8ByteSize then .failed .tooLong
      else .found (r ++ [e.1]) e.2 := by
  have hname := hes.canName he
  have hplain := hname.toIsEntryName
  obtain ⟨hne, -, hleads⟩ := leads_of_locate hr (.found r _)
  have htop := get?_of_locate hr
  have hentry := Node.lookup_of_mem hes.nodup_names he
  have hlink := (hes.of_mem he).isLink_eq
  have hend : Leads d.top false (e.2.landing (r ++ [e.1])) [] (.found (r ++ [e.1]) e.2) := by
    rw [Node.landing_of_not_link hlink]
    exact .stop ((Node.get?_snoc htop e.1).trans hentry) hlink (by simp)
  have hlead :=
    hleads.append (.enter htop ⟨hname.ne_dot, hname.ne_dots, hname.nameSize_le⟩ hentry hend)
  have hsingle : names e.1 = [e.1] := by
    simpa only [String.ofList_toList] using names_toList hname.ne_empty hname.slash_notMem
  have hempty : PathText.joined p e.1 ≠ "" := by
    rw [joined_eq hplain]
    simp [hname.ne_empty]
  split
  · next hlong => rw [locate, if_neg (mt String.isEmpty_iff.1 hempty), if_pos hlong]
  · next hlong =>
    refine locate_of_leads hempty (Nat.le_of_not_lt hlong) ?_
    rw [startOf, startsWith_joined hplain hne, endsWith_joined hplain,
      names_joined p hplain.not_startsWith_slash, hsingle]
    exact hlead

lemma node?_joined (hp : d.node? p = some (.folder es)) (hes : (Node.folder es).IsTree)
    {e : String × Node}
    (he : e ∈ es) : d.node? (PathText.joined p e.1) =
      if (PathText.joined p e.1).utf8ByteSize ≤ 4095 then some e.2 else none := by
  obtain ⟨hpath, r, hr⟩ := node?_eq_some_iff.1 hp
  rw [node?, if_pos (isPath_joined (hes.canName he) hpath), locate_joined hr hes he]
  by_cases hfits : (PathText.joined p e.1).utf8ByteSize ≤ 4095
  · rw [if_pos hfits, if_neg (Nat.not_lt.2 hfits)]
  · rw [if_neg hfits, if_pos (Nat.lt_of_not_le hfits)]

/-- The path that goes on along a route. -/
def spelled (p : String) (r : Route) : String :=
  r.foldl PathText.joined p

lemma utf8ByteSize_le_spelled {r : Route} (hr : ∀ name ∈ r, Node.CanName name) (p : String) :
    p.utf8ByteSize ≤ (spelled p r).utf8ByteSize := by
  induction r generalizing p with
  | nil => exact Nat.le_refl _
  | cons name r ih =>
    calc p.utf8ByteSize ≤ (PathText.joined p name).utf8ByteSize :=
          utf8ByteSize_le_joined (hr name List.mem_cons_self).toIsEntryName p
      _ ≤ (spelled (PathText.joined p name) r).utf8ByteSize :=
          ih (fun n hn => hr n (List.mem_cons_of_mem name hn)) _

end Disk

/-! ### Sizes -/

namespace FileSystem

open Disk (spelled)

variable {d : Disk} {p : String} {es : List (String × Node)}

/-- The size of what a path leads to, if walks get so deep. -/
def sizeAt (d : Disk) (depth : Nat) (p : String) : Nat :=
  match d.node? p with
  | some (.folder _) => walkedSize d depth p
  | _ => bytesAt d p

/-- The number of bytes in the files of a tree whose paths are not too long. -/
def bytesBelow (p : String) (n : Node) : Nat :=
  ((n.files.filter fun f => (spelled p f.1).utf8ByteSize ≤ 4095).map fun f => f.2.length).sum

lemma bytesBelow_folder (p : String) (es : List (String × Node)) :
    bytesBelow p (.folder es) = (es.map fun e => bytesBelow (PathText.joined p e.1) e.2).sum := by
  unfold bytesBelow
  rw [Node.files_folder]
  induction es with
  | nil => rfl
  | cons e es ih =>
    rw [List.flatMap_cons, List.filter_append, List.map_append, List.sum_append, ih, List.map_cons,
      List.sum_cons, List.filter_map, List.map_map]
    rfl

/-- Below a path that is too long all paths are too long. -/
lemma bytesBelow_of_long {n : Node} (hn : n.IsTree) (hlong : 4095 < p.utf8ByteSize) :
    bytesBelow p n = 0 := by
  have hnone : n.files.filter (fun f => (spelled p f.1).utf8ByteSize ≤ 4095) = [] := by
    refine List.filter_eq_nil_iff.2 fun f hf hfits => ?_
    have hlonger := Disk.utf8ByteSize_le_spelled (hn.canName_of_mem_files hf) p
    have hfits := of_decide_eq_true hfits
    omega
  rw [bytesBelow, hnone]
  rfl

lemma bytesBelow_file {c : List UInt8} {m : Int} (h : d.node? p = some (.file c m)) :
    bytesBelow p (.file c m) = c.length := by
  simp [bytesBelow, Node.files, spelled, Disk.utf8ByteSize_le_of_node? h]

/-- A file in a folder counts with its bytes, unless its path is too long. -/
lemma bytesAt_joined (hp : d.node? p = some (.folder es)) (hes : (Node.folder es).IsTree)
    {e : String × Node} (he : e ∈ es) (hfile : e.2.isFolder = false) :
    bytesAt d (PathText.joined p e.1) = bytesBelow (PathText.joined p e.1) e.2 := by
  have hentry := Disk.node?_joined hp hes he
  have htree := hes.of_mem he
  split at hentry
  · cases hn : e.2 with
    | file c m =>
      rw [hn] at hentry
      rw [bytesAt, hentry, bytesBelow_file hentry]
    | folder es' => cases hn ▸ hfile
    | link goal => cases hn ▸ htree
  · next hlong => rw [bytesAt, hentry, bytesBelow_of_long htree (Nat.lt_of_not_le hlong)]

/-- A walk adds no more than some bytes to a total, and all of them if nothing breaks it off. -/
structure Counts (outcome : Except Nat Nat) (total bytes : Nat) (whole : Prop) : Prop where
  bounds : ∃ t, (outcome = .ok t ∨ outcome = .error t) ∧ t ≤ total + bytes
  of_whole : whole → outcome = .ok (total + bytes)

/-- Walks one after the other add up. -/
lemma Counts.foldlM {α : Type} {step : Nat → α → Except Nat Nat} {bytes : α → Nat}
    {whole : α → Prop} {xs : List α} (h : ∀ x ∈ xs, ∀ t, Counts (step t x) t (bytes x) (whole x))
    (total : Nat) :
    Counts (xs.foldlM step total) total (xs.map bytes).sum (∀ x ∈ xs, whole x) := by
  induction xs generalizing total with
  | nil => exact ⟨⟨total, .inl rfl, Nat.le_refl _⟩, fun _ => rfl⟩
  | cons x xs ih =>
    have hx := h x List.mem_cons_self total
    have hrest := ih fun y hy => h y (List.mem_cons_of_mem x hy)
    rw [List.foldlM_cons, List.map_cons, List.sum_cons]
    constructor
    · obtain ⟨t, ht | ht, hle⟩ := hx.bounds
      · obtain ⟨t', ht', hle'⟩ := (hrest t).bounds
        rw [ht]
        exact ⟨t', ht', by omega⟩
      · rw [ht]
        exact ⟨t, .inr rfl, by omega⟩
    · intro hwhole
      rw [hx.of_whole (hwhole x List.mem_cons_self), ← Nat.add_assoc]
      exact (hrest _).of_whole fun y hy => hwhole y (List.mem_cons_of_mem x hy)

/-- The files in a folder itself. -/
lemma foldl_bytesAt (hp : d.node? p = some (.folder es)) (hes : (Node.folder es).IsTree)
    (total : Nat) : (es.filter fun e => !e.2.isFolder).foldl
      (fun t e => t + bytesAt d (PathText.joined p e.1)) total = total +
      ((es.filter fun e => !e.2.isFolder).map fun e =>
        bytesBelow (PathText.joined p e.1) e.2).sum := by
  have hsame : (es.filter fun e => !e.2.isFolder).map (fun e => bytesAt d (PathText.joined p e.1)) =
      (es.filter fun e => !e.2.isFolder).map fun e => bytesBelow (PathText.joined p e.1) e.2 := by
    refine List.map_congr_left fun e he => ?_
    obtain ⟨he, hfile⟩ := List.mem_filter.1 he
    exact bytesAt_joined hp hes he (by simpa using hfile)
  rw [← hsame]
  generalize es.filter (fun e => !e.2.isFolder) = files
  induction files generalizing total with
  | nil => rfl
  | cons e files ih => rw [List.foldl_cons, ih, List.map_cons, List.sum_cons, Nat.add_assoc]

/-- The bytes below a folder are those of its files and those below its subfolders. -/
lemma bytesBelow_split (p : String) (es : List (String × Node)) : bytesBelow p (.folder es) =
    ((es.filter fun e => !e.2.isFolder).map fun e => bytesBelow (PathText.joined p e.1) e.2).sum +
      ((es.filter fun e => e.2.isFolder).map fun e =>
        bytesBelow (PathText.joined p e.1) e.2).sum := by
  rw [bytesBelow_folder]
  induction es with
  | nil => rfl
  | cons e es ih =>
    rw [List.map_cons, List.sum_cons, ih]
    cases he : e.2.isFolder <;> simp [he] <;> omega

/-- What a walk from a folder adds to a total: the bytes below, if no folder lies too deep. -/
lemma counts_walk {n : Node} (hn : n.IsTree) (hfolder : n.isFolder = true)
    (h : d.node? p = some n) (left total : Nat) :
    Counts (walk d left p total) total (bytesBelow p n) (n.DepthLe left) := by
  induction hn generalizing p left total with
  | file content modified => cases hfolder
  | @folder es hnames hnodup htrees ih =>
    cases left with
    | zero => exact ⟨⟨total, .inr rfl, Nat.le_add_right _ _⟩, nofun⟩
    | succ left =>
      have hes : (Node.folder es).IsTree := .folder hnames hnodup htrees
      -- Where a path gets too long the walk finds nothing, and nothing below counts.
      have hentry (e) (he : e ∈ es.filter fun e => e.2.isFolder) (t : Nat) :
          Counts (walk d left (PathText.joined p e.1) t) t (bytesBelow (PathText.joined p e.1) e.2)
            (e.2.DepthLe left) := by
        obtain ⟨he, hfolder⟩ := List.mem_filter.1 he
        have hnode := Disk.node?_joined h hes he
        split at hnode
        · exact ih e he hfolder hnode left t
        · next hlong =>
          rw [bytesBelow_of_long (htrees e he) (Nat.lt_of_not_le hlong)]
          cases left with
          | zero =>
            refine ⟨⟨t, .inr rfl, Nat.le_refl t⟩, fun hdepth => ?_⟩
            obtain ⟨es', hes'⟩ := Node.exists_eq_folder hfolder
            cases hes' ▸ hdepth
          | succ left =>
            rw [walk, hnode]
            exact ⟨⟨t, .inl rfl, Nat.le_refl t⟩, fun _ => rfl⟩
      have hwalk := Counts.foldlM hentry (total + ((es.filter fun e => !e.2.isFolder).map fun e =>
        bytesBelow (PathText.joined p e.1) e.2).sum)
      rw [walk, h]
      dsimp only
      rw [foldl_bytesAt h hes, bytesBelow_split]
      constructor
      · rw [← Nat.add_assoc]
        exact hwalk.bounds
      · intro hdepth
        rw [← Nat.add_assoc]
        refine hwalk.of_whole fun e he => ?_
        cases hdepth with
        | folder hdepths => exact hdepths e (List.mem_filter.1 he).1

lemma walkedSize_le (hes : (Node.folder es).IsTree) (h : d.node? p = some (.folder es)) (k : Nat) :
    walkedSize d k p ≤ bytesBelow p (.folder es) := by
  obtain ⟨t, ht, hle⟩ := (counts_walk hes rfl h k 0).bounds
  rw [Nat.zero_add] at hle
  unfold walkedSize
  rcases ht with ht | ht <;> rw [ht] <;> exact hle

/-- The size of what a path leads to is the number of bytes below, if no folder lies too deep. -/
lemma sizeAt_eq_bytesBelow {n : Node} (hn : n.IsTree) {k : Nat} (hdepth : n.DepthLe k)
    (h : d.node? p = some n) : sizeAt d k p = bytesBelow p n := by
  cases n with
  | file c m => rw [sizeAt, h, bytesBelow_file h, bytesAt, h]
  | link goal => cases hn
  | folder es =>
    rw [sizeAt, h]
    dsimp only
    rw [walkedSize, (counts_walk hn rfl h k 0).of_whole hdepth, Nat.zero_add]

/-- The entries of a folder have the bytes below it, if no folder lies too deep. -/
lemma sum_sizeAt_entries (hp : d.node? p = some (.folder es)) (hes : (Node.folder es).IsTree)
    {k : Nat} (hdepth : (Node.folder es).DepthLe k) :
    ((es.map fun e => PathText.joined p e.1).map (sizeAt d k)).sum = bytesBelow p (.folder es) := by
  cases hdepth with
  | folder hdepths =>
    rw [bytesBelow_folder, List.map_map]
    refine congrArg List.sum (List.map_congr_left fun e he => ?_)
    have hentry := Disk.node?_joined hp hes he
    dsimp only [Function.comp_apply]
    split at hentry
    · exact sizeAt_eq_bytesBelow (hes.of_mem he) (hdepths e he).succ hentry
    · next hlong =>
      rw [sizeAt, hentry, bytesBelow_of_long (hes.of_mem he) (Nat.lt_of_not_le hlong), bytesAt,
        hentry]

/-- What a path leads to is a file, a folder or nothing that has a size. -/
lemma sum_sizeAt (d : Disk) (k : Nat) (ps : List String) : (ps.map (sizeAt d k)).sum =
    ((ps.filter d.isFile).map (sizeAt d k)).sum +
      ((ps.filter d.isFolder).map (sizeAt d k)).sum := by
  induction ps with
  | nil => rfl
  | cons q ps ih =>
    rcases hq : d.node? q with _ | (_ | _ | _)
    · simp [Disk.isFile, Disk.isFolder, sizeAt, bytesAt, hq, ih]
    · simp [Disk.isFile, Disk.isFolder, hq, ih]
      omega
    · simp [Disk.isFile, Disk.isFolder, hq, ih]
      omega
    · simp [Disk.isFile, Disk.isFolder, sizeAt, bytesAt, hq, ih]

end FileSystem

/-! ### New objects -/

/-- A world with some objects more. -/
def World.addingAll (w : World) (bs : List Body) : World :=
  bs.foldl World.adding w

lemma World.disk_addingAll (w : World) (bs : List Body) :
    (w.addingAll bs).disk = w.disk ∧ (w.addingAll bs).walkDepth = w.walkDepth := by
  induction bs generalizing w with
  | nil => exact ⟨rfl, rfl⟩
  | cons b bs ih => exact ih (w.adding b)

/-- Objects are still there when others are added. -/
lemma World.getElem?_addingAll {w : World} {id : Nat} {o : Object} (h : w.objects[id]? = some o)
    (bs : List Body) :
    (w.addingAll bs).objects[id]? = some o := by
  induction bs generalizing w with
  | nil => exact h
  | cons b bs ih =>
    refine ih (w := w.adding b) ?_
    obtain ⟨hid, rfl⟩ := Array.getElem?_eq_some_iff.1 h
    rw [World.adding, Array.getElem?_push_lt hid]

namespace FileSystem

variable {w : World} {d : Disk} {p : String} {es : List (String × Node)} {id : Nat}

/-- An object for a path, with the size of what the path leads to. -/
structure Item where
  object : Value
  path : String
  size : Nat

/-- An object for a path is in a world and knows its size there. -/
structure Item.IsIn (body : Value → Body) (w : World) (i : Item) : Prop where
  found : ∃ id, i.object = .object (body (.text i.path)).kind id ∧
    w.objects[id]? = some ⟨body (.text i.path), []⟩
  carryOut_size : (Member.readAttribute i.object "Size").carryOut w = (.ok (.int i.size), w)

/-- The objects that are created for some paths, numbered from `k` on. -/
def itemsFrom (kind : ObjectKind) (size : String → Nat) : Nat → List String → List Item
  | _, [] => []
  | k, q :: qs => ⟨.object kind k, q, size q⟩ :: itemsFrom kind size (k + 1) qs

lemma map_path_itemsFrom (kind : ObjectKind) (size : String → Nat) (k : Nat) (qs : List String) :
    (itemsFrom kind size k qs).map Item.path = qs := by
  induction qs generalizing k with
  | nil => rfl
  | cons q qs ih => rw [itemsFrom, List.map_cons, ih]

lemma map_size_itemsFrom (kind : ObjectKind) (size : String → Nat) (k : Nat) (qs : List String) :
    (itemsFrom kind size k qs).map Item.size = qs.map size := by
  induction qs generalizing k with
  | nil => rfl
  | cons q qs ih => rw [itemsFrom, List.map_cons, ih, List.map_cons]

lemma carryOut_mapM_create {kind : ObjectKind} {body : Value → Body}
    (hkind : ∀ v, (body v).kind = kind) (size : String → Nat) (qs : List String) (w : World) :
    (qs.mapM fun q => Act.create (body (.text q))).carryOut w =
      (.ok ((itemsFrom kind size w.objects.size qs).map Item.object),
        w.addingAll (qs.map fun q => body (.text q))) := by
  induction qs generalizing w with
  | nil => rfl
  | cons q qs ih =>
    have hfirst : (Act.create (body (.text q))).carryOut w =
        (.ok (.object kind w.objects.size), w.adding (body (.text q))) := by
      rw [← hkind (.text q)]
      rfl
    have hsize : (w.adding (body (.text q))).objects.size = w.objects.size + 1 := Array.size_push _
    rw [List.mapM_cons, Act.carryOut_bind, hfirst]
    dsimp only
    rw [Act.carryOut_bind, ih, hsize]
    rfl

lemma found_of_mem_itemsFrom {kind : ObjectKind} {body : Value → Body} {size : String → Nat}
    {qs : List String} {i : Item} (hi : i ∈ itemsFrom kind size w.objects.size qs) :
    i.path ∈ qs ∧ i.size = size i.path ∧
      ∃ id, i.object = .object kind id ∧
        (w.addingAll (qs.map fun q => body (.text q))).objects[id]? =
          some ⟨body (.text i.path), []⟩ := by
  induction qs generalizing w with
  | nil => cases hi
  | cons q qs ih =>
    rcases List.mem_cons.1 hi with rfl | hi
    · exact ⟨List.mem_cons_self, rfl, _, rfl, World.getElem?_addingAll w.getElem?_adding _⟩
    · have hsize : (w.adding (body (.text q))).objects.size = w.objects.size + 1 :=
        Array.size_push _
      rw [← hsize] at hi
      obtain ⟨hpath, hrest⟩ := ih hi
      exact ⟨List.mem_cons_of_mem q hpath, hrest⟩

/-! ### Reading sizes and entries -/

lemma carryOut_recoverAll_of_ok {α : Type} {a : Act α} {x : α} {w' : World}
    (h : a.carryOut w = (.ok x, w'))
    (handler : Fault → Act α) : (Act.recoverAll a handler).carryOut w = (.ok x, w') := by
  rw [Act.recoverAll, Act.carryOut_tryCatch, h]

lemma carryOut_listFolder (h : w.disk.node? p = some (.folder es)) :
    (Storage.listFolder p).carryOut w = (.ok es, w) := by
  obtain ⟨hpath, r, hr⟩ := Disk.node?_eq_some_iff.1 h
  rw [Storage.listFolder, Storage.carryOut_checkPath_bind, if_pos hpath, Storage.carryOut_disk_bind,
    hr]
  rfl

/-- The size of a file is that of what its path leads to. -/
lemma carryOut_fileSize (h : w.disk.isFile p = true) :
    (fileSize (.text p)).carryOut w = (.ok (.int (sizeAt w.disk w.walkDepth p)), w) := by
  rw [Disk.isFile] at h
  split at h
  · next c m hnode =>
    have hfound : (Storage.nodeAt (.text p)).carryOut w = (.ok (some (.file c m)), w) := by
      rw [← hnode]
      rfl
    have hsize : sizeAt w.disk w.walkDepth p = c.length := by rw [sizeAt, hnode, bytesAt, hnode]
    refine carryOut_recoverAll_of_ok ?_ _
    rw [Act.carryOut_bind, hfound, hsize]
    rfl
  · cases h

/-- The size of a folder is that of what its path leads to. -/
lemma carryOut_folderSize (h : w.disk.isFolder p = true) :
    (folderSize (.text p)).carryOut w = (.ok (.int (sizeAt w.disk w.walkDepth p)), w) := by
  rw [Disk.isFolder] at h
  split at h
  · next es hnode =>
    rw [sizeAt, hnode]
    exact carryOut_recoverAll_of_ok rfl _
  · cases h

/-- The paths of the entries of a folder that pass a test, in order. -/
def sortedPaths (p : String) (es : List (String × Node)) (keep : String → Bool) : List String :=
  ((es.map fun e => PathText.joined p e.1).filter keep).mergeSort fun a b =>
    textOrder a.toList b.toList != .gt

lemma carryOut_entriesWhere (h : w.disk.node? p = some (.folder es)) (keep : Disk → String → Bool)
    {kind : ObjectKind} {body : Value → Body} (hkind : ∀ v, (body v).kind = kind)
    (size : String → Nat) : (entriesWhere (.text p) keep body).carryOut w =
      (.ok (.list ((itemsFrom kind size w.objects.size
          (sortedPaths p es (keep w.disk))).map Item.object)),
        w.addingAll ((sortedPaths p es (keep w.disk)).map fun q => body (.text q))) := by
  refine carryOut_recoverAll_of_ok ?_ _
  rw [Act.carryOut_bind]
  change (Storage.listFolder p >>= _).carryOut w = _
  rw [Act.carryOut_bind, carryOut_listFolder h]
  dsimp only
  rw [Storage.carryOut_disk_bind]
  have hcreate := carryOut_mapM_create hkind size (sortedPaths p es (keep w.disk)) w
  change ((sortedPaths p es (keep w.disk)).mapM (fun q => Act.create (body (.text q))) >>= fun os =>
    (pure (.list os) : Act Value)).carryOut w = _
  rw [Act.carryOut_bind, hcreate]
  rfl

/-! ### Files and subfolders -/

/-- Whether the path of an entry is not too long. -/
def isReachable (p : String) (e : String × Node) : Bool :=
  (PathText.joined p e.1).utf8ByteSize ≤ 4095

lemma isFile_joined (hp : d.node? p = some (.folder es)) (hes : (Node.folder es).IsTree)
    {e : String × Node}
    (he : e ∈ es) : d.isFile (PathText.joined p e.1) = (isReachable p e && !e.2.isFolder) := by
  rw [Disk.isFile, Disk.node?_joined hp hes he, isReachable]
  have htree := hes.of_mem he
  by_cases hfits : (PathText.joined p e.1).utf8ByteSize ≤ 4095
  · cases hn : e.2 with
    | link goal => cases hn ▸ htree
    | _ => simp [hfits, Node.isFolder]
  · simp [hfits]

lemma isFolder_joined (hp : d.node? p = some (.folder es)) (hes : (Node.folder es).IsTree)
    {e : String × Node}
    (he : e ∈ es) : d.isFolder (PathText.joined p e.1) = (isReachable p e && e.2.isFolder) := by
  rw [Disk.isFolder, Disk.node?_joined hp hes he, isReachable]
  have htree := hes.of_mem he
  by_cases hfits : (PathText.joined p e.1).utf8ByteSize ≤ 4095
  · cases hn : e.2 with
    | link goal => cases hn ▸ htree
    | _ => simp [hfits, Node.isFolder]
  · simp [hfits]

lemma sortedPaths_perm {keep : String → Bool} {keepEntry : String × Node → Bool}
    (h : ∀ e ∈ es, keep (PathText.joined p e.1) = keepEntry e) :
    (sortedPaths p es keep).Perm ((es.filter keepEntry).map fun e => PathText.joined p e.1) := by
  rw [← List.filter_congr h]
  exact (List.mergeSort_perm ..).trans (List.Perm.of_eq List.filter_map)

/-- Different entries have different paths. -/
lemma nodup_paths (hes : (Node.folder es).IsTree) (p : String) :
    (es.map fun e => PathText.joined p e.1).Nodup := by
  refine List.Nodup.map_on (fun e he e' he' h => ?_) hes.nodup_names.of_map
  have hname := Disk.joined_injective (hes.canName he).toIsEntryName (hes.canName he').toIsEntryName
    h
  exact List.inj_on_of_nodup_map hes.nodup_names he he' hname

lemma nodup_sortedPaths (hes : (Node.folder es).IsTree) (d : Disk) (p : String) :
    (sortedPaths p es d.isFile ++ sortedPaths p es d.isFolder).Nodup := by
  have hpaths := nodup_paths hes p
  refine List.nodup_append.2 ⟨(List.mergeSort_perm ..).nodup_iff.2 (hpaths.filter _),
    (List.mergeSort_perm ..).nodup_iff.2 (hpaths.filter _), fun q hq q' hq' heq => ?_⟩
  subst heq
  have hfile := (List.mem_filter.1 ((List.mergeSort_perm ..).mem_iff.1 hq)).2
  have hfolder := (List.mem_filter.1 ((List.mergeSort_perm ..).mem_iff.1 hq')).2
  rw [Disk.isFile] at hfile
  rw [Disk.isFolder] at hfolder
  split at hfile
  · next hnode =>
    rw [hnode] at hfolder
    cases hfolder
  · cases hfile

lemma sum_sortedPaths (size : String → Nat) (p : String) (es : List (String × Node))
    (keep : String → Bool) : ((sortedPaths p es keep).map size).sum =
      (((es.map fun e => PathText.joined p e.1).filter keep).map size).sum :=
  ((List.mergeSort_perm ..).map _).sum_eq

lemma isIn_of_found (body : Value → Body) {kind : ObjectKind} (hkind : ∀ v, (body v).kind = kind)
    {size : Value → Act Value} (hproperty : ∀ id v, Member.property? id (body v) "Size" =
      some { read := size v })
    {i : Item} (hfound : ∃ id, i.object = .object kind id ∧
      w.objects[id]? = some ⟨body (.text i.path), []⟩)
    (hread : (size (.text i.path)).carryOut w = (.ok (.int i.size), w)) : i.IsIn body w := by
  obtain ⟨id, hobject, hid⟩ := hfound
  refine ⟨⟨id, by rw [hkind, hobject], hid⟩, ?_⟩
  rw [hobject, Member.carryOut_readAttribute hid (hproperty id _), hread]

/-- The files and subfolders of a folder in a world, with their sizes. -/
structure Contents (w : World) (p : String) (es : List (String × Node))
    (files folders : List Item) : Prop where
  isIn_files : ∀ i ∈ files, i.IsIn .file w
  isIn_folders : ∀ i ∈ folders, i.IsIn .folder w
  files_perm : (files.map Item.path).Perm
    ((es.filter fun e => isReachable p e && !e.2.isFolder).map fun e => PathText.joined p e.1)
  folders_perm : (folders.map Item.path).Perm
    ((es.filter fun e => isReachable p e && e.2.isFolder).map fun e => PathText.joined p e.1)
  nodup : (files.map Item.path ++ folders.map Item.path).Nodup

/-- The files and subfolders of a folder: every entry whose path is not too long is listed once, as
a file or as a subfolder, and the others are not listed. The size of the folder is no more than the
number of bytes in all files below whose paths are not too long, each counted once. It is that
number, and the sum of the sizes of the files and of the subfolders, if no folder lies too deep for
a walk. -/
theorem folder_sizes (htree : w.disk.top.IsTree)
    (hobject : w.objects[id]? = some ⟨.folder (.text p), []⟩)
    (hp : w.disk.node? p = some (.folder es)) :
    ∃ (files folders : List Item) (w₁ w₂ : World) (size : Nat),
      (Member.readAttribute (.object .folder id) "Files").carryOut w =
        (.ok (.list (files.map Item.object)), w₁) ∧
      (Member.readAttribute (.object .folder id) "SubFolders").carryOut w₁ =
        (.ok (.list (folders.map Item.object)), w₂) ∧
      Contents w₂ p es files folders ∧
      (Member.readAttribute (.object .folder id) "Size").carryOut w = (.ok (.int size), w) ∧
      size ≤ bytesBelow p (.folder es) ∧
      ((Node.folder es).DepthLe w.walkDepth → size = bytesBelow p (.folder es) ∧
        size = (files.map Item.size).sum + (folders.map Item.size).sum) ∧
      (∀ r c, (r, c) ∈ (Node.folder es).files ↔ ∃ m, (Node.folder es).get? r = some (.file c m)) ∧
      ((Node.folder es).files.map Prod.fst).Nodup := by
  obtain ⟨-, r, hr⟩ := Disk.node?_eq_some_iff.1 hp
  have hes : (Node.folder es).IsTree := htree.get? (Disk.get?_of_locate hr)
  -- The files get objects first, and the subfolders after them, on the same disk.
  let size := sizeAt w.disk w.walkDepth
  let files := itemsFrom .file size w.objects.size (sortedPaths p es w.disk.isFile)
  let w₁ := w.addingAll ((sortedPaths p es w.disk.isFile).map fun q => .file (.text q))
  let folders := itemsFrom .folder size w₁.objects.size (sortedPaths p es w.disk.isFolder)
  let w₂ := w₁.addingAll ((sortedPaths p es w.disk.isFolder).map fun q => .folder (.text q))
  obtain ⟨hdisk₁, hdepth₁⟩ : w₁.disk = w.disk ∧ w₁.walkDepth = w.walkDepth := w.disk_addingAll _
  have hdisk₂ : w₂.disk = w.disk := (w₁.disk_addingAll _).1.trans hdisk₁
  have hdepth₂ : w₂.walkDepth = w.walkDepth := (w₁.disk_addingAll _).2.trans hdepth₁
  have hfiles : (entriesWhere (.text p) Disk.isFile .file).carryOut w =
      (.ok (.list (files.map Item.object)), w₁) := by
    have hkind (v : Value) : (Body.file v).kind = .file := rfl
    exact carryOut_entriesWhere hp Disk.isFile hkind size
  have hfolders : (entriesWhere (.text p) Disk.isFolder .folder).carryOut w₁ =
      (.ok (.list (folders.map Item.object)), w₂) := by
    have hkind (v : Value) : (Body.folder v).kind = .folder := rfl
    have hlisted := carryOut_entriesWhere (hdisk₁.symm ▸ hp) Disk.isFolder hkind size
    rwa [hdisk₁] at hlisted
  have hsum : (files.map Item.size).sum + (folders.map Item.size).sum =
      ((es.map fun e => PathText.joined p e.1).map size).sum := by
    rw [map_size_itemsFrom, map_size_itemsFrom, sum_sortedPaths, sum_sortedPaths]
    exact (sum_sizeAt w.disk w.walkDepth _).symm
  have hsize : size p = walkedSize w.disk w.walkDepth p := by
    dsimp only [size]
    rw [sizeAt, hp]
  refine ⟨files, folders, w₁, w₂, size p, ?_, ?_, ⟨fun i hi => ?_, fun i hi => ?_, ?_, ?_, ?_⟩, ?_,
    ?_, fun hdepth => ?_, fun r c => hes.mem_files, hes.nodup_files⟩
  · exact (Member.carryOut_readAttribute hobject rfl).trans hfiles
  · exact (Member.carryOut_readAttribute (World.getElem?_addingAll hobject _) rfl).trans hfolders
  · obtain ⟨hpath, hsize, id, hkind, hid⟩ := found_of_mem_itemsFrom hi
    have hfile := (List.mem_filter.1 ((List.mergeSort_perm ..).mem_iff.1 hpath)).2
    refine isIn_of_found .file (fun _ => rfl) (fun _ _ => rfl)
      ⟨id, hkind, World.getElem?_addingAll hid _⟩ ?_
    rw [carryOut_fileSize (hdisk₂ ▸ hfile), hdisk₂, hdepth₂, hsize]
  · obtain ⟨hpath, hsize, hfound⟩ := found_of_mem_itemsFrom hi
    have hfolder := (List.mem_filter.1 ((List.mergeSort_perm ..).mem_iff.1 hpath)).2
    refine isIn_of_found .folder (fun _ => rfl) (fun _ _ => rfl) hfound ?_
    rw [carryOut_folderSize (hdisk₂ ▸ hfolder), hdisk₂, hdepth₂, hsize]
  · rw [map_path_itemsFrom]
    exact sortedPaths_perm fun e he => isFile_joined hp hes he
  · rw [map_path_itemsFrom]
    exact sortedPaths_perm fun e he => isFolder_joined hp hes he
  · rw [map_path_itemsFrom, map_path_itemsFrom]
    exact nodup_sortedPaths hes w.disk p
  · refine (Member.carryOut_readAttribute hobject rfl).trans (carryOut_folderSize ?_)
    rw [Disk.isFolder, hp]
  · rw [hsize]
    exact walkedSize_le hes hp _
  · have hbytes := sizeAt_eq_bytesBelow hes hdepth hp
    exact ⟨hbytes, by rw [hsum, sum_sizeAt_entries hp hes hdepth, ← hbytes]⟩

lemma node?_dot (es : List (String × Node)) :
    (⟨.folder es, []⟩ : Disk).node? "." = some (.folder es) := by
  with_unfolding_all rfl

lemma canName_letter : ∀ name ∈ ["a", "b", "c"], Node.CanName name := by
  simp only [List.mem_cons, List.not_mem_nil, or_false]
  rintro name (rfl | rfl | rfl) <;>
    exact ⟨⟨by decide, by decide, by decide, by decide⟩, by with_unfolding_all decide, by decide⟩

theorem folder_sizes_nested : ∃ w : World, w.disk.top.IsTree ∧
    w.objects[0]? = some ⟨.folder (.text "."), []⟩ ∧
    w.disk.node? "." =
      some (.folder [("a", .file [1, 2, 3] 0), ("b", .folder [("c", .file [4, 5] 0)])]) ∧
    (Member.readAttribute (.object .folder 0) "Size").carryOut w = (.ok (.int 5), w) := by
  let inner : Node := .folder [("c", .file [4, 5] 0)]
  let top : Node := .folder [("a", .file [1, 2, 3] 0), ("b", inner)]
  let w : World := { Script.firstScene.world with
    disk := ⟨top, []⟩, objects := #[⟨.folder (.text "."), []⟩], walkDepth := 2 }
  have hinner : inner.IsTree := .folder (by simpa using canName_letter "c" (by simp)) (by decide)
    (by simpa using Node.IsTree.file [4, 5] 0)
  have htree : w.disk.top.IsTree :=
    .folder (by simpa using ⟨canName_letter "a" (by simp), canName_letter "b" (by simp)⟩)
      (by decide) (by simpa using ⟨Node.IsTree.file [1, 2, 3] 0, hinner⟩)
  have hobject : w.objects[0]? = some ⟨.folder (.text "."), []⟩ := rfl
  have hnode : w.disk.node? "." = some top := node?_dot _
  obtain ⟨files, folders, w₁, w₂, size, -, -, -, hsize, -, hwhole, -⟩ :=
    folder_sizes htree hobject hnode
  have hdepth : top.DepthLe w.walkDepth := by
    have hfile (k : Nat) (c : List UInt8) : (Node.file c 0).DepthLe k := .file k c 0
    exact .folder (by simpa using ⟨hfile 1 [1, 2, 3], .folder (by simpa using hfile 0 [4, 5])⟩)
  have hfive : bytesBelow "." top = 5 := by with_unfolding_all rfl
  refine ⟨w, htree, hobject, hnode, ?_⟩
  rw [hsize, (hwhole hdepth).1, hfive]
  rfl

/-! ### Deep folders -/

/-- So many folders one in the other, with a file in the innermost one. -/
def chain : Nat → Node
  | 0 => .folder [("b", .file [1, 2, 3] 0)]
  | n + 1 => .folder [("a", chain n)]

lemma isTree_chain (n : Nat) : (chain n).IsTree := by
  induction n with
  | zero =>
    exact .folder (by simpa using canName_letter "b" (by simp)) (by decide)
      (by simpa using Node.IsTree.file [1, 2, 3] 0)
  | succ n ih =>
    exact .folder (by simpa using canName_letter "a" (by simp)) (by simp) (by simpa using ih)

lemma get?_chain (n : Nat) :
    (chain n).get? (List.replicate n "a" ++ ["b"]) = some (.file [1, 2, 3] 0) := by
  induction n with
  | zero => rfl
  | succ n ih => exact ih

/-- A walk that does not get to the end of the chain breaks off before it has found the file. -/
lemma walk_chain {left n : Nat} (hleft : left ≤ n) (h : d.node? p = some (chain n))
    (hp : p.utf8ByteSize + 2 * left ≤ 4095) (total : Nat) :
    walk d left p total = .error total := by
  induction left generalizing n p with
  | zero => rfl
  | succ left ih =>
    cases n with
    | zero => omega
    | succ n =>
      have hfolder : (chain n).isFolder = true := by cases n <;> rfl
      have hsize : (PathText.joined p "a").utf8ByteSize ≤ p.utf8ByteSize + 2 := by
        have hseparator : (Disk.separator p).utf8ByteSize ≤ 1 := by
          unfold Disk.separator
          split <;> decide
        have hname : "a".utf8ByteSize = 1 := by with_unfolding_all rfl
        rw [Disk.joined_eq (canName_letter "a" (by simp)).toIsEntryName,
          String.utf8ByteSize_append, String.utf8ByteSize_append, hname]
        omega
      have hnext := Disk.node?_joined h (isTree_chain (n + 1)) (e := ("a", chain n))
        List.mem_cons_self
      dsimp only at hnext
      rw [if_pos (by omega)] at hnext
      rw [walk, h]
      simp only [chain, List.filter_cons, hfolder, Bool.not_true, Bool.false_eq_true, if_false,
        List.filter_nil, List.foldl_nil, if_true, List.foldlM_cons, List.foldlM_nil]
      rw [ih (by omega) hnext (by omega)]
      rfl

/-- A file that lies more than a thousand folders deep is not found, and the size is zero. -/
theorem folder_size_deep : ∃ w : World, w.disk.top.IsTree ∧
    w.objects[0]? = some ⟨.folder (.text "."), []⟩ ∧ w.disk.node? "." = some (chain 1100) ∧
    (chain 1100).get? (List.replicate 1100 "a" ++ ["b"]) = some (.file [1, 2, 3] 0) ∧
    (Member.readAttribute (.object .folder 0) "Size").carryOut w = (.ok (.int 0), w) := by
  let w : World := { Script.firstScene.world with
    disk := ⟨chain 1100, []⟩, objects := #[⟨.folder (.text "."), []⟩] }
  have hobject : w.objects[0]? = some ⟨.folder (.text "."), []⟩ := rfl
  have hnode : w.disk.node? "." = some (chain 1100) := node?_dot _
  have hdot : ".".utf8ByteSize = 1 := by with_unfolding_all rfl
  have hwalk : walk w.disk 980 "." 0 = .error 0 := walk_chain (by omega) hnode (by omega) 0
  refine ⟨w, isTree_chain 1100, hobject, hnode, get?_chain 1100, ?_⟩
  refine (Member.carryOut_readAttribute hobject rfl).trans (carryOut_recoverAll_of_ok ?_ _)
  have hsize : walkedSize w.disk 980 "." = 0 := by rw [walkedSize, hwalk]
  exact congrArg (fun n : Nat => (Except.ok (Value.int n), w)) hsize

end FileSystem

end ScriptHost
