import ScriptHost.Proofs.Acts
import ScriptHost.Proofs.FileTree
import ScriptHost.World.Start
import ScriptHost.World.Storage

/-!
# Routes that paths spell

A path is used in two ways. It is followed through the tree, name by name, and it is made absolute
as a text, without a look at the tree. Both agree on where it leads: if following a path comes to
something or to a free name, then that lies on the route that the path spells
(`Disk.eq_routeOf_of_on`), and the absolute path is the text of that route
(`Disk.exists_absolute`). For the first one there must be no links in the tree, and for the second
one the names in the current folder's route have to stand for themselves. So it is where a session
starts (`Surroundings.isProper_disk`), and a change of the current folder keeps it that way
(`Storage.isProper_changeFolder`).

The folder part of the absolute path spells the route without its last name
(`Disk.of_parentName_absolute`).
-/

namespace ScriptHost

open ScriptHost.Text

namespace Disk

/-! ### The names in a path -/

/-- A name that can stand between slashes and that stands for itself. -/
structure IsEntryName (name : String) : Prop where
  ne_empty : name ≠ ""
  slash_notMem : '/' ∉ name.toList
  ne_dot : name ≠ "."
  ne_dots : name ≠ ".."

lemma names_slash (a b : List Char) :
    names (String.ofList (a ++ '/' :: b)) = names (String.ofList a) ++ names (String.ofList b) := by
  unfold names
  rw [String.toList_ofList, String.toList_ofList, String.toList_ofList,
    List.splitOn_append_cons_self, List.filter_append, List.map_append]

lemma names_plain {cs : List Char} (h : '/' ∉ cs) :
    names (String.ofList cs) = if cs.isEmpty then [] else [String.ofList cs] := by
  unfold names
  rw [String.toList_ofList, List.splitOn_eq_singleton h]
  cases cs <;> simp

lemma names_nil : names (String.ofList []) = [] :=
  names_plain (by simp)

lemma names_toList {name : String} (hempty : name ≠ "") (hslash : '/' ∉ name.toList) :
    names (String.ofList name.toList) = [name] := by
  have hne : ¬ name.toList.isEmpty = true := by simpa using hempty
  rw [names_plain hslash, if_neg hne, String.ofList_toList]

/-- A slash before a path adds no name to it. -/
lemma names_cons_slash (cs : List Char) :
    names (String.ofList ('/' :: cs)) = names (String.ofList cs) := by
  have h := names_slash [] cs
  rwa [names_nil, List.nil_append, List.nil_append] at h

lemma names_slashes_append {slashes : List Char} (h : ∀ c ∈ slashes, c = '/') (cs : List Char) :
    names (String.ofList (slashes ++ cs)) = names (String.ofList cs) := by
  induction slashes with
  | nil => rfl
  | cons c slashes ih =>
    obtain rfl := h c List.mem_cons_self
    rw [List.cons_append, names_cons_slash]
    exact ih fun c hc => h c (List.mem_cons_of_mem _ hc)

/-- Slashes after a path add no names to it. -/
lemma names_append_slashes (cs : List Char) {slashes : List Char} (h : ∀ c ∈ slashes, c = '/') :
    names (String.ofList (cs ++ slashes)) = names (String.ofList cs) := by
  cases slashes with
  | nil => rw [List.append_nil]
  | cons c slashes =>
    obtain rfl := h c List.mem_cons_self
    have hrest := names_slashes_append (fun c hc => h c (List.mem_cons_of_mem _ hc)) []
    rw [List.append_nil, names_nil] at hrest
    rw [names_slash, hrest, List.append_nil]

/-- The names in a path are not empty and have no slashes in them. -/
lemma of_mem_names {path name : String} (h : name ∈ names path) :
    name ≠ "" ∧ '/' ∉ name.toList := by
  have hpiece : ∀ cs : List Char, ∀ p ∈ cs.splitOn '/', '/' ∉ p := by
    intro cs
    induction hlen : cs.length using Nat.strongRecOn generalizing cs with
    | ind n ih =>
      intro p hp
      by_cases hslash : '/' ∈ cs
      · obtain ⟨a, b, rfl, ha⟩ := List.eq_append_cons_of_mem hslash
        rw [List.splitOn_append_cons_self, List.splitOn_eq_singleton ha] at hp
        rcases List.mem_append.1 hp with hp | hp
        · exact List.mem_singleton.1 hp ▸ ha
        · refine ih b.length ?_ b rfl p hp
          rw [← hlen, List.length_append, List.length_cons]
          omega
      · rw [List.splitOn_eq_singleton hslash] at hp
        exact List.mem_singleton.1 hp ▸ hslash
  obtain ⟨p, hp, rfl⟩ := List.mem_map.1 h
  obtain ⟨hp, hne⟩ := List.mem_filter.1 hp
  rw [String.toList_ofList]
  refine ⟨fun hempty => ?_, hpiece _ p hp⟩
  have hnil : p = [] := by simpa using congrArg String.toList hempty
  simp [hnil] at hne

/-- Names with slashes between them are the names of that path. -/
lemma names_join {ns : List String} (h : ∀ name ∈ ns, name ≠ "" ∧ '/' ∉ name.toList) :
    names (String.ofList (join ['/'] (ns.map String.toList))) = ns := by
  induction ns with
  | nil => exact names_nil
  | cons name ns ih =>
    obtain ⟨hempty, hslash⟩ := h name List.mem_cons_self
    have hns := ih fun n hn => h n (List.mem_cons_of_mem _ hn)
    cases ns with
    | nil => exact names_toList hempty hslash
    | cons next ns =>
      have happend : join ['/'] ((name :: next :: ns).map String.toList) =
          name.toList ++ '/' :: join ['/'] ((next :: ns).map String.toList) := by
        simp [join]
      rw [happend, names_slash, names_toList hempty hslash, hns]
      rfl

/-! ### Where names lead -/

/-- The route that names lead along if all of them are there: a dot stays, and two dots go back. -/
def destination : Route → List String → Route
  | at_, [] => at_
  | at_, name :: rest =>
    if name == "." then destination at_ rest
    else if name == ".." then destination at_.dropLast rest
    else destination (at_ ++ [name]) rest

lemma destination_cons {at_ : Route} {name : String} {ns : List String} (hdot : name ≠ ".")
    (hdots : name ≠ "..") : destination at_ (name :: ns) = destination (at_ ++ [name]) ns := by
  rw [destination, if_neg (by simpa using hdot), if_neg (by simpa using hdots)]

/-- What names lead to, or a free name, lies where they go, if there are no links. -/
lemma Leads.eq_destination {top : Node} {slash : Bool} {at_ r : Route} {ns : List String}
    {p : Place} (htop : top.LinkFree) (h : Leads top slash at_ ns p) (hon : p.On r) :
    r = destination at_ ns := by
  induction h with
  | stop _ _ _ =>
    cases hon
    rfl
  | stay _ _ ih => exact ih hon
  | back _ _ ih => exact ih hon
  | enter hn hname hentry _ ih =>
    have hentry := htop.get? ((Node.get?_snoc hn _).trans hentry)
    rw [destination_cons hname.ne_dot hname.ne_dots]
    rw [Node.landing_of_not_link hentry.isLink_eq] at ih
    exact ih hon
  | free _ hname _ =>
    cases hon
    rw [destination_cons hname.ne_dot hname.ne_dots]
    rfl

lemma destination_append (at_ : Route) (a b : List String) :
    destination at_ (a ++ b) = destination (destination at_ a) b := by
  induction a generalizing at_ with
  | nil => rfl
  | cons name a ih =>
    rw [List.cons_append, destination, destination]
    split
    · exact ih _
    · split <;> exact ih _

/-- Names that stand for themselves lead straight on. -/
lemma destination_of_isEntryName (at_ : Route) {ns : List String}
    (h : ∀ name ∈ ns, IsEntryName name) : destination at_ ns = at_ ++ ns := by
  induction ns generalizing at_ with
  | nil => exact (List.append_nil at_).symm
  | cons name ns ih =>
    have hname := h name List.mem_cons_self
    rw [destination_cons hname.ne_dot hname.ne_dots,
      ih _ fun n hn => h n (List.mem_cons_of_mem _ hn), List.append_assoc]
    rfl

/-- Where the names of a path lead, all names stand for themselves if they do so at the start. -/
lemma isEntryName_of_mem_destination {at_ : Route} {ns : List String}
    (hat : ∀ name ∈ at_, IsEntryName name) (hns : ∀ name ∈ ns, name ≠ "" ∧ '/' ∉ name.toList) :
    ∀ name ∈ destination at_ ns, IsEntryName name := by
  induction ns generalizing at_ with
  | nil => exact hat
  | cons name ns ih =>
    have hrest : ∀ n ∈ ns, n ≠ "" ∧ '/' ∉ n.toList := fun n hn => hns n (List.mem_cons_of_mem _ hn)
    obtain ⟨hempty, hslash⟩ := hns name List.mem_cons_self
    unfold destination
    split
    · exact ih hat hrest
    · next hdot =>
      split
      · exact ih (fun n hn => hat n (List.dropLast_subset _ hn)) hrest
      · next hdots =>
        refine ih (fun n hn => ?_) hrest
        rcases List.mem_append.1 hn with hn | hn
        · exact hat n hn
        · obtain rfl := List.mem_singleton.1 hn
          exact ⟨hempty, hslash, by simpa using hdot, by simpa using hdots⟩

/-- The route that a path spells. -/
def routeOf (d : Disk) (path : String) : Route :=
  destination (d.startOf path) (names path)

/-- What a path leads to, or a free name that it leads to, lies on the route that it spells, if
there are no links. -/
theorem eq_routeOf_of_on {d : Disk} (hd : d.top.LinkFree) {path : String} {r : Route}
    (h : (d.locate path).On r) : r = d.routeOf path := by
  obtain ⟨-, -, hleads⟩ := leads_of_locate rfl h
  exact hleads.eq_destination hd h

/-- There are no links, and all names on the route of the current folder stand for themselves. -/
structure IsProper (d : Disk) : Prop where
  linkFree : d.top.LinkFree
  isEntryName : ∀ name ∈ d.here, IsEntryName name

lemma isEntryName_routeOf {d : Disk} (hd : d.IsProper) (path : String) :
    ∀ name ∈ d.routeOf path, IsEntryName name := by
  refine isEntryName_of_mem_destination ?_ fun name hname => of_mem_names hname
  unfold startOf
  split
  · simp
  · exact hd.isEntryName

/-! ### Absolute paths -/

lemma startsWith_slash {path : String} :
    path.startsWith "/" = true ↔ ∃ rest, path.toList = '/' :: rest := by
  rw [String.startsWith_string_iff]
  constructor
  · rintro ⟨rest, h⟩
    exact ⟨rest, h.symm⟩
  · rintro ⟨rest, h⟩
    exact ⟨rest, h.symm⟩

lemma exists_of_endsWith_slash {path : String} (h : path.endsWith "/" = true) :
    ∃ rest, path.toList = rest ++ ['/'] := by
  rw [String.endsWith_eq_endsWith_toSlice, String.Slice.endsWith_string_iff] at h
  obtain ⟨rest, hrest⟩ := h
  exact ⟨rest, by simpa using hrest.symm⟩

/-- In a rooted path the detours are worked out as they are followed. -/
lemma normalNames_eq_destination {up : List String} (hup : ".." ∉ up) (ns : List String) :
    PathText.normalNames true up ns = destination up.reverse (ns.filter (!·.isEmpty)) := by
  induction ns generalizing up with
  | nil => rfl
  | cons name ns ih =>
    by_cases hempty : name = ""
    · subst hempty
      exact ih hup
    · have hkept : (name :: ns).filter (!·.isEmpty) = name :: ns.filter (!·.isEmpty) :=
        List.filter_cons_of_pos (by simpa [String.isEmpty_iff] using hempty)
      rw [hkept, destination]
      unfold PathText.normalNames
      by_cases hdot : name = "."
      · simp only [hdot, beq_self_eq_true, Bool.or_true, if_true]
        exact ih hup
      · have hfirst : ¬ (name == "" || name == ".") = true := by simp [hempty, hdot]
        have hsecond : ¬ (name == ".") = true := by simpa using hdot
        rw [if_neg hfirst, if_neg hsecond]
        by_cases hdots : name = ".."
        · rw [if_pos (beq_iff_eq.2 hdots), if_pos (beq_iff_eq.2 hdots)]
          cases up with
          | nil => exact ih hup
          | cons u us =>
            have hu : ¬ (u == "..") = true := by
              rw [beq_iff_eq]
              exact fun h => hup (h ▸ List.mem_cons_self)
            rw [List.reverse_cons, List.dropLast_concat]
            exact (if_neg hu).trans (ih fun h => hup (List.mem_cons_of_mem _ h))
        · have hname : ".." ∉ name :: up := by simp [hup, Ne.symm hdots]
          have hthird : ¬ (name == "..") = true := by simpa using hdots
          rw [if_neg hthird, if_neg hthird, ih hname, List.reverse_cons]

/-- The text of an absolute path: one slash, maybe another one, and the names of a route. -/
def absoluteText (more : List Char) (r : Route) : List Char :=
  '/' :: (more ++ join ['/'] (r.map String.toList))

/-- A path that starts with a slash is normalized to the text of the route that it spells. -/
lemma normal_of_slash {path : String} {rest : List Char} (h : path.toList = '/' :: rest) :
    ∃ more, (∀ c ∈ more, c = '/') ∧
      PathText.normal path = String.ofList (absoluteText more (destination [] (names path))) := by
  have hempty : ¬ path.isEmpty = true := by
    intro hempty
    rw [String.isEmpty_iff.1 hempty] at h
    cases h
  have hlead : ((path.toList.takeWhile (· == '/')).length == 0) = false := by simp [h]
  have hnames : PathText.normalNames true [] ((path.toList.splitOn '/').map String.ofList) =
      destination [] (names path) := by
    rw [normalNames_eq_destination (by simp), List.filter_map]
    congr 2
    exact List.filter_congr fun cs _ => by cases cs <;> simp [String.isEmpty_iff]
  have htext (k : Nat) (hk : (k != 0) = true) : ∃ more, (∀ c ∈ more, c = '/') ∧
      List.replicate k '/' ++ join ['/'] ((PathText.normalNames (k != 0) []
        ((path.toList.splitOn '/').map String.ofList)).map String.toList) =
      absoluteText more (destination [] (names path)) := by
    cases k with
    | zero => cases hk
    | succ k =>
      refine ⟨List.replicate k '/', fun c hc => List.eq_of_mem_replicate hc, ?_⟩
      rw [hk, hnames]
      rfl
  unfold PathText.normal
  rw [if_neg hempty]
  dsimp only
  rw [hlead, if_neg Bool.false_ne_true]
  obtain ⟨more, hmore, htext⟩ := htext
    (if (path.toList.takeWhile (· == '/')).length == 2 then 2 else 1) (by split <;> rfl)
  refine ⟨more, hmore, ?_⟩
  rw [htext]
  rfl

/-- A path inside a folder has the names of the folder's path and its own. -/
lemma names_joined (folder : String) {path : String} (h : ¬ path.startsWith "/" = true) :
    names (PathText.joined folder path) = names folder ++ names path := by
  have hends {cs : List Char} (hcs : folder.toList = cs ++ ['/']) :
      names (folder ++ path) = names folder ++ names path := by
    have hfolder : names folder = names (String.ofList cs) := by
      rw [← String.ofList_toList (s := folder), hcs]
      exact names_append_slashes cs (by simp)
    have htext : folder ++ path = String.ofList (cs ++ '/' :: path.toList) := by
      rw [← String.toList_inj, String.toList_append, hcs]
      simp
    rw [htext, names_slash, hfolder, String.ofList_toList]
  unfold PathText.joined
  rw [if_neg h]
  split
  · next hfolder =>
    rcases Bool.or_eq_true _ _ ▸ hfolder with hempty | hslash
    · rw [String.isEmpty_iff.1 hempty, String.empty_append]
      exact congrArg (· ++ names path) names_nil.symm
    · obtain ⟨cs, hcs⟩ := exists_of_endsWith_slash hslash
      exact hends hcs
  · have htext : folder ++ "/" ++ path = String.ofList (folder.toList ++ '/' :: path.toList) := by
      rw [← String.toList_inj, String.toList_append, String.toList_append]
      simp
    rw [htext, names_slash, String.ofList_toList, String.ofList_toList]

lemma exists_toList_joined {folder : String} {rest : List Char}
    (hfolder : folder.toList = '/' :: rest) (path : String) :
    ∃ rest', (PathText.joined folder path).toList = '/' :: rest' := by
  unfold PathText.joined
  split
  · next hslash => exact startsWith_slash.1 hslash
  · split <;> simp [String.toList_append, hfolder]

/-- An absolute path is the text of the route that the path spells. -/
theorem exists_absolute {d : Disk} (hd : d.IsProper) (path : String) :
    ∃ more, (∀ c ∈ more, c = '/') ∧ PathText.absolute (routeText d.here) path =
      String.ofList (absoluteText more (d.routeOf path)) := by
  have hroute : (routeText d.here).toList = '/' :: join ['/'] (d.here.map String.toList) :=
    String.toList_ofList
  obtain ⟨rest, hrest⟩ := exists_toList_joined hroute path
  obtain ⟨more, hmore, hnormal⟩ := normal_of_slash hrest
  refine ⟨more, hmore, hnormal.trans ?_⟩
  unfold routeOf startOf
  split
  · next hslash => rw [PathText.joined, if_pos hslash]
  · next hslash =>
    -- The names of the current folder lead straight to it.
    have hhere : names (routeText d.here) = d.here := by
      rw [routeText, names_cons_slash]
      refine names_join fun name hname => ?_
      exact ⟨(hd.isEntryName name hname).ne_empty, (hd.isEntryName name hname).slash_notMem⟩
    rw [names_joined _ hslash, hhere, destination_append,
      destination_of_isEntryName [] hd.isEntryName, List.nil_append]

/-! ### The folder part of a path -/

/-- A text is split after its last slash. -/
lemma splitLast_append {a tail : List Char} (ha : a = [] ∨ ∃ b, a = b ++ ['/'])
    (htail : '/' ∉ tail) : PathText.splitLast (a ++ tail) = (a, tail) := by
  have hlast : ((a ++ tail).reverse.takeWhile (· != '/')).reverse = tail := by
    have hall : ∀ c ∈ tail.reverse, (c != '/') = true := by
      intro c hc
      rw [bne_iff_ne]
      rintro rfl
      exact htail (List.mem_reverse.1 hc)
    rw [List.reverse_append, List.takeWhile_append_of_pos hall]
    rcases ha with rfl | ⟨b, rfl⟩ <;> simp
  unfold PathText.splitLast
  rw [hlast]
  simp

lemma exists_splitLast (cs : List Char) :
    ∃ a tail, cs = a ++ tail ∧ (a = [] ∨ ∃ b, a = b ++ ['/']) ∧ '/' ∉ tail := by
  induction cs with
  | nil => exact ⟨[], [], rfl, .inl rfl, by simp⟩
  | cons c cs ih =>
    obtain ⟨a, tail, rfl, ha, htail⟩ := ih
    rcases ha with rfl | ⟨b, rfl⟩
    · by_cases hc : c = '/'
      · exact ⟨[c], tail, rfl, .inr ⟨[], by rw [hc]; rfl⟩, htail⟩
      · exact ⟨[], c :: tail, rfl, .inl rfl, by simp [Ne.symm hc, htail]⟩
    · exact ⟨c :: (b ++ ['/']), tail, rfl, .inr ⟨c :: b, rfl⟩, htail⟩

/-- What is left without slashes at the end. -/
lemma exists_dropSlashes (cs : List Char) :
    ∃ slashes, (∀ c ∈ slashes, c = '/') ∧ cs = PathText.dropSlashes cs ++ slashes ∧
      (PathText.dropSlashes cs = [] → cs = []) := by
  unfold PathText.dropSlashes
  dsimp only
  split
  · exact ⟨[], by simp, by simp, id⟩
  · next hkept =>
    refine ⟨(cs.reverse.takeWhile (· == '/')).reverse, fun c hc => ?_, ?_, fun hnil => ?_⟩
    · exact beq_iff_eq.1 (List.all_eq_true.1 List.all_takeWhile c (List.mem_reverse.1 hc))
    · rw [← List.reverse_append, List.takeWhile_append_dropWhile, List.reverse_reverse]
    · simp [hnil] at hkept

lemma names_dropSlashes (cs : List Char) :
    names (String.ofList (PathText.dropSlashes cs)) = names (String.ofList cs) := by
  obtain ⟨slashes, hslashes, hcs, -⟩ := exists_dropSlashes cs
  have hnames := names_append_slashes (PathText.dropSlashes cs) hslashes
  rw [← hcs] at hnames
  exact hnames.symm

lemma exists_dropSlashes_cons {cs : List Char} (c : Char) :
    ∃ rest, PathText.dropSlashes (c :: cs) = c :: rest := by
  obtain ⟨slashes, -, hcs, hnil⟩ := exists_dropSlashes (c :: cs)
  cases hkept : PathText.dropSlashes (c :: cs) with
  | nil => cases hnil hkept
  | cons k rest =>
    rw [hkept, List.cons_append] at hcs
    exact ⟨rest, by rw [(List.cons.inj hcs).1]⟩

/-- The parts of a path that is split after its last slash. -/
lemma headTail_append {a tail : List Char} (ha : a = [] ∨ ∃ b, a = b ++ ['/'])
    (htail : '/' ∉ tail) : PathText.headTail (String.ofList (a ++ tail)) =
      (String.ofList (PathText.dropSlashes a), String.ofList tail) := by
  unfold PathText.headTail
  rw [String.toList_ofList, splitLast_append ha htail]

/-- The folder part of a path that starts with a slash starts with one and spells no more than
the path. -/
lemma of_headTail {path : String} (h : ∃ rest, path.toList = '/' :: rest) :
    (∃ rest, (PathText.headTail path).1.toList = '/' :: rest) ∧
      names (PathText.headTail path).1 <+: names path := by
  obtain ⟨rest, hrest⟩ := h
  obtain ⟨a, tail, hpath, ha, htail⟩ := exists_splitLast path.toList
  have hpath' : path = String.ofList (a ++ tail) := by rw [← hpath, String.ofList_toList]
  rcases ha with rfl | ⟨b, rfl⟩
  · rw [List.nil_append] at hpath
    exact absurd (by rw [← hpath, hrest]; exact List.mem_cons_self) htail
  · rw [hpath', headTail_append (.inr ⟨b, rfl⟩) htail]
    dsimp only
    rw [names_dropSlashes, String.toList_ofList]
    constructor
    · cases b with
      | nil => exact exists_dropSlashes_cons '/'
      | cons c b =>
        rw [hpath] at hrest
        obtain rfl : c = '/' := (List.cons.inj hrest).1
        exact exists_dropSlashes_cons '/'
    · rw [names_append_slashes b (by simp), List.append_assoc, List.singleton_append, names_slash]
      exact List.prefix_append _ _

lemma names_absoluteText {more : List Char} (hmore : ∀ c ∈ more, c = '/') {r : Route}
    (hr : ∀ name ∈ r, IsEntryName name) : names (String.ofList (absoluteText more r)) = r := by
  rw [absoluteText, names_cons_slash, names_slashes_append hmore]
  exact names_join fun name hname => ⟨(hr name hname).ne_empty, (hr name hname).slash_notMem⟩

lemma join_concat (sep p : List Char) {ps : List (List Char)} (h : ps ≠ []) :
    join sep (ps ++ [p]) = join sep ps ++ sep ++ p := by
  induction ps with
  | nil => exact absurd rfl h
  | cons q ps ih =>
    cases ps with
    | nil => rfl
    | cons q' ps =>
      have hrest := ih (by simp)
      rw [List.cons_append, List.cons_append, join, ← List.cons_append, hrest, join]
      simp only [List.append_assoc]

/-- The text of a route is that of the route without its last name, a slash and the name. -/
lemma exists_absoluteText_concat {more : List Char} (hmore : ∀ c ∈ more, c = '/') {r : Route}
    (hr : ∀ name ∈ r, IsEntryName name) (name : String) :
    ∃ b, absoluteText more (r ++ [name]) = (b ++ ['/']) ++ name.toList ∧
      names (String.ofList b) = r := by
  cases r with
  | nil =>
    have hslashes : '/' :: more = more ++ ['/'] := by
      rw [List.eq_replicate_of_mem hmore, ← List.replicate_succ, List.replicate_succ']
    refine ⟨more, ?_, ?_⟩
    · rw [← hslashes]
      rfl
    · rw [← List.append_nil more, names_slashes_append hmore, names_nil]
  | cons first r =>
    refine ⟨absoluteText more (first :: r), ?_, names_absoluteText hmore hr⟩
    unfold absoluteText
    rw [List.map_append, List.map_singleton, join_concat _ _ (by simp)]
    simp only [List.cons_append, List.append_assoc]

/-- The folder part of an absolute path spells the route without its last name. -/
lemma names_parentName_absoluteText {more : List Char} (hmore : ∀ c ∈ more, c = '/') {r : Route}
    (hr : ∀ name ∈ r, IsEntryName name) :
    names (PathText.parentName (String.ofList (absoluteText more r))) = r.dropLast := by
  rcases List.eq_nil_or_concat r with rfl | ⟨r', name, rfl⟩
  · have hnone : names (String.ofList (absoluteText more [])) = [] := names_absoluteText hmore hr
    have htext : ∃ rest, (String.ofList (absoluteText more [])).toList = '/' :: rest :=
      ⟨_, String.toList_ofList⟩
    have hhead := (of_headTail htext).2
    rw [hnone] at hhead
    exact List.prefix_nil.1 hhead
  · rw [List.concat_eq_append] at hr ⊢
    obtain ⟨b, htext, hb⟩ := exists_absoluteText_concat hmore
      (fun n hn => hr n (List.mem_append_left _ hn)) name
    have hname := (hr name (by simp)).slash_notMem
    rw [PathText.parentName, htext, headTail_append (.inr ⟨b, rfl⟩) hname]
    dsimp only
    rw [names_dropSlashes, names_append_slashes b (by simp), hb, List.dropLast_concat]

/-- The folder part of the absolute path of a path starts with a slash and spells the route of the
path without its last name. -/
theorem of_parentName_absolute {d : Disk} (hd : d.IsProper) (path : String) :
    (∃ rest, (PathText.parentName (PathText.absolute (routeText d.here) path)).toList =
        '/' :: rest) ∧
      names (PathText.parentName (PathText.absolute (routeText d.here) path)) =
        (d.routeOf path).dropLast := by
  obtain ⟨more, hmore, htext⟩ := exists_absolute hd path
  rw [htext]
  exact ⟨(of_headTail ⟨_, String.toList_ofList⟩).1,
    names_parentName_absoluteText hmore (isEntryName_routeOf hd path)⟩

end Disk

namespace Surroundings

lemma linkFree_nested (r : Route) : (nested r).LinkFree := by
  induction r with
  | nil => exact .folder (by simp)
  | cons name r ih => exact .folder (by simpa using ih)

lemma linkFree_addFolders {top : Node} (h : top.LinkFree) (base r : Route) :
    (addFolders top base r).LinkFree := by
  induction r generalizing top base with
  | nil => exact h
  | cons name r ih =>
    refine ih ?_ _
    split
    · exact h
    · exact h.put (fun x hx => Option.some.inj hx ▸ .folder (by simp)) _

/-- In the tree at the start of a session there are no links. -/
lemma linkFree_disk (s : Surroundings) : s.disk.top.LinkFree := by
  have hfile (top : Node) (h : top.LinkFree) (f : StartFile) :
      (addFile s.clock.epochMicros top f).LinkFree :=
    (linkFree_addFolders h _ _).put (fun x hx => Option.some.inj hx ▸ .file _ _) _
  refine List.foldlRecOn s.folders addFolder ?_ fun top h path _ => linkFree_addFolders h _ _
  exact List.foldlRecOn s.files _ (linkFree_nested home) fun top h f _ => hfile top h f

/-- The names of the folder in which a session starts stand for themselves. -/
theorem isProper_disk (s : Surroundings) : s.disk.IsProper := by
  refine ⟨s.linkFree_disk, fun name hname => ?_⟩
  have hhome : name = "srv" ∨ name = "session" ∨ name = "root" := by
    simpa [disk, home] using hname
  rcases hhome with rfl | rfl | rfl <;> exact ⟨by simp, by simp, by simp, by simp⟩

end Surroundings

namespace Storage

variable {α : Type}

/-- What comes after checking a path is done only with a path. -/
lemma carryOut_checkPath_bind (path : String) (f : Unit → Act α) (w : World) :
    (checkPath path >>= f).carryOut w =
      if Disk.isPath path then (f ()).carryOut w else (.error .nullByte, w) := by
  unfold checkPath
  split <;> rfl

lemma carryOut_disk_bind (f : Disk → Act α) (w : World) :
    (disk >>= f).carryOut w = (f w.disk).carryOut w := rfl

/-- A path without slashes at its end spells the same route. -/
lemma routeOf_bare {d : Disk} {path : String} (hslash : ∃ rest, path.toList = '/' :: rest)
    (hnames : ∀ name ∈ Disk.names path, Disk.IsEntryName name) :
    d.routeOf (bare path) = Disk.names path := by
  obtain ⟨rest, hrest⟩ := hslash
  have hstart : (bare path).startsWith "/" = true := by
    rw [Disk.startsWith_slash, bare, String.toList_ofList, hrest]
    exact Disk.exists_dropSlashes_cons '/'
  have hsame : Disk.names (bare path) = Disk.names path := by
    rw [bare, Disk.names_dropSlashes, String.ofList_toList]
  rw [Disk.routeOf, Disk.startOf, if_pos hstart, hsame, Disk.destination_of_isEntryName [] hnames,
    List.nil_append]

/-- The names of the current folder go on standing for themselves when it is changed. -/
theorem isProper_changeFolder (v : Value) {w : World} (hw : w.disk.IsProper) :
    ((changeFolder v).carryOut w).2.disk.IsProper := by
  unfold changeFolder
  rw [Act.carryOut_bind, Act.carryOut_ofExcept]
  rcases lookupText "chdir" v with e | _ | path
  · exact hw
  · exact hw
  · dsimp only
    rw [carryOut_checkPath_bind, carryOut_disk_bind]
    split
    · cases hplace : w.disk.locate path with
      | found r n =>
        cases n with
        | file c m => exact hw
        | link goal => exact hw
        | folder es =>
          have hr : r = w.disk.routeOf path := by
            refine Disk.eq_routeOf_of_on hw.linkFree ?_
            rw [hplace]
            exact .found r _
          subst hr
          exact ⟨hw.linkFree, Disk.isEntryName_routeOf hw path⟩
      | vacant parent name slash => exact hw
      | failed e => exact hw
    · exact hw

end Storage

end ScriptHost
