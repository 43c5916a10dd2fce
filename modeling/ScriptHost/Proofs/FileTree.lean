import Mathlib.Tactic.Lemma
import ScriptHost.World.Disk

/-!
# Putting files into the tree

A file that is put where a path leads is what the path leads to afterwards. That is not immediate,
since a path is followed name by name, with detours through outer folders, in a tree that has
changed: what matters is that no folder lies at the place of the file or below it, so that all
folders on the way are still there and have the same names in them, but for that of the file.
-/

namespace ScriptHost

namespace Node

/-! ### Entries -/

lemma lookup_setEntry_self (name : String) (n : Node) (es : List (String × Node)) :
    (setEntry name (some n) es).lookup name = some n := by
  induction es with
  | nil => simp [setEntry]
  | cons e es ih =>
    obtain ⟨k, m⟩ := e
    unfold setEntry
    split
    · simp
    · next hk =>
      have hk' : (name == k) = false := by
        rw [beq_eq_false_iff_ne]
        exact fun h => hk (by simp [h])
      rw [List.lookup_cons, hk']
      exact ih

lemma lookup_setEntry_of_ne {name other : String} (hne : other ≠ name) (new : Option Node)
    (es : List (String × Node)) : (setEntry name new es).lookup other = es.lookup other := by
  have hother : (other == name) = false := beq_eq_false_iff_ne.2 hne
  induction es with
  | nil => cases new <;> simp [setEntry, List.lookup_cons, hother]
  | cons e es ih =>
    obtain ⟨k, m⟩ := e
    unfold setEntry
    split
    · next hk =>
      obtain rfl := beq_iff_eq.1 hk
      cases new <;> simp [List.lookup_cons, hother]
    · rw [List.lookup_cons, List.lookup_cons, ih]

lemma mem_of_lookup {es : List (String × Node)} {name : String} {n : Node}
    (h : es.lookup name = some n) : (name, n) ∈ es := by
  obtain ⟨before, after, rfl, -⟩ := List.lookup_eq_some_iff.1 h
  exact List.mem_append_right _ List.mem_cons_self

/-- An entry is an old one, or what was put there. -/
lemma mem_setEntry {name : String} {new : Option Node} {es : List (String × Node)}
    {e : String × Node} (h : e ∈ setEntry name new es) : e ∈ es ∨ new = some e.2 := by
  induction es with
  | nil => cases new <;> simp_all [setEntry]
  | cons k es ih =>
    unfold setEntry at h
    split at h
    · cases new with
      | none => exact .inl (List.mem_cons_of_mem k h)
      | some n =>
        rcases List.mem_cons.1 h with rfl | h
        · exact .inr rfl
        · exact .inl (List.mem_cons_of_mem k h)
    · rcases List.mem_cons.1 h with rfl | h
      · exact .inl List.mem_cons_self
      · exact (ih h).imp_left (List.mem_cons_of_mem k)

/-! ### Routes -/

lemma get?_append (n : Node) (a b : Route) :
    n.get? (a ++ b) = (n.get? a).bind fun m => m.get? b := by
  induction a generalizing n with
  | nil => simp [get?]
  | cons name a ih =>
    rw [List.cons_append, get?, get?]
    cases n.entries.lookup name with
    | none => rfl
    | some m => exact ih m

/-- One name further on: the entry of that name. -/
lemma get?_snoc {n m : Node} {r : Route} (h : n.get? r = some m) (name : String) :
    n.get? (r ++ [name]) = m.entries.lookup name := by
  rw [get?_append, h, Option.bind_some, get?]
  cases m.entries.lookup name <;> simp [get?]

/-- A file has nothing below it. -/
lemma get?_eq_none_of_file {n : Node} {content : List UInt8} {modified : Int} {r s : Route}
    (h : n.get? r = some (.file content modified)) (hs : s ≠ []) : n.get? (r ++ s) = none := by
  cases s with
  | nil => exact absurd rfl hs
  | cons name s => simp [get?_append, h, get?, entries]

/-- Putting a node at the end of a route that starts with a name touches only the entry of that
name. -/
lemma put_folder_cons (es : List (String × Node)) (name : String) (r : Route) (new : Option Node) :
    ∃ es', (folder es).put (name :: r) new = folder es' ∧
      ∀ other, other ≠ name → es'.lookup other = es.lookup other := by
  cases r with
  | nil => exact ⟨_, rfl, fun other h => lookup_setEntry_of_ne h new es⟩
  | cons next rest =>
    rw [put]
    split
    · exact ⟨_, rfl, fun other h => lookup_setEntry_of_ne h _ es⟩
    · exact ⟨es, rfl, fun _ _ => rfl⟩

/-- What is seen of a node without a look into it: a folder hides its entries. -/
def shape : Node → Node
  | folder _ => folder []
  | n => n

lemma isFolder_shape (n : Node) : n.shape.isFolder = n.isFolder := by
  cases n <;> rfl

lemma landing_shape (n : Node) : n.shape.landing = n.landing := by
  cases n <;> rfl

lemma landing_of_not_link {n : Node} (h : n.isLink = false) (place : Route) :
    n.landing place = place := by
  cases n with
  | link goal => cases h
  | _ => rfl

/-- Putting a node at the end of a route changes nothing about what is a file, a folder or a link,
except at that end and below. -/
lemma shape_get?_put (n : Node) (new : Option Node) {r s : Route} (h : ¬ r <+: s) :
    ((n.put r new).get? s).map shape = (n.get? s).map shape := by
  induction r generalizing n s with
  | nil => exact absurd List.nil_prefix h
  | cons name r ih =>
    cases n with
    | file c m => rw [put]
    | link goal => rw [put]
    | folder es =>
      obtain ⟨es', hput, hother⟩ := put_folder_cons es name r new
      cases s with
      | nil => simp [hput, get?, shape]
      | cons other s =>
        by_cases hname : other = name
        · subst hname
          have hr : ¬ r <+: s := fun hr => h (List.cons_prefix_cons.2 ⟨rfl, hr⟩)
          cases r with
          | nil => exact absurd List.nil_prefix hr
          | cons next rest =>
            rw [put]
            cases hlookup : es.lookup other with
            | none => rfl
            | some m =>
              simp only [get?, entries, lookup_setEntry_self, hlookup]
              exact ih m hr
        · rw [hput, get?, get?, entries, entries, hother other hname]

/-- What is put into a folder is there. -/
lemma get?_put_snoc {n m : Node} {parent : Route} (hparent : n.get? parent = some m)
    (hfolder : m.isFolder = true) (name : String) (x : Node) :
    (n.put (parent ++ [name]) (some x)).get? (parent ++ [name]) = some x := by
  induction parent generalizing n with
  | nil =>
    obtain rfl := Option.some.inj hparent
    cases n with
    | file c t => simp [isFolder] at hfolder
    | link goal => simp [isFolder] at hfolder
    | folder es => simp [put, get?, entries, lookup_setEntry_self]
  | cons first parent ih =>
    cases n with
    | file c t => simp [get?, entries] at hparent
    | link goal => simp [get?, entries] at hparent
    | folder es =>
      rw [get?, entries] at hparent
      cases hlookup : es.lookup first with
      | none => simp [hlookup] at hparent
      | some k =>
        rw [hlookup] at hparent
        have hput := ih hparent
        obtain ⟨next, rest, hroute⟩ : ∃ next rest, parent ++ [name] = next :: rest :=
          List.exists_cons_of_ne_nil (by simp)
        rw [hroute] at hput
        rw [List.cons_append, hroute, put, hlookup]
        simp only [get?, entries, lookup_setEntry_self]
        exact hput

/-- What is put in the place of something is there. -/
lemma get?_put_of_get? {n m : Node} {r : Route} (h : n.get? r = some m) (x : Node) :
    (n.put r (some x)).get? r = some x := by
  rcases List.eq_nil_or_concat r with rfl | ⟨parent, name, rfl⟩
  · cases n <;> simp [put, get?]
  · rw [List.concat_eq_append] at h ⊢
    rw [get?_append] at h
    cases hparent : n.get? parent with
    | none => simp [hparent] at h
    | some p =>
      refine get?_put_snoc hparent ?_ name x
      rw [hparent, Option.bind_some, get?] at h
      cases p with
      | file c t => simp [entries] at h
      | link goal => simp [entries] at h
      | folder es => rfl

/-! ### Trees without links -/

/-- A tree in which there are no links. -/
inductive LinkFree : Node → Prop
  | file (content : List UInt8) (modified : Int) : LinkFree (.file content modified)
  | folder {es : List (String × Node)} (hes : ∀ e ∈ es, LinkFree e.2) : LinkFree (.folder es)

namespace LinkFree

variable {n m : Node}

lemma isLink_eq (h : n.LinkFree) : n.isLink = false := by
  cases h <;> rfl

/-- What lies in a tree without links has none itself. -/
lemma get? (h : n.LinkFree) {r : Route} (hm : n.get? r = some m) : m.LinkFree := by
  induction r generalizing n with
  | nil => exact Option.some.inj hm ▸ h
  | cons name r ih =>
    cases h with
    | file => cases hm
    | folder hes =>
      rw [Node.get?, entries] at hm
      split at hm
      · next k hk => exact ih (hes _ (mem_of_lookup hk)) hm
      · cases hm

/-- None is there after something without links has been put into the tree. -/
lemma put (h : n.LinkFree) {new : Option Node} (hnew : ∀ x, new = some x → x.LinkFree) (r : Route) :
    (n.put r new).LinkFree := by
  induction r generalizing n with
  | nil =>
    cases new with
    | none => exact h
    | some x => exact hnew x rfl
  | cons name r ih =>
    cases h with
    | file content modified => exact .file content modified
    | folder hes =>
      cases r with
      | nil => exact .folder fun e he => (mem_setEntry he).elim (hes e) (hnew e.2)
      | cons next rest =>
        rw [Node.put]
        split
        · next k hk =>
          refine .folder fun e he => (mem_setEntry he).elim (hes e) fun hsame => ?_
          exact Option.some.inj hsame ▸ ih (hes _ (mem_of_lookup hk))
        · exact .folder hes

end LinkFree

end Node

/-- No folder lies at the end of a route or below it. -/
def Node.Folderless (top : Node) (r : Route) : Prop :=
  ∀ s n, top.get? s = some n → n.isFolder = true → ¬ r <+: s

lemma Node.folderless_of_file {top : Node} {r : Route} {content : List UInt8} {modified : Int}
    (h : top.get? r = some (.file content modified)) : top.Folderless r := by
  rintro _ n hn hfolder ⟨s, rfl⟩
  cases s with
  | nil =>
    rw [List.append_nil, h] at hn
    obtain rfl := Option.some.inj hn
    cases hfolder
  | cons name s =>
    rw [get?_eq_none_of_file h (by simp)] at hn
    cases hn

lemma Node.folderless_of_none {top : Node} {r : Route} (h : top.get? r = none) :
    top.Folderless r := by
  rintro _ n hn - ⟨s, rfl⟩
  rw [get?_append, h] at hn
  cases hn

lemma Node.exists_eq_folder {n : Node} (h : n.isFolder = true) : ∃ es, n = .folder es := by
  cases n with
  | file content modified => cases h
  | link goal => cases h
  | folder es => exact ⟨es, rfl⟩

/-- Folders stay folders when something is put where no folder is. -/
lemma Node.exists_folder_put {top : Node} {r s : Route} {es : List (String × Node)}
    (hfree : top.Folderless r) (x : Node) (hn : top.get? s = some (.folder es)) :
    ∃ es', (top.put r (some x)).get? s = some (.folder es') := by
  have hkept := shape_get?_put top (some x) (hfree s _ hn rfl)
  rw [hn, Option.map_some] at hkept
  obtain ⟨n', hn', hshape⟩ := Option.map_eq_some_iff.1 hkept
  obtain ⟨es', rfl⟩ := exists_eq_folder (n := n') (by rw [← isFolder_shape, hshape]; rfl)
  exact ⟨es', hn'⟩

/-- The names in a folder stay in it when something that is no link is put where neither a folder
nor a link is, and they lead on as before. -/
lemma Node.exists_get?_put {top x m : Node} {r s : Route} {es : List (String × Node)}
    {name : String} (hfree : top.Folderless r) (hreal : ∀ n, top.get? r = some n → n.isLink = false)
    (hx : x.isLink = false) (hput : (top.put r (some x)).get? r = some x)
    (hn : top.get? s = some (.folder es)) (hm : top.get? (s ++ [name]) = some m) :
    ∃ m', (top.put r (some x)).get? (s ++ [name]) = some m' ∧
      m'.landing (s ++ [name]) = m.landing (s ++ [name]) := by
  by_cases hr : r <+: s ++ [name]
  · -- The name is that of what was put there.
    have hsame : r = s ++ [name] :=
      (List.prefix_concat_iff.1 hr).resolve_right (hfree s _ hn rfl)
    subst hsame
    refine ⟨x, hput, ?_⟩
    rw [landing_of_not_link hx, landing_of_not_link (hreal m hm)]
  · have hsame := shape_get?_put top (some x) hr
    rw [hm, Option.map_some] at hsame
    obtain ⟨m', hm', hshape⟩ := Option.map_eq_some_iff.1 hsame
    exact ⟨m', hm', by rw [← landing_shape m', hshape, landing_shape]⟩

/-- A place on a route: what is found there, or a free name. -/
inductive Place.On : Place → Route → Prop
  | found (r : Route) (n : Node) : On (.found r n) r
  | vacant (parent : Route) (name : String) (slash : Bool) :
    On (.vacant parent name slash) (parent ++ [name])

namespace Disk

/-! ### Where names lead -/

/-- A name that can be that of an entry: neither one dot nor two, and not too long. -/
structure IsOrdinary (name : String) : Prop where
  ne_dot : name ≠ "."
  ne_dots : name ≠ ".."
  nameSize_le : nameSize name ≤ 255

/-- Names lead from a place in a tree to another one: a dot stays, two dots go back, the name of an
entry goes on to it, or to where it leads if it is a link, and the last name may be free. -/
inductive Leads (top : Node) (slash : Bool) : Route → List String → Place → Prop
  | stop {at_ n} (hn : top.get? at_ = some n) (hlink : n.isLink = false)
    (hslash : slash = true → n.isFolder = true) : Leads top slash at_ [] (.found at_ n)
  | stay {at_ es ns p} (hn : top.get? at_ = some (.folder es)) (hrest : Leads top slash at_ ns p) :
    Leads top slash at_ ("." :: ns) p
  | back {at_ es ns p} (hn : top.get? at_ = some (.folder es))
    (hrest : Leads top slash at_.dropLast ns p) : Leads top slash at_ (".." :: ns) p
  | enter {at_ es name m ns p} (hn : top.get? at_ = some (.folder es)) (hname : IsOrdinary name)
    (hentry : es.lookup name = some m)
    (hrest : Leads top slash (m.landing (at_ ++ [name])) ns p) : Leads top slash at_ (name :: ns) p
  | free {at_ es name} (hn : top.get? at_ = some (.folder es)) (hname : IsOrdinary name)
    (hentry : es.lookup name = none) : Leads top slash at_ [name] (.vacant at_ name slash)

variable {top n : Node} {slash : Bool} {at_ r : Route} {name : String} {ns : List String}
    {p : Place}
  {es : List (String × Node)}

lemma follow_dot (hn : top.get? at_ = some (.folder es)) :
    follow top slash at_ ("." :: ns) = follow top slash at_ ns := by
  rw [follow, hn]
  rfl

lemma follow_dots (hn : top.get? at_ = some (.folder es)) :
    follow top slash at_ (".." :: ns) = follow top slash at_.dropLast ns := by
  rw [follow, hn]
  rfl

lemma follow_name (hn : top.get? at_ = some (.folder es)) (hname : IsOrdinary name) :
    follow top slash at_ (name :: ns) = match es.lookup name with
      | some m => follow top slash (m.landing (at_ ++ [name])) ns
      | none => if ns.isEmpty then .vacant at_ name slash else .failed .noEntry := by
  have hfolder : ¬ (!(Node.folder es).isFolder) = true := Bool.false_ne_true
  rw [follow, hn]
  dsimp only
  rw [if_neg hfolder, if_neg (by simpa using hname.ne_dot), if_neg (by simpa using hname.ne_dots),
    if_neg (Nat.not_lt.2 hname.nameSize_le)]
  rfl

/-- Names are followed to where they lead. -/
lemma Leads.follow_eq (h : Leads top slash at_ ns p) : follow top slash at_ ns = p := by
  induction h with
  | stop hn hlink hslash =>
    rw [follow, hn, Option.filter_some, hlink]
    exact if_neg (by simpa using hslash)
  | stay hn _ ih => rw [follow_dot hn, ih]
  | back hn _ ih => rw [follow_dots hn, ih]
  | enter hn hname hentry _ ih =>
    rw [follow_name hn hname, hentry]
    exact ih
  | free hn hname hentry =>
    rw [follow_name hn hname, hentry]
    rfl

/-- Names lead to where they are followed. -/
lemma leads_of_on (h : (follow top slash at_ ns).On r) :
    Leads top slash at_ ns (follow top slash at_ ns) := by
  fun_induction follow top slash at_ ns with
  | case2 at_ n hn hslash =>
    obtain ⟨hn, hlink⟩ := Option.filter_eq_some_iff.1 hn
    exact .stop hn (by simpa using hlink) (by simpa using hslash)
  | case6 at_ name ns n hn hfolder hdot ih =>
    obtain ⟨es, rfl⟩ := Node.exists_eq_folder (by simpa using hfolder)
    obtain rfl := eq_of_beq hdot
    exact .stay hn (ih h)
  | case7 at_ name ns n hn hfolder hdot hdots ih =>
    obtain ⟨es, rfl⟩ := Node.exists_eq_folder (by simpa using hfolder)
    obtain rfl := eq_of_beq hdots
    exact .back hn (ih h)
  | case9 at_ name ns n hn hfolder hdot hdots hsize m hentry ih =>
    obtain ⟨es, rfl⟩ := Node.exists_eq_folder (by simpa using hfolder)
    exact .enter hn ⟨mt beq_iff_eq.2 hdot, mt beq_iff_eq.2 hdots, Nat.le_of_not_lt hsize⟩ hentry
      (ih h)
  | case10 at_ name ns n hn hfolder hdot hdots hsize hentry hlast =>
    obtain ⟨es, rfl⟩ := Node.exists_eq_folder (by simpa using hfolder)
    obtain rfl := List.isEmpty_iff.1 hlast
    exact .free hn ⟨mt beq_iff_eq.2 hdot, mt beq_iff_eq.2 hdots, Nat.le_of_not_lt hsize⟩ hentry
  | _ => cases h

namespace Leads

/-- What names lead to is there and no link, and a free name is free in a folder. -/
lemma place (h : Leads top slash at_ ns p) :
    (∃ r n, p = .found r n ∧ top.get? r = some n ∧ n.isLink = false) ∨
      ∃ parent es name, p = .vacant parent name slash ∧ top.get? parent = some (.folder es) ∧
        es.lookup name = none := by
  induction h with
  | stop hn hlink _ => exact .inl ⟨_, _, rfl, hn, hlink⟩
  | stay _ _ ih => exact ih
  | back _ _ ih => exact ih
  | enter _ _ _ _ ih => exact ih
  | free hn _ hentry => exact .inr ⟨_, _, _, rfl, hn, hentry⟩

/-- After a file has been put where names lead, they lead to the file: the folders and links on the
way are none of those that the file could hide. -/
theorem put (h : Leads top false at_ ns p) (hon : p.On r) {x : Node} (hfree : top.Folderless r)
    (hreal : ∀ n, top.get? r = some n → n.isLink = false) (hx : x.isLink = false)
    (hput : (top.put r (some x)).get? r = some x) :
    Leads (top.put r (some x)) false at_ ns (.found r x) := by
  have hend : Leads (top.put r (some x)) false r [] (.found r x) := .stop hput hx (by simp)
  induction h with
  | stop _ _ _ =>
    cases hon
    exact hend
  | stay hn _ ih =>
    obtain ⟨es', hn'⟩ := Node.exists_folder_put hfree x hn
    exact .stay hn' (ih hon)
  | back hn _ ih =>
    obtain ⟨es', hn'⟩ := Node.exists_folder_put hfree x hn
    exact .back hn' (ih hon)
  | @enter _ _ name _ _ _ hn hname hentry _ ih =>
    obtain ⟨es', hn'⟩ := Node.exists_folder_put hfree x hn
    obtain ⟨m', hm', hlanding⟩ := Node.exists_get?_put hfree hreal hx hput hn
      ((Node.get?_snoc hn name).trans hentry)
    refine .enter hn' hname ((Node.get?_snoc hn' name).symm.trans hm') ?_
    rw [hlanding]
    exact ih hon
  | @free at_ _ name hn hname _ =>
    cases hon
    obtain ⟨es', hn'⟩ := Node.exists_folder_put hfree x hn
    refine .enter hn' hname ((Node.get?_snoc hn' name).symm.trans hput) ?_
    rw [Node.landing_of_not_link hx]
    exact hend

end Leads

/-! ### Where paths lead -/

variable {d : Disk} {path : String}

/-- A path leads where its names lead, if it is neither empty nor too long. -/
lemma locate_of_leads (hempty : path ≠ "") (hlong : path.utf8ByteSize ≤ 4095)
    (h : Leads d.top (path.endsWith "/") (d.startOf path) (names path) p) : d.locate path = p := by
  rw [locate, if_neg (mt String.isEmpty_iff.1 hempty), if_neg (Nat.not_lt.2 hlong)]
  exact h.follow_eq

lemma leads_of_locate (h : d.locate path = p) (hon : p.On r) :
    path ≠ "" ∧ path.utf8ByteSize ≤ 4095 ∧
      Leads d.top (path.endsWith "/") (d.startOf path) (names path) p := by
  subst h
  unfold locate at hon ⊢
  split at hon
  · cases hon
  · next hempty =>
    split at hon
    · cases hon
    · next hlong =>
      rw [if_neg hempty, if_neg hlong]
      exact ⟨mt String.isEmpty_iff.2 hempty, Nat.le_of_not_lt hlong, leads_of_on hon⟩

/-- After a file has been put where a path leads, in the place of a file or under a free name, the
path leads to the file. -/
theorem locate_put (content : List UInt8) (modified : Int) (hslash : path.endsWith "/" = false)
    (h : (d.locate path).On r) (hfile : ∀ n, d.locate path = .found r n → n.isFolder = false) :
    (d.put r (some (.file content modified))).locate path =
      .found r (.file content modified) := by
  obtain ⟨hempty, hlong, hleads⟩ := leads_of_locate rfl h
  rw [hslash] at hleads
  suffices hfree : d.top.Folderless r ∧ (∀ n, d.top.get? r = some n → n.isLink = false) ∧
      (d.top.put r (some (.file content modified))).get? r = some (.file content modified) by
    refine locate_of_leads hempty hlong ?_
    rw [hslash]
    exact hleads.put h hfree.1 hfree.2.1 rfl hfree.2.2
  rcases hleads.place with ⟨_, n, hfound, hn, hlink⟩ | ⟨parent, es, name, hvacant, hn, hnone⟩
  · rw [hfound] at h hfile
    cases h
    have hnot := hfile n rfl
    cases n with
    | folder es => cases hnot
    | link goal => cases hlink
    | file c t =>
      refine ⟨Node.folderless_of_file hn, fun n hn' => ?_, Node.get?_put_of_get? hn _⟩
      obtain rfl := Option.some.inj (hn.symm.trans hn')
      rfl
  · rw [hvacant] at h
    cases h
    have hfree := (Node.get?_snoc hn name).trans hnone
    refine ⟨Node.folderless_of_none hfree, fun n hn' => ?_, Node.get?_put_snoc hn rfl name _⟩
    rw [hfree] at hn'
    cases hn'

/-- What a path leads to is there. -/
lemma get?_of_locate (h : d.locate path = .found r n) : d.top.get? r = some n := by
  obtain ⟨-, -, hleads⟩ := leads_of_locate h (.found r n)
  rcases hleads.place with ⟨_, _, hfound, hn, -⟩ | ⟨_, _, _, hvacant, _⟩
  · cases hfound
    exact hn
  · cases hvacant

/-- A free name that a path leads to is free in a folder. -/
lemma exists_folder_of_locate {parent : Route} (h : d.locate path = .vacant parent name slash) :
    ∃ m, d.top.get? parent = some m ∧ m.isFolder = true ∧
      d.top.get? (parent ++ [name]) = none := by
  obtain ⟨-, -, hleads⟩ := leads_of_locate h (.vacant parent name slash)
  rcases hleads.place with ⟨_, _, hfound, _⟩ | ⟨_, es, _, hvacant, hn, hnone⟩
  · cases hfound
  · cases hvacant
    exact ⟨.folder es, hn, rfl, (Node.get?_snoc hn name).trans hnone⟩

end Disk

end ScriptHost
