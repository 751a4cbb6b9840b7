import Mathlib.Data.List.Nodup
import Mathlib.Logic.Function.Basic
import NxReverse.Tools.FtpSync

/-! A pull that deletes what it has downloaded, against a server that lists the names of a tree and may fail at every
command. Each step changes local files under its own entry, and under the temporary name beside it; what it deletes on
the server it leaves in the entry's own local file. -/
namespace NxReverse.Tools.FtpSync

open Program PurePosixPath

/-- Every directory lists each of its entries once, by name. -/
def Tree.WellNamed (tree : Tree) : Prop := ∀ rel entries, tree.at_ rel = some (.dir entries) →
  (entries.map Prod.fst).Nodup ∧ ∀ entry ∈ entries, IsName entry.1

structure RemoteTree where
  entries : List (Name × Tree)
  wellNamed : (Tree.dir entries).WellNamed

abbrev RemoteTree.tree (remote : RemoteTree) : Tree := .dir remote.entries

/-- What a server with the tree at `root` answers where it does not fail. A listing that fails may have given the first
names. -/
def Serves (tree : Tree) (root : PurePosixPath) : Exchange Answer → Prop
  | ⟨.nlst dir,listed⟩ => ∀ rel entries, dir = root.below rel → tree.at_ rel = some (.dir entries) →
      listed.1 <+: entries.map Prod.fst ∧ (listed.2 = none → listed.1 = entries.map Prod.fst)
  | ⟨.cwd path,answer⟩ => answer = .ok () → ∀ rel, path = root.below rel → ∃ entries, tree.at_ rel = some (.dir entries)
  | ⟨.retr path,received⟩ => received.2 = none → ∀ rel, path = root.below rel →
      tree.at_ rel = some (.file received.1)
  | _ => True

/-- The local files, and the remote paths for which a deletion was sent. -/
structure Pulled where
  files : PurePosixPath → Option Bytes
  deleted : List PurePosixPath

/-- The effect of a command. A deletion may be carried out even if its answer is lost. -/
def Pulled.step (pulled : Pulled) : Exchange Answer → Pulled
  | ⟨.openWb path,true⟩ => { pulled with files := Function.update pulled.files path (some []) }
  | ⟨.write path data,failed⟩ =>
    let written := (pulled.files path).getD [] ++ data.take (failed.getD data.length)
    { pulled with files := Function.update pulled.files path (some written) }
  | ⟨.unlink path,true⟩ => { pulled with files := Function.update pulled.files path none }
  | ⟨.replace path target,true⟩ =>
    let without := Function.update pulled.files path none
    { pulled with files := Function.update without target (pulled.files path) }
  | ⟨.dele path,_⟩ => { pulled with deleted := path :: pulled.deleted }
  | _ => pulled

/-- The walk does not skip the name, as it does where the name is the directory's own path. -/
abbrev Walked (dir : PurePosixPath) (name : Name) : Prop := normalizeRemoteEntry dir name ≠ dir

inductive Visited (remote : RemoteTree) (root : PurePosixPath) : List Name → List (Name × Tree) → Prop
  | root : Visited remote root [] remote.entries
  | child {rel : List Name} {entries children : List (Name × Tree)} {name : Name} (above : Visited remote root rel entries)
    (member : (name,.dir children) ∈ entries) (walked : Walked (root.below rel) name) :
    Visited remote root (rel ++ [name]) children

/-- No file has the temporary name of a later entry. -/
def NoTemporary (dir : PurePosixPath) (entries : List (Name × Tree)) : Prop :=
  entries.Pairwise fun earlier later => Walked dir earlier.1 → Walked dir later.1 →
    (∃ content, earlier.2 = .file content) → earlier.1 ≠ temporaryName later.1

/-- Whatever the server answers and whatever fails: each path whose deletion was sent is a remote file, and its contents
are in the local file at its own place. -/
def KeepsDeleted (remote : RemoteTree) (root base : PurePosixPath) : Prop :=
  ∀ fuel files, Tracks Pulled.step (Serves remote.tree root) (pullRemoteTree true fuel root base).run ⟨files,[]⟩
    fun last _ => ∀ path ∈ last.deleted, ∃ rel content, path = root.below rel ∧
      remote.tree.at_ rel = some (.file content) ∧ last.files (base.below rel) = some content

variable {β : Type} {remote : RemoteTree} {root base : PurePosixPath} {rel : List Name} {name : Name}

theorem normalize_name {dir : PurePosixPath} (proper : IsName name) (walked : Walked dir name) :
    normalizeRemoteEntry dir name = dir.below [name] := by
  rw [Walked,normalizeRemoteEntry] at walked
  rw [normalizeRemoteEntry]
  by_cases same : ofText name = dir
  · rw [if_pos same] at walked
    exact absurd same walked
  · rw [if_neg same,join_name dir proper,ofText_name proper]
    rfl

theorem below_below (path : PurePosixPath) (rel more : List Name) :
    (path.below rel).below more = path.below (rel ++ more) := by
  simp [below]

theorem temporaryName_ne (name : Name) : temporaryName name ≠ name := by
  intro same
  have length := congrArg List.length same
  simp only [temporaryName,List.length_append,List.length_cons] at length
  omega

/-- An entry of a directory is found under its name. -/
theorem at_entry {entries : List (Name × Tree)} (here : remote.tree.at_ rel = some (.dir entries)) {child : Tree}
    (member : (name,child) ∈ entries) : remote.tree.at_ (rel ++ [name]) = some child := by
  rw [Tree.at_append here,Tree.at_,Dicts.get_of_mem (remote.wellNamed rel entries here).1 member]
  rfl

theorem Visited.at {entries : List (Name × Tree)} (visited : Visited remote root rel entries) :
    remote.tree.at_ rel = some (.dir entries) := by
  induction visited with
  | root => rfl
  | child above member walked ih => exact at_entry ih member

structure Advance (remote : RemoteTree) (root base : PurePosixPath) (rel todo : List Name) (before last : Pulled) :
    Prop where
  frame : ∀ path, (∀ name ∈ todo, path ≠ base.below (rel ++ [temporaryName name]) ∧
    ∀ more, path ≠ base.below (rel ++ name :: more)) → last.files path = before.files path
  kept : ∀ path ∈ last.deleted, path ∈ before.deleted ∨ ∃ name ∈ todo, ∃ more content,
    path = root.below (rel ++ name :: more) ∧ remote.tree.at_ (rel ++ name :: more) = some (.file content) ∧
      last.files (base.below (rel ++ name :: more)) = some content

variable {todo : List Name} {before middle last : Pulled}

theorem Advance.refl (pulled : Pulled) : Advance remote root base rel todo pulled pulled :=
  ⟨fun _ _ => rfl,fun _ => .inl⟩

/-- Only the temporary file was touched. -/
theorem Advance.temporary (files : ∀ path, path ≠ base.below (rel ++ [temporaryName name]) →
    last.files path = before.files path) (deleted : last.deleted = before.deleted) :
    Advance remote root base rel [name] before last :=
  ⟨fun path apart => files path (apart name List.mem_cons_self).1,fun _ member => .inl (deleted ▸ member)⟩

theorem Advance.weaken {more : List Name} (advance : Advance remote root base rel todo before last)
    (part : ∀ name ∈ todo, name ∈ more) : Advance remote root base rel more before last := by
  refine ⟨fun path apart => advance.frame path fun name member => apart name (part name member),fun path member => ?_⟩
  rcases advance.kept path member with earlier | ⟨name,listed,rest⟩
  · exact .inl earlier
  · exact .inr ⟨name,part name listed,rest⟩

/-- What was pulled below an entry. -/
theorem Advance.child (advance : Advance remote root base (rel ++ [name]) todo before last) :
    Advance remote root base rel [name] before last := by
  constructor
  · intro path apart
    refine advance.frame path fun other _ => ?_
    simp only [List.append_assoc,List.singleton_append]
    have outside := (apart name List.mem_cons_self).2
    exact ⟨outside _,fun more => outside _⟩
  · intro path member
    rcases advance.kept path member with earlier | ⟨other,_,more,content,rest⟩
    · exact .inl earlier
    · rw [List.append_assoc,List.singleton_append] at rest
      exact .inr ⟨name,List.mem_cons_self,other :: more,content,rest⟩

/-- An entry and then the others. It is not lost where it is none of their temporary files. -/
theorem Advance.cons (first : Advance remote root base rel [name] before middle)
    (rest : Advance remote root base rel todo middle last) (new : name ∉ todo)
    (clear : ∀ content, remote.tree.at_ (rel ++ [name]) = some (.file content) →
      ∀ other ∈ todo, name ≠ temporaryName other) : Advance remote root base rel (name :: todo) before last := by
  constructor
  · intro path apart
    obtain ⟨here,others⟩ := List.forall_mem_cons.mp apart
    exact (rest.frame path others).trans (first.frame path (List.forall_mem_singleton.mpr here))
  · intro path member
    rcases rest.kept path member with earlier | ⟨other,listed,kept⟩
    · rcases first.kept path earlier with old | ⟨same,only,more,content,rfl,found,kept⟩
      · exact .inl old
      · obtain rfl := List.mem_singleton.mp only
        refine .inr ⟨same,List.mem_cons_self,more,content,rfl,found,(rest.frame _ fun other listed => ⟨?_,?_⟩).trans kept⟩
        · intro clash
          have names := List.append_cancel_left (below_inj.mp clash)
          obtain ⟨rfl,rfl⟩ := List.cons.inj names
          exact clear content found other listed rfl
        · intro later clash
          have names := List.append_cancel_left (below_inj.mp clash)
          exact new ((List.cons.inj names).1 ▸ listed)
    · exact .inr ⟨other,List.mem_cons_of_mem _ listed,kept⟩

abbrev Runs (remote : RemoteTree) (root : PurePosixPath) {α : Type} (x : Ftp α) (before : Pulled)
    (Q : Pulled → Except Raised α → Prop) : Prop := Tracks Pulled.step (Serves remote.tree root) x.run before Q

theorem runs_check {succeeded : Bool} {Q : Pulled → Except Raised Unit → Prop}
    (yes : succeeded = true → Q before (.ok ())) (no : succeeded = false → Q before (.error .system)) :
    Runs remote root (check succeeded) before Q := by
  cases succeeded
  · exact tracks_throw (no rfl)
  · exact tracks_pure (yes rfl)

/-- A check goes on if it succeeds, and ends the run otherwise. -/
theorem runs_check_bind {α : Type} {succeeded : Bool} {f : Unit → Ftp α} {Q : Pulled → Except Raised α → Prop}
    (yes : succeeded = true → Runs remote root (f ()) before Q) (no : succeeded = false → Q before (.error .system)) :
    Runs remote root (check succeeded >>= f) before Q := by
  refine tracks_bind (runs_check (fun done => ⟨fun _ _ => yes done,nofun⟩) fun failed => ⟨nofun,?_⟩)
  rintro e same
  cases same
  exact no failed

/-- The temporary file has all of the contents and nothing else was touched; the rest keeps them. -/
theorem keepDownload_runs {content : Bytes} (found : remote.tree.at_ (rel ++ [name]) = some (.file content))
    (written : middle.files (base.below (rel ++ [temporaryName name])) = some content)
    (files : ∀ path, path ≠ base.below (rel ++ [temporaryName name]) → middle.files path = before.files path)
    (deleted : middle.deleted = before.deleted) :
    Runs remote root (keepDownload (root.below (rel ++ [name])) (base.below (rel ++ [name]))
      (base.below (rel ++ [temporaryName name])) true) middle fun last _ =>
        Advance remote root base rel [name] before last := by
  have local_ : base.below (rel ++ [name]) ≠ base.below (rel ++ [temporaryName name]) := by
    simp [below_inj,(temporaryName_ne name).symm]
  refine tracks_ask fun replaced _ => runs_check_bind (fun done => ?_) fun failed => ?_
  · subst done
    have moved : ∀ deletion, (∀ path ∈ deletion, path ∈ before.deleted ∨ path = root.below (rel ++ [name])) →
        Advance remote root base rel [name] before
          { Pulled.step middle ⟨.replace (base.below (rel ++ [temporaryName name])) (base.below (rel ++ [name])),true⟩
            with deleted := deletion } := by
      intro deletion sent
      constructor
      · intro path apart
        obtain ⟨notTemporary,notLocal⟩ := apart name List.mem_cons_self
        simp [Pulled.step,Function.update_of_ne (notLocal []),Function.update_of_ne notTemporary,files path notTemporary]
      · intro path member
        refine (sent path member).imp_right fun here => ⟨name,List.mem_cons_self,[],content,here,found,?_⟩
        simp [Pulled.step,written]
    refine tracks_ask fun answer _ => ?_
    have sent := moved (root.below (rel ++ [name]) :: before.deleted) fun path member =>
      (List.mem_cons.mp member).symm
    rw [← deleted] at sent
    split
    · split
      · exact tracks_pure sent
      · exact tracks_throw sent
    · exact tracks_throw sent
    · exact tracks_pure sent
  · subst failed
    exact Advance.temporary files deleted

theorem unlink_files (pulled : Pulled) {path other : PurePosixPath} (apart : other ≠ path) :
    (Pulled.step pulled ⟨.unlink path,true⟩).files other = pulled.files other := by
  simp [Pulled.step,Function.update_of_ne apart]

theorem transfer_runs (before : Pulled) :
    Runs remote root (transfer (root.below (rel ++ [name])) (base.below (rel ++ [name]))
      (base.below (rel ++ [temporaryName name])) true) before fun last _ =>
        Advance remote root base rel [name] before last := by
  refine tracks_ask fun opened _ => runs_check_bind (fun done => ?_) fun failed => ?_
  · subst done
    refine tracks_ask fun received serves => tracks_ask fun failed _ => ?_
    -- what has been written so far, all of it or a part
    have touched : ∀ path, path ≠ base.below (rel ++ [temporaryName name]) →
        (Pulled.step (Pulled.step (Pulled.step before ⟨.openWb (base.below (rel ++ [temporaryName name])),true⟩)
          ⟨.retr (root.below (rel ++ [name])),received⟩)
          ⟨.write (base.below (rel ++ [temporaryName name])) received.1,failed⟩).files path = before.files path :=
      fun path other => by simp [Pulled.step,Function.update_of_ne other]
    refine runs_check_bind (fun all => ?_) fun _ => Advance.temporary touched rfl
    obtain rfl := Option.isNone_iff_eq_none.mp all
    split
    · refine tracks_ask fun unlinked _ => runs_check_bind (fun done => ?_) fun failed => ?_
      · subst done
        have removed := fun path other => (unlink_files _ other).trans (touched path other)
        split
        · exact tracks_pure (Advance.temporary removed rfl)
        · exact tracks_throw (Advance.temporary removed rfl)
      · subst failed
        exact Advance.temporary touched rfl
    · exact tracks_throw (Advance.temporary touched rfl)
    next ended => exact keepDownload_runs (serves ended _ rfl) (by simp [Pulled.step]) touched rfl
  · subst failed
    exact Advance.refl before

theorem downloadFile_runs (proper : IsName name) (before : Pulled) :
    Runs remote root (downloadFile (root.below (rel ++ [name])) (base.below (rel ++ [name])) true) before
      fun last _ => Advance remote root base rel [name] before last := by
  have temporary := withName_below base rel proper.1 (temporaryName name)
  refine tracks_ask fun made _ => runs_check_bind (fun _ => ?_) fun _ => Advance.refl before
  rw [name_below,temporary]
  exact transfer_runs before

abbrev Looks (remote : RemoteTree) (root : PurePosixPath) {α : Type} (P : α → Prop) (x : Ftp α) : Prop :=
  ∀ before, Runs remote root x before fun last result => last = before ∧ ∀ value, result = .ok value → P value

theorem looks_expect {α : Type} (answer : Except Failure α) : Looks remote root (fun _ => True) (expect answer) := by
  intro before
  cases answer with
  | ok value => exact tracks_pure ⟨rfl,fun _ _ => trivial⟩
  | error failure => exact tracks_throw ⟨rfl,nofun⟩

/-- Behind a look the run goes on from the same state. -/
theorem Looks.bind {α β : Type} {P : α → Prop} {x : Ftp α} (looks : Looks remote root P x) {f : α → Ftp β}
    {Q : Pulled → Except Raised β → Prop} (later : ∀ value, P value → Runs remote root (f value) before Q)
    (stops : ∀ e, Q before (.error e)) : Runs remote root (x >>= f) before Q := by
  refine tracks_bind ((looks before).mono fun last result holds => ?_)
  obtain ⟨rfl,returns⟩ := holds
  exact ⟨fun value returned => later value (returns value returned),fun e _ => stops e⟩

theorem isRemoteDir_looks (rel : List Name) : Looks remote root
    (fun directory => directory = true → ∃ entries, remote.tree.at_ rel = some (.dir entries))
    (isRemoteDir (root.below rel)) := by
  intro before
  refine tracks_ask fun current _ => (looks_expect current).bind (fun _ _ => ?_) fun _ => ⟨rfl,nofun⟩
  refine tracks_ask fun changed serves => tracks_ask fun restored _ => ?_
  refine (looks_expect restored).bind (fun _ _ => ?_) fun _ => ⟨rfl,nofun⟩
  split
  · refine tracks_pure ⟨rfl,fun value returned _ => serves rfl rel rfl⟩
  · refine tracks_pure ⟨rfl,fun value returned found => ?_⟩
    cases returned
    cases found
  · exact tracks_throw ⟨rfl,nofun⟩

theorem removeDir_looks (path : PurePosixPath) : Looks remote root (fun _ => True) (removeDir path) := by
  intro before
  refine tracks_ask fun removed _ => ?_
  split
  · exact tracks_pure ⟨rfl,fun _ _ => trivial⟩
  · exact tracks_pure ⟨rfl,fun _ _ => trivial⟩
  · exact tracks_throw ⟨rfl,nofun⟩

theorem listRemoteEntries_looks {entries : List (Name × Tree)} (here : remote.tree.at_ rel = some (.dir entries)) :
    Looks remote root (fun paths => ∃ names, names <+: entries.map Prod.fst ∧
      paths = names.map (normalizeRemoteEntry (root.below rel))) (listRemoteEntries (root.below rel)) := by
  have files : Looks remote root (fun names => names <+: entries.map Prod.fst) (listRemoteFiles (root.below rel)) := by
    intro before
    refine tracks_ask fun listed serves => ?_
    have names := (serves rel entries rfl here).1
    have returns : ∀ value, (Except.ok listed.1 : Except Raised _) = .ok value → value <+: entries.map Prod.fst := by
      rintro value same
      cases same
      exact names
    split
    · exact tracks_pure ⟨rfl,returns⟩
    · exact tracks_pure ⟨rfl,returns⟩
    · split
      · exact tracks_pure ⟨rfl,returns⟩
      · exact tracks_throw ⟨rfl,nofun⟩
    · exact tracks_throw ⟨rfl,nofun⟩
  intro before
  refine files.bind (fun names listed => tracks_pure ⟨rfl,fun value returned => ?_⟩) fun _ => ⟨rfl,nofun⟩
  cases returned
  exact ⟨names,listed,rfl⟩

/-- An entry's step, and then the loop over the others. -/
theorem Advance.then {x : Ftp β} {names : List Name} {f : β → Ftp Nat}
    (first : Runs remote root x before fun last _ => Advance remote root base rel [name] before last)
    (new : name ∉ names) (clear : ∀ content, remote.tree.at_ (rel ++ [name]) = some (.file content) →
      ∀ other ∈ names, name ≠ temporaryName other)
    (rest : ∀ value middle, Runs remote root (f value) middle fun last _ =>
      Advance remote root base rel names middle last) :
    Runs remote root (x >>= f) before fun last _ => Advance remote root base rel (name :: names) before last := by
  refine tracks_bind (first.mono fun middle result advance => ⟨fun value _ => ?_,fun _ _ => ?_⟩)
  · exact (rest value middle).mono fun last _ later => advance.cons later new clear
  · exact advance.weaken fun other member => List.mem_singleton.mp member ▸ List.mem_cons_self

section Entries

variable {entries : List (Name × Tree)} (here : remote.tree.at_ rel = some (.dir entries))
include here

/-- The names that a listing gives can be pulled one after the other. -/
theorem clear_names (clear : NoTemporary (root.below rel) entries) :
    (entries.map Prod.fst).Pairwise fun earlier later => Walked (root.below rel) earlier →
      Walked (root.below rel) later → ∀ content, remote.tree.at_ (rel ++ [earlier]) = some (.file content) →
        earlier ≠ temporaryName later := by
  rw [List.pairwise_map]
  refine List.Pairwise.imp_of_mem ?_ clear
  intro earlier later member _ apart walked walkedToo content found
  refine apart walked walkedToo ⟨content,?_⟩
  rw [at_entry here member] at found
  exact Option.some.inj found

theorem pullEntries_runs {pull : PurePosixPath → PurePosixPath → Ftp Nat}
    (descends : ∀ name children, (name,Tree.dir children) ∈ entries → Walked (root.below rel) name → ∀ before,
      Runs remote root (pull (root.below (rel ++ [name])) (base.below (rel ++ [name]))) before fun last _ =>
        Advance remote root base rel [name] before last)
    (names : List Name) (listed : ∀ name ∈ names, name ∈ entries.map Prod.fst) (distinct : names.Nodup)
    (clear : names.Pairwise fun earlier later => Walked (root.below rel) earlier → Walked (root.below rel) later →
      ∀ content, remote.tree.at_ (rel ++ [earlier]) = some (.file content) → earlier ≠ temporaryName later)
    (downloaded : Nat) (before : Pulled) :
    Runs remote root (pullEntries pull (root.below rel) (base.below rel) true
      (names.map (normalizeRemoteEntry (root.below rel))) downloaded) before fun last _ =>
        Advance remote root base rel (names.filter fun name => Walked (root.below rel) name) before last := by
  induction names generalizing downloaded before with
  | nil => exact tracks_pure (Advance.refl before)
  | cons name names ih =>
    obtain ⟨member,members⟩ := List.forall_mem_cons.mp listed
    obtain ⟨new,others⟩ := List.nodup_cons.mp distinct
    obtain ⟨apart,later⟩ := List.pairwise_cons.mp clear
    obtain ⟨⟨same,child⟩,entry,equal⟩ := List.mem_map.mp member
    obtain rfl : same = name := equal
    have proper : IsName same := (remote.wellNamed rel entries here).2 _ entry
    have found := at_entry here entry
    rw [List.map_cons,pullEntries]
    by_cases walked : Walked (root.below rel) same
    · have path := normalize_name proper walked
      rw [below_below] at path
      have newer : same ∉ names.filter fun name => Walked (root.below rel) name :=
        fun listed => new (List.mem_of_mem_filter listed)
      have clearer : ∀ content, remote.tree.at_ (rel ++ [same]) = some (.file content) →
          ∀ other ∈ names.filter fun name => Walked (root.below rel) name, same ≠ temporaryName other := by
        intro content here other listed
        obtain ⟨listed,walkedToo⟩ := List.mem_filter.mp listed
        exact apart other listed walked (of_decide_eq_true walkedToo) content here
      have kept : (same :: names).filter (fun name => Walked (root.below rel) name) =
          same :: names.filter fun name => Walked (root.below rel) name := List.filter_cons_of_pos (decide_eq_true walked)
      rw [if_neg walked,kept,path,name_below,join_name _ proper,below_below]
      refine (isRemoteDir_looks (rel ++ [same])).bind (fun directory isDirectory => ?_) fun _ => Advance.refl before
      cases directory with
      | true =>
        obtain ⟨children,isDirectory⟩ := isDirectory rfl
        obtain rfl := Option.some.inj (found.symm.trans isDirectory)
        refine Advance.then (descends same children entry walked before) newer clearer fun count middle => ?_
        exact (removeDir_looks _).bind (fun _ _ => ih members others later _ middle) fun _ => Advance.refl middle
      | false =>
        refine tracks_ask fun made _ => runs_check_bind (fun _ => ?_) fun _ => Advance.refl before
        exact Advance.then (downloadFile_runs proper before) newer clearer fun kept middle =>
          ih members others later _ middle
    · have skipped : (same :: names).filter (fun name => Walked (root.below rel) name) =
          names.filter fun name => Walked (root.below rel) name :=
        List.filter_cons_of_neg fun kept => walked (of_decide_eq_true kept)
      rw [if_pos (not_not.mp walked),skipped]
      exact ih members others later downloaded before

end Entries

/-- The walk of a directory, by induction on the bound of the recursion. -/
theorem pullRemoteTree_runs (clear : ∀ rel entries, Visited remote root rel entries → NoTemporary (root.below rel) entries)
    (fuel : Nat) {rel : List Name} {entries : List (Name × Tree)} (visited : Visited remote root rel entries)
    (before : Pulled) :
    Runs remote root (pullRemoteTree true fuel (root.below rel) (base.below rel)) before fun last _ =>
      Advance remote root base rel (entries.map Prod.fst) before last := by
  induction fuel generalizing rel entries before with
  | zero => exact tracks_throw (Advance.refl before)
  | succ fuel ih =>
    refine (listRemoteEntries_looks visited.at).bind (fun paths listed => ?_) fun _ => Advance.refl before
    obtain ⟨names,front,rfl⟩ := listed
    have distinct := (remote.wellNamed rel entries visited.at).1
    refine (pullEntries_runs visited.at (fun name children member walked before => ?_) names
      (fun name member => front.subset member) (distinct.sublist front.sublist)
      ((clear_names visited.at (clear rel entries visited)).sublist front.sublist) 0 before).mono ?_
    · exact (ih (visited.child member walked) before).mono fun last _ advance => advance.child
    · exact fun last _ advance => advance.weaken fun name member => front.subset (List.mem_of_mem_filter member)

theorem keepsDeleted_of_clear (base : PurePosixPath)
    (clear : ∀ rel entries, Visited remote root rel entries → NoTemporary (root.below rel) entries) :
    KeepsDeleted remote root base := by
  intro fuel files
  have runs := @pullRemoteTree_runs remote root base clear fuel [] _ Visited.root ⟨files,[]⟩
  rw [below_nil,below_nil] at runs
  refine runs.mono fun last _ advance path sent => ?_
  rcases advance.kept path sent with never | ⟨name,_,more,content,kept⟩
  · cases never
  · exact ⟨[] ++ name :: more,content,kept⟩

end NxReverse.Tools.FtpSync
