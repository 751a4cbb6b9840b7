import NxReverse.Tools.CleaningPull

/-! A pull against a server that answers as its tree stands, while no local call fails: every file comes to its own
place, no other local file is changed, and a cleaning pull deletes each file and removes each directory behind
everything in it. -/
namespace NxReverse.Tools.FtpSync

open Program PurePosixPath

/-- `pull_path`, with what it prints from: nothing of a path that is absent, else how many files came. -/
def pullPath (deleteRemote : Bool) (fuel : Nat) (path reportsDir : PurePosixPath) : Ftp (Option Nat) := do
  let directory ← isRemoteDir path
  if directory then
    let downloaded ← pullRemoteTree deleteRemote fuel path (reportsDir.join (ofText path.name))
    pure (some downloaded)
  else pure none

mutual

/-- The files of a tree by their paths, in the order of the listings. -/
def Tree.files : Tree → List (List Name × Bytes)
  | .file content => [([],content)]
  | .dir entries => filesIn entries

def filesIn : List (Name × Tree) → List (List Name × Bytes)
  | [] => []
  | (name,child) :: rest => (child.files.map fun file => (name :: file.1,file.2)) ++ filesIn rest

end

inductive Removal (α : Type) where
  | dele (path : α)
  | rmd (path : α)

def Removal.map {α β : Type} (f : α → β) : Removal α → Removal β
  | .dele path => .dele (f path)
  | .rmd path => .rmd (f path)

@[simp] theorem Removal.map_rmd {α β : Type} (f : α → β) (path : α) : (rmd path).map f = rmd (f path) := rfl

theorem Removal.map_map {α β γ : Type} (g : β → γ) (f : α → β) (removal : Removal α) :
    (removal.map f).map g = removal.map fun path => g (f path) := by
  cases removal <;> rfl

mutual

/-- What a cleaning pull removes: each file in its turn, and each directory behind everything in it. -/
def Tree.removals : Tree → List (Removal (List Name))
  | .file _ => [.dele []]
  | .dir entries => removalsIn entries ++ [.rmd []]

def removalsIn : List (Name × Tree) → List (Removal (List Name))
  | [] => []
  | (name,child) :: rest => child.removals.map (.map (name :: ·)) ++ removalsIn rest

end

/-- Where the download of a file first goes. -/
def temporaryPath : List Name → List Name
  | [] => []
  | [name] => [temporaryName name]
  | name :: rest => name :: temporaryPath rest

/-- What was pulled, and every removal of a file or directory in one list, the last one first. -/
structure Cleaned where
  pulled : Pulled
  removed : List (Removal PurePosixPath)

def Cleaned.step (state : Cleaned) (exchange : Exchange Answer) : Cleaned where
  pulled := state.pulled.step exchange
  removed :=
    match exchange.command with
    | .dele path => .dele path :: state.removed
    | .rmd path => .rmd path :: state.removed
    | _ => state.removed

/-- What a server answers whose tree stands at `root`, and local calls that succeed. -/
def Obeys (tree : Tree) (root : PurePosixPath) : Exchange Answer → Prop
  | ⟨.nlst dir,listed⟩ => ∀ rel entries, dir = root.below rel → tree.at_ rel = some (.dir entries) →
      listed = (entries.map Prod.fst,none)
  | ⟨.pwd,answer⟩ => ∃ dir, answer = .ok dir
  | ⟨.cwd path,answer⟩ => ∀ rel, path = root.below rel →
      (∀ entries, tree.at_ rel = some (.dir entries) → answer = .ok ()) ∧
        ∀ content, tree.at_ rel = some (.file content) → ∃ text, answer = .error (.perm text)
  | ⟨.cwdBack _,answer⟩ => answer = .ok ()
  | ⟨.retr path,received⟩ => ∀ rel content, path = root.below rel → tree.at_ rel = some (.file content) →
      received = (content,none)
  | ⟨.dele _,answer⟩ => answer = .ok ()
  | ⟨.rmd _,answer⟩ => answer = .ok ()
  | ⟨.write _ _,failed⟩ => failed = none
  | ⟨.mkdir _,succeeded⟩ => succeeded = true
  | ⟨.openWb _,succeeded⟩ => succeeded = true
  | ⟨.unlink _,succeeded⟩ => succeeded = true
  | ⟨.replace _ _,succeeded⟩ => succeeded = true

structure Mirrored (root base : PurePosixPath) (deleteRemote : Bool) (rel : List Name) (todo : List (Name × Tree))
    (before last : Cleaned) : Prop where
  placed : ∀ file ∈ filesIn todo, last.pulled.files (base.below (rel ++ file.1)) = some file.2
  frame : ∀ path, (∀ file ∈ filesIn todo, path ≠ base.below (rel ++ file.1) ∧
    path ≠ base.below (rel ++ temporaryPath file.1)) → last.pulled.files path = before.pulled.files path
  cleared : ∀ file ∈ filesIn todo, (∀ other ∈ filesIn todo, temporaryPath file.1 ≠ other.1) →
    last.pulled.files (base.below (rel ++ temporaryPath file.1)) = none
  removed : last.removed = (if deleteRemote then
    ((removalsIn todo).map (.map fun path => root.below (rel ++ path))).reverse else []) ++ before.removed

def Apart (files : List (List Name × Bytes)) : Prop := files.Pairwise fun earlier later => earlier.1 ≠ temporaryPath later.1

variable {remote : RemoteTree} {root base : PurePosixPath} {deleteRemote : Bool} {rel : List Name} {name : Name}
  {todo : List (Name × Tree)} {before middle last : Cleaned}

theorem temporaryPath_cons (name : Name) {rel : List Name} (some_ : rel ≠ []) :
    temporaryPath (name :: rel) = name :: temporaryPath rel := by
  cases rel with
  | nil => exact absurd rfl some_
  | cons next rest => rfl

theorem files_ne_nil {file : List Name × Bytes} (member : file ∈ filesIn todo) : file.1 ≠ [] := by
  induction todo with
  | nil => cases member
  | cons entry todo ih =>
    obtain ⟨name,child⟩ := entry
    rcases List.mem_append.mp member with here | later
    · obtain ⟨inner,_,rfl⟩ := List.mem_map.mp here
      exact List.cons_ne_nil _ _
    · exact ih later

/-- A file is found below the name of its entry. -/
theorem files_head {file : List Name × Bytes} (member : file ∈ filesIn todo) :
    ∃ name ∈ todo.map Prod.fst, ∃ rest, file.1 = name :: rest := by
  induction todo with
  | nil => cases member
  | cons entry todo ih =>
    obtain ⟨name,child⟩ := entry
    rcases List.mem_append.mp member with here | later
    · obtain ⟨inner,_,rfl⟩ := List.mem_map.mp here
      exact ⟨name,List.mem_cons_self,inner.1,rfl⟩
    · obtain ⟨other,listed,rest⟩ := ih later
      exact ⟨other,List.mem_cons_of_mem _ listed,rest⟩

namespace Mirrored

theorem nil (state : Cleaned) : Mirrored root base deleteRemote rel [] state state := by
  refine ⟨List.forall_mem_nil _,fun _ _ => rfl,List.forall_mem_nil _,?_⟩
  cases deleteRemote <;> rfl

/-- An entry and then the others. -/
theorem cons {child : Tree} (first : Mirrored root base deleteRemote rel [(name,child)] before middle)
    (rest : Mirrored root base deleteRemote rel todo middle last) (new : name ∉ todo.map Prod.fst)
    (apart : Apart (filesIn ((name,child) :: todo))) :
    Mirrored root base deleteRemote rel ((name,child) :: todo) before last := by
  have split : filesIn ((name,child) :: todo) = filesIn [(name,child)] ++ filesIn todo := by
    rw [filesIn,filesIn,filesIn,List.append_nil]
  have splitRemovals : removalsIn ((name,child) :: todo) = removalsIn [(name,child)] ++ removalsIn todo := by
    rw [removalsIn,removalsIn,removalsIn,List.append_nil]
  rw [Apart,split] at apart
  obtain ⟨-,-,apart⟩ := List.pairwise_append.mp apart
  have distinct : ∀ file ∈ filesIn [(name,child)], ∀ other ∈ filesIn todo, file.1 ≠ other.1 := by
    intro file member other listed same
    obtain ⟨first,here,tail,front⟩ := files_head member
    obtain ⟨second,there,more,behind⟩ := files_head listed
    obtain rfl : first = name := List.mem_singleton.mp here
    rw [front,behind] at same
    exact new ((List.cons.inj same).1 ▸ there)
  constructor
  · rw [split]
    refine List.forall_mem_append.mpr ⟨fun file member => ?_,rest.placed⟩
    refine (rest.frame _ fun other listed => ⟨fun same => ?_,fun same => ?_⟩).trans (first.placed file member)
    · exact distinct file member other listed (List.append_cancel_left (below_inj.mp same))
    · exact apart file member other listed (List.append_cancel_left (below_inj.mp same))
  · intro path outside
    rw [split] at outside
    obtain ⟨here,others⟩ := List.forall_mem_append.mp outside
    exact (rest.frame path others).trans (first.frame path here)
  · rw [split]
    intro file member clear
    obtain ⟨clearHere,clearThere⟩ := List.forall_mem_append.mp clear
    by_cases touched : ∃ other ∈ filesIn todo, temporaryPath file.1 = temporaryPath other.1
    · obtain ⟨other,listed,same⟩ := touched
      rw [same]
      exact rest.cleared other listed fun third there => same ▸ clearThere third there
    · rcases List.mem_append.mp member with here | later
      · refine (rest.frame _ fun other listed => ⟨fun same => ?_,fun same => ?_⟩).trans (first.cleared file here clearHere)
        · exact clearThere other listed (List.append_cancel_left (below_inj.mp same))
        · exact touched ⟨other,listed,List.append_cancel_left (below_inj.mp same)⟩
      · exact absurd ⟨file,later,rfl⟩ touched
  · rw [rest.removed,first.removed,splitRemovals]
    cases deleteRemote <;> simp

/-- What was pulled below an entry, before its directory is removed. -/
theorem child {children : List (Name × Tree)} (below : Mirrored root base deleteRemote (rel ++ [name]) children before middle)
    (files : last.pulled = middle.pulled)
    (removed : last.removed = (if deleteRemote then [.rmd (root.below (rel ++ [name]))] else []) ++ middle.removed) :
    Mirrored root base deleteRemote rel [(name,.dir children)] before last := by
  have inside : filesIn [(name,.dir children)] = (filesIn children).map fun file => (name :: file.1,file.2) := by
    rw [filesIn,filesIn,List.append_nil,Tree.files]
  have removals : removalsIn [(name,.dir children)] = (removalsIn children ++ [Removal.rmd []]).map (.map (name :: ·)) := by
    rw [removalsIn,removalsIn,List.append_nil,Tree.removals]
  have path (more : List Name) : rel ++ name :: more = rel ++ [name] ++ more := by simp
  have temporary {file : List Name × Bytes} (member : file ∈ filesIn children) :
      rel ++ temporaryPath (name :: file.1) = rel ++ [name] ++ temporaryPath file.1 := by
    rw [temporaryPath_cons name (files_ne_nil member),path]
  constructor
  · rw [inside,List.forall_mem_map,files]
    intro file member
    rw [path]
    exact below.placed file member
  · rw [inside,files]
    intro other outside
    refine below.frame other fun file member => ?_
    rw [← path,← temporary member]
    exact outside _ (List.mem_map_of_mem member)
  · rw [inside,List.forall_mem_map,files]
    intro file member clear
    rw [temporary member]
    refine below.cleared file member fun third there same => ?_
    exact clear _ (List.mem_map_of_mem there) (by rw [temporaryPath_cons name (files_ne_nil member),same])
  · rw [removed,below.removed,removals]
    cases deleteRemote
    · rfl
    · simp [Function.comp_def,Removal.map_map]

end Mirrored

/-- Every run returns `value`, in a state that satisfies `P`. -/
def Returns (remote : RemoteTree) (root : PurePosixPath) {α : Type} (x : Ftp α) (before : Cleaned) (value : α)
    (P : Cleaned → Prop) : Prop :=
  Tracks Cleaned.step (Obeys remote.tree root) x.run before fun last result => result = .ok value ∧ P last

variable {α β : Type} {P Q : Cleaned → Prop} {value : α}

theorem returns_pure (holds : P before) : Returns remote root (pure value) before value P := tracks_pure ⟨rfl,holds⟩

theorem Returns.mono {x : Ftp α} (returns : Returns remote root x before value P) (weaker : ∀ last, P last → Q last) :
    Returns remote root x before value Q := Tracks.mono returns fun last _ holds => ⟨holds.1,weaker last holds.2⟩

theorem Returns.bind {x : Ftp α} {f : α → Ftp β} {result : β} (first : Returns remote root x before value P)
    (later : ∀ middle, P middle → Returns remote root (f value) middle result Q) :
    Returns remote root (x >>= f) before result Q := by
  refine tracks_bind (Tracks.mono first fun middle returned holds => ?_)
  obtain ⟨rfl,holds⟩ := holds
  refine ⟨fun other same => ?_,fun _ same => by cases same⟩
  cases same
  exact later middle holds

/-- A command whose answer is settled. -/
theorem returns_ask {command : Command} {f : Answer command → Ftp β} {result : β} {answer : Answer command}
    (settled : ∀ given, Obeys remote.tree root ⟨command,given⟩ → given = answer)
    (later : Returns remote root (f answer) (before.step ⟨command,answer⟩) result Q) :
    Returns remote root (ask command >>= f) before result Q := by
  refine tracks_ask fun given now => ?_
  obtain rfl := settled given now
  exact later

theorem returns_check {f : Unit → Ftp β} {result : β} (later : Returns remote root (f ()) before result Q) :
    Returns remote root (check true >>= f) before result Q := by
  refine (returns_pure (P := (· = before)) rfl).bind fun middle same => ?_
  obtain rfl := same
  exact later

structure Downloaded (remotePath localPath temporaryPath : PurePosixPath) (deleteRemote : Bool) (content : Bytes)
    (before last : Cleaned) : Prop where
  files : last.pulled.files =
    Function.update (Function.update before.pulled.files temporaryPath none) localPath (some content)
  removed : last.removed = (if deleteRemote then [.dele remotePath] else []) ++ before.removed

theorem keepDownload_returns (remotePath localPath temporaryPath : PurePosixPath) (deleteRemote : Bool) {content : Bytes}
    (written : middle.pulled.files = Function.update before.pulled.files temporaryPath (some content))
    (removed : middle.removed = before.removed) :
    Returns remote root (keepDownload remotePath localPath temporaryPath deleteRemote) middle true
      (Downloaded remotePath localPath temporaryPath deleteRemote content before) := by
  have files : (middle.pulled.step ⟨.replace temporaryPath localPath,true⟩).files =
      Function.update (Function.update before.pulled.files temporaryPath none) localPath (some content) := by
    simp [Pulled.step,written]
  refine returns_ask (fun _ given => given) (returns_check ?_)
  cases deleteRemote
  · exact returns_pure ⟨files,removed⟩
  · exact returns_ask (fun _ given => given) (returns_pure ⟨files,congrArg (Removal.dele remotePath :: ·) removed⟩)

theorem transfer_returns (localPath temporaryPath : PurePosixPath) (deleteRemote : Bool) {content : Bytes}
    (found : remote.tree.at_ rel = some (.file content)) (before : Cleaned) :
    Returns remote root (transfer (root.below rel) localPath temporaryPath deleteRemote) before true
      (Downloaded (root.below rel) localPath temporaryPath deleteRemote content before) := by
  refine returns_ask (fun _ given => given) (returns_check ?_)
  refine returns_ask (fun received given => given rel content rfl found) ?_
  refine returns_ask (fun _ given => given) (returns_check ?_)
  refine keepDownload_returns _ _ _ _ ?_ rfl
  simp [Cleaned.step,Pulled.step]

theorem downloadFile_returns (base : PurePosixPath) (proper : IsName name) (deleteRemote : Bool) {content : Bytes}
    (found : remote.tree.at_ (rel ++ [name]) = some (.file content)) (before : Cleaned) :
    Returns remote root (downloadFile (root.below (rel ++ [name])) (base.below (rel ++ [name])) deleteRemote) before true
      (Mirrored root base deleteRemote rel [(name,.file content)] before) := by
  have temporary := withName_below base rel proper.1 (temporaryName name)
  refine returns_ask (fun _ given => given) (returns_check ?_)
  rw [name_below,temporary]
  refine (transfer_returns _ _ deleteRemote found _).mono fun last came => ?_
  have only : filesIn [(name,.file content)] = [([name],content)] := rfl
  have apart : base.below (rel ++ [temporaryName name]) ≠ base.below (rel ++ [name]) := by
    simp [below_inj,temporaryName_ne]
  constructor
  · rw [only,List.forall_mem_singleton,came.files,Function.update_self]
  · rw [only]
    intro path outside
    have clear : path ≠ base.below (rel ++ [name]) ∧ path ≠ base.below (rel ++ [temporaryName name]) :=
      outside _ List.mem_cons_self
    rw [came.files,Function.update_of_ne clear.1,Function.update_of_ne clear.2]
    rfl
  · rw [only,List.forall_mem_singleton]
    intro _
    rw [came.files,temporaryPath,Function.update_of_ne apart,Function.update_self]
  · rw [came.removed]
    cases deleteRemote <;> rfl

/-- The answer to `cwd` decides. -/
theorem isRemoteDir_returns {directory : Bool} (before : Cleaned)
    (settled : ∀ given, Obeys remote.tree root ⟨.cwd (root.below rel),given⟩ →
      if directory then given = .ok () else ∃ text, given = .error (.perm text)) :
    Returns remote root (isRemoteDir (root.below rel)) before directory (· = before) := by
  refine tracks_ask fun current working => ?_
  obtain ⟨dir,rfl⟩ := working
  refine (returns_pure (P := (· = before)) rfl).bind fun middle same => tracks_ask fun changed given => ?_
  refine returns_ask (fun _ given => given) ((returns_pure (P := (· = before)) same).bind fun last same => ?_)
  have came := settled changed given
  cases directory with
  | true =>
    rw [if_pos rfl] at came
    obtain rfl := came
    exact returns_pure same
  | false =>
    rw [if_neg Bool.false_ne_true] at came
    obtain ⟨text,rfl⟩ := came
    exact returns_pure same

theorem isRemoteDir_dir {entries : List (Name × Tree)} (here : remote.tree.at_ rel = some (.dir entries))
    (before : Cleaned) : Returns remote root (isRemoteDir (root.below rel)) before true (· = before) :=
  isRemoteDir_returns before fun _ given => (given rel rfl).1 entries here

theorem isRemoteDir_file {content : Bytes} (found : remote.tree.at_ rel = some (.file content)) (before : Cleaned) :
    Returns remote root (isRemoteDir (root.below rel)) before false (· = before) :=
  isRemoteDir_returns before fun _ given => (given rel rfl).2 content found

theorem listRemoteEntries_returns {entries : List (Name × Tree)} (here : remote.tree.at_ rel = some (.dir entries))
    (before : Cleaned) : Returns remote root (listRemoteEntries (root.below rel)) before
      ((entries.map Prod.fst).map (normalizeRemoteEntry (root.below rel))) (· = before) := by
  have files : Returns remote root (listRemoteFiles (root.below rel)) before (entries.map Prod.fst) (· = before) :=
    returns_ask (fun listed given => given rel entries rfl here) (returns_pure rfl)
  exact files.bind fun middle same => returns_pure same

/-- The names below a deep root are never that of their directory. -/
theorem walked_of_deep (deep : root.isAbsolute = true ∨ 2 ≤ root.parts.length) (rel : List Name) (proper : IsName name) :
    Walked (root.below rel) name := by
  have other : ofText name ≠ root.below rel := by
    rw [ofText_name proper]
    intro same
    obtain ⟨relative,parts⟩ := PurePosixPath.mk.inj same
    have length := congrArg List.length parts
    rw [List.length_append,List.length_singleton] at length
    rcases deep with absolute | long
    · exact of_decide_eq_true absolute relative.symm
    · omega
  have below : normalizeRemoteEntry (root.below rel) name = (root.below rel).below [name] := by
    rw [normalizeRemoteEntry,if_neg other,join_name _ proper,ofText_name proper]
    rfl
  rw [Walked,below]
  intro same
  have length := congrArg List.length (congrArg PurePosixPath.parts same)
  simp [PurePosixPath.below] at length

theorem removeDir_returns (path : PurePosixPath) (before : Cleaned) :
    Returns remote root (removeDir path) before () fun last =>
      last.pulled = before.pulled ∧ last.removed = .rmd path :: before.removed :=
  returns_ask (fun _ given => given) (returns_pure ⟨rfl,rfl⟩)

/-- One entry of the loop, whatever follows. -/
theorem entry_returns (deep : root.isAbsolute = true ∨ 2 ≤ root.parts.length) {entries : List (Name × Tree)}
    (here : remote.tree.at_ rel = some (.dir entries)) {pull : PurePosixPath → PurePosixPath → Ftp Nat}
    {child : Tree} (member : (name,child) ∈ entries)
    (descends : ∀ children, child = .dir children → ∀ before,
      Returns remote root (pull (root.below (rel ++ [name])) (base.below (rel ++ [name]))) before (filesIn children).length
        (Mirrored root base deleteRemote (rel ++ [name]) children before))
    (paths : List PurePosixPath) (downloaded total : Nat) (before : Cleaned)
    (later : ∀ middle, Mirrored root base deleteRemote rel [(name,child)] before middle →
      Returns remote root (pullEntries pull (root.below rel) (base.below rel) deleteRemote paths
        (downloaded + child.files.length)) middle total Q) :
    Returns remote root (pullEntries pull (root.below rel) (base.below rel) deleteRemote
      (normalizeRemoteEntry (root.below rel) name :: paths) downloaded) before total Q := by
  have proper : IsName name := (remote.wellNamed rel entries here).2 _ member
  have found := at_entry here member
  have walked := walked_of_deep deep rel proper
  have path := normalize_name proper walked
  rw [below_below] at path
  rw [pullEntries,if_neg walked,path,name_below,join_name _ proper,below_below]
  cases child with
  | dir children =>
    refine (isRemoteDir_dir found before).bind fun middle same => ?_
    obtain rfl := same
    refine (descends children rfl middle).bind fun last below => ?_
    have goOn (state : Cleaned) (files : state.pulled = last.pulled) (removed : state.removed =
        (if deleteRemote then [.rmd (root.below (rel ++ [name]))] else []) ++ last.removed) := later state (below.child files removed)
    cases deleteRemote with
    | true => exact (removeDir_returns _ last).bind fun state gone => goOn state gone.1 gone.2
    | false => exact goOn last rfl rfl
  | file content =>
    refine (isRemoteDir_file found before).bind fun middle same => ?_
    obtain rfl := same
    refine returns_ask (fun _ given => given) (returns_check ?_)
    refine (downloadFile_returns base proper deleteRemote found _).bind fun last mirrored => ?_
    exact later last ⟨mirrored.placed,mirrored.frame,mirrored.cleared,mirrored.removed⟩

theorem pullEntries_returns (deep : root.isAbsolute = true ∨ 2 ≤ root.parts.length) {entries : List (Name × Tree)}
    (here : remote.tree.at_ rel = some (.dir entries)) {pull : PurePosixPath → PurePosixPath → Ftp Nat}
    (descends : ∀ name children, (name,Tree.dir children) ∈ entries → Apart (filesIn children) → ∀ before,
      Returns remote root (pull (root.below (rel ++ [name])) (base.below (rel ++ [name]))) before (filesIn children).length
        (Mirrored root base deleteRemote (rel ++ [name]) children before))
    (todo : List (Name × Tree)) (listed : ∀ entry ∈ todo, entry ∈ entries) (distinct : (todo.map Prod.fst).Nodup)
    (apart : Apart (filesIn todo)) (downloaded : Nat) (before : Cleaned) :
    Returns remote root (pullEntries pull (root.below rel) (base.below rel) deleteRemote
      ((todo.map Prod.fst).map (normalizeRemoteEntry (root.below rel))) downloaded) before
      (downloaded + (filesIn todo).length) (Mirrored root base deleteRemote rel todo before) := by
  induction todo generalizing downloaded before with
  | nil => exact returns_pure (.nil before)
  | cons entry todo ih =>
    obtain ⟨name,child⟩ := entry
    obtain ⟨member,members⟩ := List.forall_mem_cons.mp listed
    obtain ⟨new,others⟩ := List.nodup_cons.mp distinct
    have parts := List.pairwise_append.mp apart
    refine entry_returns deep here member (fun children same before => ?_) _ _ _ _ fun middle first => ?_
    · subst same
      have inside : Apart (filesIn children) := by
        refine (List.pairwise_map.mp parts.1).imp_of_mem fun {earlier later} _ there differ same => differ ?_
        exact (congrArg (name :: ·) same).trans (temporaryPath_cons name (files_ne_nil there)).symm
      exact descends name children member inside before
    · have total : downloaded + (filesIn ((name,child) :: todo)).length =
          downloaded + child.files.length + (filesIn todo).length := by
        rw [filesIn,List.length_append,List.length_map,Nat.add_assoc]
      rw [total]
      exact (ih members others parts.2.1 _ middle).mono fun last rest => first.cons rest new apart

/-- The walk of a directory, by induction on the bound of the recursion. -/
theorem pullRemoteTree_returns (deep : root.isAbsolute = true ∨ 2 ≤ root.parts.length) (fuel : Nat) {rel : List Name}
    {entries : List (Name × Tree)} (here : remote.tree.at_ rel = some (.dir entries)) (enough : Tree.heights entries < fuel)
    (apart : Apart (filesIn entries)) (before : Cleaned) :
    Returns remote root (pullRemoteTree deleteRemote fuel (root.below rel) (base.below rel)) before
      (filesIn entries).length (Mirrored root base deleteRemote rel entries before) := by
  induction fuel generalizing rel entries before with
  | zero => cases enough
  | succ fuel ih =>
    have distinct := (remote.wellNamed rel entries here).1
    refine (listRemoteEntries_returns here before).bind fun middle same => ?_
    obtain rfl := same
    have runs : Returns remote root (pullEntries (pullRemoteTree deleteRemote fuel) (root.below rel) (base.below rel)
        deleteRemote ((entries.map Prod.fst).map (normalizeRemoteEntry (root.below rel))) 0) middle
        (0 + (filesIn entries).length) (Mirrored root base deleteRemote rel entries middle) := by
      refine pullEntries_returns deep here (fun name children member apart before => ?_) entries (fun _ listed => listed)
        distinct apart 0 middle
      have lower := Tree.height_lookup (Dicts.get_of_mem distinct member)
      rw [Tree.height] at lower
      exact ih (at_entry here member) (by omega) apart before
    rwa [Nat.zero_add] at runs

/-- All files come, each to its own place, and are counted; nothing else is changed locally, and on the server only what
a cleaning pull removes. -/
theorem pullPath_mirrors (remote : RemoteTree) {root : PurePosixPath}
    (deep : root.isAbsolute = true ∨ 2 ≤ root.parts.length) (apart : Apart remote.tree.files) {fuel : Nat}
    (enough : remote.tree.height < fuel) (reportsDir : PurePosixPath) (deleteRemote : Bool) (before : Cleaned) :
    Returns remote root (pullPath deleteRemote fuel root reportsDir) before (some remote.tree.files.length)
      (Mirrored root (reportsDir.join (ofText root.name)) deleteRemote [] remote.entries before) := by
  have here : remote.tree.at_ [] = some (.dir remote.entries) := rfl
  have asked : Returns remote root (isRemoteDir (root.below [])) before true (· = before) := isRemoteDir_dir here before
  have walked : Returns remote root (pullRemoteTree deleteRemote fuel (root.below [])
      ((reportsDir.join (ofText root.name)).below [])) before (filesIn remote.entries).length
      (Mirrored root (reportsDir.join (ofText root.name)) deleteRemote [] remote.entries before) :=
    pullRemoteTree_returns deep fuel here enough apart before
  rw [below_nil] at asked
  rw [below_nil,below_nil] at walked
  refine asked.bind fun middle same => ?_
  obtain rfl := same
  exact walked.bind fun last mirrored => returns_pure mirrored

def cardLogs : RemoteTree where
  entries := [("boot.txt".toList,.file [1,2]),("old".toList,.dir [("boot.txt".toList,.file [3])])]
  wellNamed rel entries here := by
    have only : ∀ rel content entries, (Tree.file content).at_ rel ≠ some (.dir entries) := by
      intro rel content entries here
      cases rel <;> cases here
    cases rel with
    | nil =>
      cases here
      exact ⟨by decide,by simp [IsName]⟩
    | cons name rel =>
      rw [Tree.at_,Dicts.get_cons,Dicts.get_cons] at here
      split at here
      · exact absurd here (only _ _ _)
      · split at here
        · cases rel with
          | nil =>
            cases here
            exact ⟨by decide,by simp [IsName]⟩
          | cons name rel =>
            rw [Option.bind_some,Tree.at_,Dicts.get_cons] at here
            split at here
            · exact absurd here (only _ _ _)
            · cases here
        · cases here

theorem pullPath_mirrors_card : Returns cardLogs (ofText "sdmc:/nxrv".toList)
    (pullPath true 3 (ofText "sdmc:/nxrv".toList) (ofText "reports".toList)) ⟨⟨fun _ => none,[]⟩,[]⟩ (some 2)
    (Mirrored (ofText "sdmc:/nxrv".toList) (ofText "reports/nxrv".toList) true [] cardLogs.entries
      ⟨⟨fun _ => none,[]⟩,[]⟩) :=
  pullPath_mirrors cardLogs (.inr (by decide)) (by rw [Apart]; decide) (by decide) _ true _

end NxReverse.Tools.FtpSync
