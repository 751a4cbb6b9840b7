import NxReverse.Tools.FtpSync

/-! How far a pull walks. What the server may list for its directories makes a graph of paths; a pull ends and stays
under the directory that was asked for exactly if the chains of this graph are bounded and what they meet is under it.
Two dots in a listing lead outside, and for ever. -/
namespace NxReverse.Tools.FtpSync

open Program PurePosixPath

/-- One more part; two dots go back, and stay at the root. -/
def enter (place : List Name) (part : Name) : List Name :=
  if part = ['.','.'] then place.dropLast else place ++ [part]

/-- The names from the root of the tree to what a path means, in the working directory `home`. -/
def resolve (home : List Name) (path : PurePosixPath) : List Name :=
  ((if path.isAbsolute then [] else home) ++ path.parts).foldl enter []

def StrictlyUnder (dir place : List Name) : Prop := dir <+: place ∧ dir.length < place.length

/-- A server with a tree and with entries that it may list for a directory, in any number and order. Every other command
may be answered in any way, and every command may fail. -/
def AnswersWith (tree : Tree) (home : List Name) (lists : PurePosixPath → List Char → Prop) : Exchange Answer → Prop
  | ⟨.nlst dir,listed⟩ => ∀ entry ∈ listed.1, lists dir entry
  | ⟨.cwd path,answer⟩ => answer = .ok () → ∃ entries, tree.at_ (resolve home path) = some (.dir entries)
  | _ => True

/-- A listing of `dir` brings the walk to the path. -/
def Meets (lists : PurePosixPath → List Char → Prop) (dir path : PurePosixPath) : Prop :=
  ∃ entry, lists dir entry ∧ normalizeRemoteEntry dir entry = path ∧ path ≠ dir

inductive Comes (tree : Tree) (home : List Name) (lists : PurePosixPath → List Char → Prop) (top : PurePosixPath) :
    Nat → PurePosixPath → Prop
  | top : Comes tree home lists top 0 top
  | child {depth : Nat} {dir path : PurePosixPath} {entries : List (Name × Tree)} (above : Comes tree home lists top depth dir)
    (meets : Meets lists dir path) (directory : tree.at_ (resolve home path) = some (.dir entries)) :
    Comes tree home lists top (depth + 1) path

/-- The chains of listings are bounded, and what they meet is strictly under `top`. -/
structure LeadsDown (tree : Tree) (home : List Name) (lists : PurePosixPath → List Char → Prop) (top : PurePosixPath) :
    Prop where
  under : ∀ depth dir path, Comes tree home lists top depth dir → Meets lists dir path →
    StrictlyUnder (resolve home top) (resolve home path)
  bounded : ∃ bound, ∀ depth dir, Comes tree home lists top depth dir → depth ≤ bound

/-- The paths that were downloaded, deleted or removed, or would have been had the server not refused. -/
def handle (handled : List PurePosixPath) (exchange : Exchange Answer) : List PurePosixPath :=
  match exchange.command with
  | .retr path | .dele path | .rmd path => path :: handled
  | _ => handled

variable {tree : Tree} {home : List Name} {lists : PurePosixPath → List Char → Prop} {α β : Type}

/-- A run that is not stopped by the bound and handles only what is under `top`. -/
structure Confined (home top : List Name) (handled last : List PurePosixPath) (result : Except Raised α) : Prop where
  bounded : result ≠ .error .outOfFuel
  under : ∀ path ∈ last, path ∈ handled ∨ StrictlyUnder top (resolve home path)

/-- Every run is confined, and what it returns is `P`. -/
def Walks (tree : Tree) (home : List Name) (lists : PurePosixPath → List Char → Prop) (top : List Name) (P : α → Prop)
    (x : Ftp α) : Prop :=
  ∀ handled, Tracks handle (AnswersWith tree home lists) x.run handled fun last result =>
    Confined home top handled last result ∧ ∀ value, result = .ok value → P value

variable {top : List Name} {P : α → Prop} {R : β → Prop}

theorem walks_pure {value : α} (holds : P value) : Walks tree home lists top P (pure value) :=
  fun _ => tracks_pure ⟨⟨nofun,fun _ => .inl⟩,fun _ same => Except.ok.inj same ▸ holds⟩

theorem walks_throw {e : Raised} (other : e ≠ .outOfFuel) : Walks tree home lists top P (throw e) :=
  fun _ => tracks_throw ⟨⟨fun same => other (Except.error.inj same),fun _ => .inl⟩,nofun⟩

theorem Walks.bind {x : Ftp α} {f : α → Ftp β} (first : Walks tree home lists top P x)
    (later : ∀ value, P value → Walks tree home lists top R (f value)) : Walks tree home lists top R (x >>= f) := by
  intro handled
  refine tracks_bind ((first handled).mono fun middle result holds => ⟨?_,?_⟩)
  · intro value returned
    refine (later value (holds.2 value returned) middle).mono fun last final rest => ⟨⟨rest.1.bounded,?_⟩,rest.2⟩
    intro path member
    rcases rest.1.under path member with earlier | under
    · exact holds.1.under path earlier
    · exact .inr under
  · rintro e rfl
    exact ⟨⟨fun same => holds.1.bounded (by cases same; rfl),holds.1.under⟩,nofun⟩

/-- A command that handles nothing, or what is under `top`. -/
theorem walks_ask {command : Command} {f : Answer command → Ftp β}
    (under : ∀ answer handled, ∀ path ∈ handle handled ⟨command,answer⟩,
      path ∈ handled ∨ StrictlyUnder top (resolve home path))
    (later : ∀ answer, AnswersWith tree home lists ⟨command,answer⟩ → Walks tree home lists top R (f answer)) :
    Walks tree home lists top R (ask command >>= f) := by
  intro handled
  refine tracks_ask fun answer allowed => ?_
  refine (later answer allowed _).mono fun last result rest => ⟨⟨rest.1.bounded,?_⟩,rest.2⟩
  intro path member
  rcases rest.1.under path member with earlier | deeper
  · exact under answer handled path earlier
  · exact .inr deeper

theorem walks_check (succeeded : Bool) : Walks tree home lists top (fun _ => True) (check succeeded) := by
  cases succeeded
  · exact walks_throw nofun
  · exact walks_pure trivial

theorem walks_expect (answer : Except Failure α) : Walks tree home lists top (fun _ => True) (expect answer) := by
  cases answer with
  | ok value => exact walks_pure trivial
  | error failure => exact walks_throw nofun

section Download

variable {remotePath : PurePosixPath} (inside : StrictlyUnder top (resolve home remotePath))
include inside

theorem handled_inside {handled : List PurePosixPath} :
    ∀ path ∈ remotePath :: handled, path ∈ handled ∨ StrictlyUnder top (resolve home path) := by
  intro path member
  rcases List.mem_cons.mp member with rfl | earlier
  · exact .inr inside
  · exact .inl earlier

theorem keepDownload_walks (localPath temporaryPath : PurePosixPath) (deleteRemote : Bool) :
    Walks tree home lists top (fun _ => True) (keepDownload remotePath localPath temporaryPath deleteRemote) := by
  refine walks_ask (fun _ _ _ => .inl) fun replaced _ => (walks_check replaced).bind fun _ _ => ?_
  split
  · refine walks_ask (fun _ _ => handled_inside inside) fun deleted _ => ?_
    split
    · split
      · exact walks_pure trivial
      · exact walks_throw nofun
    · exact walks_throw nofun
    · exact walks_pure trivial
  · exact walks_pure trivial

theorem transfer_walks (localPath temporaryPath : PurePosixPath) (deleteRemote : Bool) :
    Walks tree home lists top (fun _ => True) (transfer remotePath localPath temporaryPath deleteRemote) := by
  refine walks_ask (fun _ _ _ => .inl) fun opened _ => (walks_check opened).bind fun _ _ => ?_
  refine walks_ask (fun _ _ => handled_inside inside) fun received _ => ?_
  refine walks_ask (fun _ _ _ => .inl) fun written _ => (walks_check _).bind fun _ _ => ?_
  split
  · refine walks_ask (fun _ _ _ => .inl) fun unlinked _ => (walks_check unlinked).bind fun _ _ => ?_
    split
    · exact walks_pure trivial
    · exact walks_throw nofun
  · exact walks_throw nofun
  · exact keepDownload_walks inside localPath temporaryPath deleteRemote

theorem downloadFile_walks (localPath : PurePosixPath) (deleteRemote : Bool) :
    Walks tree home lists top (fun _ => True) (downloadFile remotePath localPath deleteRemote) := by
  refine walks_ask (fun _ _ _ => .inl) fun made _ => (walks_check made).bind fun _ _ => ?_
  split
  · exact transfer_walks inside localPath _ deleteRemote
  · exact walks_throw nofun

theorem removeDir_walks : Walks tree home lists top (fun _ => True) (removeDir remotePath) := by
  refine walks_ask (fun _ _ => handled_inside inside) fun removed _ => ?_
  split
  · exact walks_pure trivial
  · exact walks_pure trivial
  · exact walks_throw nofun

end Download

/-- What is taken for a directory is one of the tree. -/
theorem isRemoteDir_walks (path : PurePosixPath) : Walks tree home lists top
    (fun directory => directory = true → ∃ entries, tree.at_ (resolve home path) = some (.dir entries))
    (isRemoteDir path) := by
  refine walks_ask (fun _ _ _ => .inl) fun current _ => (walks_expect current).bind fun _ _ => ?_
  refine walks_ask (fun _ _ _ => .inl) fun changed enters => ?_
  refine walks_ask (fun _ _ _ => .inl) fun restored _ => (walks_expect restored).bind fun _ _ => ?_
  split
  · exact walks_pure fun _ => enters rfl
  · exact walks_pure nofun
  · exact walks_throw nofun

theorem listRemoteEntries_walks (dir : PurePosixPath) : Walks tree home lists top
    (fun entries => ∀ path ∈ entries, path ≠ dir → Meets lists dir path) (listRemoteEntries dir) := by
  have files : Walks tree home lists top (fun files => ∀ entry ∈ files, lists dir entry) (listRemoteFiles dir) := by
    refine walks_ask (fun _ _ _ => .inl) fun listed lists => ?_
    split
    · exact walks_pure lists
    · exact walks_pure lists
    · split
      · exact walks_pure lists
      · exact walks_throw nofun
    · exact walks_throw nofun
  refine files.bind fun lines lists => walks_pure fun path member differs => ?_
  obtain ⟨entry,listed,rfl⟩ := List.mem_map.mp member
  exact ⟨entry,lists entry listed,rfl,differs⟩

theorem pullEntries_walks {pull : PurePosixPath → PurePosixPath → Ftp Nat} {remoteDir : PurePosixPath}
    (inside : ∀ path, Meets lists remoteDir path → StrictlyUnder top (resolve home path))
    (descends : ∀ child target entries, Meets lists remoteDir child →
      tree.at_ (resolve home child) = some (.dir entries) → Walks tree home lists top (fun _ => True) (pull child target))
    (localDir : PurePosixPath) (deleteRemote : Bool) (entries : List PurePosixPath)
    (meets : ∀ path ∈ entries, path ≠ remoteDir → Meets lists remoteDir path) (downloaded : Nat) :
    Walks tree home lists top (fun _ => True) (pullEntries pull remoteDir localDir deleteRemote entries downloaded) := by
  induction entries generalizing downloaded with
  | nil => exact walks_pure trivial
  | cons remotePath rest ih =>
    obtain ⟨here,others⟩ := List.forall_mem_cons.mp meets
    rw [pullEntries]
    split
    next => exact ih others downloaded
    next differs =>
      have under := inside remotePath (here differs)
      refine (isRemoteDir_walks remotePath).bind fun directory found => ?_
      cases directory with
      | true =>
        obtain ⟨entries,directory⟩ := found rfl
        refine (descends _ _ entries (here differs) directory).bind fun count _ => ?_
        cases deleteRemote with
        | true => exact (removeDir_walks under).bind fun _ _ => ih others _
        | false => exact ih others _
      | false =>
        refine walks_ask (fun _ _ _ => .inl) fun made _ => (walks_check made).bind fun _ _ => ?_
        exact (downloadFile_walks under _ deleteRemote).bind fun _ _ => ih others _

/-- The directory comes before the end of the longest chain. -/
theorem pullRemoteTree_walks {remoteDir : PurePosixPath}
    (under : ∀ depth dir path, Comes tree home lists remoteDir depth dir → Meets lists dir path →
      StrictlyUnder (resolve home remoteDir) (resolve home path))
    {bound : Nat} (bounded : ∀ depth dir, Comes tree home lists remoteDir depth dir → depth ≤ bound)
    (deleteRemote : Bool) {fuel depth : Nat} {dir : PurePosixPath} (comes : Comes tree home lists remoteDir depth dir)
    (enough : bound < depth + fuel) (localDir : PurePosixPath) :
    Walks tree home lists (resolve home remoteDir) (fun _ => True) (pullRemoteTree deleteRemote fuel dir localDir) := by
  induction fuel generalizing depth dir localDir with
  | zero =>
    have short := bounded depth dir comes
    omega
  | succ fuel ih =>
    refine (listRemoteEntries_walks dir).bind fun entries meets => ?_
    refine pullEntries_walks (fun path => under depth dir path comes) (fun child target entries meets directory => ?_)
      localDir deleteRemote entries meets 0
    exact ih (comes.child meets directory) (by omega) target

/-- With enough fuel every run ends by itself, and handles only what is strictly under the remote directory. -/
def EndsUnder (allowed : Exchange Answer → Prop) (home : List Name) (deleteRemote : Bool)
    (remoteDir localDir : PurePosixPath) : Prop :=
  ∃ enough, ∀ fuel, enough ≤ fuel →
    Tracks handle allowed (pullRemoteTree deleteRemote fuel remoteDir localDir).run [] fun handled result =>
      result ≠ .error .outOfFuel ∧ ∀ path ∈ handled, StrictlyUnder (resolve home remoteDir) (resolve home path)

theorem endsUnder_of_leadsDown {remoteDir : PurePosixPath} (down : LeadsDown tree home lists remoteDir)
    (deleteRemote : Bool) (localDir : PurePosixPath) :
    EndsUnder (AnswersWith tree home lists) home deleteRemote remoteDir localDir := by
  obtain ⟨under,bound,bounded⟩ := down
  refine ⟨bound + 1,fun fuel enough => ?_⟩
  have walks : Walks tree home lists (resolve home remoteDir) (fun _ => True)
      (pullRemoteTree deleteRemote fuel remoteDir localDir) :=
    pullRemoteTree_walks under bounded deleteRemote .top (by omega) localDir
  refine (walks []).mono fun handled result holds => ⟨holds.1.bounded,fun path member => ?_⟩
  exact (holds.1.under path member).resolve_left List.not_mem_nil

abbrev CanWalk (tree : Tree) (home : List Name) (lists : PurePosixPath → List Char → Prop) (x : Ftp α)
    (handled last : List PurePosixPath) (result : Except Raised α) : Prop :=
  Leads handle (AnswersWith tree home lists) x.run handled last result

/-- A normalised entry is the entry as it was read, or stands behind the directory. -/
theorem normalizeRemoteEntry_cases (dir : PurePosixPath) (entry : List Char) :
    normalizeRemoteEntry dir entry = ofText entry ∨
      normalizeRemoteEntry dir entry = dir.below (ofText entry).parts := by
  rw [normalizeRemoteEntry]
  split
  · exact .inl rfl
  split
  · exact .inl rfl
  next relative =>
    right
    rw [join,if_neg relative]
    rfl

theorem Meets.name {dir path : PurePosixPath} (meets : Meets lists dir path) : path.name = [] ∨ IsPart path.name := by
  obtain ⟨entry,_,rfl,differs⟩ := meets
  cases found : (ofText entry).parts.getLast? with
  | none =>
    left
    rcases normalizeRemoteEntry_cases dir entry with read | behind
    · rw [read,PurePosixPath.name,found]
      rfl
    · have nothing : (ofText entry).parts = [] := List.getLast?_eq_none_iff.mp found
      rw [nothing,below_nil] at behind
      exact absurd behind differs
  | some part =>
    right
    have proper := isPart_of_mem (List.mem_of_getLast? found)
    rcases normalizeRemoteEntry_cases dir entry with read | behind
    · rw [read,PurePosixPath.name,found]
      exact proper
    · have last : (dir.below (ofText entry).parts).name = part := by
        simp [below,PurePosixPath.name,found]
      rw [behind,last]
      exact proper

/-- A listing that only names the path, and then the loop at it. -/
theorem listed_leads {dir path localDir : PurePosixPath} (meets : Meets lists dir path) {deleteRemote : Bool} {fuel : Nat}
    {handled last : List PurePosixPath} {result : Except Raised Nat}
    (later : CanWalk tree home lists
      (pullEntries (pullRemoteTree deleteRemote fuel) dir localDir deleteRemote [path] 0) handled last result) :
    CanWalk tree home lists (pullRemoteTree deleteRemote (fuel + 1) dir localDir) handled last result := by
  obtain ⟨entry,listed,rfl,_⟩ := meets
  have lists_ : AnswersWith tree home lists ⟨.nlst dir,([entry],none)⟩ := List.forall_mem_singleton.mpr listed
  exact leads_bind (listRemoteEntries_leads lists_) later

/-- What a listing names can be downloaded. -/
theorem Meets.handled {dir path localDir : PurePosixPath} (meets : Meets lists dir path) (named : localDir.name ≠ [])
    (deleteRemote : Bool) (fuel : Nat) (handled : List PurePosixPath) :
    CanWalk tree home lists (pullRemoteTree deleteRemote (fuel + 1) dir localDir) handled (path :: handled)
      (.error (.ftp .other)) := by
  have nameToo := join_named named meets.name
  have refused : AnswersWith tree home lists ⟨.cwd path,.error (.perm [])⟩ := by
    intro entered
    cases entered
  apply listed_leads meets
  rw [pullEntries,if_neg meets.choose_spec.2.2]
  refine leads_bind (isRemoteDir_refused trivial trivial refused) (leads_ask true trivial (leads_bind leads_pure ?_))
  apply leads_bind_error
  rw [downloadFile,withName,if_neg nameToo]
  exact leads_ask true trivial (leads_bind leads_pure (leads_ask true trivial (leads_bind leads_pure
    (leads_ask ([],some .other) trivial (leads_ask none trivial (leads_bind leads_pure leads_throw))))))

/-- What ends the pull of a directory ends the pull that comes to it. -/
theorem Comes.leads {top dir : PurePosixPath} {depth : Nat} (comes : Comes tree home lists top depth dir)
    {deleteRemote : Bool} {fuel : Nat} {e : Raised} {Good : List PurePosixPath → Prop}
    (here : ∀ localDir handled, localDir.name ≠ [] → ∃ last,
      CanWalk tree home lists (pullRemoteTree deleteRemote fuel dir localDir) handled last (.error e) ∧ Good last) :
    ∀ localDir handled, localDir.name ≠ [] → ∃ last,
      CanWalk tree home lists (pullRemoteTree deleteRemote (depth + fuel) top localDir) handled last (.error e) ∧
        Good last := by
  induction comes generalizing fuel with
  | top =>
    rw [Nat.zero_add]
    exact here
  | @child depth dir path entries above meets directory ih =>
    rw [show depth + 1 + fuel = depth + (fuel + 1) by omega]
    apply ih
    intro localDir handled named
    obtain ⟨last,run,good⟩ := here (localDir.join (ofText path.name)) handled (join_named named meets.name)
    refine ⟨last,listed_leads meets ?_,good⟩
    have enters : AnswersWith tree home lists ⟨.cwd path,.ok ()⟩ := fun _ => ⟨entries,directory⟩
    rw [pullEntries,if_neg meets.choose_spec.2.2]
    exact leads_bind (isRemoteDir_leads trivial trivial enters) (leads_bind_error run)

/-- A pull into a named local directory ends and stays under its remote directory, whatever fails, exactly if the listings
lead down. -/
theorem endsUnder_iff (tree : Tree) (home : List Name) (lists : PurePosixPath → List Char → Prop) (deleteRemote : Bool)
    (remoteDir base : PurePosixPath) (first : Char) (rest : List Char) :
    EndsUnder (AnswersWith tree home lists) home deleteRemote remoteDir (base.below [first :: rest]) ↔
      LeadsDown tree home lists remoteDir := by
  have named : (base.below [first :: rest]).name ≠ [] := by
    simp [below,PurePosixPath.name]
  refine ⟨?_,fun down => endsUnder_of_leadsDown down deleteRemote _⟩
  rintro ⟨enough,ends⟩
  constructor
  · intro depth dir path comes meets
    have reach : ∀ localDir handled, localDir.name ≠ [] → ∃ last,
        CanWalk tree home lists (pullRemoteTree deleteRemote (enough + 1) dir localDir) handled last
          (.error (.ftp .other)) ∧ path ∈ last :=
      fun localDir handled named => ⟨_,meets.handled named deleteRemote enough handled,List.mem_cons_self⟩
    obtain ⟨last,run,member⟩ := comes.leads reach _ [] named
    exact ((ends _ (by omega)).of_leads run).2 path member
  · refine ⟨enough,fun depth dir comes => ?_⟩
    by_contra deep
    have stops : ∀ localDir handled, localDir.name ≠ [] → ∃ last,
        CanWalk tree home lists (pullRemoteTree deleteRemote 0 dir localDir) handled last (.error .outOfFuel) ∧ True :=
      fun localDir handled _ => ⟨handled,leads_throw,trivial⟩
    obtain ⟨last,run,_⟩ := comes.leads stops _ [] named
    exact ((ends _ (by omega)).of_leads run).1 rfl

def card : Tree := .dir [("sdmc:".toList,.dir [("nxrv".toList,.dir []),("boot.dat".toList,.file [1])])]

def logDir : PurePosixPath := ofText "sdmc:/nxrv".toList

def localLogs : PurePosixPath := (ofText []).below ["nxrv".toList]

def dots : Name := ['.','.']

def Listed (_ : PurePosixPath) (entry : List Char) : Prop := entry = dots ∨ entry = "boot.dat".toList

/-- However much fuel there is, listings of two dots use it up. -/
theorem dots_climb (fuel : Nat) (parts : List Name) (localDir : PurePosixPath) (handled : List PurePosixPath)
    (place : parts.foldl enter ["sdmc:".toList] ∈ [[],["sdmc:".toList],["sdmc:".toList,"nxrv".toList]]) :
    CanWalk card [] Listed (pullRemoteTree false fuel ⟨[],"sdmc:".toList :: parts⟩ localDir) handled handled
      (.error .outOfFuel) := by
  induction fuel generalizing parts localDir with
  | zero => exact leads_throw
  | succ fuel ih =>
    have above : (parts ++ [dots]).foldl enter ["sdmc:".toList] = (parts.foldl enter ["sdmc:".toList]).dropLast := by
      rw [List.foldl_append]
      rfl
    have entry : normalizeRemoteEntry ⟨[],"sdmc:".toList :: parts⟩ dots = ⟨[],"sdmc:".toList :: (parts ++ [dots])⟩ := by
      have other : ofText dots ≠ ⟨[],"sdmc:".toList :: parts⟩ := by
        intro same
        have first : some dots = some "sdmc:".toList := congrArg (fun path => path.parts.head?) same
        exact absurd first (by decide)
      rw [normalizeRemoteEntry,if_neg other]
      rfl
    have differs : (⟨[],"sdmc:".toList :: (parts ++ [dots])⟩ : PurePosixPath) ≠ ⟨[],"sdmc:".toList :: parts⟩ := by
      simp
    have places : (parts ++ [dots]).foldl enter ["sdmc:".toList] ∈
        [[],["sdmc:".toList],["sdmc:".toList,"nxrv".toList]] := by
      rw [above]
      simp only [List.mem_cons,List.not_mem_nil,or_false] at place ⊢
      rcases place with here | here | here <;> rw [here] <;> simp
    have enters : AnswersWith card [] Listed ⟨.cwd ⟨[],"sdmc:".toList :: (parts ++ [dots])⟩,.ok ()⟩ := by
      intro _
      have resolved : resolve [] ⟨[],"sdmc:".toList :: (parts ++ [dots])⟩ =
          (parts ++ [dots]).foldl enter ["sdmc:".toList] := rfl
      rw [resolved]
      simp only [List.mem_cons,List.not_mem_nil,or_false] at places
      rcases places with here | here | here <;> rw [here] <;> exact ⟨_,rfl⟩
    refine listed_leads ⟨dots,.inl rfl,entry,differs⟩ ?_
    rw [pullEntries,if_neg differs]
    refine leads_bind (isRemoteDir_leads trivial trivial enters) ?_
    exact leads_bind_error (ih _ _ places)

/-- Listings of two dots never end, or lead to a file beside the directory, which is downloaded and deleted. -/
theorem pull_dots :
    ¬EndsUnder (AnswersWith card [] Listed) [] false logDir localLogs ∧
      ∃ handled, CanWalk card [] Listed (pullRemoteTree true 2 logDir localLogs) [] handled (.ok 1) ∧
        ofText "sdmc:/nxrv/../boot.dat".toList ∈ handled ∧
        ¬StrictlyUnder (resolve [] logDir) (resolve [] (ofText "sdmc:/nxrv/../boot.dat".toList)) := by
  constructor
  · rintro ⟨enough,ends⟩
    have climbs := dots_climb enough ["nxrv".toList] localLogs [] (by decide)
    exact ((ends enough (Nat.le_refl enough)).of_leads climbs).1 rfl
  · let up : PurePosixPath := ofText "sdmc:/nxrv/..".toList
    let file : PurePosixPath := ofText "sdmc:/nxrv/../boot.dat".toList
    refine ⟨[up,file,file],?_,by decide,fun under => absurd under.1 (by decide)⟩
    have dots_ : AnswersWith card [] Listed ⟨.nlst logDir,([dots],none)⟩ := List.forall_mem_singleton.mpr (.inl rfl)
    have boot : AnswersWith card [] Listed ⟨.nlst up,(["boot.dat".toList],none)⟩ :=
      List.forall_mem_singleton.mpr (.inr rfl)
    have enters : AnswersWith card [] Listed ⟨.cwd up,.ok ()⟩ := fun _ => ⟨_,rfl⟩
    have refused : AnswersWith card [] Listed ⟨.cwd file,.error (.perm [])⟩ := by
      intro entered
      cases entered
    exact ⟨([dots],none),dots_,.ok [],trivial,.ok (),enters,.ok (),trivial,
      (["boot.dat".toList],none),boot,.ok [],trivial,.error (.perm []),refused,.ok (),trivial,true,trivial,true,trivial,
      true,trivial,([1],none),trivial,none,trivial,true,trivial,.ok (),trivial,.error (.perm []),trivial,rfl,rfl⟩

end NxReverse.Tools.FtpSync
