import NxReverse.Tools.CleaningPull

/-! Files with the temporary name of a later entry. The download of the entry goes through the local file that was kept
for them, behind the deletion on the server. Without such files a cleaning pull loses nothing. -/
namespace NxReverse.Tools.FtpSync

open Program PurePosixPath

variable {remote : RemoteTree} {root base : PurePosixPath} {rel : List Name} {name : Name}

abbrev Can (remote : RemoteTree) (root : PurePosixPath) {α : Type} (x : Ftp α) (before last : Pulled)
    (result : Except Raised α) : Prop := Leads Pulled.step (Serves remote.tree root) x.run before last result

theorem leads_check {α : Type} {f : Unit → Ftp α} {before last : Pulled} {result : Except Raised α}
    (later : Can remote root (f ()) before last result) : Can remote root (check true >>= f) before last result :=
  leads_bind leads_pure later

/-- A refused download removes the temporary file; only 550 goes on. -/
theorem downloadFile_refused (base : PurePosixPath) (proper : IsName name) (text : List Char) (before : Pulled) :
    ∃ last, Can remote root (downloadFile (root.below (rel ++ [name])) (base.below (rel ++ [name])) true) before last
        (if unavailable text then .ok false else .error (.ftp (.perm text))) ∧
      last.deleted = before.deleted ∧ last.files (base.below (rel ++ [temporaryName name])) = none := by
  have temporary := withName_below base rel proper.1 (temporaryName name)
  have ends : ∀ last, Can remote root (if unavailable text then pure false else throw (.ftp (.perm text)) : Ftp Bool)
      last last (if unavailable text then .ok false else .error (.ftp (.perm text))) := by
    intro last
    split
    · exact leads_pure
    · exact leads_throw
  rw [downloadFile,name_below,temporary]
  apply Exists.intro
  constructor
  · exact leads_ask true trivial (leads_check (leads_ask true trivial (leads_check
      (leads_ask ([],some (.perm text)) nofun (leads_ask none trivial (leads_check
        (leads_ask true trivial (leads_check (ends _)))))))))
  · exact ⟨rfl,by simp [Pulled.step]⟩

theorem keepDownload_kept (remotePath localPath temporaryPath : PurePosixPath) (before : Pulled) :
    ∃ last, Can remote root (keepDownload remotePath localPath temporaryPath true) before last (.ok true) ∧
      remotePath ∈ last.deleted := by
  refine ⟨Pulled.step (Pulled.step before ⟨.replace temporaryPath localPath,true⟩) ⟨.dele remotePath,.ok ()⟩,?_,
    List.mem_cons_self⟩
  refine leads_ask true trivial (leads_check ?_)
  rw [if_pos rfl]
  exact leads_ask (Except.ok ()) trivial leads_pure

theorem file_serves {content : Bytes} (found : remote.tree.at_ rel = some (.file content)) :
    Serves remote.tree root ⟨.retr (root.below rel),(content,none)⟩ := by
  intro _ place same
  rw [← below_inj.mp same]
  exact found

/-- A download without a failure. -/
theorem downloadFile_kept (base : PurePosixPath) (proper : IsName name) {content : Bytes}
    (found : remote.tree.at_ (rel ++ [name]) = some (.file content)) (before : Pulled) :
    ∃ last, Can remote root (downloadFile (root.below (rel ++ [name])) (base.below (rel ++ [name])) true) before last
      (.ok true) ∧ root.below (rel ++ [name]) ∈ last.deleted := by
  have temporary := withName_below base rel proper.1 (temporaryName name)
  have ends := @keepDownload_kept remote root (root.below (rel ++ [name])) (base.below (rel ++ [name]))
    (base.below (rel ++ [temporaryName name]))
  rw [downloadFile,name_below,temporary]
  obtain ⟨last,keeps,sent⟩ := ends _
  exact ⟨last,leads_ask true trivial (leads_check (leads_ask true trivial (leads_check
    (leads_ask (content,none) (file_serves found) (leads_ask none trivial (leads_check keeps)))))),sent⟩

section Entry

variable {pull : PurePosixPath → PurePosixPath → Ftp Nat}

/-- The loop at an entry that is tried as a file. -/
theorem entry_tried (proper : IsName name) (walked : Walked (root.below rel) name) {rest : List PurePosixPath}
    {downloaded : Nat} {before last : Pulled} {result : Except Raised Nat}
    (later : Can remote root (do
      let kept ← downloadFile (root.below (rel ++ [name])) (base.below (rel ++ [name])) true
      pullEntries pull (root.below rel) (base.below rel) true rest (if kept then downloaded + 1 else downloaded))
      before last result) :
    Can remote root (pullEntries pull (root.below rel) (base.below rel) true
      (normalizeRemoteEntry (root.below rel) name :: rest) downloaded) before last result := by
  have path := normalize_name proper walked
  rw [below_below] at path
  rw [pullEntries,if_neg walked,path,name_below,join_name _ proper,below_below]
  have refused : Serves remote.tree root ⟨.cwd (root.below (rel ++ [name])),.error (.perm [])⟩ := by
    intro entered
    cases entered
  exact leads_bind (isRemoteDir_refused trivial trivial refused)
    (leads_ask true trivial (leads_check later))

/-- Every entry can be passed over, with what was deleted as before. -/
theorem entry_skipped (proper : IsName name) (before : Pulled) : ∃ after, after.deleted = before.deleted ∧
    ∀ rest downloaded last result,
      Can remote root (pullEntries pull (root.below rel) (base.below rel) true rest downloaded) after last result →
        Can remote root (pullEntries pull (root.below rel) (base.below rel) true
          (normalizeRemoteEntry (root.below rel) name :: rest) downloaded) before last result := by
  by_cases walked : Walked (root.below rel) name
  · obtain ⟨after,refused,deleted,_⟩ := @downloadFile_refused remote root rel name base proper "550".toList before
    exact ⟨after,deleted,fun rest downloaded last result later => entry_tried proper walked (leads_bind refused later)⟩
  · refine ⟨before,rfl,fun rest downloaded last result later => ?_⟩
    rw [pullEntries,if_pos (not_not.mp walked)]
    exact later

theorem entries_skipped (names : List Name) (proper : ∀ name ∈ names, IsName name) (before : Pulled) :
    ∃ after, after.deleted = before.deleted ∧ ∀ rest downloaded last result,
      Can remote root (pullEntries pull (root.below rel) (base.below rel) true rest downloaded) after last result →
        Can remote root (pullEntries pull (root.below rel) (base.below rel) true
          (names.map (normalizeRemoteEntry (root.below rel)) ++ rest) downloaded) before last result := by
  induction names generalizing before with
  | nil => exact ⟨before,rfl,fun _ _ _ _ => id⟩
  | cons name names ih =>
    obtain ⟨first,others⟩ := List.forall_mem_cons.mp proper
    obtain ⟨middle,deleted,skips⟩ := @entry_skipped remote root base rel name pull first before
    obtain ⟨after,deletedToo,skipsToo⟩ := ih others middle
    exact ⟨after,deletedToo.trans deleted,fun rest downloaded last result later =>
      skips _ _ _ _ (skipsToo rest downloaded last result later)⟩

end Entry

theorem names_proper {entries part : List (Name × Tree)} (here : remote.tree.at_ rel = some (.dir entries))
    (inside : ∀ entry ∈ part, entry ∈ entries) : ∀ name ∈ part.map Prod.fst, IsName name := by
  intro name listed
  obtain ⟨entry,member,rfl⟩ := List.mem_map.mp listed
  exact (remote.wellNamed rel entries here).2 entry (inside entry member)

/-- A listing without a failure. -/
theorem listing_serves {entries : List (Name × Tree)} (here : remote.tree.at_ rel = some (.dir entries)) :
    Serves remote.tree root ⟨.nlst (root.below rel),(entries.map Prod.fst,none)⟩ := by
  intro place others same found
  obtain rfl := below_inj.mp same
  cases here.symm.trans found
  exact ⟨List.prefix_rfl,fun _ => rfl⟩

def Lost (root base : PurePosixPath) (place : List Name) (pulled : Pulled) : Prop :=
  root.below place ∈ pulled.deleted ∧ pulled.files (base.below place) = none

theorem Lost.not_kept {place : List Name} {pulled : Pulled} (lost : Lost root base place pulled) :
    ¬∀ path ∈ pulled.deleted, ∃ rel content, path = root.below rel ∧ remote.tree.at_ rel = some (.file content) ∧
      pulled.files (base.below rel) = some content := by
  intro kept
  obtain ⟨rel,content,path,_,holds⟩ := kept _ lost.1
  rw [← below_inj.mp path,lost.2] at holds
  cases holds

/-- A pull of the directory can be stopped by a failure behind which the file is lost. -/
def CanLose (remote : RemoteTree) (root base : PurePosixPath) (place rel : List Name) : Prop :=
  ∃ fuel e, ∀ before, ∃ last,
    Can remote root (pullRemoteTree true fuel (root.below rel) (base.below rel)) before last (.error e) ∧
      Lost root base place last

/-- The file is deleted, the entries between are passed over, and the later entry is refused. -/
theorem canLose_here {entries front middle behind : List (Name × Tree)} {content : Bytes} {child : Tree}
    (here : remote.tree.at_ rel = some (.dir entries))
    (split : entries = front ++ (temporaryName name,.file content) :: (middle ++ (name,child) :: behind))
    (walked : Walked (root.below rel) (temporaryName name)) (walkedToo : Walked (root.below rel) name) :
    CanLose remote root base (rel ++ [temporaryName name]) rel := by
  have kept : (temporaryName name,.file content) ∈ entries := by simp [split]
  have proper : IsName (temporaryName name) := (remote.wellNamed rel entries here).2 _ kept
  have properToo : IsName name := (remote.wellNamed rel entries here).2 (name,child) (by simp [split])
  refine ⟨1,.ftp (.perm "553".toList),fun before => ?_⟩
  obtain ⟨first,_,skips⟩ := @entries_skipped remote root base rel (pullRemoteTree true 0) (front.map Prod.fst)
    (names_proper here fun entry early => by simp [split,early]) before
  obtain ⟨second,keeps,sent⟩ := @downloadFile_kept remote root rel _ base proper content (at_entry here kept) first
  obtain ⟨third,deleted,skipsToo⟩ := @entries_skipped remote root base rel (pullRemoteTree true 0) (middle.map Prod.fst)
    (names_proper here fun entry between => by simp [split,between]) second
  obtain ⟨last,refused,deletedToo,gone⟩ := @downloadFile_refused remote root rel name base properToo "553".toList third
  refine ⟨last,leads_bind (listRemoteEntries_leads (listing_serves here)) ?_,?_,gone⟩
  · rw [split]
    simp only [List.map_append,List.map_cons]
    exact skips _ _ _ _ (entry_tried proper walked (leads_bind keeps
      (skipsToo _ _ _ _ (entry_tried properToo walkedToo (leads_bind_error refused)))))
  · rw [deletedToo,deleted]
    exact sent

/-- A loss in a directory is one of the pull that comes to it, with the entries before it passed over. -/
theorem Visited.canLose {entries : List (Name × Tree)} (visited : Visited remote root rel entries) {place : List Name}
    (loses : CanLose remote root base place rel) : CanLose remote root base place [] := by
  induction visited with
  | root => exact loses
  | @child rel entries children name above member walked ih =>
    apply ih
    obtain ⟨fuel,e,fails⟩ := loses
    refine ⟨fuel + 1,e,fun before => ?_⟩
    obtain ⟨front,behind,split⟩ := List.append_of_mem member
    obtain ⟨after,_,skips⟩ := @entries_skipped remote root base rel (pullRemoteTree true fuel) (front.map Prod.fst)
      (names_proper above.at fun entry early => by simp [split,early]) before
    obtain ⟨last,stops,lost⟩ := fails after
    have proper : IsName name := (remote.wellNamed rel entries above.at).2 _ member
    have path := normalize_name proper walked
    rw [below_below] at path
    have enters : Serves remote.tree root ⟨.cwd (root.below (rel ++ [name])),.ok ()⟩ := by
      intro _ place same
      rw [← below_inj.mp same]
      exact ⟨children,at_entry above.at member⟩
    refine ⟨last,leads_bind (listRemoteEntries_leads (listing_serves above.at)) ?_,lost⟩
    rw [split]
    simp only [List.map_append,List.map_cons]
    apply skips
    rw [pullEntries,if_neg walked,path,name_below,join_name _ proper,below_below]
    exact leads_bind (isRemoteDir_leads trivial trivial enters) (leads_bind_error stops)

/-- Two entries out of order that break a pairwise relation. -/
theorem exists_clash {α : Type} {R : α → α → Prop} {items : List α} (breaks : ¬items.Pairwise R) :
    ∃ front earlier middle later behind, items = front ++ earlier :: (middle ++ later :: behind) ∧ ¬R earlier later := by
  rw [List.pairwise_iff_forall_sublist] at breaks
  obtain ⟨earlier,breaks⟩ := not_forall.mp breaks
  obtain ⟨later,breaks⟩ := not_forall.mp breaks
  obtain ⟨part,apart⟩ := Classical.not_imp.mp breaks
  obtain ⟨first,rest,rfl,member,single⟩ := List.cons_sublist_iff.mp part
  obtain ⟨front,middle,rfl⟩ := List.append_of_mem member
  obtain ⟨more,behind,rfl⟩ := List.append_of_mem (List.singleton_sublist.mp single)
  exact ⟨front,earlier,middle ++ more,later,behind,by simp,apart⟩

/-- A cleaning pull keeps what it deletes, whatever fails, exactly if no directory that it comes to lists a file with
the temporary name of a later entry. -/
theorem keepsDeleted_iff (remote : RemoteTree) (root base : PurePosixPath) : KeepsDeleted remote root base ↔
    ∀ rel entries, Visited remote root rel entries → NoTemporary (root.below rel) entries := by
  refine ⟨fun keeps rel entries visited => ?_,keepsDeleted_of_clear base⟩
  by_contra clash
  obtain ⟨front,earlier,middle,later,behind,split,breaks⟩ := exists_clash clash
  simp only [Classical.not_imp,not_not] at breaks
  obtain ⟨walked,walkedToo,⟨content,file⟩,equal⟩ := breaks
  obtain ⟨first,tree⟩ := earlier
  obtain ⟨name,child⟩ := later
  obtain rfl : tree = .file content := file
  obtain rfl : first = temporaryName name := equal
  have loses : CanLose remote root base (rel ++ [temporaryName name]) rel :=
    canLose_here visited.at split walked walkedToo
  obtain ⟨fuel,e,fails⟩ := visited.canLose loses
  obtain ⟨last,run,sent,gone⟩ := fails ⟨fun _ => none,[]⟩
  rw [below_nil,below_nil] at run
  exact Lost.not_kept ⟨sent,gone⟩ ((keeps fuel fun _ => none).of_leads run)

def logs : RemoteTree where
  entries := [(".log.part".toList,.file [1]),("log".toList,.file [2])]
  wellNamed rel entries here := by
    cases rel with
    | nil =>
      cases here
      exact ⟨by decide,by simp [IsName]⟩
    | cons name rel =>
      rw [Tree.at_,Dicts.get_cons,Dicts.get_cons] at here
      split at here
      · cases rel <;> cases here
      · split at here
        · cases rel <;> cases here
        · cases here

/-- Without any failure: the first file is deleted on the server, and the download of the second takes its local file. -/
theorem keepsDeleted_part :
    ¬KeepsDeleted logs (ofText "sdmc:/nxrv".toList) (ofText "nxrv".toList) ∧
      ∃ last, Can logs (ofText "sdmc:/nxrv".toList)
          (pullRemoteTree true 1 (ofText "sdmc:/nxrv".toList) (ofText "nxrv".toList)) ⟨fun _ => none,[]⟩ last (.ok 2) ∧
        Lost (ofText "sdmc:/nxrv".toList) (ofText "nxrv".toList) [".log.part".toList] last := by
  have loses : ∃ last, Can logs (ofText "sdmc:/nxrv".toList)
      (pullRemoteTree true 1 (ofText "sdmc:/nxrv".toList) (ofText "nxrv".toList)) ⟨fun _ => none,[]⟩ last (.ok 2) ∧
        Lost (ofText "sdmc:/nxrv".toList) (ofText "nxrv".toList) [".log.part".toList] last := by
    have lists : Serves logs.tree (ofText "sdmc:/nxrv".toList)
        ⟨.nlst (ofText "sdmc:/nxrv".toList),([".log.part".toList,"log".toList],none)⟩ :=
      @listing_serves logs (ofText "sdmc:/nxrv".toList) [] _ rfl
    have part : Serves logs.tree (ofText "sdmc:/nxrv".toList)
        ⟨.retr (ofText "sdmc:/nxrv/.log.part".toList),([1],none)⟩ :=
      @file_serves logs (ofText "sdmc:/nxrv".toList) [".log.part".toList] _ rfl
    have log : Serves logs.tree (ofText "sdmc:/nxrv".toList) ⟨.retr (ofText "sdmc:/nxrv/log".toList),([2],none)⟩ :=
      @file_serves logs (ofText "sdmc:/nxrv".toList) ["log".toList] _ rfl
    apply Exists.intro
    constructor
    · exact ⟨([".log.part".toList,"log".toList],none),lists,
        .ok [],trivial,.error (.perm []),nofun,.ok (),trivial,true,trivial,true,trivial,true,trivial,([1],none),part,
          none,trivial,true,trivial,.ok (),trivial,
        .ok [],trivial,.error (.perm []),nofun,.ok (),trivial,true,trivial,true,trivial,true,trivial,([2],none),log,
          none,trivial,true,trivial,.ok (),trivial,rfl,rfl⟩
    · exact ⟨by decide,by decide⟩
  refine ⟨fun keeps => ?_,loses⟩
  obtain ⟨last,run,sent,gone⟩ := loses
  exact Lost.not_kept ⟨sent,gone⟩ ((keeps 1 _).of_leads run)

end NxReverse.Tools.FtpSync
