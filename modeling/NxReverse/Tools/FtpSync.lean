import NxReverse.Lib.Dicts
import NxReverse.Lib.TrackedPrograms
import NxReverse.Tools.PosixPaths

/-! The pull side of the FTP tool as a program over its FTP commands and its calls on local files, each of which may
fail. The recursion over directories is bounded by a fuel. Beside it the trees that a server holds. -/
namespace NxReverse.Tools.FtpSync

open Program PurePosixPath

abbrev Bytes := List UInt8

/-- How an FTP command fails: `error_temp`, `error_perm` with its text, or in another way. -/
inductive Failure where
  | temp
  | perm (text : List Char)
  | other
  deriving DecidableEq, Repr

/-- `str(exc).startswith("550")`. -/
def unavailable (text : List Char) : Bool := "550".toList.isPrefixOf text

inductive Command where
  | nlst (dir : PurePosixPath)
  | pwd
  | cwd (path : PurePosixPath)
  | cwdBack (dir : List Char)
  | retr (path : PurePosixPath)
  | dele (path : PurePosixPath)
  | rmd (path : PurePosixPath)
  | mkdir (path : PurePosixPath)
  | openWb (path : PurePosixPath)
  | write (path : PurePosixPath) (data : Bytes)
  | unlink (path : PurePosixPath)
  | replace (path target : PurePosixPath)
  deriving DecidableEq

/-- A listing or a file can end in a failure behind what was received. A write that fails has written so many bytes;
the other local calls answer whether they succeeded. -/
abbrev Answer : Command → Type
  | .nlst _ => List (List Char) × Option Failure
  | .pwd => Except Failure (List Char)
  | .cwd _ | .cwdBack _ | .dele _ | .rmd _ => Except Failure Unit
  | .retr _ => Bytes × Option Failure
  | .mkdir _ | .openWb _ | .unlink _ | .replace _ _ => Bool
  | .write _ _ => Option Nat

/-- What ends a pull: an FTP failure, an `OSError` or `ValueError`, or the bound on the recursion. -/
inductive Raised where
  | ftp (failure : Failure)
  | system
  | outOfFuel
  deriving DecidableEq, Repr

abbrev Ftp (α : Type) := ExceptT Raised (Program Answer) α

/-- A local call raises where it does not succeed. -/
def check (succeeded : Bool) : Ftp Unit := if succeeded then pure () else throw .system

def expect {α : Type} : Except Failure α → Ftp α
  | .ok value => pure value
  | .error failure => throw (.ftp failure)

/-- The end of `download_file`, behind the transfer. -/
def keepDownload (remotePath localPath temporaryPath : PurePosixPath) (deleteRemote : Bool) : Ftp Bool := do
  let replaced ← ask (Command.replace temporaryPath localPath)
  check replaced
  if deleteRemote then
    let deleted ← ask (Command.dele remotePath)
    match deleted with
    | .error (.perm text) => if unavailable text then pure true else throw (.ftp (.perm text))
    | .error failure => throw (.ftp failure)
    | .ok () => pure true
  else pure true

/-- `download_file` with its temporary path; what is received is written as it comes. -/
def transfer (remotePath localPath temporaryPath : PurePosixPath) (deleteRemote : Bool) : Ftp Bool := do
  let opened ← ask (Command.openWb temporaryPath)
  check opened
  let received ← ask (Command.retr remotePath)
  let written ← ask (Command.write temporaryPath received.1)
  check written.isNone
  match received.2 with
  | some (.perm text) =>
    let unlinked ← ask (Command.unlink temporaryPath)
    check unlinked
    if unavailable text then pure false else throw (.ftp (.perm text))
  | some failure => throw (.ftp failure)
  | none => keepDownload remotePath localPath temporaryPath deleteRemote

/-- `.{name}.part`. -/
def temporaryName (name : Name) : Name := '.' :: name ++ ".part".toList

def downloadFile (remotePath localPath : PurePosixPath) (deleteRemote : Bool) : Ftp Bool := do
  let made ← ask (Command.mkdir localPath.parent)
  check made
  match localPath.withName (temporaryName localPath.name) with
  | some temporaryPath => transfer remotePath localPath temporaryPath deleteRemote
  | none => throw .system

/-- A temporary failure and 550 leave what was received. -/
def listRemoteFiles (remoteDir : PurePosixPath) : Ftp (List (List Char)) := do
  let listed ← ask (Command.nlst remoteDir)
  match listed.2 with
  | none => pure listed.1
  | some .temp => pure listed.1
  | some (.perm text) => if unavailable text then pure listed.1 else throw (.ftp (.perm text))
  | some .other => throw (.ftp .other)

def normalizeRemoteEntry (remoteDir : PurePosixPath) (entry : List Char) : PurePosixPath :=
  let remotePath := ofText entry
  if remotePath = remoteDir then remotePath
  else if remotePath.isAbsolute then remotePath
  else remoteDir.join remotePath

def listRemoteEntries (remoteDir : PurePosixPath) : Ftp (List PurePosixPath) := do
  let files ← listRemoteFiles remoteDir
  pure (files.map (normalizeRemoteEntry remoteDir))

/-- The working directory is restored whatever happens, and a failure of that is raised in place of any other. -/
def isRemoteDir (remotePath : PurePosixPath) : Ftp Bool := do
  let current ← ask Command.pwd
  let currentDir ← expect current
  let changed ← ask (Command.cwd remotePath)
  let restored ← ask (Command.cwdBack currentDir)
  expect restored
  match changed with
  | .ok () => pure true
  | .error (.perm _) => pure false
  | .error failure => throw (.ftp failure)

/-- `ftp.rmd`, with permanent failures ignored. -/
def removeDir (remotePath : PurePosixPath) : Ftp Unit := do
  let removed ← ask (Command.rmd remotePath)
  match removed with
  | .ok () => pure ()
  | .error (.perm _) => pure ()
  | .error failure => throw (.ftp failure)

/-- The loop of `pull_remote_tree`, over a call for the directories below. -/
def pullEntries (pull : PurePosixPath → PurePosixPath → Ftp Nat) (remoteDir localDir : PurePosixPath)
    (deleteRemote : Bool) : List PurePosixPath → Nat → Ftp Nat
  | [],downloaded => pure downloaded
  | remotePath :: rest,downloaded => do
    if remotePath = remoteDir then pullEntries pull remoteDir localDir deleteRemote rest downloaded
    else
      let directory ← isRemoteDir remotePath
      if directory then
        let childDownloaded ← pull remotePath (localDir.join (ofText remotePath.name))
        if deleteRemote then removeDir remotePath
        pullEntries pull remoteDir localDir deleteRemote rest (downloaded + childDownloaded)
      else
        let made ← ask (Command.mkdir localDir)
        check made
        let kept ← downloadFile remotePath (localDir.join (ofText remotePath.name)) deleteRemote
        pullEntries pull remoteDir localDir deleteRemote rest (if kept then downloaded + 1 else downloaded)

def pullRemoteTree (deleteRemote : Bool) : Nat → PurePosixPath → PurePosixPath → Ftp Nat
  | 0,_,_ => throw .outOfFuel
  | fuel + 1,remoteDir,localDir => do
    let entries ← listRemoteEntries remoteDir
    pullEntries (pullRemoteTree deleteRemote fuel) remoteDir localDir deleteRemote entries 0

section Leads

variable {σ : Type} {step : σ → Exchange Answer → σ} {allowed : Exchange Answer → Prop} {state : σ}

theorem listRemoteEntries_leads {dir : PurePosixPath} {files : List (List Char)}
    (now : allowed ⟨.nlst dir,(files,none)⟩) :
    Leads step allowed (listRemoteEntries dir).run state (step state ⟨.nlst dir,(files,none)⟩)
      (.ok (files.map (normalizeRemoteEntry dir))) :=
  leads_bind (leads_ask (files,none) now leads_pure) leads_pure

/-- The state behind the three commands that ask for a directory. -/
def asked (step : σ → Exchange Answer → σ) (state : σ) (path : PurePosixPath) (answer : Except Failure Unit) : σ :=
  step (step (step state ⟨.pwd,.ok []⟩) ⟨.cwd path,answer⟩) ⟨.cwdBack [],.ok ()⟩

theorem isRemoteDir_leads (working : allowed ⟨.pwd,.ok []⟩) (back : allowed ⟨.cwdBack [],.ok ()⟩)
    {path : PurePosixPath} (now : allowed ⟨.cwd path,.ok ()⟩) :
    Leads step allowed (isRemoteDir path).run state (asked step state path (.ok ())) (.ok true) :=
  leads_ask (Except.ok []) working (leads_bind leads_pure (leads_ask (Except.ok ()) now
    (leads_ask (Except.ok ()) back (leads_bind leads_pure leads_pure))))

theorem isRemoteDir_refused (working : allowed ⟨.pwd,.ok []⟩) (back : allowed ⟨.cwdBack [],.ok ()⟩)
    {path : PurePosixPath} (now : allowed ⟨.cwd path,.error (.perm [])⟩) :
    Leads step allowed (isRemoteDir path).run state (asked step state path (.error (.perm []))) (.ok false) :=
  leads_ask (Except.ok []) working (leads_bind leads_pure (leads_ask (Except.error (.perm [])) now
    (leads_ask (Except.ok ()) back (leads_bind leads_pure leads_pure))))

end Leads

inductive Tree where
  | file (content : Bytes)
  | dir (entries : List (Name × Tree))

namespace Tree

def at_ : List Name → Tree → Option Tree
  | [],tree => some tree
  | _ :: _,.file _ => none
  | name :: rel,.dir entries => (Dicts.get name entries).bind (at_ rel)

mutual

/-- The directories on the longest path, without the first. -/
def height : Tree → Nat
  | .file _ => 0
  | .dir entries => heights entries

def heights : List (Name × Tree) → Nat
  | [] => 0
  | (_,child) :: entries => max (child.height + 1) (heights entries)

end

theorem height_lookup {entries : List (Name × Tree)} {name : Name} {child : Tree}
    (found : Dicts.get name entries = some child) : child.height + 1 ≤ heights entries := by
  induction entries with
  | nil => cases found
  | cons entry entries ih =>
    obtain ⟨other,first⟩ := entry
    rw [Dicts.get_cons] at found
    rw [heights]
    split at found
    · cases found
      exact Nat.le_max_left _ _
    · exact Nat.le_trans (ih found) (Nat.le_max_right _ _)

theorem at_append {tree sub : Tree} {rel : List Name} (found : tree.at_ rel = some sub) (more : List Name) :
    tree.at_ (rel ++ more) = sub.at_ more := by
  induction rel generalizing tree with
  | nil =>
    cases found
    rfl
  | cons name rel ih =>
    cases tree with
    | file content => cases found
    | dir entries =>
      rw [at_,Option.bind_eq_some_iff] at found
      obtain ⟨child,here,later⟩ := found
      rw [List.cons_append,at_,here]
      exact ih later

end Tree

end NxReverse.Tools.FtpSync
