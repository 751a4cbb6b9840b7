import NxReverse.Toolbox.RuntimeConfig

/-! `SaveRuntimeConfig`: what it prints and the file operations that replace the previous
configuration. Every operation may fail; the trace keeps the files after each of them. -/
namespace NxReverse.Toolbox

open Text

/-- `%s` of a `c_str()`. -/
def cStr (text : CString) : CString := text.takeWhile (· != nul)

def boolText (value : Bool) : CString := if value then "true".toList else "false".toList

def scenarioText : RuntimeScenario → CString
  | .directTunnelUdp => "direct_tunnel_udp".toList
  | .directTunnelTcp => "direct_tunnel_tcp".toList
  | .bsdSystemUdp => "bsd_system_udp".toList
  | .bsdSystemTcp => "bsd_system_tcp".toList
  | .tunnelContractValidation => "tunnel_contract_validation".toList

def bsdSystemUdpExpectedOutcomeName : BsdSystemUdpExpectedOutcome → CString
  | .echoReply => "echo".toList
  | .noReplyTimeout => "no_reply_timeout".toList
  | .terminalClosure => "terminal_closure".toList

def settingLine (setting : CString × CString) : CString := setting.1 ++ '=' :: (setting.2 ++ ['\n'])

def settingLines (settings : List (CString × CString)) : CString := settings.flatMap settingLine

def headerLine : CString := "# NX Reversing Toolbox runtime configuration\n".toList

def runValues (config : RuntimeConfig) : List (CString × CString) :=
  [("run.scenario".toList,scenarioText config.scenario),
    ("run.next_workload_id".toList,decimal config.nextWorkloadId.toNat),
    ("run.active_profile".toList,decimal config.activeProfile.toNat),
    ("profiles.count".toList,decimal config.profiles.length)]

def profileKey (index : Nat) (field : CString) : CString :=
  "profile.".toList ++ decimal index ++ '.' :: field

def profileValues (index : Nat) (profile : RuntimeProfile) : List (CString × CString) :=
  [(profileKey index "name".toList,cStr profile.name),
    (profileKey index "tunnel_destination_ipv4".toList,cStr profile.tunnelDestinationIpv4),
    (profileKey index "bsd_destination_ipv4".toList,cStr profile.bsdDestinationIpv4),
    (profileKey index "udp_destination_port".toList,decimal profile.udpDestinationPort.toNat),
    (profileKey index "tcp_destination_port".toList,decimal profile.tcpDestinationPort.toNat)]

def scenarioValues (config : RuntimeConfig) : List (CString × CString) :=
  [("udp.payload_bytes".toList,decimal config.udp.payloadBytes.toNat),
    ("udp.datagram_count".toList,decimal config.udp.datagramCount.toNat),
    ("udp.pacing_ms".toList,decimal config.udp.pacingMs.toNat),
    ("udp.concurrent_flows".toList,decimal config.udp.concurrentFlows.toNat),
    ("udp.receive_deadline_ms".toList,decimal config.udp.receiveDeadlineMs.toNat),
    ("udp.payload_seed".toList,decimal config.udp.payloadSeed.toNat),
    ("udp.echo_replies".toList,boolText config.udp.echoReplies),
    ("tcp.receive_deadline_ms".toList,decimal config.tcp.receiveDeadlineMs.toNat),
    ("tunnel_contract.verify_cloned_session_lifetime".toList,
      boolText config.tunnelContract.verifyClonedSessionLifetime),
    ("tunnel_contract.verify_mixed_batch".toList,boolText config.tunnelContract.verifyMixedBatch),
    ("bsd_system_udp.verify_post_route_rejection".toList,
      boolText config.bsdSystemUdp.verifyPostRouteRejection),
    ("bsd_system_udp.expected_outcome".toList,
      bsdSystemUdpExpectedOutcomeName config.bsdSystemUdp.expectedOutcome),
    ("bsd_system_udp.require_writable_recovery".toList,boolText config.bsdSystemUdp.requireWritableRecovery)]

def profilePrints : Nat → List RuntimeProfile → List CString
  | _,[] => []
  | index,profile :: rest => settingLines (profileValues index profile) :: profilePrints (index + 1) rest

/-- The texts of the `fprintf` calls. -/
def configPrints (config : RuntimeConfig) : List CString :=
  (headerLine ++ settingLines (runValues config)) ::
    (profilePrints 0 config.profiles ++ [settingLines (scenarioValues config)])

inductive ConfigName where
  | path | temporary | backup
  deriving DecidableEq, Repr

/-- What the configuration path, its `.tmp` and its `.bak` hold. -/
structure ConfigFiles where
  path : Option CString
  temporary : Option CString
  backup : Option CString
  deriving DecidableEq, Repr

namespace ConfigFiles

def get (files : ConfigFiles) : ConfigName → Option CString
  | .path => files.path
  | .temporary => files.temporary
  | .backup => files.backup

def put (files : ConfigFiles) (contents : Option CString) : ConfigName → ConfigFiles
  | .path => { files with path := contents }
  | .temporary => { files with temporary := contents }
  | .backup => { files with backup := contents }

@[simp] theorem get_put (files : ConfigFiles) (contents : Option CString) (name other : ConfigName) :
    (files.put contents name).get other = if other = name then contents else files.get other := by
  cases name <;> cases other <;> rfl

end ConfigFiles

inductive FileOperation where
  | makeDirectory | openTemporary | print | flush | close
  | remove (name : ConfigName)
  | rename (source target : ConfigName)
  deriving DecidableEq, Repr

/-- An operation that was performed, whether it failed and the files after it. -/
structure FileStep where
  operation : FileOperation
  failed : Bool
  files : ConfigFiles
  deriving DecidableEq, Repr

/-- The files with what is to come: the error of each next operation, if it fails, and the
bytes that each next print loses. -/
structure FileWorld where
  files : ConfigFiles
  faults : List (Option Nat)
  lost : List Nat
  trace : List FileStep
  deriving DecidableEq, Repr

def errnoExists : Nat := 17

namespace FileWorld

/-- An operation is tried where no error is due. -/
def outcome (w : FileWorld) (attempt : ConfigFiles → Except Nat ConfigFiles) : Except Nat ConfigFiles :=
  match w.faults.headD none with
  | some errno => .error errno
  | none => attempt w.files

def operate (w : FileWorld) (operation : FileOperation) (attempt : ConfigFiles → Except Nat ConfigFiles) :
    Option Nat × FileWorld :=
  match w.outcome attempt with
  | .error errno =>
    (some errno,{ w with faults := w.faults.tail, trace := w.trace ++ [⟨operation,true,w.files⟩] })
  | .ok files =>
    (none,{ w with files, faults := w.faults.tail, trace := w.trace ++ [⟨operation,false,files⟩] })

def ensureDirectory (w : FileWorld) : Bool × FileWorld :=
  let made := w.operate .makeDirectory .ok
  (made.1 == none || made.1 == some errnoExists,made.2)

def ensureRuntimeConfigDirectories (w : FileWorld) : Bool × FileWorld :=
  let made := w.ensureDirectory
  if made.1 then made.2.ensureDirectory else made

/-- `fopen` of the temporary file with mode `w`. -/
def openTemporary (w : FileWorld) : Option Nat × FileWorld :=
  w.operate .openTemporary fun files => .ok { files with temporary := some [] }

def fprintf (w : FileWorld) (text : CString) : FileWorld :=
  let lost := w.lost.headD 0
  let files := { w.files with temporary := w.files.temporary.map (· ++ text.take (text.length - lost)) }
  { w with files, lost := w.lost.tail, trace := w.trace ++ [⟨.print,lost != 0,files⟩] }

def fflush (w : FileWorld) : Option Nat × FileWorld := w.operate .flush .ok

def fclose (w : FileWorld) : Option Nat × FileWorld := w.operate .close .ok

def remove (w : FileWorld) (name : ConfigName) : Option Nat × FileWorld :=
  w.operate (.remove name) fun files =>
    match files.get name with
    | none => .error errnoNoEntry
    | some _ => .ok (files.put none name)

def rename (w : FileWorld) (source target : ConfigName) : Option Nat × FileWorld :=
  w.operate (.rename source target) fun files =>
    match files.get source with
    | none => .error errnoNoEntry
    | some contents => .ok ((files.put none source).put (some contents) target)

end FileWorld

variable (limits : TunnelLimits) (strerror : Nat → CString)

/-- The temporary file takes the place of the configuration, which has been moved away. -/
def moveIntoPlace (moved : Bool) (w : FileWorld) : Except CString Unit × FileWorld :=
  match w.rename .temporary .path with
  | (some replaceError,w) =>
    let restored := if moved then w.rename .backup .path else (none,w)
    let cleared := restored.2.remove .temporary
    (.error ("unable to replace configuration: ".toList ++ strerror replaceError ++
      if restored.1 = none then [] else "; unable to restore previous configuration".toList),cleared.2)
  | (none,w) => (.ok (),if moved then (w.remove .backup).2 else w)

def replaceConfiguration (w : FileWorld) : Except CString Unit × FileWorld :=
  match w.remove .backup with
  | (cleared,w) =>
    if cleared ≠ none ∧ cleared ≠ some errnoNoEntry then
      (.error ("unable to clear previous configuration backup: ".toList ++ strerror (cleared.getD 0)),
        (w.remove .temporary).2)
    else
      match w.rename .path .backup with
      | (none,w) => moveIntoPlace strerror true w
      | (some errno,w) =>
        if errno = errnoNoEntry then moveIntoPlace strerror false w
        else (.error ("unable to prepare configuration replacement: ".toList ++ strerror errno),
          (w.remove .temporary).2)

def saveRuntimeConfig (config : RuntimeConfig) (w : FileWorld) : Except CString Unit × FileWorld :=
  match validateRuntimeConfig limits config with
  | .error error => (.error error,w)
  | .ok () =>
    match w.ensureRuntimeConfigDirectories with
    | (false,w) => (.error "unable to create configuration directory".toList,w)
    | (true,w) =>
      match w.openTemporary with
      | (some errno,w) => (.error ("unable to create configuration: ".toList ++ strerror errno),w)
      | (none,w) =>
        let flushed := ((configPrints config).foldl FileWorld.fprintf w).fflush
        let closed := flushed.2.fclose
        if flushed.1 ≠ none ∨ closed.1 ≠ none then
          (.error "unable to write configuration".toList,(closed.2.remove .temporary).2)
        else replaceConfiguration strerror closed.2

def ConfigFiles.openPath (files : ConfigFiles) : Except Nat CString :=
  match files.path with
  | none => .error errnoNoEntry
  | some text => .ok text

namespace FileWorld

variable {w : FileWorld}

theorem operate_lost (operation : FileOperation) (attempt : ConfigFiles → Except Nat ConfigFiles) :
    (w.operate operation attempt).2.lost = w.lost := by
  unfold operate
  cases w.outcome attempt with
  | error errno => rfl
  | ok files => rfl

/-- An operation that succeeds has been tried on the files; one that fails has left them. -/
theorem operate_files (operation : FileOperation) (attempt : ConfigFiles → Except Nat ConfigFiles) :
    ((w.operate operation attempt).1 = none ∧ attempt w.files = .ok (w.operate operation attempt).2.files) ∨
    ((w.operate operation attempt).1 ≠ none ∧ (w.operate operation attempt).2.files = w.files) := by
  unfold operate
  cases out : w.outcome attempt with
  | error errno => exact .inr ⟨nofun,rfl⟩
  | ok files =>
    refine .inl ⟨rfl,?_⟩
    unfold outcome at out
    split at out
    · cases out
    · exact out

theorem operate_same (operation : FileOperation) : (w.operate operation .ok).2.files = w.files := by
  rcases w.operate_files operation .ok with ⟨_,same⟩ | ⟨_,same⟩
  · exact (Except.ok.inj same).symm
  · exact same

/-- Prints that lose nothing append their texts. -/
theorem foldl_fprintf {text : CString} {prints : List CString} (stored : ∀ n ∈ w.lost.take prints.length, n = 0)
    (contents : w.files.temporary = some text) :
    (prints.foldl fprintf w).files.temporary = some (text ++ prints.flatten) := by
  induction prints generalizing w text with
  | nil => simp [contents]
  | cons print rest ih =>
    have whole : w.lost.headD 0 = 0 := by
      cases due : w.lost with
      | nil => rfl
      | cons n later =>
        rw [due] at stored
        exact stored n List.mem_cons_self
    have later : ∀ n ∈ (w.fprintf print).lost.take rest.length, n = 0 := by
      intro n member
      apply stored
      cases due : w.lost with
      | nil => simp [fprintf,due] at member
      | cons first later =>
        simp only [fprintf,due,List.tail_cons] at member
        exact List.mem_cons_of_mem first member
    have appended : (w.fprintf print).files.temporary = some (text ++ print) := by
      simp only [fprintf,whole,contents,Nat.sub_zero,List.take_length,Option.map_some]
    rw [List.foldl_cons,ih later appended,List.flatten_cons,List.append_assoc]

theorem remove_other (name : ConfigName) {other : ConfigName} (apart : other ≠ name) :
    (w.remove name).2.files.get other = w.files.get other := by
  rcases w.operate_files (.remove name) fun files =>
    match files.get name with
    | none => .error errnoNoEntry
    | some _ => .ok (files.put none name) with ⟨_,tried⟩ | ⟨_,same⟩
  · cases held : w.files.get name with
    | none => simp [held] at tried
    | some contents =>
      simp only [held,Except.ok.injEq] at tried
      rw [remove,← tried,ConfigFiles.get_put,if_neg apart]
  · exact congrArg (ConfigFiles.get · other) same

theorem openTemporary_files : (w.openTemporary).2.lost = w.lost ∧
    ((w.openTemporary).1 = none → (w.openTemporary).2.files.temporary = some []) := by
  refine ⟨w.operate_lost _ _,fun opened => ?_⟩
  rcases w.operate_files .openTemporary fun files => .ok { files with temporary := some [] } with ⟨_,tried⟩ | ⟨fails,_⟩
  · exact congrArg ConfigFiles.temporary (Except.ok.inj tried).symm
  · exact absurd opened fails

theorem ensureRuntimeConfigDirectories_lost : (w.ensureRuntimeConfigDirectories).2.lost = w.lost := by
  unfold ensureRuntimeConfigDirectories ensureDirectory
  dsimp only
  split
  · exact (operate_lost _ _).trans (operate_lost _ _)
  · exact operate_lost _ _

theorem rename_files (source target : ConfigName) :
    ((w.rename source target).1 = none ∧ ∃ contents, w.files.get source = some contents ∧
      (w.rename source target).2.files = (w.files.put none source).put (some contents) target) ∨
    ((w.rename source target).1 ≠ none ∧ (w.rename source target).2.files = w.files) := by
  rcases w.operate_files (.rename source target) fun files =>
    match files.get source with
    | none => .error errnoNoEntry
    | some contents => .ok ((files.put none source).put (some contents) target) with ⟨done,tried⟩ | ⟨fails,same⟩
  · cases held : w.files.get source with
    | none => simp [held] at tried
    | some contents =>
      simp only [held,Except.ok.injEq] at tried
      exact .inl ⟨done,contents,rfl,tried.symm⟩
  · exact .inr ⟨fails,same⟩

end FileWorld

/-- A save that takes its last step leaves the temporary file's contents at the path. -/
theorem moveIntoPlace_path {moved : Bool} {w : FileWorld}
    (succeeds : (moveIntoPlace strerror moved w).1 = .ok ()) :
    (moveIntoPlace strerror moved w).2.files.path = w.files.temporary := by
  have renamed := w.rename_files .temporary .path
  unfold moveIntoPlace at succeeds ⊢
  cases run : w.rename .temporary .path with
  | mk fault next =>
    rw [run] at renamed succeeds
    cases fault with
    | some errno => cases succeeds
    | none =>
      rcases renamed with ⟨_,contents,held,files⟩ | ⟨fails,_⟩
      · have placed : next.files.path = w.files.temporary := by
          change w.files.temporary = some contents at held
          rw [files,held]
          rfl
        cases moved with
        | false => exact placed
        | true => exact (@FileWorld.remove_other next .backup .path (by decide)).trans placed
      · exact absurd rfl fails

theorem replaceConfiguration_path {w : FileWorld} (succeeds : (replaceConfiguration strerror w).1 = .ok ()) :
    (replaceConfiguration strerror w).2.files.path = w.files.temporary := by
  have cleared : (w.remove .backup).2.files.temporary = w.files.temporary :=
    @FileWorld.remove_other w .backup .temporary (by decide)
  unfold replaceConfiguration at succeeds ⊢
  dsimp only at succeeds ⊢
  split at succeeds
  · cases succeeds
  next fine =>
    rw [if_neg fine]
    have moves := (w.remove .backup).2.rename_files .path .backup
    cases run : (w.remove .backup).2.rename .path .backup with
    | mk fault next =>
      rw [run] at moves succeeds
      have kept : next.files.temporary = w.files.temporary := by
        rcases moves with ⟨_,contents,_,files⟩ | ⟨_,files⟩
        · rw [files]
          exact cleared
        · rw [files]
          exact cleared
      cases fault with
      | none => exact (moveIntoPlace_path strerror succeeds).trans kept
      | some errno =>
        dsimp only at succeeds ⊢
        split at succeeds
        next absent =>
          rw [if_pos absent]
          exact (moveIntoPlace_path strerror succeeds).trans kept
        · cases succeeds

/-- A successful save whose prints lose nothing has validated the configuration and leaves the
whole text at the path. -/
theorem saveRuntimeConfig_written {config : RuntimeConfig} {w : FileWorld}
    (stored : ∀ n ∈ w.lost.take (configPrints config).length, n = 0)
    (succeeds : (saveRuntimeConfig limits strerror config w).1 = .ok ()) :
    validateRuntimeConfig limits config = .ok () ∧
      (saveRuntimeConfig limits strerror config w).2.files.path = some (configPrints config).flatten := by
  unfold saveRuntimeConfig at succeeds ⊢
  cases valid : validateRuntimeConfig limits config with
  | error error =>
    rw [valid] at succeeds
    cases succeeds
  | ok =>
    rw [valid] at succeeds
    refine ⟨rfl,?_⟩
    have directories := w.ensureRuntimeConfigDirectories_lost
    dsimp only at succeeds ⊢
    cases made : w.ensureRuntimeConfigDirectories with
    | mk ready first =>
      rw [made] at directories succeeds
      cases ready with
      | false => cases succeeds
      | true =>
        have opens := first.openTemporary_files
        dsimp only at succeeds ⊢
        cases opened : first.openTemporary with
        | mk fault second =>
          rw [opened] at opens succeeds
          cases fault with
          | some errno => cases succeeds
          | none =>
            obtain ⟨openLost,empty⟩ := opens
            rw [← directories,← openLost] at stored
            have printed := FileWorld.foldl_fprintf stored (empty rfl)
            dsimp only at succeeds ⊢
            split at succeeds
            · cases succeeds
            next fine =>
              rw [if_neg fine,replaceConfiguration_path strerror succeeds]
              refine (congrArg ConfigFiles.temporary (FileWorld.operate_same _)).trans ?_
              exact (congrArg ConfigFiles.temporary (FileWorld.operate_same _)).trans printed

end NxReverse.Toolbox
