import NxReverse.Toolbox.ConfigRoundTrip

/-! A save that stops after any of its file operations. The path then holds the previous text or
the new one, except between the rename that moves the previous configuration away and the next
one that puts a configuration in its place. -/
namespace NxReverse.Toolbox

open Text

def FileStep.movesAway (away : Bool) (step : FileStep) : Bool :=
  if step.failed then away
  else
    match step.operation with
    | .rename .path _ => true
    | .rename _ .path => false
    | _ => away

/-- The configuration was renamed away, and nothing has been renamed to its path since. -/
def movedAway (steps : List FileStep) : Bool := steps.foldl FileStep.movesAway false

/-- The files when the program stops after `steps`. -/
def filesAfter (start : ConfigFiles) (steps : List FileStep) : ConfigFiles :=
  (steps.getLast?.map FileStep.files).getD start

theorem movedAway_concat (steps : List FileStep) (step : FileStep) :
    movedAway (steps ++ [step]) = step.movesAway (movedAway steps) := by
  simp [movedAway]

theorem filesAfter_concat (start : ConfigFiles) (steps : List FileStep) (step : FileStep) :
    filesAfter start (steps ++ [step]) = step.files := by
  simp [filesAfter]

section Stop

variable (old text : CString) (start : ConfigFiles)

/-- What the path holds when the program stops after `steps`. -/
structure PathKept (steps : List FileStep) : Prop where
  away : movedAway steps = true → (filesAfter start steps).path = none
  there : movedAway steps = false →
    (filesAfter start steps).path = some old ∨ (filesAfter start steps).path = some text

/-- The path is kept after every prefix of what was performed. -/
structure Traced (w : FileWorld) : Prop where
  files : w.files = filesAfter start w.trace
  kept : ∀ steps, steps <+: w.trace → PathKept old text start steps

end Stop

section Steps

variable {old text : CString} {start : ConfigFiles} {w : FileWorld}

/-- One more step keeps the path. -/
theorem Traced.step {next : FileWorld} {operation : FileOperation} {failed : Bool}
    (traced : Traced old text start w) (performed : next.trace = w.trace ++ [⟨operation,failed,next.files⟩])
    (kept : PathKept old text start next.trace) : Traced old text start next where
  files := by rw [performed,filesAfter_concat]
  kept steps before := by
    rw [performed] at before
    rcases List.prefix_concat_iff.mp before with whole | part
    · rw [whole,← performed]
      exact kept
    · exact traced.kept steps part

theorem FileWorld.operate_trace (operation : FileOperation) (attempt : ConfigFiles → Except Nat ConfigFiles) :
    (w.operate operation attempt).2.trace =
      w.trace ++ [⟨operation,(w.operate operation attempt).1.isSome,(w.operate operation attempt).2.files⟩] := by
  unfold FileWorld.operate
  cases w.outcome attempt with
  | error errno => rfl
  | ok files => rfl

/-- A step that leaves the path alone and is no successful rename of it. -/
theorem Traced.same {next : FileWorld} {operation : FileOperation} {failed : Bool}
    (traced : Traced old text start w) (performed : next.trace = w.trace ++ [⟨operation,failed,next.files⟩])
    (path : next.files.path = w.files.path)
    (neutral : ∀ away, FileStep.movesAway away ⟨operation,failed,next.files⟩ = away) :
    Traced old text start next := by
  have before := traced.kept w.trace List.prefix_rfl
  have away : movedAway next.trace = movedAway w.trace := by rw [performed,movedAway_concat,neutral]
  have files : (filesAfter start next.trace).path = (filesAfter start w.trace).path := by
    rw [performed,filesAfter_concat,path,traced.files]
  refine traced.step performed ⟨?_,?_⟩
  · rw [away,files]
    exact before.away
  · rw [away,files]
    exact before.there

theorem Traced.failed (traced : Traced old text start w) {operation : FileOperation}
    {attempt : ConfigFiles → Except Nat ConfigFiles} (fails : (w.operate operation attempt).1 ≠ none) :
    Traced old text start (w.operate operation attempt).2 := by
  have isSome := Option.isSome_iff_ne_none.mpr fails
  have files : (w.operate operation attempt).2.files = w.files := by
    rcases w.operate_files operation attempt with ⟨succeeds,_⟩ | ⟨_,same⟩
    · exact absurd succeeds fails
    · exact same
  refine traced.same (w.operate_trace operation attempt) (by rw [files]) fun away => ?_
  rw [isSome]
  rfl

/-- An operation on another file. -/
theorem Traced.elsewhere (traced : Traced old text start w) {operation : FileOperation}
    {attempt : ConfigFiles → Except Nat ConfigFiles}
    (path : ∀ files next, attempt files = .ok next → next.path = files.path)
    (neutral : ∀ away failed files, FileStep.movesAway away ⟨operation,failed,files⟩ = away) :
    Traced old text start (w.operate operation attempt).2 := by
  rcases w.operate_files operation attempt with ⟨_,tried⟩ | ⟨fails,_⟩
  · exact traced.same (w.operate_trace operation attempt) (path _ _ tried) fun away => neutral away _ _
  · exact traced.failed fails

theorem Traced.idle (traced : Traced old text start w) {operation : FileOperation}
    (neutral : ∀ away failed files, FileStep.movesAway away ⟨operation,failed,files⟩ = away) :
    Traced old text start (w.operate operation .ok).2 := by
  refine traced.elsewhere (fun files next tried => ?_) neutral
  rw [Except.ok.inj tried]

theorem neutral_of_noRename {operation : FileOperation} (noRename : ∀ source target, operation ≠ .rename source target)
    (away failed : Bool) (files : ConfigFiles) : FileStep.movesAway away ⟨operation,failed,files⟩ = away := by
  cases failed with
  | true => rfl
  | false =>
    cases operation with
    | rename source target => exact absurd rfl (noRename source target)
    | _ => rfl

theorem Traced.ensureRuntimeConfigDirectories (traced : Traced old text start w) :
    Traced old text start w.ensureRuntimeConfigDirectories.2 := by
  have made := traced.idle (@neutral_of_noRename .makeDirectory nofun)
  unfold FileWorld.ensureRuntimeConfigDirectories FileWorld.ensureDirectory
  dsimp only
  split
  · exact made.idle (neutral_of_noRename nofun)
  · exact made

theorem Traced.openTemporary (traced : Traced old text start w) : Traced old text start w.openTemporary.2 := by
  refine traced.elsewhere (fun files next tried => ?_) (neutral_of_noRename nofun)
  rw [← Except.ok.inj tried]

theorem Traced.foldl_fprintf (traced : Traced old text start w) (prints : List CString) :
    Traced old text start (prints.foldl FileWorld.fprintf w) := by
  induction prints generalizing w with
  | nil => exact traced
  | cons print rest ih =>
    have neutral := @neutral_of_noRename .print nofun
    exact ih (traced.same rfl rfl fun away => neutral away _ _)

theorem Traced.remove (traced : Traced old text start w) {name : ConfigName} (other : ConfigName.path ≠ name) :
    Traced old text start (w.remove name).2 := by
  refine traced.elsewhere (fun files next tried => ?_) (neutral_of_noRename nofun)
  split at tried
  · cases tried
  · obtain rfl := Except.ok.inj tried
    exact (ConfigFiles.get_put files none name .path).trans (if_neg other)

theorem rename_trace (source target : ConfigName) (succeeds : (w.rename source target).1 = none) :
    (w.rename source target).2.trace =
      w.trace ++ [⟨.rename source target,false,(w.rename source target).2.files⟩] := by
  have performed : (w.rename source target).2.trace = w.trace ++ [⟨.rename source target,
      (w.rename source target).1.isSome,(w.rename source target).2.files⟩] := w.operate_trace _ _
  rw [succeeds] at performed
  exact performed

/-- Whatever the path holds is one of the two texts. -/
theorem Traced.held (traced : Traced old text start w) {contents : CString} (had : w.files.path = some contents) :
    contents = old ∨ contents = text := by
  have now := traced.kept w.trace List.prefix_rfl
  rw [traced.files] at had
  cases away : movedAway w.trace with
  | true =>
    rw [now.away away] at had
    cases had
  | false =>
    rcases now.there away with before | after
    · exact .inl (Option.some.inj (had.symm.trans before))
    · exact .inr (Option.some.inj (had.symm.trans after))

/-- The configuration can always be moved away. -/
theorem Traced.moveAway (traced : Traced old text start w) : Traced old text start (w.rename .path .backup).2 := by
  rcases w.rename_files .path .backup with ⟨succeeds,contents,_,files⟩ | ⟨fails,_⟩
  · have performed := rename_trace .path .backup succeeds
    refine traced.step performed ⟨?_,?_⟩
    · intro _
      rw [performed,filesAfter_concat,files]
      rfl
    · intro there
      rw [performed,movedAway_concat] at there
      cases there
  · exact traced.failed fails

/-- One of the two texts may be moved into its place. -/
theorem Traced.moveInto (traced : Traced old text start w) {source : ConfigName} (other : source ≠ .path)
    (held : ∀ contents, w.files.get source = some contents → contents = old ∨ contents = text) :
    Traced old text start (w.rename source .path).2 := by
  rcases w.rename_files source .path with ⟨succeeds,contents,had,files⟩ | ⟨fails,_⟩
  · have performed := rename_trace source .path succeeds
    have back : movedAway (w.rename source .path).2.trace = false := by
      rw [performed,movedAway_concat]
      cases source with
      | path => exact absurd rfl other
      | temporary => rfl
      | backup => rfl
    refine traced.step performed ⟨?_,?_⟩
    · intro away
      rw [back] at away
      cases away
    · intro _
      have placed : (filesAfter start (w.rename source .path).2.trace).path = some contents := by
        rw [performed,filesAfter_concat,files]
        rfl
      rcases held contents had with rfl | rfl
      · exact .inl placed
      · exact .inr placed
  · exact traced.failed fails

variable (strerror : Nat → CString)

theorem Traced.moveIntoPlace {moved : Bool} (traced : Traced old text start w)
    (temporary : w.files.temporary = some text)
    (backup : moved = true → ∀ contents, w.files.backup = some contents → contents = old ∨ contents = text) :
    Traced old text start (moveIntoPlace strerror moved w).2 := by
  have placed := @Traced.moveInto old text start w traced .temporary (by decide) fun contents had =>
    .inr (Option.some.inj (had.symm.trans temporary))
  have files := w.rename_files .temporary .path
  unfold Toolbox.moveIntoPlace
  cases run : w.rename .temporary .path with
  | mk fault next =>
    rw [run] at placed files
    cases fault with
    | none =>
      cases moved with
      | false => exact placed
      | true => exact placed.remove (by decide)
    | some errno =>
      dsimp only
      rcases files with ⟨succeeds,_⟩ | ⟨_,same⟩
      · cases succeeds
      · cases moved with
        | false => exact placed.remove (by decide)
        | true =>
          refine Traced.remove (placed.moveInto (by decide) fun contents had => ?_) (by decide)
          rw [same] at had
          exact backup rfl contents had

theorem Traced.replaceConfiguration (traced : Traced old text start w) (temporary : w.files.temporary = some text) :
    Traced old text start (replaceConfiguration strerror w).2 := by
  have cleared := @Traced.remove old text start w traced .backup (by decide)
  have kept : (w.remove .backup).2.files.temporary = some text :=
    (@FileWorld.remove_other w .backup .temporary (by decide)).trans temporary
  unfold Toolbox.replaceConfiguration
  dsimp only
  split
  · exact cleared.remove (by decide)
  · have away := cleared.moveAway
    have files := (w.remove .backup).2.rename_files .path .backup
    cases run : (w.remove .backup).2.rename .path .backup with
    | mk fault next =>
      rw [run] at away files
      have keptNext : next.files.temporary = some text := by
        rcases files with ⟨_,contents,_,files⟩ | ⟨_,files⟩
        · rw [files]
          exact kept
        · rw [files]
          exact kept
      cases fault with
      | none =>
        refine away.moveIntoPlace strerror keptNext fun _ contents had => ?_
        rcases files with ⟨_,moved,held,files⟩ | ⟨fails,_⟩
        · rw [files] at had
          obtain rfl := Option.some.inj had
          exact cleared.held held
        · exact absurd rfl fails
      | some errno =>
        dsimp only
        split
        · exact away.moveIntoPlace strerror keptNext nofun
        · exact away.remove (by decide)

end Steps

variable {limits : TunnelLimits} {strerror : Nat → CString} {config : RuntimeConfig} {w : FileWorld}

theorem saveRuntimeConfig_traced {old : CString} {start : ConfigFiles} (stored : w.lost = [])
    (traced : Traced old (configPrints config).flatten start w) :
    Traced old (configPrints config).flatten start (saveRuntimeConfig limits strerror config w).2 := by
  have ready := traced.ensureRuntimeConfigDirectories
  have readyLost := w.ensureRuntimeConfigDirectories_lost.trans stored
  unfold saveRuntimeConfig
  cases validateRuntimeConfig limits config with
  | error error => exact traced
  | ok =>
    dsimp only
    cases made : w.ensureRuntimeConfigDirectories with
    | mk present first =>
      rw [made] at ready readyLost
      cases present with
      | false => exact ready
      | true =>
        have opened := ready.openTemporary
        have opens := first.openTemporary_files
        dsimp only
        cases run : first.openTemporary with
        | mk fault second =>
          rw [run] at opened opens
          cases fault with
          | some errno => exact opened
          | none =>
            have printed := opened.foldl_fprintf (configPrints config)
            have lossless : second.lost = [] := opens.1.trans readyLost
            have contents := @FileWorld.foldl_fprintf second [] (configPrints config) (by simp [lossless]) (opens.2 rfl)
            have closed : Traced old (configPrints config).flatten start
                ((configPrints config).foldl FileWorld.fprintf second).fflush.2.fclose.2 :=
              (printed.idle (@neutral_of_noRename .flush nofun)).idle (@neutral_of_noRename .close nofun)
            dsimp only
            split
            · exact closed.remove (by decide)
            · refine closed.replaceConfiguration strerror ?_
              refine (congrArg ConfigFiles.temporary (FileWorld.operate_same _)).trans ?_
              exact (congrArg ConfigFiles.temporary (FileWorld.operate_same _)).trans contents

def reportOf (limits : TunnelLimits) (strerror : Nat → CString) (defaults : RuntimeConfig) (files : ConfigFiles) :
    ConfigLoadReport :=
  loadRuntimeConfig limits strerror defaults files.openPath

/-- A text that was opened is reported as loaded, a missing one is not. -/
theorem loadedFromFile_ok (defaults : RuntimeConfig) (text : CString) :
    (loadRuntimeConfig limits strerror defaults (.ok text)).loadedFromFile = true := by
  unfold loadRuntimeConfig
  dsimp only
  split <;> rfl

theorem reportOf_path {defaults : RuntimeConfig} {files : ConfigFiles} {text : CString} (held : files.path = some text) :
    reportOf limits strerror defaults files = loadRuntimeConfig limits strerror defaults (.ok text) := by
  rw [reportOf,ConfigFiles.openPath,held]

theorem reportOf_missing {defaults : RuntimeConfig} {files : ConfigFiles} (missing : files.path = none) :
    (reportOf limits strerror defaults files).loadedFromFile = false := by
  rw [reportOf,ConfigFiles.openPath,missing]
  rfl

/-- Wherever a save stops, a load reports what it reports before the save or what it reports of
the complete new text, exactly if the configuration is not moved away just then. For names that
can be loaded at all, the two reports are the two configurations. -/
theorem stoppedSave_report_iff {defaults previous : RuntimeConfig}
    (defaultsValid : validateRuntimeConfig limits defaults = .ok ()) (fresh : w.trace = []) (stored : w.lost = [])
    (previousValid : validateRuntimeConfig limits previous = .ok ())
    (held : w.files.path = some (configPrints previous).flatten)
    (valid : validateRuntimeConfig limits config = .ok ()) {steps : List FileStep}
    (stopped : steps <+: (saveRuntimeConfig limits strerror config w).2.trace) :
    ((reportOf limits strerror defaults (filesAfter w.files steps) = reportOf limits strerror defaults w.files ∨
        reportOf limits strerror defaults (filesAfter w.files steps) =
          loadRuntimeConfig limits strerror defaults (.ok (configPrints config).flatten)) ↔
      movedAway steps = false) ∧
    ((∀ profile ∈ previous.profiles, GoodName profile.name) →
      reportOf limits strerror defaults w.files = ⟨previous,true,[]⟩) ∧
    ((∀ profile ∈ config.profiles, GoodName profile.name) →
      loadRuntimeConfig limits strerror defaults (.ok (configPrints config).flatten) = ⟨config,true,[]⟩) := by
  have start : Traced (configPrints previous).flatten (configPrints config).flatten w.files w := by
    refine ⟨by rw [fresh]; rfl,fun steps before => ?_⟩
    rw [fresh] at before
    obtain rfl := List.prefix_nil.mp before
    exact ⟨nofun,fun _ => .inl held⟩
  have kept := (saveRuntimeConfig_traced stored start).kept steps stopped
  have filled := (profiles_of_valid defaultsValid).1
  refine ⟨⟨?_,?_⟩,?_,?_⟩
  · intro either
    by_contra away
    have missing := @reportOf_missing limits strerror defaults _ (kept.away (Bool.not_eq_false _ ▸ away))
    rcases either with before | after
    · rw [before,reportOf_path held,loadedFromFile_ok] at missing
      cases missing
    · rw [after,loadedFromFile_ok] at missing
      cases missing
  · intro there
    rcases kept.there there with before | after
    · exact .inl ((reportOf_path before).trans (reportOf_path held).symm)
    · exact .inr (reportOf_path after)
  · intro good
    rw [reportOf_path held]
    exact load_of_goodNames filled previousValid good
  · exact load_of_goodNames filled valid

def savedDirectory : FileWorld :=
  ⟨⟨some (configPrints (oneProfile "Default".toList)).flatten,none,none⟩,[],[],[]⟩

def resaved : FileWorld :=
  (saveRuntimeConfig ⟨1200,8⟩ (fun _ => []) (oneProfile "Tunnel".toList) savedDirectory).2

theorem stoppedSave_report_complete :
    reportOf ⟨1200,8⟩ (fun _ => []) (oneProfile "Home".toList) (filesAfter savedDirectory.files resaved.trace) =
        reportOf ⟨1200,8⟩ (fun _ => []) (oneProfile "Home".toList) savedDirectory.files ∨
      reportOf ⟨1200,8⟩ (fun _ => []) (oneProfile "Home".toList) (filesAfter savedDirectory.files resaved.trace) =
        loadRuntimeConfig ⟨1200,8⟩ (fun _ => []) (oneProfile "Home".toList)
          (.ok (configPrints (oneProfile "Tunnel".toList)).flatten) :=
  (@stoppedSave_report_iff ⟨1200,8⟩ (fun _ => []) (oneProfile "Tunnel".toList) savedDirectory
    (oneProfile "Home".toList) (oneProfile "Default".toList) (by decide) rfl rfl (by decide) rfl
    (by decide) resaved.trace List.prefix_rfl).1.mpr (by decide)

/-- A stop between the two renames makes the next load report the defaults. -/
theorem stoppedSave_loses_both :
    ¬∀ (limits : TunnelLimits) (strerror : Nat → CString) (defaults previous config : RuntimeConfig) (w : FileWorld)
      (steps : List FileStep), validateRuntimeConfig limits defaults = .ok () → w.trace = [] → w.lost = [] →
      validateRuntimeConfig limits previous = .ok () → w.files.path = some (configPrints previous).flatten →
      validateRuntimeConfig limits config = .ok () →
      steps <+: (saveRuntimeConfig limits strerror config w).2.trace →
      reportOf limits strerror defaults (filesAfter w.files steps) = ⟨previous,true,[]⟩ ∨
        reportOf limits strerror defaults (filesAfter w.files steps) = ⟨config,true,[]⟩ := by
  intro atomic
  have either := atomic ⟨1200,8⟩ (fun _ => []) (oneProfile "Home".toList) (oneProfile "Default".toList)
    (oneProfile "Tunnel".toList) savedDirectory (resaved.trace.take 10) (by decide) rfl rfl
    (by decide) rfl (by decide) (List.take_prefix 10 _)
  have lost : reportOf ⟨1200,8⟩ (fun _ => []) (oneProfile "Home".toList)
      (filesAfter savedDirectory.files (resaved.trace.take 10)) = ⟨oneProfile "Home".toList,false,[]⟩ := by
    decide
  rw [lost] at either
  rcases either with before | after
  · cases congrArg ConfigLoadReport.loadedFromFile before
  · cases congrArg ConfigLoadReport.loadedFromFile after

end NxReverse.Toolbox
