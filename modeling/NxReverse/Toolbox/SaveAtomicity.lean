import NxReverse.Toolbox.ConfigCrash

/-! A save over operations that fail and prints that lose text. Whatever fails, the previous
configuration stays or its loss is reported; a save that succeeds has stored what its prints did
not lose, and nothing checks whether they lost anything. -/
namespace NxReverse.Toolbox

open Text

/-- Each operation succeeds or fails with the error that is overlooked there. -/
def Passes : List (Option Nat) → List (Option Nat) → Prop
  | [],_ => True
  | overlooked :: rest,faults => (faults.headD none = none ∨ faults.headD none = overlooked) ∧ Passes rest faults.tail

instance Passes.decidable : (overlooked faults : List (Option Nat)) → Decidable (Passes overlooked faults)
  | [],_ => .isTrue trivial
  | first :: rest,faults =>
    have := Passes.decidable rest faults.tail
    inferInstanceAs (Decidable ((faults.headD none = none ∨ faults.headD none = first) ∧ _))

theorem passes_append (first second faults : List (Option Nat)) :
    Passes (first ++ second) faults ↔ Passes first faults ∧ Passes second (faults.drop first.length) := by
  induction first generalizing faults with
  | nil => simp [Passes]
  | cons overlooked rest ih =>
    rw [List.cons_append,Passes,ih,Passes,and_assoc,List.drop_tail]
    rfl

/-- The errors that are overlooked up to closing the temporary file: both directories may exist. -/
def writeOverlooks : List (Option Nat) := [some errnoExists,some errnoExists,none,none,none]

/-- Those overlooked by the replacement: there may be no backup and no configuration. -/
def replaceOverlooks : List (Option Nat) := [some errnoNoEntry,some errnoNoEntry,none]

/-- What prints store that lose bytes at their ends. -/
def storedText : List CString → List Nat → CString
  | [],_ => []
  | print :: rest,lost => print.take (print.length - lost.headD 0) ++ storedText rest lost.tail

theorem storedText_length (prints : List CString) (lost : List Nat) :
    (storedText prints lost).length ≤ prints.flatten.length := by
  induction prints generalizing lost with
  | nil => simp [storedText]
  | cons print rest ih =>
    have later := ih lost.tail
    simp only [storedText,List.length_append,List.length_take,List.flatten_cons]
    omega

/-- Where every print has text, the whole text is stored exactly if nothing is lost. -/
theorem storedText_eq_flatten_iff {prints : List CString} (filled : ∀ print ∈ prints, print ≠ []) (lost : List Nat) :
    storedText prints lost = prints.flatten ↔ ∀ n ∈ lost.take prints.length, n = 0 := by
  induction prints generalizing lost with
  | nil => simp [storedText]
  | cons print rest ih =>
    have later := ih (fun text member => filled text (List.mem_cons_of_mem print member)) lost.tail
    have positive := List.length_pos_iff.mpr (filled print List.mem_cons_self)
    have bound := storedText_length rest lost.tail
    have split : storedText (print :: rest) lost = (print :: rest).flatten ↔
        lost.headD 0 = 0 ∧ storedText rest lost.tail = rest.flatten := by
      constructor
      · intro whole
        have lengths := congrArg List.length whole
        simp only [storedText,List.length_append,List.length_take,List.flatten_cons] at lengths
        have kept : lost.headD 0 = 0 := by omega
        simp only [storedText,kept,Nat.sub_zero,List.take_length,List.flatten_cons] at whole
        exact ⟨kept,List.append_cancel_left whole⟩
      · intro ⟨kept,same⟩
        simp only [storedText,kept,Nat.sub_zero,List.take_length,same,List.flatten_cons]
    rw [split,later]
    cases lost with
    | nil => simp
    | cons n after => simp

namespace FileWorld

variable {w : FileWorld}

@[simp] theorem operate_faults (operation : FileOperation) (attempt : ConfigFiles → Except Nat ConfigFiles) :
    (w.operate operation attempt).2.faults = w.faults.tail := by
  unfold operate
  cases w.outcome attempt with
  | error errno => rfl
  | ok files => rfl

/-- The error of an operation is the one that is due, or that of the attempt. -/
theorem operate_error (operation : FileOperation) (attempt : ConfigFiles → Except Nat ConfigFiles) :
    (w.operate operation attempt).1 = (w.faults.headD none).or
      (match attempt w.files with
        | .error errno => some errno
        | .ok _ => none) := by
  unfold operate outcome
  cases w.faults.headD none with
  | some errno => rfl
  | none =>
    dsimp only
    cases attempt w.files with
    | error errno => rfl
    | ok files => rfl

/-- Prints store what they do not lose, in the temporary file only. -/
theorem foldl_fprintf_files {text : CString} (prints : List CString) (contents : w.files.temporary = some text) :
    (prints.foldl fprintf w).files = { w.files with temporary := some (text ++ storedText prints w.lost) } := by
  induction prints generalizing w text with
  | nil => simp [storedText,← contents]
  | cons print rest ih =>
    have appended : (w.fprintf print).files.temporary = some (text ++ print.take (print.length - w.lost.headD 0)) := by
      simp only [fprintf,contents,Option.map_some]
    rw [List.foldl_cons,ih appended]
    simp [fprintf,storedText]

theorem foldl_fprintf_faults (prints : List CString) : (prints.foldl fprintf w).faults = w.faults := by
  induction prints generalizing w with
  | nil => rfl
  | cons print rest ih => exact ih

/-- A step that reports nothing, or the error that is overlooked, has met no other fault. -/
theorem operate_idle_error (operation : FileOperation) : (w.operate operation .ok).1 = w.faults.headD none := by
  simp [operate_error]

/-- Making the directories succeeds over those that exist. -/
theorem ensureRuntimeConfigDirectories_passes : w.ensureRuntimeConfigDirectories.1 = true ↔
    Passes [some errnoExists,some errnoExists] w.faults := by
  unfold ensureRuntimeConfigDirectories ensureDirectory
  simp only [operate_idle_error,operate_faults,Passes,and_true]
  split
  next made => simpa using fun _ => by simpa using made
  next missing => simpa using fun made => absurd (by simpa using made) missing

theorem ensureRuntimeConfigDirectories_files : w.ensureRuntimeConfigDirectories.2.files = w.files := by
  unfold ensureRuntimeConfigDirectories ensureDirectory
  dsimp only
  split
  · exact (operate_same _).trans (operate_same _)
  · exact operate_same _

theorem ensureRuntimeConfigDirectories_faults (made : w.ensureRuntimeConfigDirectories.1 = true) :
    w.ensureRuntimeConfigDirectories.2.faults = w.faults.tail.tail := by
  unfold ensureRuntimeConfigDirectories ensureDirectory at made ⊢
  dsimp only at made ⊢
  split
  · simp
  next missing =>
    rw [if_neg missing] at made
    exact absurd made missing

end FileWorld

theorem FileWorld.openTemporary_error (w : FileWorld) : w.openTemporary.1 = w.faults.headD none := by
  simp [FileWorld.openTemporary,FileWorld.operate_error]

theorem FileWorld.openTemporary_path (w : FileWorld) : w.openTemporary.2.files.path = w.files.path := by
  rcases w.operate_files .openTemporary fun files => .ok { files with temporary := some [] } with ⟨_,tried⟩ | ⟨_,same⟩
  · rw [FileWorld.openTemporary,← Except.ok.inj tried]
  · exact congrArg ConfigFiles.path same

/-- Flushing and closing change no file and overlook no fault. -/
theorem FileWorld.flushed_closed (w : FileWorld) :
    (¬(w.fflush.1 ≠ none ∨ w.fflush.2.fclose.1 ≠ none) ↔ Passes [none,none] w.faults) ∧
      w.fflush.2.fclose.2.files = w.files ∧ w.fflush.2.fclose.2.faults = w.faults.drop 2 := by
  have flushed : w.fflush.1 = w.faults.headD none := operate_idle_error .flush
  have due : w.fflush.2.faults = w.faults.tail := operate_faults _ _
  have closed : w.fflush.2.fclose.1 = w.fflush.2.faults.headD none := operate_idle_error .close
  have after : w.fflush.2.fclose.2.faults = w.fflush.2.faults.tail := operate_faults _ _
  refine ⟨?_,(operate_same _).trans (operate_same _),?_⟩
  · rw [flushed,closed,due,not_or,not_not,not_not]
    simp [Passes]
  · rw [after,due,← List.drop_one,List.drop_tail]

section Replacement

variable {strerror : Nat → CString} {w : FileWorld}

/-- The error says that the previous configuration could not be restored. -/
def ReportsUnrestored (error : CString) : Prop :=
  "; unable to restore previous configuration".toList <:+ error

theorem remove_temporary_path : (w.remove .temporary).2.files.path = w.files.path :=
  @FileWorld.remove_other w .temporary .path (by decide)

/-- An operation that fails only for a missing file fails in no way that is not overlooked, unless
another error is due. -/
theorem operate_overlooked {operation : FileOperation} {attempt : ConfigFiles → Except Nat ConfigFiles}
    (absent : ∀ errno, attempt w.files = .error errno → errno = errnoNoEntry) :
    ((w.operate operation attempt).1 = none ∨ (w.operate operation attempt).1 = some errnoNoEntry) ↔
      (w.faults.headD none = none ∨ w.faults.headD none = some errnoNoEntry) := by
  rw [FileWorld.operate_error]
  cases w.faults.headD none with
  | some errno => rfl
  | none =>
    cases tried : attempt w.files with
    | ok files => rfl
    | error errno => simp [absent errno tried]

theorem remove_overlooked (name : ConfigName) :
    ((w.remove name).1 = none ∨ (w.remove name).1 = some errnoNoEntry) ↔
      (w.faults.headD none = none ∨ w.faults.headD none = some errnoNoEntry) := by
  refine operate_overlooked fun errno fails => ?_
  cases held : w.files.get name with
  | none => simpa [held] using fails.symm
  | some contents => simp [held] at fails

theorem rename_overlooked (source target : ConfigName) :
    ((w.rename source target).1 = none ∨ (w.rename source target).1 = some errnoNoEntry) ↔
      (w.faults.headD none = none ∨ w.faults.headD none = some errnoNoEntry) := by
  refine operate_overlooked fun errno fails => ?_
  cases held : w.files.get source with
  | none => simpa [held] using fails.symm
  | some contents => simp [held] at fails

theorem rename_error (source target : ConfigName) {contents : CString} (held : w.files.get source = some contents) :
    (w.rename source target).1 = w.faults.headD none := by
  rw [FileWorld.rename,FileWorld.operate_error,held]
  exact Option.or_none

/-- The last rename decides; without it the path holds what it held before it was moved away. -/
theorem moveIntoPlace_result {moved : Bool} {text : CString} (temporary : w.files.temporary = some text) :
    (moveIntoPlace strerror moved w).1 = .ok () ∧ Passes [none] w.faults ∧
      (moveIntoPlace strerror moved w).2.files.path = some text ∧
      (moveIntoPlace strerror moved w).2.files.temporary = none ∨
    ∃ error, (moveIntoPlace strerror moved w).1 = .error error ∧ ¬Passes [none] w.faults ∧
      ((moveIntoPlace strerror moved w).2.files.path = (if moved then w.files.backup else w.files.path) ∨
        ReportsUnrestored error) := by
  have errors := @rename_error w .temporary .path text temporary
  have files := w.rename_files .temporary .path
  unfold moveIntoPlace
  cases run : w.rename .temporary .path with
  | mk fault next =>
    rw [run] at errors files
    cases fault with
    | none =>
      obtain ⟨_,contents,held,after⟩ | ⟨fails,_⟩ := files
      · obtain rfl : text = contents := Option.some.inj (temporary.symm.trans held)
        refine .inl ⟨rfl,⟨.inl errors.symm,trivial⟩,?_⟩
        cases moved with
        | false => exact ⟨congrArg ConfigFiles.path after,congrArg ConfigFiles.temporary after⟩
        | true =>
          have path : (next.remove .backup).2.files.path = next.files.path :=
            @FileWorld.remove_other next .backup .path (by decide)
          have temporary : (next.remove .backup).2.files.temporary = next.files.temporary :=
            @FileWorld.remove_other next .backup .temporary (by decide)
          exact ⟨path.trans (congrArg ConfigFiles.path after),temporary.trans (congrArg ConfigFiles.temporary after)⟩
      · exact absurd rfl fails
    | some errno =>
      obtain ⟨succeeds,_⟩ | ⟨_,same⟩ := files
      · cases succeeds
      · have blocked : ¬Passes [none] w.faults := by
          simp only [Passes,← errors]
          simp
        refine .inr ⟨_,rfl,blocked,?_⟩
        dsimp only
        rw [remove_temporary_path]
        cases moved with
        | false => exact .inl (congrArg ConfigFiles.path same)
        | true =>
          obtain ⟨restored,contents,held,after⟩ | ⟨unrestored,_⟩ := next.rename_files .backup .path
          · refine .inl ((congrArg ConfigFiles.path after).trans ?_)
            rw [← same]
            exact held.symm
          · refine .inr ?_
            simp only [if_true,if_neg unrestored]
            exact List.suffix_append _ _

theorem replaceConfiguration_result {text : CString} (temporary : w.files.temporary = some text) :
    (replaceConfiguration strerror w).1 = .ok () ∧ Passes replaceOverlooks w.faults ∧
      (replaceConfiguration strerror w).2.files.path = some text ∧
      (replaceConfiguration strerror w).2.files.temporary = none ∨
    ∃ error, (replaceConfiguration strerror w).1 = .error error ∧ ¬Passes replaceOverlooks w.faults ∧
      ((replaceConfiguration strerror w).2.files.path = w.files.path ∨ ReportsUnrestored error) := by
  have kept : (w.remove .backup).2.files.temporary = some text :=
    (@FileWorld.remove_other w .backup .temporary (by decide)).trans temporary
  have path : (w.remove .backup).2.files.path = w.files.path := @FileWorld.remove_other w .backup .path (by decide)
  have clears := @remove_overlooked w .backup
  have moves := @rename_overlooked (w.remove .backup).2 .path .backup
  have files := (w.remove .backup).2.rename_files .path .backup
  have due : (w.remove .backup).2.faults = w.faults.tail := FileWorld.operate_faults _ _
  have later : ((w.remove .backup).2.rename .path .backup).2.faults = w.faults.tail.tail :=
    (FileWorld.operate_faults _ _).trans (congrArg List.tail due)
  rw [due] at moves
  have passes : Passes replaceOverlooks w.faults ↔
      ((w.remove .backup).1 = none ∨ (w.remove .backup).1 = some errnoNoEntry) ∧
      (((w.remove .backup).2.rename .path .backup).1 = none ∨
        ((w.remove .backup).2.rename .path .backup).1 = some errnoNoEntry) ∧
      Passes [none] ((w.remove .backup).2.rename .path .backup).2.faults := by
    rw [clears,moves,later]
    rfl
  rw [passes]
  unfold replaceConfiguration
  dsimp only
  split
  next blocked =>
    refine .inr ⟨_,rfl,fun ⟨cleared,_⟩ => cleared.elim blocked.1 blocked.2,.inl ?_⟩
    exact remove_temporary_path.trans path
  next passed =>
    have cleared : (w.remove .backup).1 = none ∨ (w.remove .backup).1 = some errnoNoEntry := by
      by_contra blocked
      exact passed (not_or.mp blocked)
    cases run : (w.remove .backup).2.rename .path .backup with
    | mk fault next =>
      rw [run] at files
      cases fault with
      | none =>
        obtain ⟨_,contents,held,after⟩ | ⟨fails,_⟩ := files
        · have still : next.files.temporary = some text := (congrArg ConfigFiles.temporary after).trans kept
          have moved : next.files.backup = w.files.path := by
            rw [← path]
            exact (congrArg ConfigFiles.backup after).trans held.symm
          have placed := @moveIntoPlace_result strerror next true text still
          rw [if_pos rfl,moved] at placed
          simpa [cleared] using placed
        · exact absurd rfl fails
      | some errno =>
        obtain ⟨succeeds,_⟩ | ⟨_,same⟩ := files
        · cases succeeds
        · have unmoved : next.files.path = w.files.path := (congrArg ConfigFiles.path same).trans path
          dsimp only
          split
          next missing =>
            have still : next.files.temporary = some text := (congrArg ConfigFiles.temporary same).trans kept
            have placed := @moveIntoPlace_result strerror next false text still
            rw [if_neg Bool.false_ne_true,unmoved] at placed
            simpa [cleared,missing] using placed
          next fatal =>
            refine .inr ⟨_,rfl,fun ⟨_,moved,_⟩ => ?_,.inl (remove_temporary_path.trans unmoved)⟩
            simp [fatal] at moved

variable (strerror w)

/-- A save stops before the replacement, with the configuration untouched, or replaces it by what
its prints have stored. -/
theorem saveRuntimeConfig_replaces (limits : TunnelLimits) (config : RuntimeConfig) :
    (∃ error, (saveRuntimeConfig limits strerror config w).1 = .error error ∧
      ¬(validateRuntimeConfig limits config = .ok () ∧ Passes writeOverlooks w.faults) ∧
      (saveRuntimeConfig limits strerror config w).2.files.path = w.files.path) ∨
    ∃ written, saveRuntimeConfig limits strerror config w = replaceConfiguration strerror written ∧
      (validateRuntimeConfig limits config = .ok () ∧ Passes writeOverlooks w.faults) ∧
      written.files.path = w.files.path ∧ written.faults = w.faults.drop writeOverlooks.length ∧
      written.files.temporary = some (storedText (configPrints config) w.lost) := by
  unfold saveRuntimeConfig
  cases validateRuntimeConfig limits config with
  | error error => exact .inl ⟨error,rfl,nofun,rfl⟩
  | ok =>
    have makes := w.ensureRuntimeConfigDirectories_passes
    have same := w.ensureRuntimeConfigDirectories_files
    have lost := w.ensureRuntimeConfigDirectories_lost
    have due := w.ensureRuntimeConfigDirectories_faults
    have passes : Passes writeOverlooks w.faults ↔ Passes [some errnoExists,some errnoExists] w.faults ∧
        Passes [none,none,none] (w.faults.drop 2) := passes_append [some errnoExists,some errnoExists] _ _
    dsimp only
    cases made : w.ensureRuntimeConfigDirectories with
    | mk ready first =>
      rw [made] at makes same lost due
      cases ready with
      | false =>
        refine .inl ⟨_,rfl,fun ⟨_,all⟩ => ?_,congrArg ConfigFiles.path same⟩
        exact Bool.false_ne_true (makes.mpr (passes.mp all).1)
      | true =>
        have ready := makes.mp rfl
        have rest : first.faults = w.faults.drop 2 := by rw [due rfl,← List.drop_one,List.drop_tail]
        have opens := first.openTemporary_error
        have opened := first.openTemporary_files
        have elsewhere := first.openTemporary_path
        have after : first.openTemporary.2.faults = first.faults.tail := FileWorld.operate_faults _ _
        rw [passes,← rest]
        dsimp only
        cases run : first.openTemporary with
        | mk fault second =>
          rw [run] at opens opened elsewhere after
          cases fault with
          | some errno =>
            refine .inl ⟨_,rfl,fun ⟨_,_,free,_⟩ => ?_,elsewhere.trans (congrArg ConfigFiles.path same)⟩
            cases opens.trans (free.elim id id)
          | none =>
            have stored := FileWorld.foldl_fprintf_files (configPrints config) (opened.2 rfl)
            have idle := @FileWorld.foldl_fprintf_faults second (configPrints config)
            obtain ⟨closes,untouched,last⟩ := ((configPrints config).foldl FileWorld.fprintf second).flushed_closed
            have path : second.files.path = w.files.path := elsewhere.trans (congrArg ConfigFiles.path same)
            have passed : Passes [none,none,none] first.faults ↔ Passes [none,none] second.faults := by
              rw [after,Passes]
              exact and_iff_right (.inl opens.symm)
            rw [passed,← idle,← closes]
            dsimp only
            split
            next failed =>
              refine .inl ⟨_,rfl,fun ⟨_,_,clean⟩ => clean failed,remove_temporary_path.trans ?_⟩
              rw [untouched,stored]
              exact path
            next clean =>
              refine .inr ⟨_,rfl,⟨rfl,ready,clean⟩,?_,?_,?_⟩
              · rw [untouched,stored]
                exact path
              · rw [last,idle,after,rest]
                simp [writeOverlooks]
              · rw [untouched,stored,opened.1,lost]
                rfl

/-- A save that succeeds leaves at the path what its prints have stored. -/
theorem saveRuntimeConfig_path {limits : TunnelLimits} {config : RuntimeConfig}
    (succeeds : (saveRuntimeConfig limits strerror config w).1 = .ok ()) :
    (saveRuntimeConfig limits strerror config w).2.files.path = some (storedText (configPrints config) w.lost) := by
  rcases saveRuntimeConfig_replaces strerror w limits config with
    ⟨error,fails,_⟩ | ⟨written,run,_,_,_,temporary⟩
  · rw [fails] at succeeds
    cases succeeds
  · rw [run] at succeeds ⊢
    rw [replaceConfiguration_path strerror succeeds,temporary]

end Replacement

/-- What a save promises of the path and the temporary file. -/
def SaveAtomic (text : CString) (before after : ConfigFiles) : Except CString Unit → Prop
  | .ok () => after.path = some text ∧ after.temporary = none
  | .error error => after.path = before.path ∨ ReportsUnrestored error

theorem profilePrints_filled (index : Nat) (profiles : List RuntimeProfile) :
    ∀ print ∈ profilePrints index profiles, print ≠ [] := by
  induction profiles generalizing index with
  | nil => simp [profilePrints]
  | cons profile rest ih =>
    have first : settingLines (profileValues index profile) ≠ [] := by simp [settingLines,profileValues,settingLine]
    simpa only [profilePrints,List.forall_mem_cons] using ⟨first,ih (index + 1)⟩

theorem configPrints_filled (config : RuntimeConfig) : ∀ print ∈ configPrints config, print ≠ [] := by
  have header : headerLine ++ settingLines (runValues config) ≠ [] := by simp [settingLines,runValues,settingLine]
  have scenarios : settingLines (scenarioValues config) ≠ [] := by simp [settingLines,scenarioValues,settingLine]
  simpa only [configPrints,List.forall_mem_cons,List.forall_mem_append,List.forall_mem_nil,and_true] using
    ⟨header,profilePrints_filled 0 config.profiles,scenarios,List.forall_mem_nil _⟩

/-- A save keeps its promise exactly if no print loses text, unless something else stops it. -/
theorem saveRuntimeConfig_atomic_iff (limits : TunnelLimits) (strerror : Nat → CString) (config : RuntimeConfig)
    (w : FileWorld) :
    SaveAtomic (configPrints config).flatten w.files (saveRuntimeConfig limits strerror config w).2.files
        (saveRuntimeConfig limits strerror config w).1 ↔
      (validateRuntimeConfig limits config = .ok () → Passes (writeOverlooks ++ replaceOverlooks) w.faults →
        ∀ n ∈ w.lost.take (configPrints config).length, n = 0) := by
  rw [← storedText_eq_flatten_iff (configPrints_filled config),passes_append]
  rcases saveRuntimeConfig_replaces strerror w limits config with
    ⟨error,fails,stopped,path⟩ | ⟨written,run,⟨valid,passed⟩,path,due,temporary⟩
  · rw [fails]
    exact iff_of_true (.inl path) fun valid passes => absurd ⟨valid,passes.1⟩ stopped
  · rw [run]
    rcases @replaceConfiguration_result strerror _ _ temporary with
      ⟨succeeds,passes,placed,cleared⟩ | ⟨error,fails,blocked,kept⟩
    · rw [succeeds]
      rw [due] at passes
      constructor
      · intro whole _ _
        exact Option.some.inj (placed.symm.trans whole.1)
      · intro whole
        exact ⟨placed.trans (congrArg some (whole valid ⟨passed,passes⟩)),cleared⟩
    · rw [fails]
      rw [due] at blocked
      rw [path] at kept
      exact iff_of_true kept fun _ passes => absurd passes.2 blocked

/-- A save whose first print loses its last byte. -/
theorem saveRuntimeConfig_truncates :
    ¬∀ (limits : TunnelLimits) (strerror : Nat → CString) (config : RuntimeConfig) (w : FileWorld),
      SaveAtomic (configPrints config).flatten w.files (saveRuntimeConfig limits strerror config w).2.files
        (saveRuntimeConfig limits strerror config w).1 := by
  intro atomic
  have whole := atomic ⟨1200,8⟩ (fun _ => []) (oneProfile "Tunnel".toList) { savedDirectory with lost := [1] }
  have succeeds : (saveRuntimeConfig ⟨1200,8⟩ (fun _ => []) (oneProfile "Tunnel".toList)
      { savedDirectory with lost := [1] }).1 = .ok () := by decide
  have path := saveRuntimeConfig_path (fun _ => []) _ succeeds
  rw [succeeds] at whole
  have stored := (storedText_eq_flatten_iff (configPrints_filled _) [1]).mp (Option.some.inj (path.symm.trans whole.1))
  exact absurd (stored 1 (by simp [configPrints])) Nat.one_ne_zero

end NxReverse.Toolbox
