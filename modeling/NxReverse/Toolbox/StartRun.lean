import NxReverse.Toolbox.ConfigRoundTrip
import NxReverse.Toolbox.TunnelScenario
import NxReverse.Lib.Runs

/-! The Main page starts one run at a time. Each takes the next workload id, and the advanced
configuration is saved before the run's worker starts. -/
namespace NxReverse.Toolbox

open Text Runs

structure StartedRun where
  config : RuntimeConfig
  workload : TunnelUdpWorkloadConfig
  files : ConfigFiles
  deriving DecidableEq, Repr

structure UiModel where
  config : RuntimeConfig
  active : Bool
  runActive : Bool
  runStatus : CString
  notifications : List CString
  files : ConfigFiles
  started : List StartedRun
  deriving DecidableEq, Repr

structure SaveAnswers where
  faults : List (Option Nat)
  lost : List Nat

namespace UiModel

def notify (s : UiModel) (text : CString) : UiModel := { s with notifications := s.notifications ++ [text] }

variable (limits : TunnelLimits) (strerror : Nat → CString)

def saveConfiguration (s : UiModel) (answers : SaveAnswers) : Bool × UiModel :=
  match saveRuntimeConfig limits strerror s.config ⟨s.files,answers.faults,answers.lost,[]⟩ with
  | (.error _,w) => (false,{ s with files := w.files }.notify "Configuration was not saved".toList)
  | (.ok (),w) => (true,{ s with files := w.files }.notify "Configuration saved".toList)

def withNextId (s : UiModel) (id : UInt32) : UiModel := { s with config := { s.config with nextWorkloadId := id } }

def runningStatus (config : RuntimeConfig) (profile : RuntimeProfile) (workloadId : UInt32) : CString :=
  "Running ".toList ++ runtimeScenarioName config.scenario ++ " with ".toList ++ profile.name ++ " (ID ".toList ++
    decimal workloadId.toNat ++ ")".toList

def startRun (s : UiModel) (answers : SaveAnswers) : UiModel :=
  if s.runActive then s
  else
    match validateRuntimeConfig limits s.config with
    | .error validationError =>
      { s with runStatus := "Configuration error: ".toList ++ validationError }.notify
        "Fix the configuration before running".toList
    | .ok () =>
      if s.config.nextWorkloadId = 0xFFFFFFFF then
        { s with runStatus := "Configuration error: workload ID space is exhausted".toList }.notify
          "Choose a new workload ID before running".toList
      else
        let workloadId := s.config.nextWorkloadId
        match (s.withNextId (workloadId + 1)).saveConfiguration limits strerror answers with
        | (false,unsaved) => { unsaved with config := s.config }
        | (true,saved) =>
          match activeRuntimeProfile saved.config with
          | none => saved
          | some profile =>
            { saved with
              runActive := true
              runStatus := runningStatus saved.config profile workloadId
              started := saved.started ++
                [⟨saved.config,buildTunnelUdpWorkload saved.config profile workloadId,saved.files⟩] }

/-- The worker hands its result back to the page. -/
def finishRun (s : UiModel) (result : ScenarioResult) : UiModel :=
  if !s.active then s
  else { s with
    runActive := false
    runStatus := result.name ++ ": ".toList ++
      if result.skipped then "skipped".toList else if result.success then "completed".toList else "failed".toList }

/-- The user edits everything but the workload id. -/
def edit (s : UiModel) (config : RuntimeConfig) : UiModel :=
  { s with config := { config with nextWorkloadId := s.config.nextWorkloadId } }

end UiModel

inductive UiEvent where
  | startRun (answers : SaveAnswers)
  | finishRun (result : ScenarioResult)
  | edit (config : RuntimeConfig)
  | saveConfiguration (answers : SaveAnswers)
  | close

variable (limits : TunnelLimits) (strerror : Nat → CString)

def UiModel.step (s : UiModel) : UiEvent → UiModel
  | .startRun answers => s.startRun limits strerror answers
  | .finishRun result => s.finishRun result
  | .edit config => s.edit config
  | .saveConfiguration answers => (s.saveConfiguration limits strerror answers).2
  | .close => { s with active := false }

def UiModel.run (s : UiModel) (events : List UiEvent) : UiModel := events.foldl (UiModel.step limits strerror) s

/-- Each print of a start's save stores its whole text. -/
def UiEvent.Stores (s : UiModel) : UiEvent → Prop
  | .startRun answers => ∀ n ∈ answers.lost.take (configPrints s.config).length, n = 0
  | _ => True

instance (s : UiModel) : (event : UiEvent) → Decidable (event.Stores s)
  | .startRun answers => inferInstanceAs (Decidable (∀ n ∈ answers.lost.take (configPrints s.config).length, n = 0))
  | .finishRun _ => .isTrue trivial
  | .edit _ => .isTrue trivial
  | .saveConfiguration _ => .isTrue trivial
  | .close => .isTrue trivial

namespace UiModel

section Start

variable {limits : TunnelLimits} {strerror : Nat → CString} {s : UiModel} {answers : SaveAnswers}

/-- Only the files and the notifications change. -/
structure SavedFrom (after before : UiModel) : Prop where
  config : after.config = before.config
  active : after.active = before.active
  runActive : after.runActive = before.runActive
  runStatus : after.runStatus = before.runStatus
  started : after.started = before.started

theorem saveConfiguration_savedFrom : (s.saveConfiguration limits strerror answers).2.SavedFrom s := by
  unfold saveConfiguration
  split <;> exact ⟨rfl,rfl,rfl,rfl,rfl⟩

theorem saveConfiguration_written (stored : ∀ n ∈ answers.lost.take (configPrints s.config).length, n = 0)
    (saved : (s.saveConfiguration limits strerror answers).1 = true) :
    (s.saveConfiguration limits strerror answers).2.files.path = some (configPrints s.config).flatten := by
  have written := @saveRuntimeConfig_written limits strerror s.config ⟨s.files,answers.faults,answers.lost,[]⟩ stored
  unfold saveConfiguration at saved ⊢
  cases run : saveRuntimeConfig limits strerror s.config ⟨s.files,answers.faults,answers.lost,[]⟩ with
  | mk outcome w =>
    rw [run] at written saved
    cases outcome with
    | error error => cases saved
    | ok => exact (written rfl).2

theorem activeProfile_of_valid {config : RuntimeConfig} (valid : validateRuntimeConfig limits config = .ok ()) :
    ∃ profile, activeRuntimeProfile config = some profile := by
  obtain ⟨⟨⟩,sizes,_⟩ := bind_ok valid
  have bounds := check_ok sizes
  simp only [Bool.and_eq_true,decide_eq_true_eq] at bounds
  exact ⟨_,List.getElem?_eq_getElem bounds.2⟩

structure Starts (limits : TunnelLimits) (s : UiModel) (answers : SaveAnswers) (r : StartedRun) (after : UiModel) : Prop where
  idle : s.runActive = false
  unexhausted : s.config.nextWorkloadId ≠ 0xFFFFFFFF
  valid : validateRuntimeConfig limits r.config = .ok ()
  started : after.started = s.started ++ [r]
  config : after.config = { s.config with nextWorkloadId := s.config.nextWorkloadId + 1 }
  runConfig : r.config = after.config
  workloadId : r.workload.workloadId = s.config.nextWorkloadId
  files : (UiEvent.startRun answers).Stores s → r.files.path = some (configPrints r.config).flatten

theorem length_configPrints (config : RuntimeConfig) (id : UInt32) :
    (configPrints { config with nextWorkloadId := id }).length = (configPrints config).length := by
  simp [configPrints]

/-- A start that starts no run leaves the configuration as it was. -/
theorem startRun_cases (limits : TunnelLimits) (strerror : Nat → CString) (s : UiModel) (answers : SaveAnswers) :
    ((s.startRun limits strerror answers).config = s.config ∧
      (s.startRun limits strerror answers).started = s.started) ∨
    ∃ r, Starts limits s answers r (s.startRun limits strerror answers) := by
  unfold startRun
  by_cases busy : s.runActive = true
  · rw [if_pos busy]
    exact .inl ⟨rfl,rfl⟩
  rw [if_neg busy]
  cases valid : validateRuntimeConfig limits s.config with
  | error error => exact .inl ⟨rfl,rfl⟩
  | ok =>
    dsimp only
    by_cases exhausted : s.config.nextWorkloadId = 0xFFFFFFFF
    · rw [if_pos exhausted]
      exact .inl ⟨rfl,rfl⟩
    rw [if_neg exhausted]
    let advanced := s.withNextId (s.config.nextWorkloadId + 1)
    have from' := @saveConfiguration_savedFrom limits strerror advanced answers
    have written := @saveConfiguration_written limits strerror advanced answers
    cases save : advanced.saveConfiguration limits strerror answers with
    | mk outcome saved =>
      rw [save] at from' written
      cases outcome with
      | false => exact .inl ⟨rfl,from'.started⟩
      | true =>
        have kept : validateRuntimeConfig limits saved.config = .ok () := by
          rw [from'.config]
          exact valid
        obtain ⟨profile,active⟩ := activeProfile_of_valid kept
        let workload := buildTunnelUdpWorkload saved.config profile s.config.nextWorkloadId
        refine .inr ⟨⟨saved.config,workload,saved.files⟩,?_⟩
        dsimp only
        rw [active]
        refine ⟨Bool.eq_false_iff.mpr busy,exhausted,kept,?_,from'.config,rfl,rfl,?_⟩
        · exact congrArg (· ++ _) from'.started
        · intro stored
          have same := length_configPrints s.config (s.config.nextWorkloadId + 1)
          have path := written (fun n member => stored n (by rw [← same]; exact member)) rfl
          rw [from'.config]
          exact path

/-- Only a start that hands over a run touches the id. -/
theorem step_cases (limits : TunnelLimits) (strerror : Nat → CString) (s : UiModel) (event : UiEvent) :
    ((s.step limits strerror event).config.nextWorkloadId = s.config.nextWorkloadId ∧
      (s.step limits strerror event).started = s.started) ∨
    ∃ answers r, event = .startRun answers ∧ Starts limits s answers r (s.step limits strerror event) := by
  cases event with
  | startRun answers =>
    rcases s.startRun_cases limits strerror answers with ⟨config,started⟩ | ⟨r,starts⟩
    · exact .inl ⟨congrArg RuntimeConfig.nextWorkloadId config,started⟩
    · exact .inr ⟨answers,r,rfl,starts⟩
  | finishRun result =>
    apply Or.inl
    rw [step,finishRun]
    split <;> exact ⟨rfl,rfl⟩
  | edit config => exact .inl ⟨rfl,rfl⟩
  | saveConfiguration answers =>
    have from' := @saveConfiguration_savedFrom limits strerror s answers
    exact .inl ⟨congrArg RuntimeConfig.nextWorkloadId from'.config,from'.started⟩
  | close => exact .inl ⟨rfl,rfl⟩

theorem Starts.next {r : StartedRun} {after : UiModel} (starts : Starts limits s answers r after) :
    after.config.nextWorkloadId.toNat = s.config.nextWorkloadId.toNat + 1 := by
  have below := s.config.nextWorkloadId.toNat_lt
  have last : s.config.nextWorkloadId.toNat ≠ 2 ^ 32 - 1 := fun same =>
    starts.unexhausted (UInt32.toNat_inj.mp same)
  have room : s.config.nextWorkloadId.toNat + 1 < 2 ^ 32 := by omega
  rw [starts.config,UInt32.toNat_add]
  exact Nat.mod_eq_of_lt room

end Start

/-- The runs took the ids from `first` on, one after the other. -/
structure Reserved (first : UInt32) (s : UiModel) : Prop where
  counter : s.config.nextWorkloadId.toNat = first.toNat + s.started.length
  ids : (s.started.map fun r => r.workload.workloadId.toNat) = List.range' first.toNat s.started.length

/-- Each run started behind a save of the configuration it was given. -/
def Saved (limits : TunnelLimits) (s : UiModel) : Prop :=
  ∀ r ∈ s.started, validateRuntimeConfig limits r.config = .ok () ∧
    r.files.path = some (configPrints r.config).flatten ∧ r.workload.workloadId < r.config.nextWorkloadId

section Runs

variable {limits : TunnelLimits} {strerror : Nat → CString} {first : UInt32} {s : UiModel}

theorem Reserved.step (reserved : s.Reserved first) (event : UiEvent) :
    (s.step limits strerror event).Reserved first := by
  rcases s.step_cases limits strerror event with ⟨id,started⟩ | ⟨answers,r,_,starts⟩
  · refine ⟨?_,?_⟩
    · rw [id,started]
      exact reserved.counter
    · rw [started]
      exact reserved.ids
  · have next := starts.next
    refine ⟨?_,?_⟩
    · rw [next,starts.started,reserved.counter,List.length_append,List.length_singleton,Nat.add_assoc]
    · rw [starts.started,List.map_append,reserved.ids,List.length_append,List.length_singleton,List.range'_1_concat,
        List.map_singleton,starts.workloadId,reserved.counter]

theorem Saved.step {event : UiEvent} (saved : s.Saved limits) (stores : event.Stores s) :
    (s.step limits strerror event).Saved limits := by
  rcases s.step_cases limits strerror event with ⟨_,started⟩ | ⟨answers,r,rfl,starts⟩
  · rw [Saved,started]
    exact saved
  · rw [Saved,starts.started]
    intro other member
    rcases List.mem_append.mp member with before | last
    · exact saved other before
    · obtain rfl := List.mem_singleton.mp last
      refine ⟨starts.valid,starts.files stores,?_⟩
      rw [UInt32.lt_iff_toNat_lt,starts.workloadId,starts.runConfig,starts.next]
      exact Nat.lt_succ_self _

theorem Reserved.run (reserved : s.Reserved first) (events : List UiEvent) :
    (s.run limits strerror events).Reserved first := by
  induction events generalizing s with
  | nil => exact reserved
  | cons event rest ih => exact ih (reserved.step event)

theorem Reserved.increasing (reserved : s.Reserved first) :
    (s.started.map fun r => r.workload.workloadId).Pairwise (· < ·) := by
  have sorted : (s.started.map fun r => r.workload.workloadId.toNat).Pairwise (· < ·) := by
    rw [reserved.ids]
    exact List.pairwise_lt_range'
  rw [List.pairwise_map] at sorted ⊢
  exact sorted.imp fun less => UInt32.lt_iff_toNat_lt.mpr less

end Runs

/-- The ids of the runs increase, the counter counts them without a wrap, and each run's worker starts
behind a saved configuration that is past its id; a start that fails leaves the configuration alone. -/
structure KeepsIds (limits : TunnelLimits) (strerror : Nat → CString) (first : UInt32) (s : UiModel) : Prop where
  increasing : (s.started.map fun r => r.workload.workloadId).Pairwise (· < ·)
  counter : s.config.nextWorkloadId.toNat = first.toNat + s.started.length
  persisted : ∀ r ∈ s.started, ∃ config : RuntimeConfig,
    r.files.path = some (configPrints config).flatten ∧ r.workload.workloadId < config.nextWorkloadId
  failed : ∀ answers, (s.startRun limits strerror answers).started = s.started →
    (s.startRun limits strerror answers).config = s.config

end UiModel

section Reservation

variable {limits : TunnelLimits} {strerror : Nat → CString}

/-- Where every start's save stores what it prints, no workload id is given twice. A load of what
was saved, under names that can be loaded, is the configuration that the run was given. -/
theorem workloadIds_reserved {s : UiModel} {events : List UiEvent} (fresh : s.started = [])
    (stores : Guarded (UiModel.step limits strerror) (fun s event => event.Stores s) s events) :
    (s.run limits strerror events).KeepsIds limits strerror s.config.nextWorkloadId ∧
      ∀ r ∈ (s.run limits strerror events).started, ∀ defaults,
        validateRuntimeConfig limits defaults = .ok () → (∀ profile ∈ r.config.profiles, GoodName profile.name) →
        loadRuntimeConfig limits strerror defaults r.files.openPath = ⟨r.config,true,[]⟩ ∧
          r.workload.workloadId < r.config.nextWorkloadId := by
  have start : s.Reserved s.config.nextWorkloadId := by
    refine ⟨?_,?_⟩
    · rw [fresh]
      rfl
    · rw [fresh]
      rfl
  have reserved := @UiModel.Reserved.run limits strerror _ _ start events
  have none : s.Saved limits := by
    rw [UiModel.Saved,fresh]
    exact fun _ member => absurd member List.not_mem_nil
  have saved : (s.run limits strerror events).Saved limits := by
    apply stores.invariant (UiModel.Saved limits) _ none
    exact fun _ _ saved stores => saved.step stores
  refine ⟨⟨reserved.increasing,reserved.counter,?_,?_⟩,?_⟩
  · intro r member
    obtain ⟨_,path,greater⟩ := saved r member
    exact ⟨r.config,path,greater⟩
  · intro answers same
    rcases UiModel.startRun_cases limits strerror _ answers with ⟨config,_⟩ | ⟨r,starts⟩
    · exact config
    · rw [starts.started] at same
      exact absurd same (by simp)
  · intro r member defaults defaultsValid good
    obtain ⟨valid,path,greater⟩ := saved r member
    rw [ConfigFiles.openPath,path]
    exact ⟨load_of_goodNames (profiles_of_valid defaultsValid).1 valid good,greater⟩

end Reservation

/-- A page that shows the configuration with this profile name. -/
def freshPage (name : CString) : UiModel := ⟨oneProfile name,true,false,[],[],emptyDirectory.files,[]⟩

def twoStarts : List UiEvent :=
  [.startRun ⟨[],[]⟩,.startRun ⟨[],[]⟩,.finishRun (.failure "udp".toList 0 []),.startRun ⟨[],[]⟩]

theorem workloadIds_reserved_twice :
    ((freshPage "Tunnel".toList).run ⟨1200,8⟩ (fun _ => []) twoStarts).KeepsIds ⟨1200,8⟩ (fun _ => []) 100 :=
  (@workloadIds_reserved ⟨1200,8⟩ (fun _ => []) (freshPage "Tunnel".toList) twoStarts rfl (by decide)).1

/-- A start whose first print is lost unnoticed: the file lacks the line of the next id. -/
theorem workloadIds_not_reserved :
    ¬∀ (limits : TunnelLimits) (strerror : Nat → CString) (s : UiModel) (events : List UiEvent), s.started = [] →
      (s.run limits strerror events).KeepsIds limits strerror s.config.nextWorkloadId := by
  intro keeps
  let page := freshPage "Tunnel".toList
  let s := page.run ⟨1200,8⟩ (fun _ => []) [.startRun ⟨[],[1000]⟩]
  have one : s.started.length = 1 := by decide
  obtain ⟨r,started⟩ := List.length_eq_one_iff.mp one
  have member : r ∈ s.started := by
    rw [started]
    exact List.mem_singleton_self r
  obtain ⟨config,path,_⟩ := (keeps ⟨1200,8⟩ (fun _ => []) page [.startRun ⟨[],[1000]⟩] rfl).persisted r member
  have begins : (s.started.map fun r => r.files.path.map fun text => text.take 1) = [some ['p']] := by decide +kernel
  rw [started,List.map_singleton,path] at begins
  cases begins

end NxReverse.Toolbox
