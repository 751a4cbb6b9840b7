import NxReverse.Tools.ReportRows

/-! The verdict of the check: its exit status is zero exactly if some flow of the logs could be checked, and the
accounts of every flow add up. -/
namespace NxReverse.Tools.Reports

open Text KeyValues

variable {u : Unicode}

theorem bind_eq_ok {α β : Type} {x : Except PyError α} {f : α → Except PyError β} {b : β} :
    (x >>= f) = .ok b ↔ ∃ a, x = .ok a ∧ f a = .ok b := by
  cases x with
  | error failure =>
    constructor
    · intro same
      cases same
    · rintro ⟨_,fails,-⟩
      cases fails
  | ok a =>
    constructor
    · exact fun same => ⟨a,rfl,same⟩
    · rintro ⟨_,succeeds,same⟩
      cases succeeds
      exact same

theorem pure_eq_ok {α : Type} {a b : α} : (pure a : Except PyError α) = .ok b ↔ a = b :=
  ⟨Except.ok.inj,congrArg Except.ok⟩

theorem mapM_eq_ok {α β : Type} {f : α → Except PyError β} {l : List α} {results : List β} :
    l.mapM f = .ok results ↔ List.Forall₂ (fun a b => f a = .ok b) l results := by
  refine ⟨fun same => ?_,mapM_of_forall₂⟩
  induction l generalizing results with
  | nil =>
    cases same
    exact .nil
  | cons a rest ih =>
    rw [List.mapM_cons,bind_eq_ok] at same
    obtain ⟨b,here,later⟩ := same
    obtain ⟨more,behind,same⟩ := bind_eq_ok.mp later
    obtain rfl := pure_eq_ok.mp same
    exact .cons here (ih behind)

section Row

variable {row : Row}

theorem unlessHolds_eq_nil {condition : Prop} [Decidable condition] {error : Except PyError PyStr} :
    unlessHolds condition error = .ok [] ↔ condition := by
  by_cases holds : condition
  · simp [unlessHolds,holds,pure_eq_ok]
  · rw [unlessHolds,if_neg holds,bind_eq_ok]
    refine ⟨fun failed => ?_,fun held => absurd held holds⟩
    obtain ⟨_,_,same⟩ := failed
    cases pure_eq_ok.mp same

/-- The admission of a flow and what became of its queue add up. -/
def MitmBalanced (u : Unicode) (row : Row) : Prop :=
  ∃ adapterQueued adapterQueueFull tooLarge accepted discarded queued : Int,
    counter u row "sends" = .ok (adapterQueued + adapterQueueFull + tooLarge) ∧
    counter u row "adapter_queued" = .ok adapterQueued ∧ counter u row "adapter_queue_full" = .ok adapterQueueFull ∧
    counter u row "too_large" = .ok tooLarge ∧ counter u row "accepted" = .ok accepted ∧
    counter u row "discarded" = .ok discarded ∧ counter u row "queued" = .ok queued ∧
    adapterQueued = accepted + discarded + queued

def WgnxBounded (u : Unicode) (row : Row) : Prop :=
  ∃ sendAdmitted sendAttempts : Int, counter u row "send_admitted" = .ok sendAdmitted ∧
    counter u row "send_attempts" = .ok sendAttempts ∧ sendAdmitted ≤ sendAttempts

theorem checkMitm_eq_nil : checkMitm u row = .ok [] ↔ MitmBalanced u row := by
  simp only [checkMitm,bind_eq_ok,pure_eq_ok,List.append_eq_nil_iff]
  constructor
  · rintro ⟨_,sends,adapterQueued,hasQueued,adapterQueueFull,hasFull,tooLarge,hasLarge,_,admission,accepted,hasAccepted,
      discarded,hasDiscarded,queued,hasQueue,_,drain,rfl,rfl⟩
    obtain rfl := unlessHolds_eq_nil.mp admission
    exact ⟨adapterQueued,adapterQueueFull,tooLarge,accepted,discarded,queued,sends,hasQueued,hasFull,hasLarge,hasAccepted,
      hasDiscarded,hasQueue,unlessHolds_eq_nil.mp drain⟩
  · rintro ⟨adapterQueued,adapterQueueFull,tooLarge,accepted,discarded,queued,sends,hasQueued,hasFull,hasLarge,
      hasAccepted,hasDiscarded,hasQueue,drain⟩
    exact ⟨_,sends,adapterQueued,hasQueued,adapterQueueFull,hasFull,tooLarge,hasLarge,[],unlessHolds_eq_nil.mpr rfl,
      accepted,hasAccepted,discarded,hasDiscarded,queued,hasQueue,[],unlessHolds_eq_nil.mpr drain,rfl,rfl⟩

theorem checkWgnx_eq_nil : checkWgnx u row = .ok [] ↔ WgnxBounded u row := by
  simp only [checkWgnx,bind_eq_ok,unlessHolds_eq_nil]
  constructor
  · rintro ⟨sendAdmitted,admitted,sendAttempts,attempts,bounded⟩
    exact ⟨sendAdmitted,sendAttempts,admitted,attempts,bounded⟩
  · rintro ⟨sendAdmitted,sendAttempts,admitted,attempts,bounded⟩
    exact ⟨sendAdmitted,admitted,sendAttempts,attempts,bounded⟩

def counted (row : Row) : Bool := getText "kind" row == some "mitm".toList && hasAll mitmCounters row

structure Sound (u : Unicode) (row : Row) : Prop where
  mitm : counted row = true → MitmBalanced u row
  wgnx : getText "kind" row = some "wgnx".toList → hasAll ["send_attempts","send_admitted"] row = true →
    WgnxBounded u row

theorem whenCounted_eq_nil {counts : Bool} {errors : Except PyError (List PyStr)} :
    whenCounted counts errors = .ok [] ↔ (counts = true → errors = .ok []) := by
  cases counts with
  | false => simp [whenCounted,pure_eq_ok]
  | true => simp [whenCounted]

theorem checkRow_eq_nil {kind : PyStr} (has : getText "kind" row = some kind) (checked : Bool) :
    checkRow u row = .ok ([],checked) ↔ Sound u row ∧ counted row = checked := by
  have kinds : item "kind" row = .ok kind := by rw [item,has]; rfl
  have mitm : countsMitm kind row = counted row := by
    rw [countsMitm,counted,has]
    rfl
  have wgnx : countsWgnx kind row = true ↔
      getText "kind" row = some "wgnx".toList ∧ hasAll ["send_attempts","send_admitted"] row = true := by
    rw [countsWgnx,has,Bool.and_eq_true,beq_iff_eq,Option.some_inj]
  simp only [checkRow,bind_eq_ok,pure_eq_ok,Prod.mk.injEq,List.append_eq_nil_iff]
  constructor
  · rintro ⟨_,same,_,first,_,second,⟨rfl,rfl⟩,rfl⟩
    cases kinds.symm.trans same
    refine ⟨⟨fun counts => ?_,fun isWgnx all => ?_⟩,mitm.symm⟩
    · exact checkMitm_eq_nil.mp (whenCounted_eq_nil.mp first (mitm.trans counts))
    · exact checkWgnx_eq_nil.mp (whenCounted_eq_nil.mp second (wgnx.mpr ⟨isWgnx,all⟩))
  · rintro ⟨sound,rfl⟩
    refine ⟨kind,kinds,[],whenCounted_eq_nil.mpr fun counts => ?_,[],whenCounted_eq_nil.mpr fun counts => ?_,⟨rfl,rfl⟩,mitm⟩
    · exact checkMitm_eq_nil.mpr (sound.mitm (mitm.symm.trans counts))
    · exact checkWgnx_eq_nil.mpr (sound.wgnx (wgnx.mp counts).1 (wgnx.mp counts).2)

end Row

section Rows

variable {quotient : Int → Int → Except PyError PyStr} {label : PyStr}

def Kinded (row : Row) : Prop := (getText "kind" row).isSome = true

theorem Kinded.setText {row : Row} (kinded : Kinded row) (name : String) (value : PyStr) :
    Kinded (setText name value row) := by
  refine isSome_getText.mpr ?_
  have held := isSome_getText.mp kinded
  rw [Reports.setText,Dicts.keys_set]
  split
  · exact held
  · exact List.mem_append_left _ held

theorem kinded_setText (value : PyStr) (row : Row) : Kinded (setText "kind" value row) := by
  refine isSome_getText.mpr ?_
  rw [setText,Dicts.keys_set]
  split
  next held => exact held
  next => exact List.mem_append_right _ List.mem_cons_self

theorem Kinded.setdefault {row : Row} (kinded : Kinded row) (name : String) (value : PyStr) :
    Kinded (setdefault name value row) := by
  rw [Reports.setdefault]
  split
  · exact kinded
  · exact kinded.setText name value

theorem Kinded.withDefaults {row : Row} (kinded : Kinded row) : Kinded (withDefaults label row) :=
  ((kinded.setdefault _ _).setdefault _ _).setdefault _ _

theorem kinded_measuredRow {kind byteCount elapsedNs rate : String} {detail : PyStr} {row : Row}
    (made : measuredRow u quotient kind byteCount elapsedNs rate detail = .ok row) : Kinded row := by
  rw [measuredRow,bind_eq_ok] at made
  obtain ⟨found,-,same⟩ := made
  have kinded := kinded_setText kind.toList
    (setText "workload_kind" (pop "kind" ['-'] (fields u detail)).1 (pop "kind" ['-'] (fields u detail)).2)
  cases found with
  | none => exact pure_eq_ok.mp same ▸ kinded
  | some value => exact pure_eq_ok.mp same ▸ kinded.setText rate value

/-- Whatever the pattern, a row says of what kind it is. -/
theorem kinded_rowForLine {line : PyStr} {row : Row} (read : rowForLine u quotient line = .ok (some row)) :
    Kinded row := by
  rw [rowForLine] at read
  split at read
  · cases pure_eq_ok.mp read
    exact (((kinded_setText _ _).setText _ _).setText _ _).setText _ _
  split at read
  · obtain ⟨made,measured,same⟩ := bind_eq_ok.mp read
    cases pure_eq_ok.mp same
    exact kinded_measuredRow measured
  split at read
  · obtain ⟨made,measured,same⟩ := bind_eq_ok.mp read
    cases pure_eq_ok.mp same
    exact kinded_measuredRow measured
  split at read
  · cases pure_eq_ok.mp read
    exact kinded_setText _ _
  split at read
  · cases pure_eq_ok.mp read
    exact kinded_setText _ _
  · obtain ⟨detail,-,rfl⟩ := Option.map_eq_some_iff.mp (pure_eq_ok.mp read)
    exact kinded_setText _ _

theorem kinded_rowsForFile {text : PyStr} {rows : List Row} (read : rowsForFile u quotient text label = .ok rows) :
    ∀ row ∈ rows, Kinded row := by
  rw [rowsForFile,bind_eq_ok] at read
  obtain ⟨found,lines,same⟩ := read
  rw [← pure_eq_ok.mp same]
  intro row member
  obtain ⟨raw,inside,rfl⟩ := List.mem_map.mp member
  obtain ⟨_,held,rfl⟩ := List.mem_filterMap.mp inside
  have each := mapM_eq_ok.mp lines
  generalize splitlines text = texts at each
  clear lines member inside same
  induction each with
  | nil => cases held
  | cons here _ ih =>
    rcases List.mem_cons.mp held with rfl | later
    · exact (kinded_rowForLine here).withDefaults
    · exact ih later

theorem kinded_rowsForLogs {logs : List (Option PyStr)} {rows : List Row}
    (read : rowsForLogs u quotient label logs = .ok (some rows)) : ∀ row ∈ rows, Kinded row := by
  induction logs generalizing rows with
  | nil =>
    cases pure_eq_ok.mp read
    exact List.forall_mem_nil _
  | cons log rest ih =>
    cases log with
    | none => cases pure_eq_ok.mp read
    | some text =>
      rw [rowsForLogs,bind_eq_ok] at read
      obtain ⟨front,first,later⟩ := read
      obtain ⟨back,behind,same⟩ := bind_eq_ok.mp later
      obtain ⟨more,rfl,rfl⟩ := Option.map_eq_some_iff.mp (pure_eq_ok.mp same)
      exact List.forall_mem_append.mpr ⟨kinded_rowsForFile first,ih behind⟩

/-- No errors in any row, and as many checks as there are rows that count. -/
theorem check_eq_nil {rows : List Row} (kinded : ∀ row ∈ rows, Kinded row) (count : Nat) :
    check u rows = .ok ([],count) ↔ (∀ row ∈ rows, Sound u row) ∧ rows.countP counted = count := by
  have kind : ∀ row ∈ rows, ∃ kind, getText "kind" row = some kind := fun row member =>
    Option.isSome_iff_exists.mp (kinded row member)
  simp only [check,bind_eq_ok,pure_eq_ok,Prod.mk.injEq,mapM_eq_ok]
  constructor
  · rintro ⟨results,each,silent,rfl⟩
    clear kinded
    induction each with
    | nil => exact ⟨List.forall_mem_nil _,rfl⟩
    | @cons row result rest results here _ ih =>
      obtain ⟨errors,checked⟩ := result
      rw [List.flatMap_cons,List.append_eq_nil_iff] at silent
      obtain rfl : errors = [] := silent.1
      obtain ⟨name,has⟩ := kind row List.mem_cons_self
      obtain ⟨sound,same⟩ := (checkRow_eq_nil has checked).mp here
      obtain ⟨sounds,counts⟩ := ih (fun other member => kind other (List.mem_cons_of_mem _ member)) silent.2
      refine ⟨List.forall_mem_cons.mpr ⟨sound,sounds⟩,?_⟩
      rw [List.countP_cons,List.countP_cons,counts,same]
  · rintro ⟨sound,rfl⟩
    refine ⟨rows.map fun row => ([],counted row),?_,by simp,?_⟩
    · refine List.forall₂_map_right_iff.mpr (List.forall₂_same.mpr fun row member => ?_)
      obtain ⟨name,has⟩ := kind row member
      exact (checkRow_eq_nil has _).mpr ⟨sound row member,rfl⟩
    · rw [List.countP_map]
      rfl

/-- The check succeeds exactly if all logs can be read, some flow of the interposer has all its counters, and the
accounts of every flow add up. -/
theorem exitStatus_eq_zero_iff (logs : List (Option PyStr)) :
    exitStatus u quotient logs label true = .ok 0 ↔ ∃ rows, rowsForLogs u quotient label logs = .ok (some rows) ∧
      (∀ row ∈ rows, Sound u row) ∧ ∃ row ∈ rows, counted row = true := by
  rw [exitStatus,bind_eq_ok]
  constructor
  · rintro ⟨found,read,verdict⟩
    cases found with
    | none => cases verdict
    | some rows =>
      by_cases empty : rows = []
      · subst empty
        cases verdict
      · dsimp only at verdict
        rw [if_neg empty,if_neg (by decide),bind_eq_ok] at verdict
        obtain ⟨⟨errors,count⟩,checked,same⟩ := verdict
        have same := pure_eq_ok.mp same
        by_cases failed : errors = []
        · subst failed
          by_cases unchecked : count = 0
          · subst unchecked
            cases same
          · obtain ⟨sound,rfl⟩ := (check_eq_nil (kinded_rowsForLogs read) count).mp checked
            exact ⟨rows,read,sound,List.countP_pos_iff.mp (Nat.pos_of_ne_zero unchecked)⟩
        · rw [if_pos failed] at same
          cases same
  · rintro ⟨rows,read,sound,counts⟩
    have checked := (check_eq_nil (kinded_rowsForLogs read) (rows.countP counted)).mpr ⟨sound,rfl⟩
    have some : rows ≠ [] := by
      obtain ⟨row,member,-⟩ := counts
      exact List.ne_nil_of_mem member
    have positive : rows.countP counted ≠ 0 := (List.countP_pos_iff.mpr counts).ne'
    refine ⟨rows,read,?_⟩
    dsimp only
    rw [if_neg some,if_neg (by decide),checked]
    refine pure_eq_ok.mpr ?_
    rw [if_neg (by simp),if_neg positive]

end Rows

end NxReverse.Tools.Reports
