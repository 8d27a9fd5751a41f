import CaptainCue.Backup.Failures

/-!
This module contains the first error of a backup: when no report and no remote call follows it.
-/

namespace Backup

variable {dateFormatter : DateFormatter} {localDataService : RealmDataService} {db : Firestore}
  {failures : Failures} {backup backup' : Backup} {e : Event}

/-! ## The calls of `completion` -/

@[simp]
theorem checkLoadingDataDone_log (backup : Backup)
    : backup.checkLoadingDataDone.log = backup.log := by
  unfold checkLoadingDataDone
  split
  . simp [deleteAll_eq, issueAll, onRemote]
  . rfl

@[simp]
theorem checkLoadingDataDone_callbacks (backup : Backup)
    : backup.checkLoadingDataDone.remoteDataService.callbacks
        = backup.remoteDataService.callbacks := by
  unfold checkLoadingDataDone
  split
  . simp [deleteAll_eq, issueAll, onRemote]
  . rfl

@[simp]
theorem checkLoadingDataDone_fetching (backup : Backup)
    : backup.checkLoadingDataDone.fetching = backup.fetching := by
  unfold checkLoadingDataDone
  split
  . simp [deleteAll_eq, issueAll, onRemote]
  . rfl

@[simp]
theorem closure_fetching (backup : Backup) (T : Kind) (datas : Option (List DataServiceObject))
    (err : Option NSError) : (backup.closure T datas err).fetching = backup.fetching := by
  cases err with
  | some err => rfl
  | none => exact checkLoadingDataDone_fetching _

theorem tally_log (backup : Backup) (callback : BackupCallback) (err : Option NSError)
    : ∃ report, (backup.tally callback err).log = backup.log ++ [report] := by
  cases err with
  | some err => exact ⟨_, rfl⟩
  | none =>
    cases callback with
    | deleted item => exact ⟨_, rfl⟩
    | uploaded item => exact ⟨_, rfl⟩

theorem runCallback_log (backup : Backup) (i : Nat) (callback : BackupCallback)
    (err : Option NSError)
    : ∃ report, ((backup.take i callback err).runCallback callback err).log
        = backup.log ++ [report] := by
  rw [runCallback_eq]
  exact tally_log (backup.take i callback err) callback err

theorem runCallback_fetching (backup : Backup) (i : Nat) (callback : BackupCallback)
    (err : Option NSError)
    : ((backup.take i callback err).runCallback callback err).fetching = backup.fetching := by
  rw [runCallback_eq]
  exact tally_fetching (backup.take i callback err) callback err

theorem step_log (hstep : backup.step dateFormatter e = some backup')
    : ∃ reports, backup'.log = backup.log ++ reports := by
  cases e with
  | fetched T context =>
    simp only [step, getAllDataClosure_eq, closure] at hstep
    split at hstep
    . cases hstep
      refine ⟨[], ?_⟩
      rw [checkLoadingDataDone_log, List.append_nil]
    . cases hstep
  | fetchFailed T err =>
    simp only [step, getAllDataClosure_eq, closure] at hstep
    split at hstep
    . cases hstep
      exact ⟨[.error err], rfl⟩
    . cases hstep
  | answer i err =>
    obtain ⟨service, -, rfl⟩ := Option.map_eq_some_iff.mp hstep
    exact ⟨[], (List.append_nil _).symm⟩
  | completion i =>
    simp only [step] at hstep
    split at hstep
    . next callback err hcallback =>
      cases hstep
      obtain ⟨report, hlog⟩ := backup.runCallback_log i callback err
      exact ⟨[report], hlog⟩
    . cases hstep

theorem run_log {later : List Event}
    (hrun : (machine dateFormatter).run backup later = some backup')
    : backup.log <+: backup'.log := by
  refine Machine.invariant (I := fun next => backup.log <+: next.log) ?_ List.prefix_rfl hrun
  intro next e next' h hstep
  obtain ⟨reports, hlog⟩ := step_log hstep
  rw [hlog]
  exact h.trans (List.prefix_append _ _)

/-! ## The two fetches -/

structure Loading (failures : Failures) (backup : Backup) : Prop where
  -- no remote call is made before both fetches have been answered
  cloudData : ∀ T, backup.fetching T = true → backup.cloudData T = none
  pending : ∀ T, backup.fetching T = true → backup.remoteDataService.pending = []
  callbacks : ∀ T, backup.fetching T = true → backup.remoteDataService.callbacks = []
  failed : ∀ T, backup.fetching T = false → failures.fetch T → ∃ err, .error err ∈ backup.log

theorem loading_backupData : Loading failures (backupData localDataService db) := by
  constructor
  . intro T _
    rfl
  . intro T _
    rfl
  . intro T _
    rfl
  . intro T hT
    cases hT

theorem of_update_fetching {fetching : Kind → Bool} {T U : Kind}
    (hU : Function.update fetching T false U = true) : U ≠ T ∧ fetching U = true := by
  by_cases hUT : U = T
  . subst hUT
    simp at hU
  . rw [Function.update_of_ne hUT] at hU
    exact ⟨hUT, hU⟩

theorem Loading.fetched (h : Loading failures backup) {T : Kind} (hfails : ¬ failures.fetch T)
    (datas : Option (List DataServiceObject))
    : Loading failures
        (closure { backup with fetching := Function.update backup.fetching T false } T datas
          none) := by
  -- while the other fetch is under way, `checkLoadingDataDone` does nothing
  have hcheck {U : Kind} (hU : Function.update backup.fetching T false U = true)
      : closure { backup with fetching := Function.update backup.fetching T false } T datas none
          = { backup with
              fetching := Function.update backup.fetching T false
              cloudData := Function.update backup.cloudData T (some (datas.getD []))
            } := by
    obtain ⟨hUT, hU⟩ := of_update_fetching hU
    refine checkLoadingDataDone_of_none (T := U) ?_
    dsimp only
    rw [Function.update_of_ne hUT]
    exact h.cloudData U hU
  refine ⟨?_, ?_, ?_, ?_⟩
  . intro U hU
    rw [closure_fetching] at hU
    obtain ⟨hUT, hfetching⟩ := of_update_fetching hU
    rw [hcheck hU]
    dsimp only
    rw [Function.update_of_ne hUT]
    exact h.cloudData U hfetching
  . intro U hU
    rw [closure_fetching] at hU
    rw [hcheck hU]
    exact h.pending U (of_update_fetching hU).2
  . intro U hU
    rw [closure_fetching] at hU
    rw [hcheck hU]
    exact h.callbacks U (of_update_fetching hU).2
  . intro U hU hUfails
    have hUT : U ≠ T := by
      rintro rfl
      exact hfails hUfails
    rw [closure_fetching] at hU
    dsimp only at hU
    rw [Function.update_of_ne hUT] at hU
    simp only [closure, checkLoadingDataDone_log]
    exact h.failed U hU hUfails

theorem Loading.fetchFailed (h : Loading failures backup) (T : Kind) (err : NSError)
    : Loading failures
        (closure { backup with fetching := Function.update backup.fetching T false } T none
          (some err)) := by
  refine ⟨?_, ?_, ?_, ?_⟩
  . intro U hU
    exact h.cloudData U (of_update_fetching hU).2
  . intro U hU
    exact h.pending U (of_update_fetching hU).2
  . intro U hU
    exact h.callbacks U (of_update_fetching hU).2
  . intro U _ _
    exact ⟨err, List.mem_append_right _ (List.mem_singleton_self _)⟩

theorem Loading.not_fetching (h : Loading failures backup) {i : Nat}
    {call : BackupCallback × Option NSError}
    (hcall : backup.remoteDataService.callbacks[i]? = some call) (T : Kind)
    : backup.fetching T ≠ true := by
  intro hT
  rw [h.callbacks T hT] at hcall
  cases hcall

theorem Loading.step (h : Loading failures backup) (hallow : failures.Allow backup e)
    (hstep : backup.step dateFormatter e = some backup') : Loading failures backup' := by
  cases e with
  | fetched T context =>
    simp only [Backup.step, getAllDataClosure_eq] at hstep
    split at hstep
    . cases hstep
      exact h.fetched hallow _
    . cases hstep
  | fetchFailed T err =>
    simp only [Backup.step, getAllDataClosure_eq] at hstep
    split at hstep
    . cases hstep
      exact h.fetchFailed T err
    . cases hstep
  | answer i err =>
    obtain ⟨service, hanswer, rfl⟩ := Option.map_eq_some_iff.mp hstep
    obtain ⟨w, callback, hpending, rfl⟩ := FirebaseDataService.answer_eq_some.mp hanswer
    have hnot (T : Kind) : backup.fetching T ≠ true := by
      intro hT
      rw [h.pending T hT] at hpending
      cases hpending
    exact ⟨h.cloudData, fun T hT => absurd hT (hnot T), fun T hT => absurd hT (hnot T), h.failed⟩
  | completion i =>
    simp only [Backup.step] at hstep
    split at hstep
    . next callback err hcallback =>
      cases hstep
      have hnot (T : Kind)
          : ((backup.take i callback err).runCallback callback err).fetching T ≠ true := by
        rw [runCallback_fetching]
        exact h.not_fetching hcallback T
      refine ⟨fun T hT => absurd hT (hnot T), fun T hT => absurd hT (hnot T),
        fun T hT => absurd hT (hnot T), ?_⟩
      intro T hT hfails
      have hT' : backup.fetching T = false := by
        rw [← runCallback_fetching backup i callback err]
        exact hT
      obtain ⟨report, hlog⟩ := backup.runCallback_log i callback err
      obtain ⟨err, herr⟩ := h.failed T hT' hfails
      refine ⟨err, ?_⟩
      show BackupReport.error err
        ∈ ((backup.take i callback _).runCallback callback _).log
      rw [hlog]
      exact List.mem_append_left _ herr
    . cases hstep

theorem Loading.fetching_of_completion (h : Loading failures backup) {i : Nat}
    (hstep : backup.step dateFormatter (.completion i) = some backup') (T : Kind)
    : backup'.fetching T = false := by
  simp only [Backup.step] at hstep
  split at hstep
  . next callback err hcallback =>
    cases hstep
    have hfetching := runCallback_fetching backup i callback err
    rw [Bool.eq_false_iff]
    exact fun hT => h.not_fetching hcallback T ((congrFun hfetching T).symm.trans hT)
  . cases hstep

theorem fetching_of_fetchFailed {T U : Kind} {err : NSError}
    (hstep : backup.step dateFormatter (.fetchFailed T err) = some backup') (hUT : U ≠ T)
    : backup'.fetching U = backup.fetching U := by
  simp only [Backup.step, getAllDataClosure_eq] at hstep
  split at hstep
  . cases hstep
    rw [closure_fetching]
    exact Function.update_of_ne hUT _ _
  . cases hstep

theorem backupData_loading {events : List Event}
    (hmeets : (machine dateFormatter).Meets failures.Allow (backupData localDataService db) events)
    (hrun : (machine dateFormatter).run (backupData localDataService db) events = some backup)
    : Loading failures backup :=
  Machine.invariant_of_meets (fun _ _ _ h hallow hstep => h.step hallow hstep) loading_backupData
    hmeets hrun

/-! ## What is left to be reported -/

def outstanding (backup : Backup) : Nat :=
  (backup.fetching .report).toNat + (backup.fetching .shot).toNat
    + backup.remoteDataService.pending.length + backup.remoteDataService.callbacks.length

theorem quiet_iff_outstanding : backup.Quiet ↔ backup.outstanding = 0 := by
  unfold outstanding
  constructor
  . intro h
    simp [h.fetching, h.pending, h.callbacks]
  . intro h
    simp only [Nat.add_eq_zero_iff, Bool.toNat_eq_zero, List.length_eq_zero_iff] at h
    obtain ⟨⟨⟨hreport, hshot⟩, hpending⟩, hcallbacks⟩ := h
    refine ⟨?_, hpending, hcallbacks⟩
    intro T
    cases T with
    | report => exact hreport
    | shot => exact hshot

theorem Quiet.step_eq_none (h : backup.Quiet) (e : Event) : backup.step dateFormatter e = none := by
  cases e with
  | fetched T context => simp [step, h.fetching]
  | fetchFailed T err => simp [step, h.fetching]
  | answer i err => simp [step, FirebaseDataService.answer, h.pending]
  | completion i => simp [step, h.callbacks]

theorem Quiet.run_eq (h : backup.Quiet) {later : List Event}
    (hrun : (machine dateFormatter).run backup later = some backup') : backup' = backup := by
  cases later with
  | nil =>
    cases hrun
    rfl
  | cons e later =>
    obtain ⟨next, hstep, -⟩ := Machine.run_cons_eq_some.mp hrun
    have hnone : (machine dateFormatter).step backup e = none := h.step_eq_none e
    rw [hnone] at hstep
    cases hstep

theorem reports_of_error {failed : Backup} {err : NSError} (hfirst : ∀ err, .error err ∉ backup.log)
    (hstep : backup.step dateFormatter e = some failed) (herror : .error err ∈ failed.log)
    : (∃ T err, e = .fetchFailed T err) ∨ ∃ i, e = .completion i := by
  cases e with
  | fetched T context =>
    simp only [step, getAllDataClosure_eq, closure] at hstep
    split at hstep
    . cases hstep
      rw [checkLoadingDataDone_log] at herror
      exact absurd herror (hfirst err)
    . cases hstep
  | fetchFailed T err' => exact .inl ⟨T, err', rfl⟩
  | answer i err' =>
    obtain ⟨service, -, rfl⟩ := Option.map_eq_some_iff.mp hstep
    exact absurd herror (hfirst err)
  | completion i => exact .inr ⟨i, rfl⟩

theorem outstanding_of_error {failed : Backup} {err : NSError}
    (hfirst : ∀ err, .error err ∉ backup.log)
    (hstep : backup.step dateFormatter e = some failed) (herror : .error err ∈ failed.log)
    : failed.outstanding + 1 = backup.outstanding := by
  rcases reports_of_error hfirst hstep herror with ⟨T, err', rfl⟩ | ⟨i, rfl⟩
  . simp only [step, getAllDataClosure_eq, closure] at hstep
    split at hstep
    . next hfetching =>
      cases hstep
      cases T with
      | report => simp [outstanding, completion, hfetching]; omega
      | shot => simp [outstanding, completion, hfetching]; omega
    . cases hstep
  . simp only [step] at hstep
    split at hstep
    . next callback err' hcallback =>
      cases hstep
      have hlength := (FirebaseDataService.perm_eraseIdx hcallback).length_eq
      rw [List.length_cons] at hlength
      cases err' with
      | some err' =>
        cases callback <;> simp [runCallback, outstanding, completion, hlength] <;> omega
      | none =>
        rw [runCallback_eq] at herror
        cases callback <;>
          simp [issueAll, onRemote, tally, advance, completion, hfirst] at herror
    . cases hstep

structure Reported (failures : Failures) (backup : Backup) : Prop where
  -- neither a fetch that fails nor a write is under way
  fetching : ∀ T, failures.fetch T → backup.fetching T = false
  pending : backup.remoteDataService.pending = []
  callbacks : backup.remoteDataService.callbacks = []

theorem Quiet.reported (h : backup.Quiet) : Reported failures backup :=
  ⟨fun T _ => h.fetching T, h.pending, h.callbacks⟩

/--
A step that reports nothing leaves as much to report as there was.
-/
theorem Reported.of_step (h : Reported failures backup') (hloading : Loading failures backup)
    (hallow : failures.Allow backup e) (hstep : backup.step dateFormatter e = some backup')
    (hlog : backup'.log = backup.log) : Reported failures backup := by
  cases e with
  | fetched T context =>
    simp only [step, getAllDataClosure_eq] at hstep
    split at hstep
    . next hfetching =>
      cases hstep
      refine ⟨?_, hloading.pending T hfetching, hloading.callbacks T hfetching⟩
      intro U hU
      have hUT : U ≠ T := by
        rintro rfl
        exact hallow hU
      have hfetched := h.fetching U hU
      rw [closure_fetching] at hfetched
      dsimp only at hfetched
      rwa [Function.update_of_ne hUT] at hfetched
    . cases hstep
  | fetchFailed T err =>
    simp only [step, getAllDataClosure_eq] at hstep
    split at hstep
    . cases hstep
      have hreport : backup.log ++ [.error err] = backup.log := hlog
      simp at hreport
    . cases hstep
  | answer i err =>
    obtain ⟨service, hanswer, rfl⟩ := Option.map_eq_some_iff.mp hstep
    obtain ⟨w, callback, -, rfl⟩ := FirebaseDataService.answer_eq_some.mp hanswer
    -- the answered write now waits for its callback
    have hcallbacks := h.callbacks
    simp at hcallbacks
  | completion i =>
    simp only [step] at hstep
    split at hstep
    . next callback err hcallback =>
      cases hstep
      obtain ⟨report, hreport⟩ := backup.runCallback_log i callback err
      have hnone : backup.log ++ [report] = backup.log := hreport.symm.trans hlog
      simp at hnone
    . cases hstep

theorem Reported.of_run {later : List Event} {final : Backup} (h : Reported failures final)
    (hloading : Loading failures backup)
    (hmeets : (machine dateFormatter).Meets failures.Allow backup later)
    (hrun : (machine dateFormatter).run backup later = some final)
    (hlog : final.log = backup.log) : Reported failures backup := by
  induction later generalizing backup with
  | nil =>
    cases hrun
    exact h
  | cons e later ih =>
    obtain ⟨next, hstep, hrun⟩ := Machine.run_cons_eq_some.mp hrun
    have hmeets' := (Machine.meets_cons hstep).mp hmeets
    -- the log only grows, and at the end it is what it was before the step
    have hnext : next.log = backup.log := by
      obtain ⟨reports, hreports⟩ := step_log hstep
      have hprefix := run_log hrun
      rw [hlog] at hprefix
      apply hprefix.eq_of_length_le
      rw [hreports, List.length_append]
      omega
    refine Reported.of_step ?_ hloading hmeets'.1 hstep hnext
    exact ih (hloading.step hmeets'.1 hstep) hmeets'.2 hrun (hlog.trans hnext.symm)

/-! ## The first error -/

structure Ended (T : Kind) (failed backup : Backup) : Prop where
  -- the fetch of `T` has failed, and since then nothing has been reported or issued
  fetching : backup.fetching T = false
  cloudData : backup.cloudData T = none
  pending : backup.remoteDataService.pending = []
  callbacks : backup.remoteDataService.callbacks = []
  log : backup.log = failed.log
  issued : backup.remoteDataService.issued = failed.remoteDataService.issued

theorem Loading.ended (h : Loading failures backup) {T : Kind} {err : NSError} {failed : Backup}
    (hstep : backup.step dateFormatter (.fetchFailed T err) = some failed)
    : Ended T failed failed := by
  simp only [Backup.step, getAllDataClosure_eq, closure] at hstep
  split at hstep
  . next hfetching =>
    cases hstep
    refine ⟨?_, h.cloudData T hfetching, h.pending T hfetching, h.callbacks T hfetching, rfl, rfl⟩
    simp [completion]
  . cases hstep

theorem Ended.step {T : Kind} {failed : Backup} (hfetch : ∀ U, U ≠ T → ¬ failures.fetch U)
    (h : Ended T failed backup) (hallow : failures.Allow backup e)
    (hstep : backup.step dateFormatter e = some backup') : Ended T failed backup' := by
  cases e with
  | fetched U context =>
    simp only [Backup.step, getAllDataClosure_eq, closure] at hstep
    split at hstep
    . next hfetching =>
      cases hstep
      have hTU : T ≠ U := by
        rintro rfl
        rw [h.fetching] at hfetching
        cases hfetching
      have hnone : Function.update backup.cloudData U
          (some ((some (FirebaseDataService.getAllData dateFormatter context U
            (backup.remoteDataService.db.getDocuments U.getRemoteCollectionName))).getD []))
          T = none := by
        rw [Function.update_of_ne hTU]
        exact h.cloudData
      rw [checkLoadingDataDone_of_none hnone]
      refine ⟨?_, hnone, h.pending, h.callbacks, h.log, h.issued⟩
      dsimp only
      rw [Function.update_of_ne hTU]
      exact h.fetching
    . cases hstep
  | fetchFailed U err =>
    simp only [Backup.step] at hstep
    split at hstep
    . next hfetching =>
      have hUT : U ≠ T := by
        rintro rfl
        rw [h.fetching] at hfetching
        cases hfetching
      exact absurd hallow (hfetch U hUT)
    . cases hstep
  | answer i err => simp [Backup.step, FirebaseDataService.answer, h.pending] at hstep
  | completion i => simp [Backup.step, h.callbacks] at hstep

/--
The first error ends a complete backup exactly if it comes from the last operation that is left, or
from a fetch beside a fetch that succeeds.
-/
theorem error_ends_iff {events later : List Event} {failed final : Backup} {err : NSError}
    (hmeets : (machine dateFormatter).Meets failures.Allow (backupData localDataService db)
      (events ++ e :: later))
    (hrun : (machine dateFormatter).run (backupData localDataService db) events = some backup)
    (hfirst : ∀ err, .error err ∉ backup.log)
    (hstep : (machine dateFormatter).step backup e = some failed) (herror : .error err ∈ failed.log)
    (hlater : (machine dateFormatter).run failed later = some final) (hquiet : final.Quiet)
    : (final.log = failed.log
          ∧ final.remoteDataService.issued = failed.remoteDataService.issued)
        ↔ backup.outstanding = 1
          ∨ ∃ T, (∃ err, e = .fetchFailed T err) ∧ ∀ U, U ≠ T → ¬ failures.fetch U := by
  rw [Machine.meets_append hrun, Machine.meets_cons hstep] at hmeets
  obtain ⟨hmeets, hallow, hmeets'⟩ := hmeets
  change backup.step dateFormatter e = some failed at hstep
  have hloading := backupData_loading hmeets hrun
  have hloading' := hloading.step hallow hstep
  have houtstanding := outstanding_of_error hfirst hstep herror
  constructor
  . rintro ⟨hlog, -⟩
    have hreported := hquiet.reported.of_run hloading' hmeets' hlater hlog
    rcases reports_of_error hfirst hstep herror with ⟨T, err', rfl⟩ | ⟨i, rfl⟩
    . refine .inr ⟨T, ⟨err', rfl⟩, ?_⟩
      intro U hUT hU
      have hsame : failed.fetching U = backup.fetching U :=
        fetching_of_fetchFailed hstep hUT
      have hfailed : backup.fetching U = false := hsame.symm.trans (hreported.fetching U hU)
      obtain ⟨err, herr⟩ := hloading.failed U hfailed hU
      exact hfirst err herr
    . left
      have hquiet' : failed.Quiet :=
        ⟨hloading.fetching_of_completion hstep, hreported.pending, hreported.callbacks⟩
      rw [quiet_iff_outstanding] at hquiet'
      omega
  . rintro (hone | ⟨T, ⟨err, rfl⟩, hfetch⟩)
    . have hquiet' : failed.Quiet := by
        rw [quiet_iff_outstanding]
        omega
      rw [hquiet'.run_eq hlater]
      exact ⟨rfl, rfl⟩
    . have hended : Ended T failed final := by
        apply Machine.invariant_of_meets _ _ hmeets' hlater
        . intro backup e backup' h hallow hstep
          exact h.step hfetch hallow hstep
        . exact hloading.ended hstep
      exact ⟨hended.log, hended.issued⟩

theorem error_ends_iff_failed_fetch
    : ∃ failed final, (machine sampleFormatter).run (backupData sampleDevice sampleCloud)
          [.fetchFailed .report ⟨"", 0⟩] = some failed
        ∧ (machine sampleFormatter).run failed [.fetched .shot sampleContext] = some final
        ∧ final.log = failed.log
        ∧ final.remoteDataService.issued = failed.remoteDataService.issued := by
  have hruns : ∃ failed final,
      (machine sampleFormatter).step (backupData sampleDevice sampleCloud)
        (.fetchFailed .report ⟨"", 0⟩) = some failed
      ∧ .error ⟨"", 0⟩ ∈ failed.log
      ∧ (machine sampleFormatter).run failed [.fetched .shot sampleContext] = some final
      ∧ final.Quiet := by
    refine ⟨_, _, rfl, List.mem_cons_of_mem _ List.mem_cons_self, rfl, ?_, rfl, rfl⟩
    intro T
    cases T <;> rfl
  obtain ⟨failed, final, hstep, herror, hlater, hquiet⟩ := hruns
  let failures : Failures := ⟨fun T => T = .report, fun _ => False⟩
  have hmeets : (machine sampleFormatter).Meets failures.Allow
      (backupData sampleDevice sampleCloud)
      ([] ++ [.fetchFailed .report ⟨"", 0⟩, .fetched .shot sampleContext]) := by
    refine (Machine.meets_cons hstep).mpr ⟨rfl, ?_⟩
    refine ⟨?_, fun _ _ => trivial⟩
    intro hshot
    cases hshot
  have hends := (error_ends_iff hmeets (Machine.run_nil _) (by simp [backupData]) hstep herror
    hlater hquiet).mpr (.inr ⟨.report, ⟨_, rfl⟩, fun U hU => hU⟩)
  exact ⟨failed, final, Machine.run_cons_eq_some.mpr ⟨failed, hstep, rfl⟩, hlater, hends⟩

theorem backupData_continues_after_error
    : ∃ failed final, (machine sampleFormatter).run
          (backupData sampleDevice (sampleCloud.write ⟨"Shot", "s", some [("id", .string "s")]⟩))
          [.fetched .report sampleContext, .fetched .shot sampleContext, .answer 0 (some ⟨"", 0⟩),
            .completion 0] = some failed
        ∧ .error ⟨"", 0⟩ ∈ failed.log
        ∧ (machine sampleFormatter).run failed [.answer 0 none, .completion 0] = some final
        ∧ final.log ≠ failed.log
        ∧ final.remoteDataService.issued ≠ failed.remoteDataService.issued := by
  refine ⟨_, _, rfl, List.mem_cons_of_mem _ List.mem_cons_self, rfl, ?_, ?_⟩
  . apply mt (congrArg List.length)
    decide
  . apply mt (congrArg List.length)
    decide

end Backup
