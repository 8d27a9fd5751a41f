import CaptainCue.Backup.Accounting

/-!
This module contains the two fetches of a backup, and with them the invariant of all its runs.
-/

namespace Backup

section Fetches

variable (dateFormatter : DateFormatter) (localDataService : RealmDataService) (db : Firestore)

structure Waiting (backup : Backup) : Prop where
  -- A backup that has not started a remote call: a fetch is still to be answered, or has failed.
  localData : backup.localData = localDataService.getAllDatas
  service : backup.remoteDataService = { db := db, pending := [], callbacks := [], issued := [] }
  finished : backup.finished = []
  cloudData : ∀ T datas, backup.cloudData T = some datas →
    ∃ context, datas = FirebaseDataService.getAllData dateFormatter context T
      (db.getDocuments T.getRemoteCollectionName)
  fetching : ∀ T, backup.fetching T = true → backup.cloudData T = none
  missing : ∃ T, backup.cloudData T = none
  log : ∃ errs : List NSError, backup.log = .progress 0 :: errs.map .error ∧
    (errs ≠ [] → ∃ T, backup.fetching T = false ∧ backup.cloudData T = none)

def Inv (backup : Backup) : Prop :=
  Waiting dateFormatter localDataService db backup ∨
    ∃ content : BackupContent, content.db = db ∧ content.localData = localDataService.getAllDatas ∧
      Running content backup

variable {dateFormatter : DateFormatter} {localDataService : RealmDataService} {db : Firestore}
  {backup : Backup}

theorem waiting_backupData
    : Waiting dateFormatter localDataService db (backupData localDataService db) := by
  constructor
  . rfl
  . rfl
  . rfl
  . intro T datas hdatas
    cases hdatas
  . intro T _
    rfl
  . exact ⟨.report, rfl⟩
  . exact ⟨[], rfl, fun h => absurd rfl h⟩

theorem checkLoadingDataDone_eq {reportCloudData shotCloudData : List DataServiceObject}
    (hreport : backup.cloudData .report = some reportCloudData)
    (hshot : backup.cloudData .shot = some shotCloudData)
    : backup.checkLoadingDataDone
        =
      issueAll
        { backup with
          totalTask := reportCloudData.length + shotCloudData.length
            + (backup.localData .report).length + (backup.localData .shot).length
          currentProgress := 0
          deleteCounter := fun _ => 0
        }
        (shotCloudData.map .deleted ++ reportCloudData.map .deleted) := by
  unfold checkLoadingDataDone
  rw [hreport, hshot]
  dsimp only
  rw [deleteAll_eq, deleteAll_eq]
  simp [issueAll, onRemote]

theorem checkLoadingDataDone_of_none {T : Kind} (hnone : backup.cloudData T = none)
    : backup.checkLoadingDataDone = backup := by
  unfold checkLoadingDataDone
  cases T with
  | report => rw [hnone]
  | shot =>
    rw [hnone]
    cases backup.cloudData .report <;> rfl

theorem running_checkLoadingDataDone (content : BackupContent)
    (hlocalData : backup.localData = content.localData)
    (hservice : backup.remoteDataService
      = { db := content.db, pending := [], callbacks := [], issued := [] })
    (hfinished : backup.finished = [])
    (hcloudData : ∀ T, backup.cloudData T = some (content.cloudData T))
    (hfetching : ∀ T, backup.fetching T = false)
    (hlog : backup.log = [.progress 0]) : Running content backup.checkLoadingDataDone := by
  rw [checkLoadingDataDone_eq (hcloudData .report) (hcloudData .shot)]
  refine ⟨hlocalData, hcloudData, hfetching, ?_, ?_, ?_, ?_⟩
  . intro call hcall
    simp only [issueAll, onRemote, hservice, List.nil_append, List.mem_map] at hcall
    obtain ⟨callback, -, rfl⟩ := hcall
    rfl
  . intro callback
    have hnot (T : Kind) : ¬ Triggered content (fun _ => 0) T := by
      intro htriggered
      exact htriggered.2 (List.length_eq_zero_iff.mp htriggered.1.symm)
    have hdeletes (T : Kind) (hT : callback.item.kind ≠ T) : (content.deletes T).count callback = 0 := by
      apply List.count_eq_zero.mpr
      intro hmem
      exact hT (BackupContent.kind_of_mem_deletes hmem)
    rw [calls_issueAll]
    simp only [issueAll, onRemote, planned, if_neg (hnot _), List.append_nil, calls, hservice,
      hfinished, List.map_nil, List.count_nil, Nat.zero_add, List.count_append]
    cases hkind : callback.item.kind with
    | report =>
      have hshot := hdeletes .shot (by simp [hkind])
      unfold BackupContent.deletes at hshot ⊢
      omega
    | shot =>
      have hreport := hdeletes .report (by simp [hkind])
      unfold BackupContent.deletes at hreport ⊢
      omega
  . constructor
    . simp [issueAll, onRemote, BackupContent.totalTask, hlocalData]
    . simp [issueAll, onRemote, hfinished, succeeded]
    . intro T
      simp [issueAll, onRemote, hfinished, Backup.deleted]
    . simp [issueAll, onRemote, hfinished, hlog, reports]
  . have hdone (callback : BackupCallback)
        : ¬ Done (issueAll
            { backup with
              totalTask := (content.cloudData .report).length + (content.cloudData .shot).length
                + (backup.localData .report).length + (backup.localData .shot).length
              currentProgress := 0
              deleteCounter := fun _ => 0
            }
            ((content.cloudData .shot).map .deleted ++ (content.cloudData .report).map .deleted))
          callback := by
      simp [Done, issueAll, onRemote, hservice, hfinished]
    constructor
    . intro item hitem
      exact absurd hitem (hdone _)
    . intro item hitem
      exact absurd hitem (hdone _)
    . intro T id _
      simp [issueAll, onRemote, hservice]

theorem Waiting.fetchFailed (h : Waiting dateFormatter localDataService db backup) {T : Kind}
    (hfetching : backup.fetching T = true) (err : NSError)
    : Waiting dateFormatter localDataService db
        (closure { backup with fetching := Function.update backup.fetching T false } T none
          (some err)) := by
  have hnone := h.fetching T hfetching
  refine ⟨h.localData, h.service, h.finished, h.cloudData, ?_, ⟨T, hnone⟩, ?_⟩
  . intro U hU
    apply h.fetching U
    by_cases hUT : U = T
    . subst hUT
      exact hfetching
    . simpa [closure, completion, Function.update_of_ne hUT] using hU
  . obtain ⟨errs, hlog, -⟩ := h.log
    refine ⟨errs ++ [err], ?_, fun _ => ⟨T, ?_, hnone⟩⟩
    . simp [closure, completion, hlog]
    . simp [closure, completion]

theorem Waiting.fetched (h : Waiting dateFormatter localDataService db backup) (hdb : db.IdsMatch)
    {T : Kind} (hfetching : backup.fetching T = true) (context : Nat → InitContext)
    : Inv dateFormatter localDataService db
        (closure { backup with fetching := Function.update backup.fetching T false } T
          (some (FirebaseDataService.getAllData dateFormatter context T
            (backup.remoteDataService.db.getDocuments T.getRemoteCollectionName))) none) := by
  have hremote : backup.remoteDataService.db = db := by rw [h.service]
  simp only [closure, Option.getD_some, hremote]
  generalize hdatas : FirebaseDataService.getAllData dateFormatter context T
    (db.getDocuments T.getRemoteCollectionName) = datas
  have hsource : ∀ U datas', Function.update backup.cloudData T (some datas) U = some datas' →
      ∃ context, datas' = FirebaseDataService.getAllData dateFormatter context U
        (db.getDocuments U.getRemoteCollectionName) := by
    intro U datas' hU
    by_cases hUT : U = T
    . subst hUT
      rw [Function.update_self] at hU
      cases hU
      exact ⟨context, hdatas.symm⟩
    . rw [Function.update_of_ne hUT] at hU
      exact h.cloudData U datas' hU
  have hanswered : ∀ U, Function.update backup.fetching T false U = true →
      Function.update backup.cloudData T (some datas) U = none := by
    intro U hU
    by_cases hUT : U = T
    . subst hUT
      simp at hU
    . rw [Function.update_of_ne hUT] at hU ⊢
      exact h.fetching U hU
  have hother : ∀ U, backup.fetching U = false → U ≠ T := by
    rintro U hU rfl
    rw [hfetching] at hU
    cases hU
  obtain ⟨errs, hlog, herrs⟩ := h.log
  by_cases hmissing : ∃ U, Function.update backup.cloudData T (some datas) U = none
  . left
    have hcheck : checkLoadingDataDone
          { backup with
            fetching := Function.update backup.fetching T false
            cloudData := Function.update backup.cloudData T (some datas)
          }
        = { backup with
            fetching := Function.update backup.fetching T false
            cloudData := Function.update backup.cloudData T (some datas)
          } := by
      obtain ⟨U, hU⟩ := hmissing
      unfold checkLoadingDataDone
      cases U <;> simp [hU]
    rw [hcheck]
    refine ⟨h.localData, h.service, h.finished, hsource, hanswered, hmissing, errs, hlog, ?_⟩
    intro hne
    obtain ⟨U, hU, hnone⟩ := herrs hne
    have hUT := hother U hU
    refine ⟨U, ?_, ?_⟩
    . simpa [Function.update_of_ne hUT] using hU
    . simpa [Function.update_of_ne hUT] using hnone
  . right
    simp only [not_exists, ← Ne.eq_def, Option.ne_none_iff_exists'] at hmissing
    choose cloudData hcloudData using hmissing
    choose contexts hcontexts using fun U => hsource U _ (hcloudData U)
    refine ⟨.fetched dateFormatter localDataService db hdb contexts, rfl, rfl, ?_⟩
    apply running_checkLoadingDataDone
    . exact h.localData
    . exact h.service
    . exact h.finished
    . intro U
      dsimp only
      rw [hcloudData U, hcontexts U]
      rfl
    . intro U
      dsimp only
      cases hU : Function.update backup.fetching T false U with
      | false => rfl
      | true =>
        have hnone := hanswered U hU
        rw [hcloudData U] at hnone
        cases hnone
    . -- an error would have left the data of a type missing
      cases errs with
      | nil => exact hlog
      | cons err errs =>
        obtain ⟨U, hU, hnone⟩ := herrs (by simp)
        have hUT := hother U hU
        have hsome := hcloudData U
        rw [Function.update_of_ne hUT, hnone] at hsome
        cases hsome

/-! ## The steps and the runs -/

theorem Waiting.not_answer (h : Waiting dateFormatter localDataService db backup) (i : Nat)
    (err : Option NSError) : backup.remoteDataService.answer i err = none := by
  simp [FirebaseDataService.answer, h.service]

theorem Running.step {content : BackupContent} (h : Running content backup) {e : Event}
    {backup' : Backup} (hstep : backup.step dateFormatter e = some backup')
    : Running content backup' := by
  cases e with
  | fetched T context => simp [Backup.step, h.fetching] at hstep
  | fetchFailed T err => simp [Backup.step, h.fetching] at hstep
  | answer i err =>
    obtain ⟨service, hanswer, rfl⟩ := Option.map_eq_some_iff.mp hstep
    exact h.answer hanswer
  | completion i =>
    simp only [Backup.step] at hstep
    split at hstep
    . next callback err hcallback =>
      cases hstep
      exact h.runCallback hcallback
    . cases hstep

theorem Inv.step (hdb : db.IdsMatch) (backup : Backup) (e : Event) (backup' : Backup)
    (h : Inv dateFormatter localDataService db backup)
    (hstep : (machine dateFormatter).step backup e = some backup')
    : Inv dateFormatter localDataService db backup' := by
  unfold machine at hstep
  cases h with
  | inr hrunning =>
    obtain ⟨content, hcontent, hlocal, hrunning⟩ := hrunning
    exact .inr ⟨content, hcontent, hlocal, hrunning.step hstep⟩
  | inl hwaiting =>
    cases e with
    | fetched T context =>
      simp only [Backup.step, getAllDataClosure_eq] at hstep
      split at hstep
      . next hfetching =>
        cases hstep
        exact hwaiting.fetched hdb hfetching context
      . cases hstep
    | fetchFailed T err =>
      simp only [Backup.step, getAllDataClosure_eq] at hstep
      split at hstep
      . next hfetching =>
        cases hstep
        exact .inl (hwaiting.fetchFailed hfetching err)
      . cases hstep
    | answer i err => simp [Backup.step, hwaiting.not_answer] at hstep
    | completion i => simp [Backup.step, hwaiting.service] at hstep

theorem backupData_inv {events : List Event} (hdb : db.IdsMatch)
    (hrun : (machine dateFormatter).run (backupData localDataService db) events = some backup)
    : Inv dateFormatter localDataService db backup :=
  Machine.invariant (Inv.step hdb) (.inl waiting_backupData) hrun

end Fetches

end Backup
