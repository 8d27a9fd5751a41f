import Mathlib.Algebra.Order.Field.Rat
import Mathlib.Tactic.Positivity
import Mathlib.Tactic.FieldSimp
import CaptainCue.Backup.Fetches

/-!
This module contains what the reports of a backup say about it: the progress counts the calls that
have succeeded, and full progress is only reported when the cloud is the encoding of the device.
-/

def BackupReport.progress? : BackupReport → Option ℚ
  | .progress value => some value
  | .error _ => none

namespace Backup

theorem reports_progress (totalTask k : Nat) (finished : List (BackupCallback × Option NSError))
    : (reports totalTask k finished).filterMap BackupReport.progress?
        = (List.range (succeeded finished)).map fun i => ((k + i + 1 : Nat) : ℚ) / totalTask := by
  induction finished generalizing k with
  | nil => rfl
  | cons call finished ih =>
    obtain ⟨callback, err⟩ := call
    cases err with
    | some err =>
      have hsucceeded : succeeded ((callback, some err) :: finished) = succeeded finished := by
        simp [succeeded]
      rw [hsucceeded]
      exact ih k
    | none =>
      have hsucceeded : succeeded ((callback, none) :: finished) = succeeded finished + 1 := by
        simp [succeeded]
      rw [hsucceeded, List.range_succ_eq_map, List.map_cons, List.map_map]
      simp only [reports, BackupReport.progress?, List.filterMap_cons, ih, Nat.add_zero]
      congr 1
      apply List.map_congr_left
      intro i _
      have harith : k + 1 + i + 1 = k + (i + 1) + 1 := by omega
      simp only [Function.comp, harith, Nat.succ_eq_add_one]

theorem error_not_mem_reports {totalTask k : Nat}
    {finished : List (BackupCallback × Option NSError)}
    (h : ∀ call ∈ finished, call.snd = none) (err : NSError)
    : .error err ∉ reports totalTask k finished := by
  induction finished generalizing k with
  | nil => simp [reports]
  | cons call finished ih =>
    obtain ⟨callback, err'⟩ := call
    have hnone : err' = none := h _ List.mem_cons_self
    subst hnone
    simp only [reports, List.mem_cons, reduceCtorEq, false_or]
    apply ih
    intro call hcall
    exact h call (List.mem_cons_of_mem _ hcall)

theorem count_progress (log : List BackupReport) (value : ℚ)
    : log.count (.progress value) = (log.filterMap BackupReport.progress?).count value := by
  induction log with
  | nil => rfl
  | cons report log ih =>
    cases report with
    | progress value' => simp [BackupReport.progress?, List.count_cons, ih]
    | error err =>
      rw [List.count_cons_of_ne (by simp), ih]
      rfl

variable {content : BackupContent} {backup : Backup}

theorem Running.length_calls (h : Running content backup)
    : backup.calls.length ≤ content.totalTask := by
  have hplanned (T : Kind) : (planned content backup.deleteCounter T).length
      ≤ (content.cloudData T).length + (content.localData T).length := by
    unfold planned BackupContent.deletes BackupContent.uploads
    split <;> simp
  have hreport := hplanned .report
  have hshot := hplanned .shot
  rw [h.calls_perm.length_eq, List.length_append]
  unfold BackupContent.totalTask
  omega

theorem succeeded_le (finished : List (BackupCallback × Option NSError))
    : succeeded finished ≤ finished.length :=
  List.countP_le_length

theorem Running.succeeded_le_totalTask (h : Running content backup)
    : succeeded backup.finished ≤ content.totalTask := by
  have hcalls := h.length_calls
  have hfinished := succeeded_le backup.finished
  simp only [Backup.calls, List.length_append, List.length_map] at hcalls
  omega

structure Complete (content : BackupContent) (backup : Backup) : Prop where
  pending : backup.remoteDataService.pending = []
  callbacks : backup.remoteDataService.callbacks = []
  finished : ∀ call ∈ backup.finished, call.snd = none
  deleted : ∀ T, ∀ item ∈ content.cloudData T, (.deleted item, none) ∈ backup.finished
  uploaded : ∀ T, ∀ item ∈ content.localData T, (.uploaded item, none) ∈ backup.finished

theorem mem_finished (hfinished : ∀ call ∈ backup.finished, call.snd = none)
    (hpending : backup.remoteDataService.pending = [])
    (hcallbacks : backup.remoteDataService.callbacks = []) {callback : BackupCallback}
    (hmem : callback ∈ backup.calls) : (callback, none) ∈ backup.finished := by
  unfold calls at hmem
  rw [hpending, hcallbacks] at hmem
  obtain ⟨⟨callback, err⟩, hcall, rfl⟩ := List.mem_map.mp hmem
  have hnone : err = none := hfinished _ hcall
  rw [← hnone]
  exact hcall

theorem Running.mem_calls_deleted (h : Running content backup) {T : Kind}
    {item : DataServiceObject} (hitem : item ∈ content.cloudData T)
    : .deleted item ∈ backup.calls := by
  apply List.count_pos_iff.mp
  rw [h.calls]
  apply List.count_pos_iff.mpr
  apply List.mem_append_left
  have hkind : item.kind = T := content.hcloudKind T item hitem
  rw [← hkind] at hitem
  exact List.mem_map.mpr ⟨item, hitem, rfl⟩

theorem Running.mem_calls_uploaded (h : Running content backup) {T : Kind}
    (htriggered : Triggered content backup.deleteCounter T) {item : DataServiceObject}
    (hitem : item ∈ content.localData T) : .uploaded item ∈ backup.calls := by
  have hkind : item.kind = T := content.hlocalKind T item hitem
  subst hkind
  apply List.count_pos_iff.mp
  rw [h.calls]
  apply List.count_pos_iff.mpr
  apply List.mem_append_right
  have htriggered' : Triggered content backup.deleteCounter
      (BackupCallback.uploaded item).item.kind := htriggered
  rw [if_pos htriggered']
  exact List.mem_map.mpr ⟨item, hitem, rfl⟩

theorem Running.complete (h : Running content backup)
    (hsucceeded : succeeded backup.finished = content.totalTask) : Complete content backup := by
  have hcalls := h.length_calls
  have hfinished := succeeded_le backup.finished
  have hlength : backup.calls.length = backup.remoteDataService.pending.length
      + backup.remoteDataService.callbacks.length + backup.finished.length := by
    simp [Backup.calls, Nat.add_assoc]
  have hpending : backup.remoteDataService.pending = [] := by
    apply List.length_eq_zero_iff.mp
    omega
  have hcallbacks : backup.remoteDataService.callbacks = [] := by
    apply List.length_eq_zero_iff.mp
    omega
  have hnone : ∀ call ∈ backup.finished, call.snd = none := by
    intro call hcall
    have hall : succeeded backup.finished = backup.finished.length := by omega
    exact Option.isNone_iff_eq_none.mp (List.countP_eq_length.mp hall call hcall)
  refine ⟨hpending, hcallbacks, hnone, ?_, ?_⟩
  . intro T item hitem
    exact mem_finished hnone hpending hcallbacks (h.mem_calls_deleted hitem)
  . intro T item hitem
    apply mem_finished hnone hpending hcallbacks
    apply h.mem_calls_uploaded _ hitem
    -- without the uploads of the type there were too few calls
    have hlen := h.calls_perm.length_eq
    unfold planned at hlen
    simp only [List.length_append, BackupContent.deletes, BackupContent.uploads,
      List.length_map] at hlen
    have hpos : 0 < (content.localData T).length := List.length_pos_of_mem hitem
    have hle (U : Kind) : (if Triggered content backup.deleteCounter U then
        (content.localData U).map BackupCallback.uploaded else []).length
          ≤ (content.localData U).length := by
      split <;> simp
    have hreport := hle .report
    have hshot := hle .shot
    unfold BackupContent.totalTask at hsucceeded hcalls
    by_contra hnot
    cases T with
    | report =>
      rw [if_neg hnot] at hlen
      simp only [List.length_nil] at hlen
      omega
    | shot =>
      rw [if_neg hnot] at hlen
      simp only [List.length_nil] at hlen
      omega

/--
Where all deletes and uploads of a type have been carried out, its collection is the encoding of the
objects of the device.
-/
theorem Running.document (h : Running content backup) {localDataService : RealmDataService}
    (hlocal : content.localData = localDataService.getAllDatas) {T : Kind}
    (hdeleted : ∀ item ∈ content.cloudData T, backup.Done (.deleted item))
    (huploaded : ∀ item ∈ content.localData T, backup.Done (.uploaded item)) (id : String)
    : backup.remoteDataService.db.document T.getRemoteCollectionName id
        = (localDataService.realm.object T id).map DataServiceObject.getJSONData := by
  cases hobject : localDataService.realm.object T id with
  | some item =>
    obtain ⟨rfl, rfl⟩ := Realm.kind_of_object hobject
    apply h.stored.uploaded
    apply huploaded
    rw [hlocal]
    exact RealmDataService.mem_getAllDatas.mpr hobject
  | none =>
    have hnot : ∀ item, backup.Done (.uploaded item) → item.kind = T → item.id ≠ id := by
      rintro item hitem rfl rfl
      obtain ⟨-, hmem⟩ := h.of_uploaded (mem_calls_of_done hitem)
      rw [hlocal, RealmDataService.mem_getAllDatas, hobject] at hmem
      cases hmem
    by_cases hdone : ∃ item, backup.Done (.deleted item) ∧ item.kind = T ∧ item.id = id
    . obtain ⟨item, hitem, rfl, rfl⟩ := hdone
      exact h.stored.deleted item hitem hnot
    . have hkept := h.stored.kept T id (by
        intro callback hcallback hkind hid
        cases callback with
        | deleted item => exact hdone ⟨item, hcallback, hkind, hid⟩
        | uploaded item => exact hnot item hcallback hkind hid)
      rw [hkept]
      by_contra hsome
      obtain ⟨item, hitem, hid⟩ := (content.hcloud T id).mp hsome
      exact hdone ⟨item, hdeleted item hitem, content.hcloudKind T item hitem, hid⟩

/-! ## Truthful reports -/

section Truthful

variable {dateFormatter : DateFormatter}

structure Truthful (localDataService : RealmDataService) (db : Firestore) (backup : Backup)
    : Prop where
  progress : ∃ k ≤ backup.totalTask, backup.log.filterMap BackupReport.progress?
    = 0 :: (List.range k).map fun i => ((i + 1 : Nat) : ℚ) / backup.totalTask
  le_one : ∀ value, .progress value ∈ backup.log → value ≤ 1
  once : backup.log.count (.progress 1) ≤ 1
  noError : .progress 1 ∈ backup.log → ∀ err, .error err ∉ backup.log
  deleted : .progress 1 ∈ backup.log → ∀ T id,
    db.document T.getRemoteCollectionName id ≠ none →
      ∃ item, item.kind = T ∧ item.id = id ∧ (.deleted item, none) ∈ backup.finished
  uploaded : .progress 1 ∈ backup.log → ∀ T id item,
    localDataService.realm.object T id = some item → (.uploaded item, none) ∈ backup.finished
  cloud : .progress 1 ∈ backup.log → ∀ T id,
    backup.remoteDataService.db.document T.getRemoteCollectionName id
      = (localDataService.realm.object T id).map DataServiceObject.getJSONData

theorem Waiting.truthful {localDataService : RealmDataService} {db : Firestore}
    (h : Waiting dateFormatter localDataService db backup)
    : Truthful localDataService db backup := by
  obtain ⟨errs, hlog, -⟩ := h.log
  have hvalues : backup.log.filterMap BackupReport.progress? = [0] := by
    rw [hlog, List.filterMap_cons]
    simp [BackupReport.progress?, List.filterMap_map, Function.comp_def]
  have hnot : .progress 1 ∉ backup.log := by
    intro hmem
    have hone : (1 : ℚ) ∈ backup.log.filterMap BackupReport.progress? :=
      List.mem_filterMap.mpr ⟨_, hmem, rfl⟩
    rw [hvalues] at hone
    simp at hone
  constructor
  . exact ⟨0, Nat.zero_le _, hvalues⟩
  . intro value hvalue
    have hzero : value ∈ backup.log.filterMap BackupReport.progress? :=
      List.mem_filterMap.mpr ⟨_, hvalue, rfl⟩
    rw [hvalues, List.mem_singleton] at hzero
    rw [hzero]
    exact zero_le_one
  . rw [List.count_eq_zero.mpr hnot]
    exact Nat.zero_le _
  . exact fun hmem => absurd hmem hnot
  . exact fun hmem => absurd hmem hnot
  . exact fun hmem => absurd hmem hnot
  . exact fun hmem => absurd hmem hnot

theorem Running.values (h : Running content backup)
    : backup.log.filterMap BackupReport.progress?
        = 0 :: (List.range (succeeded backup.finished)).map fun i =>
            ((i + 1 : Nat) : ℚ) / content.totalTask := by
  rw [h.tallied.log, List.filterMap_cons]
  simp only [BackupReport.progress?, reports_progress, Nat.zero_add]

theorem Running.mem_progress (h : Running content backup) {value : ℚ}
    (hmem : .progress value ∈ backup.log)
    : value = 0 ∨ ∃ i < succeeded backup.finished,
        value = ((i + 1 : Nat) : ℚ) / content.totalTask := by
  have hvalue : value ∈ backup.log.filterMap BackupReport.progress? :=
    List.mem_filterMap.mpr ⟨_, hmem, rfl⟩
  rw [h.values, List.mem_cons] at hvalue
  cases hvalue with
  | inl hzero => exact .inl hzero
  | inr hvalue =>
    obtain ⟨i, hi, hvalue⟩ := List.mem_map.mp hvalue
    exact .inr ⟨i, List.mem_range.mp hi, hvalue.symm⟩

theorem Running.succeeded_eq (h : Running content backup) (hmem : .progress 1 ∈ backup.log)
    : succeeded backup.finished = content.totalTask := by
  have hle := h.succeeded_le_totalTask
  cases h.mem_progress hmem with
  | inl hzero => simp at hzero
  | inr hvalue =>
    obtain ⟨i, hi, hvalue⟩ := hvalue
    have hne : (content.totalTask : ℚ) ≠ 0 := by
      intro hzero
      rw [hzero, div_zero] at hvalue
      simp at hvalue
    have heq : ((i + 1 : Nat) : ℚ) = content.totalTask := (div_eq_one_iff_eq hne).mp hvalue.symm
    have hi' : i + 1 = content.totalTask := by exact_mod_cast heq
    omega

theorem Running.truthful (h : Running content backup) {localDataService : RealmDataService}
    (hlocal : content.localData = localDataService.getAllDatas)
    : Truthful localDataService content.db backup := by
  have hle := h.succeeded_le_totalTask
  constructor
  . refine ⟨succeeded backup.finished, ?_, ?_⟩
    . rw [h.tallied.totalTask]
      exact hle
    . rw [h.tallied.totalTask]
      exact h.values
  . intro value hvalue
    cases h.mem_progress hvalue with
    | inl hzero =>
      rw [hzero]
      exact zero_le_one
    | inr hvalue =>
      obtain ⟨i, hi, rfl⟩ := hvalue
      apply div_le_one_of_le₀
      . exact_mod_cast (by omega : i + 1 ≤ content.totalTask)
      . positivity
  . rw [count_progress, h.values]
    by_cases hzero : succeeded backup.finished = 0
    . simp [hzero]
    . have hne : (content.totalTask : ℚ) ≠ 0 := by
        exact_mod_cast (by omega : content.totalTask ≠ 0)
      rw [List.count_cons_of_ne (by simp)]
      apply List.nodup_iff_count_le_one.mp
      apply List.Nodup.map _ List.nodup_range
      intro i j hij
      have hcast : ((i + 1 : Nat) : ℚ) = ((j + 1 : Nat) : ℚ) := (div_left_inj' hne).mp hij
      have hsucc : i + 1 = j + 1 := by exact_mod_cast hcast
      omega
  . intro hmem err
    have hcomplete := h.complete (h.succeeded_eq hmem)
    rw [h.tallied.log, List.mem_cons, not_or]
    exact ⟨by simp, error_not_mem_reports hcomplete.finished err⟩
  . intro hmem T id hsome
    have hcomplete := h.complete (h.succeeded_eq hmem)
    obtain ⟨item, hitem, hid⟩ := (content.hcloud T id).mp hsome
    exact ⟨item, content.hcloudKind T item hitem, hid, hcomplete.deleted T item hitem⟩
  . intro hmem T id item hobject
    have hcomplete := h.complete (h.succeeded_eq hmem)
    obtain ⟨rfl, rfl⟩ := Realm.kind_of_object hobject
    apply hcomplete.uploaded item.kind
    rw [hlocal]
    exact RealmDataService.mem_getAllDatas.mpr hobject
  . intro hmem T
    have hcomplete := h.complete (h.succeeded_eq hmem)
    apply h.document hlocal
    . intro item hitem
      exact List.mem_append_right _ (hcomplete.deleted T item hitem)
    . intro item hitem
      exact List.mem_append_right _ (hcomplete.uploaded T item hitem)

theorem backupData_truthful {localDataService : RealmDataService} {db : Firestore}
    {events : List Event} (hdb : db.IdsMatch)
    (hrun : (machine dateFormatter).run (backupData localDataService db) events = some backup)
    : Truthful localDataService db backup := by
  cases backupData_inv hdb hrun with
  | inl hwaiting => exact hwaiting.truthful
  | inr hrunning =>
    obtain ⟨content, rfl, hlocal, hrunning⟩ := hrunning
    exact hrunning.truthful hlocal

def sampleEvents : List Event :=
  [.fetched .report sampleContext, .fetched .shot sampleContext, .answer 0 none, .completion 0,
    .answer 0 none, .completion 0]

theorem backupData_truthful_one_report
    : ∃ final, (machine sampleFormatter).run (backupData sampleDevice sampleCloud) sampleEvents
          = some final
        ∧ final.log.length = 3 ∧ Truthful sampleDevice sampleCloud final := by
  have hrun : ∃ final, (machine sampleFormatter).run (backupData sampleDevice sampleCloud)
        sampleEvents = some final
      ∧ final.log.length = 3 := ⟨_, rfl, rfl⟩
  obtain ⟨final, hrun, hlog⟩ := hrun
  exact ⟨final, hrun, hlog, backupData_truthful sampleCloud_idsMatch hrun⟩

end Truthful

end Backup
