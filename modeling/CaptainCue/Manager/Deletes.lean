import CaptainCue.Manager.Convergence

/-!
This module contains which deletes the operations issue. As long as no operation is half done, an
object is deleted in the cloud only if it is not stored.
-/

namespace DataServiceManager

variable {typeOf : String → Kind}

theorem Shape.absent {manager : DataServiceManager} (h : Shape typeOf manager) {id : String}
    (hnone : manager.realm.object (typeOf id) id = none) (T : Kind)
    : manager.realm.object T id = none := by
  cases hobj : manager.realm.object T id with
  | none => rfl
  | some data =>
    rw [h.object T id data hobj] at hnone
    rw [hnone] at hobj
    cases hobj

def DeletesAbsent (manager manager' : DataServiceManager) : Prop :=
  ∃ calls, manager'.remoteDataService.issued = manager.remoteDataService.issued ++ calls
    ∧ ∀ call ∈ calls, call.1.data = none →
        ∀ T, manager'.realm.object T call.1.document = none

theorem DeletesAbsent.quiet {manager manager' : DataServiceManager}
    (h : manager'.remoteDataService.issued = manager.remoteDataService.issued)
    : DeletesAbsent manager manager' :=
  ⟨[], by simp [h], by simp⟩

theorem DeletesAbsent.trans {m₁ m₂ m₃ : DataServiceManager} (h : DeletesAbsent m₁ m₂)
    (h' : DeletesAbsent m₂ m₃)
    (habsent : ∀ T id, m₂.realm.object T id = none → m₃.realm.object T id = none)
    : DeletesAbsent m₁ m₃ := by
  obtain ⟨calls, hissued, hcalls⟩ := h
  obtain ⟨calls', hissued', hcalls'⟩ := h'
  refine ⟨calls ++ calls', by rw [hissued', hissued, List.append_assoc], ?_⟩
  intro call hcall hdata T
  cases List.mem_append.mp hcall with
  | inl hcall => exact habsent T _ (hcalls call hcall hdata T)
  | inr hcall => exact hcalls' call hcall hdata T

theorem DeletesAbsent.merge {manager : DataServiceManager} {target : Key → Option JSON}
    (hverdicts : manager.verdicts = []) (hsends : manager.Sends target)
    : ∃ calls, manager.checkAndMergeChangeInLocalDatabase.remoteDataService.issued
          = manager.remoteDataService.issued ++ calls
        ∧ ∀ call ∈ calls, call.2 ∈ manager.records ∧ call.1.document = call.2.objectID
          ∧ call.1.data = target (key call.2) := by
  rw [checkAndMergeChangeInLocalDatabase_eq]
  split
  . refine ⟨manager.outgoing, by rw [sendAll_remoteDataService hverdicts], ?_⟩
    intro call hcall
    obtain ⟨hrecord, hwrite⟩ := mem_outgoing.mp hcall
    rw [hsends call.2 hrecord] at hwrite
    have hwrite := Option.some.inj hwrite
    rw [← hwrite]
    exact ⟨hrecord, rfl, rfl⟩
  . exact ⟨[], by simp, by simp⟩

theorem Shape.absent_of_target {manager : DataServiceManager} (h : Shape typeOf manager)
    (other : Key → Option JSON) {record : OfflineStorageModel} (hrecord : record ∈ manager.records)
    (hnone : manager.target other (key record) = none) (T : Kind)
    : manager.realm.object T record.objectID = none := by
  apply h.absent
  unfold key at hnone
  rw [h.collection record hrecord, target_getRemoteCollectionName] at hnone
  exact Option.map_eq_none_iff.mp hnone

theorem DeletesAbsent.merge_tidy {manager : DataServiceManager} (h : Healthy typeOf manager)
    : DeletesAbsent manager manager.checkAndMergeChangeInLocalDatabase := by
  obtain ⟨calls, hissued, hcalls⟩ := DeletesAbsent.merge h.verdicts (h.sends fun _ => none)
  refine ⟨calls, hissued, ?_⟩
  intro call hcall hdata T
  obtain ⟨hrecord, hdocument, heq⟩ := hcalls call hcall
  rw [manager.checkAndMergeChangeInLocalDatabase_frame.realm, hdocument]
  exact h.toShape.absent_of_target (fun _ => none) hrecord (heq.symm.trans hdata) T

theorem DeletesAbsent.saveObject {manager : DataServiceManager} (h : Healthy typeOf manager)
    {data : DataServiceObject} (hdata : typeOf data.id = data.kind) {menthodType : MenthodType}
    (hmenthod : menthodType ≠ .delete)
    : DeletesAbsent manager (manager.saveObject data menthodType) := by
  have hafter := (h.saveObject (fun _ => none) hdata hmenthod).1
  rw [saveObject_eq_merge] at hafter ⊢
  have hframe := checkAndMergeChangeInLocalDatabase_frame
    ((manager.saved data).recordChange data menthodType)
  have hverdicts : ((manager.saved data).recordChange data menthodType).verdicts = [] := by
    rw [recordChange_verdicts, saved_verdicts h.verdicts]
    exact Verdict.after_nil _
  have hsends := hafter.toTidy.sends fun _ => none
  have hrecords := hframe.records
  unfold Sends at hsends
  rw [hrecords, hframe.realm] at hsends
  obtain ⟨calls, hissued, hcalls⟩ := DeletesAbsent.merge hverdicts hsends
  refine ⟨calls, hissued, ?_⟩
  intro call hcall hnone T
  obtain ⟨hrecord, hdocument, hvalue⟩ := hcalls call hcall
  rw [hdocument]
  rw [← hrecords] at hrecord
  exact hafter.toShape.absent_of_target (fun _ => none) hrecord (hvalue.symm.trans hnone) T

theorem DeletesAbsent.deleteSingle {manager : DataServiceManager} (h : Healthy typeOf manager)
    {data : DataServiceObject} (hdata : typeOf data.id = data.kind)
    : DeletesAbsent manager (manager.deleteSingle data) := by
  have hdeleted := deleting_takesEffect h.verdicts data
  have hverdicts : (manager.recordChange data .delete).verdicts = [] := by
    rw [recordChange_verdicts, h.verdicts]
    exact Verdict.after_nil _
  have hsends := recordChange_delete_sends (fun _ => none) h.toTidy hdata
    (fun record hrecord hid => (mem_replaced_of_verdicts h.verdicts).mpr ⟨hrecord, hid⟩)
  obtain ⟨calls, hissued, hcalls⟩ := DeletesAbsent.merge hverdicts hsends
  refine ⟨calls, ?_, ?_⟩
  . rw [deleteSingle_eq]
    exact hissued
  . intro call hcall hnone
    obtain ⟨hrecord, hdocument, hvalue⟩ := hcalls call hcall
    rw [hdocument]
    have hafter := (h.deleteSingle (fun _ => none) hdata).1
    rw [← deleteSingle_records] at hrecord
    apply hafter.toShape.absent_of_target (fun _ => none) hrecord
    rw [deleteSingle_target _ hdeleted]
    exact hvalue.symm.trans hnone

theorem DeletesAbsent.deleteAll {manager : DataServiceManager} (h : Healthy typeOf manager)
    {items : List DataServiceObject} (hitems : ∀ item ∈ items, typeOf item.id = item.kind)
    : DeletesAbsent manager (items.foldl DataServiceManager.deleteSingle manager) := by
  induction items generalizing manager with
  | nil => exact .quiet rfl
  | cons item items ih =>
    have hafter := (h.deleteSingle (fun _ => none) (hitems item List.mem_cons_self)).1
    apply (DeletesAbsent.deleteSingle h (hitems item List.mem_cons_self)).trans
    . apply ih hafter
      intro item' hitem'
      exact hitems item' (List.mem_cons_of_mem _ hitem')
    . intro T id hnone
      rw [List.foldl_cons, deleteAll_object hafter.verdicts]
      split
      . rfl
      . exact hnone

theorem step_deletesAbsent {manager manager' : DataServiceManager} {e : Event}
    (h : Healthy typeOf manager) (hstep : (machine typeOf).step manager e = some manager')
    : DeletesAbsent manager manager' := by
  cases h.toShape.stepped hstep with
  | save hdata hmenthod => exact .saveObject h hdata hmenthod
  | delete hitems => exact .deleteAll h hitems
  | idle => exact .quiet rfl
  | merge state => exact DeletesAbsent.merge_tidy (h.network state)
  | answer hpending db err => exact .quiet rfl
  | completion hcallbacks =>
    apply DeletesAbsent.quiet
    rw [completion_remoteDataService]

end DataServiceManager
