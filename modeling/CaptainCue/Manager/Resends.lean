import CaptainCue.Manager.Cascade
import CaptainCue.Manager.Representation
import Mathlib.Tactic.Ring

/-!
This module contains how often the outbox is sent. A record carries no mark that it is in flight, so
each merge sends it again until the completion that removes it, and a cascade merges once for each
object it deletes.
-/

/-! ### Lists that are repeated while they grow -/

def resent {α : Type} (done : List α) : List α → List α
  | [] => []
  | item :: items => (item :: done) ++ resent (item :: done) items

theorem length_resent {α : Type} (done items : List α)
    : 2 * (resent done items).length = items.length * (2 * done.length + items.length + 1) := by
  induction items generalizing done with
  | nil => simp [resent]
  | cons item items ih =>
    unfold resent
    rw [List.length_append, Nat.mul_add, ih]
    simp only [List.length_cons]
    ring

theorem mem_resent {α : Type} {done items : List α} {a : α} (h : a ∈ resent done items)
    : a ∈ done ∨ a ∈ items := by
  induction items generalizing done with
  | nil => simp [resent] at h
  | cons item items ih =>
    unfold resent at h
    cases List.mem_append.mp h with
    | inl h =>
      cases List.mem_cons.mp h with
      | inl h => simp [h]
      | inr h => exact .inl h
    | inr h =>
      cases ih h with
      | inl h =>
        cases List.mem_cons.mp h with
        | inl h => simp [h]
        | inr h => exact .inl h
      | inr h => exact .inr (List.mem_cons_of_mem _ h)

theorem count_resent_done {α : Type} [DecidableEq α] {done items : List α} {a : α}
    (h : a ∉ items) : (resent done items).count a = items.length * done.count a := by
  induction items generalizing done with
  | nil => simp [resent]
  | cons item items ih =>
    have hne : item ≠ a := by
      intro heq
      apply h
      rw [heq]
      exact List.mem_cons_self
    unfold resent
    rw [List.count_append, ih (fun hmem => h (List.mem_cons_of_mem _ hmem)),
      List.count_cons_of_ne hne, List.length_cons]
    ring

theorem count_resent {α : Type} [DecidableEq α] {done items : List α}
    (h : (items ++ done).Nodup) {j : Nat} (hj : j < items.length)
    : (resent done items).count items[j] = items.length - j := by
  induction items generalizing done j with
  | nil => simp at hj
  | cons item items ih =>
    obtain ⟨hitem, hnodup⟩ := List.nodup_cons.mp h
    unfold resent
    cases j with
    | zero =>
      have hdone : item ∉ done := fun hmem => hitem (List.mem_append_right _ hmem)
      have hitems : item ∉ items := fun hmem => hitem (List.mem_append_left _ hmem)
      rw [List.getElem_cons_zero, List.count_append, count_resent_done hitems,
        List.count_cons_self, List.count_eq_zero.mpr hdone, List.length_cons]
      omega
    | succ j =>
      have hj' : j < items.length := by simpa using hj
      have hmem : items[j] ∈ items := List.getElem_mem hj'
      have hfirst : items[j] ∉ item :: done := by
        intro h
        cases List.mem_cons.mp h with
        | inl h =>
          apply hitem
          rw [← h]
          exact List.mem_append_left _ hmem
        | inr h => exact (List.nodup_append.mp hnodup).2.2 _ hmem _ h rfl
      have hnodup' : (items ++ item :: done).Nodup := by
        rw [List.nodup_middle]
        exact h
      rw [List.getElem_cons_succ, List.count_append, List.count_eq_zero.mpr hfirst,
        ih hnodup' hj', List.length_cons]
      omega

namespace DataServiceManager

variable {typeOf : String → Kind}

/-! ### No record comes back -/

def PresentOrNew (manager : DataServiceManager) (record : OfflineStorageModel) : Prop :=
  record ∈ manager.records ∨ ∃ n, manager.uuids ≤ n ∧ record.id = uuidString n

structure Later (manager manager' : DataServiceManager) : Prop where
  issued : ∃ calls, manager'.remoteDataService.issued = manager.remoteDataService.issued ++ calls
    ∧ ∀ call ∈ calls, manager.PresentOrNew call.2
  records : ∀ record ∈ manager'.records, manager.PresentOrNew record
  uuids : manager.uuids ≤ manager'.uuids

theorem Later.presentOrNew {manager manager' : DataServiceManager} (h : Later manager manager')
    {record : OfflineStorageModel} (hrecord : manager'.PresentOrNew record)
    : manager.PresentOrNew record := by
  cases hrecord with
  | inl hmem => exact h.records record hmem
  | inr hnew =>
    obtain ⟨n, hn, hid⟩ := hnew
    exact .inr ⟨n, h.uuids.trans hn, hid⟩

theorem Later.trans {m₁ m₂ m₃ : DataServiceManager} (h : Later m₁ m₂) (h' : Later m₂ m₃)
    : Later m₁ m₃ where
  issued := by
    obtain ⟨calls, hissued, hcalls⟩ := h.issued
    obtain ⟨calls', hissued', hcalls'⟩ := h'.issued
    refine ⟨calls ++ calls', by rw [hissued', hissued, List.append_assoc], ?_⟩
    intro call hcall
    cases List.mem_append.mp hcall with
    | inl hcall => exact hcalls call hcall
    | inr hcall => exact h.presentOrNew (hcalls' call hcall)
  records := by
    intro record hrecord
    exact h.presentOrNew (h'.records record hrecord)
  uuids := h.uuids.trans h'.uuids

theorem Later.quiet {manager manager' : DataServiceManager}
    (hissued : manager'.remoteDataService.issued = manager.remoteDataService.issued)
    (hrecords : ∀ record ∈ manager'.records, record ∈ manager.records)
    (huuids : manager'.uuids = manager.uuids) : Later manager manager' where
  issued := ⟨[], by simp [hissued], by simp⟩
  records := by
    intro record hrecord
    exact .inl (hrecords record hrecord)
  uuids := by rw [huuids]

theorem Later.refl (manager : DataServiceManager) : Later manager manager :=
  .quiet rfl (fun _ h => h) rfl

theorem Later.merge {manager : DataServiceManager} (hverdicts : manager.verdicts = [])
    : Later manager manager.checkAndMergeChangeInLocalDatabase := by
  have hframe := manager.checkAndMergeChangeInLocalDatabase_frame
  refine ⟨?_, ?_, ?_⟩
  . rw [checkAndMergeChangeInLocalDatabase_eq]
    split
    . refine ⟨manager.outgoing, by rw [sendAll_remoteDataService hverdicts], ?_⟩
      intro call hcall
      exact .inl (mem_outgoing.mp hcall).1
    . exact ⟨[], by simp, by simp⟩
  . intro record hrecord
    rw [hframe.records] at hrecord
    exact .inl hrecord
  . rw [hframe.uuids]

theorem Later.recordChange {manager : DataServiceManager} (h : Shape typeOf manager)
    (data : DataServiceObject) (menthodType : MenthodType)
    : Later manager (manager.recordChange data menthodType) where
  issued := ⟨[], by rw [List.append_nil]; rfl, by simp⟩
  records := by
    intro record hrecord
    cases (mem_recordChange h.new).mp hrecord with
    | inl hr => exact .inl hr.1
    | inr hr =>
      right
      refine ⟨manager.uuids, Nat.le_refl _, ?_⟩
      rw [hr.2]
      rfl
  uuids := Nat.le_succ _

theorem Later.changeInLocalDatabase {manager : DataServiceManager} (h : Shape typeOf manager)
    (hverdicts : manager.verdicts = []) (data : DataServiceObject) (menthodType : MenthodType)
    : Later manager (manager.changeInLocalDatabase data menthodType) := by
  rw [changeInLocalDatabase_eq]
  apply (Later.recordChange h data menthodType).trans
  apply Later.merge
  rw [recordChange_verdicts, hverdicts]
  exact Verdict.after_nil _

theorem Later.saveObject {manager : DataServiceManager} (h : Healthy typeOf manager)
    {data : DataServiceObject} (hdata : typeOf data.id = data.kind) (menthodType : MenthodType)
    : Later manager (manager.saveObject data menthodType) := by
  have hsaved : Later manager (manager.saved data) := by
    refine Later.quiet rfl ?_ rfl
    intro record hrecord
    rw [saved_records] at hrecord
    exact hrecord
  exact hsaved.trans (Later.changeInLocalDatabase (h.toShape.saved hdata)
    (saved_verdicts h.verdicts data) data menthodType)

theorem Later.deleteSingle {manager : DataServiceManager} (h : Healthy typeOf manager)
    (data : DataServiceObject) : Later manager (manager.deleteSingle data) := by
  apply (Later.changeInLocalDatabase h.toShape h.verdicts data .delete).trans
  refine Later.quiet rfl ?_ rfl
  intro record hrecord
  unfold DataServiceManager.deleteSingle at hrecord
  rw [onLocal_deleteObject_records] at hrecord
  exact hrecord

theorem Later.deleteAll {manager : DataServiceManager} (h : Healthy typeOf manager)
    {items : List DataServiceObject} (hitems : ∀ item ∈ items, typeOf item.id = item.kind)
    : Later manager (items.foldl DataServiceManager.deleteSingle manager) := by
  induction items generalizing manager with
  | nil => exact .refl manager
  | cons item items ih =>
    apply (Later.deleteSingle h item).trans
    apply ih (h.deleteSingle (fun _ => none) (hitems item List.mem_cons_self)).1
    intro item' hitem'
    exact hitems item' (List.mem_cons_of_mem _ hitem')

theorem Later.step {manager manager' : DataServiceManager} {e : Event}
    (h : Healthy typeOf manager) (hstep : (machine typeOf).step manager e = some manager')
    : Later manager manager' := by
  cases h.toShape.stepped hstep with
  | save hdata hmenthod => exact .saveObject h hdata _
  | delete hitems => exact .deleteAll h hitems
  | idle => exact .refl manager
  | merge state =>
    have hnetwork : Later manager { manager with network := state } :=
      .quiet rfl (fun _ hrecord => hrecord) rfl
    exact hnetwork.trans (.merge h.verdicts)
  | answer hpending db err => exact .quiet rfl (fun _ hrecord => hrecord) rfl
  | completion hcallbacks =>
    apply Later.quiet
    . rw [completion_remoteDataService]
    . intro record hrecord
      exact (mem_completion_records.mp hrecord).1
    . rw [completion_uuids]

theorem Later.run {start final : DataServiceManager} {events : List Event}
    (hstart : Healthy typeOf start) (hrun : (machine typeOf).run start events = some final)
    : Later start final := by
  have hinv : Healthy typeOf final ∧ Later start final := by
    apply Machine.invariant _ ⟨hstart, .refl start⟩ hrun
    intro s e s' hs hstep
    exact ⟨(step_simulates (fun _ => none) s e s' hs.1 hstep).1, hs.2.trans (.step hs.1 hstep)⟩
  exact hinv.2

theorem Later.not_issued {manager manager' : DataServiceManager} (h : Later manager manager')
    {item : OfflineStorageModel} (hgone : item ∉ manager.records)
    (hold : ∃ n, n < manager.uuids ∧ item.id = uuidString n)
    : ∃ calls, manager'.remoteDataService.issued = manager.remoteDataService.issued ++ calls
        ∧ ∀ call ∈ calls, call.2 ≠ item := by
  obtain ⟨calls, hissued, hcalls⟩ := h.issued
  refine ⟨calls, hissued, ?_⟩
  rintro call hcall rfl
  cases hcalls call hcall with
  | inl hmem => exact hgone hmem
  | inr hnew =>
    obtain ⟨n, hn, hid⟩ := hnew
    obtain ⟨m, hm, hid'⟩ := hold
    have := uuidString_inj.mp (hid.symm.trans hid')
    omega

theorem acknowledged_not_issued {mid manager final : DataServiceManager} {events : List Event}
    (h : Represents typeOf mid) {i : Nat} {item : OfflineStorageModel}
    (hcallback : mid.remoteDataService.callbacks[i]? = some (item, none))
    (hstep : (machine typeOf).step mid (.completion i) = some manager)
    (hrun : (machine typeOf).run manager events = some final)
    : ∃ calls, final.remoteDataService.issued = mid.remoteDataService.issued ++ calls
        ∧ ∀ call ∈ calls, call.2 ≠ item := by
  have hmanager := Represents.step mid (.completion i) manager h hstep
  have hissued : manager.remoteDataService.issued = mid.remoteDataService.issued := by
    obtain ⟨item', err, l, r, -, rfl⟩ := deliver_eq_some hstep
    rw [completion_remoteDataService]
  rw [← hissued]
  apply (Later.run hmanager.toHealthy hrun).not_issued
  . intro hmem
    exact ((h.deliver hcallback hstep item).mp hmem).2 rfl rfl
  . have huuids : mid.uuids = manager.uuids := by
      obtain ⟨item', err, l, r, -, rfl⟩ := deliver_eq_some hstep
      rw [completion_uuids]
    rw [← huuids]
    exact h.uuid item.id
      ⟨item, .inr (.inr ⟨(item, none), List.mem_of_getElem? hcallback, rfl⟩), rfl⟩

/-! ### The cascade -/

def deletion (data : DataServiceObject) : RemoteWrite :=
  ⟨data.kind.getRemoteCollectionName, data.id, none⟩

theorem recordChange_perm {manager : DataServiceManager} (h : Healthy typeOf manager)
    {data : DataServiceObject} (menthodType : MenthodType)
    (hnew : ∀ record ∈ manager.records, record.objectID ≠ data.id)
    : (manager.recordChange data menthodType).records.Perm
        (manager.newRecord data menthodType :: manager.records) := by
  apply (List.perm_ext_iff_of_nodup _ _).mpr
  . intro record
    rw [mem_recordChange_of_verdicts h.new h.verdicts, List.mem_cons]
    constructor
    . rintro (hr | hr)
      . exact .inr hr.1
      . exact .inl hr
    . rintro (hr | hr)
      . exact .inr hr
      . exact .inl ⟨hr, hnew record hr⟩
  . exact Table.nodup_rows _
  . rw [List.nodup_cons]
    refine ⟨?_, Table.nodup_rows _⟩
    intro hmem
    exact hnew _ hmem rfl

structure Deleted (typeOf : String → Kind) (manager : DataServiceManager)
    (done : List DataServiceObject) : Prop extends Healthy typeOf manager where
  -- The state of the outbox while a cascade from an empty one goes on: a record for each object of
  -- `done`, none of which is stored.
  network : manager.network = .Available
  records : (manager.records.map key).Perm (done.map objectKey)
  absent : ∀ data ∈ done, manager.realm.object data.kind data.id = none

theorem Deleted.objectID_ne {manager : DataServiceManager} {done : List DataServiceObject}
    (h : Deleted typeOf manager done) {data : DataServiceObject}
    (hnew : ∀ d ∈ done, d.id ≠ data.id) : ∀ record ∈ manager.records, record.objectID ≠ data.id := by
  intro record hrecord heq
  have hmem := (h.records.mem_iff).mp (List.mem_map_of_mem hrecord)
  obtain ⟨d, hd, hkey⟩ := List.mem_map.mp hmem
  exact hnew d hd ((congrArg Prod.snd hkey).trans heq)

theorem deleteSingle_issued (manager : DataServiceManager) (data : DataServiceObject)
    : (manager.deleteSingle data).remoteDataService.issued
        = (manager.deleting data).remoteDataService.issued := by
  rw [deleteSingle_eq]
  rfl

theorem Deleted.recordChange_keys {manager : DataServiceManager} {done : List DataServiceObject}
    (h : Deleted typeOf manager done) {data : DataServiceObject}
    (hnew : ∀ d ∈ done, d.id ≠ data.id)
    : ((manager.recordChange data .delete).records.map key).Perm ((data :: done).map objectKey) := by
  have hperm := (recordChange_perm h.toHealthy .delete (h.objectID_ne hnew)).map key
  rw [List.map_cons] at hperm ⊢
  exact hperm.trans (h.records.cons _)

theorem Deleted.deleteSingle {manager : DataServiceManager} {done : List DataServiceObject}
    (h : Deleted typeOf manager done) {data : DataServiceObject}
    (hdata : typeOf data.id = data.kind) (hnew : ∀ d ∈ done, d.id ≠ data.id)
    : Deleted typeOf (manager.deleteSingle data) (data :: done) := by
  refine ⟨(h.toHealthy.deleteSingle (fun _ => none) hdata).1, ?_, ?_, ?_⟩
  . rw [deleteSingle_eq]
    exact (checkAndMergeChangeInLocalDatabase_frame _).network.trans h.network
  . rw [deleteSingle_records]
    exact h.recordChange_keys hnew
  . intro d hd
    rw [deleteSingle_object (deleting_takesEffect h.verdicts data)]
    split
    . rfl
    . next hne =>
      cases List.mem_cons.mp hd with
      | inl heq =>
        rw [heq] at hne
        exact absurd ⟨rfl, rfl⟩ hne
      | inr hmem => exact h.absent d hmem

theorem Deleted.deleteSingle_calls {manager : DataServiceManager} {done : List DataServiceObject}
    (h : Deleted typeOf manager done) {data : DataServiceObject}
    (hdata : typeOf data.id = data.kind) (hnew : ∀ d ∈ done, d.id ≠ data.id)
    : ∃ calls, (manager.deleteSingle data).remoteDataService.issued
          = manager.remoteDataService.issued ++ calls
        ∧ (calls.map Prod.fst).Perm ((data :: done).map deletion) := by
  have hverdicts : (manager.recordChange data .delete).verdicts = [] := by
    rw [recordChange_verdicts, h.verdicts]
    exact Verdict.after_nil _
  have hkeys := h.recordChange_keys hnew
  have hsends := recordChange_delete_sends (fun _ => none) h.toTidy hdata
    (fun record hrecord hid => (mem_replaced_of_verdicts h.verdicts).mpr ⟨hrecord, hid⟩)
  have hissued := DataServiceManager.merge_issued hverdicts hsends h.network
  refine ⟨_, (deleteSingle_issued manager data).trans hissued, ?_⟩
  -- each record of the outbox is about an object that is gone, or about `data`
  have hnone : ∀ record ∈ (manager.recordChange data .delete).records,
      Function.update (manager.target fun _ => none) (objectKey data) none (key record) = none := by
    intro record hrecord
    have hmem := (hkeys.mem_iff).mp (List.mem_map_of_mem hrecord)
    obtain ⟨d, hd, hkey⟩ := List.mem_map.mp hmem
    rw [← hkey]
    cases List.mem_cons.mp hd with
    | inl heq => rw [heq, Function.update_self]
    | inr hd =>
      by_cases heq : objectKey d = objectKey data
      . rw [heq, Function.update_self]
      . rw [Function.update_of_ne heq]
        unfold objectKey
        rw [target_getRemoteCollectionName, h.absent d hd]
        rfl
  have hwrites : ((manager.recordChange data .delete).localDataService.getAllRecords.map
        fun record => (⟨record.collectionName, record.objectID,
          Function.update (manager.target fun _ => none) (objectKey data) none (key record)⟩,
          record)).map (Prod.fst : RemoteWrite × OfflineStorageModel → RemoteWrite)
      = ((manager.recordChange data .delete).localDataService.getAllRecords.map key).map
          fun k : Key => (⟨k.1, k.2, none⟩ : RemoteWrite) := by
    rw [List.map_map, List.map_map]
    apply List.map_congr_left
    intro record hrecord
    have := hnone record (RealmDataService.mem_getAllRecords.mp hrecord)
    simp only [Function.comp_apply, this]
    rfl
  rw [hwrites]
  have hlist : (manager.recordChange data .delete).localDataService.getAllRecords.Perm
      (manager.recordChange data .delete).records := Table.list_perm _ _
  have hdeletions : (data :: done).map deletion
      = ((data :: done).map objectKey).map fun k : Key => (⟨k.1, k.2, none⟩ : RemoteWrite) := by
    rw [List.map_map]
    rfl
  rw [hdeletions]
  exact ((hlist.map key).trans hkeys).map _

theorem Deleted.deleteAll {manager : DataServiceManager} {done items : List DataServiceObject}
    (h : Deleted typeOf manager done) (hitems : ∀ item ∈ items, typeOf item.id = item.kind)
    (hnodup : ((items ++ done).map DataServiceObject.id).Nodup)
    : ∃ calls, (items.foldl DataServiceManager.deleteSingle manager).remoteDataService.issued
          = manager.remoteDataService.issued ++ calls
        ∧ (calls.map Prod.fst).Perm (resent (done.map deletion) (items.map deletion)) := by
  induction items generalizing manager done with
  | nil => exact ⟨[], by simp, by simp [resent]⟩
  | cons item items ih =>
    rw [List.cons_append, List.map_cons, List.nodup_cons] at hnodup
    have hnew : ∀ d ∈ done, d.id ≠ item.id := by
      intro d hd heq
      apply hnodup.1
      rw [← heq]
      exact List.mem_map_of_mem (List.mem_append_right _ hd)
    have hitem := hitems item List.mem_cons_self
    have h' := h.deleteSingle hitem hnew
    obtain ⟨calls, hissued, hcalls⟩ := h.deleteSingle_calls hitem hnew
    have hnodup' : ((items ++ item :: done).map DataServiceObject.id).Nodup := by
      rw [List.map_append, List.map_cons, List.nodup_middle, ← List.map_append, List.nodup_cons]
      exact hnodup
    obtain ⟨calls', hissued', hcalls'⟩ :=
      ih h' (fun item' hitem' => hitems item' (List.mem_cons_of_mem _ hitem')) hnodup'
    refine ⟨calls ++ calls', ?_, ?_⟩
    . rw [List.foldl_cons, hissued', hissued, List.append_assoc]
    . rw [List.map_append]
      exact hcalls.append hcalls'

theorem Shape.fresh {manager : DataServiceManager} (h : Shape typeOf manager) : Fresh manager := by
  intro record hrecord n hn heq
  obtain ⟨m, hm, hid⟩ := h.uuid record.id ⟨record, .inl hrecord, rfl⟩
  have : m = n := uuidString_inj.mp (hid.symm.trans heq)
  omega

theorem Shape.disjoint {manager : DataServiceManager} (h : Shape typeOf manager)
    : Disjoint manager.realm := by
  intro id
  by_contra hboth
  obtain ⟨hreport, hshot⟩ := not_or.mp hboth
  obtain ⟨report, hreport⟩ := Option.ne_none_iff_exists'.mp hreport
  obtain ⟨shot, hshot⟩ := Option.ne_none_iff_exists'.mp hshot
  cases (h.object .report id report hreport).symm.trans (h.object .shot id shot hshot)

theorem deleteObject_issued {manager : DataServiceManager} (h : Healthy typeOf manager)
    (hempty : manager.records = []) (hnetwork : manager.network = .Available)
    {report : ReportModel} (hstored : manager.realm.object .report report.id = some (.report report))
    : ∃ calls, (manager.deleteObject (.report report)).remoteDataService.issued
          = manager.remoteDataService.issued ++ calls
        ∧ (calls.map Prod.fst).Perm
            (resent [] ((manager.cascade (.report report)).map deletion)) := by
  rw [deleteObject_eq]
  have hdeleted : Deleted typeOf manager [] :=
    ⟨h, hnetwork, by simp [hempty], by simp⟩
  apply hdeleted.deleteAll
  . have hdata : typeOf (DataServiceObject.report report).id = (DataServiceObject.report report).kind :=
      h.object _ _ _ hstored
    intro item hitem
    exact typeOf_of_mem_cascade h.toShape hdata hitem
  . rw [List.append_nil]
    exact cascade_nodup_ids h.disjoint hstored

theorem nodup_map_deletion {items : List DataServiceObject}
    (h : (items.map DataServiceObject.id).Nodup) : (items.map deletion).Nodup := by
  apply List.Nodup.of_map RemoteWrite.document
  rw [List.map_map]
  exact h

theorem length_cascade (manager : DataServiceManager) (report : ReportModel)
    : (manager.cascade (.report report)).length
        = (manager.localDataService.getShotData report.id).length + 1 := by
  simp [cascade]

theorem deleteObject_count {manager : DataServiceManager} (h : Healthy typeOf manager)
    (hempty : manager.records = []) (hnetwork : manager.network = .Available)
    {report : ReportModel} (hstored : manager.realm.object .report report.id = some (.report report))
    {n : Nat} (hn : (manager.localDataService.getShotData report.id).length = n)
    : ∃ calls, (manager.deleteObject (.report report)).remoteDataService.issued
          = manager.remoteDataService.issued ++ calls
        ∧ calls.length = (n + 1) * (n + 2) / 2
        ∧ (∀ call ∈ calls, ∃ item ∈ manager.cascade (.report report), call.1 = deletion item)
        ∧ ∀ (j : Nat) (item : DataServiceObject),
            (manager.cascade (.report report))[j]? = some item →
              (calls.map Prod.fst).count (deletion item) = n + 1 - j := by
  obtain ⟨calls, hissued, hperm⟩ := deleteObject_issued h hempty hnetwork hstored
  have hlength : ((manager.cascade (.report report)).map deletion).length = n + 1 := by
    rw [List.length_map, length_cascade, hn]
  refine ⟨calls, hissued, ?_, ?_, ?_⟩
  . have hcalls := hperm.length_eq
    have htwice := length_resent [] ((manager.cascade (.report report)).map deletion)
    rw [hlength, ← hcalls, List.length_map, List.length_nil] at htwice
    have hproduct : (n + 1) * (n + 2) = 2 * calls.length := by
      rw [htwice]
      ring
    rw [hproduct]
    omega
  . intro call hcall
    have hmem := hperm.mem_iff.mp (List.mem_map_of_mem hcall)
    cases mem_resent hmem with
    | inl hmem => simp at hmem
    | inr hmem =>
      obtain ⟨item, hitem, heq⟩ := List.mem_map.mp hmem
      exact ⟨item, hitem, heq.symm⟩
  . intro j item hitem
    obtain ⟨hj, hget⟩ := List.getElem?_eq_some_iff.mp hitem
    have hj' : j < ((manager.cascade (.report report)).map deletion).length := by simpa using hj
    have hnodup : ((manager.cascade (.report report)).map deletion ++ []).Nodup := by
      rw [List.append_nil]
      exact nodup_map_deletion (cascade_nodup_ids h.disjoint hstored)
    have hcount := count_resent hnodup hj'
    rw [List.getElem_map, hget, hlength] at hcount
    rw [hperm.count_eq]
    exact hcount

/-! ### What is issued in a run -/

def EachSent (typeOf : String → Kind) (manager : DataServiceManager)
    (calls : List (RemoteWrite × OfflineStorageModel)) : Prop :=
  -- With the network available, one write for each record of the outbox, of the document of its
  -- object as it is. Without it, none.
  calls.Perm <|
    if manager.network = .Available then
      manager.records.map fun record =>
        (⟨record.collectionName, record.objectID, manager.current typeOf record.objectID⟩, record)
    else
      []

def sending (manager : DataServiceManager) : Event → List DataServiceManager
  -- The states the event leads to by a merge, in their order. A cascade merges once for each object.
  | .addObject data => [manager.addObject data]
  | .updateObject data => [manager.updateObject data]
  | .deleteObject data =>
    (manager.cascade data).inits.tail.map fun items => items.foldl deleteSingle manager
  | .checkAndMerge => [manager.checkAndMergeChangeInLocalDatabase]
  | .network state =>
    if manager.network = state then [] else [manager.changeInternetConnection state]
  | .applied | .rejected _ | .completion _ => []

theorem merge_sent_exactly {manager after : DataServiceManager} (h : Shape typeOf after)
    (hverdicts : manager.verdicts = []) (hsends : manager.Sends (after.target fun _ => none))
    (hrecords : after.records = manager.records) (hnetwork : after.network = manager.network)
    : ∃ calls, EachSent typeOf after calls
        ∧ manager.checkAndMergeChangeInLocalDatabase.remoteDataService.issued
          = manager.remoteDataService.issued ++ calls := by
  by_cases honline : manager.network = .Available
  . refine ⟨_, ?_, DataServiceManager.merge_issued hverdicts hsends honline⟩
    unfold EachSent
    rw [if_pos (hnetwork.trans honline), hrecords]
    have hlist : manager.localDataService.getAllRecords.Perm manager.records := Table.list_perm _ _
    refine List.Perm.trans (List.Perm.of_eq ?_) (hlist.map _)
    apply List.map_congr_left
    intro record hrecord
    have hmem : record ∈ after.records := by
      rw [hrecords]
      exact RealmDataService.mem_getAllRecords.mp hrecord
    rw [h.target_key _ hmem]
  . refine ⟨[], ?_, ?_⟩
    . unfold EachSent
      rw [if_neg (fun heq => honline (hnetwork.symm.trans heq))]
    . rw [checkAndMergeChangeInLocalDatabase_eq, if_neg honline, List.append_nil]

theorem merge_sends {manager : DataServiceManager} (h : Healthy typeOf manager)
    : ∃ calls, EachSent typeOf manager.checkAndMergeChangeInLocalDatabase calls
        ∧ manager.checkAndMergeChangeInLocalDatabase.remoteDataService.issued
          = manager.remoteDataService.issued ++ calls := by
  have hframe := manager.checkAndMergeChangeInLocalDatabase_frame
  have hshape : Shape typeOf manager.checkAndMergeChangeInLocalDatabase :=
    h.toShape.of_used hframe.realm hframe.uuids fun _ => checkAndMergeChangeInLocalDatabase_used
  have hsends := h.sends fun _ => none
  rw [← target_congr _ hframe.realm] at hsends
  exact merge_sent_exactly hshape h.verdicts hsends hframe.records hframe.network

theorem saveObject_sends {manager : DataServiceManager} (h : Healthy typeOf manager)
    {data : DataServiceObject} (hdata : typeOf data.id = data.kind) {menthodType : MenthodType}
    (hmenthod : menthodType ≠ .delete)
    : ∃ calls, EachSent typeOf (manager.saveObject data menthodType) calls
        ∧ (manager.saveObject data menthodType).remoteDataService.issued
          = manager.remoteDataService.issued ++ calls := by
  have hafter := (h.saveObject (fun _ => none) hdata hmenthod).1
  rw [saveObject_eq_merge] at hafter ⊢
  have hframe := checkAndMergeChangeInLocalDatabase_frame
    ((manager.saved data).recordChange data menthodType)
  have hverdicts : ((manager.saved data).recordChange data menthodType).verdicts = [] := by
    rw [recordChange_verdicts, saved_verdicts h.verdicts]
    exact Verdict.after_nil _
  have hsends := hafter.toTidy.sends fun _ => none
  unfold Sends at hsends
  rw [hframe.records, hframe.realm] at hsends
  exact merge_sent_exactly hafter.toShape hverdicts hsends hframe.records hframe.network

theorem deleteSingle_sends {manager : DataServiceManager} (h : Healthy typeOf manager)
    {data : DataServiceObject} (hdata : typeOf data.id = data.kind)
    : ∃ calls, EachSent typeOf (manager.deleteSingle data) calls
        ∧ (manager.deleteSingle data).remoteDataService.issued
          = manager.remoteDataService.issued ++ calls := by
  have hverdicts : (manager.recordChange data .delete).verdicts = [] := by
    rw [recordChange_verdicts, h.verdicts]
    exact Verdict.after_nil _
  have hsends := recordChange_delete_sends (fun _ => none) h.toTidy hdata
    (fun record hrecord hid => (mem_replaced_of_verdicts h.verdicts).mpr ⟨hrecord, hid⟩)
  rw [← deleteSingle_target _ (deleting_takesEffect h.verdicts data)] at hsends
  have hnetwork : (manager.deleteSingle data).network
      = (manager.recordChange data .delete).network := by
    rw [deleteSingle_eq]
    exact (checkAndMergeChangeInLocalDatabase_frame _).network
  rw [deleteSingle_issued]
  exact merge_sent_exactly (h.deleteSingle (fun _ => none) hdata).1.toShape hverdicts hsends
    (deleteSingle_records manager data) hnetwork

theorem deleteAll_sends {manager : DataServiceManager} (h : Healthy typeOf manager)
    {items : List DataServiceObject} (hitems : ∀ item ∈ items, typeOf item.id = item.kind)
    : ∃ batches,
        List.Forall₂ (EachSent typeOf)
            (items.inits.tail.map fun items => items.foldl DataServiceManager.deleteSingle manager)
            batches
          ∧ (items.foldl DataServiceManager.deleteSingle manager).remoteDataService.issued
            = manager.remoteDataService.issued ++ batches.flatten := by
  induction items generalizing manager with
  | nil => exact ⟨[], .nil, by simp⟩
  | cons item items ih =>
    have hitem := hitems item List.mem_cons_self
    obtain ⟨calls, hsent, hissued⟩ := deleteSingle_sends h hitem
    obtain ⟨batches, hbatches, hrest⟩ := ih (h.deleteSingle (fun _ => none) hitem).1
      fun item' hitem' => hitems item' (List.mem_cons_of_mem _ hitem')
    refine ⟨calls :: batches, ?_, ?_⟩
    . have hinits : (item :: items).inits.tail
          = [item] :: items.inits.tail.map (List.cons item) := by
        cases items <;> simp
      rw [hinits, List.map_cons, List.map_map]
      exact .cons hsent hbatches
    . rw [List.foldl_cons, hrest, hissued, List.flatten_cons, List.append_assoc]

theorem step_sends {manager manager' : DataServiceManager} {e : Event}
    (h : Healthy typeOf manager) (hstep : (machine typeOf).step manager e = some manager')
    : ∃ batches, List.Forall₂ (EachSent typeOf) (manager.sending e) batches
        ∧ manager'.remoteDataService.issued
          = manager.remoteDataService.issued ++ batches.flatten := by
  have hone : ∀ after : DataServiceManager,
      (∃ calls, EachSent typeOf after calls
        ∧ after.remoteDataService.issued = manager.remoteDataService.issued ++ calls) →
      ∃ batches, List.Forall₂ (EachSent typeOf) [after] batches
        ∧ after.remoteDataService.issued
          = manager.remoteDataService.issued ++ batches.flatten := by
    rintro after ⟨calls, hsent, hissued⟩
    exact ⟨[calls], .cons hsent .nil, by simpa using hissued⟩
  have hquiet : manager'.remoteDataService.issued = manager.remoteDataService.issued →
      ∃ batches, List.Forall₂ (EachSent typeOf) [] batches
        ∧ manager'.remoteDataService.issued
          = manager.remoteDataService.issued ++ batches.flatten :=
    fun hissued => ⟨[], .nil, by simpa using hissued⟩
  unfold machine at hstep
  cases e with
  | addObject data =>
    simp only [DataServiceManager.step] at hstep
    split at hstep
    . next hguard =>
      cases hstep
      apply hone
      rw [addObject_eq hguard.2]
      exact saveObject_sends h hguard.1 (by simp)
    . cases hstep
  | updateObject data =>
    simp only [DataServiceManager.step] at hstep
    split at hstep
    . next hguard =>
      cases hstep
      exact hone _ (saveObject_sends h hguard (by simp))
    . cases hstep
  | deleteObject data =>
    simp only [DataServiceManager.step] at hstep
    split at hstep
    . next hguard =>
      cases hstep
      rw [deleteObject_eq]
      apply deleteAll_sends h
      intro item hitem
      exact typeOf_of_mem_cascade h.toShape (h.object _ _ _ hguard) hitem
    . cases hstep
  | checkAndMerge =>
    cases hstep
    exact hone _ (merge_sends h)
  | network state =>
    cases hstep
    simp only [sending]
    by_cases heq : manager.network = state
    . have hsame : manager.changeInternetConnection state = manager := if_pos heq
      rw [if_pos heq, hsame]
      exact ⟨[], .nil, by simp⟩
    . have hchange : manager.changeInternetConnection state
          = { manager with network := state }.checkAndMergeChangeInLocalDatabase := if_neg heq
      rw [if_neg heq, hchange]
      exact hone _ (merge_sends (h.network state))
  | applied =>
    obtain ⟨service, hservice, rfl⟩ := Option.map_eq_some_iff.mp hstep
    obtain ⟨w, item, pending, -, heq⟩ := applyOldest_eq_some hservice
    apply hquiet
    rw [heq]
    rfl
  | rejected err =>
    obtain ⟨service, hservice, rfl⟩ := Option.map_eq_some_iff.mp hstep
    obtain ⟨w, item, pending, -, heq⟩ := rejectOldest_eq_some hservice
    apply hquiet
    rw [heq]
    rfl
  | completion i =>
    obtain ⟨item, err, l, r, -, rfl⟩ := deliver_eq_some hstep
    apply hquiet
    rw [completion_remoteDataService]

/--
What each event sends: nothing for an answer, a completion or a state of the network that is not
new; otherwise the whole outbox, once for each merge, whether or not a record is in flight. The
deletion of an object replaces the records about it by one. After the delivery of its completion a
record is never sent again. The cascade over a report with `n` shots starts with an empty outbox,
and issues `(n + 1) * (n + 2) / 2` deletes of the `n + 1` documents.
-/
theorem sent_by_each_merge {start mid : DataServiceManager} {events : List Event}
    (hstart : Healthy typeOf start) (hempty : start.records = [])
    (hrun : (machine typeOf).run start events = some mid)
    : (∀ e manager, (machine typeOf).step mid e = some manager →
        ∃ batches, List.Forall₂ (EachSent typeOf) (mid.sending e) batches
          ∧ manager.remoteDataService.issued
            = mid.remoteDataService.issued ++ batches.flatten)
      ∧ (∀ data, mid.realm.object data.kind data.id = some data →
          ∀ items, items <+: mid.cascade data →
            ∃ new : List OfflineStorageModel,
              (items.foldl deleteSingle mid).records.Perm
                  (mid.records.filter
                      (fun record => record.objectID ∉ items.map DataServiceObject.id) ++ new)
                ∧ new.map change = items.map deletionOf)
      ∧ (∀ i item manager events' final,
          mid.remoteDataService.callbacks[i]? = some (item, none) →
            (machine typeOf).step mid (.completion i) = some manager →
              (machine typeOf).run manager events' = some final →
                ∃ calls, final.remoteDataService.issued = mid.remoteDataService.issued ++ calls
                  ∧ ∀ call ∈ calls, call.2 ≠ item)
      ∧ (mid.records = [] → mid.network = .Available →
          ∀ report, mid.realm.object .report report.id = some (.report report) →
            ∀ n, (mid.localDataService.getShotData report.id).length = n →
              ∃ calls, (mid.deleteObject (.report report)).remoteDataService.issued
                  = mid.remoteDataService.issued ++ calls
                ∧ calls.length = (n + 1) * (n + 2) / 2
                ∧ (∀ call ∈ calls, ∃ item ∈ mid.cascade (.report report), call.1 = deletion item)
                ∧ ∀ (j : Nat) (item : DataServiceObject),
                    (mid.cascade (.report report))[j]? = some item →
                      (calls.map Prod.fst).count (deletion item) = n + 1 - j) := by
  have h := Represents.run hstart hempty hrun
  refine ⟨?_, ?_, ?_, ?_⟩
  . intro e manager hstep
    exact step_sends h.toHealthy hstep
  . intro data hstored items hitems
    have hnodup := cascade_nodup_ids h.disjoint hstored
    exact deleteAll_records h.verdicts h.fresh ((hitems.sublist.map _).nodup hnodup)
  . intro i item manager events' final hcallback hstep hfinal
    exact acknowledged_not_issued h hcallback hstep hfinal
  . intro hrecords hnetwork report hstored n hn
    exact deleteObject_count h.toHealthy hrecords hnetwork hstored hn

def sampleEvents : List Event :=
  [.addObject (.report sampleReport), .applied, .completion 0,
    .addObject (.shot sampleShot), .applied, .completion 0]

def sampleTypeOf (id : String) : Kind := if id = "r" then .report else .shot

theorem sent_by_each_merge_one_shot
    : ∃ mid, (machine sampleTypeOf).run sampleManager sampleEvents = some mid
      ∧ ∃ calls, (mid.deleteObject (.report sampleReport)).remoteDataService.issued
          = mid.remoteDataService.issued ++ calls
        ∧ calls.length = 3 := by
  have hrun : ∃ mid, (machine sampleTypeOf).run sampleManager sampleEvents = some mid
      ∧ mid.records = [] ∧ mid.network = .Available
      ∧ mid.realm.object .report sampleReport.id = some (.report sampleReport)
      ∧ (mid.localDataService.getShotData sampleReport.id).length = 1 :=
    ⟨_, rfl, rfl, rfl, rfl, rfl⟩
  obtain ⟨mid, hrun, hrecords, hnetwork, hstored, hn⟩ := hrun
  obtain ⟨calls, hissued, hlength, -⟩ :=
    (sent_by_each_merge (sampleManager_initial _).healthy rfl hrun).2.2.2 hrecords hnetwork
      sampleReport hstored 1 hn
  exact ⟨mid, hrun, calls, hissued, hlength⟩

theorem deleteObject_resends
    : ∃ mid, (machine sampleTypeOf).run sampleManager sampleEvents = some mid
      ∧ mid.records = [] ∧ mid.network = .Available
      ∧ (mid.localDataService.getShotData sampleReport.id).length = 1
      ∧ (machine sampleTypeOf).step mid (.deleteObject (.report sampleReport))
        = some (mid.deleteObject (.report sampleReport))
      ∧ (mid.deleteObject (.report sampleReport)).remoteDataService.issued.length
        ≠ mid.remoteDataService.issued.length + (1 + 1)
      ∧ ¬ ((mid.deleteObject (.report sampleReport)).remoteDataService.pending.map Prod.snd).Nodup :=
  ⟨_, rfl, rfl, rfl, rfl, rfl, by decide, by decide⟩

end DataServiceManager
