import CaptainCue.Manager.Convergence

/-!
This module contains what the outbox says about the stored objects between the operations of a run
in which every transaction commits, and what a merge sends then.
-/

namespace DataServiceManager

variable {typeOf : String → Kind}

def Stored (manager : DataServiceManager) (id : String) : Prop :=
  ∃ T data, manager.realm.object T id = some data

structure Represents (typeOf : String → Kind) (manager : DataServiceManager) : Prop
    extends Healthy typeOf manager where
  unique : ∀ r₁ ∈ manager.records, ∀ r₂ ∈ manager.records, r₁.objectID = r₂.objectID → r₁ = r₂
  delete : ∀ record ∈ manager.records,
    manager.realm.object (typeOf record.objectID) record.objectID = none
      → record.getMenthod = some .delete
  captured : ∀ item, manager.Captured item →
    ∀ record ∈ manager.records, record.id = item.id → record = item

/-! ### What is sent -/

theorem merge_issued {manager : DataServiceManager} {target : Key → Option JSON}
    (hverdicts : manager.verdicts = []) (hsends : manager.Sends target)
    (hnetwork : manager.network = .Available)
    : manager.checkAndMergeChangeInLocalDatabase.remoteDataService.issued
        =
      manager.remoteDataService.issued ++
        manager.localDataService.getAllRecords.map fun record =>
          (⟨record.collectionName, record.objectID, target (key record)⟩, record) := by
  rw [checkAndMergeChangeInLocalDatabase_eq, if_pos hnetwork,
    sendAll_remoteDataService hverdicts, outgoing_of_sends hsends]

/-! ### The operations -/

theorem Represents.change {manager manager' : DataServiceManager} (h : Represents typeOf manager)
    (h' : Healthy typeOf manager') {data : DataServiceObject} {menthodType : MenthodType}
    (hdata : typeOf data.id = data.kind)
    (hrecords : ∀ record, record ∈ manager'.records →
      (record ∈ manager.records ∧ record.objectID ≠ data.id)
        ∨ record = manager.newRecord data menthodType)
    (hobject : ∀ T id, id ≠ data.id → manager'.realm.object T id = manager.realm.object T id)
    (hdelete : manager'.realm.object data.kind data.id = none → menthodType = .delete)
    (hcaptured : ∀ item, manager'.Captured item → item ∈ manager'.records ∨ manager.Captured item)
    : Represents typeOf manager' where
  toHealthy := h'
  unique := by
    intro r₁ h₁ r₂ h₂ hid
    cases hrecords r₁ h₁ with
    | inl h₁ =>
      cases hrecords r₂ h₂ with
      | inl h₂ => exact h.unique r₁ h₁.1 r₂ h₂.1 hid
      | inr h₂ =>
        rw [h₂] at hid
        exact absurd hid h₁.2
    | inr h₁ =>
      cases hrecords r₂ h₂ with
      | inl h₂ =>
        rw [h₁] at hid
        exact absurd hid.symm h₂.2
      | inr h₂ => rw [h₁, h₂]
  delete := by
    intro record hrecord hnone
    cases hrecords record hrecord with
    | inl hr =>
      rw [hobject _ _ hr.2] at hnone
      exact h.delete record hr.1 hnone
    | inr hr =>
      subst hr
      have hid : (manager.newRecord data menthodType).objectID = data.id := rfl
      rw [hid, hdata] at hnone
      rw [← hdelete hnone]
      exact OfflineStorageModel.getMenthod_make ..
  captured := by
    intro item hitem record hrecord hid
    cases hcaptured item hitem with
    | inl hnew => exact Table.eq_of_mem_rows hrecord hnew hid
    | inr hold =>
      cases hrecords record hrecord with
      | inl hr => exact h.captured item hold record hr.1 hid
      | inr hr =>
        -- the id of the new record is captured by no closure
        obtain ⟨n, hn, heq⟩ := h.uuid item.id ⟨item, .inr hold, rfl⟩
        rw [hr] at hid
        have := uuidString_inj.mp (hid.trans heq)
        omega

theorem Represents.subset {manager manager' : DataServiceManager} (h : Represents typeOf manager)
    (h' : Healthy typeOf manager')
    (hrecords : ∀ record ∈ manager'.records, record ∈ manager.records)
    (hobject : ∀ T id, manager'.realm.object T id = manager.realm.object T id)
    (hcaptured : ∀ item, manager'.Captured item → item ∈ manager.records ∨ manager.Captured item)
    : Represents typeOf manager' where
  toHealthy := h'
  unique := by
    intro r₁ h₁ r₂ h₂
    exact h.unique r₁ (hrecords r₁ h₁) r₂ (hrecords r₂ h₂)
  delete := by
    intro record hrecord hnone
    rw [hobject] at hnone
    exact h.delete record (hrecords record hrecord) hnone
  captured := by
    intro item hitem record hrecord hid
    cases hcaptured item hitem with
    | inl hitem => exact Table.eq_of_mem_rows (hrecords record hrecord) hitem hid
    | inr hold => exact h.captured item hold record (hrecords record hrecord) hid

theorem Represents.saveObject {manager : DataServiceManager} (h : Represents typeOf manager)
    {data : DataServiceObject} (hdata : typeOf data.id = data.kind) {menthodType : MenthodType}
    (hmenthod : menthodType ≠ .delete)
    : Represents typeOf (manager.saveObject data menthodType) := by
  have hverdicts := saved_verdicts h.verdicts data
  have hframe := checkAndMergeChangeInLocalDatabase_frame
    ((manager.saved data).recordChange data menthodType)
  have hobject := saveObject_object h.verdicts data menthodType
  apply h.change (h.toHealthy.saveObject (fun _ => none) hdata hmenthod).1 hdata
  . intro record hrecord
    rw [saveObject_eq_merge, hframe.records,
      mem_recordChange_of_verdicts (h.toShape.saved hdata).new hverdicts, saved_records] at hrecord
    exact hrecord
  . intro T id hid
    rw [hobject, if_neg (by simp [hid])]
  . intro hnone
    rw [hobject, if_pos ⟨rfl, rfl⟩] at hnone
    cases hnone
  . intro item hitem
    rw [saveObject_eq_merge] at hitem ⊢
    rw [hframe.records]
    exact checkAndMergeChangeInLocalDatabase_captured hitem

theorem Represents.deleteSingle {manager : DataServiceManager} (h : Represents typeOf manager)
    {data : DataServiceObject} (hdata : typeOf data.id = data.kind)
    : Represents typeOf (manager.deleteSingle data) := by
  have hdeleted := deleting_takesEffect h.verdicts data
  apply h.change (h.toHealthy.deleteSingle (fun _ => none) hdata).1 hdata
  . intro record hrecord
    rw [deleteSingle_records, mem_recordChange_of_verdicts h.new h.verdicts] at hrecord
    exact hrecord
  . intro T id hid
    rw [deleteSingle_object hdeleted, if_neg (by simp [hid])]
  . intro _
    rfl
  . intro item hitem
    rw [deleteSingle_records]
    rw [deleteSingle_eq] at hitem
    exact checkAndMergeChangeInLocalDatabase_captured hitem

theorem Represents.deleteAll {manager : DataServiceManager} (h : Represents typeOf manager)
    {items : List DataServiceObject} (hitems : ∀ item ∈ items, typeOf item.id = item.kind)
    : Represents typeOf (items.foldl DataServiceManager.deleteSingle manager) := by
  induction items generalizing manager with
  | nil => exact h
  | cons item items ih =>
    apply ih
    . exact h.deleteSingle (hitems item List.mem_cons_self)
    . intro item' hitem'
      exact hitems item' (List.mem_cons_of_mem _ hitem')

theorem Represents.step (manager : DataServiceManager) (e : Event) (manager' : DataServiceManager)
    (h : Represents typeOf manager) (hstep : (machine typeOf).step manager e = some manager')
    : Represents typeOf manager' := by
  have h' : Healthy typeOf manager' :=
    (step_simulates (fun _ => none) manager e manager' h.toHealthy hstep).1
  have hmerge : ∀ m : DataServiceManager, Represents typeOf m →
      Represents typeOf m.checkAndMergeChangeInLocalDatabase := by
    intro m hm
    have hframe := checkAndMergeChangeInLocalDatabase_frame m
    apply hm.subset (hm.toHealthy.merge fun _ => none).1
    . intro record hrecord
      rw [hframe.records] at hrecord
      exact hrecord
    . intro T id
      rw [hframe.realm]
    . intro item hitem
      exact checkAndMergeChangeInLocalDatabase_captured hitem
  cases h.toShape.stepped hstep with
  | save hdata hmenthod => exact h.saveObject hdata hmenthod
  | delete hitems => exact h.deleteAll hitems
  | idle => exact h
  | merge state =>
    apply hmerge
    exact ⟨h.toHealthy.network state, h.unique, h.delete, h.captured⟩
  | answer hpending db err =>
    apply h.subset h' (fun _ hrecord => hrecord) (fun _ _ => rfl)
    intro item' hitem'
    exact .inr (answered_captured hpending hitem')
  | completion hcallbacks =>
    apply h.subset h'
    . intro record hrecord
      exact (mem_completion_records.mp hrecord).1
    . intro T id
      rw [completion_object]
    . intro item' hitem'
      rw [completion_captured] at hitem'
      exact .inr (delivered_captured hcallbacks hitem')

theorem Represents.run {start final : DataServiceManager} {events : List Event}
    (hstart : Healthy typeOf start) (hempty : start.records = [])
    (hrun : (machine typeOf).run start events = some final) : Represents typeOf final := by
  apply Machine.invariant Represents.step _ hrun
  refine ⟨hstart, ?_, ?_, ?_⟩
  . simp [hempty]
  . simp [hempty]
  . simp [hempty]

/-! ### What a record says -/

theorem Represents.stored {manager : DataServiceManager} (h : Represents typeOf manager)
    (id : String) : manager.Stored id ↔ manager.realm.object (typeOf id) id ≠ none := by
  rw [Option.ne_none_iff_exists']
  constructor
  . rintro ⟨T, data, hobj⟩
    refine ⟨data, ?_⟩
    rw [h.object T id data hobj]
    exact hobj
  . rintro ⟨data, hobj⟩
    exact ⟨typeOf id, data, hobj⟩

theorem Represents.getMenthod {manager : DataServiceManager} (h : Represents typeOf manager)
    {record : OfflineStorageModel} (hrecord : record ∈ manager.records)
    : (record.getMenthod = some .delete ↔ ¬ manager.Stored record.objectID)
        ∧ ((record.getMenthod = some .create ∨ record.getMenthod = some .update)
          ↔ manager.Stored record.objectID) := by
  rw [h.stored]
  obtain ⟨menthodType, hmenthod, habsent⟩ := h.menthod record hrecord
  have hdelete := h.delete record hrecord
  rw [hmenthod] at hdelete ⊢
  cases menthodType with
  | create =>
    have hne : manager.realm.object (typeOf record.objectID) record.objectID ≠ none := by
      intro hnone
      cases hdelete hnone
    simp [hne]
  | update =>
    have hne : manager.realm.object (typeOf record.objectID) record.objectID ≠ none := by
      intro hnone
      cases hdelete hnone
    simp [hne]
  | delete => simp [habsent rfl]

def current (typeOf : String → Kind) (manager : DataServiceManager) (id : String) : Option JSON :=
  (manager.realm.object (typeOf id) id).map DataServiceObject.getJSONData

theorem Shape.target_key {manager : DataServiceManager} (h : Shape typeOf manager)
    (other : Key → Option JSON) {record : OfflineStorageModel} (hrecord : record ∈ manager.records)
    : manager.target other (key record) = manager.current typeOf record.objectID := by
  unfold key current
  rw [h.collection record hrecord, target_getRemoteCollectionName]

theorem Represents.merge_issued {manager : DataServiceManager} (h : Represents typeOf manager)
    (hnetwork : manager.network = .Available)
    : ∃ items : List OfflineStorageModel, items.Perm manager.records
        ∧ manager.checkAndMergeChangeInLocalDatabase.remoteDataService.issued
          =
          manager.remoteDataService.issued ++ items.map fun record =>
            (⟨record.collectionName, record.objectID, manager.current typeOf record.objectID⟩,
              record) := by
  refine ⟨manager.localDataService.getAllRecords, Table.list_perm _ _, ?_⟩
  rw [DataServiceManager.merge_issued h.verdicts (h.sends fun _ => none) hnetwork]
  congr 1
  apply List.map_congr_left
  intro record hrecord
  rw [h.target_key _ (RealmDataService.mem_getAllRecords.mp hrecord)]

theorem Represents.deliver {manager manager' : DataServiceManager} (h : Represents typeOf manager)
    {i : Nat} {item : OfflineStorageModel} {err : Option NSError}
    (hcallback : manager.remoteDataService.callbacks[i]? = some (item, err))
    (hdeliver : manager.deliver i = some manager') (record : OfflineStorageModel)
    : record ∈ manager'.records ↔ record ∈ manager.records ∧ (err = none → record ≠ item) := by
  unfold DataServiceManager.deliver at hdeliver
  rw [hcallback] at hdeliver
  cases hdeliver
  rw [mem_completion_records]
  have htakes : Verdict.takesEffect manager.verdicts = true := by
    rw [h.verdicts]
    rfl
  have hcaptured : manager.Captured item :=
    .inr ⟨(item, err), List.mem_of_getElem? hcallback, rfl⟩
  constructor
  . rintro ⟨hrecord, hkeep⟩
    refine ⟨hrecord, ?_⟩
    rintro herr rfl
    exact hkeep ⟨herr, htakes⟩ rfl
  . rintro ⟨hrecord, hkeep⟩
    refine ⟨hrecord, ?_⟩
    rintro ⟨herr, -⟩ hid
    exact hkeep herr (h.captured item hcaptured record hrecord hid)

/--
The outbox in each state reached: at most one record for each object, under the collection of its
type, that says `delete` exactly if the object is not stored. An online merge issues for each record
one write, of the document of the object as it is. A completion removes no record but its own.
-/
theorem outbox_represents {start final : DataServiceManager} {events : List Event}
    (hstart : Healthy typeOf start) (hempty : start.records = [])
    (hrun : (machine typeOf).run start events = some final)
    : (∀ r₁ ∈ final.records, ∀ r₂ ∈ final.records, r₁.objectID = r₂.objectID → r₁ = r₂)
      ∧ (∀ record ∈ final.records,
          record.collectionName = (typeOf record.objectID).getRemoteCollectionName
            ∧ (record.getMenthod = some .delete ↔ ¬ final.Stored record.objectID)
            ∧ ((record.getMenthod = some .create ∨ record.getMenthod = some .update)
              ↔ final.Stored record.objectID))
      ∧ (final.network = .Available →
          ∃ items : List OfflineStorageModel, items.Perm final.records
            ∧ final.checkAndMergeChangeInLocalDatabase.remoteDataService.issued
              =
              final.remoteDataService.issued ++ items.map fun record =>
                (⟨record.collectionName, record.objectID, final.current typeOf record.objectID⟩,
                  record))
      ∧ (∀ i item err manager',
          final.remoteDataService.callbacks[i]? = some (item, err) →
            (machine typeOf).step final (.completion i) = some manager' →
              ∀ record, record ∈ manager'.records
                ↔ record ∈ final.records ∧ (err = none → record ≠ item)) := by
  have h := Represents.run hstart hempty hrun
  refine ⟨h.unique, ?_, h.merge_issued, ?_⟩
  . intro record hrecord
    exact ⟨h.collection record hrecord, h.getMenthod hrecord⟩
  . intro i item err manager' hcallback hdeliver record
    exact h.deliver hcallback hdeliver record

theorem outbox_represents_late_completion
    : ∃ final, (machine fun _ => .shot).run sampleManager
        [.addObject (.shot sampleShot), .updateObject (.shot { sampleShot with ballNumber := 4 }),
          .applied, .deleteObject (.shot { sampleShot with ballNumber := 4 }), .completion 0]
        = some final
      ∧ ∀ record ∈ final.records, record.getMenthod = some .delete ↔ ¬ final.Stored "s" := by
  have hrun : ∃ final, (machine fun _ => .shot).run sampleManager
        [.addObject (.shot sampleShot), .updateObject (.shot { sampleShot with ballNumber := 4 }),
          .applied, .deleteObject (.shot { sampleShot with ballNumber := 4 }), .completion 0]
        = some final
      ∧ ∀ record ∈ final.records, record.objectID = "s" :=
    ⟨_, rfl, by decide⟩
  obtain ⟨final, hrun, hid⟩ := hrun
  refine ⟨final, hrun, ?_⟩
  intro record hrecord
  have h := outbox_represents (sampleManager_initial _).healthy rfl hrun
  rw [← hid record hrecord]
  exact (h.2.1 record hrecord).2.1

end DataServiceManager
