import CaptainCue.Manager.Sync

/-!
This module contains the operations of the user on a single object, for any verdicts on their
transactions: which transactions have to take effect for the operation to follow the outbox pattern.
-/

namespace DataServiceManager

variable {typeOf : String → Kind} (other : Key → Option JSON)

def saveObject (manager : DataServiceManager) (data : DataServiceObject)
    (menthodType : MenthodType) : DataServiceManager :=
  let manager := manager.onLocal fun service => service.updateObject (.object data)
  manager.changeInLocalDatabase data menthodType

theorem updateObject_eq (manager : DataServiceManager) (data : DataServiceObject)
    : manager.updateObject data = manager.saveObject data .update := rfl

theorem addObject_eq {manager : DataServiceManager} {data : DataServiceObject}
    (h : manager.realm.object data.kind data.id = none)
    : manager.addObject data = manager.saveObject data .create := by
  unfold addObject saveObject onLocal RealmDataService.addObject RealmDataService.updateObject
    RealmDataService.write
  dsimp only
  rw [Realm.add_eq_addModified h]

def saved (manager : DataServiceManager) (data : DataServiceObject) : DataServiceManager :=
  manager.onLocal fun service => service.updateObject (.object data)

theorem saved_object (manager : DataServiceManager) (data : DataServiceObject) (T : Kind)
    (id : String)
    : (manager.saved data).realm.object T id
        =
      if Verdict.takesEffect manager.verdicts ∧ T = data.kind ∧ id = data.id then
        some data
      else
        manager.realm.object T id := by
  unfold saved onLocal realm RealmDataService.updateObject
  dsimp only
  rw [RealmDataService.write_realm]
  by_cases h : Verdict.takesEffect manager.localDataService.verdicts
  . rw [if_pos h, Realm.object_addModified]
    simp [verdicts, h]
  . rw [if_neg h]
    simp [verdicts, h]

theorem saved_records (manager : DataServiceManager) (data : DataServiceObject)
    : (manager.saved data).records = manager.records := by
  unfold saved onLocal records RealmDataService.updateObject
  dsimp only
  rw [RealmDataService.write_realm]
  split <;> simp

theorem Shape.saved {manager : DataServiceManager} (h : Shape typeOf manager)
    {data : DataServiceObject} (hdata : typeOf data.id = data.kind)
    : Shape typeOf (manager.saved data) where
  uuid := by
    intro id hid
    apply h.uuid id
    unfold Used at hid ⊢
    rw [saved_records] at hid
    exact hid
  object := by
    intro T id data' hobj
    rw [saved_object] at hobj
    split at hobj
    . next hc => rw [hc.2.2, hc.2.1, hdata]
    . exact h.object T id data' hobj
  collection := by
    rw [saved_records]
    exact h.collection

theorem saved_abs (manager : DataServiceManager) (data : DataServiceObject)
    (target : Key → Option JSON) : (manager.saved data).abs target = manager.abs target := by
  unfold abs
  rw [saved_records]
  rfl

theorem saved_target (manager : DataServiceManager) {data : DataServiceObject} {k : Key}
    (hk : k ≠ objectKey data) : (manager.saved data).target other k = manager.target other k := by
  unfold target
  cases hT : Kind.ofCollectionName? k.1 with
  | none => rfl
  | some T =>
    dsimp only
    rw [saved_object, if_neg]
    rintro ⟨-, rfl, hid⟩
    apply hk
    unfold objectKey
    rw [← Kind.eq_of_ofCollectionName? hT, ← hid]

theorem saveObject_eq_merge (manager : DataServiceManager) (data : DataServiceObject)
    (menthodType : MenthodType)
    : manager.saveObject data menthodType
        =
      ((manager.saved data).recordChange data menthodType).checkAndMergeChangeInLocalDatabase :=
  changeInLocalDatabase_eq ..

theorem saveObject_simulates {manager : DataServiceManager} (h : Tidy typeOf manager)
    {data : DataServiceObject} (hdata : typeOf data.id = data.kind) {menthodType : MenthodType}
    (hmenthod : menthodType ≠ .delete) (hrecorded : (manager.saved data).recorded data)
    (hold : ∀ record ∈ manager.records, record.objectID = data.id →
      record.getMenthod = some .delete →
      (manager.saved data).realm.object data.kind data.id ≠ none →
      record ∈ (manager.saved data).replaced data)
    : Tidy typeOf (manager.saveObject data menthodType)
        ∧ Relation.ReflTransGen Outbox.Step (manager.abs (manager.target other))
            ((manager.saveObject data menthodType).abs
              ((manager.saveObject data menthodType).target other)) := by
  -- The last removals and additions of records decide. A `delete` record of an object that stays is
  -- the only harm an old record can do.
  have hshape := h.toShape.saved hdata
  have htidy : Tidy typeOf ((manager.saved data).recordChange data menthodType) := by
    refine ⟨hshape.recordChange hdata menthodType, ?_⟩
    intro record hrecord
    cases (mem_recordChange hshape.new).mp hrecord with
    | inl hr =>
      obtain ⟨hmem, hkeep⟩ := hr
      rw [saved_records] at hmem
      obtain ⟨menthodType', hm, hdelete⟩ := h.menthod record hmem
      refine ⟨menthodType', hm, ?_⟩
      rintro rfl
      rw [recordChange_object]
      by_cases hid : record.objectID = data.id
      . by_contra hne
        rw [hid, hdata] at hne
        exact hkeep record (hold record hmem hid hm hne) rfl
      . rw [saved_object, if_neg (by simp [hid])]
        exact hdelete rfl
    | inr hr =>
      refine ⟨menthodType, ?_, fun hdelete => absurd hdelete hmenthod⟩
      rw [hr.2]
      exact OfflineStorageModel.getMenthod_make ..
  rw [saveObject_eq_merge, target_frame (checkAndMergeChangeInLocalDatabase_frame _)]
  refine ⟨htidy.merge, ?_⟩
  have hchange : Relation.ReflTransGen Outbox.Step ((manager.saved data).abs (manager.target other))
      (((manager.saved data).recordChange data menthodType).abs
        ((manager.saved data).target other)) :=
    recordChange_simulates hshape hdata hrecorded fun k hk => saved_target other manager hk
  rw [saved_abs] at hchange
  refine hchange.trans ?_
  rw [← recordChange_target (manager.saved data) data menthodType]
  exact merge_simulates fun _ => htidy.sends other

theorem saveObject_object {manager : DataServiceManager} (h : manager.verdicts = [])
    (data : DataServiceObject) (menthodType : MenthodType) (T : Kind) (id : String)
    : (manager.saveObject data menthodType).realm.object T id
        =
      if T = data.kind ∧ id = data.id then some data else manager.realm.object T id := by
  rw [saveObject_eq_merge, (checkAndMergeChangeInLocalDatabase_frame _).realm, recordChange_object,
    saved_object]
  simp [h]

def deleting (manager : DataServiceManager) (data : DataServiceObject) : DataServiceManager :=
  (manager.recordChange data .delete).checkAndMergeChangeInLocalDatabase

theorem deleteSingle_eq (manager : DataServiceManager) (data : DataServiceObject)
    : manager.deleteSingle data
        =
      (manager.deleting data).onLocal fun service => service.deleteObject (.object data) := by
  unfold deleteSingle deleting
  rw [changeInLocalDatabase_eq]

theorem deleteSingle_object {manager : DataServiceManager} {data : DataServiceObject}
    (hdeleted : Verdict.takesEffect (manager.deleting data).verdicts) (T : Kind) (id : String)
    : (manager.deleteSingle data).realm.object T id
        =
      if T = data.kind ∧ id = data.id then none else manager.realm.object T id := by
  rw [deleteSingle_eq]
  unfold onLocal realm RealmDataService.deleteObject
  dsimp only
  rw [RealmDataService.write_realm, if_pos hdeleted, Realm.object_delete]
  have hrealm : (manager.deleting data).realm = (manager.recordChange data .delete).realm :=
    (checkAndMergeChangeInLocalDatabase_frame _).realm
  unfold realm at hrealm
  rw [hrealm]
  split
  . rfl
  . exact recordChange_object manager data .delete T id

theorem deleteSingle_object_of_not {manager : DataServiceManager} {data : DataServiceObject}
    (hdeleted : ¬ Verdict.takesEffect (manager.deleting data).verdicts) (T : Kind) (id : String)
    : (manager.deleteSingle data).realm.object T id = manager.realm.object T id := by
  rw [deleteSingle_eq]
  unfold onLocal realm RealmDataService.deleteObject
  dsimp only
  rw [RealmDataService.write_realm, if_neg hdeleted]
  have hrealm : (manager.deleting data).realm = (manager.recordChange data .delete).realm :=
    (checkAndMergeChangeInLocalDatabase_frame _).realm
  unfold realm at hrealm
  rw [hrealm]
  exact recordChange_object manager data .delete T id

theorem deleteSingle_records (manager : DataServiceManager) (data : DataServiceObject)
    : (manager.deleteSingle data).records = (manager.recordChange data .delete).records := by
  rw [deleteSingle_eq, onLocal_deleteObject_records]
  exact (checkAndMergeChangeInLocalDatabase_frame _).records

theorem deleteSingle_target {manager : DataServiceManager} {data : DataServiceObject}
    (hdeleted : Verdict.takesEffect (manager.deleting data).verdicts)
    : (manager.deleteSingle data).target other
        = Function.update (manager.target other) (objectKey data) none := by
  funext k
  unfold target
  by_cases hk : k = objectKey data
  . subst hk
    rw [Function.update_self]
    simp [objectKey, deleteSingle_object hdeleted]
  . rw [Function.update_of_ne hk]
    cases hT : Kind.ofCollectionName? k.1 with
    | none => rfl
    | some T =>
      dsimp only
      rw [deleteSingle_object hdeleted, if_neg]
      rintro ⟨rfl, hid⟩
      apply hk
      unfold objectKey
      rw [← Kind.eq_of_ofCollectionName? hT, ← hid]

theorem outgoing_recordChange (manager : DataServiceManager) (data : DataServiceObject)
    (menthodType : MenthodType) (record : OfflineStorageModel)
    : (manager.recordChange data menthodType).realm.outgoing record
        = manager.realm.outgoing record := by
  unfold Realm.outgoing
  cases Kind.ofCollectionName? record.collectionName with
  | none => rfl
  | some T =>
    dsimp only
    rw [recordChange_object]

theorem outgoing_newRecord_delete (manager : DataServiceManager) (data : DataServiceObject)
    (realm : Realm)
    : realm.outgoing (manager.newRecord data .delete)
        = some ⟨data.kind.getRemoteCollectionName, data.id, none⟩ := by
  unfold Realm.outgoing newRecord
  rw [OfflineStorageModel.getMenthod_make]
  unfold OfflineStorageModel.make
  simp only [Kind.ofCollectionName?_getRemoteCollectionName]
  cases realm.object data.kind data.id <;> rfl

theorem recordChange_delete_records {manager : DataServiceManager} (h : Shape typeOf manager)
    {data : DataServiceObject}
    (hold : ∀ record ∈ manager.records, record.objectID = data.id → record ∈ manager.replaced data)
    : ∀ record ∈ (manager.recordChange data .delete).records,
        record = manager.newRecord data .delete
          ∨ (record ∈ manager.records ∧ record.objectID ≠ data.id) := by
  intro record hrecord
  cases (mem_recordChange h.new).mp hrecord with
  | inl hr =>
    right
    refine ⟨hr.1, ?_⟩
    intro hid
    exact hr.2 record (hold record hr.1 hid) rfl
  | inr hr => exact .inl hr.2

theorem recordChange_delete_sends {manager : DataServiceManager} (h : Tidy typeOf manager)
    {data : DataServiceObject} (hdata : typeOf data.id = data.kind)
    (hold : ∀ record ∈ manager.records, record.objectID = data.id → record ∈ manager.replaced data)
    : (manager.recordChange data .delete).Sends
        (Function.update (manager.target other) (objectKey data) none) := by
  -- The merge runs while `data` is still stored. It sends the deletion because `data` has no record
  -- but the new one, which says so.
  intro record hrecord
  cases recordChange_delete_records h.toShape hold record hrecord with
  | inl hr =>
    subst hr
    rw [outgoing_newRecord_delete]
    have hkey : key (manager.newRecord data .delete) = objectKey data := rfl
    rw [hkey, Function.update_self]
    rfl
  | inr hr =>
    rw [outgoing_recordChange, h.sends other record hr.1, Function.update_of_ne]
    intro hk
    exact hr.2 ((key_eq_objectKey (h.collection record hr.1) hdata).mp hk)

theorem Shape.deleteSingle {manager : DataServiceManager} (h : Shape typeOf manager)
    {data : DataServiceObject} (hdata : typeOf data.id = data.kind)
    : Shape typeOf (manager.deleteSingle data) := by
  have hframe : Frame (manager.recordChange data .delete) (manager.deleting data) :=
    checkAndMergeChangeInLocalDatabase_frame _
  have hshape : Shape typeOf (manager.deleting data) :=
    (h.recordChange hdata .delete).of_used hframe.realm hframe.uuids
      fun _ => checkAndMergeChangeInLocalDatabase_used
  constructor
  . intro id hid
    unfold Used at hid
    rw [deleteSingle_records, ← hframe.records] at hid
    rw [deleteSingle_eq] at hid ⊢
    exact hshape.uuid id hid
  . intro T id data' hobj
    by_cases hdeleted : Verdict.takesEffect (manager.deleting data).verdicts
    . rw [deleteSingle_object hdeleted] at hobj
      split at hobj
      . cases hobj
      . exact h.object T id data' hobj
    . rw [deleteSingle_object_of_not hdeleted] at hobj
      exact h.object T id data' hobj
  . intro record hrecord
    rw [deleteSingle_records] at hrecord
    exact (h.recordChange hdata .delete).collection record hrecord

theorem deleteSingle_simulates {manager : DataServiceManager} (h : Tidy typeOf manager)
    {data : DataServiceObject} (hdata : typeOf data.id = data.kind)
    (hold : manager.network = .Available → ∀ record ∈ manager.records,
      record.objectID = data.id → record ∈ manager.replaced data)
    (hrecorded : manager.recorded data)
    (hdeleted : Verdict.takesEffect (manager.deleting data).verdicts)
    : Tidy typeOf (manager.deleteSingle data)
        ∧ Relation.ReflTransGen Outbox.Step (manager.abs (manager.target other))
            ((manager.deleteSingle data).abs ((manager.deleteSingle data).target other)) := by
  have hframe : Frame (manager.recordChange data .delete) (manager.deleting data) :=
    checkAndMergeChangeInLocalDatabase_frame _
  constructor
  . refine ⟨h.toShape.deleteSingle hdata, ?_⟩
    intro record hrecord
    rw [deleteSingle_records] at hrecord
    cases (mem_recordChange h.new).mp hrecord with
    | inl hr =>
      obtain ⟨menthodType, hm, hdelete⟩ := h.menthod record hr.1
      refine ⟨menthodType, hm, ?_⟩
      intro heq
      rw [deleteSingle_object hdeleted]
      split
      . rfl
      . exact hdelete heq
    | inr hr =>
      rw [hr.2]
      refine ⟨.delete, OfflineStorageModel.getMenthod_make .., ?_⟩
      intro _
      rw [deleteSingle_object hdeleted, if_pos]
      exact ⟨hdata, rfl⟩
  . have habs : (manager.deleteSingle data).abs ((manager.deleteSingle data).target other)
        = (manager.deleting data).abs (Function.update (manager.target other) (objectKey data) none) := by
      rw [deleteSingle_target other hdeleted]
      unfold abs
      rw [deleteSingle_records, hframe.records, deleteSingle_eq]
      rfl
    rw [habs]
    exact (recordChange_simulates h.toShape hdata hrecorded
      (fun k hk => Function.update_of_ne hk _ _)).trans
      (merge_simulates fun hnetwork => recordChange_delete_sends other h hdata (hold hnetwork))

end DataServiceManager
