import CaptainCue.Manager.DataServiceManager

/-!
This module contains one lemma for each operation of the manager that says what the operation does
to the stored data and to the remote service, for any verdicts on its transactions.
-/

namespace Verdict

def applied {α : Type} (verdicts : List Verdict) : List α → List α
  | [] => []
  | item :: items =>
    if takesEffect verdicts then
      item :: applied (next verdicts) items
    else
      applied (next verdicts) items

def after (verdicts : List Verdict) (n : Nat) : List Verdict := next^[n] verdicts

@[simp]
theorem after_zero (verdicts : List Verdict) : after verdicts 0 = verdicts := rfl

theorem after_succ (verdicts : List Verdict) (n : Nat)
    : after verdicts (n + 1) = after (next verdicts) n := rfl

theorem next_after (verdicts : List Verdict) (n : Nat)
    : next (after verdicts n) = after verdicts (n + 1) := by
  unfold after
  rw [Function.iterate_succ_apply']

@[simp]
theorem after_nil (n : Nat) : after [] n = [] := by
  induction n with
  | zero => rfl
  | succ n ih =>
    rw [after_succ]
    exact ih

@[simp]
theorem applied_nil {α : Type} (items : List α) : applied [] items = items := by
  induction items with
  | nil => rfl
  | cons item items ih => simp [applied, ih]

theorem applied_subset {α : Type} {verdicts : List Verdict} {items : List α} {item : α}
    (h : item ∈ applied verdicts items) : item ∈ items := by
  induction items generalizing verdicts with
  | nil => simp [applied] at h
  | cons item' items ih =>
    unfold applied at h
    split at h
    . cases List.mem_cons.mp h with
      | inl heq =>
        rw [heq]
        exact List.mem_cons_self
      | inr hmem => exact List.mem_cons_of_mem _ (ih hmem)
    . exact List.mem_cons_of_mem _ (ih h)

end Verdict

namespace RealmDataService

@[simp]
theorem write_rank (service : RealmDataService) (changes : Realm → Realm)
    : (service.write changes).rank = service.rank := rfl

@[simp]
theorem write_verdicts (service : RealmDataService) (changes : Realm → Realm)
    : (service.write changes).verdicts = Verdict.next service.verdicts := rfl

theorem write_realm (service : RealmDataService) (changes : Realm → Realm)
    : (service.write changes).realm
        =
      if Verdict.takesEffect service.verdicts then changes service.realm else service.realm := rfl

theorem mem_getOfflineStore {service : RealmDataService} {objID : String}
    {record : OfflineStorageModel}
    : record ∈ service.getOfflineStore objID
        ↔ record ∈ service.realm.records.rows ∧ record.objectID = objID := by
  simp [getOfflineStore]

theorem mem_getAllRecords {service : RealmDataService} {record : OfflineStorageModel}
    : record ∈ service.getAllRecords ↔ record ∈ service.realm.records.rows := by
  simp [getAllRecords]

theorem mem_getShotData {service : RealmDataService} {reportID : String} {shot : ShotModel}
    : shot ∈ service.getShotData reportID
        ↔ shot ∈ service.realm.shots.rows ∧ shot.reportID = reportID := by
  simp [getShotData]

def deleteRecords (service : RealmDataService) (items : List OfflineStorageModel)
    : RealmDataService :=
  items.foldl (fun service item => service.deleteObject (.record item)) service

@[simp]
theorem deleteRecords_rank (service : RealmDataService) (items : List OfflineStorageModel)
    : (service.deleteRecords items).rank = service.rank := by
  unfold deleteRecords
  induction items generalizing service with
  | nil => rfl
  | cons item items ih =>
    rw [List.foldl_cons, ih]
    rfl

@[simp]
theorem deleteRecords_verdicts (service : RealmDataService) (items : List OfflineStorageModel)
    : (service.deleteRecords items).verdicts = Verdict.after service.verdicts items.length := by
  unfold deleteRecords
  induction items generalizing service with
  | nil => rfl
  | cons item items ih =>
    rw [List.foldl_cons, ih]
    rfl

@[simp]
theorem deleteRecords_object (service : RealmDataService) (items : List OfflineStorageModel)
    (T : Kind) (id : String)
    : (service.deleteRecords items).realm.object T id = service.realm.object T id := by
  unfold deleteRecords
  induction items generalizing service with
  | nil => rfl
  | cons item items ih =>
    rw [List.foldl_cons, ih]
    unfold deleteObject
    rw [write_realm]
    split <;> simp

theorem mem_deleteRecords {service : RealmDataService} {items : List OfflineStorageModel}
    {record : OfflineStorageModel}
    : record ∈ (service.deleteRecords items).realm.records.rows
        ↔
      record ∈ service.realm.records.rows
        ∧ ∀ item ∈ Verdict.applied service.verdicts items, record.id ≠ item.id := by
  unfold deleteRecords
  induction items generalizing service with
  | nil => simp [Verdict.applied]
  | cons item items ih =>
    rw [List.foldl_cons, ih]
    unfold deleteObject
    rw [write_realm, write_verdicts, Verdict.applied]
    split
    . simp only [Realm.records_delete_record, Table.mem_rows_erase, List.forall_mem_cons]
      tauto
    . rfl

end RealmDataService

namespace Kind

def ofCollectionName? (collectionName : String) : Option Kind :=
  if collectionName = shot.getRemoteCollectionName then
    some shot
  else if collectionName = report.getRemoteCollectionName then
    some report
  else
    none

@[simp]
theorem ofCollectionName?_getRemoteCollectionName (T : Kind)
    : ofCollectionName? T.getRemoteCollectionName = some T := by
  cases T with
  | report =>
    unfold ofCollectionName?
    rw [if_neg (by simp), if_pos rfl]
  | shot =>
    unfold ofCollectionName?
    rw [if_pos rfl]

theorem eq_of_ofCollectionName? {collectionName : String} {T : Kind}
    (h : ofCollectionName? collectionName = some T)
    : collectionName = T.getRemoteCollectionName := by
  unfold ofCollectionName? at h
  split at h
  . next hs =>
    cases h
    exact hs
  . split at h
    . next hr =>
      cases h
      exact hr
    . cases h

end Kind

namespace Realm

def outgoing (realm : Realm) (item : OfflineStorageModel) : Option RemoteWrite :=
  match Kind.ofCollectionName? item.collectionName with
  | none => none
  | some T =>
    match realm.object T item.objectID with
    | none => some ⟨item.collectionName, item.objectID, none⟩
    | some localObj =>
      match item.getMenthod with
      | some .create => some ⟨item.collectionName, item.objectID, some localObj.getJSONData⟩
      | some .update => some ⟨item.collectionName, item.objectID, some localObj.getJSONData⟩
      | some .delete => some ⟨item.collectionName, item.objectID, none⟩
      | none => none

end Realm

namespace DataServiceManager

abbrev realm (manager : DataServiceManager) : Realm :=
  manager.localDataService.realm

abbrev records (manager : DataServiceManager) : List OfflineStorageModel :=
  manager.localDataService.realm.records.rows

abbrev verdicts (manager : DataServiceManager) : List Verdict :=
  manager.localDataService.verdicts

@[simp]
theorem onLocal_deleteObject_records (manager : DataServiceManager) (data : DataServiceObject)
    : (manager.onLocal fun service => service.deleteObject (.object data)).records
        = manager.records := by
  unfold onLocal records RealmDataService.deleteObject
  dsimp only
  rw [RealmDataService.write_realm]
  split <;> simp

/-! ## Merging -/

def send (manager : DataServiceManager) (call : RemoteWrite × OfflineStorageModel)
    : DataServiceManager :=
  manager.onRemote fun service => service.issue call.1 call.2

def sendAll (manager : DataServiceManager) (calls : List (RemoteWrite × OfflineStorageModel))
    : DataServiceManager :=
  calls.foldl send manager

@[simp]
theorem sendAll_nil (manager : DataServiceManager) : manager.sendAll [] = manager := rfl

@[simp]
theorem sendAll_cons (manager : DataServiceManager) (call : RemoteWrite × OfflineStorageModel)
    (calls : List (RemoteWrite × OfflineStorageModel))
    : manager.sendAll (call :: calls) = (manager.send call).sendAll calls := rfl

@[simp]
theorem onRemote_realm (manager : DataServiceManager)
    (call : FirebaseDataService OfflineStorageModel → FirebaseDataService OfflineStorageModel)
    : (manager.onRemote call).realm = manager.realm := by
  unfold onRemote
  split <;> rfl

@[simp]
theorem send_realm (manager : DataServiceManager) (call : RemoteWrite × OfflineStorageModel)
    : (manager.send call).realm = manager.realm := by
  simp [send]

def outgoing (manager : DataServiceManager) : List (RemoteWrite × OfflineStorageModel) :=
  manager.localDataService.getAllRecords.filterMap fun item =>
    (manager.realm.outgoing item).map fun w => (w, item)

theorem mergeRecord_eq (T : Kind) (manager : DataServiceManager) {item : OfflineStorageModel}
    (h : Kind.ofCollectionName? item.collectionName = some T)
    : mergeRecord T manager item
        =
      match manager.realm.outgoing item with
      | some w => manager.send (w, item)
      | none => manager := by
  have hname := Kind.eq_of_ofCollectionName? h
  unfold mergeRecord Realm.outgoing RealmDataService.getData
  rw [h]
  dsimp only
  cases hobj : manager.localDataService.realm.object T item.objectID with
  | none => rfl
  | some localObj =>
    obtain ⟨hkind, hid⟩ := Realm.kind_of_object hobj
    unfold mergeChangeToRemoteDatabase
    dsimp only
    cases item.getMenthod with
    | none => rfl
    | some menthod =>
      cases menthod with
      | create => simp [send, FirebaseDataService.addObject, hkind, hid, hname]
      | update => simp [send, FirebaseDataService.updateObject, hkind, hid, hname]
      | delete => simp [send, FirebaseDataService.deleteObject']

theorem checkAndMergeChangeInLocalDatabase_eq (manager : DataServiceManager)
    : manager.checkAndMergeChangeInLocalDatabase
        =
      if manager.network = .Available then manager.sendAll manager.outgoing else manager := by
  unfold checkAndMergeChangeInLocalDatabase outgoing
  by_cases hnet : manager.network = .Available
  . rw [if_neg (by simp [hnet]), if_pos hnet]
    -- the records are read before the loop, and no call of the loop changes the stored objects
    generalize hrealm : manager.realm = realm
    generalize manager.localDataService.getAllRecords = items
    clear hnet
    induction items generalizing manager with
    | nil => rfl
    | cons item items ih =>
      rw [List.foldl_cons, List.filterMap_cons]
      have hbody : (if item.collectionName = Kind.shot.getRemoteCollectionName then
            mergeRecord .shot manager item
          else if item.collectionName = Kind.report.getRemoteCollectionName then
            mergeRecord .report manager item
          else
            manager)
          =
          match realm.outgoing item with
          | some w => manager.send (w, item)
          | none => manager := by
        rw [← hrealm]
        split
        . next h => exact mergeRecord_eq .shot manager (by simp [Kind.ofCollectionName?, h])
        . next hs =>
          split
          . next hr =>
            exact mergeRecord_eq .report manager (by rw [hr]; simp)
          . next hr => simp [Realm.outgoing, Kind.ofCollectionName?, hs, hr]
      rw [hbody]
      cases realm.outgoing item with
      | none => exact ih manager hrealm
      | some w =>
        dsimp
        exact ih (manager.send (w, item)) (by simp [hrealm])
  . rw [if_pos (by simp [hnet]), if_neg hnet]

/-! ## What sending leaves alone -/

def Captured (manager : DataServiceManager) (item : OfflineStorageModel) : Prop :=
  (∃ call ∈ manager.remoteDataService.pending, call.2 = item)
    ∨ (∃ callback ∈ manager.remoteDataService.callbacks, callback.1 = item)

def Used (manager : DataServiceManager) (id : String) : Prop :=
  ∃ item, (item ∈ manager.records ∨ manager.Captured item) ∧ item.id = id

structure Frame (manager manager' : DataServiceManager) : Prop where
  realm : manager'.realm = manager.realm
  rank : manager'.localDataService.rank = manager.localDataService.rank
  takesEffect : Verdict.takesEffect manager'.verdicts = Verdict.takesEffect manager.verdicts
  next : Verdict.next manager'.verdicts = Verdict.next manager.verdicts
  db : manager'.remoteDataService.db = manager.remoteDataService.db
  callbacks : manager'.remoteDataService.callbacks = manager.remoteDataService.callbacks
  network : manager'.network = manager.network
  uuids : manager'.uuids = manager.uuids

theorem records_congr {manager manager' : DataServiceManager} (h : manager'.realm = manager.realm)
    : manager'.records = manager.records :=
  congrArg (fun realm => realm.records.rows) h

theorem Frame.records {manager manager' : DataServiceManager} (h : Frame manager manager')
    : manager'.records = manager.records :=
  records_congr h.realm

theorem Frame.refl (manager : DataServiceManager) : Frame manager manager := by
  constructor <;> rfl

theorem Frame.trans {m₁ m₂ m₃ : DataServiceManager} (h : Frame m₁ m₂) (h' : Frame m₂ m₃)
    : Frame m₁ m₃ where
  realm := h'.realm.trans h.realm
  rank := h'.rank.trans h.rank
  takesEffect := h'.takesEffect.trans h.takesEffect
  next := h'.next.trans h.next
  db := h'.db.trans h.db
  callbacks := h'.callbacks.trans h.callbacks
  network := h'.network.trans h.network
  uuids := h'.uuids.trans h.uuids

theorem send_frame (manager : DataServiceManager) (call : RemoteWrite × OfflineStorageModel)
    : Frame manager (manager.send call) := by
  unfold send onRemote FirebaseDataService.issue
  split
  . exact .refl manager
  . next hv => constructor <;> simp [verdicts, hv]
  . constructor <;> rfl

theorem sendAll_frame (manager : DataServiceManager)
    (calls : List (RemoteWrite × OfflineStorageModel)) : Frame manager (manager.sendAll calls) := by
  induction calls generalizing manager with
  | nil => exact .refl manager
  | cons call calls ih => exact (manager.send_frame call).trans (ih _)

theorem checkAndMergeChangeInLocalDatabase_frame (manager : DataServiceManager)
    : Frame manager manager.checkAndMergeChangeInLocalDatabase := by
  rw [checkAndMergeChangeInLocalDatabase_eq]
  split
  . exact manager.sendAll_frame _
  . exact .refl manager

theorem send_pending (manager : DataServiceManager) (call : RemoteWrite × OfflineStorageModel)
    : (manager.send call).remoteDataService.pending = manager.remoteDataService.pending
        ∨
      (manager.send call).remoteDataService.pending = manager.remoteDataService.pending ++ [call]
    := by
  unfold send onRemote FirebaseDataService.issue
  split
  . exact .inl rfl
  . exact .inr rfl
  . exact .inr rfl

theorem sendAll_pending (manager : DataServiceManager)
    (calls : List (RemoteWrite × OfflineStorageModel))
    : ∃ sent, (manager.sendAll calls).remoteDataService.pending
          = manager.remoteDataService.pending ++ sent
        ∧ ∀ call ∈ sent, call ∈ calls := by
  induction calls generalizing manager with
  | nil => exact ⟨[], by simp, by simp⟩
  | cons call calls ih =>
    obtain ⟨sent, hpending, hsent⟩ := ih (manager.send call)
    have hmem : ∀ call' ∈ sent, call' ∈ call :: calls :=
      fun call' hcall' => List.mem_cons_of_mem _ (hsent call' hcall')
    rw [sendAll_cons, hpending]
    cases manager.send_pending call with
    | inl heq => exact ⟨sent, by rw [heq], hmem⟩
    | inr heq =>
      refine ⟨call :: sent, by rw [heq, List.append_assoc, List.singleton_append], ?_⟩
      intro call' hcall'
      cases List.mem_cons.mp hcall' with
      | inl heq' =>
        rw [heq']
        exact List.mem_cons_self
      | inr hcall' => exact hmem call' hcall'

theorem mem_outgoing {manager : DataServiceManager} {call : RemoteWrite × OfflineStorageModel}
    : call ∈ manager.outgoing
        ↔ call.2 ∈ manager.records ∧ manager.realm.outgoing call.2 = some call.1 := by
  unfold outgoing
  rw [List.mem_filterMap]
  constructor
  . rintro ⟨item, hitem, hcall⟩
    obtain ⟨w, hw, rfl⟩ := Option.map_eq_some_iff.mp hcall
    exact ⟨RealmDataService.mem_getAllRecords.mp hitem, hw⟩
  . rintro ⟨hitem, hw⟩
    exact ⟨call.2, RealmDataService.mem_getAllRecords.mpr hitem, by simp [hw]⟩

theorem checkAndMergeChangeInLocalDatabase_pending (manager : DataServiceManager)
    : ∃ sent, manager.checkAndMergeChangeInLocalDatabase.remoteDataService.pending
          = manager.remoteDataService.pending ++ sent
        ∧ ∀ call ∈ sent, manager.network = .Available ∧ call ∈ manager.outgoing := by
  rw [checkAndMergeChangeInLocalDatabase_eq]
  split
  . next hnetwork =>
    obtain ⟨sent, hpending, hsent⟩ := manager.sendAll_pending manager.outgoing
    exact ⟨sent, hpending, fun call hcall => ⟨hnetwork, hsent call hcall⟩⟩
  . exact ⟨[], by simp, by simp⟩

theorem checkAndMergeChangeInLocalDatabase_captured {manager : DataServiceManager}
    {item : OfflineStorageModel} (h : manager.checkAndMergeChangeInLocalDatabase.Captured item)
    : item ∈ manager.records ∨ manager.Captured item := by
  obtain ⟨call, hcall, rfl⟩ | h := h
  . obtain ⟨sent, hpending, hsent⟩ := manager.checkAndMergeChangeInLocalDatabase_pending
    rw [hpending] at hcall
    cases List.mem_append.mp hcall with
    | inl hcall => exact .inr (.inl ⟨call, hcall, rfl⟩)
    | inr hcall => exact .inl (mem_outgoing.mp (hsent call hcall).2).1
  . rw [(checkAndMergeChangeInLocalDatabase_frame manager).callbacks] at h
    exact .inr (.inr h)

theorem checkAndMergeChangeInLocalDatabase_used {manager : DataServiceManager} {id : String}
    (h : manager.checkAndMergeChangeInLocalDatabase.Used id) : manager.Used id := by
  obtain ⟨item, hrecord | hcaptured, hid⟩ := h
  . rw [manager.checkAndMergeChangeInLocalDatabase_frame.records] at hrecord
    exact ⟨item, .inl hrecord, hid⟩
  . exact ⟨item, checkAndMergeChangeInLocalDatabase_captured hcaptured, hid⟩

/-! ## Recording a change -/

def recordChange (manager : DataServiceManager) (data : DataServiceObject)
    (menthodType : MenthodType) : DataServiceManager :=
  -- `changeInLocalDatabase` up to the merge at its end.
  let previousRecords := manager.localDataService.getOfflineStore data.id
  let obj := OfflineStorageModel.make (uuidString manager.uuids) data.kind.getRemoteCollectionName
    menthodType data.id
  { manager with
    localDataService :=
      (manager.localDataService.deleteRecords previousRecords).addObject (.record obj)
    uuids := manager.uuids + 1
  }

theorem onLocal_foldl (manager : DataServiceManager) (items : List OfflineStorageModel)
    : items.foldl
        (fun manager item => manager.onLocal fun service => service.deleteObject (.record item))
        manager
        =
      { manager with localDataService := manager.localDataService.deleteRecords items } := by
  induction items generalizing manager with
  | nil => rfl
  | cons item items ih =>
    rw [List.foldl_cons, ih]
    rfl

theorem changeInLocalDatabase_eq (manager : DataServiceManager) (data : DataServiceObject)
    (menthodType : MenthodType)
    : manager.changeInLocalDatabase data menthodType
        =
      (manager.recordChange data menthodType).checkAndMergeChangeInLocalDatabase := by
  unfold changeInLocalDatabase
  dsimp only
  rw [onLocal_foldl]
  rfl

def newRecord (manager : DataServiceManager) (data : DataServiceObject) (menthodType : MenthodType)
    : OfflineStorageModel :=
  .make (uuidString manager.uuids) data.kind.getRemoteCollectionName menthodType data.id

def replaced (manager : DataServiceManager) (data : DataServiceObject)
    : List OfflineStorageModel :=
  Verdict.applied manager.verdicts (manager.localDataService.getOfflineStore data.id)

def recorded (manager : DataServiceManager) (data : DataServiceObject) : Bool :=
  Verdict.takesEffect
    (Verdict.after manager.verdicts (manager.localDataService.getOfflineStore data.id).length)

@[simp]
theorem recordChange_object (manager : DataServiceManager) (data : DataServiceObject)
    (menthodType : MenthodType) (T : Kind) (id : String)
    : (manager.recordChange data menthodType).realm.object T id = manager.realm.object T id := by
  unfold recordChange realm RealmDataService.addObject
  dsimp only
  rw [RealmDataService.write_realm]
  split <;> simp

@[simp]
theorem recordChange_verdicts (manager : DataServiceManager) (data : DataServiceObject)
    (menthodType : MenthodType)
    : (manager.recordChange data menthodType).verdicts
        =
      Verdict.after manager.verdicts
        ((manager.localDataService.getOfflineStore data.id).length + 1) := by
  unfold recordChange verdicts RealmDataService.addObject
  dsimp only
  rw [RealmDataService.write_verdicts, RealmDataService.deleteRecords_verdicts, Verdict.next_after]

theorem mem_recordChange {manager : DataServiceManager} {data : DataServiceObject}
    {menthodType : MenthodType} {record : OfflineStorageModel}
    (hnew : ∀ r ∈ manager.records, r.id ≠ uuidString manager.uuids)
    : record ∈ (manager.recordChange data menthodType).records
        ↔
      (record ∈ manager.records ∧ ∀ item ∈ manager.replaced data, record.id ≠ item.id)
        ∨ (manager.recorded data ∧ record = manager.newRecord data menthodType) := by
  unfold recordChange records RealmDataService.addObject
  dsimp only
  rw [RealmDataService.write_realm, RealmDataService.deleteRecords_verdicts]
  unfold recorded replaced newRecord
  generalize manager.localDataService.getOfflineStore data.id = items
  split
  . next htakes =>
    rw [Realm.records_add_record, Table.add_eq_upsert, Table.mem_rows_upsert,
      RealmDataService.mem_deleteRecords]
    . rw [htakes]
      constructor
      . intro h
        cases h with
        | inl h => exact .inr ⟨rfl, h⟩
        | inr h => exact .inl h.2
      . intro h
        cases h with
        | inl h => exact .inr ⟨hnew record h.1, h⟩
        | inr h => exact .inl h.2
    . by_contra hne
      obtain ⟨r, hr⟩ := Option.ne_none_iff_exists'.mp hne
      have hid : r.id = uuidString manager.uuids := Table.key_of_find? hr
      have hmem : r ∈ (manager.localDataService.deleteRecords items).realm.records.rows := by
        rw [Table.mem_rows, hid]
        exact hr
      exact hnew r (RealmDataService.mem_deleteRecords.mp hmem).1 hid
  . next htakes =>
    rw [RealmDataService.mem_deleteRecords]
    simp [htakes]

/-! ## The cascade -/

def cascade (manager : DataServiceManager) : DataServiceObject → List DataServiceObject
  | .report report =>
    (manager.localDataService.getShotData report.id).map .shot ++ [.report report]
  | .shot shot => [.shot shot]

theorem deleteObject_eq (manager : DataServiceManager) (data : DataServiceObject)
    : manager.deleteObject data = (manager.cascade data).foldl deleteSingle manager := by
  cases data with
  | report report =>
    unfold deleteObject cascade
    rw [List.foldl_append, List.foldl_map]
    rfl
  | shot shot => rfl

end DataServiceManager
