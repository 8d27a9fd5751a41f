import CaptainCue.Library.Machine
import CaptainCue.Library.Outbox
import CaptainCue.Manager.Lemmas

/-!
This module contains the manager together with its surroundings as one state machine: the user, the
network, the server that answers the oldest write, and the run loop that delivers the answers. It
shows that the machine follows the outbox pattern.
-/

namespace DataServiceManager

inductive Event where
  | addObject (data : DataServiceObject)
  | updateObject (data : DataServiceObject)
  | deleteObject (data : DataServiceObject)
  | checkAndMerge
  | network (state : InternetState)
  | applied
  | rejected (err : NSError)
  | completion (i : Nat)

def deliver (manager : DataServiceManager) (i : Nat) : Option DataServiceManager :=
  match manager.remoteDataService.callbacks[i]? with
  | some (item, err) =>
    let manager := { manager with
      remoteDataService.callbacks := manager.remoteDataService.callbacks.eraseIdx i
    }
    some (manager.completion item err)
  | none => none

section Step

-- every id is the id of objects of one type only
variable (typeOf : String → Kind)

def step (manager : DataServiceManager) : Event → Option DataServiceManager
  | .addObject data =>
    if typeOf data.id = data.kind ∧ manager.realm.object data.kind data.id = none then
      some (manager.addObject data)
    else
      none
  | .updateObject data =>
    if typeOf data.id = data.kind then some (manager.updateObject data) else none
  | .deleteObject data =>
    if manager.realm.object data.kind data.id = some data then
      some (manager.deleteObject data)
    else
      none
  | .checkAndMerge => some manager.checkAndMergeChangeInLocalDatabase
  | .network state => some (manager.changeInternetConnection state)
  | .applied =>
    manager.remoteDataService.applyOldest.map fun service =>
      { manager with remoteDataService := service }
  | .rejected err =>
    (manager.remoteDataService.rejectOldest err).map fun service =>
      { manager with remoteDataService := service }
  | .completion i => manager.deliver i

def machine : Machine DataServiceManager Event where
  step := step typeOf

end Step

/-! ## The outbox pattern behind the manager -/

abbrev Key := String × String

def target (manager : DataServiceManager) (other : Key → Option JSON) : Key → Option JSON :=
  -- What the cloud is to hold: the documents of the stored objects, and in its other collections
  -- what `other` says.
  fun key =>
    match Kind.ofCollectionName? key.1 with
    | some T => (manager.realm.object T key.2).map DataServiceObject.getJSONData
    | none => other key

def key (record : OfflineStorageModel) : Key := (record.collectionName, record.objectID)

def toWrite (call : RemoteWrite × OfflineStorageModel) : Outbox.Write Key (Option JSON) String where
  key := (call.1.collection, call.1.document)
  value := call.1.data
  tag := call.2.id

def abs (manager : DataServiceManager) (target : Key → Option JSON)
    : Outbox.State Key (Option JSON) String where
  target := target
  log := { r | ∃ record ∈ manager.records, r = (record.id, key record) }
  replica := fun key => manager.remoteDataService.db.document key.1 key.2
  queue := manager.remoteDataService.pending.map toWrite
  acks := manager.remoteDataService.callbacks.map fun callback =>
    (callback.1.id, decide (callback.2 = none))

structure Shape (typeOf : String → Kind) (manager : DataServiceManager) : Prop where
  uuid : ∀ id, manager.Used id → ∃ n, n < manager.uuids ∧ id = uuidString n
  object : ∀ T id data, manager.realm.object T id = some data → typeOf id = T
  collection : ∀ record ∈ manager.records,
    record.collectionName = (typeOf record.objectID).getRemoteCollectionName

structure Tidy (typeOf : String → Kind) (manager : DataServiceManager) : Prop
    extends Shape typeOf manager where
  -- Between two operations, a record that says `delete` is about an object that is not stored.
  menthod : ∀ record ∈ manager.records, ∃ menthodType, record.getMenthod = some menthodType
    ∧ (menthodType = .delete → manager.realm.object (typeOf record.objectID) record.objectID = none)

def Sends (manager : DataServiceManager) (target : Key → Option JSON) : Prop :=
  ∀ record ∈ manager.records, manager.realm.outgoing record
    = some ⟨record.collectionName, record.objectID, target (key record)⟩

variable {typeOf : String → Kind} {other : Key → Option JSON}

theorem target_congr {manager manager' : DataServiceManager} (other : Key → Option JSON)
    (h : manager'.realm = manager.realm) : manager'.target other = manager.target other := by
  unfold target
  rw [h]

theorem Tidy.sends {manager : DataServiceManager} (h : Tidy typeOf manager)
    (other : Key → Option JSON) : manager.Sends (manager.target other) := by
  intro record hrecord
  obtain ⟨menthodType, hmenthod, hdelete⟩ := h.menthod record hrecord
  have hcollection := h.collection record hrecord
  unfold Realm.outgoing target key
  rw [hcollection]
  simp only [Kind.ofCollectionName?_getRemoteCollectionName, hmenthod]
  cases hobj : manager.localDataService.realm.object (typeOf record.objectID) record.objectID with
  | none => simp
  | some data =>
    cases menthodType with
    | create => simp
    | update => simp
    | delete =>
      rw [hdelete rfl] at hobj
      cases hobj

theorem outgoing_of_sends {manager : DataServiceManager} {target : Key → Option JSON}
    (h : manager.Sends target)
    : manager.outgoing = manager.localDataService.getAllRecords.map fun record =>
        (⟨record.collectionName, record.objectID, target (key record)⟩, record) := by
  unfold outgoing
  rw [← List.filterMap_eq_map]
  apply List.filterMap_congr
  intro record hrecord
  rw [h record (RealmDataService.mem_getAllRecords.mp hrecord)]
  rfl

theorem Shape.unused {manager : DataServiceManager} (h : Shape typeOf manager)
    (target : Key → Option JSON) : Outbox.Unused (manager.abs target) (uuidString manager.uuids) := by
  have hused : ¬ manager.Used (uuidString manager.uuids) := by
    intro hused
    obtain ⟨n, hn, heq⟩ := h.uuid _ hused
    have := uuidString_inj.mp heq
    omega
  refine ⟨?_, ?_, ?_⟩
  . rintro x ⟨record, hrecord, heq⟩
    exact hused ⟨record, .inl hrecord, (congrArg Prod.fst heq).symm⟩
  . intro w hw htag
    obtain ⟨call, hcall, rfl⟩ := List.mem_map.mp hw
    exact hused ⟨call.2, .inr (.inl ⟨call, hcall, rfl⟩), htag⟩
  . intro a ha htag
    obtain ⟨callback, hcallback, rfl⟩ := List.mem_map.mp ha
    exact hused ⟨callback.1, .inr (.inr ⟨callback, hcallback, rfl⟩), htag⟩

theorem Shape.new {manager : DataServiceManager} (h : Shape typeOf manager)
    : ∀ r ∈ manager.records, r.id ≠ uuidString manager.uuids := by
  intro r hr heq
  obtain ⟨n, hn, hid⟩ := h.uuid r.id ⟨r, .inl hr, rfl⟩
  have := uuidString_inj.mp (heq.symm.trans hid)
  omega

/-! ### Merging -/

theorem send_simulates {manager : DataServiceManager} {target : Key → Option JSON}
    {record : OfflineStorageModel} (hrecord : record ∈ manager.records)
    : Relation.ReflTransGen Outbox.Step (manager.abs target)
        ((manager.send (⟨record.collectionName, record.objectID, target (key record)⟩, record)).abs
          target) := by
  have hframe := manager.send_frame
    (⟨record.collectionName, record.objectID, target (key record)⟩, record)
  unfold abs
  rw [hframe.records, hframe.db, hframe.callbacks]
  cases manager.send_pending
      (⟨record.collectionName, record.objectID, target (key record)⟩, record) with
  | inl h => rw [h]
  | inr h =>
    rw [h, List.map_append]
    exact .single (.send record.id (key record) ⟨record, hrecord, rfl⟩)

theorem sendAll_simulates {manager : DataServiceManager} {target : Key → Option JSON}
    {calls : List (RemoteWrite × OfflineStorageModel)}
    (h : ∀ call ∈ calls, call.2 ∈ manager.records
      ∧ call.1 = ⟨call.2.collectionName, call.2.objectID, target (key call.2)⟩)
    : Relation.ReflTransGen Outbox.Step (manager.abs target)
        ((manager.sendAll calls).abs target) := by
  induction calls generalizing manager with
  | nil => exact .refl
  | cons call calls ih =>
    obtain ⟨hrecord, hcall⟩ := h call List.mem_cons_self
    obtain ⟨w, record⟩ := call
    dsimp only at hrecord hcall
    subst hcall
    refine (send_simulates hrecord).trans (ih ?_)
    intro call' hcall'
    rw [(manager.send_frame _).records]
    exact h call' (List.mem_cons_of_mem _ hcall')

theorem merge_simulates {manager : DataServiceManager} {target : Key → Option JSON}
    (h : manager.network = .Available → manager.Sends target)
    : Relation.ReflTransGen Outbox.Step (manager.abs target)
        (manager.checkAndMergeChangeInLocalDatabase.abs target) := by
  rw [checkAndMergeChangeInLocalDatabase_eq]
  split
  . next hnetwork =>
    apply sendAll_simulates
    intro call hcall
    obtain ⟨hrecord, hw⟩ := mem_outgoing.mp hcall
    rw [h hnetwork call.2 hrecord] at hw
    exact ⟨hrecord, (Option.some.inj hw).symm⟩
  . exact .refl

theorem Shape.of_used {manager manager' : DataServiceManager} (h : Shape typeOf manager)
    (hrealm : manager'.realm = manager.realm) (huuids : manager'.uuids = manager.uuids)
    (hused : ∀ id, manager'.Used id → manager.Used id) : Shape typeOf manager' where
  uuid := by
    intro id hid
    rw [huuids]
    exact h.uuid id (hused id hid)
  object := by
    rw [hrealm]
    exact h.object
  collection := by
    rw [records_congr hrealm]
    exact h.collection

theorem Tidy.of_used {manager manager' : DataServiceManager} (h : Tidy typeOf manager)
    (hrealm : manager'.realm = manager.realm) (huuids : manager'.uuids = manager.uuids)
    (hused : ∀ id, manager'.Used id → manager.Used id) : Tidy typeOf manager' where
  toShape := h.toShape.of_used hrealm huuids hused
  menthod := by
    rw [records_congr hrealm, hrealm]
    exact h.menthod

theorem Tidy.merge {manager : DataServiceManager} (h : Tidy typeOf manager)
    : Tidy typeOf manager.checkAndMergeChangeInLocalDatabase :=
  have hframe := manager.checkAndMergeChangeInLocalDatabase_frame
  h.of_used hframe.realm hframe.uuids fun _ => checkAndMergeChangeInLocalDatabase_used

theorem target_frame {manager manager' : DataServiceManager} (h : Frame manager manager')
    : manager'.target other = manager.target other := by
  unfold target
  rw [h.realm]

/-! ### Recording a change -/

def objectKey (data : DataServiceObject) : Key := (data.kind.getRemoteCollectionName, data.id)

theorem key_eq_objectKey {record : OfflineStorageModel} {data : DataServiceObject}
    (hrecord : record.collectionName = (typeOf record.objectID).getRemoteCollectionName)
    (hdata : typeOf data.id = data.kind)
    : key record = objectKey data ↔ record.objectID = data.id := by
  unfold key objectKey
  rw [Prod.mk.injEq]
  constructor
  . intro h
    exact h.2
  . intro h
    refine ⟨?_, h⟩
    rw [hrecord, h, hdata]

theorem mem_replaced {manager : DataServiceManager} {data : DataServiceObject}
    {record : OfflineStorageModel} (h : record ∈ manager.replaced data)
    : record ∈ manager.records ∧ record.objectID = data.id :=
  RealmDataService.mem_getOfflineStore.mp (Verdict.applied_subset h)

theorem recordChange_simulates {manager : DataServiceManager} {data : DataServiceObject}
    {menthodType : MenthodType} {target target' : Key → Option JSON} (h : Shape typeOf manager)
    (hdata : typeOf data.id = data.kind) (hrecorded : manager.recorded data)
    (htarget : ∀ k, k ≠ objectKey data → target' k = target k)
    : Relation.ReflTransGen Outbox.Step (manager.abs target)
        ((manager.recordChange data menthodType).abs target') := by
  -- Whatever of the old records goes, once the new record is there the change counts as made.
  have hstep := Outbox.Step.change (objectKey data) (target' (objectKey data))
    { id | ∀ item ∈ manager.replaced data, id ≠ item.id } _ (h.unused target)
  have heq : (manager.recordChange data menthodType).abs target'
      =
      (manager.abs target).change (objectKey data) (target' (objectKey data))
        { id | ∀ item ∈ manager.replaced data, id ≠ item.id } (uuidString manager.uuids) := by
    unfold abs Outbox.State.change
    congr 1
    . funext k
      by_cases hk : k = objectKey data
      . rw [hk, Function.update_self]
      . rw [Function.update_of_ne hk]
        exact htarget k hk
    . ext ⟨id, k⟩
      simp only [Set.mem_ofPred_eq, Set.mem_insert_iff, mem_recordChange h.new]
      constructor
      . rintro ⟨record, ⟨hrecord, hkeep⟩ | ⟨-, rfl⟩, heq⟩
        . right
          refine ⟨⟨record, hrecord, heq⟩, ?_⟩
          intro _
          cases heq
          exact hkeep
        . left
          exact heq
      . rintro (heq | ⟨⟨record, hrecord, heq⟩, hkeep⟩)
        . exact ⟨_, .inr ⟨hrecorded, rfl⟩, heq⟩
        . refine ⟨record, .inl ⟨hrecord, ?_⟩, heq⟩
          intro item hitem hid
          cases heq
          -- a record with the id of a removed one is the removed one, so it is about `data`
          obtain ⟨hmem, hobjectID⟩ := mem_replaced hitem
          have : record = item := Table.eq_of_mem_rows hrecord hmem hid
          subst this
          have hk := (key_eq_objectKey (h.collection record hrecord) hdata).mpr hobjectID
          exact hkeep hk record hitem rfl
  rw [heq]
  exact .single hstep

theorem recordChange_used {manager : DataServiceManager} {data : DataServiceObject}
    {menthodType : MenthodType} {id : String} (h : Shape typeOf manager)
    (hid : (manager.recordChange data menthodType).Used id)
    : manager.Used id ∨ id = uuidString manager.uuids := by
  obtain ⟨item, hitem | hitem, rfl⟩ := hid
  . cases (mem_recordChange h.new).mp hitem with
    | inl h => exact .inl ⟨item, .inl h.1, rfl⟩
    | inr h =>
      right
      rw [h.2]
      rfl
  . exact .inl ⟨item, .inr hitem, rfl⟩

theorem Shape.recordChange {manager : DataServiceManager} (h : Shape typeOf manager)
    {data : DataServiceObject} (hdata : typeOf data.id = data.kind) (menthodType : MenthodType)
    : Shape typeOf (manager.recordChange data menthodType) where
  uuid := by
    intro id hid
    have huuids : (manager.recordChange data menthodType).uuids = manager.uuids + 1 := rfl
    rw [huuids]
    cases recordChange_used h hid with
    | inl hid =>
      obtain ⟨n, hn, heq⟩ := h.uuid id hid
      exact ⟨n, by omega, heq⟩
    | inr hid => exact ⟨manager.uuids, by omega, hid⟩
  object := by
    intro T id data' hobj
    rw [recordChange_object] at hobj
    exact h.object T id data' hobj
  collection := by
    intro record hrecord
    cases (mem_recordChange h.new).mp hrecord with
    | inl hr => exact h.collection record hr.1
    | inr hr =>
      rw [hr.2]
      unfold newRecord OfflineStorageModel.make
      dsimp only
      rw [hdata]

@[simp]
theorem recordChange_target (manager : DataServiceManager) (data : DataServiceObject)
    (menthodType : MenthodType)
    : (manager.recordChange data menthodType).target other = manager.target other := by
  funext k
  unfold target
  cases Kind.ofCollectionName? k.1 with
  | none => rfl
  | some T =>
    dsimp only
    rw [recordChange_object]

end DataServiceManager
