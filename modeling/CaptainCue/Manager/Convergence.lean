import CaptainCue.Manager.Answers
import CaptainCue.Manager.Operations

/-!
This module contains the runs in which every transaction of the local database commits. In each
state they reach, an object without a record has its document in the cloud, and keeps it whichever
of the writes in flight still arrive.
-/

namespace DataServiceManager

variable {typeOf : String → Kind} (other : Key → Option JSON)

structure Healthy (typeOf : String → Kind) (manager : DataServiceManager) : Prop
    extends Tidy typeOf manager where
  verdicts : manager.verdicts = []

/-! ### No operation fails -/

theorem send_verdicts {manager : DataServiceManager} (h : manager.verdicts = [])
    (call : RemoteWrite × OfflineStorageModel) : (manager.send call).verdicts = [] := by
  unfold verdicts at h
  unfold send onRemote
  rw [h]
  exact h

theorem sendAll_verdicts {manager : DataServiceManager} (h : manager.verdicts = [])
    (calls : List (RemoteWrite × OfflineStorageModel)) : (manager.sendAll calls).verdicts = [] := by
  induction calls generalizing manager with
  | nil => exact h
  | cons call calls ih => exact ih (send_verdicts h call)

theorem sendAll_remoteDataService {manager : DataServiceManager} (h : manager.verdicts = [])
    (calls : List (RemoteWrite × OfflineStorageModel))
    : (manager.sendAll calls).remoteDataService
        =
      { manager.remoteDataService with
        pending := manager.remoteDataService.pending ++ calls
        issued := manager.remoteDataService.issued ++ calls
      } := by
  induction calls generalizing manager with
  | nil => simp
  | cons call calls ih =>
    have hsend : (manager.send call).remoteDataService
        = manager.remoteDataService.issue call.1 call.2 := by
      unfold verdicts at h
      unfold send onRemote
      rw [h]
    rw [sendAll_cons, ih (send_verdicts h call), hsend]
    unfold FirebaseDataService.issue
    simp

theorem checkAndMergeChangeInLocalDatabase_verdicts {manager : DataServiceManager}
    (h : manager.verdicts = [])
    : manager.checkAndMergeChangeInLocalDatabase.verdicts = [] := by
  rw [checkAndMergeChangeInLocalDatabase_eq]
  split
  . exact sendAll_verdicts h _
  . exact h

theorem onLocal_write_verdicts {manager : DataServiceManager} (h : manager.verdicts = [])
    (changes : Realm → Realm)
    : (manager.onLocal fun service => service.write changes).verdicts = [] := by
  show Verdict.next manager.verdicts = []
  rw [h]
  rfl

theorem changeInLocalDatabase_verdicts {manager : DataServiceManager} (h : manager.verdicts = [])
    (data : DataServiceObject) (menthodType : MenthodType)
    : (manager.changeInLocalDatabase data menthodType).verdicts = [] := by
  rw [changeInLocalDatabase_eq]
  apply checkAndMergeChangeInLocalDatabase_verdicts
  rw [recordChange_verdicts, h]
  exact Verdict.after_nil _

theorem saved_verdicts {manager : DataServiceManager} (h : manager.verdicts = [])
    (data : DataServiceObject) : (manager.saved data).verdicts = [] :=
  onLocal_write_verdicts h _

theorem saveObject_verdicts {manager : DataServiceManager} (h : manager.verdicts = [])
    (data : DataServiceObject) (menthodType : MenthodType)
    : (manager.saveObject data menthodType).verdicts = [] :=
  changeInLocalDatabase_verdicts (saved_verdicts h data) data menthodType

theorem deleteSingle_verdicts {manager : DataServiceManager} (h : manager.verdicts = [])
    (data : DataServiceObject) : (manager.deleteSingle data).verdicts = [] :=
  onLocal_write_verdicts (changeInLocalDatabase_verdicts h data .delete) _

theorem addObject_verdicts {manager : DataServiceManager} (h : manager.verdicts = [])
    (data : DataServiceObject) : (manager.addObject data).verdicts = [] :=
  changeInLocalDatabase_verdicts (onLocal_write_verdicts h _) data .create

theorem deleteObject_verdicts {manager : DataServiceManager} (h : manager.verdicts = [])
    (data : DataServiceObject) : (manager.deleteObject data).verdicts = [] := by
  rw [deleteObject_eq]
  induction manager.cascade data generalizing manager with
  | nil => exact h
  | cons item items ih => exact ih (deleteSingle_verdicts h item)

theorem completion_verdicts {manager : DataServiceManager} (h : manager.verdicts = [])
    (item : OfflineStorageModel) (err : Option NSError)
    : (manager.completion item err).verdicts = [] := by
  unfold completion
  split
  . exact onLocal_write_verdicts h _
  . exact h

theorem mem_replaced_of_verdicts {manager : DataServiceManager} (h : manager.verdicts = [])
    {data : DataServiceObject} {record : OfflineStorageModel}
    : record ∈ manager.replaced data ↔ record ∈ manager.records ∧ record.objectID = data.id := by
  unfold replaced
  rw [h, Verdict.applied_nil]
  exact RealmDataService.mem_getOfflineStore

theorem recorded_of_verdicts {manager : DataServiceManager} (h : manager.verdicts = [])
    (data : DataServiceObject) : manager.recorded data := by
  unfold recorded
  rw [h, Verdict.after_nil]
  rfl

theorem deleting_takesEffect {manager : DataServiceManager} (h : manager.verdicts = [])
    (data : DataServiceObject) : Verdict.takesEffect (manager.deleting data).verdicts := by
  have hverdicts : (manager.deleting data).verdicts = [] := by
    apply checkAndMergeChangeInLocalDatabase_verdicts
    rw [recordChange_verdicts, h]
    exact Verdict.after_nil _
  rw [hverdicts]
  rfl

theorem mem_recordChange_of_verdicts {manager : DataServiceManager}
    (hnew : ∀ r ∈ manager.records, r.id ≠ uuidString manager.uuids)
    (hverdicts : manager.verdicts = []) {data : DataServiceObject} {menthodType : MenthodType}
    {record : OfflineStorageModel}
    : record ∈ (manager.recordChange data menthodType).records
        ↔
      (record ∈ manager.records ∧ record.objectID ≠ data.id)
        ∨ record = manager.newRecord data menthodType := by
  rw [mem_recordChange hnew]
  simp only [mem_replaced_of_verdicts hverdicts, recorded_of_verdicts hverdicts data, true_and]
  constructor
  . rintro (⟨hrecord, hkeep⟩ | heq)
    . left
      refine ⟨hrecord, ?_⟩
      intro hid
      exact hkeep record ⟨hrecord, hid⟩ rfl
    . exact .inr heq
  . rintro (⟨hrecord, hid⟩ | heq)
    . left
      refine ⟨hrecord, ?_⟩
      intro item hitem heq
      have : record = item := Table.eq_of_mem_rows hrecord hitem.1 heq
      subst this
      exact hid hitem.2
    . exact .inr heq

theorem deleteAll_object {manager : DataServiceManager} (h : manager.verdicts = [])
    (items : List DataServiceObject) (T : Kind) (id : String)
    : (items.foldl deleteSingle manager).realm.object T id
        =
      if ∃ item ∈ items, (T, id) = (item.kind, item.id) then
        none
      else
        manager.realm.object T id := by
  induction items generalizing manager with
  | nil => simp
  | cons item items ih =>
    rw [List.foldl_cons, ih (deleteSingle_verdicts h item),
      deleteSingle_object (deleting_takesEffect h item)]
    by_cases hitems : ∃ item ∈ items, (T, id) = (item.kind, item.id)
    . rw [if_pos hitems, if_pos]
      obtain ⟨item', hitem', heq⟩ := hitems
      exact ⟨item', List.mem_cons_of_mem _ hitem', heq⟩
    . rw [if_neg hitems]
      by_cases hitem : T = item.kind ∧ id = item.id
      . rw [if_pos hitem, if_pos]
        exact ⟨item, List.mem_cons_self, by rw [hitem.1, hitem.2]⟩
      . rw [if_neg hitem, if_neg]
        rintro ⟨item', hitem', heq⟩
        cases List.mem_cons.mp hitem' with
        | inl hfirst =>
          rw [hfirst] at heq
          exact hitem (Prod.mk.inj heq)
        | inr hrest => exact hitems ⟨item', hrest, heq⟩

theorem Healthy.saveObject {manager : DataServiceManager} (h : Healthy typeOf manager)
    {data : DataServiceObject} (hdata : typeOf data.id = data.kind) {menthodType : MenthodType}
    (hmenthod : menthodType ≠ .delete)
    : Healthy typeOf (manager.saveObject data menthodType)
        ∧ Relation.ReflTransGen Outbox.Step (manager.abs (manager.target other))
            ((manager.saveObject data menthodType).abs
              ((manager.saveObject data menthodType).target other)) := by
  have hv := saved_verdicts h.verdicts data
  have hsim := saveObject_simulates other h.toTidy hdata hmenthod
    (recorded_of_verdicts hv data) (by
      intro record hrecord hid _ _
      rw [mem_replaced_of_verdicts hv, saved_records]
      exact ⟨hrecord, hid⟩)
  exact ⟨⟨hsim.1, saveObject_verdicts h.verdicts data menthodType⟩, hsim.2⟩

theorem Healthy.deleteSingle {manager : DataServiceManager} (h : Healthy typeOf manager)
    {data : DataServiceObject} (hdata : typeOf data.id = data.kind)
    : Healthy typeOf (manager.deleteSingle data)
        ∧ Relation.ReflTransGen Outbox.Step (manager.abs (manager.target other))
            ((manager.deleteSingle data).abs ((manager.deleteSingle data).target other)) := by
  have hsim := deleteSingle_simulates other h.toTidy hdata
    (fun _ record hrecord hid => (mem_replaced_of_verdicts h.verdicts).mpr ⟨hrecord, hid⟩)
    (recorded_of_verdicts h.verdicts data) (deleting_takesEffect h.verdicts data)
  exact ⟨⟨hsim.1, deleteSingle_verdicts h.verdicts data⟩, hsim.2⟩

/-! ### The cascade -/

theorem typeOf_of_mem_cascade {manager : DataServiceManager} (h : Shape typeOf manager)
    {data item : DataServiceObject} (hdata : typeOf data.id = data.kind)
    (hitem : item ∈ manager.cascade data) : typeOf item.id = item.kind := by
  cases data with
  | report report =>
    cases List.mem_append.mp hitem with
    | inl hitem =>
      obtain ⟨shot, hshot, rfl⟩ := List.mem_map.mp hitem
      have hrow := (RealmDataService.mem_getShotData.mp hshot).1
      apply h.object .shot shot.id (.shot shot)
      rw [Realm.object_shot, Table.mem_rows.mp hrow]
      rfl
    | inr hitem =>
      rw [List.mem_singleton.mp hitem]
      exact hdata
  | shot shot =>
    rw [List.mem_singleton.mp hitem]
    exact hdata

theorem Healthy.deleteAll {manager : DataServiceManager} (h : Healthy typeOf manager)
    {items : List DataServiceObject} (hitems : ∀ item ∈ items, typeOf item.id = item.kind)
    : Healthy typeOf (items.foldl DataServiceManager.deleteSingle manager)
        ∧ Relation.ReflTransGen Outbox.Step (manager.abs (manager.target other))
            ((items.foldl DataServiceManager.deleteSingle manager).abs
              ((items.foldl DataServiceManager.deleteSingle manager).target other)) := by
  induction items generalizing manager with
  | nil => exact ⟨h, .refl⟩
  | cons item items ih =>
    obtain ⟨hhead, hsteps⟩ := h.deleteSingle other (hitems item List.mem_cons_self)
    obtain ⟨htail, hsteps'⟩ := ih hhead fun item' hitem' =>
      hitems item' (List.mem_cons_of_mem _ hitem')
    exact ⟨htail, hsteps.trans hsteps'⟩

/-! ### One event, and all runs -/

theorem Healthy.merge {manager : DataServiceManager} (h : Healthy typeOf manager)
    : Healthy typeOf manager.checkAndMergeChangeInLocalDatabase
        ∧ Relation.ReflTransGen Outbox.Step (manager.abs (manager.target other))
            (manager.checkAndMergeChangeInLocalDatabase.abs
              (manager.checkAndMergeChangeInLocalDatabase.target other)) := by
  rw [target_frame manager.checkAndMergeChangeInLocalDatabase_frame]
  exact ⟨⟨h.toTidy.merge, checkAndMergeChangeInLocalDatabase_verdicts h.verdicts⟩,
    merge_simulates fun _ => h.toTidy.sends other⟩

theorem Healthy.network {manager : DataServiceManager} (h : Healthy typeOf manager)
    (state : InternetState) : Healthy typeOf { manager with network := state } :=
  ⟨h.toTidy.of_used rfl rfl fun _ hid => hid, h.verdicts⟩

theorem step_simulates (manager : DataServiceManager) (e : Event) (manager' : DataServiceManager)
    (h : Healthy typeOf manager) (hstep : (machine typeOf).step manager e = some manager')
    : Healthy typeOf manager'
        ∧ Relation.ReflTransGen Outbox.Step (manager.abs (manager.target other))
            (manager'.abs (manager'.target other)) := by
  unfold machine at hstep
  cases e with
  | addObject data =>
    simp only [step] at hstep
    split at hstep
    . next hguard =>
      cases hstep
      rw [addObject_eq hguard.2]
      exact h.saveObject other hguard.1 (by simp)
    . cases hstep
  | updateObject data =>
    simp only [step] at hstep
    split at hstep
    . next hguard =>
      cases hstep
      exact h.saveObject other hguard (by simp)
    . cases hstep
  | deleteObject data =>
    simp only [step] at hstep
    split at hstep
    . next hguard =>
      cases hstep
      rw [deleteObject_eq]
      apply h.deleteAll other
      intro item hitem
      exact typeOf_of_mem_cascade h.toShape (h.object _ _ _ hguard) hitem
    . cases hstep
  | checkAndMerge =>
    cases hstep
    exact h.merge other
  | network state =>
    cases hstep
    unfold changeInternetConnection
    split
    . exact ⟨h, .refl⟩
    . exact (h.network state).merge other
  | applied =>
    obtain ⟨service, hservice, rfl⟩ := Option.map_eq_some_iff.mp hstep
    obtain ⟨htidy, hsteps⟩ := applyOldest_simulates h.toTidy hservice (manager.target other)
    exact ⟨⟨htidy, h.verdicts⟩, hsteps⟩
  | rejected err =>
    obtain ⟨service, hservice, rfl⟩ := Option.map_eq_some_iff.mp hstep
    obtain ⟨htidy, hsteps⟩ := rejectOldest_simulates h.toTidy hservice (manager.target other)
    exact ⟨⟨htidy, h.verdicts⟩, hsteps⟩
  | completion i =>
    obtain ⟨htidy, hsteps⟩ := deliver_simulates h.toTidy hstep other
    refine ⟨⟨htidy, ?_⟩, hsteps⟩
    obtain ⟨item, err, l, r, -, rfl⟩ := deliver_eq_some hstep
    apply completion_verdicts
    exact h.verdicts

/-! What an event can do, for the invariants that need not know which event it was -/

inductive Stepped (typeOf : String → Kind) (manager : DataServiceManager)
    : DataServiceManager → Prop where
  | save {data : DataServiceObject} {menthodType : MenthodType}
      (hdata : typeOf data.id = data.kind) (hmenthod : menthodType ≠ .delete)
      : Stepped typeOf manager (manager.saveObject data menthodType)
  | delete {items : List DataServiceObject} (hitems : ∀ item ∈ items, typeOf item.id = item.kind)
      : Stepped typeOf manager (items.foldl deleteSingle manager)
  | idle : Stepped typeOf manager manager
  | merge (state : InternetState)
      : Stepped typeOf manager
          { manager with network := state }.checkAndMergeChangeInLocalDatabase
  | answer {w : RemoteWrite} {item : OfflineStorageModel}
      {pending : List (RemoteWrite × OfflineStorageModel)}
      (hpending : manager.remoteDataService.pending = (w, item) :: pending) (db : Firestore)
      (err : Option NSError) : Stepped typeOf manager (manager.answered db item err pending)
  | completion {item : OfflineStorageModel} {err : Option NSError}
      {l r : List (OfflineStorageModel × Option NSError)}
      (hcallbacks : manager.remoteDataService.callbacks = l ++ (item, err) :: r)
      : Stepped typeOf manager
          ({ manager with remoteDataService.callbacks := l ++ r }.completion item err)

theorem Shape.stepped {manager manager' : DataServiceManager} (h : Shape typeOf manager) {e : Event}
    (hstep : (machine typeOf).step manager e = some manager') : Stepped typeOf manager manager' := by
  unfold machine at hstep
  cases e with
  | addObject data =>
    simp only [step] at hstep
    split at hstep
    . next hguard =>
      cases hstep
      rw [addObject_eq hguard.2]
      exact .save hguard.1 (by simp)
    . cases hstep
  | updateObject data =>
    simp only [step] at hstep
    split at hstep
    . next hguard =>
      cases hstep
      exact .save hguard (by simp)
    . cases hstep
  | deleteObject data =>
    simp only [step] at hstep
    split at hstep
    . next hguard =>
      cases hstep
      rw [deleteObject_eq]
      apply Stepped.delete
      intro item hitem
      exact typeOf_of_mem_cascade h (h.object _ _ _ hguard) hitem
    . cases hstep
  | checkAndMerge =>
    cases hstep
    exact .merge manager.network
  | network state =>
    cases hstep
    unfold changeInternetConnection
    split
    . exact .idle
    . exact .merge state
  | applied =>
    obtain ⟨service, hservice, rfl⟩ := Option.map_eq_some_iff.mp hstep
    obtain ⟨w, item, pending, hpending, heq⟩ := applyOldest_eq_some hservice
    rw [heq]
    exact .answer hpending _ none
  | rejected err =>
    obtain ⟨service, hservice, rfl⟩ := Option.map_eq_some_iff.mp hstep
    obtain ⟨w, item, pending, hpending, heq⟩ := rejectOldest_eq_some hservice
    rw [heq]
    exact .answer hpending _ (some err)
  | completion i =>
    obtain ⟨item, err, l, r, hcallbacks, rfl⟩ := deliver_eq_some hstep
    exact .completion hcallbacks

structure Synced (manager : DataServiceManager) : Prop where
  records : manager.records = []
  pending : manager.remoteDataService.pending = []
  callbacks : manager.remoteDataService.callbacks = []
  documents : ∀ (T : Kind) (id : String),
    manager.remoteDataService.db.document T.getRemoteCollectionName id
      = (manager.realm.object T id).map DataServiceObject.getJSONData

structure Start (typeOf : String → Kind) (manager : DataServiceManager) : Prop
    extends Synced manager where
  -- Where the runs start, whatever becomes of their transactions.
  object : ∀ T id data, manager.realm.object T id = some data → typeOf id = T

structure Initial (typeOf : String → Kind) (manager : DataServiceManager) : Prop
    extends Start typeOf manager where
  verdicts : manager.verdicts = []

theorem Synced.not_used {manager : DataServiceManager} (h : Synced manager) (id : String)
    : ¬ manager.Used id := by
  unfold Used Captured
  rw [h.records, h.pending, h.callbacks]
  simp

theorem Start.tidy {manager : DataServiceManager} (h : Start typeOf manager)
    : Tidy typeOf manager where
  uuid := fun id hid => absurd hid (h.not_used id)
  object := h.object
  collection := by simp [h.records]
  menthod := by simp [h.records]

theorem Initial.healthy {manager : DataServiceManager} (h : Initial typeOf manager)
    : Healthy typeOf manager where
  toTidy := h.toStart.tidy
  verdicts := h.verdicts

def elsewhere (manager : DataServiceManager) : Key → Option JSON :=
  -- What the collections of the application do not contain stays as it is in the cloud.
  fun key => manager.remoteDataService.db.document key.1 key.2

theorem Synced.inv {manager : DataServiceManager} (h : Synced manager)
    : Outbox.Inv (manager.abs (manager.target manager.elsewhere)) := by
  apply Outbox.Inv.init
  . funext k
    unfold abs target elsewhere
    dsimp only
    cases hT : Kind.ofCollectionName? k.1 with
    | none => rfl
    | some T =>
      dsimp only
      rw [Kind.eq_of_ofCollectionName? hT]
      exact h.documents T k.2
  . simp [abs, h.records]
  . simp [abs, h.pending]

theorem run_simulates {start final : DataServiceManager} {events : List Event}
    (hstart : Initial typeOf start) (hrun : (machine typeOf).run start events = some final)
    : Healthy typeOf final
        ∧ Outbox.Inv (final.abs (final.target start.elsewhere)) := by
  obtain ⟨hfinal, hsteps⟩ := Machine.run_simulates
    (fun manager => manager.abs (manager.target start.elsewhere))
    (step_simulates start.elsewhere) hstart.healthy hrun
  exact ⟨hfinal, hstart.inv.steps hsteps⟩

theorem document_writeAll (db : Firestore) (calls : List (RemoteWrite × OfflineStorageModel))
    : (fun k : Key => (db.writeAll (calls.map Prod.fst)).document k.1 k.2)
        =
      Outbox.applyAll (fun k : Key => db.document k.1 k.2) (calls.map toWrite) := by
  induction calls generalizing db with
  | nil => rfl
  | cons call calls ih =>
    rw [List.map_cons, List.map_cons, Firestore.writeAll_cons, Outbox.applyAll_cons,
      ← document_write_eq, ih]

theorem target_getRemoteCollectionName (manager : DataServiceManager) (T : Kind) (id : String)
    : manager.target other (T.getRemoteCollectionName, id)
        = (manager.realm.object T id).map DataServiceObject.getJSONData := by
  simp [target]

theorem record_or_settled_of_inv {manager : DataServiceManager}
    (hinv : Outbox.Inv (manager.abs (manager.target other))) (T : Kind) (id : String)
    : (∃ record ∈ manager.records,
          record.collectionName = T.getRemoteCollectionName ∧ record.objectID = id)
        ∨
      ∀ calls : List (RemoteWrite × OfflineStorageModel),
        calls.Sublist manager.remoteDataService.pending →
          (manager.remoteDataService.db.writeAll (calls.map Prod.fst)).document
              T.getRemoteCollectionName id
            = (manager.realm.object T id).map DataServiceObject.getJSONData := by
  cases hinv.converges (T.getRemoteCollectionName, id) with
  | inl hlog =>
    left
    obtain ⟨tag, record, hrecord, heq⟩ := hlog
    have hkey := congrArg Prod.snd heq
    exact ⟨record, hrecord, (congrArg Prod.fst hkey).symm, (congrArg Prod.snd hkey).symm⟩
  | inr hsettled =>
    right
    intro calls hcalls
    have happly := hsettled (calls.map toWrite) (hcalls.map toWrite)
    have hreplica := congrFun (document_writeAll manager.remoteDataService.db calls)
      (T.getRemoteCollectionName, id)
    rw [← target_getRemoteCollectionName other]
    exact hreplica.trans happly

theorem record_or_settled {start final : DataServiceManager} {events : List Event}
    (hstart : Initial typeOf start) (hrun : (machine typeOf).run start events = some final)
    (T : Kind) (id : String)
    : (∃ record ∈ final.records,
          record.collectionName = T.getRemoteCollectionName ∧ record.objectID = id)
        ∨
      ∀ calls : List (RemoteWrite × OfflineStorageModel),
        calls.Sublist final.remoteDataService.pending →
          (final.remoteDataService.db.writeAll (calls.map Prod.fst)).document
              T.getRemoteCollectionName id
            = (final.realm.object T id).map DataServiceObject.getJSONData :=
  record_or_settled_of_inv start.elsewhere (run_simulates hstart hrun).2 T id

/--
For each id of each state reached: the outbox has a record of it, or whichever of the writes in
flight are applied, the cloud has its document afterwards. With an empty outbox and nothing in
flight the cloud has the documents of all objects.
-/
theorem cloud_converges {start final : DataServiceManager} {events : List Event}
    (hstart : Initial typeOf start) (hrun : (machine typeOf).run start events = some final)
    : (∀ (T : Kind) (id : String),
        (∃ record ∈ final.records,
            record.collectionName = T.getRemoteCollectionName ∧ record.objectID = id)
          ∨
        ∀ calls : List (RemoteWrite × OfflineStorageModel),
          calls.Sublist final.remoteDataService.pending →
            (final.remoteDataService.db.writeAll (calls.map Prod.fst)).document
                T.getRemoteCollectionName id
              = (final.realm.object T id).map DataServiceObject.getJSONData)
      ∧ (final.records = [] → final.remoteDataService.pending = [] →
          ∀ (T : Kind) (id : String),
            final.remoteDataService.db.document T.getRemoteCollectionName id
              = (final.realm.object T id).map DataServiceObject.getJSONData) := by
  refine ⟨record_or_settled hstart hrun, ?_⟩
  intro hrecords _ T id
  cases record_or_settled hstart hrun T id with
  | inl hrecord =>
    rw [hrecords] at hrecord
    simp at hrecord
  | inr hsettled => exact hsettled [] (List.nil_sublist _)

def sampleReport : ReportModel := { id := "r", title := "Match", time := 0 }

def sampleShot : ShotModel := { id := "s", ballNumber := 3, time := 0, reportID := "r" }

def sampleManager : DataServiceManager where
  localDataService := { realm := .empty, rank := fun _ => 0, verdicts := [] }
  remoteDataService := { db := ⟨fun _ => ∅⟩, pending := [], callbacks := [], issued := [] }
  network := .Available
  uuids := 0

theorem sampleManager_initial (typeOf : String → Kind) : Initial typeOf sampleManager where
  records := rfl
  pending := rfl
  callbacks := rfl
  documents := by
    intro T id
    cases T <;> rfl
  object := by
    intro T id data h
    cases T <;> cases h
  verdicts := rfl

theorem cloud_converges_late_completion
    : ∃ final, (machine fun _ => .shot).run sampleManager
        [.addObject (.shot sampleShot), .updateObject (.shot { sampleShot with ballNumber := 4 }),
          .applied, .completion 0, .applied, .completion 0] = some final
      ∧ final.remoteDataService.db.document Kind.shot.getRemoteCollectionName "s"
        = (final.realm.object .shot "s").map DataServiceObject.getJSONData := by
  have hrun : ∃ final, (machine fun _ => .shot).run sampleManager
        [.addObject (.shot sampleShot), .updateObject (.shot { sampleShot with ballNumber := 4 }),
          .applied, .completion 0, .applied, .completion 0] = some final
      ∧ final.records = [] ∧ final.remoteDataService.pending = [] :=
    ⟨_, rfl, rfl, rfl⟩
  obtain ⟨final, hrun, hrecords, hpending⟩ := hrun
  exact ⟨final, hrun,
    (cloud_converges (sampleManager_initial _) hrun).2 hrecords hpending .shot "s"⟩

end DataServiceManager
