import CaptainCue.Manager.Staleness

/-!
This module contains what the manager does to a cloud that others write to as well: it never reads
it, and it writes only documents of the collections of the application, each with its own id.
-/

/--
What a step has made of `own` follows what it has made of `before`: each document is the same in both
afterwards, or the step has left it alone in both.
-/
def Firestore.Apart (before after own own' : Firestore) : Prop :=
  ∀ T : Kind, ∀ id,
    after.document T.getRemoteCollectionName id = own'.document T.getRemoteCollectionName id
      ∨ (after.document T.getRemoteCollectionName id = before.document T.getRemoteCollectionName id
        ∧ own'.document T.getRemoteCollectionName id = own.document T.getRemoteCollectionName id)

theorem Firestore.Apart.refl (before own : Firestore) : Apart before before own own :=
  fun _ _ => .inr ⟨rfl, rfl⟩

theorem Firestore.Apart.write (before own : Firestore) (w : RemoteWrite)
    : Apart before (before.write w) own (own.write w) := by
  intro T id
  rw [Firestore.document_write, Firestore.document_write]
  split
  . exact .inl rfl
  . exact .inr ⟨rfl, rfl⟩

theorem Firestore.Apart.writeAll (before own : Firestore) (ws : List RemoteWrite)
    : Apart before (before.writeAll ws) own (own.writeAll ws) := by
  induction ws generalizing before own with
  | nil => exact .refl before own
  | cons w ws ih =>
    intro T id
    cases ih (before.write w) (own.write w) T id with
    | inl heq => exact .inl heq
    | inr hkept =>
      rw [Firestore.writeAll_cons, Firestore.writeAll_cons, hkept.1, hkept.2]
      exact Apart.write before own w T id

namespace DataServiceManager

variable {typeOf : String → Kind}

def withCloud (manager : DataServiceManager) (db : Firestore) : DataServiceManager :=
  { manager with remoteDataService.db := db }

theorem Healthy.withCloud {manager : DataServiceManager} (h : Healthy typeOf manager)
    (db : Firestore) : Healthy typeOf (manager.withCloud db) :=
  ⟨h.toTidy.of_used rfl rfl fun _ hid => hid, h.verdicts⟩

/-! ## The cloud is never read -/

section WithCloud

variable (manager : DataServiceManager) (db : Firestore)

theorem withCloud_send (call : RemoteWrite × OfflineStorageModel)
    : (manager.withCloud db).send call = (manager.send call).withCloud db := by
  have hverdicts : (manager.withCloud db).localDataService.verdicts
      = manager.localDataService.verdicts := rfl
  unfold send onRemote
  rw [hverdicts]
  split <;> rfl

theorem withCloud_sendAll (calls : List (RemoteWrite × OfflineStorageModel))
    : (manager.withCloud db).sendAll calls = (manager.sendAll calls).withCloud db := by
  induction calls generalizing manager with
  | nil => rfl
  | cons call calls ih => rw [sendAll_cons, sendAll_cons, withCloud_send, ih]

theorem withCloud_checkAndMergeChangeInLocalDatabase
    : (manager.withCloud db).checkAndMergeChangeInLocalDatabase
        = manager.checkAndMergeChangeInLocalDatabase.withCloud db := by
  have hnetwork : (manager.withCloud db).network = manager.network := rfl
  have houtgoing : (manager.withCloud db).outgoing = manager.outgoing := rfl
  rw [checkAndMergeChangeInLocalDatabase_eq, checkAndMergeChangeInLocalDatabase_eq, hnetwork,
    houtgoing, withCloud_sendAll]
  split <;> rfl

theorem withCloud_changeInLocalDatabase (data : DataServiceObject) (menthodType : MenthodType)
    : (manager.withCloud db).changeInLocalDatabase data menthodType
        = (manager.changeInLocalDatabase data menthodType).withCloud db := by
  rw [changeInLocalDatabase_eq, changeInLocalDatabase_eq,
    ← withCloud_checkAndMergeChangeInLocalDatabase]
  rfl

theorem withCloud_addObject (data : DataServiceObject)
    : (manager.withCloud db).addObject data = (manager.addObject data).withCloud db := by
  unfold addObject
  rw [← withCloud_changeInLocalDatabase]
  rfl

theorem withCloud_updateObject (data : DataServiceObject)
    : (manager.withCloud db).updateObject data = (manager.updateObject data).withCloud db := by
  unfold updateObject
  rw [← withCloud_changeInLocalDatabase]
  rfl

theorem withCloud_deleteSingle (data : DataServiceObject)
    : (manager.withCloud db).deleteSingle data = (manager.deleteSingle data).withCloud db := by
  unfold deleteSingle
  rw [withCloud_changeInLocalDatabase]
  rfl

theorem withCloud_deleteObject (data : DataServiceObject)
    : (manager.withCloud db).deleteObject data = (manager.deleteObject data).withCloud db := by
  have hcascade : (manager.withCloud db).cascade data = manager.cascade data := by
    cases data <;> rfl
  rw [deleteObject_eq, deleteObject_eq, hcascade]
  clear hcascade
  induction manager.cascade data generalizing manager with
  | nil => rfl
  | cons item items ih => rw [List.foldl_cons, List.foldl_cons, withCloud_deleteSingle, ih]

theorem withCloud_changeInternetConnection (state : InternetState)
    : (manager.withCloud db).changeInternetConnection state
        = (manager.changeInternetConnection state).withCloud db := by
  have hnetwork : (manager.withCloud db).network = manager.network := rfl
  unfold changeInternetConnection
  rw [hnetwork]
  split
  . rfl
  . rw [← withCloud_checkAndMergeChangeInLocalDatabase]
    rfl

theorem withCloud_completion (item : OfflineStorageModel) (err : Option NSError)
    : (manager.withCloud db).completion item err = (manager.completion item err).withCloud db := by
  unfold completion
  split <;> rfl

theorem withCloud_deliver (i : Nat)
    : (manager.withCloud db).deliver i
        = (manager.deliver i).map fun manager => manager.withCloud db := by
  have hcallbacks : (manager.withCloud db).remoteDataService.callbacks
      = manager.remoteDataService.callbacks := rfl
  unfold deliver
  rw [hcallbacks]
  split
  . rw [Option.map_some, ← withCloud_completion]
    rfl
  . rfl

end WithCloud

def written (manager : DataServiceManager) : Event → List RemoteWrite
  -- what the event writes to the cloud
  | .applied => (manager.remoteDataService.pending.take 1).map Prod.fst
  | _ => []

theorem withCloud_step {manager manager' : DataServiceManager} {e : Event}
    (hstep : (machine typeOf).step manager e = some manager') (own : Firestore)
    : (machine typeOf).step (manager.withCloud own) e
        = some (manager'.withCloud (own.writeAll (manager.written e))) := by
  unfold machine at hstep ⊢
  cases e with
  | addObject data =>
    obtain ⟨hguard, heq⟩ := Option.ite_none_right_eq_some.mp hstep
    cases heq
    exact (if_pos hguard).trans (congrArg some (manager.withCloud_addObject own data))
  | updateObject data =>
    obtain ⟨hguard, heq⟩ := Option.ite_none_right_eq_some.mp hstep
    cases heq
    exact (if_pos hguard).trans (congrArg some (manager.withCloud_updateObject own data))
  | deleteObject data =>
    obtain ⟨hguard, heq⟩ := Option.ite_none_right_eq_some.mp hstep
    cases heq
    exact (if_pos hguard).trans (congrArg some (manager.withCloud_deleteObject own data))
  | checkAndMerge =>
    cases hstep
    exact congrArg some (manager.withCloud_checkAndMergeChangeInLocalDatabase own)
  | network state =>
    cases hstep
    exact congrArg some (manager.withCloud_changeInternetConnection own state)
  | applied =>
    obtain ⟨service, hservice, rfl⟩ := Option.map_eq_some_iff.mp hstep
    obtain ⟨w, item, pending, hpending, heq⟩ := applyOldest_eq_some hservice
    rw [heq]
    have hpending' : (manager.withCloud own).remoteDataService.pending = (w, item) :: pending :=
      hpending
    simp only [step, FirebaseDataService.applyOldest, written, hpending, hpending',
      List.take_succ_cons, List.take_zero, List.map_cons, List.map_nil]
    rfl
  | rejected err =>
    obtain ⟨service, hservice, rfl⟩ := Option.map_eq_some_iff.mp hstep
    obtain ⟨w, item, pending, hpending, heq⟩ := rejectOldest_eq_some hservice
    rw [heq]
    have hpending' : (manager.withCloud own).remoteDataService.pending = (w, item) :: pending :=
      hpending
    simp only [step, FirebaseDataService.rejectOldest, hpending']
    rfl
  | completion i =>
    have hdeliver : manager.deliver i = some manager' := hstep
    have hown := manager.withCloud_deliver own i
    rw [hdeliver] at hown
    exact hown

theorem step_db {manager manager' : DataServiceManager} {e : Event}
    (hstep : (machine typeOf).step manager e = some manager')
    : manager'.remoteDataService.db = manager.remoteDataService.db.writeAll (manager.written e) := by
  have hsame := withCloud_step hstep manager.remoteDataService.db
  have hmanager : manager.withCloud manager.remoteDataService.db = manager := rfl
  rw [hmanager, hstep, Option.some.injEq] at hsame
  exact congrArg (fun manager => manager.remoteDataService.db) hsame

/-! ## The documents that are written -/

def Addressed (k : Key) (v : Option JSON) : Prop :=
  ∃ T : Kind, k.1 = T.getRemoteCollectionName
    ∧ ∀ data, v = some data → data.value "id" JSONValue.string? = some k.2

theorem Addressed.ofCollectionName? {k : Key} {v : Option JSON} (h : Addressed k v)
    : Kind.ofCollectionName? k.1 ≠ none := by
  obtain ⟨T, hcollection, -⟩ := h
  rw [hcollection, Kind.ofCollectionName?_getRemoteCollectionName]
  exact Option.some_ne_none T

theorem target_addressed (manager : DataServiceManager) (other : Key → Option JSON) {k : Key}
    {T : Kind} (hT : Kind.ofCollectionName? k.1 = some T)
    : Addressed k (manager.target other k) := by
  refine ⟨T, Kind.eq_of_ofCollectionName? hT, ?_⟩
  intro data hdata
  unfold target at hdata
  rw [hT] at hdata
  obtain ⟨object, hobject, rfl⟩ := Option.map_eq_some_iff.mp hdata
  rw [object.value_id, (Realm.kind_of_object hobject).2]

theorem target_elsewhere (manager : DataServiceManager) (other : Key → Option JSON) {k : Key}
    (hT : Kind.ofCollectionName? k.1 = none) : manager.target other k = other k := by
  unfold target
  rw [hT]

theorem step_addressed {manager manager' : DataServiceManager} {e : Event}
    (h : Healthy typeOf manager) (hstep : (machine typeOf).step manager e = some manager') {k : Key}
    (hwrites : ∀ v ∈ manager.writes k, Addressed k v)
    : ∀ v ∈ manager'.writes k, Addressed k v := by
  cases hT : Kind.ofCollectionName? k.1 with
  | some T =>
    exact (step_move manager e manager' h hstep).forall_mem hwrites
      (target_addressed manager (fun _ => none) hT) (target_addressed manager' (fun _ => none) hT)
  | none =>
    -- What is written does not depend on what the other collections are to hold, so nothing is
    -- written there.
    intro v hv
    have hnone : v = none :=
      (step_move manager e manager' h hstep).forall_mem (P := fun v => v = none)
        (fun w hw => absurd hT (hwrites w hw).ofCollectionName?)
        (target_elsewhere manager (fun _ => none) hT)
        (target_elsewhere manager' (fun _ => none) hT) v hv
    have hsome : v = some [] :=
      (step_move manager e manager' h hstep).forall_mem (P := fun v => v = some [])
        (fun w hw => absurd hT (hwrites w hw).ofCollectionName?)
        (target_elsewhere manager (fun _ => some []) hT)
        (target_elsewhere manager' (fun _ => some []) hT) v hv
    rw [hnone] at hsome
    cases hsome

theorem run_addressed {start final : DataServiceManager} {events : List Event}
    (hstart : Initial typeOf start) (hrun : (machine typeOf).run start events = some final) (k : Key)
    : ∀ v ∈ final.writes k, Addressed k v := by
  have hboth : Healthy typeOf final ∧ ∀ v ∈ final.writes k, Addressed k v := by
    refine Machine.invariant
      (I := fun manager => Healthy typeOf manager ∧ ∀ v ∈ manager.writes k, Addressed k v)
      ?_ ⟨hstart.healthy, ?_⟩ hrun
    . intro manager e manager' h hstep
      exact ⟨(step_simulates start.elsewhere manager e manager' h.1 hstep).1,
        step_addressed h.1 hstep h.2⟩
    . simp [writes, hstart.pending]
  exact hboth.2

end DataServiceManager
