import CaptainCue.Manager.Sync

/-!
This module contains the answers of the server and their delivery to the completion closures, for
any verdicts on the transactions of the closures.
-/

namespace DataServiceManager

variable {typeOf : String → Kind}

theorem document_write_eq (db : Firestore) (call : RemoteWrite × OfflineStorageModel)
    : (fun k : Key => (db.write call.1).document k.1 k.2)
        =
      Outbox.applyWrite (fun k : Key => db.document k.1 k.2) (toWrite call) := by
  funext k
  rw [Firestore.document_write]
  by_cases hk : k = (toWrite call).key
  . rw [hk, Outbox.applyWrite_self, if_pos ⟨rfl, rfl⟩]
    rfl
  . rw [Outbox.applyWrite_ne _ _ hk, if_neg]
    rintro ⟨h₁, h₂⟩
    exact hk (Prod.ext h₁ h₂)

def answered (manager : DataServiceManager) (db : Firestore) (item : OfflineStorageModel)
    (err : Option NSError) (pending : List (RemoteWrite × OfflineStorageModel))
    : DataServiceManager :=
  -- The oldest call has been answered with `err`; if it was applied, `db` is the cloud since.
  { manager with
    remoteDataService := { manager.remoteDataService with
      db := db
      pending := pending
      callbacks := manager.remoteDataService.callbacks ++ [(item, err)]
    }
  }

theorem answered_captured {manager : DataServiceManager} {w : RemoteWrite}
    {item : OfflineStorageModel} {pending : List (RemoteWrite × OfflineStorageModel)}
    (hpending : manager.remoteDataService.pending = (w, item) :: pending) {db : Firestore}
    {err : Option NSError} {item' : OfflineStorageModel}
    (h : (manager.answered db item err pending).Captured item') : manager.Captured item' := by
  unfold Captured
  rw [hpending]
  obtain ⟨call, hcall, rfl⟩ | ⟨callback, hcallback, rfl⟩ := h
  . exact .inl ⟨call, List.mem_cons_of_mem _ hcall, rfl⟩
  . cases List.mem_append.mp hcallback with
    | inl hcallback => exact .inr ⟨callback, hcallback, rfl⟩
    | inr hcallback =>
      rw [List.mem_singleton.mp hcallback]
      exact .inl ⟨(w, item), List.mem_cons_self, rfl⟩

theorem Tidy.answered {manager : DataServiceManager} (h : Tidy typeOf manager)
    {w : RemoteWrite} {item : OfflineStorageModel}
    {pending : List (RemoteWrite × OfflineStorageModel)}
    (hpending : manager.remoteDataService.pending = (w, item) :: pending) (db : Firestore)
    (err : Option NSError) : Tidy typeOf (manager.answered db item err pending) := by
  refine h.of_used rfl rfl ?_
  rintro id ⟨item', hrecord | hcaptured, hid⟩
  . exact ⟨item', .inl hrecord, hid⟩
  . exact ⟨item', .inr (answered_captured hpending hcaptured), hid⟩

theorem abs_queue {manager : DataServiceManager} {call : RemoteWrite × OfflineStorageModel}
    {pending : List (RemoteWrite × OfflineStorageModel)} (target : Key → Option JSON)
    (hpending : manager.remoteDataService.pending = call :: pending)
    : (manager.abs target).queue = toWrite call :: pending.map toWrite := by
  unfold abs
  rw [hpending]
  rfl

theorem applyOldest_eq_some {manager : DataServiceManager}
    {service : FirebaseDataService OfflineStorageModel}
    (h : manager.remoteDataService.applyOldest = some service)
    : ∃ w item pending, manager.remoteDataService.pending = (w, item) :: pending
        ∧ { manager with remoteDataService := service }
          = manager.answered (manager.remoteDataService.db.write w) item none pending := by
  unfold FirebaseDataService.applyOldest at h
  split at h
  . cases h
  . next w item pending hpending =>
    cases h
    exact ⟨w, item, pending, hpending, rfl⟩

theorem rejectOldest_eq_some {manager : DataServiceManager}
    {service : FirebaseDataService OfflineStorageModel} {err : NSError}
    (h : manager.remoteDataService.rejectOldest err = some service)
    : ∃ w item pending, manager.remoteDataService.pending = (w, item) :: pending
        ∧ { manager with remoteDataService := service }
          = manager.answered manager.remoteDataService.db item (some err) pending := by
  unfold FirebaseDataService.rejectOldest at h
  split at h
  . cases h
  . next w item pending hpending =>
    cases h
    exact ⟨w, item, pending, hpending, rfl⟩

theorem applyOldest_simulates {manager : DataServiceManager} (h : Tidy typeOf manager)
    {service : FirebaseDataService OfflineStorageModel}
    (happly : manager.remoteDataService.applyOldest = some service)
    (target : Key → Option JSON)
    : Tidy typeOf { manager with remoteDataService := service }
        ∧ Relation.ReflTransGen Outbox.Step (manager.abs target)
            (abs { manager with remoteDataService := service } target) := by
  obtain ⟨w, item, pending, hpending, heq⟩ := applyOldest_eq_some happly
  rw [heq]
  refine ⟨h.answered hpending _ none, .single ?_⟩
  have hstep := Outbox.Step.apply _ _ (abs_queue target hpending)
  unfold abs at hstep ⊢
  unfold answered
  dsimp only at hstep ⊢
  rw [document_write_eq _ (w, item), List.map_append]
  exact hstep

theorem rejectOldest_simulates {manager : DataServiceManager} (h : Tidy typeOf manager)
    {service : FirebaseDataService OfflineStorageModel} {err : NSError}
    (hreject : manager.remoteDataService.rejectOldest err = some service)
    (target : Key → Option JSON)
    : Tidy typeOf { manager with remoteDataService := service }
        ∧ Relation.ReflTransGen Outbox.Step (manager.abs target)
            (abs { manager with remoteDataService := service } target) := by
  obtain ⟨w, item, pending, hpending, heq⟩ := rejectOldest_eq_some hreject
  rw [heq]
  refine ⟨h.answered hpending _ (some err), .single ?_⟩
  have hstep := Outbox.Step.reject _ _ (abs_queue target hpending)
  unfold abs at hstep ⊢
  unfold answered
  dsimp only at hstep ⊢
  rw [List.map_append]
  exact hstep

/-! ### The delivery of the answers -/

theorem completion_realm (manager : DataServiceManager) (item : OfflineStorageModel)
    (err : Option NSError)
    : (manager.completion item err).realm
        =
      if err = none ∧ Verdict.takesEffect manager.verdicts then
        manager.realm.delete (.record item)
      else
        manager.realm := by
  unfold completion
  by_cases herr : err = none
  . rw [if_pos herr]
    unfold onLocal realm RealmDataService.deleteObject
    dsimp only
    rw [RealmDataService.write_realm]
    simp [herr, verdicts]
  . rw [if_neg herr, if_neg (by simp [herr])]

@[simp]
theorem completion_object (manager : DataServiceManager) (item : OfflineStorageModel)
    (err : Option NSError) (T : Kind) (id : String)
    : (manager.completion item err).realm.object T id = manager.realm.object T id := by
  rw [completion_realm]
  split <;> simp

theorem mem_completion_records {manager : DataServiceManager} {item record : OfflineStorageModel}
    {err : Option NSError}
    : record ∈ (manager.completion item err).records
        ↔
      record ∈ manager.records
        ∧ ((err = none ∧ Verdict.takesEffect manager.verdicts) → record.id ≠ item.id) := by
  show record ∈ (manager.completion item err).realm.records.rows ↔ _
  rw [completion_realm]
  split
  . next h =>
    rw [Realm.records_delete_record, Table.mem_rows_erase]
    simp only [h, and_self, true_implies]
    exact and_comm
  . next h => simp [h]

theorem completion_remoteDataService (manager : DataServiceManager) (item : OfflineStorageModel)
    (err : Option NSError)
    : (manager.completion item err).remoteDataService = manager.remoteDataService := by
  unfold completion
  split <;> rfl

theorem completion_captured (manager : DataServiceManager) (item : OfflineStorageModel)
    (err : Option NSError) (item' : OfflineStorageModel)
    : (manager.completion item err).Captured item' ↔ manager.Captured item' := by
  unfold Captured
  rw [completion_remoteDataService]

theorem completion_uuids (manager : DataServiceManager) (item : OfflineStorageModel)
    (err : Option NSError) : (manager.completion item err).uuids = manager.uuids := by
  unfold completion
  split <;> rfl

theorem deliver_eq_some {manager manager' : DataServiceManager} {i : Nat}
    (h : manager.deliver i = some manager')
    : ∃ item err l r, manager.remoteDataService.callbacks = l ++ (item, err) :: r
        ∧ manager'
          = { manager with remoteDataService.callbacks := l ++ r }.completion item err := by
  unfold deliver at h
  split at h
  . next item err hget =>
    cases h
    obtain ⟨hi, hget⟩ := List.getElem?_eq_some_iff.mp hget
    refine ⟨item, err, manager.remoteDataService.callbacks.take i,
      manager.remoteDataService.callbacks.drop (i + 1), ?_, ?_⟩
    . rw [← hget, List.getElem_cons_drop, List.take_append_drop]
    . rw [List.eraseIdx_eq_take_drop_succ]
  . cases h

theorem delivered_captured {manager : DataServiceManager}
    {callback : OfflineStorageModel × Option NSError}
    {l r : List (OfflineStorageModel × Option NSError)}
    (hcallbacks : manager.remoteDataService.callbacks = l ++ callback :: r)
    {item : OfflineStorageModel}
    (h : Captured { manager with remoteDataService.callbacks := l ++ r } item)
    : manager.Captured item := by
  unfold Captured
  rw [hcallbacks]
  obtain hcall | ⟨callback', hcallback', heq⟩ := h
  . exact .inl hcall
  . refine .inr ⟨callback', ?_, heq⟩
    cases List.mem_append.mp hcallback' with
    | inl hmem => exact List.mem_append_left _ hmem
    | inr hmem => exact List.mem_append_right _ (List.mem_cons_of_mem _ hmem)

theorem Tidy.completion {manager : DataServiceManager} (h : Tidy typeOf manager)
    (item : OfflineStorageModel) (err : Option NSError)
    : Tidy typeOf (manager.completion item err) where
  uuid := by
    intro id hid
    rw [completion_uuids]
    apply h.uuid id
    obtain ⟨item', hrecord | hcaptured, hid⟩ := hid
    . exact ⟨item', .inl (mem_completion_records.mp hrecord).1, hid⟩
    . rw [completion_captured] at hcaptured
      exact ⟨item', .inr hcaptured, hid⟩
  object := by
    intro T id data hobj
    rw [completion_object] at hobj
    exact h.object T id data hobj
  collection := by
    intro record hrecord
    exact h.collection record (mem_completion_records.mp hrecord).1
  menthod := by
    intro record hrecord
    rw [completion_object]
    exact h.menthod record (mem_completion_records.mp hrecord).1

theorem completion_target (manager : DataServiceManager) (item : OfflineStorageModel)
    (err : Option NSError) (other : Key → Option JSON)
    : (manager.completion item err).target other = manager.target other := by
  funext k
  unfold target
  cases Kind.ofCollectionName? k.1 with
  | none => rfl
  | some T =>
    dsimp only
    rw [completion_object]

theorem deliver_simulates {manager manager' : DataServiceManager} (h : Tidy typeOf manager)
    {i : Nat} (hdeliver : manager.deliver i = some manager') (other : Key → Option JSON)
    : Tidy typeOf manager'
        ∧ Relation.ReflTransGen Outbox.Step (manager.abs (manager.target other))
            (manager'.abs (manager'.target other)) := by
  -- Delivering an answer acknowledges the record that was sent, unless the removal of the record
  -- fails: then the answer is as good as lost.
  obtain ⟨item, err, l, r, hcallbacks, rfl⟩ := deliver_eq_some hdeliver
  constructor
  . apply Tidy.completion
    refine h.of_used rfl rfl ?_
    rintro id ⟨item', hrecord | hcaptured, hid⟩
    . exact ⟨item', .inl hrecord, hid⟩
    . exact ⟨item', .inr (delivered_captured hcallbacks hcaptured), hid⟩
  . rw [completion_target]
    have hacks : (manager.abs (manager.target other)).acks
        =
        l.map (fun callback => (callback.1.id, decide (callback.2 = none)))
          ++ (item.id, decide (err = none))
          :: r.map (fun callback => (callback.1.id, decide (callback.2 = none))) := by
      unfold abs
      rw [hcallbacks, List.map_append, List.map_cons]
    refine .single ?_
    by_cases htakes : Verdict.takesEffect manager.verdicts
    . have hstep := Outbox.Step.ack _ _ _ _ hacks
      convert hstep using 1
      unfold abs
      rw [completion_remoteDataService]
      congr 1
      . ext ⟨id, k⟩
        simp only [Set.mem_ofPred_eq, mem_completion_records, decide_eq_true_eq]
        constructor
        . rintro ⟨record, ⟨hrecord, hkeep⟩, heq⟩
          refine ⟨⟨record, hrecord, heq⟩, ?_⟩
          intro herr
          cases heq
          exact hkeep ⟨herr, htakes⟩
        . rintro ⟨⟨record, hrecord, heq⟩, hkeep⟩
          refine ⟨record, ⟨hrecord, ?_⟩, heq⟩
          intro herr
          cases heq
          exact hkeep herr.1
      . rw [List.map_append]
    . have hstep := Outbox.Step.lose _ _ _ hacks
      convert hstep using 1
      unfold abs
      rw [completion_remoteDataService]
      congr 1
      . ext ⟨id, k⟩
        have hnot : ¬ (err = none ∧ Verdict.takesEffect manager.verdicts) := fun h => htakes h.2
        simp [mem_completion_records, hnot]
      . rw [List.map_append]

end DataServiceManager
