import CaptainCue.Manager.Convergence

/-!
This module contains the runs in which commits fail or the process dies between two commits, and the
restart after them.
-/

namespace Verdict

@[simp]
theorem after_dead (n : Nat) : after [killed 0] n = [killed 0] := by
  induction n with
  | zero => rfl
  | succ n ih =>
    rw [after_succ]
    exact ih

end Verdict

namespace RealmDataService

theorem deleteRecords_realm_of_applied {service : RealmDataService}
    {items : List OfflineStorageModel} (h : Verdict.applied service.verdicts items = [])
    : (service.deleteRecords items).realm = service.realm := by
  unfold deleteRecords
  induction items generalizing service with
  | nil => rfl
  | cons item items ih =>
    unfold Verdict.applied at h
    split at h
    . cases h
    . next htakes =>
      have hrealm : (service.deleteObject (.record item)).realm = service.realm := by
        unfold deleteObject
        rw [write_realm, if_neg htakes]
      rw [List.foldl_cons, ih h, hrealm]

end RealmDataService

namespace DataServiceManager

variable {typeOf : String → Kind} (other : Key → Option JSON)

/-! ### The restart -/

def relaunch (manager : DataServiceManager) (arrived : List (RemoteWrite × OfflineStorageModel))
    : DataServiceManager where
  -- The process starts anew: the closures are lost, and of the writes in flight those in `arrived`
  -- reach the server before all later ones.
  localDataService := { manager.localDataService with verdicts := [] }
  remoteDataService :=
    { manager.remoteDataService with
      db := manager.remoteDataService.db.writeAll (arrived.map Prod.fst)
      pending := []
      callbacks := []
    }
  network := .Available
  uuids := manager.uuids

def acknowledge (manager : DataServiceManager) : DataServiceManager :=
  match manager.remoteDataService.pending with
  | [] => manager
  | (w, item) :: pending =>
    let manager := { manager with
      remoteDataService.db := manager.remoteDataService.db.write w
      remoteDataService.pending := pending
    }
    manager.completion item none

def acknowledgeAll (manager : DataServiceManager) : DataServiceManager :=
  acknowledge^[manager.remoteDataService.pending.length] manager

def restart (manager : DataServiceManager) (arrived : List (RemoteWrite × OfflineStorageModel))
    : DataServiceManager :=
  -- `application(_:didFinishLaunchingWithOptions:)`, and the answers to all the writes it sends.
  (manager.relaunch arrived).checkAndMergeChangeInLocalDatabase.acknowledgeAll

/-! ### Which transactions have to take effect -/

def SaveHarmless (manager : DataServiceManager) (data : DataServiceObject) : Prop :=
  -- Adding or updating `data` does no harm to its synchronisation if its new record gets stored, or
  -- if none of its transactions takes effect, or if the process dies while it still has an old
  -- record; and if no old record that says `delete` is left when `data` is stored anew.
  let old := manager.localDataService.getOfflineStore data.id
  let removed := Verdict.applied (Verdict.next manager.verdicts) old
  (Verdict.takesEffect manager.verdicts →
      ∀ record ∈ old, record.getMenthod = some .delete → record ∈ removed)
    ∧ (Verdict.takesEffect (Verdict.after manager.verdicts (old.length + 1))
      ∨ (¬ Verdict.takesEffect manager.verdicts ∧ removed = [])
      ∨ (Verdict.after manager.verdicts (old.length + 2) = [.killed 0]
        ∧ ∃ record ∈ old, record ∉ removed))

def DeleteHarmless (manager : DataServiceManager) (data : DataServiceObject) : Prop :=
  -- Deleting `data` alone does no harm if its record and its removal both get stored, after its old
  -- records are gone or while nothing is sent; or if neither gets stored and no old record was
  -- removed, or the process dies while one is left.
  let old := manager.localDataService.getOfflineStore data.id
  let removed := Verdict.applied manager.verdicts old
  let recorded := Verdict.takesEffect (Verdict.after manager.verdicts old.length)
  let deleted := Verdict.takesEffect (Verdict.after manager.verdicts (old.length + 1))
  (recorded ∧ deleted ∧ (manager.network = .Available → ∀ record ∈ old, record ∈ removed))
    ∨ (¬ recorded ∧ ¬ deleted
      ∧ (removed = []
        ∨ (Verdict.after manager.verdicts (old.length + 2) = [.killed 0]
          ∧ ∃ record ∈ old, record ∉ removed)))

instance (manager : DataServiceManager) (data : DataServiceObject)
    : Decidable (manager.SaveHarmless data) :=
  inferInstanceAs (Decidable (_ ∧ (_ ∨ _ ∨ _)))

instance (manager : DataServiceManager) (data : DataServiceObject)
    : Decidable (manager.DeleteHarmless data) :=
  inferInstanceAs (Decidable ((_ ∧ _ ∧ _) ∨ (_ ∧ _ ∧ _)))

def CascadeHarmless : List DataServiceObject → DataServiceManager → Prop
  | [], _ => True
  | item :: items, manager =>
    manager.DeleteHarmless item ∧ CascadeHarmless items (manager.deleteSingle item)

def Harmless (manager : DataServiceManager) : Event → Prop
  | .addObject data => manager.SaveHarmless data
  | .updateObject data => manager.SaveHarmless data
  | .deleteObject data => CascadeHarmless (manager.cascade data) manager
  | _ => True

/-! ### What a restart needs -/

def Recoverable (typeOf : String → Kind) (other : Key → Option JSON) (manager : DataServiceManager)
    : Prop :=
  -- The process lives and follows the outbox pattern, or it is dead and each object has a record or
  -- is settled.
  Tidy typeOf manager
    ∧ (Outbox.Inv (manager.abs (manager.target other))
      ∨ (manager.verdicts = [.killed 0]
        ∧ ∀ k, Outbox.Kept (manager.abs (manager.target other)) k))

theorem Recoverable.kept {manager : DataServiceManager} (h : Recoverable typeOf other manager)
    (k : Key) : Outbox.Kept (manager.abs (manager.target other)) k := by
  cases h.2 with
  | inl hinv => exact hinv.kept k
  | inr hdead => exact hdead.2 k

theorem Recoverable.quiet {manager manager' : DataServiceManager}
    (h : Recoverable typeOf other manager) (htidy : Tidy typeOf manager')
    (hrealm : manager'.realm = manager.realm)
    (hremote : manager'.remoteDataService = manager.remoteDataService)
    (hdead : manager.verdicts = [.killed 0] → manager'.verdicts = [.killed 0])
    : Recoverable typeOf other manager' := by
  have habs : manager'.abs (manager'.target other) = manager.abs (manager.target other) := by
    unfold abs
    rw [target_congr other hrealm, records_congr hrealm, hremote]
  refine ⟨htidy, ?_⟩
  rw [habs]
  cases h.2 with
  | inl hinv => exact .inl hinv
  | inr hkept => exact .inr ⟨hdead hkept.1, hkept.2⟩

theorem sendAll_of_dead {manager : DataServiceManager} (h : manager.verdicts = [.killed 0])
    (calls : List (RemoteWrite × OfflineStorageModel)) : manager.sendAll calls = manager := by
  induction calls with
  | nil => rfl
  | cons call calls ih =>
    have hsend : manager.send call = manager := by
      unfold verdicts at h
      unfold send onRemote
      rw [h]
    rw [sendAll_cons, hsend]
    exact ih

theorem checkAndMergeChangeInLocalDatabase_of_dead {manager : DataServiceManager}
    (h : manager.verdicts = [.killed 0])
    : manager.checkAndMergeChangeInLocalDatabase = manager := by
  rw [checkAndMergeChangeInLocalDatabase_eq]
  split
  . exact sendAll_of_dead h _
  . rfl

theorem Recoverable.merge {manager : DataServiceManager} (h : Recoverable typeOf other manager)
    : Recoverable typeOf other manager.checkAndMergeChangeInLocalDatabase := by
  cases h.2 with
  | inl hinv =>
    refine ⟨h.1.merge, .inl ?_⟩
    rw [target_frame manager.checkAndMergeChangeInLocalDatabase_frame]
    exact hinv.steps (merge_simulates fun _ => h.1.sends other)
  | inr hdead =>
    rw [checkAndMergeChangeInLocalDatabase_of_dead hdead.1]
    exact h

/-! ### Operations none of whose transactions takes effect -/

theorem recordChange_realm_of_not {manager : DataServiceManager} {data : DataServiceObject}
    (menthodType : MenthodType) (hremoved : manager.replaced data = [])
    (hrecorded : ¬ manager.recorded data)
    : (manager.recordChange data menthodType).realm = manager.realm := by
  unfold recorded at hrecorded
  unfold recordChange realm RealmDataService.addObject
  dsimp only
  rw [RealmDataService.write_realm, RealmDataService.deleteRecords_verdicts, if_neg hrecorded]
  exact RealmDataService.deleteRecords_realm_of_applied hremoved

theorem Tidy.recordChange_of_not {manager : DataServiceManager} (h : Tidy typeOf manager)
    {data : DataServiceObject} (hdata : typeOf data.id = data.kind) (menthodType : MenthodType)
    (hrealm : (manager.recordChange data menthodType).realm = manager.realm)
    : Tidy typeOf (manager.recordChange data menthodType) where
  toShape := h.toShape.recordChange hdata menthodType
  menthod := by
    rw [records_congr hrealm, hrealm]
    exact h.menthod

theorem Recoverable.recordChange_of_not {manager : DataServiceManager}
    (h : Recoverable typeOf other manager) {data : DataServiceObject}
    (hdata : typeOf data.id = data.kind) (menthodType : MenthodType)
    (hremoved : manager.replaced data = []) (hrecorded : ¬ manager.recorded data)
    : Recoverable typeOf other (manager.recordChange data menthodType) := by
  have hrealm := recordChange_realm_of_not menthodType hremoved hrecorded
  apply h.quiet other (h.1.recordChange_of_not hdata menthodType hrealm) hrealm rfl
  intro hdead
  rw [recordChange_verdicts, hdead, Verdict.after_dead]

theorem Recoverable.onLocal_of_not {manager : DataServiceManager}
    (h : Recoverable typeOf other manager) (changes : Realm → Realm)
    (htakes : ¬ Verdict.takesEffect manager.verdicts)
    : Recoverable typeOf other (manager.onLocal fun service => service.write changes) := by
  have hrealm : (manager.onLocal fun service => service.write changes).realm = manager.realm := by
    unfold onLocal realm
    rw [RealmDataService.write_realm, if_neg htakes]
  have hused : ∀ id, (manager.onLocal fun service => service.write changes).Used id →
      manager.Used id := by
    intro id hid
    unfold Used at hid ⊢
    rw [records_congr hrealm] at hid
    exact hid
  apply h.quiet other (h.1.of_used hrealm rfl hused) hrealm rfl
  intro hdead
  show Verdict.next manager.verdicts = [.killed 0]
  rw [hdead]
  rfl

theorem saved_getOfflineStore (manager : DataServiceManager) (data : DataServiceObject) (id : String)
    : (manager.saved data).localDataService.getOfflineStore id
        = manager.localDataService.getOfflineStore id := by
  have hrecords : (manager.saved data).realm.records = manager.realm.records := by
    unfold saved onLocal realm RealmDataService.updateObject
    dsimp only
    rw [RealmDataService.write_realm]
    split <;> simp
  have hrank : (manager.saved data).localDataService.rank = manager.localDataService.rank := rfl
  unfold RealmDataService.getOfflineStore
  unfold realm at hrecords
  rw [hrecords, hrank]

theorem saved_replaced (manager : DataServiceManager) (data : DataServiceObject)
    : (manager.saved data).replaced data
        =
      Verdict.applied (Verdict.next manager.verdicts)
        (manager.localDataService.getOfflineStore data.id) := by
  unfold replaced
  rw [saved_getOfflineStore]
  rfl

theorem saved_recorded (manager : DataServiceManager) (data : DataServiceObject)
    : (manager.saved data).recorded data
        =
      Verdict.takesEffect (Verdict.after manager.verdicts
        ((manager.localDataService.getOfflineStore data.id).length + 1)) := by
  unfold recorded
  rw [saved_getOfflineStore, Verdict.after_succ]
  rfl

theorem Recoverable.saveObject_of_not {manager : DataServiceManager}
    (h : Recoverable typeOf other manager) {data : DataServiceObject}
    (hdata : typeOf data.id = data.kind) (menthodType : MenthodType)
    (htakes : ¬ Verdict.takesEffect manager.verdicts) (hremoved : (manager.saved data).replaced data = [])
    (hrecorded : ¬ (manager.saved data).recorded data)
    : Recoverable typeOf other (manager.saveObject data menthodType) := by
  rw [saveObject_eq_merge]
  apply Recoverable.merge
  apply Recoverable.recordChange_of_not other _ hdata menthodType hremoved hrecorded
  exact h.onLocal_of_not other _ htakes

theorem deleting_verdicts_takesEffect (manager : DataServiceManager) (data : DataServiceObject)
    : Verdict.takesEffect (manager.deleting data).verdicts
        =
      Verdict.takesEffect (Verdict.after manager.verdicts
        ((manager.localDataService.getOfflineStore data.id).length + 1)) := by
  unfold deleting
  rw [(checkAndMergeChangeInLocalDatabase_frame _).takesEffect, recordChange_verdicts]

theorem Recoverable.deleteSingle_of_not {manager : DataServiceManager}
    (h : Recoverable typeOf other manager) {data : DataServiceObject}
    (hdata : typeOf data.id = data.kind) (hremoved : manager.replaced data = [])
    (hrecorded : ¬ manager.recorded data)
    (hdeleted : ¬ Verdict.takesEffect (manager.deleting data).verdicts)
    : Recoverable typeOf other (manager.deleteSingle data) := by
  rw [deleteSingle_eq]
  apply Recoverable.onLocal_of_not other _ _ hdeleted
  unfold deleting
  apply Recoverable.merge
  exact h.recordChange_of_not other hdata .delete hremoved hrecorded

/-! ### Death while an old record is left -/

theorem mem_recordChange_of_survivor {manager : DataServiceManager} (h : Shape typeOf manager)
    {data : DataServiceObject} {menthodType : MenthodType} {record : OfflineStorageModel}
    (hrecord : record ∈ manager.records) (hkeep : record ∉ manager.replaced data)
    : record ∈ (manager.recordChange data menthodType).records := by
  apply (mem_recordChange h.new).mpr
  left
  refine ⟨hrecord, ?_⟩
  intro item hitem hid
  apply hkeep
  have : record = item := Table.eq_of_mem_rows hrecord (mem_replaced hitem).1 hid
  rw [this]
  exact hitem

theorem recordChange_kept {manager : DataServiceManager} (h : Shape typeOf manager)
    {data : DataServiceObject} (hdata : typeOf data.id = data.kind) {menthodType : MenthodType}
    {target target' : Key → Option JSON} (hkept : ∀ k, Outbox.Kept (manager.abs target) k)
    (hsurvivor : ∃ record ∈ manager.records,
      record.objectID = data.id ∧ record ∉ manager.replaced data)
    (htarget : ∀ k, k ≠ objectKey data → target' k = target k) (k : Key)
    : Outbox.Kept ((manager.recordChange data menthodType).abs target') k := by
  by_cases hk : k = objectKey data
  . left
    obtain ⟨record, hrecord, hid, hkeep⟩ := hsurvivor
    have hkey := (key_eq_objectKey (h.collection record hrecord) hdata).mpr hid
    refine ⟨record.id, record, mem_recordChange_of_survivor h hrecord hkeep, ?_⟩
    rw [hk, hkey]
  . cases hkept k with
    | inl hlog =>
      left
      obtain ⟨tag, record, hrecord, heq⟩ := hlog
      have hkey : k = key record := congrArg Prod.snd heq
      refine ⟨tag, record, mem_recordChange_of_survivor h hrecord ?_, heq⟩
      intro hreplaced
      apply hk
      rw [hkey]
      exact (key_eq_objectKey (h.collection record hrecord) hdata).mpr (mem_replaced hreplaced).2
    | inr hsettled =>
      right
      unfold Outbox.Settled abs at hsettled ⊢
      dsimp only at hsettled ⊢
      rw [htarget k hk]
      exact hsettled

theorem agree_of_sends {manager : DataServiceManager} {target : Key → Option JSON}
    (hsends : manager.Sends target) {calls : List (RemoteWrite × OfflineStorageModel)}
    (hcalls : ∀ call ∈ calls, call ∈ manager.outgoing) (k : Key)
    : Outbox.Agree k (target k) (calls.map toWrite) := by
  intro w hw hkey
  obtain ⟨call, hcall, rfl⟩ := List.mem_map.mp hw
  obtain ⟨hrecord, hwrite⟩ := mem_outgoing.mp (hcalls call hcall)
  rw [hsends call.2 hrecord] at hwrite
  have hwrite := Option.some.inj hwrite
  unfold toWrite at hkey ⊢
  dsimp only at hkey ⊢
  rw [← hwrite] at hkey ⊢
  dsimp only at hkey ⊢
  rw [← hkey]
  rfl

theorem merge_kept {manager : DataServiceManager} {target : Key → Option JSON}
    (hsends : manager.Sends target) (hkept : ∀ k, Outbox.Kept (manager.abs target) k) (k : Key)
    : Outbox.Kept (manager.checkAndMergeChangeInLocalDatabase.abs target) k := by
  have hframe := manager.checkAndMergeChangeInLocalDatabase_frame
  obtain ⟨sent, hpending, hsent⟩ := manager.checkAndMergeChangeInLocalDatabase_pending
  have hagree := agree_of_sends hsends (fun call hcall => (hsent call hcall).2) k
  have happend := (hkept k).append hagree
  unfold abs at happend ⊢
  rw [hframe.records, hframe.db, hframe.callbacks, hpending, List.map_append]
  exact happend

theorem getOfflineStore_survivor {manager : DataServiceManager} {data : DataServiceObject}
    (h : ∃ record ∈ manager.localDataService.getOfflineStore data.id,
      record ∉ manager.replaced data)
    : ∃ record ∈ manager.records, record.objectID = data.id ∧ record ∉ manager.replaced data := by
  obtain ⟨record, hrecord, hkeep⟩ := h
  obtain ⟨hmem, hid⟩ := RealmDataService.mem_getOfflineStore.mp hrecord
  exact ⟨record, hmem, hid, hkeep⟩

theorem records_of_not_recorded {manager : DataServiceManager} (h : Shape typeOf manager)
    {data : DataServiceObject} {menthodType : MenthodType} (hrecorded : ¬ manager.recorded data)
    {record : OfflineStorageModel}
    (hrecord : record ∈ (manager.recordChange data menthodType).records)
    : record ∈ manager.records ∧ record ∉ manager.replaced data := by
  cases (mem_recordChange h.new).mp hrecord with
  | inl hr => exact ⟨hr.1, fun hmem => hr.2 record hmem rfl⟩
  | inr hr => exact absurd hr.1 hrecorded

theorem Recoverable.saveObject_of_dead {manager : DataServiceManager}
    (h : Recoverable typeOf other manager) {data : DataServiceObject}
    (hdata : typeOf data.id = data.kind) (menthodType : MenthodType)
    (hrecorded : ¬ (manager.saved data).recorded data)
    (hold : Verdict.takesEffect manager.verdicts → ∀ record ∈ manager.records,
      record.objectID = data.id → record.getMenthod = some .delete →
        record ∈ (manager.saved data).replaced data)
    (hdead : ((manager.saved data).recordChange data menthodType).verdicts = [.killed 0])
    (hsurvivor : ∃ record ∈ (manager.saved data).localDataService.getOfflineStore data.id,
      record ∉ (manager.saved data).replaced data)
    : Recoverable typeOf other (manager.saveObject data menthodType) := by
  rw [saveObject_eq_merge, checkAndMergeChangeInLocalDatabase_of_dead hdead]
  have hshape := h.1.toShape.saved hdata
  refine ⟨⟨hshape.recordChange hdata menthodType, ?_⟩, .inr ⟨hdead, ?_⟩⟩
  . intro record hrecord
    obtain ⟨hmem, hkeep⟩ := records_of_not_recorded hshape hrecorded hrecord
    rw [saved_records] at hmem
    obtain ⟨menthodType', hm, hdelete⟩ := h.1.menthod record hmem
    refine ⟨menthodType', hm, ?_⟩
    rintro rfl
    rw [recordChange_object, saved_object]
    split
    . next hstored => exact absurd (hold hstored.1 record hmem hstored.2.2 hm) hkeep
    . exact hdelete rfl
  . intro k
    rw [recordChange_target]
    apply recordChange_kept hshape hdata _ (getOfflineStore_survivor hsurvivor)
      (fun k hk => saved_target other manager hk)
    intro k
    rw [saved_abs]
    exact h.kept other k

theorem Recoverable.deleteSingle_of_dead {manager : DataServiceManager}
    (h : Recoverable typeOf other manager) {data : DataServiceObject}
    (hdata : typeOf data.id = data.kind) (hrecorded : ¬ manager.recorded data)
    (hdeleted : ¬ Verdict.takesEffect (manager.deleting data).verdicts)
    (hdead : (manager.deleteSingle data).verdicts = [.killed 0])
    (hsurvivor : ∃ record ∈ manager.localDataService.getOfflineStore data.id,
      record ∉ manager.replaced data)
    : Recoverable typeOf other (manager.deleteSingle data) := by
  have hobject := deleteSingle_object_of_not hdeleted
  have htidy : Tidy typeOf (manager.recordChange data .delete) := by
    refine ⟨h.1.toShape.recordChange hdata .delete, ?_⟩
    intro record hrecord
    rw [recordChange_object]
    exact h.1.menthod record (records_of_not_recorded h.1.toShape hrecorded hrecord).1
  refine ⟨⟨h.1.toShape.deleteSingle hdata, ?_⟩, .inr ⟨hdead, ?_⟩⟩
  . intro record hrecord
    rw [deleteSingle_records] at hrecord
    rw [hobject, ← recordChange_object manager data .delete]
    exact htidy.menthod record hrecord
  . intro k
    have hkept : ∀ k, Outbox.Kept
        ((manager.recordChange data .delete).abs
          ((manager.recordChange data .delete).target other)) k := by
      rw [recordChange_target]
      exact recordChange_kept h.1.toShape hdata (h.kept other)
        (getOfflineStore_survivor hsurvivor) (fun _ _ => rfl)
    have hmerged := merge_kept (htidy.sends other) hkept k
    have htarget : (manager.deleteSingle data).target other
        = (manager.recordChange data .delete).target other := by
      rw [recordChange_target]
      funext k
      unfold target
      cases Kind.ofCollectionName? k.1 with
      | none => rfl
      | some T =>
        dsimp only
        rw [hobject]
    have habs : (manager.deleteSingle data).abs ((manager.deleteSingle data).target other)
        = (manager.recordChange data .delete).checkAndMergeChangeInLocalDatabase.abs
          ((manager.recordChange data .delete).target other) := by
      rw [htarget]
      unfold abs
      rw [deleteSingle_records, (checkAndMergeChangeInLocalDatabase_frame _).records,
        deleteSingle_eq]
      rfl
    rw [habs]
    exact hmerged

/-! ### One event, and all runs -/

theorem Recoverable.saveObject {manager : DataServiceManager} (h : Recoverable typeOf other manager)
    {data : DataServiceObject} (hdata : typeOf data.id = data.kind) {menthodType : MenthodType}
    (hmenthod : menthodType ≠ .delete) (hharmless : manager.SaveHarmless data)
    : Recoverable typeOf other (manager.saveObject data menthodType) := by
  unfold SaveHarmless at hharmless
  dsimp only at hharmless
  rw [← saved_replaced, ← saved_recorded] at hharmless
  obtain ⟨hold, hcases⟩ := hharmless
  have hold : Verdict.takesEffect manager.verdicts → ∀ record ∈ manager.records,
      record.objectID = data.id → record.getMenthod = some .delete →
        record ∈ (manager.saved data).replaced data := by
    intro htakes record hrecord hid hm
    exact hold htakes record (RealmDataService.mem_getOfflineStore.mpr ⟨hrecord, hid⟩) hm
  by_cases hrecorded : (manager.saved data).recorded data
  . cases h.2 with
    | inl hinv =>
      obtain ⟨htidy, hsteps⟩ := saveObject_simulates other h.1 hdata hmenthod hrecorded (by
        intro record hrecord hid hm hstored
        by_cases htakes : Verdict.takesEffect manager.verdicts
        . exact hold htakes record hrecord hid hm
        . -- the object was stored before, and had no record that says `delete`
          rw [saved_object, if_neg (fun hc => htakes hc.1)] at hstored
          obtain ⟨menthodType', hm', hdelete⟩ := h.1.menthod record hrecord
          rw [hm] at hm'
          have hnone := hdelete (Option.some.inj hm').symm
          rw [hid, hdata] at hnone
          exact absurd hnone hstored)
      exact ⟨htidy, .inl (hinv.steps hsteps)⟩
    | inr hdead =>
      rw [saved_recorded, hdead.1, Verdict.after_dead] at hrecorded
      cases hrecorded
  . obtain hrec | ⟨htakes, hremoved⟩ | ⟨hdead, hsurvivor⟩ := hcases
    . exact absurd hrec hrecorded
    . exact h.saveObject_of_not other hdata menthodType htakes hremoved hrecorded
    . apply h.saveObject_of_dead other hdata menthodType hrecorded hold
      . rw [recordChange_verdicts, saved_getOfflineStore]
        exact hdead
      . rw [saved_getOfflineStore]
        exact hsurvivor

theorem deleteSingle_verdicts_eq (manager : DataServiceManager) (data : DataServiceObject)
    : (manager.deleteSingle data).verdicts
        =
      Verdict.after manager.verdicts
        ((manager.localDataService.getOfflineStore data.id).length + 2) := by
  rw [deleteSingle_eq]
  show Verdict.next (manager.deleting data).verdicts = _
  unfold deleting
  rw [(checkAndMergeChangeInLocalDatabase_frame _).next, recordChange_verdicts, Verdict.next_after]

theorem Recoverable.deleteSingle {manager : DataServiceManager}
    (h : Recoverable typeOf other manager) {data : DataServiceObject}
    (hdata : typeOf data.id = data.kind) (hharmless : manager.DeleteHarmless data)
    : Recoverable typeOf other (manager.deleteSingle data) := by
  unfold DeleteHarmless at hharmless
  dsimp only at hharmless
  rw [← deleting_verdicts_takesEffect] at hharmless
  obtain ⟨hrecorded, hdeleted, hold⟩ | ⟨hrecorded, hdeleted, hcases⟩ := hharmless
  . cases h.2 with
    | inl hinv =>
      obtain ⟨htidy, hsteps⟩ := deleteSingle_simulates other h.1 hdata
        (fun hnetwork record hrecord hid =>
          hold hnetwork record (RealmDataService.mem_getOfflineStore.mpr ⟨hrecord, hid⟩))
        hrecorded hdeleted
      exact ⟨htidy, .inl (hinv.steps hsteps)⟩
    | inr hdead =>
      rw [hdead.1, Verdict.after_dead] at hrecorded
      cases hrecorded
  . cases hcases with
    | inl hremoved => exact h.deleteSingle_of_not other hdata hremoved hrecorded hdeleted
    | inr hdead =>
      apply h.deleteSingle_of_dead other hdata hrecorded hdeleted _ hdead.2
      rw [deleteSingle_verdicts_eq]
      exact hdead.1

theorem Recoverable.deleteAll {manager : DataServiceManager} (h : Recoverable typeOf other manager)
    {items : List DataServiceObject} (hitems : ∀ item ∈ items, typeOf item.id = item.kind)
    (hharmless : CascadeHarmless items manager)
    : Recoverable typeOf other (items.foldl DataServiceManager.deleteSingle manager) := by
  induction items generalizing manager with
  | nil => exact h
  | cons item items ih =>
    apply ih
    . exact h.deleteSingle other (hitems item List.mem_cons_self) hharmless.1
    . intro item' hitem'
      exact hitems item' (List.mem_cons_of_mem _ hitem')
    . exact hharmless.2

theorem Recoverable.applied {manager : DataServiceManager} (h : Recoverable typeOf other manager)
    {service : FirebaseDataService OfflineStorageModel}
    (happly : manager.remoteDataService.applyOldest = some service)
    : Recoverable typeOf other { manager with remoteDataService := service } := by
  obtain ⟨htidy, hsteps⟩ := applyOldest_simulates h.1 happly (manager.target other)
  refine ⟨htidy, ?_⟩
  cases h.2 with
  | inl hinv => exact .inl (hinv.steps hsteps)
  | inr hdead =>
    refine .inr ⟨hdead.1, ?_⟩
    intro k
    obtain ⟨w, item, pending, hpending, heq⟩ := applyOldest_eq_some happly
    rw [heq]
    have hkept := (hdead.2 k).apply (abs_queue (manager.target other) hpending) []
    unfold abs at hkept
    dsimp only at hkept
    rw [← document_write_eq] at hkept
    exact hkept

theorem Recoverable.rejected {manager : DataServiceManager} (h : Recoverable typeOf other manager)
    {service : FirebaseDataService OfflineStorageModel} {err : NSError}
    (hreject : manager.remoteDataService.rejectOldest err = some service)
    : Recoverable typeOf other { manager with remoteDataService := service } := by
  obtain ⟨htidy, hsteps⟩ := rejectOldest_simulates h.1 hreject (manager.target other)
  refine ⟨htidy, ?_⟩
  cases h.2 with
  | inl hinv => exact .inl (hinv.steps hsteps)
  | inr hdead =>
    refine .inr ⟨hdead.1, ?_⟩
    intro k
    obtain ⟨w, item, pending, hpending, heq⟩ := rejectOldest_eq_some hreject
    rw [heq]
    exact (hdead.2 k).reject (abs_queue (manager.target other) hpending) []

theorem Recoverable.deliver {manager manager' : DataServiceManager}
    (h : Recoverable typeOf other manager) {i : Nat} (hdeliver : manager.deliver i = some manager')
    : Recoverable typeOf other manager' := by
  obtain ⟨htidy, hsteps⟩ := deliver_simulates h.1 hdeliver other
  refine ⟨htidy, ?_⟩
  cases h.2 with
  | inl hinv => exact .inl (hinv.steps hsteps)
  | inr hdead =>
    obtain ⟨item, err, l, r, -, rfl⟩ := deliver_eq_some hdeliver
    have hrealm : ({ manager with remoteDataService.callbacks := l ++ r }.completion item err).realm
        = manager.realm := by
      rw [completion_realm, if_neg]
      rintro ⟨-, htakes⟩
      have htakes : Verdict.takesEffect manager.verdicts = true := htakes
      rw [hdead.1] at htakes
      cases htakes
    refine .inr ⟨?_, ?_⟩
    . unfold completion
      split
      . show Verdict.next manager.verdicts = [.killed 0]
        rw [hdead.1]
        rfl
      . exact hdead.1
    . intro k
      have hkept := hdead.2 k
      unfold Outbox.Kept Outbox.Settled abs at hkept ⊢
      dsimp only at hkept ⊢
      rw [records_congr hrealm, target_congr other hrealm, completion_remoteDataService]
      exact hkept

theorem Recoverable.step (manager : DataServiceManager) (e : Event) (manager' : DataServiceManager)
    (h : Recoverable typeOf other manager) (hharmless : manager.Harmless e)
    (hstep : (machine typeOf).step manager e = some manager')
    : Recoverable typeOf other manager' := by
  unfold machine at hstep
  cases e with
  | addObject data =>
    simp only [DataServiceManager.step] at hstep
    split at hstep
    . next hguard =>
      cases hstep
      rw [addObject_eq hguard.2]
      exact h.saveObject other hguard.1 (by simp) hharmless
    . cases hstep
  | updateObject data =>
    simp only [DataServiceManager.step] at hstep
    split at hstep
    . next hguard =>
      cases hstep
      exact h.saveObject other hguard (by simp) hharmless
    . cases hstep
  | deleteObject data =>
    simp only [DataServiceManager.step] at hstep
    split at hstep
    . next hguard =>
      cases hstep
      rw [deleteObject_eq]
      apply h.deleteAll other _ hharmless
      intro item hitem
      exact typeOf_of_mem_cascade h.1.toShape (h.1.object _ _ _ hguard) hitem
    . cases hstep
  | checkAndMerge =>
    cases hstep
    exact h.merge
  | network state =>
    cases hstep
    unfold changeInternetConnection
    split
    . exact h
    . apply Recoverable.merge
      refine h.quiet other ?_ rfl rfl (fun hdead => hdead)
      exact h.1.of_used rfl rfl fun _ hid => hid
  | applied =>
    obtain ⟨service, hservice, rfl⟩ := Option.map_eq_some_iff.mp hstep
    exact h.applied other hservice
  | rejected err =>
    obtain ⟨service, hservice, rfl⟩ := Option.map_eq_some_iff.mp hstep
    exact h.rejected other hservice
  | completion i => exact h.deliver other hstep

/-! ### The restart brings the cloud up to date -/

theorem acknowledge_iterate {manager : DataServiceManager}
    {calls : List (RemoteWrite × OfflineStorageModel)} (hverdicts : manager.verdicts = [])
    (hpending : manager.remoteDataService.pending = calls)
    : (∀ record, record ∈ (acknowledge^[calls.length] manager).records
          ↔ record ∈ manager.records ∧ ∀ call ∈ calls, record.id ≠ call.2.id)
        ∧ (∀ T id, (acknowledge^[calls.length] manager).realm.object T id
          = manager.realm.object T id)
        ∧ (acknowledge^[calls.length] manager).remoteDataService.db
          = manager.remoteDataService.db.writeAll (calls.map Prod.fst)
        ∧ (acknowledge^[calls.length] manager).remoteDataService.pending = []
        ∧ (acknowledge^[calls.length] manager).remoteDataService.callbacks
          = manager.remoteDataService.callbacks := by
  induction calls generalizing manager with
  | nil => exact ⟨by simp, fun _ _ => rfl, rfl, hpending, rfl⟩
  | cons call calls ih =>
    obtain ⟨w, item⟩ := call
    have hfirst : manager.acknowledge
        = { manager with
            remoteDataService.db := manager.remoteDataService.db.write w
            remoteDataService.pending := calls
          }.completion item none := by
      unfold acknowledge
      rw [hpending]
    have hremote : manager.acknowledge.remoteDataService
        = { manager.remoteDataService with
            db := manager.remoteDataService.db.write w
            pending := calls
          } := by
      rw [hfirst, completion_remoteDataService]
    have hnext : manager.acknowledge.verdicts = [] := by
      rw [hfirst]
      apply completion_verdicts
      exact hverdicts
    obtain ⟨hrecords, hobject, hdb, hnil, hcallbacks⟩ := ih hnext (by rw [hremote])
    rw [List.length_cons, Function.iterate_succ_apply]
    refine ⟨?_, ?_, ?_, hnil, ?_⟩
    . intro record
      have htakes : Verdict.takesEffect manager.verdicts = true := by
        rw [hverdicts]
        rfl
      rw [hrecords, hfirst, mem_completion_records, List.forall_mem_cons]
      simp only [verdicts] at htakes ⊢
      simp only [htakes, true_and, true_implies]
      tauto
    . intro T id
      rw [hobject, hfirst, completion_object]
    . rw [hdb, hremote]
      rfl
    . rw [hcallbacks, hremote]

theorem Tidy.relaunch {manager : DataServiceManager} (h : Tidy typeOf manager)
    (arrived : List (RemoteWrite × OfflineStorageModel)) : Tidy typeOf (manager.relaunch arrived) := by
  refine h.of_used rfl rfl ?_
  rintro id ⟨item, hrecord | hcaptured, hid⟩
  . exact ⟨item, .inl hrecord, hid⟩
  . unfold Captured DataServiceManager.relaunch at hcaptured
    simp at hcaptured

theorem mem_outgoing_of_sends {manager : DataServiceManager} {target : Key → Option JSON}
    (hsends : manager.Sends target) {record : OfflineStorageModel}
    (hrecord : record ∈ manager.records)
    : (⟨record.collectionName, record.objectID, target (key record)⟩, record) ∈ manager.outgoing :=
  mem_outgoing.mpr ⟨hrecord, hsends record hrecord⟩

theorem Recoverable.document_relaunch {manager : DataServiceManager}
    (h : Recoverable typeOf other manager)
    {arrived : List (RemoteWrite × OfflineStorageModel)}
    (harrived : arrived.Sublist manager.remoteDataService.pending) (k : Key)
    : ((manager.relaunch arrived).remoteDataService.db.writeAll
          ((manager.relaunch arrived).outgoing.map Prod.fst)).document k.1 k.2
        = manager.target other k := by
  have hsends : (manager.relaunch arrived).Sends (manager.target other) :=
    (h.1.relaunch arrived).sends other
  have hall : ∀ tag, (tag, k) ∈ (manager.abs (manager.target other)).log →
      ∃ w ∈ (manager.relaunch arrived).outgoing.map toWrite, w.key = k := by
    rintro tag ⟨record, hrecord, heq⟩
    exact ⟨_, List.mem_map_of_mem (mem_outgoing_of_sends hsends hrecord),
      (congrArg Prod.snd heq).symm⟩
  have hflush := (h.kept other k).flush (harrived.map toWrite)
    (agree_of_sends hsends (fun _ hcall => hcall) k) hall
  have harrivedDocument := document_writeAll manager.remoteDataService.db arrived
  have hdocument := congrFun (document_writeAll (manager.relaunch arrived).remoteDataService.db
    (manager.relaunch arrived).outgoing) k
  rw [Outbox.applyAll_append] at hflush
  unfold abs at hflush
  dsimp only at hflush
  rw [← harrivedDocument] at hflush
  exact hdocument.trans hflush

theorem Recoverable.restart {manager : DataServiceManager} (h : Recoverable typeOf other manager)
    {arrived : List (RemoteWrite × OfflineStorageModel)}
    (harrived : arrived.Sublist manager.remoteDataService.pending)
    : Synced (manager.restart arrived)
        ∧ ∀ T id, (manager.restart arrived).realm.object T id = manager.realm.object T id := by
  have hsends := (h.1.relaunch arrived).sends other
  have hframe := (manager.relaunch arrived).checkAndMergeChangeInLocalDatabase_frame
  have hverdicts : (manager.relaunch arrived).verdicts = [] := rfl
  have hnetwork : (manager.relaunch arrived).network = .Available := rfl
  have hpending : (manager.relaunch arrived).checkAndMergeChangeInLocalDatabase.remoteDataService.pending
      = (manager.relaunch arrived).outgoing := by
    rw [checkAndMergeChangeInLocalDatabase_eq, if_pos hnetwork,
      sendAll_remoteDataService hverdicts]
    rfl
  obtain ⟨hrecords, hobject, hdb, hnil, hcallbacks⟩ := acknowledge_iterate
    (checkAndMergeChangeInLocalDatabase_verdicts hverdicts) hpending
  rw [← hpending] at hrecords hobject hdb hnil hcallbacks
  have hobject' : ∀ T id, (manager.restart arrived).realm.object T id
      = manager.realm.object T id := by
    intro T id
    exact (hobject T id).trans (by rw [hframe.realm]; rfl)
  refine ⟨⟨?_, hnil, ?_, ?_⟩, hobject'⟩
  . -- every record has been sent
    apply List.eq_nil_iff_forall_not_mem.mpr
    intro record hrecord
    obtain ⟨hmem, hsent⟩ := (hrecords record).mp hrecord
    rw [hframe.records] at hmem
    rw [hpending] at hsent
    exact hsent _ (mem_outgoing_of_sends hsends hmem) rfl
  . exact hcallbacks.trans hframe.callbacks
  . intro T id
    rw [hobject']
    unfold DataServiceManager.restart acknowledgeAll
    rw [hdb, hframe.db, hpending, ← target_getRemoteCollectionName other]
    exact h.document_relaunch other harrived (T.getRemoteCollectionName, id)

/--
In every run whose operations do no harm: after a restart, whichever of the writes in flight have
arrived, the outbox is empty and the cloud has the documents of exactly the objects that were
stored.
-/
theorem restart_synced {start final : DataServiceManager} {events : List Event}
    (hstart : Start typeOf start) (hharmless : (machine typeOf).Meets Harmless start events)
    (hrun : (machine typeOf).run start events = some final)
    {arrived : List (RemoteWrite × OfflineStorageModel)}
    (harrived : arrived.Sublist final.remoteDataService.pending)
    : Synced (final.restart arrived)
        ∧ ∀ T id, (final.restart arrived).realm.object T id = final.realm.object T id := by
  have hrecoverable : Recoverable typeOf start.elsewhere start :=
    ⟨hstart.tidy, .inl hstart.toSynced.inv⟩
  have hfinal := Machine.invariant_of_meets (Recoverable.step start.elsewhere) hrecoverable
    hharmless hrun
  exact hfinal.restart start.elsewhere harrived

def diesInUpdate : DataServiceManager :=
  { sampleManager with
    localDataService.verdicts := [.commits, .commits, .commits, .killed 0]
  }

theorem restart_synced_old_record
    : ∃ final, (machine fun _ => .shot).run diesInUpdate
        [.addObject (.shot sampleShot), .updateObject (.shot { sampleShot with ballNumber := 4 })]
        = some final
      ∧ Synced (final.restart []) := by
  have hstart : Start (fun _ => .shot) diesInUpdate :=
    { (sampleManager_initial _).toStart with }
  have hrun : (machine fun _ => .shot).run diesInUpdate
        [.addObject (.shot sampleShot), .updateObject (.shot { sampleShot with ballNumber := 4 })]
      = some ((diesInUpdate.addObject (.shot sampleShot)).updateObject
          (.shot { sampleShot with ballNumber := 4 })) :=
    rfl
  refine ⟨_, hrun, (restart_synced hstart ?_ hrun (List.nil_sublist _)).1⟩
  refine (Machine.meets_cons rfl).mpr ⟨?_, (Machine.meets_cons rfl).mpr ⟨?_, trivial⟩⟩
  . show diesInUpdate.SaveHarmless (.shot sampleShot)
    decide
  . show (diesInUpdate.addObject (.shot sampleShot)).SaveHarmless
      (.shot { sampleShot with ballNumber := 4 })
    decide

def diesInAdd : DataServiceManager :=
  { sampleManager with localDataService.verdicts := [.commits, .killed 0] }

theorem restart_forgets_shot
    : ∃ final, Start (fun _ => .shot) diesInAdd
      ∧ (machine fun _ => .shot).run diesInAdd [.addObject (.shot sampleShot)] = some final
      ∧ final.realm.object .shot "s" = some (.shot sampleShot)
      ∧ (final.restart []).remoteDataService.db.document Kind.shot.getRemoteCollectionName "s" = none
      ∧ ¬ Synced (final.restart []) := by
  refine ⟨_, { (sampleManager_initial _).toStart with }, rfl, rfl, rfl, ?_⟩
  intro h
  have hdocument := h.documents .shot "s"
  cases hdocument

end DataServiceManager
