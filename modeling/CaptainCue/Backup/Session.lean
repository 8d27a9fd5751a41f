import CaptainCue.Backup.Overlay
import CaptainCue.Manager.Changes
import CaptainCue.Manager.SharedCloud

/-!
This module contains a backup beside the manager that goes on sending its outbox to the same cloud.
It shows that a backup that succeeds brings the cloud and the device together again, whatever others
have written to the cloud before.
-/

def Backup.withCloud (backup : Backup) (db : Firestore) : Backup :=
  { backup with remoteDataService.db := db }

structure BackupSession where
  manager : DataServiceManager
  backup : Backup
  -- there is one cloud
  shared : backup.remoteDataService.db = manager.remoteDataService.db

namespace BackupSession

inductive Event where
  | manager (e : DataServiceManager.Event)
  | backup (e : Backup.Event)

def begin (manager : DataServiceManager) (db : Firestore) : BackupSession where
  -- `btnBackupWasTapped` has been confirmed, on a device whose cloud is `db` by then.
  manager := manager.withCloud db
  backup := Backup.backupData manager.localDataService db
  shared := rfl

section Step

variable (typeOf : String → Kind) (dateFormatter : DateFormatter)

def step (session : BackupSession) : Event → Option BackupSession
  | .manager e =>
    -- the overlay takes the touches of the user
    if e.IsBackground then
      (session.manager.step typeOf e).map fun manager =>
        ⟨manager, session.backup.withCloud manager.remoteDataService.db, rfl⟩
    else
      none
  | .backup e =>
    (session.backup.step dateFormatter e).map fun backup =>
      ⟨session.manager.withCloud backup.remoteDataService.db, backup, rfl⟩

def machine : Machine BackupSession Event where
  step := step typeOf dateFormatter

end Step

end BackupSession

/-! ## The backup on a cloud of its own -/

def Firestore.copy (own db : Firestore) (T : Kind) : Firestore where
  -- `own` with the documents that `db` has of the type
  collection := Function.update own.collection T.getRemoteCollectionName
    (db.collection T.getRemoteCollectionName)

theorem Firestore.document_copy (own db : Firestore) (T U : Kind) (id : String)
    : (own.copy db T).document U.getRemoteCollectionName id
        =
      if U = T then
        db.document U.getRemoteCollectionName id
      else
        own.document U.getRemoteCollectionName id := by
  unfold Firestore.document copy
  dsimp only
  by_cases hUT : U = T
  . rw [hUT, Function.update_self, if_pos rfl]
  . rw [Function.update_of_ne (Kind.getRemoteCollectionName_inj.not.mpr hUT), if_neg hUT]

theorem Firestore.IdsMatch.copy {own db : Firestore} (hown : own.IdsMatch) (hdb : db.IdsMatch)
    (T : Kind) : (own.copy db T).IdsMatch := by
  intro U id data hdata
  rw [Firestore.document_copy] at hdata
  split at hdata
  . exact hdb U id data hdata
  . exact hown U id data hdata

namespace Backup

variable {dateFormatter : DateFormatter} {localDataService : RealmDataService} {db own : Firestore}
  {backup backup' : Backup} {content : BackupContent}

theorem withCloud_runCallback (backup : Backup) (callback : BackupCallback)
    (err : Option NSError)
    : (backup.withCloud own).runCallback callback err
        = (backup.runCallback callback err).withCloud own := by
  rw [runCallback_eq, runCallback_eq]
  cases callback <;> cases err <;> rfl

theorem withCloud_checkLoadingDataDone (backup : Backup)
    : (backup.withCloud own).checkLoadingDataDone = backup.checkLoadingDataDone.withCloud own := by
  have hcloudData : (backup.withCloud own).cloudData = backup.cloudData := rfl
  unfold checkLoadingDataDone
  simp only [deleteAll_eq, hcloudData]
  cases backup.cloudData .report with
  | none => rfl
  | some reportCloudData =>
    cases backup.cloudData .shot with
    | none => rfl
    | some shotCloudData => rfl

theorem Running.step_apart (h : Running content (backup.withCloud own)) {e : Event}
    (hstep : backup.step dateFormatter e = some backup')
    : ∃ own', Running content (backup'.withCloud own')
        ∧ Firestore.Apart backup.remoteDataService.db backup'.remoteDataService.db own own' := by
  cases e with
  | fetched T context =>
    have hfetching : backup.fetching T = false := h.fetching T
    simp [Backup.step, hfetching] at hstep
  | fetchFailed T err =>
    have hfetching : backup.fetching T = false := h.fetching T
    simp [Backup.step, hfetching] at hstep
  | answer i err =>
    obtain ⟨service, hanswer, rfl⟩ := Option.map_eq_some_iff.mp hstep
    obtain ⟨w, callback, hpending, rfl⟩ := FirebaseDataService.answer_eq_some.mp hanswer
    have hown := @Running.answer content _ i err _ h
      (FirebaseDataService.answer_eq_some.mpr ⟨w, callback, hpending, rfl⟩)
    refine ⟨if err = none then own.write w else own, hown, ?_⟩
    dsimp only
    split
    . exact .write _ own w
    . exact .refl _ own
  | completion i =>
    simp only [Backup.step] at hstep
    split at hstep
    . next callback err hcallback =>
      cases hstep
      refine ⟨own, ?_, ?_⟩
      . rw [← withCloud_runCallback]
        exact h.runCallback hcallback
      . rw [runCallback_eq]
        cases callback <;> cases err <;> exact .refl _ own
    . cases hstep

@[simp]
theorem checkLoadingDataDone_db (backup : Backup)
    : backup.checkLoadingDataDone.remoteDataService.db = backup.remoteDataService.db := by
  unfold checkLoadingDataDone
  split
  . simp [deleteAll_eq, issueAll, onRemote]
  . rfl

theorem Waiting.copy (h : Waiting dateFormatter localDataService own (backup.withCloud own))
    (db : Firestore) {T : Kind} (hnone : backup.cloudData T = none)
    : Waiting dateFormatter localDataService (own.copy db T)
        (backup.withCloud (own.copy db T)) where
  localData := h.localData
  service := congrArg (fun service => { service with db := own.copy db T }) h.service
  finished := h.finished
  cloudData := by
    intro U datas hdatas
    have hUT : U.getRemoteCollectionName ≠ T.getRemoteCollectionName := by
      rw [Ne, Kind.getRemoteCollectionName_inj]
      rintro rfl
      cases hnone.symm.trans hdatas
    have hdocuments : (own.copy db T).getDocuments U.getRemoteCollectionName
        = own.getDocuments U.getRemoteCollectionName := by
      unfold Firestore.getDocuments Firestore.copy
      dsimp only
      rw [Function.update_of_ne hUT]
    rw [hdocuments]
    exact h.cloudData U datas hdatas
  fetching := h.fetching
  missing := h.missing
  log := h.log

theorem Waiting.step_apart (h : Waiting dateFormatter localDataService own (backup.withCloud own))
    (hown : own.IdsMatch) (hdb : backup.remoteDataService.db.IdsMatch) {e : Event}
    (hstep : backup.step dateFormatter e = some backup')
    : ∃ own', own'.IdsMatch ∧ Inv dateFormatter localDataService own' (backup'.withCloud own')
        ∧ Firestore.Apart backup.remoteDataService.db backup'.remoteDataService.db own own' := by
  cases e with
  | fetched T context =>
    simp only [Backup.step, getAllDataClosure_eq] at hstep
    split at hstep
    . next hfetching =>
      cases hstep
      -- nothing has been fetched of the type, so its documents may as well be those of the cloud
      have hwaiting := h.copy backup.remoteDataService.db (h.fetching T hfetching)
      have hids := hown.copy hdb T
      have hdocuments : (own.copy backup.remoteDataService.db T).getDocuments
            T.getRemoteCollectionName
          = backup.remoteDataService.db.getDocuments T.getRemoteCollectionName := by
        unfold Firestore.getDocuments Firestore.copy
        dsimp only
        rw [Function.update_self]
      have hfetched := hwaiting.fetched hids hfetching context
      refine ⟨_, hids, ?_, ?_⟩
      . unfold closure at hfetched ⊢
        dsimp only at hfetched ⊢
        rw [← withCloud_checkLoadingDataDone, ← hdocuments]
        exact hfetched
      . intro U id
        rw [Firestore.document_copy]
        unfold closure
        dsimp only
        rw [checkLoadingDataDone_db]
        split
        . exact .inl rfl
        . exact .inr ⟨rfl, rfl⟩
    . cases hstep
  | fetchFailed T err =>
    simp only [Backup.step, getAllDataClosure_eq] at hstep
    split at hstep
    . next hfetching =>
      cases hstep
      exact ⟨own, hown, .inl (h.fetchFailed hfetching err), .refl _ own⟩
    . cases hstep
  | answer i err =>
    obtain ⟨service, hanswer, -⟩ := Option.map_eq_some_iff.mp hstep
    obtain ⟨w, callback, hpending, -⟩ := FirebaseDataService.answer_eq_some.mp hanswer
    have hnil : backup.remoteDataService.pending = [] :=
      congrArg FirebaseDataService.pending h.service
    rw [hnil] at hpending
    cases hpending
  | completion i =>
    have hnil : backup.remoteDataService.callbacks = [] :=
      congrArg FirebaseDataService.callbacks h.service
    simp [Backup.step, hnil] at hstep

end Backup

/-! ## What both write to the cloud -/

structure Cloud (other : DataServiceManager.Key → Option JSON) (db : Firestore) : Prop where
  idsMatch : db.IdsMatch
  elsewhere : ∀ k : DataServiceManager.Key, Kind.ofCollectionName? k.1 = none →
    db.document k.1 k.2 = other k

namespace Cloud

variable {other : DataServiceManager.Key → Option JSON} {db db' : Firestore}

theorem of_addressed (h : Cloud other db)
    (hdocument : ∀ k : DataServiceManager.Key, db'.document k.1 k.2 = db.document k.1 k.2
      ∨ DataServiceManager.Addressed k (db'.document k.1 k.2)) : Cloud other db' where
  idsMatch := by
    intro T id data hdata
    cases hdocument (T.getRemoteCollectionName, id) with
    | inl hsame =>
      rw [hsame] at hdata
      exact h.idsMatch T id data hdata
    | inr haddressed =>
      obtain ⟨-, -, hid⟩ := haddressed
      exact hid data hdata
  elsewhere := by
    intro k hk
    cases hdocument k with
    | inl hsame =>
      rw [hsame]
      exact h.elsewhere k hk
    | inr haddressed => exact absurd hk haddressed.ofCollectionName?

theorem write (h : Cloud other db) (callback : BackupCallback)
    : Cloud other (db.write callback.write) := by
  apply h.of_addressed
  intro k
  rw [Firestore.document_write]
  split
  . next hkey =>
    right
    refine ⟨callback.item.kind, ?_, ?_⟩
    . rw [hkey.1, BackupCallback.write_collection]
    . intro data hdata
      cases callback with
      | deleted item => cases hdata
      | uploaded item =>
        cases hdata
        rw [item.value_id, hkey.2]
        rfl
  . exact .inl rfl

theorem manager_step {typeOf : String → Kind} {manager manager' : DataServiceManager}
    {e : DataServiceManager.Event} (h : Cloud other manager.remoteDataService.db)
    (hhealthy : DataServiceManager.Healthy typeOf manager)
    (hwrites : ∀ k, ∀ v ∈ manager.writes k, DataServiceManager.Addressed k v)
    (hstep : (DataServiceManager.machine typeOf).step manager e = some manager')
    : Cloud other manager'.remoteDataService.db := by
  apply h.of_addressed
  intro k
  have hmove := @DataServiceManager.step_move typeOf other k manager e manager' hhealthy hstep
  cases hmove.replica with
  | inl hsame => exact .inl hsame
  | inr hmem => exact .inr (hwrites k _ hmem)

theorem backup_step {dateFormatter : DateFormatter} {backup backup' : Backup} {e : Backup.Event}
    (h : Cloud other backup.remoteDataService.db)
    (hpending : ∀ call ∈ backup.remoteDataService.pending, call.fst = call.snd.write)
    (hstep : backup.step dateFormatter e = some backup')
    : Cloud other backup'.remoteDataService.db := by
  cases e with
  | fetched T context =>
    simp only [Backup.step, Backup.getAllDataClosure_eq, Backup.closure] at hstep
    split at hstep
    . cases hstep
      rw [Backup.checkLoadingDataDone_db]
      exact h
    . cases hstep
  | fetchFailed T err =>
    simp only [Backup.step, Backup.getAllDataClosure_eq, Backup.closure] at hstep
    split at hstep
    . cases hstep
      exact h
    . cases hstep
  | answer i err =>
    obtain ⟨service, hanswer, rfl⟩ := Option.map_eq_some_iff.mp hstep
    obtain ⟨w, callback, hcall, rfl⟩ := FirebaseDataService.answer_eq_some.mp hanswer
    have hw : w = callback.write := hpending _ (List.mem_of_getElem? hcall)
    dsimp only
    split
    . rw [hw]
      exact h.write callback
    . exact h
  | completion i =>
    simp only [Backup.step] at hstep
    split at hstep
    . next callback err hcallback =>
      cases hstep
      rw [Backup.runCallback_eq]
      cases callback <;> cases err <;> exact h
    . cases hstep

end Cloud

namespace BackupSession

open DataServiceManager (Healthy Addressed Key)

variable {typeOf : String → Kind} {dateFormatter : DateFormatter}
  {localDataService : RealmDataService} {other elsewhere : Key → Option JSON}
  {session session' : BackupSession}

structure Inv (typeOf : String → Kind) (dateFormatter : DateFormatter)
    (localDataService : RealmDataService) (other elsewhere : Key → Option JSON)
    (session : BackupSession) : Prop where
  healthy : Healthy typeOf session.manager
  object : ∀ T id, session.manager.realm.object T id = localDataService.realm.object T id
  writes : ∀ k, ∀ v ∈ session.manager.writes k, Addressed k v
  cloud : Cloud other session.manager.remoteDataService.db
  -- Each document is as the manager or as the backup would have left it on a cloud of its own.
  parts : ∃ mine own fetched : Firestore, fetched.IdsMatch
    ∧ Outbox.Inv ((session.manager.withCloud mine).abs (session.manager.target elsewhere))
    ∧ Backup.Inv dateFormatter localDataService fetched (session.backup.withCloud own)
    ∧ ∀ T : Kind, ∀ id,
        session.manager.remoteDataService.db.document T.getRemoteCollectionName id
            = mine.document T.getRemoteCollectionName id
          ∨ session.manager.remoteDataService.db.document T.getRemoteCollectionName id
            = own.document T.getRemoteCollectionName id

theorem begin_inv {start manager : DataServiceManager} {ops : List DataServiceManager.Event}
    {db : Firestore} (hstart : DataServiceManager.Initial typeOf start)
    (hrun : (DataServiceManager.machine typeOf).run start ops = some manager) (hdb : db.IdsMatch)
    : Inv typeOf dateFormatter manager.localDataService (fun k => db.document k.1 k.2)
        start.elsewhere (begin manager db) := by
  obtain ⟨hhealthy, hinv⟩ := DataServiceManager.run_simulates hstart hrun
  refine ⟨hhealthy.withCloud db, fun _ _ => rfl, ?_, ⟨hdb, fun _ _ => rfl⟩, ?_⟩
  . intro k v hv
    exact DataServiceManager.run_addressed hstart hrun k v hv
  . exact ⟨manager.remoteDataService.db, db, db, hdb, hinv, .inl Backup.waiting_backupData,
      fun _ _ => .inr rfl⟩

theorem Inv.manager_step (h : Inv typeOf dateFormatter localDataService other elsewhere session)
    {e : DataServiceManager.Event} (he : e.IsBackground) {manager : DataServiceManager}
    (hstep : (DataServiceManager.machine typeOf).step session.manager e = some manager)
    : Inv typeOf dateFormatter localDataService other elsewhere
        ⟨manager, session.backup.withCloud manager.remoteDataService.db, rfl⟩ := by
  obtain ⟨mine, own, fetched, hfetched, hinv, hbackup, hparts⟩ := h.parts
  have hhealthy := (DataServiceManager.step_simulates elsewhere _ e manager h.healthy hstep).1
  refine ⟨hhealthy, ?_, ?_, h.cloud.manager_step h.healthy h.writes hstep, ?_⟩
  . intro T id
    have hbecomes := DataServiceManager.background_becomes he h.healthy.verdicts hstep
    rw [← h.object]
    exact hbecomes.object T id
  . intro k
    exact DataServiceManager.step_addressed h.healthy hstep (h.writes k)
  . have hmine := DataServiceManager.withCloud_step hstep mine
    obtain ⟨-, hsteps⟩ :=
      DataServiceManager.step_simulates elsewhere _ e _ (h.healthy.withCloud mine) hmine
    refine ⟨_, own, fetched, hfetched, hinv.steps hsteps, hbackup, ?_⟩
    intro T id
    have hapart := Firestore.Apart.writeAll session.manager.remoteDataService.db mine
      (session.manager.written e) T id
    rw [← DataServiceManager.step_db hstep] at hapart
    cases hapart with
    | inl heq => exact .inl heq
    | inr hkept =>
      dsimp only
      rw [hkept.1, hkept.2]
      exact hparts T id

theorem Inv.backup_step (h : Inv typeOf dateFormatter localDataService other elsewhere session)
    {e : Backup.Event} {backup : Backup}
    (hstep : session.backup.step dateFormatter e = some backup)
    : Inv typeOf dateFormatter localDataService other elsewhere
        ⟨session.manager.withCloud backup.remoteDataService.db, backup, rfl⟩ := by
  obtain ⟨mine, own, fetched, hfetched, hinv, hbackup, hparts⟩ := h.parts
  have hcloud : Cloud other session.backup.remoteDataService.db := by
    rw [session.shared]
    exact h.cloud
  have hpending : ∀ call ∈ session.backup.remoteDataService.pending, call.fst = call.snd.write := by
    cases hbackup with
    | inl hwaiting =>
      have hnil : session.backup.remoteDataService.pending = [] :=
        congrArg FirebaseDataService.pending hwaiting.service
      rw [hnil]
      simp
    | inr hrunning =>
      obtain ⟨content, -, -, hrunning⟩ := hrunning
      exact hrunning.pending
  have hapart : ∃ own' fetched', fetched'.IdsMatch
      ∧ Backup.Inv dateFormatter localDataService fetched' (backup.withCloud own')
      ∧ Firestore.Apart session.backup.remoteDataService.db backup.remoteDataService.db own own' := by
    cases hbackup with
    | inl hwaiting =>
      have hown : own = fetched := congrArg FirebaseDataService.db hwaiting.service
      subst hown
      obtain ⟨own', hown', hbackup', hapart⟩ := hwaiting.step_apart hfetched hcloud.idsMatch hstep
      exact ⟨own', own', hown', hbackup', hapart⟩
    | inr hrunning =>
      obtain ⟨content, hcontent, hlocal, hrunning⟩ := hrunning
      obtain ⟨own', hrunning', hapart⟩ := hrunning.step_apart hstep
      exact ⟨own', fetched, hfetched, .inr ⟨content, hcontent, hlocal, hrunning'⟩, hapart⟩
  obtain ⟨own', fetched', hfetched', hbackup', hapart⟩ := hapart
  refine ⟨h.healthy.withCloud _, h.object, h.writes, hcloud.backup_step hpending hstep, ?_⟩
  refine ⟨mine, own', fetched', hfetched', hinv, hbackup', ?_⟩
  intro T id
  cases hapart T id with
  | inl heq => exact .inr heq
  | inr hkept =>
    obtain ⟨hsame, hsame'⟩ := hkept
    have hdocument := hparts T id
    rw [← session.shared, ← hsame, ← hsame'] at hdocument
    exact hdocument

theorem Inv.step (h : Inv typeOf dateFormatter localDataService other elsewhere session)
    {e : Event} (hstep : (machine typeOf dateFormatter).step session e = some session')
    : Inv typeOf dateFormatter localDataService other elsewhere session' := by
  cases e with
  | manager e =>
    obtain ⟨he, hstep⟩ := Option.ite_none_right_eq_some.mp hstep
    obtain ⟨manager, hmanager, rfl⟩ := Option.map_eq_some_iff.mp hstep
    exact h.manager_step he hmanager
  | backup e =>
    obtain ⟨backup, hbackup, rfl⟩ := Option.map_eq_some_iff.mp hstep
    exact h.backup_step hbackup

/-! ## After a backup -/

theorem ofCollectionName?_of_mem_queue {manager : DataServiceManager} {target : Key → Option JSON}
    (h : ∀ k, ∀ v ∈ manager.writes k, Addressed k v)
    {w : Outbox.Write Key (Option JSON) String} (hw : w ∈ (manager.abs target).queue)
    : Kind.ofCollectionName? w.key.1 ≠ none := by
  obtain ⟨call, hcall, rfl⟩ := List.mem_map.mp hw
  have hmem : call.1.data ∈ manager.writes (DataServiceManager.toWrite call).key :=
    List.mem_filterMap.mpr ⟨call, hcall, if_pos rfl⟩
  exact (h _ _ hmem).ofCollectionName?

theorem Inv.outbox (h : Inv typeOf dateFormatter localDataService other elsewhere session)
    (hdone : .progress 1 ∈ session.backup.log)
    : Outbox.Inv (session.manager.abs (session.manager.target other)) := by
  obtain ⟨mine, own, fetched, -, hinv, hbackup, hparts⟩ := h.parts
  refine hinv.congr rfl rfl rfl ?_
  intro x
  cases hT : Kind.ofCollectionName? x.1 with
  | none =>
    left
    constructor
    . have htarget := DataServiceManager.target_elsewhere session.manager other hT
      exact (h.cloud.elsewhere x hT).trans htarget.symm
    . rintro w hw rfl
      exact absurd hT (ofCollectionName?_of_mem_queue h.writes hw)
  | some T =>
    right
    have hcollection := Kind.eq_of_ofCollectionName? hT
    have htarget (other : Key → Option JSON) : session.manager.target other x
        = (localDataService.realm.object T x.2).map DataServiceObject.getJSONData := by
      unfold DataServiceManager.target
      rw [hT, ← h.object]
    refine ⟨(htarget other).trans (htarget elsewhere).symm, ?_⟩
    have hdocument := hparts T x.2
    rw [← hcollection] at hdocument
    cases hdocument with
    | inl hmine => exact .inl hmine
    | inr hown =>
      right
      have hbacked := hbackup.truthful.cloud hdone T x.2
      rw [← hcollection] at hbacked
      exact (hown.trans hbacked).trans (htarget elsewhere).symm

theorem Inv.pending (h : Inv typeOf dateFormatter localDataService other elsewhere session)
    (hdone : .progress 1 ∈ session.backup.log)
    : session.backup.remoteDataService.pending = [] := by
  obtain ⟨mine, own, fetched, -, -, hbackup, -⟩ := h.parts
  cases hbackup with
  | inl hwaiting => exact congrArg FirebaseDataService.pending hwaiting.service
  | inr hrunning =>
    obtain ⟨content, -, -, hrunning⟩ := hrunning
    exact (hrunning.complete (hrunning.succeeded_eq hdone)).pending

/--
Whatever documents the cloud holds when a backup begins, as long as they have their ids, and whatever
the outbox still sends meanwhile: when the backup reports its end, the cloud converges to the device
again in all that follows.
-/
theorem backup_converges {start manager final : DataServiceManager}
    {ops later : List DataServiceManager.Event} {db : Firestore} {events : List Event}
    (hstart : DataServiceManager.Initial typeOf start)
    (hops : (DataServiceManager.machine typeOf).run start ops = some manager) (hdb : db.IdsMatch)
    (hrun : (machine typeOf dateFormatter).run (begin manager db) events = some session)
    (hdone : .progress 1 ∈ session.backup.log)
    (hlater : (DataServiceManager.machine typeOf).run session.manager later = some final)
    : session.backup.remoteDataService.pending = []
      ∧ (∀ (T : Kind) (id : String),
          (∃ record ∈ final.records,
              record.collectionName = T.getRemoteCollectionName ∧ record.objectID = id)
            ∨
          ∀ calls : List (RemoteWrite × OfflineStorageModel),
            calls.Sublist final.remoteDataService.pending →
              (final.remoteDataService.db.writeAll (calls.map Prod.fst)).document
                  T.getRemoteCollectionName id
                = (final.realm.object T id).map DataServiceObject.getJSONData)
      ∧ (final.records = [] → ∀ (T : Kind) (id : String),
          final.remoteDataService.db.document T.getRemoteCollectionName id
            = (final.realm.object T id).map DataServiceObject.getJSONData) := by
  have hinv : Inv typeOf dateFormatter manager.localDataService
      (fun k => db.document k.1 k.2) start.elsewhere session :=
    Machine.invariant (fun _ _ _ h hstep => h.step hstep) (begin_inv hstart hops hdb) hrun
  obtain ⟨-, hsteps⟩ := Machine.run_simulates
    (fun manager => manager.abs (manager.target fun k => db.document k.1 k.2))
    (DataServiceManager.step_simulates fun k => db.document k.1 k.2) hinv.healthy hlater
  have hconverges (T : Kind) (id : String) := DataServiceManager.record_or_settled_of_inv
    (fun k => db.document k.1 k.2) ((hinv.outbox hdone).steps hsteps) T id
  refine ⟨hinv.pending hdone, hconverges, ?_⟩
  intro hrecords T id
  cases hconverges T id with
  | inl hrecord =>
    rw [hrecords] at hrecord
    simp at hrecord
  | inr hsettled => exact hsettled [] (List.nil_sublist _)

def sampleForeign : DataServiceObject := .report { id := "x", title := "Old match", time := 0 }

def sampleCloud : Firestore :=
  Firestore.empty.write ⟨"Report", "x", some sampleForeign.getJSONData⟩

def sampleEvents : List Event :=
  [.backup (.fetched .report sampleContext), .backup (.fetched .shot sampleContext),
    .manager .applied, .backup (.answer 0 none), .backup (.completion 0), .backup (.answer 0 none),
    .backup (.completion 0)]

theorem backup_converges_foreign_report
    : ∃ manager session final,
        (DataServiceManager.machine fun _ => .report).run DataServiceManager.sampleManager
            [.addObject (.report DataServiceManager.sampleReport)] = some manager
          ∧ (machine (fun _ => .report) sampleFormatter).run (begin manager sampleCloud) sampleEvents
            = some session
          ∧ (DataServiceManager.machine fun _ => .report).run session.manager [.completion 0]
            = some final
          ∧ final.remoteDataService.db.document Kind.report.getRemoteCollectionName "x" = none := by
  have hrun : ∃ manager session final,
      (DataServiceManager.machine fun _ => .report).run DataServiceManager.sampleManager
          [.addObject (.report DataServiceManager.sampleReport)] = some manager
        ∧ (machine (fun _ => .report) sampleFormatter).run (begin manager sampleCloud) sampleEvents
          = some session
        ∧ .progress 1 ∈ session.backup.log
        ∧ (DataServiceManager.machine fun _ => .report).run session.manager [.completion 0]
          = some final
        ∧ final.records = []
        ∧ final.realm.object .report "x" = none := by
    refine ⟨_, _, _, rfl, rfl, ?_, rfl, rfl, rfl⟩
    decide +kernel
  obtain ⟨manager, session, final, hops, hrun, hdone, hlater, hrecords, hobject⟩ := hrun
  refine ⟨manager, session, final, hops, hrun, hlater, ?_⟩
  have hcloud := (backup_converges (DataServiceManager.sampleManager_initial _) hops
    (Firestore.IdsMatch.empty.write sampleForeign) hrun hdone hlater).2.2 hrecords .report "x"
  rw [hcloud, hobject]
  rfl

end BackupSession
