import CaptainCue.Manager.Deletes
import CaptainCue.Restore.Session

/-!
This module contains the runs of a restore: an object that the user adds before the confirmation
survives exactly if the captured data happens to contain it.
-/

namespace DataServiceManager

variable {typeOf : String → Kind}

theorem outgoing_document {realm : Realm} {record : OfflineStorageModel} {w : RemoteWrite}
    (h : realm.outgoing record = some w) : w.document = record.objectID := by
  unfold Realm.outgoing at h
  split at h
  . cases h
  . split at h
    . cases h
      rfl
    . split at h
      . cases h
        rfl
      . cases h
        rfl
      . cases h
        rfl
      . cases h

theorem outgoing_congr {realm realm' : Realm}
    (h : ∀ T id, realm'.object T id = realm.object T id) (record : OfflineStorageModel)
    : realm'.outgoing record = realm.outgoing record := by
  unfold Realm.outgoing
  cases Kind.ofCollectionName? record.collectionName with
  | none => rfl
  | some T =>
    dsimp only
    rw [h]

theorem outgoing_data_ne_none {realm : Realm} {record : OfflineStorageModel} {T : Kind}
    (hcollection : record.collectionName = T.getRemoteCollectionName)
    (hstored : realm.object T record.objectID ≠ none) (hmenthod : record.getMenthod ≠ some .delete)
    {w : RemoteWrite} (h : realm.outgoing record = some w) : w.data ≠ none := by
  obtain ⟨data, hdata⟩ := Option.ne_none_iff_exists'.mp hstored
  unfold Realm.outgoing at h
  rw [hcollection, Kind.ofCollectionName?_getRemoteCollectionName] at h
  dsimp only at h
  rw [hdata] at h
  dsimp only at h
  split at h
  . cases h
    simp
  . cases h
    simp
  . next hm => exact absurd hm hmenthod
  . cases h

theorem Tidy.menthod_ne_delete {manager : DataServiceManager} (h : Tidy typeOf manager)
    {record : OfflineStorageModel} (hrecord : record ∈ manager.records) {T : Kind}
    (hstored : manager.realm.object T record.objectID ≠ none)
    : record.collectionName = T.getRemoteCollectionName ∧ record.getMenthod ≠ some .delete := by
  obtain ⟨data, hdata⟩ := Option.ne_none_iff_exists'.mp hstored
  have hT := h.object T _ data hdata
  obtain ⟨menthodType, hm, hdelete⟩ := h.menthod record hrecord
  refine ⟨by rw [h.collection record hrecord, hT], ?_⟩
  intro hmenthod
  rw [hmenthod] at hm
  have hnone := hdelete (Option.some.inj hm).symm
  rw [hT] at hnone
  exact hstored hnone

/-! ### Events that are no calls of the user -/

def isUserCall : Event → Bool
  | .addObject _ => true
  | .updateObject _ => true
  | .deleteObject _ => true
  | _ => false

structure Passive (manager manager' : DataServiceManager) : Prop where
  -- No object changes, no record is new, and what is sent is what the records say.
  object : ∀ T id, manager'.realm.object T id = manager.realm.object T id
  records : ∀ record ∈ manager'.records, record ∈ manager.records
  verdicts : manager.verdicts = [] → manager'.verdicts = []
  issued : manager.verdicts = [] →
    ∃ calls, manager'.remoteDataService.issued = manager.remoteDataService.issued ++ calls
      ∧ ∀ call ∈ calls, call.2 ∈ manager.records
        ∧ manager.realm.outgoing call.2 = some call.1

theorem Passive.quiet {manager manager' : DataServiceManager}
    (hlocal : manager'.localDataService = manager.localDataService)
    (hissued : manager'.remoteDataService.issued = manager.remoteDataService.issued)
    : Passive manager manager' where
  object := by simp [realm, hlocal]
  records := by simp [DataServiceManager.records, hlocal]
  verdicts := by simp [DataServiceManager.verdicts, hlocal]
  issued := fun _ => ⟨[], by simp [hissued], by simp⟩

theorem Passive.merge (manager : DataServiceManager)
    : Passive manager manager.checkAndMergeChangeInLocalDatabase where
  object := by
    intro T id
    rw [manager.checkAndMergeChangeInLocalDatabase_frame.realm]
  records := by
    intro record hrecord
    rw [manager.checkAndMergeChangeInLocalDatabase_frame.records] at hrecord
    exact hrecord
  verdicts := checkAndMergeChangeInLocalDatabase_verdicts
  issued := by
    intro hverdicts
    rw [checkAndMergeChangeInLocalDatabase_eq]
    split
    . exact ⟨manager.outgoing, by rw [sendAll_remoteDataService hverdicts],
        fun call hcall => mem_outgoing.mp hcall⟩
    . exact ⟨[], by simp, by simp⟩

theorem step_passive {manager manager' : DataServiceManager} {e : Event}
    (huser : isUserCall e = false) (hstep : manager.step typeOf e = some manager')
    : Passive manager manager' := by
  cases e with
  | addObject data => cases huser
  | updateObject data => cases huser
  | deleteObject data => cases huser
  | checkAndMerge =>
    cases hstep
    exact .merge manager
  | network state =>
    cases hstep
    unfold changeInternetConnection
    split
    . exact .quiet rfl rfl
    . have hmerge := Passive.merge { manager with network := state }
      exact ⟨hmerge.object, hmerge.records, hmerge.verdicts, hmerge.issued⟩
  | applied =>
    obtain ⟨service, hservice, rfl⟩ := Option.map_eq_some_iff.mp hstep
    obtain ⟨w, item, pending, -, heq⟩ := applyOldest_eq_some hservice
    rw [heq]
    exact .quiet rfl rfl
  | rejected err =>
    obtain ⟨service, hservice, rfl⟩ := Option.map_eq_some_iff.mp hstep
    obtain ⟨w, item, pending, -, heq⟩ := rejectOldest_eq_some hservice
    rw [heq]
    exact .quiet rfl rfl
  | completion i =>
    obtain ⟨item, err, l, r, -, rfl⟩ := deliver_eq_some hstep
    refine ⟨?_, ?_, ?_, ?_⟩
    . intro T id
      rw [completion_object]
    . intro record hrecord
      exact (mem_completion_records.mp hrecord).1
    . intro hverdicts
      apply completion_verdicts
      exact hverdicts
    . intro _
      rw [completion_remoteDataService]
      exact ⟨[], (List.append_nil _).symm, by simp⟩

end DataServiceManager

namespace RestoreSession

open DataServiceManager (Healthy isUserCall)

variable {typeOf : String → Kind} {dateFormatter : DateFormatter}

def Safe (session : RestoreSession) : Prop :=
  (session.restored = true → ∀ object ∈ session.added,
      session.manager.realm.object object.1 object.2 ≠ none)
    ∧ ∀ object ∈ session.added, ∀ call ∈ session.manager.remoteDataService.issued,
      call.1.document = object.2 → call.1.data ≠ none

def Confirms (session : RestoreSession) : Event → Prop
  | .confirm => ∀ data, session.alert = some data →
      ∀ object ∈ session.added, ∃ item ∈ data object.1, item.id = object.2
  | _ => True

structure Inv (typeOf : String → Kind) (session : RestoreSession) : Prop where
  verdicts : session.manager.verdicts = []
  healthy : session.restored = false → Healthy typeOf session.manager
  stored : ∀ object ∈ session.added,
    session.manager.realm.object object.1 object.2 ≠ none
  records : ∀ object ∈ session.added, ∀ record ∈ session.manager.records,
    record.objectID = object.2 → ∀ w, session.manager.realm.outgoing record = some w →
      w.data ≠ none
  issued : ∀ object ∈ session.added, ∀ call ∈ session.manager.remoteDataService.issued,
    call.1.document = object.2 → call.1.data ≠ none
  kinds : ∀ T datas, session.requests T = .completed (some datas) → ∀ item ∈ datas, item.kind = T
  alert : ∀ data, session.alert = some data →
    session.restored = false ∧ ∀ T, session.requests T = .completed (some (data T))
  restored : session.restored = true →
    session.alert = none ∧ ∀ T, ∃ datas, session.requests T = .completed datas

theorem Inv.safe {session : RestoreSession} (h : Inv typeOf session) : session.Safe :=
  ⟨fun _ => h.stored, h.issued⟩

/-! ### Calls and events of the manager -/

theorem mem_remember {session : RestoreSession} {e : DataServiceManager.Event}
    (huser : isUserCall e = false) : session.remember e = session.added := by
  cases e <;> first | rfl | cases huser

theorem not_userCall_of_restored {session : RestoreSession} {e : DataServiceManager.Event}
    (hallowed : session.Allowed e) (hrestored : session.restored = true) : isUserCall e = false := by
  cases e with
  | addObject data =>
    have := hallowed.1
    rw [hrestored] at this
    cases this
  | updateObject data =>
    have hfalse : session.restored = false := hallowed
    rw [hrestored] at hfalse
    cases hfalse
  | deleteObject data =>
    have hfalse : session.restored = false := hallowed
    rw [hrestored] at hfalse
    cases hfalse
  | _ => rfl

theorem remember_stored {session : RestoreSession} (h : Healthy typeOf session.manager)
    (hstored : ∀ object ∈ session.added, session.manager.realm.object object.1 object.2 ≠ none)
    {e : DataServiceManager.Event} {manager : DataServiceManager}
    (hstep : session.manager.step typeOf e = some manager)
    : ∀ object ∈ session.remember e, manager.realm.object object.1 object.2 ≠ none := by
  intro object hobject
  cases e with
  | addObject data =>
    simp only [DataServiceManager.step] at hstep
    split at hstep
    . next hguard =>
      cases hstep
      rw [DataServiceManager.addObject_eq hguard.2, DataServiceManager.saveObject_object h.verdicts]
      split
      . simp
      . next hne =>
        cases List.mem_cons.mp hobject with
        | inl heq =>
          rw [heq] at hne
          exact absurd ⟨rfl, rfl⟩ hne
        | inr hmem => exact hstored object hmem
    . cases hstep
  | updateObject data =>
    simp only [DataServiceManager.step] at hstep
    split at hstep
    . cases hstep
      rw [DataServiceManager.updateObject_eq, DataServiceManager.saveObject_object h.verdicts]
      split
      . simp
      . exact hstored object hobject
    . cases hstep
  | deleteObject data =>
    simp only [DataServiceManager.step] at hstep
    split at hstep
    . cases hstep
      obtain ⟨hmem, hkeep⟩ := List.mem_filter.mp hobject
      rw [DataServiceManager.deleteObject_eq, DataServiceManager.deleteAll_object h.verdicts, if_neg]
      . exact hstored object hmem
      . rintro ⟨item, hitem, heq⟩
        exact of_decide_eq_true hkeep item hitem heq
    . cases hstep
  | checkAndMerge =>
    rw [(DataServiceManager.step_passive rfl hstep).object]
    exact hstored object hobject
  | network state =>
    rw [(DataServiceManager.step_passive rfl hstep).object]
    exact hstored object hobject
  | applied =>
    rw [(DataServiceManager.step_passive rfl hstep).object]
    exact hstored object hobject
  | rejected err =>
    rw [(DataServiceManager.step_passive rfl hstep).object]
    exact hstored object hobject
  | completion i =>
    rw [(DataServiceManager.step_passive rfl hstep).object]
    exact hstored object hobject

theorem remember_cases {session : RestoreSession} {e : DataServiceManager.Event}
    (hallowed : session.Allowed e) {object : Kind × String} (h : object ∈ session.remember e)
    : object ∈ session.added ∨ Fresh session.manager object.2 := by
  cases e with
  | addObject data =>
    cases List.mem_cons.mp h with
    | inl heq =>
      rw [heq]
      exact .inr hallowed.2
    | inr hmem => exact .inl hmem
  | deleteObject data => exact .inl (List.mem_filter.mp h).1
  | _ => exact .inl h

theorem Inv.before {session : RestoreSession} (h : Inv typeOf session)
    (hrestored : session.restored = false) {e : DataServiceManager.Event}
    (hallowed : session.Allowed e) {manager : DataServiceManager}
    (hstep : session.manager.step typeOf e = some manager)
    : Inv typeOf { session with manager := manager, added := session.remember e } := by
  have hhealthy : Healthy typeOf manager :=
    (DataServiceManager.step_simulates (fun _ => none) _ e _ (h.healthy hrestored) hstep).1
  have hstored := remember_stored (h.healthy hrestored) h.stored hstep
  refine ⟨hhealthy.verdicts, fun _ => hhealthy, hstored, ?_, ?_, h.kinds, h.alert, ?_⟩
  . intro object hobject record hrecord hid w hw
    have hobj := hstored object hobject
    rw [← hid] at hobj
    obtain ⟨hcollection, hmenthod⟩ := hhealthy.toTidy.menthod_ne_delete hrecord hobj
    exact DataServiceManager.outgoing_data_ne_none hcollection hobj hmenthod hw
  . intro object hobject call hcall hdocument hnone
    obtain ⟨calls, hissued, hcalls⟩ :=
      DataServiceManager.step_deletesAbsent (h.healthy hrestored) hstep
    dsimp only at hcall
    rw [hissued] at hcall
    cases List.mem_append.mp hcall with
    | inl hcall =>
      cases remember_cases hallowed hobject with
      | inl hobject => exact h.issued object hobject call hcall hdocument hnone
      | inr hfresh => exact hfresh.2.2.2 call hcall hdocument
    | inr hcall =>
      have habsent := hcalls call hcall hnone object.1
      rw [hdocument] at habsent
      exact hstored object hobject habsent
  . intro htrue
    dsimp only at htrue
    rw [hrestored] at htrue
    cases htrue

theorem Inv.after {session : RestoreSession} (h : Inv typeOf session)
    (hrestored : session.restored = true) {e : DataServiceManager.Event}
    (huser : isUserCall e = false) {manager : DataServiceManager}
    (hstep : session.manager.step typeOf e = some manager)
    : Inv typeOf { session with manager := manager, added := session.remember e } := by
  have hpassive := DataServiceManager.step_passive huser hstep
  rw [mem_remember huser]
  refine ⟨hpassive.verdicts h.verdicts, ?_, ?_, ?_, ?_, h.kinds, h.alert, h.restored⟩
  . intro hfalse
    dsimp only at hfalse
    rw [hrestored] at hfalse
    cases hfalse
  . intro object hobject
    dsimp only
    rw [hpassive.object]
    exact h.stored object hobject
  . intro object hobject record hrecord hid w hw
    rw [DataServiceManager.outgoing_congr hpassive.object] at hw
    exact h.records object hobject record (hpassive.records record hrecord) hid w hw
  . intro object hobject call hcall hdocument
    obtain ⟨calls, hissued, hcalls⟩ := hpassive.issued h.verdicts
    dsimp only at hcall
    rw [hissued] at hcall
    cases List.mem_append.mp hcall with
    | inl hcall => exact h.issued object hobject call hcall hdocument
    | inr hcall =>
      obtain ⟨hrecord, hw⟩ := hcalls call hcall
      have hid := (DataServiceManager.outgoing_document hw).symm.trans hdocument
      exact h.records object hobject call.2 hrecord hid call.1 hw

/-! ### The fetches -/

theorem Inv.request {session : RestoreSession} (h : Inv typeOf session) {T : Kind}
    (hT : ∀ datas, session.requests T ≠ .completed datas) {request : FetchRequest}
    (hkinds : ∀ datas, request = .completed (some datas) → ∀ item ∈ datas, item.kind = T)
    : Inv typeOf { session with requests := Function.update session.requests T request } := by
  refine ⟨h.verdicts, h.healthy, h.stored, h.records, h.issued, ?_, ?_, ?_⟩
  . intro U datas hU
    dsimp only at hU
    by_cases hUT : U = T
    . subst hUT
      rw [Function.update_self] at hU
      exact hkinds datas hU
    . rw [Function.update_of_ne hUT] at hU
      exact h.kinds U datas hU
  . intro data hdata
    exact absurd ((h.alert data hdata).2 T) (hT _)
  . intro hrestored
    obtain ⟨datas, hdatas⟩ := (h.restored hrestored).2 T
    exact absurd hdatas (hT _)

theorem Inv.checkShowAlert {session : RestoreSession} (h : Inv typeOf session)
    (hrestored : session.restored = false) : Inv typeOf session.checkShowAlert := by
  unfold RestoreSession.checkShowAlert
  split
  . next shotData reportData hshot hreport =>
    split
    . refine ⟨h.verdicts, h.healthy, h.stored, h.records, h.issued, h.kinds, ?_, ?_⟩
      . intro data hdata
        cases hdata
        refine ⟨hrestored, ?_⟩
        intro T
        cases T with
        | report => exact hreport
        | shot => exact hshot
      . intro htrue
        dsimp only at htrue
        rw [hrestored] at htrue
        cases htrue
    . exact h
  . exact h

theorem Inv.closure {session : RestoreSession} (h : Inv typeOf session) {T : Kind}
    (hT : ∀ datas, session.requests T ≠ .completed datas)
    {datas : Option (List DataServiceObject)} (hdatas : ∀ item ∈ datas.getD [], item.kind = T)
    (err : Option NSError) : Inv typeOf (session.closure T datas err) := by
  have hrestored : session.restored = false := by
    by_contra hne
    obtain ⟨datas, hcompleted⟩ := (h.restored (by simpa using hne)).2 T
    exact hT datas hcompleted
  unfold RestoreSession.closure
  split
  . apply h.request hT
    intro datas heq
    cases heq
  . refine Inv.checkShowAlert (h.request hT ?_) hrestored
    intro datas heq
    cases heq
    exact hdatas

/-! ### The confirmation -/

theorem confirm_object {session : RestoreSession} (h : Inv typeOf session)
    {data : Kind → List DataServiceObject} (hdata : session.alert = some data) (T : Kind)
    (id : String)
    : (session.confirm data).manager.realm.object T id ≠ none
        ↔ ∃ item ∈ data T, item.id = id := by
  have hverdicts := h.verdicts
  have hkinds : ∀ U, ∀ item ∈ data U, item.kind = U :=
    fun U => h.kinds U _ ((h.alert data hdata).2 U)
  unfold RestoreSession.confirm DataServiceManager.onLocal DataServiceManager.realm
  unfold DataServiceManager.verdicts at hverdicts
  dsimp only
  have hverdicts' := RealmDataService.restoreData_verdicts hverdicts .report (data .report)
  rw [RealmDataService.restoreData_object_ne_none hverdicts' (hkinds .shot),
    RealmDataService.restoreData_object_ne_none hverdicts (hkinds .report)]
  cases T <;> simp

theorem confirm_records {session : RestoreSession} (hverdicts : session.manager.verdicts = [])
    (data : Kind → List DataServiceObject)
    : (session.confirm data).manager.records = session.manager.records := by
  unfold DataServiceManager.verdicts at hverdicts
  unfold RestoreSession.confirm DataServiceManager.onLocal DataServiceManager.records
  dsimp only
  have hverdicts' := RealmDataService.restoreData_verdicts hverdicts .report (data .report)
  rw [RealmDataService.restoreData_eq hverdicts', RealmDataService.restoreData_eq hverdicts]
  simp

theorem confirm_verdicts {session : RestoreSession} (hverdicts : session.manager.verdicts = [])
    (data : Kind → List DataServiceObject) : (session.confirm data).manager.verdicts = [] := by
  unfold DataServiceManager.verdicts at hverdicts ⊢
  unfold RestoreSession.confirm DataServiceManager.onLocal
  dsimp only
  apply RealmDataService.restoreData_verdicts
  exact RealmDataService.restoreData_verdicts hverdicts .report (data .report)

theorem Inv.confirm {session : RestoreSession} (h : Inv typeOf session)
    {data : Kind → List DataServiceObject} (hdata : session.alert = some data)
    (hconfirms : session.Confirms .confirm) : Inv typeOf (session.confirm data) := by
  obtain ⟨hrestored, hrequests⟩ := h.alert data hdata
  have hstored : ∀ object ∈ session.added,
      (session.confirm data).manager.realm.object object.1 object.2 ≠ none := by
    intro object hobject
    exact (confirm_object h hdata _ _).mpr (hconfirms data hdata object hobject)
  refine ⟨confirm_verdicts h.verdicts data, ?_, hstored, ?_, h.issued, h.kinds, ?_, ?_⟩
  . intro hfalse
    cases hfalse
  . intro object hobject record hrecord hid w hw
    rw [confirm_records h.verdicts] at hrecord
    have hbefore := h.stored object hobject
    have hafter := hstored object hobject
    rw [← hid] at hbefore hafter
    obtain ⟨hcollection, hmenthod⟩ :=
      (h.healthy hrestored).toTidy.menthod_ne_delete hrecord hbefore
    exact DataServiceManager.outgoing_data_ne_none hcollection hafter hmenthod hw
  . intro data' hdata'
    cases hdata'
  . intro _
    exact ⟨rfl, fun T => ⟨_, hrequests T⟩⟩

/-! ### One event -/

theorem Inv.step (session : RestoreSession) (e : Event) (session' : RestoreSession)
    (h : Inv typeOf session) (hconfirms : session.Confirms e)
    (hstep : (machine typeOf dateFormatter).step session e = some session')
    : Inv typeOf session' := by
  unfold machine at hstep
  cases e with
  | manager e =>
    simp only [RestoreSession.step] at hstep
    split at hstep
    . next hallowed =>
      obtain ⟨manager, hmanager, rfl⟩ := Option.map_eq_some_iff.mp hstep
      cases hrestored : session.restored with
      | false =>
        have hinv := h.before hrestored hallowed hmanager
        rw [hrestored] at hinv
        exact hinv
      | true =>
        have hinv := h.after hrestored (not_userCall_of_restored hallowed hrestored) hmanager
        rw [hrestored] at hinv
        exact hinv
    . cases hstep
  | snapshot T =>
    simp only [RestoreSession.step] at hstep
    split at hstep
    . next hsent =>
      cases hstep
      apply h.request
      . intro datas heq
        rw [hsent] at heq
        cases heq
      . intro datas heq
        cases heq
    . cases hstep
  | fetched T context =>
    simp only [RestoreSession.step, getAllDataClosure_eq] at hstep
    split at hstep
    . next documents hanswered =>
      cases hstep
      apply h.closure
      . intro datas heq
        rw [hanswered] at heq
        cases heq
      . intro item hitem
        exact FirebaseDataService.kind_of_mem_getAllData hitem
    . cases hstep
  | fetchFailed T err =>
    simp only [RestoreSession.step, getAllDataClosure_eq] at hstep
    split at hstep
    . cases hstep
    . next hnot =>
      cases hstep
      apply h.closure hnot
      simp
  | confirm =>
    simp only [RestoreSession.step] at hstep
    split at hstep
    . next data hdata =>
      cases hstep
      exact h.confirm hdata hconfirms
    . cases hstep

structure Lost (session : RestoreSession) : Prop where
  -- An object of the user is gone, and nothing that can still happen brings it back.
  restored : session.restored = true
  alert : session.alert = none
  requests : ∀ T, ∃ datas, session.requests T = .completed datas
  object : ∃ object ∈ session.added, session.manager.realm.object object.1 object.2 = none

theorem Lost.of_not_confirms (session : RestoreSession) (e : Event) (session' : RestoreSession)
    (h : Inv typeOf session) (hconfirms : ¬ session.Confirms e)
    (hstep : (machine typeOf dateFormatter).step session e = some session') : Lost session' := by
  unfold machine at hstep
  cases e with
  | confirm =>
    simp only [RestoreSession.step] at hstep
    split at hstep
    . next data hdata =>
      cases hstep
      refine ⟨rfl, rfl, fun T => ⟨_, (h.alert data hdata).2 T⟩, ?_⟩
      by_contra hlost
      apply hconfirms
      intro data' hdata' object hobject
      rw [hdata] at hdata'
      cases hdata'
      apply (confirm_object h hdata object.1 object.2).mp
      intro hnone
      exact hlost ⟨object, hobject, hnone⟩
    . cases hstep
  | manager e => exact absurd trivial hconfirms
  | snapshot T => exact absurd trivial hconfirms
  | fetched T context => exact absurd trivial hconfirms
  | fetchFailed T err => exact absurd trivial hconfirms

theorem Lost.step (session : RestoreSession) (e : Event) (session' : RestoreSession)
    (h : Lost session)
    (hstep : (machine typeOf dateFormatter).step session e = some session') : Lost session' := by
  unfold machine at hstep
  cases e with
  | manager e =>
    simp only [RestoreSession.step] at hstep
    split at hstep
    . next hallowed =>
      obtain ⟨manager, hmanager, rfl⟩ := Option.map_eq_some_iff.mp hstep
      have huser := not_userCall_of_restored hallowed h.restored
      rw [mem_remember huser]
      refine ⟨h.restored, h.alert, h.requests, ?_⟩
      obtain ⟨object, hobject, hnone⟩ := h.object
      refine ⟨object, hobject, ?_⟩
      dsimp only
      rw [(DataServiceManager.step_passive huser hmanager).object]
      exact hnone
    . cases hstep
  | snapshot T =>
    obtain ⟨datas, hdatas⟩ := h.requests T
    simp [RestoreSession.step, hdatas] at hstep
  | fetched T context =>
    obtain ⟨datas, hdatas⟩ := h.requests T
    simp [RestoreSession.step, hdatas] at hstep
  | fetchFailed T err =>
    obtain ⟨datas, hdatas⟩ := h.requests T
    simp [RestoreSession.step, hdatas] at hstep
  | confirm => simp [RestoreSession.step, h.alert] at hstep

theorem Lost.not_safe {session : RestoreSession} (h : Lost session) : ¬ session.Safe := by
  intro hsafe
  obtain ⟨object, hobject, hnone⟩ := h.object
  exact hsafe.1 h.restored object hobject hnone

theorem checkRestoreAbility_inv {manager : DataServiceManager} {start : RestoreSession}
    (hmanager : Healthy typeOf manager) (hstart : checkRestoreAbility manager = some start)
    : Inv typeOf start := by
  unfold checkRestoreAbility at hstart
  split at hstart
  . cases hstart
  . cases hstart
    refine ⟨hmanager.verdicts, fun _ => hmanager, ?_, ?_, ?_, ?_, ?_, ?_⟩
    . simp
    . simp
    . simp
    . intro T datas heq
      cases heq
    . intro data heq
      cases heq
    . intro htrue
      cases htrue

/--
In a run after `checkRestoreAbility` has found the local database empty: the user keeps each object
added before the confirmation and not deleted, and no delete is issued for it, exactly if the data
captured by the alert contains all these objects.
-/
theorem safe_iff_confirms {manager : DataServiceManager} {start final : RestoreSession}
    {events : List Event} (hmanager : Healthy typeOf manager)
    (hstart : checkRestoreAbility manager = some start)
    (hrun : (machine typeOf dateFormatter).run start events = some final)
    : final.Safe ↔ (machine typeOf dateFormatter).Meets Confirms start events := by
  have hinv := checkRestoreAbility_inv hmanager hstart
  have hcases := Machine.invariant_or_lost Inv.step Lost.of_not_confirms Lost.step hinv hrun
  cases hcases with
  | inl h => exact ⟨fun _ => h.1, fun _ => h.2.safe⟩
  | inr h => exact ⟨fun hsafe => absurd hsafe h.2.not_safe, fun hmeets => absurd hmeets h.1⟩

open DataServiceManager (sampleShot sampleReport sampleManager sampleManager_initial)

def sampleSession : RestoreSession :=
  ⟨sampleManager, fun _ => .sent, none, false, []⟩

def uploadedEvents : List Event :=
  [.manager (.addObject (.shot sampleShot)), .manager .applied, .snapshot .report, .snapshot .shot,
    .fetched .report sampleContext, .fetched .shot sampleContext, .confirm]

theorem safe_iff_confirms_uploaded
    : ∃ final, checkRestoreAbility sampleManager = some sampleSession
      ∧ (machine (fun _ => .shot) sampleFormatter).run sampleSession uploadedEvents = some final
      ∧ final.restored = true ∧ final.added = [(.shot, "s")] ∧ final.Safe := by
  have hrun : ∃ final,
      (machine (fun _ => .shot) sampleFormatter).run sampleSession uploadedEvents = some final
        ∧ final.restored = true ∧ final.added = [(.shot, "s")] :=
    ⟨_, rfl, rfl, rfl⟩
  obtain ⟨final, hrun, hrestored, hadded⟩ := hrun
  refine ⟨final, rfl, hrun, hrestored, hadded, ?_⟩
  apply (safe_iff_confirms (sampleManager_initial _).healthy rfl hrun).mpr
  refine (Machine.meets_cons rfl).mpr ⟨trivial, (Machine.meets_cons rfl).mpr ⟨trivial,
    (Machine.meets_cons rfl).mpr ⟨trivial, (Machine.meets_cons rfl).mpr ⟨trivial,
      (Machine.meets_cons rfl).mpr ⟨trivial, (Machine.meets_cons rfl).mpr ⟨trivial,
        (Machine.meets_cons rfl).mpr ⟨?_, trivial⟩⟩⟩⟩⟩⟩⟩
  intro data hdata object hobject
  cases hdata
  rw [List.mem_singleton.mp hobject]
  exact ⟨_, List.mem_cons_self, rfl⟩

def sampleCloud : RestoreSession :=
  { sampleSession with
    manager.remoteDataService.db :=
      sampleManager.remoteDataService.db.write
        ⟨Kind.report.getRemoteCollectionName, "r", some sampleReport.getJSONData⟩
  }

/--
The shot is added when the cloud has been read. The restore removes it, and the record of its
creation makes the next merge delete it in the cloud.
-/
theorem restore_removes_added
    : ∃ final, checkRestoreAbility sampleCloud.manager = some sampleCloud
      ∧ (machine (fun _ => .shot) sampleFormatter).run sampleCloud
        [.snapshot .report, .snapshot .shot, .manager (.addObject (.shot sampleShot)),
          .manager .applied, .fetched .report sampleContext, .fetched .shot sampleContext, .confirm,
          .manager .checkAndMerge] = some final
      ∧ final.added = [(.shot, "s")]
      ∧ final.manager.realm.object .shot "s" = none
      ∧ (∃ call ∈ final.manager.remoteDataService.issued,
          call.1 = ⟨Kind.shot.getRemoteCollectionName, "s", none⟩)
      ∧ ¬ final.Safe := by
  refine ⟨_, rfl, rfl, rfl, rfl, by decide, ?_⟩
  intro hsafe
  exact hsafe.1 rfl (.shot, "s") List.mem_cons_self rfl

end RestoreSession
