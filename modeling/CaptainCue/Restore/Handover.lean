import CaptainCue.Restore.Added
import CaptainCue.Restore.Written

/-!
This module contains the way of the data to a new device: one device has written everything to the
cloud, another one restores it and goes on with it.
-/

namespace DataServiceManager

variable {typeOf : String → Kind}

/-! ## A device with nothing to send -/

structure Quiet (manager : DataServiceManager) : Prop where
  records : manager.records = []
  pending : manager.remoteDataService.pending = []
  callbacks : manager.remoteDataService.callbacks = []

theorem merge_of_records_nil {manager : DataServiceManager} (h : manager.records = [])
    : manager.checkAndMergeChangeInLocalDatabase = manager := by
  have hnil : manager.outgoing = [] := by
    rw [List.eq_nil_iff_forall_not_mem]
    intro call hcall
    have hrecord := (mem_outgoing.mp hcall).1
    rw [h] at hrecord
    cases hrecord
  rw [checkAndMergeChangeInLocalDatabase_eq, hnil]
  split <;> rfl

theorem Quiet.step {manager manager' : DataServiceManager} (h : Quiet manager) {e : Event}
    (huser : isUserCall e = false) (hstep : manager.step typeOf e = some manager')
    : manager' = { manager with network := manager'.network } := by
  cases e with
  | addObject data => cases huser
  | updateObject data => cases huser
  | deleteObject data => cases huser
  | checkAndMerge =>
    cases hstep
    rw [merge_of_records_nil h.records]
  | network state =>
    cases hstep
    unfold changeInternetConnection
    split
    . rfl
    . rw [@merge_of_records_nil { manager with network := state } h.records]
  | applied =>
    obtain ⟨service, hservice, -⟩ := Option.map_eq_some_iff.mp hstep
    obtain ⟨w, item, pending, hpending, -⟩ := applyOldest_eq_some hservice
    rw [h.pending] at hpending
    cases hpending
  | rejected err =>
    obtain ⟨service, hservice, -⟩ := Option.map_eq_some_iff.mp hstep
    obtain ⟨w, item, pending, hpending, -⟩ := rejectOldest_eq_some hservice
    rw [h.pending] at hpending
    cases hpending
  | completion i =>
    obtain ⟨item, err, l, r, hcallbacks, -⟩ := deliver_eq_some hstep
    rw [h.callbacks] at hcallbacks
    exact absurd hcallbacks.symm (List.append_ne_nil_of_right_ne_nil l (List.cons_ne_nil _ r))

def newDevice (db : Firestore) (rank : String → Nat) (network : InternetState)
    : DataServiceManager where
  localDataService := { realm := .empty, rank, verdicts := [] }
  remoteDataService := { db, pending := [], callbacks := [], issued := [] }
  network := network
  uuids := 0

end DataServiceManager

namespace RestoreSession

open DataServiceManager (Quiet isUserCall newDevice sampleType sampleOps)

variable {typeOf : String → Kind} {dateFormatter : DateFormatter} {db : Firestore}

/-! ## The restore on the new device -/

def Fetched (dateFormatter : DateFormatter) (db : Firestore) (T : Kind)
    (datas : List DataServiceObject) : Prop :=
  ∃ context, datas = FirebaseDataService.getAllData dateFormatter context T
    (db.getDocuments T.getRemoteCollectionName)

structure Arriving (dateFormatter : DateFormatter) (db : Firestore) (session : RestoreSession)
    : Prop extends Quiet session.manager where
  cloud : session.manager.remoteDataService.db = db
  verdicts : session.manager.verdicts = []
  answered : ∀ T documents, session.requests T = .answered documents →
    documents = db.getDocuments T.getRemoteCollectionName
  completed : ∀ T datas, session.requests T = .completed (some datas) →
    Fetched dateFormatter db T datas
  alert : ∀ data, session.alert = some data → ∀ T, Fetched dateFormatter db T (data T)
  restored : session.restored = true → ∃ data : Kind → List DataServiceObject,
    ∀ T, Fetched dateFormatter db T (data T)
      ∧ ∀ id, session.manager.realm.object T id = (data T).find? fun item => item.id = id

def Event.isUserCall : Event → Bool
  | .manager e => DataServiceManager.isUserCall e
  | _ => false

theorem Arriving.request {session : RestoreSession} (h : Arriving dateFormatter db session)
    {T : Kind} {request : FetchRequest}
    (hanswered : ∀ documents, request = .answered documents →
      documents = db.getDocuments T.getRemoteCollectionName)
    (hcompleted : ∀ datas, request = .completed (some datas) → Fetched dateFormatter db T datas)
    : Arriving dateFormatter db
        { session with requests := Function.update session.requests T request } := by
  refine ⟨h.toQuiet, h.cloud, h.verdicts, ?_, ?_, h.alert, h.restored⟩
  . intro U documents hU
    dsimp only at hU
    by_cases hUT : U = T
    . subst hUT
      rw [Function.update_self] at hU
      exact hanswered documents hU
    . rw [Function.update_of_ne hUT] at hU
      exact h.answered U documents hU
  . intro U datas hU
    dsimp only at hU
    by_cases hUT : U = T
    . subst hUT
      rw [Function.update_self] at hU
      exact hcompleted datas hU
    . rw [Function.update_of_ne hUT] at hU
      exact h.completed U datas hU

theorem Arriving.checkShowAlert {session : RestoreSession} (h : Arriving dateFormatter db session)
    : Arriving dateFormatter db session.checkShowAlert := by
  unfold RestoreSession.checkShowAlert
  split
  . next shotData reportData hshot hreport =>
    split
    . refine ⟨h.toQuiet, h.cloud, h.verdicts, h.answered, h.completed, ?_, h.restored⟩
      intro data hdata T
      cases hdata
      cases T with
      | report => exact h.completed .report reportData hreport
      | shot => exact h.completed .shot shotData hshot
    . exact h
  . exact h

theorem Fetched.kind {T : Kind} {datas : List DataServiceObject}
    (h : Fetched dateFormatter db T datas) : ∀ item ∈ datas, item.kind = T := by
  obtain ⟨context, rfl⟩ := h
  intro item hitem
  exact FirebaseDataService.kind_of_mem_getAllData hitem

theorem Arriving.confirm {session : RestoreSession} (h : Arriving dateFormatter db session)
    {data : Kind → List DataServiceObject} (hdata : session.alert = some data)
    : Arriving dateFormatter db (session.confirm data) := by
  have hfetched := h.alert data hdata
  refine ⟨⟨?_, h.pending, h.callbacks⟩, h.cloud, ?_, h.answered, h.completed, nofun, ?_⟩
  . rw [confirm_records h.verdicts]
    exact h.records
  . exact confirm_verdicts h.verdicts data
  . intro _
    refine ⟨data, fun T => ⟨hfetched T, ?_⟩⟩
    intro id
    have hverdicts : session.manager.localDataService.verdicts = [] := h.verdicts
    have hverdicts' := RealmDataService.restoreData_verdicts hverdicts .report (data .report)
    unfold RestoreSession.confirm DataServiceManager.onLocal DataServiceManager.realm
    dsimp only
    rw [RealmDataService.restoreData_object hverdicts' (hfetched .shot).kind,
      RealmDataService.restoreData_object hverdicts (hfetched .report).kind]
    cases T <;> rfl

theorem Arriving.step {session session' : RestoreSession} {e : Event}
    (h : Arriving dateFormatter db session) (huser : e.isUserCall = false)
    (hstep : (machine typeOf dateFormatter).step session e = some session')
    : Arriving dateFormatter db session' := by
  have hstep : RestoreSession.step typeOf dateFormatter session e = some session' := hstep
  cases e with
  | manager e =>
    obtain ⟨-, heq⟩ := Option.ite_none_right_eq_some.mp hstep
    obtain ⟨manager, hmanager, rfl⟩ := Option.map_eq_some_iff.mp heq
    rw [h.toQuiet.step huser hmanager]
    exact ⟨⟨h.records, h.pending, h.callbacks⟩, h.cloud, h.verdicts, h.answered, h.completed,
      h.alert, h.restored⟩
  | snapshot T =>
    dsimp only [RestoreSession.step] at hstep
    split at hstep
    . cases hstep
      apply h.request
      . intro documents heq
        cases heq
        rw [h.cloud]
      . intro datas heq
        cases heq
    . cases hstep
  | fetched T context =>
    dsimp only [RestoreSession.step] at hstep
    split at hstep
    . next documents hdocuments =>
      cases hstep
      rw [getAllDataClosure_eq]
      apply Arriving.checkShowAlert
      apply h.request
      . intro documents heq
        cases heq
      . intro datas heq
        cases heq
        rw [h.answered T documents hdocuments]
        exact ⟨context, rfl⟩
    . cases hstep
  | fetchFailed T err =>
    have hfailed : Arriving dateFormatter db
        { session with requests := Function.update session.requests T (.completed none) } :=
      h.request nofun nofun
    dsimp only [RestoreSession.step] at hstep
    split at hstep
    . cases hstep
    . cases hstep
      rw [getAllDataClosure_eq]
      exact hfailed
  | confirm =>
    dsimp only [RestoreSession.step] at hstep
    split at hstep
    . next data hdata =>
      cases hstep
      exact h.confirm hdata
    . cases hstep

theorem checkRestoreAbility_arriving {rank : String → Nat} {network : InternetState}
    {session : RestoreSession}
    (hopened : checkRestoreAbility (newDevice db rank network) = some session)
    : Arriving dateFormatter db session := by
  unfold checkRestoreAbility at hopened
  split at hopened
  . cases hopened
  . cases hopened
    exact ⟨⟨rfl, rfl, rfl⟩, rfl, rfl, nofun, nofun, nofun, nofun⟩

theorem run_arriving {session session' : RestoreSession} {events : List Event}
    (h : Arriving dateFormatter db session) (huser : ∀ e ∈ events, e.isUserCall = false)
    (hrun : (machine typeOf dateFormatter).run session events = some session')
    : Arriving dateFormatter db session' := by
  apply Machine.invariant_of_meets (C := fun _ e => e.isUserCall = false) _ h _ hrun
  . intro session e session' h huser hstep
    exact h.step huser hstep
  . exact Machine.meets_of_forall (fun _ => huser) session

theorem Arriving.object {session : RestoreSession} (h : Arriving dateFormatter db session)
    {realm : Realm} (hwritten : FirebaseDataService.writtenFrom db realm)
    (hrestored : session.restored = true) (T : Kind) (id : String)
    : ∃ now, session.manager.realm.object T id
        = (realm.object T id).map (DataServiceObject.restored dateFormatter now) := by
  obtain ⟨data, hdata⟩ := h.restored hrestored
  obtain ⟨⟨context, hcontext⟩, hobject⟩ := hdata T
  rw [hobject, hcontext]
  exact FirebaseDataService.find?_fetched hwritten context T id

theorem document_restored_iff {realm realm' : Realm}
    (hwritten : FirebaseDataService.writtenFrom db realm)
    (hformat : ∀ date, (Date.getDateFormatted dateFormatter date).isSome) {now : Date} {T : Kind}
    {id : String}
    (hobject : realm'.object T id
      = (realm.object T id).map (DataServiceObject.restored dateFormatter now))
    : db.document T.getRemoteCollectionName id
          = (realm'.object T id).map DataServiceObject.getJSONData
        ↔ ∀ report, realm.object T id = some (.report report) →
            Date.getDateFormatted dateFormatter report.time = some report.time := by
  rw [hwritten T id, hobject, Option.map_map]
  cases realm.object T id with
  | none => exact iff_of_true rfl nofun
  | some data =>
    rw [Option.map_some, Option.map_some, Option.some.injEq, eq_comm, Function.comp_apply]
    refine (DataServiceObject.getJSONData_withTime_iff data _).trans ?_
    simp only [Option.some.injEq]
    apply forall_congr'
    intro report
    apply imp_congr_right
    rintro rfl
    obtain ⟨time, htime⟩ := Option.isSome_iff_exists.mp (hformat report.time)
    unfold DataServiceObject.restoredTime
    dsimp only
    rw [htime, Option.getD_some, Option.some.injEq]

/--
A new device gets every object of a device that has sent all its changes. It has nothing to send
itself exactly if the times of the reports survive the formatter.
-/
theorem handover {start final : DataServiceManager} {ops : List DataServiceManager.Event}
    {rank : String → Nat} {network : InternetState} {session session' : RestoreSession}
    {events : List Event} (hstart : DataServiceManager.Initial typeOf start)
    (hrun : (DataServiceManager.machine typeOf).run start ops = some final)
    (hrecords : final.records = [])
    (hopened : checkRestoreAbility (newDevice final.remoteDataService.db rank network)
      = some session)
    (huser : ∀ e ∈ events, e.isUserCall = false)
    (hrestore : (machine typeOf dateFormatter).run session events = some session')
    (hrestored : session'.restored = true)
    (hformat : ∀ date, (Date.getDateFormatted dateFormatter date).isSome)
    : (∀ T id, ∃ time, session'.manager.realm.object T id
          = (final.realm.object T id).map (DataServiceObject.withTime time))
      ∧ (∀ (T : Kind) (id : String),
          session'.manager.remoteDataService.db.document T.getRemoteCollectionName id
              = (session'.manager.realm.object T id).map DataServiceObject.getJSONData
            ↔ ∀ report, final.realm.object T id = some (.report report) →
                Date.getDateFormatted dateFormatter report.time = some report.time)
      ∧ (DataServiceManager.Initial typeOf session'.manager
          ↔ ∀ T id report, final.realm.object T id = some (.report report) →
              Date.getDateFormatted dateFormatter report.time = some report.time) := by
  have hwritten := DataServiceManager.written_of_run hstart hrun hrecords
  have harriving : Arriving dateFormatter final.remoteDataService.db session' :=
    run_arriving (checkRestoreAbility_arriving hopened) huser hrestore
  have hobject := harriving.object hwritten hrestored
  have hdocument (T : Kind) (id : String) :=
    document_restored_iff hwritten hformat (hobject T id).choose_spec
  refine ⟨?_, ?_, ?_⟩
  . intro T id
    obtain ⟨now, hnow⟩ := hobject T id
    cases hfinal : final.realm.object T id with
    | none =>
      rw [hfinal] at hnow
      exact ⟨0, hnow⟩
    | some data =>
      rw [hfinal] at hnow
      exact ⟨_, hnow⟩
  . rw [harriving.cloud]
    exact hdocument
  . constructor
    . intro hinitial T id
      have hsynced := hinitial.documents T id
      rw [harriving.cloud] at hsynced
      exact (hdocument T id).mp hsynced
    . intro hsurvive
      refine ⟨⟨⟨harriving.records, harriving.pending, harriving.callbacks, ?_⟩, ?_⟩,
        harriving.verdicts⟩
      . intro T id
        rw [harriving.cloud]
        exact (hdocument T id).mpr (hsurvive T id)
      . intro T id data hdata
        obtain ⟨now, hnow⟩ := hobject T id
        rw [hdata] at hnow
        obtain ⟨before, hbefore, -⟩ := Option.map_eq_some_iff.mp hnow.symm
        exact (DataServiceManager.run_simulates hstart hrun).1.object T id before hbefore

theorem handover_half_a_second
    : ∃ final session session',
        (DataServiceManager.machine sampleType).run DataServiceManager.sampleManager sampleOps
            = some final
          ∧ checkRestoreAbility
              (newDevice final.remoteDataService.db (fun _ => 0) .Unavailable) = some session
          ∧ (machine sampleType secondsFormatter).run session
              [.snapshot .shot, .snapshot .report, .fetched .report fun _ => ⟨"", 0, 0, 90⟩,
                .manager (.network .Available), .fetched .shot fun _ => ⟨"", 0, 0, 95⟩, .confirm]
            = some session'
          ∧ (∃ time, session'.manager.realm.object .shot "s"
            = (final.realm.object .shot "s").map (DataServiceObject.withTime time))
          ∧ ¬ DataServiceManager.Initial sampleType session'.manager := by
  have hrun : ∃ final session session',
      (DataServiceManager.machine sampleType).run DataServiceManager.sampleManager sampleOps
          = some final
        ∧ final.records = []
        ∧ final.realm.object .report "r"
          = some (.report { id := "r", title := "Match", time := 25 })
        ∧ checkRestoreAbility
            (newDevice final.remoteDataService.db (fun _ => 0) .Unavailable) = some session
        ∧ (machine sampleType secondsFormatter).run session
            [.snapshot .shot, .snapshot .report, .fetched .report fun _ => ⟨"", 0, 0, 90⟩,
              .manager (.network .Available), .fetched .shot fun _ => ⟨"", 0, 0, 95⟩, .confirm]
          = some session'
        ∧ session'.restored = true :=
    ⟨_, _, _, rfl, rfl, rfl, rfl, rfl, rfl⟩
  obtain ⟨final, session, session', hrun, hrecords, hreport, hopened, hrestore, hrestored⟩ := hrun
  obtain ⟨hobject, -, hinitial⟩ :=
    handover (DataServiceManager.sampleManager_initial sampleType) hrun hrecords hopened
      (by decide) hrestore hrestored (fun date => by rw [secondsFormatter_truncates]; rfl)
  refine ⟨final, session, session', hrun, hopened, hrestore, hobject .shot "s", ?_⟩
  intro h
  have hsurvives := hinitial.mp h .report "r" _ hreport
  rw [secondsFormatter_truncates] at hsurvives
  exact absurd hsurvives (by decide)

end RestoreSession
