import CaptainCue.Manager.Convergence
import CaptainCue.Restore.RestoredReports

/-!
This module contains the queries of the cloud, and what they return after a device has written all
its objects there.
-/

namespace DataServiceObject

def withTime (time : Date) : DataServiceObject → DataServiceObject
  | .report data => .report { data with time }
  | .shot data => .shot { data with time }

def restoredTime (dateFormatter : DateFormatter) (now : Date) : DataServiceObject → Date
  | .report data => (Date.getDateFormatted dateFormatter data.time).getD now
  -- the documents of the shots have no time
  | .shot _ => now

def restored (dateFormatter : DateFormatter) (now : Date) (data : DataServiceObject)
    : DataServiceObject :=
  withTime (restoredTime dateFormatter now data) data

theorem initJSON_stored (dateFormatter : DateFormatter) (context : InitContext)
    (data : DataServiceObject)
    : initJSON dateFormatter context data.getJSONData.stored data.kind
        = some (restored dateFormatter context.secondMappingDate data) := by
  cases data with
  | report data =>
    exact congrArg (Option.map report) (ReportModel.initJSON_getJSONData dateFormatter context data)
  | shot data =>
    exact congrArg (Option.map shot) (ShotModel.initJSON_getJSONData dateFormatter context data)

theorem getJSONData_withTime_iff (data : DataServiceObject) (time : Date)
    : (withTime time data).getJSONData = data.getJSONData
        ↔ ∀ report, data = .report report → time = report.time := by
  cases data with
  | report data =>
    constructor
    . rintro h _ ⟨⟩
      simpa [withTime, getJSONData, ReportModel.getJSONData] using h
    . intro h
      rw [h data rfl]
      rfl
  | shot data =>
    apply iff_of_true rfl
    intro report h
    cases h

end DataServiceObject

/--
The shot without the field that the cloud does not keep.
-/
def ShotModel.untimed (shot : ShotModel) : ShotModel :=
  { shot with time := 0 }

namespace FirebaseDataService

variable {dateFormatter : DateFormatter}

/-! ## Fetching what a device has written -/

theorem mem_entries_iff {db : Firestore} {collection document : String} {data : JSON}
    : ⟨document, data⟩ ∈ (db.collection collection).entries
        ↔ db.document collection document = some data :=
  AList.mem_lookup_iff.symm

def writtenFrom (db : Firestore) (realm : Realm) : Prop :=
  ∀ (T : Kind) (id : String), db.document T.getRemoteCollectionName id
    = (realm.object T id).map DataServiceObject.getJSONData

def written (db : Firestore) (realm : Realm) (T : Kind) : List DataServiceObject :=
  (db.collection T.getRemoteCollectionName).entries.filterMap fun entry => realm.object T entry.1

theorem object_of_mem_entries {db : Firestore} {realm : Realm} (h : writtenFrom db realm) {T : Kind}
    {entry : Sigma fun _ : String => JSON}
    (hentry : entry ∈ (db.collection T.getRemoteCollectionName).entries)
    : ∃ data, realm.object T entry.1 = some data ∧ data.getJSONData = entry.2 := by
  have hdocument := (h T entry.1).symm.trans (mem_entries_iff.mp hentry)
  exact Option.map_eq_some_iff.mp hdocument

theorem getDocuments_eq {db : Firestore} {realm : Realm} (h : writtenFrom db realm) (T : Kind)
    : db.getDocuments T.getRemoteCollectionName
        = (written db realm T).map fun data => data.getJSONData.stored := by
  unfold Firestore.getDocuments written
  rw [List.map_filterMap, ← List.filterMap_eq_map]
  apply List.filterMap_congr
  intro entry hentry
  obtain ⟨data, hdata, hjson⟩ := object_of_mem_entries h hentry
  rw [hdata, Option.map_some, hjson]
  rfl

theorem nodup_written_ids {db : Firestore} {realm : Realm} (h : writtenFrom db realm) (T : Kind)
    : ((written db realm T).map DataServiceObject.id).Nodup := by
  have hids : (written db realm T).map DataServiceObject.id
      = (db.collection T.getRemoteCollectionName).keys := by
    unfold written AList.keys List.keys
    rw [List.map_filterMap, ← List.filterMap_eq_map]
    apply List.filterMap_congr
    intro entry hentry
    obtain ⟨data, hdata, -⟩ := object_of_mem_entries h hentry
    rw [hdata, Option.map_some, (Realm.kind_of_object hdata).2]
    rfl
  rw [hids]
  exact (db.collection T.getRemoteCollectionName).keys_nodup

theorem mem_written {db : Firestore} {realm : Realm} (h : writtenFrom db realm) {T : Kind}
    {data : DataServiceObject}
    : data ∈ written db realm T ↔ realm.object T data.id = some data := by
  unfold written
  rw [List.mem_filterMap]
  constructor
  . rintro ⟨entry, -, hdata⟩
    rw [(Realm.kind_of_object hdata).2]
    exact hdata
  . intro hdata
    have hdocument := h T data.id
    rw [hdata, Option.map_some] at hdocument
    exact ⟨⟨data.id, data.getJSONData⟩, mem_entries_iff.mpr hdocument, hdata⟩

/--
Each object that is fetched is one that was written, at the time of its own report or of the fetch.
-/
theorem find?_fetched {db : Firestore} {realm : Realm} (h : writtenFrom db realm)
    (context : Nat → InitContext) (T : Kind) (id : String)
    : ∃ now, (getAllData dateFormatter context T
          (db.getDocuments T.getRemoteCollectionName)).find? (fun item => item.id = id)
        = (realm.object T id).map (DataServiceObject.restored dateFormatter now) := by
  rw [getDocuments_eq h, find?_getAllData]
  cases hobject : realm.object T id with
  | none =>
    refine ⟨0, ?_⟩
    rw [List.find?_eq_none.mpr, Option.bind_none, Option.map_none]
    rintro ⟨data, i⟩ hmem
    have hdata := (mem_written h).mp (List.mem_of_getElem? (List.mem_zipIdx_iff_getElem?.mp hmem))
    intro hid
    rw [of_decide_eq_true hid, hobject] at hdata
    cases hdata
  | some data =>
    obtain ⟨hkind, hid⟩ := Realm.kind_of_object hobject
    subst hkind hid
    obtain ⟨i, hi⟩ := List.mem_iff_getElem?.mp ((mem_written h).mpr hobject)
    refine ⟨(context i).secondMappingDate, ?_⟩
    rw [find?_zipIdx_of_getElem? (nodup_written_ids h data.kind) hi, Option.bind_some,
      Option.map_some]
    exact DataServiceObject.initJSON_stored dateFormatter (context i) data

/-! ## The queries that no screen uses -/

def getData (dateFormatter : DateFormatter) (context : InitContext) (T : Kind) (id : String)
    (db : Firestore) : Option DataServiceObject :=
  (db.document T.getRemoteCollectionName id).bind fun responseData =>
    DataServiceObject.initJSON dateFormatter context responseData.stored T

def whereField (db : Firestore) (collection field : String) (p : JSONValue → Bool) : List JSON :=
  -- A document without the field is in no result.
  (db.getDocuments collection).filter fun document => (document.lookup field).any p

def decodeShots (dateFormatter : DateFormatter) (context : Nat → InitContext)
    (documents : List JSON) : List ShotModel :=
  documents.zipIdx.filterMap fun (item, i) => ShotModel.initJSON dateFormatter (context i) item

open Constants.ShotModel in
def getShotData (dateFormatter : DateFormatter) (context : Nat → InitContext) (db : Firestore)
    (reportID : String) : List ShotModel :=
  let documents := whereField db Kind.shot.getRemoteCollectionName Properties.reportID.rawValue
    fun value => value = .string reportID
  decodeShots dateFormatter context documents

open Constants.ShotModel in
def getShotDatas (dateFormatter : DateFormatter) (context : Nat → InitContext) (db : Firestore)
    (reportIDs : List String) : Option (List ShotModel) :=
  -- An `in` filter with no value or more than 10 values raises.
  if reportIDs.isEmpty ∨ reportIDs.length > 10 then
    none
  else
    let documents := whereField db Kind.shot.getRemoteCollectionName Properties.reportID.rawValue
      fun value => reportIDs.any fun reportID => value = .string reportID
    some (decodeShots dateFormatter context documents)

/-! ### What they return -/

theorem getData_written {db : Firestore} {realm : Realm} (h : writtenFrom db realm)
    (context : InitContext) (T : Kind) (id : String)
    : getData dateFormatter context T id db
        = (realm.object T id).map
            (DataServiceObject.restored dateFormatter context.secondMappingDate) := by
  unfold getData
  rw [h T id]
  cases hobject : realm.object T id with
  | none => rfl
  | some data =>
    obtain ⟨rfl, -⟩ := Realm.kind_of_object hobject
    exact DataServiceObject.initJSON_stored dateFormatter context data

def writtenShots (db : Firestore) (realm : Realm) : List ShotModel :=
  (db.collection Kind.shot.getRemoteCollectionName).entries.filterMap fun entry =>
    realm.shots.find? entry.1

theorem written_shot (db : Firestore) (realm : Realm)
    : written db realm .shot = (writtenShots db realm).map DataServiceObject.shot := by
  unfold written writtenShots
  rw [List.map_filterMap]
  rfl

theorem writtenShots_perm {db : Firestore} {realm : Realm} (h : writtenFrom db realm)
    : (writtenShots db realm).Perm realm.shots.rows := by
  have hids := nodup_written_ids h .shot
  rw [written_shot, List.map_map] at hids
  apply (List.perm_ext_iff_of_nodup (List.Nodup.of_map _ hids) realm.shots.nodup_rows).mpr
  intro shot
  have hmem := @mem_written db realm h .shot (.shot shot)
  rw [written_shot, List.mem_map_of_injective fun _ _ heq => DataServiceObject.shot.inj heq] at hmem
  rw [hmem, Table.mem_rows, Realm.object_shot, Option.map_eq_some_iff]
  constructor
  . rintro ⟨found, hfound, ⟨⟩⟩
    exact hfound
  . intro hfound
    exact ⟨shot, hfound, rfl⟩

theorem whereField_written {db : Firestore} {realm : Realm} (h : writtenFrom db realm)
    (p : JSONValue → Bool)
    : whereField db Kind.shot.getRemoteCollectionName
          Constants.ShotModel.Properties.reportID.rawValue p
        = ((writtenShots db realm).filter fun shot => p (.string shot.reportID)).map fun shot =>
            shot.getJSONData.stored := by
  unfold whereField
  rw [getDocuments_eq h, written_shot, List.map_map, List.filter_map]
  rfl

theorem decodeShots_stored (dateFormatter : DateFormatter) (context : Nat → InitContext)
    (shots : List ShotModel)
    : (decodeShots dateFormatter context (shots.map fun shot => shot.getJSONData.stored)).map
          ShotModel.untimed
        = shots.map ShotModel.untimed := by
  unfold decodeShots
  rw [List.zipIdx_map, List.filterMap_map, List.map_filterMap]
  -- the clock is all that depends on the place of a document
  calc
    _ = shots.zipIdx.filterMap fun entry => some entry.1.untimed := rfl
    _ = (shots.zipIdx.map Prod.fst).map ShotModel.untimed := by
      rw [List.filterMap_eq_map', List.map_map]
      rfl
    _ = shots.map ShotModel.untimed := by
      rw [List.zipIdx_map_fst]

theorem decodeShots_whereField {service : RealmDataService} {db : Firestore}
    (h : writtenFrom db service.realm) (context : Nat → InitContext) {p : JSONValue → Bool}
    {q : ShotModel → Bool} (hpq : ∀ shot, p (.string shot.reportID) = q shot)
    : ((decodeShots dateFormatter context
          (whereField db Kind.shot.getRemoteCollectionName
            Constants.ShotModel.Properties.reportID.rawValue p)).map ShotModel.untimed).Perm
        (((service.realm.shots.list service.rank).filter q).map ShotModel.untimed) := by
  rw [whereField_written h, decodeShots_stored]
  simp only [hpq]
  have hperm := (writtenShots_perm h).trans (service.realm.shots.list_perm service.rank).symm
  exact (hperm.filter q).map ShotModel.untimed

theorem queries_agree_of_written {service : RealmDataService} {db : Firestore}
    (h : writtenFrom db service.realm) (dateFormatter : DateFormatter)
    (context : InitContext) (contexts : Nat → InitContext)
    : (∀ T id, ∃ time, getData dateFormatter context T id db
          = (service.getData T id).map (DataServiceObject.withTime time))
      ∧ (∀ reportID, ((getShotData dateFormatter contexts db reportID).map ShotModel.untimed).Perm
          ((service.getShotData reportID).map ShotModel.untimed))
      ∧ ∀ reportIDs : List String,
          match getShotDatas dateFormatter contexts db reportIDs with
          | some shots => reportIDs ≠ [] ∧ reportIDs.length ≤ 10
              ∧ (shots.map ShotModel.untimed).Perm
                ((service.getShotDatas reportIDs).map ShotModel.untimed)
          | none => reportIDs = [] ∨ 10 < reportIDs.length := by
  refine ⟨?_, ?_, ?_⟩
  . intro T id
    rw [getData_written h]
    unfold RealmDataService.getData
    cases service.realm.object T id with
    | none => exact ⟨0, rfl⟩
    | some data => exact ⟨_, rfl⟩
  . intro reportID
    apply decodeShots_whereField h
    intro shot
    simp
  . intro reportIDs
    unfold getShotDatas
    dsimp only
    by_cases hlimit : reportIDs.isEmpty = true ∨ reportIDs.length > 10
    . rw [if_pos hlimit]
      exact hlimit.imp_left List.isEmpty_iff.mp
    . rw [if_neg hlimit]
      obtain ⟨hne, hle⟩ := not_or.mp hlimit
      refine ⟨fun hnil => hne (List.isEmpty_iff.mpr hnil), not_lt.mp hle, ?_⟩
      apply decodeShots_whereField h
      intro shot
      simp [List.any_eq, eq_comm]

end FirebaseDataService

namespace DataServiceManager

variable {typeOf : String → Kind}

theorem written_of_run {start final : DataServiceManager} {ops : List Event}
    (hstart : Initial typeOf start) (hrun : (machine typeOf).run start ops = some final)
    (hrecords : final.records = [])
    : FirebaseDataService.writtenFrom final.remoteDataService.db final.realm := by
  intro T id
  cases record_or_settled hstart hrun T id with
  | inl hrecord =>
    rw [hrecords] at hrecord
    simp at hrecord
  | inr hsettled => exact hsettled [] (List.nil_sublist _)

/--
When a device has sent all its changes, the queries of the cloud answer as those of the device do,
but for the times of the objects and with a limit on the number of reports.
-/
theorem queries_agree {start final : DataServiceManager} {ops : List Event}
    (hstart : Initial typeOf start) (hrun : (machine typeOf).run start ops = some final)
    (hrecords : final.records = []) (dateFormatter : DateFormatter)
    (context : InitContext) (contexts : Nat → InitContext)
    : (∀ T id, ∃ time,
          FirebaseDataService.getData dateFormatter context T id final.remoteDataService.db
            = (final.localDataService.getData T id).map (DataServiceObject.withTime time))
      ∧ (∀ reportID,
          ((FirebaseDataService.getShotData dateFormatter contexts final.remoteDataService.db
              reportID).map ShotModel.untimed).Perm
            ((final.localDataService.getShotData reportID).map ShotModel.untimed))
      ∧ ∀ reportIDs : List String,
          match FirebaseDataService.getShotDatas dateFormatter contexts final.remoteDataService.db
            reportIDs with
          | some shots => reportIDs ≠ [] ∧ reportIDs.length ≤ 10
              ∧ (shots.map ShotModel.untimed).Perm
                ((final.localDataService.getShotDatas reportIDs).map ShotModel.untimed)
          | none => reportIDs = [] ∨ 10 < reportIDs.length :=
  FirebaseDataService.queries_agree_of_written (written_of_run hstart hrun hrecords)
    dateFormatter context contexts

def sampleType (id : String) : Kind := if id = "r" then .report else .shot

def sampleOps : List Event :=
  [.addObject (.report { id := "r", title := "Match", time := 25 }),
    .addObject (.shot sampleShot), .applied, .applied, .completion 1,
    .completion 0, .applied, .completion 0]

theorem queries_agree_one_shot
    : ∃ final, (machine sampleType).run sampleManager sampleOps = some final
        ∧ ((FirebaseDataService.getShotData secondsFormatter (fun _ => ⟨"", 0, 0, 90⟩)
              final.remoteDataService.db "r").map ShotModel.untimed).Perm
            ((final.localDataService.getShotData "r").map ShotModel.untimed) := by
  have hrun : ∃ final, (machine sampleType).run sampleManager sampleOps = some final
      ∧ final.records = [] :=
    ⟨_, rfl, rfl⟩
  obtain ⟨final, hrun, hrecords⟩ := hrun
  exact ⟨final, hrun, (queries_agree (sampleManager_initial sampleType) hrun hrecords
    secondsFormatter ⟨"", 0, 0, 0⟩ _).2.1 "r"⟩

end DataServiceManager
