import CaptainCue.Library.Table
import CaptainCue.Model.Objects
import CaptainCue.Model.OfflineStorageModel

/-!
This module contains the local database and the service that reads and writes it. Every write of
the service is one transaction, whose commit can throw and before which the process can die.
-/

inductive LocalDataObject where
  -- The type parameter `T: LocalDataObject` of the writing operations.
  | object (data : DataServiceObject)
  | record (item : OfflineStorageModel)

structure Realm where
  reports : Table ReportModel.id
  shots : Table ShotModel.id
  records : Table OfflineStorageModel.id

namespace Realm

def empty : Realm := ⟨.empty, .empty, .empty⟩

def isEmpty (realm : Realm) : Bool :=
  realm.reports.rows.isEmpty && realm.shots.rows.isEmpty && realm.records.rows.isEmpty

def object (realm : Realm) (T : Kind) (primaryKey : String) : Option DataServiceObject :=
  match T with
  | .report => (realm.reports.find? primaryKey).map .report
  | .shot => (realm.shots.find? primaryKey).map .shot

def add (realm : Realm) : LocalDataObject → Realm
  -- `realm.add(_:)`. For a primary key in use Realm raises instead, so callers have to add new
  -- keys.
  | .object (.report data) => { realm with reports := realm.reports.add data }
  | .object (.shot data) => { realm with shots := realm.shots.add data }
  | .record item => { realm with records := realm.records.add item }

def addModified (realm : Realm) : LocalDataObject → Realm
  | .object (.report data) => { realm with reports := realm.reports.upsert data }
  | .object (.shot data) => { realm with shots := realm.shots.upsert data }
  | .record item => { realm with records := realm.records.upsert item }

def delete (realm : Realm) : LocalDataObject → Realm
  -- `realm.delete(_:)`, which does nothing if the row of the object is gone.
  | .object (.report data) => { realm with reports := realm.reports.erase data.id }
  | .object (.shot data) => { realm with shots := realm.shots.erase data.id }
  | .record item => { realm with records := realm.records.erase item.id }

def deleteAll (realm : Realm) : Kind → Realm
  | .report => { realm with reports := .empty }
  | .shot => { realm with shots := .empty }

end Realm

inductive Verdict where
  -- What becomes of a write transaction: it commits, its commit throws, or the process dies before
  -- it, after `sends` more calls of the remote service.
  | commits
  | throws
  | killed (sends : Nat)
  deriving DecidableEq, Repr

namespace Verdict

def takesEffect : List Verdict → Bool
  | [] => true
  | commits :: _ => true
  | throws :: _ => false
  | killed _ :: _ => false

def next : List Verdict → List Verdict
  | [] => []
  | commits :: verdicts => verdicts
  | throws :: verdicts => verdicts
  | killed _ :: _ => [killed 0]

@[simp] theorem takesEffect_nil : takesEffect [] = true := rfl
@[simp] theorem next_nil : next [] = [] := rfl
@[simp] theorem takesEffect_killed (n : Nat) (verdicts : List Verdict)
    : takesEffect (killed n :: verdicts) = false := rfl
@[simp] theorem next_killed (n : Nat) (verdicts : List Verdict)
    : next (killed n :: verdicts) = [killed 0] := rfl

end Verdict

structure RealmDataService where
  realm : Realm
  -- the order in which an unsorted query lists the rows
  rank : String → Nat
  -- the verdicts on the coming transactions; all that have none commit
  verdicts : List Verdict

namespace RealmDataService

def write (service : RealmDataService) (changes : Realm → Realm) : RealmDataService :=
  -- `realm.beginWrite()`, the changes, and `do { try realm.commitWrite() } catch { }`.
  { service with
    realm := if Verdict.takesEffect service.verdicts then changes service.realm else service.realm
    verdicts := Verdict.next service.verdicts
  }

def isDatabaseEmpty (service : RealmDataService) : Bool :=
  service.realm.isEmpty

def getData (service : RealmDataService) (T : Kind) (id : String) : Option DataServiceObject :=
  service.realm.object T id

def getAllDatas (service : RealmDataService) : Kind → List DataServiceObject
  | .report => (service.realm.reports.list service.rank).map .report
  | .shot => (service.realm.shots.list service.rank).map .shot

def getAllRecords (service : RealmDataService) : List OfflineStorageModel :=
  service.realm.records.list service.rank

def addObject (service : RealmDataService) (data : LocalDataObject) : RealmDataService :=
  service.write fun realm => realm.add data

def updateObject (service : RealmDataService) (data : LocalDataObject) : RealmDataService :=
  service.write fun realm => realm.addModified data

def getShotData (service : RealmDataService) (reportID : String) : List ShotModel :=
  (service.realm.shots.list service.rank).filter fun shot => shot.reportID = reportID

def getShotDatas (service : RealmDataService) (reportIDs : List String) : List ShotModel :=
  (service.realm.shots.list service.rank).filter fun shot => shot.reportID ∈ reportIDs

def deleteObject (service : RealmDataService) (data : LocalDataObject) : RealmDataService :=
  service.write fun realm => realm.delete data

def getOfflineStore (service : RealmDataService) (objID : String) : List OfflineStorageModel :=
  (service.realm.records.list service.rank).filter fun record => record.objectID = objID

def restoreData (service : RealmDataService) (T : Kind) (data : List DataServiceObject)
    : RealmDataService :=
  -- One transaction, whose commit is a `try!`: if it throws, the process ends.
  if Verdict.takesEffect service.verdicts then
    service.write fun realm =>
      data.foldl (fun realm item => realm.add (.object item)) (realm.deleteAll T)
  else
    { service with verdicts := [.killed 0] }

end RealmDataService

/-! ## What the transactions do to the stored objects and records -/

namespace Realm

@[simp]
theorem object_report (realm : Realm) (id : String)
    : realm.object .report id = (realm.reports.find? id).map .report := rfl

@[simp]
theorem object_shot (realm : Realm) (id : String)
    : realm.object .shot id = (realm.shots.find? id).map .shot := rfl

theorem kind_of_object {realm : Realm} {T : Kind} {id : String} {data : DataServiceObject}
    (h : realm.object T id = some data) : data.kind = T ∧ data.id = id := by
  cases T with
  | report =>
    obtain ⟨report, hfind, rfl⟩ := Option.map_eq_some_iff.mp h
    have : report.id = id := Table.key_of_find? hfind
    exact ⟨rfl, this⟩
  | shot =>
    obtain ⟨shot, hfind, rfl⟩ := Option.map_eq_some_iff.mp h
    have : shot.id = id := Table.key_of_find? hfind
    exact ⟨rfl, this⟩

theorem object_addModified (realm : Realm) (data : DataServiceObject) (T : Kind) (id : String)
    : (realm.addModified (.object data)).object T id
        =
      if T = data.kind ∧ id = data.id then some data else realm.object T id := by
  cases data with
  | report data =>
    cases T with
    | report =>
      simp only [addModified, object_report, Table.find?_upsert, DataServiceObject.kind,
        DataServiceObject.id, true_and]
      split <;> rfl
    | shot => simp [addModified, DataServiceObject.kind]
  | shot data =>
    cases T with
    | report => simp [addModified, DataServiceObject.kind]
    | shot =>
      simp only [addModified, object_shot, Table.find?_upsert, DataServiceObject.kind,
        DataServiceObject.id, true_and]
      split <;> rfl

theorem add_eq_addModified {realm : Realm} {data : DataServiceObject}
    (h : realm.object data.kind data.id = none)
    : realm.add (.object data) = realm.addModified (.object data) := by
  cases data with
  | report data =>
    have hfind : realm.reports.find? data.id = none := by
      simpa [DataServiceObject.kind, DataServiceObject.id] using h
    simp [add, addModified, Table.add_eq_upsert hfind]
  | shot data =>
    have hfind : realm.shots.find? data.id = none := by
      simpa [DataServiceObject.kind, DataServiceObject.id] using h
    simp [add, addModified, Table.add_eq_upsert hfind]

theorem object_delete (realm : Realm) (data : DataServiceObject) (T : Kind) (id : String)
    : (realm.delete (.object data)).object T id
        =
      if T = data.kind ∧ id = data.id then none else realm.object T id := by
  cases data with
  | report data =>
    cases T with
    | report =>
      simp only [delete, object_report, Table.find?_erase, DataServiceObject.kind,
        DataServiceObject.id, true_and]
      split <;> rfl
    | shot => simp [delete, DataServiceObject.kind]
  | shot data =>
    cases T with
    | report => simp [delete, DataServiceObject.kind]
    | shot =>
      simp only [delete, object_shot, Table.find?_erase, DataServiceObject.kind,
        DataServiceObject.id, true_and]
      split <;> rfl

@[simp]
theorem records_addModified_object (realm : Realm) (data : DataServiceObject)
    : (realm.addModified (.object data)).records = realm.records := by
  cases data <;> rfl

@[simp]
theorem records_add_object (realm : Realm) (data : DataServiceObject)
    : (realm.add (.object data)).records = realm.records := by
  cases data <;> rfl

@[simp]
theorem records_delete_object (realm : Realm) (data : DataServiceObject)
    : (realm.delete (.object data)).records = realm.records := by
  cases data <;> rfl

@[simp]
theorem object_add_record (realm : Realm) (item : OfflineStorageModel) (T : Kind) (id : String)
    : (realm.add (.record item)).object T id = realm.object T id := by
  cases T <;> rfl

@[simp]
theorem object_delete_record (realm : Realm) (item : OfflineStorageModel) (T : Kind) (id : String)
    : (realm.delete (.record item)).object T id = realm.object T id := by
  cases T <;> rfl

@[simp]
theorem records_delete_record (realm : Realm) (item : OfflineStorageModel)
    : (realm.delete (.record item)).records = realm.records.erase item.id := rfl

@[simp]
theorem records_add_record (realm : Realm) (item : OfflineStorageModel)
    : (realm.add (.record item)).records = realm.records.add item := rfl

theorem add_eq_self {realm : Realm} {data : DataServiceObject}
    (h : realm.object data.kind data.id ≠ none) : realm.add (.object data) = realm := by
  obtain ⟨data', hdata'⟩ := Option.ne_none_iff_exists'.mp h
  cases data with
  | report data =>
    obtain ⟨report, hfind, -⟩ := Option.map_eq_some_iff.mp hdata'
    simp [add, Table.add_eq_self hfind]
  | shot data =>
    obtain ⟨shot, hfind, -⟩ := Option.map_eq_some_iff.mp hdata'
    simp [add, Table.add_eq_self hfind]

theorem object_add (realm : Realm) (data : DataServiceObject) (T : Kind) (id : String)
    : (realm.add (.object data)).object T id
        =
      (realm.object T id).or (if T = data.kind ∧ id = data.id then some data else none) := by
  by_cases hstored : realm.object data.kind data.id = none
  . rw [add_eq_addModified hstored, object_addModified]
    split
    . next h =>
      rw [h.1, h.2, hstored, Option.none_or]
    . rw [Option.or_none]
  . rw [add_eq_self hstored]
    split
    . next h =>
      obtain ⟨stored, hdata⟩ := Option.ne_none_iff_exists'.mp hstored
      rw [h.1, h.2, hdata, Option.some_or]
    . rw [Option.or_none]

theorem object_foldl_add {T : Kind} {items : List DataServiceObject}
    (hitems : ∀ item ∈ items, item.kind = T) (realm : Realm) (U : Kind) (id : String)
    : (items.foldl (fun realm item => realm.add (.object item)) realm).object U id
        =
      (realm.object U id).or (if U = T then items.find? fun item => item.id = id else none) := by
  induction items generalizing realm with
  | nil => simp
  | cons item items ih =>
    rw [List.foldl_cons, ih (fun item' hitem' => hitems item' (List.mem_cons_of_mem _ hitem')),
      object_add, hitems item List.mem_cons_self, Option.or_assoc, List.find?_cons]
    congr 1
    by_cases hU : U = T
    . by_cases hid : item.id = id
      . simp [hU, hid]
      . have hid' : ¬ id = item.id := fun h => hid h.symm
        simp [hU, hid, hid']
    . simp [hU]

theorem object_deleteAll (realm : Realm) (T U : Kind) (id : String)
    : (realm.deleteAll T).object U id = if U = T then none else realm.object U id := by
  cases T <;> cases U <;> simp [deleteAll]

@[simp]
theorem records_deleteAll (realm : Realm) (T : Kind)
    : (realm.deleteAll T).records = realm.records := by
  cases T <;> rfl

@[simp]
theorem records_foldl_add (items : List DataServiceObject) (realm : Realm)
    : (items.foldl (fun realm item => realm.add (.object item)) realm).records
        = realm.records := by
  induction items generalizing realm with
  | nil => rfl
  | cons item items ih => rw [List.foldl_cons, ih, records_add_object]

end Realm

namespace RealmDataService

theorem restoreData_eq {service : RealmDataService} (h : service.verdicts = []) (T : Kind)
    (data : List DataServiceObject)
    : service.restoreData T data
        =
      { service with
        realm :=
          data.foldl (fun realm item => realm.add (.object item)) (service.realm.deleteAll T)
      } := by
  unfold restoreData write
  rw [h]
  rfl

theorem restoreData_verdicts {service : RealmDataService} (h : service.verdicts = []) (T : Kind)
    (data : List DataServiceObject) : (service.restoreData T data).verdicts = [] := by
  rw [restoreData_eq h]
  exact h

theorem restoreData_object {service : RealmDataService} (h : service.verdicts = []) {T : Kind}
    {data : List DataServiceObject} (hdata : ∀ item ∈ data, item.kind = T) (U : Kind)
    (id : String)
    : (service.restoreData T data).realm.object U id
        =
      if U = T then data.find? fun item => item.id = id else service.realm.object U id := by
  rw [restoreData_eq h]
  dsimp only
  rw [Realm.object_foldl_add hdata, Realm.object_deleteAll]
  split
  . rw [Option.none_or]
  . rw [Option.or_none]

theorem restoreData_object_ne_none {service : RealmDataService} (h : service.verdicts = [])
    {T : Kind} {data : List DataServiceObject} (hdata : ∀ item ∈ data, item.kind = T) (U : Kind)
    (id : String)
    : (service.restoreData T data).realm.object U id ≠ none
        ↔
      if U = T then ∃ item ∈ data, item.id = id else service.realm.object U id ≠ none := by
  rw [restoreData_object h hdata]
  split
  . simp
  . rfl

theorem mem_getShotDatas {service : RealmDataService} {reportIDs : List String} {shot : ShotModel}
    : shot ∈ service.getShotDatas reportIDs
        ↔ shot ∈ service.realm.shots.rows ∧ shot.reportID ∈ reportIDs := by
  simp [getShotDatas]

theorem nodup_getShotDatas (service : RealmDataService) (reportIDs : List String)
    : (service.getShotDatas reportIDs).Nodup := by
  apply List.Nodup.filter
  exact (service.realm.shots.list_perm service.rank).nodup_iff.mpr service.realm.shots.nodup_rows

theorem nodup_getShotData_ids (service : RealmDataService) (reportID : String)
    : ((service.getShotData reportID).map ShotModel.id).Nodup := by
  have hperm := (service.realm.shots.list_perm service.rank).map ShotModel.id
  have hlist := hperm.nodup_iff.mpr (Table.nodup_rows_map_key _)
  exact hlist.sublist (List.filter_sublist.map _)

theorem kind_of_mem_getAllDatas {service : RealmDataService} {T : Kind} {item : DataServiceObject}
    (h : item ∈ service.getAllDatas T) : item.kind = T := by
  cases T with
  | report =>
    obtain ⟨report, -, rfl⟩ := List.mem_map.mp h
    rfl
  | shot =>
    obtain ⟨shot, -, rfl⟩ := List.mem_map.mp h
    rfl

theorem nodup_getAllDatas_ids (service : RealmDataService) (T : Kind)
    : ((service.getAllDatas T).map DataServiceObject.id).Nodup := by
  cases T with
  | report =>
    unfold getAllDatas
    rw [List.map_map]
    apply ((service.realm.reports.list_perm service.rank).map _).nodup_iff.mpr
    exact service.realm.reports.nodup_rows_map_key
  | shot =>
    unfold getAllDatas
    rw [List.map_map]
    apply ((service.realm.shots.list_perm service.rank).map _).nodup_iff.mpr
    exact service.realm.shots.nodup_rows_map_key

theorem mem_getAllDatas {service : RealmDataService} {T : Kind} {item : DataServiceObject}
    : item ∈ service.getAllDatas T ↔ service.realm.object T item.id = some item := by
  cases T with
  | report =>
    unfold getAllDatas
    rw [List.mem_map, Realm.object_report, Option.map_eq_some_iff]
    constructor
    . rintro ⟨report, hmem, rfl⟩
      exact ⟨report, Table.mem_rows.mp (Table.mem_list.mp hmem), rfl⟩
    . rintro ⟨report, hfind, rfl⟩
      exact ⟨report, Table.mem_list.mpr (Table.mem_rows.mpr hfind), rfl⟩
  | shot =>
    unfold getAllDatas
    rw [List.mem_map, Realm.object_shot, Option.map_eq_some_iff]
    constructor
    . rintro ⟨shot, hmem, rfl⟩
      exact ⟨shot, Table.mem_rows.mp (Table.mem_list.mp hmem), rfl⟩
    . rintro ⟨shot, hfind, rfl⟩
      exact ⟨shot, Table.mem_list.mpr (Table.mem_rows.mpr hfind), rfl⟩

end RealmDataService
