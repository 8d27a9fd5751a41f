import CaptainCue.Backup.Backup

/-!
This module contains what a backup works on: the local objects and the fetched cloud objects. For a
cloud whose documents carry their own id, the fetched objects of a type have the ids of the
documents of its collection, each once.
-/

def Firestore.IdsMatch (db : Firestore) : Prop :=
  ∀ (T : Kind) (id : String) (data : JSON),
    db.document T.getRemoteCollectionName id = some data →
      data.value "id" JSONValue.string? = some id

theorem Firestore.IdsMatch.empty : Firestore.empty.IdsMatch := by
  intro T id data hdata
  cases hdata

theorem Firestore.IdsMatch.write {db : Firestore} (h : db.IdsMatch) (data : DataServiceObject)
    : (db.write ⟨data.kind.getRemoteCollectionName, data.id, some data.getJSONData⟩).IdsMatch := by
  intro T id data' hdata'
  rw [Firestore.document_write] at hdata'
  split at hdata'
  . next hkey =>
    cases hdata'
    rw [hkey.2]
    exact data.value_id
  . exact h T id data' hdata'

namespace FirebaseDataService

variable {dateFormatter : DateFormatter} {context : Nat → InitContext}

theorem getAllData_ids {T : Kind} {entries : List (Sigma fun _ : String => JSON)}
    (h : ∀ entry ∈ entries, entry.snd.value "id" JSONValue.string? = some entry.fst)
    : (getAllData dateFormatter context T (entries.map fun entry => entry.snd.stored)).map
          DataServiceObject.id
        = entries.keys := by
  unfold getAllData
  generalize 0 = start
  induction entries generalizing start with
  | nil => rfl
  | cons entry entries ih =>
    have hid : entry.snd.stored.value "id" JSONValue.string? = some entry.fst := by
      rw [JSON.value_stored_string]
      apply h
      exact List.mem_cons_self
    obtain ⟨item, hitem, hitemid⟩ :=
      DataServiceObject.id_of_initJSON hid dateFormatter (context start) T
    rw [List.map_cons, List.zipIdx_cons, List.filterMap_cons]
    simp only [hitem]
    rw [List.map_cons, hitemid, List.keys_cons]
    congr 1
    apply ih
    intro entry' hentry'
    apply h
    exact List.mem_cons_of_mem _ hentry'

end FirebaseDataService

structure BackupContent where
  db : Firestore
  localData : Kind → List DataServiceObject
  cloudData : Kind → List DataServiceObject
  hlocalKind : ∀ T, ∀ item ∈ localData T, item.kind = T
  hlocalIds : ∀ T, ((localData T).map DataServiceObject.id).Nodup
  hcloudKind : ∀ T, ∀ item ∈ cloudData T, item.kind = T
  hcloudIds : ∀ T, ((cloudData T).map DataServiceObject.id).Nodup
  hcloud : ∀ T id,
    db.document T.getRemoteCollectionName id ≠ none ↔ ∃ item ∈ cloudData T, item.id = id

namespace BackupContent

def fetched (dateFormatter : DateFormatter) (localDataService : RealmDataService) (db : Firestore)
    (hdb : db.IdsMatch) (context : Kind → Nat → InitContext) : BackupContent :=
  let cloudData (T : Kind) : List DataServiceObject :=
    FirebaseDataService.getAllData dateFormatter (context T) T
      (db.getDocuments T.getRemoteCollectionName)
  have hids (T : Kind) : (cloudData T).map DataServiceObject.id
      = (db.collection T.getRemoteCollectionName).keys := by
    apply FirebaseDataService.getAllData_ids
    intro entry hentry
    apply hdb T
    exact AList.mem_lookup_iff.mpr hentry
  {
    db := db
    localData := localDataService.getAllDatas
    cloudData := cloudData
    hlocalKind := fun _ _ hitem => RealmDataService.kind_of_mem_getAllDatas hitem
    hlocalIds := localDataService.nodup_getAllDatas_ids
    hcloudKind := fun _ _ hitem => FirebaseDataService.kind_of_mem_getAllData hitem
    hcloudIds := by
      intro T
      rw [hids]
      exact (db.collection T.getRemoteCollectionName).keys_nodup
    hcloud := by
      intro T id
      rw [← List.mem_map, hids]
      unfold Firestore.document
      rw [Ne, AList.lookup_eq_none, not_not, AList.mem_keys]
  }

end BackupContent

namespace Backup

/-! A device and a cloud with one report, for concrete runs -/

def sampleReport : DataServiceObject := .report { id := "r", title := "Match", time := 0 }

def sampleDevice : RealmDataService where
  realm := Realm.empty.addModified (.object sampleReport)
  rank := fun _ => 0
  verdicts := []

def sampleCloud : Firestore :=
  Firestore.empty.write ⟨"Report", "r", some sampleReport.getJSONData⟩

theorem sampleCloud_idsMatch : sampleCloud.IdsMatch :=
  Firestore.IdsMatch.empty.write sampleReport

end Backup
