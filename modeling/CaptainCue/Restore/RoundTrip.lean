import Mathlib.Logic.Equiv.Nat
import CaptainCue.Report.ReportDetailsViewController
import CaptainCue.Service.FirebaseDataService

/-!
This module contains the way of the shots to the cloud and back: what a restore makes of documents
that a backup has written, and what becomes of the statistics.
-/

def Date.truncated (ticks : Int) (date : Date) : Date :=
  date / ticks * ticks

namespace ShotModel

def truncated (ticks : Int) (shot : ShotModel) : ShotModel :=
  { shot with time := Date.truncated ticks shot.time }

/--
The time is not among the fields of the document, so the clock takes its place.
-/
theorem initJSON_getJSONData (dateFormatter : DateFormatter) (context : InitContext)
    (shot : ShotModel)
    : initJSON dateFormatter context shot.getJSONData.stored
        = some { shot with time := context.secondMappingDate } := rfl

end ShotModel

namespace FirebaseDataService

variable {κ : Type}

def applyAll (service : FirebaseDataService κ) : FirebaseDataService κ :=
  { service with
    db := service.db.writeAll (service.pending.map Prod.fst)
    pending := []
    callbacks := service.callbacks ++ service.pending.map fun (_, completion) => (completion, none)
  }

def backUp (service : FirebaseDataService κ) (items : List DataServiceObject) (completion : κ)
    : FirebaseDataService κ :=
  (items.foldl (fun service item => service.addObject item completion) service).applyAll

theorem pending_foldl_addObject (items : List DataServiceObject) (completion : κ)
    (service : FirebaseDataService κ)
    : items.foldl (fun service item => service.addObject item completion) service
        = { service with
            pending := service.pending ++ items.map fun item =>
              (⟨item.kind.getRemoteCollectionName, item.id, some item.getJSONData⟩, completion)
            issued := service.issued ++ items.map fun item =>
              (⟨item.kind.getRemoteCollectionName, item.id, some item.getJSONData⟩, completion)
          } := by
  induction items generalizing service with
  | nil => simp
  | cons item items ih =>
    rw [List.foldl_cons, ih]
    simp [addObject, issue]

end FirebaseDataService

namespace Firestore

theorem entries_writeAll {T : Kind} {items : List DataServiceObject}
    (hkind : ∀ item ∈ items, item.kind = T) (hids : (items.map DataServiceObject.id).Nodup)
    (db : Firestore)
    (hnew : ∀ item ∈ items, item.id ∉ (db.collection T.getRemoteCollectionName).keys)
    : ((db.writeAll (items.map fun item =>
          ⟨item.kind.getRemoteCollectionName, item.id, some item.getJSONData⟩)).collection
            T.getRemoteCollectionName).entries
        = (items.map fun item => (⟨item.id, item.getJSONData⟩ : Sigma fun _ : String => JSON)).reverse
          ++ (db.collection T.getRemoteCollectionName).entries := by
  induction items generalizing db with
  | nil => rfl
  | cons item items ih =>
    obtain ⟨hfresh, hids⟩ := List.nodup_cons.mp hids
    have hitem : item.kind = T := hkind item List.mem_cons_self
    have hwrite : (db.write ⟨item.kind.getRemoteCollectionName, item.id,
        some item.getJSONData⟩).collection T.getRemoteCollectionName
          = (db.collection T.getRemoteCollectionName).insert item.id item.getJSONData := by
      simp [Firestore.write, hitem]
    rw [List.map_cons, writeAll_cons, ih, hwrite, AList.entries_insert_of_notMem]
    . simp
    . exact hnew item List.mem_cons_self
    . intro item' hitem'
      exact hkind item' (List.mem_cons_of_mem _ hitem')
    . exact hids
    . intro item' hitem'
      rw [hwrite]
      intro hmem
      have hne : item'.id ≠ item.id := by
        intro heq
        apply hfresh
        rw [← heq]
        exact List.mem_map.mpr ⟨item', hitem', rfl⟩
      have hold : item'.id ∈ db.collection T.getRemoteCollectionName :=
        (AList.mem_insert _).mp hmem |>.resolve_left hne
      exact hnew item' (List.mem_cons_of_mem _ hitem') hold

end Firestore

namespace FirebaseDataService

theorem getDocuments_backUp {κ : Type} {service : FirebaseDataService κ} {T : Kind}
    {items : List DataServiceObject} (hkind : ∀ item ∈ items, item.kind = T)
    (hids : (items.map DataServiceObject.id).Nodup) (hpending : service.pending = [])
    (hempty : service.db.collection T.getRemoteCollectionName = ∅) (completion : κ)
    : (service.backUp items completion).db.getDocuments T.getRemoteCollectionName
        = items.reverse.map fun item => item.getJSONData.stored := by
  unfold backUp
  rw [pending_foldl_addObject, hpending]
  unfold applyAll Firestore.getDocuments
  simp only [List.nil_append, List.map_map, Function.comp_def]
  rw [Firestore.entries_writeAll hkind hids]
  . rw [hempty, AList.empty_entries, List.append_nil, ← List.map_reverse, List.map_map]
    rfl
  . intro item _
    rw [hempty]
    simp

theorem find?_getAllData {dateFormatter : DateFormatter} {context : Nat → InitContext} {T : Kind}
    {items : List DataServiceObject} (id : String)
    : (getAllData dateFormatter context T
          (items.map fun item => item.getJSONData.stored)).find? (fun item => item.id = id)
        = (items.zipIdx.find? fun entry => entry.fst.id = id).bind fun entry =>
            DataServiceObject.initJSON dateFormatter (context entry.snd)
              entry.fst.getJSONData.stored T := by
  unfold getAllData
  rw [List.zipIdx_map, List.filterMap_map, List.find?_filterMap]
  congr 2
  funext entry
  obtain ⟨item, i⟩ := entry
  have hid : item.getJSONData.stored.value "id" JSONValue.string? = some item.id := by
    rw [JSON.value_stored_string]
    exact item.value_id
  obtain ⟨decoded, hdecoded, hdecodedid⟩ :=
    DataServiceObject.id_of_initJSON hid dateFormatter (context i) T
  simp [hdecoded, hdecodedid]

end FirebaseDataService

theorem find?_zipIdx_of_getElem? {items : List DataServiceObject}
    (hids : (items.map DataServiceObject.id).Nodup) {i : Nat} {item : DataServiceObject}
    (hitem : items[i]? = some item)
    : (items.zipIdx.find? fun entry => entry.fst.id = item.id) = some (item, i) := by
  have hmem : (item, i) ∈ items.zipIdx := List.mem_zipIdx_iff_getElem?.mpr hitem
  cases hfind : items.zipIdx.find? fun entry => entry.fst.id = item.id with
  | none =>
    have := List.find?_eq_none.mp hfind (item, i) hmem
    simp at this
  | some entry =>
    obtain ⟨item', i'⟩ := entry
    have hid : item'.id = item.id := by simpa using List.find?_some hfind
    have hitem' : items[i']? = some item' :=
      List.mem_zipIdx_iff_getElem?.mp (List.mem_of_find?_eq_some hfind)
    have hi' : (items.map DataServiceObject.id)[i']? = some item.id := by
      rw [List.getElem?_map, hitem', Option.map_some, hid]
    have hi : (items.map DataServiceObject.id)[i]? = some item.id := by
      rw [List.getElem?_map, hitem, Option.map_some]
    obtain ⟨hlt, -⟩ := List.getElem?_eq_some_iff.mp hi
    have hsame : i = i' := (List.getElem?_inj hlt hids).mp (hi.trans hi'.symm)
    subst hsame
    rw [hitem] at hitem'
    cases hitem'
    rfl

section Restored

variable {κ : Type} {dateFormatter : DateFormatter} {context : Nat → InitContext}
  {device target : RealmDataService} {service : FirebaseDataService κ} {completion : κ} {T : Kind}

def backedUp (device : RealmDataService) (service : FirebaseDataService κ) (completion : κ)
    (T : Kind) : List JSON :=
  (service.backUp (device.getAllDatas T) completion).db.getDocuments T.getRemoteCollectionName

theorem backedUp_eq (hpending : service.pending = [])
    (hempty : service.db.collection T.getRemoteCollectionName = ∅)
    : backedUp device service completion T
        = (device.getAllDatas T).reverse.map fun item => item.getJSONData.stored := by
  unfold backedUp
  apply FirebaseDataService.getDocuments_backUp
  . intro item hitem
    exact RealmDataService.kind_of_mem_getAllDatas hitem
  . exact device.nodup_getAllDatas_ids T
  . exact hpending
  . exact hempty

def restored (dateFormatter : DateFormatter) (context : Nat → InitContext)
    (device target : RealmDataService) (service : FirebaseDataService κ) (completion : κ)
    (T : Kind) : RealmDataService :=
  target.restoreData T
    (FirebaseDataService.getAllData dateFormatter context T (backedUp device service completion T))

theorem restored_object (hpending : service.pending = [])
    (hempty : service.db.collection T.getRemoteCollectionName = ∅)
    (hverdicts : target.verdicts = []) (id : String)
    : (restored dateFormatter context device target service completion T).realm.object T id
        = ((device.getAllDatas T).reverse.zipIdx.find? fun entry => entry.fst.id = id).bind
            fun entry => DataServiceObject.initJSON dateFormatter (context entry.snd)
              entry.fst.getJSONData.stored T := by
  rw [← FirebaseDataService.find?_getAllData, ← backedUp_eq hpending hempty]
  unfold restored
  rw [RealmDataService.restoreData_object hverdicts, if_pos rfl]
  intro item hitem
  exact FirebaseDataService.kind_of_mem_getAllData hitem

theorem restored_object_of_getElem? (hpending : service.pending = [])
    (hempty : service.db.collection T.getRemoteCollectionName = ∅)
    (hverdicts : target.verdicts = []) {i : Nat} {item : DataServiceObject}
    (hi : (device.getAllDatas T).reverse[i]? = some item)
    : (restored dateFormatter context device target service completion T).realm.object T item.id
        = DataServiceObject.initJSON dateFormatter (context i) item.getJSONData.stored T := by
  have hids : ((device.getAllDatas T).reverse.map DataServiceObject.id).Nodup := by
    rw [List.map_reverse, List.nodup_reverse]
    exact device.nodup_getAllDatas_ids T
  rw [restored_object hpending hempty hverdicts, find?_zipIdx_of_getElem? hids hi, Option.bind_some]

theorem restored_object_none (hpending : service.pending = [])
    (hempty : service.db.collection T.getRemoteCollectionName = ∅)
    (hverdicts : target.verdicts = []) {id : String} (hnone : device.realm.object T id = none)
    : (restored dateFormatter context device target service completion T).realm.object T id
        = none := by
  rw [restored_object hpending hempty hverdicts, List.find?_eq_none.mpr, Option.bind_none]
  rintro ⟨item, i⟩ hmem
  have hitem : item ∈ device.getAllDatas T :=
    List.mem_reverse.mp (List.mem_of_getElem? (List.mem_zipIdx_iff_getElem?.mp hmem))
  rw [RealmDataService.mem_getAllDatas] at hitem
  simp only [decide_eq_true_eq]
  intro hid
  rw [hid, hnone] at hitem
  cases hitem

theorem exists_getElem?_reverse {item : DataServiceObject}
    (hitem : device.realm.object T item.id = some item)
    : ∃ i : Nat, (device.getAllDatas T).reverse[i]? = some item := by
  apply List.mem_iff_getElem?.mp
  rw [List.mem_reverse, RealmDataService.mem_getAllDatas]
  exact hitem

end Restored

section Shots

variable {κ : Type} (dateFormatter : DateFormatter) (context : Nat → InitContext)
  (device target : RealmDataService) (service : FirebaseDataService κ) (completion : κ)

def backedUpShots : List JSON :=
  (service.backUp (device.getAllDatas .shot) completion).db.getDocuments
    Kind.shot.getRemoteCollectionName

def restoredShots : RealmDataService :=
  target.restoreData .shot
    (FirebaseDataService.getAllData dateFormatter context .shot
      (backedUpShots device service completion))

structure Preserved (restored : RealmDataService) : Prop where
  shots : ∀ id, restored.realm.shots.find? id
    = (device.realm.shots.find? id).bind fun shot =>
        (Date.getDateFormatted dateFormatter shot.time).map fun time => { shot with time := time }
  order : (∀ shot ∈ device.realm.shots.rows, ∀ shot' ∈ device.realm.shots.rows,
      Date.getDateFormatted dateFormatter shot.time
        = Date.getDateFormatted dateFormatter shot'.time → shot = shot') →
    ∀ controller : ReportDetailsViewController,
      (controller.setupDatas restored).shotResult.map (List.map ShotModel.id)
        = (controller.setupDatas device).shotResult.map (List.map ShotModel.id)
  statistics : (∀ shot ∈ device.realm.shots.rows, ∀ shot' ∈ device.realm.shots.rows,
      Date.getDateFormatted dateFormatter shot.time
        = Date.getDateFormatted dateFormatter shot'.time → shot = shot') →
    ∀ controller : ReportDetailsViewController,
      { controller.setupDatas restored with shotResult := none }
        = { controller.setupDatas device with shotResult := none }

variable {dateFormatter context device target service completion}

theorem getElem?_backedUpShots (hpending : service.pending = [])
    (hempty : service.db.collection Kind.shot.getRemoteCollectionName = ∅) {i : Nat}
    {shot : ShotModel} (hshot : device.realm.shots.find? shot.id = some shot)
    : (backedUpShots device service completion)[i]? = some shot.getJSONData.stored
        ↔ (device.getAllDatas .shot).reverse[i]? = some (.shot shot) := by
  rw [show backedUpShots device service completion = backedUp device service completion .shot
    from rfl, backedUp_eq hpending hempty, List.getElem?_map]
  constructor
  . intro hi
    obtain ⟨item, hitem, hstored⟩ := Option.map_eq_some_iff.mp hi
    have hvalue : some item.id = some shot.id := by
      rw [← item.value_id, ← JSON.value_stored_string, hstored, JSON.value_stored_string]
      exact (DataServiceObject.shot shot).value_id
    have hmem : item ∈ device.getAllDatas .shot :=
      List.mem_reverse.mp (List.mem_of_getElem? hitem)
    rw [RealmDataService.mem_getAllDatas, Option.some.inj hvalue, Realm.object_shot, hshot] at hmem
    rw [hitem, ← hmem]
    rfl
  . intro hi
    rw [hi]
    rfl

theorem restoredShots_time (hpending : service.pending = [])
    (hempty : service.db.collection Kind.shot.getRemoteCollectionName = ∅)
    (hverdicts : target.verdicts = []) {i : Nat} {shot : ShotModel}
    (hi : (device.getAllDatas .shot).reverse[i]? = some (.shot shot))
    : (restoredShots dateFormatter context device target service completion).realm.shots.find?
          shot.id
        = some { shot with time := (context i).secondMappingDate } := by
  have hround : DataServiceObject.initJSON dateFormatter (context i)
        (DataServiceObject.shot shot).getJSONData.stored .shot
      = some (.shot { shot with time := (context i).secondMappingDate }) :=
    congrArg (Option.map DataServiceObject.shot)
      (ShotModel.initJSON_getJSONData dateFormatter (context i) shot)
  have hobject : ((restoredShots dateFormatter context device target service
        completion).realm.shots.find? shot.id).map DataServiceObject.shot = _ :=
    restored_object_of_getElem? hpending hempty hverdicts hi
  rw [hround, ← Option.map_some] at hobject
  exact Option.map_injective (fun _ _ h => DataServiceObject.shot.inj h) hobject

theorem restoredShots_none (hpending : service.pending = [])
    (hempty : service.db.collection Kind.shot.getRemoteCollectionName = ∅)
    (hverdicts : target.verdicts = []) {id : String} (hnone : device.realm.shots.find? id = none)
    : (restoredShots dateFormatter context device target service completion).realm.shots.find? id
        = none := by
  have hobject : device.realm.object .shot id = none := by
    rw [Realm.object_shot, hnone, Option.map_none]
  have hrestored : ((restoredShots dateFormatter context device target service
        completion).realm.shots.find? id).map DataServiceObject.shot = none :=
    restored_object_none hpending hempty hverdicts hobject
  exact Option.map_eq_none_iff.mp hrestored

/-! ## The order of the shots and the statistics -/

theorem Date.truncated_mono {ticks : Int} (hticks : 0 < ticks) {date date' : Date}
    (h : date ≤ date') : Date.truncated ticks date ≤ Date.truncated ticks date' := by
  unfold Date.truncated
  apply Int.mul_le_mul_of_nonneg_right
  . exact Int.ediv_le_ediv hticks h
  . omega

theorem getShotDatas_perm {f : ShotModel → ShotModel} {restored : RealmDataService}
    (hreport : ∀ shot, (f shot).reportID = shot.reportID)
    (hperm : restored.realm.shots.rows.Perm (device.realm.shots.rows.map f))
    (reportIDs : List String)
    : (restored.getShotDatas reportIDs).Perm ((device.getShotDatas reportIDs).map f) := by
  unfold RealmDataService.getShotDatas
  have hlist : (restored.realm.shots.list restored.rank).Perm
      ((device.realm.shots.list device.rank).map f) :=
    (Table.list_perm _ _).trans (hperm.trans ((Table.list_perm _ _).map f).symm)
  have hfilter := hlist.filter fun shot => shot.reportID ∈ reportIDs
  rw [List.filter_map] at hfilter
  simpa only [Function.comp_def, hreport] using hfilter

theorem sortedBy_getShotDatas {ticks : Int} (hticks : 0 < ticks) {restored : RealmDataService}
    (hperm : restored.realm.shots.rows.Perm (device.realm.shots.rows.map (ShotModel.truncated ticks)))
    (hdistinct : ∀ shot ∈ device.realm.shots.rows, ∀ shot' ∈ device.realm.shots.rows,
      Date.truncated ticks shot.time = Date.truncated ticks shot'.time → shot = shot')
    (reportIDs : List String)
    : sortedBy ShotModel.time (restored.getShotDatas reportIDs)
        = (sortedBy ShotModel.time (device.getShotDatas reportIDs)).map
            (ShotModel.truncated ticks) := by
  apply sortedBy_eq_map
  . apply getShotDatas_perm _ hperm
    intro shot
    rfl
  . intro shot shot' hle
    exact Date.truncated_mono hticks hle
  . intro shot hshot shot' hshot' hsame
    have hrow : ∀ shot ∈ device.getShotDatas reportIDs, shot ∈ device.realm.shots.rows := by
      intro shot hshot
      exact Table.mem_list.mp (List.mem_filter.mp hshot).1
    exact hdistinct shot (hrow shot hshot) shot' (hrow shot' hshot') hsame

theorem Preserved.of_shots {ticks : Int} (hticks : 0 < ticks)
    (hformat : ∀ date, Date.getDateFormatted dateFormatter date = some (Date.truncated ticks date))
    {restored : RealmDataService}
    (hshots : ∀ id, restored.realm.shots.find? id
      = (device.realm.shots.find? id).map (ShotModel.truncated ticks))
    : Preserved dateFormatter device restored := by
  have hperm : restored.realm.shots.rows.Perm
      (device.realm.shots.rows.map (ShotModel.truncated ticks)) := by
    apply Table.rows_perm_map _ hshots
    intro shot
    rfl
  constructor
  . intro id
    rw [hshots, Option.map_eq_bind]
    congr 1
    funext shot
    rw [hformat]
    rfl
  . intro hdistinct controller
    simp only [hformat, Option.some.injEq] at hdistinct
    rw [ReportDetailsViewController.setupDatas_eq, ReportDetailsViewController.setupDatas_eq]
    simp only [sortedBy_getShotDatas hticks hperm hdistinct, Option.map_some, List.map_map]
    rfl
  . intro hdistinct controller
    simp only [hformat, Option.some.injEq] at hdistinct
    rw [ReportDetailsViewController.setupDatas_eq, ReportDetailsViewController.setupDatas_eq]
    simp only [sortedBy_getShotDatas hticks hperm hdistinct]
    rw [ReportDetailsViewController.statistics_map]
    . intro shot
      rfl
    . intro shot
      rfl
    . intro shot
      rfl

theorem restoredShots_preserved_iff {ticks : Int} (hticks : 0 < ticks)
    (hformat : ∀ date, Date.getDateFormatted dateFormatter date = some (Date.truncated ticks date))
    (hpending : service.pending = [])
    (hempty : service.db.collection Kind.shot.getRemoteCollectionName = ∅)
    (hverdicts : target.verdicts = [])
    : Preserved dateFormatter device
          (restoredShots dateFormatter context device target service completion)
        ↔ ∀ (i : Nat) (shot : ShotModel), device.realm.shots.find? shot.id = some shot →
            (backedUpShots device service completion)[i]? = some shot.getJSONData.stored →
              Date.getDateFormatted dateFormatter shot.time
                = some (context i).secondMappingDate := by
  constructor
  . intro hpreserved i shot hshot hi
    rw [getElem?_backedUpShots hpending hempty hshot] at hi
    have hshots := hpreserved.shots shot.id
    rw [restoredShots_time hpending hempty hverdicts hi, hshot, Option.bind_some, hformat,
      Option.map_some] at hshots
    have htime : (context i).secondMappingDate = Date.truncated ticks shot.time :=
      congrArg ShotModel.time (Option.some.inj hshots)
    rw [hformat, htime]
  . intro hclock
    apply Preserved.of_shots hticks hformat
    intro id
    cases hshot : device.realm.shots.find? id with
    | none => exact restoredShots_none hpending hempty hverdicts hshot
    | some shot =>
      have hid : shot.id = id := Table.key_of_find? hshot
      subst hid
      have hobject : device.realm.object .shot shot.id = some (.shot shot) := by
        rw [Realm.object_shot, hshot, Option.map_some]
      obtain ⟨i, hi⟩ : ∃ i : Nat,
          (device.getAllDatas .shot).reverse[i]? = some (DataServiceObject.shot shot) :=
        exists_getElem?_reverse hobject
      have htime := hclock i shot hshot ((getElem?_backedUpShots hpending hempty hshot).mpr hi)
      rw [hformat] at htime
      rw [restoredShots_time hpending hempty hverdicts hi, ← Option.some.inj htime]
      rfl

end Shots

/-! A formatter that writes the number of a second, ten ticks long, in unary -/

def secondsFormatter : DateFormatter where
  string _ date := uuidString (Equiv.intEquivNat (date / 10))
  date _ s := some (Equiv.intEquivNat.symm s.length * 10)

theorem secondsFormatter_truncates (date : Date)
    : Date.getDateFormatted secondsFormatter date = some (Date.truncated 10 date) := by
  have hlength (n : Nat) : (uuidString n).length = n := by
    simp [uuidString]
  unfold Date.getDateFormatted Date.convertToString secondsFormatter Date.truncated
  simp only [hlength, Equiv.symm_apply_apply]

def timedShot : ShotModel := { id := "s", ballNumber := 3, result := 2, time := 25, reportID := "r" }

def sampleShotDevice : RealmDataService where
  realm := Realm.empty.addModified (.object (.shot timedShot))
  rank := fun _ => 0
  verdicts := []

def sampleTarget : RealmDataService := ⟨.empty, fun _ => 0, []⟩

def sampleService : FirebaseDataService Unit := ⟨.empty, [], [], []⟩

def punctualShot : ShotModel := { timedShot with time := 20 }

def punctualShotDevice : RealmDataService :=
  { sampleShotDevice with realm := Realm.empty.addModified (.object (.shot punctualShot)) }

/--
A backup and a restore in the instant of the shot.
-/
theorem restoredShots_preserved_iff_same_instant
    : Preserved secondsFormatter punctualShotDevice
        (restoredShots secondsFormatter (fun _ => ⟨"", 20, 20, 20⟩) punctualShotDevice sampleTarget
          sampleService ()) := by
  refine (restoredShots_preserved_iff (by decide : (0 : Int) < 10) secondsFormatter_truncates
    rfl rfl rfl).mpr ?_
  intro i shot hshot _
  have hstored : punctualShotDevice.realm.shots.find? shot.id = _ :=
    Table.find?_upsert (Table.empty : Table ShotModel.id) punctualShot shot.id
  rw [hshot, Table.find?_empty] at hstored
  split at hstored
  . rw [Option.some.inj hstored, secondsFormatter_truncates]
    rfl
  . cases hstored

/--
A restore some seconds later.
-/
theorem restoredShots_forgets_time
    : ¬ Preserved secondsFormatter sampleShotDevice
        (restoredShots secondsFormatter (fun _ => ⟨"", 0, 0, 90⟩) sampleShotDevice sampleTarget
          sampleService ()) := by
  intro hpreserved
  have hshots := hpreserved.shots "s"
  revert hshots
  decide
