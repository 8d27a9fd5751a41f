import CaptainCue.Accessor.Refinement

/-!
This module contains the operations on objects and records, for a process that refines a manager:
none of them raises, and the process refines what the same operation makes of the manager.
-/

namespace Process

variable {process process' : Process} {manager : DataServiceManager}

/-! ## The local service -/

def deleted (process : Process) (object : Nat) (row : Row) : Process :=
  { process with
    realm := process.realm.remove row
    objects := process.objects.set object (.managed false row)
  }

def attached (process : Process) (realm : Realm) (object : Nat) (row : Row) : Process :=
  { process with
    realm := realm
    objects := process.objects.set object (.managed true row)
  }

theorem delete_returns {object : Nat} {row : Row}
    (h : process.objects[object]? = some (.managed true row)) {Q : PUnit → Process → Prop}
    (hQ : Q ⟨⟩ (process.deleted object row)) : Returns (delete object) process Q := by
  unfold delete
  apply Returns.bind
  apply Returns.get
  rw [h]
  exact Returns.set hQ

theorem add_returns {object : Nat} {value : LocalDataObject}
    (h : process.objects[object]? = some (.unmanaged value))
    (hnew : process.realm.value value.row = none) {Q : PUnit → Process → Prop}
    (hQ : Q ⟨⟩ (process.attached (process.realm.add value) object value.row))
    : Returns (add object) process Q := by
  unfold add
  apply Returns.bind
  apply Returns.get
  rw [h]
  dsimp only
  rw [hnew]
  exact Returns.set hQ

theorem addModified_returns {object : Nat} {value : LocalDataObject}
    (h : process.objects[object]? = some (.unmanaged value)) {Q : PUnit → Process → Prop}
    (hQ : Q ⟨⟩ (process.attached (process.realm.addModified value) object value.row))
    : Returns (addModified object) process Q := by
  unfold addModified
  apply Returns.bind
  apply Returns.get
  rw [h]
  exact Returns.set hQ

theorem onLocal_write_of_verdicts (h : manager.verdicts = []) (changes : Realm → Realm)
    : (manager.onLocal fun service => service.write changes)
        = { manager with localDataService.realm := changes manager.realm } := by
  have hwrite : manager.localDataService.write changes
      = { manager.localDataService with realm := changes manager.realm } := by
    unfold DataServiceManager.verdicts at h
    unfold RealmDataService.write
    rw [h, Verdict.takesEffect_nil, if_pos rfl, Verdict.next_nil, ← h]
  exact congrArg (fun service => { manager with localDataService := service }) hwrite

theorem delete_eq_remove (realm : Realm) (value : LocalDataObject)
    : realm.delete value = realm.remove value.row := by
  cases value with
  | object data => cases data <;> rfl
  | record item => rfl

theorem find?_remove_eq_none {realm : Realm} {primaryKey : String}
    (h : realm.records.find? primaryKey = none) (row : Row)
    : (realm.remove row).records.find? primaryKey = none := by
  cases row with
  | object T primaryKey' => cases T <;> exact h
  | record primaryKey' =>
    show (realm.records.erase primaryKey').find? primaryKey = none
    rw [Table.find?_erase, h, ite_self]

theorem getElem?_set_of_not_captured {object : Nat} (hfree : object ∉ process.captured)
    (new : RLMObject) : ∀ object' ∈ process.captured,
      (process.objects.set object new)[object']? = process.objects[object']? := by
  intro object' hobject'
  apply List.getElem?_set_ne
  rintro rfl
  exact hfree hobject'

theorem Refines.deleted (h : Refines process manager) {object : Nat}
    (hfree : object ∉ process.captured) (value : LocalDataObject)
    : Refines (process.deleted object value.row)
        (manager.onLocal fun service => service.deleteObject value) := by
  unfold RealmDataService.deleteObject
  rw [onLocal_write_of_verdicts h.verdicts, h.realm, delete_eq_remove]
  exact h.change (getElem?_set_of_not_captured hfree _)
    fun n hn => find?_remove_eq_none (h.fresh n hn) _

/-! ## What stays alive -/

def Keeps (process process' : Process) : Prop :=
  ∀ (object : Nat) (data : DataServiceObject), Live process object (.object data) →
    Live process' object (.object data)

theorem Keeps.trans {process'' : Process} (h : Keeps process process')
    (h' : Keeps process' process'') : Keeps process process'' :=
  fun object data hlive => h' object data (h object data hlive)

theorem Live.set {object object' : Nat} {value : LocalDataObject} {realm : Realm} {new : RLMObject}
    (h : Live process object value) (hne : object' ≠ object)
    (hrow : realm.value value.row = some value)
    : Live { process with realm := realm, objects := process.objects.set object' new } object value
    := by
  refine ⟨?_, hrow⟩
  rw [← h.1]
  exact List.getElem?_set_ne hne

theorem keeps_deleted_record {object : Nat} {item : OfflineStorageModel}
    (h : Names process object item) : Keeps process (process.deleted object (.record item.id)) := by
  intro object' data hlive
  have hne : object ≠ object' := by
    rintro rfl
    have heq := h.symm.trans hlive.1
    cases heq
  exact hlive.set hne hlive.2

/-! ## Recording a change -/

/--
The old records are deleted through accessors of this query, so every closure keeps its own.
-/
structure Replacing (start : Process) (objects : List Nat) (items : List OfflineStorageModel)
    (process : Process) : Prop where
  names : List.Forall₂ (Names process) objects items
  nodup : objects.Nodup
  free : ∀ object ∈ objects, object ∉ process.captured
  keeps : Keeps start process

theorem Replacing.deleted {start : Process} {object : Nat} {objects : List Nat}
    {item : OfflineStorageModel} {items : List OfflineStorageModel}
    (h : Replacing start (object :: objects) (item :: items) process)
    : Replacing start objects items (process.deleted object (.record item.id)) where
  names := by
    obtain ⟨-, hnames⟩ := List.forall₂_cons.mp h.names
    have hne : ∀ object' ∈ objects, object ≠ object' := by
      rintro object' hobject' rfl
      exact (List.nodup_cons.mp h.nodup).1 hobject'
    apply ((List.forall₂_and_left _ _).mpr ⟨hne, hnames⟩).imp
    rintro object' item' ⟨hne, hitem'⟩
    exact (List.getElem?_set_ne hne).trans hitem'
  nodup := (List.nodup_cons.mp h.nodup).2
  free := fun object' hobject' => h.free object' (List.mem_cons_of_mem _ hobject')
  keeps := h.keeps.trans (keeps_deleted_record (List.forall₂_cons.mp h.names).1)

theorem deleteRecords_refines (h : Refines process manager) {objects : List Nat}
    {items : List OfflineStorageModel} (hreplacing : Replacing process objects items process)
    : Returns (objects.forM LocalDataService.deleteObject) process fun _ process' =>
        Refines process'
            (items.foldl
              (fun manager item =>
                manager.onLocal fun service => service.deleteObject (.record item))
              manager)
          ∧ Keeps process process' := by
  apply (Returns.forM_foldl _ hreplacing.names.length_eq h hreplacing).mono
  . rintro _ process' ⟨hrefines, hreplaced⟩
    exact ⟨hrefines, hreplaced.keeps⟩
  . intro object objects item items process' manager' hrefines hreplacing
    have hfree := hreplacing.free object List.mem_cons_self
    apply delete_returns (List.forall₂_cons.mp hreplacing.names).1
    exact ⟨hrefines.deleted hfree (.record item), hreplacing.deleted⟩

theorem getOfflineStore_returns (h : Refines process manager) (objID : String)
    {Q : List Nat → Process → Prop}
    (hQ : ∀ objects new,
      Found .record (manager.localDataService.getOfflineStore objID) process objects new →
      Q objects { process with objects := process.objects ++ new })
    : Returns (LocalDataService.getOfflineStore objID) process Q := by
  have hstore : manager.localDataService.getOfflineStore objID
      = (process.realm.records.list process.rank).filter fun record => record.objectID = objID := by
    rw [← h.realm, ← h.rank]
    rfl
  rw [hstore] at hQ
  unfold LocalDataService.getOfflineStore
  apply Returns.bind
  apply Returns.get
  apply accessors_returns _ hQ
  intro item hitem
  exact value_record.mpr (Table.mem_rows.mp (Table.mem_list.mp (List.mem_of_mem_filter hitem)))

theorem Refines.uuid (h : Refines process manager)
    : Refines { process with uuids := process.uuids + 1 }
        { manager with uuids := manager.uuids + 1 } where
  realm := h.realm
  rank := h.rank
  verdicts := h.verdicts
  network := h.network
  uuids := congrArg (· + 1) h.uuids
  db := h.db
  pending := h.pending
  callbacks := h.callbacks
  nodup := h.nodup
  fresh := fun n hn => h.fresh n (Nat.le_of_succ_le hn)

theorem uuid_returns {Q : String → Process → Prop}
    (hQ : Q (uuidString process.uuids) { process with uuids := process.uuids + 1 })
    : Returns uuid process Q := by
  unfold uuid
  apply Returns.bind
  apply Returns.get
  apply Returns.bind
  apply Returns.set
  exact Returns.pure hQ

theorem Refines.not_captured_of_unmanaged (h : Refines process manager) {object : Nat}
    {value : LocalDataObject} (hobject : process.objects[object]? = some (.unmanaged value))
    : object ∉ process.captured := by
  intro hcaptured
  obtain ⟨item, hnames⟩ := h.names_of_captured object hcaptured
  cases hobject.symm.trans hnames

theorem addRecord_refines (h : Refines process manager) {object : Nat} {item : OfflineStorageModel}
    (hobject : process.objects[object]? = some (.unmanaged (.record item)))
    (hnew : process.realm.records.find? item.id = none)
    (hid : ∀ n, process.uuids ≤ n → uuidString n ≠ item.id)
    : Returns (LocalDataService.addObject object) process fun _ process' =>
        Refines process' (manager.onLocal fun service => service.addObject (.record item))
          ∧ Keeps process process' := by
  apply add_returns hobject
  . show (process.realm.records.find? item.id).map LocalDataObject.record = none
    rw [hnew]
    rfl
  . constructor
    . unfold RealmDataService.addObject
      rw [onLocal_write_of_verdicts h.verdicts, h.realm]
      apply h.change (getElem?_set_of_not_captured (h.not_captured_of_unmanaged hobject) _)
      intro n hn
      rw [Realm.records_add_record, Table.add_eq_upsert hnew, Table.find?_upsert_ne _ (hid n hn)]
      exact h.fresh n hn
    . intro object' data hlive
      apply hlive.set _ hlive.2
      rintro rfl
      cases hobject.symm.trans hlive.1

theorem changeInLocalDatabase_refines (h : Refines process manager) {object : Nat}
    {data : DataServiceObject} (hdata : Live process object (.object data))
    (menthodType : MenthodType)
    : Returns (changeInLocalDatabase data.kind object menthodType) process fun _ process' =>
        Refines process' (manager.changeInLocalDatabase data menthodType)
          ∧ Keeps process process' := by
  unfold changeInLocalDatabase DataServiceManager.changeInLocalDatabase
  dsimp only
  apply Returns.bind
  apply hdata.dataFields
  apply Returns.bind
  apply getOfflineStore_returns h
  intro objects new hfound
  have hreplacing : Replacing { process with objects := process.objects ++ new } objects
      (manager.localDataService.getOfflineStore data.id)
      { process with objects := process.objects ++ new } :=
    ⟨hfound.live.imp fun _ _ hlive => hlive.1, hfound.nodup, h.not_captured hfound, fun _ _ => id⟩
  apply Returns.bind
  apply (deleteRecords_refines h.extend hreplacing).mono
  rintro _ process₁ ⟨hrefines₁, hkeeps₁⟩
  generalize hreplaced : List.foldl _ manager _ = manager₁ at hrefines₁ ⊢
  have hdata₁ := hkeeps₁ object data hdata.extend
  apply Returns.bind
  apply hdata₁.dataFields
  apply Returns.bind
  apply uuid_returns
  apply Returns.bind
  apply create_returns
  apply Returns.bind
  apply (addRecord_refines hrefines₁.uuid.extend List.getElem?_concat_length
    (hrefines₁.fresh process₁.uuids (Nat.le_refl _)) _).mono
  . rintro _ process₂ ⟨hrefines₂, hkeeps₂⟩
    rw [← hrefines₁.uuids] at hrefines₂
    apply (checkAndMergeChangeInLocalDatabase_refines hrefines₂).mono
    rintro _ process₃ ⟨hrefines₃, hrealm₃, hobjects₃⟩
    refine ⟨hrefines₃, ?_⟩
    intro object' data' hlive
    have hlive₁ := hkeeps₁ object' data' hlive.extend
    exact (hkeeps₂ object' data' hlive₁.extend).of_appended hobjects₃ hrealm₃
  . intro n hn heq
    exact Nat.ne_of_gt hn (uuidString_inj.mp heq)

/-! ## The operations of the user -/

theorem saved_refines (h : Refines process manager) {object : Nat} {data : DataServiceObject}
    (hobject : process.objects[object]? = some (.unmanaged (.object data)))
    : Refines
          (process.attached (process.realm.addModified (.object data)) object
            (LocalDataObject.object data).row)
          (manager.saved data)
        ∧ Live
            (process.attached (process.realm.addModified (.object data)) object
              (LocalDataObject.object data).row)
            object (.object data) := by
  constructor
  . unfold DataServiceManager.saved RealmDataService.updateObject
    rw [onLocal_write_of_verdicts h.verdicts, h.realm]
    apply h.change (getElem?_set_of_not_captured (h.not_captured_of_unmanaged hobject) _)
    intro n hn
    rw [Realm.records_addModified_object]
    exact h.fresh n hn
  . constructor
    . exact List.getElem?_set_self (List.getElem?_eq_some_iff.mp hobject).1
    . apply value_object.mpr
      show (process.realm.addModified (.object data)).object data.kind data.id = some data
      rw [Realm.object_addModified, if_pos ⟨rfl, rfl⟩]

theorem addObject_refines (h : Refines process manager) {object : Nat} {data : DataServiceObject}
    (hobject : process.objects[object]? = some (.unmanaged (.object data)))
    (hnew : process.realm.object data.kind data.id = none)
    : Returns (addObject data.kind object) process fun _ process' =>
        Refines process' (manager.addObject data) := by
  obtain ⟨hrefines, hlive⟩ := saved_refines h hobject
  rw [DataServiceManager.addObject_eq (h.realm ▸ hnew)]
  unfold addObject DataServiceManager.saveObject
  apply Returns.bind
  apply add_returns hobject
  . show (process.realm.object data.kind data.id).map LocalDataObject.object = none
    rw [hnew]
    rfl
  . rw [Realm.add_eq_addModified hnew]
    exact (changeInLocalDatabase_refines hrefines hlive .create).mono fun _ _ h' => h'.1

theorem updateObject_refines (h : Refines process manager) {object : Nat}
    {data : DataServiceObject}
    (hobject : process.objects[object]? = some (.unmanaged (.object data)))
    : Returns (updateObject data.kind object) process fun _ process' =>
        Refines process' (manager.updateObject data) := by
  obtain ⟨hrefines, hlive⟩ := saved_refines h hobject
  unfold updateObject
  apply Returns.bind
  apply addModified_returns hobject
  exact (changeInLocalDatabase_refines hrefines hlive .update).mono fun _ _ h' => h'.1

theorem value_remove_of_ne {row row' : Row} (h : row' ≠ row) (realm : Realm)
    : (realm.remove row).value row' = realm.value row' := by
  cases row with
  | object T primaryKey =>
    cases row' with
    | object T' primaryKey' =>
      cases T <;> cases T'
      . have hne : primaryKey' ≠ primaryKey := fun heq => h (heq ▸ rfl)
        simp [Realm.value, Realm.remove, Table.find?_erase_ne _ hne]
      . rfl
      . rfl
      . have hne : primaryKey' ≠ primaryKey := fun heq => h (heq ▸ rfl)
        simp [Realm.value, Realm.remove, Table.find?_erase_ne _ hne]
    | record primaryKey' => cases T <;> rfl
  | record primaryKey =>
    cases row' with
    | object T' primaryKey' => cases T' <;> rfl
    | record primaryKey' =>
      have hne : primaryKey' ≠ primaryKey := fun heq => h (heq ▸ rfl)
      simp [Realm.value, Realm.remove, Table.find?_erase_ne _ hne]

theorem Live.not_captured (hlive : Live process object (.object data)) (h : Refines process manager)
    : object ∉ process.captured := by
  intro hcaptured
  obtain ⟨item, hnames⟩ := h.names_of_captured object hcaptured
  cases hlive.1.symm.trans hnames

theorem deleteSingle_refines (h : Refines process manager) {object : Nat}
    {data : DataServiceObject} (hdata : Live process object (.object data))
    : Returns (deleteSingle data.kind object) process fun _ process' =>
        Refines process' (manager.deleteSingle data)
          ∧ ∀ object' data', Live process object' (.object data') →
              (LocalDataObject.object data').row ≠ (LocalDataObject.object data).row →
              Live process' object' (.object data') := by
  unfold deleteSingle DataServiceManager.deleteSingle
  apply Returns.bind
  apply (changeInLocalDatabase_refines h hdata .delete).mono
  rintro _ process₁ ⟨hrefines₁, hkeeps₁⟩
  have hdata₁ := hkeeps₁ object data hdata
  apply delete_returns hdata₁.1
  refine ⟨hrefines₁.deleted (hdata₁.not_captured hrefines₁) (.object data), ?_⟩
  intro object' data' hlive hne
  have hlive₁ := hkeeps₁ object' data' hlive
  apply hlive₁.set
  . rintro rfl
    have heq := Option.some.inj (hlive₁.1.symm.trans hdata₁.1)
    exact hne (RLMObject.managed.inj heq).2
  . rw [value_remove_of_ne hne]
    exact hlive₁.2

/--
The cascade deletes shots with different ids one after the other, so the accessors that are still to
come stay alive, and so does the accessor of the report.
-/
structure Cascading (object : Nat) (report : ReportModel) (objects : List Nat)
    (items : List ShotModel) (process : Process) : Prop where
  live : List.Forall₂ (fun object item => Live process object (.object (.shot item))) objects items
  nodup : (items.map ShotModel.id).Nodup
  report : Live process object (.object (.report report))

theorem getShotData_returns (h : Refines process manager) (reportID : String)
    {Q : List Nat → Process → Prop}
    (hQ : ∀ objects new,
      Found (fun item => .object (.shot item)) (manager.localDataService.getShotData reportID)
        process objects new →
      Q objects { process with objects := process.objects ++ new })
    : Returns (LocalDataService.getShotData reportID) process Q := by
  have hshots : manager.localDataService.getShotData reportID
      = (process.realm.shots.list process.rank).filter fun shot => shot.reportID = reportID := by
    rw [← h.realm, ← h.rank]
    rfl
  rw [hshots] at hQ
  unfold LocalDataService.getShotData
  apply Returns.bind
  apply Returns.get
  apply accessors_returns _ hQ
  intro shot hshot
  have hrow := Table.mem_rows.mp (Table.mem_list.mp (List.mem_of_mem_filter hshot))
  exact value_object.mpr (congrArg (Option.map DataServiceObject.shot) hrow)

theorem deleteObject_refines (h : Refines process manager) {object : Nat}
    {data : DataServiceObject} (hdata : Live process object (.object data))
    : Returns (deleteObject data.kind object) process fun _ process' =>
        Refines process' (manager.deleteObject data) := by
  cases data with
  | shot shot => exact (deleteSingle_refines h hdata).mono fun _ _ h' => h'.1
  | report report =>
    unfold deleteObject
    show Returns (do
      let shotList ← LocalDataService.getShotData (← dataFields object).id
      shotList.forM (deleteSingle .shot)
      deleteSingle .report object) process _
    apply Returns.bind
    apply hdata.dataFields
    apply Returns.bind
    apply getShotData_returns h
    intro objects new hfound
    have hcascading : Cascading object report objects
        (manager.localDataService.getShotData report.id)
        { process with objects := process.objects ++ new } :=
      ⟨hfound.live, manager.localDataService.nodup_getShotData_ids _, hdata.extend⟩
    apply Returns.bind
    apply (Returns.forM_foldl _ hfound.live.length_eq h.extend hcascading).mono
    . rintro _ process₁ ⟨hrefines₁, hcascaded⟩
      exact (deleteSingle_refines hrefines₁ hcascaded.report).mono fun _ _ h' => h'.1
    . intro object' objects item items process₁ manager₁ hrefines₁ hcascading
      obtain ⟨hitem, hitems⟩ := List.forall₂_cons.mp hcascading.live
      have hnodup := List.nodup_cons.mp hcascading.nodup
      apply (deleteSingle_refines hrefines₁ hitem).mono
      rintro _ process₂ ⟨hrefines₂, hkeeps⟩
      refine ⟨hrefines₂, ?_, hnodup.2, ?_⟩
      . apply List.forall₂_iff_get.mpr
        refine ⟨hitems.length_eq, ?_⟩
        intro i hi hi'
        apply hkeeps _ _ ((List.forall₂_iff_get.mp hitems).2 i hi hi')
        intro heq
        apply hnodup.1
        have hid : (items.get ⟨i, hi'⟩).id = item.id := (Row.object.inj heq).2
        rw [← hid]
        exact List.mem_map_of_mem (List.get_mem items ⟨i, hi'⟩)
      . exact hkeeps _ _ hcascading.report (by simp [LocalDataObject.row, DataServiceObject.kind])

theorem completion_refines (h : Refines process manager) {object : Nat}
    {item : OfflineStorageModel} (hnames : Names process object item)
    (hfree : object ∉ process.captured) (err : Option NSError)
    : Returns (completion object err) process fun _ process' =>
        Refines process' (manager.completion item err) := by
  unfold completion DataServiceManager.completion
  split
  . apply delete_returns hnames
    exact h.deleted hfree (.record item)
  . exact Returns.pure h

theorem changeInternetConnection_refines (h : Refines process manager) (state : InternetState)
    : Returns (changeInternetConnection state) process fun _ process' =>
        Refines process' (manager.changeInternetConnection state) := by
  have hstate : Refines { process with network := state } { manager with network := state } :=
    ⟨h.realm, h.rank, h.verdicts, rfl, h.uuids, h.db, h.pending, h.callbacks, h.nodup, h.fresh⟩
  unfold changeInternetConnection DataServiceManager.changeInternetConnection
  rw [h.network]
  apply Returns.bind
  apply Returns.get
  split
  . exact Returns.pure h
  . apply Returns.bind
    apply Returns.set
    exact (checkAndMergeChangeInLocalDatabase_refines hstate).mono fun _ _ h' => h'.1

end Process
