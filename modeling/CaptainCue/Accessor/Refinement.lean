import Mathlib.Data.List.Forall2
import CaptainCue.Accessor.Process
import CaptainCue.Library.Returns
import CaptainCue.Manager.Convergence

/-!
This module contains the connection between the manager on accessors and the manager on values: as
long as every completion closure has an attached accessor of its own, no operation raises, and it
does to the rows and to the cloud what the manager on values does.
-/

namespace Process

variable {process process' : Process} {manager : DataServiceManager}

def captured (process : Process) : List Nat :=
  process.remoteDataService.pending.map Prod.snd ++ process.remoteDataService.callbacks.map Prod.fst

def Names (process : Process) (object : Nat) (item : OfflineStorageModel) : Prop :=
  process.objects[object]? = some (.managed true (.record item.id))

structure Refines (process : Process) (manager : DataServiceManager) : Prop where
  realm : manager.realm = process.realm
  rank : manager.localDataService.rank = process.rank
  verdicts : manager.verdicts = []
  network : manager.network = process.network
  uuids : manager.uuids = process.uuids
  db : manager.remoteDataService.db = process.remoteDataService.db
  pending : List.Forall₂ (fun call call' => call.1 = call'.1 ∧ Names process call.2 call'.2)
    process.remoteDataService.pending manager.remoteDataService.pending
  callbacks : List.Forall₂ (fun call call' => Names process call.1 call'.1 ∧ call.2 = call'.2)
    process.remoteDataService.callbacks manager.remoteDataService.callbacks
  nodup : process.captured.Nodup
  fresh : ∀ n, process.uuids ≤ n → process.realm.records.find? (uuidString n) = none

/-! ## Reading, and new accessors -/

def Live (process : Process) (object : Nat) (value : LocalDataObject) : Prop :=
  process.objects[object]? = some (.managed true value.row)
    ∧ process.realm.value value.row = some value

theorem value_record {realm : Realm} {item : OfflineStorageModel}
    : realm.value (LocalDataObject.record item).row = some (.record item)
        ↔ realm.records.find? item.id = some item := by
  unfold Realm.value LocalDataObject.row
  dsimp only
  rw [Option.map_eq_some_iff]
  simp

theorem value_object {realm : Realm} {data : DataServiceObject}
    : realm.value (LocalDataObject.object data).row = some (.object data)
        ↔ realm.object data.kind data.id = some data := by
  unfold Realm.value LocalDataObject.row
  dsimp only
  rw [Option.map_eq_some_iff]
  simp

theorem Live.fields {object : Nat} {value : LocalDataObject} (h : Live process object value)
    {Q : LocalDataObject → Process → Prop} (hQ : Q value process)
    : Returns (fields object) process Q := by
  unfold Process.fields
  apply Returns.bind
  apply Returns.get
  rw [h.1]
  dsimp only
  rw [h.2]
  exact Returns.pure hQ

theorem Live.dataFields {object : Nat} {data : DataServiceObject}
    (h : Live process object (.object data)) {Q : DataServiceObject → Process → Prop}
    (hQ : Q data process) : Returns (dataFields object) process Q := by
  apply Returns.bind
  apply h.fields
  exact Returns.pure hQ

theorem Live.recordFields {object : Nat} {item : OfflineStorageModel}
    (h : Live process object (.record item)) {Q : OfflineStorageModel → Process → Prop}
    (hQ : Q item process) : Returns (recordFields object) process Q := by
  apply Returns.bind
  apply h.fields
  exact Returns.pure hQ

/-! ## Merging -/

theorem onRemote_of_verdicts (h : manager.verdicts = [])
    (call : FirebaseDataService OfflineStorageModel → FirebaseDataService OfflineStorageModel)
    : manager.onRemote call
        = { manager with remoteDataService := call manager.remoteDataService } := by
  unfold DataServiceManager.onRemote
  rw [show manager.localDataService.verdicts = [] from h]

/--
Everything that was there is still there, and only `object` may have been captured.
-/
structure Passes (process : Process) (object : Nat) (process' : Process) : Prop where
  realm : process'.realm = process.realm
  rank : process'.rank = process.rank
  network : process'.network = process.network
  uuids : process'.uuids = process.uuids
  objects : process.objects <+: process'.objects
  captured : ∀ object' ∈ process'.captured, object' ∈ process.captured ∨ object' = object

theorem Refines.names_of_captured (h : Refines process manager)
    : ∀ object ∈ process.captured, ∃ item, Names process object item := by
  intro object hobject
  cases List.mem_append.mp hobject with
  | inl hobject =>
    obtain ⟨call, hcall, rfl⟩ := List.mem_map.mp hobject
    have hpending := h.pending.imp fun _ call' hcall =>
      And.intro (Exists.intro call'.2 hcall.2) hcall
    exact ((List.forall₂_and_left _ _).mp hpending).1 call hcall
  | inr hobject =>
    obtain ⟨callback, hcallback, rfl⟩ := List.mem_map.mp hobject
    have hcallbacks := h.callbacks.imp fun _ call' hcall =>
      And.intro (Exists.intro call'.1 hcall.1) hcall
    exact ((List.forall₂_and_left _ _).mp hcallbacks).1 callback hcallback

theorem Refines.lt_of_captured (h : Refines process manager) {object : Nat}
    (hobject : object ∈ process.captured) : object < process.objects.length := by
  obtain ⟨item, hnames⟩ := h.names_of_captured object hobject
  exact (List.getElem?_eq_some_iff.mp hnames).1

/--
What the closures have captured is all that has to stay.
-/
theorem Refines.change (h : Refines process manager) {realm : Realm} {objects : List RLMObject}
    (hobjects : ∀ object ∈ process.captured, objects[object]? = process.objects[object]?)
    (hfresh : ∀ n, process.uuids ≤ n → realm.records.find? (uuidString n) = none)
    : Refines { process with realm := realm, objects := objects }
        { manager with localDataService.realm := realm } where
  realm := rfl
  rank := h.rank
  verdicts := h.verdicts
  network := h.network
  uuids := h.uuids
  db := h.db
  pending := by
    have hmem : ∀ call ∈ process.remoteDataService.pending, call.2 ∈ process.captured :=
      fun call hcall => List.mem_append_left _ (List.mem_map_of_mem hcall)
    apply ((List.forall₂_and_left _ _).mpr ⟨hmem, h.pending⟩).imp
    rintro call call' ⟨hcaptured, heq, hnames⟩
    exact ⟨heq, (hobjects call.2 hcaptured).trans hnames⟩
  callbacks := by
    have hmem : ∀ callback ∈ process.remoteDataService.callbacks, callback.1 ∈ process.captured :=
      fun callback hcallback => List.mem_append_right _ (List.mem_map_of_mem hcallback)
    apply ((List.forall₂_and_left _ _).mpr ⟨hmem, h.callbacks⟩).imp
    rintro callback callback' ⟨hcaptured, hnames, heq⟩
    exact ⟨(hobjects callback.1 hcaptured).trans hnames, heq⟩
  nodup := h.nodup
  fresh := hfresh

theorem Refines.extend (h : Refines process manager) {new : List RLMObject}
    : Refines { process with objects := process.objects ++ new } manager := by
  have hobjects : ∀ object ∈ process.captured,
      (process.objects ++ new)[object]? = process.objects[object]? :=
    fun object hobject => List.getElem?_append_left (h.lt_of_captured hobject)
  have hrealm : { manager with localDataService.realm := process.realm } = manager := by
    rw [← h.realm]
  have hchange := h.change hobjects h.fresh
  rw [hrealm] at hchange
  exact hchange

theorem captured_issue_perm (process : Process) (w : RemoteWrite) (object : Nat)
    : (captured
        { process with remoteDataService := process.remoteDataService.issue w object }).Perm
          (object :: process.captured) := by
  unfold captured FirebaseDataService.issue
  rw [List.map_append, List.append_assoc]
  exact List.perm_middle

theorem Refines.issue (h : Refines process manager) {object : Nat} {item : OfflineStorageModel}
    (hnames : Names process object item) (hfree : object ∉ process.captured) (w : RemoteWrite)
    : Refines { process with remoteDataService := process.remoteDataService.issue w object }
        (manager.onRemote fun service => service.issue w item) := by
  rw [onRemote_of_verdicts h.verdicts]
  refine ⟨h.realm, h.rank, h.verdicts, h.network, h.uuids, h.db, ?_, h.callbacks, ?_, h.fresh⟩
  . exact List.rel_append h.pending (.cons ⟨rfl, hnames⟩ .nil)
  . rw [(captured_issue_perm process w object).nodup_iff]
    exact List.nodup_cons.mpr ⟨hfree, h.nodup⟩

theorem passes_issue {object : Nat} (w : RemoteWrite)
    : Passes process object
        { process with remoteDataService := process.remoteDataService.issue w object } := by
  refine ⟨rfl, rfl, rfl, rfl, List.prefix_refl _, ?_⟩
  intro object' hobject'
  rw [(captured_issue_perm process w object).mem_iff, List.mem_cons] at hobject'
  exact hobject'.symm

theorem passes_self {object : Nat} : Passes process object process :=
  ⟨rfl, rfl, rfl, rfl, List.prefix_refl _, fun _ h => .inl h⟩

theorem mergeChangeToRemoteDatabase_refines (h : Refines process manager) {object data : Nat}
    {item : OfflineStorageModel} {localObj : DataServiceObject}
    (hitem : Live process object (.record item)) (hdata : Live process data (.object localObj))
    (hfree : object ∉ process.captured)
    : Returns (mergeChangeToRemoteDatabase object (some data)) process fun _ process' =>
        Refines process' (manager.mergeChangeToRemoteDatabase item (some localObj))
          ∧ Passes process object process' := by
  unfold mergeChangeToRemoteDatabase DataServiceManager.mergeChangeToRemoteDatabase
  apply Returns.bind
  apply hitem.recordFields
  cases item.getMenthod with
  | none => exact Returns.pure ⟨h, passes_self⟩
  | some menthodType =>
    cases menthodType with
    | create =>
      apply Returns.bind
      apply hdata.dataFields
      exact Returns.modify ⟨h.issue hitem.1 hfree _, passes_issue _⟩
    | update =>
      apply Returns.bind
      apply hdata.dataFields
      exact Returns.modify ⟨h.issue hitem.1 hfree _, passes_issue _⟩
    | delete =>
      apply Returns.bind
      apply hitem.recordFields
      exact Returns.modify ⟨h.issue hitem.1 hfree _, passes_issue _⟩

theorem create_returns {object : RLMObject} {Q : Nat → Process → Prop}
    (hQ : Q process.objects.length { process with objects := process.objects ++ [object] })
    : Returns (create object) process Q := by
  unfold create
  apply Returns.bind
  apply Returns.get
  apply Returns.bind
  apply Returns.set
  exact Returns.pure hQ

theorem Live.of_appended {object : Nat} {value : LocalDataObject} (h : Live process object value)
    (hobjects : process.objects <+: process'.objects) (hrealm : process'.realm = process.realm)
    : Live process' object value := by
  obtain ⟨new, heq⟩ := hobjects
  obtain ⟨hlt, -⟩ := List.getElem?_eq_some_iff.mp h.1
  refine ⟨?_, ?_⟩
  . rw [← heq, List.getElem?_append_left hlt]
    exact h.1
  . rw [hrealm]
    exact h.2

theorem Live.extend {object : Nat} {value : LocalDataObject} (h : Live process object value)
    {new : List RLMObject}
    : Live { process with objects := process.objects ++ new } object value :=
  h.of_appended (List.prefix_append _ _) rfl

theorem getData_returns {T : Kind} {id : String} {Q : Option Nat → Process → Prop}
    (hnone : process.realm.object T id = none → Q none process)
    (hsome : ∀ data object new, process.realm.object T id = some data →
      Live { process with objects := process.objects ++ new } object (.object data) →
      Q (some object) { process with objects := process.objects ++ new })
    : Returns (LocalDataService.getData T id) process Q := by
  unfold LocalDataService.getData
  apply Returns.bind
  apply Returns.get
  cases hobject : process.realm.object T id with
  | none => exact Returns.pure (hnone hobject)
  | some data =>
    obtain ⟨hkind, hid⟩ := Realm.kind_of_object hobject
    apply Returns.bind
    apply create_returns
    apply Returns.pure
    apply hsome data _ _ hobject
    refine ⟨?_, value_object.mpr ?_⟩
    . rw [← hkind, ← hid]
      exact List.getElem?_concat_length
    . rw [hkind, hid]
      exact hobject

theorem mergeRecord_refines (h : Refines process manager) (T : Kind) {object : Nat}
    {item : OfflineStorageModel} (hitem : Live process object (.record item))
    (hfree : object ∉ process.captured)
    : Returns (mergeRecord T object) process fun _ process' =>
        Refines process' (manager.mergeRecord T item) ∧ Passes process object process' := by
  unfold mergeRecord DataServiceManager.mergeRecord
  have hdata : manager.localDataService.getData T item.objectID
      = process.realm.object T item.objectID := by
    rw [← h.realm]
    rfl
  rw [hdata]
  apply Returns.bind
  apply hitem.recordFields
  apply Returns.bind
  apply getData_returns
  . intro hnone
    rw [hnone]
    apply Returns.bind
    apply hitem.recordFields
    exact Returns.modify ⟨h.issue hitem.1 hfree _, passes_issue _⟩
  . intro localObj data new hsome hlive
    rw [hsome]
    apply (mergeChangeToRemoteDatabase_refines h.extend hitem.extend hlive hfree).mono
    rintro _ process' ⟨hrefines, hpasses⟩
    refine ⟨hrefines, hpasses.realm, hpasses.rank, hpasses.network, hpasses.uuids, ?_,
      hpasses.captured⟩
    exact (List.prefix_append _ _).trans hpasses.objects

/--
The elements of a query are new accessors of the rows that the query has found.
-/
structure Found {α : Type} (value : α → LocalDataObject) (items : List α) (process : Process)
    (objects : List Nat) (new : List RLMObject) : Prop where
  live : List.Forall₂
    (fun object item => Live { process with objects := process.objects ++ new } object (value item))
    objects items
  nodup : objects.Nodup
  isNew : ∀ object ∈ objects, process.objects.length ≤ object

theorem accessors_returns {α : Type} {value : α → LocalDataObject} {items : List α}
    (hitems : ∀ item ∈ items, process.realm.value (value item).row = some (value item))
    {Q : List Nat → Process → Prop}
    (hQ : ∀ objects new, Found value items process objects new →
      Q objects { process with objects := process.objects ++ new })
    : Returns (accessors (items.map fun item => (value item).row)) process Q := by
  unfold accessors
  apply Returns.bind
  apply Returns.get
  apply Returns.bind
  apply Returns.set
  apply Returns.pure
  apply hQ
  constructor
  . apply List.forall₂_iff_get.mpr
    refine ⟨by simp, ?_⟩
    intro i hi hi'
    refine ⟨?_, hitems _ (List.get_mem items ⟨i, hi'⟩)⟩
    simp [List.getElem?_append_right, List.getElem?_eq_getElem hi']
  . exact List.nodup_range'
  . intro object hobject
    exact (List.mem_range'_1.mp hobject).1

structure Merging (start : Process) (objects : List Nat) (items : List OfflineStorageModel)
    (process : Process) : Prop where
  live : List.Forall₂ (fun object item => Live process object (.record item)) objects items
  nodup : objects.Nodup
  free : ∀ object ∈ objects, object ∉ process.captured
  realm : process.realm = start.realm
  objects : start.objects <+: process.objects

theorem Merging.passes {start : Process} {object : Nat} {objects : List Nat}
    {item : OfflineStorageModel} {items : List OfflineStorageModel}
    (h : Merging start (object :: objects) (item :: items) process)
    (hpasses : Passes process object process') : Merging start objects items process' where
  live := (List.forall₂_cons.mp h.live).2.imp
    fun _ _ hlive => Live.of_appended hlive hpasses.objects hpasses.realm
  nodup := (List.nodup_cons.mp h.nodup).2
  free := by
    intro object' hobject' hcaptured
    cases hpasses.captured object' hcaptured with
    | inl hcaptured => exact h.free object' (List.mem_cons_of_mem _ hobject') hcaptured
    | inr heq =>
      rw [heq] at hobject'
      exact (List.nodup_cons.mp h.nodup).1 hobject'
  realm := hpasses.realm.trans h.realm
  objects := h.objects.trans hpasses.objects

theorem merge_body_refines (h : Refines process manager) {object : Nat}
    {item : OfflineStorageModel} (hitem : Live process object (.record item))
    (hfree : object ∉ process.captured)
    : Returns
        (do
          let record ← recordFields object
          if record.collectionName = Kind.shot.getRemoteCollectionName then
            mergeRecord .shot object
          else if record.collectionName = Kind.report.getRemoteCollectionName then
            mergeRecord .report object
          else
            pure ⟨⟩ : Program PUnit)
        process fun _ process' =>
          Refines process'
              (if item.collectionName = Kind.shot.getRemoteCollectionName then
                manager.mergeRecord .shot item
              else if item.collectionName = Kind.report.getRemoteCollectionName then
                manager.mergeRecord .report item
              else
                manager)
            ∧ Passes process object process' := by
  apply Returns.bind
  apply hitem.recordFields
  split
  . exact mergeRecord_refines h .shot hitem hfree
  . split
    . exact mergeRecord_refines h .report hitem hfree
    . exact Returns.pure ⟨h, passes_self⟩

theorem Refines.not_captured {α : Type} {value : α → LocalDataObject} {items : List α}
    {objects : List Nat} {new : List RLMObject} (h : Refines process manager)
    (hfound : Found value items process objects new)
    : ∀ object ∈ objects, object ∉ process.captured := by
  intro object hobject hcaptured
  have hlt := h.lt_of_captured hcaptured
  have hle := hfound.isNew object hobject
  omega

theorem checkAndMergeChangeInLocalDatabase_refines (h : Refines process manager)
    : Returns checkAndMergeChangeInLocalDatabase process fun _ process' =>
        Refines process' manager.checkAndMergeChangeInLocalDatabase
          ∧ process'.realm = process.realm ∧ process.objects <+: process'.objects := by
  unfold checkAndMergeChangeInLocalDatabase DataServiceManager.checkAndMergeChangeInLocalDatabase
  rw [h.network]
  apply Returns.bind
  apply Returns.get
  split
  . exact Returns.pure ⟨h, rfl, List.prefix_refl _⟩
  . have hoffline : manager.localDataService.getAllRecords
        = process.realm.records.list process.rank := by
      rw [← h.realm, ← h.rank]
      rfl
    have hrows : ∀ item ∈ process.realm.records.list process.rank,
        process.realm.value (LocalDataObject.record item).row = some (.record item) := by
      intro item hitem
      exact value_record.mpr (Table.mem_rows.mp (Table.mem_list.mp hitem))
    rw [hoffline]
    unfold LocalDataService.getAllRecords
    apply Returns.bind
    apply Returns.bind
    apply Returns.get
    apply accessors_returns hrows
    intro objects new hfound
    have hmerging : Merging process objects (process.realm.records.list process.rank)
        { process with objects := process.objects ++ new } :=
      ⟨hfound.live, hfound.nodup, h.not_captured hfound, rfl, List.prefix_append _ _⟩
    apply (Returns.forM_foldl _ hfound.live.length_eq h.extend hmerging).mono
    . rintro _ process' ⟨hrefines, hmerged⟩
      exact ⟨hrefines, hmerged.realm, hmerged.objects⟩
    . intro object objects item items process' manager' hrefines hmerging
      apply (merge_body_refines hrefines (List.forall₂_cons.mp hmerging.live).1
        (hmerging.free object List.mem_cons_self)).mono
      rintro _ process'' ⟨hrefines', hpasses⟩
      exact ⟨hrefines', hmerging.passes hpasses⟩

end Process
