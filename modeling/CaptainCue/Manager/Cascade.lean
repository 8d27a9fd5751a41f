import CaptainCue.Manager.Convergence

/-!
This module contains what deleting an object leaves behind: which objects and records are gone,
which records are new, and that everything else is as it was.
-/

namespace DataServiceManager

variable {manager : DataServiceManager}

def Fresh (manager : DataServiceManager) : Prop :=
  -- `UUID().uuidString` has not returned the id of a record before.
  ∀ record ∈ manager.records, ∀ n, manager.uuids ≤ n → record.id ≠ uuidString n

def Disjoint (realm : Realm) : Prop :=
  ∀ id, realm.object .report id = none ∨ realm.object .shot id = none

def References (realm : Realm) : Prop :=
  ∀ id shot, realm.object .shot id = some (.shot shot) → realm.object .report shot.reportID ≠ none

def DependsOn (data item : DataServiceObject) : Prop :=
  ∃ report shot, data = .report report ∧ item = .shot shot ∧ shot.reportID = report.id

def change (record : OfflineStorageModel) : String × Option MenthodType × String :=
  (record.collectionName, record.getMenthod, record.objectID)

def deletionOf (item : DataServiceObject) : String × Option MenthodType × String :=
  (item.kind.getRemoteCollectionName, some .delete, item.id)

/-! ### One object -/

theorem Fresh.new (h : Fresh manager)
    : ∀ record ∈ manager.records, record.id ≠ uuidString manager.uuids :=
  fun record hrecord => h record hrecord _ le_rfl

theorem deleteSingle_records_perm (hverdicts : manager.verdicts = []) (hfresh : Fresh manager)
    (data : DataServiceObject)
    : (manager.deleteSingle data).records.Perm
        (manager.newRecord data .delete
          :: manager.records.filter fun record => record.objectID ≠ data.id) := by
  rw [deleteSingle_records]
  apply (List.perm_ext_iff_of_nodup (Table.nodup_rows _) _).mpr
  . intro record
    rw [mem_recordChange_of_verdicts hfresh.new hverdicts, List.mem_cons, List.mem_filter,
      decide_eq_true_eq, or_comm]
  . rw [List.nodup_cons]
    refine ⟨?_, (Table.nodup_rows _).filter _⟩
    intro hmem
    have hid := (List.mem_filter.mp hmem).2
    rw [decide_eq_true_eq] at hid
    exact hid rfl

theorem deleteSingle_uuids (manager : DataServiceManager) (data : DataServiceObject)
    : (manager.deleteSingle data).uuids = manager.uuids + 1 := by
  rw [deleteSingle_eq]
  exact (checkAndMergeChangeInLocalDatabase_frame _).uuids

theorem Fresh.deleteSingle (h : Fresh manager) (hverdicts : manager.verdicts = [])
    (data : DataServiceObject) : Fresh (manager.deleteSingle data) := by
  intro record hrecord n hn
  rw [deleteSingle_uuids] at hn
  have hmem := (deleteSingle_records_perm hverdicts h data).mem_iff.mp hrecord
  cases List.mem_cons.mp hmem with
  | inl hnew =>
    rw [hnew]
    intro heq
    have : manager.uuids = n := uuidString_inj.mp heq
    omega
  | inr hold => exact h record (List.mem_of_mem_filter hold) n (by omega)

/-! ### The objects of a cascade, one after the other -/

theorem deleteAll_records (hverdicts : manager.verdicts = []) (hfresh : Fresh manager)
    {items : List DataServiceObject} (hnodup : (items.map DataServiceObject.id).Nodup)
    : ∃ new : List OfflineStorageModel,
        (items.foldl deleteSingle manager).records.Perm
            (manager.records.filter
                (fun record => record.objectID ∉ items.map DataServiceObject.id) ++ new)
          ∧ new.map change = items.map deletionOf := by
  induction items generalizing manager with
  | nil => exact ⟨[], by simp, rfl⟩
  | cons item items ih =>
    rw [List.map_cons, List.nodup_cons] at hnodup
    obtain ⟨new, hperm, hnew⟩ :=
      ih (deleteSingle_verdicts hverdicts item) (hfresh.deleteSingle hverdicts item) hnodup.2
    refine ⟨manager.newRecord item .delete :: new, ?_, ?_⟩
    . -- the record of `item` outlives the later deletions, which are about other objects
      have hkept := (deleteSingle_records_perm hverdicts hfresh item).filter
        fun record => record.objectID ∉ items.map DataServiceObject.id
      have hitem : decide ((manager.newRecord item .delete).objectID
          ∉ items.map DataServiceObject.id) = true := decide_eq_true hnodup.1
      rw [List.filter_cons, if_pos hitem, List.filter_filter] at hkept
      have hsplit : (fun record : OfflineStorageModel =>
            decide (record.objectID ∉ items.map DataServiceObject.id)
              && decide (record.objectID ≠ item.id))
          = fun record => decide (record.objectID ∉ (item :: items).map DataServiceObject.id) := by
        funext record
        rw [← Bool.decide_and, List.map_cons]
        apply decide_eq_decide.mpr
        rw [List.mem_cons, not_or, and_comm]
      rw [hsplit] at hkept
      exact hperm.trans ((hkept.append_right new).trans List.perm_middle.symm)
    . have hrecord : change (manager.newRecord item .delete) = deletionOf item := by
        unfold change newRecord deletionOf
        rw [OfflineStorageModel.getMenthod_make]
        rfl
      rw [List.map_cons, hnew, hrecord, List.map_cons]

theorem mem_cascade {data item : DataServiceObject}
    : item ∈ manager.cascade data
        ↔
      item = data
        ∨ (DependsOn data item ∧ manager.realm.object item.kind item.id = some item) := by
  unfold DependsOn
  cases data with
  | report report =>
    unfold cascade
    rw [List.mem_append, List.mem_singleton, List.mem_map, or_comm]
    apply or_congr Iff.rfl
    constructor
    . rintro ⟨shot, hshot, rfl⟩
      obtain ⟨hrow, hreport⟩ := RealmDataService.mem_getShotData.mp hshot
      refine ⟨⟨report, shot, rfl, rfl, hreport⟩, ?_⟩
      show (manager.realm.shots.find? shot.id).map DataServiceObject.shot = _
      rw [Table.mem_rows.mp hrow]
      rfl
    . rintro ⟨⟨report', shot, hdata, rfl, hreport⟩, hstored⟩
      cases hdata
      refine ⟨shot, RealmDataService.mem_getShotData.mpr ⟨?_, hreport⟩, rfl⟩
      obtain ⟨shot', hfind, heq⟩ := Option.map_eq_some_iff.mp hstored
      cases heq
      exact Table.mem_rows.mpr hfind
  | shot shot =>
    unfold cascade
    rw [List.mem_singleton]
    constructor
    . intro h
      exact .inl h
    . rintro (h | ⟨⟨_, _, hdata, _⟩, _⟩)
      . exact h
      . cases hdata

theorem cascade_nodup_ids (hdisjoint : Disjoint manager.realm) {data : DataServiceObject}
    (hstored : manager.realm.object data.kind data.id = some data)
    : ((manager.cascade data).map DataServiceObject.id).Nodup := by
  cases data with
  | report report =>
    unfold cascade
    rw [List.map_append, List.map_map, List.map_singleton, List.nodup_append]
    refine ⟨manager.localDataService.nodup_getShotData_ids _, List.nodup_singleton _, ?_⟩
    intro id hid id' hid' heq
    obtain ⟨shot, hshot, rfl⟩ := List.mem_map.mp hid
    rw [List.mem_singleton] at hid'
    have hrow := Table.mem_rows.mp (RealmDataService.mem_getShotData.mp hshot).1
    have hshared : shot.id = report.id := heq.trans hid'
    cases hdisjoint report.id with
    | inl hnone =>
      rw [show manager.realm.object .report report.id = some (.report report) from hstored] at hnone
      cases hnone
    | inr hnone =>
      rw [← hshared, Realm.object_shot, hrow] at hnone
      cases hnone
  | shot shot => exact List.nodup_singleton _

/--
The objects that go are `data` and the shots of a report; the records that go are those about one of
these objects, each of which gets one new record.
-/
theorem deleteObject_exact {data : DataServiceObject} (hverdicts : manager.verdicts = [])
    (hfresh : Fresh manager) (hdisjoint : Disjoint manager.realm)
    (hstored : manager.realm.object data.kind data.id = some data)
    : ∃ removed : List DataServiceObject,
        (removed.map DataServiceObject.id).Nodup
          ∧ (∀ item, item ∈ removed
              ↔
            item = data
              ∨ (DependsOn data item ∧ manager.realm.object item.kind item.id = some item))
          ∧ (∀ item ∈ removed, (manager.deleteObject data).realm.object item.kind item.id = none)
          ∧ (∀ T id, (∀ item ∈ removed, ¬ (item.kind = T ∧ item.id = id)) →
              (manager.deleteObject data).realm.object T id = manager.realm.object T id)
          ∧ (∃ new : List OfflineStorageModel,
              (manager.deleteObject data).records.Perm
                  (manager.records.filter
                      (fun record => record.objectID ∉ removed.map DataServiceObject.id) ++ new)
                ∧ new.map change = removed.map deletionOf)
          ∧ (References manager.realm → References (manager.deleteObject data).realm) := by
  have hobject : ∀ T id, (manager.deleteObject data).realm.object T id
      =
      if ∃ item ∈ manager.cascade data, (T, id) = (item.kind, item.id) then
        none
      else
        manager.realm.object T id := by
    intro T id
    rw [deleteObject_eq]
    exact deleteAll_object hverdicts _ T id
  have hnodup := cascade_nodup_ids hdisjoint hstored
  refine ⟨manager.cascade data, hnodup, fun item => mem_cascade, ?_, ?_, ?_, ?_⟩
  . intro item hitem
    rw [hobject, if_pos ⟨item, hitem, rfl⟩]
  . intro T id hkept
    rw [hobject, if_neg]
    rintro ⟨item, hitem, heq⟩
    exact hkept item hitem (Prod.mk.inj heq.symm)
  . rw [deleteObject_eq]
    exact deleteAll_records hverdicts hfresh hnodup
  . intro hreferences id shot hshot
    rw [hobject] at hshot ⊢
    split at hshot
    . cases hshot
    . next hkept =>
      split
      . -- the report of the shot went, and so the shot is among those that depend on it
        next hgone =>
        obtain ⟨item, hitem, heq⟩ := hgone
        obtain ⟨hkind, hid⟩ := Prod.mk.inj heq
        obtain ⟨-, hshotID⟩ := Realm.kind_of_object hshot
        exfalso
        apply hkept
        refine ⟨.shot shot, mem_cascade.mpr (.inr ⟨?_, ?_⟩), by rw [hshotID]; rfl⟩
        . cases mem_cascade.mp hitem with
          | inl hdata =>
            subst hdata
            cases item with
            | report report => exact ⟨report, shot, rfl, rfl, hid⟩
            | shot _ => cases hkind
          | inr hdepends =>
            obtain ⟨⟨_, _, _, rfl, _⟩, -⟩ := hdepends
            cases hkind
        . rw [hshotID]
          exact hshot
      . exact hreferences id shot hshot

def sampleOutbox : DataServiceManager :=
  { sampleManager with
    localDataService.realm :=
      ((Realm.empty.addModified (.object (.report sampleReport))).addModified
        (.object (.shot sampleShot))).addModified
        (.record (.make (uuidString 0) Kind.shot.getRemoteCollectionName .create "s"))
    uuids := 1
  }

theorem deleteObject_exact_one_shot
    : (sampleOutbox.deleteObject (.report sampleReport)).realm.object .shot "s" = none
        ∧ ∃ new : List OfflineStorageModel,
            (sampleOutbox.deleteObject (.report sampleReport)).records.Perm new
              ∧ ∀ record ∈ new, record.getMenthod = some .delete := by
  have hfresh : Fresh sampleOutbox := by
    intro record hrecord n hn heq
    cases List.mem_singleton.mp hrecord
    have : 0 = n := uuidString_inj.mp heq
    subst this
    cases hn
  have hdisjoint : Disjoint sampleOutbox.realm := by
    intro id
    by_cases hid : id = "r"
    . right
      rw [hid]
      rfl
    . left
      have hobject := Realm.object_addModified .empty (.report sampleReport) .report id
      rw [if_neg (fun h => hid h.2)] at hobject
      exact hobject
  obtain ⟨removed, -, hremoved, hgone, -, ⟨new, hperm, hnew⟩, -⟩ :=
    @deleteObject_exact sampleOutbox (.report sampleReport) rfl hfresh hdisjoint rfl
  have hshot : DataServiceObject.shot sampleShot ∈ removed :=
    (hremoved _).mpr (.inr ⟨⟨sampleReport, sampleShot, rfl, rfl, rfl⟩, rfl⟩)
  refine ⟨hgone _ hshot, new, ?_, ?_⟩
  . have hnone : sampleOutbox.records.filter
        (fun record => record.objectID ∉ removed.map DataServiceObject.id) = [] := by
      apply List.filter_eq_nil_iff.mpr
      intro record hrecord
      cases List.mem_singleton.mp hrecord
      simpa using ⟨_, hshot, rfl⟩
    rw [hnone] at hperm
    exact hperm
  . intro record hrecord
    have hchange : change record ∈ removed.map deletionOf := hnew ▸ List.mem_map_of_mem hrecord
    obtain ⟨item, -, heq⟩ := List.mem_map.mp hchange
    exact (congrArg (fun change => change.2.1) heq).symm

end DataServiceManager
