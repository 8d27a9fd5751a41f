import CaptainCue.Backup.Failures

/-!
This module contains the outcome of a backup: when it replaces the cloud by the device, and when it
loses objects.
-/

namespace Backup

section Quiet

variable {content : BackupContent} {failures : Failures} {backup : Backup}

theorem Quiet.calls (hquiet : backup.Quiet) : backup.calls = backup.finished.map Prod.fst := by
  unfold Backup.calls
  rw [hquiet.pending, hquiet.callbacks]
  rfl

theorem Running.done_iff (hanswered : Answered failures backup) (hquiet : backup.Quiet)
    {callback : BackupCallback} (hmem : callback ∈ backup.calls)
    : backup.Done callback ↔ ¬ failures.write callback.write := by
  rw [hquiet.calls] at hmem
  obtain ⟨⟨callback, err⟩, hcall, rfl⟩ := List.mem_map.mp hmem
  have hwrite := hanswered.write _ (List.mem_append_right _ hcall)
  constructor
  . intro hdone
    exact (hanswered.write _ hdone).mp rfl
  . intro hfails
    have hnone : err = none := hwrite.mpr hfails
    subst hnone
    exact List.mem_append_right _ hcall

theorem Running.triggered_iff (h : Running content backup) (hanswered : Answered failures backup)
    (hquiet : backup.Quiet) (T : Kind)
    : Triggered content backup.deleteCounter T
        ↔ content.cloudData T ≠ []
          ∧ ∀ item ∈ content.cloudData T, ¬ failures.write (BackupCallback.deleted item).write := by
  have hcount := h.countP_isDelete T
  rw [hquiet.calls, List.countP_map, List.countP_eq_length_filter] at hcount
  have hall : backup.deleteCounter T = (content.cloudData T).length
      ↔ ∀ call ∈ backup.finished.filter (BackupCallback.isDelete T ∘ Prod.fst),
          call.snd.isNone = true := by
    rw [h.tallied.deleteCounter, ← hcount, ← List.countP_eq_length, List.countP_filter]
    rfl
  unfold Triggered
  rw [hall, and_comm]
  apply and_congr_right
  intro _
  constructor
  . intro hnone item hitem
    have hmem := h.mem_calls_deleted hitem
    apply (Running.done_iff hanswered hquiet hmem).mp
    rw [hquiet.calls] at hmem
    obtain ⟨⟨callback, err⟩, hcall, heq⟩ := List.mem_map.mp hmem
    dsimp only at heq
    subst heq
    have hfilter : (.deleted item, err)
        ∈ backup.finished.filter (BackupCallback.isDelete T ∘ Prod.fst) := by
      apply List.mem_filter.mpr
      exact ⟨hcall, by simp [BackupCallback.isDelete, content.hcloudKind T item hitem]⟩
    have hisNone := hnone _ hfilter
    have herr : err = none := Option.isNone_iff_eq_none.mp hisNone
    subst herr
    exact List.mem_append_right _ hcall
  . intro hfails call hcall
    obtain ⟨hcall, hdelete⟩ := List.mem_filter.mp hcall
    obtain ⟨callback, err⟩ := call
    cases callback with
    | uploaded item => simp [BackupCallback.isDelete] at hdelete
    | deleted item =>
      have hkind : item.kind = T := by simpa [BackupCallback.isDelete] using hdelete
      have hmem : .deleted item ∈ backup.calls := by
        rw [hquiet.calls]
        exact List.mem_map.mpr ⟨_, hcall, rfl⟩
      have hitem := h.of_deleted hmem
      rw [hkind] at hitem
      have hwrite := hanswered.write _ (List.mem_append_right _ hcall)
      rw [Option.isNone_iff_eq_none]
      exact hwrite.mpr (hfails item hitem)

theorem Running.document_iff (h : Running content backup) (hanswered : Answered failures backup)
    (hquiet : backup.Quiet) {T : Kind} {item : DataServiceObject}
    (hitem : item ∈ content.localData T)
    (hstored : content.db.document T.getRemoteCollectionName item.id ≠ none)
    : backup.remoteDataService.db.document T.getRemoteCollectionName item.id ≠ none
        ↔ failures.write ⟨T.getRemoteCollectionName, item.id, none⟩
          ∨ ((∀ id, content.db.document T.getRemoteCollectionName id ≠ none →
              ¬ failures.write ⟨T.getRemoteCollectionName, id, none⟩)
            ∧ ¬ failures.write ⟨T.getRemoteCollectionName, item.id, some item.getJSONData⟩) := by
  have hkind : item.kind = T := content.hlocalKind T item hitem
  subst hkind
  obtain ⟨old, hold, hid⟩ := (content.hcloud item.kind item.id).mp hstored
  have holdKind : old.kind = item.kind := content.hcloudKind item.kind old hold
  have holdWrite : (BackupCallback.deleted old).write
      = ⟨item.kind.getRemoteCollectionName, item.id, none⟩ := by
    simp [BackupCallback.write, holdKind, hid]
  have hdeletes : (∀ old ∈ content.cloudData item.kind,
        ¬ failures.write (BackupCallback.deleted old).write)
      ↔ ∀ id, content.db.document item.kind.getRemoteCollectionName id ≠ none →
          ¬ failures.write ⟨item.kind.getRemoteCollectionName, id, none⟩ := by
    constructor
    . intro hall id hid
      obtain ⟨old, hold, rfl⟩ := (content.hcloud item.kind id).mp hid
      have := hall old hold
      simpa [BackupCallback.write, content.hcloudKind item.kind old hold] using this
    . intro hall old hold
      have := hall old.id ((content.hcloud item.kind old.id).mpr ⟨old, hold, rfl⟩)
      simpa [BackupCallback.write, content.hcloudKind item.kind old hold] using this
  have htriggered := h.triggered_iff hanswered hquiet item.kind
  rw [hdeletes] at htriggered
  have hne : content.cloudData item.kind ≠ [] := List.ne_nil_of_mem hold
  have hdoneOld := Running.done_iff hanswered hquiet (h.mem_calls_deleted hold)
  rw [holdWrite] at hdoneOld
  by_cases hfails : failures.write ⟨item.kind.getRemoteCollectionName, item.id, none⟩
  . -- the document is never touched
    have hkept := h.stored.kept item.kind item.id (by
      intro callback hdone hkind' hid'
      cases callback with
      | deleted other =>
        have hwrite := (Running.done_iff hanswered hquiet (mem_calls_of_done hdone)).mp hdone
        apply hwrite
        have hkind'' : other.kind = item.kind := hkind'
        have hid'' : other.id = item.id := hid'
        simpa [BackupCallback.write, hkind'', hid''] using hfails
      | uploaded other =>
        have hother := (h.of_uploaded (mem_calls_of_done hdone)).1
        have hkind'' : other.kind = item.kind := hkind'
        rw [hkind'', htriggered] at hother
        exact hother.2 item.id hstored hfails)
    rw [hkept]
    exact ⟨fun _ => .inl hfails, fun _ => hstored⟩
  . have hdeleted := h.stored.deleted old (hdoneOld.mpr hfails)
    rw [holdKind, hid] at hdeleted
    by_cases hall : ∀ id, content.db.document item.kind.getRemoteCollectionName id ≠ none →
        ¬ failures.write ⟨item.kind.getRemoteCollectionName, id, none⟩
    . have hcall := h.mem_calls_uploaded (htriggered.mpr ⟨hne, hall⟩) hitem
      have hdone := Running.done_iff hanswered hquiet hcall
      by_cases hupload : failures.write
          ⟨item.kind.getRemoteCollectionName, item.id, some item.getJSONData⟩
      . -- deleted and not stored again
        have hnone := hdeleted (by
          intro other hother hkind' hid'
          have heq := h.eq_of_uploaded (mem_calls_of_done hother) hcall hkind' hid'
          subst heq
          exact hdone.mp hother hupload)
        simp [hnone, hfails, hupload]
      . have hsome := h.stored.uploaded item (hdone.mpr hupload)
        rw [hsome]
        exact ⟨fun _ => .inr ⟨hall, hupload⟩, fun _ => by simp⟩
    . have hnone := hdeleted (by
        intro other hother hkind' _
        have htrigger := (h.of_uploaded (mem_calls_of_done hother)).1
        rw [hkind', htriggered] at htrigger
        exact hall htrigger.2)
      rw [hnone]
      constructor
      . intro hcontra
        exact absurd rfl hcontra
      . rintro (hcontra | hcontra)
        . exact absurd hcontra hfails
        . exact absurd hcontra.1 hall

end Quiet

/-! ## A backup in which nothing fails -/

section Replaced

variable {dateFormatter : DateFormatter} {localDataService : RealmDataService} {db : Firestore}
  {backup : Backup} {content : BackupContent}

structure Replaced (localDataService : RealmDataService) (db : Firestore) (backup : Backup)
    : Prop where
  cloud : ∀ T id, backup.remoteDataService.db.document T.getRemoteCollectionName id
    = (localDataService.realm.object T id).map DataServiceObject.getJSONData
  log : (∃ T id, db.document T.getRemoteCollectionName id ≠ none
      ∨ localDataService.realm.object T id ≠ none) →
    backup.log.getLast? = some (.progress 1)

theorem Running.getLast_log (h : Running content backup)
    (hfinished : ∀ call ∈ backup.finished, call.snd = none)
    (hlength : backup.finished.length = content.totalTask) (hpos : 0 < content.totalTask)
    : backup.log.getLast? = some (.progress 1) := by
  have hne : (content.totalTask : ℚ) ≠ 0 := by
    exact_mod_cast (by omega : content.totalTask ≠ 0)
  rw [h.tallied.log]
  generalize backup.finished = finished at hfinished hlength
  cases finished using List.reverseRecOn with
  | nil =>
    rw [List.length_nil] at hlength
    omega
  | append_singleton finished call =>
    obtain ⟨callback, err⟩ := call
    have hnone : err = none := hfinished (callback, err) (by simp)
    subst hnone
    have hsucceeded : succeeded finished = finished.length := by
      apply List.countP_eq_length.mpr
      intro call hcall
      rw [hfinished call (List.mem_append_left _ hcall)]
      rfl
    have htotal : 0 + succeeded finished + 1 = content.totalTask := by
      rw [List.length_append, List.length_singleton] at hlength
      omega
    have hone : ((0 + succeeded finished + 1 : Nat) : ℚ) / content.totalTask = 1 := by
      rw [htotal]
      exact div_self hne
    rw [reports_append, ← List.cons_append, List.getLast?_append]
    simp only [reports, hone, List.getLast?_singleton, Option.some_or]

theorem Running.document_of_empty (h : Running content backup) {T : Kind}
    (hnil : content.cloudData T = []) (id : String)
    : backup.remoteDataService.db.document T.getRemoteCollectionName id
        = content.db.document T.getRemoteCollectionName id := by
  -- there was no delete of the type, hence no upload
  apply h.stored.kept T id
  intro callback hcallback hkind _
  have hmem := mem_calls_of_done hcallback
  cases callback with
  | deleted old =>
    have hold := h.of_deleted hmem
    have hkind' : old.kind = T := hkind
    rw [hkind', hnil] at hold
    cases hold
  | uploaded new =>
    obtain ⟨-, hne⟩ := (h.of_uploaded hmem).1
    have hkind' : new.kind = T := hkind
    rw [hkind'] at hne
    exact hne hnil

theorem Running.length_finished (h : Running content backup) (hquiet : backup.Quiet)
    (hupload : ∀ T, Triggered content backup.deleteCounter T ∨
      (content.cloudData T = [] ∧ content.localData T = []))
    : backup.finished.length = content.totalTask := by
  have hplanned (T : Kind) : (planned content backup.deleteCounter T).length
      = (content.cloudData T).length + (content.localData T).length := by
    unfold planned
    cases hupload T with
    | inl htriggered =>
      rw [if_pos htriggered]
      simp [BackupContent.deletes, BackupContent.uploads]
    | inr hnil => simp [BackupContent.deletes, BackupContent.uploads, hnil.1, hnil.2]
  have hperm := h.calls_perm.length_eq
  rw [hquiet.calls, List.length_map, List.length_append, hplanned, hplanned] at hperm
  unfold BackupContent.totalTask
  omega

theorem length_le_totalTask (content : BackupContent) (T : Kind)
    : (content.cloudData T).length + (content.localData T).length ≤ content.totalTask := by
  unfold BackupContent.totalTask
  cases T <;> omega

theorem totalTask_pos
    (hlocal : content.localData = localDataService.getAllDatas)
    (hsome : ∃ T id, content.db.document T.getRemoteCollectionName id ≠ none
      ∨ localDataService.realm.object T id ≠ none)
    : 0 < content.totalTask := by
  obtain ⟨T, id, hid | hobject⟩ := hsome
  . obtain ⟨old, hold, -⟩ := (content.hcloud T id).mp hid
    have hlength := List.length_pos_of_mem hold
    have hle := length_le_totalTask content T
    omega
  . obtain ⟨item, hitem⟩ := Option.ne_none_iff_exists'.mp hobject
    obtain ⟨rfl, rfl⟩ := Realm.kind_of_object hitem
    have hmem : item ∈ content.localData item.kind := by
      rw [hlocal]
      exact RealmDataService.mem_getAllDatas.mpr hitem
    have hlength := List.length_pos_of_mem hmem
    have hle := length_le_totalTask content item.kind
    omega

theorem Running.replaced_iff (h : Running content backup)
    (hlocal : content.localData = localDataService.getAllDatas)
    (hanswered : Answered .none backup) (hquiet : backup.Quiet)
    : Replaced localDataService content.db backup
        ↔ ∀ T, (∃ id, content.db.document T.getRemoteCollectionName id ≠ none)
            ∨ ∀ id, localDataService.realm.object T id = none := by
  have hdone {callback : BackupCallback} (hmem : callback ∈ backup.calls) : backup.Done callback :=
    (Running.done_iff hanswered hquiet hmem).mpr not_false
  have htriggered (T : Kind)
      : Triggered content backup.deleteCounter T ↔ content.cloudData T ≠ [] := by
    rw [h.triggered_iff hanswered hquiet]
    exact and_iff_left fun _ _ => not_false
  constructor
  . intro hreplaced T
    by_contra hnot
    simp only [not_or, not_exists, not_not, not_forall] at hnot
    obtain ⟨hempty, id, hobject⟩ := hnot
    obtain ⟨item, hitem⟩ := Option.ne_none_iff_exists'.mp hobject
    have hnil : content.cloudData T = [] := by
      apply List.eq_nil_iff_forall_not_mem.mpr
      intro old hold
      exact (content.hcloud T old.id).mpr ⟨old, hold, rfl⟩ (hempty old.id)
    have hcloud := hreplaced.cloud T id
    rw [h.document_of_empty hnil, hempty id, hitem] at hcloud
    cases hcloud
  . intro hcond
    have hupload (T : Kind) : content.cloudData T ≠ [] ∨ content.localData T = [] := by
      cases hcond T with
      | inl hsome =>
        obtain ⟨id, hid⟩ := hsome
        obtain ⟨old, hold, -⟩ := (content.hcloud T id).mp hid
        exact .inl (List.ne_nil_of_mem hold)
      | inr hnone =>
        right
        apply List.eq_nil_iff_forall_not_mem.mpr
        intro item hitem
        rw [hlocal, RealmDataService.mem_getAllDatas, hnone] at hitem
        cases hitem
    constructor
    . intro T
      apply h.document hlocal
      . intro item hitem
        exact hdone (h.mem_calls_deleted hitem)
      . intro item hitem
        apply hdone
        apply h.mem_calls_uploaded _ hitem
        rw [htriggered]
        exact (hupload T).resolve_right (List.ne_nil_of_mem hitem)
    . intro hsome
      have hlength : backup.finished.length = content.totalTask := by
        apply h.length_finished hquiet
        intro T
        by_cases hnil : content.cloudData T = []
        . exact .inr ⟨hnil, (hupload T).resolve_left (not_not_intro hnil)⟩
        . exact .inl ((htriggered T).mpr hnil)
      apply h.getLast_log _ hlength (totalTask_pos hlocal hsome)
      intro call hcall
      exact (hanswered.write call (List.mem_append_right _ hcall)).mpr not_false

theorem Waiting.not_quiet (h : Waiting dateFormatter localDataService db backup)
    {failures : Failures} (hanswered : Answered failures backup) (hquiet : backup.Quiet)
    : ∃ T, failures.fetch T := by
  obtain ⟨T, hT⟩ := h.missing
  exact ⟨T, (hanswered.fetch T (hquiet.fetching T)).mp hT⟩

theorem backupData_replaced_iff {events : List Event} (hdb : db.IdsMatch)
    (hsucceeds : ∀ e ∈ events, ¬ e.Fails)
    (hrun : (machine dateFormatter).run (backupData localDataService db) events = some backup)
    (hquiet : backup.Quiet)
    : Replaced localDataService db backup
        ↔ ∀ T, (∃ id, db.document T.getRemoteCollectionName id ≠ none)
            ∨ ∀ id, localDataService.realm.object T id = none := by
  obtain ⟨hinv, hanswered⟩ := backupData_answered hdb (meets_none hsucceeds _) hrun
  cases hinv with
  | inl hwaiting =>
    obtain ⟨T, hT⟩ := hwaiting.not_quiet hanswered hquiet
    cases hT
  | inr hrunning =>
    obtain ⟨content, rfl, hlocal, hrunning⟩ := hrunning
    exact hrunning.replaced_iff hlocal hanswered hquiet

theorem backupData_replaced_iff_one_report
    : ∃ final, (machine sampleFormatter).run (backupData sampleDevice sampleCloud) sampleEvents
          = some final
        ∧ Replaced sampleDevice sampleCloud final := by
  have hrun : ∃ final, (machine sampleFormatter).run (backupData sampleDevice sampleCloud)
        sampleEvents = some final
      ∧ final.Quiet := by
    refine ⟨_, rfl, ?_, rfl, rfl⟩
    intro T
    cases T <;> rfl
  obtain ⟨final, hrun, hquiet⟩ := hrun
  refine ⟨final, hrun, (backupData_replaced_iff sampleCloud_idsMatch ?_ hrun hquiet).mpr ?_⟩
  . simp [sampleEvents, Event.Fails]
  . intro T
    cases T with
    | report => exact .inl ⟨"r", by decide⟩
    | shot => exact .inr fun id => rfl

/--
With an empty cloud no callback ever starts an upload, and no progress is reported.
-/
theorem backupData_empty_cloud
    : ∃ final, (machine sampleFormatter).run (backupData sampleDevice .empty)
          [.fetched .report sampleContext, .fetched .shot sampleContext] = some final
        ∧ final.Quiet ∧ final.log = [.progress 0] ∧ ¬ Replaced sampleDevice .empty final := by
  refine ⟨_, rfl, ⟨?_, rfl, rfl⟩, rfl, ?_⟩
  . intro T
    cases T <;> rfl
  . intro hreplaced
    have hcloud := hreplaced.cloud .report "r"
    cases hcloud

end Replaced

/-! ## A backup in which some operations fail -/

section Lost

variable {dateFormatter : DateFormatter} {localDataService : RealmDataService} {db : Firestore}
  {backup : Backup}

@[simp]
theorem checkLoadingDataDone_localDataService (backup : Backup)
    : backup.checkLoadingDataDone.localDataService = backup.localDataService := by
  unfold checkLoadingDataDone
  split
  . simp [deleteAll_eq, issueAll, onRemote]
  . rfl

theorem step_localDataService (backup : Backup) (e : Event) (backup' : Backup)
    (h : backup.localDataService = localDataService)
    (hstep : (machine dateFormatter).step backup e = some backup')
    : backup'.localDataService = localDataService := by
  unfold machine at hstep
  cases e with
  | fetched T context =>
    simp only [step, getAllDataClosure_eq, closure] at hstep
    split at hstep
    . cases hstep
      rw [checkLoadingDataDone_localDataService]
      exact h
    . cases hstep
  | fetchFailed T err =>
    simp only [step, getAllDataClosure_eq, closure] at hstep
    split at hstep
    . cases hstep
      exact h
    . cases hstep
  | answer i err =>
    obtain ⟨service, -, rfl⟩ := Option.map_eq_some_iff.mp hstep
    exact h
  | completion i =>
    simp only [step] at hstep
    split at hstep
    . cases hstep
      rw [runCallback_eq]
      simp only [issueAll, onRemote, tally_localDataService]
      exact h
    . cases hstep

def NothingLost (localDataService : RealmDataService) (backup : Backup) : Prop :=
  ∀ T id item, localDataService.realm.object T id = some item →
    backup.remoteDataService.db.document T.getRemoteCollectionName id ≠ none
      ∨ ∃ record ∈ backup.localDataService.getAllRecords, record.objectID = id

theorem nothingLost_iff {failures : Failures} {events : List Event} (hdb : db.IdsMatch)
    (hstored : ∀ T id, localDataService.realm.object T id ≠ none →
      db.document T.getRemoteCollectionName id ≠ none)
    (hrecords : localDataService.getAllRecords = [])
    (hmeets : (machine dateFormatter).Meets failures.Allow (backupData localDataService db) events)
    (hrun : (machine dateFormatter).run (backupData localDataService db) events = some backup)
    (hquiet : backup.Quiet)
    : NothingLost localDataService backup
        ↔ (∃ T, failures.fetch T) ∨ ∀ T id item, localDataService.realm.object T id = some item →
            failures.write ⟨T.getRemoteCollectionName, id, none⟩
              ∨ ((∀ id, db.document T.getRemoteCollectionName id ≠ none →
                  ¬ failures.write ⟨T.getRemoteCollectionName, id, none⟩)
                ∧ ¬ failures.write ⟨T.getRemoteCollectionName, id, some item.getJSONData⟩) := by
  have hservice : backup.localDataService = localDataService :=
    Machine.invariant step_localDataService rfl hrun
  have hlost : NothingLost localDataService backup
      ↔ ∀ T id item, localDataService.realm.object T id = some item →
          backup.remoteDataService.db.document T.getRemoteCollectionName id ≠ none := by
    unfold NothingLost
    rw [hservice, hrecords]
    simp
  obtain ⟨hinv, hanswered⟩ := backupData_answered hdb hmeets hrun
  rw [hlost]
  cases hinv with
  | inl hwaiting =>
    have hfails := hwaiting.not_quiet hanswered hquiet
    refine ⟨fun _ => .inl hfails, ?_⟩
    intro _ T id item hobject
    rw [hwaiting.service]
    apply hstored
    rw [hobject]
    simp
  | inr hrunning =>
    obtain ⟨content, rfl, hlocal, hrunning⟩ := hrunning
    have hfetch : ¬ ∃ T, failures.fetch T := by
      rintro ⟨T, hT⟩
      have hnone := (hanswered.fetch T (hquiet.fetching T)).mpr hT
      rw [hrunning.cloudData] at hnone
      cases hnone
    rw [or_iff_right hfetch]
    apply forall_congr'
    intro T
    apply forall_congr'
    intro id
    apply forall_congr'
    intro item
    apply imp_congr_right
    intro hobject
    obtain ⟨rfl, rfl⟩ := Realm.kind_of_object hobject
    apply hrunning.document_iff hanswered hquiet
    . rw [hlocal]
      exact RealmDataService.mem_getAllDatas.mpr hobject
    . apply hstored
      rw [hobject]
      simp

theorem nothingLost_iff_delete_fails
    : ∃ final, (machine sampleFormatter).run (backupData sampleDevice sampleCloud)
          [.fetched .report sampleContext, .fetched .shot sampleContext, .answer 0 (some ⟨"", 0⟩),
            .completion 0] = some final
        ∧ NothingLost sampleDevice final := by
  have hrun : ∃ final, (machine sampleFormatter).run (backupData sampleDevice sampleCloud)
        [.fetched .report sampleContext, .fetched .shot sampleContext, .answer 0 (some ⟨"", 0⟩),
          .completion 0] = some final
      ∧ final.Quiet := by
    refine ⟨_, rfl, ?_, rfl, rfl⟩
    intro T
    cases T <;> rfl
  obtain ⟨final, hrun, hquiet⟩ := hrun
  let failures : Failures := ⟨fun _ => False, fun w => w.data = none⟩
  have hmeets : (machine sampleFormatter).Meets failures.Allow
      (backupData sampleDevice sampleCloud)
      [.fetched .report sampleContext, .fetched .shot sampleContext, .answer 0 (some ⟨"", 0⟩),
        .completion 0] := by
    refine (Machine.meets_cons rfl).mpr ⟨not_false, ?_⟩
    refine (Machine.meets_cons rfl).mpr ⟨not_false, ?_⟩
    refine (Machine.meets_cons rfl).mpr ⟨?_, ?_⟩
    . intro call hcall
      cases hcall
      simp [failures]
    . exact (Machine.meets_cons rfl).mpr ⟨trivial, trivial⟩
  have hstored : ∀ T id, sampleDevice.realm.object T id ≠ none →
      sampleCloud.document T.getRemoteCollectionName id ≠ none := by
    intro T id hobject
    cases T with
    | shot => exact absurd rfl hobject
    | report =>
      have hid : id = "r" := by
        by_contra hid
        apply hobject
        simp [sampleDevice, sampleReport, Realm.addModified, Realm.empty, Table.find?_upsert, hid]
      subst hid
      decide
  refine ⟨final, hrun,
    (nothingLost_iff sampleCloud_idsMatch hstored rfl hmeets hrun hquiet).mpr (.inr ?_)⟩
  intro T id item _
  exact .inl rfl

theorem backupData_loses_report
    : ∃ final, (machine sampleFormatter).run (backupData sampleDevice sampleCloud)
          [.fetched .report sampleContext, .fetched .shot sampleContext, .answer 0 none,
            .completion 0, .answer 0 (some ⟨"", 0⟩), .completion 0] = some final
        ∧ final.Quiet ∧ ¬ NothingLost sampleDevice final := by
  refine ⟨_, rfl, ⟨?_, rfl, rfl⟩, ?_⟩
  . intro T
    cases T <;> rfl
  . intro hlost
    cases hlost .report "r" sampleReport rfl with
    | inl hcloud => exact hcloud rfl
    | inr hrecord =>
      obtain ⟨record, hrecord, -⟩ := hrecord
      cases hrecord

end Lost

end Backup
