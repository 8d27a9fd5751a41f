import CaptainCue.Backup.Content

/-!
This module contains the invariant of a backup whose fetches have succeeded: which remote calls
have been made, how far each of them has got, and what they have done to the cloud.
-/

namespace BackupCallback

def item : BackupCallback → DataServiceObject
  | deleted item => item
  | uploaded item => item

def write : BackupCallback → RemoteWrite
  | deleted item => ⟨item.kind.getRemoteCollectionName, item.id, none⟩
  | uploaded item => ⟨item.kind.getRemoteCollectionName, item.id, some item.getJSONData⟩

def isDelete (T : Kind) : BackupCallback → Bool
  | deleted item => item.kind = T
  | uploaded _ => false

theorem deleted_injective : Function.Injective deleted := by
  intro item item' h
  cases h
  rfl

theorem uploaded_injective : Function.Injective uploaded := by
  intro item item' h
  cases h
  rfl

theorem kind_of_isDelete {callback : BackupCallback} {T : Kind} (h : callback.isDelete T = true)
    : callback.item.kind = T := by
  cases callback with
  | deleted item =>
    have hkind : item.kind = T := by simpa [isDelete] using h
    exact hkind
  | uploaded item => cases h

@[simp]
theorem write_collection (callback : BackupCallback)
    : callback.write.collection = callback.item.kind.getRemoteCollectionName := by
  cases callback <;> rfl

@[simp]
theorem write_document (callback : BackupCallback)
    : callback.write.document = callback.item.id := by
  cases callback <;> rfl

theorem document_write (db : Firestore) (callback : BackupCallback) (T : Kind) (id : String)
    : (db.write callback.write).document T.getRemoteCollectionName id
        =
      if T = callback.item.kind ∧ id = callback.item.id then
        callback.write.data
      else
        db.document T.getRemoteCollectionName id := by
  rw [Firestore.document_write, write_collection, write_document]
  simp only [Kind.getRemoteCollectionName_inj]

end BackupCallback

namespace BackupContent

def deletes (content : BackupContent) (T : Kind) : List BackupCallback :=
  (content.cloudData T).map .deleted

def uploads (content : BackupContent) (T : Kind) : List BackupCallback :=
  (content.localData T).map .uploaded

def totalTask (content : BackupContent) : Nat :=
  (content.cloudData .report).length + (content.cloudData .shot).length
    + (content.localData .report).length + (content.localData .shot).length

variable {content : BackupContent} {T : Kind} {callback : BackupCallback}

theorem kind_of_mem_deletes (h : callback ∈ content.deletes T) : callback.item.kind = T := by
  obtain ⟨item, hitem, rfl⟩ := List.mem_map.mp h
  exact content.hcloudKind T item hitem

theorem kind_of_mem_uploads (h : callback ∈ content.uploads T) : callback.item.kind = T := by
  obtain ⟨item, hitem, rfl⟩ := List.mem_map.mp h
  exact content.hlocalKind T item hitem

theorem countP_isDelete_deletes (content : BackupContent) (T U : Kind)
    : (content.deletes U).countP (BackupCallback.isDelete T)
        = if U = T then (content.cloudData U).length else 0 := by
  unfold deletes
  rw [List.countP_map]
  split
  . next h =>
    apply List.countP_eq_length.mpr
    intro item hitem
    simp [BackupCallback.isDelete, content.hcloudKind U item hitem, h]
  . next h =>
    apply List.countP_eq_zero.mpr
    intro item hitem
    simp [BackupCallback.isDelete, content.hcloudKind U item hitem, h]

theorem countP_isDelete_uploads (content : BackupContent) (T U : Kind)
    : (content.uploads U).countP (BackupCallback.isDelete T) = 0 := by
  apply List.countP_eq_zero.mpr
  intro callback hcallback
  obtain ⟨item, -, rfl⟩ := List.mem_map.mp hcallback
  simp [BackupCallback.isDelete]

end BackupContent

namespace Backup

/-! ## The remote calls of a backup -/

def calls (backup : Backup) : List BackupCallback :=
  backup.remoteDataService.pending.map Prod.snd
    ++ backup.remoteDataService.callbacks.map Prod.fst
    ++ backup.finished.map Prod.fst

def Done (backup : Backup) (callback : BackupCallback) : Prop :=
  (callback, none) ∈ backup.remoteDataService.callbacks ++ backup.finished

def issueAll (backup : Backup) (callbacks : List BackupCallback) : Backup :=
  backup.onRemote fun service =>
    { service with
      pending := service.pending ++ callbacks.map fun callback => (callback.write, callback)
      issued := service.issued ++ callbacks.map fun callback => (callback.write, callback)
    }

theorem issueAll_cons (backup : Backup) (callback : BackupCallback)
    (callbacks : List BackupCallback)
    : (backup.issueAll [callback]).issueAll callbacks = backup.issueAll (callback :: callbacks) := by
  simp [issueAll, onRemote]

@[simp]
theorem issueAll_nil (backup : Backup) : backup.issueAll [] = backup := by
  simp [issueAll, onRemote]

theorem deleteAll_eq (backup : Backup) (items : List DataServiceObject)
    : backup.deleteAll items = backup.issueAll (items.map .deleted) := by
  unfold deleteAll
  induction items generalizing backup with
  | nil => simp
  | cons item items ih =>
    rw [List.foldl_cons, ih, List.map_cons, ← issueAll_cons]
    rfl

theorem addAll_eq (backup : Backup) (items : List DataServiceObject)
    : backup.addAll items = backup.issueAll (items.map .uploaded) := by
  unfold addAll
  induction items generalizing backup with
  | nil => simp
  | cons item items ih =>
    rw [List.foldl_cons, ih, List.map_cons, ← issueAll_cons]
    rfl

theorem calls_issueAll (backup : Backup) (callbacks : List BackupCallback)
    (callback : BackupCallback)
    : (backup.issueAll callbacks).calls.count callback
        = backup.calls.count callback + callbacks.count callback := by
  simp only [calls, issueAll, onRemote, List.map_append, List.map_map, List.count_append]
  have : (Prod.snd ∘ fun callback : BackupCallback => (callback.write, callback)) = id := rfl
  rw [this, List.map_id]
  omega

def tally (backup : Backup) : BackupCallback → Option NSError → Backup
  | _, some err => backup.completion (.error err)
  | .uploaded _, none => backup.advance
  | .deleted item, none =>
    { backup.advance with
      deleteCounter :=
        Function.update backup.deleteCounter item.kind (backup.deleteCounter item.kind + 1)
    }

def started (backup : Backup) : BackupCallback → Option NSError → List BackupCallback
  | .deleted item, none =>
    if backup.deleteCounter item.kind + 1 = ((backup.cloudData item.kind).getD []).length then
      (backup.localData item.kind).map .uploaded
    else
      []
  | _, _ => []

theorem runCallback_eq (backup : Backup) (callback : BackupCallback) (err : Option NSError)
    : backup.runCallback callback err
        = (backup.tally callback err).issueAll (backup.started callback err) := by
  cases err with
  | some err => cases callback <;> simp [runCallback, tally, started]
  | none =>
    cases callback with
    | uploaded item => simp [runCallback, tally, started]
    | deleted item =>
      simp only [runCallback, tally, started, advance, completion, Function.update_self]
      split
      . rw [addAll_eq]
      . rw [issueAll_nil]

section Tally

variable (backup : Backup) (callback : BackupCallback) (err : Option NSError)

@[simp]
theorem tally_remoteDataService
    : (backup.tally callback err).remoteDataService = backup.remoteDataService := by
  cases callback <;> cases err <;> rfl

@[simp]
theorem tally_finished : (backup.tally callback err).finished = backup.finished := by
  cases callback <;> cases err <;> rfl

@[simp]
theorem tally_localData : (backup.tally callback err).localData = backup.localData := by
  cases callback <;> cases err <;> rfl

@[simp]
theorem tally_localDataService
    : (backup.tally callback err).localDataService = backup.localDataService := by
  cases callback <;> cases err <;> rfl

@[simp]
theorem tally_cloudData : (backup.tally callback err).cloudData = backup.cloudData := by
  cases callback <;> cases err <;> rfl

theorem tally_deleteCounter (T : Kind)
    : (backup.tally callback err).deleteCounter T
        = backup.deleteCounter T + if err = none ∧ callback.isDelete T then 1 else 0 := by
  cases err with
  | some err => cases callback <;> simp [tally, completion]
  | none =>
    cases callback with
    | uploaded item => simp [tally, advance, completion, BackupCallback.isDelete]
    | deleted item =>
      by_cases hkind : T = item.kind
      . subst hkind
        simp [tally, BackupCallback.isDelete]
      . have hkind' : ¬ item.kind = T := fun h => hkind h.symm
        simp [tally, advance, completion, BackupCallback.isDelete, hkind, hkind']

@[simp]
theorem tally_fetching : (backup.tally callback err).fetching = backup.fetching := by
  cases callback <;> cases err <;> rfl

end Tally

/-! ## The invariant -/

def succeeded (finished : List (BackupCallback × Option NSError)) : Nat :=
  finished.countP fun call => call.snd.isNone

def deleted (T : Kind) (finished : List (BackupCallback × Option NSError)) : Nat :=
  finished.countP fun call => call.snd.isNone && call.fst.isDelete T

def reports (totalTask : Nat) (k : Nat)
    : List (BackupCallback × Option NSError) → List BackupReport
  | [] => []
  | (_, none) :: finished =>
    .progress (((k + 1 : Nat) : ℚ) / totalTask) :: reports totalTask (k + 1) finished
  | (_, some err) :: finished => .error err :: reports totalTask k finished

theorem reports_append (totalTask k : Nat)
    (finished finished' : List (BackupCallback × Option NSError))
    : reports totalTask k (finished ++ finished')
        = reports totalTask k finished
          ++ reports totalTask (k + succeeded finished) finished' := by
  induction finished generalizing k with
  | nil => rfl
  | cons call finished ih =>
    obtain ⟨callback, err⟩ := call
    cases err with
    | some err => simp [reports, ih, succeeded]
    | none =>
      have harith : k + 1 + succeeded finished = k + (succeeded finished + 1) := by omega
      simp [reports, ih, succeeded] at harith ⊢
      rw [harith]

def Triggered (content : BackupContent) (deleteCounter : Kind → Nat) (T : Kind) : Prop :=
  -- All deletes of the type have succeeded, and there was one.
  deleteCounter T = (content.cloudData T).length ∧ content.cloudData T ≠ []

instance (content : BackupContent) (deleteCounter : Kind → Nat) (T : Kind)
    : Decidable (Triggered content deleteCounter T) :=
  inferInstanceAs (Decidable (_ ∧ _))

def planned (content : BackupContent) (deleteCounter : Kind → Nat) (T : Kind)
    : List BackupCallback :=
  content.deletes T ++ if Triggered content deleteCounter T then content.uploads T else []

structure Tallied (content : BackupContent) (backup : Backup) : Prop where
  totalTask : backup.totalTask = content.totalTask
  currentProgress : backup.currentProgress = succeeded backup.finished
  deleteCounter : ∀ T, backup.deleteCounter T = deleted T backup.finished
  log : backup.log = .progress 0 :: reports content.totalTask 0 backup.finished

structure Stored (content : BackupContent) (backup : Backup) : Prop where
  uploaded : ∀ item, backup.Done (.uploaded item) →
    backup.remoteDataService.db.document item.kind.getRemoteCollectionName item.id
      = some item.getJSONData
  deleted : ∀ item, backup.Done (.deleted item) →
    (∀ item', backup.Done (.uploaded item') → item'.kind = item.kind → item'.id ≠ item.id) →
      backup.remoteDataService.db.document item.kind.getRemoteCollectionName item.id = none
  kept : ∀ T id, (∀ callback, backup.Done callback →
      callback.item.kind = T → callback.item.id ≠ id) →
    backup.remoteDataService.db.document T.getRemoteCollectionName id
      = content.db.document T.getRemoteCollectionName id

structure Running (content : BackupContent) (backup : Backup) : Prop where
  localData : backup.localData = content.localData
  cloudData : ∀ T, backup.cloudData T = some (content.cloudData T)
  fetching : ∀ T, backup.fetching T = false
  pending : ∀ call ∈ backup.remoteDataService.pending, call.fst = call.snd.write
  calls : ∀ callback,
    backup.calls.count callback = (planned content backup.deleteCounter callback.item.kind).count callback
  tallied : Tallied content backup
  stored : Stored content backup

variable {content : BackupContent} {backup : Backup}

theorem planned_count_of_kind_ne {callback : BackupCallback} {T : Kind}
    (h : callback.item.kind ≠ T) : (planned content backup.deleteCounter T).count callback = 0 := by
  apply List.count_eq_zero.mpr
  intro hmem
  unfold planned at hmem
  rw [List.mem_append] at hmem
  cases hmem with
  | inl hmem => exact h (BackupContent.kind_of_mem_deletes hmem)
  | inr hmem =>
    split at hmem
    . exact h (BackupContent.kind_of_mem_uploads hmem)
    . cases hmem

theorem Running.calls_perm (h : Running content backup)
    : backup.calls.Perm
        (planned content backup.deleteCounter .shot
          ++ planned content backup.deleteCounter .report) := by
  apply List.perm_iff_count.mpr
  intro callback
  rw [h.calls, List.count_append]
  cases hkind : callback.item.kind with
  | report =>
    have hshot : (planned content backup.deleteCounter .shot).count callback = 0 := by
      apply planned_count_of_kind_ne
      simp [hkind]
    omega
  | shot =>
    have hreport : (planned content backup.deleteCounter .report).count callback = 0 := by
      apply planned_count_of_kind_ne
      simp [hkind]
    omega

theorem Running.mem_calls (h : Running content backup) {callback : BackupCallback}
    (hmem : callback ∈ backup.calls)
    : callback ∈ planned content backup.deleteCounter callback.item.kind := by
  apply List.count_pos_iff.mp
  rw [← h.calls]
  exact List.count_pos_iff.mpr hmem

theorem Running.countP_isDelete (h : Running content backup) (T : Kind)
    : backup.calls.countP (BackupCallback.isDelete T) = (content.cloudData T).length := by
  have hplanned (U : Kind) : (planned content backup.deleteCounter U).countP (BackupCallback.isDelete T)
      = if U = T then (content.cloudData U).length else 0 := by
    unfold planned
    rw [List.countP_append, BackupContent.countP_isDelete_deletes]
    split
    . split
      . rw [BackupContent.countP_isDelete_uploads, Nat.add_zero]
      . rfl
    . split
      . rw [BackupContent.countP_isDelete_uploads]
      . rfl
  rw [h.calls_perm.countP_eq, List.countP_append, hplanned, hplanned]
  cases T <;> simp

theorem deleted_le (T : Kind) (finished : List (BackupCallback × Option NSError))
    : deleted T finished ≤ (finished.map Prod.fst).countP (BackupCallback.isDelete T) := by
  unfold deleted
  rw [List.countP_map]
  apply List.countP_mono_left
  intro call hcall hdelete
  simp at hdelete
  exact hdelete.2

/--
Uploads of a type never overlap deletes of the type.
-/
theorem Running.not_isDelete (h : Running content backup) {T : Kind}
    (htriggered : Triggered content backup.deleteCounter T) {callback : BackupCallback}
    (hmem : callback ∈ backup.remoteDataService.pending.map Prod.snd
      ++ backup.remoteDataService.callbacks.map Prod.fst)
    : callback.isDelete T = false := by
  have hcount := h.countP_isDelete T
  unfold Backup.calls at hcount
  rw [List.countP_append] at hcount
  have hfinished := deleted_le T backup.finished
  rw [← h.tallied.deleteCounter, htriggered.1] at hfinished
  have hzero : (backup.remoteDataService.pending.map Prod.snd
      ++ backup.remoteDataService.callbacks.map Prod.fst).countP
        (BackupCallback.isDelete T) = 0 := by omega
  have hnot := List.countP_eq_zero.mp hzero callback hmem
  simpa using hnot

theorem Running.of_uploaded (h : Running content backup) {item : DataServiceObject}
    (hmem : .uploaded item ∈ backup.calls)
    : Triggered content backup.deleteCounter item.kind ∧ item ∈ content.localData item.kind := by
  have hplanned := h.mem_calls hmem
  unfold planned at hplanned
  rw [List.mem_append] at hplanned
  cases hplanned with
  | inl hdelete =>
    obtain ⟨item', -, heq⟩ := List.mem_map.mp hdelete
    cases heq
  | inr hupload =>
    split at hupload
    . next htriggered =>
      refine ⟨htriggered, ?_⟩
      exact (List.mem_map_of_injective BackupCallback.uploaded_injective).mp hupload
    . cases hupload

theorem Running.eq_of_uploaded (h : Running content backup) {item item' : DataServiceObject}
    (hmem : .uploaded item ∈ backup.calls) (hmem' : .uploaded item' ∈ backup.calls)
    (hkind : item.kind = item'.kind) (hid : item.id = item'.id) : item = item' := by
  have hlocal := (h.of_uploaded hmem).2
  have hlocal' := (h.of_uploaded hmem').2
  rw [← hkind] at hlocal'
  exact List.inj_on_of_nodup_map (content.hlocalIds item.kind) hlocal hlocal' hid

theorem Running.of_deleted (h : Running content backup) {item : DataServiceObject}
    (hmem : .deleted item ∈ backup.calls) : item ∈ content.cloudData item.kind := by
  have hplanned := h.mem_calls hmem
  unfold planned at hplanned
  rw [List.mem_append] at hplanned
  cases hplanned with
  | inl hdelete => exact (List.mem_map_of_injective BackupCallback.deleted_injective).mp hdelete
  | inr hupload =>
    split at hupload
    . obtain ⟨item', -, heq⟩ := List.mem_map.mp hupload
      cases heq
    . cases hupload

theorem mem_calls_of_done {callback : BackupCallback} (h : backup.Done callback)
    : callback ∈ backup.calls := by
  unfold calls
  rw [List.append_assoc, ← List.map_append]
  apply List.mem_append_right
  exact List.mem_map.mpr ⟨_, h, rfl⟩

/-! ## The answer of the server -/

theorem Stored.congr {backup' : Backup} (h : Stored content backup)
    (hdb : backup'.remoteDataService.db = backup.remoteDataService.db)
    (hdone : ∀ callback, backup'.Done callback ↔ backup.Done callback)
    : Stored content backup' := by
  constructor
  . intro item hitem
    rw [hdb]
    exact h.uploaded item ((hdone _).mp hitem)
  . intro item hitem hnot
    rw [hdb]
    apply h.deleted item ((hdone _).mp hitem)
    intro item' hitem'
    exact hnot item' ((hdone _).mpr hitem')
  . intro T id hnot
    rw [hdb]
    apply h.kept
    intro callback' hcallback'
    exact hnot callback' ((hdone _).mpr hcallback')

section Answer

variable {i : Nat} {callback : BackupCallback} {err : Option NSError}
  {service : FirebaseDataService BackupCallback}

theorem done_answer (hcallbacks : service.callbacks
      = backup.remoteDataService.callbacks ++ [(callback, err)]) (callback' : BackupCallback)
    : Done { backup with remoteDataService := service } callback'
        ↔ backup.Done callback' ∨ (err = none ∧ callback' = callback) := by
  simp only [Done, hcallbacks, List.mem_append, List.mem_singleton, Prod.mk.injEq]
  constructor
  . rintro ((h | ⟨rfl, rfl⟩) | h)
    . exact .inl (.inl h)
    . exact .inr ⟨rfl, rfl⟩
    . exact .inl (.inr h)
  . rintro ((h | h) | ⟨rfl, rfl⟩)
    . exact .inl (.inl h)
    . exact .inr h
    . exact .inl (.inr ⟨rfl, rfl⟩)

theorem Running.stored_answer (h : Running content backup)
    (hpending : backup.remoteDataService.pending[i]? = some (callback.write, callback))
    (hcallbacks : service.callbacks = backup.remoteDataService.callbacks ++ [(callback, err)])
    (hdb : service.db
      = if err = none then backup.remoteDataService.db.write callback.write
        else backup.remoteDataService.db)
    : Stored content { backup with remoteDataService := service } := by
  have hmem : callback ∈ backup.remoteDataService.pending.map Prod.snd :=
    List.mem_map.mpr ⟨_, List.mem_of_getElem? hpending, rfl⟩
  have hcalls : callback ∈ backup.calls := by
    unfold Backup.calls
    rw [List.append_assoc]
    exact List.mem_append_left _ hmem
  cases err with
  | some err =>
    have hdone (callback' : BackupCallback)
        : Done { backup with remoteDataService := service } callback'
            ↔ backup.Done callback' := by
      rw [done_answer hcallbacks]
      simp
    rw [if_neg (by simp)] at hdb
    exact h.stored.congr hdb hdone
  | none =>
    have hdone (callback' : BackupCallback)
        : Done { backup with remoteDataService := service } callback'
            ↔ backup.Done callback' ∨ callback' = callback := by
      rw [done_answer hcallbacks]
      simp
    rw [if_pos rfl] at hdb
    constructor
    . intro item hitem
      dsimp only
      rw [hdb, BackupCallback.document_write]
      cases (hdone _).mp hitem with
      | inl hold =>
        split
        . next hkey =>
          cases callback with
          | deleted item' =>
            have htriggered := (h.of_uploaded (mem_calls_of_done hold)).1
            have hdelete := h.not_isDelete htriggered (List.mem_append_left _ hmem)
            have hkind : item.kind = item'.kind := hkey.1
            simp [BackupCallback.isDelete, hkind] at hdelete
          | uploaded item' =>
            rw [h.eq_of_uploaded (mem_calls_of_done hold) hcalls hkey.1 hkey.2]
            rfl
        . exact h.stored.uploaded item hold
      | inr hnew =>
        subst hnew
        rw [if_pos ⟨rfl, rfl⟩]
        rfl
    . intro item hitem hnot
      dsimp only
      rw [hdb, BackupCallback.document_write]
      split
      . next hkey =>
        cases callback with
        | deleted item' => rfl
        | uploaded item' =>
          exact absurd hkey.2.symm (hnot item' ((hdone _).mpr (.inr rfl)) hkey.1.symm)
      . next hkey =>
        cases (hdone _).mp hitem with
        | inl hold =>
          apply h.stored.deleted item hold
          intro item' hitem'
          exact hnot item' ((hdone _).mpr (.inl hitem'))
        | inr hnew =>
          subst hnew
          exact absurd ⟨rfl, rfl⟩ hkey
    . intro T id hnot
      dsimp only
      rw [hdb, BackupCallback.document_write, if_neg]
      . apply h.stored.kept
        intro callback' hcallback'
        exact hnot callback' ((hdone _).mpr (.inl hcallback'))
      . rintro ⟨rfl, rfl⟩
        exact hnot callback ((hdone _).mpr (.inr rfl)) rfl rfl

theorem Running.answer (h : Running content backup)
    (hanswer : backup.remoteDataService.answer i err = some service)
    : Running content { backup with remoteDataService := service } := by
  obtain ⟨w, callback, hpending, rfl⟩ := FirebaseDataService.answer_eq_some.mp hanswer
  have hwrite : w = callback.write := h.pending _ (List.mem_of_getElem? hpending)
  subst hwrite
  refine ⟨h.localData, h.cloudData, h.fetching, ?_, ?_, ?_, ?_⟩
  . intro call hcall
    exact h.pending call (List.mem_of_mem_eraseIdx hcall)
  . intro callback'
    have hcount := ((FirebaseDataService.perm_eraseIdx hpending).map Prod.snd).count_eq callback'
    have hcalls := h.calls callback'
    simp only [Backup.calls, List.map_append, List.count_append, List.map_cons, List.map_nil,
      List.count_cons, List.count_nil] at hcount hcalls ⊢
    rw [← hcalls, hcount]
    omega
  . exact ⟨h.tallied.totalTask, h.tallied.currentProgress, h.tallied.deleteCounter,
      h.tallied.log⟩
  . apply h.stored_answer hpending
    . rfl
    . rfl

end Answer

/-! ## A callback -/

def take (backup : Backup) (i : Nat) (callback : BackupCallback) (err : Option NSError) : Backup :=
  { backup with
    remoteDataService.callbacks := backup.remoteDataService.callbacks.eraseIdx i
    finished := backup.finished ++ [(callback, err)]
  }

section Callback

variable {i : Nat} {callback : BackupCallback} {err : Option NSError}

theorem Tallied.tally (h : Tallied content backup)
    : Tallied content ((backup.take i callback err).tally callback err) := by
  constructor
  . rw [← h.totalTask]
    cases callback <;> cases err <;> rfl
  . have hprogress := h.currentProgress
    cases err with
    | some err =>
      simp [Backup.tally, take, completion, succeeded] at hprogress ⊢
      omega
    | none =>
      cases callback <;>
        simp [Backup.tally, take, advance, completion, succeeded] at hprogress ⊢ <;>
        omega
  . intro T
    have hcounter := h.deleteCounter T
    cases err with
    | some err =>
      simp [Backup.tally, take, completion, Backup.deleted] at hcounter ⊢
      omega
    | none =>
      cases callback with
      | uploaded item =>
        simp [Backup.tally, take, advance, completion, Backup.deleted,
          BackupCallback.isDelete] at hcounter ⊢
        omega
      | deleted item =>
        by_cases hkind : item.kind = T
        . subst hkind
          simp [Backup.tally, take, advance, completion, Backup.deleted,
            BackupCallback.isDelete] at hcounter ⊢
          omega
        . have hkind' : ¬ T = item.kind := fun h => hkind h.symm
          simp [Backup.tally, take, advance, completion, Backup.deleted,
            BackupCallback.isDelete, hkind, hkind'] at hcounter ⊢
          omega
  . rw [tally_finished]
    simp only [take]
    rw [reports_append, Nat.zero_add, ← List.cons_append, ← h.log]
    cases err with
    | some err => rfl
    | none =>
      rw [← h.currentProgress, ← h.totalTask]
      cases callback <;> rfl

theorem done_take (hcallback : backup.remoteDataService.callbacks[i]? = some (callback, err))
    (callback' : BackupCallback)
    : (backup.take i callback err).Done callback' ↔ backup.Done callback' := by
  have hperm := FirebaseDataService.perm_eraseIdx hcallback
  unfold Done take
  simp only [List.mem_append, hperm.mem_iff, List.mem_cons, List.not_mem_nil, or_false]
  constructor
  . rintro (h | h | h)
    . exact .inl (.inr h)
    . exact .inr h
    . exact .inl (.inl h)
  . rintro ((h | h) | h)
    . exact .inr (.inr h)
    . exact .inl h
    . exact .inr (.inl h)

theorem Running.started_eq (h : Running content backup)
    : (backup.take i callback err).started callback err
        =
      if err = none ∧ callback.isDelete callback.item.kind
          ∧ backup.deleteCounter callback.item.kind + 1
            = (content.cloudData callback.item.kind).length then
        content.uploads callback.item.kind
      else
        [] := by
  cases err with
  | some err => cases callback <;> simp [started]
  | none =>
    cases callback with
    | uploaded item => simp [started, BackupCallback.isDelete]
    | deleted item =>
      simp [started, take, BackupCallback.isDelete, BackupCallback.item, h.cloudData, h.localData,
        BackupContent.uploads]

theorem calls_take (hcallback : backup.remoteDataService.callbacks[i]? = some (callback, err))
    (callback' : BackupCallback)
    : (backup.take i callback err).calls.count callback' = backup.calls.count callback' := by
  have hcount := ((FirebaseDataService.perm_eraseIdx hcallback).map Prod.fst).count_eq callback'
  simp only [Backup.calls, take, List.map_append, List.count_append, List.map_cons, List.map_nil,
    List.count_cons, List.count_nil] at hcount ⊢
  omega

theorem Running.planned_tally (h : Running content backup)
    (hcallback : backup.remoteDataService.callbacks[i]? = some (callback, err))
    (callback' : BackupCallback)
    : (planned content ((backup.take i callback err).tally callback err).deleteCounter
          callback'.item.kind).count callback'
        = (planned content backup.deleteCounter callback'.item.kind).count callback'
          + ((backup.take i callback err).started callback err).count callback' := by
  have hmem : callback ∈ backup.remoteDataService.callbacks.map Prod.fst :=
    List.mem_map.mpr ⟨_, List.mem_of_getElem? hcallback, rfl⟩
  have hcounter (T : Kind) : ((backup.take i callback err).tally callback err).deleteCounter T
      = backup.deleteCounter T + if err = none ∧ callback.isDelete T then 1 else 0 :=
    tally_deleteCounter _ callback err T
  have htriggered (T : Kind)
      : Triggered content ((backup.take i callback err).tally callback err).deleteCounter T
        ↔ backup.deleteCounter T + (if err = none ∧ callback.isDelete T then 1 else 0)
            = (content.cloudData T).length ∧ content.cloudData T ≠ [] := by
    unfold Triggered
    rw [hcounter]
  rw [h.started_eq]
  simp only [planned, htriggered]
  by_cases hdelete : err = none ∧ callback.isDelete callback'.item.kind = true
  . have hkind := BackupCallback.kind_of_isDelete hdelete.2
    -- no upload of the type has been started, as this delete has not been counted
    have hnot : ¬ Triggered content backup.deleteCounter callback'.item.kind := by
      intro htriggered
      have := h.not_isDelete htriggered (List.mem_append_right _ hmem)
      rw [hdelete.2] at this
      cases this
    rw [if_neg hnot, hkind]
    by_cases hlast : backup.deleteCounter callback'.item.kind + 1
        = (content.cloudData callback'.item.kind).length
    . have hne : content.cloudData callback'.item.kind ≠ [] := by
        intro hnil
        rw [hnil] at hlast
        cases hlast
      simp [hdelete, hlast, hne]
    . simp [hdelete, hlast]
  . have hsame : Triggered content backup.deleteCounter callback'.item.kind
        ↔ backup.deleteCounter callback'.item.kind = (content.cloudData callback'.item.kind).length
            ∧ content.cloudData callback'.item.kind ≠ [] := Iff.rfl
    simp only [if_neg hdelete, Nat.add_zero, ← hsame]
    have hstarted : (if err = none ∧ callback.isDelete callback.item.kind
          ∧ backup.deleteCounter callback.item.kind + 1
            = (content.cloudData callback.item.kind).length then
          content.uploads callback.item.kind
        else
          []).count callback' = 0 := by
      split
      . next hstarted =>
        apply List.count_eq_zero.mpr
        intro hupload
        apply hdelete
        rw [BackupContent.kind_of_mem_uploads hupload]
        exact ⟨hstarted.1, hstarted.2.1⟩
      . rfl
    rw [hstarted, Nat.add_zero]

theorem Running.runCallback (h : Running content backup)
    (hcallback : backup.remoteDataService.callbacks[i]? = some (callback, err))
    : Running content ((backup.take i callback err).runCallback callback err) := by
  rw [runCallback_eq]
  have htallied : Tallied content ((backup.take i callback err).tally callback err) :=
    h.tallied.tally
  refine ⟨?_, ?_, ?_, ?_, ?_, ?_, ?_⟩
  . simp [issueAll, onRemote, take, h.localData]
  . simp [issueAll, onRemote, take, h.cloudData]
  . simp [issueAll, onRemote, take, h.fetching]
  . intro call hcall
    simp only [issueAll, onRemote, tally_remoteDataService, List.mem_append, List.mem_map] at hcall
    cases hcall with
    | inl hcall => exact h.pending call hcall
    | inr hcall =>
      obtain ⟨callback', -, rfl⟩ := hcall
      rfl
  . intro callback'
    have hcalls : ((backup.take i callback err).tally callback err).calls
        = (backup.take i callback err).calls := by
      simp [Backup.calls]
    rw [calls_issueAll, hcalls, calls_take hcallback, h.calls]
    exact (h.planned_tally hcallback callback').symm
  . exact ⟨htallied.totalTask, htallied.currentProgress, htallied.deleteCounter, htallied.log⟩
  . apply h.stored.congr
    . simp [issueAll, onRemote, take]
    . intro callback'
      rw [← done_take hcallback callback']
      simp [Done, issueAll, onRemote]

end Callback

end Backup
