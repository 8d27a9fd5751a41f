import CaptainCue.Backup.Progress

/-!
This module contains backups in which given operations fail: what the cloud holds when no callback
is left, depending on the failures.
-/

namespace Backup

structure Failures where
  fetch : Kind → Prop
  write : RemoteWrite → Prop

def Failures.none : Failures := ⟨fun _ => False, fun _ => False⟩

def Failures.Allow (failures : Failures) (backup : Backup) : Event → Prop
  | .fetched T _ => ¬ failures.fetch T
  | .fetchFailed T _ => failures.fetch T
  | .answer i err => ∀ call ∈ backup.remoteDataService.pending[i]?,
      (err = Option.none ↔ ¬ failures.write call.fst)
  | .completion _ => True

def Event.Fails : Event → Prop
  | .fetchFailed _ _ => True
  | .answer _ err => err ≠ none
  | _ => False

structure Quiet (backup : Backup) : Prop where
  fetching : ∀ T, backup.fetching T = false
  pending : backup.remoteDataService.pending = []
  callbacks : backup.remoteDataService.callbacks = []

structure Answered (failures : Failures) (backup : Backup) : Prop where
  pending : ∀ call ∈ backup.remoteDataService.pending, call.fst = call.snd.write
  fetch : ∀ T, backup.fetching T = false → (backup.cloudData T = none ↔ failures.fetch T)
  write : ∀ call ∈ backup.remoteDataService.callbacks ++ backup.finished,
    (call.snd = none ↔ ¬ failures.write call.fst.write)

variable {failures : Failures} {dateFormatter : DateFormatter}
  {localDataService : RealmDataService} {db : Firestore} {backup : Backup}

theorem meets_none {events : List Event} (h : ∀ e ∈ events, ¬ e.Fails) (backup : Backup)
    : (machine dateFormatter).Meets Failures.none.Allow backup events := by
  apply Machine.meets_of_forall
  intro backup e he
  have hfails := h e he
  cases e with
  | fetched T context => exact not_false
  | fetchFailed T err => exact absurd trivial hfails
  | answer i err =>
    have herr : err = none := not_not.mp hfails
    exact fun _ _ => ⟨fun _ => not_false, fun _ => herr⟩
  | completion i => trivial

theorem answered_backupData : Answered failures (backupData localDataService db) := by
  constructor
  . intro call hcall
    cases hcall
  . intro T hT
    cases hT
  . intro call hcall
    cases hcall

theorem Answered.issueAll (h : Answered failures backup) (callbacks : List BackupCallback)
    : Answered failures (backup.issueAll callbacks) := by
  refine ⟨?_, h.fetch, h.write⟩
  intro call hcall
  simp only [Backup.issueAll, onRemote, List.mem_append, List.mem_map] at hcall
  cases hcall with
  | inl hcall => exact h.pending call hcall
  | inr hcall =>
    obtain ⟨callback, -, rfl⟩ := hcall
    rfl

theorem Answered.checkLoadingDataDone (h : Answered failures backup)
    : Answered failures backup.checkLoadingDataDone := by
  cases hreport : backup.cloudData .report with
  | none =>
    have hcheck : backup.checkLoadingDataDone = backup := by
      simp [Backup.checkLoadingDataDone, hreport]
    rw [hcheck]
    exact h
  | some reportCloudData =>
    cases hshot : backup.cloudData .shot with
    | none =>
      have hcheck : backup.checkLoadingDataDone = backup := by
        simp [Backup.checkLoadingDataDone, hshot]
      rw [hcheck]
      exact h
    | some shotCloudData =>
      rw [checkLoadingDataDone_eq hreport hshot]
      apply Answered.issueAll
      exact ⟨h.pending, h.fetch, h.write⟩

theorem Answered.fetched (h : Answered failures backup) {T : Kind} (hfails : ¬ failures.fetch T)
    (datas : Option (List DataServiceObject))
    : Answered failures
        (closure { backup with fetching := Function.update backup.fetching T false } T datas
          none) := by
  apply Answered.checkLoadingDataDone
  refine ⟨h.pending, ?_, h.write⟩
  intro U hU
  by_cases hUT : U = T
  . subst hUT
    simp [hfails]
  . dsimp only at hU ⊢
    rw [Function.update_of_ne hUT] at hU ⊢
    exact h.fetch U hU

theorem Answered.fetchFailed (h : Answered failures backup) {T : Kind} (hfails : failures.fetch T)
    (hnone : backup.cloudData T = none) (err : NSError)
    : Answered failures
        (closure { backup with fetching := Function.update backup.fetching T false } T none
          (some err)) := by
  refine ⟨h.pending, ?_, h.write⟩
  intro U hU
  simp only [closure, completion] at hU ⊢
  by_cases hUT : U = T
  . subst hUT
    simp [hfails, hnone]
  . rw [Function.update_of_ne hUT] at hU
    exact h.fetch U hU

theorem Answered.answer (h : Answered failures backup) {i : Nat} {err : Option NSError}
    (hallow : failures.Allow backup (.answer i err)) {service : FirebaseDataService BackupCallback}
    (hanswer : backup.remoteDataService.answer i err = some service)
    : Answered failures { backup with remoteDataService := service } := by
  obtain ⟨w, callback, hpending, rfl⟩ := FirebaseDataService.answer_eq_some.mp hanswer
  have hwrite : w = callback.write := h.pending _ (List.mem_of_getElem? hpending)
  refine ⟨?_, h.fetch, ?_⟩
  . intro call hcall
    exact h.pending call (List.mem_of_mem_eraseIdx hcall)
  . intro call hcall
    simp only [List.mem_append, List.mem_singleton] at hcall
    rcases hcall with (hcall | rfl) | hcall
    . exact h.write call (List.mem_append_left _ hcall)
    . rw [← hwrite]
      exact hallow _ hpending
    . exact h.write call (List.mem_append_right _ hcall)

theorem Answered.runCallback (h : Answered failures backup) {i : Nat} {callback : BackupCallback}
    {err : Option NSError}
    (hcallback : backup.remoteDataService.callbacks[i]? = some (callback, err))
    : Answered failures ((backup.take i callback err).runCallback callback err) := by
  rw [runCallback_eq]
  apply Answered.issueAll
  refine ⟨?_, ?_, ?_⟩
  . intro call hcall
    rw [tally_remoteDataService] at hcall
    exact h.pending call hcall
  . intro T hT
    rw [tally_fetching] at hT
    rw [tally_cloudData]
    exact h.fetch T hT
  . intro call hcall
    rw [tally_remoteDataService, tally_finished] at hcall
    apply h.write
    simp only [take, List.mem_append, List.mem_singleton] at hcall ⊢
    rcases hcall with hcall | hcall | rfl
    . exact .inl (List.mem_of_mem_eraseIdx hcall)
    . exact .inr hcall
    . exact .inl (List.mem_of_getElem? hcallback)

theorem Answered.step (backup : Backup) (e : Event) (backup' : Backup)
    (h : Inv dateFormatter localDataService db backup ∧ Answered failures backup)
    (hallow : failures.Allow backup e)
    (hstep : backup.step dateFormatter e = some backup') : Answered failures backup' := by
  cases e with
  | fetched T context =>
    simp only [Backup.step, getAllDataClosure_eq] at hstep
    split at hstep
    . cases hstep
      exact h.2.fetched hallow _
    . cases hstep
  | fetchFailed T err =>
    simp only [Backup.step, getAllDataClosure_eq] at hstep
    split at hstep
    . next hfetching =>
      cases hstep
      apply h.2.fetchFailed hallow
      cases h.1 with
      | inl hwaiting => exact hwaiting.fetching T hfetching
      | inr hrunning =>
        obtain ⟨content, -, -, hrunning⟩ := hrunning
        rw [hrunning.fetching] at hfetching
        cases hfetching
    . cases hstep
  | answer i err =>
    obtain ⟨service, hanswer, rfl⟩ := Option.map_eq_some_iff.mp hstep
    exact h.2.answer hallow hanswer
  | completion i =>
    simp only [Backup.step] at hstep
    split at hstep
    . next callback err hcallback =>
      cases hstep
      exact h.2.runCallback hcallback
    . cases hstep

theorem backupData_answered {events : List Event} (hdb : db.IdsMatch)
    (hmeets : (machine dateFormatter).Meets failures.Allow (backupData localDataService db) events)
    (hrun : (machine dateFormatter).run (backupData localDataService db) events = some backup)
    : Inv dateFormatter localDataService db backup ∧ Answered failures backup := by
  apply Machine.invariant_of_meets _ _ hmeets hrun
  . intro backup e backup' h hallow hstep
    exact ⟨Inv.step hdb backup e backup' h.1 hstep, Answered.step backup e backup' h hallow hstep⟩
  . exact ⟨.inl waiting_backupData, answered_backupData⟩

end Backup
