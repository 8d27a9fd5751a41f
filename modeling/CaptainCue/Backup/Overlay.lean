import CaptainCue.Backup.FirstError
import CaptainCue.Backup.Outcome

/-!
This module contains the button that starts a backup: the overlay that covers the application while
the backup runs, and the alerts that end it.
-/

namespace Backup

variable {dateFormatter : DateFormatter} {localDataService : RealmDataService} {db : Firestore}
  {backup backup' : Backup} {e : Event} {content : BackupContent}

/-! ## Errors that are still to be reported -/

def Failed (backup : Backup) : Prop :=
  (∃ err, .error err ∈ backup.log)
    ∨ ∃ call ∈ backup.remoteDataService.callbacks, call.snd ≠ none

theorem Failed.step (h : backup.Failed) (hstep : backup.step dateFormatter e = some backup')
    : backup'.Failed := by
  obtain ⟨reports, hlog⟩ := step_log hstep
  cases h with
  | inl herror =>
    obtain ⟨err, herr⟩ := herror
    refine .inl ⟨err, ?_⟩
    rw [hlog]
    exact List.mem_append_left _ herr
  | inr hcall =>
    obtain ⟨call, hcall, hne⟩ := hcall
    cases e with
    | fetched T context =>
      simp only [Backup.step, getAllDataClosure_eq, closure] at hstep
      split at hstep
      . cases hstep
        refine .inr ⟨call, ?_, hne⟩
        rw [checkLoadingDataDone_callbacks]
        exact hcall
      . cases hstep
    | fetchFailed T err =>
      simp only [Backup.step, getAllDataClosure_eq, closure] at hstep
      split at hstep
      . cases hstep
        exact .inr ⟨call, hcall, hne⟩
      . cases hstep
    | answer i err =>
      obtain ⟨service, hanswer, rfl⟩ := Option.map_eq_some_iff.mp hstep
      obtain ⟨w, callback, -, rfl⟩ := FirebaseDataService.answer_eq_some.mp hanswer
      exact .inr ⟨call, List.mem_append_left _ hcall, hne⟩
    | completion i =>
      simp only [Backup.step] at hstep
      split at hstep
      . next callback err hcallback =>
        cases hstep
        show Failed ((backup.take i callback err).runCallback callback err)
        rw [runCallback_eq]
        cases err with
        | some err =>
          refine .inl ⟨err, ?_⟩
          cases callback <;> simp [issueAll, onRemote, tally, completion]
        | none =>
          obtain ⟨j, hj⟩ := List.mem_iff_getElem?.mp hcall
          have hji : j ≠ i := by
            rintro rfl
            rw [hcallback] at hj
            cases hj
            exact hne rfl
          refine .inr ⟨call, ?_, hne⟩
          simp only [issueAll, onRemote, tally_remoteDataService, take]
          exact List.mem_eraseIdx_iff_getElem?.mpr ⟨j, hji, hj⟩
      . cases hstep

theorem failed_of_fails (hfails : e.Fails) (hstep : backup.step dateFormatter e = some backup')
    : backup'.Failed := by
  cases e with
  | fetched T context => exact hfails.elim
  | fetchFailed T err =>
    simp only [Backup.step, getAllDataClosure_eq, closure] at hstep
    split at hstep
    . cases hstep
      exact .inl ⟨err, List.mem_append_right _ (List.mem_singleton_self _)⟩
    . cases hstep
  | answer i err =>
    obtain ⟨service, hanswer, rfl⟩ := Option.map_eq_some_iff.mp hstep
    obtain ⟨w, callback, -, rfl⟩ := FirebaseDataService.answer_eq_some.mp hanswer
    exact .inr ⟨(callback, err), by simp, hfails⟩
  | completion i => exact hfails.elim

/-! ## Complete backups -/

theorem Inv.truthful (h : Inv dateFormatter localDataService db backup)
    : Truthful localDataService db backup := by
  cases h with
  | inl hwaiting => exact hwaiting.truthful
  | inr hrunning =>
    obtain ⟨content, rfl, hlocal, hrunning⟩ := hrunning
    exact hrunning.truthful hlocal

theorem exists_of_totalTask_pos (hlocal : content.localData = localDataService.getAllDatas)
    (hpos : 0 < content.totalTask)
    : ∃ T id, content.db.document T.getRemoteCollectionName id ≠ none
        ∨ localDataService.realm.object T id ≠ none := by
  have hsome : ∃ T item, item ∈ content.cloudData T ∨ item ∈ content.localData T := by
    by_contra hnone
    push Not at hnone
    have hnil (T : Kind) : content.cloudData T = [] ∧ content.localData T = [] :=
      ⟨List.eq_nil_iff_forall_not_mem.mpr fun item => (hnone T item).1,
        List.eq_nil_iff_forall_not_mem.mpr fun item => (hnone T item).2⟩
    simp [BackupContent.totalTask, hnil] at hpos
  obtain ⟨T, item, hitem⟩ := hsome
  refine ⟨T, item.id, ?_⟩
  cases hitem with
  | inl hcloud => exact .inl ((content.hcloud T item.id).mpr ⟨item, hcloud, rfl⟩)
  | inr hitem =>
    right
    rw [hlocal, RealmDataService.mem_getAllDatas] at hitem
    rw [hitem]
    simp

theorem Running.totalTask_pos_of_progress (h : Running content backup)
    (hmem : .progress 1 ∈ backup.log) : 0 < content.totalTask := by
  cases h.mem_progress hmem with
  | inl hzero => simp at hzero
  | inr hvalue =>
    obtain ⟨i, hi, -⟩ := hvalue
    have hle := h.succeeded_le_totalTask
    omega

/--
A backup that no error disturbs reports its end exactly where there is something to do and each type
with objects on the device has a document in the cloud.
-/
theorem Running.progress_one_iff (h : Running content backup)
    (hlocal : content.localData = localDataService.getAllDatas)
    (hanswered : Answered .none backup) (hquiet : backup.Quiet)
    : .progress 1 ∈ backup.log
        ↔
      (∃ T id, content.db.document T.getRemoteCollectionName id ≠ none
          ∨ localDataService.realm.object T id ≠ none)
        ∧ ∀ T, (∃ id, content.db.document T.getRemoteCollectionName id ≠ none)
            ∨ ∀ id, localDataService.realm.object T id = none := by
  have hreplaced := h.replaced_iff hlocal hanswered hquiet
  constructor
  . intro hmem
    have hsome := exists_of_totalTask_pos hlocal (h.totalTask_pos_of_progress hmem)
    refine ⟨hsome, hreplaced.mp ?_⟩
    have hcomplete := h.complete (h.succeeded_eq hmem)
    refine ⟨(h.truthful hlocal).cloud hmem, ?_⟩
    intro _
    apply h.getLast_log hcomplete.finished _ (h.totalTask_pos_of_progress hmem)
    rw [← h.succeeded_eq hmem]
    symm
    apply List.countP_eq_length.mpr
    intro call hcall
    rw [hcomplete.finished call hcall]
    rfl
  . rintro ⟨hsome, hcond⟩
    exact List.mem_of_getLast? ((hreplaced.mpr hcond).log hsome)

end Backup

structure BackupOverlay where
  backup : Backup
  -- whether `backupProgressView` and `fadedView` are on the view of the navigation controller
  isShown : Bool
  -- what `backupProgressView` shows
  progress : ℚ
  -- the blocks handed to `asyncAfter` that have not run yet
  scheduled : Nat
  -- the titles and messages of all calls of `showAlert`, oldest first
  alerts : List (String × String)

namespace BackupOverlay

def errorAlert : String × String :=
  ("Back up error", "Đã xảy ra lỗi trong quá trình backup dữ liệu.")

def successAlert : String × String :=
  ("Back up", "Mọi dữ liệu đã được back up lên server")

def completion (overlay : BackupOverlay) : BackupReport → BackupOverlay
  | .error _ => { overlay with isShown := false, alerts := overlay.alerts ++ [errorAlert] }
  | .progress progress =>
    let overlay := { overlay with progress }
    if progress = 1 then { overlay with scheduled := overlay.scheduled + 1 } else overlay

def asyncAfter (overlay : BackupOverlay) : BackupOverlay :=
  { overlay with
    isShown := false
    scheduled := overlay.scheduled - 1
    alerts := overlay.alerts ++ [successAlert]
  }

def btnBackupWasTapped (localDataService : RealmDataService) (db : Firestore) : BackupOverlay :=
  -- The confirmation of the alert. `backupData` calls `completion` once before it returns.
  let backup := Backup.backupData localDataService db
  backup.log.foldl completion
    { backup, isShown := true, progress := 0, scheduled := 0, alerts := [] }

inductive Event where
  | backup (e : Backup.Event)
  -- the deadline of a block passes
  | deadline

def Event.Fails : Event → Prop
  | .backup e => e.Fails
  | .deadline => False

section Step

variable (dateFormatter : DateFormatter)

def step (overlay : BackupOverlay) : Event → Option BackupOverlay
  | .backup e =>
    (overlay.backup.step dateFormatter e).map fun backup =>
      -- the reports of the step, in the order in which it calls `completion`
      (backup.log.drop overlay.backup.log.length).foldl completion { overlay with backup }
  | .deadline => if 0 < overlay.scheduled then some overlay.asyncAfter else none

def machine : Machine BackupOverlay Event where
  step := step dateFormatter

end Step

variable {dateFormatter : DateFormatter} {localDataService : RealmDataService} {db : Firestore}
  {overlay overlay' : BackupOverlay} {e : Event}

/-! ## What the reports make of the overlay -/

structure Follows (log : List BackupReport) (overlay : BackupOverlay) : Prop where
  isShown : overlay.isShown = false
    ↔ (∃ err, .error err ∈ log) ∨ successAlert ∈ overlay.alerts
  success : overlay.alerts.count successAlert + overlay.scheduled = log.count (.progress 1)
  error : errorAlert ∈ overlay.alerts ↔ ∃ err, .error err ∈ log

theorem Follows.completion {log : List BackupReport} (h : Follows log overlay)
    (report : BackupReport) : Follows (log ++ [report]) (overlay.completion report) := by
  have hdiffer : errorAlert ≠ successAlert := by decide
  cases report with
  | error err =>
    refine ⟨?_, ?_, ?_⟩
    . have herr : ∃ err', .error err' ∈ log ++ [.error err] := ⟨err, by simp⟩
      exact ⟨fun _ => .inl herr, fun _ => rfl⟩
    . have hcount := h.success
      simp only [BackupOverlay.completion, List.count_append]
      rw [List.count_singleton, List.count_singleton, if_neg (by simpa using hdiffer),
        if_neg (by simp)]
      exact hcount
    . have herr : ∃ err', .error err' ∈ log ++ [.error err] := ⟨err, by simp⟩
      exact ⟨fun _ => herr, fun _ => by simp [BackupOverlay.completion]⟩
  | progress value =>
    have herrors : (∃ err, .error err ∈ log ++ [.progress value]) ↔ ∃ err, .error err ∈ log := by
      simp
    by_cases hone : value = 1
    . refine ⟨?_, ?_, ?_⟩
      . simp only [BackupOverlay.completion, hone, if_true]
        rw [← hone, herrors]
        exact h.isShown
      . have hcount := h.success
        simp only [BackupOverlay.completion, hone, if_true, List.count_append,
          List.count_singleton_self]
        omega
      . simp only [BackupOverlay.completion, hone, if_true]
        rw [← hone, herrors]
        exact h.error
    . refine ⟨?_, ?_, ?_⟩
      . simp only [BackupOverlay.completion, if_neg hone]
        rw [herrors]
        exact h.isShown
      . have hcount := h.success
        simp only [BackupOverlay.completion, if_neg hone, List.count_append]
        rw [List.count_singleton, if_neg (by simpa using hone)]
        exact hcount
      . simp only [BackupOverlay.completion, if_neg hone]
        rw [herrors]
        exact h.error

theorem Follows.foldl {log : List BackupReport} (h : Follows log overlay)
    (reports : List BackupReport)
    : Follows (log ++ reports) (reports.foldl BackupOverlay.completion overlay) := by
  induction reports generalizing log overlay with
  | nil =>
    rw [List.append_nil]
    exact h
  | cons report reports ih =>
    have hrest := ih (h.completion report)
    rw [List.append_assoc, List.singleton_append] at hrest
    exact hrest

theorem Follows.asyncAfter {log : List BackupReport} (h : Follows log overlay)
    (hscheduled : 0 < overlay.scheduled) : Follows log overlay.asyncAfter := by
  have hdiffer : errorAlert ≠ successAlert := by decide
  refine ⟨?_, ?_, ?_⟩
  . exact ⟨fun _ => .inr (by simp [BackupOverlay.asyncAfter]), fun _ => rfl⟩
  . have hcount := h.success
    simp only [BackupOverlay.asyncAfter, List.count_append, List.count_singleton_self]
    omega
  . have herror := h.error
    simp only [BackupOverlay.asyncAfter, List.mem_append, List.mem_singleton, hdiffer, or_false]
    exact herror

theorem follows_btnBackupWasTapped
    : Follows (btnBackupWasTapped localDataService db).backup.log
        (btnBackupWasTapped localDataService db) := by
  have hempty : Follows [] ⟨Backup.backupData localDataService db, true, 0, 0, []⟩ :=
    ⟨by simp, rfl, by simp⟩
  exact hempty.foldl [.progress 0]

@[simp]
theorem foldl_completion_backup (reports : List BackupReport) (overlay : BackupOverlay)
    : (reports.foldl completion overlay).backup = overlay.backup := by
  induction reports generalizing overlay with
  | nil => rfl
  | cons report reports ih =>
    rw [List.foldl_cons, ih]
    cases report with
    | error err => rfl
    | progress value =>
      simp only [completion]
      split <;> rfl

/-! ## Runs -/

theorem step_backup (hstep : (machine dateFormatter).step overlay e = some overlay')
    : (∃ e', e = .backup e' ∧ overlay.backup.step dateFormatter e' = some overlay'.backup)
        ∨ (e = .deadline ∧ overlay'.backup = overlay.backup) := by
  cases e with
  | backup e =>
    obtain ⟨backup, hbackup, rfl⟩ := Option.map_eq_some_iff.mp hstep
    refine .inl ⟨e, rfl, ?_⟩
    rw [foldl_completion_backup]
    exact hbackup
  | deadline =>
    obtain ⟨-, heq⟩ := Option.ite_none_right_eq_some.mp hstep
    cases heq
    exact .inr ⟨rfl, rfl⟩

theorem step_follows (h : Follows overlay.backup.log overlay)
    (hstep : (machine dateFormatter).step overlay e = some overlay')
    : Follows overlay'.backup.log overlay' := by
  cases e with
  | backup e =>
    obtain ⟨backup, hbackup, rfl⟩ := Option.map_eq_some_iff.mp hstep
    obtain ⟨reports, hlog⟩ := Backup.step_log hbackup
    rw [foldl_completion_backup, hlog, List.drop_left]
    have hsame : Follows overlay.backup.log { overlay with backup } :=
      ⟨h.isShown, h.success, h.error⟩
    have hrest := hsame.foldl reports
    rw [← hlog] at hrest ⊢
    exact hrest
  | deadline =>
    obtain ⟨hscheduled, heq⟩ := Option.ite_none_right_eq_some.mp hstep
    cases heq
    exact h.asyncAfter hscheduled

structure Inv (dateFormatter : DateFormatter) (localDataService : RealmDataService)
    (db : Firestore) (overlay : BackupOverlay) : Prop where
  backup : Backup.Inv dateFormatter localDataService db overlay.backup
  follows : Follows overlay.backup.log overlay

theorem Inv.step (hdb : db.IdsMatch) (h : Inv dateFormatter localDataService db overlay)
    (hstep : (machine dateFormatter).step overlay e = some overlay')
    : Inv dateFormatter localDataService db overlay' := by
  refine ⟨?_, step_follows h.follows hstep⟩
  obtain ⟨e', -, hbackup⟩ | ⟨-, hsame⟩ := step_backup hstep
  . exact Backup.Inv.step hdb overlay.backup e' overlay'.backup h.backup hbackup
  . rw [hsame]
    exact h.backup

theorem run_inv {events : List Event} (hdb : db.IdsMatch)
    (hrun : (machine dateFormatter).run (btnBackupWasTapped localDataService db) events
      = some overlay)
    : Inv dateFormatter localDataService db overlay := by
  refine Machine.invariant (fun overlay e overlay' h hstep => h.step hdb hstep) ?_ hrun
  exact ⟨.inl Backup.waiting_backupData, follows_btnBackupWasTapped⟩

theorem Inv.truthful (h : Inv dateFormatter localDataService db overlay)
    : Backup.Truthful localDataService db overlay.backup :=
  h.backup.truthful

/--
The success alert is shown at most once and never beside an error alert, and when it is shown the
overlay is gone and the cloud holds exactly the objects of the device.
-/
theorem run_alerts {events : List Event} (hdb : db.IdsMatch)
    (hrun : (machine dateFormatter).run (btnBackupWasTapped localDataService db) events
      = some overlay)
    : overlay.alerts.count successAlert ≤ 1
      ∧ (successAlert ∈ overlay.alerts →
          errorAlert ∉ overlay.alerts ∧ overlay.isShown = false
            ∧ ∀ T id, overlay.backup.remoteDataService.db.document T.getRemoteCollectionName id
              = (localDataService.realm.object T id).map DataServiceObject.getJSONData) := by
  have hinv := run_inv hdb hrun
  have htruthful := hinv.truthful
  have hcount := hinv.follows.success
  refine ⟨?_, ?_⟩
  . have honce := htruthful.once
    omega
  . intro hsuccess
    have hmem : .progress 1 ∈ overlay.backup.log := by
      have := List.count_pos_iff.mpr hsuccess
      apply List.count_pos_iff.mp
      omega
    refine ⟨?_, hinv.follows.isShown.mpr (.inr hsuccess), htruthful.cloud hmem⟩
    rw [hinv.follows.error]
    rintro ⟨err, herr⟩
    exact htruthful.noError hmem err herr

theorem run_failed {events : List Event} (hfails : ∃ e ∈ events, e.Fails)
    (hrun : (machine dateFormatter).run overlay events = some overlay')
    : overlay'.backup.Failed := by
  have hkeeps {overlay overlay' : BackupOverlay} {e : Event} (h : overlay.backup.Failed)
      (hstep : (machine dateFormatter).step overlay e = some overlay')
      : overlay'.backup.Failed := by
    obtain ⟨e', -, hbackup⟩ | ⟨-, hsame⟩ := step_backup hstep
    . exact h.step hbackup
    . rw [hsame]
      exact h
  induction events generalizing overlay with
  | nil => simp at hfails
  | cons e events ih =>
    obtain ⟨mid, hstep, hrest⟩ := Machine.run_cons_eq_some.mp hrun
    by_cases he : e.Fails
    . obtain ⟨e', rfl, hbackup⟩ | ⟨rfl, -⟩ := step_backup hstep
      . exact Machine.invariant (I := fun overlay => overlay.backup.Failed)
          (fun overlay e overlay' h hstep => hkeeps h hstep)
          (Backup.failed_of_fails he hbackup) hrest
      . exact he.elim
    . obtain ⟨e', hmem, hfails⟩ := hfails
      apply ih _ hrest
      cases List.mem_cons.mp hmem with
      | inl heq =>
        rw [heq] at hfails
        exact absurd hfails he
      | inr hmem => exact ⟨e', hmem, hfails⟩

theorem run_answered {events : List Event} (hdb : db.IdsMatch)
    (hsucceeds : ∀ e ∈ events, ¬ e.Fails)
    (hrun : (machine dateFormatter).run (btnBackupWasTapped localDataService db) events
      = some overlay)
    : Backup.Answered .none overlay.backup := by
  have hboth : Inv dateFormatter localDataService db overlay
      ∧ Backup.Answered .none overlay.backup := by
    apply Machine.invariant_of_meets (C := fun _ e => ¬ e.Fails) _ _ _ hrun
    . intro overlay e overlay' h hfails hstep
      refine ⟨h.1.step hdb hstep, ?_⟩
      obtain ⟨e', rfl, hbackup⟩ | ⟨-, hsame⟩ := step_backup hstep
      . have hmeets : (Backup.machine dateFormatter).Meets Backup.Failures.none.Allow
            overlay.backup [e'] := by
          apply Backup.meets_none
          intro e'' he''
          rw [List.mem_singleton.mp he'']
          exact hfails
        exact Backup.Answered.step overlay.backup e' overlay'.backup ⟨h.1.backup, h.2⟩ hmeets.1
          hbackup
      . rw [hsame]
        exact h.2
    . exact ⟨⟨.inl Backup.waiting_backupData, follows_btnBackupWasTapped⟩,
        Backup.answered_backupData⟩
    . exact Machine.meets_of_forall (fun _ e he => hsucceeds e he) _
  exact hboth.2

/--
When all requests are answered, the overlay still covers the application exactly where none of them
failed and either there was nothing to do, or the cloud had no document of a type of which the
device has objects.
-/
theorem isShown_iff {events : List Event} (hdb : db.IdsMatch)
    (hrun : (machine dateFormatter).run (btnBackupWasTapped localDataService db) events
      = some overlay)
    (hquiet : overlay.backup.Quiet) (hscheduled : overlay.scheduled = 0)
    : overlay.isShown = true
        ↔
      (∀ e ∈ events, ¬ e.Fails)
        ∧ ((∀ T id, db.document T.getRemoteCollectionName id = none
              ∧ localDataService.realm.object T id = none)
            ∨ ∃ T, (∀ id, db.document T.getRemoteCollectionName id = none)
              ∧ ∃ id, localDataService.realm.object T id ≠ none) := by
  obtain ⟨hinv, hfollows⟩ := run_inv hdb hrun
  by_cases hfails : ∃ e ∈ events, e.Fails
  . have herror : ∃ err, .error err ∈ overlay.backup.log := by
      cases run_failed hfails hrun with
      | inl herror => exact herror
      | inr hcall =>
        rw [hquiet.callbacks] at hcall
        simp at hcall
    rw [hfollows.isShown.mpr (.inl herror)]
    constructor
    . intro hshown
      cases hshown
    . rintro ⟨hsucceeds, -⟩
      obtain ⟨e, he, hfails⟩ := hfails
      exact absurd hfails (hsucceeds e he)
  . push Not at hfails
    have hanswered := run_answered hdb hfails hrun
    cases hinv with
    | inl hwaiting =>
      obtain ⟨T, hT⟩ := hwaiting.not_quiet hanswered hquiet
      cases hT
    | inr hrunning =>
      obtain ⟨content, rfl, hlocal, hrunning⟩ := hrunning
      have hnoError : ¬ ∃ err, .error err ∈ overlay.backup.log := by
        rintro ⟨err, herr⟩
        rw [hrunning.tallied.log] at herr
        cases List.mem_cons.mp herr with
        | inl heq => cases heq
        | inr herr =>
          refine Backup.error_not_mem_reports ?_ err herr
          intro call hcall
          exact (hanswered.write call (List.mem_append_right _ hcall)).mpr not_false
      have hsuccess : successAlert ∈ overlay.alerts ↔ .progress 1 ∈ overlay.backup.log := by
        have hcount := hfollows.success
        rw [hscheduled, Nat.add_zero] at hcount
        rw [← List.count_pos_iff, ← List.count_pos_iff, hcount]
      have hdone := hrunning.progress_one_iff hlocal hanswered hquiet
      have hshown : overlay.isShown = true ↔ ¬ overlay.isShown = false := by simp
      rw [hshown, hfollows.isShown, hsuccess, hdone, or_iff_right hnoError, not_and_or,
        and_iff_right hfails]
      apply or_congr
      . simp only [not_exists, not_or, not_not]
      . simp only [not_forall, not_or, not_exists, not_not]

open Backup (sampleDevice sampleCloud sampleCloud_idsMatch)

def sampleEvents : List Event :=
  [.backup (.fetched .report sampleContext), .backup (.fetched .shot sampleContext),
    .backup (.answer 0 none), .backup (.completion 0), .backup (.answer 0 none),
    .backup (.completion 0), .deadline]

theorem run_alerts_one_report
    : ∃ overlay, (machine sampleFormatter).run (btnBackupWasTapped sampleDevice sampleCloud)
          sampleEvents = some overlay
        ∧ successAlert ∈ overlay.alerts ∧ errorAlert ∉ overlay.alerts := by
  have hany : ((machine sampleFormatter).run (btnBackupWasTapped sampleDevice sampleCloud)
      sampleEvents).any (fun overlay => successAlert ∈ overlay.alerts) = true := by
    decide +kernel
  obtain ⟨overlay, hrun, hsuccess⟩ := (Option.any_eq_true _ _).mp hany
  have hsuccess : successAlert ∈ overlay.alerts := of_decide_eq_true hsuccess
  exact ⟨overlay, hrun, hsuccess, ((run_alerts sampleCloud_idsMatch hrun).2 hsuccess).1⟩

/--
The first backup of a device never uncovers the application.
-/
theorem isShown_iff_empty_cloud
    : ∃ overlay, (machine sampleFormatter).run (btnBackupWasTapped sampleDevice .empty)
          [.backup (.fetched .report sampleContext), .backup (.fetched .shot sampleContext)]
            = some overlay
        ∧ overlay.isShown = true := by
  have hrun : ∃ overlay, (machine sampleFormatter).run (btnBackupWasTapped sampleDevice .empty)
        [.backup (.fetched .report sampleContext), .backup (.fetched .shot sampleContext)]
          = some overlay
      ∧ overlay.backup.Quiet ∧ overlay.scheduled = 0 := by
    refine ⟨_, rfl, ⟨?_, rfl, rfl⟩, rfl⟩
    intro T
    cases T <;> rfl
  obtain ⟨overlay, hrun, hquiet, hscheduled⟩ := hrun
  refine ⟨overlay, hrun,
    (isShown_iff Firestore.IdsMatch.empty hrun hquiet hscheduled).mpr ⟨?_, .inr ?_⟩⟩
  . simp [Event.Fails, Backup.Event.Fails]
  . exact ⟨.report, fun id => rfl, "r", by decide⟩

end BackupOverlay
