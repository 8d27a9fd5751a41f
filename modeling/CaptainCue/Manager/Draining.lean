import Mathlib.Data.List.Induction
import CaptainCue.Manager.Convergence

/-!
This module contains what becomes of the outbox while the device is online: every record is in
flight unless the server has rejected its write, and a server that answers without errors empties
the outbox in a number of answers that is known in advance.
-/

namespace DataServiceManager

variable {typeOf : String → Kind}

def InFlight (manager : DataServiceManager) (record : OfflineStorageModel) : Prop :=
  -- A write for `record` waits for the server, or its completion is going to remove `record`.
  (∃ call ∈ manager.remoteDataService.pending, call.2 = record)
    ∨ (record, none) ∈ manager.remoteDataService.callbacks

def Event.Merges (network : InternetState) : Event → Prop
  -- The event makes a manager with this state of the network merge.
  | .addObject _ | .updateObject _ | .deleteObject _ | .checkAndMerge => True
  | .network state => network ≠ state
  | .applied | .rejected _ | .completion _ => False

def Event.Answers : Event → Prop
  | .applied | .completion _ => True
  | .addObject _ | .updateObject _ | .deleteObject _ | .checkAndMerge | .network _ | .rejected _ =>
    False

/-! ### A merge sends every record -/

theorem Sends.of_realm {manager manager' : DataServiceManager} {target : Key → Option JSON}
    (h : manager.Sends target) (hrealm : manager'.realm = manager.realm)
    : manager'.Sends target := by
  unfold Sends
  rw [records_congr hrealm, hrealm]
  exact h

theorem merge_pending {manager : DataServiceManager} {target : Key → Option JSON}
    (hverdicts : manager.verdicts = []) (hsends : manager.Sends target)
    (hnetwork : manager.network = .Available)
    : manager.checkAndMergeChangeInLocalDatabase.remoteDataService.pending
        =
      manager.remoteDataService.pending ++ manager.localDataService.getAllRecords.map fun record =>
        (⟨record.collectionName, record.objectID, target (key record)⟩, record) := by
  rw [checkAndMergeChangeInLocalDatabase_eq, if_pos hnetwork, sendAll_remoteDataService hverdicts,
    outgoing_of_sends hsends]

theorem merge_sent {manager : DataServiceManager} {target : Key → Option JSON}
    (hverdicts : manager.verdicts = []) (hsends : manager.Sends target)
    (hnetwork : manager.network = .Available) {record : OfflineStorageModel}
    (hrecord : record ∈ manager.records)
    : ∃ call ∈ manager.checkAndMergeChangeInLocalDatabase.remoteDataService.pending,
        call.2 = record := by
  rw [merge_pending hverdicts hsends hnetwork]
  refine ⟨_, List.mem_append_right _ (List.mem_map_of_mem ?_), rfl⟩
  exact RealmDataService.mem_getAllRecords.mpr hrecord

theorem saveObject_sent {manager : DataServiceManager} (h : Healthy typeOf manager)
    {data : DataServiceObject} (hdata : typeOf data.id = data.kind) {menthodType : MenthodType}
    (hmenthod : menthodType ≠ .delete)
    (hnetwork : (manager.saveObject data menthodType).network = .Available)
    {record : OfflineStorageModel}
    (hrecord : record ∈ (manager.saveObject data menthodType).records)
    : ∃ call ∈ (manager.saveObject data menthodType).remoteDataService.pending,
        call.2 = record := by
  have htidy := (h.saveObject manager.elsewhere hdata hmenthod).1.toTidy
  rw [saveObject_eq_merge] at htidy hnetwork hrecord ⊢
  have hframe := ((manager.saved data).recordChange data menthodType)
    |>.checkAndMergeChangeInLocalDatabase_frame
  have hverdicts : ((manager.saved data).recordChange data menthodType).verdicts = [] := by
    rw [recordChange_verdicts, saved_verdicts h.verdicts]
    exact Verdict.after_nil _
  rw [hframe.network] at hnetwork
  rw [hframe.records] at hrecord
  exact merge_sent hverdicts ((htidy.sends manager.elsewhere).of_realm hframe.realm.symm) hnetwork
    hrecord

theorem deleteSingle_sent {manager : DataServiceManager} (h : Healthy typeOf manager)
    {data : DataServiceObject} (hdata : typeOf data.id = data.kind)
    (hnetwork : (manager.deleteSingle data).network = .Available)
    {record : OfflineStorageModel} (hrecord : record ∈ (manager.deleteSingle data).records)
    : ∃ call ∈ (manager.deleteSingle data).remoteDataService.pending, call.2 = record := by
  have hframe := (manager.recordChange data .delete).checkAndMergeChangeInLocalDatabase_frame
  have hverdicts : (manager.recordChange data .delete).verdicts = [] := by
    rw [recordChange_verdicts, h.verdicts]
    exact Verdict.after_nil _
  have hsends : (manager.recordChange data .delete).Sends
      (Function.update (manager.target manager.elsewhere) (objectKey data) none) := by
    apply recordChange_delete_sends manager.elsewhere h.toTidy hdata
    intro old hold hid
    exact (mem_replaced_of_verdicts h.verdicts).mpr ⟨hold, hid⟩
  rw [deleteSingle_records] at hrecord
  rw [deleteSingle_eq] at hnetwork ⊢
  exact merge_sent hverdicts hsends (hframe.network.symm.trans hnetwork) hrecord

theorem deleteObject_sent {manager : DataServiceManager} (h : Healthy typeOf manager)
    {data : DataServiceObject} (hdata : typeOf data.id = data.kind)
    (hnetwork : (manager.deleteObject data).network = .Available)
    {record : OfflineStorageModel} (hrecord : record ∈ (manager.deleteObject data).records)
    : ∃ call ∈ (manager.deleteObject data).remoteDataService.pending, call.2 = record := by
  -- the object itself comes last, so the merge of its deletion is the last one of the cascade
  have hlast : ∃ items, manager.cascade data = items ++ [data] := by
    cases data with
    | report report => exact ⟨_, rfl⟩
    | shot shot => exact ⟨[], rfl⟩
  obtain ⟨items, hitems⟩ := hlast
  rw [deleteObject_eq, hitems, List.foldl_append] at hnetwork hrecord ⊢
  have hhealthy : Healthy typeOf (items.foldl deleteSingle manager) := by
    apply And.left
    apply h.deleteAll manager.elsewhere
    intro item hitem
    apply typeOf_of_mem_cascade h.toShape hdata
    rw [hitems]
    exact List.mem_append_left _ hitem
  exact deleteSingle_sent hhealthy hdata hnetwork hrecord

theorem sent_of_merges {manager manager' : DataServiceManager} (h : Healthy typeOf manager)
    {e : Event} (he : e.Merges manager.network)
    (hstep : (machine typeOf).step manager e = some manager')
    (hnetwork : manager'.network = .Available) {record : OfflineStorageModel}
    (hrecord : record ∈ manager'.records)
    : ∃ call ∈ manager'.remoteDataService.pending, call.2 = record := by
  unfold machine at hstep
  cases e with
  | addObject data =>
    simp only [step] at hstep
    split at hstep
    . next hguard =>
      cases hstep
      rw [addObject_eq hguard.2] at hnetwork hrecord ⊢
      exact saveObject_sent h hguard.1 (by simp) hnetwork hrecord
    . cases hstep
  | updateObject data =>
    simp only [step] at hstep
    split at hstep
    . next hguard =>
      cases hstep
      exact saveObject_sent h hguard (by simp) hnetwork hrecord
    . cases hstep
  | deleteObject data =>
    simp only [step] at hstep
    split at hstep
    . next hguard =>
      cases hstep
      exact deleteObject_sent h (h.object _ _ _ hguard) hnetwork hrecord
    . cases hstep
  | checkAndMerge =>
    cases hstep
    have hframe := manager.checkAndMergeChangeInLocalDatabase_frame
    rw [hframe.network] at hnetwork
    rw [hframe.records] at hrecord
    exact merge_sent h.verdicts (h.toTidy.sends manager.elsewhere) hnetwork hrecord
  | network state =>
    have heq : manager.changeInternetConnection state
        = { manager with network := state }.checkAndMergeChangeInLocalDatabase := if_neg he
    have hframe := { manager with network := state }.checkAndMergeChangeInLocalDatabase_frame
    have hhealthy := h.network state
    cases hstep
    rw [heq] at hnetwork hrecord ⊢
    rw [hframe.network] at hnetwork
    rw [hframe.records] at hrecord
    exact merge_sent hhealthy.verdicts (hhealthy.toTidy.sends manager.elsewhere) hnetwork hrecord
  | applied => exact he.elim
  | rejected err => exact he.elim
  | completion i => exact he.elim

/-! ### A record stays in flight until it is gone or rejected -/

theorem applied_inFlight {manager manager' : DataServiceManager}
    (hstep : (machine typeOf).step manager .applied = some manager')
    {record : OfflineStorageModel} (h : manager.InFlight record) : manager'.InFlight record := by
  obtain ⟨service, hservice, rfl⟩ := Option.map_eq_some_iff.mp hstep
  obtain ⟨w, item, pending, hpending, heq⟩ := applyOldest_eq_some hservice
  rw [heq]
  obtain ⟨call, hcall, rfl⟩ | hcallback := h
  . rw [hpending] at hcall
    cases List.mem_cons.mp hcall with
    | inl hfirst =>
      right
      rw [hfirst]
      exact List.mem_append_right _ List.mem_cons_self
    | inr hrest => exact .inl ⟨call, hrest, rfl⟩
  . exact .inr (List.mem_append_left _ hcallback)

theorem rejected_inFlight {manager manager' : DataServiceManager} {err : NSError}
    (hstep : (machine typeOf).step manager (.rejected err) = some manager')
    {record : OfflineStorageModel} (h : manager.InFlight record)
    : manager'.InFlight record
        ∨ ∃ w pending, manager.remoteDataService.pending = (w, record) :: pending := by
  obtain ⟨service, hservice, rfl⟩ := Option.map_eq_some_iff.mp hstep
  obtain ⟨w, item, pending, hpending, heq⟩ := rejectOldest_eq_some hservice
  rw [heq]
  obtain ⟨call, hcall, rfl⟩ | hcallback := h
  . rw [hpending] at hcall
    cases List.mem_cons.mp hcall with
    | inl hfirst =>
      right
      rw [hfirst]
      exact ⟨w, pending, hpending⟩
    | inr hrest => exact .inl (.inl ⟨call, hrest, rfl⟩)
  . exact .inl (.inr (List.mem_append_left _ hcallback))

theorem completion_inFlight {manager manager' : DataServiceManager}
    (hverdicts : manager.verdicts = []) {i : Nat} (hdeliver : manager.deliver i = some manager')
    {record : OfflineStorageModel} (hrecord : record ∈ manager'.records)
    (h : manager.InFlight record) : manager'.InFlight record := by
  obtain ⟨item, err, l, r, hcallbacks, rfl⟩ := deliver_eq_some hdeliver
  unfold InFlight
  rw [completion_remoteDataService]
  cases h with
  | inl hcall => exact .inl hcall
  | inr hcallback =>
    right
    rw [hcallbacks] at hcallback
    cases List.mem_append.mp hcallback with
    | inl hl => exact List.mem_append_left _ hl
    | inr hr =>
      cases List.mem_cons.mp hr with
      | inl heq =>
        -- the answer delivered is the one for `record`, which it has removed
        cases heq
        have htakes : Verdict.takesEffect
            ({ manager with remoteDataService.callbacks := l ++ r } : DataServiceManager).verdicts
            := by
          show Verdict.takesEffect manager.verdicts
          rw [hverdicts]
          rfl
        exact absurd rfl ((mem_completion_records.mp hrecord).2 ⟨rfl, htakes⟩)
      | inr hr => exact List.mem_append_right _ hr

theorem step_network {manager manager' : DataServiceManager} {e : Event}
    (he : ¬ e.Merges manager.network) (hstep : (machine typeOf).step manager e = some manager')
    : manager'.network = manager.network := by
  cases e with
  | addObject data => exact absurd trivial he
  | updateObject data => exact absurd trivial he
  | deleteObject data => exact absurd trivial he
  | checkAndMerge => exact absurd trivial he
  | network state =>
    have hsame : manager.changeInternetConnection state = manager := if_pos (not_not.mp he)
    cases hstep
    rw [hsame]
  | applied =>
    obtain ⟨service, -, rfl⟩ := Option.map_eq_some_iff.mp hstep
    rfl
  | rejected err =>
    obtain ⟨service, -, rfl⟩ := Option.map_eq_some_iff.mp hstep
    rfl
  | completion i =>
    obtain ⟨item, err, l, r, -, rfl⟩ := deliver_eq_some hstep
    unfold completion
    split <;> rfl

theorem step_records {manager manager' : DataServiceManager} {e : Event}
    (he : ¬ e.Merges manager.network) (hstep : (machine typeOf).step manager e = some manager')
    {record : OfflineStorageModel} (hrecord : record ∈ manager'.records)
    : record ∈ manager.records := by
  cases e with
  | addObject data => exact absurd trivial he
  | updateObject data => exact absurd trivial he
  | deleteObject data => exact absurd trivial he
  | checkAndMerge => exact absurd trivial he
  | network state =>
    have hsame : manager.changeInternetConnection state = manager := if_pos (not_not.mp he)
    cases hstep
    rw [hsame] at hrecord
    exact hrecord
  | applied =>
    obtain ⟨service, -, rfl⟩ := Option.map_eq_some_iff.mp hstep
    exact hrecord
  | rejected err =>
    obtain ⟨service, -, rfl⟩ := Option.map_eq_some_iff.mp hstep
    exact hrecord
  | completion i =>
    obtain ⟨item, err, l, r, -, rfl⟩ := deliver_eq_some hstep
    exact (mem_completion_records.mp hrecord).1

theorem step_inFlight {manager manager' : DataServiceManager} (h : Healthy typeOf manager)
    {e : Event} (he : ¬ e.Merges manager.network)
    (hstep : (machine typeOf).step manager e = some manager') {record : OfflineStorageModel}
    (hrecord : record ∈ manager'.records) (hbefore : manager.InFlight record)
    : manager'.InFlight record
        ∨ ∃ err w pending, e = .rejected err
          ∧ manager.remoteDataService.pending = (w, record) :: pending := by
  cases e with
  | addObject data => exact absurd trivial he
  | updateObject data => exact absurd trivial he
  | deleteObject data => exact absurd trivial he
  | checkAndMerge => exact absurd trivial he
  | network state =>
    have hsame : manager.changeInternetConnection state = manager := if_pos (not_not.mp he)
    cases hstep
    rw [hsame]
    exact .inl hbefore
  | applied => exact .inl (applied_inFlight hstep hbefore)
  | rejected err =>
    cases rejected_inFlight hstep hbefore with
    | inl hflight => exact .inl hflight
    | inr hfirst =>
      obtain ⟨w, pending, hpending⟩ := hfirst
      exact .inr ⟨err, w, pending, rfl, hpending⟩
  | completion i => exact .inl (completion_inFlight h.verdicts hstep hrecord hbefore)

/-! ### Whole runs -/

theorem Initial.run_healthy {start final : DataServiceManager} {events : List Event}
    (hstart : Initial typeOf start) (hrun : (machine typeOf).run start events = some final)
    : Healthy typeOf final :=
  (run_simulates hstart hrun).1

/--
While the network is available, each record of each state reached is in flight, or the server has
rejected its write while the network was available, and since then nothing has merged the outbox: no
operation, no merge and no change of the network.
-/
theorem online_inFlight {start final : DataServiceManager} {events : List Event}
    (hstart : Initial typeOf start) (hrun : (machine typeOf).run start events = some final)
    (hnetwork : final.network = .Available)
    : ∀ record ∈ final.records,
        final.InFlight record
          ∨ ∃ before err after mid w pending, events = before ++ .rejected err :: after
              ∧ (machine typeOf).run start before = some mid
              ∧ mid.remoteDataService.pending = (w, record) :: pending
              ∧ mid.network = .Available
              ∧ ∀ e ∈ after, ¬ e.Merges .Available := by
  induction events using List.reverseRecOn generalizing final with
  | nil =>
    cases hrun
    simp [hstart.records]
  | append_singleton events e ih =>
    intro record hrecord
    obtain ⟨manager, hbefore, hlast⟩ := Machine.run_append_eq_some.mp hrun
    obtain ⟨manager', hstep, hnil⟩ := Machine.run_cons_eq_some.mp hlast
    cases hnil
    have hhealthy := hstart.run_healthy hbefore
    by_cases he : e.Merges manager.network
    . exact .inl (.inl (sent_of_merges hhealthy he hstep hnetwork hrecord))
    . have hold : manager.network = .Available := (step_network he hstep).symm.trans hnetwork
      cases ih hbefore hold record (step_records he hstep hrecord) with
      | inl hflight =>
        cases step_inFlight hhealthy he hstep hrecord hflight with
        | inl hflight => exact .inl hflight
        | inr hrejected =>
          obtain ⟨err, w, pending, rfl, hpending⟩ := hrejected
          exact .inr ⟨events, err, [], manager, w, pending, rfl, hbefore, hpending, hold, by simp⟩
      | inr hrejected =>
        -- it was rejected before, and this event has not sent it again
        right
        obtain ⟨before, err, after, mid, w, pending, rfl, hmid, hpending, hmidnet, hafter⟩ :=
          hrejected
        refine ⟨before, err, after ++ [e], mid, w, pending, by simp, hmid, hpending, hmidnet, ?_⟩
        intro e' he'
        cases List.mem_append.mp he' with
        | inl he' => exact hafter e' he'
        | inr he' =>
          rw [List.mem_singleton.mp he', ← hold]
          exact he

theorem online_inFlight_rejected
    : ∃ final, (machine fun _ => .shot).run sampleManager
        [.addObject (.shot sampleShot), .rejected ⟨"", 0⟩, .completion 0] = some final
      ∧ ∀ record ∈ final.records,
        final.InFlight record
          ∨ ∃ before err after mid w pending,
              [Event.addObject (.shot sampleShot), .rejected ⟨"", 0⟩, .completion 0]
                = before ++ .rejected err :: after
              ∧ (machine fun _ => .shot).run sampleManager before = some mid
              ∧ mid.remoteDataService.pending = (w, record) :: pending
              ∧ mid.network = .Available
              ∧ ∀ e ∈ after, ¬ e.Merges .Available :=
  ⟨_, rfl, online_inFlight (sampleManager_initial _) rfl rfl⟩

/-! ### Draining -/

def unanswered (manager : DataServiceManager) : Nat :=
  -- the answers and completions still to come
  2 * manager.remoteDataService.pending.length + manager.remoteDataService.callbacks.length

theorem Event.Answers.not_merges {e : Event} (h : e.Answers) (network : InternetState)
    : ¬ e.Merges network := by
  cases e <;> simp_all [Event.Answers, Event.Merges]

theorem step_unanswered {manager manager' : DataServiceManager} {e : Event} (he : e.Answers)
    (hstep : (machine typeOf).step manager e = some manager')
    : manager.unanswered = manager'.unanswered + 1 := by
  cases e with
  | addObject data => exact he.elim
  | updateObject data => exact he.elim
  | deleteObject data => exact he.elim
  | checkAndMerge => exact he.elim
  | network state => exact he.elim
  | rejected err => exact he.elim
  | applied =>
    obtain ⟨service, hservice, rfl⟩ := Option.map_eq_some_iff.mp hstep
    obtain ⟨w, item, pending, hpending, heq⟩ := applyOldest_eq_some hservice
    rw [heq]
    unfold unanswered answered
    rw [hpending]
    simp only [List.length_cons, List.length_append, List.length_nil]
    omega
  | completion i =>
    obtain ⟨item, err, l, r, hcallbacks, rfl⟩ := deliver_eq_some hstep
    unfold unanswered
    rw [completion_remoteDataService, hcallbacks]
    simp only [List.length_cons, List.length_append]
    omega

theorem run_unanswered {manager final : DataServiceManager} {answers : List Event}
    (hanswers : ∀ e ∈ answers, e.Answers)
    (hrun : (machine typeOf).run manager answers = some final)
    : manager.unanswered = answers.length + final.unanswered := by
  induction answers generalizing manager with
  | nil =>
    cases hrun
    simp
  | cons e answers ih =>
    obtain ⟨manager', hstep, hrest⟩ := Machine.run_cons_eq_some.mp hrun
    rw [step_unanswered (hanswers e List.mem_cons_self) hstep,
      ih (fun e' he' => hanswers e' (List.mem_cons_of_mem _ he')) hrest, List.length_cons]
    omega

theorem exists_answer {manager : DataServiceManager} (h : manager.unanswered ≠ 0)
    : ∃ e, e.Answers ∧ ∃ manager', (machine typeOf).step manager e = some manager' := by
  cases hpending : manager.remoteDataService.pending with
  | cons call pending =>
    refine ⟨.applied, trivial, ?_⟩
    simp [machine, step, FirebaseDataService.applyOldest, hpending]
  | nil =>
    cases hcallbacks : manager.remoteDataService.callbacks with
    | cons callback callbacks =>
      refine ⟨.completion 0, trivial, ?_⟩
      simp [machine, step, deliver, hcallbacks]
    | nil =>
      exfalso
      apply h
      simp [unanswered, hpending, hcallbacks]

theorem merge_unanswered {manager : DataServiceManager} (h : Healthy typeOf manager)
    (hnetwork : manager.network = .Available)
    : manager.checkAndMergeChangeInLocalDatabase.unanswered
        = manager.unanswered + 2 * manager.records.length := by
  unfold unanswered
  rw [merge_pending h.verdicts (h.toTidy.sends manager.elsewhere) hnetwork,
    manager.checkAndMergeChangeInLocalDatabase_frame.callbacks]
  simp only [List.length_append, List.length_map]
  have hlength : manager.localDataService.getAllRecords.length = manager.records.length :=
    (Table.list_perm _ _).length_eq
  omega

theorem answers_records {manager final : DataServiceManager} {answers : List Event}
    (h : Healthy typeOf manager) (hanswers : ∀ e ∈ answers, e.Answers)
    (hrun : (machine typeOf).run manager answers = some final)
    (hflight : ∀ record ∈ manager.records, manager.InFlight record)
    : ∀ record ∈ final.records, final.InFlight record := by
  have hmeets : (machine typeOf).Meets (fun _ e => e.Answers) manager answers :=
    Machine.meets_of_forall (fun _ => hanswers) manager
  refine (Machine.invariant_of_meets (I := fun manager => Healthy typeOf manager
    ∧ ∀ record ∈ manager.records, manager.InFlight record) ?_ ⟨h, hflight⟩ hmeets hrun).2
  rintro manager e manager' ⟨hhealthy, hflight⟩ he hstep
  refine ⟨(step_simulates manager.elsewhere manager e manager' hhealthy hstep).1, ?_⟩
  intro record hrecord
  have hbefore := hflight record (step_records (he.not_merges _) hstep hrecord)
  cases e with
  | addObject data => exact he.elim
  | updateObject data => exact he.elim
  | deleteObject data => exact he.elim
  | checkAndMerge => exact he.elim
  | network state => exact he.elim
  | rejected err => exact he.elim
  | applied => exact applied_inFlight hstep hbefore
  | completion i => exact completion_inFlight hhealthy.verdicts hstep hrecord hbefore

theorem synced_iff {final : DataServiceManager}
    (hflight : ∀ record ∈ final.records, final.InFlight record)
    (hsettled : ∀ (T : Kind) (id : String),
      (∃ record ∈ final.records,
          record.collectionName = T.getRemoteCollectionName ∧ record.objectID = id)
        ∨
      ∀ calls : List (RemoteWrite × OfflineStorageModel),
        calls.Sublist final.remoteDataService.pending →
          (final.remoteDataService.db.writeAll (calls.map Prod.fst)).document
              T.getRemoteCollectionName id
            = (final.realm.object T id).map DataServiceObject.getJSONData)
    : Synced final ↔ final.unanswered = 0 := by
  constructor
  . intro h
    unfold unanswered
    rw [h.pending, h.callbacks]
    rfl
  . intro h
    unfold unanswered at h
    have hpending : final.remoteDataService.pending = [] :=
      List.eq_nil_of_length_eq_zero (by omega)
    have hcallbacks : final.remoteDataService.callbacks = [] :=
      List.eq_nil_of_length_eq_zero (by omega)
    have hrecords : final.records = [] := by
      apply List.eq_nil_iff_forall_not_mem.mpr
      intro record hrecord
      have := hflight record hrecord
      unfold InFlight at this
      rw [hpending, hcallbacks] at this
      simp at this
    refine ⟨hrecords, hpending, hcallbacks, ?_⟩
    intro T id
    cases hsettled T id with
    | inl hrecord =>
      rw [hrecords] at hrecord
      simp at hrecord
    | inr hall => exact hall [] (List.nil_sublist _)

/--
From any state reached with the network available, merge and let the server answer without errors:
the number of answers is bounded, there is an answer to come as long as the bound is not reached,
and it is reached exactly when the outbox is empty, nothing is in flight and the cloud has the
documents of all objects.
-/
theorem merge_drains {start mid final : DataServiceManager} {events answers : List Event}
    (hstart : Initial typeOf start) (hrun : (machine typeOf).run start events = some mid)
    (hnetwork : mid.network = .Available) (hanswers : ∀ e ∈ answers, e.Answers)
    (hfinal : (machine typeOf).run mid (.checkAndMerge :: answers) = some final)
    : answers.length ≤ mid.unanswered + 2 * mid.records.length
      ∧ (answers.length < mid.unanswered + 2 * mid.records.length →
          ∃ e, e.Answers ∧ ∃ final', (machine typeOf).step final e = some final')
      ∧ (answers.length = mid.unanswered + 2 * mid.records.length ↔ Synced final) := by
  have hmid := hstart.run_healthy hrun
  have hwhole : (machine typeOf).run start (events ++ .checkAndMerge :: answers) = some final :=
    Machine.run_append_eq_some.mpr ⟨mid, hrun, hfinal⟩
  obtain ⟨merged, hmerge, hrest⟩ := Machine.run_cons_eq_some.mp hfinal
  have hhealthy : Healthy typeOf merged :=
    (step_simulates mid.elsewhere mid .checkAndMerge merged hmid hmerge).1
  have hframe := mid.checkAndMergeChangeInLocalDatabase_frame
  cases hmerge
  have hcount := run_unanswered hanswers hrest
  rw [merge_unanswered hmid hnetwork] at hcount
  have hflight : ∀ record ∈ final.records, final.InFlight record := by
    apply answers_records hhealthy hanswers hrest
    intro record hrecord
    rw [hframe.records] at hrecord
    exact .inl (merge_sent hmid.verdicts (hmid.toTidy.sends mid.elsewhere) hnetwork hrecord)
  refine ⟨by omega, ?_, ?_⟩
  . intro hlt
    exact exists_answer (by omega)
  . rw [synced_iff hflight (record_or_settled hstart hwhole)]
    omega

theorem merge_drains_rejected
    : ∃ mid final, (machine fun _ => .shot).run sampleManager
        [.addObject (.shot sampleShot), .rejected ⟨"", 0⟩, .completion 0] = some mid
      ∧ (machine fun _ => .shot).run mid [.checkAndMerge, .applied, .completion 0] = some final
      ∧ (2 = mid.unanswered + 2 * mid.records.length ↔ Synced final) := by
  have hrun : ∃ mid final, (machine fun _ => .shot).run sampleManager
        [.addObject (.shot sampleShot), .rejected ⟨"", 0⟩, .completion 0] = some mid
      ∧ (machine fun _ => .shot).run mid [.checkAndMerge, .applied, .completion 0] = some final
      ∧ mid.network = .Available :=
    ⟨_, _, rfl, rfl, rfl⟩
  have hanswers : ∀ e ∈ [Event.applied, .completion 0], e.Answers := by
    simp [Event.Answers]
  obtain ⟨mid, final, hmid, hfinal, hnetwork⟩ := hrun
  exact ⟨mid, final, hmid, hfinal,
    (merge_drains (sampleManager_initial _) hmid hnetwork hanswers hfinal).2.2⟩

end DataServiceManager
