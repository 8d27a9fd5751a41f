import CaptainCue.Library.Lag
import CaptainCue.Manager.Draining

/-!
This module contains what the cloud shows of an object while the device is ahead of it: the
documents of the object at earlier and earlier moments are never shown again once a later one was.
-/

namespace DataServiceManager

variable {typeOf : String → Kind} (other : Key → Option JSON)

def writes (manager : DataServiceManager) (k : Key) : List (Option JSON) :=
  -- what the calls the server has not answered yet write to `k`, oldest first
  manager.remoteDataService.pending.filterMap fun call =>
    if (toWrite call).key = k then some call.1.data else none

theorem writes_congr {manager manager' : DataServiceManager}
    (h : manager'.remoteDataService.pending = manager.remoteDataService.pending) (k : Key)
    : manager'.writes k = manager.writes k := by
  unfold writes
  rw [h]

theorem writes_records (target : Key → Option JSON) (records : List OfflineStorageModel) (k : Key)
    : ((records.map fun record =>
          ((⟨record.collectionName, record.objectID, target (key record)⟩ : RemoteWrite), record)
        ).filterMap fun call => if (toWrite call).key = k then some call.1.data else none)
        = List.replicate (records.countP fun record => key record = k) (target k) := by
  induction records with
  | nil => rfl
  | cons record records ih =>
    have hkey : (toWrite ((⟨record.collectionName, record.objectID, target (key record)⟩
        : RemoteWrite), record)).key = key record := rfl
    rw [List.map_cons, List.filterMap_cons, hkey]
    by_cases hk : key record = k
    . rw [if_pos hk, List.countP_cons_of_pos (by simp [hk]), List.replicate_succ]
      dsimp only
      rw [ih, hk]
    . rw [if_neg hk, List.countP_cons_of_neg (by simp [hk])]
      exact ih

theorem merge_writes {manager : DataServiceManager} {target : Key → Option JSON}
    (hverdicts : manager.verdicts = []) (hsends : manager.Sends target) (k : Key)
    : ∃ n, manager.checkAndMergeChangeInLocalDatabase.writes k
        = manager.writes k ++ List.replicate n (target k) := by
  by_cases hnetwork : manager.network = .Available
  . unfold writes
    rw [merge_pending hverdicts hsends hnetwork, List.filterMap_append, writes_records]
    exact ⟨_, rfl⟩
  . refine ⟨0, ?_⟩
    rw [checkAndMergeChangeInLocalDatabase_eq, if_neg hnetwork]
    simp

/-! ### What one event sends -/

structure Sent (k : Key) (manager manager' : DataServiceManager) : Prop where
  -- The old value of `k` was sent any number of times, and then the new one.
  db : manager'.remoteDataService.db = manager.remoteDataService.db
  writes : ∃ before after, manager'.writes k
    = manager.writes k ++ List.replicate before (manager.target other k)
      ++ List.replicate after (manager'.target other k)

variable {other} {k : Key}

theorem Sent.refl (manager : DataServiceManager) : Sent other k manager manager where
  db := rfl
  writes := ⟨0, 0, by simp⟩

theorem Sent.of_writes {manager manager' : DataServiceManager}
    (hdb : manager'.remoteDataService.db = manager.remoteDataService.db)
    (hwrites : ∃ n, manager'.writes k
      = manager.writes k ++ List.replicate n (manager'.target other k))
    : Sent other k manager manager' where
  db := hdb
  writes := by
    obtain ⟨n, hn⟩ := hwrites
    refine ⟨0, n, ?_⟩
    rw [hn]
    simp

theorem Healthy.saveObject_sent {manager : DataServiceManager} (h : Healthy typeOf manager)
    {data : DataServiceObject} (hdata : typeOf data.id = data.kind) {menthodType : MenthodType}
    (hmenthod : menthodType ≠ .delete)
    : Sent other k manager (manager.saveObject data menthodType) := by
  have htidy := (h.saveObject other hdata hmenthod).1.toTidy
  rw [saveObject_eq_merge] at htidy ⊢
  have hframe := ((manager.saved data).recordChange data menthodType)
    |>.checkAndMergeChangeInLocalDatabase_frame
  have hverdicts : ((manager.saved data).recordChange data menthodType).verdicts = [] := by
    rw [recordChange_verdicts, saved_verdicts h.verdicts]
    exact Verdict.after_nil _
  apply Sent.of_writes
  . rw [hframe.db]
    rfl
  . exact merge_writes hverdicts ((htidy.sends other).of_realm hframe.realm.symm) k

theorem Healthy.deleteSingle_writes {manager : DataServiceManager} (h : Healthy typeOf manager)
    {data : DataServiceObject} (hdata : typeOf data.id = data.kind)
    : ∃ n, (manager.deleteSingle data).writes k
        = manager.writes k
          ++ List.replicate n ((manager.deleteSingle data).target other k) := by
  have hverdicts : (manager.recordChange data .delete).verdicts = [] := by
    rw [recordChange_verdicts, h.verdicts]
    exact Verdict.after_nil _
  have hsends : (manager.recordChange data .delete).Sends
      (Function.update (manager.target other) (objectKey data) none) := by
    apply recordChange_delete_sends other h.toTidy hdata
    intro old hold hid
    exact (mem_replaced_of_verdicts h.verdicts).mpr ⟨hold, hid⟩
  rw [deleteSingle_target other (deleting_takesEffect h.verdicts data)]
  obtain ⟨n, hn⟩ := merge_writes hverdicts hsends k
  refine ⟨n, ?_⟩
  rw [deleteSingle_eq]
  exact hn

theorem deleteSingle_db (manager : DataServiceManager) (data : DataServiceObject)
    : (manager.deleteSingle data).remoteDataService.db = manager.remoteDataService.db := by
  rw [deleteSingle_eq]
  exact (manager.recordChange data .delete).checkAndMergeChangeInLocalDatabase_frame.db

theorem deleteAll_target_none {manager : DataServiceManager} (h : manager.verdicts = [])
    (items : List DataServiceObject) (hnone : manager.target other k = none)
    : (items.foldl deleteSingle manager).target other k = none := by
  induction items generalizing manager with
  | nil => exact hnone
  | cons item items ih =>
    rw [List.foldl_cons]
    apply ih (deleteSingle_verdicts h item)
    rw [deleteSingle_target other (deleting_takesEffect h item)]
    by_cases hk : k = objectKey item
    . rw [hk, Function.update_self]
    . rw [Function.update_of_ne hk]
      exact hnone

theorem Healthy.deleteAll_sent {manager : DataServiceManager} (h : Healthy typeOf manager)
    {items : List DataServiceObject} (hitems : ∀ item ∈ items, typeOf item.id = item.kind)
    : Sent other k manager (items.foldl DataServiceManager.deleteSingle manager) := by
  induction items generalizing manager with
  | nil => exact .refl manager
  | cons item items ih =>
    have hitem := hitems item List.mem_cons_self
    have hnext := (h.deleteSingle other hitem).1
    obtain ⟨hdb, before, after, hrest⟩ := ih hnext fun item' hitem' =>
      hitems item' (List.mem_cons_of_mem _ hitem')
    obtain ⟨n, hn⟩ : ∃ n, (manager.deleteSingle item).writes k
        = manager.writes k ++ List.replicate n ((manager.deleteSingle item).target other k) :=
      h.deleteSingle_writes hitem
    refine ⟨hdb.trans (deleteSingle_db manager item), ?_⟩
    rw [List.foldl_cons, hrest, hn]
    -- either this deletion leaves `k` alone, or `k` has no value from here on
    by_cases hsame : (manager.deleteSingle item).target other k = manager.target other k
    . refine ⟨n + before, after, ?_⟩
      rw [hsame, ← List.replicate_append_replicate]
      simp
    . have hnone : (manager.deleteSingle item).target other k = none := by
        rw [deleteSingle_target other (deleting_takesEffect h.verdicts item)] at hsame ⊢
        by_cases hk : k = objectKey item
        . rw [hk, Function.update_self]
        . rw [Function.update_of_ne hk] at hsame
          exact absurd rfl hsame
      refine ⟨0, n + before + after, ?_⟩
      rw [hnone, deleteAll_target_none hnext.verdicts items hnone,
        ← List.replicate_append_replicate, ← List.replicate_append_replicate]
      simp

theorem Healthy.merge_sent {manager : DataServiceManager} (h : Healthy typeOf manager)
    : Sent other k manager manager.checkAndMergeChangeInLocalDatabase := by
  have hframe := manager.checkAndMergeChangeInLocalDatabase_frame
  apply Sent.of_writes hframe.db
  rw [target_frame hframe]
  exact merge_writes h.verdicts (h.toTidy.sends other) k

theorem Sent.move {manager manager' : DataServiceManager} (h : Sent other k manager manager')
    : Lag.Move (manager.target other k) (manager'.target other k)
        (manager.remoteDataService.db.document k.1 k.2) (manager.writes k)
        (manager'.remoteDataService.db.document k.1 k.2) (manager'.writes k) := by
  obtain ⟨hdb, before, after, hwrites⟩ := h
  rw [hdb, hwrites]
  exact .send _ before after

/-! ### What one answer shows -/

theorem writes_answered {manager : DataServiceManager} {w : RemoteWrite}
    {item : OfflineStorageModel} {pending : List (RemoteWrite × OfflineStorageModel)}
    (hpending : manager.remoteDataService.pending = (w, item) :: pending) (db : Firestore)
    (err : Option NSError)
    : manager.writes k
        =
      if (toWrite (w, item)).key = k then
        w.data :: (manager.answered db item err pending).writes k
      else
        (manager.answered db item err pending).writes k := by
  unfold writes answered
  rw [hpending, List.filterMap_cons]
  by_cases hk : (toWrite (w, item)).key = k
  . rw [if_pos hk, if_pos hk]
  . rw [if_neg hk, if_neg hk]

theorem applied_move {manager : DataServiceManager} {w : RemoteWrite} {item : OfflineStorageModel}
    {pending : List (RemoteWrite × OfflineStorageModel)}
    (hpending : manager.remoteDataService.pending = (w, item) :: pending)
    : Lag.Move (manager.target other k)
        ((manager.answered (manager.remoteDataService.db.write w) item none pending).target other k)
        (manager.remoteDataService.db.document k.1 k.2) (manager.writes k)
        ((manager.remoteDataService.db.write w).document k.1 k.2)
        ((manager.answered (manager.remoteDataService.db.write w) item none pending).writes k) := by
  rw [writes_answered hpending (manager.remoteDataService.db.write w) none,
    Firestore.document_write]
  by_cases hk : (toWrite (w, item)).key = k
  . subst hk
    rw [if_pos rfl, if_pos ⟨rfl, rfl⟩]
    exact .receive _ _ rfl
  . rw [if_neg hk, if_neg]
    . simpa using Lag.Move.send _ 0 0
    . rintro ⟨h₁, h₂⟩
      exact hk (Prod.ext h₁.symm h₂.symm)

theorem rejected_move {manager : DataServiceManager} {w : RemoteWrite} {item : OfflineStorageModel}
    {pending : List (RemoteWrite × OfflineStorageModel)} {err : NSError}
    (hpending : manager.remoteDataService.pending = (w, item) :: pending)
    : Lag.Move (manager.target other k)
        ((manager.answered manager.remoteDataService.db item (some err) pending).target other k)
        (manager.remoteDataService.db.document k.1 k.2) (manager.writes k)
        (manager.remoteDataService.db.document k.1 k.2)
        ((manager.answered manager.remoteDataService.db item (some err) pending).writes k) := by
  rw [writes_answered hpending manager.remoteDataService.db (some err)]
  by_cases hk : (toWrite (w, item)).key = k
  . rw [if_pos hk]
    exact .drop _ _ rfl
  . rw [if_neg hk]
    simpa using Lag.Move.send _ 0 0

theorem step_move (manager : DataServiceManager) (e : Event) (manager' : DataServiceManager)
    (h : Healthy typeOf manager) (hstep : (machine typeOf).step manager e = some manager')
    : Lag.Move (manager.target other k) (manager'.target other k)
        (manager.remoteDataService.db.document k.1 k.2) (manager.writes k)
        (manager'.remoteDataService.db.document k.1 k.2) (manager'.writes k) := by
  unfold machine at hstep
  cases e with
  | addObject data =>
    simp only [step] at hstep
    split at hstep
    . next hguard =>
      cases hstep
      rw [addObject_eq hguard.2]
      exact (h.saveObject_sent hguard.1 (by simp)).move
    . cases hstep
  | updateObject data =>
    simp only [step] at hstep
    split at hstep
    . next hguard =>
      cases hstep
      exact (h.saveObject_sent hguard (by simp)).move
    . cases hstep
  | deleteObject data =>
    simp only [step] at hstep
    split at hstep
    . next hguard =>
      cases hstep
      rw [deleteObject_eq]
      apply Sent.move
      apply h.deleteAll_sent
      intro item hitem
      exact typeOf_of_mem_cascade h.toShape (h.object _ _ _ hguard) hitem
    . cases hstep
  | checkAndMerge =>
    cases hstep
    exact h.merge_sent.move
  | network state =>
    cases hstep
    unfold changeInternetConnection
    split
    . exact (Sent.refl manager).move
    . exact (h.network state).merge_sent.move
  | applied =>
    obtain ⟨service, hservice, rfl⟩ := Option.map_eq_some_iff.mp hstep
    obtain ⟨w, item, pending, hpending, heq⟩ := applyOldest_eq_some hservice
    rw [heq]
    exact applied_move hpending
  | rejected err =>
    obtain ⟨service, hservice, rfl⟩ := Option.map_eq_some_iff.mp hstep
    obtain ⟨w, item, pending, hpending, heq⟩ := rejectOldest_eq_some hservice
    rw [heq]
    exact rejected_move hpending
  | completion i =>
    obtain ⟨item, err, l, r, -, rfl⟩ := deliver_eq_some hstep
    have hservice := completion_remoteDataService
      { manager with remoteDataService.callbacks := l ++ r } item err
    rw [writes_congr (congrArg FirebaseDataService.pending hservice), completion_target, hservice]
    exact (Sent.refl manager).move

/--
For each object and each run there are moments, none later than now and none earlier than the one
before, such that after `n` events the cloud has the document the object had after `seen n` events.
-/
theorem cloud_lags {start final : DataServiceManager} {events : List Event}
    (hstart : Initial typeOf start) (hrun : (machine typeOf).run start events = some final)
    (T : Kind) (id : String)
    : ∃ seen : Nat → Nat, Monotone seen ∧ (∀ n, seen n ≤ n)
        ∧ ∀ n, n ≤ events.length →
            ((machine typeOf).run start (events.take n)).map (fun manager =>
                manager.remoteDataService.db.document T.getRemoteCollectionName id)
              =
            ((machine typeOf).run start (events.take (seen n))).map fun manager =>
              (manager.realm.object T id).map DataServiceObject.getJSONData := by
  have hmove (manager : DataServiceManager) (e : Event) (manager' : DataServiceManager)
      (h : Healthy typeOf manager) (hstep : (machine typeOf).step manager e = some manager')
      : Lag.Move (manager.target start.elsewhere (T.getRemoteCollectionName, id))
          (manager'.target start.elsewhere (T.getRemoteCollectionName, id))
          (manager.remoteDataService.db.document T.getRemoteCollectionName id)
          (manager.writes (T.getRemoteCollectionName, id))
          (manager'.remoteDataService.db.document T.getRemoteCollectionName id)
          (manager'.writes (T.getRemoteCollectionName, id)) :=
    step_move manager e manager' h hstep
  have hlag := Lag.run_lags (I := Healthy typeOf)
    (fun manager e manager' h hstep =>
      ⟨(step_simulates start.elsewhere manager e manager' h hstep).1,
        hmove manager e manager' h hstep⟩)
    hstart.healthy (by rw [target_getRemoteCollectionName]; exact hstart.documents T id)
    (by simp [writes, hstart.pending]) hrun
  simpa only [target_getRemoteCollectionName] using hlag

theorem cloud_lags_two_writes
    : ∃ final, (machine fun _ => .shot).run sampleManager
        [.addObject (.shot sampleShot), .updateObject (.shot { sampleShot with ballNumber := 4 }),
          .applied] = some final
      ∧ ∃ seen : Nat → Nat, Monotone seen ∧ (∀ n, seen n ≤ n)
        ∧ final.remoteDataService.db.document Kind.shot.getRemoteCollectionName "s"
          = (((machine fun _ => .shot).run sampleManager
              ([Event.addObject (.shot sampleShot),
                .updateObject (.shot { sampleShot with ballNumber := 4 }), .applied].take
                  (seen 3))).map fun manager =>
                (manager.realm.object .shot "s").map DataServiceObject.getJSONData).getD none := by
  have hrun : ∃ final, (machine fun _ => .shot).run sampleManager
        [.addObject (.shot sampleShot), .updateObject (.shot { sampleShot with ballNumber := 4 }),
          .applied] = some final := ⟨_, rfl⟩
  obtain ⟨final, hrun⟩ := hrun
  obtain ⟨seen, hmono, hle, hshows⟩ := cloud_lags (sampleManager_initial _) hrun .shot "s"
  refine ⟨final, hrun, seen, hmono, hle, ?_⟩
  have hlast := hshows 3 (by simp)
  rw [List.take_of_length_le (by simp), hrun] at hlast
  rw [← hlast]
  rfl

end DataServiceManager
