import CaptainCue.Manager.Convergence

/-!
This module contains what the calls of the manager make of the stored objects when all transactions
commit, for the screens that query them afterwards.
-/

namespace DataServiceManager

variable {typeOf : String → Kind}

structure Becomes (manager manager' : DataServiceManager)
    (object : Kind → String → Option DataServiceObject) : Prop where
  verdicts : manager'.verdicts = []
  rank : manager'.localDataService.rank = manager.localDataService.rank
  object : ∀ T id, manager'.realm.object T id = object T id

def Event.IsBackground : Event → Prop
  | .checkAndMerge | .network _ | .applied | .rejected _ | .completion _ => True
  | .addObject _ | .updateObject _ | .deleteObject _ => False

instance : (e : Event) → Decidable e.IsBackground
  | .checkAndMerge | .network _ | .applied | .rejected _ | .completion _ => .isTrue trivial
  | .addObject _ | .updateObject _ | .deleteObject _ => .isFalse id

theorem merge_becomes {manager : DataServiceManager} (h : manager.verdicts = [])
    : Becomes manager manager.checkAndMergeChangeInLocalDatabase manager.realm.object := by
  have hframe := manager.checkAndMergeChangeInLocalDatabase_frame
  refine ⟨checkAndMergeChangeInLocalDatabase_verdicts h, hframe.rank, ?_⟩
  intro T id
  rw [hframe.realm]

theorem background_becomes {manager manager' : DataServiceManager} {e : Event}
    (he : e.IsBackground) (h : manager.verdicts = [])
    (hstep : (machine typeOf).step manager e = some manager')
    : Becomes manager manager' manager.realm.object := by
  cases e with
  | addObject data => exact he.elim
  | updateObject data => exact he.elim
  | deleteObject data => exact he.elim
  | checkAndMerge =>
    cases hstep
    exact merge_becomes h
  | network state =>
    cases hstep
    unfold changeInternetConnection
    split
    . exact ⟨h, rfl, fun _ _ => rfl⟩
    . have hmerge : Becomes { manager with network := state }
          { manager with network := state }.checkAndMergeChangeInLocalDatabase
          manager.realm.object :=
        merge_becomes h
      exact ⟨hmerge.verdicts, hmerge.rank, hmerge.object⟩
  | applied =>
    obtain ⟨service, -, rfl⟩ := Option.map_eq_some_iff.mp hstep
    exact ⟨h, rfl, fun _ _ => rfl⟩
  | rejected err =>
    obtain ⟨service, -, rfl⟩ := Option.map_eq_some_iff.mp hstep
    exact ⟨h, rfl, fun _ _ => rfl⟩
  | completion i =>
    obtain ⟨item, err, l, r, -, rfl⟩ := deliver_eq_some hstep
    refine ⟨?_, ?_, ?_⟩
    . apply completion_verdicts
      exact h
    . unfold completion
      split <;> rfl
    . intro T id
      rw [completion_object]

theorem recordChange_rank (manager : DataServiceManager) (data : DataServiceObject)
    (menthodType : MenthodType)
    : (manager.recordChange data menthodType).localDataService.rank
        = manager.localDataService.rank := by
  unfold recordChange RealmDataService.addObject
  simp

theorem saveObject_becomes {manager : DataServiceManager} (h : manager.verdicts = [])
    (data : DataServiceObject) (menthodType : MenthodType)
    : Becomes manager (manager.saveObject data menthodType) fun T id =>
        if T = data.kind ∧ id = data.id then some data else manager.realm.object T id := by
  refine ⟨saveObject_verdicts h data menthodType, ?_, saveObject_object h data menthodType⟩
  rw [saveObject_eq_merge, (checkAndMergeChangeInLocalDatabase_frame _).rank, recordChange_rank]
  rfl

theorem updateObject_becomes {manager : DataServiceManager} (h : manager.verdicts = [])
    (data : DataServiceObject)
    : Becomes manager (manager.updateObject data) fun T id =>
        if T = data.kind ∧ id = data.id then some data else manager.realm.object T id :=
  saveObject_becomes h data .update

theorem addObject_becomes {manager : DataServiceManager} (h : manager.verdicts = [])
    {data : DataServiceObject} (hnew : manager.realm.object data.kind data.id = none)
    : Becomes manager (manager.addObject data) fun T id =>
        if T = data.kind ∧ id = data.id then some data else manager.realm.object T id := by
  rw [addObject_eq hnew]
  exact saveObject_becomes h data .create

theorem deleteSingle_rank (manager : DataServiceManager) (data : DataServiceObject)
    : (manager.deleteSingle data).localDataService.rank = manager.localDataService.rank := by
  rw [deleteSingle_eq]
  have hframe := (manager.recordChange data .delete).checkAndMergeChangeInLocalDatabase_frame
  exact hframe.rank.trans (recordChange_rank manager data .delete)

theorem deleteObject_becomes {manager : DataServiceManager} (h : manager.verdicts = [])
    (data : DataServiceObject)
    : Becomes manager (manager.deleteObject data) fun T id =>
        if ∃ item ∈ manager.cascade data, (T, id) = (item.kind, item.id) then
          none
        else
          manager.realm.object T id := by
  refine ⟨deleteObject_verdicts h data, ?_, ?_⟩
  . rw [deleteObject_eq]
    induction manager.cascade data generalizing manager with
    | nil => rfl
    | cons item items ih =>
      rw [List.foldl_cons, ih (deleteSingle_verdicts h item), deleteSingle_rank]
  . intro T id
    rw [deleteObject_eq, deleteAll_object h]

end DataServiceManager
