import CaptainCue.Manager.SharedCloud

/-!
This module contains any number of devices with one cloud between them, as all installations of the
application have. It shows that a document is never a mixture: it is what its last writer has.
-/

structure Devices (ι : Type) where
  device : ι → DataServiceManager
  cloud : Firestore
  shared : ∀ i, (device i).remoteDataService.db = cloud
  -- the writes the cloud has taken and where each came from, oldest first; no operation reads them
  history : List (ι × RemoteWrite)

namespace Devices

open DataServiceManager (Healthy Initial Key)

variable {ι : Type}

def share (manager : ι → DataServiceManager) (db : Firestore) : Devices ι where
  device := fun i => (manager i).withCloud db
  cloud := db
  shared := fun _ => rfl
  history := []

def lastWriter (history : List (ι × RemoteWrite)) (T : Kind) (id : String) : Option ι :=
  (history.reverse.find? fun (_, w) =>
    w.collection = T.getRemoteCollectionName ∧ w.document = id).map Prod.fst

theorem lastWriter_concat (history : List (ι × RemoteWrite)) (i : ι) (w : RemoteWrite) (T : Kind)
    (id : String)
    : lastWriter (history ++ [(i, w)]) T id
        =
      if T.getRemoteCollectionName = w.collection ∧ id = w.document then
        some i
      else
        lastWriter history T id := by
  unfold lastWriter
  rw [List.reverse_append, List.reverse_singleton, List.singleton_append, List.find?_cons]
  by_cases hkey : T.getRemoteCollectionName = w.collection ∧ id = w.document
  . rw [if_pos hkey, hkey.1, hkey.2]
    simp
  . rw [if_neg hkey]
    have hkey' : ¬ (w.collection = T.getRemoteCollectionName ∧ w.document = id) :=
      fun h => hkey ⟨h.1.symm, h.2.symm⟩
    simp [hkey']

variable [DecidableEq ι]

def step (typeOf : String → Kind) (devices : Devices ι)
    : ι × DataServiceManager.Event → Option (Devices ι)
  | (i, e) =>
    ((devices.device i).step typeOf e).map fun manager => {
      device := fun j =>
        if j = i then
          manager
        else
          (devices.device j).withCloud manager.remoteDataService.db
      cloud := manager.remoteDataService.db
      shared := by
        intro j
        split <;> rfl
      history := devices.history ++ ((devices.device i).written e).map fun w => (i, w)
    }

def machine (typeOf : String → Kind) : Machine (Devices ι) (ι × DataServiceManager.Event) where
  step := step typeOf

/-! ## Each device on a cloud of its own -/

def Traced (start cloud : Firestore) (own : ι → Firestore) (history : List (ι × RemoteWrite))
    : Prop :=
  ∀ T id, cloud.document T.getRemoteCollectionName id
    =
    match lastWriter history T id with
    | none => start.document T.getRemoteCollectionName id
    | some i => (own i).document T.getRemoteCollectionName id

variable {start cloud : Firestore} {own : ι → Firestore} {history : List (ι × RemoteWrite)}

theorem Traced.write (h : Traced start cloud own history) (i : ι) (w : RemoteWrite)
    : Traced start (cloud.write w) (Function.update own i ((own i).write w))
        (history ++ [(i, w)]) := by
  intro T id
  rw [lastWriter_concat, Firestore.document_write]
  by_cases hkey : T.getRemoteCollectionName = w.collection ∧ id = w.document
  . rw [if_pos hkey, if_pos hkey]
    dsimp only
    rw [Function.update_self, Firestore.document_write, if_pos hkey]
  . rw [if_neg hkey, if_neg hkey, h T id]
    cases lastWriter history T id with
    | none => rfl
    | some j =>
      dsimp only
      by_cases hj : j = i
      . rw [hj, Function.update_self, Firestore.document_write, if_neg hkey]
      . rw [Function.update_of_ne hj]

theorem Traced.writeAll (h : Traced start cloud own history) (i : ι) (ws : List RemoteWrite)
    : Traced start (cloud.writeAll ws) (Function.update own i ((own i).writeAll ws))
        (history ++ ws.map fun w => (i, w)) := by
  induction ws generalizing cloud own history with
  | nil =>
    rw [List.map_nil, List.append_nil]
    have hsame : Function.update own i ((own i).writeAll []) = own := Function.update_eq_self i own
    rw [hsame]
    exact h
  | cons w ws ih =>
    have hrest := ih (h.write i w)
    rw [Function.update_self, Function.update_idem, List.append_assoc, List.singleton_append]
      at hrest
    exact hrest

variable {typeOf : String → Kind} {elsewhere : ι → Key → Option JSON} {devices devices' : Devices ι}

structure Inv (typeOf : String → Kind) (elsewhere : ι → Key → Option JSON) (start : Firestore)
    (devices : Devices ι) : Prop where
  healthy : ∀ i, Healthy typeOf (devices.device i)
  parts : ∃ own : ι → Firestore, Traced start devices.cloud own devices.history
    ∧ ∀ i, Outbox.Inv (((devices.device i).withCloud (own i)).abs
        ((devices.device i).target (elsewhere i)))

theorem Inv.step (h : Inv typeOf elsewhere start devices) {e : ι × DataServiceManager.Event}
    (hstep : (machine typeOf).step devices e = some devices')
    : Inv typeOf elsewhere start devices' := by
  obtain ⟨i, e⟩ := e
  obtain ⟨manager, hmanager, rfl⟩ := Option.map_eq_some_iff.mp hstep
  obtain ⟨own, htraced, hinv⟩ := h.parts
  have hhealthy :=
    (DataServiceManager.step_simulates (elsewhere i) _ e manager (h.healthy i) hmanager).1
  constructor
  . intro j
    dsimp only
    split
    . exact hhealthy
    . exact (h.healthy j).withCloud _
  . refine ⟨Function.update own i ((own i).writeAll ((devices.device i).written e)), ?_, ?_⟩
    . dsimp only
      rw [DataServiceManager.step_db hmanager, devices.shared]
      exact htraced.writeAll i _
    . intro j
      dsimp only
      by_cases hj : j = i
      . subst hj
        rw [if_pos rfl, Function.update_self]
        obtain ⟨-, hsteps⟩ := DataServiceManager.step_simulates (elsewhere j) _ e _
          ((h.healthy j).withCloud (own j)) (DataServiceManager.withCloud_step hmanager (own j))
        exact (hinv j).steps hsteps
      . rw [if_neg hj, Function.update_of_ne hj]
        exact hinv j

/--
A document that no device has written is as it was. Any other one is the object of the device that
has written it last, unless that device has a new version of the object in its outbox.
-/
theorem last_writer {begun manager : ι → DataServiceManager}
    {ops : ι → List DataServiceManager.Event} {db : Firestore}
    {events : List (ι × DataServiceManager.Event)} (hbegun : ∀ i, Initial typeOf (begun i))
    (hops : ∀ i, (DataServiceManager.machine typeOf).run (begun i) (ops i) = some (manager i))
    (hrun : (machine typeOf).run (share manager db) events = some devices) (T : Kind) (id : String)
    : match lastWriter devices.history T id with
      | none =>
        devices.cloud.document T.getRemoteCollectionName id
          = db.document T.getRemoteCollectionName id
      | some i =>
        (∃ record ∈ (devices.device i).records,
            record.collectionName = T.getRemoteCollectionName ∧ record.objectID = id)
          ∨ devices.cloud.document T.getRemoteCollectionName id
            = ((devices.device i).realm.object T id).map DataServiceObject.getJSONData := by
  have hinv : Inv typeOf (fun i => (begun i).elsewhere) db devices := by
    refine Machine.invariant (fun _ _ _ h hstep => h.step hstep) ⟨?_, ?_⟩ hrun
    . intro i
      exact (DataServiceManager.run_simulates (hbegun i) (hops i)).1.withCloud db
    . refine ⟨fun i => (manager i).remoteDataService.db, fun _ _ => rfl, ?_⟩
      intro i
      exact (DataServiceManager.run_simulates (hbegun i) (hops i)).2
  obtain ⟨own, htraced, hown⟩ := hinv.parts
  have hdocument := htraced T id
  cases hwriter : lastWriter devices.history T id with
  | none =>
    rw [hwriter] at hdocument
    exact hdocument
  | some i =>
    rw [hwriter] at hdocument
    cases DataServiceManager.record_or_settled_of_inv (begun i).elsewhere (hown i) T id with
    | inl hrecord => exact .inl hrecord
    | inr hsettled => exact .inr (hdocument.trans (hsettled [] (List.nil_sublist _)))

open DataServiceManager (sampleManager sampleManager_initial sampleShot)

def sampleEvents : List (Bool × DataServiceManager.Event) :=
  [(true, .addObject (.shot sampleShot)),
    (false, .addObject (.shot { sampleShot with ballNumber := 4 })), (false, .applied),
    (true, .applied), (true, .completion 0), (false, .completion 0)]

theorem last_writer_same_shot_twice
    : ∃ devices : Devices Bool,
        (machine fun _ => .shot).run (share (fun _ => sampleManager) Firestore.empty) sampleEvents
            = some devices
          ∧ devices.cloud.document Kind.shot.getRemoteCollectionName "s"
            = some (DataServiceObject.shot sampleShot).getJSONData := by
  have hrun : ∃ devices : Devices Bool,
      (machine fun _ => .shot).run (share (fun _ => sampleManager) Firestore.empty) sampleEvents
          = some devices
        ∧ lastWriter devices.history .shot "s" = some true
        ∧ (devices.device true).records = []
        ∧ ((devices.device true).realm.object .shot "s").map DataServiceObject.getJSONData
          = some (DataServiceObject.shot sampleShot).getJSONData :=
    ⟨_, rfl, rfl, rfl, rfl⟩
  obtain ⟨devices, hrun, hwriter, hrecords, hobject⟩ := hrun
  refine ⟨devices, hrun, ?_⟩
  have hops : ∀ _ : Bool, (DataServiceManager.machine fun _ => .shot).run sampleManager []
      = some sampleManager :=
    fun _ => rfl
  have hlast := last_writer (fun _ => sampleManager_initial _) hops hrun .shot "s"
  simp only [hwriter, hrecords, hobject, List.not_mem_nil, false_and, exists_false, false_or]
    at hlast
  exact hlast

end Devices
