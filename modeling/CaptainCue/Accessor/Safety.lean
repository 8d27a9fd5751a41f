import CaptainCue.Accessor.Operations
import CaptainCue.Library.Machine

/-!
This module contains the runs of the program on accessors: the operations of the user, the answers
of the server and the completions, in any order. None of them ever raises, because no two completion
closures have captured the same accessor, and nothing but its closure deletes through it.
-/

namespace Process

variable {process process' : Process} {manager : DataServiceManager}

/-! ## The events -/

inductive Event where
  -- `getData(byID:)` of the manager, which gives the user an accessor
  | fetch (T : Kind) (id : String)
  | addObject (data : DataServiceObject)
  | updateObject (data : DataServiceObject)
  | deleteObject (object : Nat)
  | checkAndMerge
  | network (state : InternetState)
  | answer (i : Nat) (err : Option NSError)
  | completion (i : Nat)

def liveData (process : Process) (object : Nat) : Option DataServiceObject :=
  -- The object behind an attached accessor whose row is there.
  match process.objects[object]? with
  | some (.managed true (.object T primaryKey)) => process.realm.object T primaryKey
  | _ => none

def deliver (i : Nat) (item : Nat) (err : Option NSError) : Program PUnit := do
  modify fun process =>
    { process with
      remoteDataService.callbacks := process.remoteDataService.callbacks.eraseIdx i
    }
  completion item err

def program (process : Process) : Event → Option (Program PUnit)
  | .fetch T id => some do
    let _ ← LocalDataService.getData T id
  | .addObject data =>
    if process.realm.object data.kind data.id = none then
      some do addObject data.kind (← create (.unmanaged (.object data)))
    else
      none
  | .updateObject data => some do updateObject data.kind (← create (.unmanaged (.object data)))
  | .deleteObject object =>
    (process.liveData object).map fun data => deleteObject data.kind object
  | .checkAndMerge => some checkAndMergeChangeInLocalDatabase
  | .network state => some (changeInternetConnection state)
  | .answer i err =>
    (process.remoteDataService.answer i err).map fun service =>
      modify fun process => { process with remoteDataService := service }
  | .completion i =>
    process.remoteDataService.callbacks[i]?.map fun (item, err) => deliver i item err

def machine : Machine (Except RLMException Process) Event where
  step outcome e :=
    match outcome with
    | .ok process =>
      (process.program e).map fun program => (program.run process).map Prod.snd
    -- nothing comes after an exception
    | .error _ => none

/-! ## Answers and completions -/

theorem forall₂_eraseIdx {α β : Type} {R : α → β → Prop} {l : List α} {l' : List β}
    (h : List.Forall₂ R l l') (i : Nat) : List.Forall₂ R (l.eraseIdx i) (l'.eraseIdx i) := by
  rw [List.eraseIdx_eq_take_drop_succ, List.eraseIdx_eq_take_drop_succ]
  exact List.rel_append (List.forall₂_take i h) (List.forall₂_drop (i + 1) h)

theorem getElem?_of_forall₂ {α β : Type} {R : α → β → Prop} {l : List α} {l' : List β}
    (h : List.Forall₂ R l l') {i : Nat} {a : α} (ha : l[i]? = some a)
    : ∃ b, l'[i]? = some b ∧ R a b := by
  obtain ⟨hi, rfl⟩ := List.getElem?_eq_some_iff.mp ha
  have hi' : i < l'.length := h.length_eq ▸ hi
  exact ⟨l'[i], List.getElem?_eq_getElem hi', (List.forall₂_iff_get.mp h).2 i hi hi'⟩

theorem answer_refines (h : Refines process manager) {i : Nat} {err : Option NSError}
    {service : FirebaseDataService Nat}
    (hanswer : process.remoteDataService.answer i err = some service)
    : ∃ service', manager.remoteDataService.answer i err = some service'
        ∧ Refines { process with remoteDataService := service }
            { manager with remoteDataService := service' } := by
  obtain ⟨w, object, hcall, rfl⟩ := FirebaseDataService.answer_eq_some.mp hanswer
  obtain ⟨⟨w', item⟩, hcall', hw, hnames⟩ := getElem?_of_forall₂ h.pending hcall
  cases (show w = w' from hw)
  refine ⟨_, FirebaseDataService.answer_eq_some.mpr ⟨w, item, hcall', rfl⟩, ?_⟩
  refine ⟨h.realm, h.rank, h.verdicts, h.network, h.uuids, ?_, ?_, ?_, ?_, h.fresh⟩
  . dsimp only
    rw [h.db]
  . exact forall₂_eraseIdx h.pending i
  . exact List.rel_append h.callbacks (.cons ⟨hnames, rfl⟩ .nil)
  . -- the captured accessors stay the same
    have hperm : process.captured.Perm
        (((process.remoteDataService.pending.eraseIdx i).map Prod.snd)
          ++ (process.remoteDataService.callbacks ++ [(object, err)]).map Prod.fst) := by
      unfold captured
      rw [List.map_append, ← List.append_assoc]
      have hpending := (FirebaseDataService.perm_eraseIdx hcall).map Prod.snd
      exact (hpending.append_right _).trans (List.perm_append_singleton object _).symm
    exact hperm.nodup_iff.mp h.nodup

theorem deliver_refines (h : Refines process manager) {i object : Nat} {err : Option NSError}
    (hcall : process.remoteDataService.callbacks[i]? = some (object, err))
    : ∃ manager', manager.deliver i = some manager'
        ∧ Returns (deliver i object err) process fun _ process' => Refines process' manager' := by
  obtain ⟨⟨item, err'⟩, hcall', hnames, herr⟩ := getElem?_of_forall₂ h.callbacks hcall
  cases (show err = err' from herr)
  unfold DataServiceManager.deliver
  rw [hcall']
  refine ⟨_, rfl, ?_⟩
  have hperm : process.captured.Perm (object ::
      (process.remoteDataService.pending.map Prod.snd
        ++ (process.remoteDataService.callbacks.eraseIdx i).map Prod.fst)) := by
    have hcallbacks := (FirebaseDataService.perm_eraseIdx hcall).map Prod.fst
    exact (hcallbacks.append_left _).trans List.perm_middle
  obtain ⟨hfree, hnodup⟩ := List.nodup_cons.mp (hperm.nodup_iff.mp h.nodup)
  have htaken : Refines
      { process with
        remoteDataService.callbacks := process.remoteDataService.callbacks.eraseIdx i
      }
      { manager with
        remoteDataService.callbacks := manager.remoteDataService.callbacks.eraseIdx i
      } :=
    ⟨h.realm, h.rank, h.verdicts, h.network, h.uuids, h.db, h.pending,
      forall₂_eraseIdx h.callbacks i, hnodup, h.fresh⟩
  unfold deliver
  apply Returns.bind
  apply Returns.modify
  exact completion_refines htaken hnames hfree err

/-! ## One event, and all runs -/

inductive Operation (manager : DataServiceManager) : DataServiceManager → Prop where
  -- What an event does to the values.
  | fetch : Operation manager manager
  | addObject {data : DataServiceObject} (hnew : manager.realm.object data.kind data.id = none)
      : Operation manager (manager.addObject data)
  | updateObject (data : DataServiceObject) : Operation manager (manager.updateObject data)
  | deleteObject {data : DataServiceObject}
      (hstored : manager.realm.object data.kind data.id = some data)
      : Operation manager (manager.deleteObject data)
  | checkAndMerge : Operation manager manager.checkAndMergeChangeInLocalDatabase
  | network (state : InternetState) : Operation manager (manager.changeInternetConnection state)
  | answer {i : Nat} {err : Option NSError} {service : FirebaseDataService OfflineStorageModel}
      (hanswer : manager.remoteDataService.answer i err = some service)
      : Operation manager { manager with remoteDataService := service }
  | completion {i : Nat} {manager' : DataServiceManager}
      (hdeliver : manager.deliver i = some manager')
      : Operation manager manager'

theorem live_of_liveData {object : Nat} {data : DataServiceObject}
    (h : process.liveData object = some data)
    : Live process object (.object data) ∧ process.realm.object data.kind data.id = some data := by
  unfold liveData at h
  split at h
  . next T primaryKey hobject =>
    obtain ⟨hkind, hid⟩ := Realm.kind_of_object h
    have hstored : process.realm.object data.kind data.id = some data := by
      rw [hkind, hid]
      exact h
    refine ⟨⟨?_, value_object.mpr hstored⟩, hstored⟩
    rw [hobject, ← hkind, ← hid]
    rfl
  . cases h

theorem program_refines (h : Refines process manager) {e : Event} {program : Program PUnit}
    (hprogram : process.program e = some program)
    : ∃ manager', Operation manager manager'
        ∧ Returns program process fun _ process' => Refines process' manager' := by
  cases e with
  | fetch T id =>
    cases hprogram
    refine ⟨manager, .fetch, ?_⟩
    apply Returns.bind
    apply getData_returns
    . intro _
      exact Returns.pure h
    . intro data object new _ _
      exact Returns.pure h.extend
  | addObject data =>
    simp only [Process.program] at hprogram
    split at hprogram
    . next hnew =>
      cases hprogram
      refine ⟨_, .addObject (h.realm ▸ hnew), ?_⟩
      apply Returns.bind
      apply create_returns
      exact addObject_refines h.extend List.getElem?_concat_length hnew
    . cases hprogram
  | updateObject data =>
    cases hprogram
    refine ⟨_, .updateObject data, ?_⟩
    apply Returns.bind
    apply create_returns
    exact updateObject_refines h.extend List.getElem?_concat_length
  | deleteObject object =>
    obtain ⟨data, hdata, rfl⟩ := Option.map_eq_some_iff.mp hprogram
    obtain ⟨hlive, hstored⟩ := live_of_liveData hdata
    exact ⟨_, .deleteObject (h.realm ▸ hstored), deleteObject_refines h hlive⟩
  | checkAndMerge =>
    cases hprogram
    refine ⟨_, .checkAndMerge, ?_⟩
    exact (checkAndMergeChangeInLocalDatabase_refines h).mono fun _ _ h' => h'.1
  | network state =>
    cases hprogram
    exact ⟨_, .network state, changeInternetConnection_refines h state⟩
  | answer i err =>
    obtain ⟨service, hanswer, rfl⟩ := Option.map_eq_some_iff.mp hprogram
    obtain ⟨service', hanswer', hrefines⟩ := answer_refines h hanswer
    exact ⟨_, .answer hanswer', Returns.modify hrefines⟩
  | completion i =>
    obtain ⟨⟨object, err⟩, hcall, rfl⟩ := Option.map_eq_some_iff.mp hprogram
    obtain ⟨manager', hdeliver, hreturns⟩ := deliver_refines h hcall
    exact ⟨manager', .completion hdeliver, hreturns⟩

def Safe (manager : DataServiceManager) (outcome : Except RLMException Process) : Prop :=
  ∃ process manager', outcome = .ok process ∧ Relation.ReflTransGen Operation manager manager'
    ∧ Refines process manager'

theorem Safe.step {outcome outcome' : Except RLMException Process} (h : Safe manager outcome)
    {e : Event} (hstep : machine.step outcome e = some outcome') : Safe manager outcome' := by
  obtain ⟨process, manager', rfl, hoperations, hrefines⟩ := h
  obtain ⟨program, hprogram, rfl⟩ := Option.map_eq_some_iff.mp hstep
  obtain ⟨manager'', hoperation, a, process', hrun, hrefines'⟩ := program_refines hrefines hprogram
  rw [hrun]
  exact ⟨process', manager'', rfl, hoperations.tail hoperation, hrefines'⟩

theorem Safe.run {outcome outcome' : Except RLMException Process} (h : Safe manager outcome)
    {events : List Event} (hrun : machine.run outcome events = some outcome')
    : Safe manager outcome' :=
  Machine.invariant (fun _ _ _ hsafe hstep => hsafe.step hstep) h hrun

/--
A process that has nothing in flight, for instance after its launch.
-/
structure Idle (process : Process) : Prop where
  pending : process.remoteDataService.pending = []
  callbacks : process.remoteDataService.callbacks = []
  fresh : ∀ n, process.uuids ≤ n → process.realm.records.find? (uuidString n) = none

def values (process : Process) : DataServiceManager where
  localDataService := { realm := process.realm, rank := process.rank, verdicts := [] }
  remoteDataService := {
    db := process.remoteDataService.db
    pending := []
    callbacks := []
    issued := []
  }
  network := process.network
  uuids := process.uuids

theorem Idle.refines (h : Idle process) : Refines process process.values where
  realm := rfl
  rank := rfl
  verdicts := rfl
  network := rfl
  uuids := rfl
  db := rfl
  pending := by
    rw [h.pending]
    exact .nil
  callbacks := by
    rw [h.callbacks]
    exact .nil
  nodup := by
    unfold captured
    rw [h.pending, h.callbacks]
    exact List.nodup_nil
  fresh := h.fresh

theorem Idle.safe (h : Idle process) : Safe process.values (.ok process) :=
  ⟨process, process.values, rfl, .refl, h.refines⟩

theorem run_raises_nothing (hidle : Idle process) {events : List Event}
    {outcome : Except RLMException Process}
    (hrun : machine.run (.ok process) events = some outcome)
    : ∃ process', outcome = .ok process' := by
  obtain ⟨process', -, houtcome, -, -⟩ := hidle.safe.run hrun
  exact ⟨process', houtcome⟩

def sampleProcess : Process where
  realm := .empty
  rank := fun _ => 0
  objects := []
  remoteDataService := { db := .empty, pending := [], callbacks := [], issued := [] }
  network := .Available
  uuids := 0

open DataServiceManager in
/--
The record of the report is sent twice. One of the acknowledgements deletes the record, and the
other comes when the report and the shot are gone as well.
-/
theorem run_raises_nothing_duplicate_send
    : ∃ outcome,
        machine.run (.ok sampleProcess)
          [.addObject (.report sampleReport), .addObject (.shot sampleShot), .answer 0 none,
            .answer 0 none, .completion 0, .deleteObject 0, .completion 0] = some outcome
          ∧ ∃ process', outcome = .ok process' := by
  have hsome : (machine.run (.ok sampleProcess)
      [.addObject (.report sampleReport), .addObject (.shot sampleShot), .answer 0 none,
        .answer 0 none, .completion 0, .deleteObject 0, .completion 0]).isSome := by
    decide +kernel
  obtain ⟨outcome, hrun⟩ := Option.isSome_iff_exists.mp hsome
  exact ⟨outcome, hrun, run_raises_nothing ⟨rfl, rfl, fun _ _ => rfl⟩ hrun⟩

-- Two closures with the same accessor would raise.
example
    : machine.run
        (.ok { sampleProcess with
          objects := [.managed true (.record "id")]
          remoteDataService.callbacks := [(0, none), (0, none)]
        })
        [.completion 0, .completion 0] = some (.error .otherRealm) := rfl

end Process
