import CaptainCue.Manager.Sync

/-!
This module contains `checkRestoreAbility` with everything that can happen until its alert is
confirmed, and after it.
-/

inductive FetchRequest where
  -- A call of `getAllData`. The documents it is answered with are those of one moment after the
  -- call. Once its closure has run, all that is left of it is the variable the closure has set.
  | sent
  | answered (documents : List JSON)
  | completed (data : Option (List DataServiceObject))

structure RestoreSession where
  manager : DataServiceManager
  requests : Kind → FetchRequest
  -- the data captured by the action of the alert, while the alert is shown
  alert : Option (Kind → List DataServiceObject)
  restored : Bool
  -- the objects the user has added and not deleted since; no operation reads them
  added : List (Kind × String)

namespace RestoreSession

inductive Event where
  | manager (e : DataServiceManager.Event)
  | snapshot (T : Kind)
  | fetched (T : Kind) (context : Nat → InitContext)
  | fetchFailed (T : Kind) (err : NSError)
  | confirm

def Fresh (manager : DataServiceManager) (id : String) : Prop :=
  manager.realm.object .report id = none ∧ manager.realm.object .shot id = none
    ∧ (∀ record ∈ manager.records, record.objectID ≠ id)
    ∧ ∀ call ∈ manager.remoteDataService.issued, call.1.document ≠ id

instance (manager : DataServiceManager) (id : String) : Decidable (Fresh manager id) :=
  inferInstanceAs (Decidable (_ ∧ _ ∧ _ ∧ _))

def Allowed (session : RestoreSession) : DataServiceManager.Event → Prop
  -- The calls of the user come before the confirmation, and new objects have fresh ids.
  | .addObject data => session.restored = false ∧ Fresh session.manager data.id
  | .updateObject _ => session.restored = false
  | .deleteObject _ => session.restored = false
  | _ => True

instance (session : RestoreSession)
    : (e : DataServiceManager.Event) → Decidable (session.Allowed e)
  | .addObject _ => inferInstanceAs (Decidable (_ ∧ _))
  | .updateObject _ => inferInstanceAs (Decidable (_ = _))
  | .deleteObject _ => inferInstanceAs (Decidable (_ = _))
  | .checkAndMerge => .isTrue trivial
  | .network _ => .isTrue trivial
  | .applied => .isTrue trivial
  | .rejected _ => .isTrue trivial
  | .completion _ => .isTrue trivial

def remember (session : RestoreSession) : DataServiceManager.Event → List (Kind × String)
  | .addObject data => (data.kind, data.id) :: session.added
  | .deleteObject data =>
    session.added.filter fun object =>
      ∀ item ∈ session.manager.cascade data, object ≠ (item.kind, item.id)
  | _ => session.added

def checkRestoreAbility (manager : DataServiceManager) : Option RestoreSession :=
  -- `checkRestoreAbility(fromVC:completion:)`, up to the two calls of `getAllData` at its end.
  if manager.localDataService.isDatabaseEmpty = false then
    none
  else
    some {
      manager := manager
      requests := fun _ => .sent
      alert := none
      restored := false
      added := []
    }

def checkShowAlert (session : RestoreSession) : RestoreSession :=
  match session.requests .shot, session.requests .report with
  | .completed (some shotData), .completed (some reportData) =>
    if shotData.isEmpty = false ∨ reportData.isEmpty = false then
      { session with
        alert := some fun
          | .report => reportData
          | .shot => shotData
      }
    else
      session
  | _, _ => session

def closure (session : RestoreSession) (T : Kind) (datas : Option (List DataServiceObject))
    (err : Option NSError) : RestoreSession :=
  match err with
  | some _ => { session with requests := Function.update session.requests T (.completed none) }
  | none =>
    checkShowAlert
      { session with
        requests := Function.update session.requests T (.completed (some (datas.getD [])))
      }

def reportClosure (session : RestoreSession)
    : Option (List DataServiceObject) → Option NSError → RestoreSession :=
  session.closure .report

def shotClosure (session : RestoreSession)
    : Option (List DataServiceObject) → Option NSError → RestoreSession :=
  session.closure .shot

def getAllDataClosure (session : RestoreSession)
    : Kind → Option (List DataServiceObject) → Option NSError → RestoreSession
  | .report => session.reportClosure
  | .shot => session.shotClosure

@[simp]
theorem getAllDataClosure_eq (session : RestoreSession) (T : Kind)
    : session.getAllDataClosure T = session.closure T := by
  cases T <;> rfl

def confirm (session : RestoreSession) (data : Kind → List DataServiceObject) : RestoreSession :=
  { session with
    manager := session.manager.onLocal fun service =>
      (service.restoreData .report (data .report)).restoreData .shot (data .shot)
    alert := none
    restored := true
  }

section Step

variable (typeOf : String → Kind) (dateFormatter : DateFormatter)

def step (session : RestoreSession) : Event → Option RestoreSession
  | .manager e =>
    if session.Allowed e then
      (session.manager.step typeOf e).map fun manager =>
        { session with manager := manager, added := session.remember e }
    else
      none
  | .snapshot T =>
    match session.requests T with
    | .sent =>
      let documents :=
        session.manager.remoteDataService.db.getDocuments T.getRemoteCollectionName
      some { session with requests := Function.update session.requests T (.answered documents) }
    | _ => none
  | .fetched T context =>
    match session.requests T with
    | .answered documents =>
      let datas := FirebaseDataService.getAllData dateFormatter context T documents
      some (session.getAllDataClosure T (some datas) none)
    | _ => none
  | .fetchFailed T err =>
    match session.requests T with
    | .completed _ => none
    | _ => some (session.getAllDataClosure T none (some err))
  | .confirm =>
    match session.alert with
    | some data => some (session.confirm data)
    | none => none

def machine : Machine RestoreSession Event where
  step := step typeOf dateFormatter

end Step

end RestoreSession
