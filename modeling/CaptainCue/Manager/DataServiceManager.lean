import CaptainCue.Service.FirebaseDataService
import CaptainCue.Service.RealmDataService

/-!
This module contains the operations of `DataServiceManager` that keep the outbox, for a manager
whose services and network have been configured.
-/

inductive InternetState where
  | Available | Unavailable
  deriving DecidableEq, Repr

structure DataServiceManager where
  localDataService : RealmDataService
  remoteDataService : FirebaseDataService OfflineStorageModel
  network : InternetState
  -- the number of values `UUID().uuidString` has returned
  uuids : Nat

namespace DataServiceManager

def onLocal (manager : DataServiceManager) (call : RealmDataService → RealmDataService)
    : DataServiceManager :=
  { manager with localDataService := call manager.localDataService }

def onRemote (manager : DataServiceManager)
    (call : FirebaseDataService OfflineStorageModel → FirebaseDataService OfflineStorageModel)
    : DataServiceManager :=
  -- A call of the remote service. A process that is to die before its next commit dies before the
  -- call if it has none left.
  match manager.localDataService.verdicts with
  | .killed 0 :: _ => manager
  | .killed (sends + 1) :: verdicts =>
    { manager with
      localDataService.verdicts := .killed sends :: verdicts
      remoteDataService := call manager.remoteDataService
    }
  | _ => { manager with remoteDataService := call manager.remoteDataService }

def mergeChangeToRemoteDatabase (manager : DataServiceManager) (item : OfflineStorageModel)
    (localObj : Option DataServiceObject) : DataServiceManager :=
  match item.getMenthod with
  | some .create =>
    match localObj with
    | some localObj => manager.onRemote fun service => service.addObject localObj item
    | none => manager
  | some .update =>
    match localObj with
    | some localObj => manager.onRemote fun service => service.updateObject localObj item
    | none => manager
  | some .delete => manager.onRemote fun service => service.deleteObject' item item
  | none => manager

def mergeRecord (T : Kind) (manager : DataServiceManager) (item : OfflineStorageModel)
    : DataServiceManager :=
  -- The two cases of the `switch` on the collection name differ in the type of the object only.
  match manager.localDataService.getData T item.objectID with
  | some localObj => manager.mergeChangeToRemoteDatabase item (some localObj)
  | none => manager.onRemote fun service => service.deleteObject' item item

def checkAndMergeChangeInLocalDatabase (manager : DataServiceManager) : DataServiceManager :=
  if manager.network ≠ .Available then
    manager
  else
    let offlineData := manager.localDataService.getAllRecords
    offlineData.foldl
      (fun manager item =>
        if item.collectionName = Kind.shot.getRemoteCollectionName then
          mergeRecord .shot manager item
        else if item.collectionName = Kind.report.getRemoteCollectionName then
          mergeRecord .report manager item
        else
          manager)
      manager

def completion (manager : DataServiceManager) (item : OfflineStorageModel) (err : Option NSError)
    : DataServiceManager :=
  if err = none then
    manager.onLocal fun service => service.deleteObject (.record item)
  else
    manager

def changeInLocalDatabase (manager : DataServiceManager) (data : DataServiceObject)
    (menthodType : MenthodType) : DataServiceManager :=
  let previousRecords := manager.localDataService.getOfflineStore data.id
  let manager := previousRecords.foldl
    (fun manager item => manager.onLocal fun service => service.deleteObject (.record item))
    manager
  let obj := OfflineStorageModel.make (uuidString manager.uuids) data.kind.getRemoteCollectionName
    menthodType data.id
  let manager := { manager with uuids := manager.uuids + 1 }
  let manager := manager.onLocal fun service => service.addObject (.record obj)
  manager.checkAndMergeChangeInLocalDatabase

def addObject (manager : DataServiceManager) (data : DataServiceObject) : DataServiceManager :=
  let manager := manager.onLocal fun service => service.addObject (.object data)
  manager.changeInLocalDatabase data .create

def updateObject (manager : DataServiceManager) (data : DataServiceObject) : DataServiceManager :=
  let manager := manager.onLocal fun service => service.updateObject (.object data)
  manager.changeInLocalDatabase data .update

def deleteSingle (manager : DataServiceManager) (data : DataServiceObject) : DataServiceManager :=
  let manager := manager.changeInLocalDatabase data .delete
  manager.onLocal fun service => service.deleteObject (.object data)

def deleteObject (manager : DataServiceManager) (data : DataServiceObject) : DataServiceManager :=
  match data with
  | .report report =>
    let shotList := manager.localDataService.getShotData report.id
    let manager := shotList.foldl (fun manager item => manager.deleteSingle (.shot item)) manager
    manager.deleteSingle data
  | .shot _ => manager.deleteSingle data

def changeInternetConnection (manager : DataServiceManager) (state : InternetState)
    : DataServiceManager :=
  -- The handlers of `Network`, which post a notification when the state changes, and the observer
  -- `changeInternetConnection` of the manager.
  if manager.network = state then
    manager
  else
    { manager with network := state }.checkAndMergeChangeInLocalDatabase

end DataServiceManager
