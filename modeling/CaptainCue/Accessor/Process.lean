import CaptainCue.Manager.DataServiceManager

/-!
This module contains the objects of Realm as the program holds them: accessors of rows, which may
outlive their rows, and the operations of the services and the manager on them, which raise where
Realm does.
-/

structure RLMException where
  reason : String
  deriving DecidableEq, Repr

namespace RLMException

def invalidated : RLMException := ⟨"Object has been deleted or invalidated."⟩

def addsInvalidated : RLMException :=
  ⟨"Adding a deleted or invalidated object to a Realm is not permitted"⟩

def otherRealm : RLMException := ⟨"Can only delete an object from the Realm it belongs to."⟩

def existingPrimaryKey (name primaryKey : String) : RLMException :=
  ⟨"Attempting to create an object of type '" ++ name ++ "' with an existing primary key value '"
    ++ primaryKey ++ "'."⟩

end RLMException

inductive Row where
  -- The table and the primary key of a row, from which Realm computes the key of the row.
  | object (T : Kind) (primaryKey : String)
  | record (primaryKey : String)
  deriving DecidableEq, Repr

namespace Row

def name : Row → String
  | object .report _ => "ReportModel"
  | object .shot _ => "ShotModel"
  | record _ => "OfflineStorageModel"

def primaryKey : Row → String
  | object _ primaryKey => primaryKey
  | record primaryKey => primaryKey

end Row

def LocalDataObject.row : LocalDataObject → Row
  | .object data => .object data.kind data.id
  | .record item => .record item.id

namespace Realm

def value (realm : Realm) : Row → Option LocalDataObject
  | .object T primaryKey => (realm.object T primaryKey).map .object
  | .record primaryKey => (realm.records.find? primaryKey).map .record

def remove (realm : Realm) : Row → Realm
  | .object .report primaryKey => { realm with reports := realm.reports.erase primaryKey }
  | .object .shot primaryKey => { realm with shots := realm.shots.erase primaryKey }
  | .record primaryKey => { realm with records := realm.records.erase primaryKey }

end Realm

inductive RLMObject where
  -- An object with its own values, or an accessor of a row. The accessor is attached as long as its
  -- `_realm` is not `nil`; its row may be gone before that.
  | unmanaged (value : LocalDataObject)
  | managed (isAttached : Bool) (row : Row)

structure Process where
  realm : Realm
  rank : String → Nat
  -- all objects so far; a reference is a place in this list
  objects : List RLMObject
  -- the completion closures have captured a reference to a record
  remoteDataService : FirebaseDataService Nat
  network : InternetState
  uuids : Nat

abbrev Program := StateT Process (Except RLMException)

namespace Process

/-! ## Realm -/

def create (object : RLMObject) : Program Nat := do
  let process ← get
  set { process with objects := process.objects ++ [object] }
  pure process.objects.length

def accessors (rows : List Row) : Program (List Nat) := do
  -- The elements of a query, each a new accessor.
  let process ← get
  set { process with objects := process.objects ++ rows.map (RLMObject.managed true) }
  pure (List.range' process.objects.length rows.length)

def fields (object : Nat) : Program LocalDataObject := do
  let process ← get
  match process.objects[object]? with
  | some (.unmanaged value) => pure value
  | some (.managed _ row) =>
    match process.realm.value row with
    | some value => pure value
    | none => throw .invalidated
  | none => throw .invalidated

def dataFields (object : Nat) : Program DataServiceObject := do
  match ← fields object with
  | .object data => pure data
  | .record _ => throw .invalidated

def recordFields (object : Nat) : Program OfflineStorageModel := do
  match ← fields object with
  | .record item => pure item
  | .object _ => throw .invalidated

def add (object : Nat) : Program PUnit := do
  let process ← get
  match process.objects[object]? with
  | some (.unmanaged value) =>
    if (process.realm.value value.row).isSome then
      throw (.existingPrimaryKey value.row.name value.row.primaryKey)
    else
      set { process with
        realm := process.realm.add value
        objects := process.objects.set object (.managed true value.row)
      }
  | some (.managed isAttached row) =>
    if (process.realm.value row).isNone then
      throw .addsInvalidated
    else if isAttached then
      pure ⟨⟩
    else
      throw (.existingPrimaryKey row.name row.primaryKey)
  | none => throw .addsInvalidated

def addModified (object : Nat) : Program PUnit := do
  let process ← get
  match process.objects[object]? with
  | some (.unmanaged value) =>
    set { process with
      realm := process.realm.addModified value
      objects := process.objects.set object (.managed true value.row)
    }
  | some (.managed _ row) =>
    if (process.realm.value row).isNone then
      throw .addsInvalidated
    else
      set { process with objects := process.objects.set object (.managed true row) }
  | none => throw .addsInvalidated

def delete (object : Nat) : Program PUnit := do
  -- `RLMDeleteObjectFromRealm`, which removes the row if it is there and detaches the accessor.
  let process ← get
  match process.objects[object]? with
  | some (.managed true row) =>
    set { process with
      realm := process.realm.remove row
      objects := process.objects.set object (.managed false row)
    }
  | _ => throw .otherRealm

/-! ## The local service -/

namespace LocalDataService

def getData (T : Kind) (id : String) : Program (Option Nat) := do
  let process ← get
  if (process.realm.object T id).isSome then
    let object ← create (.managed true (.object T id))
    pure (some object)
  else
    pure none

def getAllRecords : Program (List Nat) := do
  let process ← get
  accessors ((process.realm.records.list process.rank).map fun item => .record item.id)

def addObject (data : Nat) : Program PUnit := add data

def updateObject (data : Nat) : Program PUnit := addModified data

def getShotData (reportID : String) : Program (List Nat) := do
  let process ← get
  let shots := (process.realm.shots.list process.rank).filter fun shot => shot.reportID = reportID
  accessors (shots.map fun shot => .object .shot shot.id)

def deleteObject (data : Nat) : Program PUnit := delete data

def getOfflineStore (objID : String) : Program (List Nat) := do
  let process ← get
  let records :=
    (process.realm.records.list process.rank).filter fun record => record.objectID = objID
  accessors (records.map fun record => .record record.id)

end LocalDataService

/-! ## The manager -/

def remote (call : FirebaseDataService Nat → FirebaseDataService Nat) : Program PUnit :=
  modify fun process => { process with remoteDataService := call process.remoteDataService }

def mergeChangeToRemoteDatabase (item : Nat) (localObj : Option Nat) : Program PUnit := do
  let record ← recordFields item
  match record.getMenthod with
  | some .create =>
    match localObj with
    | some localObj =>
      let data ← dataFields localObj
      remote fun service => service.addObject data item
    | none => pure ⟨⟩
  | some .update =>
    match localObj with
    | some localObj =>
      let data ← dataFields localObj
      remote fun service => service.updateObject data item
    | none => pure ⟨⟩
  | some .delete => do
    let record ← recordFields item
    remote fun service => service.deleteObject' record item
  | none => pure ⟨⟩

def mergeRecord (T : Kind) (item : Nat) : Program PUnit := do
  let record ← recordFields item
  match ← LocalDataService.getData T record.objectID with
  | some localObj => mergeChangeToRemoteDatabase item (some localObj)
  | none =>
    let record ← recordFields item
    remote fun service => service.deleteObject' record item

def checkAndMergeChangeInLocalDatabase : Program PUnit := do
  let process ← get
  if process.network ≠ .Available then
    pure ⟨⟩
  else
    let offlineData ← LocalDataService.getAllRecords
    offlineData.forM fun item => do
      let record ← recordFields item
      if record.collectionName = Kind.shot.getRemoteCollectionName then
        mergeRecord .shot item
      else if record.collectionName = Kind.report.getRemoteCollectionName then
        mergeRecord .report item
      else
        pure ⟨⟩

def completion (item : Nat) (err : Option NSError) : Program PUnit :=
  if err = none then
    LocalDataService.deleteObject item
  else
    pure ⟨⟩

def uuid : Program String := do
  let process ← get
  set { process with uuids := process.uuids + 1 }
  pure (uuidString process.uuids)

def changeInLocalDatabase (T : Kind) (data : Nat) (menthodType : MenthodType) : Program PUnit := do
  let previousRecords ← LocalDataService.getOfflineStore (← dataFields data).id
  previousRecords.forM LocalDataService.deleteObject
  let objectID := (← dataFields data).id
  let record := OfflineStorageModel.make (← uuid) T.getRemoteCollectionName menthodType objectID
  let obj ← create (.unmanaged (.record record))
  LocalDataService.addObject obj
  checkAndMergeChangeInLocalDatabase

def addObject (T : Kind) (data : Nat) : Program PUnit := do
  LocalDataService.addObject data
  changeInLocalDatabase T data .create

def updateObject (T : Kind) (data : Nat) : Program PUnit := do
  LocalDataService.updateObject data
  changeInLocalDatabase T data .update

def deleteSingle (T : Kind) (data : Nat) : Program PUnit := do
  changeInLocalDatabase T data .delete
  LocalDataService.deleteObject data

def deleteObject (T : Kind) (data : Nat) : Program PUnit := do
  match T with
  | .report =>
    let shotList ← LocalDataService.getShotData (← dataFields data).id
    shotList.forM (deleteSingle .shot)
    deleteSingle .report data
  | .shot => deleteSingle .shot data

def changeInternetConnection (state : InternetState) : Program PUnit := do
  let process ← get
  if process.network = state then
    pure ⟨⟩
  else
    set { process with network := state }
    checkAndMergeChangeInLocalDatabase

end Process
