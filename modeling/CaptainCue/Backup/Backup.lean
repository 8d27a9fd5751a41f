import Mathlib.Algebra.Field.Rat
import CaptainCue.Library.Machine
import CaptainCue.Service.FirebaseDataService
import CaptainCue.Service.RealmDataService

/-!
This module contains `backupData`: two fetches, the deletion of all documents they return, and the
uploads that the callbacks of the deletions start.
-/

inductive BackupCallback where
  -- The closures handed to `deleteObject` and `addObject`, with the object they are about. Those
  -- for reports and those for shots differ in the type only.
  | deleted (item : DataServiceObject)
  | uploaded (item : DataServiceObject)
  deriving DecidableEq

inductive BackupReport where
  | progress (value : ℚ)
  | error (err : NSError)
  deriving DecidableEq

structure Backup where
  localDataService : RealmDataService
  remoteDataService : FirebaseDataService BackupCallback
  localData : Kind → List DataServiceObject
  fetching : Kind → Bool
  cloudData : Kind → Option (List DataServiceObject)
  totalTask : Nat
  currentProgress : Nat
  deleteCounter : Kind → Nat
  -- all calls of `completion` so far, oldest first
  log : List BackupReport
  -- all callbacks that have run, oldest first; no operation reads this history
  finished : List (BackupCallback × Option NSError)

namespace Backup

inductive Event where
  | fetched (T : Kind) (context : Nat → InitContext)
  | fetchFailed (T : Kind) (err : NSError)
  | answer (i : Nat) (err : Option NSError)
  | completion (i : Nat)

def onRemote (backup : Backup)
    (call : FirebaseDataService BackupCallback → FirebaseDataService BackupCallback) : Backup :=
  { backup with remoteDataService := call backup.remoteDataService }

def completion (backup : Backup) (report : BackupReport) : Backup :=
  { backup with log := backup.log ++ [report] }

def deleteAll (backup : Backup) (items : List DataServiceObject) : Backup :=
  items.foldl
    (fun backup item => backup.onRemote fun service => service.deleteObject item (.deleted item))
    backup

def addAll (backup : Backup) (items : List DataServiceObject) : Backup :=
  items.foldl
    (fun backup item => backup.onRemote fun service => service.addObject item (.uploaded item))
    backup

def checkLoadingDataDone (backup : Backup) : Backup :=
  match backup.cloudData .report, backup.cloudData .shot with
  | some reportCloudData, some shotCloudData =>
    let backup := { backup with
      totalTask := reportCloudData.length + shotCloudData.length
        + (backup.localData .report).length + (backup.localData .shot).length
      currentProgress := 0
      deleteCounter := fun _ => 0
    }
    let backup := backup.deleteAll shotCloudData
    backup.deleteAll reportCloudData
  | _, _ => backup

def closure (backup : Backup) (T : Kind) (datas : Option (List DataServiceObject))
    (err : Option NSError) : Backup :=
  match err with
  | some err => backup.completion (.error err)
  | none =>
    checkLoadingDataDone
      { backup with cloudData := Function.update backup.cloudData T (some (datas.getD [])) }

def reportClosure (backup : Backup) : Option (List DataServiceObject) → Option NSError → Backup :=
  backup.closure .report

def shotClosure (backup : Backup) : Option (List DataServiceObject) → Option NSError → Backup :=
  backup.closure .shot

def getAllDataClosure (backup : Backup)
    : Kind → Option (List DataServiceObject) → Option NSError → Backup
  | .report => backup.reportClosure
  | .shot => backup.shotClosure

@[simp]
theorem getAllDataClosure_eq (backup : Backup) (T : Kind)
    : backup.getAllDataClosure T = backup.closure T := by
  cases T <;> rfl

def backupData (localDataService : RealmDataService) (db : Firestore) : Backup where
  -- `backupData(completion:)`, up to the two calls of `getAllData` at its end.
  localDataService := localDataService
  remoteDataService := { db := db, pending := [], callbacks := [], issued := [] }
  localData := localDataService.getAllDatas
  fetching := fun _ => true
  cloudData := fun _ => none
  totalTask := 0
  currentProgress := 0
  deleteCounter := fun _ => 0
  log := [.progress 0]
  finished := []

def advance (backup : Backup) : Backup :=
  let backup := { backup with currentProgress := backup.currentProgress + 1 }
  backup.completion (.progress (backup.currentProgress / backup.totalTask))

def runCallback (backup : Backup) (callback : BackupCallback) (err : Option NSError) : Backup :=
  match callback, err with
  | .deleted _, some err => backup.completion (.error err)
  | .deleted item, none =>
    let backup := backup.advance
    let backup := { backup with
      deleteCounter :=
        Function.update backup.deleteCounter item.kind (backup.deleteCounter item.kind + 1)
    }
    if backup.deleteCounter item.kind = ((backup.cloudData item.kind).getD []).length then
      backup.addAll (backup.localData item.kind)
    else
      backup
  | .uploaded _, some err => backup.completion (.error err)
  | .uploaded _, none => backup.advance

section Step

variable (dateFormatter : DateFormatter)

def step (backup : Backup) : Event → Option Backup
  | .fetched T context =>
    if backup.fetching T then
      let documents := backup.remoteDataService.db.getDocuments T.getRemoteCollectionName
      let datas := FirebaseDataService.getAllData dateFormatter context T documents
      let backup := { backup with fetching := Function.update backup.fetching T false }
      some (backup.getAllDataClosure T (some datas) none)
    else
      none
  | .fetchFailed T err =>
    if backup.fetching T then
      let backup := { backup with fetching := Function.update backup.fetching T false }
      some (backup.getAllDataClosure T none (some err))
    else
      none
  | .answer i err =>
    (backup.remoteDataService.answer i err).map fun service =>
      { backup with remoteDataService := service }
  | .completion i =>
    match backup.remoteDataService.callbacks[i]? with
    | some (callback, err) =>
      let backup := { backup with
        remoteDataService.callbacks := backup.remoteDataService.callbacks.eraseIdx i
        finished := backup.finished ++ [(callback, err)]
      }
      some (backup.runCallback callback err)
    | none => none

def machine : Machine Backup Event where
  step := step dateFormatter

end Step

end Backup
