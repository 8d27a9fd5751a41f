import Mathlib.Data.List.AList
import Mathlib.Data.List.Perm.Basic
import CaptainCue.Model.Decoding
import CaptainCue.Model.OfflineStorageModel

/-!
This module contains the cloud database and the service that writes to it. The writes are answered
later: the server applies or rejects them, and then the completion closures run. What a closure has
captured is the type parameter `κ`.
-/

structure Firestore where
  collection : String → AList (fun _ : String => JSON)

structure RemoteWrite where
  -- `setData(_:)` on a document, or `delete()` if there is no data.
  collection : String
  document : String
  data : Option JSON
  deriving DecidableEq, Repr

namespace Firestore

def empty : Firestore := ⟨fun _ => ∅⟩

def document (db : Firestore) (collection document : String) : Option JSON :=
  (db.collection collection).lookup document

def getDocuments (db : Firestore) (collection : String) : List JSON :=
  (db.collection collection).entries.map fun document => document.snd.stored

def write (db : Firestore) (w : RemoteWrite) : Firestore where
  collection :=
    Function.update db.collection w.collection <|
      match w.data with
      | some data => (db.collection w.collection).insert w.document data
      | none => (db.collection w.collection).erase w.document

def writeAll (db : Firestore) (ws : List RemoteWrite) : Firestore :=
  ws.foldl write db

@[simp]
theorem writeAll_cons (db : Firestore) (w : RemoteWrite) (ws : List RemoteWrite)
    : db.writeAll (w :: ws) = (db.write w).writeAll ws := rfl

theorem document_write (db : Firestore) (w : RemoteWrite) (collection document : String)
    : (db.write w).document collection document
        =
      if collection = w.collection ∧ document = w.document then
        w.data
      else
        db.document collection document := by
  unfold Firestore.document write
  by_cases hc : collection = w.collection
  . subst hc
    dsimp only
    rw [Function.update_self]
    cases w.data with
    | some data =>
      by_cases hd : document = w.document
      . subst hd
        simp
      . simp [hd, AList.lookup_insert_ne]
    | none =>
      by_cases hd : document = w.document
      . subst hd
        simp
      . simp [hd, AList.lookup_erase_ne]
  . dsimp only
    rw [Function.update_of_ne hc]
    simp [hc]

end Firestore

structure FirebaseDataService (κ : Type) where
  db : Firestore
  -- the writes the server has not answered yet, oldest first
  pending : List (RemoteWrite × κ)
  -- the completion closures that have not run yet, with the error they will get
  callbacks : List (κ × Option NSError)
  -- all writes so far, oldest first; no operation reads this history
  issued : List (RemoteWrite × κ)

namespace FirebaseDataService

variable {κ : Type}

def issue (service : FirebaseDataService κ) (w : RemoteWrite) (completion : κ)
    : FirebaseDataService κ :=
  { service with
    pending := service.pending ++ [(w, completion)]
    issued := service.issued ++ [(w, completion)]
  }

def addObject (service : FirebaseDataService κ) (data : DataServiceObject) (completion : κ)
    : FirebaseDataService κ :=
  service.issue ⟨data.kind.getRemoteCollectionName, data.id, some data.getJSONData⟩ completion

def updateObject (service : FirebaseDataService κ) (data : DataServiceObject) (completion : κ)
    : FirebaseDataService κ :=
  service.issue ⟨data.kind.getRemoteCollectionName, data.id, some data.getJSONData⟩ completion

def deleteObject (service : FirebaseDataService κ) (data : DataServiceObject) (completion : κ)
    : FirebaseDataService κ :=
  service.issue ⟨data.kind.getRemoteCollectionName, data.id, none⟩ completion

def deleteObject' (service : FirebaseDataService κ) (data : OfflineStorageModel) (completion : κ)
    : FirebaseDataService κ :=
  -- The overload `deleteObject(data: OfflineStorageModel, completion:)`.
  service.issue ⟨data.collectionName, data.objectID, none⟩ completion

def getAllData (dateFormatter : DateFormatter) (context : Nat → InitContext) (T : Kind)
    (documents : List JSON) : List DataServiceObject :=
  documents.zipIdx.filterMap fun (item, i) =>
    DataServiceObject.initJSON dateFormatter (context i) item T

theorem kind_of_mem_getAllData {dateFormatter : DateFormatter} {context : Nat → InitContext}
    {T : Kind} {documents : List JSON} {item : DataServiceObject}
    (h : item ∈ getAllData dateFormatter context T documents) : item.kind = T := by
  obtain ⟨⟨map, i⟩, -, hinit⟩ := List.mem_filterMap.mp h
  exact DataServiceObject.kind_of_initJSON hinit

/-! The answers of the server -/

def applyOldest (service : FirebaseDataService κ) : Option (FirebaseDataService κ) :=
  match service.pending with
  | [] => none
  | (w, completion) :: pending =>
    some { service with
      db := service.db.write w
      pending := pending
      callbacks := service.callbacks ++ [(completion, none)]
    }

def rejectOldest (service : FirebaseDataService κ) (err : NSError)
    : Option (FirebaseDataService κ) :=
  match service.pending with
  | [] => none
  | (_, completion) :: pending =>
    some { service with
      pending := pending
      callbacks := service.callbacks ++ [(completion, some err)]
    }

def answer (service : FirebaseDataService κ) (i : Nat) (err : Option NSError)
    : Option (FirebaseDataService κ) :=
  match service.pending[i]? with
  | some (w, completion) =>
    some { service with
      db := if err = none then service.db.write w else service.db
      pending := service.pending.eraseIdx i
      callbacks := service.callbacks ++ [(completion, err)]
    }
  | none => none

theorem perm_eraseIdx {α : Type} {l : List α} {i : Nat} {a : α} (h : l[i]? = some a)
    : l.Perm (a :: l.eraseIdx i) := by
  obtain ⟨hi, rfl⟩ := List.getElem?_eq_some_iff.mp h
  exact (List.getElem_cons_eraseIdx_perm hi).symm

theorem answer_eq_some {service service' : FirebaseDataService κ} {i : Nat} {err : Option NSError}
    : service.answer i err = some service'
        ↔ ∃ w completion, service.pending[i]? = some (w, completion) ∧
          service' = { service with
            db := if err = none then service.db.write w else service.db
            pending := service.pending.eraseIdx i
            callbacks := service.callbacks ++ [(completion, err)]
          } := by
  unfold answer
  cases hi : service.pending[i]? with
  | none => simp
  | some call =>
    obtain ⟨w, completion⟩ := call
    simp [eq_comm]

end FirebaseDataService
