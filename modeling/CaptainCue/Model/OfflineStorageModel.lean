/-!
This module contains the records of the outbox.
-/

inductive MenthodType where
  | create | update | delete
  deriving DecidableEq, Repr

def uuidString (n : Nat) : String :=
  -- The value of the `n`-th call of `UUID().uuidString`. Only that the calls differ matters.
  String.ofList (List.replicate n '0')

theorem uuidString_inj {n m : Nat} : uuidString n = uuidString m ↔ n = m := by
  unfold uuidString
  rw [String.ofList_inj]
  constructor
  . intro h
    simpa using congrArg List.length h
  . intro h
    rw [h]

structure OfflineStorageModel where
  id : String
  collectionName : String := ""
  menthodType : Int := -1
  objectID : String := ""
  deriving DecidableEq, Repr

namespace OfflineStorageModel

def getMenthodValue : MenthodType → Int
  | .create => 0
  | .update => 1
  | .delete => 2

def getMenthod (record : OfflineStorageModel) : Option MenthodType :=
  match record.menthodType with
  | 0 => some .create
  | 1 => some .update
  | 2 => some .delete
  | _ => none

def make (uuidString : String) (collectionName : String) (menthodType : MenthodType)
    (objectID : String) : OfflineStorageModel where
  id := uuidString
  collectionName := collectionName
  menthodType := getMenthodValue menthodType
  objectID := objectID

@[simp]
theorem getMenthod_make (uuid collectionName : String) (menthodType : MenthodType)
    (objectID : String)
    : (make uuid collectionName menthodType objectID).getMenthod = some menthodType := by
  cases menthodType <;> rfl

end OfflineStorageModel
