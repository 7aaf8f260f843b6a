import FileScanner.Config
import FileScanner.Lib.Dict
import FileScanner.Python

namespace FileScanner
open Collections
set_option autoImplicit true

def PENDING : String := "pending"

def DONE : String := "done"

def ERROR : String := "error"

/-- The message whose names make up the backend key of a record. -/
structure KeyMessage where
  queueName : String
  actorName : String
  messageId : String
  deriving DecidableEq, Repr

def keyMessage (jobId : String) : KeyMessage := ⟨"default", "scan_task", jobId⟩

structure StoredResult where
  owner : String
  record : Dict String Json
  ttlMs : Nat

abbrev Store := Dict KeyMessage StoredResult

def enabled (settings : Settings) : Bool := decide (0 < settings.workerResultTtl)

def record (settings : Settings) (fails : Bool) (store : Store) (jobId owner : String)
    (payload : Dict String Json) : Store :=
  if !enabled settings || fails then store
  else store.set (keyMessage jobId) ⟨owner, payload, settings.workerResultTtl * 1000⟩

def fetchRecord (settings : Settings) (fails : Bool) (store : Store) (jobId owner : String) :
    Option (Dict String Json) :=
  if !enabled settings || fails then none
  else
    match store.lookup (keyMessage jobId) with
    | none => none
    | some wrapper => if wrapper.owner ≠ owner then none else some wrapper.record

theorem keyMessage_injective : Function.Injective keyMessage := by
  intro a b h
  exact congrArg KeyMessage.messageId h

theorem lookup_record (settings : Settings) (fails : Bool) (store : Store) (jobId owner id : String)
    (payload : Dict String Json) :
    (record settings fails store jobId owner payload).lookup (keyMessage id) =
      if id = jobId ∧ enabled settings = true ∧ fails = false then
        some ⟨owner, payload, settings.workerResultTtl * 1000⟩
      else store.lookup (keyMessage id) := by
  rw [record]
  cases enabled settings with
  | false => exact (if_neg (fun h => Bool.false_ne_true h.2.1)).symm
  | true =>
    cases fails with
    | true => exact (if_neg (fun h => Bool.false_ne_true h.2.2.symm)).symm
    | false =>
      simp only [Bool.not_true, Bool.or_self, Bool.false_eq_true, if_false, and_self, and_true,
        Dict.lookup_set, keyMessage_injective.eq_iff]

theorem fetchRecord_record {settings : Settings} (henabled : enabled settings = true)
    (store : Store) (jobId owner : String) (payload : Dict String Json) :
    fetchRecord settings false (record settings false store jobId owner payload) jobId owner =
      some payload := by
  simp only [fetchRecord, record, henabled, Bool.not_true, Bool.or_false, Bool.false_eq_true,
    if_false, Dict.lookup_set_self, ne_eq, not_true_eq_false]

end FileScanner
