import BucketStore.Validation

namespace BucketStore

structure User where
  name : String
  snapshot : String
deriving Repr, DecidableEq

namespace User

def nameField : Field String := { key := "name", rule := Rule.nonemptyText }

def snapshotField : Field String := { key := "snapshot", rule := Rule.text }

def title : String := "User"

def ofFields (fields : List (String × Value)) : Except Fault User :=
  (((nameField.check fields).both (snapshotField.check fields)).map
    fun (name, snapshot) => ⟨name, snapshot⟩).run title

end User

end BucketStore
