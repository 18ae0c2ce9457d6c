import RamsesProxy.Lib.CharArray

set_option autoImplicit false

-- The regular files of a file system by their paths, and the calls that move them.
abbrev Files := Bytes → Option Bytes

namespace Files

def put (path : Bytes) (content : Option Bytes) (files : Files) : Files := fun other => if other = path then content else files other

def unlink (path : Bytes) (files : Files) : Option Files := (files path).map fun _ => files.put path none

def rename (old new : Bytes) (files : Files) : Option Files :=
  (files old).map fun content => (files.put old none).put new (some content)

-- A write to a file opened with O_APPEND and O_CREAT.
def append (path bytes : Bytes) (files : Files) : Files := files.put path (some ((files path).getD [] ++ bytes))

section Reads

variable (files after : Files) (path old new : Bytes)

theorem unlinked (done : files.unlink path = some after) (other : Bytes) :
    after other = if other = path then none else files other := by
  obtain ⟨content, _, rfl⟩ := Option.map_eq_some_iff.mp done
  rfl

theorem renamed (done : files.rename old new = some after) (other : Bytes) :
    after other = if other = new then files old else if other = old then none else files other := by
  obtain ⟨content, found, rfl⟩ := Option.map_eq_some_iff.mp done
  simp only [put, found]

theorem unlink_ok (content : Bytes) (found : files path = some content) : ∃ after, files.unlink path = some after :=
  ⟨_, by rw [unlink, found]; rfl⟩

theorem rename_ok (content : Bytes) (found : files old = some content) : ∃ after, files.rename old new = some after :=
  ⟨_, by rw [rename, found]; rfl⟩

end Reads

end Files
