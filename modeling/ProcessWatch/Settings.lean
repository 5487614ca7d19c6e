import ProcessWatch.History

/-!
# Settings of the tracking

What a cycle needs to know besides the answers of the monitor.
-/

namespace ProcessWatch

/-- Resolved settings. -/
structure Settings where
  /-- Milliseconds between two cycles. -/
  interval : UInt64
  /-- Number of samples in every history. -/
  capacity : Capacity
  /-- Number of cycles that a stopped process is kept. -/
  keepDeadFor : UInt32
  /-- Fields sampled into the history of a process. -/
  processKeys : List String
  /-- Fields sampled into the history of a descriptor. -/
  fileKeys : List String
  /-- Fields shown in the tree. -/
  treeKeys : List String

namespace Settings

/-- The settings where nothing else is asked for. -/
def default : Settings where
  interval := 1000
  capacity := ⟨100, by decide⟩
  keepDeadFor := 10
  processKeys :=
    ["time", "memory_percent", "memory_vms", "memory_rss", "cpu_user", "cpu_system", "cpu_percent"]
  fileKeys := ["pos", "size", "time_of_stat"]
  treeKeys := ["cpu_percent", "memory_rss", "is_running", "is_master"]

end Settings

end ProcessWatch
