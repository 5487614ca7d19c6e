import ProcessWatch.Proofs.Record.Placed
import ProcessWatch.Proofs.Tracker.Run

/-!
# Every tracker keeps its records in their places

After every run, whatever snapshots and statuses it consisted of, each record stands under its own
pid with its files under their names, and only processes that run have open files.

* **`ProcessRecord.invariant_placed`** — everything that happens to a record keeps it in its place.
* **`Tracker.placed_joined`**, **`Tracker.placed_after`** — the tables within a cycle and after a
  run.
-/

namespace ProcessWatch

/-- Nothing is asked of the snapshots: a record is in its place whatever they say. -/
theorem ProcessRecord.invariant_placed : Invariant (fun _ => True) Placed where
  create ctx pid s _ := placed_create ctx pid s
  fill _ _ := trivial
  merge h hi running hok := h.merge hi running hok
  settle reported h := h.settle reported

namespace Tracker

/-- The records within a cycle are in their places. -/
theorem placed_joined {t : Tracker} (h : t.processes.Placed) (settings : Settings)
    (entries : Entries) : (t.joined settings entries).Placed :=
  ProcessRecord.invariant_placed.joined h settings fun _ _ => trivial

/-- The records that a run leads to are in their places. -/
theorem placed_after (events : List Event) : (after events).processes.Placed :=
  ProcessRecord.invariant_placed.after fun _ _ _ _ => trivial

end Tracker

end ProcessWatch
