import ProcessWatch.Order.SortedMap
import ProcessWatch.Json.Basic

/-!
# Bounded histories

A history keeps its newest samples, oldest first, up to a capacity. `History.append` leaves out a
sample that equals the newest one.
-/

namespace ProcessWatch

/-- Number of samples that a history can hold. -/
structure Capacity where
  count : Nat
  pos : 0 < count
deriving Repr, DecidableEq

/-- The latest samples of something, oldest first. -/
structure History (α : Type) where
  capacity : Capacity
  samples : List α

namespace History

variable {α : Type}

def empty (capacity : Capacity) : History α := ⟨capacity, []⟩

def size (h : History α) : Nat := h.samples.length

def latest? (h : History α) : Option α := h.samples.getLast?

/-- The newest `count` items of a list, oldest first. -/
def newest (count : Nat) (items : List α) : List α := items.drop (items.length - count)

/-- The newest `count` samples, oldest first. -/
def recent (h : History α) (count : Nat) : List α := newest count h.samples

/-- Adds a sample; the oldest one makes room if there is none left. -/
def push (h : History α) (sample : α) : History α :=
  { h with samples := newest h.capacity.count (h.samples ++ [sample]) }

/-- Whether a sample equals the newest one. -/
def repeats [BEq α] (h : History α) (sample : α) : Bool :=
  match h.latest? with
  | some latest => latest == sample
  | none => false

/-- Adds a sample unless it equals the newest one, and tells whether it did. -/
def append [BEq α] (h : History α) (sample : α) : History α × Bool :=
  if h.repeats sample then (h, false) else (h.push sample, true)

/-- Appends every sample of another history, oldest first. -/
def merge [BEq α] (h incoming : History α) : History α :=
  incoming.samples.foldl (fun h sample => (h.append sample).1) h

/-! ## Contents after an operation -/

/-- Of no more items than that, all are among the newest. -/
theorem newest_of_length_le {count : Nat} {items : List α} (h : items.length ≤ count) :
    newest count items = items := by
  unfold newest
  rw [Nat.sub_eq_zero_of_le h, List.drop_zero]

/-- There are as many newest items as asked for, if there are that many. -/
theorem length_newest (count : Nat) (items : List α) :
    (newest count items).length = min count items.length := by
  simp only [newest, List.length_drop]
  omega

@[simp] theorem append_capacity [BEq α] (h : History α) (sample : α) :
    (h.append sample).1.capacity = h.capacity := by
  unfold append; split <;> rfl

end History

/-- What was observed of something in one poll cycle. -/
structure Sample where
  index : Nat
  time : Option Float
  values : SortedMap String Json

namespace Sample

/-- Equality of samples; values are equal as JSON is. -/
def same (a b : Sample) : Bool := a.index == b.index && a.time == b.time && a.values == b.values

instance : BEq Sample := ⟨same⟩

end Sample

end ProcessWatch
