import VoxelCache.Grid

/-!
# Pending requests

Addresses that wait to be loaded, the most urgent first.  Smaller priorities are
more urgent, and equal priorities keep the order in which they were put in.  An
address waits at most once: putting it in again changes nothing, not even its
priority.
-/

namespace VoxelCache

section Requests

/-- An address that waits to be loaded. -/
structure Request where
  address : Address
  priority : Int
deriving DecidableEq

/-- Waiting requests, the most urgent first. -/
structure Requests where
  waiting : List Request
deriving DecidableEq

namespace Requests

def empty : Requests :=
  ⟨[]⟩

/-- Put a request behind all requests that are at least as urgent. -/
def insert (r : Request) : List Request → List Request
  | [] => [r]
  | s :: rest =>
      if s.priority ≤ r.priority then s :: insert r rest else r :: s :: rest

theorem insert_perm
    (r : Request) (waiting : List Request) :
    (insert r waiting).Perm (r :: waiting) := by
  induction waiting with
  | nil => exact .refl _
  | cons s rest ih =>
      unfold insert
      split
      · exact (ih.cons s).trans (.swap r s rest)
      · exact .refl _

theorem mem_insert
    {r s : Request} {waiting : List Request} :
    s ∈ insert r waiting ↔ s = r ∨ s ∈ waiting := by
  rw [(insert_perm r waiting).mem_iff, List.mem_cons]

/-- A request that is no more urgent than any other one goes to the end. -/
theorem insert_of_forall_le
    {r : Request} {waiting : List Request}
    (h : ∀ s ∈ waiting, s.priority ≤ r.priority) :
    insert r waiting = waiting ++ [r] := by
  induction waiting with
  | nil => rfl
  | cons s rest ih =>
      rw [insert, if_pos (h s List.mem_cons_self),
        ih fun t ht => h t (List.mem_cons_of_mem s ht)]
      rfl

/-- The addresses that wait, the most urgent first. -/
def addresses (q : Requests) : List Address :=
  q.waiting.map (·.address)

theorem length_addresses (q : Requests) : q.addresses.length = q.waiting.length := by
  simp [addresses]

theorem addresses_drop (q : Requests) (count : Nat) :
    addresses ⟨q.waiting.drop count⟩ = q.addresses.drop count := by
  simp [addresses, List.map_drop]

/-- Whether an address waits. -/
def isWaiting (q : Requests) (a : Address) : Bool :=
  q.waiting.any fun r => r.address == a

theorem isWaiting_iff
    {q : Requests} {a : Address} :
    q.isWaiting a = true ↔ a ∈ q.addresses := by
  simp [isWaiting, addresses]

/-- Put an address in; the answer says whether it was new. -/
def enqueue (q : Requests) (a : Address) (priority : Int) : Bool × Requests :=
  if q.isWaiting a then
    (false, q)
  else
    (true, ⟨insert ⟨a, priority⟩ q.waiting⟩)

/-- An address waits after it was put in, if it did not before then at the end. -/
theorem addresses_enqueue
    {q : Requests} {a : Address} {priority : Int}
    (h : ∀ r ∈ q.waiting, r.priority ≤ priority) :
    (q.enqueue a priority).2.addresses =
      if a ∈ q.addresses then q.addresses else q.addresses ++ [a] := by
  unfold enqueue
  by_cases hwaiting : a ∈ q.addresses
  · rw [if_pos (isWaiting_iff.mpr hwaiting), if_pos hwaiting]
  · have hlast : insert ⟨a, priority⟩ q.waiting = q.waiting ++ [⟨a, priority⟩] :=
      insert_of_forall_le h
    rw [if_neg (mt isWaiting_iff.mp hwaiting), if_neg hwaiting]
    simp [addresses, hlast]

theorem priority_le_of_mem_enqueue
    {q : Requests} {a : Address} {priority : Int} {r : Request}
    (h : ∀ r ∈ q.waiting, r.priority ≤ priority)
    (hr : r ∈ (q.enqueue a priority).2.waiting) :
    r.priority ≤ priority := by
  unfold enqueue at hr
  split at hr
  · exact h r hr
  · rcases mem_insert.mp hr with rfl | hr
    · exact Int.le_refl _
    · exact h r hr

/-- Take out the most urgent addresses, at most `count`. -/
def take (q : Requests) (count : Nat) : List Address × Requests :=
  ((q.waiting.take count).map (·.address), ⟨q.waiting.drop count⟩)

def size (q : Requests) : Nat :=
  q.waiting.length

end Requests

end Requests

end VoxelCache
