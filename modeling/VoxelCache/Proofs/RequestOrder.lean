import VoxelCache.Requests
import Mathlib.Data.Finset.Basic
import Mathlib.Data.Finset.Insert
import Mathlib.Data.List.Sort
import Mathlib.Data.List.Nodup

/-!
# Order of pending requests

Pending requests are kept in the order in which they are handed out.  Here they are compared
with two other ways to keep them.

**Arrivals.**  A list in the order in which the requests were put in.  It is sorted by priority
whenever requests are taken out; the sort is stable.

**Backlogs.**  A heap of numbered requests in no particular order, from which the least one is
taken, and beside it a set of the addresses that wait.  Equal priorities are told apart by the
numbers.

**Results.**
* `byUrgency_concat`, `byUrgency_filter`: sorting arrivals, and sorting what is left of them.
* `filter_priority_byUrgency`: equal priorities keep the order of the arrivals.
* `Lists.call`, `Sorts.call`: each call keeps requests, arrivals and backlog in step.
* `run_refines`: calls in a row are answered alike by all three.
-/

namespace VoxelCache

section RequestOrder

/-- What is done to pending requests. -/
inductive RequestCall where
  | enqueue (a : Address) (priority : Int)
  | take (count : Nat)
  | clear

namespace RequestCall

/-- What a call answers. -/
inductive Answer where
  | entered (isNew : Bool)
  | handed (addresses : List Address)
  | cleared
deriving DecidableEq

/-- The addresses that an answer hands out. -/
def Answer.addresses : Answer → List Address
  | handed addresses => addresses
  | _ => []

/-- Make calls in a row, and collect the answers. -/
def run {σ : Type} (call : σ → RequestCall → Answer × σ) : σ → List RequestCall → List Answer × σ
  | s, [] => ([], s)
  | s, c :: rest =>
      let first := call s c
      let later := run call first.2 rest
      (first.1 :: later.1, later.2)

/-- Whether an address waits after a call, by what the call is and what it answers. -/
def leavesWaiting (a : Address) (before : Bool) : RequestCall × Answer → Bool
  | (enqueue b _, _) => before || b == a
  | (take _, answer) => before && !answer.addresses.contains a
  | (clear, _) => false

end RequestCall

open RequestCall

namespace Requests

/-- Answer a call. -/
def call (q : Requests) : RequestCall → Answer × Requests
  | .enqueue a priority =>
      let entered := q.enqueue a priority
      (.entered entered.1, entered.2)
  | .take count =>
      let taken := q.take count
      (.handed taken.1, taken.2)
  | .clear => (.cleared, .empty)

end Requests

section Arrivals

/-- Pending requests in the order in which they were put in. -/
structure Arrivals where
  requests : List Request

namespace Arrivals

def empty : Arrivals :=
  ⟨[]⟩

/-- Whether a request is at least as urgent as another one. -/
def precedes (r s : Request) : Bool :=
  r.priority ≤ s.priority

/-- Requests by ascending priority, and equal priorities in the order of the list. -/
def byUrgency (requests : List Request) : List Request :=
  requests.mergeSort precedes

/-- Answer a call. -/
def call (l : Arrivals) : RequestCall → Answer × Arrivals
  | .enqueue a priority =>
      if a ∈ l.requests.map (·.address) then
        (.entered false, l)
      else
        (.entered true, ⟨l.requests ++ [⟨a, priority⟩]⟩)
  | .take count =>
      let taken := (byUrgency l.requests).take count
      (.handed (taken.map (·.address)), ⟨l.requests.filter fun r => r ∉ taken⟩)
  | .clear => (.cleared, .empty)

section Sorting

variable {r s : Request} {requests : List Request}

theorem precedes_trans (r s t : Request) (h : precedes r s = true) (h' : precedes s t = true) :
    precedes r t = true := by
  simp only [precedes, decide_eq_true_eq] at h h' ⊢
  omega

theorem precedes_total (r s : Request) : (precedes r s || precedes s r) = true := by
  simp only [precedes, Bool.or_eq_true, decide_eq_true_eq]
  omega

theorem byUrgency_perm (requests : List Request) : (byUrgency requests).Perm requests :=
  List.mergeSort_perm requests precedes

theorem pairwise_byUrgency (requests : List Request) :
    (byUrgency requests).Pairwise fun r s => r.priority ≤ s.priority := by
  have hsorted := List.pairwise_mergeSort precedes_trans precedes_total requests
  simp only [precedes, decide_eq_true_eq] at hsorted
  exact hsorted

/-- A request goes behind those that are at least as urgent. -/
theorem insert_append_of_forall_le
    {before after : List Request}
    (h : ∀ s ∈ before, s.priority ≤ r.priority) :
    Requests.insert r (before ++ after) = before ++ Requests.insert r after := by
  induction before with
  | nil => rfl
  | cons s rest ih =>
      rw [List.cons_append, Requests.insert, if_pos (h s List.mem_cons_self),
        ih fun t ht => h t (List.mem_cons_of_mem s ht), List.cons_append]

/-- A request that is more urgent than all others goes to the front. -/
theorem insert_of_forall_lt
    {waiting : List Request}
    (h : ∀ s ∈ waiting, r.priority < s.priority) :
    Requests.insert r waiting = r :: waiting := by
  cases waiting with
  | nil => rfl
  | cons s rest => exact if_neg (Int.not_le.mpr (h s List.mem_cons_self))

/-- A request goes before those that are less urgent. -/
theorem insert_append_of_forall_lt
    {before after : List Request}
    (h : ∀ s ∈ after, r.priority < s.priority) :
    Requests.insert r (before ++ after) = Requests.insert r before ++ after := by
  induction before with
  | nil => exact insert_of_forall_lt h
  | cons s rest ih =>
      rw [List.cons_append, Requests.insert, Requests.insert, ih]
      split <;> rfl

/-- Inserting a request into a part of the others. -/
theorem filter_insert
    {waiting : List Request}
    (keep : Request → Bool)
    (h : waiting.Pairwise fun r s => r.priority ≤ s.priority) :
    (Requests.insert r waiting).filter keep =
      if keep r then Requests.insert r (waiting.filter keep) else waiting.filter keep := by
  induction waiting with
  | nil =>
      rw [Requests.insert, List.filter_cons, List.filter_nil]
      rfl
  | cons s rest ih =>
      rw [List.pairwise_cons] at h
      by_cases hle : s.priority ≤ r.priority
      · rw [Requests.insert, if_pos hle, List.filter_cons, ih h.2, List.filter_cons]
        cases keep s
        · rfl
        · simp only [if_true]
          rw [Requests.insert, if_pos hle]
          split <;> rfl
      · rw [Requests.insert, if_neg hle, List.filter_cons]
        have hbehind : ∀ t ∈ (s :: rest).filter keep, r.priority < t.priority := by
          intro t ht
          rcases List.mem_cons.mp (List.mem_filter.mp ht).1 with rfl | ht
          · exact Int.not_le.mp hle
          · exact Int.lt_of_lt_of_le (Int.not_le.mp hle) (h.1 t ht)
        rw [insert_of_forall_lt hbehind]

/-- The oldest request goes before all that are no more urgent. -/
theorem byUrgency_cons (r : Request) (requests : List Request) :
    byUrgency (r :: requests) =
      ((byUrgency requests).filter fun s => !precedes r s) ++
        r :: (byUrgency requests).filter (precedes r) := by
  obtain ⟨before, after, hsorted, hrest, hbefore⟩ :=
    List.mergeSort_cons precedes_trans precedes_total r requests
  have hafter : ∀ s ∈ after, precedes r s = true := by
    have hpairs := pairwise_byUrgency (r :: requests)
    rw [byUrgency, hsorted, List.pairwise_append, List.pairwise_cons] at hpairs
    exact fun s hs => decide_eq_true (hpairs.2.1.1 s hs)
  rw [byUrgency, hsorted, byUrgency, hrest, List.filter_append, List.filter_append,
    List.filter_eq_self.mpr hbefore, List.filter_eq_self.mpr hafter,
    List.filter_eq_nil_iff.mpr fun s hs => by simpa using hafter s hs,
    List.filter_eq_nil_iff.mpr fun s hs => by simpa using hbefore s hs,
    List.append_nil, List.nil_append]

/-- The newest request goes behind all that are no less urgent. -/
theorem byUrgency_concat (requests : List Request) (r : Request) :
    byUrgency (requests ++ [r]) = Requests.insert r (byUrgency requests) := by
  induction requests with
  | nil => simp [byUrgency, Requests.insert]
  | cons s rest ih =>
      have hsorted := pairwise_byUrgency rest
      rw [List.cons_append, byUrgency_cons, ih, byUrgency_cons, filter_insert _ hsorted,
        filter_insert _ hsorted]
      by_cases hle : s.priority ≤ r.priority
      · have hbefore : ∀ t ∈ (byUrgency rest).filter (fun t => !precedes s t),
            t.priority ≤ r.priority := by
          intro t ht
          have hless := (List.mem_filter.mp ht).2
          simp only [precedes, Bool.not_eq_true', decide_eq_false_iff_not] at hless
          omega
        have hprecedes : precedes s r = true := decide_eq_true hle
        rw [insert_append_of_forall_le hbefore, Requests.insert, if_pos hle, hprecedes]
        rfl
      · have hafter : ∀ t ∈ s :: (byUrgency rest).filter (precedes s), r.priority < t.priority := by
          intro t ht
          rcases List.mem_cons.mp ht with rfl | ht
          · exact Int.not_le.mp hle
          · have hmore := (List.mem_filter.mp ht).2
            simp only [precedes, decide_eq_true_eq] at hmore
            omega
        have hprecedes : precedes s r = false := decide_eq_false hle
        rw [insert_append_of_forall_lt hafter, hprecedes]
        rfl

/-- Requests that are left keep their order. -/
theorem byUrgency_filter (keep : Request → Bool) (requests : List Request) :
    byUrgency (requests.filter keep) = (byUrgency requests).filter keep := by
  induction requests using List.reverseRecOn with
  | nil => simp [byUrgency]
  | append_singleton rest r ih =>
      rw [List.filter_append, byUrgency_concat, filter_insert keep (pairwise_byUrgency rest), ← ih,
        List.filter_singleton]
      cases keep r
      · rw [cond_false, List.append_nil]
        rfl
      · rw [cond_true, byUrgency_concat]
        rfl

/-- Equal priorities keep the order in which they were put in. -/
theorem filter_priority_byUrgency (requests : List Request) (priority : Int) :
    (byUrgency requests).filter (·.priority = priority) =
      requests.filter (·.priority = priority) := by
  rw [← byUrgency_filter]
  refine List.mergeSort_of_pairwise (List.pairwise_of_forall_mem_list fun r hr s hs => ?_)
  have hr := of_decide_eq_true (List.mem_filter.mp hr).2
  have hs := of_decide_eq_true (List.mem_filter.mp hs).2
  exact decide_eq_true (Int.le_of_eq (hr.trans hs.symm))

end Sorting

end Arrivals

end Arrivals

section Backlogs

/-- A request, numbered in the order in which requests were put in. -/
structure Ticket where
  request : Request
  number : Nat
deriving DecidableEq

namespace Ticket

/-- Whether a ticket is handed out before another one. -/
def isBefore (t u : Ticket) : Bool :=
  t.request.priority < u.request.priority ||
    (t.request.priority == u.request.priority && t.number < u.number)

theorem isBefore_iff
    {t u : Ticket} :
    t.isBefore u = true ↔ t.request.priority < u.request.priority ∨
      t.request.priority = u.request.priority ∧ t.number < u.number := by
  simp [isBefore]

theorem not_isBefore
    {t u : Ticket}
    (h : t.isBefore u = true) :
    (!u.isBefore t) = true := by
  rw [Bool.not_eq_true', ← Bool.not_eq_true, isBefore_iff]
  rw [isBefore_iff] at h
  omega

end Ticket

/-- A heap of tickets, the set of the addresses that wait, and the number of the next ticket. -/
structure Backlog where
  heap : List Ticket
  queued : Finset Address
  next : Nat

namespace Backlog

def empty : Backlog :=
  ⟨[], ∅, 0⟩

/-- A ticket of a heap that no other one is before. -/
def least? (heap : List Ticket) : Option Ticket :=
  heap.find? fun t => heap.all fun u => !u.isBefore t

def enqueue (b : Backlog) (a : Address) (priority : Int) : Bool × Backlog :=
  if a ∈ b.queued then
    (false, b)
  else
    (true, ⟨⟨⟨a, priority⟩, b.next⟩ :: b.heap, insert a b.queued, b.next + 1⟩)

/-- Pop the least ticket up to `count` times, and let its address go. -/
def take (b : Backlog) : Nat → List Address × Backlog
  | 0 => ([], b)
  | count + 1 =>
      match least? b.heap with
      | none => ([], b)
      | some t =>
          let a := t.request.address
          let later := take ⟨b.heap.erase t, b.queued.erase a, b.next⟩ count
          (a :: later.1, later.2)

/-- Answer a call.  Numbers are not used again after the tickets were cleared. -/
def call (b : Backlog) : RequestCall → Answer × Backlog
  | .enqueue a priority =>
      let entered := b.enqueue a priority
      (.entered entered.1, entered.2)
  | .take count =>
      let taken := b.take count
      (.handed taken.1, taken.2)
  | .clear => (.cleared, ⟨[], ∅, b.next⟩)

theorem next_take (b : Backlog) (count : Nat) : (b.take count).2.next = b.next := by
  induction count generalizing b with
  | zero => rfl
  | succ count ih =>
      rw [take]
      split
      · rfl
      · exact ih _

/-- Each call uses up one number at most. -/
theorem next_call_le (b : Backlog) (c : RequestCall) : (b.call c).2.next ≤ b.next + 1 := by
  cases c with
  | enqueue a priority =>
      rw [call, enqueue]
      split
      · exact Nat.le_succ _
      · exact Nat.le_refl _
  | take count => exact (b.next_take count).le.trans (Nat.le_succ _)
  | clear => exact Nat.le_succ _

theorem next_run_le (b : Backlog) (calls : List RequestCall) :
    (run call b calls).2.next ≤ b.next + calls.length := by
  induction calls generalizing b with
  | nil => exact Nat.le_refl _
  | cons c rest ih =>
      have hrest := ih (b.call c).2
      have hcall := b.next_call_le c
      show (run call (b.call c).2 rest).2.next ≤ b.next + (rest.length + 1)
      omega

/-- The first ticket in order is the one that is popped. -/
theorem least?_of_perm
    {heap rest : List Ticket} {t : Ticket}
    (hperm : heap.Perm (t :: rest))
    (hsorted : (t :: rest).Pairwise fun u v => u.isBefore v = true) :
    least? heap = some t := by
  rw [List.pairwise_cons] at hsorted
  cases hleast : least? heap with
  | none =>
      have hnone := List.find?_eq_none.mp hleast t (hperm.mem_iff.mpr List.mem_cons_self)
      refine absurd (List.all_eq_true.mpr fun u hu => ?_) hnone
      rcases List.mem_cons.mp (hperm.mem_iff.mp hu) with rfl | hu
      · simp [Ticket.isBefore]
      · exact Ticket.not_isBefore (hsorted.1 u hu)
  | some u =>
      rw [least?] at hleast
      have hall := List.find?_some hleast
      have hfirst := List.all_eq_true.mp hall t (hperm.mem_iff.mpr List.mem_cons_self)
      rcases List.mem_cons.mp (hperm.mem_iff.mp (List.mem_of_find?_eq_some hleast)) with rfl | hu
      · rfl
      · rw [hsorted.1 u hu] at hfirst
        exact absurd hfirst Bool.false_ne_true

end Backlog

end Backlogs

/-- What is left of a list without repetitions after its first elements were taken out. -/
theorem filter_notMem_take
    {α : Type} [DecidableEq α] {list : List α}
    (h : list.Nodup) (count : Nat) :
    (list.filter fun x => x ∉ list.take count) = list.drop count := by
  have hapart := List.disjoint_take_drop h (Nat.le_refl count)
  have hsplit : (list.filter fun x => x ∉ list.take count) =
      (list.take count ++ list.drop count).filter fun x => x ∉ list.take count := by
    rw [List.take_append_drop]
  rw [hsplit, List.filter_append, List.filter_eq_nil_iff.mpr (by simp), List.nil_append]
  refine List.filter_eq_self.mpr fun x hx => ?_
  simpa using fun hmem => hapart hmem hx

namespace Requests

variable {q : Requests} {a : Address}

theorem addresses_enqueue_perm
    (priority : Int)
    (h : a ∉ q.addresses) :
    (q.enqueue a priority).2.addresses.Perm (a :: q.addresses) := by
  rw [enqueue, if_neg (mt isWaiting_iff.mp h)]
  exact (insert_perm ⟨a, priority⟩ q.waiting).map (·.address)

/-- No call makes an address wait twice. -/
theorem nodup_call
    (h : q.addresses.Nodup)
    (c : RequestCall) :
    (q.call c).2.addresses.Nodup := by
  cases c with
  | enqueue a priority =>
      by_cases hwaiting : a ∈ q.addresses
      · have hsame : (q.enqueue a priority).2 = q := by
          rw [enqueue, if_pos (isWaiting_iff.mpr hwaiting)]
        rw [call, hsame]
        exact h
      · exact (addresses_enqueue_perm priority hwaiting).nodup_iff.mpr
          (List.nodup_cons.mpr ⟨hwaiting, h⟩)
  | take count =>
      have hdropped := q.addresses_drop count
      show (addresses ⟨q.waiting.drop count⟩).Nodup
      rw [hdropped]
      exact h.sublist (List.drop_sublist count _)
  | clear => exact List.nodup_nil

/-- An address waits from when it is put in until it is handed out or all are cleared. -/
theorem isWaiting_call
    (h : q.addresses.Nodup)
    (c : RequestCall) (a : Address) :
    (q.call c).2.isWaiting a = leavesWaiting a (q.isWaiting a) (c, (q.call c).1) := by
  rw [Bool.eq_iff_iff, isWaiting_iff]
  cases c with
  | enqueue b priority =>
      rw [leavesWaiting, Bool.or_eq_true, isWaiting_iff, beq_iff_eq]
      by_cases hwaiting : b ∈ q.addresses
      · have hsame : (q.enqueue b priority).2 = q := by
          rw [enqueue, if_pos (isWaiting_iff.mpr hwaiting)]
        rw [call, hsame]
        exact ⟨.inl, fun hor => hor.elim id fun hba => hba ▸ hwaiting⟩
      · rw [call, (addresses_enqueue_perm priority hwaiting).mem_iff, List.mem_cons, or_comm,
          eq_comm]
  | take count =>
      have hapart := List.disjoint_take_drop h (Nat.le_refl count)
      have hhanded : (q.take count).1 = q.addresses.take count := by
        rw [take, addresses, List.map_take]
      show a ∈ addresses ⟨q.waiting.drop count⟩ ↔ _
      rw [q.addresses_drop count, leavesWaiting, Bool.and_eq_true, isWaiting_iff, call,
        Answer.addresses, hhanded, Bool.not_eq_true', ← Bool.not_eq_true, List.contains_iff_mem]
      constructor
      · exact fun hleft => ⟨List.mem_of_mem_drop hleft, fun htaken => hapart htaken hleft⟩
      · rintro ⟨hmem, hleft⟩
        rw [← List.take_append_drop count q.addresses] at hmem
        exact (List.mem_append.mp hmem).resolve_left hleft
  | clear => simp [call, leavesWaiting, empty, addresses]

theorem isWaiting_run
    (h : q.addresses.Nodup)
    (calls : List RequestCall) (a : Address) :
    (run call q calls).2.addresses.Nodup ∧
      (run call q calls).2.isWaiting a =
        (calls.zip (run call q calls).1).foldl (leavesWaiting a) (q.isWaiting a) := by
  induction calls generalizing q with
  | nil => exact ⟨h, rfl⟩
  | cons c rest ih =>
      obtain ⟨hnodup, hwaiting⟩ := ih (nodup_call h c)
      rw [isWaiting_call h c a] at hwaiting
      exact ⟨hnodup, hwaiting⟩

/-- Taking some and then more is taking all at once. -/
theorem take_add (q : Requests) (m n : Nat) :
    q.take (m + n) =
      ((q.take m).1 ++ ((q.take m).2.take n).1, ((q.take m).2.take n).2) := by
  simp only [take, List.take_add, List.map_append, List.drop_drop]

end Requests

section Simulation

/-- What answers every call alike answers calls in a row alike. -/
theorem RequestCall.run_congr
    {σ τ : Type} {f : σ → RequestCall → Answer × σ} {g : τ → RequestCall → Answer × τ}
    {R : σ → τ → Prop}
    (hcall : ∀ {s t}, R s t → ∀ c, (f s c).1 = (g t c).1 ∧ R (f s c).2 (g t c).2)
    {s : σ} {t : τ}
    (h : R s t)
    (calls : List RequestCall) :
    (run f s calls).1 = (run g t calls).1 ∧ R (run f s calls).2 (run g t calls).2 := by
  induction calls generalizing s t with
  | nil => exact ⟨rfl, h⟩
  | cons c rest ih =>
      obtain ⟨hanswer, hafter⟩ := hcall h c
      obtain ⟨hanswers, hlast⟩ := ih hafter
      exact ⟨congrArg₂ List.cons hanswer hanswers, hlast⟩

/-- Whether requests are some arrivals by urgency, each address once. -/
structure Lists (l : Arrivals) (q : Requests) : Prop where
  waiting : q.waiting = Arrivals.byUrgency l.requests
  nodup : (l.requests.map (·.address)).Nodup

variable {l : Arrivals} {q : Requests}

theorem Lists.addresses_perm
    (h : Lists l q) :
    q.addresses.Perm (l.requests.map (·.address)) := by
  rw [Requests.addresses, h.waiting]
  exact (Arrivals.byUrgency_perm l.requests).map (·.address)

/-- Sorting arrivals whenever some are taken out comes to keeping them sorted. -/
theorem Lists.call
    (h : Lists l q)
    (c : RequestCall) :
    (q.call c).1 = (l.call c).1 ∧ Lists (l.call c).2 (q.call c).2 := by
  cases c with
  | enqueue a priority =>
      have hiff : q.isWaiting a = true ↔ a ∈ l.requests.map (·.address) := by
        rw [Requests.isWaiting_iff, h.addresses_perm.mem_iff]
      by_cases hwaiting : a ∈ l.requests.map (·.address)
      · have hq : q.enqueue a priority = (false, q) := if_pos (hiff.mpr hwaiting)
        have hl : l.call (.enqueue a priority) = (.entered false, l) := if_pos hwaiting
        rw [Requests.call, hq, hl]
        exact ⟨rfl, h⟩
      · have hq : q.enqueue a priority = (true, ⟨Requests.insert ⟨a, priority⟩ q.waiting⟩) :=
          if_neg (mt hiff.mp hwaiting)
        have hl : l.call (.enqueue a priority) =
            (.entered true, ⟨l.requests ++ [⟨a, priority⟩]⟩) := if_neg hwaiting
        rw [Requests.call, hq, hl]
        refine ⟨rfl, ?_, ?_⟩
        · rw [h.waiting, Arrivals.byUrgency_concat]
        · rw [List.map_append, List.map_singleton, List.nodup_append_comm, List.singleton_append,
            List.nodup_cons]
          exact ⟨hwaiting, h.nodup⟩
  | take count =>
      have hnodup : (Arrivals.byUrgency l.requests).Nodup :=
        (Arrivals.byUrgency_perm l.requests).nodup_iff.mpr h.nodup.of_map
      refine ⟨?_, ?_, h.nodup.sublist (List.filter_sublist.map _)⟩
      · simp only [Requests.call, Requests.take, Arrivals.call, h.waiting]
      · simp only [Requests.call, Requests.take, Arrivals.call, h.waiting,
          Arrivals.byUrgency_filter]
        exact (filter_notMem_take hnodup count).symm
  | clear => exact ⟨rfl, (List.mergeSort_nil).symm, List.nodup_nil⟩

/-- Whether tickets in order are those of a backlog, and stand for the requests. -/
structure Sorts (tickets : List Ticket) (b : Backlog) (q : Requests) : Prop where
  perm : b.heap.Perm tickets
  sorted : tickets.Pairwise fun t u => t.isBefore u = true
  numbered : ∀ t ∈ tickets, t.number < b.next
  queued : b.queued = (tickets.map (·.request.address)).toFinset
  waiting : q.waiting = tickets.map (·.request)
  nodup : (tickets.map (·.request.address)).Nodup

namespace Sorts

variable {tickets : List Ticket} {b : Backlog}

theorem addresses
    (h : Sorts tickets b q) :
    q.addresses = tickets.map (·.request.address) := by
  rw [Requests.addresses, h.waiting, List.map_map]
  rfl

theorem mem_queued
    (h : Sorts tickets b q)
    {a : Address} :
    a ∈ b.queued ↔ q.isWaiting a = true := by
  rw [h.queued, List.mem_toFinset, Requests.isWaiting_iff, h.addresses]

/-- Tickets in order, cut where a priority belongs. -/
theorem exists_split
    (h : tickets.Pairwise fun t u => t.isBefore u = true)
    (priority : Int) :
    ∃ before after, tickets = before ++ after ∧
      (∀ t ∈ before, t.request.priority ≤ priority) ∧
      ∀ t ∈ after, priority < t.request.priority := by
  induction tickets with
  | nil => exact ⟨[], [], rfl, by simp, by simp⟩
  | cons t rest ih =>
      rw [List.pairwise_cons] at h
      by_cases hle : t.request.priority ≤ priority
      · obtain ⟨before, after, rfl, hbefore, hafter⟩ := ih h.2
        exact ⟨t :: before, after, rfl, List.forall_mem_cons.mpr ⟨hle, hbefore⟩, hafter⟩
      · refine ⟨[], t :: rest, rfl, by simp, List.forall_mem_cons.mpr ⟨Int.not_le.mp hle, ?_⟩⟩
        intro u hu
        have hbefore := Ticket.isBefore_iff.mp (h.1 u hu)
        omega

/-- The newest ticket goes behind all that are no less urgent. -/
theorem enqueue
    (h : Sorts tickets b q)
    {a : Address}
    (hnew : ¬ q.isWaiting a = true)
    (priority : Int) :
    ∃ tickets', Sorts tickets' (b.enqueue a priority).2 (q.enqueue a priority).2 := by
  obtain ⟨before, after, rfl, hbefore, hafter⟩ := exists_split h.sorted priority
  have hb : b.enqueue a priority =
      (true, ⟨⟨⟨a, priority⟩, b.next⟩ :: b.heap, insert a b.queued, b.next + 1⟩) :=
    if_neg (mt h.mem_queued.mp hnew)
  have hq : q.enqueue a priority = (true, ⟨Requests.insert ⟨a, priority⟩ q.waiting⟩) :=
    if_neg hnew
  have hperm : (before ++ ⟨⟨a, priority⟩, b.next⟩ :: after).Perm
      (⟨⟨a, priority⟩, b.next⟩ :: (before ++ after)) := List.perm_middle
  have hsorted := List.pairwise_append.mp h.sorted
  rw [hb, hq]
  refine ⟨before ++ ⟨⟨a, priority⟩, b.next⟩ :: after, ?_, ?_, ?_, ?_, ?_, ?_⟩
  · exact (h.perm.cons _).trans hperm.symm
  · refine List.pairwise_append.mpr ⟨hsorted.1, List.pairwise_cons.mpr ⟨?_, hsorted.2.1⟩, ?_⟩
    · exact fun t ht => Ticket.isBefore_iff.mpr (.inl (hafter t ht))
    · intro t ht u hu
      rcases List.mem_cons.mp hu with rfl | hu
      · have hle := hbefore t ht
        have hlt : t.number < b.next := h.numbered t (List.mem_append_left _ ht)
        refine Ticket.isBefore_iff.mpr ?_
        show t.request.priority < priority ∨ t.request.priority = priority ∧ t.number < b.next
        omega
      · exact hsorted.2.2 t ht u hu
  · intro t ht
    rcases List.mem_cons.mp (hperm.mem_iff.mp ht) with rfl | ht
    · exact Nat.lt_succ_self _
    · exact (h.numbered t ht).trans (Nat.lt_succ_self _)
  · rw [h.queued, (List.toFinset_eq_of_perm _ _ (hperm.map (·.request.address))), List.map_cons,
      List.toFinset_cons]
  · have hle : ∀ r ∈ before.map (·.request), r.priority ≤ priority := by
      simpa using hbefore
    have hlt : ∀ r ∈ after.map (·.request), priority < r.priority := by
      simpa using hafter
    rw [h.waiting, List.map_append, Arrivals.insert_append_of_forall_le hle,
      Arrivals.insert_of_forall_lt hlt, List.map_append, List.map_cons]
  · rw [(hperm.map (·.request.address)).nodup_iff, List.map_cons, List.nodup_cons, ← h.addresses]
    exact ⟨mt Requests.isWaiting_iff.mpr hnew, h.addresses ▸ h.nodup⟩

/-- The tickets that are popped are the first ones in order. -/
theorem take
    (h : Sorts tickets b q)
    (count : Nat) :
    (b.take count).1 = (q.take count).1 ∧
      Sorts (tickets.drop count) (b.take count).2 (q.take count).2 := by
  induction count generalizing tickets b q with
  | zero => exact ⟨rfl, h⟩
  | succ count ih =>
      cases tickets with
      | nil =>
          have hempty : Backlog.least? b.heap = none := by
            rw [h.perm.eq_nil]
            rfl
          have hwaiting : q.waiting = [] := h.waiting
          simp only [Backlog.take, hempty, Requests.take, hwaiting, List.take_nil, List.drop_nil,
            List.map_nil, true_and]
          exact hwaiting ▸ h
      | cons t rest =>
          have hleast := Backlog.least?_of_perm h.perm h.sorted
          have hnodup := List.nodup_cons.mp h.nodup
          have hrest : Sorts rest
              ⟨b.heap.erase t, b.queued.erase t.request.address, b.next⟩
              ⟨rest.map (·.request)⟩ := by
            refine ⟨?_, h.sorted.of_cons, ?_, ?_, rfl, hnodup.2⟩
            · simpa using h.perm.erase t
            · exact fun u hu => h.numbered u (List.mem_cons_of_mem t hu)
            · show b.queued.erase t.request.address = _
              rw [h.queued, List.map_cons, List.toFinset_cons, Finset.erase_insert]
              rw [List.mem_toFinset]
              exact hnodup.1
          obtain ⟨hanswer, hafter⟩ := ih hrest
          have hwaiting : q.waiting = t.request :: rest.map (·.request) := h.waiting
          simp only [Backlog.take, hleast, Requests.take, hwaiting, List.take_succ_cons,
            List.map_cons, List.drop_succ_cons] at hanswer hafter ⊢
          exact ⟨congrArg _ hanswer, hafter⟩

/-- Popping the least ticket comes to taking the first request. -/
theorem call
    (h : ∃ tickets, Sorts tickets b q)
    (c : RequestCall) :
    (b.call c).1 = (q.call c).1 ∧ ∃ tickets, Sorts tickets (b.call c).2 (q.call c).2 := by
  obtain ⟨tickets, h⟩ := h
  cases c with
  | enqueue a priority =>
      by_cases hwaiting : q.isWaiting a = true
      · have hq : q.enqueue a priority = (false, q) := if_pos hwaiting
        have hb : b.enqueue a priority = (false, b) := if_pos (h.mem_queued.mpr hwaiting)
        rw [Backlog.call, Requests.call, hb, hq]
        exact ⟨rfl, tickets, h⟩
      · have hq : (q.enqueue a priority).1 = true := by
          rw [Requests.enqueue, if_neg hwaiting]
        have hb : (b.enqueue a priority).1 = true := by
          rw [Backlog.enqueue, if_neg (mt h.mem_queued.mp hwaiting)]
        refine ⟨?_, h.enqueue hwaiting priority⟩
        simp only [Backlog.call, Requests.call, hb, hq]
  | take count =>
      obtain ⟨hanswer, hafter⟩ := h.take count
      exact ⟨congrArg Answer.handed hanswer, tickets.drop count, hafter⟩
  | clear => exact ⟨rfl, [], .refl _, .nil, by simp, rfl, rfl, .nil⟩

end Sorts

end Simulation

/--
Calls in a row are answered as from a list of the arrivals that is sorted by priority whenever
some are taken out, where equal priorities keep their order, and as from a heap of numbered
requests beside the set of their addresses, of which each waits once.  An address waits from when
it is put in until it is handed out or all are cleared, and only then is it new again.  Taking
some and then more is taking all at once.
-/
theorem run_refines (calls : List RequestCall) :
    let kept := run Requests.call .empty calls
    let listed := run Arrivals.call .empty calls
    let heaped := run Backlog.call .empty calls
    (kept.1 = listed.1 ∧ heaped.1 = listed.1) ∧
      (kept.2.waiting = Arrivals.byUrgency listed.2.requests ∧
        kept.2.waiting.Pairwise (fun r s => r.priority ≤ s.priority) ∧
        (∀ priority : Int, kept.2.waiting.filter (·.priority = priority) =
          listed.2.requests.filter (·.priority = priority)) ∧
        (heaped.2.heap.map (·.request)).Perm kept.2.waiting) ∧
      (heaped.2.queued = (heaped.2.heap.map (·.request.address)).toFinset ∧
        (heaped.2.heap.map (·.request.address)).Nodup ∧
        heaped.2.next ≤ calls.length) ∧
      (∀ a, kept.2.isWaiting a = (calls.zip kept.1).foldl (leavesWaiting a) false) ∧
      (∀ a priority, (kept.2.enqueue a priority).1 = !kept.2.isWaiting a) ∧
      (∀ count, (kept.2.take count).1.length = min count listed.2.requests.length) ∧
      ∀ m n, kept.2.take (m + n) =
        ((kept.2.take m).1 ++ ((kept.2.take m).2.take n).1, ((kept.2.take m).2.take n).2) := by
  intro kept listed heaped
  have hlists : Lists .empty .empty := ⟨(List.mergeSort_nil).symm, List.nodup_nil⟩
  have hsorts : ∃ tickets, Sorts tickets .empty .empty :=
    ⟨[], .refl _, .nil, by simp, rfl, rfl, .nil⟩
  obtain ⟨hlisted, hkept⟩ : kept.1 = listed.1 ∧ Lists listed.2 kept.2 :=
    run_congr (R := fun q l => Lists l q) Lists.call hlists calls
  obtain ⟨hheaped, tickets, hheap⟩ :
      heaped.1 = kept.1 ∧ ∃ tickets, Sorts tickets heaped.2 kept.2 :=
    run_congr (R := fun b q => ∃ tickets, Sorts tickets b q) Sorts.call hsorts calls
  have hperm := hheap.perm.map (·.request.address)
  refine ⟨⟨hlisted, hheaped.trans hlisted⟩, ⟨hkept.waiting, ?_, ?_, ?_⟩, ⟨?_, ?_, ?_⟩, ?_, ?_, ?_,
    ?_⟩
  · exact hkept.waiting ▸ Arrivals.pairwise_byUrgency listed.2.requests
  · exact hkept.waiting ▸ Arrivals.filter_priority_byUrgency listed.2.requests
  · exact hheap.waiting ▸ hheap.perm.map (·.request)
  · rw [List.toFinset_eq_of_perm _ _ hperm]
    exact hheap.queued
  · exact hperm.nodup_iff.mpr hheap.nodup
  · exact (Backlog.next_run_le .empty calls).trans_eq (Nat.zero_add _)
  · have hnodup : Requests.empty.addresses.Nodup := List.nodup_nil
    exact fun a => (Requests.isWaiting_run hnodup calls a).2
  · intro a priority
    rw [Requests.enqueue]
    cases kept.2.isWaiting a <;> rfl
  · intro count
    have hlength := (Arrivals.byUrgency_perm listed.2.requests).length_eq
    rw [Requests.take, List.length_map, List.length_take, hkept.waiting, hlength]
  · exact kept.2.take_add

end RequestOrder

end VoxelCache
