import VoxelCache.Proofs.Stock

/-!
# Accounts of a loader

A **ledger** records which addresses were picked last, which were handed out to the loader
and for which buckets, and which buckets received payloads.  The ledger has no part in what
happens.  It is in accordance with a scene if exactly those buckets are loading that were
handed out and have not been answered.

**Results.**
* `Accounts.of_states`: what starts and ends no loading keeps the accounts.
* `Accounts.pull`, `Accounts.receive`: an unrequested bucket is handed out for the first
  time, and an answer is entered.
-/

namespace VoxelCache

section Ledger

/-- What was picked, handed out and delivered. -/
structure Ledger where
  /-- The addresses that were picked last, in order. -/
  picked : List Address
  /-- The addresses that were handed out and the buckets that lay there then, in order. -/
  handed : List (Address × BucketRef)
  /-- The buckets that received payloads, in order. -/
  delivered : List BucketRef

namespace Ledger

def blank : Ledger :=
  ⟨[], [], []⟩

def pick (l : Ledger) (addresses : List Address) : Ledger :=
  { l with picked := addresses }

def hand (l : Ledger) (entries : List (Address × BucketRef)) : Ledger :=
  { l with handed := l.handed ++ entries }

def deliver (l : Ledger) (refs : List BucketRef) : Ledger :=
  { l with delivered := l.delivered ++ refs }

/-- What was handed out and has not been answered. -/
def outstanding (l : Ledger) : List (Address × BucketRef) :=
  l.handed.filter fun entry => !l.delivered.contains entry.2

variable {l : Ledger} {a : Address} {ref : BucketRef}

theorem mem_outstanding :
    (a, ref) ∈ l.outstanding ↔ (a, ref) ∈ l.handed ∧ ref ∉ l.delivered := by
  simp [outstanding]

theorem hand_nil (l : Ledger) : l.hand [] = l := by
  simp [hand]

theorem hand_hand (l : Ledger) (first later : List (Address × BucketRef)) :
    (l.hand first).hand later = l.hand (first ++ later) := by
  simp [hand]

theorem deliver_nil (l : Ledger) : l.deliver [] = l := by
  simp [deliver]

end Ledger

end Ledger

section Accounts

/-- Whether the bucket at an address is loading. -/
structure Scene.Loads (s : Scene) (a : Address) (ref : BucketRef) : Prop where
  lt : ref < s.buckets.size
  address : (s.bucket ref).address = a
  state : (s.bucket ref).state = .loading

/-- Whether a ledger is in accordance with a scene. -/
structure Accounts (s : Scene) (l : Ledger) : Prop where
  known : ∀ a ref, (a, ref) ∈ l.handed → ref < s.buckets.size ∧ (s.bucket ref).address = a
  /-- No bucket is handed out twice. -/
  once : (l.handed.map (·.2)).Nodup
  awaited : ∀ a ref, (a, ref) ∈ l.outstanding ↔ s.Loads a ref
  arrived : ∀ ref ∈ l.delivered, ref < s.buckets.size ∧
    ((s.bucket ref).isCollected = false → (s.bucket ref).state = .loaded)

variable {p : Pool} {s s' : Scene} {l : Ledger} {a : Address} {ref : BucketRef}
  {refs : List BucketRef}

/-- At the start there is nothing to account for. -/
theorem accounts_blank
    (h : s.buckets = #[]) :
    Accounts s .blank where
  known a ref hmem := by cases hmem
  once := .nil
  awaited a ref := by
    constructor
    · intro hmem
      cases hmem
    · intro hloads
      have hlt := hloads.lt
      rw [h] at hlt
      exact absurd hlt (Nat.not_lt_zero _)
  arrived ref hmem := by cases hmem

/-- What was picked has no part in the accounts. -/
theorem Accounts.pick
    (h : Accounts s l)
    (addresses : List Address) :
    Accounts s (l.pick addresses) :=
  ⟨h.known, h.once, h.awaited, h.arrived⟩

/-- What starts and ends no loading keeps the accounts. -/
theorem Accounts.of_states
    (h : Accounts s l)
    (hextends : Scene.Extends s s')
    (hloading : ∀ ref < s'.buckets.size, (s'.bucket ref).state = .loading ↔
      ref < s.buckets.size ∧ (s.bucket ref).state = .loading)
    (hloaded : ∀ ref < s.buckets.size, (s'.bucket ref).isCollected = false →
      (s.bucket ref).isCollected = false ∧
        ((s.bucket ref).state = .loaded → (s'.bucket ref).state = .loaded)) :
    Accounts s' l where
  known a ref hmem := by
    obtain ⟨hlt, haddress⟩ := h.known a ref hmem
    exact ⟨Nat.lt_of_lt_of_le hlt hextends.size, (hextends.same ref hlt).address.trans haddress⟩
  once := h.once
  awaited a ref := by
    rw [h.awaited]
    constructor
    · rintro ⟨hlt, haddress, hstate⟩
      have hlt' := Nat.lt_of_lt_of_le hlt hextends.size
      exact ⟨hlt', (hextends.same ref hlt).address.trans haddress,
        (hloading ref hlt').mpr ⟨hlt, hstate⟩⟩
    · rintro ⟨hlt', haddress, hstate⟩
      obtain ⟨hlt, hbefore⟩ := (hloading ref hlt').mp hstate
      exact ⟨hlt, (hextends.same ref hlt).address.symm.trans haddress, hbefore⟩
  arrived ref hmem := by
    obtain ⟨hlt, hstays⟩ := h.arrived ref hmem
    refine ⟨Nat.lt_of_lt_of_le hlt hextends.size, ?_⟩
    intro hopen
    obtain ⟨hbefore, hkept⟩ := hloaded ref hlt hopen
    exact hkept (hstays hbefore)

theorem Accounts.of_alike
    (h : Accounts s l)
    (halike : Scene.Alike s s') :
    Accounts s' l := by
  refine h.of_states halike.extends ?_ ?_
  · intro ref hlt
    rw [halike.state, ← halike.size, iff_and_self]
    exact fun _ => hlt
  · intro ref _ hopen
    rw [halike.isCollected] at hopen
    exact ⟨hopen, fun hstate => (halike.state ref).trans hstate⟩

/-- A new bucket is not loading. -/
theorem Accounts.of_adds
    (h : Accounts s l)
    (hadds : Scene.Adds s s') :
    Accounts s' l := by
  refine h.of_states hadds.extends ?_ ?_
  · intro ref _
    by_cases hlt : ref < s.buckets.size
    · rw [hadds.bucket hlt, iff_and_self]
      exact fun _ => hlt
    · rw [hadds.state (Nat.le_of_not_lt hlt)]
      simp [hlt]
  · intro ref hlt hopen
    rw [hadds.bucket hlt] at hopen ⊢
    exact ⟨hopen, id⟩

/-- A bucket that is collected does not become loading. -/
theorem Bucket.state_collect_ne_loading
    {b : Bucket}
    (h : b.state ≠ .loading) :
    b.collect.1.state ≠ .loading := by
  cases hopen : b.isCollected with
  | true =>
      rw [Bucket.collect_of_isCollected hopen]
      exact h
  | false => simp [Bucket.collect, hopen, Bucket.announce]

/-- Whoever is reclaimed while nobody waits for it is not missed. -/
theorem Accounts.of_collectAll
    (h : Accounts s l)
    (hrefs : ∀ ref ∈ refs, ref < s.buckets.size ∧ (s.bucket ref).state ≠ .loading) :
    Accounts (s.collectAll refs) l := by
  have hbucket := Scene.bucket_collectAll fun ref href => (hrefs ref href).1
  have hsize := Scene.size_collectAll s refs
  refine h.of_states ⟨Nat.le_of_eq hsize.symm, ?_⟩ ?_ ?_
  · intro ref _
    rw [hbucket]
    split
    · have hsame := Deed.perform_identity .collect (s.bucket ref)
      rwa [Deed.perform] at hsame
    · exact .refl _
  · intro ref hlt
    rw [hsize] at hlt
    rw [hbucket]
    split
    · rename_i href
      have hbefore := (hrefs ref href).2
      exact ⟨fun hstate => absurd hstate (Bucket.state_collect_ne_loading hbefore),
        fun hstate => absurd hstate.2 hbefore⟩
    · rw [iff_and_self]
      exact fun _ => hlt
  · intro ref _ hopen
    rw [hbucket] at hopen ⊢
    split
    · rename_i href
      rw [if_pos href, Bucket.isCollected_collect] at hopen
      cases hopen
    · rename_i href
      rw [if_neg href] at hopen
      exact ⟨hopen, id⟩

/-- A deed that is done to one bucket does not concern the loading of others. -/
theorem Scene.loads_deed_of_ne
    {other : BucketRef}
    (deed : Deed)
    (hne : other ≠ ref) :
    (s.deed ref deed).Loads a other ↔ s.Loads a other := by
  have hbucket := Scene.bucket_deed_of_ne (s := s) deed hne
  have hsize := Scene.size_deed s ref deed
  constructor
  · rintro ⟨hlt, haddress, hstate⟩
    rw [hbucket] at haddress hstate
    exact ⟨hsize ▸ hlt, haddress, hstate⟩
  · rintro ⟨hlt, haddress, hstate⟩
    exact ⟨hsize ▸ hlt, by rw [hbucket, haddress], by rw [hbucket, hstate]⟩

/-- An unrequested bucket has neither been handed out nor answered. -/
theorem Accounts.not_mem_of_unrequested
    (h : Accounts s l)
    (hopen : (s.bucket ref).isCollected = false)
    (hstate : (s.bucket ref).state = .unrequested) :
    ref ∉ l.handed.map (·.2) ∧ ref ∉ l.delivered := by
  have hdelivered : ref ∉ l.delivered := by
    intro hmem
    have hloaded := (h.arrived ref hmem).2 hopen
    rw [hstate] at hloaded
    cases hloaded
  refine ⟨?_, hdelivered⟩
  intro hmem
  obtain ⟨⟨b, other⟩, hentry, rfl⟩ := List.mem_map.mp hmem
  have hloads := (h.awaited b other).mp (Ledger.mem_outstanding.mpr ⟨hentry, hdelivered⟩)
  rw [hloads.state] at hstate
  cases hstate

/-- An unrequested bucket is handed out for the first time. -/
theorem Accounts.pull
    (h : Accounts s l)
    (hlives : s.Lives a ref)
    (hstate : (s.bucket ref).state = .unrequested) :
    Accounts (s.deed ref .pull) (l.hand [(a, ref)]) := by
  obtain ⟨hhanded, hdelivered⟩ := h.not_mem_of_unrequested hlives.uncollected hstate
  have hextends := Scene.extends_occur s (.deed ref .pull)
  have hsize := Scene.size_deed s ref .pull
  have haddress : ∀ other < s.buckets.size,
      ((s.deed ref .pull).bucket other).address = (s.bucket other).address :=
    fun other hlt => (hextends.same other hlt).address
  have hself : ((s.deed ref .pull).bucket ref).state = .loading := by
    rw [Scene.bucket_deed_self .pull hlives.lt]
    simp [Deed.perform, Bucket.pull, hstate, hlives.uncollected]
  constructor
  · intro b other hmem
    rw [hsize]
    rcases List.mem_append.mp hmem with hmem | hmem
    · obtain ⟨hlt, hb⟩ := h.known b other hmem
      exact ⟨hlt, (haddress other hlt).trans hb⟩
    · obtain ⟨rfl, rfl⟩ := Prod.mk.inj (List.mem_singleton.mp hmem)
      exact ⟨hlives.lt, (haddress _ hlives.lt).trans hlives.address⟩
  · have hnew : (l.handed ++ [(a, ref)]).map (·.2) = l.handed.map (·.2) ++ [ref] := by simp
    rw [Ledger.hand, hnew, List.nodup_append]
    refine ⟨h.once, by simp, ?_⟩
    rintro b hb c hc rfl
    rw [List.mem_singleton.mp hc] at hb
    exact hhanded hb
  · intro b other
    by_cases hsame : other = ref
    · subst hsame
      have hentry : (b, other) ∈ (l.hand [(a, other)]).outstanding ↔ b = a := by
        have hnot : (b, other) ∉ l.handed := fun hmem => hhanded (List.mem_map_of_mem hmem)
        simp [Ledger.mem_outstanding, Ledger.hand, hnot, hdelivered]
      rw [hentry]
      constructor
      · rintro rfl
        exact ⟨hsize ▸ hlives.lt, (haddress other hlives.lt).trans hlives.address, hself⟩
      · intro hloads
        rw [← hloads.address, haddress other hlives.lt, hlives.address]
    · have hentry : (b, other) ∈ (l.hand [(a, ref)]).outstanding ↔ (b, other) ∈ l.outstanding := by
        simp [Ledger.mem_outstanding, Ledger.hand, hsame]
      rw [hentry, h.awaited, Scene.loads_deed_of_ne _ hsame]
  · intro other hmem
    have hsame : other ≠ ref := by
      rintro rfl
      exact hdelivered hmem
    rw [hsize, Scene.bucket_deed_of_ne _ hsame]
    exact h.arrived other hmem

/-- A payload is entered, whether somebody waited for it or not. -/
theorem Accounts.receive
    (h : Accounts s l)
    (hlt : ref < s.buckets.size)
    (hopen : (s.bucket ref).isCollected = false)
    (payload : Payload) :
    Accounts (s.deed ref (.receive payload)) (l.deliver [ref]) := by
  have hextends := Scene.extends_occur s (.deed ref (.receive payload))
  have hsize := Scene.size_deed s ref (.receive payload)
  have hself : ((s.deed ref (.receive payload)).bucket ref).state = .loaded := by
    rw [Scene.bucket_deed_self _ hlt, Deed.perform, Bucket.state_receive hopen]
  constructor
  · intro b other hmem
    obtain ⟨hknown, hb⟩ := h.known b other hmem
    exact ⟨hsize ▸ hknown, (hextends.same other hknown).address.trans hb⟩
  · exact h.once
  · intro b other
    by_cases hsame : other = ref
    · subst hsame
      have hanswered : (b, other) ∉ (l.deliver [other]).outstanding := by
        simp [Ledger.mem_outstanding, Ledger.deliver]
      refine ⟨fun hmem => absurd hmem hanswered, ?_⟩
      intro hloads
      rw [hloads.state] at hself
      cases hself
    · have hentry : (b, other) ∈ (l.deliver [ref]).outstanding ↔ (b, other) ∈ l.outstanding := by
        simp [Ledger.mem_outstanding, Ledger.deliver, hsame]
      rw [hentry, h.awaited, Scene.loads_deed_of_ne _ hsame]
  · intro other hmem
    rw [hsize]
    by_cases hsame : other = ref
    · rw [hsame]
      exact ⟨hlt, fun _ => hself⟩
    · rw [Scene.bucket_deed_of_ne _ hsame]
      rcases List.mem_append.mp hmem with hmem | hmem
      · exact h.arrived other hmem
      · exact absurd (List.mem_singleton.mp hmem) hsame

end Accounts

end VoxelCache
