import VoxelCache.Proofs.Provenance
import VoxelCache.Proofs.Watching
import Mathlib.Data.List.Sort

/-!
# Replacing the active buckets

A request to replace the active buckets reads the notices first, so that no active bucket
is collected any more.  Buckets that are wanted and active already stay as they are, the
others give up their slots, and newcomers take the smallest slots there are.

**Results.**
* `hasRoom_iff`: there is room exactly if no more buckets are wanted than there are slots.
* `Strikes`, `Fills`: what giving up slots and giving slots does to the books.
* `activate_of_length_le`, `activate_of_lt_length`: a request that finds room, and one that
  does not.
* `activate_again`: a request for the buckets that are active already only uploads again.
-/

namespace VoxelCache
namespace Residency

section Requests

/-- The buckets that a request is about: those that are not collected, each once. -/
def wanted (s : Scene) (refs : List BucketRef) : List BucketRef :=
  refs.eraseDups.filter fun ref => !(s.bucket ref).isCollected

/-- The entries of active buckets that are wanted. -/
def staying (m : Residency) (wanted : List BucketRef) : List ActiveBucket :=
  m.active.filter fun a => wanted.contains a.bucket

/-- The wanted buckets that are not active yet, in order. -/
def newcomers (m : Residency) (wanted : List BucketRef) : List BucketRef :=
  wanted.filter fun ref => !m.holds ref

/-- The slots that are free or owned by buckets that are not wanted, in ascending order. -/
def room (m : Residency) (wanted : List BucketRef) : List Nat :=
  (List.range m.capacity).filter fun slot =>
    m.free.contains slot || m.active.any fun a => a.slot == slot && !wanted.contains a.bucket

variable {m : Residency} {s : Scene} {refs : List BucketRef} {ref : BucketRef}

theorem mem_wanted :
    ref ∈ wanted s refs ↔ ref ∈ refs ∧ (s.bucket ref).isCollected = false := by
  simp [wanted]

theorem mem_newcomers
    {wanted : List BucketRef} :
    ref ∈ m.newcomers wanted ↔ ref ∈ wanted ∧ m.holds ref = false := by
  simp [newcomers]

theorem holds_iff : m.holds ref = true ↔ ∃ a ∈ m.active, a.bucket = ref := by
  simp [holds]

/-- If identities are unique, naming a bucket once is naming its identity once. -/
theorem distinct_eq_eraseDups
    {seen : List BucketId}
    (hids : s.HasUniqueIds)
    (hexist : ∀ ref ∈ refs, ref < s.buckets.size) :
    distinct s seen refs =
      (refs.filter fun ref => !seen.contains (s.bucket ref).id).eraseDups := by
  induction refs generalizing seen with
  | nil => rfl
  | cons ref rest ih =>
      have hrest : ∀ other ∈ rest, other < s.buckets.size :=
        fun other hother => hexist other (List.mem_cons_of_mem _ hother)
      simp only [distinct]
      split
      · rename_i hseen
        rw [ih hrest, List.filter_cons_of_neg (by simpa using hseen)]
      · rename_i hnew
        rw [ih hrest, List.filter_cons_of_pos (by simpa using hnew), List.eraseDups_cons,
          List.filter_filter]
        congr 2
        refine List.filter_congr ?_
        intro other hother
        have hsame : ((s.bucket other).id == (s.bucket ref).id) = (other == ref) := by
          rw [Bool.eq_iff_iff, beq_iff_eq, beq_iff_eq]
          constructor
          · exact hids other ref (hrest other hother) (hexist ref List.mem_cons_self)
          · rintro rfl
            rfl
        rw [List.contains_cons, hsame, Bool.not_or]

theorem nodup_ids_eraseDups
    (hids : s.HasUniqueIds)
    (hexist : ∀ ref ∈ refs, ref < s.buckets.size) :
    (refs.eraseDups.map fun ref => (s.bucket ref).id).Nodup := by
  have hdistinct := (nodup_distinct s [] refs).1
  rw [distinct_eq_eraseDups hids hexist] at hdistinct
  simpa using hdistinct

theorem nodup_wanted
    (hids : s.HasUniqueIds)
    (hexist : ∀ ref ∈ refs, ref < s.buckets.size) :
    (wanted s refs).Nodup :=
  (nodup_ids_eraseDups hids hexist).of_map.sublist List.filter_sublist

end Requests

section Room

/-- Whether all active buckets exist and none of them is collected. -/
structure IsSettled (m : Residency) (s : Scene) : Prop where
  tidy : Tidy m
  known : ∀ a ∈ m.active, Knows s a
  uncollected : ∀ a ∈ m.active, (s.bucket a.bucket).isCollected = false

variable {m : Residency} {s : Scene} {refs : List BucketRef} {a : ActiveBucket}

theorem isActive_eq_holds
    (hknown : ∀ a ∈ m.active, Knows s a)
    (hids : s.HasUniqueIds)
    {ref : BucketRef}
    (hexist : ref < s.buckets.size) :
    m.isActive (s.bucket ref).id = m.holds ref := by
  rw [Bool.eq_iff_iff, isActive_iff, List.mem_map, holds_iff]
  constructor
  · rintro ⟨a, ha, hid⟩
    obtain ⟨hlt, hown⟩ := hknown a ha
    exact ⟨a, ha, hids a.bucket ref hlt hexist (hown.trans hid)⟩
  · rintro ⟨a, ha, rfl⟩
    exact ⟨a, ha, (hknown a ha).2.symm⟩

/-- The buckets that are given slots are the newcomers. -/
theorem arriving_eq
    (hknown : ∀ a ∈ m.active, Knows s a)
    (hids : s.HasUniqueIds)
    (hexist : ∀ ref ∈ refs, ref < s.buckets.size) :
    m.arriving s refs.eraseDups = m.newcomers (wanted s refs) := by
  rw [arriving, newcomers, wanted, List.filter_filter]
  refine List.filter_congr ?_
  intro ref href
  rw [isActive_eq_holds hknown hids (hexist ref (List.mem_eraseDups.mp href)), Bool.and_comm]

/-- A requested bucket that is active is wanted, as no active bucket is collected. -/
theorem contains_wanted_eq
    (h : IsSettled m s)
    (hids : s.HasUniqueIds)
    (hexist : ∀ ref ∈ refs, ref < s.buckets.size)
    (ha : a ∈ m.active) :
    (refs.eraseDups.map fun ref => (s.bucket ref).id).contains a.id =
      (wanted s refs).contains a.bucket := by
  obtain ⟨hlt, hid⟩ := h.known a ha
  rw [Bool.eq_iff_iff, List.contains_iff_mem, List.contains_iff_mem, List.mem_map, mem_wanted]
  constructor
  · rintro ⟨ref, href, hsame⟩
    have hmem := List.mem_eraseDups.mp href
    obtain rfl := hids ref a.bucket (hexist ref hmem) hlt (hsame.trans hid.symm)
    exact ⟨hmem, h.uncollected a ha⟩
  · rintro ⟨href, _⟩
    exact ⟨a.bucket, List.mem_eraseDups.mpr href, hid⟩

/-- The buckets that give their slots up are those that do not stay. -/
theorem leaving_eq
    (h : IsSettled m s)
    (hids : s.HasUniqueIds)
    (hexist : ∀ ref ∈ refs, ref < s.buckets.size) :
    m.leaving s refs.eraseDups =
      (m.active.filter fun a => !(wanted s refs).contains a.bucket).map (·.id) := by
  rw [leaving, List.filter_map]
  congr 1
  refine List.filter_congr ?_
  intro a ha
  rw [Function.comp_apply, contains_wanted_eq h hids hexist ha]

/-- The wanted buckets are those that stay and the newcomers. -/
theorem perm_staying_newcomers
    (htidy : Tidy m)
    (hknown : ∀ a ∈ m.active, Knows s a)
    {wanted : List BucketRef}
    (hnodup : wanted.Nodup) :
    ((m.staying wanted).map (·.bucket) ++ m.newcomers wanted).Perm wanted := by
  have hactive : ((m.staying wanted).map (·.bucket)).Nodup := by
    refine List.Nodup.of_map (fun ref => (s.bucket ref).id) ?_
    have hsame : ((m.staying wanted).map (·.bucket)).map (fun ref => (s.bucket ref).id) =
        (m.staying wanted).map (·.id) := by
      rw [List.map_map]
      exact List.map_congr_left fun a ha => (hknown a (List.mem_filter.mp ha).1).2
    rw [hsame]
    exact htidy.ids.sublist (List.filter_sublist.map _)
  have hheld : ((m.staying wanted).map (·.bucket)).Perm (wanted.filter m.holds) := by
    rw [List.perm_ext_iff_of_nodup hactive (hnodup.sublist List.filter_sublist)]
    intro ref
    rw [List.mem_filter, holds_iff, List.mem_map]
    constructor
    · rintro ⟨a, ha, rfl⟩
      obtain ⟨hmem, hwanted⟩ := List.mem_filter.mp ha
      exact ⟨List.contains_iff_mem.mp hwanted, a, hmem, rfl⟩
    · rintro ⟨hwanted, a, ha, rfl⟩
      exact ⟨a, List.mem_filter.mpr ⟨ha, List.contains_iff_mem.mpr hwanted⟩, rfl⟩
  exact (hheld.append_right _).trans (List.filter_append_perm _ _)

/-- There is room exactly if no more buckets are wanted than there are slots. -/
theorem hasRoom_iff
    (h : IsSettled m s)
    (hids : s.HasUniqueIds)
    (hexist : ∀ ref ∈ refs, ref < s.buckets.size) :
    m.hasRoom s refs.eraseDups = true ↔ (wanted s refs).length ≤ m.capacity := by
  have hslots := h.tidy.length_active_add_length_free
  have hsplit := List.length_eq_length_filter_add (l := m.active)
    fun a => (wanted s refs).contains a.bucket
  have hwanted := (perm_staying_newcomers h.tidy h.known
    (nodup_wanted hids hexist)).length_eq
  rw [List.length_append, List.length_map, staying] at hwanted
  rw [hasRoom, decide_eq_true_iff, arriving_eq h.known hids hexist, leaving_eq h hids hexist,
    List.length_map]
  omega

end Room

section Striking

/-- Whether some entries were struck out of the books, and nothing else was done. -/
structure Strikes
    (gone : ActiveBucket → Bool) (m m' : Residency) (s s' : Scene) : Prop where
  layout : m'.layout = m.layout
  active : m'.active = m.active.filter fun a => !gone a
  committed : ∀ a ∈ m.active, gone a = false → (a.id ∈ m'.committed ↔ a.id ∈ m.committed)
  tidy : Tidy m → Tidy m'
  scene : Scene.Alike s s'
  /-- The subscriptions on buckets that stay active are left alone. -/
  listeners : ∀ a ∈ m'.active,
    (s'.bucket a.bucket).listeners = (s.bucket a.bucket).listeners

variable {m m' m'' : Residency} {s s' s'' : Scene} {a : ActiveBucket}
  {gone gone' : ActiveBucket → Bool}

theorem Strikes.refl (m : Residency) (s : Scene) : Strikes (fun _ => false) m m s s where
  layout := rfl
  active := by simp
  committed _ _ _ := .rfl
  tidy h := h
  scene := .refl s
  listeners _ _ := rfl

theorem Strikes.congr
    (h : Strikes gone m m' s s')
    (hsame : ∀ a ∈ m.active, gone a = gone' a) :
    Strikes gone' m m' s s' where
  layout := h.layout
  active := h.active.trans (List.filter_congr fun a ha => by rw [hsame a ha])
  committed a ha hstays := h.committed a ha ((hsame a ha).trans hstays)
  tidy := h.tidy
  scene := h.scene
  listeners := h.listeners

theorem Strikes.mem_active_iff
    (h : Strikes gone m m' s s') :
    a ∈ m'.active ↔ a ∈ m.active ∧ gone a = false := by
  rw [h.active, List.mem_filter, Bool.not_eq_true']

theorem Strikes.trans
    (h : Strikes gone m m' s s')
    (h' : Strikes gone' m' m'' s' s'') :
    Strikes (fun a => gone a || gone' a) m m'' s s'' where
  layout := h'.layout.trans h.layout
  active := by
    rw [h'.active, h.active, List.filter_filter]
    exact List.filter_congr fun a _ => by rw [Bool.not_or, Bool.and_comm]
  committed a ha hstays := by
    obtain ⟨hfirst, hsecond⟩ := Bool.or_eq_false_iff.mp hstays
    exact (h'.committed a (h.mem_active_iff.mpr ⟨ha, hfirst⟩) hsecond).trans
      (h.committed a ha hfirst)
  tidy htidy := h'.tidy (h.tidy htidy)
  scene := h.scene.trans h'.scene
  listeners a ha :=
    (h'.listeners a ha).trans (h.listeners a (h'.mem_active_iff.mp ha).1)

theorem Strikes.known
    (h : Strikes gone m m' s s')
    (hknown : ∀ a ∈ m.active, Knows s a) :
    ∀ a ∈ m'.active, Knows s' a :=
  fun a ha => (hknown a (h.mem_active_iff.mp ha).1).of_extends h.scene.extends

theorem strikes_release
    (hknown : ∀ a ∈ m.active, Knows s a)
    (id : BucketId) :
    Strikes (fun a => a.id == id) m (m.release s id).1 s (m.release s id).2 := by
  cases hfind : m.find? id with
  | none =>
      rw [release_of_find?_eq_none s hfind]
      refine (Strikes.refl m s).congr ?_
      intro a ha
      have hother := List.find?_eq_none.mp hfind a ha
      exact (Bool.eq_false_iff.mpr hother).symm
  | some a =>
      obtain ⟨ha, rfl⟩ := find?_eq_some hfind
      rw [release_of_find?_eq_some s hfind]
      refine ⟨rfl, rfl, ?_, fun h => h.without ha, alike_dismiss m s a, ?_⟩
      · intro b _ hne
        have hother : (b.id != a.id) = true := by simpa using hne
        exact ⟨fun h => (List.mem_filter.mp h).1, fun h => List.mem_filter.mpr ⟨h, hother⟩⟩
      · intro b hb
        obtain ⟨hactive, hne⟩ := List.mem_filter.mp hb
        have hother : b.bucket ≠ a.bucket := by
          intro hsame
          have hids : b.id = a.id := by
            rw [← (hknown b hactive).2, hsame, (hknown a ha).2]
          simp [hids] at hne
        rw [bucket_dismiss_of_ne hother]

theorem strikes_enqueue (m : Residency) (s : Scene) (id : BucketId) :
    Strikes (fun _ => false) m (m.enqueue s id) s s where
  layout := rfl
  active := by simp [enqueue]
  committed _ _ _ := .rfl
  tidy h := h.of_eq rfl rfl rfl rfl
  scene := .refl s
  listeners _ _ := rfl

/-- Only a notice about a collection strikes an entry out. -/
theorem strikes_react
    (hknown : ∀ a ∈ m.active, Knows s a)
    (notice : Notice) :
    Strikes (fun a => notice == ⟨a.id, .collected⟩) m
      (m.react s notice).1 s (m.react s notice).2 := by
  obtain ⟨id, event⟩ := notice
  cases event with
  | collected =>
      refine (strikes_release hknown id).congr ?_
      intro a _
      rw [Bool.eq_iff_iff, beq_iff_eq, beq_iff_eq, Notice.mk.injEq]
      exact ⟨fun h => ⟨h.symm, rfl⟩, fun h => h.1.symm⟩
  | loaded => exact (strikes_enqueue m s id).congr fun a _ => by simp
  | labeled => exact (strikes_enqueue m s id).congr fun a _ => by simp

/-- Striking entries out step by step. -/
theorem strikes_foldl
    {α : Type} {step : Residency × Scene → α → Residency × Scene}
    {gone : α → ActiveBucket → Bool}
    (hstep : ∀ m s x, (∀ a ∈ m.active, Knows s a) →
      Strikes (gone x) m (step (m, s) x).1 s (step (m, s) x).2)
    (hknown : ∀ a ∈ m.active, Knows s a)
    (list : List α) :
    Strikes (fun a => list.any fun x => gone x a) m
      (list.foldl step (m, s)).1 s (list.foldl step (m, s)).2 := by
  induction list generalizing m s with
  | nil => exact .refl m s
  | cons x rest ih =>
      have hfirst := hstep m s x hknown
      exact hfirst.trans (ih (hfirst.known hknown))

theorem strikes_releaseAll
    (hknown : ∀ a ∈ m.active, Knows s a)
    (ids : List BucketId) :
    Strikes (fun a => ids.contains a.id) m (m.releaseAll s ids).1 s (m.releaseAll s ids).2 := by
  refine (strikes_foldl (fun m s id hknown => strikes_release hknown id) hknown ids).congr ?_
  intro a _
  rw [List.contains_eq_any_beq]

theorem strikes_reactAll
    (hknown : ∀ a ∈ m.active, Knows s a)
    (notices : List Notice) :
    Strikes (fun a => notices.contains ⟨a.id, .collected⟩) m
      (m.reactAll s notices).1 s (m.reactAll s notices).2 := by
  let step : Residency × Scene → Notice → Residency × Scene :=
    fun state notice => react state.1 state.2 notice
  have hstep : ∀ m s notice, (∀ a ∈ m.active, Knows s a) →
      Strikes (fun a => notice == ⟨a.id, .collected⟩) m
        (step (m, s) notice).1 s (step (m, s) notice).2 :=
    fun m s notice hknown => strikes_react hknown notice
  refine (strikes_foldl hstep hknown notices).congr ?_
  intro a _
  rw [Bool.eq_iff_iff, List.any_eq_true, List.contains_iff_mem]
  constructor
  · rintro ⟨notice, hnotice, hsame⟩
    exact beq_iff_eq.mp hsame ▸ hnotice
  · intro hmem
    exact ⟨_, hmem, beq_self_eq_true _⟩

theorem anchor_releaseAll
    (m : Residency) (s : Scene) (ids : List BucketId) :
    (m.releaseAll s ids).1.anchor = m.anchor := by
  induction ids generalizing m s with
  | nil => rfl
  | cons id rest ih =>
      have hfirst : (m.release s id).1.anchor = m.anchor := by
        unfold release
        split <;> rfl
      exact (ih _ _).trans hfirst

/-- An active bucket that is called collected is collected. -/
theorem isCollected_of_mem_notices
    {w : World}
    (h : Heedful w)
    (hids : w.scene.HasUniqueIds)
    (ha : a ∈ w.residency.active)
    (hnotice : ⟨a.id, .collected⟩ ∈ (w.scene.mailbox w.residency.mailbox).notices) :
    (w.scene.bucket a.bucket).isCollected = true := by
  obtain ⟨ref, hlt, hid, hcollected⟩ := h.truthful _ hnotice rfl
  obtain ⟨hexist, hown⟩ := h.known a ha
  rwa [hids ref a.bucket hlt hexist (hid.trans hown.symm)] at hcollected

/-- Reading the notices takes the slots of all collected buckets away, and of no others. -/
theorem strikes_readNotices
    {c : Chronicle}
    (h : Heedful ⟨m, s, c⟩)
    (hids : s.HasUniqueIds) :
    Strikes (fun a => (s.bucket a.bucket).isCollected) m
      (m.readNotices s).1 s (m.readNotices s).2 := by
  have hdrained : Strikes (fun _ => false) m m s (s.drain m.mailbox).2 :=
    ⟨rfl, by simp, fun _ _ _ => .rfl, fun h => h, Scene.alike_of_buckets rfl, fun _ _ => rfl⟩
  have hread := hdrained.trans
    (strikes_reactAll (hdrained.known h.known) (s.drain m.mailbox).1)
  refine hread.congr ?_
  intro a ha
  rw [Bool.false_or, Bool.eq_iff_iff, List.contains_iff_mem]
  constructor
  · exact isCollected_of_mem_notices h hids ha
  · exact h.warned a ha

end Striking

section Filling

/-- Whether buckets were given slots, and nothing else was done. -/
structure Fills (refs : List BucketRef) (m m' : Residency) (s s' : Scene) : Prop where
  layout : m'.layout = m.layout
  committed : m'.committed = m.committed
  anchor : m'.anchor = m.anchor
  active : ∃ new, m'.active = m.active ++ new ∧
    new.map (·.bucket) = refs ∧
    new.map (·.slot) = m.free.take refs.length ∧
    new.map (·.id) = refs.map fun ref => (s.bucket ref).id
  free : m'.free = m.free.drop refs.length
  scene : Scene.Alike s s'
  listeners : ∀ ref, ref ∉ refs → (s'.bucket ref).listeners = (s.bucket ref).listeners

variable {m : Residency} {s : Scene} {refs : List BucketRef}

/-- Buckets for which there are slots get the smallest ones, in order. -/
theorem fills_reserveAll
    (fault : Fault)
    (h : refs.length ≤ m.free.length) :
    Fills refs m (m.reserveAll s fault refs).2.1 s (m.reserveAll s fault refs).2.2 := by
  induction refs generalizing m s with
  | nil =>
      exact ⟨rfl, rfl, rfl, ⟨[], by simp [reserveAll]⟩, rfl, .refl s, fun _ _ => rfl⟩
  | cons ref rest ih =>
      rw [reserveAll]
      split
      · rename_i hfree
        rw [hfree] at h
        cases h
      · rename_i slot free hfree
        rw [hfree, List.length_cons, List.length_cons] at h
        let first := { m with free := free }.reserve s ref slot
        have halike : Scene.Alike s first.2 := alike_reserve _ s ref slot
        have hrest : Fills rest first.1 (first.1.reserveAll first.2 fault rest).2.1 first.2
            (first.1.reserveAll first.2 fault rest).2.2 := ih (Nat.le_of_succ_le_succ h)
        obtain ⟨new, hactive, hbuckets, hslots, hnew⟩ := hrest.active
        refine ⟨hrest.layout, hrest.committed, hrest.anchor, ?_, ?_, halike.trans hrest.scene, ?_⟩
        · refine ⟨⟨(s.bucket ref).id, ref, slot, (s.subscribe ref (interestIn (s.bucket ref))
            m.mailbox).1⟩ :: new, ?_, ?_, ?_, ?_⟩
          · rw [hactive, List.append_cons]
            rfl
          · rw [List.map_cons, hbuckets]
          · rw [List.map_cons, hslots, hfree]
            rfl
          · rw [List.map_cons, List.map_cons, hnew]
            congr 1
            exact List.map_congr_left fun other _ => (halike.same other).id
        · rw [hrest.free, hfree]
          rfl
        · intro other hother
          rw [List.mem_cons, not_or] at hother
          rw [hrest.listeners other hother.2]
          have hbucket : first.2.bucket other = s.bucket other :=
            Scene.bucket_setBucket_of_ne hother.1
          rw [hbucket]

end Filling

section Replacing

/-- What a request that finds room makes of the books. -/
structure Replaces
    (wanted : List BucketRef) (anchor : Address) (m m' : Residency) (s s' : Scene) : Prop where
  anchor : m'.anchor = anchor
  all : (m'.active.map (·.bucket)).Perm wanted
  /-- Buckets that stay keep their entries; newcomers get the smallest slots, in order. -/
  active : ∃ new, m'.active = m.staying wanted ++ new ∧
    new.map (·.bucket) = m.newcomers wanted ∧
    new.map (·.slot) = (m.room wanted).take (m.newcomers wanted).length ∧
    ∀ a ∈ new, a.id ∉ m'.committed
  free : m'.free = (m.room wanted).drop (m.newcomers wanted).length
  committed : ∀ a ∈ m.staying wanted, (a.id ∈ m'.committed ↔ a.id ∈ m.committed)
  listeners : ∀ a ∈ m.staying wanted,
    (s'.bucket a.bucket).listeners = (s.bucket a.bucket).listeners

variable {m m' m'' : Residency} {s s' s'' : Scene} {c : Chronicle} {refs : List BucketRef}
  {wanted : List BucketRef} {anchor : Address}

/-- Whoever does not stay leaves a free slot. -/
theorem free_eq_room
    (htidy : Tidy m)
    (htidy' : Tidy m')
    (hlayout : m'.layout = m.layout)
    (hactive : m'.active = m.staying wanted) :
    m'.free = m.room wanted := by
  have hcapacity : m'.capacity = m.capacity := by
    rw [capacity, hlayout, capacity]
  have hroom : (m.room wanted).Pairwise (· < ·) := List.pairwise_lt_range.filter _
  refine htidy'.ascending.eq_of_mem_iff hroom ?_
  intro slot
  have hleft : slot ∈ m'.free ↔
      slot < m.capacity ∧ ∀ a ∈ m.active, a.bucket ∈ wanted → a.slot ≠ slot := by
    rw [← hcapacity, htidy'.lt_capacity_iff]
    constructor
    · intro hfree
      refine ⟨.inl hfree, ?_⟩
      rintro a ha hwanted rfl
      have hmem : a ∈ m'.active := by
        rw [hactive]
        exact List.mem_filter.mpr ⟨ha, List.contains_iff_mem.mpr hwanted⟩
      exact htidy'.slot_not_free hmem hfree
    · rintro ⟨hfree | howned, hother⟩
      · exact hfree
      · obtain ⟨a, ha, hslot⟩ := List.mem_map.mp howned
        rw [hactive] at ha
        obtain ⟨hmem, hwanted⟩ := List.mem_filter.mp ha
        exact absurd hslot (hother a hmem (List.contains_iff_mem.mp hwanted))
  rw [hleft, room, List.mem_filter, List.mem_range]
  refine and_congr_right fun hlt => ?_
  rw [Bool.or_eq_true, List.contains_iff_mem, List.any_eq_true]
  constructor
  · intro hother
    rcases htidy.lt_capacity_iff.mp hlt with hfree | howned
    · exact .inl hfree
    · obtain ⟨a, ha, hslot⟩ := List.mem_map.mp howned
      have hunwanted : a.bucket ∉ wanted := fun hwanted => hother a ha hwanted hslot
      exact .inr ⟨a, ha, by simpa [hslot] using hunwanted⟩
  · rintro (hfree | ⟨b, hb, howned⟩) a ha hwanted hslot
    · exact htidy.slot_not_free ha (hslot ▸ hfree)
    · rw [Bool.and_eq_true, beq_iff_eq] at howned
      obtain rfl := htidy.eq_of_slot ha hb (hslot.trans howned.1.symm)
      simp [hwanted] at howned

/-- Striking out those who do not stay, and then giving slots to the newcomers. -/
theorem replaces_of_strikes_fills
    (htidy : Tidy m)
    (hknown : ∀ a ∈ m.active, Knows s a)
    (hids : s.HasUniqueIds)
    (hnodup : wanted.Nodup)
    (hexist : ∀ ref ∈ wanted, ref < s.buckets.size)
    (hstrikes : Strikes (fun a => !wanted.contains a.bucket) m m' s s')
    (hanchor : m'.anchor = anchor)
    (hfills : Fills (m.newcomers wanted) m' m'' s' s'') :
    Replaces wanted anchor m m'' s s'' := by
  have hstaying : m'.active = m.staying wanted := by
    rw [hstrikes.active, staying]
    exact List.filter_congr fun a _ => Bool.not_not _
  have hfree := free_eq_room htidy (hstrikes.tidy htidy) hstrikes.layout hstaying
  obtain ⟨new, hactive, hbuckets, hslots, hnew⟩ := hfills.active
  rw [hstaying] at hactive
  have hkept : ∀ a ∈ m.staying wanted, a ∈ m.active ∧ (!wanted.contains a.bucket) = false := by
    intro a ha
    obtain ⟨hmem, hwanted⟩ := List.mem_filter.mp ha
    exact ⟨hmem, by simpa using hwanted⟩
  refine ⟨hfills.anchor.trans hanchor, ?_, ⟨new, hactive, hbuckets, ?_, ?_⟩, ?_, ?_, ?_⟩
  · rw [hactive, List.map_append, hbuckets]
    exact perm_staying_newcomers htidy hknown hnodup
  · rw [hslots, hfree]
  · -- a committed newcomer would have been active before, and so it would stay
    intro a ha hcommitted
    rw [hfills.committed] at hcommitted
    obtain ⟨b, hb, hid⟩ :=
      List.mem_map.mp ((hstrikes.tidy htidy).committed_active _ hcommitted)
    have hcomes : a.bucket ∈ m.newcomers wanted := hbuckets ▸ List.mem_map_of_mem ha
    obtain ⟨hwanted, hfresh⟩ := mem_newcomers.mp hcomes
    have hown : a.id = (s.bucket a.bucket).id := by
      rw [← (hstrikes.scene.same a.bucket).id]
      rw [← hbuckets, List.map_map] at hnew
      exact List.map_inj_left.mp hnew a ha
    obtain ⟨hmem, _⟩ := hstrikes.mem_active_iff.mp hb
    obtain ⟨hlt, hbid⟩ := hknown b hmem
    have hsame := hids b.bucket a.bucket hlt (hexist _ hwanted) (by rw [hbid, hid, hown])
    have hheld : m.holds a.bucket = true := holds_iff.mpr ⟨b, hmem, hsame⟩
    rw [hfresh] at hheld
    cases hheld
  · rw [hfills.free, hfree]
  · intro a ha
    rw [hfills.committed]
    exact hstrikes.committed a (hkept a ha).1 (hkept a ha).2
  · intro a ha
    rw [hfills.listeners, hstrikes.listeners a (hstaying ▸ ha)]
    intro hcomes
    have hheld : m.holds a.bucket = true := holds_iff.mpr ⟨a, (hkept a ha).1, rfl⟩
    rw [(mem_newcomers.mp hcomes).2] at hheld
    cases hheld

end Replacing

section Activating

variable {m : Residency} {s s' : Scene} {c : Chronicle} {refs : List BucketRef}

theorem wanted_of_alike
    (halike : Scene.Alike s s')
    (refs : List BucketRef) :
    wanted s' refs = wanted s refs := by
  unfold wanted
  exact List.filter_congr fun ref _ => by rw [halike.isCollected]

theorem hasUniqueIds_of_alike
    (hids : s.HasUniqueIds)
    (halike : Scene.Alike s s') :
    s'.HasUniqueIds := by
  intro i j hi hj hid
  rw [halike.size] at hi hj
  rw [(halike.same i).id, (halike.same j).id] at hid
  exact hids i j hi hj hid

/-- After the notices were read, no active bucket is collected. -/
theorem isSettled_readNotices
    (h : Heedful ⟨m, s, c⟩)
    (htidy : Tidy m)
    (hids : s.HasUniqueIds) :
    IsSettled (m.readNotices s).1 (m.readNotices s).2 := by
  have hstrikes := strikes_readNotices h hids
  refine ⟨hstrikes.tidy htidy, hstrikes.known h.known, ?_⟩
  intro a ha
  rw [hstrikes.scene.isCollected]
  exact (hstrikes.mem_active_iff.mp ha).2

theorem IsSettled.of_journal
    (h : IsSettled m s)
    (journal : Journal) :
    IsSettled m { s with journal := journal } :=
  ⟨h.tidy, h.known, h.uncollected⟩

/-- The buckets that are not wanted give their slots up. -/
theorem strikes_leaving
    (h : IsSettled m s)
    (hids : s.HasUniqueIds)
    (hexist : ∀ ref ∈ refs, ref < s.buckets.size)
    (anchor : Address) :
    let aimed := { m with anchor := anchor }
    let released := aimed.releaseAll s (m.leaving s refs.eraseDups)
    Strikes (fun a => !(wanted s refs).contains a.bucket) m released.1 s released.2 := by
  intro aimed released
  have haimed : Strikes (fun _ => false) m aimed s s :=
    ⟨rfl, by simp [aimed], fun _ _ _ => .rfl, fun h => h.of_eq rfl rfl rfl rfl, .refl s,
      fun _ _ => rfl⟩
  have hreleased := strikes_releaseAll (m := aimed) h.known (m.leaving s refs.eraseDups)
  refine (haimed.trans hreleased).congr ?_
  intro a ha
  rw [Bool.false_or, Bool.eq_iff_iff, List.contains_iff_mem, leaving_eq h hids hexist,
    List.mem_map]
  constructor
  · rintro ⟨b, hb, hid⟩
    obtain ⟨hactive, hunwanted⟩ := List.mem_filter.mp hb
    obtain rfl := h.tidy.eq_of_id hactive ha hid
    exact hunwanted
  · intro hunwanted
    exact ⟨a, List.mem_filter.mpr ⟨ha, hunwanted⟩, rfl⟩

/-- Slots are taken away, and then they are given to the newcomers. -/
theorem exists_occupy
    (h : IsSettled m s)
    (hids : s.HasUniqueIds)
    (hexist : ∀ ref ∈ refs, ref < s.buckets.size)
    (hle : (wanted s refs).length ≤ m.capacity)
    (anchor : Address) :
    ∃ m₁ s₁ m' s', m.occupy s refs.eraseDups anchor = (.ok (), m', s') ∧
      Strikes (fun a => !(wanted s refs).contains a.bucket) m m₁ s s₁ ∧
      m₁.anchor = anchor ∧
      Fills (m.newcomers (wanted s refs)) m₁ m' s₁ s' := by
  have hroom := (hasRoom_iff h hids hexist).mpr hle
  let released := releaseAll { m with anchor := anchor } s (m.leaving s refs.eraseDups)
  have hlength : released.1.free.length =
      m.free.length + (m.leaving s refs.eraseDups).length :=
    length_free_releaseAll (h.tidy.of_eq rfl rfl rfl rfl) (nodup_leaving h.tidy _)
      fun id => mem_active_of_mem_leaving
  have hslots : (m.newcomers (wanted s refs)).length ≤ released.1.free.length := by
    rw [← arriving_eq h.known hids hexist]
    exact hlength ▸ of_decide_eq_true hroom
  let filled := released.1.reserveAll released.2 (released.1.exhausted refs.eraseDups)
    (m.newcomers (wanted s refs))
  have hoccupy : m.occupy s refs.eraseDups anchor = filled := by
    rw [occupy, if_pos hroom, arriving_eq h.known hids hexist]
  have hok : filled.1 = .ok () := isOk_reserveAll hslots
  refine ⟨released.1, released.2, filled.2.1, filled.2.2, ?_,
    strikes_leaving h hids hexist anchor, anchor_releaseAll _ _ _, fills_reserveAll _ hslots⟩
  rw [hoccupy, ← hok]

/-- Reading the notices makes nobody a newcomer who is wanted. -/
theorem newcomers_of_strikes
    {m' : Residency}
    (h : Strikes (fun a => (s.bucket a.bucket).isCollected) m m' s s') :
    m'.newcomers (wanted s refs) = m.newcomers (wanted s refs) := by
  refine List.filter_congr ?_
  intro ref href
  congr 1
  rw [Bool.eq_iff_iff, holds_iff, holds_iff]
  constructor
  · rintro ⟨a, ha, hsame⟩
    exact ⟨a, (h.mem_active_iff.mp ha).1, hsame⟩
  · rintro ⟨a, ha, rfl⟩
    exact ⟨a, h.mem_active_iff.mpr ⟨ha, (mem_wanted.mp href).2⟩, rfl⟩

/-- What a request does after the notices were read. -/
theorem activate_eq
    (h : Heedful ⟨m, s, c⟩)
    (hids : s.HasUniqueIds)
    (hexist : ∀ ref ∈ refs, ref < s.buckets.size)
    (outside : BucketRef → Bool) (anchor : Address) :
    ∃ journal, m.activate s outside refs anchor =
      match (m.readNotices s).1.occupy { (m.readNotices s).2 with journal := journal }
          refs.eraseDups anchor with
      | (.error fault, m', s') => (.error fault, m', s')
      | (.ok _, m', s') => m'.refresh s' outside := by
  have hscene := (strikes_readNotices h hids).scene
  have hdistinct : distinct (m.readNotices s).2 [] refs = refs.eraseDups := by
    rw [distinct_eq_eraseDups (hasUniqueIds_of_alike hids hscene) (hscene.size ▸ hexist)]
    simp
  obtain ⟨journal, hreport⟩ := journal_reportCollected (m.readNotices s).2 refs.eraseDups
  refine ⟨journal, ?_⟩
  rw [← hreport, ← hdistinct]
  rfl

/-- A request of which no more buckets are wanted than there are slots is carried out. -/
theorem activate_of_length_le
    (h : Heedful ⟨m, s, c⟩)
    (htidy : Tidy m)
    (hids : s.HasUniqueIds)
    (hexist : ∀ ref ∈ refs, ref < s.buckets.size)
    (hle : (wanted s refs).length ≤ m.capacity)
    (outside : BucketRef → Bool) (anchor : Address) :
    ∃ m' s', m.activate s outside refs anchor = m'.refresh s' outside ∧
      Replaces (wanted s refs) anchor m m' s s' ∧
      Moves true ⟨m, s, c⟩ ⟨m', s', c⟩ ∧
      (s'.mailbox m'.mailbox).notices = [] := by
  have hread := strikes_readNotices h hids
  have hheard := moves_readNotices true m s c
  have hnotices := notices_readNotices m s
  obtain ⟨journal, hactivate⟩ := activate_eq h hids hexist outside anchor
  have hsettled := (isSettled_readNotices h htidy hids).of_journal journal
  rcases hnext : m.readNotices s with ⟨m₁, s₁⟩
  rw [hnext] at hread hheard hnotices hactivate hsettled
  have hnoted : Strikes (fun _ => false) m₁ m₁ s₁ { s₁ with journal := journal } :=
    ⟨rfl, by simp, fun _ _ _ => .rfl, fun h => h, Scene.alike_of_buckets rfl, fun _ _ => rfl⟩
  have hready := hread.trans hnoted
  have hids₁ := hasUniqueIds_of_alike hids hready.scene
  have hwanted := wanted_of_alike hready.scene refs
  have hcapacity : m₁.capacity = m.capacity := by
    rw [capacity, hread.layout, capacity]
  have hexist₁ : ∀ ref ∈ refs, ref < s₁.buckets.size := hread.scene.size ▸ hexist
  obtain ⟨m₂, s₂, m', s', hoccupy, hstrikes, hanchor, hfills⟩ :=
    exists_occupy hsettled hids₁ hexist₁ (by rwa [hwanted, hcapacity]) anchor
  have hjournal : Moves true ⟨m₁, s₁, c⟩ ⟨m₁, { s₁ with journal := journal }, c⟩ :=
    moves_journal m₁ c ⟨journal, rfl⟩
  have hoccupies := moves_occupy c anchor ((hasRoom_iff hsettled hids₁ hexist₁).mpr
    (by rwa [hwanted, hcapacity])) (fun ref href => hexist₁ ref (List.mem_eraseDups.mp href))
    (nodup_ids_eraseDups hids₁ hexist₁)
  rw [hwanted] at hstrikes hfills
  rw [newcomers_of_strikes hread] at hfills
  rw [hoccupy] at hactivate hoccupies
  have hlater : Moves true ⟨m₁, s₁, c⟩ ⟨m', s', c⟩ := hjournal.trans hoccupies
  refine ⟨m', s', hactivate, ?_, hheard.trans hlater, Moves.notices_eq_nil hlater hnotices⟩
  refine replaces_of_strikes_fills htidy h.known hids (nodup_wanted hids hexist)
    (fun ref href => hexist ref (mem_wanted.mp href).1) ?_ hanchor hfills
  -- Collected buckets are not wanted, so both ways of losing a slot come to one.
  refine (hready.trans hstrikes).congr ?_
  intro a _
  cases hcollected : (s.bucket a.bucket).isCollected with
  | true =>
      have hunwanted : a.bucket ∉ wanted s refs := by
        rw [mem_wanted, hcollected]
        simp
      simp [hunwanted]
  | false => rfl

/-- A request of which more buckets are wanted than there are slots is refused. -/
theorem activate_of_lt_length
    (h : Heedful ⟨m, s, c⟩)
    (htidy : Tidy m)
    (hids : s.HasUniqueIds)
    (hexist : ∀ ref ∈ refs, ref < s.buckets.size)
    (hlt : m.capacity < (wanted s refs).length)
    (outside : BucketRef → Bool) (anchor : Address) :
    ∃ journal, m.activate s outside refs anchor =
      (.error (.capacityExhausted m.capacity refs.eraseDups.length), (m.readNotices s).1,
        { (m.readNotices s).2 with journal := journal }) := by
  have hread := strikes_readNotices h hids
  obtain ⟨journal, hactivate⟩ := activate_eq h hids hexist outside anchor
  have hsettled := (isSettled_readNotices h htidy hids).of_journal journal
  have hcapacity : (m.readNotices s).1.capacity = m.capacity := by
    rw [capacity, hread.layout, capacity]
  have halike : Scene.Alike s { (m.readNotices s).2 with journal := journal } :=
    hread.scene.trans (Scene.alike_of_buckets rfl)
  have hwanted := wanted_of_alike halike refs
  have hfull := (hasRoom_iff hsettled (hasUniqueIds_of_alike hids halike)
    (halike.size ▸ hexist)).not
  have hroom := hfull.mpr (by rw [hwanted, hcapacity]; omega)
  obtain ⟨later, hrefused⟩ := occupy_of_not_hasRoom anchor hroom
  refine ⟨later, ?_⟩
  rw [hactivate, hrefused, exhausted, hcapacity]

/-- An upload is stopped by nothing but a write that the texture rejects. -/
theorem upload_fst (m : Residency) (s : Scene) :
    (m.upload s).1 = .ok () ∨ ∃ cause, (m.upload s).1 = .error (.update cause) := by
  unfold upload
  split
  · exact .inl rfl
  · rename_i ref _
    split
    · let whole : Rect := ⟨0, 0, m.settings.lookUpWidth, m.settings.lookUpWidth⟩
      have hupdate : (s.updateTexture ref m.lookUp.bytes whole).1 = .ok () ∨
          ∃ cause, (s.updateTexture ref m.lookUp.bytes whole).1 = .error (.update cause) :=
        s.device.update_fst ref m.lookUp.bytes whole
      dsimp only
      split <;> rename_i hwrite
      · rw [hwrite] at hupdate
        exact hupdate
      · exact .inl rfl
    · exact .inl rfl

theorem refresh_fst (m : Residency) (s : Scene) (outside : BucketRef → Bool) :
    (m.refresh s outside).1 = .ok () ∨ ∃ cause, (m.refresh s outside).1 = .error (.update cause) :=
  upload_fst _ _

/-- A request for the buckets that are active already does nothing but upload again. -/
theorem activate_again
    {outside : BucketRef → Bool}
    (h : Heedful ⟨m, s, c⟩)
    (htidy : Tidy m)
    (hids : s.HasUniqueIds)
    (hexist : ∀ ref ∈ refs, ref < s.buckets.size)
    (hall : (m.active.map (·.bucket)).Perm (wanted s refs))
    (hnotices : (s.mailbox m.mailbox).notices = [])
    (hfresh : m.lookUp = (m.entries s fun ref => outside ref || m.holds ref).1)
    (hstale : m.isStale = false) :
    ∃ isPending device journal, (m.activate s outside refs m.anchor).2 =
      ({ m with isUploadPending := isPending },
        { s with device := device, journal := journal }) := by
  have hread := readNotices_of_notices_eq_nil hnotices
  have hstays : ∀ a ∈ m.active, a.bucket ∈ wanted s refs :=
    fun a ha => hall.mem_iff.mp (List.mem_map_of_mem ha)
  have hsettled : IsSettled m s :=
    ⟨htidy, h.known, fun a ha => (mem_wanted.mp (hstays a ha)).2⟩
  obtain ⟨journal, hactivate⟩ := activate_eq h hids hexist outside m.anchor
  rw [hread] at hactivate
  let noted : Scene := { s with journal := journal }
  have hsettled' : IsSettled m noted := hsettled.of_journal journal
  have hroom : m.hasRoom noted refs.eraseDups = true := by
    refine (hasRoom_iff hsettled' hids hexist).mpr ?_
    have hlength := hall.length_eq
    have hslots := htidy.length_active_add_length_free
    rw [List.length_map] at hlength
    have hwanted : wanted noted refs = wanted s refs := rfl
    rw [hwanted]
    omega
  have harriving : m.arriving noted refs.eraseDups = [] := by
    rw [arriving_eq hsettled'.known hids hexist, newcomers, List.filter_eq_nil_iff]
    intro ref href
    obtain ⟨a, ha, rfl⟩ := List.mem_map.mp (hall.mem_iff.mpr href)
    simp [holds_iff.mpr ⟨a, ha, rfl⟩]
  have hleaving : m.leaving noted refs.eraseDups = [] := by
    rw [leaving_eq hsettled' hids hexist, List.map_eq_nil_iff, List.filter_eq_nil_iff]
    intro a ha
    have hwanted : a.bucket ∈ wanted noted refs := hstays a ha
    simp [hwanted]
  have hoccupy : m.occupy noted refs.eraseDups m.anchor = (.ok (), m, noted) := by
    rw [occupy, if_pos hroom, harriving, hleaving]
    rfl
  rw [show m.occupy _ _ _ = _ from hoccupy] at hactivate
  obtain ⟨isPending, hresidency⟩ := m.refresh_residency noted outside
  obtain ⟨device, later, hscene⟩ := m.refresh_scene noted outside
  have hentries : m.entries noted (fun ref => outside ref || m.holds ref) =
      m.entries s fun ref => outside ref || m.holds ref := by
    refine entries_congr rfl rfl rfl rfl fun a _ => ⟨?_, fun _ _ => rfl, fun _ _ => rfl⟩
    exact Scene.coarserChain_congr fun _ _ => rfl
  refine ⟨isPending, device, later, ?_⟩
  rw [hactivate]
  refine Prod.ext ?_ hscene
  rw [hresidency, hentries, ← hfresh, ← hstale]

end Activating

end Residency
end VoxelCache
