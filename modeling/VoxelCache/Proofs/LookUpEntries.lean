import VoxelCache.Proofs.Places
import VoxelCache.Proofs.Runs

/-!
# Exactness of the look-up entries

**The window.**  Addresses of the window have numbers of their own, all below the
number of entries that the address space takes up.

**The rule.**  An active bucket that is not coarser than the anchor is shown by its own
slot once it is committed.  Otherwise the nearest active and committed bucket above it
stands in, unless that one is too coarse; then the bucket is pending.

**Results.**
* `index?_eq_some_iff`, `index?_injective`: the numbering of the window.
* `entries_of_perm`: where buckets have cells of their own, their order does not matter.
* `refresh_showsExactly`: after a refresh the numbers of every entry are those of the rule,
  rounded to single precision, in whatever order the active buckets are gone through.
-/

namespace VoxelCache

section Window

namespace LookUp

variable {extent : Vec3 Nat} {anchor a b : Address} {i : Nat}

/-- Whether an address lies in the window that starts at an anchor. -/
structure InWindow (extent : Vec3 Nat) (anchor a : Address) : Prop where
  x : anchor.x ≤ a.x ∧ a.x - anchor.x < extent.x
  y : anchor.y ≤ a.y ∧ a.y - anchor.y < extent.y
  z : anchor.z ≤ a.z ∧ a.z - anchor.z < extent.z

/-- The place of an address in the window, along the axes in order. -/
def position (extent : Vec3 Nat) (anchor a : Address) : Nat :=
  ((a.z - anchor.z).toNat * extent.y + (a.y - anchor.y).toNat) * extent.x +
    (a.x - anchor.x).toNat

theorem index?_eq_some_iff :
    index? extent anchor a = some i ↔
      InWindow extent anchor a ∧ i = position extent anchor a := by
  have hposition : position extent anchor a =
      extent.x * extent.y * (a.z - anchor.z).toNat + extent.x * (a.y - anchor.y).toNat +
        (a.x - anchor.x).toNat := by
    rw [position, Nat.add_mul, Nat.mul_assoc, Nat.mul_comm _ (extent.y * extent.x),
      Nat.mul_comm extent.y, Nat.mul_comm _ extent.x]
  simp only [index?]
  split
  · rename_i hout
    constructor
    · intro h
      cases h
    · rintro ⟨⟨hx, hy, hz⟩, _⟩
      omega
  · rename_i hin
    rw [hposition, Option.some.injEq]
    constructor
    · rintro rfl
      refine ⟨⟨?_, ?_, ?_⟩, rfl⟩ <;> omega
    · rintro ⟨_, rfl⟩
      rfl

theorem position_lt
    (h : InWindow extent anchor a) :
    position extent anchor a < extent.x * extent.y * extent.z := by
  have hx : (a.x - anchor.x).toNat < extent.x := by
    have := h.x
    omega
  have hy : (a.y - anchor.y).toNat < extent.y := by
    have := h.y
    omega
  have hz : (a.z - anchor.z).toNat < extent.z := by
    have := h.z
    omega
  calc position extent anchor a
      < extent.z * extent.y * extent.x := rowMajor_lt hx (rowMajor_lt hy hz)
    _ = extent.x * extent.y * extent.z := by
        rw [Nat.mul_comm, Nat.mul_comm extent.z, Nat.mul_assoc]

/-- Different addresses of the window have different numbers. -/
theorem index?_injective
    (ha : index? extent anchor a = some i)
    (hb : index? extent anchor b = some i) :
    a.x = b.x ∧ a.y = b.y ∧ a.z = b.z := by
  obtain ⟨hina, rfl⟩ := index?_eq_some_iff.mp ha
  obtain ⟨hinb, hsame⟩ := index?_eq_some_iff.mp hb
  obtain ⟨hax, hay, haz⟩ := hina
  obtain ⟨hbx, hby, hbz⟩ := hinb
  obtain ⟨hrow, hx⟩ := rowMajor_inj (by omega) (by omega) hsame
  obtain ⟨hz, hy⟩ := rowMajor_inj (by omega) (by omega) hrow
  omega

end LookUp

end Window

section Chains

namespace Scene

variable {s : Scene} {held : BucketRef → Bool} {ref c : BucketRef}

/-- Nothing stands in for a bucket that does not exist. -/
theorem coarser?_of_size_le
    (h : s.buckets.size ≤ ref) :
    s.coarser? held ref = none := by
  have hdefault : s.bucket ref = default := by
    simp [bucket, Array.getD, Nat.not_lt.mpr h]
  rw [coarser?, hdefault]
  rfl

/-- Whether every bucket that stands in for another one is coarser. -/
def CoarsensUpward (s : Scene) (held : BucketRef → Bool) : Prop :=
  ∀ ref c, s.coarser? held ref = some c →
    (s.bucket ref).address.zoomStep < (s.bucket c).address.zoomStep

/-- The chain above a bucket becomes coarser step by step. -/
theorem pairwise_coarserChain
    (hup : CoarsensUpward s held)
    (ref : BucketRef) :
    (ref :: s.coarserChain held ref).Pairwise fun c d =>
      (s.bucket c).address.zoomStep < (s.bucket d).address.zoomStep := by
  induction ref using Nat.strongRecOn with
  | _ ref ih =>
      cases hcoarser : s.coarser? held ref with
      | none =>
          rw [coarserChain_of_eq_none hcoarser]
          exact List.pairwise_singleton _ _
      | some d =>
          have hrest := ih d (lt_of_coarser? hcoarser)
          have hfirst := hup ref d hcoarser
          rw [coarserChain_of_eq_some hcoarser]
          refine List.pairwise_cons.mpr ⟨?_, hrest⟩
          intro c hc
          rcases List.mem_cons.mp hc with rfl | hc
          · exact hfirst
          · exact Nat.lt_trans hfirst ((List.pairwise_cons.mp hrest).1 c hc)

end Scene

end Chains

section Rule

/-- A search that stops at the first bucket that is too coarse finds what lies below the limit. -/
theorem findSome?_takeWhile
    {α β : Type} {coarseness : α → Nat} {chain : List α} {f : α → Option β}
    (limit : Nat)
    (h : chain.Pairwise fun c d => coarseness c < coarseness d) :
    (chain.takeWhile fun c => coarseness c ≤ limit).findSome? f =
      ((chain.findSome? fun c => (f c).map fun b => (c, b)).filter fun found =>
        coarseness found.1 ≤ limit).map (·.2) := by
  induction chain with
  | nil => rfl
  | cons c rest ih =>
      obtain ⟨hfirst, hrest⟩ := List.pairwise_cons.mp h
      by_cases hfine : coarseness c ≤ limit
      · rw [List.takeWhile_cons_of_pos (by simpa using hfine), List.findSome?_cons,
          List.findSome?_cons]
        cases hf : f c with
        | none => exact ih hrest
        | some b => simp [Option.filter_some, hfine]
      · rw [List.takeWhile_cons_of_neg (by simpa using hfine)]
        have hcoarse : ∀ found,
            ((c :: rest).findSome? fun c => (f c).map fun b => (c, b)) = some found →
            ¬ coarseness found.1 ≤ limit := by
          intro found hfound
          obtain ⟨d, hd, hmap⟩ := List.exists_of_findSome?_eq_some hfound
          obtain ⟨b, _, rfl⟩ := Option.map_eq_some_iff.mp hmap
          rcases List.mem_cons.mp hd with rfl | hd
          · exact hfine
          · intro hle
            exact hfine (Nat.le_trans (Nat.le_of_lt (hfirst d hd)) hle)
        cases hfound : (c :: rest).findSome? fun c => (f c).map fun b => (c, b) with
        | none => rfl
        | some found =>
            rw [Option.filter_some, if_neg (by simpa using hcoarse found hfound)]
            rfl

namespace Residency

variable {m : Residency} {s : Scene} {held : BucketRef → Bool} {a : ActiveBucket}

/-- The nearest active and committed bucket above a bucket, with its entry. -/
def nearestCommitted?
    (m : Residency) (s : Scene) (held : BucketRef → Bool) (ref : BucketRef) :
    Option (BucketRef × ActiveBucket) :=
  (s.coarserChain held ref).findSome? fun c =>
    (m.committedOwner? (s.bucket c).id).map fun b => (c, b)

/-- What the look-up entries are to say about an active bucket. -/
def ruledEntry
    (m : Residency) (s : Scene) (held : BucketRef → Bool) (a : ActiveBucket) :
    LookUp.Entry :=
  let zoomStep := (s.bucket a.bucket).address.zoomStep
  let limit := m.anchor.zoomStep + m.settings.maxZoomStepDiff
  if m.settings.debugging.enforcedZoomDiff = none ∧ m.isCommitted a.id = true then
    .resident a.slot zoomStep
  else
    match m.nearestCommitted? s held a.bucket with
    | some (c, b) =>
        if (s.bucket c).address.zoomStep ≤ limit then
          .resident b.slot (s.bucket c).address.zoomStep
        else
          .pending zoomStep
    | none => .pending zoomStep

theorem standIn?_eq
    (hup : s.CoarsensUpward held)
    (hlimit : m.anchor.zoomStep + m.settings.maxZoomStepDiff < wordModulus)
    (ref : BucketRef) :
    m.standIn? s held ref =
      ((m.nearestCommitted? s held ref).filter fun found =>
        (s.bucket found.1).address.zoomStep ≤
          m.anchor.zoomStep + m.settings.maxZoomStepDiff).map fun found =>
            .resident found.2.slot (s.bucket found.1).address.zoomStep := by
  have hchain := (List.pairwise_cons.mp (Scene.pairwise_coarserChain hup ref)).2
  unfold standIn? nearestCommitted?
  dsimp only
  rw [Nat.mod_eq_of_lt hlimit, List.takeWhile_map, List.findSome?_map]
  have hsearch := findSome?_takeWhile
    (f := fun c => (m.committedOwner? (s.bucket c).id).map fun b =>
      LookUp.Entry.resident b.slot (s.bucket c).address.zoomStep)
    (m.anchor.zoomStep + m.settings.maxZoomStepDiff) hchain
  have hfound : ((s.coarserChain held ref).findSome? fun c =>
      ((m.committedOwner? (s.bucket c).id).map fun b =>
        LookUp.Entry.resident b.slot (s.bucket c).address.zoomStep).map fun e => (c, e)) =
      ((s.coarserChain held ref).findSome? fun c =>
        (m.committedOwner? (s.bucket c).id).map fun b => (c, b)).map fun found =>
          (found.1, .resident found.2.slot (s.bucket found.1).address.zoomStep) := by
    rw [List.map_findSome?]
    congr
    funext c
    simp only [Option.map_map, Function.comp_def]
  refine hsearch.trans ?_
  rw [hfound]
  cases (s.coarserChain held ref).findSome? fun c =>
      (m.committedOwner? (s.bucket c).id).map fun b => (c, b) with
  | none => rfl
  | some found =>
      simp only [Option.map_some, Option.filter_some]
      split <;> rfl

/-- The search for a stand-in follows the rule. -/
theorem entryFor_eq_ruledEntry
    (hup : s.CoarsensUpward held)
    (hlimit : m.anchor.zoomStep + m.settings.maxZoomStepDiff < wordModulus)
    (a : ActiveBucket) :
    m.entryFor s held a = m.ruledEntry s held a := by
  unfold entryFor ruledEntry
  have hown : (m.settings.debugging.enforcedZoomDiff.isNone && m.isCommitted a.id) = true ↔
      m.settings.debugging.enforcedZoomDiff = none ∧ m.isCommitted a.id = true := by
    simp
  dsimp only
  simp only [hown]
  split
  · rfl
  · rw [standIn?_eq hup hlimit]
    cases m.nearestCommitted? s held a.bucket with
    | none => rfl
    | some found =>
        obtain ⟨c, b⟩ := found
        simp only [Option.filter_some]
        split <;> rename_i hlimit
        · simp [of_decide_eq_true hlimit]
        · have hcoarse := of_decide_eq_false (Bool.eq_false_iff.mpr hlimit)
          simp [hcoarse]

end Residency

end Rule

section Rebuild

namespace Residency

variable {m : Residency} {s : Scene} {held : BucketRef → Bool} {a : ActiveBucket}
  {list : List ActiveBucket} {state : LookUp.Buffer × Nat} {i : Nat}

theorem mem_shown :
    a ∈ m.shown s ↔
      a ∈ m.active ∧ (s.bucket a.bucket).address.zoomStep ≤ m.anchor.zoomStep := by
  simp [shown]

theorem size_enter
    (m : Residency) (s : Scene) (held : BucketRef → Bool)
    (state : LookUp.Buffer × Nat) (a : ActiveBucket) :
    (m.enter s held state a).1.size = state.1.size := by
  simp only [enter]
  split
  · exact Array.size_setIfInBounds
  · rfl

theorem size_foldl_enter :
    (list.foldl (m.enter s held) state).1.size = state.1.size := by
  induction list generalizing state with
  | nil => rfl
  | cons a rest ih => rw [List.foldl_cons, ih, size_enter]

/-- An entry at which no bucket lies is left alone. -/
theorem getElem?_foldl_enter_of_forall_ne
    (h : ∀ a ∈ list, m.lookUpIndex? (s.bucket a.bucket).address ≠ some i) :
    (list.foldl (m.enter s held) state).1[i]? = state.1[i]? := by
  induction list generalizing state with
  | nil => rfl
  | cons a rest ih =>
      rw [List.foldl_cons, ih fun b hb => h b (List.mem_cons_of_mem _ hb)]
      have hne := h a List.mem_cons_self
      simp only [enter]
      split
      · rename_i j hj
        have hother : j ≠ i := fun hsame => hne (hsame ▸ hj)
        exact Array.getElem?_setIfInBounds_ne hother
      · rfl

/-- A bucket that has an entry for itself is entered, whenever its turn comes. -/
theorem getElem?_foldl_enter_of_mem
    (ha : a ∈ list)
    (hindex : m.lookUpIndex? (s.bucket a.bucket).address = some i)
    (halone : ∀ b ∈ list, m.lookUpIndex? (s.bucket b.bucket).address = some i → b = a)
    (hlt : i < state.1.size) :
    (list.foldl (m.enter s held) state).1[i]? = some (m.entryFor s held a) := by
  induction list generalizing state with
  | nil => cases ha
  | cons b rest ih =>
      rw [List.foldl_cons]
      by_cases hlater : a ∈ rest
      · refine ih hlater (fun c hc => halone c (List.mem_cons_of_mem _ hc)) ?_
        rw [size_enter]
        exact hlt
      · have hfirst : a = b := (List.mem_cons.mp ha).resolve_right hlater
        subst hfirst
        rw [getElem?_foldl_enter_of_forall_ne]
        · unfold enter
          simp [hindex, hlt]
        · intro c hc hsame
          exact hlater (halone c (List.mem_cons_of_mem _ hc) hsame ▸ hc)

/-- Every entry is blank or was made for an active bucket. -/
theorem getElem?_foldl_enter_cases
    {e : LookUp.Entry}
    (h : (list.foldl (m.enter s held) state).1[i]? = some e) :
    state.1[i]? = some e ∨ ∃ a ∈ list, m.entryFor s held a = e := by
  induction list generalizing state with
  | nil => exact .inl h
  | cons a rest ih =>
      rcases ih h with hbefore | ⟨b, hb, hentry⟩
      · unfold enter at hbefore
        dsimp only at hbefore
        split at hbefore
        · rename_i j _
          rw [Array.getElem?_setIfInBounds] at hbefore
          split at hbefore
          · split at hbefore
            · exact .inr ⟨a, List.mem_cons_self, Option.some.inj hbefore⟩
            · cases hbefore
          · exact .inl hbefore
        · exact .inl hbefore
      · exact .inr ⟨b, List.mem_cons_of_mem _ hb, hentry⟩

/-- What a rebuild reads of the buckets. -/
structure LooksAlike (s s' : Scene) (held held' : BucketRef → Bool) (ref : BucketRef) : Prop where
  chain : s'.coarserChain held' ref = s.coarserChain held ref
  id : ∀ c ∈ s.coarserChain held ref, (s'.bucket c).id = (s.bucket c).id
  address : ∀ c ∈ ref :: s.coarserChain held ref, (s'.bucket c).address = (s.bucket c).address

/-- What stands in for a bucket depends on the committed buckets above it. -/
theorem standIn?_congr
    {m' : Residency} {s' : Scene} {held' : BucketRef → Bool} {ref : BucketRef}
    (hsettings : m'.settings = m.settings)
    (hanchor : m'.anchor = m.anchor)
    (howner : ∀ id, m'.committedOwner? id = m.committedOwner? id)
    (h : LooksAlike s s' held held' ref) :
    m'.standIn? s' held' ref = m.standIn? s held ref := by
  obtain ⟨hchain, hids, haddresses⟩ := h
  simp only [standIn?, hsettings, hanchor, hchain, howner]
  generalize s.coarserChain held ref = chain at hids haddresses
  induction chain with
  | nil => rfl
  | cons c rest ih =>
      have hid := hids c List.mem_cons_self
      have haddress := haddresses c (List.mem_cons_of_mem _ List.mem_cons_self)
      have hrest := ih (fun d hd => hids d (List.mem_cons_of_mem _ hd)) (by
        intro d hd
        rcases List.mem_cons.mp hd with rfl | hd
        · exact haddresses d List.mem_cons_self
        · exact haddresses d (List.mem_cons_of_mem _ (List.mem_cons_of_mem _ hd)))
      simp only [List.map_cons, List.takeWhile_cons, haddress]
      split
      · simp only [List.findSome?_cons, hid, haddress, hrest]
      · rfl

theorem entryFor_congr
    {m' : Residency} {s' : Scene} {held' : BucketRef → Bool}
    (hsettings : m'.settings = m.settings)
    (hanchor : m'.anchor = m.anchor)
    (hcommitted : m'.committed = m.committed)
    (howner : ∀ id, m'.committedOwner? id = m.committedOwner? id)
    (h : LooksAlike s s' held held' a.bucket) :
    m'.entryFor s' held' a = m.entryFor s held a := by
  have haddress := h.address a.bucket List.mem_cons_self
  unfold entryFor isCommitted
  rw [hsettings, hcommitted, haddress, standIn?_congr hsettings hanchor howner h]

/-- A rebuild reads nothing but the active and committed buckets, the anchor and the settings. -/
theorem entries_congr
    {m' : Residency} {s' : Scene} {held' : BucketRef → Bool}
    (hsettings : m'.settings = m.settings)
    (hanchor : m'.anchor = m.anchor)
    (hactive : m'.active = m.active)
    (hcommitted : m'.committed = m.committed)
    (h : ∀ a ∈ m.active, LooksAlike s s' held held' a.bucket) :
    m'.entries s' held' = m.entries s held := by
  have howner : ∀ id, m'.committedOwner? id = m.committedOwner? id := by
    intro id
    rw [committedOwner?, committedOwner?, isCommitted, isCommitted, find?, find?, hcommitted,
      hactive]
  have hshown : m'.shown s' = m.shown s := by
    rw [shown, shown, hactive, hanchor]
    refine List.filter_congr ?_
    intro a ha
    rw [(h a ha).address a.bucket List.mem_cons_self]
  have hfold : ∀ (list : List ActiveBucket) (state : LookUp.Buffer × Nat),
      (∀ a ∈ list, a ∈ m.active) →
      list.foldl (m'.enter s' held') state = list.foldl (m.enter s held) state := by
    intro list
    induction list with
    | nil => exact fun _ _ => rfl
    | cons a rest ih =>
        intro state hlist
        have ha := h a (hlist a List.mem_cons_self)
        have hentry := entryFor_congr hsettings hanchor hcommitted howner ha
        have hfirst : m'.enter s' held' state a = m.enter s held state a := by
          simp only [enter, lookUpIndex?, hsettings, hanchor, hentry,
            ha.address a.bucket List.mem_cons_self]
        rw [List.foldl_cons, List.foldl_cons, hfirst]
        exact ih _ fun b hb => hlist b (List.mem_cons_of_mem _ hb)
  rw [entries, entries, hshown, hsettings]
  exact hfold _ _ fun a ha => (mem_shown.mp ha).1

/-- A rebuild reads nothing of the scene but the buckets. -/
theorem entries_of_buckets
    {s' : Scene}
    (h : s'.buckets = s.buckets)
    (held : BucketRef → Bool) :
    m.entries s' held = m.entries s held := by
  have hbucket : ∀ ref, s'.bucket ref = s.bucket ref := by
    intro ref
    unfold Scene.bucket
    rw [h]
  have hchain : ∀ ref, s'.coarserChain held ref = s.coarserChain held ref := by
    intro ref
    refine Scene.coarserChain_congr ?_
    intro c _
    rw [Scene.coarser?, Scene.coarser?, hbucket]
  exact entries_congr rfl rfl rfl rfl fun a _ =>
    ⟨hchain a.bucket, fun c _ => by rw [hbucket], fun c _ => by rw [hbucket]⟩

/-- Whether the numbers of all entries are what the entries are to say about the active buckets. -/
structure ShowsExactly
    (m : Residency) (s : Scene) (held : BucketRef → Bool) (lookUp : LookUp.Buffer) :
    Prop where
  size : lookUp.values.size = m.settings.lookUpEntries
  inBounds : ∀ a ∈ m.active, ∀ i,
    m.lookUpIndex? (s.bucket a.bucket).address = some i → i < lookUp.values.size
  shown : ∀ a ∈ m.active,
    (s.bucket a.bucket).address.zoomStep ≤ m.anchor.zoomStep →
    LookUp.InWindow m.settings.addressSpace m.anchor (s.bucket a.bucket).address →
    lookUp.values[LookUp.position m.settings.addressSpace m.anchor (s.bucket a.bucket).address]? =
      some (m.ruledEntry s held a).values
  blank : ∀ i, i < lookUp.values.size →
    (∀ a ∈ m.active,
      (s.bucket a.bucket).address.zoomStep ≤ m.anchor.zoomStep →
      LookUp.InWindow m.settings.addressSpace m.anchor (s.bucket a.bucket).address →
      LookUp.position m.settings.addressSpace m.anchor (s.bucket a.bucket).address ≠ i) →
    lookUp.values[i]? = some (-2, -2)
  rest : ∀ i, m.settings.addressSpaceSize ≤ i → i < lookUp.values.size →
    lookUp.values[i]? = some (-2, -2)

/-- Whether no two buckets that have look-up entries of their own lie in the same cell. -/
def HasOwnCells (m : Residency) (s : Scene) : Prop :=
  ∀ a ∈ m.shown s, ∀ b ∈ m.shown s,
    (s.bucket a.bucket).address.x = (s.bucket b.bucket).address.x →
    (s.bucket a.bucket).address.y = (s.bucket b.bucket).address.y →
    (s.bucket a.bucket).address.z = (s.bucket b.bucket).address.z → a = b

theorem addressSpaceEntries_le
    {settings : Settings}
    (h : settings.fault? = none) :
    settings.addressSpaceEntries ≤ settings.lookUpEntries := by
  by_contra hlarge
  unfold Settings.fault? at h
  rw [Nat.not_le] at hlarge
  simp only [hlarge, if_true] at h
  split at h
  · cases h
  · split at h <;> cases h

/-- Settings that are accepted have an entry for every address, if a word counts them all. -/
theorem addressSpaceSize_le
    {settings : Settings}
    (h : settings.fault? = none)
    (hword : settings.addressSpaceSize < longModulus) :
    settings.addressSpaceSize ≤ settings.lookUpEntries := by
  have hentries := addressSpaceEntries_le h
  rw [Settings.addressSpaceEntries, Nat.mod_eq_of_lt hword] at hentries
  exact hentries

/-- Numbers of the window are numbers of entries, if a word counts the address space. -/
theorem lookUpIndex?_lt
    {address : Address}
    (h : m.settings.fault? = none)
    (hword : m.settings.addressSpaceSize < longModulus)
    (hindex : m.lookUpIndex? address = some i) :
    i < m.settings.lookUpEntries := by
  obtain ⟨hin, rfl⟩ := LookUp.index?_eq_some_iff.mp hindex
  exact Nat.lt_of_lt_of_le (LookUp.position_lt hin) (addressSpaceSize_le h hword)

theorem getElem?_values
    {lookUp : LookUp.Buffer} {entry : LookUp.Entry}
    (h : lookUp[i]? = some entry) :
    lookUp.values[i]? = some entry.values := by
  rw [LookUp.Buffer.values, Array.getElem?_map, h]
  rfl

theorem showsExactly_entries
    (hsettings : m.settings.fault? = none)
    (hword : m.settings.addressSpaceSize < longModulus)
    (hlimit : m.anchor.zoomStep + m.settings.maxZoomStepDiff < wordModulus)
    (hup : s.CoarsensUpward held)
    (hcells : m.HasOwnCells s) :
    m.ShowsExactly s held (m.entries s held).1 := by
  have hsize : (m.entries s held).1.values.size = m.settings.lookUpEntries := by
    rw [LookUp.Buffer.values, Array.size_map, entries, size_foldl_enter]
    exact Array.size_replicate
  have hblank : ∀ i, i < m.settings.lookUpEntries →
      (∀ a ∈ m.shown s, m.lookUpIndex? (s.bucket a.bucket).address ≠ some i) →
      (m.entries s held).1.values[i]? = some (-2, -2) := by
    intro i hi hnone
    have hvalues : LookUp.Entry.outside.values = (-2, -2) := rfl
    rw [← hvalues]
    refine getElem?_values ?_
    rw [entries, getElem?_foldl_enter_of_forall_ne hnone]
    simp [LookUp.Buffer.blank, hi]
  refine ⟨hsize, ?_, ?_, ?_, ?_⟩
  · intro a _ i hindex
    rw [hsize]
    exact lookUpIndex?_lt hsettings hword hindex
  · intro a ha hzoom hin
    have hindex : m.lookUpIndex? (s.bucket a.bucket).address = some _ :=
      LookUp.index?_eq_some_iff.mpr ⟨hin, rfl⟩
    have hshown : a ∈ m.shown s := mem_shown.mpr ⟨ha, hzoom⟩
    rw [← entryFor_eq_ruledEntry hup hlimit a]
    refine getElem?_values (getElem?_foldl_enter_of_mem hshown hindex ?_ ?_)
    · intro b hb hsame
      obtain ⟨hx, hy, hz⟩ := LookUp.index?_injective hsame hindex
      exact hcells b hb a hshown hx hy hz
    · exact Array.size_replicate.symm ▸ lookUpIndex?_lt hsettings hword hindex
  · intro i hi hnone
    refine hblank i (hsize ▸ hi) ?_
    intro a ha hindex
    obtain ⟨hactive, hzoom⟩ := mem_shown.mp ha
    obtain ⟨hin, hposition⟩ := LookUp.index?_eq_some_iff.mp hindex
    exact hnone a hactive hzoom hin hposition.symm
  · intro i hfar hi
    refine hblank i (hsize ▸ hi) ?_
    intro a _ hindex
    obtain ⟨hin, rfl⟩ := LookUp.index?_eq_some_iff.mp hindex
    exact Nat.not_lt.mpr hfar (LookUp.position_lt hin)

end Residency

end Rebuild

section Order

namespace Residency

variable {m : Residency} {s : Scene} {order : List ActiveBucket}

/-- Entries are found wherever they stand. -/
theorem find?_of_perm
    (hids : (m.active.map (·.id)).Nodup)
    (horder : order.Perm m.active)
    (id : BucketId) :
    { m with active := order }.find? id = m.find? id := by
  have hids' : (order.map (·.id)).Nodup := (horder.map _).nodup_iff.mpr hids
  refine Option.ext fun a => ?_
  rw [find?_eq_some_iff hids]
  exact (find?_eq_some_iff (m := { m with active := order }) hids').trans
    (and_congr_left fun _ => horder.mem_iff)

theorem committedOwner?_of_perm
    (hids : (m.active.map (·.id)).Nodup)
    (horder : order.Perm m.active)
    (id : BucketId) :
    { m with active := order }.committedOwner? id = m.committedOwner? id := by
  rw [committedOwner?, find?_of_perm hids horder]
  rfl

theorem ruledEntry_of_perm
    (hids : (m.active.map (·.id)).Nodup)
    (horder : order.Perm m.active)
    (held : BucketRef → Bool) (a : ActiveBucket) :
    { m with active := order }.ruledEntry s held a = m.ruledEntry s held a := by
  have hnearest : { m with active := order }.nearestCommitted? s held a.bucket =
      m.nearestCommitted? s held a.bucket := by
    simp only [nearestCommitted?, committedOwner?_of_perm hids horder]
  unfold ruledEntry
  rw [hnearest]
  rfl

/-- Two buckets with cells of their own are entered in either order. -/
theorem enter_comm
    {a b : ActiveBucket}
    (hcells : m.HasOwnCells s)
    (ha : a ∈ m.shown s)
    (hb : b ∈ m.shown s)
    (held : BucketRef → Bool) (state : LookUp.Buffer × Nat) :
    m.enter s held (m.enter s held state a) b = m.enter s held (m.enter s held state b) a := by
  simp only [enter]
  cases hindex : m.lookUpIndex? (s.bucket a.bucket).address with
  | none => cases m.lookUpIndex? (s.bucket b.bucket).address <;> rfl
  | some i =>
      cases hindex' : m.lookUpIndex? (s.bucket b.bucket).address with
      | none => rfl
      | some j =>
          by_cases hsame : i = j
          · obtain ⟨hx, hy, hz⟩ := LookUp.index?_injective hindex (hsame ▸ hindex')
            rw [hcells a ha b hb hx hy hz, hsame]
          · simp only [Array.setIfInBounds_comm _ _ hsame]

/-- Where all shown buckets have cells of their own, their order does not matter. -/
theorem entries_of_perm
    (hids : (m.active.map (·.id)).Nodup)
    (hcells : m.HasOwnCells s)
    (horder : order.Perm m.active)
    (held : BucketRef → Bool) :
    { m with active := order }.entries s held = m.entries s held := by
  have hentry : ∀ a, { m with active := order }.entryFor s held a = m.entryFor s held a :=
    fun a => entryFor_congr rfl rfl rfl (committedOwner?_of_perm hids horder)
      ⟨rfl, fun _ _ => rfl, fun _ _ => rfl⟩
  have henter : { m with active := order }.enter s held = m.enter s held := by
    funext state a
    simp only [enter, hentry]
    rfl
  have hshown : ({ m with active := order }.shown s).Perm (m.shown s) := horder.filter _
  rw [entries, entries, henter]
  refine hshown.foldl_eq' ?_ _
  intro a ha b hb state
  exact enter_comm hcells (hshown.mem_iff.mp ha) (hshown.mem_iff.mp hb) held state

end Residency

/--
After a refresh the numbers of every look-up entry, slot and zoom step, are those of the rule,
each rounded to single precision, in whatever order the active buckets are gone through.
-/
theorem refresh_showsExactly
    {m : Residency} {s : Scene} {outside : BucketRef → Bool} {order : List ActiveBucket}
    (hsettings : m.settings.fault? = none)
    (hword : m.settings.addressSpaceSize < longModulus)
    (hlimit : m.anchor.zoomStep + m.settings.maxZoomStepDiff < wordModulus)
    (hids : (m.active.map (·.id)).Nodup)
    (hup : s.CoarsensUpward fun ref => outside ref || m.holds ref)
    (hcells : m.HasOwnCells s)
    (horder : order.Perm m.active) :
    m.ShowsExactly s (fun ref => outside ref || m.holds ref)
      ({ m with active := order }.refresh s outside).2.1.lookUp := by
  have hheld : (fun ref => outside ref || { m with active := order }.holds ref) =
      fun ref => outside ref || m.holds ref := by
    funext ref
    rw [Residency.holds, horder.any_eq]
    rfl
  have hcells' : { m with active := order }.HasOwnCells s := by
    intro a ha b hb
    obtain ⟨hmem, hzoom⟩ := Residency.mem_shown.mp ha
    obtain ⟨hmem', hzoom'⟩ := Residency.mem_shown.mp hb
    exact hcells a (Residency.mem_shown.mpr ⟨horder.mem_iff.mp hmem, hzoom⟩)
      b (Residency.mem_shown.mpr ⟨horder.mem_iff.mp hmem', hzoom'⟩)
  rw [Residency.lookUp_refresh, hheld]
  have hexact := Residency.showsExactly_entries (m := { m with active := order })
    hsettings hword hlimit hup hcells'
  refine ⟨hexact.size, ?_, ?_, ?_, hexact.rest⟩
  · intro a ha
    exact hexact.inBounds a (horder.mem_iff.mpr ha)
  · intro a ha hzoom hin
    rw [← Residency.ruledEntry_of_perm hids horder]
    exact hexact.shown a (horder.mem_iff.mpr ha) hzoom hin
  · intro i hi hnone
    refine hexact.blank i hi ?_
    intro a ha
    exact hnone a (horder.mem_iff.mp ha)

/-- A fine bucket that is not committed yet is shown by the committed one above it. -/
theorem refresh_showsExactly_of_standIn :
    let coarse := Bucket.create 1 ⟨0, 0, 0, 1⟩ none
    let fine := Bucket.create 2 ⟨0, 0, 0, 0⟩ (some 0)
    let s : Scene := { Scene.empty with buckets := #[coarse, fine] }
    let m : Residency :=
      { World.smallest.residency with
        active := [⟨1, 0, 0, 0⟩, ⟨2, 1, 1, 0⟩], committed := [1], free := [] }
    let order := m.active.reverse
    ({ m with active := order }.refresh s fun _ => true).2.1.lookUp.values[0]? = some (0, 1) := by
  intro coarse fine s m order
  have hup : s.CoarsensUpward fun ref => true || m.holds ref := by
    intro ref c hcoarser
    match ref with
    | 0 => cases hcoarser
    | 1 =>
        obtain rfl : c = 0 := Nat.lt_one_iff.mp (Scene.lt_of_coarser? hcoarser)
        decide
    | ref + 2 =>
        rw [Scene.coarser?_of_size_le (Nat.le_add_left 2 ref)] at hcoarser
        cases hcoarser
  have hcells : m.HasOwnCells s := by
    have hshown : m.shown s = [⟨2, 1, 1, 0⟩] := by decide
    intro a ha b hb _ _ _
    rw [hshown, List.mem_singleton] at ha hb
    rw [ha, hb]
  have hexact : m.ShowsExactly s (fun ref => true || m.holds ref)
      ({ m with active := order }.refresh s fun _ => true).2.1.lookUp :=
    refresh_showsExactly (by decide) (by decide) (by decide) (by decide) hup hcells
      (List.reverse_perm _)
  have hruled : m.ruledEntry s (fun ref => true || m.holds ref) ⟨2, 1, 1, 0⟩ = .resident 0 1 := by
    have hchain : s.coarserChain (fun ref => true || m.holds ref) 1 = [0] := by
      rw [Scene.coarserChain_of_eq_some (c := 0) rfl, Scene.coarserChain_of_eq_none rfl]
    rw [Residency.ruledEntry, Residency.nearestCommitted?, hchain]
    decide
  have hvalues : (LookUp.Entry.resident 0 1).values = (0, 1) := by decide
  rw [← hvalues, ← hruled]
  exact hexact.shown ⟨2, 1, 1, 0⟩ (by decide) (by decide) ⟨by decide, by decide, by decide⟩

/-- Single precision does not hold a zoom step of 25 significant bits, which its cell should show. -/
theorem refresh_shows_rounded_zoomStep :
    let s : Scene := { Scene.empty with buckets := #[Bucket.create 7 ⟨0, 0, 0, 16777217⟩ none] }
    let m : Residency :=
      { World.smallest.residency with
        active := [⟨7, 0, 0, 0⟩], free := [1], anchor := ⟨0, 0, 0, 16777217⟩ }
    m.settings.fault? = none ∧ m.settings.addressSpaceSize < longModulus ∧
      m.anchor.zoomStep + m.settings.maxZoomStepDiff < wordModulus ∧
      s.CoarsensUpward (fun ref => true || m.holds ref) ∧ m.HasOwnCells s ∧
      LookUp.InWindow m.settings.addressSpace m.anchor (s.bucket 0).address ∧
      LookUp.position m.settings.addressSpace m.anchor (s.bucket 0).address = 0 ∧
      m.committed = [] ∧ (s.bucket 0).address.zoomStep = 16777217 ∧
      (m.refresh s fun _ => true).2.1.lookUp.values[0]? = some (-1, 16777216) := by
  intro s m
  have hnone : ∀ ref, s.coarser? (fun ref => true || m.holds ref) ref = none := by
    intro ref
    match ref with
    | 0 => rfl
    | ref + 1 => exact Scene.coarser?_of_size_le (Nat.le_add_left 1 ref)
  have hup : s.CoarsensUpward fun ref => true || m.holds ref := by
    intro ref c hcoarser
    rw [hnone ref] at hcoarser
    cases hcoarser
  have hcells : m.HasOwnCells s := by
    have hshown : m.shown s = [⟨7, 0, 0, 0⟩] := by decide
    intro a ha b hb _ _ _
    rw [hshown, List.mem_singleton] at ha hb
    rw [ha, hb]
  have hexact := Residency.showsExactly_entries (m := m) (by decide) (by decide) (by decide)
    hup hcells
  have hruled : m.ruledEntry s (fun ref => true || m.holds ref) ⟨7, 0, 0, 0⟩ =
      .pending 16777217 := by
    rw [Residency.ruledEntry, Residency.nearestCommitted?,
      Scene.coarserChain_of_eq_none (hnone 0)]
    rfl
  have hvalues : (LookUp.Entry.pending 16777217).values = (-1, 16777216) := by decide
  refine ⟨by decide, by decide, by decide, hup, hcells, ⟨by decide, by decide, by decide⟩,
    by decide, rfl, rfl, ?_⟩
  rw [Residency.lookUp_refresh, ← hvalues, ← hruled]
  exact hexact.shown ⟨7, 0, 0, 0⟩ (by decide) (by decide) ⟨by decide, by decide, by decide⟩

end Order

end VoxelCache
