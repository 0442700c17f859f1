import VoxelCache.Proofs.LookUpEntries
import VoxelCache.Proofs.Operations
import VoxelCache.Proofs.Rounding

/-!
# Provenance of the look-up entries

Between two rebuilds of the look-up entries, notices, releases and writes go on, and
only the entries stay as they are.  They stay right nevertheless: a slot is given to
another bucket only where a rebuild follows before anything is written.

**Invariants.**
* `Sourced`: the slot of a committed bucket was last written for this bucket.
* `Shown`: active buckets were active at the last rebuild, and an entry points at a
  slot that was last written for its owner of that time.

**Results.**
* `lookUp_provenance`: no look-up entry ever points at data of a foreign bucket.
-/

namespace VoxelCache

section LastWriter

theorem Chronicle.lastWriter?_addWrites
    (c : Chronicle) (a : ActiveBucket) (slot : Nat) :
    (c.addWrites [a]).lastWriter? slot = if a.slot = slot then some a else c.lastWriter? slot := by
  by_cases hslot : a.slot = slot
  · simp [lastWriter?, addWrites, hslot]
  · simp [lastWriter?, addWrites, hslot]

end LastWriter

section Inversion

variable {opening : Bool} {w w' : World}

/-- Whether books were only struck out, and nothing was written or rebuilt. -/
structure Shrinks (w w' : World) : Prop where
  layout : w'.residency.layout = w.residency.layout
  active : ∀ a ∈ w'.residency.active, a ∈ w.residency.active
  committed : ∀ id ∈ w'.residency.committed, id ∈ w.residency.committed
  /-- What stays active stays committed. -/
  kept : ∀ a ∈ w'.residency.active, a.id ∈ w.residency.committed → a.id ∈ w'.residency.committed
  lookUp : w'.residency.lookUp = w.residency.lookUp
  chronicle : w'.chronicle = w.chronicle
  scene : Scene.Extends w.scene w'.scene

theorem shrinks_of_books
    (hlayout : w'.residency.layout = w.residency.layout)
    (hactive : w'.residency.active = w.residency.active)
    (hcommitted : w'.residency.committed = w.residency.committed)
    (hlookUp : w'.residency.lookUp = w.residency.lookUp)
    (hchronicle : w'.chronicle = w.chronicle)
    (hscene : Scene.Extends w.scene w'.scene) :
    Shrinks w w' where
  layout := hlayout
  active _ ha := hactive ▸ ha
  committed _ hid := hcommitted ▸ hid
  kept _ _ hid := hcommitted.symm ▸ hid
  lookUp := hlookUp
  chronicle := hchronicle
  scene := hscene

theorem shrinks_forgo (w : World) (a : ActiveBucket) : Shrinks w (w.forgo a) where
  layout := rfl
  active _ hb := (List.mem_filter.mp hb).1
  committed _ hid := (List.mem_filter.mp hid).1
  kept _ hb hid := List.mem_filter.mpr ⟨hid, (List.mem_filter.mp hb).2⟩
  lookUp := rfl
  chronicle := rfl
  scene := (Residency.alike_dismiss w.residency w.scene a).extends

/-- Only giving a slot and writing a payload add to the books. -/
theorem Move.inversion
    (h : Move opening w w') :
    Shrinks w w' ∨
    (opening = true ∧ ∃ ref slot free, w.residency.free = slot :: free ∧
      ref < w.scene.buckets.size ∧ w.residency.isActive (w.scene.bucket ref).id = false ∧
      w' = w.reserve ref slot free) ∨
    ∃ a rest s, a ∈ w.residency.active ∧
      ((w.scene.bucket a.bucket).payload ≠ none ∧ w.residency.lookUpTexture ≠ none) ∧
      Scene.Extends w.scene s ∧ w' = w.commit a rest s := by
  have hextends := h.alike.extends
  cases h with
  | journal => exact .inl (shrinks_of_books rfl rfl rfl rfl rfl hextends)
  | @hear _ _ notice rest _ =>
      rcases w.hear_cases notice rest with ⟨_, hhear⟩ | ⟨_, ⟨_, hhear⟩ | ⟨a, _, _, hhear⟩⟩
      · rw [hhear] at hextends ⊢
        exact .inl (shrinks_of_books rfl rfl rfl rfl rfl hextends)
      · rw [hhear] at hextends ⊢
        exact .inl (shrinks_of_books rfl rfl rfl rfl rfl hextends)
      · rw [hhear] at hextends ⊢
        have hshrinks := shrinks_forgo (w.pop rest) a
        exact .inl ⟨rfl, hshrinks.active, hshrinks.committed, hshrinks.kept, rfl, rfl, hextends⟩
  | forgo _ => exact .inl (shrinks_forgo w _)
  | aim => exact .inl (shrinks_of_books rfl rfl rfl rfl rfl hextends)
  | reserve hfree hexist _ hinactive =>
      exact .inr (.inl ⟨rfl, _, _, _, hfree, hexist, hinactive, rfl⟩)
  | thin => exact .inl (shrinks_of_books rfl rfl rfl rfl rfl hextends)
  | skip _ _ => exact .inl (shrinks_of_books rfl rfl rfl rfl rfl hextends)
  | fail _ _ _ _ _ _ => exact .inl (shrinks_of_books rfl rfl rfl rfl rfl hextends)
  | write _ htexture ha _ hpayload hwrite =>
      refine .inr (.inr ⟨_, _, _, (Residency.find?_eq_some ha).1, ⟨?_, ?_⟩,
        (Residency.alike_writeSlot hwrite).extends, rfl⟩)
      · rw [hpayload]
        exact Option.some_ne_none _
      · exact Option.isSome_iff_ne_none.mp htexture
  | upload =>
      obtain ⟨isPending, device, h⟩ := w.exists_upload_eq
      rw [h]
      rw [h] at hextends
      exact .inl (shrinks_of_books rfl rfl rfl rfl rfl hextends)

end Inversion

section Sources

open Residency

variable {opening : Bool} {w w' : World}

/-- Whether the slot of every committed bucket was last written for this bucket. -/
structure Sourced (w : World) : Prop where
  known : ∀ a ∈ w.residency.active, Knows w.scene a
  written : ∀ a ∈ w.residency.active, a.id ∈ w.residency.committed →
    w.chronicle.lastWriter? a.slot = some a

theorem Sourced.of_shrinks
    (h : Sourced w)
    (hshrinks : Shrinks w w') :
    Sourced w' where
  known a ha := (h.known a (hshrinks.active a ha)).of_extends hshrinks.scene
  written a ha hid := by
    rw [hshrinks.chronicle]
    exact h.written a (hshrinks.active a ha) (hshrinks.committed _ hid)

/-- A new owner is not committed, so that nothing is claimed about its slot. -/
theorem sourced_reserve
    {ref : BucketRef} {slot : Nat} {free : List Nat}
    (h : Sourced w)
    (htidy : Tidy w.residency)
    (hexist : ref < w.scene.buckets.size)
    (hinactive : w.residency.isActive (w.scene.bucket ref).id = false) :
    Sourced (w.reserve ref slot free) := by
  have hextends : Scene.Extends w.scene (w.reserve ref slot free).scene :=
    (alike_reserve _ w.scene ref slot).extends
  constructor
  · intro a ha
    rcases List.mem_append.mp ha with ha | ha
    · exact (h.known a ha).of_extends hextends
    · have hnew : Knows w.scene a := by
        rw [List.mem_singleton.mp ha]
        exact ⟨hexist, rfl⟩
      exact hnew.of_extends hextends
  · intro a ha hid
    rcases List.mem_append.mp ha with ha | ha
    · exact h.written a ha hid
    · have hactive := isActive_iff.mpr (htidy.committed_active _ hid)
      rw [List.mem_singleton.mp ha] at hactive
      rw [hinactive] at hactive
      cases hactive

/-- A write makes its owner the last writer of the slot, and of no other owner's slot. -/
theorem sourced_commit
    {a : ActiveBucket} {rest : List WriteRequest} {s : Scene}
    (h : Sourced w)
    (htidy : Tidy w.residency)
    (ha : a ∈ w.residency.active)
    (hextends : Scene.Extends w.scene s) :
    Sourced (w.commit a rest s) := by
  constructor
  · intro b hb
    exact (h.known b hb).of_extends
      (hextends.trans (alike_markCommitted _ s a).extends)
  · intro b hb hid
    have hwriter : (w.commit a rest s).chronicle.lastWriter? b.slot =
        if a.slot = b.slot then some a else w.chronicle.lastWriter? b.slot :=
      w.chronicle.lastWriter?_addWrites a b.slot
    rw [hwriter]
    split
    · rename_i hslot
      rw [htidy.eq_of_slot ha hb hslot]
    · rename_i hslot
      have hother : b.id ≠ a.id := fun hsame => hslot (by rw [htidy.eq_of_id hb ha hsame])
      exact h.written b hb (((mem_committed_markCommitted (s := s)).mp hid).resolve_left hother)

theorem Sourced.of_move
    (h : Sourced w)
    (htidy : Tidy w.residency)
    (hmove : Move opening w w') :
    Sourced w' := by
  rcases hmove.inversion with
    hshrinks | ⟨_, ref, slot, free, _, hexist, hinactive, rfl⟩ | ⟨a, rest, s, ha, _, hextends, rfl⟩
  · exact h.of_shrinks hshrinks
  · exact sourced_reserve h htidy hexist hinactive
  · exact sourced_commit h htidy ha hextends

end Sources

section Entries

open Residency

variable {w w' : World}

/--
Whether active buckets were active at the last rebuild, and entries point at slots that
were last written for their owners of that time.
-/
structure Shown (w : World) : Prop where
  known : ∀ a ∈ w.chronicle.owners, Knows w.scene a ∧ a.slot < w.residency.capacity
  alone : ∀ a ∈ w.chronicle.owners, ∀ b ∈ w.chronicle.owners, a.slot = b.slot → a = b
  active : ∀ a ∈ w.residency.active, a ∈ w.chronicle.owners
  entries : ∀ (i slot zoomStep : Nat),
    w.residency.lookUp[i]? = some (.resident slot zoomStep) →
    ∃ owner ∈ w.chronicle.owners, owner.slot = slot ∧
      w.chronicle.lastWriter? slot = some owner ∧
      ∃ ref, ref < w.scene.buckets.size ∧ (w.scene.bucket ref).id = owner.id ∧
        (w.scene.bucket ref).address.zoomStep = zoomStep

/-- Entries point only at slots of buckets that are active and committed. -/
theorem resident_of_entryFor
    {m : Residency} {s : Scene} {held : BucketRef → Bool} {a : ActiveBucket} {slot zoomStep : Nat}
    (hknown : ∀ b ∈ m.active, Knows s b)
    (ha : a ∈ m.active)
    (h : m.entryFor s held a = .resident slot zoomStep) :
    ∃ b ∈ m.active, b.slot = slot ∧ b.id ∈ m.committed ∧
      ∃ ref, ref < s.buckets.size ∧ (s.bucket ref).id = b.id ∧
        (s.bucket ref).address.zoomStep = zoomStep := by
  unfold entryFor at h
  dsimp only at h
  split at h
  · rename_i hown
    cases h
    have hcommitted := (Bool.and_eq_true_iff.mp hown).2
    exact ⟨a, ha, rfl, List.contains_iff_mem.mp hcommitted, a.bucket, (hknown a ha).1,
      (hknown a ha).2, rfl⟩
  · cases hstandIn : m.standIn? s held a.bucket with
    | none =>
        rw [hstandIn] at h
        cases h
    | some entry =>
        rw [hstandIn] at h
        obtain ⟨c, hc, hfound⟩ := List.exists_of_findSome?_eq_some hstandIn
        obtain ⟨b, hb, hentry⟩ := Option.map_eq_some_iff.mp hfound
        have hmem := (List.takeWhile_sublist _).subset hc
        obtain ⟨ref, href, rfl⟩ := List.mem_map.mp hmem
        rw [Option.getD_some] at h
        subst h
        cases hentry
        unfold committedOwner? at hb
        split at hb
        · rename_i hcommitted
          obtain ⟨hactive, hid⟩ := find?_eq_some hb
          exact ⟨b, hactive, rfl, hid ▸ List.contains_iff_mem.mp hcommitted, ref,
            Nat.lt_trans (Scene.lt_of_mem_coarserChain href) (hknown a ha).1, hid.symm, rfl⟩
        · cases hb

theorem shown_rebuild
    (outside : BucketRef → Bool)
    (htidy : Tidy w.residency)
    (h : Sourced w) :
    Shown (w.rebuild outside) := by
  refine ⟨?_, ?_, fun _ ha => ha, ?_⟩
  · intro a ha
    exact ⟨h.known a ha, htidy.slot_lt ha⟩
  · intro a ha b hb
    exact htidy.eq_of_slot ha hb
  · intro i slot zoomStep hi
    rcases getElem?_foldl_enter_cases hi with hblank | ⟨a, ha, hentry⟩
    · obtain ⟨_, hblank⟩ := Array.getElem?_eq_some_iff.mp hblank
      simp [LookUp.Buffer.blank] at hblank
    · obtain ⟨owner, howner, hslot, hcommitted, hrest⟩ :=
        resident_of_entryFor h.known (mem_shown.mp ha).1 hentry
      refine ⟨owner, howner, hslot, ?_, hrest⟩
      rw [← hslot]
      exact h.written owner howner hcommitted

theorem Shown.of_shrinks
    (h : Shown w)
    (hshrinks : Shrinks w w') :
    Shown w' := by
  have hcapacity : w'.residency.capacity = w.residency.capacity := by
    rw [capacity, hshrinks.layout, capacity]
  refine ⟨?_, ?_, ?_, ?_⟩
  · intro a ha
    rw [hshrinks.chronicle] at ha
    rw [hcapacity]
    exact ⟨(h.known a ha).1.of_extends hshrinks.scene, (h.known a ha).2⟩
  · rw [hshrinks.chronicle]
    exact h.alone
  · intro a ha
    rw [hshrinks.chronicle]
    exact h.active a (hshrinks.active a ha)
  · intro i slot zoomStep hi
    rw [hshrinks.lookUp] at hi
    rw [hshrinks.chronicle]
    obtain ⟨owner, howner, hslot, hwriter, ref, href, hid, hzoom⟩ := h.entries i slot zoomStep hi
    have hsame := hshrinks.scene.same ref href
    exact ⟨owner, howner, hslot, hwriter, ref, Nat.lt_of_lt_of_le href hshrinks.scene.size,
      hsame.id.trans hid, by rw [hsame.address, hzoom]⟩

/-- The slot of an active bucket is written for nobody but its owner at the last rebuild. -/
theorem shown_commit
    {a : ActiveBucket} {rest : List WriteRequest} {s : Scene}
    (h : Shown w)
    (ha : a ∈ w.residency.active)
    (hextends : Scene.Extends w.scene s) :
    Shown (w.commit a rest s) := by
  have hscene : Scene.Extends w.scene (w.commit a rest s).scene :=
    hextends.trans (alike_markCommitted _ s a).extends
  refine ⟨?_, h.alone, h.active, ?_⟩
  · intro b hb
    exact ⟨(h.known b hb).1.of_extends hscene, (h.known b hb).2⟩
  · intro i slot zoomStep hi
    obtain ⟨owner, howner, hslot, hwriter, ref, href, hid, hzoom⟩ := h.entries i slot zoomStep hi
    have hsame := hscene.same ref href
    refine ⟨owner, howner, hslot, ?_, ref, Nat.lt_of_lt_of_le href hscene.size,
      hsame.id.trans hid, by rw [hsame.address, hzoom]⟩
    have hadd : (w.commit a rest s).chronicle.lastWriter? slot =
        if a.slot = slot then some a else w.chronicle.lastWriter? slot :=
      w.chronicle.lastWriter?_addWrites a slot
    rw [hadd]
    split
    · rename_i hsame
      rw [h.alone a (h.active a ha) owner howner (hsame.trans hslot.symm)]
    · exact hwriter

theorem Shown.of_move
    (h : Shown w)
    (hmove : Move false w w') :
    Shown w' := by
  rcases hmove.inversion with hshrinks | ⟨hopening, _⟩ | ⟨a, rest, s, ha, _, hextends, rfl⟩
  · exact h.of_shrinks hshrinks
  · cases hopening
  · exact shown_commit h ha hextends

end Entries

section Provenance

open Residency

variable {allowed : World → Operation → Prop} {s₀ : Scene} {w : World} {op : Operation}

/-- Whatever else happens changes neither books nor buckets that exist. -/
theorem shrinks_step_of_not_isWork
    (h : op.isWork = false) :
    Shrinks w (w.step op) := by
  cases op with
  | occurrence o =>
      rw [w.step_occurrence]
      exact shrinks_of_books rfl rfl rfl rfl rfl (Scene.extends_occur w.scene o)
  | setUp factory bytes =>
      obtain ⟨_, _, _, device, journal, hstep⟩ := w.exists_step_setUp_eq factory bytes
      rw [hstep]
      exact shrinks_of_books rfl rfl rfl rfl rfl (Scene.extends_of_buckets rfl)
  | _ => cases h

theorem Reachable.sourced_shown
    (h : Reachable allowed s₀ w) :
    Sourced w ∧ Shown w := by
  refine h.of_moves ?_ ?_ ?_ ?_ ?_
  · intro width textures packing settings m s hcreate
    obtain ⟨_, _, _, _, _, rfl⟩ := create_eq_ok hcreate
    refine ⟨⟨by simp, by simp⟩, ⟨by simp [Chronicle.blank], by simp [Chronicle.blank], by simp, ?_⟩⟩
    intro i slot zoomStep hi
    obtain ⟨_, hblank⟩ := Array.getElem?_eq_some_iff.mp hi
    simp [LookUp.Buffer.blank] at hblank
  · intro w op _ hother _ _ hsourced hshown
    have hshrinks := shrinks_step_of_not_isWork (w := w) hother
    exact ⟨hsourced.of_shrinks hshrinks, hshown.of_shrinks hshrinks⟩
  · intro w w' htidy hmove hsourced
    exact hsourced.of_move htidy hmove
  · intro w w' _ hmove _ hshown
    exact hshown.of_move hmove
  · intro _ w _ outside _ _ _ htidy hsourced
    exact ⟨⟨hsourced.known, hsourced.written⟩, shown_rebuild outside htidy hsourced⟩

theorem mem_active_of_mem_writes
    {a : ActiveBucket}
    (h : a ∈ w.writes op) :
    a ∈ w.residency.active := by
  cases op with
  | work allowance => exact mem_active_of_mem_writesOfPass h
  | tick outside allowance =>
      exact mem_active_of_mem_readNotices (mem_active_of_mem_writesOfPass h)
  | _ => cases h

/-- Whether the identities of buckets are unique. -/
def Scene.HasUniqueIds (s : Scene) : Prop :=
  ∀ i j, i < s.buckets.size → j < s.buckets.size → (s.bucket i).id = (s.bucket j).id → i = j

theorem hasUniqueIds_of_size_eq_one
    {s : Scene}
    (h : s.buckets.size = 1) :
    s.HasUniqueIds := by
  intro i j hi hj _
  omega

/--
Wherever the numbers of a look-up entry point at a slot, the slot was last written for the bucket
that owned it when the entries were last rebuilt, and the numbers are this slot and the zoom step
of that bucket, if no two buckets share an identity.  Both are rounded to single precision, which
keeps exactly those that 24 significant bits suffice for.  No operation writes the slot for
another bucket before the entries are rebuilt.
-/
theorem lookUp_provenance
    {i : Nat} {s z : Int}
    (h : Reachable (fun _ _ => True) s₀ w)
    (hvalues : w.residency.lookUp.values[i]? = some (s, z))
    (hslot : 0 ≤ s) :
    ∃ owner ∈ w.chronicle.owners, ∃ zoomStep : Nat,
      (w.scene.HasUniqueIds → zoomStep = (w.scene.bucket owner.bucket).address.zoomStep) ∧
      (s = Single.round owner.slot ∧ z = Single.round zoomStep) ∧
      ((s = owner.slot ↔ Single.Holds owner.slot) ∧ (z = zoomStep ↔ Single.Holds zoomStep)) ∧
      owner.slot < w.residency.capacity ∧
      (∀ other ∈ w.chronicle.owners, other.slot = owner.slot → other = owner) ∧
      w.chronicle.lastWriter? owner.slot = some owner ∧
      ∀ op, ∀ a ∈ w.writes op, a.slot = owner.slot → a = owner := by
  have hshown := h.sourced_shown.2
  rw [LookUp.Buffer.values, Array.getElem?_map] at hvalues
  obtain ⟨entry, hentry, hpair⟩ := Option.map_eq_some_iff.mp hvalues
  cases entry with
  | outside =>
      cases hpair
      exact absurd hslot (by decide)
  | pending zoomStep =>
      cases hpair
      exact absurd hslot (by decide)
  | resident slot zoomStep =>
      cases hpair
      obtain ⟨owner, howner, rfl, hwriter, ref, href, hid, rfl⟩ :=
        hshown.entries i slot zoomStep hentry
      obtain ⟨⟨hexist, hown⟩, hlt⟩ := hshown.known owner howner
      refine ⟨owner, howner, _, ?_, ⟨rfl, rfl⟩,
        ⟨Single.round_eq_self_iff, Single.round_eq_self_iff⟩, hlt, ?_, hwriter, ?_⟩
      · intro hids
        rw [hids ref owner.bucket href hexist (hid.trans hown.symm)]
      · intro other hother hsame
        exact hshown.alone other hother owner howner hsame
      · intro op a ha hsame
        exact hshown.alone a (hshown.active a (mem_active_of_mem_writes ha)) owner howner hsame

/-- The world after one bucket with the given address was committed and shown. -/
def World.showingOne (address : Address) : World :=
  [.occurrence .addTape, .setUp (.tapes 0) 1, .occurrence (.create 7 address none),
    .occurrence (.deed 0 (.receive (zeroBytes bucketVoxels))),
    .activate (fun _ => true) [0] address, .tick (fun _ => true) .unlimited].foldl
    World.step .smallest

theorem reachable_showingOne (address : Address) :
    Reachable (fun _ _ => True) Scene.empty (.showingOne address) := by
  refine (reachable_smallest _).run ⟨trivial, trivial, trivial, trivial, trivial, trivial, ?_,
    trivial, ?_, trivial, trivial, trivial, trivial⟩
  · exact Nat.one_pos
  · intro ref href
    rw [List.mem_singleton.mp href]
    exact Nat.one_pos

/-- A bucket that was committed in the first slot is shown from there. -/
theorem lookUp_provenance_of_one_committed :
    let w := World.showingOne .origin
    w.residency.lookUp.values[0]? = some (0, 0) ∧
      ∃ owner ∈ w.chronicle.owners, owner.slot = 0 ∧
        0 = Single.round (w.scene.bucket owner.bucket).address.zoomStep ∧
        w.chronicle.lastWriter? owner.slot = some owner := by
  intro w
  have hreached : Reachable (fun _ _ => True) Scene.empty w := reachable_showingOne .origin
  have hids : w.scene.HasUniqueIds := hasUniqueIds_of_size_eq_one (by decide +kernel)
  have hvalues : w.residency.lookUp.values[0]? = some (0, 0) := by decide +kernel
  have hcapacity : w.residency.capacity = 2 := by decide +kernel
  obtain ⟨owner, howner, zoomStep, hzoom, ⟨_, hcoarse⟩, ⟨hexact, _⟩, hlt, _, hwriter, _⟩ :=
    lookUp_provenance hreached hvalues (by decide)
  have hsmall : (owner.slot : Int).natAbs < Single.placeValue (Single.fractionBits + 1) := by
    rw [Int.natAbs_natCast]
    exact Nat.lt_trans (hcapacity ▸ hlt) (by decide)
  have hslot : (0 : Int) = owner.slot := hexact.mpr (Single.holds_of_natAbs_lt hsmall)
  rw [hzoom hids] at hcoarse
  exact ⟨hvalues, owner, howner, by omega, hcoarse, hwriter⟩

/-- The zoom step that an entry shows differs from that of its bucket if it has 25 bits. -/
theorem lookUp_rounds_zoomStep :
    let w := World.showingOne ⟨0, 0, 0, 16777217⟩
    Reachable (fun _ _ => True) Scene.empty w ∧ w.scene.HasUniqueIds ∧
      w.residency.lookUp.values[0]? = some (0, 16777216) ∧
      w.chronicle.owners = [⟨7, 0, 0, 0⟩] ∧
      (w.scene.bucket 0).address.zoomStep = 16777217 := by
  intro w
  have hids : w.scene.HasUniqueIds := hasUniqueIds_of_size_eq_one (by decide +kernel)
  have hvalues : w.residency.lookUp.values[0]? = some (0, 16777216) := by decide +kernel
  have howners : w.chronicle.owners = [⟨7, 0, 0, 0⟩] := by decide +kernel
  have hzoom : (w.scene.bucket 0).address.zoomStep = 16777217 := by decide +kernel
  exact ⟨reachable_showingOne _, hids, hvalues, howners, hzoom⟩

end Provenance

end VoxelCache
