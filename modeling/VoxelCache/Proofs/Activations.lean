import VoxelCache.Proofs.Activating
import VoxelCache.Proofs.UpdateFailures

/-!
# Requests to replace the active buckets

A request is refused for want of slots and for nothing else, and then it does nothing but read the
notices.  A request that finds room replaces the active buckets.  The last thing that it does is to
upload the look-up entries.  Rasters take them; a look-up texture of another kind may reject them,
and then the request fails although it has replaced the active buckets.

**Results.**
* `replaces_activate`: what a request that finds room makes of the books.
* `activate_answer`: what a request that finds room answers.
* `activate_twice`: a request that is repeated at once only uploads again.
* `activate_allOrNothing`: all of this for every reachable world, in whatever order the active
  buckets are gone through.
-/

namespace VoxelCache
namespace Residency

section Permuting

variable {w : World} {m : Residency} {s : Scene} {order : List ActiveBucket}

theorem Tidy.of_perm
    (h : Tidy m)
    (horder : order.Perm m.active) :
    Tidy { m with active := order } where
  slots := ((horder.map _).append_left _).trans h.slots
  ascending := h.ascending
  ids := (horder.map _).nodup_iff.mpr h.ids
  committed_nodup := h.committed_nodup
  committed_active id hid := (horder.map _).mem_iff.mpr (h.committed_active id hid)

theorem heedful_of_perm
    (h : Heedful w)
    (horder : order.Perm w.residency.active) :
    Heedful { w with residency := { w.residency with active := order } } where
  isOpen := h.isOpen
  known a ha := h.known a (horder.mem_iff.mp ha)
  watched a ha := h.watched a (horder.mem_iff.mp ha)
  warned a ha := h.warned a (horder.mem_iff.mp ha)
  truthful := h.truthful

end Permuting

section Replacing

variable {m : Residency} {s : Scene} {c : Chronicle} {refs : List BucketRef}

/-- A request that finds room replaces the active buckets, whatever it answers. -/
theorem replaces_activate
    (h : Heedful ⟨m, s, c⟩)
    (htidy : Tidy m)
    (hids : s.HasUniqueIds)
    (hexist : ∀ ref ∈ refs, ref < s.buckets.size)
    (hle : (wanted s refs).length ≤ m.capacity)
    (outside : BucketRef → Bool) (anchor : Address) :
    let after := m.activate s outside refs anchor
    Replaces (wanted s refs) anchor m after.2.1 s after.2.2 := by
  intro after
  obtain ⟨m', s', hactivate, hreplaces, _, _⟩ :=
    activate_of_length_le h htidy hids hexist hle outside anchor
  have hafter : after = m'.refresh s' outside := hactivate
  obtain ⟨isPending, hresidency⟩ := m'.refresh_residency s' outside
  obtain ⟨device, journal, hscene⟩ := m'.refresh_scene s' outside
  rw [hafter, hresidency, hscene]
  exact ⟨hreplaces.anchor, hreplaces.all, hreplaces.active, hreplaces.free,
    hreplaces.committed, hreplaces.listeners⟩

/-- What a request that finds room leaves has entries and a look-up texture of their shape. -/
theorem isUploadable_activate
    (h : Heedful ⟨m, s, c⟩)
    (htidy : Tidy m)
    (hids : s.HasUniqueIds)
    (hexist : ∀ ref ∈ refs, ref < s.buckets.size)
    (hle : (wanted s refs).length ≤ m.capacity)
    (huploadable : m.IsUploadable s)
    (outside : BucketRef → Bool) (anchor : Address) :
    let after := m.activate s outside refs anchor
    after.2.1.IsUploadable s ∧ after.2.1.settings = m.settings ∧
      after.2.1.lookUpTexture = m.lookUpTexture := by
  intro after
  obtain ⟨m', s', hactivate, _, hmoves, _⟩ :=
    activate_of_length_le h htidy hids hexist hle outside anchor
  have hretains : Retains m m' := Moves.retains hmoves
  have hafter : after = m'.refresh s' outside := hactivate
  obtain ⟨isPending, hresidency⟩ := m'.refresh_residency s' outside
  rw [hafter, hresidency]
  refine ⟨?_, hretains.settings, hretains.lookUpTexture⟩
  exact huploadable.of_size (size_foldl_enter.trans Array.size_replicate) hretains.settings
    hretains.lookUpTexture

/-- A request that finds room is stopped by nothing but a look-up texture that is no raster. -/
theorem activate_answer
    (h : Heedful ⟨m, s, c⟩)
    (htidy : Tidy m)
    (hids : s.HasUniqueIds)
    (hexist : ∀ ref ∈ refs, ref < s.buckets.size)
    (hle : (wanted s refs).length ≤ m.capacity)
    (huploadable : m.IsUploadable s)
    (outside : BucketRef → Bool) (anchor : Address) :
    let after := m.activate s outside refs anchor
    after.1 = .ok () ∨ ∃ lookUp cause, m.lookUpTexture = some lookUp ∧
      (s.device.texture lookUp).isRaster = false ∧
      (s.device.update lookUp after.2.1.lookUp.bytes m.lookUpRect).1 = .error (.update cause) ∧
      after.1 = .error (.update cause) := by
  intro after
  obtain ⟨hafter, hsettings, htexture⟩ :=
    isUploadable_activate h htidy hids hexist hle huploadable outside anchor
  have hanswer : after.1 = after.2.1.uploadAnswer s.device := by
    rcases m.fst_activate s outside refs anchor with ⟨capacity, count, hrefused⟩ | hanswer
    · obtain ⟨m', s', hactivate, _⟩ :=
        activate_of_length_le h htidy hids hexist hle outside anchor
      rw [hactivate] at hrefused
      rcases m'.refresh_fst s' outside with hok | ⟨cause, herror⟩
      · rw [hok] at hrefused
        cases hrefused
      · rw [herror] at hrefused
        cases hrefused
    · exact hanswer
  rcases hafter.uploadAnswer_cases with hok | ⟨lookUp, cause, hlookUp, htaped, hfails, hno⟩
  · exact .inl (hanswer.trans hok)
  · refine .inr ⟨lookUp, cause, htexture.symm.trans hlookUp, htaped, ?_, hanswer.trans hno⟩
    rw [lookUpRect, hsettings] at hfails
    exact hfails

/-- A request that is repeated at once does nothing but upload again. -/
theorem activate_twice
    (h : Heedful ⟨m, s, c⟩)
    (htidy : Tidy m)
    (hids : s.HasUniqueIds)
    (hexist : ∀ ref ∈ refs, ref < s.buckets.size)
    (hle : (wanted s refs).length ≤ m.capacity)
    (outside : BucketRef → Bool) (anchor : Address) :
    let after := m.activate s outside refs anchor
    ∃ isPending device journal, (after.2.1.activate after.2.2 outside refs anchor).2 =
      ({ after.2.1 with isUploadPending := isPending },
        { after.2.2 with device := device, journal := journal }) := by
  intro after
  obtain ⟨m', s', hactivate, hreplaces, hmoves, hnotices⟩ :=
    activate_of_length_le h htidy hids hexist hle outside anchor
  have hafter : after = m'.refresh s' outside := hactivate
  obtain ⟨isPending, hresidency⟩ := m'.refresh_residency s' outside
  obtain ⟨device, journal, hscene⟩ := m'.refresh_scene s' outside
  rw [hafter, hresidency, hscene]
  have halike : Scene.Alike s { s' with device := device, journal := journal } :=
    (Moves.alike hmoves).trans (Scene.alike_of_buckets rfl)
  have hheedful := Heedful.of_moves h hmoves
  have hentries : ∀ (lookUp : LookUp.Buffer) (isStale : Bool),
      ({ m' with lookUp := lookUp, isStale := isStale, isUploadPending := isPending } :
          Residency).entries { s' with device := device, journal := journal }
          (fun ref => outside ref || m'.holds ref) =
        m'.entries s' fun ref => outside ref || m'.holds ref := by
    intro lookUp isStale
    refine entries_congr rfl rfl rfl rfl fun a _ => ⟨?_, fun _ _ => rfl, fun _ _ => rfl⟩
    exact Scene.coarserChain_congr fun _ _ => rfl
  -- The request left the look-up entries fresh and no notices, so `activate_again` applies.
  rw [← hreplaces.anchor]
  refine activate_again (c := c) ?_ ?_ ?_ ?_ ?_ hnotices ?_ rfl
  · exact ⟨⟨hheedful.isOpen, hheedful.known, hheedful.watched⟩, hheedful.warned,
      hheedful.truthful⟩
  · exact (Moves.tidy hmoves htidy).of_eq rfl rfl rfl rfl
  · exact hasUniqueIds_of_alike hids halike
  · exact halike.size ▸ hexist
  · exact (wanted_of_alike halike refs).symm ▸ hreplaces.all
  · exact congrArg Prod.fst (hentries _ _).symm

end Replacing

section Requesting

variable {s₀ : Scene} {w : World} {refs : List BucketRef}

/--
A request to replace the active buckets is refused exactly if it wants more buckets than
there are slots, whatever came before it.  If it is refused, it does nothing but read the
notices.  Otherwise exactly the wanted buckets are active, those that were active before
stay as they were, and the newcomers get the smallest slots there are, in order.  No look-up
entry is out of bounds, if a word counts the address space.  The request then succeeds, or a
look-up texture that is no raster rejects the new look-up entries, which are the last thing that
it brings to the device.  All this does not depend on the order in which the active buckets are
gone through.  A request that is repeated at once does nothing but upload again.
-/
theorem activate_allOrNothing
    {order : List ActiveBucket}
    (h : Reachable SparesOwner s₀ w)
    (hids : w.scene.HasUniqueIds)
    (hexist : ∀ ref ∈ refs, ref < w.scene.buckets.size)
    (horder : order.Perm w.residency.active)
    (outside : BucketRef → Bool) (anchor : Address) :
    let m := { w.residency with active := order }
    let wanted := wanted w.scene refs
    let after := m.activate w.scene outside refs anchor
    ((∃ capacity requested, after.1 = .error (.capacityExhausted capacity requested)) ↔
      m.capacity < wanted.length) ∧
    (m.capacity < wanted.length →
      after.1 = .error (.capacityExhausted m.capacity refs.eraseDups.length) ∧
      after.2.1 = (m.readNotices w.scene).1 ∧
      ∃ journal, after.2.2 = { (m.readNotices w.scene).2 with journal := journal }) ∧
    (wanted.length ≤ m.capacity →
      (after.1 = .ok () ∨ ∃ lookUp cause, m.lookUpTexture = some lookUp ∧
        (w.scene.device.texture lookUp).isRaster = false ∧
        (w.scene.device.update lookUp after.2.1.lookUp.bytes m.lookUpRect).1 =
          .error (.update cause) ∧
        after.1 = .error (.update cause)) ∧
      Replaces wanted anchor m after.2.1 w.scene after.2.2 ∧
      (m.settings.addressSpaceSize < longModulus →
        ∀ address i, after.2.1.lookUpIndex? address = some i → i < after.2.1.lookUp.size) ∧
      ∃ isPending device journal,
        (after.2.1.activate after.2.2 outside refs anchor).2 =
          ({ after.2.1 with isUploadPending := isPending },
            { after.2.2 with device := device, journal := journal })) := by
  intro m wanted after
  have htidy : Tidy m := h.tidy.of_perm horder
  have hheedful : Heedful ⟨m, w.scene, w.chronicle⟩ := heedful_of_perm h.heedful horder
  have huploadable : m.IsUploadable w.scene := h.isUploadable.of_size h.isUploadable.size rfl rfl
  have hrefused : m.capacity < wanted.length → _ := fun hlt =>
    activate_of_lt_length hheedful htidy hids hexist hlt outside anchor
  have hanswer : wanted.length ≤ m.capacity → _ := fun hle =>
    activate_answer hheedful htidy hids hexist hle huploadable outside anchor
  refine ⟨⟨?_, ?_⟩, ?_, ?_⟩
  · rintro ⟨capacity, requested, hfault⟩
    refine Nat.lt_of_not_le fun hle => ?_
    rcases hanswer hle with hok | ⟨_, cause, _, _, _, herror⟩
    · cases hfault.symm.trans hok
    · cases hfault.symm.trans herror
  · intro hlt
    obtain ⟨journal, hactivate⟩ := hrefused hlt
    exact ⟨_, _, congrArg Prod.fst hactivate⟩
  · intro hlt
    obtain ⟨journal, hactivate⟩ := hrefused hlt
    exact ⟨congrArg Prod.fst hactivate, congrArg (·.2.1) hactivate, journal,
      congrArg (·.2.2) hactivate⟩
  · intro hle
    refine ⟨hanswer hle, replaces_activate hheedful htidy hids hexist hle outside anchor, ?_,
      activate_twice hheedful htidy hids hexist hle outside anchor⟩
    intro hword address i hindex
    obtain ⟨hafter, hsettings, _⟩ :=
      isUploadable_activate hheedful htidy hids hexist hle huploadable outside anchor
    rw [hafter.size]
    refine lookUpIndex?_lt ?_ ?_ hindex
    · rw [hsettings]
      exact h.isAccepted
    · rw [hsettings]
      exact hword

/--
Of two active buckets, gone through in reverse order, one is collected and the other one is
requested again, twice, with a new bucket: the new bucket gets the slot of the collected
one, and the raster takes the new entries.  A request for three buckets is refused.
-/
theorem activate_allOrNothing_of_two_slots :
    let ops : List Operation := [
      .occurrence (.addSwitch true), .setUp (.rasters 0) 1,
      .occurrence (.create 7 .origin none), .occurrence (.create 8 .origin none),
      .occurrence (.create 9 .origin none), .occurrence (.create 10 .origin none),
      .activate (fun _ => true) [0, 1] .origin, .occurrence (.deed 0 .collect)]
    let w := ops.foldl World.step .smallest
    let m := { w.residency with active := w.residency.active.reverse }
    let after := m.activate w.scene (fun _ => true) [0, 1, 1, 2] .origin
    let refused := m.activate w.scene (fun _ => true) [1, 2, 3] .origin
    Reachable SparesOwner Scene.empty w ∧ after.1 = .ok () ∧
      (after.2.1.active.map fun a => (a.bucket, a.slot)) = [(1, 1), (2, 0)] ∧
      Replaces [1, 2] .origin m after.2.1 w.scene after.2.2 ∧
      refused.1 = .error (.capacityExhausted 2 3) := by
  intro ops w m after refused
  have hreached : Reachable SparesOwner Scene.empty w := by
    refine (reachable_smallest _).run ⟨trivial, trivial, trivial, trivial, trivial, trivial,
      trivial, trivial, trivial, trivial, trivial, trivial, ?_, trivial, ?_, ?_, trivial⟩
    · show ∀ ref ∈ [0, 1], ref < _
      decide +kernel
    · show 0 < _
      decide +kernel
    · exact trivial
  have hids : w.scene.HasUniqueIds := by
    have hsize : w.scene.buckets.size = 4 := by decide +kernel
    have hall : ∀ i < 4, ∀ j < 4, (w.scene.bucket i).id = (w.scene.bucket j).id → i = j := by
      decide +kernel
    intro i j hi hj
    rw [hsize] at hi hj
    exact hall i hi j hj
  have hexist : ∀ ref ∈ ([0, 1, 1, 2] : List BucketRef), ref < w.scene.buckets.size := by
    decide +kernel
  have hexist' : ∀ ref ∈ ([1, 2, 3] : List BucketRef), ref < w.scene.buckets.size := by
    decide +kernel
  have hwanted : wanted w.scene [0, 1, 1, 2] = [1, 2] := by decide +kernel
  have hthree : ([1, 2, 3] : List BucketRef).eraseDups.length = 3 := by decide +kernel
  have hcapacity : m.capacity = 2 := by decide +kernel
  have hle : (wanted w.scene [0, 1, 1, 2]).length ≤ w.residency.capacity := by decide +kernel
  have hlt : w.residency.capacity < (wanted w.scene [1, 2, 3]).length := by decide +kernel
  have hslots : (after.2.1.active.map fun a => (a.bucket, a.slot)) = [(1, 1), (2, 0)] := by
    decide +kernel
  have hlookUp : w.residency.lookUpTexture = some 1 := by decide +kernel
  have hraster : (w.scene.device.texture 1).isRaster = true := by decide +kernel
  clear_value w
  have horder := w.residency.active.reverse_perm
  obtain ⟨hanswer, hreplaces, _⟩ :=
    (activate_allOrNothing hreached hids hexist horder (fun _ => true) .origin).2.2 hle
  have hrefused :=
    (activate_allOrNothing hreached hids hexist' horder (fun _ => true) .origin).2.1 hlt
  refine ⟨hreached, ?_, hslots, ?_, ?_⟩
  · rcases hanswer with hok | ⟨lookUp, _, hsome, htaped, _⟩
    · exact hok
    · rw [show w.residency.lookUpTexture = some lookUp from hsome] at hlookUp
      cases hlookUp
      rw [hraster] at htaped
      cases htaped
  · rw [hwanted] at hreplaces
    simpa only [after, m] using hreplaces
  · have hfault := hrefused.1
    rw [hthree] at hfault
    rw [← hcapacity]
    simpa only [refused, m] using hfault

/-- A look-up texture that loses its device fails a request after the buckets were replaced. -/
theorem activate_fails_after_replacing :
    let ops : List Operation := [
      .occurrence .addTape, .setUp (.tapes 0) 1, .occurrence (.create 7 .origin none),
      .occurrence (.setFuses 0 (some 0) none)]
    let w := ops.foldl World.step .smallest
    let after := w.residency.activate w.scene (fun _ => true) [0] .origin
    Reachable SparesOwner Scene.empty w ∧ w.scene.HasUniqueIds ∧
      (wanted w.scene [0]).length ≤ w.residency.capacity ∧
      after.1 = .error (.update .deviceLost) ∧
      w.residency.active = [] ∧ after.2.1.active = [⟨7, 0, 0, 0⟩] := by
  intro ops w after
  have hreached : Reachable SparesOwner Scene.empty w :=
    (reachable_smallest _).run ⟨trivial, trivial, trivial, trivial, trivial, trivial, trivial,
      trivial, trivial⟩
  have hids : w.scene.HasUniqueIds := hasUniqueIds_of_size_eq_one (by decide +kernel)
  have hle : (wanted w.scene [0]).length ≤ w.residency.capacity := by decide +kernel
  have hfails : after.1 = .error (.update .deviceLost) := by rfl
  have hbefore : w.residency.active = [] := by decide +kernel
  have hafter : after.2.1.active = [⟨7, 0, 0, 0⟩] := by decide +kernel
  exact ⟨hreached, hids, hle, hfails, hbefore, hafter⟩

end Requesting

end Residency
end VoxelCache
