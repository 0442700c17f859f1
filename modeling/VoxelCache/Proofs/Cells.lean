import VoxelCache.Proofs.Displaying
import VoxelCache.Proofs.Sessions

/-!
# Cells of the look-up entries in a session

An update aims the window and picks the active buckets for one zoom step: those of the
zoom step itself and, behind them, those of the next coarser one.  Only the former have
look-up entries of their own, and the pool has one bucket for each of their addresses.
Nothing else moves the window or makes a bucket active.

**Results.**
* `IsLevel.hasOwnCells`: active buckets of one zoom step lie in different cells.
* `Reached.isLevel`: in every session the active buckets fit the zoom step of the window.
* `cells_unambiguous`: no two buckets claim the same look-up entry.
-/

namespace VoxelCache

section Views

namespace FlightView

variable {p : Pyramid Float} {radius : Float} {view : Affine} {zoomStep : Nat}
  {limit : Option Nat} {selection : List Address} {a : Address}

/-- Addresses in view are of the zoom step that was asked for, or one coarser. -/
theorem zoomStep_of_mem_addresses
    (h : addresses p radius view zoomStep limit = .ok selection)
    (ha : a ∈ selection) :
    a.zoomStep = zoomStep ∨ a.zoomStep = zoomStep + 1 := by
  obtain ⟨all, hall, hmem⟩ : ∃ all, unlimited p radius view zoomStep = .ok all ∧ a ∈ all := by
    cases hall : unlimited p radius view zoomStep with
    | error fault =>
        rw [addresses, hall] at h
        cases h
    | ok all =>
        rw [addresses, hall] at h
        cases h
        refine ⟨all, rfl, ?_⟩
        cases limit with
        | some n => exact List.mem_of_mem_take ha
        | none => exact ha
  cases hfine : p.resolution zoomStep with
  | error fault =>
      rw [unlimited, hfine] at hall
      cases hall
  | ok fineResolution =>
      rw [unlimited, hfine] at hall
      cases hall
      rcases List.mem_append.mp hmem with hmem | hmem
      · exact .inl (zoomStep_of_mem_fine hmem)
      · split at hmem
        · exact .inr (zoomStep_of_mem_coarse hmem)
        · cases hmem

end FlightView

end Views

section Windows

open Residency

namespace Residency

variable {m m' : Residency} {s s' : Scene} {order : List ActiveBucket}

/--
Whether the entries of a residency are left over from another one, or made for the active
buckets it has itself.
-/
def HasEntriesOf (m' m : Residency) (s' : Scene) : Prop :=
  m'.lookUp = m.lookUp ∨ ∃ held, m'.lookUp = (m'.entries s' held).1

/-- A refresh makes the entries for the active buckets that there are. -/
theorem lookUp_refresh_self
    (m : Residency) (s : Scene) (outside : BucketRef → Bool) :
    let after := (m.refresh s outside).2
    after.1.lookUp = (after.1.entries after.2 fun ref => outside ref || m.holds ref).1 := by
  intro after
  obtain ⟨isPending, hresidency⟩ := m.refresh_residency s outside
  obtain ⟨device, journal, hscene⟩ := m.refresh_scene s outside
  have hentries : ∀ held, after.1.entries after.2 held = m.entries s held := by
    intro held
    rw [show after.1 = _ from hresidency]
    refine Eq.trans (entries_of_buckets ?_ held)
      (entries_congr rfl rfl rfl rfl fun a _ => ⟨rfl, fun _ _ => rfl, fun _ _ => rfl⟩)
    rw [show after.2 = _ from hscene]
  rw [hentries]
  exact m.lookUp_refresh s outside

/-- Bringing the look-up entries up to date leaves the window alone. -/
theorem renew_window
    (m : Residency) (s : Scene) (outside : BucketRef → Bool) :
    let after := (m.renew s outside).2
    after.1.anchor = m.anchor ∧ after.1.HasEntriesOf m after.2 := by
  intro after
  by_cases hstale : m.isStale = true
  · have hafter : after = (m.refresh s outside).2 := by
      simp only [after, renew, if_pos hstale]
    rw [hafter]
    obtain ⟨isPending, hresidency⟩ := m.refresh_residency s outside
    refine ⟨by rw [hresidency], .inr ⟨_, m.lookUp_refresh_self s outside⟩⟩
  · have hafter : after = if m.isUploadPending then (m.upload s).2 else (m, s) := by
      simp only [after, renew, if_neg hstale]
      split <;> rfl
    rw [hafter]
    split
    · obtain ⟨isPending, hresidency⟩ := m.upload_residency s
      rw [hresidency]
      exact ⟨rfl, .inl rfl⟩
    · exact ⟨rfl, .inl rfl⟩

/-- A frame leaves the window alone. -/
theorem tick_window
    (m : Residency) (s : Scene) (outside : BucketRef → Bool) (allowance : Allowance) :
    let after := (m.tick s outside allowance).2
    after.1.anchor = m.anchor ∧ after.1.HasEntriesOf m after.2 := by
  intro after
  let worked := (m.readNotices s).1.work (m.readNotices s).2 allowance
  have hmoves := (moves_readNotices false m s .blank).trans
    (moves_work false _ _ _ allowance)
  have hanchor : worked.2.1.anchor = m.anchor := Moves.anchor_eq hmoves
  have hlookUp : worked.2.1.lookUp = m.lookUp := (Moves.retains hmoves).lookUp
  rcases tick_cases m s outside allowance with ⟨fault, _, htick⟩ | ⟨count, _, htick⟩
  · have hafter : after = worked.2 := by
      rw [show after = (m.tick s outside allowance).2 from rfl, htick]
    rw [hafter]
    exact ⟨hanchor, .inl hlookUp⟩
  · rw [show after = _ from htick]
    obtain ⟨haimed, hentries⟩ := worked.2.1.renew_window worked.2.2 outside
    refine ⟨haimed.trans hanchor, ?_⟩
    rcases hentries with hkept | hmade
    · exact .inl (hkept.trans hlookUp)
    · exact .inr hmade

/-- Entries made for active buckets with cells of their own could have been made in any order. -/
theorem HasEntriesOf.of_perm
    (h : m'.HasEntriesOf m s')
    (hids : (m'.active.map (·.id)).Nodup)
    (hcells : m'.HasOwnCells s') :
    m'.lookUp = m.lookUp ∨ ∃ held, ∀ order : List ActiveBucket, order.Perm m'.active →
      m'.lookUp = ({ m' with active := order }.entries s' held).1 := by
  refine h.imp_right ?_
  rintro ⟨held, hmade⟩
  refine ⟨held, fun order horder => ?_⟩
  rw [entries_of_perm hids hcells horder]
  exact hmade

/-- Where buckets have cells of their own, a refresh writes the same in any order. -/
theorem lookUp_refresh_of_perm
    (hids : (m.active.map (·.id)).Nodup)
    (hcells : m.HasOwnCells s)
    (horder : order.Perm m.active)
    (outside : BucketRef → Bool) :
    ({ m with active := order }.refresh s outside).2.1.lookUp =
      (m.refresh s outside).2.1.lookUp := by
  have hheld : { m with active := order }.holds = m.holds := by
    funext ref
    exact horder.any_eq
  rw [lookUp_refresh, lookUp_refresh, hheld, entries_of_perm hids hcells horder]

/-- Whether all active buckets are of the zoom step of the window, or one coarser. -/
def IsLevel (m : Residency) (s : Scene) : Prop :=
  ∀ a ∈ m.active, (s.bucket a.bucket).address.zoomStep = m.anchor.zoomStep ∨
    (s.bucket a.bucket).address.zoomStep = m.anchor.zoomStep + 1

/-- Where the window stays and no bucket becomes active, nothing new is claimed. -/
theorem IsLevel.of_extends
    (h : m.IsLevel s)
    (hknown : ∀ a ∈ m.active, Knows s a)
    (hanchor : m'.anchor = m.anchor)
    (hactive : ∀ a ∈ m'.active, a ∈ m.active)
    (hextends : Scene.Extends s s') :
    m'.IsLevel s' := by
  intro a ha
  rw [hanchor, (hextends.same a.bucket (hknown a (hactive a ha)).1).address]
  exact h a (hactive a ha)

end Residency

end Windows

namespace Session

section Levels

open Residency

variable {x : Session}

/-- Active buckets of one zoom step lie in different cells. -/
theorem Orderly.hasOwnCells
    (h : x.Orderly)
    (hlevel : x.viewer.residency.IsLevel x.scene) :
    x.viewer.residency.HasOwnCells x.scene := by
  intro a ha b hb hx hy hz
  obtain ⟨hactive, hfine⟩ := mem_shown.mp ha
  obtain ⟨hactive', hfine'⟩ := mem_shown.mp hb
  have hzoom : (x.scene.bucket a.bucket).address.zoomStep =
      (x.scene.bucket b.bucket).address.zoomStep := by
    have := hlevel a hactive
    have := hlevel b hactive'
    omega
  have haddress : (x.scene.bucket a.bucket).address = (x.scene.bucket b.bucket).address :=
    Address.mk.injEq .. ▸ ⟨hx, hy, hz, hzoom⟩
  have hsame : b.bucket = a.bucket :=
    h.stocked.eq_of_lives (h.lives hactive) (haddress ▸ h.lives hactive')
  refine h.tidy.eq_of_id hactive hactive' ?_
  rw [← (h.heedful.known a hactive).2, ← (h.heedful.known b hactive').2, hsame]

/-- The buckets that an update makes active are picked for the zoom step of its window. -/
theorem Orderly.isLevel_update
    (h : x.Orderly)
    (hlevel : x.viewer.residency.IsLevel x.scene)
    (outside : BucketRef → Bool) (camera : Camera) :
    let after := x.step (.update outside camera)
    after.viewer.residency.IsLevel after.scene ∧
      after.viewer.residency.HasEntriesOf x.viewer.residency after.scene := by
  intro after
  rcases step_update_cases h outside camera with hsame |
    ⟨addresses, refs, v, s, journal, hview, hobtains, held, anchor, active, later, haimed, hafter⟩
  · rw [show after = x from hsame]
    exact ⟨hlevel, .inl rfl⟩
  · have hheedful : Heedful ⟨x.viewer.residency, s, .blank⟩ :=
      (h.heedful.of_journal journal).of_adds hobtains.adds
    have hfits : refs.length ≤ x.viewer.residency.capacity := by
      rw [← hobtains.lives.length_eq]
      exact FlightView.length_addresses_le hview
    obtain ⟨_, _, halike, ⟨m', s', hactivate, hanchor, _⟩, hactive⟩ :=
      activate_of_fitting hheedful h.tidy hobtains.stocked.hasUniqueIds hobtains.lt_size hfits
        held anchor
    rw [hactivate] at halike hactive
    rw [show after = _ from hafter, hactivate]
    obtain ⟨isPending, hresidency⟩ := m'.refresh_residency s' held
    have hwindow : (m'.refresh s' held).2.1.anchor = anchor := by
      rw [hresidency]
      exact hanchor
    refine ⟨?_, .inr ⟨fun ref => held ref || m'.holds ref, ?_⟩⟩
    · intro a ha
      obtain ⟨b, hb, hlives⟩ := hobtains.exists_lives (hactive a ha).1
      have haddress : ((m'.refresh s' held).2.2.bucket a.bucket).address = b :=
        (halike.same a.bucket).address.trans hlives.address
      have hpicked := FlightView.zoomStep_of_mem_addresses hview hb
      rw [← haimed, ← haddress] at hpicked
      rw [← hwindow] at hpicked
      exact hpicked
    · have hnoted : ∀ (m : Residency) (s : Scene) (others : BucketRef → Bool),
          m.entries { s with journal := later } others = m.entries s others := by
        intro m s others
        refine entries_of_buckets ?_ others
        rfl
      rw [hnoted]
      exact m'.lookUp_refresh_self s' held

/-- A call that is no update moves the window nowhere and makes no bucket active. -/
theorem Orderly.isLevel_of_extends
    {v : Viewer} {s : Scene} {ledger : Ledger}
    (h : x.Orderly)
    (hlevel : x.viewer.residency.IsLevel x.scene)
    (hresidency : v.residency = x.viewer.residency)
    (hextends : Scene.Extends x.scene s) :
    let after : Session := ⟨v, s, ledger⟩
    after.viewer.residency.IsLevel after.scene ∧
      after.viewer.residency.HasEntriesOf x.viewer.residency after.scene := by
  dsimp only
  rw [hresidency]
  exact ⟨hlevel.of_extends h.heedful.known rfl (fun _ ha => ha) hextends, .inl rfl⟩

theorem Orderly.isLevel_step
    (h : x.Orderly)
    (hlevel : x.viewer.residency.IsLevel x.scene)
    (call : Call) :
    let after := x.step call
    after.viewer.residency.IsLevel after.scene ∧
      after.viewer.residency.HasEntriesOf x.viewer.residency after.scene := by
  intro after
  cases call with
  | update outside camera => exact h.isLevel_update hlevel outside camera
  | tick outside allowance =>
      obtain ⟨held, hafter⟩ := x.exists_tick_eq outside allowance
      obtain ⟨hanchor, hentries⟩ := x.viewer.residency.tick_window x.scene held allowance
      have hperforms := performs_tick ⟨x.viewer.residency, x.scene, .blank⟩ held allowance
      rw [show after = _ from hafter]
      refine ⟨hlevel.of_extends h.heedful.known hanchor ?_ hperforms.alike.extends, hentries⟩
      intro a ha
      rw [active_tick] at ha
      exact mem_active_of_mem_readNotices ha
  | setUp factory bytes =>
      obtain ⟨device, journal, hscene⟩ := x.viewer.residency.setUp_scene x.scene factory bytes
      have hextends :
          Scene.Extends x.scene (x.viewer.residency.setUp x.scene factory bytes).2.2 := by
        rw [hscene]
        exact Scene.extends_of_buckets rfl
      rcases x.viewer.residency.setUp_cases x.scene factory bytes with hsame | ⟨_, _, hnew⟩
      · exact h.isLevel_of_extends hlevel hsame hextends
      · have hafter : after.viewer.residency = _ := hnew
        refine ⟨?_, .inl (by rw [hafter])⟩
        rw [hafter]
        exact hlevel.of_extends h.heedful.known rfl (fun _ ha => ha) hextends
  | take count =>
      obtain ⟨taken, _, hafter⟩ := exists_takeFront_eq h count
      rw [show after = _ from hafter]
      refine h.isLevel_of_extends hlevel rfl ?_
      refine h.stocked.pullAll_induction (motive := Scene.Extends x.scene) ?_ (.refl _) _
      exact fun s ref _ hs => hs.trans (Scene.extends_occur s (.deed ref .pull))
  | receive a payload =>
      cases hfind : x.viewer.pool.find? a with
      | none =>
          rw [show after = _ from step_receive_of_find?_eq_none hfind payload]
          exact ⟨hlevel, .inl rfl⟩
      | some ref =>
          rw [show after = _ from step_receive_of_find? hfind payload]
          exact h.isLevel_of_extends hlevel rfl
            (Scene.extends_occur x.scene (.deed ref (.receive payload)))
  | collectGarbage outside =>
      obtain ⟨refs, p, journal, hafter, _, _⟩ := exists_collectGarbage_eq h outside
      rw [show after = _ from hafter]
      exact h.isLevel_of_extends hlevel rfl
        ((Scene.extends_collectAll x.scene refs).trans (Scene.extends_of_buckets rfl))
  | addSwitch isOn => exact h.isLevel_of_extends hlevel rfl (Scene.extends_of_buckets rfl)
  | setSwitch switch isOn => exact h.isLevel_of_extends hlevel rfl (Scene.extends_of_buckets rfl)
  | addTape => exact h.isLevel_of_extends hlevel rfl (Scene.extends_of_buckets rfl)
  | setFuses tape updateFuse createFuse =>
      exact h.isLevel_of_extends hlevel rfl (Scene.extends_of_buckets rfl)

/-- In every session the active buckets fit the zoom step of the window. -/
theorem Reached.isLevel
    {allowed : Session → Call → Prop}
    (h : Reached allowed x) :
    x.viewer.residency.IsLevel x.scene := by
  induction h with
  | create _ hcreate =>
      obtain ⟨m, hresidency, rfl⟩ := Viewer.create_eq_ok hcreate
      obtain ⟨_, _, _, _, _, rfl⟩ := Residency.create_eq_ok hresidency
      intro a ha
      cases ha
  | step hbefore _ ih => exact (hbefore.orderly.isLevel_step ih _).1

/--
In every session each active bucket is of the zoom step of the window or one coarser, and no
two of those that are not coarser lie in the same cell, so that no two of them have the same
look-up entry.  Therefore a rebuild writes the same entries in whatever order it goes through
the active buckets; and so do the rebuilds in the middle of calls: the entries that a call
leaves are those it found, or those that a rebuild makes in any order.
-/
theorem cells_unambiguous
    (h : Reached (fun _ _ => True) x) :
    let m := x.viewer.residency
    (∀ a ∈ m.active, (x.scene.bucket a.bucket).address.zoomStep = m.anchor.zoomStep ∨
      (x.scene.bucket a.bucket).address.zoomStep = m.anchor.zoomStep + 1) ∧
    m.HasOwnCells x.scene ∧
    (∀ a ∈ m.shown x.scene, ∀ b ∈ m.shown x.scene, ∀ i,
      m.lookUpIndex? (x.scene.bucket a.bucket).address = some i →
      m.lookUpIndex? (x.scene.bucket b.bucket).address = some i → a = b) ∧
    (∀ (order : List ActiveBucket) (outside : BucketRef → Bool), order.Perm m.active →
      ({ m with active := order }.refresh x.scene outside).2.1.lookUp =
        (m.refresh x.scene outside).2.1.lookUp) ∧
    ∀ call,
      let after := x.step call
      let m' := after.viewer.residency
      m'.lookUp = m.lookUp ∨ ∃ held, ∀ order : List ActiveBucket, order.Perm m'.active →
        m'.lookUp = ({ m' with active := order }.entries after.scene held).1 := by
  intro m
  have horderly := h.orderly
  have hcells := horderly.hasOwnCells h.isLevel
  refine ⟨h.isLevel, hcells, ?_, ?_, ?_⟩
  · intro a ha b hb i hindex hindex'
    obtain ⟨hx, hy, hz⟩ := LookUp.index?_injective hindex hindex'
    exact hcells a ha b hb hx hy hz
  · intro order outside horder
    exact lookUp_refresh_of_perm horderly.tidy.ids hcells horder outside
  · intro call after m'
    have hstep : Reached (fun _ _ => True) after := h.step trivial
    have hafter := hstep.orderly
    exact (horderly.isLevel_step h.isLevel call).2.of_perm hafter.tidy.ids
      (hafter.hasOwnCells hstep.isLevel)

/-- Active buckets of a viewer that has looked around once. -/
theorem cells_unambiguous_of_one_update :
    let nobody : BucketRef → Bool := fun _ => false
    let x := [.addSwitch true, .setUp (.rasters 0) 1, .update nobody .start, .take none,
      .receive .origin (zeroBytes bucketVoxels),
      .tick nobody .unlimited].foldl Session.step .smallest
    let m := x.viewer.residency
    Reached (fun _ _ => True) x ∧ m.HasOwnCells x.scene ∧
      ({ m with active := m.active.reverse }.refresh x.scene nobody).2.1.lookUp =
        (m.refresh x.scene nobody).2.1.lookUp := by
  intro nobody x m
  have hreached : Reached (fun _ _ => True) x :=
    (reached_smallest _).run ⟨trivial, trivial, trivial, trivial, trivial, trivial, trivial⟩
  clear_value x
  obtain ⟨_, hcells, _, hrebuild, _⟩ := cells_unambiguous hreached
  exact ⟨hreached, hcells, hrebuild _ nobody (List.reverse_perm _)⟩

end Levels

end Session

end VoxelCache
