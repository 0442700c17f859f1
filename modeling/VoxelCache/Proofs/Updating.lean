import VoxelCache.Viewer
import VoxelCache.Proofs.Activating
import VoxelCache.Proofs.Stock

/-!
# Updating a viewer

An update obtains the buckets in view, as many as there are slots, and requests those that
nobody has asked for yet.  Once the camera is accepted nothing of this can fail, so the
buckets in view become active and none of them is forgotten.

**Results.**
* `exists_requestAll`: all buckets in view are obtained, and those that are unrequested wait.
* `update_of_inView`: an update obtains, requests and activates the buckets in view.
* `activate_of_fitting`: buckets that fit into the slots are all that is active afterwards.
-/

namespace VoxelCache

section Requesting

namespace Viewer

/-- What obtaining and requesting the buckets of some addresses does. -/
structure Obtains
    (addresses : List Address) (refs : List BucketRef) (v v' : Viewer) (s s' : Scene) : Prop where
  stocked : Stocked v'.pool s'
  adds : Scene.Adds s s'
  pyramid : v'.pool.pyramid = v.pool.pyramid
  others : v' = { v with pool := v'.pool, requests := v'.requests }
  lives : List.Forall₂ s'.Lives addresses refs
  urgent : ∀ r ∈ v'.requests.waiting, r.priority ≤ FlightView.priority
  /-- New requests go to the end of the queue, in order. -/
  queue : ∃ new, v'.requests.addresses = v.requests.addresses ++ new ∧ new.Sublist addresses
  distinct : v.requests.addresses.Nodup → v'.requests.addresses.Nodup
  waits : ∀ a ∈ addresses, ∀ ref, s'.Lives a ref → (s'.bucket ref).state = .unrequested →
    a ∈ v'.requests.addresses

variable {v v' v'' : Viewer} {s s' s'' : Scene} {a : Address} {ref : BucketRef}
  {addresses : List Address} {refs : List BucketRef}

/-- What is obtained lives at one of the addresses. -/
theorem Obtains.exists_lives
    (h : Obtains addresses refs v v' s s')
    (href : ref ∈ refs) :
    ∃ a ∈ addresses, s'.Lives a ref := by
  have hlives := h.lives
  clear h
  induction hlives with
  | nil => cases href
  | @cons a first _ _ hfirst _ ih =>
      rcases List.mem_cons.mp href with rfl | href
      · exact ⟨a, List.mem_cons_self, hfirst⟩
      · obtain ⟨b, hb, hlives⟩ := ih href
        exact ⟨b, List.mem_cons_of_mem a hb, hlives⟩

/-- Something is obtained at each of the addresses. -/
theorem Obtains.exists_ref
    (h : Obtains addresses refs v v' s s')
    (ha : a ∈ addresses) :
    ∃ ref ∈ refs, s'.Lives a ref := by
  have hlives := h.lives
  clear h
  induction hlives with
  | nil => cases ha
  | @cons _ first _ rest hfirst _ ih =>
      rcases List.mem_cons.mp ha with rfl | ha
      · exact ⟨first, List.mem_cons_self, hfirst⟩
      · obtain ⟨ref, href, hlives⟩ := ih ha
        exact ⟨ref, List.mem_cons_of_mem first href, hlives⟩

/-- What the pool has at the addresses is what is obtained. -/
theorem Obtains.mem_iff
    (h : Obtains addresses refs v v' s s') :
    ref ∈ refs ↔ ∃ a ∈ addresses, v'.pool.find? a = some ref := by
  constructor
  · intro href
    obtain ⟨a, ha, hlives⟩ := h.exists_lives href
    exact ⟨a, ha, h.stocked.find?_iff.mpr hlives⟩
  · rintro ⟨a, ha, hfind⟩
    obtain ⟨other, hother, hlives⟩ := h.exists_ref ha
    rwa [h.stocked.eq_of_lives hlives (h.stocked.find?_iff.mp hfind)]

theorem Obtains.lt_size
    (h : Obtains addresses refs v v' s s') :
    ∀ ref ∈ refs, ref < s'.buckets.size := by
  intro ref href
  obtain ⟨_, _, hlives⟩ := h.exists_lives href
  exact hlives.lt

theorem Obtains.cons
    (h : Obtains [a] [ref] v v' s s')
    (h' : Obtains addresses refs v' v'' s' s'') :
    Obtains (a :: addresses) (ref :: refs) v v'' s s'' := by
  obtain ⟨new, hnew, hfirst⟩ := h.queue
  obtain ⟨later, hlater, hrest⟩ := h'.queue
  have hlives : s'.Lives a ref := (List.forall₂_cons.mp h.lives).1
  constructor
  · exact h'.stocked
  · exact h.adds.trans h'.adds
  · exact h'.pyramid.trans h.pyramid
  · rw [h'.others, h.others]
  · exact .cons (h'.adds.lives hlives) h'.lives
  · exact h'.urgent
  · refine ⟨new ++ later, ?_, hfirst.append hrest⟩
    rw [hlater, hnew, List.append_assoc]
  · exact fun hdistinct => h'.distinct (h.distinct hdistinct)
  · intro b hb other hother hstate
    rcases List.mem_cons.mp hb with rfl | hb
    · obtain rfl : other = ref := h'.stocked.eq_of_lives (h'.adds.lives hlives) hother
      rw [h'.adds.bucket hlives.lt] at hstate
      rw [hlater]
      exact List.mem_append_left _ (h.waits b List.mem_cons_self other hlives hstate)
    · exact h'.waits b hb other hother hstate

/-- The bucket of an address of the pyramid is obtained, and it waits if it is unrequested. -/
theorem exists_request
    (h : Stocked v.pool s)
    (hzoom : a.zoomStep < v.pool.pyramid.length)
    (hurgent : ∀ r ∈ v.requests.waiting, r.priority ≤ FlightView.priority) :
    ∃ ref v' s', v.request s a = (.ok ref, v', s') ∧ Obtains [a] [ref] v v' s s' := by
  obtain ⟨ref, p, s', hobtain, hstocked, hadds, hlives, hpyramid⟩ := h.obtain hzoom
  let enqueued := (v.requests.enqueue a FlightView.priority).2
  have haddresses : enqueued.addresses =
      if a ∈ v.requests.addresses then v.requests.addresses else v.requests.addresses ++ [a] :=
    Requests.addresses_enqueue hurgent
  by_cases hstate : (s'.bucket ref).state = .unrequested
  · have hrequest : v.request s a =
        (.ok ref, { v with pool := p, requests := enqueued }, s') := by
      simp only [request, hobtain, hstate, if_true]
      rfl
    refine ⟨ref, _, s', hrequest, hstocked, hadds, hpyramid, rfl, .cons hlives .nil, ?_, ?_, ?_, ?_⟩
    · intro r hr
      exact Requests.priority_le_of_mem_enqueue hurgent hr
    · dsimp only
      rw [haddresses]
      split
      · exact ⟨[], (List.append_nil _).symm, List.nil_sublist _⟩
      · exact ⟨[a], rfl, .refl _⟩
    · intro hdistinct
      dsimp only
      rw [haddresses]
      split
      · exact hdistinct
      · rename_i hnew
        exact List.nodup_append.mpr ⟨hdistinct, by simp, by
          rintro b hb c hc rfl
          rw [List.mem_singleton.mp hc] at hb
          exact hnew hb⟩
    · intro b hb _ _ _
      dsimp only
      rw [List.mem_singleton.mp hb, haddresses]
      split
      · assumption
      · simp
  · have hrequest : v.request s a = (.ok ref, { v with pool := p }, s') := by
      simp only [request, hobtain, hstate, if_false]
    refine ⟨ref, _, s', hrequest, hstocked, hadds, hpyramid, rfl, .cons hlives .nil, hurgent,
      ⟨[], (List.append_nil _).symm, List.nil_sublist _⟩, id, ?_⟩
    intro b hb other hother hunrequested
    rw [List.mem_singleton.mp hb] at hother
    obtain rfl : other = ref := hstocked.eq_of_lives hlives hother
    exact absurd hunrequested hstate

/-- All buckets are obtained, and those that nobody has asked for yet wait. -/
theorem exists_requestAll
    (h : Stocked v.pool s)
    (hzoom : ∀ a ∈ addresses, a.zoomStep < v.pool.pyramid.length)
    (hurgent : ∀ r ∈ v.requests.waiting, r.priority ≤ FlightView.priority) :
    ∃ refs v' s', v.requestAll s addresses = (.ok refs, v', s') ∧
      Obtains addresses refs v v' s s' := by
  induction addresses generalizing v s with
  | nil =>
      exact ⟨[], v, s, rfl, h, .refl, rfl, rfl, .nil, hurgent,
        ⟨[], (List.append_nil _).symm, .slnil⟩, id, by simp⟩
  | cons a rest ih =>
      obtain ⟨ref, v', s', hrequest, hfirst⟩ :=
        exists_request h (hzoom a List.mem_cons_self) hurgent
      obtain ⟨refs, v'', s'', hrequestAll, hrest⟩ := ih hfirst.stocked
        (by
          rw [hfirst.pyramid]
          exact fun b hb => hzoom b (List.mem_cons_of_mem a hb))
        hfirst.urgent
      refine ⟨ref :: refs, v'', s'', ?_, hfirst.cons hrest⟩
      simp only [requestAll, hrequest, hrequestAll]

end Viewer

end Requesting

section Activating

open Residency

variable {m : Residency} {s s' : Scene} {c : Chronicle} {refs : List BucketRef}

/-- The creation of buckets leaves notices and subscriptions alone. -/
theorem Heedful.of_adds
    (h : Heedful ⟨m, s, c⟩)
    (hadds : Scene.Adds s s') :
    Heedful ⟨m, s', c⟩ := by
  induction hadds with
  | refl => exact h
  | tail _ hlast ih =>
      obtain ⟨id, address, coarser, rfl⟩ := hlast
      exact ih.of_occurrence (o := .create id address coarser) trivial trivial

theorem Heedful.of_journal
    (h : Heedful ⟨m, s, c⟩)
    (journal : Journal) :
    Heedful ⟨m, { s with journal := journal }, c⟩ :=
  ⟨⟨h.isOpen, h.known, h.watched⟩, h.warned, h.truthful⟩

/-- What the residency hears does not depend on what is recorded about it. -/
theorem Heedful.of_chronicle
    {c' : Chronicle}
    (h : Heedful ⟨m, s, c⟩) :
    Heedful ⟨m, s, c'⟩ :=
  ⟨⟨h.isOpen, h.known, h.watched⟩, h.warned, h.truthful⟩

/-- Buckets that fit into the slots are all that is active afterwards. -/
theorem activate_of_fitting
    (h : Heedful ⟨m, s, c⟩)
    (htidy : Tidy m)
    (hids : s.HasUniqueIds)
    (hexist : ∀ ref ∈ refs, ref < s.buckets.size)
    (hfits : refs.length ≤ m.capacity)
    (outside : BucketRef → Bool) (anchor : Address) :
    let after := m.activate s outside refs anchor
    Heedful ⟨after.2.1, after.2.2, c⟩ ∧ Tidy after.2.1 ∧ Scene.Alike s after.2.2 ∧
      (∃ (m' : Residency) (s' : Scene), after = m'.refresh s' outside ∧ m'.anchor = anchor ∧
        (m'.active.map (·.bucket)).Perm (wanted s refs)) ∧
      ∀ a ∈ after.2.1.active, a.bucket ∈ refs ∧ (s.bucket a.bucket).isCollected = false := by
  intro after
  have hperforms : Performs (.activate outside refs anchor) ⟨m, s, c⟩ _ :=
    performs_activate anchor rfl htidy hexist
  have hwanted : (wanted s refs).length ≤ m.capacity := by
    have hsubset : wanted s refs ⊆ refs := fun ref href => (mem_wanted.mp href).1
    exact Nat.le_trans (List.subperm_of_subset (nodup_wanted hids hexist) hsubset).length_le hfits
  obtain ⟨m', s', hactivate, hreplaces, _⟩ :=
    activate_of_length_le h htidy hids hexist hwanted outside anchor
  refine ⟨(hperforms.heedful h).of_chronicle, hperforms.tidy htidy, hperforms.alike,
    ⟨m', s', hactivate, hreplaces.anchor, hreplaces.all⟩, ?_⟩
  intro a ha
  have hactive : after.2.1.active = m'.active := by
    rw [show after = m'.refresh s' outside from hactivate, active_refresh]
  rw [hactive] at ha
  exact mem_wanted.mp (hreplaces.all.mem_iff.mp (List.mem_map_of_mem ha))

end Activating

section Updating

namespace Viewer

variable {v v' : Viewer} {s s' : Scene} {camera : Camera} {addresses : List Address}

/-- The addresses of the buckets in view of a camera, as many as there are slots. -/
def inView (v : Viewer) (camera : Camera) : Except Fault (List Address) :=
  FlightView.addresses v.pool.pyramid v.settings.capRadius camera.query
    (camera.requestZoomStep v.pool.pyramid.length) (some v.residency.capacity)

/-- A camera that is not accepted changes nothing. -/
theorem update_of_inView_eq_error
    {fault : Fault}
    (h : v.inView camera = .error fault)
    (outside : BucketRef → Bool) :
    v.update s outside camera = (.error fault, v, s) := by
  rw [inView] at h
  simp only [update, h]

/-- An update obtains, requests and activates the buckets in view. -/
theorem update_of_inView
    (hstocked : Stocked v.pool s)
    (h : v.inView camera = .ok addresses)
    (outside : BucketRef → Bool) :
    ∃ journal refs v' s' anchor,
      Obtains addresses refs { v with requests := .empty } v' { s with journal := journal } s' ∧
      anchor.zoomStep = camera.requestZoomStep v.pool.pyramid.length ∧
      v.update s outside camera = v'.activate s' outside refs anchor := by
  obtain ⟨hzoom, hall⟩ := FlightView.zoomStep_lt_of_mem_addresses h
  let report := FlightView.report addresses (camera.requestZoomStep v.pool.pyramid.length)
  have hnoted : Stocked v.pool (s.log report.level report.text) :=
    hstocked.of_alike (Scene.alike_of_buckets rfl)
  obtain ⟨refs, v', s', hrequestAll, hobtains⟩ := exists_requestAll
    (v := { v with requests := .empty }) hnoted hall (by simp [Requests.empty])
  have hanchor : ∃ anchor, v'.anchorAt camera.position
      (camera.requestZoomStep v.pool.pyramid.length) = .ok anchor ∧
      anchor.zoomStep = camera.requestZoomStep v.pool.pyramid.length := by
    have hresolution := Pyramid.resolution_eq_ok_iff.mpr (List.getElem?_eq_getElem hzoom)
    have hpyramid : v'.pool.pyramid = v.pool.pyramid := hobtains.pyramid
    rw [anchorAt, hpyramid, Pyramid.addressAt, Pyramid.bucketPositionAt, hresolution]
    exact ⟨_, rfl, rfl⟩
  obtain ⟨anchor, hanchor, hlevel⟩ := hanchor
  refine ⟨_, refs, v', s', anchor, hobtains, hlevel, ?_⟩
  rw [inView] at h
  simp only [update, h]
  have hrequested : requestAll { v with requests := .empty } (s.log report.level report.text)
      addresses = (.ok refs, v', s') := hrequestAll
  simp only [report] at hrequested
  simp only [hrequested, hanchor]

/--
A viewer answers what its residency answers.  Activation leaves pool and queue alone, and the
viewer holds what it has made active unless that fails.
-/
theorem exists_activate_eq
    (v : Viewer) (s : Scene) (outside : BucketRef → Bool) (refs : List BucketRef)
    (anchor : Address) :
    ∃ held active journal,
      let after := v.residency.activate s held refs anchor
      (active = refs ∨ active = v.active ∧ after.1 ≠ .ok ()) ∧
      v.activate s outside refs anchor =
        (after.1, { v with residency := after.2.1, active := active },
          { after.2.2 with journal := journal }) := by
  let held := fun ref =>
    outside ref || v.pool.holds ref || v.active.contains ref || refs.contains ref
  rcases hactivate : v.residency.activate s held refs anchor with ⟨outcome, m, s'⟩
  cases outcome with
  | error fault =>
      refine ⟨held, v.active, s'.journal, .inr ⟨rfl, ?_⟩, ?_⟩
      · simp [hactivate]
      · simp only [activate, held] at hactivate ⊢
        rw [hactivate]
  | ok _ =>
      refine ⟨held, refs, (v.activate s outside refs anchor).2.2.journal, .inl rfl, ?_⟩
      simp only [activate, held] at hactivate ⊢
      rw [hactivate]
      rfl

end Viewer

end Updating

end VoxelCache
