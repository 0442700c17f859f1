import VoxelCache.Proofs.Accounts
import VoxelCache.Proofs.HandingOut
import VoxelCache.Proofs.Updating

/-!
# Sessions of a viewer

A **session** is a viewer that has its scene for itself, together with a ledger of what its
loader was asked for and answered.  A run creates the viewer and lets calls follow in any
order; in between switches are turned and devices are told to fail.  At each call others may
hold buckets, but they do nothing to them.

**Invariants.**
* `Viewer.InOrder`: pool and residency are in order, and active buckets stay in the pool.
* `Session.Orderly`: moreover every active bucket that is unrequested waits to be loaded, and
  the ledger is in accordance with the scene.

**Results.**
* `Orderly.update`, `Orderly.take`, `Orderly.receive`, `Orderly.tick`,
  `Orderly.collectGarbage`: every call keeps sessions orderly.
* `Reached.orderly`: they are orderly in every run.
-/

namespace VoxelCache

section Order

open Residency

/-- Whether pool and residency are in order, and the pool has the active buckets. -/
structure Viewer.InOrder (v : Viewer) (s : Scene) : Prop where
  stocked : Stocked v.pool s
  tidy : Tidy v.residency
  heedful : Heedful ⟨v.residency, s, .blank⟩
  present : ∀ a ∈ v.residency.active, (s.bucket a.bucket).isCollected = false

namespace Viewer

variable {v v' : Viewer} {s s' : Scene} {a : ActiveBucket} {ref : BucketRef}

theorem InOrder.lives
    (h : v.InOrder s)
    (ha : a ∈ v.residency.active) :
    s.Lives (s.bucket a.bucket).address a.bucket :=
  ⟨(h.heedful.known a ha).1, rfl, h.present a ha⟩

/-- The case of a call that leaves the pool alone and makes no bucket active. -/
theorem InOrder.of_alike
    (h : v.InOrder s)
    (hpool : v'.pool = v.pool)
    (halike : Scene.Alike s s')
    (htidy : Tidy v'.residency)
    (hheedful : Heedful ⟨v'.residency, s', .blank⟩)
    (hactive : ∀ a ∈ v'.residency.active, a ∈ v.residency.active) :
    v'.InOrder s' where
  stocked := by
    rw [hpool]
    exact h.stocked.of_alike halike
  tidy := htidy
  heedful := hheedful
  present a ha := (halike.isCollected a.bucket).trans (h.present a (hactive a ha))

/-- The queue has no part in the order. -/
theorem InOrder.skip
    (h : v.InOrder s)
    (taken : Nat) :
    (v.skip taken).InOrder s :=
  ⟨h.stocked, h.tidy, h.heedful, h.present⟩

theorem InOrder.pull
    (h : v.InOrder s)
    (hlt : ref < s.buckets.size) :
    v.InOrder (s.deed ref .pull) where
  stocked := h.stocked.pull hlt
  tidy := h.tidy
  heedful := h.heedful.of_occurrence (o := .deed ref .pull) hlt trivial
  present a ha := by
    by_cases hsame : a.bucket = ref
    · rw [hsame, Scene.bucket_deed_self .pull hlt, Deed.perform, Bucket.isCollected_pull, ← hsame]
      exact h.present a ha
    · rw [Scene.bucket_deed_of_ne .pull hsame]
      exact h.present a ha

theorem InOrder.receive
    (h : v.InOrder s)
    (hlt : ref < s.buckets.size)
    (payload : Payload) :
    v.InOrder (s.deed ref (.receive payload)) where
  stocked := h.stocked.receive hlt payload
  tidy := h.tidy
  heedful := h.heedful.of_occurrence (o := .deed ref (.receive payload)) hlt trivial
  present a ha := by
    by_cases hsame : a.bucket = ref
    · rw [hsame, Scene.bucket_deed_self _ hlt, Deed.perform, Bucket.isCollected_receive, ← hsame]
      exact h.present a ha
    · rw [Scene.bucket_deed_of_ne _ hsame]
      exact h.present a ha

end Viewer

/-- The residency hears of everything that is reclaimed. -/
theorem Heedful.of_collectAll
    {m : Residency} {s : Scene} {c : Chronicle} {refs : List BucketRef}
    (h : Heedful ⟨m, s, c⟩)
    (hlt : ∀ ref ∈ refs, ref < s.buckets.size) :
    Heedful ⟨m, s.collectAll refs, c⟩ := by
  refine Scene.collectAll_induction (motive := fun s => Heedful ⟨m, s, c⟩) ?_ h hlt
  exact fun s ref hexist hs => hs.of_occurrence (o := .deed ref .collect) hexist trivial

end Order

section Sessions

/-- A viewer on its scene, with the ledger of its loader. -/
structure Session where
  viewer : Viewer
  scene : Scene
  ledger : Ledger

/--
A call of a viewer, or a change of the device.  Where it matters, `outside` tells which
buckets others hold at that time.
-/
inductive Call where
  | setUp (factory : Factory) (bytes : Nat)
  | update (outside : BucketRef → Bool) (camera : Camera)
  | take (count : Option Nat)
  | receive (a : Address) (payload : Payload)
  | tick (outside : BucketRef → Bool) (allowance : Residency.Allowance)
  | collectGarbage (outside : BucketRef → Bool)
  | addSwitch (isOn : Bool)
  | setSwitch (switch : Nat) (isOn : Bool)
  | addTape
  | setFuses (tape : Nat) (updateFuse createFuse : Fuse)

/-- Some addresses with the buckets that the pool has there. -/
def Pool.located (p : Pool) (addresses : List Address) : List (Address × BucketRef) :=
  addresses.filterMap fun a => (p.find? a).map fun ref => (a, ref)

namespace Session

/-- Viewer and scene after a call. -/
def result (x : Session) : Call → Viewer × Scene
  | .setUp factory bytes => (x.viewer.setUp x.scene factory bytes).2
  | .update outside camera => (x.viewer.update x.scene outside camera).2
  | .take count => (x.viewer.take x.scene count).2
  | .receive a payload => (x.viewer, (x.viewer.receive x.scene a payload).2)
  | .tick outside allowance => (x.viewer.tick x.scene outside allowance).2
  | .collectGarbage outside => (x.viewer.collectGarbage x.scene outside).2
  | .addSwitch isOn => (x.viewer, x.scene.occur (.addSwitch isOn))
  | .setSwitch switch isOn => (x.viewer, x.scene.occur (.setSwitch switch isOn))
  | .addTape => (x.viewer, x.scene.occur .addTape)
  | .setFuses tape updateFuse createFuse =>
      (x.viewer, x.scene.occur (.setFuses tape updateFuse createFuse))

/-- The ledger after a call. -/
def record (x : Session) : Call → Ledger
  | .update _ camera =>
      match x.viewer.inView camera with
      | .ok addresses => x.ledger.pick addresses
      | .error _ => x.ledger
  | .take count => x.ledger.hand (x.viewer.pool.located (x.viewer.take x.scene count).1)
  | .receive a _ => x.ledger.deliver (x.viewer.pool.find? a).toList
  | _ => x.ledger

def step (x : Session) (call : Call) : Session :=
  ⟨(x.result call).1, (x.result call).2, x.record call⟩

/-- The sessions that runs lead to: a viewer is created, and allowed calls follow. -/
inductive Reached (allowed : Session → Call → Prop) : Session → Prop
  | create {s₀ s : Scene} {settings : Settings} {pyramid : Pyramid Float} {plan : TexturePlan}
      {v : Viewer} :
      s₀.buckets = #[] →
      Viewer.create s₀ settings pyramid plan = (.ok v, s) →
      Reached allowed ⟨v, s, .blank⟩
  | step {x : Session} {call : Call} :
      Reached allowed x →
      allowed x call →
      Reached allowed (x.step call)

/-- Whether no active bucket is forgotten, and the ledger says the truth. -/
structure Orderly (x : Session) : Prop extends x.viewer.InOrder x.scene where
  /-- Active buckets that nobody has asked for yet wait to be loaded. -/
  waits : ∀ a ∈ x.viewer.residency.active, (x.scene.bucket a.bucket).state = .unrequested →
    (x.scene.bucket a.bucket).address ∈ x.viewer.requests.addresses
  distinct : x.viewer.requests.addresses.Nodup
  picked : x.viewer.requests.addresses.Sublist x.ledger.picked
  accounts : Accounts x.scene x.ledger

variable {x x' : Session} {a : Address} {ref : BucketRef}

/-- The case of a call that leaves pool, queue and ledger alone and makes no bucket active. -/
theorem Orderly.of_alike
    {v : Viewer} {s : Scene}
    (h : x.Orderly)
    (hpool : v.pool = x.viewer.pool)
    (hrequests : v.requests = x.viewer.requests)
    (halike : Scene.Alike x.scene s)
    (htidy : Residency.Tidy v.residency)
    (hheedful : Heedful ⟨v.residency, s, .blank⟩)
    (hactive : ∀ a ∈ v.residency.active, a ∈ x.viewer.residency.active) :
    Orderly ⟨v, s, x.ledger⟩ where
  toInOrder := h.toInOrder.of_alike hpool halike htidy hheedful hactive
  waits a ha hstate := by
    dsimp only at ha hstate ⊢
    rw [halike.state] at hstate
    rw [hrequests, (halike.same a.bucket).address]
    exact h.waits a (hactive a ha) hstate
  distinct := by
    dsimp only
    rw [hrequests]
    exact h.distinct
  picked := by
    dsimp only
    rw [hrequests]
    exact h.picked
  accounts := h.accounts.of_alike halike

/-- New textures have nothing to do with buckets. -/
theorem Orderly.setUp
    (h : x.Orderly)
    (factory : Factory) (bytes : Nat) :
    (x.step (.setUp factory bytes)).Orderly := by
  let after := x.viewer.residency.setUp x.scene factory bytes
  have hheedful : Heedful ⟨after.2.1, after.2.2, .blank⟩ := by
    have hstep := h.heedful.of_setUp factory bytes
    rwa [World.step_setUp] at hstep
  have halike : Scene.Alike x.scene after.2.2 := by
    obtain ⟨device, journal, hscene⟩ := x.viewer.residency.setUp_scene x.scene factory bytes
    rw [show after.2.2 = _ from hscene]
    exact Scene.alike_of_buckets rfl
  have hkept : Residency.Tidy after.2.1 ∧ after.2.1.active = x.viewer.residency.active := by
    rcases x.viewer.residency.setUp_cases x.scene factory bytes with hsame | ⟨_, _, hnew⟩
    · rw [show after.2.1 = _ from hsame]
      exact ⟨h.tidy, rfl⟩
    · rw [show after.2.1 = _ from hnew]
      exact ⟨h.tidy.of_eq rfl rfl rfl rfl, rfl⟩
  exact h.of_alike (v := { x.viewer with residency := after.2.1 }) rfl rfl halike hkept.1 hheedful
    fun a ha => hkept.2 ▸ ha

/-- What happens to the device has nothing to do with buckets. -/
theorem Orderly.of_device
    (h : x.Orderly)
    (device : Device) :
    Orderly ⟨x.viewer, { x.scene with device := device }, x.ledger⟩ :=
  h.of_alike rfl rfl (Scene.alike_of_buckets rfl) h.tidy
    ⟨⟨h.heedful.isOpen, h.heedful.known, h.heedful.watched⟩, h.heedful.warned,
      h.heedful.truthful⟩
    fun _ ha => ha

/-- A frame is one of the residency; what the viewer has counts as held by others. -/
theorem exists_tick_eq
    (x : Session) (outside : BucketRef → Bool) (allowance : Residency.Allowance) :
    ∃ held, x.step (.tick outside allowance) =
      let after := x.viewer.residency.tick x.scene held allowance
      ⟨{ x.viewer with residency := after.2.1 }, after.2.2, x.ledger⟩ :=
  ⟨fun ref => outside ref || x.viewer.pool.holds ref || x.viewer.active.contains ref, rfl⟩

/-- A frame makes no bucket active. -/
theorem Orderly.tick
    (h : x.Orderly)
    (outside : BucketRef → Bool) (allowance : Residency.Allowance) :
    (x.step (.tick outside allowance)).Orderly := by
  obtain ⟨held, hafter⟩ := x.exists_tick_eq outside allowance
  have hperforms := performs_tick ⟨x.viewer.residency, x.scene, .blank⟩ held allowance
  rw [hafter]
  refine h.of_alike rfl rfl hperforms.alike (hperforms.tidy h.tidy)
    (hperforms.heedful h.heedful).of_chronicle ?_
  intro a ha
  rw [x.viewer.residency.active_tick x.scene held allowance] at ha
  exact Residency.mem_active_of_mem_readNotices ha

section Taking

/-- The session after a front of the queue was taken off and handed out. -/
def takeFront (x : Session) (taken : Nat) : Session :=
  ⟨x.viewer.skip taken, x.viewer.pulled x.scene taken,
    x.ledger.hand (x.viewer.pool.located (x.viewer.unrequestedAmong x.scene taken))⟩

theorem takeFront_zero (x : Session) : x.takeFront 0 = x := by
  simp [takeFront, Viewer.skip, Viewer.pulled, Viewer.unrequestedAmong, Pool.pullAll,
    Pool.located, Ledger.hand_nil]

theorem takeFront_add
    (h : x.Orderly)
    (first later : Nat) :
    x.takeFront (first + later) = (x.takeFront first).takeFront later := by
  have hlocated : ∀ before after : List Address,
      x.viewer.pool.located (before ++ after) =
        x.viewer.pool.located before ++ x.viewer.pool.located after := by
    intro before after
    exact List.filterMap_append
  rw [takeFront, takeFront, takeFront, Viewer.skip_skip, ← Viewer.pulled_add,
    Viewer.unrequestedAmong_add h.stocked h.distinct, hlocated, Ledger.hand_hand,
    Viewer.pool_skip]

/-- An address may be dropped if no active bucket that is unrequested lies there. -/
theorem Orderly.skip
    (h : x.Orderly)
    (taken : Nat)
    (hkept : ∀ a ∈ x.viewer.residency.active, (x.scene.bucket a.bucket).state = .unrequested →
      (x.scene.bucket a.bucket).address ∈ x.viewer.requests.addresses.drop taken) :
    Orderly ⟨x.viewer.skip taken, x.scene, x.ledger⟩ where
  toInOrder := h.toInOrder.skip taken
  waits a ha hstate := by
    rw [Viewer.addresses_skip]
    exact hkept a ha hstate
  distinct := by
    rw [Viewer.addresses_skip]
    exact h.distinct.sublist (List.drop_sublist _ _)
  picked := by
    rw [Viewer.addresses_skip]
    exact (List.drop_sublist _ _).trans h.picked
  accounts := h.accounts

/-- A bucket that is pulled need not wait any more. -/
theorem Orderly.pull
    {rest : List Address}
    (h : x.Orderly)
    (hqueue : x.viewer.requests.addresses = a :: rest)
    (hlives : x.scene.Lives a ref)
    (hstate : (x.scene.bucket ref).state = .unrequested) :
    Orderly ⟨x.viewer.skip 1, x.scene.deed ref .pull, x.ledger.hand [(a, ref)]⟩ := by
  have hskip : (x.viewer.skip 1).requests.addresses = rest := by
    rw [Viewer.addresses_skip, hqueue]
    rfl
  have hself : ((x.scene.deed ref .pull).bucket ref).state = .loading := by
    rw [Scene.bucket_deed_self .pull hlives.lt]
    simp [Deed.perform, Bucket.pull, hstate, hlives.uncollected]
  refine ⟨(h.toInOrder.pull hlives.lt).skip 1, ?_, ?_, ?_, h.accounts.pull hlives hstate⟩
  · intro b hb hunrequested
    dsimp only at hb hunrequested ⊢
    have hother : b.bucket ≠ ref := by
      intro hsame
      rw [hsame, hself] at hunrequested
      cases hunrequested
    rw [Scene.bucket_deed_of_ne _ hother] at hunrequested ⊢
    have hwaits := h.waits b hb hunrequested
    rw [hqueue] at hwaits
    rw [hskip]
    -- No two buckets live at one address, so another bucket waits further back.
    refine (List.mem_cons.mp hwaits).resolve_left fun hsame => ?_
    exact hother (h.stocked.eq_of_lives hlives (hsame ▸ h.lives hb))
  · dsimp only
    rw [hskip]
    have hdistinct := h.distinct
    rw [hqueue] at hdistinct
    exact (List.nodup_cons.mp hdistinct).2
  · dsimp only
    rw [hskip]
    have hpicked := h.picked
    rw [hqueue] at hpicked
    exact (List.sublist_cons_self a rest).trans hpicked

theorem Orderly.takeFirst
    (h : x.Orderly) :
    (x.takeFront 1).Orderly := by
  cases hqueue : x.viewer.requests.addresses with
  | nil =>
      have hnothing : x.takeFront 1 = ⟨x.viewer.skip 1, x.scene, x.ledger⟩ := by
        simp [takeFront, Viewer.pulled, Viewer.unrequestedAmong, hqueue, Pool.pullAll,
          Pool.located, Ledger.hand_nil]
      rw [hnothing]
      refine h.skip 1 ?_
      intro b hb hstate
      have hwaits := h.waits b hb hstate
      rw [hqueue] at hwaits
      cases hwaits
  | cons a rest =>
      cases hasked : x.viewer.pool.isUnrequested x.scene a with
      | true =>
          obtain ⟨ref, hfind, hstate⟩ := Pool.isUnrequested_iff.mp hasked
          have hone : x.takeFront 1 =
              ⟨x.viewer.skip 1, x.scene.deed ref .pull, x.ledger.hand [(a, ref)]⟩ := by
            simp [takeFront, Viewer.pulled, Viewer.unrequestedAmong, hqueue, Pool.pullAll,
              Pool.located, hasked, hfind, Pool.pull_of_find? hfind]
          rw [hone]
          exact h.pull hqueue (h.stocked.find?_iff.mp hfind) hstate
      | false =>
          -- The address is dropped, but an active bucket there would be unrequested.
          have hnone : x.takeFront 1 = ⟨x.viewer.skip 1, x.scene, x.ledger⟩ := by
            simp [takeFront, Viewer.pulled, Viewer.unrequestedAmong, hqueue, Pool.pullAll,
              Pool.located, Ledger.hand_nil, hasked, Pool.pull_of_not_isUnrequested hasked]
          rw [hnone]
          refine h.skip 1 ?_
          intro b hb hstate
          have hwaits := h.waits b hb hstate
          rw [hqueue] at hwaits ⊢
          refine (List.mem_cons.mp hwaits).resolve_left fun hsame => ?_
          have hfind : x.viewer.pool.find? a = some b.bucket :=
            h.stocked.find?_iff.mpr (hsame ▸ h.lives hb)
          rw [(Pool.isUnrequested_of_find? hfind).mpr hstate] at hasked
          cases hasked

theorem Orderly.takeFront
    (h : x.Orderly)
    (taken : Nat) :
    (x.takeFront taken).Orderly := by
  induction taken with
  | zero =>
      rw [takeFront_zero]
      exact h
  | succ taken ih =>
      rw [takeFront_add h]
      exact ih.takeFirst

/-- Taking requests is taking off a front of the queue. -/
theorem exists_takeFront_eq
    (h : x.Orderly)
    (count : Option Nat) :
    ∃ taken, x.viewer.HandsOut x.scene (count.getD x.viewer.requests.size) taken ∧
      x.step (.take count) = x.takeFront taken := by
  obtain ⟨taken, hhandsOut⟩ :=
    Viewer.exists_handsOut h.stocked h.distinct (count.getD x.viewer.requests.size)
  have htake : x.viewer.take x.scene count = _ := hhandsOut.answer
  refine ⟨taken, hhandsOut, ?_⟩
  simp only [step, result, record, htake]
  rfl

theorem Orderly.take
    (h : x.Orderly)
    (count : Option Nat) :
    (x.step (.take count)).Orderly := by
  obtain ⟨taken, _, hstep⟩ := exists_takeFront_eq h count
  rw [hstep]
  exact h.takeFront taken

end Taking

section Delivering

theorem step_receive_of_find?_eq_none
    (h : x.viewer.pool.find? a = none)
    (payload : Payload) :
    x.step (.receive a payload) = x := by
  simp [step, result, record, Viewer.receive, Pool.receive, h, Ledger.deliver_nil]

theorem step_receive_of_find?
    (h : x.viewer.pool.find? a = some ref)
    (payload : Payload) :
    x.step (.receive a payload) =
      ⟨x.viewer, x.scene.deed ref (.receive payload), x.ledger.deliver [ref]⟩ := by
  simp only [step, result, record, Viewer.receive, Pool.receive, h]
  rfl

/-- A bucket that receives a payload is not unrequested any more, asked for or not. -/
theorem Orderly.receive
    (h : x.Orderly)
    (a : Address) (payload : Payload) :
    (x.step (.receive a payload)).Orderly := by
  cases hfind : x.viewer.pool.find? a with
  | none =>
      rw [step_receive_of_find?_eq_none hfind]
      exact h
  | some ref =>
      have hlives := h.stocked.find?_iff.mp hfind
      rw [step_receive_of_find? hfind]
      refine ⟨h.toInOrder.receive hlives.lt payload, ?_, h.distinct, h.picked,
        h.accounts.receive hlives.lt hlives.uncollected payload⟩
      intro b hb hstate
      dsimp only at hb hstate ⊢
      by_cases hsame : b.bucket = ref
      · rw [hsame, Scene.bucket_deed_self _ hlives.lt, Deed.perform,
          Bucket.state_receive hlives.uncollected] at hstate
        cases hstate
      · rw [Scene.bucket_deed_of_ne _ hsame] at hstate ⊢
        exact h.waits b hb hstate

end Delivering

section Collecting

/-- What is reclaimed is neither active nor awaited. -/
theorem exists_collectGarbage_eq
    (h : x.Orderly)
    (outside : BucketRef → Bool) :
    ∃ refs p journal, x.step (.collectGarbage outside) =
        ⟨{ x.viewer with pool := p }, { x.scene.collectAll refs with journal := journal },
          x.ledger⟩ ∧
      Stocked p { x.scene.collectAll refs with journal := journal } ∧
      ∀ ref ∈ refs, ref < x.scene.buckets.size ∧ x.viewer.residency.holds ref = false ∧
        (x.scene.bucket ref).state ≠ .loading := by
  let held := fun ref => outside ref || x.viewer.residency.holds ref || x.viewer.active.contains ref
  obtain ⟨refs, journal, hscene, _, hstocked, hrefs⟩ := h.stocked.collectGarbage held
  let after := x.viewer.pool.collectGarbage x.scene held
  have hafter : x.step (.collectGarbage outside) =
      ⟨{ x.viewer with pool := after.2.1 }, after.2.2, x.ledger⟩ := rfl
  have hscene : after.2.2 = { x.scene.collectAll refs with journal := journal } := hscene
  refine ⟨refs, after.2.1, journal, by rw [hafter, hscene], hscene ▸ hstocked, ?_⟩
  intro ref href
  obtain ⟨hlt, hunheld, hstate⟩ := hrefs ref href
  simp only [held, Bool.or_eq_false_iff] at hunheld
  exact ⟨hlt, hunheld.1.2, hstate⟩

theorem Orderly.collectGarbage
    (h : x.Orderly)
    (outside : BucketRef → Bool) :
    (x.step (.collectGarbage outside)).Orderly := by
  obtain ⟨refs, p, journal, hafter, hstocked, hrefs⟩ := exists_collectGarbage_eq h outside
  have hlt : ∀ ref ∈ refs, ref < x.scene.buckets.size := fun ref href => (hrefs ref href).1
  -- The residency holds the active buckets, so they are not unused.
  have hkept : ∀ a ∈ x.viewer.residency.active,
      (x.scene.collectAll refs).bucket a.bucket = x.scene.bucket a.bucket := by
    intro a ha
    have hstays : a.bucket ∉ refs := by
      intro href
      have hholds : x.viewer.residency.holds a.bucket = true :=
        Residency.holds_iff.mpr ⟨a, ha, rfl⟩
      rw [(hrefs a.bucket href).2.1] at hholds
      cases hholds
    rw [Scene.bucket_collectAll hlt, if_neg hstays]
  rw [hafter]
  refine ⟨⟨hstocked, h.tidy, (h.heedful.of_collectAll hlt).of_journal journal, ?_⟩, ?_,
    h.distinct, h.picked, ?_⟩
  · intro a ha
    exact (congrArg Bucket.isCollected (hkept a ha)).trans (h.present a ha)
  · intro a ha hstate
    have hsame : Scene.bucket { x.scene.collectAll refs with journal := journal } a.bucket =
        x.scene.bucket a.bucket := hkept a ha
    dsimp only at hstate ⊢
    rw [hsame] at hstate ⊢
    exact h.waits a ha hstate
  · have haccounts : Accounts (x.scene.collectAll refs) x.ledger :=
      h.accounts.of_collectAll fun ref href => ⟨hlt ref href, (hrefs ref href).2.2⟩
    exact haccounts.of_alike (Scene.alike_of_buckets rfl)

end Collecting

section Updating

/--
An update does nothing, or the buckets in view are obtained and then made active, which
changes the residency and its scene.
-/
theorem step_update_cases
    (h : x.Orderly)
    (outside : BucketRef → Bool) (camera : Camera) :
    x.step (.update outside camera) = x ∨
    ∃ addresses refs v s journal, x.viewer.inView camera = .ok addresses ∧
      Viewer.Obtains addresses refs { x.viewer with requests := .empty } v
        { x.scene with journal := journal } s ∧
      ∃ held anchor active journal,
        anchor.zoomStep = camera.requestZoomStep x.viewer.pool.pyramid.length ∧
        let after := x.viewer.residency.activate s held refs anchor
        x.step (.update outside camera) =
          ⟨{ v with residency := after.2.1, active := active },
            { after.2.2 with journal := journal }, x.ledger.pick addresses⟩ := by
  cases hview : x.viewer.inView camera with
  | error fault =>
      refine .inl ?_
      simp only [step, result, record, Viewer.update_of_inView_eq_error hview, hview]
  | ok addresses =>
      obtain ⟨journal, refs, v, s, anchor, hobtains, hlevel, hupdate⟩ :=
        Viewer.update_of_inView h.stocked hview outside
      obtain ⟨held, active, later, -, hactivate⟩ := v.exists_activate_eq s outside refs anchor
      have hresidency : x.viewer.residency = v.residency := by rw [hobtains.others]
      refine .inr ⟨addresses, refs, v, s, journal, rfl, hobtains, held, anchor, active, later,
        hlevel, ?_⟩
      simp only [step, result, record, hview, hupdate, hactivate, hresidency]

/-- After an update the active buckets are in view, and those that are unrequested wait. -/
theorem Orderly.update
    (h : x.Orderly)
    (outside : BucketRef → Bool) (camera : Camera) :
    (x.step (.update outside camera)).Orderly := by
  rcases step_update_cases h outside camera with hsame |
    ⟨addresses, refs, v, s, journal, hview, hobtains, held, anchor, active, later, _, hafter⟩
  · rw [hsame]
    exact h
  · let after := x.viewer.residency.activate s held refs anchor
    have hheedful : Heedful ⟨x.viewer.residency, s, .blank⟩ :=
      (h.heedful.of_journal journal).of_adds hobtains.adds
    -- No more buckets are in view than there are slots, so the request is not refused.
    have hfits : refs.length ≤ x.viewer.residency.capacity := by
      rw [← hobtains.lives.length_eq]
      exact FlightView.length_addresses_le hview
    obtain ⟨hheard, htidied, halike, _, hactive⟩ := activate_of_fitting hheedful h.tidy
      hobtains.stocked.hasUniqueIds hobtains.lt_size hfits held anchor
    have halike' : Scene.Alike s { after.2.2 with journal := later } :=
      halike.trans (Scene.alike_of_buckets rfl)
    obtain ⟨new, hqueue, hnew⟩ := hobtains.queue
    rw [hafter]
    refine ⟨⟨hobtains.stocked.of_alike halike', htidied, ?_, ?_⟩, ?_, ?_, ?_, ?_⟩
    · exact hheard.of_journal later
    · intro a ha
      exact (halike'.isCollected a.bucket).trans (hactive a ha).2
    · intro a ha hstate
      dsimp only at ha hstate ⊢
      rw [halike'.state] at hstate
      rw [(halike'.same a.bucket).address]
      obtain ⟨b, hb, hlives⟩ := hobtains.exists_lives (hactive a ha).1
      rw [hlives.address]
      exact hobtains.waits b hb a.bucket hlives hstate
    · exact hobtains.distinct .nil
    · dsimp only
      rw [hqueue]
      exact hnew
    · have hnoted : Accounts { x.scene with journal := journal } x.ledger :=
        h.accounts.of_alike (Scene.alike_of_buckets rfl)
      exact ((hnoted.of_adds hobtains.adds).of_alike halike').pick addresses

end Updating

section Runs

/-- A viewer that was just created has nothing to forget. -/
theorem orderly_create
    {s₀ s : Scene} {settings : Settings} {pyramid : Pyramid Float} {plan : TexturePlan}
    {v : Viewer}
    (hblank : s₀.buckets = #[])
    (hcreate : Viewer.create s₀ settings pyramid plan = (.ok v, s)) :
    Orderly ⟨v, s, .blank⟩ := by
  obtain ⟨m, hresidency, rfl⟩ := Viewer.create_eq_ok hcreate
  obtain ⟨layout, journal, _, _, hscene, hm⟩ := Residency.create_eq_ok hresidency
  have hbuckets : s.buckets = #[] := by
    rw [hscene]
    exact hblank
  have hinactive : ∀ a, a ∉ m.active := by
    rw [hm]
    simp
  exact ⟨⟨stocked_create hbuckets, Residency.tidy_create hresidency, heedful_start hresidency,
    fun a ha => absurd ha (hinactive a)⟩, fun a ha => absurd ha (hinactive a), .nil, .slnil,
    accounts_blank hbuckets⟩

theorem Orderly.step
    (h : x.Orderly)
    (call : Call) :
    (x.step call).Orderly := by
  cases call with
  | setUp factory bytes => exact h.setUp factory bytes
  | update outside camera => exact h.update outside camera
  | take count => exact h.take count
  | receive a payload => exact h.receive a payload
  | tick outside allowance => exact h.tick outside allowance
  | collectGarbage outside => exact h.collectGarbage outside
  | addSwitch isOn => exact h.of_device _
  | setSwitch switch isOn => exact h.of_device _
  | addTape => exact h.of_device _
  | setFuses tape updateFuse createFuse => exact h.of_device _

/-- In every run no active bucket is forgotten, and the ledger says the truth. -/
theorem Reached.orderly
    {allowed : Session → Call → Prop}
    (h : Reached allowed x) :
    x.Orderly := by
  induction h with
  | create hblank hcreate => exact orderly_create hblank hcreate
  | step _ _ ih => exact ih.step _

/-- Whether calls in a row are allowed. -/
def Admits (allowed : Session → Call → Prop) : Session → List Call → Prop
  | _, [] => True
  | x, call :: rest => allowed x call ∧ Admits allowed (x.step call) rest

theorem Reached.run
    {allowed : Session → Call → Prop} {calls : List Call}
    (h : Reached allowed x)
    (hcalls : x.Admits allowed calls) :
    Reached allowed (calls.foldl Session.step x) := by
  induction calls generalizing x with
  | nil => exact h
  | cons call rest ih => exact ih (h.step hcalls.1) hcalls.2

/-- A session of two slots and one zoom step that has just begun. -/
def smallest : Session :=
  ⟨⟨.smallest, .create [.splat 1], .empty, World.smallest.residency, []⟩, World.smallest.scene,
    .blank⟩

theorem reached_smallest (allowed : Session → Call → Prop) :
    Reached allowed .smallest := by
  have hcreate : Viewer.create .empty .smallest [.splat 1] ⟨256, 1, 1⟩ =
      (.ok smallest.viewer, smallest.scene) := by
    simp only [Viewer.create, create_smallest]
    rfl
  exact .create rfl hcreate

end Runs

end Session

end Sessions

end VoxelCache
