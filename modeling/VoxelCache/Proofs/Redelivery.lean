import VoxelCache.Proofs.Activating
import VoxelCache.Proofs.Attention
import VoxelCache.Proofs.Displaying
import VoxelCache.Proofs.Interests

/-!
# Payloads that arrive again

A payload may be delivered to a bucket that has one already.  The residency hears of the first
payload only, so a later one reaches the slot only on the way of something that is still under
way: nothing was taken up yet, or a write waits in the queue, or a notice was not read.
Otherwise the slot goes on to show what it showed.

The payloads of other buckets may have any size; a write that fails on them ends the frame.

**Results.**
* `Receptive.isDue_receive_iff`: when a payload is due that has just arrived.
* `Reachable.settled_of_first_payload`: once the first payload is shown, no other is awaited.
* `redelivered_shown_or_kept`: what becomes of a payload that is delivered to an active bucket.
-/

namespace VoxelCache

section Redelivery

open Residency

variable {bytes : Nat} {s₀ : Scene} {w : World} {a : ActiveBucket} {payload : Payload}

/-- Slots and rasters were laid out when the residency was created, and that is never changed. -/
theorem Reachable.isProper
    {allowed : World → Operation → Prop}
    (h : Reachable allowed s₀ w) :
    w.residency.layout.IsProper := by
  refine (h.of_moves (P := fun w => w.residency.layout.IsProper) (Q := fun _ => True)
    ?_ ?_ ?_ ?_ ?_).1
  · intro width textures packing settings m s hcreate
    obtain ⟨layout, journal, hlayout, _, rfl, rfl⟩ := create_eq_ok hcreate
    exact ⟨SlotLayout.isProper_create hlayout, trivial⟩
  · intro w op _ hother _ _ hw _
    refine ⟨?_, trivial⟩
    cases op with
    | occurrence o => exact hw
    | setUp factory bytes =>
        rw [(setUp_keeps w factory bytes).1]
        exact hw
    | _ => cases hother
  · intro w w' _ hmove hw
    rcases hmove.inversion with hshrinks | ⟨_, ref, slot, free, _, _, _, rfl⟩ |
      ⟨a, rest, s, _, _, _, rfl⟩
    · rw [hshrinks.layout]
      exact hw
    · exact hw
    · exact hw
  · intro w w' _ _ _ _
    trivial
  · intro _ w _ outside _ _ _ _ hw
    exact ⟨hw, trivial⟩

/-- Whether an active bucket takes payloads in, and rasters that are ready can show them. -/
structure Receptive (bytes : Nat) (w : World) (a : ActiveBucket) : Prop where
  heedful : Heedful w
  spent : Spent w
  ids : w.scene.HasUniqueIds
  fitted : Fitted bytes w.residency w.scene
  ready : w.residency.isReady w.scene = true
  active : a ∈ w.residency.active
  uncollected : (w.scene.bucket a.bucket).isCollected = false

theorem Reachable.receptive
    (hs₀ : ∀ ref, ∀ l ∈ (s₀.bucket ref).listeners, l.mailbox < s₀.mailboxes.size)
    (h : Reachable (fun w op => SparesOwner w op ∧ AvoidsOwner w op) s₀ w)
    (hids : w.scene.HasUniqueIds)
    (hequipped : w.residency.IsEquipped w.scene.device bytes)
    (hready : w.residency.isReady w.scene = true)
    (ha : a ∈ w.residency.active)
    (hopen : (w.scene.bucket a.bucket).isCollected = false) :
    Receptive bytes w a where
  heedful := (h.mono fun _ _ hop => hop.1).heedful
  spent := (h.mono fun _ _ hop => hop.2).spent hs₀
  ids := hids
  fitted := ⟨h.tidy, h.isProper, hequipped⟩
  ready := hready
  active := ha
  uncollected := hopen

section Receiving

theorem Receptive.payload_receive
    (h : Receptive bytes w a)
    (payload : Payload) :
    ((w.scene.deed a.bucket (.receive payload)).bucket a.bucket).payload = some payload := by
  rw [Scene.bucket_deed_self _ (h.heedful.known a h.active).1, Deed.perform]
  exact Bucket.payload_receive h.uncollected

theorem Receptive.fitted_receive
    (h : Receptive bytes w a)
    (payload : Payload) :
    Fitted bytes w.residency (w.scene.deed a.bucket (.receive payload)) :=
  ⟨h.fitted.tidy, h.fitted.layout, by rw [Scene.device_deed]; exact h.fitted.equipped⟩

/-- A delivered payload is due if it is the first one, or if an earlier one still was. -/
theorem Receptive.isDue_receive_iff
    (h : Receptive bytes w a)
    (payload : Payload) :
    w.residency.IsDue (w.scene.deed a.bucket (.receive payload)) a ↔
      (w.scene.bucket a.bucket).payload = none ∨ w.residency.IsDue w.scene a := by
  by_cases hnone : (w.scene.bucket a.bucket).payload = none
  · have hannounced :=
      announced_receive h.heedful.toWatchful h.active h.uncollected hnone payload
    exact iff_of_true (.inr ⟨_, hannounced, rfl, nofun⟩) (.inl hnone)
  · have hmailbox := mailbox_receive_of_spent h.spent h.heedful.isOpen hnone payload
    rw [IsDue, hmailbox, or_iff_right hnone, IsDue]

theorem hasUniqueIds_deed
    {s : Scene}
    (hids : s.HasUniqueIds)
    (ref : BucketRef) (deed : Deed) :
    (s.deed ref deed).HasUniqueIds := by
  intro i j hi hj hid
  rw [Scene.size_deed] at hi hj
  have hextends := Scene.extends_occur s (.deed ref deed)
  exact hids i j hi hj ((hextends.same i hi).id.symm.trans (hid.trans (hextends.same j hj).id))

/-- Nobody is told that a bucket is collected that takes a payload in. -/
theorem Receptive.not_mem_notices_receive
    (h : Receptive bytes w a)
    (payload : Payload) :
    ⟨a.id, .collected⟩ ∉
      ((w.scene.deed a.bucket (.receive payload)).mailbox w.residency.mailbox).notices := by
  obtain ⟨hexist, _⟩ := h.heedful.known a h.active
  intro hmem
  have hafter : Heedful { w with scene := w.scene.deed a.bucket (.receive payload) } :=
    heedful_deed h.heedful hexist trivial
  have hcollected := isCollected_of_mem_notices hafter (hasUniqueIds_deed h.ids _ _) h.active hmem
  rw [Scene.bucket_deed_self _ hexist, Deed.perform, Bucket.isCollected_receive,
    h.uncollected] at hcollected
  cases hcollected

/-- A payload that is awaited is shown one frame later. -/
theorem Receptive.displays_receive
    {outside : BucketRef → Bool}
    (h : Receptive bytes w a)
    (hsize : payload.size = bucketVoxels * bytes)
    (hawaited : (w.scene.bucket a.bucket).payload = none ∨ w.residency.IsDue w.scene a)
    (hok : let s := w.scene.deed a.bucket (.receive payload)
      (∃ count, (w.residency.tick s outside .unlimited).1 = .ok count) ∨
        ∀ b ∈ w.residency.active, b ≠ a → ∀ other,
          (w.scene.bucket b.bucket).payload = some other → other.size = bucketVoxels * bytes) :
    let s := w.scene.deed a.bucket (.receive payload)
    Displays bytes a payload (w.residency.tick s outside .unlimited).2.1
      (w.residency.tick s outside .unlimited).2.2 := by
  intro s
  have hready : w.residency.isReady s = true := by
    rw [isReady, Scene.device_deed]
    exact h.ready
  refine (h.fitted_receive payload).displays_tick h.active (h.payload_receive payload)
    (h.not_mem_notices_receive payload) hready ((h.isDue_receive_iff payload).mpr hawaited) ?_
  refine hok.imp_right fun hsizes => ?_
  intro b hb shown hshown
  by_cases hsame : b = a
  · rw [hsame, h.payload_receive, Option.some.injEq] at hshown
    exact hshown ▸ hsize
  · have hother : b.bucket ≠ a.bucket := h.heedful.toWatchful.bucket_ne h.active hb fun hid =>
      hsame (h.fitted.tidy.eq_of_id hb h.active hid)
    rw [Scene.bucket_deed_of_ne _ hother] at hshown
    exact hsizes b hb hsame shown hshown

/-- A payload that is not awaited is not heard of. -/
theorem Receptive.bypasses_receive
    (h : Receptive bytes w a)
    (hidle : ¬ ((w.scene.bucket a.bucket).payload = none ∨ w.residency.IsDue w.scene a))
    (payload : Payload) (outside : BucketRef → Bool) (allowance : Allowance) :
    let s := w.scene.deed a.bucket (.receive payload)
    Bypasses bytes a w.residency (w.residency.tick s outside allowance).2.1 s
      (w.residency.tick s outside allowance).2.2 :=
  (h.fitted_receive payload).bypasses_tick h.active (h.payload_receive payload)
    (h.not_mem_notices_receive payload)
    (fun hdue => hidle ((h.isDue_receive_iff payload).mp hdue)) outside allowance

/-- A bucket that takes a payload in and displays it later can take in another one. -/
theorem Receptive.of_displays
    {w' : World}
    (h : Receptive bytes w a)
    (hheedful : Heedful w')
    (hspent : Spent w')
    (halike : Scene.Alike (w.scene.deed a.bucket (.receive payload)) w'.scene)
    (hready : w'.residency.isReady w'.scene =
      w.residency.isReady (w.scene.deed a.bucket (.receive payload)))
    (hdisplays : Displays bytes a payload w'.residency w'.scene) :
    Receptive bytes w' a where
  heedful := hheedful
  spent := hspent
  ids := hasUniqueIds_of_alike (hasUniqueIds_deed h.ids _ _) halike
  fitted := hdisplays.fitted
  ready := by
    rw [hready, isReady, Scene.device_deed]
    exact h.ready
  active := hdisplays.active
  uncollected := by
    rw [halike.isCollected, Scene.bucket_deed_self _ (h.heedful.known a h.active).1, Deed.perform,
      Bucket.isCollected_receive]
    exact h.uncollected

/--
If all is done by the rules, the first payload of an active bucket is shown one frame later, and
then another one is not awaited.
-/
theorem Reachable.settled_of_first_payload
    (hbounded : ∀ ref, ∀ l ∈ (s₀.bucket ref).listeners, l.mailbox < s₀.mailboxes.size)
    (hsound : ∀ ref, Deed.IsSound bytes (s₀.bucket ref))
    (h : Reachable (fun w op => IsFair bytes w op ∧ AvoidsOwner w op) s₀ w)
    (hreceptive : Receptive bytes w a)
    (hnone : (w.scene.bucket a.bucket).payload = none)
    (hsize : payload.size = bucketVoxels * bytes)
    (outside : BucketRef → Bool) :
    let after := (w.step (.occurrence (.deed a.bucket (.receive payload)))).step
      (.tick outside .unlimited)
    Receptive bytes after a ∧ Displays bytes a payload after.residency after.scene ∧
      ¬ ((after.scene.bucket a.bucket).payload = none ∨ after.residency.IsDue after.scene a) := by
  intro after
  have hknown := hreceptive.heedful.known a hreceptive.active
  have hdelivered : Reachable (fun w op => IsFair bytes w op ∧ AvoidsOwner w op) s₀
      (w.step (.occurrence (.deed a.bucket (.receive payload)))) :=
    h.step hknown.1 ⟨⟨hsize, .inr hnone⟩, trivial⟩
  have hafter : Reachable (fun w op => IsFair bytes w op ∧ AvoidsOwner w op) s₀ after :=
    hdelivered.step trivial ⟨trivial, trivial⟩
  have hperforms := performs_tick (w.step (.occurrence (.deed a.bucket (.receive payload)))) outside
    .unlimited
  have hfaithful := (h.mono fun _ _ hop => hop.1).faithful hsound
  have hdisplays : Displays bytes a payload after.residency after.scene :=
    hreceptive.displays_receive hsize (.inl hnone) <| .inr fun b _ _ other hother =>
      (hfaithful.sound b.bucket).size other hother
  have hready : w.residency.isReady (w.scene.deed a.bucket (.receive payload)) = true := by
    rw [isReady, Scene.device_deed]
    exact hreceptive.ready
  refine ⟨?_, hdisplays, ?_⟩
  · exact hreceptive.of_displays (hafter.mono fun _ _ hop => hop.1.sparesOwner).heedful
      ((hafter.mono fun _ _ hop => hop.2).spent hbounded) hperforms.alike hperforms.isReady_eq
      hdisplays
  · obtain ⟨hqueue, hnotices⟩ := step_tick_unlimited
      ((hdelivered.mono fun _ _ hop => hop.1).faithful hsound).toServiceable hdelivered.tidy hready
      outside
    rintro (hlost | hnewest | ⟨notice, hmem, _⟩)
    · rw [(hperforms.alike.payload _).trans (hreceptive.payload_receive payload)] at hlost
      cases hlost
    · rw [show after.residency.queue = [] from hqueue] at hnewest
      cases hnewest
    · rw [show (after.scene.mailbox after.residency.mailbox).notices = [] from hnotices] at hmem
      cases hmem

end Receiving

section Example

-- It stays folded, so that nobody computes pictures in order to compare worlds.
/-- A residency that shows one bucket, which has no payload yet. -/
@[irreducible] def World.oneActive : World :=
  let ops : List Operation := [
    .occurrence (.addSwitch true), .setUp (.rasters 0) 1,
    .occurrence (.create 7 .origin none), .activate (fun _ => true) [0] .origin]
  ops.foldl step .smallest

/-- A payload of the same byte everywhere. -/
def Payload.fill (value : UInt8) : Payload :=
  ⟨Array.replicate bucketVoxels value⟩

theorem reachable_oneActive :
    Reachable (fun w op => IsFair 1 w op ∧ AvoidsOwner w op) Scene.empty .oneActive := by
  rw [World.oneActive]
  refine (reachable_smallest _).run ⟨trivial, ⟨trivial, trivial⟩, trivial, ⟨?_, trivial⟩, trivial,
    ⟨trivial, trivial⟩, ?_, ⟨trivial, trivial⟩, trivial⟩
  · exact ⟨by decide +kernel, rfl, 0, rfl⟩
  · intro ref href
    rw [List.mem_singleton.mp href]
    decide +kernel

theorem sparing_oneActive :
    Reachable (fun w op => SparesOwner w op ∧ AvoidsOwner w op) Scene.empty .oneActive :=
  reachable_oneActive.mono fun _ _ hop => ⟨hop.1.sparesOwner, hop.2⟩

theorem listeners_empty :
    ∀ ref, ∀ l ∈ (Scene.empty.bucket ref).listeners, l.mailbox < Scene.empty.mailboxes.size := by
  intro ref l hl
  cases hl

theorem size_fill (value : UInt8) : (Payload.fill value).size = bucketVoxels * 1 :=
  Array.size_replicate

theorem receptive_oneActive : Receptive 1 .oneActive ⟨7, 0, 0, 0⟩ := by
  refine sparing_oneActive.receptive listeners_empty ?_ ?_ ?_ ?_ ?_
  · intro i j hi hj _
    have hsize : World.oneActive.scene.buckets.size = 1 := by decide +kernel
    omega
  · refine ((reachable_oneActive.mono fun _ _ hop => hop.1).faithful ?_).equipped ?_
    · exact isSound_of_buckets_eq_empty rfl
    · decide +kernel
  · decide +kernel
  · decide +kernel
  · decide +kernel

/-- The first payload of the bucket is shown one frame later, and then no other is awaited. -/
theorem settled_oneActive :
    let w := (World.oneActive.step (.occurrence (.deed 0 (.receive (.fill 1))))).step
      (.tick (fun _ => true) .unlimited)
    Reachable (fun w op => SparesOwner w op ∧ AvoidsOwner w op) Scene.empty w ∧
      Receptive 1 w ⟨7, 0, 0, 0⟩ ∧ Displays 1 ⟨7, 0, 0, 0⟩ (.fill 1) w.residency w.scene ∧
      ¬ ((w.scene.bucket 0).payload = none ∨ w.residency.IsDue w.scene ⟨7, 0, 0, 0⟩) := by
  intro w
  have hdelivered : Reachable (fun w op => SparesOwner w op ∧ AvoidsOwner w op) Scene.empty
      (World.oneActive.step (.occurrence (.deed 0 (.receive (.fill 1))))) :=
    sparing_oneActive.step (receptive_oneActive.heedful.known _ receptive_oneActive.active).1
      ⟨trivial, trivial⟩
  have hnone : (World.oneActive.scene.bucket 0).payload.isNone = true := by decide +kernel
  exact ⟨hdelivered.step trivial ⟨trivial, trivial⟩,
    reachable_oneActive.settled_of_first_payload listeners_empty (isSound_of_buckets_eq_empty rfl)
      receptive_oneActive (Option.isNone_iff_eq_none.mp hnone) (size_fill 1) fun _ => true⟩

end Example

/--
What becomes of a payload that is delivered to an active bucket.  If it is the first one, or a
notice or write of an earlier one is still under way, the next frame with ready textures and
time for all writes commits the bucket and brings the payload into its slot; for this the
frame must not fail, as it does not if the payloads of the other active buckets have the right
size, too.  Otherwise the residency does not hear of the payload, and the slot goes on to show
what it showed.
-/
theorem redelivered_shown_or_kept
    (hs₀ : ∀ ref, ∀ l ∈ (s₀.bucket ref).listeners, l.mailbox < s₀.mailboxes.size)
    (h : Reachable (fun w op => SparesOwner w op ∧ AvoidsOwner w op) s₀ w)
    (hids : w.scene.HasUniqueIds)
    (hequipped : w.residency.IsEquipped w.scene.device bytes)
    (hready : w.residency.isReady w.scene = true)
    (ha : a ∈ w.residency.active)
    (hopen : (w.scene.bucket a.bucket).isCollected = false)
    (hsize : payload.size = bucketVoxels * bytes)
    (outside : BucketRef → Bool) (allowance : Allowance) :
    let delivered := w.step (.occurrence (.deed a.bucket (.receive payload)))
    let frame := delivered.residency.tick delivered.scene outside allowance
    let after := delivered.step (.tick outside allowance)
    let awaited := (w.scene.bucket a.bucket).payload = none ∨ w.residency.IsDue w.scene a
    allowance.suffices (delivered.residency.writesDue delivered.scene) = true →
    a ∈ after.residency.active ∧ (after.scene.bucket a.bucket).payload = some payload ∧
      (awaited →
        ((∃ count, frame.1 = .ok count) ∨
          ∀ b ∈ w.residency.active, b ≠ a → ∀ other,
            (w.scene.bucket b.bucket).payload = some other →
            other.size = bucketVoxels * bytes) →
        a.id ∈ after.residency.committed ∧
          after.residency.ShowsIn after.scene.device a.slot payload) ∧
      (¬ awaited →
        (a.id ∈ after.residency.committed ↔ a.id ∈ w.residency.committed) ∧
          ∀ shown, w.residency.ShowsIn w.scene.device a.slot shown →
            after.residency.ShowsIn after.scene.device a.slot shown) := by
  intro delivered frame after awaited hallowance
  have hreceptive := h.receptive hs₀ hids hequipped hready ha hopen
  let s := w.scene.deed a.bucket (.receive payload)
  have hframe : frame = w.residency.tick s outside .unlimited :=
    tick_of_suffices hallowance outside
  have hresidency : after.residency = (w.residency.tick s outside .unlimited).2.1 :=
    congrArg (·.2.1) hframe
  have hscene : after.scene = (w.residency.tick s outside .unlimited).2.2 :=
    congrArg (·.2.2) hframe
  refine ⟨?_, ?_, ?_, ?_⟩
  · rw [hresidency, Residency.active_tick]
    exact ((hreceptive.fitted_receive payload).bypasses_readNotices ha
      (hreceptive.not_mem_notices_receive payload)).active
  · have halike : Scene.Alike s after.scene := (performs_tick delivered outside allowance).alike
    exact (halike.payload _).trans (hreceptive.payload_receive payload)
  · intro hawaited hok
    have hdisplays := hreceptive.displays_receive hsize hawaited (hframe ▸ hok)
    rw [hresidency, hscene]
    exact ⟨hdisplays.committed, hdisplays.shows⟩
  · intro hidle
    have hbypasses := hreceptive.bypasses_receive hidle payload outside .unlimited
    rw [hresidency, hscene]
    refine ⟨hbypasses.committed, ?_⟩
    intro shown hshown
    refine hbypasses.shows shown ?_
    rwa [Scene.device_deed]

/-- The first payload of a bucket is shown, and it stays when the next one is delivered. -/
theorem redelivered_shown_or_kept_of_one_active :
    let w := (World.oneActive.step (.occurrence (.deed 0 (.receive (.fill 1))))).step
      (.tick (fun _ => true) .unlimited)
    let after := (w.step (.occurrence (.deed 0 (.receive (.fill 2))))).step
      (.tick (fun _ => true) .unlimited)
    (7 ∈ w.residency.committed ∧ w.residency.ShowsIn w.scene.device 0 (.fill 1)) ∧
      (7 ∈ after.residency.committed ↔ 7 ∈ w.residency.committed) ∧
      after.residency.ShowsIn after.scene.device 0 (.fill 1) := by
  intro w after
  have hactive : World.oneActive.residency.active = [⟨7, 0, 0, 0⟩] := by decide +kernel
  have hnone : (World.oneActive.scene.bucket 0).payload.isNone = true := by decide +kernel
  have hfirst := receptive_oneActive
  obtain ⟨hagain, hnext, _, hidle⟩ := settled_oneActive
  have hshown := (redelivered_shown_or_kept listeners_empty sparing_oneActive hfirst.ids
    hfirst.fitted.equipped hfirst.ready hfirst.active hfirst.uncollected (size_fill 1)
    (fun _ => true) .unlimited rfl).2.2.1
  have hkept := (redelivered_shown_or_kept listeners_empty hagain hnext.ids
    hnext.fitted.equipped hnext.ready hnext.active hnext.uncollected (size_fill 2)
    (fun _ => true) .unlimited rfl).2.2.2
  have hshows : 7 ∈ w.residency.committed ∧ w.residency.ShowsIn w.scene.device 0 (.fill 1) := by
    refine hshown (.inl (Option.isNone_iff_eq_none.mp hnone)) <| .inr fun b hb hne => ?_
    rw [hactive] at hb
    exact absurd (List.mem_singleton.mp hb) hne
  exact ⟨hshows, (hkept hidle).1, (hkept hidle).2 _ hshows.2⟩

/-- A payload that is delivered again need not reach its slot. -/
theorem second_payload_not_shown :
    let w := (World.oneActive.step (.occurrence (.deed 0 (.receive (.fill 1))))).step
      (.tick (fun _ => true) .unlimited)
    let after := (w.step (.occurrence (.deed 0 (.receive (.fill 2))))).step
      (.tick (fun _ => true) .unlimited)
    Reachable (fun w op => SparesOwner w op ∧ AvoidsOwner w op) Scene.empty w ∧
      w.scene.HasUniqueIds ∧ w.residency.IsEquipped w.scene.device 1 ∧
      w.residency.isReady w.scene = true ∧ ⟨7, 0, 0, 0⟩ ∈ w.residency.active ∧
      (w.scene.bucket 0).isCollected = false ∧ (Payload.fill 2).size = bucketVoxels * 1 ∧
      (after.scene.bucket 0).payload = some (.fill 2) ∧
      ¬ after.residency.ShowsIn after.scene.device 0 (.fill 2) := by
  intro w after
  obtain ⟨hreached, hnext, hdisplays, hidle⟩ := settled_oneActive
  have hbypasses := hnext.bypasses_receive hidle (.fill 2) (fun _ => true) .unlimited
  have hpayload := (hbypasses.scene.payload 0).trans (hnext.payload_receive (.fill 2))
  refine ⟨hreached, hnext.ids, hnext.fitted.equipped, hnext.ready, hnext.active,
    hnext.uncollected, size_fill 2, hpayload, ?_⟩
  intro hshown
  have hkept : after.residency.ShowsIn after.scene.device 0 (.fill 1) := by
    refine hbypasses.shows (.fill 1) ?_
    rw [Scene.device_deed]
    exact hdisplays.shows
  have hfitted : Fitted 1 after.residency after.scene := hbypasses.fitted
  have hsame : Payload.fill 1 = Payload.fill 2 :=
    hkept.inj hfitted.layout hfitted.equipped (hfitted.tidy.slot_lt hbypasses.active) (size_fill 1)
      (size_fill 2) hshown
  have hbyte : ∀ value, (Payload.fill value).data[0]? = some value := by
    intro value
    rw [Payload.fill, Array.getElem?_replicate, if_pos (by decide)]
  have hone := hbyte 1
  rw [hsame, hbyte 2] at hone
  exact absurd hone (by decide)

end Redelivery

end VoxelCache
