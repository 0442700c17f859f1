import VoxelCache.Proofs.NewTextures

/-!
# Order of the queue

Requests to write into a slot are made for whoever owns it at the time, so those of the owner
come behind those of former owners.  A former owner that comes back is asked for again, as it
has kept its payload.

**Invariant.**
* `Requested`: requests are made for payloads that have arrived, and the newest request for
  a slot is its owner's if the owner has one.

**Results.**
* `Reachable.requested`: the invariant holds in every run without two buckets of one identity.
* `Requested.mem_newestPerSlot_iff`: thinning the queue leaves the requests of owners.
-/

namespace VoxelCache

section Requests

open Residency

variable {queue rest : List WriteRequest} {r : WriteRequest} {slot : Nat}

/-- The newest request for a slot stays so when an older one is taken away. -/
theorem newestTo_tail
    (h : ∃ later ∈ rest, later.slot = slot) :
    newestTo (r :: rest) slot = newestTo rest slot := by
  obtain ⟨newest, hnewest⟩ := Option.isSome_iff_exists.mp (isSome_newestTo_iff.mpr h)
  rw [newestTo_cons, hnewest]
  rfl

/-- In a queue with one request for each slot there is nothing to thin. -/
theorem newestPerSlot_eq_self
    (h : (queue.map (·.slot)).Nodup) :
    newestPerSlot queue = queue := by
  induction queue with
  | nil => rfl
  | cons r rest ih =>
      rw [List.map_cons, List.nodup_cons] at h
      have hlast : ¬ (rest.any fun later => later.slot == r.slot) = true := by
        intro hany
        obtain ⟨later, hlater, hslot⟩ := List.any_eq_true.mp hany
        exact h.1 (List.mem_map.mpr ⟨later, hlater, by simpa using hslot⟩)
      rw [newestPerSlot, if_neg hlast, ih h.2]

end Requests

section Requesting

open Residency

/-- Whether requests are made for payloads, and those of owners come behind all others. -/
structure Requested (w : World) : Prop where
  filled : ∀ r ∈ w.residency.queue, ∃ ref < w.scene.buckets.size,
    (w.scene.bucket ref).id = r.bucket ∧ Deed.IsFilled (w.scene.bucket ref)
  newest : ∀ a ∈ w.residency.active, a.request ∈ w.residency.queue →
    newestTo w.residency.queue a.slot = some a.request

variable {opening : Bool} {w w' : World} {a : ActiveBucket}

theorem Requested.mem_newestPerSlot_iff
    (h : Requested w)
    (ha : a ∈ w.residency.active) :
    a.request ∈ newestPerSlot w.residency.queue ↔ a.request ∈ w.residency.queue :=
  ⟨fun hmem => (newestPerSlot_sublist _).subset hmem,
    fun hmem => VoxelCache.mem_newestPerSlot_iff.mpr (h.newest a ha hmem)⟩

/-- The case of what gives no slots and makes no requests, and drops the oldest at most. -/
theorem Requested.of_subset
    (h : Requested w)
    (hactive : ∀ a ∈ w'.residency.active, a ∈ w.residency.active)
    (hqueue : ∀ r ∈ w'.residency.queue, r ∈ w.residency.queue)
    (hnewest : ∀ slot, (∃ r ∈ w'.residency.queue, r.slot = slot) →
      newestTo w'.residency.queue slot = newestTo w.residency.queue slot)
    (hfilled : ∀ ref < w.scene.buckets.size, Deed.IsFilled (w.scene.bucket ref) →
      ref < w'.scene.buckets.size ∧ (w'.scene.bucket ref).id = (w.scene.bucket ref).id ∧
        Deed.IsFilled (w'.scene.bucket ref)) :
    Requested w' where
  filled r hr := by
    obtain ⟨ref, hexist, hid, hbefore⟩ := h.filled r (hqueue r hr)
    obtain ⟨hlater, hsame, hafter⟩ := hfilled ref hexist hbefore
    exact ⟨ref, hlater, hsame.trans hid, hafter⟩
  newest a ha hr := by
    rw [hnewest a.slot ⟨a.request, hr, rfl⟩]
    exact h.newest a (hactive a ha) (hqueue _ hr)

theorem isFilled_of_alike
    {s s' : Scene} {ref : BucketRef}
    (halike : Scene.Alike s s')
    (h : Deed.IsFilled (s.bucket ref)) :
    Deed.IsFilled (s'.bucket ref) := by
  rwa [Deed.IsFilled, halike.isCollected, halike.payload]

/-- The case of what does not touch the buckets. -/
theorem Requested.of_alike
    (h : Requested w)
    (halike : Scene.Alike w.scene w'.scene)
    (hactive : ∀ a ∈ w'.residency.active, a ∈ w.residency.active)
    (hqueue : ∀ r ∈ w'.residency.queue, r ∈ w.residency.queue)
    (hnewest : ∀ slot, (∃ r ∈ w'.residency.queue, r.slot = slot) →
      newestTo w'.residency.queue slot = newestTo w.residency.queue slot) :
    Requested w' := by
  refine h.of_subset hactive hqueue hnewest fun ref hexist hbefore => ⟨?_, ?_, ?_⟩
  · rwa [halike.size]
  · exact (halike.same ref).id
  · exact isFilled_of_alike halike hbefore

/-- The case of what leaves the queue alone, too. -/
theorem Requested.of_same
    (h : Requested w)
    (halike : Scene.Alike w.scene w'.scene)
    (hactive : ∀ a ∈ w'.residency.active, a ∈ w.residency.active)
    (hqueue : w'.residency.queue = w.residency.queue) :
    Requested w' :=
  h.of_alike halike hactive (fun _ hr => hqueue ▸ hr) fun _ _ => by rw [hqueue]

/-- A bucket is queued if it is active and has a payload. -/
theorem pendingWrite_cases
    (m : Residency) (s : Scene) (id : BucketId) :
    m.pendingWrite s id = [] ∨
      ∃ b ∈ m.active, b.id = id ∧ (s.bucket b.bucket).hasPayload = true ∧
        m.pendingWrite s id = [b.request] := by
  unfold pendingWrite
  split
  · exact .inl rfl
  · rename_i b hb
    obtain ⟨hactive, rfl⟩ := find?_eq_some hb
    split
    · rename_i hhas
      exact .inr ⟨b, hactive, rfl, hhas, rfl⟩
    · exact .inl rfl

/-- A payload is queued behind all requests for its slot, whatever is known of them. -/
theorem requested_enqueue
    {m : Residency} {s : Scene} {c : Chronicle} {id : BucketId}
    (htidy : Tidy m)
    (hknown : ∀ a ∈ m.active, Knows s a)
    (hfilled : ∀ r ∈ m.queue, ∃ ref < s.buckets.size,
      (s.bucket ref).id = r.bucket ∧ Deed.IsFilled (s.bucket ref))
    (hnewest : ∀ a ∈ m.active, (a.id = id → (s.bucket a.bucket).hasPayload = false) →
      a.request ∈ m.queue → newestTo m.queue a.slot = some a.request) :
    Requested ⟨m.enqueue s id, s, c⟩ := by
  have hqueue : (m.enqueue s id).queue = m.queue ++ m.pendingWrite s id := rfl
  rcases pendingWrite_cases m s id with hnone | ⟨b, hb, rfl, hhas, hpending⟩
  · rw [hnone, List.append_nil] at hqueue
    have hidle : ∀ a ∈ m.active, a.id = id → (s.bucket a.bucket).hasPayload = false := by
      rintro a ha rfl
      have hfind : m.find? a.id = some a := htidy.find?_eq_some_iff.mpr ⟨ha, rfl⟩
      simpa [pendingWrite, hfind] using hnone
    constructor
    · dsimp only
      rw [hqueue]
      exact hfilled
    · dsimp only
      rw [hqueue]
      exact fun a ha => hnewest a ha (hidle a ha)
  · rw [hpending] at hqueue
    constructor
    · intro r hr
      dsimp only at hr
      rw [hqueue] at hr
      rcases List.mem_append.mp hr with hold | hnew
      · exact hfilled r hold
      · rw [List.mem_singleton.mp hnew]
        exact ⟨b.bucket, (hknown b hb).1, (hknown b hb).2,
          .inr (Option.isSome_iff_ne_none.mp hhas)⟩
    · intro a ha hr
      by_cases hsame : b = a
      · subst hsame
        exact newestTo_enqueue_self htidy ha hhas
      · have hid : b.id ≠ a.id := fun hid => hsame (htidy.eq_of_id hb ha hid)
        dsimp only at hr ⊢
        rw [newestTo_enqueue_of_ne htidy ha hid]
        rw [hqueue] at hr
        refine hnewest a ha (fun hself => absurd hself.symm hid)
          ((List.mem_append.mp hr).resolve_right fun hnew => hid ?_)
        exact congrArg WriteRequest.bucket (List.mem_singleton.mp hnew).symm

theorem requested_hear
    (htidy : Tidy w.residency)
    (hknown : ∀ a ∈ w.residency.active, Knows w.scene a)
    (h : Requested w)
    (notice : Notice) (rest : List Notice) :
    Requested (w.hear notice rest) := by
  have hpopped : Requested (w.pop rest) :=
    h.of_same (Scene.alike_of_buckets rfl) (fun _ ha => ha) rfl
  refine World.hear_induct ?_ hpopped fun a _ => ?_
  · exact requested_enqueue htidy hknown hpopped.filled fun a ha _ => hpopped.newest a ha
  · exact hpopped.of_same (alike_dismiss _ _ _) (fun _ hb => (List.mem_filter.mp hb).1) rfl

/-- A newcomer without a payload was never asked for, as buckets keep their payloads. -/
theorem requested_reserve
    {ref : BucketRef} {slot : Nat} {free : List Nat}
    (hids : w.scene.HasUniqueIds)
    (htidy : Tidy w.residency)
    (hknown : ∀ a ∈ w.residency.active, Knows w.scene a)
    (h : Requested w)
    (hfree : w.residency.free = slot :: free)
    (hexist : ref < w.scene.buckets.size)
    (hopen : (w.scene.bucket ref).isCollected = false)
    (hinactive : w.residency.isActive (w.scene.bucket ref).id = false) :
    Requested (w.reserve ref slot free) := by
  let subscribed := w.scene.subscribe ref (interestIn (w.scene.bucket ref)) w.residency.mailbox
  let new : ActiveBucket := ⟨(w.scene.bucket ref).id, ref, slot, subscribed.1⟩
  let m : Residency :=
    { w.residency with free := free, active := w.residency.active ++ [new] }
  have halike : Scene.Alike w.scene subscribed.2 := Scene.alike_subscribe _ _ _ _
  have htidy' : Tidy m := (htidy.reserve (s := w.scene) hfree hinactive).of_eq rfl rfl rfl rfl
  have hafter : w.reserve ref slot free =
      ⟨m.enqueue subscribed.2 new.id, subscribed.2, w.chronicle⟩ := rfl
  rw [hafter]
  refine requested_enqueue htidy' ?_ ?_ ?_
  · intro a ha
    rcases List.mem_append.mp ha with hold | hnew
    · exact (hknown a hold).of_extends halike.extends
    · obtain rfl := List.mem_singleton.mp hnew
      exact Knows.of_extends (a := new) ⟨hexist, rfl⟩ halike.extends
  · intro r hr
    obtain ⟨other, hother, hid, hbefore⟩ := h.filled r hr
    refine ⟨other, ?_, (halike.same other).id.trans hid, isFilled_of_alike halike hbefore⟩
    rwa [halike.size]
  · intro a ha hidle hr
    rcases List.mem_append.mp ha with hold | hnew
    · exact h.newest a hold hr
    · obtain rfl := List.mem_singleton.mp hnew
      have hblank := hidle rfl
      obtain ⟨other, hother, hid, hfilled⟩ := h.filled _ hr
      obtain rfl := hids other ref hother hexist hid
      rw [Bucket.hasPayload, halike.payload] at hblank
      rcases hfilled with hcollected | hsome
      · rw [hopen] at hcollected
        cases hcollected
      · exact absurd (Option.isNone_iff_eq_none.mp (by simpa using hblank)) hsome

/-- The case of a pass that drops or carries out its first request. -/
theorem Requested.of_tail
    {r : WriteRequest} {rest : List WriteRequest}
    (h : Requested w)
    (halike : Scene.Alike w.scene w'.scene)
    (hactive : w'.residency.active = w.residency.active)
    (hqueue : w.residency.queue = r :: rest)
    (hrest : w'.residency.queue = rest) :
    Requested w' := by
  refine h.of_alike halike (fun _ ha => hactive ▸ ha) ?_ ?_
  · intro later hlater
    rw [hrest] at hlater
    rw [hqueue]
    exact List.mem_cons_of_mem _ hlater
  · intro slot hslot
    rw [hrest] at hslot ⊢
    rw [hqueue, newestTo_tail hslot]

theorem Requested.of_move
    (hids : w.scene.HasUniqueIds)
    (htidy : Tidy w.residency)
    (hknown : ∀ a ∈ w.residency.active, Knows w.scene a)
    (h : Requested w)
    (hmove : Move opening w w') :
    Requested w' := by
  have halike := hmove.alike
  cases hmove with
  | journal => exact h.of_same halike (fun _ ha => ha) rfl
  | hear _ => exact requested_hear htidy hknown h _ _
  | forgo _ => exact h.of_same halike (fun _ hb => (List.mem_filter.mp hb).1) rfl
  | aim => exact h.of_same halike (fun _ ha => ha) rfl
  | reserve hfree hexist hopen hinactive =>
      exact requested_reserve hids htidy hknown h hfree hexist hopen hinactive
  | thin =>
      exact h.of_alike halike (fun _ ha => ha) (fun _ hr => (newestPerSlot_sublist _).subset hr)
        fun slot _ => newestTo_newestPerSlot _ slot
  | skip hqueue _ => exact h.of_tail halike rfl hqueue rfl
  | fail hqueue _ _ _ _ _ => exact h.of_tail halike rfl hqueue rfl
  | write hqueue _ _ _ _ _ => exact h.of_tail halike rfl hqueue rfl
  | upload =>
      obtain ⟨isPending, device, hupload⟩ := w.exists_upload_eq
      rw [hupload] at halike ⊢
      exact h.of_same halike (fun _ ha => ha) rfl

theorem Requested.of_occurrence
    {o : Occurrence}
    (h : Requested w)
    (hnames : (Operation.occurrence o).Names w.scene) :
    Requested { w with scene := w.scene.occur o } := by
  have hextends := Scene.extends_occur w.scene o
  refine h.of_subset (fun _ ha => ha) (fun _ hr => hr) (fun _ _ => rfl) ?_
  intro ref hexist hbefore
  refine ⟨Nat.lt_of_lt_of_le hexist hextends.size, (hextends.same ref hexist).id, ?_⟩
  cases o with
  | deed other deed =>
      show Deed.IsFilled ((w.scene.deed other deed).bucket ref)
      by_cases hsame : ref = other
      · rw [hsame, Scene.bucket_deed_self deed hnames]
        exact Deed.perform_isFilled deed (hsame ▸ hbefore)
      · rwa [Scene.bucket_deed_of_ne deed hsame]
  | create id address coarser =>
      show Deed.IsFilled ((w.scene.addBucket (.create id address coarser)).2.bucket ref)
      rwa [Scene.bucket_addBucket_of_lt hexist]
  | _ => exact hbefore

/-- Identities that are unique now were so before. -/
theorem Scene.HasUniqueIds.of_extends
    {s s' : Scene}
    (h : s'.HasUniqueIds)
    (hextends : Scene.Extends s s') :
    s.HasUniqueIds := by
  intro i j hi hj hid
  refine h i j (Nat.lt_of_lt_of_le hi hextends.size) (Nat.lt_of_lt_of_le hj hextends.size) ?_
  rw [(hextends.same i hi).id, (hextends.same j hj).id, hid]

/-- In every run the newest request for a slot is its owner's, if the owner has one. -/
theorem Reachable.requested
    {allowed : World → Operation → Prop} {s₀ : Scene}
    (h : Reachable allowed s₀ w)
    (hids : w.scene.HasUniqueIds) :
    Requested w := by
  refine (h.of_moves (P := fun w => Sourced w ∧ (w.scene.HasUniqueIds → Requested w))
    (Q := fun _ => True) ?_ ?_ ?_ ?_ ?_).1.2 hids
  · intro width textures packing settings m s hcreate
    obtain ⟨_, _, _, _, _, rfl⟩ := create_eq_ok hcreate
    exact ⟨⟨⟨by simp, by simp⟩, fun _ => ⟨by simp, by simp⟩⟩, trivial⟩
  · rintro w op _ hother hnames _ ⟨hsourced, hrequested⟩ _
    refine ⟨⟨hsourced.of_shrinks (shrinks_step_of_not_isWork hother), fun hids => ?_⟩, trivial⟩
    have hbefore := hrequested (hids.of_extends (steady_step_of_not_isWork hother).scene)
    cases op with
    | occurrence o =>
        rw [w.step_occurrence]
        exact hbefore.of_occurrence hnames
    | setUp factory bytes =>
        obtain ⟨_, _, _, device, journal, hstep⟩ := w.exists_step_setUp_eq factory bytes
        rw [hstep]
        exact hbefore.of_same (Scene.alike_of_buckets rfl) (fun _ ha => ha) rfl
    | _ => cases hother
  · rintro w w' htidy hmove ⟨hsourced, hrequested⟩
    refine ⟨hsourced.of_move htidy hmove, fun hids => ?_⟩
    have hbefore := hids.of_extends hmove.alike.extends
    exact (hrequested hbefore).of_move hbefore htidy hsourced.known hmove
  · intro w w' _ _ _ _
    trivial
  · rintro _ w _ outside _ _ _ _ ⟨hsourced, hrequested⟩
    refine ⟨⟨⟨hsourced.known, hsourced.written⟩, fun hids => ?_⟩, trivial⟩
    exact (hrequested hids).of_same (.refl _) (fun _ ha => ha) rfl

end Requesting

end VoxelCache
