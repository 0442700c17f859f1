import VoxelCache.Proofs.SlotTextures
import VoxelCache.Proofs.Watching

/-!
# Faithful books

A payload reaches its slot by way of a notice and a request.  A bucket that is made
active with a payload is queued at once; otherwise the residency hears of the payload
when it arrives and whenever it is changed.  The books are **faithful** if every payload
of an active bucket is in its slot or on its way there.

**Invariants.**
* `Serviceable`: payloads have the right size for the slots, so that no write fails.
* `Faithful`: moreover every payload of an active bucket is shown or on its way.

**Results.**
* `newestTo_newestPerSlot`: thinning the queue keeps the newest request for each slot.
* `Move.keeps`: a move loses no payload that is shown or on its way.
* `Faithful.of_move`: every move of the residency keeps faith.
-/

namespace VoxelCache

section Requests

variable {queue rest : List WriteRequest} {r : WriteRequest} {slot : Nat}

/-- The newest of the requests for a slot. -/
def newestTo (queue : List WriteRequest) (slot : Nat) : Option WriteRequest :=
  queue.reverse.find? fun r => r.slot == slot

theorem newestTo_append_singleton :
    newestTo (queue ++ [r]) slot = if r.slot = slot then some r else newestTo queue slot := by
  by_cases hslot : r.slot = slot
  · simp [newestTo, hslot]
  · simp [newestTo, hslot]

theorem newestTo_cons :
    newestTo (r :: rest) slot =
      (newestTo rest slot).or (if r.slot = slot then some r else none) := by
  by_cases hslot : r.slot = slot
  · simp [newestTo, List.find?_append, hslot]
  · simp [newestTo, List.find?_append, hslot]

theorem isSome_newestTo_iff :
    (newestTo queue slot).isSome = true ↔ ∃ r ∈ queue, r.slot = slot := by
  simp [newestTo]

/-- A later request for the same slot makes an earlier one pointless. -/
theorem newestTo_cons_of_later
    (h : ∃ later ∈ rest, later.slot = r.slot) :
    newestTo (r :: rest) slot = newestTo rest slot := by
  rw [newestTo_cons]
  split
  · rename_i hslot
    obtain ⟨later, hlater⟩ := Option.isSome_iff_exists.mp
      (isSome_newestTo_iff.mpr (hslot ▸ h))
    rw [hlater]
    rfl
  · exact Option.or_none

theorem newestTo_newestPerSlot
    (queue : List WriteRequest) (slot : Nat) :
    newestTo (Residency.newestPerSlot queue) slot = newestTo queue slot := by
  fun_induction Residency.newestPerSlot queue with
  | case1 => rfl
  | case2 r rest hlater ih =>
      rw [ih, newestTo_cons_of_later]
      simpa using hlater
  | case3 r rest _ ih => rw [newestTo_cons, newestTo_cons, ih]

end Requests

section Invariant

open Residency

/-- Where the payload of an active bucket is. -/
inductive Delivers (w : World) (a : ActiveBucket) (payload : Payload) : Prop
  | shown :
      a.id ∈ w.residency.committed →
      w.residency.ShowsIn w.scene.device a.slot payload →
      Delivers w a payload
  | queued {r : WriteRequest} :
      newestTo w.residency.queue a.slot = some r →
      r.bucket = a.id →
      Delivers w a payload
  | announced {notice : Notice} :
      notice ∈ (w.scene.mailbox w.residency.mailbox).notices →
      notice.bucket = a.id →
      (notice.event = .loaded ∨ notice.event = .labeled) →
      Delivers w a payload

/-- Whether payloads have the right size for slots that can be written to. -/
structure Serviceable (bytes : Nat) (w : World) : Prop extends Watchful w where
  layout : w.residency.layout.IsProper
  sound : ∀ ref, Deed.IsSound bytes (w.scene.bucket ref)
  unequipped : w.residency.lookUpTexture = none → w.residency.committed = []
  equipped : w.residency.lookUpTexture.isSome = true →
    w.residency.IsEquipped w.scene.device bytes

/-- Whether no payload of an active bucket is lost, and none is about to be. -/
structure Faithful (bytes : Nat) (w : World) : Prop extends Serviceable bytes w where
  delivers : ∀ a ∈ w.residency.active, ∀ payload,
    (w.scene.bucket a.bucket).payload = some payload → Delivers w a payload

variable {bytes : Nat} {w w' w'' : World} {a b : ActiveBucket} {payload : Payload}

/-- What a move of the residency leaves as it is. -/
structure Keeps (bytes : Nat) (w w' : World) : Prop where
  layout : w'.residency.layout = w.residency.layout
  scene : Scene.Alike w.scene w'.scene
  lookUpTexture : w'.residency.lookUpTexture = w.residency.lookUpTexture
  committed : w.residency.lookUpTexture = none → w.residency.committed = [] →
    w'.residency.committed = []
  equipped : w.residency.IsEquipped w.scene.device bytes →
    w'.residency.IsEquipped w'.scene.device bytes
  /-- What was shown or on its way still is, and so is the payload of a new owner. -/
  carries : ∀ a ∈ w'.residency.active, ∀ payload,
    (w.scene.bucket a.bucket).payload = some payload →
    (a ∈ w.residency.active ∧ ∀ other, Delivers w a other → Delivers w' a other) ∨
      Delivers w' a payload

theorem Keeps.trans
    (h : Keeps bytes w w')
    (h' : Keeps bytes w' w'') :
    Keeps bytes w w'' where
  layout := h'.layout.trans h.layout
  scene := h.scene.trans h'.scene
  lookUpTexture := h'.lookUpTexture.trans h.lookUpTexture
  committed hnone hblank :=
    h'.committed (h.lookUpTexture.trans hnone) (h.committed hnone hblank)
  equipped hequipped := h'.equipped (h.equipped hequipped)
  carries a ha payload hpayload := by
    rcases h'.carries a ha payload ((h.scene.payload _).trans hpayload) with
      ⟨hmid, hlater⟩ | hdelivers
    · rcases h.carries a hmid payload hpayload with ⟨hactive, hfirst⟩ | hdelivers
      · exact .inl ⟨hactive, fun other hother => hlater other (hfirst other hother)⟩
      · exact .inr (hlater payload hdelivers)
    · exact .inr hdelivers

theorem isSound_of_alike
    {s s' : Scene} {ref : BucketRef}
    (h : Deed.IsSound bytes (s.bucket ref))
    (halike : Scene.Alike s s') :
    Deed.IsSound bytes (s'.bucket ref) := by
  constructor
  · rw [halike.payload]
    exact h.size
  · rw [halike.isCollected, halike.payload]
    exact h.collected

theorem Serviceable.of_keeps
    (h : Serviceable bytes w)
    (hwatchful : Watchful w')
    (hkeeps : Keeps bytes w w') :
    Serviceable bytes w' where
  toWatchful := hwatchful
  layout := by
    rw [hkeeps.layout]
    exact h.layout
  sound ref := isSound_of_alike (h.sound ref) hkeeps.scene
  unequipped hnone := by
    rw [hkeeps.lookUpTexture] at hnone
    exact hkeeps.committed hnone (h.unequipped hnone)
  equipped hsome := by
    rw [hkeeps.lookUpTexture] at hsome
    exact hkeeps.equipped (h.equipped hsome)

theorem Faithful.of_keeps
    (h : Faithful bytes w)
    (hwatchful : Watchful w')
    (hkeeps : Keeps bytes w w') :
    Faithful bytes w' where
  toServiceable := h.toServiceable.of_keeps hwatchful hkeeps
  delivers a ha payload hpayload := by
    rw [hkeeps.scene.payload] at hpayload
    rcases hkeeps.carries a ha payload hpayload with ⟨hactive, hcarries⟩ | hdelivers
    · exact hcarries payload (h.delivers a hactive payload hpayload)
    · exact hdelivers

end Invariant

section Hearing

open Residency

variable {bytes : Nat} {w : World} {a b : ActiveBucket} {m : Residency} {s : Scene}

/-- A queued write of the payload of an active bucket is the newest one for its slot. -/
theorem newestTo_enqueue_self
    (htidy : Tidy m)
    (hb : b ∈ m.active)
    (hpayload : (s.bucket b.bucket).hasPayload = true) :
    newestTo (m.enqueue s b.id).queue b.slot = some ⟨b.id, b.slot⟩ := by
  have hfind : m.find? b.id = some b := htidy.find?_eq_some_iff.mpr ⟨hb, rfl⟩
  have hpending : m.pendingWrite s b.id = [⟨b.id, b.slot⟩] := by
    simp [pendingWrite, hfind, hpayload]
  rw [enqueue, hpending, newestTo_append_singleton, if_pos rfl]

/-- Queuing a write takes the newest request for a slot away from nobody. -/
theorem newestTo_enqueue
    {r : WriteRequest}
    (htidy : Tidy m)
    (hb : b ∈ m.active)
    (hnewest : newestTo m.queue b.slot = some r)
    (hr : r.bucket = b.id)
    (s : Scene) (id : BucketId) :
    ∃ r, newestTo (m.enqueue s id).queue b.slot = some r ∧ r.bucket = b.id := by
  unfold enqueue pendingWrite
  dsimp only
  split
  · rw [List.append_nil]
    exact ⟨r, hnewest, hr⟩
  · rename_i a ha
    split
    · rw [newestTo_append_singleton]
      split
      · rename_i hslot
        obtain ⟨hactive, hid⟩ := find?_eq_some ha
        have hsame : a = b := htidy.eq_of_slot hactive hb hslot
        exact ⟨_, rfl, by rw [← hsame, hid]⟩
      · exact ⟨r, hnewest, hr⟩
    · rw [List.append_nil]
      exact ⟨r, hnewest, hr⟩

/-- The payload of a bucket whose notice is read is queued in exchange. -/
theorem keeps_pop_enqueue
    {notice : Notice} {rest : List Notice}
    (h : Watchful w)
    (htidy : Tidy w.residency)
    (hnotices : (w.scene.mailbox w.residency.mailbox).notices = notice :: rest) :
    Keeps bytes w
      { w.pop rest with residency := w.residency.enqueue (w.pop rest).scene notice.bucket } := by
  have halike : Scene.Alike w.scene (w.pop rest).scene := Scene.alike_of_buckets rfl
  refine ⟨rfl, halike, rfl, fun _ h => h, fun h => h.of_same rfl rfl rfl fun _ _ => rfl, ?_⟩
  intro b hb payload hpayload
  refine .inl ⟨hb, ?_⟩
  intro other hbefore
  cases hbefore with
  | shown hcommitted hshows => exact .shown hcommitted hshows
  | queued hnewest hr =>
      obtain ⟨r, hnewest, hr⟩ :=
        newestTo_enqueue htidy hb hnewest hr (w.pop rest).scene notice.bucket
      exact .queued hnewest hr
  | announced hmem hbucket hevent =>
      rw [hnotices] at hmem
      rcases List.mem_cons.mp hmem with rfl | hmem
      · have hhas : ((w.pop rest).scene.bucket b.bucket).hasPayload = true := by
          rw [Bucket.hasPayload, halike.payload, hpayload]
          rfl
        have hnewest := newestTo_enqueue_self htidy hb hhas
        rw [← hbucket] at hnewest
        exact .queued hnewest hbucket
      · refine .announced ?_ hbucket hevent
        exact (h.mailbox_pop rest).symm ▸ hmem

/-- A notice that a bucket is collected says nothing about a payload. -/
theorem keeps_pop_collected
    {notice : Notice} {rest : List Notice}
    (h : Watchful w)
    (hnotices : (w.scene.mailbox w.residency.mailbox).notices = notice :: rest)
    (hevent : notice.event = .collected) :
    Keeps bytes w (w.pop rest) := by
  refine ⟨rfl, Scene.alike_of_buckets rfl, rfl, fun _ h => h, fun h => h, ?_⟩
  intro b hb payload _
  refine .inl ⟨hb, ?_⟩
  intro other hbefore
  cases hbefore with
  | shown hcommitted hshows => exact .shown hcommitted hshows
  | queued hnewest hr => exact .queued hnewest hr
  | announced hmem hbucket hpayload =>
      rw [hnotices] at hmem
      rcases List.mem_cons.mp hmem with rfl | hmem
      · rw [hevent] at hpayload
        rcases hpayload with h | h <;> cases h
      · refine .announced ?_ hbucket hpayload
        exact (h.mailbox_pop rest).symm ▸ hmem

end Hearing

section Slots

open Residency

variable {bytes : Nat} {w : World} {a b : ActiveBucket}

theorem device_dismiss
    (m : Residency) (s : Scene) (a : ActiveBucket) :
    (m.dismiss s a).device = s.device := by
  simp only [dismiss]
  split <;> rfl

theorem keeps_forgo (w : World) (a : ActiveBucket) : Keeps bytes w (w.forgo a) where
  layout := rfl
  scene := alike_dismiss _ _ _
  lookUpTexture := rfl
  committed _ hnone := by
    have hcommitted : (w.forgo a).residency.committed =
        w.residency.committed.filter fun c => c != a.id := rfl
    rw [hcommitted, hnone]
    rfl
  equipped hequipped := by
    refine hequipped.of_same rfl rfl rfl ?_
    intro ref _
    exact congrArg (Device.texture · ref) (device_dismiss w.residency w.scene a)
  carries b hb payload _ := by
    obtain ⟨hactive, hid⟩ := List.mem_filter.mp hb
    refine .inl ⟨hactive, ?_⟩
    intro other hbefore
    cases hbefore with
    | shown hcommitted hshows =>
        refine .shown (List.mem_filter.mpr ⟨hcommitted, hid⟩) (hshows.of_same rfl rfl ?_)
        exact congrArg (Device.texture · _) (device_dismiss w.residency w.scene a)
    | queued hnewest hr => exact .queued hnewest hr
    | announced hmem hbucket hevent =>
        refine .announced ?_ hbucket hevent
        have hmailbox : (w.forgo a).scene.mailbox (w.forgo a).residency.mailbox =
            w.scene.mailbox w.residency.mailbox := sceneMailbox_dismiss w.residency w.scene a _
        rw [hmailbox]
        exact hmem

theorem keeps_hear
    {notice : Notice} {rest : List Notice}
    (h : Watchful w)
    (htidy : Tidy w.residency)
    (hnotices : (w.scene.mailbox w.residency.mailbox).notices = notice :: rest) :
    Keeps bytes w (w.hear notice rest) := by
  rcases w.hear_cases notice rest with
    ⟨_, hhear⟩ | ⟨hevent, ⟨_, hhear⟩ | ⟨a, _, _, hhear⟩⟩
  · rw [hhear]
    exact keeps_pop_enqueue h htidy hnotices
  · rw [hhear]
    exact keeps_pop_collected h hnotices hevent
  · rw [hhear]
    exact (keeps_pop_collected h hnotices hevent).trans (keeps_forgo _ a)

theorem keeps_reserve
    {ref : BucketRef} {slot : Nat} {free : List Nat}
    (htidy : Tidy w.residency)
    (hfree : w.residency.free = slot :: free)
    (hinactive : w.residency.isActive (w.scene.bucket ref).id = false) :
    Keeps bytes w (w.reserve ref slot free) := by
  let subscribed := w.scene.subscribe ref (interestIn (w.scene.bucket ref)) w.residency.mailbox
  let new : ActiveBucket := ⟨(w.scene.bucket ref).id, ref, slot, subscribed.1⟩
  let m : Residency :=
    { w.residency with free := free, active := w.residency.active ++ [new] }
  have hafter : w.reserve ref slot free =
      ⟨m.enqueue subscribed.2 new.id, subscribed.2, w.chronicle⟩ := rfl
  have halike : Scene.Alike w.scene subscribed.2 := Scene.alike_subscribe _ _ _ _
  have htidy' : Tidy m := (htidy.reserve (s := w.scene) hfree hinactive).of_eq rfl rfl rfl rfl
  rw [hafter]
  refine ⟨rfl, halike, rfl, fun _ h => h, fun h => h.of_same rfl rfl rfl fun _ _ => rfl, ?_⟩
  intro a ha payload hpayload
  rcases List.mem_append.mp ha with hold | hnew
  · refine .inl ⟨hold, ?_⟩
    intro other hbefore
    cases hbefore with
    | shown hcommitted hshows => exact .shown hcommitted hshows
    | queued hnewest hr =>
        obtain ⟨r, hnewest, hr⟩ := newestTo_enqueue htidy' ha hnewest hr subscribed.2 new.id
        exact .queued hnewest hr
    | announced hmem hbucket hevent => exact .announced hmem hbucket hevent
  · obtain rfl : a = new := List.mem_singleton.mp hnew
    have hhas : (subscribed.2.bucket ref).hasPayload = true := by
      rw [Bucket.hasPayload, halike.payload, hpayload]
      rfl
    exact .inr (.queued (newestTo_enqueue_self htidy' ha hhas) rfl)

end Slots

section Writing

open Residency

variable {bytes : Nat} {w w' : World} {a b : ActiveBucket}

/-- A request that is dropped was not the newest one of an active bucket with a payload. -/
theorem keeps_skip
    {r : WriteRequest} {rest : List WriteRequest}
    (htidy : Tidy w.residency)
    (hqueue : w.residency.queue = r :: rest)
    (hskip : ∀ a, w.residency.find? r.bucket = some a → a.slot = r.slot →
      (w.scene.bucket a.bucket).payload = none) :
    Keeps bytes w { w with residency := { w.residency with queue := rest } } := by
  refine ⟨rfl, .refl _, rfl, fun _ h => h, fun h => h.of_same rfl rfl rfl fun _ _ => rfl, ?_⟩
  intro b hb payload hpayload
  refine .inl ⟨hb, ?_⟩
  intro other hbefore
  cases hbefore with
  | shown hcommitted hshows => exact .shown hcommitted hshows
  | announced hmem hbucket hevent => exact .announced hmem hbucket hevent
  | @queued newest hnewest hr =>
      rw [hqueue, newestTo_cons] at hnewest
      cases hrest : newestTo rest b.slot with
      | some later =>
          rw [hrest] at hnewest
          cases hnewest
          exact .queued hrest hr
      | none =>
          rw [hrest, Option.none_or] at hnewest
          split at hnewest
          · rename_i hslot
            cases hnewest
            have hfind : w.residency.find? r.bucket = some b :=
              htidy.find?_eq_some_iff.mpr ⟨hb, hr.symm⟩
            rw [hskip b hfind hslot.symm] at hpayload
            cases hpayload
          · cases hnewest

theorem device_markCommitted (m : Residency) (s : Scene) (a : ActiveBucket) :
    (m.markCommitted s a).2.device = s.device := by
  rcases m.markCommitted_scene s a with h | h
  · rw [h]
  · rw [h]
    rfl

/-- A payload that is written is in its slot, and other slots are not disturbed. -/
theorem keeps_write
    {r : WriteRequest} {rest : List WriteRequest} {payload : Payload} {s : Scene}
    (h : Serviceable bytes w)
    (htidy : Tidy w.residency)
    (hqueue : w.residency.queue = r :: rest)
    (htexture : w.residency.lookUpTexture.isSome = true)
    (hfind : w.residency.find? r.bucket = some a)
    (hslot : a.slot = r.slot)
    (hpayload : (w.scene.bucket a.bucket).payload = some payload)
    (hwrite : w.residency.writeSlot w.scene r.slot payload = (.ok (), s)) :
    Keeps bytes w (w.commit a rest s) := by
  have ha := (find?_eq_some hfind).1
  obtain ⟨s', hwrite', hequipped, hshown, hothers⟩ :=
    writeSlot_of_isEquipped h.layout (h.equipped htexture) (htidy.slot_lt ha)
      ((h.sound a.bucket).size payload hpayload)
  rw [hslot, hwrite] at hwrite'
  cases hwrite'
  have hscene : Scene.Alike w.scene (w.commit a rest s).scene :=
    (alike_writeSlot hwrite).trans (alike_markCommitted _ s a)
  have hdevice : (w.commit a rest s).scene.device = s.device :=
    device_markCommitted { w.residency with queue := rest } s a
  have hmark : ∀ id, id ∈ (w.commit a rest s).residency.committed ↔
      id = a.id ∨ id ∈ w.residency.committed :=
    fun _ => mem_committed_markCommitted (s := s)
  refine ⟨rfl, hscene, rfl, ?_, ?_, ?_⟩
  · intro hnone
    rw [hnone] at htexture
    cases htexture
  · intro _
    rw [hdevice]
    exact hequipped.of_same rfl rfl rfl fun _ _ => rfl
  · intro b hb shown hb'
    by_cases hsame : b = a
    · subst hsame
      rw [hpayload] at hb'
      cases hb'
      refine .inr (.shown ((hmark _).mpr (.inl rfl)) ?_)
      rw [hdevice]
      exact hshown.of_same rfl rfl rfl
    · have hne : b.slot ≠ a.slot := fun hslots => hsame (htidy.eq_of_slot hb ha hslots)
      refine .inl ⟨hb, ?_⟩
      intro other hbefore
      cases hbefore with
      | shown hcommitted hshows =>
          refine .shown ((hmark _).mpr (.inr hcommitted)) ?_
          rw [hdevice]
          exact ((hothers b.slot (htidy.slot_lt hb) hne).shows hshows).of_same rfl rfl rfl
      | queued hnewest hr =>
          rw [hqueue, newestTo_cons, if_neg (by rw [← hslot]; exact Ne.symm hne),
            Option.or_none] at hnewest
          exact .queued hnewest hr
      | announced hmem hbucket hevent =>
          refine .announced ?_ hbucket hevent
          have hhere : (w.commit a rest s).scene.mailbox w.residency.mailbox =
              w.scene.mailbox w.residency.mailbox := sceneMailbox_commit hwrite _
          exact hhere.symm ▸ hmem

theorem keeps_thin (w : World) :
    Keeps bytes w
      { w with
        residency :=
          { w.residency with queue := newestPerSlot w.residency.queue } } := by
  refine ⟨rfl, .refl _, rfl, fun _ h => h, fun h => h.of_same rfl rfl rfl fun _ _ => rfl, ?_⟩
  intro b hb payload _
  refine .inl ⟨hb, ?_⟩
  intro other hbefore
  cases hbefore with
  | shown hcommitted hshows => exact .shown hcommitted hshows
  | queued hnewest hr => exact .queued ((newestTo_newestPerSlot _ _).trans hnewest) hr
  | announced hmem hbucket hevent => exact .announced hmem hbucket hevent

/-- Other books and the look-up texture do not matter. -/
theorem Serviceable.keeps_of_books
    (h : Serviceable bytes w)
    (htidy : Tidy w.residency)
    (hlayout : w'.residency.layout = w.residency.layout)
    (hmailbox : w'.residency.mailbox = w.residency.mailbox)
    (hactive : w'.residency.active = w.residency.active)
    (hcommitted : w'.residency.committed = w.residency.committed)
    (hqueue : w'.residency.queue = w.residency.queue)
    (hdata : w'.residency.dataTextures = w.residency.dataTextures)
    (hlookUp : w'.residency.lookUpTexture = w.residency.lookUpTexture)
    (hbuckets : w'.scene.buckets = w.scene.buckets)
    (hnotices : w'.scene.mailbox w.residency.mailbox = w.scene.mailbox w.residency.mailbox)
    (hdevice : ∀ ref, w.residency.lookUpTexture ≠ some ref →
      w'.scene.device.texture ref = w.scene.device.texture ref) :
    Keeps bytes w w' := by
  refine ⟨hlayout, Scene.alike_of_buckets hbuckets, hlookUp, ?_, ?_, ?_⟩
  · intro _ hnone
    rw [hcommitted, hnone]
  · intro hequipped
    refine hequipped.of_same hlayout hdata hlookUp ?_
    intro ref href
    exact hdevice ref fun hsame => hequipped.apart ref hsame href
  · intro a ha payload _
    rw [hactive] at ha
    refine .inl ⟨ha, ?_⟩
    intro other hbefore
    cases hbefore with
    | shown hmem hshows =>
        refine .shown (hcommitted ▸ hmem) (hshows.of_same hlayout hdata ?_)
        refine hdevice _ fun hsame => ?_
        have hequipped := h.equipped (by rw [hsame]; rfl)
        exact hequipped.apart _ hsame (hequipped.slotTexture_mem (htidy.slot_lt ha))
    | queued hnewest hr => exact .queued (hqueue ▸ hnewest) hr
    | announced hmem hid hevent =>
        refine .announced ?_ hid hevent
        rw [hmailbox, hnotices]
        exact hmem

theorem keeps_upload
    (h : Serviceable bytes w)
    (htidy : Tidy w.residency) :
    Keeps bytes w w.upload := by
  obtain ⟨isPending, hresidency⟩ := w.residency.upload_residency w.scene
  obtain ⟨device, hscene⟩ := w.residency.upload_scene w.scene
  have hafter : w.upload =
      ⟨(w.residency.upload w.scene).2.1, (w.residency.upload w.scene).2.2, w.chronicle⟩ := rfl
  rw [hafter, hresidency]
  refine h.keeps_of_books htidy rfl rfl rfl rfl rfl rfl rfl ?_ ?_
    fun _ => texture_upload_of_ne w.scene
  · dsimp only
    rw [hscene]
  · dsimp only
    rw [hscene]
    rfl

/-- The payload of an active bucket can be written into its slot. -/
theorem exists_writeSlot
    {payload : Payload}
    (h : Serviceable bytes w)
    (htidy : Tidy w.residency)
    (htexture : w.residency.lookUpTexture.isSome = true)
    (ha : a ∈ w.residency.active)
    (hpayload : (w.scene.bucket a.bucket).payload = some payload) :
    ∃ s, w.residency.writeSlot w.scene a.slot payload = (.ok (), s) := by
  obtain ⟨s, hwrite, _⟩ := writeSlot_of_isEquipped h.layout (h.equipped htexture)
    (htidy.slot_lt ha) ((h.sound a.bucket).size payload hpayload)
  exact ⟨s, hwrite⟩

/-- A move loses no payload that is shown or on its way. -/
theorem Move.keeps
    {opening : Bool}
    (hmove : Move opening w w')
    (h : Serviceable bytes w)
    (htidy : Tidy w.residency) :
    Keeps bytes w w' := by
  cases hmove with
  | journal => exact h.keeps_of_books htidy rfl rfl rfl rfl rfl rfl rfl rfl rfl fun _ _ => rfl
  | hear hnotices => exact keeps_hear h.toWatchful htidy hnotices
  | forgo _ => exact keeps_forgo w _
  | aim => exact h.keeps_of_books htidy rfl rfl rfl rfl rfl rfl rfl rfl rfl fun _ _ => rfl
  | reserve hfree _ _ hinactive => exact keeps_reserve htidy hfree hinactive
  | thin => exact keeps_thin w
  | skip hqueue hskip => exact keeps_skip htidy hqueue hskip
  | fail _ htexture hfind hslot hpayload hfail =>
      obtain ⟨_, hwrite⟩ :=
        exists_writeSlot h htidy htexture (find?_eq_some hfind).1 hpayload
      rw [hslot, hfail] at hwrite
      cases hwrite
  | write hqueue htexture hfind hslot hpayload hwrite =>
      exact keeps_write h htidy hqueue htexture hfind hslot hpayload hwrite
  | upload => exact keeps_upload h htidy

theorem Serviceable.of_move
    {opening : Bool}
    (h : Serviceable bytes w)
    (htidy : Tidy w.residency)
    (hmove : Move opening w w') :
    Serviceable bytes w' :=
  h.of_keeps (h.toWatchful.of_move hmove) (hmove.keeps h htidy)

theorem Faithful.of_move
    {opening : Bool}
    (h : Faithful bytes w)
    (htidy : Tidy w.residency)
    (hmove : Move opening w w') :
    Faithful bytes w' :=
  h.of_keeps (h.toWatchful.of_move hmove) (hmove.keeps h.toServiceable htidy)

end Writing

end VoxelCache
