import VoxelCache.Proofs.QueueOrder
import VoxelCache.Proofs.UploadedEntries

/-!
# Payloads that do not fit

A payload of the wrong length is rejected by the texture of its slot.  The write fails, and the
frame ends with it: its request is gone, those behind it wait for the next frame, and the look-up
entries are not looked after.  So misfits cost one frame each, in the order of their requests,
and whatever else was asked for is written in the meantime.

**Results.**
* `Fitted.commit_outcome`: a request is skipped, fails for a misfit or is carried out.
* `Fitted.commitAll_cases`: a pass works off the requests up to the first misfit, and all of them
  if there is none.
* `Underway.frame_cases`: so does a frame, and what it has left over is not changed any more
  before the next frame.
* `Requested.length_misfitSlots`: there are as many such frames as slots with misfits.
* `misfits_rejected_oneByOne`: what becomes of misfits and of all others.
-/

namespace VoxelCache

section Sizes

variable {bytes : Nat} {s s' : Scene} {a : ActiveBucket}

/-- Whether the payload of a bucket has the length that its slot takes. -/
def Scene.Fits (s : Scene) (bytes : Nat) (a : ActiveBucket) : Prop :=
  ∃ payload, (s.bucket a.bucket).payload = some payload ∧ payload.size = bucketVoxels * bytes

/-- Whether a bucket has a payload of another length. -/
def Scene.isMisfit (s : Scene) (bytes : Nat) (a : ActiveBucket) : Bool :=
  (s.bucket a.bucket).payload.any fun payload => payload.size != bucketVoxels * bytes

theorem Scene.isMisfit_iff :
    s.isMisfit bytes a = true ↔
      ∃ payload, (s.bucket a.bucket).payload = some payload ∧
        payload.size ≠ bucketVoxels * bytes := by
  simp [isMisfit, Option.any_eq_true]

theorem Scene.not_fits_of_isMisfit
    (h : s.isMisfit bytes a = true) :
    ¬ s.Fits bytes a := by
  obtain ⟨payload, hpayload, hsize⟩ := isMisfit_iff.mp h
  rintro ⟨other, hother, hfits⟩
  rw [hpayload, Option.some.injEq] at hother
  exact hsize (hother ▸ hfits)

theorem Scene.Alike.fits_iff
    (h : Scene.Alike s s') :
    s'.Fits bytes a ↔ s.Fits bytes a := by
  rw [Scene.Fits, h.payload, Scene.Fits]

theorem Scene.Alike.isMisfit_eq
    (h : Scene.Alike s s') :
    s'.isMisfit bytes a = s.isMisfit bytes a := by
  rw [Scene.isMisfit, h.payload, Scene.isMisfit]

end Sizes

namespace Residency

section Outcomes

variable {bytes : Nat} {m m' m'' : Residency} {s s' s'' : Scene} {a : ActiveBucket}
  {r : WriteRequest} {queue later : List WriteRequest}

/-- Whether a request is for an active bucket whose payload does not fit. -/
def asksForMisfit (m : Residency) (s : Scene) (bytes : Nat) (r : WriteRequest) : Bool :=
  m.active.any fun a => a.request == r && s.isMisfit bytes a

theorem asksForMisfit_iff :
    m.asksForMisfit s bytes r = true ↔
      ∃ a ∈ m.active, a.request = r ∧ s.isMisfit bytes a = true := by
  simp [asksForMisfit]

theorem asksForMisfit_congr
    (hactive : m'.active = m.active)
    (halike : Scene.Alike s s') :
    m'.asksForMisfit s' bytes = m.asksForMisfit s bytes := by
  funext r
  simp only [asksForMisfit, hactive, halike.isMisfit_eq]

/-- The slots whose owners are asked for although their payloads do not fit. -/
def misfitSlots (m : Residency) (s : Scene) (bytes : Nat) : List Nat :=
  (List.range m.capacity).filter fun slot =>
    m.active.any fun a => a.slot == slot && m.queue.contains a.request && s.isMisfit bytes a

/-- Different owners ask for different things. -/
theorem eq_of_request_eq
    {b : ActiveBucket}
    (htidy : Tidy m)
    (ha : a ∈ m.active)
    (hb : b ∈ m.active)
    (h : a.request = b.request) :
    a = b :=
  htidy.eq_of_id ha hb (congrArg WriteRequest.bucket h)

/-- A request is skipped, or it fails as the payload does not fit, or the payload is written. -/
theorem Fitted.commit_outcome
    (h : Fitted bytes m s)
    (r : WriteRequest) :
    (∃ journal, m.commit s r = (.ok false, m, { s with journal := journal }) ∧
      ∀ a ∈ m.active, a.request = r → (s.bucket a.bucket).payload = none) ∨
    (∃ fault, m.commit s r = (.error fault, m, s) ∧ m.asksForMisfit s bytes r = true) ∨
    ∃ a ∈ m.active, ∃ written, a.request = r ∧ s.Fits bytes a ∧
      m.commit s r = (.ok true, m.markCommitted written a) ∧
      Fitted bytes (m.markCommitted written a).1 (m.markCommitted written a).2 ∧
      Scene.Alike s (m.markCommitted written a).2 := by
  rcases m.commit_cases s r with
    ⟨journal, hcommit, hskip⟩ | ⟨a, payload, hfind, hslot, hpayload, hwrite⟩
  · refine .inl ⟨journal, hcommit, ?_⟩
    rintro a ha rfl
    exact hskip a (h.tidy.find?_eq_some_iff.mpr ⟨ha, rfl⟩) rfl
  · obtain ⟨ha, hid⟩ := find?_eq_some hfind
    have hrequest : a.request = r := by rw [ActiveBucket.request, hid, hslot]
    rw [← hslot] at hwrite
    rcases hwrite with ⟨fault, s', hwrite, hcommit⟩ | ⟨s', hwrite, hcommit⟩
    · obtain ⟨hsize, rfl⟩ := h.eq_of_writeSlot ha hwrite
      exact .inr (.inl ⟨fault, hcommit, asksForMisfit_iff.mpr
        ⟨a, ha, hrequest, Scene.isMisfit_iff.mpr ⟨payload, hpayload, hsize⟩⟩⟩)
    · have hsize := h.size_of_writeSlot ha hwrite
      exact .inr (.inr ⟨a, ha, s', hrequest, ⟨payload, hpayload, hsize⟩, hcommit,
        h.markCommitted ha (h.of_writeSlot ha hwrite).1,
        (alike_writeSlot hwrite).trans (alike_markCommitted m s' a)⟩)

/--
Whether some requests were worked off: buckets whose payloads fit are shown if they were asked
for, and the slots of all others were left alone.
-/
structure WorksOff
    (bytes : Nat) (queue : List WriteRequest) (m m' : Residency) (s s' : Scene) : Prop where
  fitted : Fitted bytes m' s'
  active : m'.active = m.active
  scene : Scene.Alike s s'
  displays : ∀ a ∈ m.active, a.request ∈ queue → ∀ payload,
    (s.bucket a.bucket).payload = some payload → payload.size = bucketVoxels * bytes →
    Displays bytes a payload m' s'
  bypasses : ∀ a ∈ m.active, ¬ (a.request ∈ queue ∧ s.Fits bytes a) → Bypasses bytes a m m' s s'

/-- The case of what leaves all slots alone. -/
theorem worksOff_nil
    (hfitted : Fitted bytes m' s')
    (hactive : m'.active = m.active)
    (hscene : Scene.Alike s s')
    (hbypasses : ∀ a ∈ m.active, Bypasses bytes a m m' s s') :
    WorksOff bytes [] m m' s s' :=
  ⟨hfitted, hactive, hscene, nofun, fun a ha _ => hbypasses a ha⟩

theorem WorksOff.append
    (h : WorksOff bytes queue m m' s s')
    (h' : WorksOff bytes later m' m'' s' s'') :
    WorksOff bytes (queue ++ later) m m'' s s'' := by
  refine ⟨h'.fitted, h'.active.trans h.active, h.scene.trans h'.scene, ?_, ?_⟩
  · intro a ha hrequest payload hpayload hsize
    have ha' : a ∈ m'.active := h.active ▸ ha
    by_cases hlater : a.request ∈ later
    · exact h'.displays a ha' hlater payload ((h.scene.payload _).trans hpayload) hsize
    · have hbefore := (List.mem_append.mp hrequest).resolve_right hlater
      exact (h.displays a ha hbefore payload hpayload hsize).of_bypasses
        (h'.bypasses a ha' fun hboth => hlater hboth.1)
  · intro a ha hneither
    have hfirst := h.bypasses a ha fun hboth =>
      hneither ⟨List.mem_append_left _ hboth.1, hboth.2⟩
    refine hfirst.trans (h'.bypasses a hfirst.active fun hboth => ?_)
    exact hneither ⟨List.mem_append_right _ hboth.1, h.scene.fits_iff.mp hboth.2⟩

/-- What comes after the last request has nothing to do with slots. -/
theorem WorksOff.of_nil
    (h : WorksOff bytes queue m m' s s')
    (h' : WorksOff bytes [] m' m'' s' s'') :
    WorksOff bytes queue m m'' s s'' :=
  List.append_nil queue ▸ h.append h'

theorem Fitted.worksOff_refl
    (h : Fitted bytes m s) :
    WorksOff bytes [] m m s s :=
  worksOff_nil h rfl (.refl s) fun _ ha => h.bypasses_refl ha

theorem Fitted.worksOff_queue
    (h : Fitted bytes m s)
    (queue : List WriteRequest) :
    WorksOff bytes [] m { m with queue := queue } s s :=
  worksOff_nil
    ⟨h.tidy.of_eq rfl rfl rfl rfl, h.layout, h.equipped.of_same rfl rfl rfl fun _ _ => rfl⟩
    rfl (.refl s) fun _ ha => h.bypasses_queue ha queue

theorem Fitted.worksOff_journal
    (h : Fitted bytes m s)
    (journal : Journal) :
    WorksOff bytes [] m m s { s with journal := journal } :=
  worksOff_nil ⟨h.tidy, h.layout, h.equipped⟩ rfl (Scene.alike_of_buckets rfl)
    fun _ ha => (h.bypasses_refl ha).of_journal journal

/-- No bucket ceases to be committed. -/
theorem WorksOff.kept
    {id : BucketId}
    (h : WorksOff bytes queue m m' s s')
    (htidy : Tidy m)
    (hid : id ∈ m.committed) :
    id ∈ m'.committed := by
  obtain ⟨a, ha, rfl⟩ := List.mem_map.mp (htidy.committed_active id hid)
  by_cases hboth : a.request ∈ queue ∧ s.Fits bytes a
  · obtain ⟨hrequest, payload, hpayload, hsize⟩ := hboth
    exact (h.displays a ha hrequest payload hpayload hsize).committed
  · exact (h.bypasses a ha hboth).committed.mpr hid

/-- A request is worked off whatever comes of it. -/
theorem Fitted.worksOff_commit
    (h : Fitted bytes m s)
    (r : WriteRequest) :
    WorksOff bytes [r] m (m.commit s r).2.1 s (m.commit s r).2.2 := by
  have hothers : ∀ a ∈ m.active, r ≠ a.request →
      Bypasses bytes a m (m.commit s r).2.1 s (m.commit s r).2.2 :=
    fun a ha => h.bypasses_commit ha
  rcases h.commit_outcome r with
    ⟨journal, hcommit, hskip⟩ | ⟨fault, hcommit, hmisfit⟩ |
      ⟨b, hb, written, hrequest, hfits, hcommit, hfitted, halike⟩
  · rw [hcommit]
    have hlogged := h.worksOff_journal journal
    refine ⟨hlogged.fitted, rfl, hlogged.scene, ?_, fun a ha _ => hlogged.bypasses a ha nofun⟩
    intro a ha hown payload hpayload
    rw [hskip a ha (List.mem_singleton.mp hown)] at hpayload
    cases hpayload
  · rw [hcommit]
    refine ⟨h, rfl, .refl s, ?_, fun a ha _ => h.bypasses_refl ha⟩
    intro a ha hown payload hpayload hsize
    obtain ⟨b, hb, hrequest, hother⟩ := asksForMisfit_iff.mp hmisfit
    obtain rfl := eq_of_request_eq h.tidy ha hb ((List.mem_singleton.mp hown).trans hrequest.symm)
    exact absurd ⟨payload, hpayload, hsize⟩ (Scene.not_fits_of_isMisfit hother)
  · have hcommitted : m.commit s b.request = (.ok true, m.markCommitted written b) :=
      hrequest ▸ hcommit
    rw [hcommit] at hothers ⊢
    refine ⟨hfitted, rfl, halike, ?_, ?_⟩
    · intro a ha hown payload hpayload _
      obtain rfl := eq_of_request_eq h.tidy ha hb ((List.mem_singleton.mp hown).trans hrequest.symm)
      exact h.displays_commit ha hpayload hcommitted
    · intro a ha hneither
      refine hothers a ha ?_
      intro hsame
      obtain rfl := eq_of_request_eq h.tidy hb ha (hrequest.trans hsame)
      exact hneither ⟨List.mem_singleton.mpr hsame.symm, hfits⟩

/-- A request fails exactly if it is for a misfit. -/
theorem Fitted.commit_eq_error_iff
    (h : Fitted bytes m s) :
    (∃ fault, (m.commit s r).1 = .error fault) ↔ m.asksForMisfit s bytes r = true := by
  rcases h.commit_outcome r with
    ⟨journal, hcommit, hskip⟩ | ⟨fault, hcommit, hmisfit⟩ | ⟨b, hb, written, rfl, hfits, hcommit, _⟩
  · rw [hcommit]
    constructor
    · rintro ⟨fault, hfails⟩
      cases hfails
    · intro hmisfit
      obtain ⟨a, ha, hrequest, hmisfit⟩ := asksForMisfit_iff.mp hmisfit
      obtain ⟨payload, hpayload, _⟩ := Scene.isMisfit_iff.mp hmisfit
      rw [hskip a ha hrequest] at hpayload
      cases hpayload
  · exact ⟨fun _ => hmisfit, fun _ => ⟨fault, by rw [hcommit]⟩⟩
  · rw [hcommit]
    constructor
    · rintro ⟨fault, hfails⟩
      cases hfails
    · intro hmisfit
      obtain ⟨a, ha, hrequest, hother⟩ := asksForMisfit_iff.mp hmisfit
      obtain rfl := eq_of_request_eq h.tidy ha hb hrequest
      exact absurd hfits (Scene.not_fits_of_isMisfit hother)

/-- A pass works off the requests up to the first one for a misfit, and all if there is none. -/
theorem Fitted.commitAll_cases
    (h : Fitted bytes m s)
    (done : Nat) (queue : List WriteRequest) :
    (queue.filter (m.asksForMisfit s bytes) = [] ∧
      ∃ count m' s', m.commitAll s .unlimited done queue = (.ok count, m', s') ∧
        WorksOff bytes queue m m' s s') ∨
    ∃ before r rest fault m' s', queue = before ++ r :: rest ∧
      before.filter (m.asksForMisfit s bytes) = [] ∧ m.asksForMisfit s bytes r = true ∧
      m.commitAll s .unlimited done queue = (.error fault, m', s') ∧ m'.queue = rest ∧
      WorksOff bytes (before ++ [r]) m m' s s' := by
  induction queue generalizing m s done with
  | nil => exact .inl ⟨rfl, done, _, s, rfl, h.worksOff_queue []⟩
  | cons r rest ih =>
      have hfirst := h.worksOff_commit r
      have hfails := h.commit_eq_error_iff (r := r)
      rw [commitAll, Allowance.isUsedUp, if_neg Bool.false_ne_true]
      rcases hcommit : m.commit s r with ⟨outcome, m₁, s₁⟩
      rw [hcommit] at hfirst hfails
      cases outcome with
      | error fault =>
          exact .inr ⟨[], r, rest, fault, _, s₁, rfl, rfl, hfails.mp ⟨fault, rfl⟩, rfl, rfl,
            hfirst.of_nil (hfirst.fitted.worksOff_queue rest)⟩
      | ok committed =>
          have hsame : m₁.asksForMisfit s₁ bytes = m.asksForMisfit s bytes :=
            asksForMisfit_congr hfirst.active hfirst.scene
          have hharmless : ¬ m.asksForMisfit s bytes r = true := by
            intro hmisfit
            obtain ⟨fault, hfault⟩ := hfails.mpr hmisfit
            cases hfault
          rcases ih hfirst.fitted (if committed then done + 1 else done) with
            ⟨hnone, count, m', s', hrest, hworks⟩ |
              ⟨before, q, later, fault, m', s', rfl, hnone, hmisfit, hrest, hqueue, hworks⟩
          · rw [hsame] at hnone
            refine .inl ⟨?_, count, m', s', hrest, hfirst.append hworks⟩
            rw [List.filter_cons_of_neg hharmless, hnone]
          · rw [hsame] at hnone hmisfit
            refine .inr ⟨r :: before, q, later, fault, m', s', rfl, ?_, hmisfit, hrest, hqueue,
              hfirst.append hworks⟩
            rw [List.filter_cons_of_neg hharmless, hnone]

/-- Bringing the look-up entries up to date has nothing to do with slots. -/
theorem Fitted.worksOff_renew
    (h : Fitted bytes m s)
    (outside : BucketRef → Bool) :
    WorksOff bytes [] m (m.renew s outside).2.1 s (m.renew s outside).2.2 := by
  refine worksOff_nil (h.of_renew outside) (m.renew_keeps s outside).1 ?_
    fun _ ha => h.bypasses_renew ha outside
  exact Scene.alike_of_buckets (m.buckets_renew s outside)

end Outcomes

section Frames

variable {bytes : Nat} {m m' : Residency} {s s' : Scene} {a : ActiveBucket}
  {before rest : List WriteRequest}

/--
Whether a misfit was rejected: those who asked before it got their payloads into their slots,
those behind it still wait, and it has lost its request and nothing else.
-/
structure Rejects
    (bytes : Nat) (before : List WriteRequest) (a : ActiveBucket) (rest : List WriteRequest)
    (m m' : Residency) (s s' : Scene) : Prop where
  active : a ∈ m.active
  misfit : s.isMisfit bytes a = true
  queue : newestPerSlot m.queue = before ++ a.request :: rest
  waiting : m'.queue = rest
  slot : m.KeepsSlot m' s.device s'.device a.slot
  committed : a.id ∈ m'.committed ↔ a.id ∈ m.committed
  kept : ∀ id ∈ m.committed, id ∈ m'.committed
  written : ∀ b ∈ m.active, b.request ∈ before → ∀ payload,
    (s.bucket b.bucket).payload = some payload →
    b.id ∈ m'.committed ∧ m'.ShowsIn s'.device b.slot payload

theorem WorksOff.rejects
    (h : WorksOff bytes (before ++ [a.request]) m m' s s')
    (htidy : Tidy m)
    (ha : a ∈ m.active)
    (hmisfit : s.isMisfit bytes a = true)
    (hnone : before.filter (m.asksForMisfit s bytes) = [])
    (hqueue : newestPerSlot m.queue = before ++ a.request :: rest)
    (hwaiting : m'.queue = rest) :
    Rejects bytes before a rest m m' s s' := by
  have hbypasses := h.bypasses a ha fun hboth => Scene.not_fits_of_isMisfit hmisfit hboth.2
  refine ⟨ha, hmisfit, hqueue, hwaiting, hbypasses.texels, hbypasses.committed,
    fun _ => h.kept htidy, ?_⟩
  intro b hb hrequest payload hpayload
  have hsize : payload.size = bucketVoxels * bytes := by
    by_contra hsize
    refine List.filter_eq_nil_iff.mp hnone b.request hrequest (asksForMisfit_iff.mpr ?_)
    exact ⟨b, hb, rfl, Scene.isMisfit_iff.mpr ⟨payload, hpayload, hsize⟩⟩
  have hdisplays := h.displays b hb (List.mem_append_left _ hrequest) payload hpayload hsize
  exact ⟨hdisplays.committed, hdisplays.shows⟩

/-- A frame works off what waits up to the first misfit, and all of it if there is none. -/
theorem Fitted.frame_cases
    {s₀ : Scene} {w : World}
    (hreached : Reachable UsesRasters s₀ w)
    (hready : w.residency.isReady w.scene = true)
    (outside : BucketRef → Bool)
    (h : Fitted bytes (w.residency.readNotices w.scene).1 (w.residency.readNotices w.scene).2) :
    let read := w.residency.readNotices w.scene
    let frame := w.residency.tick w.scene outside .unlimited
    ((newestPerSlot read.1.queue).filter (read.1.asksForMisfit read.2 bytes) = [] ∧
      (∃ count, frame.1 = .ok count) ∧
      WorksOff bytes (newestPerSlot read.1.queue) read.1 frame.2.1 read.2 frame.2.2) ∨
    ∃ before a rest, (∃ fault, frame.1 = .error fault) ∧
      Rejects bytes before a rest read.1 frame.2.1 read.2 frame.2.2 ∧
      before.filter (read.1.asksForMisfit read.2 bytes) = [] ∧
      (frame.2.2.mailbox frame.2.1.mailbox).notices = [] ∧
      WorksOff bytes (before ++ [a.request]) read.1 frame.2.1 read.2 frame.2.2 := by
  intro read frame
  have hready' : read.1.isReady read.2 = true :=
    (isReady_reactAll w.residency (w.scene.drain _).2 (w.scene.drain _).1).trans hready
  obtain ⟨journal, hwork⟩ := work_of_isReady .unlimited hready'
  have hmoves := moves_work false read.1 read.2 w.chronicle .unlimited
  rcases h.commitAll_cases 0 (newestPerSlot read.1.queue) with
    ⟨hnone, count, m', s', hpass, hworks⟩ |
      ⟨before, r, rest, fault, m', s', hqueue, hnone, hmisfit, hpass, hwaiting, hworks⟩
  · rw [hpass] at hwork
    refine .inl ⟨hnone, ?_, ?_⟩
    · cases hframe : frame.1 with
      | ok count => exact ⟨count, rfl⟩
      | error fault =>
          have hfails := hreached.work_of_tick_eq_error hframe
          rw [hwork] at hfails
          cases hfails
    · have hafter := hworks.of_nil (hworks.fitted.worksOff_journal journal)
      have hrenewed : frame.2 = (m'.renew { s' with journal := journal } outside).2 :=
        tick_of_work_eq_ok outside hwork
      rw [hrenewed]
      exact hafter.of_nil (hafter.fitted.worksOff_renew outside)
  · rw [hpass] at hwork
    have hframe : frame = (.error fault, m', { s' with journal := journal }) := by
      simp only [frame, tick, read] at hwork ⊢
      rw [hwork]
    obtain ⟨a, ha, rfl, hother⟩ := asksForMisfit_iff.mp hmisfit
    have hafter := hworks.of_nil (hworks.fitted.worksOff_journal journal)
    rw [hwork] at hmoves
    rw [hframe]
    refine .inr ⟨before, a, rest, ⟨fault, rfl⟩, ?_, hnone, ?_, hafter⟩
    · exact hafter.rejects h.tidy ha hother hnone hqueue hwaiting
    · exact Moves.notices_eq_nil hmoves (notices_readNotices w.residency w.scene)

/--
Whether the requests that waited at some time have been worked off up to a point, while those
behind it still wait.
-/
structure Underway
    (bytes : Nat) (done rest : List WriteRequest) (m m' : Residency) (s s' : Scene) : Prop where
  queue : newestPerSlot m.queue = done ++ rest
  waiting : newestPerSlot m'.queue = rest
  worksOff : WorksOff bytes done m m' s s'

/-- The next frame ends the work if no misfit is left, and else it rejects the next one. -/
theorem Underway.frame_cases
    {s₀ : Scene} {w : World} {done : List WriteRequest}
    (hreached : Reachable UsesRasters s₀ w)
    (hready : w.residency.isReady w.scene = true)
    (outside : BucketRef → Bool)
    (h : Underway bytes done rest m (w.residency.readNotices w.scene).1 s
      (w.residency.readNotices w.scene).2) :
    let read := w.residency.readNotices w.scene
    let asks := m.asksForMisfit s bytes
    let frame := w.residency.tick w.scene outside .unlimited
    (rest.filter asks = [] ∧ (∃ count, frame.1 = .ok count) ∧
      WorksOff bytes (newestPerSlot m.queue) m frame.2.1 s frame.2.2) ∨
    ∃ before a later, (∃ fault, frame.1 = .error fault) ∧
      Rejects bytes before a later read.1 frame.2.1 read.2 frame.2.2 ∧
      (rest.filter asks).length = (later.filter asks).length + 1 ∧
      frame.2.1.readNotices frame.2.2 = frame.2 ∧
      Underway bytes (done ++ (before ++ [a.request])) later m frame.2.1 s frame.2.2 := by
  intro read asks frame
  have hasks : read.1.asksForMisfit read.2 bytes = asks :=
    asksForMisfit_congr h.worksOff.active h.worksOff.scene
  rcases h.worksOff.fitted.frame_cases hreached hready outside with
    ⟨hnone, hok, hworks⟩ | ⟨before, a, later, hfails, hrejects, hnone, hnotices, hworks⟩
  · rw [hasks, h.waiting] at hnone
    rw [h.waiting] at hworks
    exact .inl ⟨hnone, hok, h.queue ▸ h.worksOff.append hworks⟩
  · have hsplit : rest = before ++ a.request :: later := h.waiting.symm.trans hrejects.queue
    have hmisfit : asks a.request = true :=
      hasks ▸ asksForMisfit_iff.mpr ⟨a, hrejects.active, rfl, hrejects.misfit⟩
    rw [hasks] at hnone
    refine .inr ⟨before, a, later, hfails, hrejects, ?_, readNotices_of_notices_eq_nil hnotices,
      ?_, ?_, h.worksOff.append hworks⟩
    · rw [hsplit, List.filter_append, hnone, List.filter_cons_of_pos hmisfit]
      rfl
    · rw [h.queue, hsplit]
      simp
    · -- what is left of a queue that was thinned needs no thinning
      have hnodup := nodup_slots_newestPerSlot read.1.queue
      rw [hrejects.queue, List.map_append, List.map_cons] at hnodup
      rw [hrejects.waiting]
      exact newestPerSlot_eq_self (List.nodup_cons.mp (List.nodup_append.mp hnodup).2.1).2

end Frames

end Residency

section Runs

open Residency

variable {bytes count j : Nat} {s₀ : Scene} {w : World} {outside : Nat → BucketRef → Bool}

/-- Frames in a row that may take up as many writes as there are. -/
def Operation.frames (outside : Nat → BucketRef → Bool) (count : Nat) : List Operation :=
  (List.range count).map fun j => .tick (outside j) .unlimited

/-- The world after some frames in a row. -/
def World.afterFrames (w : World) (outside : Nat → BucketRef → Bool) (count : Nat) : World :=
  (Operation.frames outside count).foldl World.step w

theorem World.afterFrames_succ (w : World) (outside : Nat → BucketRef → Bool) (count : Nat) :
    w.afterFrames outside (count + 1) =
      (w.afterFrames outside count).step (.tick (outside count) .unlimited) := by
  rw [afterFrames, Operation.frames, List.range_succ, List.map_append, List.foldl_append]
  rfl

/-- What a further frame leaves behind. -/
theorem World.afterFrames_eq (w : World) (outside : Nat → BucketRef → Bool) (count : Nat) :
    let last := w.afterFrames outside count
    let frame := last.residency.tick last.scene (outside count) .unlimited
    (w.afterFrames outside (count + 1)).residency = frame.2.1 ∧
      (w.afterFrames outside (count + 1)).scene = frame.2.2 := by
  rw [w.afterFrames_succ]
  exact ⟨rfl, rfl⟩

/-- Frames name no buckets and create no textures. -/
theorem World.admits_frames (w : World) (outside : Nat → BucketRef → Bool) (count : Nat) :
    w.Admits UsesRasters (Operation.frames outside count) := by
  have hall : ∀ (js : List Nat) (w : World),
      w.Admits UsesRasters (js.map fun j => .tick (outside j) .unlimited) := by
    intro js
    induction js with
    | nil => exact fun _ => trivial
    | cons j rest ih => exact fun w => ⟨trivial, trivial, ih _⟩
  exact hall _ w

theorem Reachable.afterFrames
    (h : Reachable UsesRasters s₀ w)
    (outside : Nat → BucketRef → Bool) (count : Nat) :
    Reachable UsesRasters s₀ (w.afterFrames outside count) :=
  h.run (w.admits_frames outside count)

theorem isReady_afterFrames
    (outside : Nat → BucketRef → Bool) (count : Nat) :
    (w.afterFrames outside count).residency.isReady (w.afterFrames outside count).scene =
      w.residency.isReady w.scene := by
  induction count with
  | zero => rfl
  | succ count ih =>
      rw [w.afterFrames_succ]
      exact (performs_tick _ _ _).isReady_eq.trans ih

/-- Every slot of an owner that is asked for has one request when the queue is thinned. -/
theorem Requested.length_misfitSlots
    (h : Requested w)
    (htidy : Tidy w.residency)
    (bytes : Nat) :
    (w.residency.misfitSlots w.scene bytes).length =
      ((newestPerSlot w.residency.queue).filter
        (w.residency.asksForMisfit w.scene bytes)).length := by
  let misfits := (newestPerSlot w.residency.queue).filter (w.residency.asksForMisfit w.scene bytes)
  have hnodup : (misfits.map (·.slot)).Nodup :=
    (nodup_slots_newestPerSlot w.residency.queue).sublist (List.filter_sublist.map _)
  have hsame : (w.residency.misfitSlots w.scene bytes).Perm (misfits.map (·.slot)) := by
    refine (List.perm_ext_iff_of_nodup (List.nodup_range.filter _) hnodup).mpr fun slot => ?_
    constructor
    · intro hslot
      obtain ⟨_, hany⟩ := List.mem_filter.mp hslot
      obtain ⟨a, ha, hbooks⟩ := List.any_eq_true.mp hany
      simp only [Bool.and_eq_true, beq_iff_eq, List.contains_iff_mem] at hbooks
      obtain ⟨⟨rfl, hqueue⟩, hmisfit⟩ := hbooks
      refine List.mem_map.mpr ⟨a.request, List.mem_filter.mpr ⟨?_, ?_⟩, rfl⟩
      · exact (h.mem_newestPerSlot_iff ha).mpr hqueue
      · exact asksForMisfit_iff.mpr ⟨a, ha, rfl, hmisfit⟩
    · intro hslot
      obtain ⟨r, hr, rfl⟩ := List.mem_map.mp hslot
      obtain ⟨hthinned, hasks⟩ := List.mem_filter.mp hr
      obtain ⟨a, ha, rfl, hmisfit⟩ := asksForMisfit_iff.mp hasks
      have hqueue := (newestPerSlot_sublist _).subset hthinned
      refine List.mem_filter.mpr ⟨List.mem_range.mpr (htidy.slot_lt ha), ?_⟩
      refine List.any_eq_true.mpr ⟨a, ha, ?_⟩
      simp only [Bool.and_eq_true, beq_iff_eq, List.contains_iff_mem]
      exact ⟨⟨rfl, hqueue⟩, hmisfit⟩
  rw [hsame.length_eq, List.length_map]

/-- As long as there are misfits, frames reject one each. -/
theorem Reachable.underway
    (h : Reachable UsesRasters s₀ w)
    (hready : w.residency.isReady w.scene = true)
    (hfitted : Fitted bytes (w.residency.readNotices w.scene).1
      (w.residency.readNotices w.scene).2)
    (outside : Nat → BucketRef → Bool) :
    let read := w.residency.readNotices w.scene
    let asks := read.1.asksForMisfit read.2 bytes
    let misfits := (newestPerSlot read.1.queue).filter asks
    ∀ j ≤ misfits.length,
      let later := w.afterFrames outside j
      let again := later.residency.readNotices later.scene
      ∃ done rest, Underway bytes done rest read.1 again.1 read.2 again.2 ∧
        (rest.filter asks).length + j = misfits.length := by
  intro read asks misfits j
  induction j with
  | zero => exact fun _ => ⟨[], newestPerSlot read.1.queue, ⟨rfl, rfl, hfitted.worksOff_refl⟩, rfl⟩
  | succ j ih =>
      intro hlt later again
      obtain ⟨done, rest, hunderway, hcount⟩ := ih (Nat.le_of_succ_le hlt)
      have hready' := (isReady_afterFrames (w := w) outside j).trans hready
      rcases hunderway.frame_cases (h.afterFrames outside j) hready' (outside j) with
        ⟨hnone, _⟩ | ⟨before, a, waiting, _, _, hone, hsilent, hnext⟩
      · rw [show rest.filter asks = [] from hnone, List.length_nil] at hcount
        omega
      · have hfewer : (rest.filter asks).length = (waiting.filter asks).length + 1 := hone
        have hagain : again = (later.residency, later.scene) := by
          simp only [again, later, w.afterFrames_succ]
          exact hsilent
        refine ⟨done ++ (before ++ [a.request]), waiting, ?_, by omega⟩
        rw [hagain]
        simp only [later, w.afterFrames_succ]
        exact hnext

/-- A frame for each misfit fails, and the next one succeeds and ends with everybody else. -/
theorem Reachable.rejects_misfits
    (h : Reachable UsesRasters s₀ w)
    (hready : w.residency.isReady w.scene = true)
    (hfitted : Fitted bytes (w.residency.readNotices w.scene).1
      (w.residency.readNotices w.scene).2)
    (outside : Nat → BucketRef → Bool)
    {count : Nat}
    (hcount : count = ((newestPerSlot (w.residency.readNotices w.scene).1.queue).filter
      ((w.residency.readNotices w.scene).1.asksForMisfit (w.residency.readNotices w.scene).2
        bytes)).length) :
    (∀ j < count,
      let later := w.afterFrames outside j
      let again := later.residency.readNotices later.scene
      let frame := later.residency.tick later.scene (outside j) .unlimited
      (∃ fault, frame.1 = .error fault) ∧
        (∃ before a rest, Rejects bytes before a rest again.1 frame.2.1 again.2 frame.2.2) ∧
        frame.2.1.readNotices frame.2.2 = frame.2) ∧
    let read := w.residency.readNotices w.scene
    let last := w.afterFrames outside count
    let frame := last.residency.tick last.scene (outside count) .unlimited
    (∃ done, frame.1 = .ok done) ∧
      WorksOff bytes (newestPerSlot read.1.queue) read.1 frame.2.1 read.2 frame.2.2 := by
  have hunderway := h.underway hready hfitted outside
  have hsteady := fun j => (isReady_afterFrames (w := w) outside j).trans hready
  constructor
  · intro j hj later again frame
    obtain ⟨done, rest, hnow, hleft⟩ := hunderway j (hcount ▸ Nat.le_of_lt hj)
    rcases hnow.frame_cases (h.afterFrames outside j) (hsteady j) (outside j) with
      ⟨hnone, _⟩ | ⟨before, a, waiting, hfails, hrejects, _, hsilent, _⟩
    · rw [hnone, List.length_nil] at hleft
      omega
    · exact ⟨hfails, ⟨before, a, waiting, hrejects⟩, hsilent⟩
  · obtain ⟨done, rest, hlast, hleft⟩ := hunderway count (Nat.le_of_eq hcount)
    rcases hlast.frame_cases (h.afterFrames outside count) (hsteady count)
      (outside count) with ⟨_, hends⟩ | ⟨_, _, later, _, _, hone, _⟩
    · exact hends
    · omega

/--
A payload of the wrong length neither blocks nor corrupts the others, in any run on rasters in
which no two buckets have one identity.  Take a world whose textures are ready, and let nothing
happen but frames with an unlimited allowance.  Let `count` be the number of slots whose owners
are asked for once the notices have been read, and have payloads of the wrong length.  Then
each of the next `count` frames fails and rejects one of them, and the next frame begins where it
ended; the frame after these succeeds.  After it the same buckets are active, all who were asked
for and have payloads of the right length are committed and have their payloads in their slots,
and the look-up entries were rebuilt since the last write.
-/
theorem misfits_rejected_oneByOne
    {width textures packing : Nat} {settings : Settings} {m : Residency} {s : Scene}
    {ops : List Operation}
    (hcreate : Residency.create s₀ width textures packing settings = (.ok m, s))
    (hops : World.Admits UsesRasters ⟨m, s, .blank⟩ ops)
    (hw : w = ops.foldl World.step ⟨m, s, .blank⟩)
    (hids : w.scene.HasUniqueIds)
    (hready : w.residency.isReady w.scene = true)
    (outside : Nat → BucketRef → Bool) :
    let read := w.residency.readNotices w.scene
    ∃ bytes, w.residency.IsEquipped w.scene.device bytes ∧
      let count := (read.1.misfitSlots read.2 bytes).length
      let last := w.afterFrames outside count
      let after := w.afterFrames outside (count + 1)
      (∀ j < count,
        let later := w.afterFrames outside j
        let again := later.residency.readNotices later.scene
        let frame := later.residency.tick later.scene (outside j) .unlimited
        (∃ fault, frame.1 = .error fault) ∧
          (∃ before a rest, Rejects bytes before a rest again.1 frame.2.1 again.2 frame.2.2) ∧
          frame.2.1.readNotices frame.2.2 = frame.2) ∧
      (∃ done, (last.residency.tick last.scene (outside count) .unlimited).1 = .ok done) ∧
      after.residency.active = read.1.active ∧
      (∀ a ∈ read.1.active, a.request ∈ read.1.queue → ∀ payload,
        (read.2.bucket a.bucket).payload = some payload →
        payload.size = bucketVoxels * bytes →
        (after.scene.bucket a.bucket).payload = some payload ∧
          Displays bytes a payload after.residency after.scene) ∧
      World.isListed ⟨m, s, .blank⟩ true (ops ++ Operation.frames outside (count + 1)) = true := by
  intro read
  have hstart : Reachable UsesRasters s₀ ⟨m, s, .blank⟩ := .create hcreate
  have h : Reachable UsesRasters s₀ w := hw ▸ hstart.run hops
  have hread : Reachable UsesRasters s₀ (w.step .readNotices) := h.step trivial trivial
  obtain ⟨bytes, hequipped⟩ := h.isRastered.equipped (isSome_lookUpTexture_of_isReady hready)
  have hfitted : Fitted bytes w.residency w.scene := ⟨h.tidy, h.isProper, hequipped⟩
  have hrequested : Requested (w.step .readNotices) :=
    hread.requested (hasUniqueIds_of_alike hids (alike_readNotices w.residency w.scene))
  refine ⟨bytes, hequipped, ?_⟩
  intro count last after
  have hcount : count = ((newestPerSlot read.1.queue).filter
      (read.1.asksForMisfit read.2 bytes)).length :=
    hrequested.length_misfitSlots hread.tidy bytes
  obtain ⟨hfails, hok, hworks⟩ :=
    h.rejects_misfits hready hfitted.of_readNotices outside hcount
  obtain ⟨hresidency, hscene⟩ := w.afterFrames_eq outside count
  refine ⟨hfails, hok, ?_, ?_, ?_⟩
  · rw [hresidency]
    exact hworks.active
  · intro a ha hrequest payload hpayload hsize
    rw [hresidency, hscene]
    refine ⟨(hworks.scene.payload _).trans hpayload, ?_⟩
    exact hworks.displays a ha ((hrequested.mem_newestPerSlot_iff ha).mpr hrequest) payload
      hpayload hsize
  · have hfresh : after.residency.isStale = false := by
      obtain ⟨done, hok⟩ := hok
      rw [hresidency]
      exact isStale_tick hok
    have hframes := w.admits_frames outside (count + 1)
    rw [hw] at hframes
    refine (hstart.isListed_or_isStale (hops.append hframes) (.inl rfl)).resolve_right ?_
    rw [List.foldl_append, ← hw]
    exact fun hstale => Bool.false_ne_true (hfresh.symm.trans hstale)

/-- Two buckets are shown, and the first one gets an empty payload. -/
def Operation.oneEmpty : List Operation := [
  .occurrence (.addSwitch true), .setUp (.rasters 0) 1,
  .occurrence (.create 7 .origin none), .occurrence (.create 8 .origin none),
  .activate (fun _ => true) [0, 1] .origin, .occurrence (.deed 0 (.receive .empty))]

/-- The world after that, folded like the other one to which pictures are delivered. -/
@[irreducible] def World.oneEmpty : World :=
  Operation.oneEmpty.foldl step .smallest

theorem admits_oneEmpty : World.smallest.Admits UsesRasters Operation.oneEmpty := by
  refine ⟨trivial, trivial, trivial, trivial, trivial, trivial, trivial, trivial, ?_, trivial,
    ?_, trivial, trivial⟩
  · show ∀ ref ∈ [0, 1], ref < Array.size _
    decide +kernel
  · change 0 < Array.size _
    decide +kernel

/-- A payload that waits behind an empty one is shown by the second frame. -/
theorem misfits_rejected_oneByOne_of_one_empty :
    let w := World.oneEmpty.step (.occurrence (.deed 1 (.receive (.fill 1))))
    let after := w.afterFrames (fun _ _ => true) 2
    (∃ fault, (w.residency.tick w.scene (fun _ => true) .unlimited).1 = .error fault) ∧
      Displays 1 ⟨8, 1, 1, 0⟩ (.fill 1) after.residency after.scene := by
  intro w after
  let delivery : Operation := .occurrence (.deed 1 (.receive (.fill 1)))
  have hexist : 1 < World.oneEmpty.scene.buckets.size := by decide +kernel
  have hopen : (World.oneEmpty.scene.bucket 1).isCollected = false := by decide +kernel
  have hsize : w.scene.buckets.size = 2 := by decide +kernel
  have hids : ∀ i < 2, ∀ j < 2, (w.scene.bucket i).id = (w.scene.bucket j).id → i = j := by
    decide +kernel
  have hready : w.residency.isReady w.scene = true := by decide +kernel
  let read := w.residency.readNotices w.scene
  have hactive : read.1.active = [⟨7, 0, 0, 0⟩, ⟨8, 1, 1, 0⟩] := by decide +kernel
  have hqueue : read.1.queue = [⟨7, 0⟩, ⟨8, 1⟩] := by decide +kernel
  have hcapacity : read.1.capacity = 2 := by decide +kernel
  have hempty : read.2.isMisfit 1 ⟨7, 0, 0, 0⟩ = true := by decide +kernel
  have hpayload : (read.2.bucket 1).payload = some (.fill 1) := by
    rw [(alike_readNotices w.residency w.scene).payload]
    show ((World.oneEmpty.scene.deed 1 (.receive (.fill 1))).bucket 1).payload = some (.fill 1)
    rw [Scene.bucket_deed_self _ hexist, Deed.perform, Bucket.payload_receive hopen]
  have hfilled : read.2.isMisfit 1 ⟨8, 1, 1, 0⟩ = false := by
    rw [Scene.isMisfit, hpayload, Option.any_some, size_fill, bne_self_eq_false]
  have hcount : (read.1.misfitSlots read.2 1).length = 1 := by
    simp [misfitSlots, hcapacity, hactive, hqueue, hempty, hfilled, List.range_succ,
      ActiveBucket.request]
  have hrun : w = (Operation.oneEmpty ++ [delivery]).foldl World.step .smallest := by
    rw [List.foldl_append, List.foldl_cons, List.foldl_nil, ← World.oneEmpty]
  have hadmits : World.smallest.Admits UsesRasters (Operation.oneEmpty ++ [delivery]) := by
    refine admits_oneEmpty.append ?_
    rw [← World.oneEmpty]
    exact ⟨hexist, trivial, trivial⟩
  obtain ⟨bytes, hequipped, hfails, _, _, hshown, _⟩ := misfits_rejected_oneByOne create_smallest
    hadmits hrun (fun i j hi hj => hids i (hsize ▸ hi) j (hsize ▸ hj)) hready fun _ _ => true
  obtain rfl : bytes = 1 := by
    have htexels : (w.scene.device.texture 0).texelBytes = 1 := by decide +kernel
    have hpacking : w.residency.layout.packing = 1 := by decide +kernel
    obtain ⟨raster, switch, hraster, _, _, hbytes⟩ := hequipped.rasters 0 (by decide +kernel)
    rw [hraster] at htexels
    rw [hpacking, Nat.mul_one] at hbytes
    exact hbytes.symm.trans htexels
  rw [hcount] at hfails hshown
  have hmem : ⟨8, 1, 1, 0⟩ ∈ read.1.active := by simp [hactive]
  have hasked : ⟨8, 1⟩ ∈ read.1.queue := by simp [hqueue]
  exact ⟨(hfails 0 Nat.zero_lt_one).1,
    (hshown ⟨8, 1, 1, 0⟩ hmem hasked (.fill 1) hpayload (size_fill 1)).2⟩

end Runs

end VoxelCache
