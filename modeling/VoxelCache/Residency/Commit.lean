import VoxelCache.Residency.Activation

/-!
# Committing payloads

**Passes.**  A pass keeps only the newest write to each slot and carries out
writes from the oldest to the newest, as many as its allowance admits.  A write
for a bucket that lost its slot is dropped.  A write that the texture rejects
ends the pass; what was committed before stays committed.

**Frames.**  A frame reads the notices, makes one pass, and then brings the
look-up entries up to date: it rebuilds them if a bucket was committed or a
committed bucket lost its slot, and else uploads them if that is still pending.
-/

namespace VoxelCache

section Commit

namespace Residency

/-- How many writes of a pass may be taken up before its time is over. -/
inductive Allowance where
  | unlimited
  | writes (count : Nat)
deriving DecidableEq

namespace Allowance

/-- Whether another write may be taken up. -/
def isUsedUp : Allowance → Bool
  | unlimited => false
  | writes count => count == 0

/-- The allowance after one write was taken up. -/
def spend : Allowance → Allowance
  | unlimited => unlimited
  | writes count => writes (count - 1)

end Allowance

/-- Whether all textures exist and can be written to. -/
def isReady (m : Residency) (s : Scene) : Bool :=
  !m.dataTextures.isEmpty && m.dataTextures.all s.device.isReady &&
    m.lookUpTexture.any s.device.isReady

/-- Only the newest write to each slot. -/
def newestPerSlot : List WriteRequest → List WriteRequest
  | [] => []
  | r :: rest =>
      if rest.any fun later => later.slot == r.slot then
        newestPerSlot rest
      else
        r :: newestPerSlot rest

theorem newestPerSlot_sublist
    (queue : List WriteRequest) :
    (newestPerSlot queue).Sublist queue := by
  fun_induction newestPerSlot queue with
  | case1 => exact .slnil
  | case2 r rest _ ih => exact ih.cons r
  | case3 r rest _ ih => exact ih.cons_cons r

/-- Every slot that is written to is written to once. -/
theorem nodup_slots_newestPerSlot
    (queue : List WriteRequest) :
    ((newestPerSlot queue).map (·.slot)).Nodup := by
  fun_induction newestPerSlot queue with
  | case1 => exact .nil
  | case2 r rest _ ih => exact ih
  | case3 r rest h ih =>
      rw [List.map_cons, List.nodup_cons]
      refine ⟨?_, ih⟩
      intro hmem
      obtain ⟨later, hlater, hslot⟩ := List.mem_map.mp hmem
      exact h (List.any_eq_true.mpr
        ⟨later, (newestPerSlot_sublist rest).subset hlater, by simpa using hslot⟩)

/-- Write the payload of a bucket into its slot. -/
def writeSlot (m : Residency) (s : Scene) (slot : Nat) (payload : Payload) :
    Except Fault Unit × Scene :=
  s.updateTexture (m.dataTextures.getD (m.layout.textureOf slot) 0) payload
    (m.layout.rectOf slot)

/-- A write changes nothing but the device. -/
theorem writeSlot_scene
    {m : Residency} {s s' : Scene} {slot : Nat} {payload : Payload} {outcome : Except Fault Unit}
    (h : m.writeSlot s slot payload = (outcome, s')) :
    ∃ device, s' = { s with device := device } :=
  ⟨_, (congrArg Prod.snd h).symm⟩

/-- Note that the slot of a bucket holds its payload. -/
def markCommitted (m : Residency) (s : Scene) (a : ActiveBucket) : Residency × Scene :=
  ({ m with
      committed := if m.isCommitted a.id then m.committed else m.committed ++ [a.id]
      isStale := true },
    if m.settings.debugging.visualize then s.visualize a.bucket true else s)

/-- Carry out one write; the answer says whether a bucket was committed. -/
def commit (m : Residency) (s : Scene) (r : WriteRequest) :
    Except Fault Bool × Residency × Scene :=
  match (m.find? r.bucket).filter fun a => a.slot == r.slot with
  | none =>
      (.ok false, m,
        s.log .debug
          ("[texture_bucket_manager::process_write_queue] Dropping write of evicted bucket " ++
            s!"BucketId({r.bucket})"))
  | some a =>
      match (s.bucket a.bucket).payload with
      | none => (.ok false, m, s)
      | some payload =>
          match m.writeSlot s r.slot payload with
          | (.error fault, s) => (.error fault, m, s)
          | (.ok _, s) =>
              let (m, s) := m.markCommitted s a
              (.ok true, m, s)

theorem mem_committed_markCommitted
    {m : Residency} {s : Scene} {a : ActiveBucket} {id : BucketId} :
    id ∈ (m.markCommitted s a).1.committed ↔ id = a.id ∨ id ∈ m.committed := by
  simp only [markCommitted]
  split
  · rename_i hold
    constructor
    · exact .inr
    · rintro (rfl | hid)
      · exact List.contains_iff_mem.mp hold
      · exact hid
  · rw [List.mem_append, List.mem_singleton, or_comm]

/-- A commit changes nothing of the scene but whether the bucket is shown as resident. -/
theorem markCommitted_scene
    (m : Residency) (s : Scene) (a : ActiveBucket) :
    (m.markCommitted s a).2 = s ∨
      (m.markCommitted s a).2 = s.visualize a.bucket true := by
  simp only [markCommitted]
  split
  · exact .inr rfl
  · exact .inl rfl

/--
A write is dropped if its bucket has no payload in its slot; else it is carried
out, and it either fails and changes no books or commits the bucket.
-/
theorem commit_cases
    (m : Residency) (s : Scene) (r : WriteRequest) :
    (∃ journal, m.commit s r = (.ok false, m, { s with journal := journal }) ∧
      ∀ a, m.find? r.bucket = some a → a.slot = r.slot → (s.bucket a.bucket).payload = none) ∨
    ∃ a payload, m.find? r.bucket = some a ∧ a.slot = r.slot ∧
      (s.bucket a.bucket).payload = some payload ∧
      ((∃ fault s', m.writeSlot s r.slot payload = (.error fault, s') ∧
          m.commit s r = (.error fault, m, s')) ∨
        ∃ s', m.writeSlot s r.slot payload = (.ok (), s') ∧
          m.commit s r = (.ok true, m.markCommitted s' a)) := by
  cases hfind : (m.find? r.bucket).filter fun a => a.slot == r.slot with
  | none =>
      refine .inl ⟨_, by rw [commit, hfind]; rfl, ?_⟩
      intro a ha hslot
      rw [ha, Option.filter_some] at hfind
      simp [hslot] at hfind
  | some a =>
      rw [Option.filter_eq_some_iff] at hfind
      obtain ⟨ha, hslot⟩ := hfind
      have hslot : a.slot = r.slot := by simpa using hslot
      have hfilter : ((m.find? r.bucket).filter fun a => a.slot == r.slot) = some a := by
        simp [ha, hslot]
      cases hpayload : (s.bucket a.bucket).payload with
      | none =>
          refine .inl ⟨s.journal, by simp only [commit, hfilter, hpayload], ?_⟩
          intro b hb _
          rw [ha, Option.some.injEq] at hb
          exact hb ▸ hpayload
      | some payload =>
          refine .inr ⟨a, payload, ha, hslot, hpayload, ?_⟩
          rcases hwrite : m.writeSlot s r.slot payload with ⟨outcome, s'⟩
          cases outcome with
          | error fault =>
              exact .inl ⟨fault, s', rfl, by simp only [commit, hfilter, hpayload, hwrite]⟩
          | ok _ =>
              exact .inr ⟨s', rfl, by simp only [commit, hfilter, hpayload, hwrite]⟩

/-- Carry out writes, the oldest first, until the allowance is used up or one fails. -/
def commitAll (m : Residency) (s : Scene) (allowance : Allowance) (done : Nat) :
    List WriteRequest → Except Fault Nat × Residency × Scene
  | [] => (.ok done, { m with queue := [] }, s)
  | r :: rest =>
      if allowance.isUsedUp then
        (.ok done, { m with queue := r :: rest }, s)
      else
        match m.commit s r with
        | (.error fault, m, s) => (.error fault, { m with queue := rest }, s)
        | (.ok committed, m, s) =>
            m.commitAll s allowance.spend (if committed then done + 1 else done) rest

/-- Writes neither give nor take slots. -/
theorem active_commitAll
    (m : Residency) (s : Scene) (allowance : Allowance) (done : Nat)
    (queue : List WriteRequest) :
    (m.commitAll s allowance done queue).2.1.active = m.active := by
  induction queue generalizing m s allowance done with
  | nil => rfl
  | cons r rest ih =>
      rw [commitAll]
      split
      · rfl
      · rcases m.commit_cases s r with
          ⟨_, hcommit, _⟩ | ⟨a, _, _, _, _, ⟨_, _, _, hcommit⟩ | ⟨_, _, hcommit⟩⟩
        · simp only [hcommit]
          exact ih _ _ _ _
        · simp only [hcommit]
        · simp only [hcommit]
          exact (ih _ _ _ _).trans rfl

/-- Work off waiting writes; the answer is the number of committed buckets. -/
def work (m : Residency) (s : Scene) (allowance : Allowance) :
    Except Fault Nat × Residency × Scene :=
  if m.isReady s then
    match m.commitAll s allowance 0 (newestPerSlot m.queue) with
    | (.error fault, m, s) => (.error fault, m, s)
    | (.ok done, m, s) =>
        let s :=
          if done = 0 ∧ m.queue = [] then s
          else s.log .trace
            (s!"[texture_bucket_manager::process_write_queue] Committed {done} buckets, " ++
              s!"{m.queue.length} still queued")
        (.ok done, m, s)
  else
    (.ok 0, m,
      s.log .trace "[texture_bucket_manager::process_write_queue] Waiting for textures")

/-- A pass says nothing but what its writes come to, apart from the journal. -/
theorem work_of_isReady
    {m : Residency} {s : Scene}
    (allowance : Allowance)
    (h : m.isReady s = true) :
    ∃ journal, m.work s allowance =
      let pass := m.commitAll s allowance 0 (newestPerSlot m.queue)
      (pass.1, pass.2.1, { pass.2.2 with journal := journal }) := by
  rw [work, if_pos h]
  rcases m.commitAll s allowance 0 (newestPerSlot m.queue) with ⟨outcome, m', s'⟩
  cases outcome with
  | error fault => exact ⟨s'.journal, rfl⟩
  | ok done =>
      dsimp only
      split
      · exact ⟨s'.journal, rfl⟩
      · exact ⟨_, rfl⟩

theorem active_work
    (m : Residency) (s : Scene) (allowance : Allowance) :
    (m.work s allowance).2.1.active = m.active := by
  by_cases hready : m.isReady s = true
  · obtain ⟨journal, hwork⟩ := work_of_isReady allowance hready
    rw [hwork]
    exact active_commitAll m s allowance 0 _
  · rw [work, if_neg hready]

theorem isSome_lookUpTexture_of_isReady
    {m : Residency} {s : Scene}
    (h : m.isReady s = true) :
    m.lookUpTexture.isSome = true := by
  cases htexture : m.lookUpTexture with
  | none => simp [isReady, htexture] at h
  | some ref => rfl

/-- Rebuild the look-up entries if they are stale, else upload them if that is pending. -/
def renew (m : Residency) (s : Scene) (outside : BucketRef → Bool) :
    Except Fault Unit × Residency × Scene :=
  if m.isStale then
    m.refresh s outside
  else if m.isUploadPending then
    m.upload s
  else
    (.ok (), m, s)

/-- Bringing the look-up entries up to date touches neither slots, requests nor mailboxes. -/
theorem renew_keeps
    (m : Residency) (s : Scene) (outside : BucketRef → Bool) :
    (m.renew s outside).2.1.active = m.active ∧
      (m.renew s outside).2.1.queue = m.queue ∧
      (m.renew s outside).2.1.mailbox = m.mailbox ∧
      (m.renew s outside).2.2.mailboxes = s.mailboxes := by
  unfold renew
  split
  · obtain ⟨isPending, hresidency⟩ := m.refresh_residency s outside
    obtain ⟨device, journal, hscene⟩ := m.refresh_scene s outside
    rw [hresidency, hscene]
    exact ⟨rfl, rfl, rfl, rfl⟩
  · split
    · obtain ⟨isPending, hresidency⟩ := m.upload_residency s
      obtain ⟨device, hscene⟩ := m.upload_scene s
      rw [hresidency, hscene]
      exact ⟨rfl, rfl, rfl, rfl⟩
    · exact ⟨rfl, rfl, rfl, rfl⟩

/-- Nor does it touch buckets. -/
theorem buckets_renew
    (m : Residency) (s : Scene) (outside : BucketRef → Bool) :
    (m.renew s outside).2.2.buckets = s.buckets := by
  unfold renew
  split
  · obtain ⟨device, journal, hscene⟩ := m.refresh_scene s outside
    rw [hscene]
  · split
    · obtain ⟨device, hscene⟩ := m.upload_scene s
      rw [hscene]
    · rfl

/-- The work of one frame: notices, writes, look-up entries. -/
def tick (m : Residency) (s : Scene) (outside : BucketRef → Bool) (allowance : Allowance) :
    Except Fault Nat × Residency × Scene :=
  let (m, s) := m.readNotices s
  match m.work s allowance with
  | (.error fault, m, s) => (.error fault, m, s)
  | (.ok done, m, s) =>
      match m.renew s outside with
      | (.error fault, m, s) => (.error fault, m, s)
      | (.ok _, m, s) => (.ok done, m, s)

/-- A frame whose writes succeed ends with the look-up entries. -/
theorem tick_of_work_eq_ok
    {m m' : Residency} {s s' : Scene} {allowance : Allowance} {done : Nat}
    (outside : BucketRef → Bool)
    (hwork : (m.readNotices s).1.work (m.readNotices s).2 allowance = (.ok done, m', s')) :
    (m.tick s outside allowance).2 = (m'.renew s' outside).2 := by
  simp only [tick, hwork]
  rcases m'.renew s' outside with ⟨renewed, m'', s''⟩
  cases renewed <;> rfl

/-- A frame takes slots away only from buckets about which notices have arrived. -/
theorem active_tick
    (m : Residency) (s : Scene) (outside : BucketRef → Bool) (allowance : Allowance) :
    (m.tick s outside allowance).2.1.active = (m.readNotices s).1.active := by
  have hworked := active_work (m.readNotices s).1 (m.readNotices s).2 allowance
  rcases hwork : (m.readNotices s).1.work (m.readNotices s).2 allowance with ⟨outcome, m', s'⟩
  rw [hwork] at hworked
  cases outcome with
  | error fault =>
      simp only [tick, hwork]
      exact hworked
  | ok done =>
      rw [tick_of_work_eq_ok outside hwork]
      exact (m'.renew_keeps s' outside).1.trans hworked

end Residency

end Commit

end VoxelCache
