import VoxelCache.Proofs.Delivery

/-!
# What a frame shows

A frame writes the payloads that are due into their slots, and no other.  The slot of a bucket
does not depend on what comes of the writes into other slots: a write that fails ends the frame
and leaves the textures alone.  So for one bucket it only matters whether its own payload is due,
and whether the frame gets that far.

**Results.**
* `Bypasses`: work that has nothing to do with a bucket leaves its slot alone.
* `newestTo_reactAll`: reading notices queues the payload of a bucket exactly if one of them is
  about it.
* `displays_commitAll`: a pass that does not fail carries out all writes.
* `bypasses_tick`, `displays_tick`: a frame shows the payload of a bucket exactly if it is due.
-/

namespace VoxelCache

section Requests

/-- The request to write the payload of an active bucket into its slot. -/
def ActiveBucket.request (a : ActiveBucket) : WriteRequest :=
  ⟨a.id, a.slot⟩

/-- Whether a notice is about the payload of a bucket. -/
def Notice.IsAbout (notice : Notice) (id : BucketId) : Prop :=
  notice.bucket = id ∧ notice.event ≠ .collected

instance (notice : Notice) (id : BucketId) : Decidable (notice.IsAbout id) :=
  inferInstanceAs (Decidable (_ ∧ _))

variable {queue : List WriteRequest} {r : WriteRequest}

/-- Thinning the queue leaves the newest request for each slot. -/
theorem mem_newestPerSlot_iff :
    r ∈ Residency.newestPerSlot queue ↔ newestTo queue r.slot = some r := by
  rw [← newestTo_newestPerSlot]
  constructor
  · intro hmem
    obtain ⟨newest, hnewest⟩ := Option.isSome_iff_exists.mp
      (isSome_newestTo_iff.mpr ⟨r, hmem, rfl⟩)
    have hthere : newest ∈ Residency.newestPerSlot queue :=
      List.mem_reverse.mp (List.mem_of_find?_eq_some hnewest)
    have hslot : newest.slot = r.slot := by simpa using List.find?_some hnewest
    rw [hnewest, List.inj_on_of_nodup_map (Residency.nodup_slots_newestPerSlot queue) hthere hmem
      hslot]
  · exact fun hnewest => List.mem_reverse.mp (List.mem_of_find?_eq_some hnewest)

end Requests

namespace Residency

section Bypassing

/-- Whether the slots are laid out on rasters for voxels of `bytes` bytes. -/
structure Fitted (bytes : Nat) (m : Residency) (s : Scene) : Prop where
  tidy : Tidy m
  layout : m.layout.IsProper
  equipped : m.IsEquipped s.device bytes

/-- Whether work was done that did not touch the slot of an active bucket. -/
structure Bypasses
    (bytes : Nat) (a : ActiveBucket) (m m' : Residency) (s s' : Scene) : Prop where
  fitted : Fitted bytes m' s'
  active : a ∈ m'.active
  scene : Scene.Alike s s'
  committed : a.id ∈ m'.committed ↔ a.id ∈ m.committed
  texels : m.KeepsSlot m' s.device s'.device a.slot

variable {bytes : Nat} {m m' m'' : Residency} {s s' s'' : Scene} {a b : ActiveBucket}
  {r : WriteRequest} {payload : Payload}

theorem Bypasses.trans
    (h : Bypasses bytes a m m' s s')
    (h' : Bypasses bytes a m' m'' s' s'') :
    Bypasses bytes a m m'' s s'' where
  fitted := h'.fitted
  active := h'.active
  scene := h.scene.trans h'.scene
  committed := h'.committed.trans h.committed
  texels := h.texels.trans h'.texels

theorem Bypasses.shows
    (h : Bypasses bytes a m m' s s')
    (shown : Payload)
    (hshown : m.ShowsIn s.device a.slot shown) :
    m'.ShowsIn s'.device a.slot shown :=
  h.texels.shows hshown

/-- Other books, and other textures, do not matter. -/
theorem Fitted.bypasses_of_same
    (h : Fitted bytes m s)
    (ha : a ∈ m.active)
    (hlayout : m'.layout = m.layout)
    (hactive : m'.active = m.active)
    (hcommitted : m'.committed = m.committed)
    (hfree : m'.free = m.free)
    (hdata : m'.dataTextures = m.dataTextures)
    (hlookUp : m'.lookUpTexture = m.lookUpTexture)
    (hscene : Scene.Alike s s')
    (htextures : ∀ ref ∈ m.dataTextures, s'.device.texture ref = s.device.texture ref) :
    Bypasses bytes a m m' s s' where
  fitted :=
    ⟨h.tidy.of_eq hlayout hactive hcommitted hfree, hlayout ▸ h.layout,
      h.equipped.of_same hlayout hdata hlookUp htextures⟩
  active := hactive ▸ ha
  scene := hscene
  committed := by rw [hcommitted]
  texels := keepsSlot_of_same hlayout hdata
    (htextures _ (h.equipped.slotTexture_mem (h.tidy.slot_lt ha)))

theorem Fitted.bypasses_refl
    (h : Fitted bytes m s)
    (ha : a ∈ m.active) :
    Bypasses bytes a m m s s :=
  h.bypasses_of_same ha rfl rfl rfl rfl rfl rfl (.refl s) fun _ _ => rfl

/-- What the journal says does not matter either. -/
theorem Bypasses.of_journal
    (h : Bypasses bytes a m m' s s')
    (journal : Journal) :
    Bypasses bytes a m m' s { s' with journal := journal } :=
  h.trans (h.fitted.bypasses_of_same h.active rfl rfl rfl rfl rfl rfl (Scene.alike_of_buckets rfl)
    fun _ _ => rfl)

section Reading

/-- A notice that does not call a bucket collected leaves its slot alone. -/
theorem Fitted.bypasses_react
    {notice : Notice}
    (h : Fitted bytes m s)
    (ha : a ∈ m.active)
    (hother : notice ≠ ⟨a.id, .collected⟩) :
    Bypasses bytes a m (m.react s notice).1 s (m.react s notice).2 := by
  rcases m.react_cases s notice with ⟨_, hreact⟩ | ⟨hevent, ⟨_, hreact⟩ | ⟨b, hb, hreact⟩⟩
  · rw [hreact]
    exact h.bypasses_of_same ha rfl rfl rfl rfl rfl rfl (.refl s) fun _ _ => rfl
  · rw [hreact]
    exact h.bypasses_refl ha
  · obtain ⟨hactive, hid⟩ := find?_eq_some hb
    have hne : (a.id != b.id) = true := by
      rw [bne_iff_ne]
      intro hsame
      refine hother ?_
      rw [hsame, hid, ← hevent]
    have hdevice : (m.dismiss s b).device = s.device := device_dismiss m s b
    rw [hreact]
    refine ⟨⟨h.tidy.without hactive, h.layout, ?_⟩, List.mem_filter.mpr ⟨ha, hne⟩,
      alike_dismiss m s b, ?_, ?_⟩
    · rw [hdevice]
      exact h.equipped.of_same rfl rfl rfl fun _ _ => rfl
    · exact ⟨fun hmem => (List.mem_filter.mp hmem).1, fun hmem => List.mem_filter.mpr ⟨hmem, hne⟩⟩
    · rw [hdevice]
      exact keepsSlot_of_same rfl rfl rfl

theorem Fitted.bypasses_reactAll
    {notices : List Notice}
    (h : Fitted bytes m s)
    (ha : a ∈ m.active)
    (hothers : ⟨a.id, .collected⟩ ∉ notices) :
    Bypasses bytes a m (m.reactAll s notices).1 s (m.reactAll s notices).2 := by
  induction notices generalizing m s with
  | nil => exact h.bypasses_refl ha
  | cons notice rest ih =>
      rw [List.mem_cons, not_or] at hothers
      have hfirst := h.bypasses_react ha (Ne.symm hothers.1)
      exact hfirst.trans (ih hfirst.fitted hfirst.active hothers.2)

/-- Queuing the payload of a bucket concerns no slot but its own. -/
theorem newestTo_enqueue_of_ne
    {id : BucketId}
    (htidy : Tidy m)
    (ha : a ∈ m.active)
    (hne : id ≠ a.id) :
    newestTo (m.enqueue s id).queue a.slot = newestTo m.queue a.slot := by
  unfold enqueue pendingWrite
  dsimp only
  split
  · rw [List.append_nil]
  · rename_i b hb
    obtain ⟨hactive, hid⟩ := find?_eq_some hb
    split
    · rw [newestTo_append_singleton, if_neg]
      intro hslot
      rw [htidy.eq_of_slot hactive ha hslot] at hid
      exact hne hid.symm
    · rw [List.append_nil]

theorem newestTo_react
    (htidy : Tidy m)
    (ha : a ∈ m.active)
    (hpayload : (s.bucket a.bucket).payload = some payload)
    (notice : Notice) :
    newestTo (m.react s notice).1.queue a.slot =
      if notice.IsAbout a.id then some a.request else newestTo m.queue a.slot := by
  rcases m.react_cases s notice with ⟨hevent, hreact⟩ | ⟨hevent, hcases⟩
  · rw [hreact]
    by_cases hid : notice.bucket = a.id
    · have hhas : (s.bucket a.bucket).hasPayload = true := by
        rw [Bucket.hasPayload, hpayload]
        rfl
      rw [if_pos ⟨hid, hevent⟩, hid]
      exact newestTo_enqueue_self htidy ha hhas
    · rw [if_neg fun habout => hid habout.1]
      exact newestTo_enqueue_of_ne htidy ha hid
  · rw [if_neg fun habout => habout.2 hevent]
    rcases hcases with ⟨_, hreact⟩ | ⟨b, _, hreact⟩
    · rw [hreact]
    · rw [hreact]
      rfl

/-- Reading notices queues the payload of a bucket exactly if one of them is about it. -/
theorem Fitted.newestTo_reactAll
    {notices : List Notice}
    (h : Fitted bytes m s)
    (ha : a ∈ m.active)
    (hpayload : (s.bucket a.bucket).payload = some payload)
    (hothers : ⟨a.id, .collected⟩ ∉ notices) :
    newestTo (m.reactAll s notices).1.queue a.slot =
      if ∃ notice ∈ notices, notice.IsAbout a.id then some a.request
      else newestTo m.queue a.slot := by
  induction notices generalizing m s with
  | nil => simp [reactAll]
  | cons notice rest ih =>
      rw [List.mem_cons, not_or] at hothers
      have hfirst := h.bypasses_react ha (Ne.symm hothers.1)
      have hrest := ih hfirst.fitted hfirst.active ((hfirst.scene.payload _).trans hpayload)
        hothers.2
      have hqueue := newestTo_react h.tidy ha hpayload notice
      refine hrest.trans ?_
      rw [hqueue]
      by_cases hlater : ∃ later ∈ rest, later.IsAbout a.id
      · rw [if_pos hlater, if_pos]
        obtain ⟨later, hmem, habout⟩ := hlater
        exact ⟨later, List.mem_cons_of_mem _ hmem, habout⟩
      · rw [if_neg hlater]
        by_cases habout : notice.IsAbout a.id
        · rw [if_pos habout, if_pos ⟨notice, List.mem_cons_self, habout⟩]
        · rw [if_neg habout, if_neg]
          rintro ⟨other, hmem, hother⟩
          rcases List.mem_cons.mp hmem with rfl | hmem
          · exact habout hother
          · exact hlater ⟨other, hmem, hother⟩

end Reading

section Writing

theorem Fitted.size_of_writeSlot
    (h : Fitted bytes m s)
    (hb : b ∈ m.active)
    (hwrite : m.writeSlot s b.slot payload = (.ok (), s')) :
    payload.size = bucketVoxels * bytes := by
  by_contra hsize
  obtain ⟨fault, hfail⟩ := writeSlot_of_size_ne h.layout h.equipped (h.tidy.slot_lt hb) hsize
  rw [hwrite] at hfail
  cases hfail

/-- A write for an active bucket disturbs no other slot. -/
theorem Fitted.of_writeSlot
    (h : Fitted bytes m s)
    (hb : b ∈ m.active)
    (hwrite : m.writeSlot s b.slot payload = (.ok (), s')) :
    m.IsEquipped s'.device bytes ∧ m.ShowsIn s'.device b.slot payload ∧
      ∀ a ∈ m.active, a ≠ b → m.KeepsSlot m s.device s'.device a.slot := by
  have hsize := h.size_of_writeSlot hb hwrite
  obtain ⟨written, hwritten, hequipped, hshown, hothers⟩ :=
    writeSlot_of_isEquipped h.layout h.equipped (h.tidy.slot_lt hb) hsize
  rw [hwrite] at hwritten
  cases hwritten
  refine ⟨hequipped, hshown, ?_⟩
  intro a ha hne
  exact hothers a.slot (h.tidy.slot_lt ha) fun hslot => hne (h.tidy.eq_of_slot ha hb hslot)

/-- A write that fails changes nothing. -/
theorem Fitted.eq_of_writeSlot
    {fault : Fault}
    (h : Fitted bytes m s)
    (hb : b ∈ m.active)
    (hwrite : m.writeSlot s b.slot payload = (.error fault, s')) :
    payload.size ≠ bucketVoxels * bytes ∧ s' = s := by
  by_cases hsize : payload.size = bucketVoxels * bytes
  · obtain ⟨written, hwritten, _⟩ :=
      writeSlot_of_isEquipped h.layout h.equipped (h.tidy.slot_lt hb) hsize
    rw [hwrite] at hwritten
    cases hwritten
  · obtain ⟨other, hfail⟩ := writeSlot_of_size_ne h.layout h.equipped (h.tidy.slot_lt hb) hsize
    rw [hwrite] at hfail
    cases hfail
    exact ⟨hsize, rfl⟩

theorem Fitted.markCommitted
    (h : Fitted bytes m s)
    (hb : b ∈ m.active)
    (hequipped : m.IsEquipped s'.device bytes) :
    Fitted bytes (m.markCommitted s' b).1 (m.markCommitted s' b).2 where
  tidy := h.tidy.markCommitted hb
  layout := h.layout
  equipped := by
    rw [device_markCommitted]
    exact hequipped.of_same rfl rfl rfl fun _ _ => rfl

/-- A request that is not for a bucket leaves its slot alone, whatever comes of it. -/
theorem Fitted.bypasses_commit
    (h : Fitted bytes m s)
    (ha : a ∈ m.active)
    (hother : r ≠ a.request) :
    Bypasses bytes a m (m.commit s r).2.1 s (m.commit s r).2.2 := by
  rcases m.commit_cases s r with
    ⟨journal, hcommit, _⟩ | ⟨b, payload, hb, hslot, _, hwrite⟩
  · rw [hcommit]
    exact (h.bypasses_refl ha).of_journal journal
  · obtain ⟨hactive, hid⟩ := find?_eq_some hb
    rw [← hslot] at hwrite
    rcases hwrite with ⟨fault, s', hwrite, hcommit⟩ | ⟨s', hwrite, hcommit⟩
    · obtain ⟨_, rfl⟩ := h.eq_of_writeSlot hactive hwrite
      rw [hcommit]
      exact h.bypasses_refl ha
    · obtain ⟨hequipped, _, hothers⟩ := h.of_writeSlot hactive hwrite
      have hne : a ≠ b := by
        rintro rfl
        refine hother ?_
        rw [ActiveBucket.request, hid, hslot]
      rw [hcommit]
      refine ⟨h.markCommitted hactive hequipped, ha, ?_, ?_, ?_⟩
      · exact (alike_writeSlot hwrite).trans (alike_markCommitted m s' b)
      · rw [mem_committed_markCommitted]
        exact or_iff_right fun hsame => hne (h.tidy.eq_of_id ha hactive hsame)
      · rw [device_markCommitted]
        exact (hothers a ha hne).trans (keepsSlot_of_same rfl rfl rfl)

theorem Fitted.bypasses_queue
    (h : Fitted bytes m s)
    (ha : a ∈ m.active)
    (queue : List WriteRequest) :
    Bypasses bytes a m { m with queue := queue } s s :=
  h.bypasses_of_same ha rfl rfl rfl rfl rfl rfl (.refl s) fun _ _ => rfl

/-- A pass without a request for a bucket leaves its slot alone, also if it fails. -/
theorem Fitted.bypasses_commitAll
    {queue : List WriteRequest}
    (h : Fitted bytes m s)
    (ha : a ∈ m.active)
    (hothers : a.request ∉ queue)
    (allowance : Allowance) (done : Nat) :
    Bypasses bytes a m (m.commitAll s allowance done queue).2.1 s
      (m.commitAll s allowance done queue).2.2 := by
  induction queue generalizing m s allowance done with
  | nil => exact h.bypasses_queue ha []
  | cons r rest ih =>
      rw [List.mem_cons, not_or] at hothers
      have hfirst := h.bypasses_commit ha (Ne.symm hothers.1)
      rw [commitAll]
      split
      · exact h.bypasses_queue ha _
      · rcases hcommit : m.commit s r with ⟨outcome, m', s'⟩
        rw [hcommit] at hfirst
        cases outcome with
        | error fault => exact hfirst.trans (hfirst.fitted.bypasses_queue hfirst.active rest)
        | ok committed => exact hfirst.trans (ih hfirst.fitted hfirst.active hothers.2 _ _)

/-- Whether a bucket is committed and its slot shows a payload. -/
structure Displays
    (bytes : Nat) (a : ActiveBucket) (payload : Payload) (m : Residency) (s : Scene) : Prop where
  fitted : Fitted bytes m s
  active : a ∈ m.active
  committed : a.id ∈ m.committed
  shows : m.ShowsIn s.device a.slot payload

theorem Displays.of_bypasses
    (h : Displays bytes a payload m s)
    (hbypasses : Bypasses bytes a m m' s s') :
    Displays bytes a payload m' s' where
  fitted := hbypasses.fitted
  active := hbypasses.active
  committed := hbypasses.committed.mpr h.committed
  shows := hbypasses.shows payload h.shows

/-- A request that does not fail brings the payload of its bucket into its slot. -/
theorem Fitted.displays_commit
    {committed : Bool}
    (h : Fitted bytes m s)
    (ha : a ∈ m.active)
    (hpayload : (s.bucket a.bucket).payload = some payload)
    (hcommit : m.commit s a.request = (.ok committed, m', s')) :
    Displays bytes a payload m' s' := by
  have hfind : m.find? a.request.bucket = some a := h.tidy.find?_eq_some_iff.mpr ⟨ha, rfl⟩
  rcases m.commit_cases s a.request with
    ⟨_, _, hskip⟩ | ⟨b, other, hb, _, hother, hwrite⟩
  · rw [hskip a hfind rfl] at hpayload
    cases hpayload
  · rw [hfind] at hb
    cases hb
    rw [hpayload] at hother
    cases hother
    rcases hwrite with ⟨fault, written, _, hfailed⟩ | ⟨written, hwrite, hdone⟩
    · rw [hcommit] at hfailed
      cases hfailed
    · obtain ⟨hequipped, hshown, _⟩ := h.of_writeSlot ha hwrite
      have hafter : (m', s') = m.markCommitted written a :=
        congrArg Prod.snd (hcommit.symm.trans hdone)
      have hcommitted : a.id ∈ (m.markCommitted written a).1.committed :=
        mem_committed_markCommitted.mpr (.inl rfl)
      have hdisplays : Displays bytes a payload (m.markCommitted written a).1
          (m.markCommitted written a).2 := by
        refine ⟨h.markCommitted ha hequipped, ha, hcommitted, ?_⟩
        rw [device_markCommitted]
        exact hshown.of_same rfl rfl rfl
      rwa [← hafter] at hdisplays

/-- A pass that does not fail carries out all writes. -/
theorem Fitted.displays_commitAll
    {queue : List WriteRequest} {done count : Nat}
    (h : Fitted bytes m s)
    (ha : a ∈ m.active)
    (hpayload : (s.bucket a.bucket).payload = some payload)
    (hmem : a.request ∈ queue)
    (hnodup : (queue.map (·.slot)).Nodup)
    (hok : (m.commitAll s .unlimited done queue).1 = .ok count) :
    Displays bytes a payload (m.commitAll s .unlimited done queue).2.1
      (m.commitAll s .unlimited done queue).2.2 := by
  induction queue generalizing m s done with
  | nil => cases hmem
  | cons r rest ih =>
      rw [List.map_cons, List.nodup_cons] at hnodup
      rw [commitAll, Allowance.isUsedUp, if_neg Bool.false_ne_true] at hok ⊢
      by_cases hown : r = a.request
      · -- its own request has its turn, and none of those behind it is for the same slot
        subst hown
        have hlater : a.request ∉ rest := fun hlater =>
          hnodup.1 (List.mem_map_of_mem (f := (·.slot)) hlater)
        rcases hcommit : m.commit s a.request with ⟨outcome, m', s'⟩
        rw [hcommit] at hok
        cases outcome with
        | error fault => cases hok
        | ok committed =>
            have hshown := h.displays_commit ha hpayload hcommit
            exact hshown.of_bypasses (hshown.fitted.bypasses_commitAll hshown.active hlater _ _)
      · have hfirst := h.bypasses_commit ha hown
        rcases hcommit : m.commit s r with ⟨outcome, m', s'⟩
        rw [hcommit] at hok hfirst
        cases outcome with
        | error fault => cases hok
        | ok committed =>
            exact ih hfirst.fitted hfirst.active ((hfirst.scene.payload _).trans hpayload)
              ((List.mem_cons.mp hmem).resolve_left (Ne.symm hown)) hnodup.2 hok

/-- A pass over payloads of the right size does not fail. -/
theorem Fitted.isOk_commitAll
    (h : Fitted bytes m s)
    (hsizes : ∀ b ∈ m.active, ∀ payload, (s.bucket b.bucket).payload = some payload →
      payload.size = bucketVoxels * bytes)
    (allowance : Allowance) (done : Nat) (queue : List WriteRequest) :
    ∃ count, (m.commitAll s allowance done queue).1 = .ok count := by
  induction queue generalizing m s allowance done with
  | nil => exact ⟨done, rfl⟩
  | cons r rest ih =>
      rw [commitAll]
      split
      · exact ⟨done, rfl⟩
      · rcases m.commit_cases s r with
          ⟨journal, hcommit, _⟩ | ⟨b, payload, hb, hslot, hpayload, hwrite⟩
        · have hlogged : Fitted bytes m { s with journal := journal } :=
            ⟨h.tidy, h.layout, h.equipped⟩
          simp only [hcommit]
          exact ih hlogged hsizes _ _
        · have hactive := (find?_eq_some hb).1
          rw [← hslot] at hwrite
          rcases hwrite with ⟨fault, s', hwrite, _⟩ | ⟨s', hwrite, hcommit⟩
          · exact absurd (hsizes b hactive payload hpayload) (h.eq_of_writeSlot hactive hwrite).1
          · have hequipped := (h.of_writeSlot hactive hwrite).1
            have halike := (alike_writeSlot hwrite).trans (alike_markCommitted m s' b)
            simp only [hcommit]
            refine ih (h.markCommitted hactive hequipped) ?_ _ _
            intro other hother shown hshown
            rw [halike.payload] at hshown
            exact hsizes other hother shown hshown

end Writing

section Frames

theorem Fitted.bypasses_upload
    (h : Fitted bytes m s)
    (ha : a ∈ m.active) :
    Bypasses bytes a m (m.upload s).2.1 s (m.upload s).2.2 := by
  obtain ⟨isPending, hresidency⟩ := m.upload_residency s
  rw [hresidency]
  refine h.bypasses_of_same ha rfl rfl rfl rfl rfl rfl (alike_upload m s) ?_
  intro ref href
  exact texture_upload_of_ne s fun hlookUp => h.equipped.apart ref hlookUp href

/-- Bringing the look-up entries up to date leaves all slots alone, also if it fails. -/
theorem Fitted.bypasses_renew
    (h : Fitted bytes m s)
    (ha : a ∈ m.active)
    (outside : BucketRef → Bool) :
    Bypasses bytes a m (m.renew s outside).2.1 s (m.renew s outside).2.2 := by
  have hrebuilt : ∀ lookUp s', (∃ journal, s' = { s with journal := journal }) →
      Bypasses bytes a m
        { m with lookUp := lookUp, isStale := false, isUploadPending := true } s s' := by
    rintro lookUp s' ⟨journal, rfl⟩
    have hbooks : Bypasses bytes a m
        { m with lookUp := lookUp, isStale := false, isUploadPending := true } s s :=
      h.bypasses_of_same ha rfl rfl rfl rfl rfl rfl (.refl s) fun _ _ => rfl
    exact hbooks.of_journal journal
  have huploaded : ∀ {m' s'}, Bypasses bytes a m m' s s' →
      Bypasses bytes a m (m'.upload s').2.1 s (m'.upload s').2.2 :=
    fun hbefore => hbefore.trans (hbefore.fitted.bypasses_upload hbefore.active)
  unfold renew
  split
  · simp only [refresh]
    refine huploaded (hrebuilt _ _ ?_)
    split
    · exact ⟨s.journal, rfl⟩
    · exact ⟨_, rfl⟩
  · split
    · exact h.bypasses_upload ha
    · exact h.bypasses_refl ha

/-- Bringing the look-up entries up to date leaves the textures of the slots as they are. -/
theorem Fitted.of_renew
    (h : Fitted bytes m s)
    (outside : BucketRef → Bool) :
    Fitted bytes (m.renew s outside).2.1 (m.renew s outside).2.2 := by
  have huploaded : ∀ {m' s'}, Fitted bytes m' s' →
      Fitted bytes (m'.upload s').2.1 (m'.upload s').2.2 := by
    intro m' s' h'
    obtain ⟨isPending, hresidency⟩ := m'.upload_residency s'
    rw [hresidency]
    refine ⟨h'.tidy.of_eq rfl rfl rfl rfl, h'.layout, h'.equipped.of_same rfl rfl rfl ?_⟩
    intro ref href
    exact texture_upload_of_ne s' fun hlookUp => h'.equipped.apart ref hlookUp href
  unfold renew
  split
  · simp only [refresh]
    refine huploaded ⟨h.tidy.of_eq rfl rfl rfl rfl, h.layout, h.equipped.of_same rfl rfl rfl ?_⟩
    intro ref _
    split <;> rfl
  · split
    · exact huploaded h
    · exact h

/-- Reading notices leaves the slot of a bucket alone that none of them calls collected. -/
theorem Fitted.bypasses_readNotices
    (h : Fitted bytes m s)
    (ha : a ∈ m.active)
    (hothers : ⟨a.id, .collected⟩ ∉ (s.mailbox m.mailbox).notices) :
    Bypasses bytes a m (m.readNotices s).1 s (m.readNotices s).2 := by
  have hdrained : Bypasses bytes a m m s (s.drain m.mailbox).2 :=
    h.bypasses_of_same ha rfl rfl rfl rfl rfl rfl (Scene.alike_of_buckets rfl) fun _ _ => rfl
  exact hdrained.trans (hdrained.fitted.bypasses_reactAll ha hothers)

theorem Fitted.newestTo_readNotices
    (h : Fitted bytes m s)
    (ha : a ∈ m.active)
    (hpayload : (s.bucket a.bucket).payload = some payload)
    (hothers : ⟨a.id, .collected⟩ ∉ (s.mailbox m.mailbox).notices) :
    newestTo (m.readNotices s).1.queue a.slot =
      if ∃ notice ∈ (s.mailbox m.mailbox).notices, notice.IsAbout a.id then some a.request
      else newestTo m.queue a.slot := by
  have hdrained : Fitted bytes m (s.drain m.mailbox).2 := ⟨h.tidy, h.layout, h.equipped⟩
  exact hdrained.newestTo_reactAll ha hpayload hothers

/-- A pass in which the payload of a bucket is not due leaves its slot alone. -/
theorem Fitted.bypasses_work
    (h : Fitted bytes m s)
    (ha : a ∈ m.active)
    (hqueue : newestTo m.queue a.slot ≠ some a.request)
    (allowance : Allowance) :
    Bypasses bytes a m (m.work s allowance).2.1 s (m.work s allowance).2.2 := by
  by_cases hready : m.isReady s = true
  · obtain ⟨journal, hwork⟩ := work_of_isReady allowance hready
    have hpass := h.bypasses_commitAll ha
      (fun hmem => hqueue (mem_newestPerSlot_iff.mp hmem)) allowance 0
    rw [hwork]
    exact hpass.of_journal journal
  · rw [work, if_neg hready]
    exact (h.bypasses_refl ha).of_journal _

/-- A pass that does not fail brings a payload that is due into its slot. -/
theorem Fitted.displays_work
    {count : Nat}
    (h : Fitted bytes m s)
    (ha : a ∈ m.active)
    (hpayload : (s.bucket a.bucket).payload = some payload)
    (hqueue : newestTo m.queue a.slot = some a.request)
    (hready : m.isReady s = true)
    (hok : (m.work s .unlimited).1 = .ok count) :
    Displays bytes a payload (m.work s .unlimited).2.1 (m.work s .unlimited).2.2 := by
  obtain ⟨journal, hwork⟩ := work_of_isReady .unlimited hready
  rw [hwork] at hok ⊢
  have hshown := h.displays_commitAll ha hpayload (mem_newestPerSlot_iff.mpr hqueue)
    (nodup_slots_newestPerSlot m.queue) hok
  exact hshown.of_bypasses ((hshown.fitted.bypasses_refl hshown.active).of_journal journal)

/-- A frame ends with its writes if they fail, and else with the look-up entries. -/
theorem tick_cases
    (m : Residency) (s : Scene) (outside : BucketRef → Bool) (allowance : Allowance) :
    let worked := (m.readNotices s).1.work (m.readNotices s).2 allowance
    (∃ fault, worked.1 = .error fault ∧
      m.tick s outside allowance = (.error fault, worked.2)) ∨
    ∃ count, worked.1 = .ok count ∧
      (m.tick s outside allowance).2 = (worked.2.1.renew worked.2.2 outside).2 := by
  intro worked
  rcases hwork : (m.readNotices s).1.work (m.readNotices s).2 allowance with ⟨outcome, m', s'⟩
  rw [show worked = _ from hwork]
  cases outcome with
  | error fault => exact .inl ⟨fault, rfl, by simp only [tick, hwork]⟩
  | ok count => exact .inr ⟨count, rfl, tick_of_work_eq_ok outside hwork⟩

/-- Whether the payload of an active bucket is about to be written. -/
def IsDue (m : Residency) (s : Scene) (a : ActiveBucket) : Prop :=
  newestTo m.queue a.slot = some a.request ∨
    ∃ notice ∈ (s.mailbox m.mailbox).notices, notice.IsAbout a.id

/-- A frame leaves the slot of a bucket alone whose payload is not due. -/
theorem Fitted.bypasses_tick
    (h : Fitted bytes m s)
    (ha : a ∈ m.active)
    (hpayload : (s.bucket a.bucket).payload = some payload)
    (hothers : ⟨a.id, .collected⟩ ∉ (s.mailbox m.mailbox).notices)
    (hidle : ¬ m.IsDue s a)
    (outside : BucketRef → Bool) (allowance : Allowance) :
    Bypasses bytes a m (m.tick s outside allowance).2.1 s (m.tick s outside allowance).2.2 := by
  have hread := h.bypasses_readNotices ha hothers
  have hqueue := h.newestTo_readNotices ha hpayload hothers
  rw [if_neg fun habout => hidle (.inr habout)] at hqueue
  have hworked := hread.trans
    (hread.fitted.bypasses_work hread.active (fun hown => hidle (.inl (hqueue ▸ hown))) allowance)
  rcases tick_cases m s outside allowance with ⟨fault, _, htick⟩ | ⟨count, _, htick⟩
  · rw [htick]
    exact hworked
  · rw [htick]
    exact hworked.trans (hworked.fitted.bypasses_renew hworked.active outside)

/--
A frame brings a payload that is due into its slot, unless it fails; and it does not fail
because of writes if all payloads have the right size.
-/
theorem Fitted.displays_tick
    {outside : BucketRef → Bool}
    (h : Fitted bytes m s)
    (ha : a ∈ m.active)
    (hpayload : (s.bucket a.bucket).payload = some payload)
    (hothers : ⟨a.id, .collected⟩ ∉ (s.mailbox m.mailbox).notices)
    (hready : m.isReady s = true)
    (hdue : m.IsDue s a)
    (hok : (∃ count, (m.tick s outside .unlimited).1 = .ok count) ∨
      ∀ b ∈ m.active, ∀ shown, (s.bucket b.bucket).payload = some shown →
        shown.size = bucketVoxels * bytes) :
    Displays bytes a payload (m.tick s outside .unlimited).2.1
      (m.tick s outside .unlimited).2.2 := by
  have hread := h.bypasses_readNotices ha hothers
  have hready' : (m.readNotices s).1.isReady (m.readNotices s).2 = true :=
    (isReady_reactAll m (s.drain m.mailbox).2 (s.drain m.mailbox).1).trans hready
  have hqueue : newestTo (m.readNotices s).1.queue a.slot = some a.request := by
    rw [h.newestTo_readNotices ha hpayload hothers]
    split
    · rfl
    · rename_i hsilent
      exact hdue.resolve_right hsilent
  have hpayload' : ((m.readNotices s).2.bucket a.bucket).payload = some payload :=
    (hread.scene.payload _).trans hpayload
  rcases tick_cases m s outside .unlimited with ⟨fault, hfail, htick⟩ | ⟨count, hwork, htick⟩
  · -- a pass over payloads of the right size cannot have failed
    rcases hok with ⟨count, hok⟩ | hsizes
    · rw [htick] at hok
      cases hok
    · obtain ⟨journal, hwork⟩ := work_of_isReady .unlimited hready'
      obtain ⟨count, hcount⟩ := hread.fitted.isOk_commitAll
        (fun b hb shown hshown => hsizes b (mem_active_of_mem_readNotices hb) shown
          ((hread.scene.payload _).symm.trans hshown))
        .unlimited 0 (newestPerSlot (m.readNotices s).1.queue)
      rw [hwork, hcount] at hfail
      cases hfail
  · have hshown := hread.fitted.displays_work hread.active hpayload' hqueue hready' hwork
    rw [htick]
    exact hshown.of_bypasses (hshown.fitted.bypasses_renew hshown.active outside)

end Frames

end Bypassing

end Residency

end VoxelCache
