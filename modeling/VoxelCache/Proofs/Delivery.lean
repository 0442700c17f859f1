import VoxelCache.Proofs.Faithfulness

/-!
# Delivery of payloads

**The rules of the game.**  Payloads have the right size and come once, nobody cancels
subscriptions of the residency or reads its mailbox, and the textures are rasters that
are set up once.

**Results.**
* `Reachable.faithful`: under these rules the books are faithful in every run.
* `tick_of_suffices`: a frame whose time suffices for its writes is as good as one without a
  time limit.
* `step_tick_unlimited`: a frame with ready textures and no time limit works off all
  notices and requests.
* `no_write_lost`: the payload of an active bucket is in its slot, or the newest request
  for the slot is its own, or a notice about it has not been read.
-/

namespace VoxelCache

section Occurrences

open Residency

variable {bytes : Nat} {w : World}

/--
Whether an operation respects the rules: deeds are considerate, nobody else reads or
closes the mailbox of the residency, and the textures are set up once, as rasters.
-/
def IsFair (bytes : Nat) (w : World) : Operation → Prop
  | .occurrence (.deed ref deed) =>
      deed.IsConsiderate bytes w.residency.mailbox (w.scene.bucket ref)
  | .occurrence (.drain mailbox) => mailbox ≠ w.residency.mailbox
  | .occurrence (.closeMailbox mailbox) => mailbox ≠ w.residency.mailbox
  | .setUp factory width =>
      w.residency.lookUpTexture = none ∧ width = bytes ∧ ∃ switch, factory = .rasters switch
  | _ => True

theorem IsFair.sparesOwner
    {op : Operation}
    (h : IsFair bytes w op) :
    SparesOwner w op := by
  cases op with
  | occurrence o =>
      cases o with
      | deed ref deed => exact deed.spares_of_isConsiderate h
      | drain mailbox => exact h
      | closeMailbox mailbox => exact h
      | _ => trivial
  | _ => trivial

/-- What happens to the scene takes nothing out of slots, queue and mailbox. -/
theorem Delivers.of_scene
    {s : Scene} {a : ActiveBucket} {payload : Payload}
    (h : Delivers w a payload)
    (hnotices : ∀ notice ∈ (w.scene.mailbox w.residency.mailbox).notices,
      notice ∈ (s.mailbox w.residency.mailbox).notices)
    (htextures : ∀ ref, s.device.texture ref = w.scene.device.texture ref) :
    Delivers { w with scene := s } a payload := by
  cases h with
  | shown hcommitted hshows => exact .shown hcommitted (hshows.of_same rfl rfl (htextures _))
  | queued hnewest hr => exact .queued hnewest hr
  | announced hmem hbucket hevent => exact .announced (hnotices _ hmem) hbucket hevent

theorem Serviceable.of_scene
    {s : Scene}
    (h : Serviceable bytes w)
    (hwatchful : Watchful { w with scene := s })
    (htextures : ∀ ref, s.device.texture ref = w.scene.device.texture ref)
    (hsound : ∀ ref, Deed.IsSound bytes (s.bucket ref)) :
    Serviceable bytes { w with scene := s } where
  toWatchful := hwatchful
  layout := h.layout
  sound := hsound
  unequipped := h.unequipped
  equipped hsome := (h.equipped hsome).of_same rfl rfl rfl fun ref _ => htextures ref

theorem notices_deed
    {ref : BucketRef} {deed : Deed}
    (h : Watchful w) :
    ∀ notice ∈ (w.scene.mailbox w.residency.mailbox).notices,
      notice ∈ ((w.scene.deed ref deed).mailbox w.residency.mailbox).notices := by
  intro notice hmem
  rw [Scene.mailbox_deed ref deed h.isOpen]
  exact List.mem_append_left _ hmem

/-- What is posted to the residency arrives. -/
theorem delivers_of_tells
    {ref : BucketRef} {deed : Deed} {a : ActiveBucket} {payload : Payload}
    (h : Watchful w)
    (ha : a ∈ w.residency.active)
    (hsame : a.bucket = ref)
    (htells : Deed.Tells w.residency.mailbox (w.scene.bucket ref).id
      (deed.perform (w.scene.bucket ref)).2) :
    Delivers { w with scene := w.scene.deed ref deed } a payload := by
  obtain ⟨post, hpost, hto, hbucket, hevent⟩ := htells
  have hid := (h.known a ha).2
  rw [hsame] at hid
  have hposted : post.notice ∈
      ((w.scene.deed ref deed).mailbox w.residency.mailbox).notices := by
    rw [Scene.mailbox_deed ref deed h.isOpen]
    refine List.mem_append_right _ (List.mem_map_of_mem (List.mem_filter.mpr ⟨hpost, ?_⟩))
    simpa using hto
  exact .announced hposted (hbucket.trans hid) hevent

/-- A deed leaves the books serviceable if it leaves its bucket sound. -/
theorem Serviceable.of_deed
    {ref : BucketRef} {deed : Deed}
    (h : Serviceable bytes w)
    (hexist : ref < w.scene.buckets.size)
    (hspares : deed.Spares w.residency.mailbox (w.scene.bucket ref))
    (hsound : Deed.IsSound bytes (deed.perform (w.scene.bucket ref)).1) :
    Serviceable bytes { w with scene := w.scene.deed ref deed } := by
  refine h.of_scene (h.toWatchful.of_occurrence (o := .deed ref deed) hexist hspares) ?_ ?_
  · intro other
    rw [Scene.device_deed]
  · intro other
    by_cases hsame : other = ref
    · rw [hsame, Scene.bucket_deed_self deed hexist]
      exact hsound
    · rw [Scene.bucket_deed_of_ne deed hsame]
      exact h.sound other

/-- A considerate deed announces the payload that it brings. -/
theorem faithful_deed
    {ref : BucketRef} {deed : Deed}
    (h : Faithful bytes w)
    (hexist : ref < w.scene.buckets.size)
    (hfair : deed.IsConsiderate bytes w.residency.mailbox (w.scene.bucket ref)) :
    Faithful bytes { w with scene := w.scene.deed ref deed } := by
  have hdevelops := Deed.perform_develops deed (h.sound ref) hfair
  refine ⟨h.toServiceable.of_deed hexist (deed.spares_of_isConsiderate hfair) hdevelops.sound, ?_⟩
  intro a ha payload hpayload
  have hkept : (w.scene.bucket a.bucket).payload = some payload →
      Delivers { w with scene := w.scene.deed ref deed } a payload := by
    intro hbefore
    refine (h.delivers a ha payload hbefore).of_scene (notices_deed h.toWatchful) ?_
    intro other
    rw [Scene.device_deed]
  by_cases hsame : a.bucket = ref
  · rw [hsame, Scene.bucket_deed_self deed hexist] at hpayload
    by_cases hchanged : (deed.perform (w.scene.bucket ref)).1.payload =
        (w.scene.bucket ref).payload
    · rw [hchanged, ← hsame] at hpayload
      exact hkept hpayload
    · have hwatched := h.watched a ha
      rw [hsame] at hwatched
      exact delivers_of_tells h.toWatchful ha hsame
        (hdevelops.told _ hwatched hchanged (by simp [hpayload]))
  · rw [Scene.bucket_deed_of_ne deed hsame] at hpayload
    exact hkept hpayload

/-- A new bucket is sound. -/
theorem Serviceable.of_create
    {id : BucketId} {address : Address} {coarser : Option BucketRef}
    (h : Serviceable bytes w) :
    Serviceable bytes
      { w with scene := (w.scene.addBucket (.create id address coarser)).2 } := by
  refine h.of_scene
    (h.toWatchful.of_occurrence (o := .create id address coarser) trivial trivial)
    (fun _ => rfl) ?_
  intro ref
  rw [Scene.bucket_addBucket]
  split
  · refine ⟨?_, fun _ => rfl⟩
    intro payload hpayload
    cases hpayload
  · exact h.sound ref

/-- A new bucket has no payload that could get lost. -/
theorem faithful_create
    {id : BucketId} {address : Address} {coarser : Option BucketRef}
    (h : Faithful bytes w) :
    Faithful bytes { w with scene := (w.scene.addBucket (.create id address coarser)).2 } := by
  refine ⟨h.toServiceable.of_create, ?_⟩
  intro a ha payload hpayload
  dsimp only at hpayload
  rw [Scene.bucket_addBucket_of_lt (h.known a ha).1] at hpayload
  exact (h.delivers a ha payload hpayload).of_scene (fun _ hmem => hmem) fun _ => rfl

theorem Faithful.of_occurrence
    {o : Occurrence}
    (h : Faithful bytes w)
    (htidy : Tidy w.residency)
    (hnames : (Operation.occurrence o).Names w.scene)
    (hfair : IsFair bytes w (.occurrence o)) :
    Faithful bytes { w with scene := w.scene.occur o } := by
  have hspares := hfair.sparesOwner
  rcases occur_cases hspares h.isOpen with
    ⟨ref, deed, rfl⟩ | ⟨id, address, coarser, rfl⟩ | ⟨hbuckets, hmailbox, htextures⟩
  · exact faithful_deed h hnames hfair
  · exact faithful_create h
  · exact h.of_keeps (h.toWatchful.of_occurrence hnames hspares)
      (h.keeps_of_books htidy rfl rfl rfl rfl rfl rfl rfl hbuckets hmailbox
        fun ref _ => htextures ref)

section SettingUp

variable {switch : Nat}

/-- New textures leave everything alone that has to do with buckets. -/
theorem setUp_keeps (w : World) (factory : Factory) (bytes : Nat) :
    let after := w.step (.setUp factory bytes)
    after.residency.layout = w.residency.layout ∧
      after.residency.mailbox = w.residency.mailbox ∧
      after.residency.active = w.residency.active ∧
      after.residency.committed = w.residency.committed ∧
      after.residency.queue = w.residency.queue ∧
      after.scene.buckets = w.scene.buckets ∧
      after.scene.mailboxes = w.scene.mailboxes := by
  obtain ⟨_, _, _, device, journal, hstep⟩ := w.exists_step_setUp_eq factory bytes
  rw [hstep]
  exact ⟨rfl, rfl, rfl, rfl, rfl, rfl, rfl⟩

theorem Serviceable.of_setUp
    (h : Serviceable bytes w)
    (hnone : w.residency.lookUpTexture = none) :
    Serviceable bytes (w.step (.setUp (.rasters switch) bytes)) := by
  obtain ⟨hlayout, hmailbox, hactive, hcommitted, _, hbuckets, hmailboxes⟩ :=
    setUp_keeps w (.rasters switch) bytes
  have hbucket : ∀ ref,
      (w.step (.setUp (.rasters switch) bytes)).scene.bucket ref = w.scene.bucket ref := by
    intro ref
    rw [Scene.bucket, hbuckets, Scene.bucket]
  refine ⟨⟨?_, ?_, ?_⟩, ?_, ?_, ?_, ?_⟩
  · rw [hmailbox, Scene.mailbox, hmailboxes]
    exact h.isOpen
  · intro a ha
    rw [hactive] at ha
    exact (h.known a ha).of_extends (Scene.extends_of_buckets hbuckets)
  · intro a ha
    rw [hactive] at ha
    rw [hmailbox, hbucket]
    exact h.watched a ha
  · rw [hlayout]
    exact h.layout
  · intro ref
    rw [hbucket]
    exact h.sound ref
  · intro _
    rw [hcommitted]
    exact h.unequipped hnone
  · intro hsome
    rw [w.step_setUp] at hsome ⊢
    rcases isFresh_setUp h.layout w.scene switch bytes with ⟨_, _, hsame⟩ | ⟨_, hfresh⟩
    · rw [hsame, hnone] at hsome
      cases hsome
    · exact hfresh.equipped

/-- When the first textures are set up, nothing was written that could get lost. -/
theorem Delivers.of_setUp
    {a : ActiveBucket} {payload : Payload}
    (h : Delivers w a payload)
    (hblank : w.residency.committed = []) :
    Delivers (w.step (.setUp (.rasters switch) bytes)) a payload := by
  obtain ⟨_, hmailbox, _, _, hqueue, _, hmailboxes⟩ :=
    setUp_keeps w (.rasters switch) bytes
  cases h with
  | shown hmem _ =>
      rw [hblank] at hmem
      cases hmem
  | queued hnewest hr => exact .queued (hqueue ▸ hnewest) hr
  | announced hmem hid hevent =>
      refine .announced ?_ hid hevent
      rw [hmailbox, Scene.mailbox, hmailboxes]
      exact hmem

theorem faithful_setUp
    (h : Faithful bytes w)
    (hnone : w.residency.lookUpTexture = none) :
    Faithful bytes (w.step (.setUp (.rasters switch) bytes)) := by
  obtain ⟨_, _, hactive, _, _, hbuckets, _⟩ := setUp_keeps w (.rasters switch) bytes
  refine ⟨h.toServiceable.of_setUp hnone, ?_⟩
  intro a ha payload hpayload
  rw [hactive] at ha
  rw [Scene.bucket, hbuckets] at hpayload
  exact (h.delivers a ha payload hpayload).of_setUp (h.unequipped hnone)

end SettingUp

end Occurrences

section Runs

open Residency

variable {bytes : Nat} {s₀ : Scene} {w : World} {a : ActiveBucket} {payload : Payload}

/-- Where there are no buckets, there are no payloads of a wrong size. -/
theorem isSound_of_buckets_eq_empty
    {s : Scene}
    (h : s.buckets = #[])
    (ref : BucketRef) :
    Deed.IsSound bytes (s.bucket ref) := by
  have hdefault : s.bucket ref = default := by simp [Scene.bucket, h]
  rw [hdefault]
  refine ⟨?_, fun _ => rfl⟩
  intro payload hpayload
  cases hpayload

/-- A new residency has no buckets whose payloads it could lose. -/
theorem faithful_start
    {width textures packing : Nat} {settings : Settings} {m : Residency} {s : Scene}
    (hs₀ : ∀ ref, Deed.IsSound bytes (s₀.bucket ref))
    (hcreate : Residency.create s₀ width textures packing settings = (.ok m, s)) :
    Faithful bytes ⟨m, s, .blank⟩ := by
  have hwatchful := (heedful_start hcreate).toWatchful
  obtain ⟨layout, journal, hlayout, _, rfl, rfl⟩ := create_eq_ok hcreate
  refine ⟨⟨hwatchful, SlotLayout.isProper_create hlayout, hs₀, fun _ => rfl, ?_⟩, ?_⟩
  · intro hsome
    cases hsome
  · intro a ha
    cases ha

theorem Serviceable.of_moves
    {opening : Bool} {w w' : World}
    (h : Serviceable bytes w)
    (htidy : Tidy w.residency)
    (hmoves : Moves opening w w') :
    Serviceable bytes w' := by
  induction hmoves with
  | refl => exact h
  | tail hbefore hlast ih => exact ih.of_move (Moves.tidy hbefore htidy) hlast

theorem Reachable.faithful
    (hs₀ : ∀ ref, Deed.IsSound bytes (s₀.bucket ref))
    (h : Reachable (IsFair bytes) s₀ w) :
    Faithful bytes w := by
  refine (h.of_moves (P := Faithful bytes) (Q := fun _ => True) ?_ ?_ ?_ ?_ ?_).1
  · intro width textures packing settings m s hcreate
    exact ⟨faithful_start hs₀ hcreate, trivial⟩
  · intro w op htidy hother hnames hfair hw _
    refine ⟨?_, trivial⟩
    cases op with
    | occurrence o =>
        rw [w.step_occurrence]
        exact hw.of_occurrence htidy hnames hfair
    | setUp factory width =>
        obtain ⟨hnone, rfl, switch, rfl⟩ := hfair
        exact faithful_setUp hw hnone
    | _ => cases hother
  · intro w w' htidy hmove hw
    exact hw.of_move htidy hmove
  · intro w w' _ _ _ _
    trivial
  · intro _ w _ outside _ _ _ htidy hw
    refine ⟨hw.of_keeps ⟨hw.isOpen, hw.known, hw.watched⟩ ?_, trivial⟩
    exact hw.keeps_of_books htidy rfl rfl rfl rfl rfl rfl rfl rfl rfl fun _ _ => rfl

end Runs

section Allowances

namespace Residency

/-- Whether a pass may take up `count` writes. -/
def Allowance.suffices (count : Nat) : Allowance → Bool
  | unlimited => true
  | writes limit => count ≤ limit

/-- How many writes a frame has to carry out. -/
def writesDue (m : Residency) (s : Scene) : Nat :=
  (newestPerSlot (m.readNotices s).1.queue).length

variable {m : Residency} {s : Scene} {allowance : Allowance}

theorem commitAll_of_suffices
    {queue : List WriteRequest}
    (h : allowance.suffices queue.length = true)
    (done : Nat) :
    m.commitAll s allowance done queue = m.commitAll s .unlimited done queue := by
  induction queue generalizing m s allowance done with
  | nil => rfl
  | cons r rest ih =>
      cases allowance with
      | unlimited => rfl
      | writes limit =>
          have hlimit : rest.length + 1 ≤ limit := by simpa [Allowance.suffices] using h
          have hleft : (Allowance.writes limit).isUsedUp = false := by
            rw [Allowance.isUsedUp, beq_eq_false_iff_ne]
            omega
          have hlater : (Allowance.writes limit).spend.suffices rest.length = true := by
            rw [Allowance.spend, Allowance.suffices, decide_eq_true_iff]
            omega
          rw [commitAll, commitAll, hleft, Allowance.isUsedUp]
          rcases m.commit s r with ⟨outcome, m', s'⟩
          cases outcome with
          | error fault => rfl
          | ok committed => exact ih hlater _

/-- An allowance that suffices is as good as no limit. -/
theorem tick_of_suffices
    (h : allowance.suffices (m.writesDue s) = true)
    (outside : BucketRef → Bool) :
    m.tick s outside allowance = m.tick s outside .unlimited := by
  have hwork : (m.readNotices s).1.work (m.readNotices s).2 allowance =
      (m.readNotices s).1.work (m.readNotices s).2 .unlimited := by
    rw [work, work, commitAll_of_suffices h]
  simp only [tick, hwork]

end Residency

end Allowances

section Frames

open Residency

variable {bytes : Nat} {w w' : World} {m : Residency} {s : Scene} {c : Chronicle}

/-- Without a time limit, a pass comes to its end and leaves no requests. -/
theorem commitAll_unlimited
    {queue : List WriteRequest} (done : Nat)
    (h : Serviceable bytes ⟨{ m with queue := queue }, s, c⟩)
    (htidy : Tidy m)
    (htexture : m.lookUpTexture.isSome = true) :
    ∃ count m' s', m.commitAll s .unlimited done queue = (.ok count, m', s') ∧ m'.queue = [] := by
  induction queue generalizing m s c done with
  | nil => exact ⟨done, _, s, rfl, rfl⟩
  | cons r rest ih =>
      have hqueued : Tidy { m with queue := r :: rest } := htidy.of_eq rfl rfl rfl rfl
      rw [commitAll, Allowance.isUsedUp, if_neg (by simp)]
      rcases m.commit_cases s r with
        ⟨journal, hcommit, hskip⟩ | ⟨a, payload, ha, hslot, hpayload, hwrite⟩
      · have hdrop : Move false ⟨{ m with queue := r :: rest }, s, c⟩
            ⟨{ m with queue := rest }, s, c⟩ := .skip rfl hskip
        have hlog : Move false ⟨{ m with queue := rest }, s, c⟩
            ⟨{ m with queue := rest }, { s with journal := journal }, c⟩ := .journal _ journal
        have hdropped := h.of_move hqueued hdrop
        simp only [hcommit]
        exact ih done (hdropped.of_move (hdrop.tidy hqueued) hlog) htidy htexture
      · rcases hwrite with ⟨fault, s', hwrite, _⟩ | ⟨s', hwrite, hcommit⟩
        · obtain ⟨_, hgood⟩ :=
            exists_writeSlot h hqueued htexture (find?_eq_some ha).1 hpayload
          have hbad : m.writeSlot s a.slot payload = (.error fault, s') := hslot ▸ hwrite
          have hgood : m.writeSlot s a.slot payload = _ := hgood
          rw [hbad] at hgood
          cases hgood
        · have hmove : Move false ⟨{ m with queue := r :: rest }, s, c⟩ _ :=
            .write rfl htexture ha hslot hpayload hwrite
          simp only [hcommit]
          exact ih (done + 1) (h.of_move hqueued hmove)
            (htidy.markCommitted (find?_eq_some ha).1) htexture

theorem isReady_react
    (m : Residency) (s : Scene) (notice : Notice) :
    (m.react s notice).1.isReady (m.react s notice).2 = m.isReady s := by
  rcases m.react_cases s notice with ⟨_, h⟩ | ⟨_, ⟨_, h⟩ | ⟨a, _, h⟩⟩
  · rw [h]
    rfl
  · rw [h]
  · rw [h, isReady, device_dismiss]
    rfl

theorem isReady_reactAll
    (m : Residency) (s : Scene) (notices : List Notice) :
    (m.reactAll s notices).1.isReady (m.reactAll s notices).2 = m.isReady s := by
  induction notices generalizing m s with
  | nil => rfl
  | cons notice rest ih => exact (ih _ _).trans (isReady_react m s notice)

/-- After a frame with ready textures and no time limit, nothing is on its way any more. -/
theorem step_tick_unlimited
    (h : Serviceable bytes w)
    (htidy : Tidy w.residency)
    (hready : w.residency.isReady w.scene = true)
    (outside : BucketRef → Bool) :
    (w.step (.tick outside .unlimited)).residency.queue = [] ∧
      ((w.step (.tick outside .unlimited)).scene.mailbox
        (w.step (.tick outside .unlimited)).residency.mailbox).notices = [] := by
  let drained := w.scene.drain w.residency.mailbox
  have hkept : (w.residency.readNotices w.scene).1.isReady (w.residency.readNotices w.scene).2 =
      w.residency.isReady w.scene := isReady_reactAll w.residency drained.2 drained.1
  have hnotices := notices_readNotices w.residency w.scene
  have hheard := moves_readNotices false w.residency w.scene w.chronicle
  rcases hread : w.residency.readNotices w.scene with ⟨m, s⟩
  rw [hread] at hkept hnotices hheard
  have hready' : m.isReady s = true := hkept.trans hready
  have htidy' : Tidy m := hheard.tidy htidy
  have hthin : Move false ⟨m, s, w.chronicle⟩
      ⟨{ m with queue := newestPerSlot m.queue }, s, w.chronicle⟩ := .thin _
  have hthinned := (h.of_moves htidy hheard).of_move htidy' hthin
  obtain ⟨count, m', s', hpass, hqueue⟩ :=
    commitAll_unlimited 0 hthinned htidy' (isSome_lookUpTexture_of_isReady hready')
  obtain ⟨journal, hwork⟩ := work_of_isReady .unlimited hready'
  rw [hpass] at hwork
  have hmoves := moves_work false m s w.chronicle .unlimited
  rw [hwork] at hmoves
  have hafter := hmoves.notices_eq_nil hnotices
  have hstep : (w.residency.tick w.scene outside .unlimited).2 =
      (m'.renew { s' with journal := journal } outside).2 :=
    tick_of_work_eq_ok outside (by rw [hread]; exact hwork)
  obtain ⟨_, hrequests, hbox, hboxes⟩ := m'.renew_keeps { s' with journal := journal } outside
  have hresidency : (w.step (.tick outside .unlimited)).residency =
      (m'.renew { s' with journal := journal } outside).2.1 := congrArg Prod.fst hstep
  have hscene : (w.step (.tick outside .unlimited)).scene =
      (m'.renew { s' with journal := journal } outside).2.2 := congrArg Prod.snd hstep
  rw [hresidency, hscene]
  refine ⟨hrequests.trans hqueue, ?_⟩
  rw [hbox, Scene.mailbox, hboxes]
  exact hafter

end Frames

section Delivery

open Residency

variable {bytes : Nat} {s₀ : Scene} {w : World}

/--
The payload of an active bucket is in its slot, or the newest request for the slot is
its own, or a notice about it has not been read.  So a frame with ready textures and no
time limit brings all payloads into their slots.
-/
theorem no_write_lost
    (hs₀ : ∀ ref, Deed.IsSound bytes (s₀.bucket ref))
    (h : Reachable (IsFair bytes) s₀ w) :
    (∀ a ∈ w.residency.active, ∀ payload,
      (w.scene.bucket a.bucket).payload = some payload →
      Delivers w a payload) ∧
    (w.residency.isReady w.scene = true → ∀ outside,
      let w' := w.step (.tick outside .unlimited)
      ∀ a ∈ w'.residency.active, ∀ payload,
        (w'.scene.bucket a.bucket).payload = some payload →
        a.id ∈ w'.residency.committed ∧
          w'.residency.ShowsIn w'.scene.device a.slot payload) := by
  have hfaithful := h.faithful hs₀
  refine ⟨hfaithful.delivers, ?_⟩
  intro hready outside w' a ha payload hpayload
  have hticked : Reachable (IsFair bytes) s₀ w' := h.step trivial trivial
  obtain ⟨hqueue, hnotices⟩ :=
    step_tick_unlimited hfaithful.toServiceable h.tidy hready outside
  cases (hticked.faithful hs₀).delivers a ha payload hpayload with
  | shown hcommitted hshows => exact ⟨hcommitted, hshows⟩
  | queued hnewest _ =>
      have hnone : newestTo w'.residency.queue a.slot = none := by
        rw [show w'.residency.queue = [] from hqueue]
        rfl
      rw [hnone] at hnewest
      cases hnewest
  | announced hmem _ _ =>
      have hnone : (w'.scene.mailbox w'.residency.mailbox).notices = [] := hnotices
      rw [hnone] at hmem
      cases hmem

/-- A bucket that got a slot with its payload is queued, and a frame later it is shown. -/
theorem no_write_lost_of_one_queued :
    let ops : List Operation := [
      .occurrence (.addSwitch true), .setUp (.rasters 0) 1,
      .occurrence (.create 7 .origin none),
      .occurrence (.deed 0 (.receive (zeroBytes bucketVoxels))),
      .activate (fun _ => true) [0] .origin]
    let w := ops.foldl World.step .smallest
    let w' := w.step (.tick (fun _ => true) .unlimited)
    (∃ a ∈ w.residency.active, ∃ payload,
      (w.scene.bucket a.bucket).payload = some payload ∧ Delivers w a payload) ∧
    w.residency.isReady w.scene = true ∧
    ∃ a ∈ w'.residency.active, ∃ payload,
      (w'.scene.bucket a.bucket).payload = some payload ∧
        a.id ∈ w'.residency.committed ∧
        w'.residency.ShowsIn w'.scene.device a.slot payload := by
  intro ops w w'
  have hempty : ∀ ref, Deed.IsSound 1 (Scene.empty.bucket ref) := by
    intro ref
    refine ⟨?_, fun _ => rfl⟩
    intro payload hpayload
    cases hpayload
  have hreached : Reachable (IsFair 1) Scene.empty w := by
    refine (reachable_smallest _).run ⟨trivial, trivial, trivial, ?_, trivial, trivial, ?_, ?_, ?_,
      trivial, trivial⟩
    · exact ⟨by decide +kernel, rfl, 0, rfl⟩
    · show 0 < _
      decide +kernel
    · refine ⟨size_zeroBytes _, .inr (Option.isNone_iff_eq_none.mp ?_)⟩
      decide +kernel
    · intro ref href
      rw [List.mem_singleton.mp href]
      decide +kernel
  obtain ⟨hdelivers, hticked⟩ := no_write_lost hempty hreached
  have hready : w.residency.isReady w.scene = true := by decide +kernel
  have hactive : ⟨7, 0, 0, 0⟩ ∈ w.residency.active := by decide +kernel
  have hactive' : ⟨7, 0, 0, 0⟩ ∈ w'.residency.active := by decide +kernel
  have hpayload : (w.scene.bucket 0).payload.isSome = true := by decide +kernel
  have hpayload' : (w'.scene.bucket 0).payload.isSome = true := by decide +kernel
  obtain ⟨payload, hpayload⟩ := Option.isSome_iff_exists.mp hpayload
  obtain ⟨payload', hpayload'⟩ := Option.isSome_iff_exists.mp hpayload'
  exact ⟨⟨_, hactive, payload, hpayload, hdelivers _ hactive payload hpayload⟩, hready,
    _, hactive', payload', hpayload', hticked hready _ _ hactive' payload' hpayload'⟩

end Delivery

end VoxelCache
