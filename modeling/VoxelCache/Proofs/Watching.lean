import VoxelCache.Proofs.Operations

/-!
# Watched buckets

The residency subscribes to every bucket that it gives a slot, with a mailbox that nobody
else reads.  As long as nobody cancels these subscriptions, it hears of every collection,
and what it hears is true.

**Invariants.**
* `Watchful`: the mailbox is open, and the residency is subscribed to all active buckets.
* `Heedful`: moreover a notice waits about every active bucket that is collected, and no
  notice says of a bucket that it is collected unless it is.

**Results.**
* `Watchful.of_move`, `Heedful.of_move`: every move of the residency keeps them.
* `Reachable.heedful`: they hold in every run in which others spare the residency.
-/

namespace VoxelCache

section Listeners

open Residency

variable {w : World} {a : ActiveBucket}

theorem isWatched_of_alike
    {s s' : Scene} {ref : BucketRef} {mailbox : MailboxRef} {id : SubscriptionId}
    (h : Deed.IsWatched mailbox id (s.bucket ref))
    (halike : Scene.Alike s s')
    (hlisteners : ∀ l ∈ (s.bucket ref).listeners, l ∈ (s'.bucket ref).listeners) :
    Deed.IsWatched mailbox id (s'.bucket ref) := by
  intro hopen
  rw [halike.isCollected] at hopen
  obtain ⟨l, hl, hid, hmailbox, hlabeled, hcollected, hloaded⟩ := h hopen
  refine ⟨l, hlisteners l hl, hid, hmailbox, hlabeled, hcollected, ?_⟩
  rw [halike.payload]
  exact hloaded

/-- Giving up the slot of one bucket leaves the subscriptions on others alone. -/
theorem bucket_dismiss_of_ne
    {m : Residency} {s : Scene} {ref : BucketRef}
    (hne : ref ≠ a.bucket) :
    (m.dismiss s a).bucket ref = s.bucket ref := by
  simp only [dismiss]
  split
  · rw [Scene.visualize, Scene.bucket_setBucket_of_ne hne, Scene.unsubscribe,
      Scene.bucket_setBucket_of_ne hne]
  · exact Scene.bucket_setBucket_of_ne hne

/-- Giving up the slot of a bucket cancels one subscription on it. -/
theorem listeners_dismiss_self
    {m : Residency} {s : Scene} {a : ActiveBucket} :
    ((m.dismiss s a).bucket a.bucket).listeners =
      (s.bucket a.bucket).listeners.filter fun l => l.id != a.subscription := by
  rcases Nat.lt_or_ge a.bucket s.buckets.size with hexist | hmissing
  · have hcancelled : (s.unsubscribe a.bucket a.subscription).bucket a.bucket =
        (s.bucket a.bucket).unsubscribe a.subscription := Scene.bucket_setBucket_self hexist
    simp only [dismiss]
    split
    · rw [Scene.visualize, Scene.bucket_setBucket_self (by simpa [Scene.unsubscribe] using hexist),
        hcancelled]
      rfl
    · rw [hcancelled]
      rfl
  · -- a bucket that does not exist has no subscriptions to begin with
    have hafter : (m.dismiss s a).buckets.size ≤ a.bucket :=
      (alike_dismiss m s a).size ▸ hmissing
    simp [Scene.bucket, hmissing, hafter, default, Bucket.create]

/-- Giving up a slot subscribes nobody. -/
theorem mem_listeners_of_mem_dismiss
    {m : Residency} {s : Scene} {a : ActiveBucket} {ref : BucketRef} {l : Listener}
    (hl : l ∈ ((m.dismiss s a).bucket ref).listeners) :
    l ∈ (s.bucket ref).listeners := by
  by_cases hsame : ref = a.bucket
  · rw [hsame, listeners_dismiss_self] at hl
    exact hsame ▸ (List.mem_filter.mp hl).1
  · rwa [bucket_dismiss_of_ne hsame] at hl

theorem listeners_subscribe
    {s : Scene} {ref other : BucketRef} {l : Listener}
    (interest : Interest) (mailbox : MailboxRef)
    (hl : l ∈ (s.bucket other).listeners) :
    l ∈ ((s.subscribe ref interest mailbox).2.bucket other).listeners := by
  have hnew : ∀ l ∈ (s.bucket ref).listeners,
      l ∈ ((s.bucket ref).subscribe interest mailbox).2.listeners := by
    intro l hl
    simp only [Bucket.subscribe]
    split
    · exact hl
    · exact List.mem_append_left _ hl
  exact Scene.bucket_setBucket_induct
    (motive := fun other b => ∀ l ∈ (s.bucket other).listeners, l ∈ b.listeners)
    hnew (fun _ _ h => h) other l hl

/-- Who subscribes with an open bucket hears of all that matters. -/
theorem isWatched_subscribe
    {s : Scene} {ref : BucketRef} {mailbox : MailboxRef}
    (hexist : ref < s.buckets.size)
    (hopen : (s.bucket ref).isCollected = false) :
    Deed.IsWatched mailbox (s.subscribe ref (interestIn (s.bucket ref)) mailbox).1
      ((s.subscribe ref (interestIn (s.bucket ref)) mailbox).2.bucket ref) := by
  have hbucket : (s.subscribe ref (interestIn (s.bucket ref)) mailbox).2.bucket ref =
      ((s.bucket ref).subscribe (interestIn (s.bucket ref)) mailbox).2 :=
    Scene.bucket_setBucket_self hexist
  have hsubscribe : (s.bucket ref).subscribe (interestIn (s.bucket ref)) mailbox =
      ((s.bucket ref).nextSubscription,
        { s.bucket ref with
          nextSubscription := (s.bucket ref).nextSubscription + 1
          listeners := (s.bucket ref).listeners ++
            [⟨(s.bucket ref).nextSubscription, interestIn (s.bucket ref), mailbox⟩] }) := by
    simp [Bucket.subscribe, hopen, interestIn, Interest.isEmpty]
  rw [hbucket]
  intro _
  refine ⟨⟨(s.bucket ref).nextSubscription, interestIn (s.bucket ref), mailbox⟩, ?_, ?_, rfl, rfl,
    rfl, ?_⟩
  · rw [hsubscribe]
    exact List.mem_append_right _ (List.mem_singleton.mpr rfl)
  · rw [Scene.subscribe, hsubscribe]
  · intro hnone
    rw [hsubscribe] at hnone
    dsimp only at hnone
    simp [interestIn, Bucket.hasPayload, hnone]

theorem sceneMailbox_commit
    {s : Scene} {slot : Nat} {payload : Payload} {outcome : Except Fault Unit}
    {rest : List WriteRequest}
    (h : w.residency.writeSlot w.scene slot payload = (outcome, s))
    (ref : MailboxRef) :
    (w.commit a rest s).scene.mailbox ref = w.scene.mailbox ref := by
  obtain ⟨device, rfl⟩ := writeSlot_scene h
  simp only [World.commit]
  rcases markCommitted_scene { w.residency with queue := rest }
    { w.scene with device := device } a with h | h
  · rw [h]
    rfl
  · rw [h]
    rfl

theorem listeners_commit
    {s : Scene} {slot : Nat} {payload : Payload} {outcome : Except Fault Unit}
    {rest : List WriteRequest}
    (h : w.residency.writeSlot w.scene slot payload = (outcome, s))
    (ref : BucketRef) :
    ((w.commit a rest s).scene.bucket ref).listeners = (w.scene.bucket ref).listeners := by
  obtain ⟨device, rfl⟩ := writeSlot_scene h
  simp only [World.commit]
  rcases markCommitted_scene { w.residency with queue := rest }
    { w.scene with device := device } a with h | h
  · rw [h]
    rfl
  · rw [h]
    exact Scene.bucket_setBucket_keeps (b := (w.scene.bucket a.bucket).visualize true)
      (·.listeners) rfl ref

end Listeners

section Watching

open Residency

/-- Whether the residency is subscribed to its active buckets, with a mailbox that is open. -/
structure Watchful (w : World) : Prop where
  isOpen : (w.scene.mailbox w.residency.mailbox).isOpen = true
  known : ∀ a ∈ w.residency.active, Knows w.scene a
  watched : ∀ a ∈ w.residency.active,
    Deed.IsWatched w.residency.mailbox a.subscription (w.scene.bucket a.bucket)

variable {opening : Bool} {w w' : World} {a : ActiveBucket}

/-- The case of a move that gives no slot and cancels no subscription of active buckets. -/
theorem Watchful.of_subset
    (h : Watchful w)
    (hmailbox : w'.residency.mailbox = w.residency.mailbox)
    (hopen : (w'.scene.mailbox w.residency.mailbox).isOpen =
      (w.scene.mailbox w.residency.mailbox).isOpen)
    (halike : Scene.Alike w.scene w'.scene)
    (hactive : ∀ a ∈ w'.residency.active, a ∈ w.residency.active)
    (hlisteners : ∀ a ∈ w'.residency.active, ∀ l ∈ (w.scene.bucket a.bucket).listeners,
      l ∈ (w'.scene.bucket a.bucket).listeners) :
    Watchful w' where
  isOpen := by
    rw [hmailbox, hopen]
    exact h.isOpen
  known a ha := (h.known a (hactive a ha)).of_extends halike.extends
  watched a ha := by
    rw [hmailbox]
    exact isWatched_of_alike (h.watched a (hactive a ha)) halike (hlisteners a ha)

/-- Two active buckets with different identities are different buckets. -/
theorem Watchful.bucket_ne
    {b : ActiveBucket}
    (h : Watchful w)
    (ha : a ∈ w.residency.active)
    (hb : b ∈ w.residency.active)
    (hne : b.id ≠ a.id) :
    b.bucket ≠ a.bucket := by
  intro hsame
  apply hne
  rw [← (h.known b hb).2, hsame, (h.known a ha).2]

theorem Watchful.mailbox_pop
    (h : Watchful w)
    (rest : List Notice) :
    (w.pop rest).scene.mailbox w.residency.mailbox =
      { w.scene.mailbox w.residency.mailbox with notices := rest } :=
  Scene.mailbox_setMailbox_self (Scene.lt_of_isOpen h.isOpen)

theorem watchful_pop
    (h : Watchful w)
    (rest : List Notice) :
    Watchful (w.pop rest) := by
  refine h.of_subset rfl ?_ (Scene.alike_of_buckets rfl) (fun _ h => h) (fun _ _ _ h => h)
  rw [h.mailbox_pop rest]

theorem watchful_forgo
    (h : Watchful w)
    (ha : a ∈ w.residency.active) :
    Watchful (w.forgo a) := by
  refine h.of_subset rfl ?_ (alike_dismiss _ _ _) (fun b hb => (List.mem_filter.mp hb).1) ?_
  · exact congrArg Mailbox.isOpen (sceneMailbox_dismiss w.residency w.scene a _)
  · intro b hb l hl
    obtain ⟨hactive, hid⟩ := List.mem_filter.mp hb
    have hne := h.bucket_ne ha hactive (by simpa using hid)
    have hbucket : (w.forgo a).scene.bucket b.bucket = w.scene.bucket b.bucket :=
      bucket_dismiss_of_ne hne
    rw [hbucket]
    exact hl

theorem watchful_hear
    {notice : Notice} {rest : List Notice}
    (h : Watchful w) :
    Watchful (w.hear notice rest) := by
  have hpopped := watchful_pop h rest
  refine World.hear_induct ?_ hpopped fun a => watchful_forgo hpopped
  exact hpopped.of_subset rfl rfl (.refl _) (fun _ h => h) (fun _ _ _ h => h)

theorem watchful_reserve
    {ref : BucketRef} {slot : Nat} {free : List Nat}
    (h : Watchful w)
    (hexist : ref < w.scene.buckets.size)
    (hopen : (w.scene.bucket ref).isCollected = false) :
    Watchful (w.reserve ref slot free) := by
  let subscribed := w.scene.subscribe ref (interestIn (w.scene.bucket ref)) w.residency.mailbox
  let new : ActiveBucket := ⟨(w.scene.bucket ref).id, ref, slot, subscribed.1⟩
  have hscene : (w.reserve ref slot free).scene = subscribed.2 := rfl
  have hactive : (w.reserve ref slot free).residency.active = w.residency.active ++ [new] := rfl
  have halike : Scene.Alike w.scene subscribed.2 := Scene.alike_subscribe _ _ _ _
  constructor
  · exact h.isOpen
  · intro a ha
    rw [hactive] at ha
    rcases List.mem_append.mp ha with ha | ha
    · exact (h.known a ha).of_extends halike.extends
    · rw [List.mem_singleton.mp ha]
      exact Knows.of_extends (a := new) ⟨hexist, rfl⟩ halike.extends
  · intro a ha
    rw [hactive] at ha
    rw [hscene]
    rcases List.mem_append.mp ha with ha | ha
    · exact isWatched_of_alike (h.watched a ha) halike fun l => listeners_subscribe _ _
    · rw [List.mem_singleton.mp ha]
      exact isWatched_subscribe hexist hopen

theorem Watchful.of_move
    (h : Watchful w)
    (hmove : Move opening w w') :
    Watchful w' := by
  cases hmove with
  | journal =>
      exact h.of_subset rfl rfl (Scene.alike_of_buckets rfl) (fun _ h => h) (fun _ _ _ h => h)
  | hear _ => exact watchful_hear h
  | forgo ha => exact watchful_forgo h (find?_eq_some ha).1
  | aim => exact h.of_subset rfl rfl (.refl _) (fun _ h => h) (fun _ _ _ h => h)
  | reserve _ hexist hopen _ => exact watchful_reserve h hexist hopen
  | thin => exact h.of_subset rfl rfl (.refl _) (fun _ h => h) (fun _ _ _ h => h)
  | skip _ _ => exact h.of_subset rfl rfl (.refl _) (fun _ h => h) (fun _ _ _ h => h)
  | fail _ _ _ _ _ hfail =>
      obtain ⟨device, rfl⟩ := writeSlot_scene hfail
      exact h.of_subset rfl rfl (Scene.alike_of_buckets rfl) (fun _ h => h) (fun _ _ _ h => h)
  | write _ _ _ _ _ hwrite =>
      refine h.of_subset rfl ?_ ?_ (fun _ h => h) ?_
      · rw [sceneMailbox_commit hwrite]
      · exact (alike_writeSlot hwrite).trans (alike_markCommitted _ _ _)
      · intro b _ l hl
        rw [listeners_commit hwrite]
        exact hl
  | upload =>
      obtain ⟨isPending, device, hupload⟩ := w.exists_upload_eq
      rw [hupload]
      exact h.of_subset rfl rfl (Scene.alike_of_buckets rfl) (fun _ h => h) (fun _ _ _ h => h)

end Watching

section Heeding

open Residency

/-- Whether the residency is about to hear of all collections of active buckets. -/
structure Heedful (w : World) : Prop extends Watchful w where
  warned : ∀ a ∈ w.residency.active, (w.scene.bucket a.bucket).isCollected = true →
    ⟨a.id, .collected⟩ ∈ (w.scene.mailbox w.residency.mailbox).notices
  truthful : ∀ notice ∈ (w.scene.mailbox w.residency.mailbox).notices,
    notice.event = .collected →
    ∃ ref < w.scene.buckets.size,
      (w.scene.bucket ref).id = notice.bucket ∧ (w.scene.bucket ref).isCollected = true

variable {opening : Bool} {w w' : World} {a : ActiveBucket}

/-- The case of a move that takes up no notice about a collected bucket that stays active. -/
theorem Heedful.of_alike
    (h : Heedful w)
    (hwatchful : Watchful w')
    (halike : Scene.Alike w.scene w'.scene)
    (hwarned : ∀ a ∈ w'.residency.active, (w.scene.bucket a.bucket).isCollected = true →
      ⟨a.id, .collected⟩ ∈ (w'.scene.mailbox w'.residency.mailbox).notices)
    (hnotices : ∀ notice ∈ (w'.scene.mailbox w'.residency.mailbox).notices,
      notice ∈ (w.scene.mailbox w.residency.mailbox).notices) :
    Heedful w' where
  toWatchful := hwatchful
  warned a ha hcollected := by
    rw [halike.isCollected] at hcollected
    exact hwarned a ha hcollected
  truthful notice hnotice hevent := by
    obtain ⟨ref, hexist, hid, hcollected⟩ := h.truthful notice (hnotices notice hnotice) hevent
    refine ⟨ref, ?_, ?_, ?_⟩
    · rw [halike.size]
      exact hexist
    · rw [(halike.same ref).id]
      exact hid
    · rw [halike.isCollected]
      exact hcollected

/-- The case of a move that gives no slot and takes up no notice. -/
theorem Heedful.of_subset
    (h : Heedful w)
    (hwatchful : Watchful w')
    (halike : Scene.Alike w.scene w'.scene)
    (hactive : ∀ a ∈ w'.residency.active, a ∈ w.residency.active)
    (hnotices : (w'.scene.mailbox w'.residency.mailbox).notices =
      (w.scene.mailbox w.residency.mailbox).notices) :
    Heedful w' := by
  refine h.of_alike hwatchful halike ?_ ?_
  · intro a ha hcollected
    rw [hnotices]
    exact h.warned a (hactive a ha) hcollected
  · intro notice hnotice
    rwa [hnotices] at hnotice

/-- A notice that is taken up takes the slot away from the bucket that it calls collected. -/
theorem heedful_hear
    {notice : Notice} {rest : List Notice}
    (h : Heedful w)
    (hnotices : (w.scene.mailbox w.residency.mailbox).notices = notice :: rest) :
    Heedful (w.hear notice rest) := by
  have hmailbox : ((w.hear notice rest).scene.mailbox (w.hear notice rest).residency.mailbox) =
      { w.scene.mailbox w.residency.mailbox with notices := rest } := by
    have hpop := h.mailbox_pop rest
    simp only [World.hear, mailbox_react, sceneMailbox_react]
    exact hpop
  have hmove : Move false w (w.hear notice rest) := .hear hnotices
  have hstays : ∀ a ∈ (w.hear notice rest).residency.active,
      a ∈ w.residency.active ∧ notice ≠ ⟨a.id, .collected⟩ := by
    intro a ha
    rcases w.hear_cases notice rest with
      ⟨hevent, hhear⟩ | ⟨hevent, ⟨hnone, hhear⟩ | ⟨b, _, hid, hhear⟩⟩
    · rw [hhear] at ha
      refine ⟨ha, ?_⟩
      rintro rfl
      exact hevent rfl
    · rw [hhear] at ha
      refine ⟨ha, ?_⟩
      rintro rfl
      have hactive : w.residency.isActive a.id = true :=
        isActive_iff.mpr (List.mem_map_of_mem ha)
      simp [isActive, hnone] at hactive
    · rw [hhear] at ha
      obtain ⟨hmem, hne⟩ := List.mem_filter.mp ha
      refine ⟨hmem, ?_⟩
      rintro rfl
      simp [hid] at hne
  refine h.of_alike (h.toWatchful.of_move hmove) hmove.alike ?_ ?_
  · intro a ha hcollected
    obtain ⟨hactive, hother⟩ := hstays a ha
    have hwarned := h.warned a hactive hcollected
    rw [hnotices] at hwarned
    rw [hmailbox]
    exact (List.mem_cons.mp hwarned).resolve_left (Ne.symm hother)
  · intro other hother
    rw [hmailbox] at hother
    rw [hnotices]
    exact List.mem_cons_of_mem _ hother

theorem Heedful.of_move
    (h : Heedful w)
    (hmove : Move opening w w') :
    Heedful w' := by
  have hwatchful := h.toWatchful.of_move hmove
  have halike := hmove.alike
  cases hmove with
  | journal => exact h.of_subset hwatchful halike (fun _ h => h) rfl
  | hear hnotices => exact heedful_hear h hnotices
  | forgo _ =>
      refine h.of_subset hwatchful halike (fun _ hb => (List.mem_filter.mp hb).1) ?_
      exact congrArg Mailbox.notices (sceneMailbox_dismiss _ _ _ _)
  | aim => exact h.of_subset hwatchful halike (fun _ h => h) rfl
  | @reserve _ ref _ _ _ _ hopen _ =>
      refine h.of_alike hwatchful halike ?_ (fun _ h => h)
      intro a ha hcollected
      rcases List.mem_append.mp ha with ha | ha
      · exact h.warned a ha hcollected
      · rw [List.mem_singleton.mp ha, hopen] at hcollected
        cases hcollected
  | thin => exact h.of_subset hwatchful halike (fun _ h => h) rfl
  | skip _ _ => exact h.of_subset hwatchful halike (fun _ h => h) rfl
  | fail _ _ _ _ _ hfail =>
      obtain ⟨device, rfl⟩ := writeSlot_scene hfail
      exact h.of_subset hwatchful halike (fun _ h => h) rfl
  | write _ _ _ _ _ hwrite =>
      refine h.of_subset hwatchful halike (fun _ h => h) ?_
      exact congrArg Mailbox.notices (sceneMailbox_commit hwrite _)
  | upload =>
      obtain ⟨isPending, device, hupload⟩ := w.exists_upload_eq
      rw [hupload] at hwatchful halike ⊢
      exact h.of_subset hwatchful halike (fun _ h => h) rfl

theorem Heedful.of_moves
    (h : Heedful w)
    (hmoves : Moves opening w w') :
    Heedful w' := by
  induction hmoves with
  | refl => exact h
  | tail _ hmove ih => exact ih.of_move hmove

/-- The residency posts nothing to itself. -/
theorem Move.notices_eq_nil
    {opening : Bool}
    (h : Move opening w w')
    (hnil : (w.scene.mailbox w.residency.mailbox).notices = []) :
    (w'.scene.mailbox w'.residency.mailbox).notices = [] := by
  cases h with
  | journal => exact hnil
  | hear hnotices =>
      rw [hnotices] at hnil
      cases hnil
  | @forgo _ _ a _ =>
      exact (congrArg Mailbox.notices (sceneMailbox_dismiss _ _ a _)).trans hnil
  | aim => exact hnil
  | reserve _ _ _ _ => exact hnil
  | thin => exact hnil
  | skip _ _ => exact hnil
  | fail _ _ _ _ _ hfail =>
      obtain ⟨device, rfl⟩ := writeSlot_scene hfail
      exact hnil
  | write _ _ _ _ _ hwrite =>
      exact (congrArg Mailbox.notices (sceneMailbox_commit hwrite _)).trans hnil
  | upload =>
      obtain ⟨isPending, device, h⟩ := w.exists_upload_eq
      rw [h]
      exact hnil

theorem Moves.notices_eq_nil
    {opening : Bool}
    (h : Moves opening w w')
    (hnil : (w.scene.mailbox w.residency.mailbox).notices = []) :
    (w'.scene.mailbox w'.residency.mailbox).notices = [] := by
  induction h with
  | refl => exact hnil
  | tail _ hmove ih => exact hmove.notices_eq_nil ih

theorem mailbox_reactAll
    (m : Residency) (s : Scene) (notices : List Notice) :
    (m.reactAll s notices).2.mailbox (m.reactAll s notices).1.mailbox = s.mailbox m.mailbox := by
  induction notices generalizing m s with
  | nil => rfl
  | cons notice rest ih =>
      have hrest := ih (m.react s notice).1 (m.react s notice).2
      rw [mailbox_react, sceneMailbox_react] at hrest
      exact hrest

/-- The mailbox is empty after its notices were read. -/
theorem notices_readNotices (m : Residency) (s : Scene) :
    ((m.readNotices s).2.mailbox (m.readNotices s).1.mailbox).notices = [] := by
  have hmailbox := mailbox_reactAll m (s.drain m.mailbox).2 (s.drain m.mailbox).1
  refine (congrArg Mailbox.notices hmailbox).trans ?_
  by_cases hexist : m.mailbox < s.mailboxes.size
  · exact congrArg Mailbox.notices (Scene.mailbox_setMailbox_self hexist)
  · have hmissing : (s.drain m.mailbox).2.mailbox m.mailbox = default := by
      simp [Scene.drain, Scene.setMailbox, Scene.mailbox, Array.getD, hexist]
    exact congrArg Mailbox.notices hmissing

theorem readNotices_of_notices_eq_nil
    {m : Residency} {s : Scene}
    (h : (s.mailbox m.mailbox).notices = []) :
    m.readNotices s = (m, s) := by
  have hsame : { s.mailbox m.mailbox with notices := [] } = s.mailbox m.mailbox := by
    rw [← h]
  simp only [readNotices, Scene.drain, h, hsame, Scene.setMailbox_self]
  rfl

end Heeding

section Occurrences

open Residency

variable {w : World} {s : Scene}

/--
Whether others spare the residency: they cancel none of its subscriptions, and they
neither read nor close its mailbox.
-/
def SparesOwner (w : World) : Operation → Prop
  | .occurrence (.deed ref deed) => deed.Spares w.residency.mailbox (w.scene.bucket ref)
  | .occurrence (.drain mailbox) => mailbox ≠ w.residency.mailbox
  | .occurrence (.closeMailbox mailbox) => mailbox ≠ w.residency.mailbox
  | _ => True

theorem mailbox_openMailbox_of_lt
    {ref : MailboxRef}
    (h : ref < s.mailboxes.size) :
    s.openMailbox.2.mailbox ref = s.mailbox ref := by
  simp [Scene.openMailbox, Scene.mailbox, Array.getElem?_push, Nat.ne_of_lt h]

/-- What happens to others than the buckets leaves the mailbox of the residency alone. -/
theorem occur_cases
    {o : Occurrence}
    (hspares : SparesOwner w (.occurrence o))
    (hopen : (w.scene.mailbox w.residency.mailbox).isOpen = true) :
    (∃ ref deed, o = .deed ref deed) ∨
    (∃ id address coarser, o = .create id address coarser) ∨
    ((w.scene.occur o).buckets = w.scene.buckets ∧
      (w.scene.occur o).mailbox w.residency.mailbox = w.scene.mailbox w.residency.mailbox ∧
      ∀ ref, (w.scene.occur o).device.texture ref = w.scene.device.texture ref) := by
  cases o with
  | deed ref deed => exact .inl ⟨ref, deed, rfl⟩
  | create id address coarser => exact .inr (.inl ⟨id, address, coarser, rfl⟩)
  | openMailbox =>
      exact .inr (.inr ⟨rfl, mailbox_openMailbox_of_lt (Scene.lt_of_isOpen hopen), fun _ => rfl⟩)
  | drain mailbox =>
      exact .inr (.inr ⟨rfl, Scene.mailbox_setMailbox_of_ne (Ne.symm hspares), fun _ => rfl⟩)
  | closeMailbox mailbox =>
      exact .inr (.inr ⟨rfl, Scene.mailbox_setMailbox_of_ne (Ne.symm hspares), fun _ => rfl⟩)
  | addSwitch isOn => exact .inr (.inr ⟨rfl, rfl, fun _ => rfl⟩)
  | setSwitch switch isOn => exact .inr (.inr ⟨rfl, rfl, fun _ => rfl⟩)
  | addTape => exact .inr (.inr ⟨rfl, rfl, fun _ => rfl⟩)
  | setFuses tape updateFuse createFuse => exact .inr (.inr ⟨rfl, rfl, fun _ => rfl⟩)

theorem heeds_deed
    {ref : BucketRef} {deed : Deed} {mailbox : MailboxRef}
    (other : BucketRef)
    (hexist : ref < s.buckets.size)
    (hspares : deed.Spares mailbox (s.bucket ref)) :
    ∃ posts, Deed.Heeds mailbox (s.bucket other) ((s.deed ref deed).bucket other) posts ∧
      ∀ post ∈ posts, other = ref ∧ post ∈ (deed.perform (s.bucket ref)).2 := by
  by_cases hsame : other = ref
  · subst hsame
    rw [Scene.bucket_deed_self deed hexist]
    exact ⟨_, deed.perform_heeds hspares, fun post hpost => ⟨rfl, hpost⟩⟩
  · rw [Scene.bucket_deed_of_ne deed hsame]
    exact ⟨[], .refl mailbox _, fun post hpost => by cases hpost⟩

theorem Watchful.of_occurrence
    {o : Occurrence}
    (h : Watchful w)
    (hnames : (Operation.occurrence o).Names w.scene)
    (hspares : SparesOwner w (.occurrence o)) :
    Watchful { w with scene := w.scene.occur o } := by
  have hextends := Scene.extends_occur w.scene o
  have hknown : ∀ a ∈ w.residency.active, Knows (w.scene.occur o) a :=
    fun a ha => (h.known a ha).of_extends hextends
  rcases occur_cases hspares h.isOpen with
    ⟨ref, deed, rfl⟩ | ⟨id, address, coarser, rfl⟩ | ⟨hbuckets, hmailbox, _⟩
  · refine ⟨?_, hknown, ?_⟩
    · have hmailbox := Scene.mailbox_deed ref deed h.isOpen
      rw [Scene.occur, hmailbox]
      exact h.isOpen
    · intro a ha
      obtain ⟨posts, hheeds, _⟩ := heeds_deed a.bucket hnames hspares
      exact hheeds.watched _ (h.watched a ha)
  · refine ⟨h.isOpen, hknown, ?_⟩
    intro a ha
    rw [Scene.occur, Scene.bucket_addBucket_of_lt (h.known a ha).1]
    exact h.watched a ha
  · refine ⟨?_, hknown, ?_⟩
    · dsimp only
      rw [hmailbox]
      exact h.isOpen
    · intro a ha
      have hbucket : (w.scene.occur o).bucket a.bucket = w.scene.bucket a.bucket := by
        rw [Scene.bucket, hbuckets, Scene.bucket]
      rw [hbucket]
      exact h.watched a ha

/-- A sparing deed posts a notice if, and only if, it collects the bucket. -/
theorem heedful_deed
    {ref : BucketRef} {deed : Deed}
    (h : Heedful w)
    (hexist : ref < w.scene.buckets.size)
    (hspares : deed.Spares w.residency.mailbox (w.scene.bucket ref)) :
    Heedful { w with scene := w.scene.deed ref deed } := by
  have hwatchful := h.toWatchful.of_occurrence (o := .deed ref deed) hexist hspares
  have hextends := Scene.extends_occur w.scene (.deed ref deed)
  rw [Scene.occur] at hwatchful hextends
  have hmailbox := Scene.mailbox_deed ref deed h.isOpen
  refine ⟨hwatchful, ?_, ?_⟩
  · intro a ha hcollected
    rw [hmailbox]
    cases hbefore : (w.scene.bucket a.bucket).isCollected with
    | true => exact List.mem_append_left _ (h.warned a ha hbefore)
    | false =>
        obtain ⟨posts, hheeds, hposts⟩ := heeds_deed a.bucket hexist hspares
        have hwarned := hheeds.warned _ (h.watched a ha) hbefore hcollected
        rw [(h.known a ha).2] at hwarned
        refine List.mem_append_right _ (List.mem_map.mpr ⟨_, List.mem_filter.mpr
          ⟨(hposts _ hwarned).2, ?_⟩, rfl⟩)
        simp
  · intro notice hnotice hevent
    rw [hmailbox] at hnotice
    rcases List.mem_append.mp hnotice with hold | hnew
    · obtain ⟨other, hother, hid, hcollected⟩ := h.truthful notice hold hevent
      obtain ⟨posts, hheeds, _⟩ := heeds_deed other hexist hspares
      exact ⟨other, Nat.lt_of_lt_of_le hother hextends.size,
        (hextends.same other hother).id.trans hid, hheeds.lasting hcollected⟩
    · obtain ⟨post, hpost, rfl⟩ := List.mem_map.mp hnew
      obtain ⟨hid, hcollected⟩ :=
        (deed.perform_heeds hspares).truthful post (List.mem_filter.mp hpost).1 hevent
      refine ⟨ref, Nat.lt_of_lt_of_le hexist hextends.size, ?_, ?_⟩
      · rw [(hextends.same ref hexist).id, hid]
      · rw [Scene.bucket_deed_self deed hexist]
        exact hcollected

theorem Heedful.of_occurrence
    {o : Occurrence}
    (h : Heedful w)
    (hnames : (Operation.occurrence o).Names w.scene)
    (hspares : SparesOwner w (.occurrence o)) :
    Heedful { w with scene := w.scene.occur o } := by
  have hwatchful := h.toWatchful.of_occurrence hnames hspares
  rcases occur_cases hspares h.isOpen with
    ⟨ref, deed, rfl⟩ | ⟨id, address, coarser, rfl⟩ | ⟨hbuckets, hmailbox, _⟩
  · exact heedful_deed h hnames hspares
  · have hextends := Scene.extends_occur w.scene (.create id address coarser)
    have hbucket : ∀ ref < w.scene.buckets.size,
        (w.scene.occur (.create id address coarser)).bucket ref = w.scene.bucket ref :=
      fun ref hlt => Scene.bucket_addBucket_of_lt hlt
    refine ⟨hwatchful, ?_, ?_⟩
    · intro a ha hcollected
      rw [hbucket _ (h.known a ha).1] at hcollected
      exact h.warned a ha hcollected
    · intro notice hnotice hevent
      obtain ⟨ref, hlt, hid, hcollected⟩ := h.truthful notice hnotice hevent
      refine ⟨ref, Nat.lt_of_lt_of_le hlt hextends.size, ?_⟩
      rw [hbucket ref hlt]
      exact ⟨hid, hcollected⟩
  · refine h.of_subset hwatchful (Scene.alike_of_buckets hbuckets) (fun _ h => h) ?_
    rw [hmailbox]

/-- New textures have nothing to do with buckets and mailboxes. -/
theorem Heedful.of_setUp
    (h : Heedful w)
    (factory : Factory) (bytes : Nat) :
    Heedful (w.step (.setUp factory bytes)) := by
  obtain ⟨_, _, _, device, journal, hstep⟩ := w.exists_step_setUp_eq factory bytes
  rw [hstep]
  exact ⟨⟨h.isOpen, h.known, h.watched⟩, h.warned, h.truthful⟩

end Occurrences

section Runs

open Residency

variable {s₀ : Scene} {w : World}

theorem heedful_start
    {width textures packing : Nat} {settings : Settings} {m : Residency} {s : Scene}
    (hcreate : Residency.create s₀ width textures packing settings = (.ok m, s)) :
    Heedful ⟨m, s, .blank⟩ := by
  obtain ⟨layout, journal, _, _, rfl, rfl⟩ := create_eq_ok hcreate
  have hmailbox : s₀.openMailbox.2.mailbox s₀.mailboxes.size = ⟨[], true⟩ := by
    simp [Scene.openMailbox, Scene.mailbox]
  refine ⟨⟨?_, by simp, by simp⟩, by simp, ?_⟩
  · exact congrArg Mailbox.isOpen hmailbox
  · intro notice hnotice
    have hheld : notice ∈ (s₀.openMailbox.2.mailbox s₀.mailboxes.size).notices := hnotice
    rw [hmailbox] at hheld
    cases hheld

/-- The look-up entries have nothing to do with notices. -/
theorem heedful_rebuild
    (h : Heedful w)
    (outside : BucketRef → Bool) :
    Heedful (w.rebuild outside) :=
  ⟨⟨h.isOpen, h.known, h.watched⟩, h.warned, h.truthful⟩

theorem Performs.heedful
    {w' : World} {op : Operation}
    (h : Performs op w w')
    (hheedful : Heedful w) :
    Heedful w' := by
  cases h with
  | keeping hmoves => exact hheedful.of_moves hmoves
  | rebuilding _ hbefore hafter =>
      exact (heedful_rebuild (hheedful.of_moves hbefore) _).of_moves hafter

/-- In every run in which others spare the residency, it hears of all collections. -/
theorem Reachable.heedful
    (h : Reachable SparesOwner s₀ w) :
    Heedful w := by
  refine (h.of_moves (P := Heedful) (Q := fun _ => True) ?_ ?_ ?_ ?_ ?_).1
  · intro width textures packing settings m s hcreate
    exact ⟨heedful_start hcreate, trivial⟩
  · intro w op _ hother hnames hspares hw _
    refine ⟨?_, trivial⟩
    cases op with
    | occurrence o =>
        rw [w.step_occurrence]
        exact hw.of_occurrence hnames hspares
    | setUp factory bytes => exact hw.of_setUp factory bytes
    | _ => cases hother
  · intro w w' _ hmove hw
    exact hw.of_move hmove
  · intro w w' _ _ _ _
    trivial
  · intro _ w _ outside _ _ _ _ hw
    exact ⟨heedful_rebuild hw outside, trivial⟩

end Runs

end VoxelCache
