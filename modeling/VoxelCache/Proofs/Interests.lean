import VoxelCache.Proofs.Watching

/-!
# Spent interests

An interest in the arrival of a payload is spent by the first arrival, and the residency takes
none up in a bucket that has its payload already.  So as long as nobody else subscribes with
its mailbox, it is told of the first payload of a bucket and of no later one.

**Invariant.**
* `Spent`: the residency waits for no payload of a bucket that has one.

**Results.**
* `Deed.perform_isSpent`: no deed revives an interest that is spent.
* `Reachable.spent`: the invariant holds in every run in which nobody else uses the mailbox.
* `announced_receive`: the residency is told of the first payload of an active bucket.
* `mailbox_receive_of_spent`: a payload that replaces another one arrives in silence.
-/

namespace VoxelCache

namespace Deed

section Spending

mutual

/-- Whether a deed subscribes nobody with a mailbox. -/
def Avoids (mailbox : MailboxRef) : Deed → Prop
  | .label _ meanwhile => AllAvoid mailbox meanwhile
  | .subscribe _ target => target ≠ mailbox
  | .pull => True
  | .receive _ => True
  | .collect => True
  | .unsubscribe _ => True
  | .visualize _ => True

/-- Whether deeds subscribe nobody with a mailbox. -/
def AllAvoid (mailbox : MailboxRef) : List Deed → Prop
  | [] => True
  | d :: rest => Avoids mailbox d ∧ AllAvoid mailbox rest

end

/-- Whether nobody waits with a mailbox for the payload of a bucket that has one. -/
def IsSpent (mailbox : MailboxRef) (b : Bucket) : Prop :=
  b.payload ≠ none → ∀ l ∈ b.listeners, l.mailbox = mailbox → l.interest.loaded = false

variable {mailbox : MailboxRef} {b b' : Bucket}

/-- Who cancels subscriptions, and touches no payload, revives no interest. -/
theorem IsSpent.of_subset
    (h : IsSpent mailbox b)
    (hpayload : b'.payload ≠ none → b.payload ≠ none)
    (hlisteners : ∀ l ∈ b'.listeners, l ∈ b.listeners) :
    IsSpent mailbox b' :=
  fun hsome l hl => h (hpayload hsome) l (hlisteners l hl)

theorem isSpent_receive
    {payload : Payload}
    (h : IsSpent mailbox b) :
    IsSpent mailbox (b.receive payload).1 := by
  cases hopen : b.isCollected with
  | true =>
      rw [Bucket.receive_of_isCollected hopen]
      exact h
  | false =>
      intro _ l hl _
      simp only [Bucket.receive, hopen, Bucket.announce, Bucket.spend] at hl
      obtain ⟨before, _, rfl⟩ := List.mem_map.mp (List.mem_filter.mp hl).1
      rfl

theorem isSpent_label
    {during : Bucket → Bucket × List Post}
    (edits : List Edit)
    (h : IsSpent mailbox b)
    (hduring : IsSpent mailbox (during b).1) :
    IsSpent mailbox (b.label edits during).2.1 := by
  unfold Bucket.label
  split
  · exact h
  · dsimp only
    split
    · exact hduring
    · rename_i hkept
      refine hduring.of_subset (fun _ hnone => hkept ?_) fun _ hl => hl
      simp [Bucket.hasPayload, hnone]

/-- A subscription that is new to the owner of a mailbox awaits no payload that is there. -/
theorem isSpent_subscribe
    {interest : Interest} {target : MailboxRef}
    (h : IsSpent mailbox b)
    (hnew : target = mailbox → b.payload ≠ none → interest.loaded = false) :
    IsSpent mailbox (b.subscribe interest target).2 := by
  simp only [Bucket.subscribe]
  split
  · exact h.of_subset (fun hsome => hsome) fun _ hl => hl
  · intro hsome l hl hmailbox
    rcases List.mem_append.mp hl with hold | hlast
    · exact h hsome l hold hmailbox
    · obtain rfl := List.mem_singleton.mp hlast
      exact hnew hmailbox hsome

mutual

/-- No deed revives an interest that is spent. -/
theorem perform_isSpent :
    ∀ (d : Deed) {b : Bucket},
      Avoids mailbox d →
      IsSpent mailbox b →
      IsSpent mailbox (d.perform b).1
  | .pull, b, _, hb => by
      simp only [perform, Bucket.pull]
      split
      · exact hb.of_subset (fun hsome => hsome) fun _ hl => hl
      · exact hb
  | .receive payload, b, _, hb => by
      rw [perform]
      exact isSpent_receive hb
  | .label edits meanwhile, b, h, hb => by
      rw [Avoids] at h
      rw [perform]
      exact isSpent_label edits hb (performAll_isSpent meanwhile h hb)
  | .collect, b, _, hb => by
      rw [perform]
      cases hopen : b.isCollected with
      | true =>
          rw [Bucket.collect_of_isCollected hopen]
          exact hb
      | false =>
          intro hsome
          exact absurd (Bucket.payload_collect hopen) hsome
  | .subscribe interest target, b, h, hb => by
      rw [Avoids] at h
      rw [perform]
      exact isSpent_subscribe hb fun hsame => absurd hsame h
  | .unsubscribe id, b, _, hb => by
      rw [perform]
      exact hb.of_subset (fun hsome => hsome) fun _ hl => (List.mem_filter.mp hl).1
  | .visualize shown, b, _, hb => by
      rw [perform]
      exact hb.of_subset (fun hsome => hsome) fun _ hl => hl

theorem performAll_isSpent :
    ∀ (ds : List Deed) {b : Bucket},
      AllAvoid mailbox ds →
      IsSpent mailbox b →
      IsSpent mailbox (performAll ds b).1
  | [], b, _, hb => by
      rw [performAll]
      exact hb
  | d :: rest, b, h, hb => by
      rw [AllAvoid] at h
      rw [performAll]
      exact performAll_isSpent rest h.2 (perform_isSpent d h.1 hb)

end

/-- Nobody is told with the mailbox of a payload that replaces another one. -/
theorem mailbox_ne_of_mem_receive
    {payload : Payload} {post : Post}
    (h : IsSpent mailbox b)
    (hsome : b.payload ≠ none)
    (hpost : post ∈ (b.receive payload).2) :
    post.mailbox ≠ mailbox := by
  intro hsame
  unfold Bucket.receive at hpost
  split at hpost
  · cases hpost
  · obtain ⟨l, hl, hwants, rfl⟩ := Bucket.mem_posts.mp hpost
    have hspent : l.interest.loaded = false := h hsome l hl hsame
    rw [Interest.wants, hspent] at hwants
    cases hwants

end Spending

end Deed

section Spending

open Residency

/-- Whether the residency waits for no payload of a bucket that has one. -/
def Spent (w : World) : Prop :=
  ∀ ref, Deed.IsSpent w.residency.mailbox (w.scene.bucket ref)

/-- Whether nobody else subscribes with the mailbox of the residency. -/
def AvoidsOwner (w : World) : Operation → Prop
  | .occurrence (.deed _ deed) => deed.Avoids w.residency.mailbox
  | _ => True

variable {opening : Bool} {w w' : World}

/-- The case of a move that adds no subscription. -/
theorem Spent.of_subset
    (h : Spent w)
    (hmailbox : w'.residency.mailbox = w.residency.mailbox)
    (halike : Scene.Alike w.scene w'.scene)
    (hlisteners : ∀ ref, ∀ l ∈ (w'.scene.bucket ref).listeners,
      l ∈ (w.scene.bucket ref).listeners) :
    Spent w' := by
  intro ref
  rw [hmailbox]
  refine (h ref).of_subset ?_ (hlisteners ref)
  rw [halike.payload]
  exact fun hsome => hsome

/-- The case of what does not touch the buckets. -/
theorem Spent.of_buckets
    (h : Spent w)
    (hmailbox : w'.residency.mailbox = w.residency.mailbox)
    (hbuckets : w'.scene.buckets = w.scene.buckets) :
    Spent w' := by
  refine h.of_subset hmailbox (Scene.alike_of_buckets hbuckets) ?_
  intro ref l hl
  rwa [Scene.bucket, hbuckets] at hl

theorem spent_forgo
    (h : Spent w)
    (a : ActiveBucket) :
    Spent (w.forgo a) :=
  h.of_subset rfl (alike_dismiss _ _ _) fun _ _ => mem_listeners_of_mem_dismiss

theorem spent_hear
    (h : Spent w)
    (notice : Notice) (rest : List Notice) :
    Spent (w.hear notice rest) := by
  have hpopped : Spent (w.pop rest) := h.of_buckets rfl rfl
  exact World.hear_induct (hpopped.of_buckets rfl rfl) hpopped fun a _ => spent_forgo hpopped a

/-- The residency does not wait for the payload of a newcomer that has it already. -/
theorem spent_reserve
    (h : Spent w)
    (ref : BucketRef) (slot : Nat) (free : List Nat) :
    Spent (w.reserve ref slot free) := by
  refine Scene.bucket_setBucket_induct
    (motive := fun _ b => Deed.IsSpent w.residency.mailbox b) ?_ h
  refine Deed.isSpent_subscribe (h ref) fun _ hsome => ?_
  obtain ⟨payload, hpayload⟩ := Option.ne_none_iff_exists'.mp hsome
  rw [interestIn, Bucket.hasPayload, hpayload]
  rfl

theorem Spent.of_move
    (h : Spent w)
    (hmove : Move opening w w') :
    Spent w' := by
  cases hmove with
  | journal => exact h.of_buckets rfl rfl
  | hear _ => exact spent_hear h _ _
  | forgo _ => exact spent_forgo h _
  | aim => exact h.of_buckets rfl rfl
  | reserve _ _ _ _ => exact spent_reserve h _ _ _
  | thin => exact h.of_buckets rfl rfl
  | skip _ _ => exact h.of_buckets rfl rfl
  | fail _ _ _ _ _ hfail =>
      obtain ⟨device, rfl⟩ := writeSlot_scene hfail
      exact h.of_buckets rfl rfl
  | write _ _ _ _ _ hwrite =>
      refine h.of_subset rfl ?_ ?_
      · exact (alike_writeSlot hwrite).trans (alike_markCommitted _ _ _)
      · intro ref l hl
        rwa [listeners_commit hwrite] at hl
  | upload =>
      obtain ⟨isPending, device, hupload⟩ := w.exists_upload_eq
      rw [hupload]
      exact h.of_buckets rfl rfl

theorem Spent.of_occurrence
    {o : Occurrence}
    (h : Spent w)
    (hnames : (Operation.occurrence o).Names w.scene)
    (havoids : AvoidsOwner w (.occurrence o)) :
    Spent { w with scene := w.scene.occur o } := by
  cases o with
  | deed ref deed =>
      intro other
      by_cases hsame : other = ref
      · dsimp only [Scene.occur]
        rw [hsame, Scene.bucket_deed_self deed hnames]
        exact Deed.perform_isSpent deed havoids (h ref)
      · dsimp only [Scene.occur]
        rw [Scene.bucket_deed_of_ne deed hsame]
        exact h other
  | create id address coarser =>
      intro ref
      dsimp only [Scene.occur]
      rw [Scene.bucket_addBucket]
      split
      · intro hsome
        exact absurd rfl hsome
      · exact h ref
  | openMailbox => exact h.of_buckets rfl rfl
  | drain mailbox => exact h.of_buckets rfl rfl
  | closeMailbox mailbox => exact h.of_buckets rfl rfl
  | addSwitch isOn => exact h.of_buckets rfl rfl
  | setSwitch switch isOn => exact h.of_buckets rfl rfl
  | addTape => exact h.of_buckets rfl rfl
  | setFuses tape updateFuse createFuse => exact h.of_buckets rfl rfl

theorem Spent.of_setUp
    (h : Spent w)
    (factory : Factory) (bytes : Nat) :
    Spent (w.step (.setUp factory bytes)) := by
  obtain ⟨_, _, _, device, journal, hstep⟩ := w.exists_step_setUp_eq factory bytes
  rw [hstep]
  exact h.of_buckets rfl rfl

/-- Nobody can have subscribed with a mailbox that is opened only now. -/
theorem spent_start
    {s₀ s : Scene} {width textures packing : Nat} {settings : Settings} {m : Residency}
    (hs₀ : ∀ ref, ∀ l ∈ (s₀.bucket ref).listeners, l.mailbox < s₀.mailboxes.size)
    (hcreate : Residency.create s₀ width textures packing settings = (.ok m, s)) :
    Spent ⟨m, s, .blank⟩ := by
  obtain ⟨layout, journal, _, _, rfl, rfl⟩ := create_eq_ok hcreate
  intro ref _ l hl hmailbox
  exact absurd hmailbox (Nat.ne_of_lt (hs₀ ref l hl))

/-- In every run in which nobody else uses its mailbox, the residency waits for no second payload. -/
theorem Reachable.spent
    {s₀ : Scene}
    (hs₀ : ∀ ref, ∀ l ∈ (s₀.bucket ref).listeners, l.mailbox < s₀.mailboxes.size)
    (h : Reachable AvoidsOwner s₀ w) :
    Spent w := by
  refine (h.of_moves (P := Spent) (Q := fun _ => True) ?_ ?_ ?_ ?_ ?_).1
  · intro width textures packing settings m s hcreate
    exact ⟨spent_start hs₀ hcreate, trivial⟩
  · intro w op _ hother hnames havoids hw _
    refine ⟨?_, trivial⟩
    cases op with
    | occurrence o =>
        rw [w.step_occurrence]
        exact hw.of_occurrence hnames havoids
    | setUp factory bytes => exact hw.of_setUp factory bytes
    | _ => cases hother
  · intro w w' _ hmove hw
    exact hw.of_move hmove
  · intro w w' _ _ _ _
    trivial
  · intro _ w _ outside _ _ _ _ hw
    exact ⟨hw.of_buckets rfl rfl, trivial⟩

end Spending

section Announcing

open Residency

variable {w : World} {a : ActiveBucket}

/-- A payload that replaces another one arrives in silence. -/
theorem mailbox_receive_of_spent
    {ref : BucketRef}
    (h : Spent w)
    (hopen : (w.scene.mailbox w.residency.mailbox).isOpen = true)
    (hsome : (w.scene.bucket ref).payload ≠ none)
    (payload : Payload) :
    (w.scene.deed ref (.receive payload)).mailbox w.residency.mailbox =
      w.scene.mailbox w.residency.mailbox := by
  rw [Scene.mailbox_deed ref _ hopen, List.filter_eq_nil_iff.mpr]
  · simp
  · intro post hpost
    rw [Deed.perform] at hpost
    simpa using Deed.mailbox_ne_of_mem_receive (h ref) hsome hpost

/-- The residency is told of the first payload of an active bucket. -/
theorem announced_receive
    (h : Watchful w)
    (ha : a ∈ w.residency.active)
    (hopen : (w.scene.bucket a.bucket).isCollected = false)
    (hnone : (w.scene.bucket a.bucket).payload = none)
    (payload : Payload) :
    ⟨a.id, .loaded⟩ ∈
      ((w.scene.deed a.bucket (.receive payload)).mailbox w.residency.mailbox).notices := by
  obtain ⟨l, hl, _, hmailbox, _, _, hloaded⟩ := h.watched a ha hopen
  have hpost : ⟨w.residency.mailbox, ⟨a.id, .loaded⟩⟩ ∈
      ((w.scene.bucket a.bucket).receive payload).2 := by
    simp only [Bucket.receive, hopen, Bool.false_eq_true, if_false, Bucket.announce]
    refine Bucket.mem_posts.mpr ⟨l, hl, hloaded hnone, ?_⟩
    rw [hmailbox, ← (h.known a ha).2]
  rw [Scene.mailbox_deed a.bucket _ h.isOpen, Deed.perform]
  refine List.mem_append_right _ (List.mem_map.mpr ⟨_, List.mem_filter.mpr ⟨hpost, ?_⟩, rfl⟩)
  simp

end Announcing

end VoxelCache
