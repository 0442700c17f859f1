import VoxelCache.Proofs.Interests
import VoxelCache.Proofs.Provenance

/-!
# Footprint on buckets

What a residency leaves on a bucket is a subscription and, if it shows what is resident, a
mark.  It subscribes when it gives a slot, cancels when it takes the slot away, marks when it
commits and unmarks when it takes the slot away; a collection drops the subscription by itself.

**Invariants.**
* `Subscribed`: the subscriptions with the mailbox of the residency are those of the entries of
  its active buckets, on every bucket that is not collected.
* `Marked`: the marked buckets are the committed ones.

**Results.**
* `Deed.perform_hasSubscriptions`: sparing deeds leave the subscriptions alone.
* `Reachable.subscribed`, `Reachable.marked`: the invariants hold in every run in which others
  leave subscriptions, mailbox and marks alone.
* `leaves_footprint_onlyOnHeld`: what this means for each single bucket.
-/

namespace VoxelCache

section Subscriptions

/-- The subscriptions on a bucket with a mailbox. -/
def Bucket.listenersOf (b : Bucket) (mailbox : MailboxRef) : List Listener :=
  b.listeners.filter fun l => l.mailbox == mailbox

namespace Deed

/--
Whether the owner of a mailbox has subscriptions of these numbers, in order, until the bucket is
collected.  All of them are interested in labelings, which do not use up an interest.
-/
structure HasSubscriptions (mailbox : MailboxRef) (ids : List SubscriptionId) (b : Bucket) :
    Prop where
  ids : (b.listenersOf mailbox).map (·.id) = if b.isCollected then [] else ids
  labeled : ∀ l ∈ b.listenersOf mailbox, l.interest.labeled = true

variable {mailbox : MailboxRef} {ids : List SubscriptionId} {b b' : Bucket}

/-- Who touches neither the subscriptions of the owner nor the collection keeps all. -/
theorem HasSubscriptions.of_same
    (h : HasSubscriptions mailbox ids b)
    (hlisteners : b'.listenersOf mailbox = b.listenersOf mailbox)
    (hcollected : b'.isCollected = b.isCollected) :
    HasSubscriptions mailbox ids b' where
  ids := by
    rw [hlisteners, hcollected]
    exact h.ids
  labeled := by
    rw [hlisteners]
    exact h.labeled

/-- The arrival of a payload ends no subscription that is interested in labelings. -/
theorem listenersOf_receive
    {payload : Payload}
    (hopen : b.isCollected = false)
    (hlabeled : ∀ l ∈ b.listenersOf mailbox, l.interest.labeled = true) :
    (b.receive payload).1.listenersOf mailbox =
      (b.listenersOf mailbox).map fun l => { l with interest := l.interest.spend .loaded } := by
  have hreceived : (b.receive payload).1.listenersOf mailbox =
      ((b.listenersOf mailbox).map fun l =>
        { l with interest := l.interest.spend .loaded }).filter fun l => !l.interest.isEmpty := by
    simp only [Bucket.receive, hopen, Bucket.announce, Bucket.spend, Bucket.listenersOf,
      Bool.false_eq_true, if_false]
    rw [List.filter_filter, List.filter_map, List.filter_map, List.filter_filter]
    simp only [Function.comp_def, Bool.and_comm]
  rw [hreceived]
  refine List.filter_eq_self.mpr fun l hl => ?_
  obtain ⟨before, hbefore, rfl⟩ := List.mem_map.mp hl
  have hkept := hlabeled before hbefore
  simp [Interest.isEmpty, Interest.spend, hkept]

theorem hasSubscriptions_receive
    (payload : Payload)
    (h : HasSubscriptions mailbox ids b) :
    HasSubscriptions mailbox ids (b.receive payload).1 := by
  cases hopen : b.isCollected with
  | true =>
      rw [Bucket.receive_of_isCollected hopen]
      exact h
  | false =>
      have hlisteners : (b.receive payload).1.listenersOf mailbox =
          (b.listenersOf mailbox).map fun l => { l with interest := l.interest.spend .loaded } :=
        listenersOf_receive hopen h.labeled
      constructor
      · rw [hlisteners, List.map_map, Bucket.isCollected_receive]
        exact h.ids
      · intro l hl
        rw [hlisteners] at hl
        obtain ⟨before, hbefore, rfl⟩ := List.mem_map.mp hl
        exact h.labeled before hbefore

theorem hasSubscriptions_collect
    (h : HasSubscriptions mailbox ids b) :
    HasSubscriptions mailbox ids b.collect.1 := by
  cases hopen : b.isCollected with
  | true =>
      rw [Bucket.collect_of_isCollected hopen]
      exact h
  | false =>
      have hnobody : b.collect.1.listenersOf mailbox = [] := by
        rw [Bucket.listenersOf, Bucket.listeners_collect hopen, List.filter_nil]
      constructor
      · rw [hnobody, Bucket.isCollected_collect, if_pos rfl, List.map_nil]
      · rw [hnobody]
        exact fun l hl => absurd hl List.not_mem_nil

theorem hasSubscriptions_label
    {during : Bucket → Bucket × List Post}
    (edits : List Edit)
    (h : HasSubscriptions mailbox ids b)
    (hduring : b.payload ≠ none → HasSubscriptions mailbox ids (during b).1) :
    HasSubscriptions mailbox ids (b.label edits during).2.1 := by
  cases hpayload : b.payload with
  | none =>
      rw [label_of_payload_eq_none edits during hpayload]
      exact h
  | some payload =>
      have hacted := hduring (by simp [hpayload])
      rcases label_cases edits during hpayload with hlabel | ⟨_, hlabel⟩
      · rw [hlabel]
        exact hacted
      · rw [hlabel]
        exact hacted.of_same rfl rfl

theorem listenersOf_subscribe_of_ne
    {interest : Interest} {target : MailboxRef}
    (hne : target ≠ mailbox) :
    (b.subscribe interest target).2.listenersOf mailbox = b.listenersOf mailbox := by
  simp only [Bucket.subscribe]
  split
  · rfl
  · simp [Bucket.listenersOf, hne]

theorem listenersOf_unsubscribe_of_ne
    {id : SubscriptionId}
    (hother : ∀ l ∈ b.listeners, l.id = id → l.mailbox ≠ mailbox) :
    (b.unsubscribe id).listenersOf mailbox = b.listenersOf mailbox := by
  rw [Bucket.unsubscribe, Bucket.listenersOf, Bucket.listenersOf, List.filter_filter]
  refine List.filter_congr fun l hl => ?_
  by_cases hid : l.id = id
  · simp [hother l hl hid]
  · simp [hid]

mutual

/-- Deeds that spare the owner of a mailbox leave its subscriptions alone. -/
theorem perform_hasSubscriptions :
    ∀ (d : Deed) {b : Bucket},
      Spares mailbox d b →
      Avoids mailbox d →
      HasSubscriptions mailbox ids b →
      HasSubscriptions mailbox ids (d.perform b).1
  | .pull, b, _, _, hb => by
      rw [perform, Bucket.pull]
      split
      · exact hb.of_same rfl rfl
      · exact hb
  | .receive payload, b, _, _, hb => by
      rw [perform]
      exact hasSubscriptions_receive payload hb
  | .label edits meanwhile, b, hspares, havoids, hb => by
      rw [Spares] at hspares
      rw [Avoids] at havoids
      rw [perform]
      exact hasSubscriptions_label edits hb fun hsome =>
        performAll_hasSubscriptions meanwhile (hspares hsome) havoids hb
  | .collect, b, _, _, hb => by
      rw [perform]
      exact hasSubscriptions_collect hb
  | .subscribe interest target, b, _, havoids, hb => by
      rw [Avoids] at havoids
      rw [perform]
      refine hb.of_same (listenersOf_subscribe_of_ne havoids) ?_
      simp only [Bucket.subscribe]
      split <;> rfl
  | .unsubscribe id, b, hspares, _, hb => by
      rw [Spares] at hspares
      rw [perform]
      exact hb.of_same (listenersOf_unsubscribe_of_ne hspares) rfl
  | .visualize shown, b, _, _, hb => by
      rw [perform]
      exact hb.of_same rfl rfl

theorem performAll_hasSubscriptions :
    ∀ (ds : List Deed) {b : Bucket},
      AllSpare mailbox ds b →
      AllAvoid mailbox ds →
      HasSubscriptions mailbox ids b →
      HasSubscriptions mailbox ids (performAll ds b).1
  | [], b, _, _, hb => by
      rw [performAll]
      exact hb
  | d :: rest, b, hspares, havoids, hb => by
      rw [AllSpare] at hspares
      rw [AllAvoid] at havoids
      rw [performAll]
      exact performAll_hasSubscriptions rest hspares.2 havoids.2
        (perform_hasSubscriptions d hspares.1 havoids.1 hb)

end

end Deed

end Subscriptions

section Entries

namespace Residency

/-- The subscriptions of the entries of a bucket. -/
def subscriptionsOn (m : Residency) (ref : BucketRef) : List SubscriptionId :=
  (m.active.filter fun a => a.bucket == ref).map (·.subscription)

variable {m : Residency} {s : Scene} {a : ActiveBucket} {ref : BucketRef}

theorem subscriptionsOn_eq_nil
    (h : ∀ a ∈ m.active, a.bucket ≠ ref) :
    m.subscriptionsOn ref = [] := by
  rw [subscriptionsOn, List.filter_eq_nil_iff.mpr, List.map_nil]
  intro a ha
  simpa using h a ha

/-- A bucket has one entry. -/
theorem subscriptionsOn_eq_singleton
    (htidy : Tidy m)
    (hknown : ∀ a ∈ m.active, Knows s a)
    (ha : a ∈ m.active) :
    m.subscriptionsOn a.bucket = [a.subscription] := by
  have hentries : (m.active.filter fun b => b.bucket == a.bucket) =
      m.active.filter fun b => b.id == a.id := by
    refine List.filter_congr fun b hb => ?_
    rw [Bool.eq_iff_iff, beq_iff_eq, beq_iff_eq]
    constructor
    · intro hbucket
      rw [← (hknown b hb).2, hbucket, (hknown a ha).2]
    · intro hid
      rw [htidy.eq_of_id hb ha hid]
  have hothers : ((m.active.filter fun b => b.id != a.id).filter fun b => b.id == a.id) = [] := by
    simp
  have hperm := (perm_cons_filter htidy.ids ha).filter fun b => b.id == a.id
  rw [List.filter_cons_of_pos (by simp), hothers] at hperm
  rw [subscriptionsOn, hentries, List.perm_singleton.mp hperm, List.map_singleton]

theorem subscriptionsOn_without_self
    (hknown : ∀ a ∈ m.active, Knows s a)
    (ha : a ∈ m.active) :
    (m.without a).subscriptionsOn a.bucket = [] := by
  refine subscriptionsOn_eq_nil fun b hb hbucket => ?_
  obtain ⟨hactive, hid⟩ := List.mem_filter.mp hb
  rw [bne_iff_ne] at hid
  apply hid
  rw [← (hknown b hactive).2, hbucket, (hknown a ha).2]

theorem subscriptionsOn_without_of_ne
    (htidy : Tidy m)
    (ha : a ∈ m.active)
    (hne : ref ≠ a.bucket) :
    (m.without a).subscriptionsOn ref = m.subscriptionsOn ref := by
  rw [subscriptionsOn, subscriptionsOn, without, List.filter_filter]
  refine congrArg _ (List.filter_congr fun b hb => ?_)
  by_cases hid : b.id = a.id
  · rw [htidy.eq_of_id hb ha hid]
    simp [Ne.symm hne]
  · simp [hid]

end Residency

end Entries

section Subscribed

open Residency

/-- Whether the residency is subscribed to its active buckets, once to each, and to no other. -/
def Subscribed (w : World) : Prop :=
  ∀ ref, Deed.HasSubscriptions w.residency.mailbox (w.residency.subscriptionsOn ref)
    (w.scene.bucket ref)

variable {opening : Bool} {w w' : World} {a : ActiveBucket}

/-- The case of what neither gives nor takes slots, nor touches subscriptions. -/
theorem Subscribed.of_same
    (h : Subscribed w)
    (hmailbox : w'.residency.mailbox = w.residency.mailbox)
    (hactive : w'.residency.active = w.residency.active)
    (hlisteners : ∀ ref, (w'.scene.bucket ref).listeners = (w.scene.bucket ref).listeners)
    (hcollected : ∀ ref, (w'.scene.bucket ref).isCollected = (w.scene.bucket ref).isCollected) :
    Subscribed w' := by
  intro ref
  rw [hmailbox, subscriptionsOn, hactive]
  refine (h ref).of_same ?_ (hcollected ref)
  rw [Bucket.listenersOf, hlisteners ref]
  rfl

/-- The case of what does not touch the buckets either. -/
theorem Subscribed.of_buckets
    (h : Subscribed w)
    (hmailbox : w'.residency.mailbox = w.residency.mailbox)
    (hactive : w'.residency.active = w.residency.active)
    (hbuckets : w'.scene.buckets = w.scene.buckets) :
    Subscribed w' := by
  refine h.of_same hmailbox hactive (fun ref => ?_) fun ref => ?_ <;>
    rw [Scene.bucket, hbuckets] <;> rfl

/-- The bucket whose slot is taken away loses the subscription of its entry. -/
theorem subscribed_forgo
    (hknown : ∀ a ∈ w.residency.active, Knows w.scene a)
    (htidy : Tidy w.residency)
    (h : Subscribed w)
    (ha : a ∈ w.residency.active) :
    Subscribed (w.forgo a) := by
  intro ref
  by_cases hsame : ref = a.bucket
  · subst hsame
    have hbefore := h a.bucket
    rw [subscriptionsOn_eq_singleton htidy hknown ha] at hbefore
    have hleft : ((w.forgo a).scene.bucket a.bucket).listenersOf w.residency.mailbox = [] := by
      rw [Bucket.listenersOf, World.forgo, listeners_dismiss_self,
        List.filter_filter, List.filter_eq_nil_iff]
      intro l hl hboth
      rw [Bool.and_eq_true, bne_iff_ne] at hboth
      have hid : l.id ∈ ((w.scene.bucket a.bucket).listenersOf w.residency.mailbox).map (·.id) :=
        List.mem_map_of_mem (List.mem_filter.mpr ⟨hl, hboth.1⟩)
      rw [hbefore.ids] at hid
      split at hid
      · cases hid
      · exact hboth.2 (List.mem_singleton.mp hid)
    have hentries : (w.forgo a).residency.subscriptionsOn a.bucket = [] :=
      subscriptionsOn_without_self hknown ha
    constructor
    · rw [hentries, ite_self]
      exact congrArg _ hleft
    · intro l hl
      rw [show (w.forgo a).residency.mailbox = w.residency.mailbox from rfl, hleft] at hl
      cases hl
  · have hentries : (w.forgo a).residency.subscriptionsOn ref = w.residency.subscriptionsOn ref :=
      subscriptionsOn_without_of_ne htidy ha hsame
    have hbucket : (w.forgo a).scene.bucket ref = w.scene.bucket ref :=
      bucket_dismiss_of_ne hsame
    rw [hentries, hbucket]
    exact h ref

theorem subscribed_hear
    (hknown : ∀ a ∈ w.residency.active, Knows w.scene a)
    (htidy : Tidy w.residency)
    (h : Subscribed w)
    (notice : Notice) (rest : List Notice) :
    Subscribed (w.hear notice rest) := by
  have hpopped : Subscribed (w.pop rest) := h.of_buckets rfl rfl rfl
  exact World.hear_induct (hpopped.of_buckets rfl rfl rfl) hpopped
    fun a => subscribed_forgo (w := w.pop rest) hknown htidy hpopped

/-- A newcomer gets the one subscription of its entry. -/
theorem subscribed_reserve
    {ref : BucketRef} {slot : Nat} {free : List Nat}
    (hknown : ∀ a ∈ w.residency.active, Knows w.scene a)
    (h : Subscribed w)
    (hexist : ref < w.scene.buckets.size)
    (hopen : (w.scene.bucket ref).isCollected = false)
    (hinactive : w.residency.isActive (w.scene.bucket ref).id = false) :
    Subscribed (w.reserve ref slot free) := by
  let b := w.scene.bucket ref
  let new : ActiveBucket := ⟨b.id, ref, slot, b.nextSubscription⟩
  have hsubscribe : b.subscribe (interestIn b) w.residency.mailbox =
      (b.nextSubscription,
        { b with
          nextSubscription := b.nextSubscription + 1
          listeners := b.listeners ++
            [⟨b.nextSubscription, interestIn b, w.residency.mailbox⟩] }) := by
    simp [Bucket.subscribe, b, hopen, interestIn, Interest.isEmpty]
  have hactive : (w.reserve ref slot free).residency.active = w.residency.active ++ [new] := by
    simp only [World.reserve, reserve, enqueue, Scene.subscribe]
    rw [show (w.scene.bucket ref).subscribe (interestIn (w.scene.bucket ref))
      w.residency.mailbox = _ from hsubscribe]
  have hnobody : w.residency.subscriptionsOn ref = [] := by
    refine subscriptionsOn_eq_nil fun a ha hbucket => ?_
    have hsome : w.residency.isActive (w.scene.bucket ref).id = true := by
      rw [← hbucket, (hknown a ha).2]
      exact isActive_iff.mpr (List.mem_map_of_mem ha)
    rw [hinactive] at hsome
    cases hsome
  intro other
  by_cases hsame : other = ref
  · subst hsame
    have hbucket : (w.reserve other slot free).scene.bucket other =
        (b.subscribe (interestIn b) w.residency.mailbox).2 := Scene.bucket_setBucket_self hexist
    have hentries : (w.reserve other slot free).residency.subscriptionsOn other =
        [b.nextSubscription] := by
      rw [subscriptionsOn, hactive, List.filter_append, List.map_append]
      rw [subscriptionsOn] at hnobody
      rw [hnobody]
      simp [new]
    have hbefore := (h other).ids
    rw [hnobody, ite_self, List.map_eq_nil_iff] at hbefore
    have hlisteners : ((w.reserve other slot free).scene.bucket other).listenersOf
        w.residency.mailbox = [⟨b.nextSubscription, interestIn b, w.residency.mailbox⟩] := by
      rw [hbucket, hsubscribe, Bucket.listenersOf, List.filter_append]
      rw [Bucket.listenersOf] at hbefore
      simp [b, hbefore]
    constructor
    · rw [hentries, hbucket, hsubscribe]
      rw [hbucket, hsubscribe] at hlisteners
      simp only [b, hopen]
      exact congrArg _ hlisteners
    · intro l hl
      rw [show (w.reserve other slot free).residency.mailbox = w.residency.mailbox from rfl,
        hlisteners, List.mem_singleton] at hl
      rw [hl]
      rfl
  · have hbucket : (w.reserve ref slot free).scene.bucket other = w.scene.bucket other :=
      Scene.bucket_setBucket_of_ne hsame
    have hentries : (w.reserve ref slot free).residency.subscriptionsOn other =
        w.residency.subscriptionsOn other := by
      rw [subscriptionsOn, subscriptionsOn, hactive, List.filter_append]
      simp [new, Ne.symm hsame]
    rw [hbucket, hentries]
    exact h other

theorem Subscribed.of_move
    (hknown : ∀ a ∈ w.residency.active, Knows w.scene a)
    (htidy : Tidy w.residency)
    (h : Subscribed w)
    (hmove : Move opening w w') :
    Subscribed w' := by
  cases hmove with
  | journal => exact h.of_buckets rfl rfl rfl
  | hear _ => exact subscribed_hear hknown htidy h _ _
  | forgo ha => exact subscribed_forgo hknown htidy h (find?_eq_some ha).1
  | aim => exact h.of_buckets rfl rfl rfl
  | reserve _ hexist hopen hinactive => exact subscribed_reserve hknown h hexist hopen hinactive
  | thin => exact h.of_buckets rfl rfl rfl
  | skip _ _ => exact h.of_buckets rfl rfl rfl
  | fail _ _ _ _ _ hfail =>
      obtain ⟨device, rfl⟩ := writeSlot_scene hfail
      exact h.of_buckets rfl rfl rfl
  | write _ _ _ _ _ hwrite =>
      refine h.of_same rfl rfl (listeners_commit hwrite) ?_
      exact ((alike_writeSlot hwrite).trans (alike_markCommitted _ _ _)).isCollected
  | upload =>
      obtain ⟨isPending, device, hupload⟩ := w.exists_upload_eq
      rw [hupload]
      exact h.of_buckets rfl rfl rfl

/-- Whether others leave the subscriptions and the mailbox of the residency alone. -/
def LeavesAlone (w : World) (op : Operation) : Prop :=
  SparesOwner w op ∧ AvoidsOwner w op

theorem Subscribed.of_occurrence
    {o : Occurrence}
    (hknown : ∀ a ∈ w.residency.active, Knows w.scene a)
    (h : Subscribed w)
    (hnames : (Operation.occurrence o).Names w.scene)
    (halone : LeavesAlone w (.occurrence o)) :
    Subscribed { w with scene := w.scene.occur o } := by
  cases o with
  | deed ref deed =>
      intro other
      dsimp only [Scene.occur]
      by_cases hsame : other = ref
      · rw [hsame, Scene.bucket_deed_self deed hnames]
        exact Deed.perform_hasSubscriptions deed halone.1 halone.2 (h ref)
      · rw [Scene.bucket_deed_of_ne deed hsame]
        exact h other
  | create id address coarser =>
      intro ref
      dsimp only [Scene.occur]
      rw [Scene.bucket_addBucket]
      split
      · rename_i hnew
        have hnobody : w.residency.subscriptionsOn ref = [] :=
          subscriptionsOn_eq_nil fun a ha hbucket =>
            Nat.ne_of_lt (hknown a ha).1 (hbucket.trans hnew)
        exact ⟨by rw [hnobody]; rfl, fun l hl => by cases hl⟩
      · exact h ref
  | openMailbox => exact h.of_buckets rfl rfl rfl
  | drain mailbox => exact h.of_buckets rfl rfl rfl
  | closeMailbox mailbox => exact h.of_buckets rfl rfl rfl
  | addSwitch isOn => exact h.of_buckets rfl rfl rfl
  | setSwitch switch isOn => exact h.of_buckets rfl rfl rfl
  | addTape => exact h.of_buckets rfl rfl rfl
  | setFuses tape updateFuse createFuse => exact h.of_buckets rfl rfl rfl

theorem subscribed_start
    {s₀ s : Scene} {width textures packing : Nat} {settings : Settings} {m : Residency}
    (hs₀ : ∀ ref, ∀ l ∈ (s₀.bucket ref).listeners, l.mailbox < s₀.mailboxes.size)
    (hcreate : Residency.create s₀ width textures packing settings = (.ok m, s)) :
    Subscribed ⟨m, s, .blank⟩ := by
  obtain ⟨layout, journal, _, _, rfl, rfl⟩ := create_eq_ok hcreate
  intro ref
  have hnobody : (s₀.bucket ref).listenersOf s₀.mailboxes.size = [] := by
    refine List.filter_eq_nil_iff.mpr fun l hl => ?_
    simpa using Nat.ne_of_lt (hs₀ ref l hl)
  refine ⟨?_, fun l hl => ?_⟩
  · exact (congrArg _ hnobody).trans (ite_self _).symm
  · have hheld : l ∈ (s₀.bucket ref).listenersOf s₀.mailboxes.size := hl
    rw [hnobody] at hheld
    cases hheld

/-- In every run the residency is subscribed to its active buckets, and to no other. -/
theorem Reachable.subscribed
    {s₀ : Scene}
    (hs₀ : ∀ ref, ∀ l ∈ (s₀.bucket ref).listeners, l.mailbox < s₀.mailboxes.size)
    (h : Reachable LeavesAlone s₀ w) :
    Subscribed w := by
  refine (h.of_moves (P := fun w => Heedful w ∧ Subscribed w) (Q := fun _ => True)
    ?_ ?_ ?_ ?_ ?_).1.2
  · intro width textures packing settings m s hcreate
    exact ⟨⟨heedful_start hcreate, subscribed_start hs₀ hcreate⟩, trivial⟩
  · intro w op _ hother hnames halone hw _
    refine ⟨?_, trivial⟩
    cases op with
    | occurrence o =>
        rw [w.step_occurrence]
        exact ⟨hw.1.of_occurrence hnames halone.1,
          hw.2.of_occurrence hw.1.known hnames halone⟩
    | setUp factory bytes =>
        refine ⟨hw.1.of_setUp factory bytes, ?_⟩
        obtain ⟨_, _, _, device, journal, hstep⟩ := w.exists_step_setUp_eq factory bytes
        rw [hstep]
        exact hw.2.of_buckets rfl rfl rfl
    | _ => cases hother
  · intro w w' htidy hmove hw
    exact ⟨hw.1.of_move hmove, hw.2.of_move hw.1.known htidy hmove⟩
  · intro w w' _ _ _ _
    trivial
  · intro _ w _ outside _ _ _ _ hw
    exact ⟨⟨heedful_rebuild hw.1 outside, hw.2.of_buckets rfl rfl rfl⟩, trivial⟩

end Subscribed

section Marks

open Residency

theorem isVisualized_subscribe (b : Bucket) (interest : Interest) (target : MailboxRef) :
    (b.subscribe interest target).2.isVisualized = b.isVisualized := by
  simp only [Bucket.subscribe]
  split <;> rfl

namespace Deed

mutual

/-- Whether a deed leaves the mark of a bucket alone. -/
def SparesMark : Deed → Prop
  | .label _ meanwhile => AllSpareMark meanwhile
  | .visualize _ => False
  | .pull => True
  | .receive _ => True
  | .collect => True
  | .subscribe _ _ => True
  | .unsubscribe _ => True

/-- Whether deeds leave the mark of a bucket alone. -/
def AllSpareMark : List Deed → Prop
  | [] => True
  | d :: rest => SparesMark d ∧ AllSpareMark rest

end

mutual

theorem isVisualized_perform :
    ∀ (d : Deed) (b : Bucket), SparesMark d → (d.perform b).1.isVisualized = b.isVisualized
  | .pull, b, _ => by
      rw [perform, Bucket.pull]
      split <;> rfl
  | .receive payload, b, _ => by
      rw [perform, Bucket.receive]
      split <;> rfl
  | .label edits meanwhile, b, h => by
      rw [SparesMark] at h
      have hmeanwhile := isVisualized_performAll meanwhile b h
      rw [perform, Bucket.label]
      split
      · rfl
      · dsimp only
        split
        · exact hmeanwhile
        · exact hmeanwhile
  | .collect, b, _ => by
      rw [perform, Bucket.collect]
      split <;> rfl
  | .subscribe interest target, b, _ => by
      rw [perform]
      exact isVisualized_subscribe b interest target
  | .unsubscribe id, b, _ => by
      rw [perform, Bucket.unsubscribe]
  | .visualize shown, b, h => by
      rw [SparesMark] at h
      exact h.elim

theorem isVisualized_performAll :
    ∀ (ds : List Deed) (b : Bucket), AllSpareMark ds →
      (performAll ds b).1.isVisualized = b.isVisualized
  | [], b, _ => by
      rw [performAll]
  | d :: rest, b, h => by
      rw [AllSpareMark] at h
      rw [performAll]
      exact (isVisualized_performAll rest _ h.2).trans (isVisualized_perform d b h.1)

end

end Deed

/-- Whether others leave the marks of the buckets alone. -/
def SparesMarks (_ : World) : Operation → Prop
  | .occurrence (.deed _ deed) => deed.SparesMark
  | _ => True

/-- Whether the marked buckets are those of committed entries. -/
def Marked (w : World) : Prop :=
  ∀ ref, (w.scene.bucket ref).isVisualized = true ↔
    ∃ a ∈ w.residency.active, a.bucket = ref ∧ a.id ∈ w.residency.committed

variable {opening : Bool} {w w' : World} {a : ActiveBucket}

/-- The case of what neither gives nor takes slots, nor commits, nor touches marks. -/
theorem Marked.of_same
    (h : Marked w)
    (hactive : w'.residency.active = w.residency.active)
    (hcommitted : w'.residency.committed = w.residency.committed)
    (hvisualized : ∀ ref,
      (w'.scene.bucket ref).isVisualized = (w.scene.bucket ref).isVisualized) :
    Marked w' := by
  intro ref
  rw [hvisualized, hactive, hcommitted]
  exact h ref

/-- The case of what does not touch the buckets either. -/
theorem Marked.of_buckets
    (h : Marked w)
    (hactive : w'.residency.active = w.residency.active)
    (hcommitted : w'.residency.committed = w.residency.committed)
    (hbuckets : w'.scene.buckets = w.scene.buckets) :
    Marked w' := by
  refine h.of_same hactive hcommitted fun ref => ?_
  rw [Scene.bucket, hbuckets]
  rfl

theorem isVisualized_dismiss_self
    {m : Residency} {s : Scene}
    (hvisualize : m.settings.debugging.visualize = true)
    (hexist : a.bucket < s.buckets.size) :
    ((m.dismiss s a).bucket a.bucket).isVisualized = false := by
  simp only [dismiss, hvisualize, if_true]
  rw [Scene.visualize, Scene.bucket_setBucket_self (by simpa [Scene.unsubscribe] using hexist)]
  rfl

/-- The bucket whose slot is taken away is unmarked, and it is committed no more. -/
theorem marked_forgo
    (hvisualize : w.residency.settings.debugging.visualize = true)
    (hknown : ∀ a ∈ w.residency.active, Knows w.scene a)
    (htidy : Tidy w.residency)
    (h : Marked w)
    (ha : a ∈ w.residency.active) :
    Marked (w.forgo a) := by
  intro ref
  by_cases hsame : ref = a.bucket
  · subst hsame
    have hunmarked : ((w.forgo a).scene.bucket a.bucket).isVisualized = false :=
      isVisualized_dismiss_self hvisualize (hknown a ha).1
    rw [hunmarked]
    constructor
    · intro hmarked
      cases hmarked
    · rintro ⟨b, hb, hbucket, _⟩
      obtain ⟨hactive, hid⟩ := List.mem_filter.mp hb
      rw [bne_iff_ne, ← (hknown b hactive).2, hbucket, (hknown a ha).2] at hid
      exact absurd rfl hid
  · have hbucket : (w.forgo a).scene.bucket ref = w.scene.bucket ref :=
      bucket_dismiss_of_ne hsame
    rw [hbucket, h ref]
    have hother : ∀ b ∈ w.residency.active, b.bucket = ref → b.id ≠ a.id := by
      intro b hb href hid
      exact hsame (href ▸ congrArg _ (htidy.eq_of_id hb ha hid))
    constructor
    · rintro ⟨b, hb, href, hcommitted⟩
      have hid : (b.id != a.id) = true := bne_iff_ne.mpr (hother b hb href)
      exact ⟨b, List.mem_filter.mpr ⟨hb, hid⟩, href, List.mem_filter.mpr ⟨hcommitted, hid⟩⟩
    · rintro ⟨b, hb, href, hcommitted⟩
      exact ⟨b, (List.mem_filter.mp hb).1, href, (List.mem_filter.mp hcommitted).1⟩

theorem marked_hear
    (hvisualize : w.residency.settings.debugging.visualize = true)
    (hknown : ∀ a ∈ w.residency.active, Knows w.scene a)
    (htidy : Tidy w.residency)
    (h : Marked w)
    (notice : Notice) (rest : List Notice) :
    Marked (w.hear notice rest) := by
  have hpopped : Marked (w.pop rest) := h.of_buckets rfl rfl rfl
  exact World.hear_induct (hpopped.of_buckets rfl rfl rfl) hpopped
    fun a => marked_forgo (w := w.pop rest) hvisualize hknown htidy hpopped

/-- A newcomer is not committed yet. -/
theorem marked_reserve
    {ref : BucketRef} {slot : Nat} {free : List Nat}
    (htidy : Tidy w.residency)
    (h : Marked w)
    (hinactive : w.residency.isActive (w.scene.bucket ref).id = false) :
    Marked (w.reserve ref slot free) := by
  let subscribed := w.scene.subscribe ref (interestIn (w.scene.bucket ref)) w.residency.mailbox
  let new : ActiveBucket := ⟨(w.scene.bucket ref).id, ref, slot, subscribed.1⟩
  have hactive : (w.reserve ref slot free).residency.active = w.residency.active ++ [new] := rfl
  have hnew : new.id ∉ w.residency.committed := by
    intro hcommitted
    have hsome := isActive_iff.mpr (htidy.committed_active _ hcommitted)
    rw [show w.residency.isActive new.id = false from hinactive] at hsome
    cases hsome
  have hvisualized : ∀ other, ((w.reserve ref slot free).scene.bucket other).isVisualized =
      (w.scene.bucket other).isVisualized :=
    Scene.bucket_setBucket_keeps (·.isVisualized) (isVisualized_subscribe _ _ _)
  intro other
  rw [hvisualized, h other, hactive]
  constructor
  · rintro ⟨a, ha, hboth⟩
    exact ⟨a, List.mem_append_left _ ha, hboth⟩
  · rintro ⟨a, ha, hbucket, hcommitted⟩
    rcases List.mem_append.mp ha with ha | ha
    · exact ⟨a, ha, hbucket, hcommitted⟩
    · obtain rfl := List.mem_singleton.mp ha
      exact absurd hcommitted hnew

/-- The bucket whose payload was written is marked, and it is committed. -/
theorem marked_commit
    {s : Scene} {slot : Nat} {payload : Payload} {outcome : Except Fault Unit}
    {rest : List WriteRequest}
    (hvisualize : w.residency.settings.debugging.visualize = true)
    (hknown : ∀ a ∈ w.residency.active, Knows w.scene a)
    (htidy : Tidy w.residency)
    (h : Marked w)
    (ha : a ∈ w.residency.active)
    (hwrite : w.residency.writeSlot w.scene slot payload = (outcome, s)) :
    Marked (w.commit a rest s) := by
  have hbuckets : s.buckets = w.scene.buckets := by
    obtain ⟨device, rfl⟩ := writeSlot_scene hwrite
    rfl
  have hscene : (w.commit a rest s).scene = s.visualize a.bucket true := by
    simp only [World.commit, markCommitted, hvisualize, if_true]
  have hcommitted : ∀ {id}, id ∈ (w.commit a rest s).residency.committed ↔
      id = a.id ∨ id ∈ w.residency.committed := mem_committed_markCommitted (s := s)
  intro ref
  rw [hscene]
  by_cases hsame : ref = a.bucket
  · subst hsame
    have hexist : a.bucket < s.buckets.size := hbuckets ▸ (hknown a ha).1
    rw [Scene.visualize, Scene.bucket_setBucket_self hexist]
    exact ⟨fun _ => ⟨a, ha, rfl, hcommitted.mpr (.inl rfl)⟩, fun _ => rfl⟩
  · have hbucket : (s.visualize a.bucket true).bucket ref = w.scene.bucket ref := by
      rw [Scene.visualize, Scene.bucket_setBucket_of_ne hsame, Scene.bucket, hbuckets, Scene.bucket]
    rw [hbucket, h ref]
    constructor
    · rintro ⟨b, hb, href, hin⟩
      exact ⟨b, hb, href, hcommitted.mpr (.inr hin)⟩
    · rintro ⟨b, hb, href, hin⟩
      refine ⟨b, hb, href, (hcommitted.mp hin).resolve_left fun hid => hsame ?_⟩
      exact href ▸ congrArg _ (htidy.eq_of_id hb ha hid)

theorem Marked.of_move
    (hvisualize : w.residency.settings.debugging.visualize = true)
    (hknown : ∀ a ∈ w.residency.active, Knows w.scene a)
    (htidy : Tidy w.residency)
    (h : Marked w)
    (hmove : Move opening w w') :
    Marked w' := by
  cases hmove with
  | journal => exact h.of_buckets rfl rfl rfl
  | hear _ => exact marked_hear hvisualize hknown htidy h _ _
  | forgo ha => exact marked_forgo hvisualize hknown htidy h (find?_eq_some ha).1
  | aim => exact h.of_buckets rfl rfl rfl
  | reserve _ _ _ hinactive => exact marked_reserve htidy h hinactive
  | thin => exact h.of_buckets rfl rfl rfl
  | skip _ _ => exact h.of_buckets rfl rfl rfl
  | fail _ _ _ _ _ hfail =>
      obtain ⟨device, rfl⟩ := writeSlot_scene hfail
      exact h.of_buckets rfl rfl rfl
  | write _ _ ha _ _ hwrite =>
      exact marked_commit hvisualize hknown htidy h (find?_eq_some ha).1 hwrite
  | upload =>
      obtain ⟨isPending, device, hupload⟩ := w.exists_upload_eq
      rw [hupload]
      exact h.of_buckets rfl rfl rfl

theorem Marked.of_occurrence
    {o : Occurrence}
    (hknown : ∀ a ∈ w.residency.active, Knows w.scene a)
    (h : Marked w)
    (hnames : (Operation.occurrence o).Names w.scene)
    (hspares : SparesMarks w (.occurrence o)) :
    Marked { w with scene := w.scene.occur o } := by
  cases o with
  | deed ref deed =>
      refine h.of_same rfl rfl fun other => ?_
      dsimp only [Scene.occur]
      by_cases hsame : other = ref
      · rw [hsame, Scene.bucket_deed_self deed hnames]
        exact Deed.isVisualized_perform deed _ hspares
      · rw [Scene.bucket_deed_of_ne deed hsame]
  | create id address coarser =>
      intro ref
      dsimp only [Scene.occur]
      rw [Scene.bucket_addBucket]
      split
      · rename_i hnew
        constructor
        · intro hmarked
          cases hmarked
        · rintro ⟨a, ha, hbucket, _⟩
          exact absurd (hbucket.trans hnew) (Nat.ne_of_lt (hknown a ha).1)
      · exact h ref
  | openMailbox => exact h.of_buckets rfl rfl rfl
  | drain mailbox => exact h.of_buckets rfl rfl rfl
  | closeMailbox mailbox => exact h.of_buckets rfl rfl rfl
  | addSwitch isOn => exact h.of_buckets rfl rfl rfl
  | setSwitch switch isOn => exact h.of_buckets rfl rfl rfl
  | addTape => exact h.of_buckets rfl rfl rfl
  | setFuses tape updateFuse createFuse => exact h.of_buckets rfl rfl rfl

/-- In every run in which nobody else sets marks, they show which buckets are committed. -/
theorem Reachable.marked
    {s₀ : Scene}
    (hs₀ : ∀ ref, (s₀.bucket ref).isVisualized = false)
    (h : Reachable (fun w op => LeavesAlone w op ∧ SparesMarks w op) s₀ w)
    (hvisualize : w.residency.settings.debugging.visualize = true) :
    Marked w := by
  refine (h.of_moves (P := fun w => Heedful w ∧
    (w.residency.settings.debugging.visualize = true → Marked w)) (Q := fun _ => True)
    ?_ ?_ ?_ ?_ ?_).1.2 hvisualize
  · intro width textures packing settings m s hcreate
    refine ⟨⟨heedful_start hcreate, fun _ => ?_⟩, trivial⟩
    obtain ⟨layout, journal, _, _, rfl, rfl⟩ := create_eq_ok hcreate
    intro ref
    have hunmarked : (({ s₀.openMailbox.2 with journal := journal } : Scene).bucket
        ref).isVisualized = false := hs₀ ref
    simp [hunmarked]
  · intro w op _ hother hnames hop hw _
    refine ⟨?_, trivial⟩
    cases op with
    | occurrence o =>
        rw [w.step_occurrence]
        exact ⟨hw.1.of_occurrence hnames hop.1.1,
          fun hvisualize => (hw.2 hvisualize).of_occurrence hw.1.known hnames hop.2⟩
    | setUp factory bytes =>
        refine ⟨hw.1.of_setUp factory bytes, ?_⟩
        obtain ⟨_, _, _, device, journal, hstep⟩ := w.exists_step_setUp_eq factory bytes
        rw [hstep]
        exact fun hvisualize => (hw.2 hvisualize).of_buckets rfl rfl rfl
    | _ => cases hother
  · intro w w' htidy hmove hw
    refine ⟨hw.1.of_move hmove, fun hvisualize => ?_⟩
    rw [hmove.retains.settings] at hvisualize
    exact (hw.2 hvisualize).of_move hvisualize hw.1.known htidy hmove
  · intro w w' _ _ _ _
    trivial
  · intro _ w _ outside _ _ _ _ hw
    exact ⟨⟨heedful_rebuild hw.1 outside,
      fun hvisualize => (hw.2 hvisualize).of_buckets rfl rfl rfl⟩, trivial⟩

/-- A residency that does not show what is resident sets no marks. -/
theorem Move.isVisualized_eq
    (h : Move opening w w')
    (hvisualize : w.residency.settings.debugging.visualize = false)
    (ref : BucketRef) :
    (w'.scene.bucket ref).isVisualized = (w.scene.bucket ref).isVisualized := by
  have hforgo : ∀ (s : Scene) (a : ActiveBucket),
      ((w.residency.dismiss s a).bucket ref).isVisualized = (s.bucket ref).isVisualized := by
    intro s a
    simp only [dismiss, hvisualize, Bool.false_eq_true, if_false]
    exact Scene.bucket_setBucket_keeps (b := (s.bucket a.bucket).unsubscribe a.subscription)
      (·.isVisualized) rfl ref
  cases h with
  | journal => rfl
  | hear _ => exact World.hear_induct rfl rfl fun a _ => hforgo _ a
  | forgo _ => exact hforgo _ _
  | aim => rfl
  | reserve _ _ _ _ =>
      exact Scene.bucket_setBucket_keeps (·.isVisualized) (isVisualized_subscribe _ _ _) ref
  | thin => rfl
  | skip _ _ => rfl
  | fail _ _ _ _ _ hfail =>
      obtain ⟨device, rfl⟩ := writeSlot_scene hfail
      rfl
  | write _ _ _ _ _ hwrite =>
      obtain ⟨device, rfl⟩ := writeSlot_scene hwrite
      simp only [World.commit, markCommitted, hvisualize, Bool.false_eq_true, if_false]
      rfl
  | upload =>
      obtain ⟨isPending, device, hupload⟩ := w.exists_upload_eq
      rw [hupload]
      rfl

theorem Moves.isVisualized_eq
    (h : Moves opening w w')
    (hvisualize : w.residency.settings.debugging.visualize = false)
    (ref : BucketRef) :
    (w'.scene.bucket ref).isVisualized = (w.scene.bucket ref).isVisualized := by
  induction h with
  | refl => rfl
  | tail hbefore hmove ih =>
      refine (hmove.isVisualized_eq ?_ ref).trans ih
      rw [(Moves.retains hbefore).settings]
      exact hvisualize

theorem Performs.isVisualized_eq
    {op : Operation}
    (h : Performs op w w')
    (hvisualize : w.residency.settings.debugging.visualize = false)
    (ref : BucketRef) :
    (w'.scene.bucket ref).isVisualized = (w.scene.bucket ref).isVisualized := by
  cases h with
  | keeping hmoves => exact hmoves.isVisualized_eq hvisualize ref
  | rebuilding _ hbefore hafter =>
      refine (hafter.isVisualized_eq ?_ ref).trans (hbefore.isVisualized_eq hvisualize ref)
      exact (congrArg (·.debugging.visualize) (Moves.retains hbefore).settings).trans hvisualize

end Marks

section Footprint

open Residency

/-- What the residency leaves on a bucket depends on whether it holds it. -/
structure Residency.FootprintOn (m : Residency) (s : Scene) (ref : BucketRef) : Prop where
  collected : (s.bucket ref).isCollected = true → (s.bucket ref).listenersOf m.mailbox = []
  inactive : m.find? (s.bucket ref).id = none → (s.bucket ref).listenersOf m.mailbox = []
  active : ∀ a, m.find? (s.bucket ref).id = some a → (s.bucket ref).isCollected = false →
    ∃ l, (s.bucket ref).listenersOf m.mailbox = [l] ∧ l.id = a.subscription

variable {w : World} {s₀ : Scene} {ref : BucketRef}

theorem Subscribed.footprintOn
    (h : Subscribed w)
    (hknown : ∀ a ∈ w.residency.active, Knows w.scene a)
    (htidy : Tidy w.residency)
    (hunique : w.scene.HasUniqueIds)
    (hexist : ref < w.scene.buckets.size) :
    w.residency.FootprintOn w.scene ref where
  collected hcollected := by
    have hids := (h ref).ids
    rwa [hcollected, if_pos rfl, List.map_eq_nil_iff] at hids
  inactive hnone := by
    have hentries : w.residency.subscriptionsOn ref = [] := by
      refine subscriptionsOn_eq_nil fun a ha hbucket => ?_
      have hsome : w.residency.isActive (w.scene.bucket ref).id = true := by
        rw [← hbucket, (hknown a ha).2]
        exact isActive_iff.mpr (List.mem_map_of_mem ha)
      rw [isActive, hnone] at hsome
      cases hsome
    have hids := (h ref).ids
    rwa [hentries, ite_self, List.map_eq_nil_iff] at hids
  active a hfind hopen := by
    obtain ⟨ha, hid⟩ := find?_eq_some hfind
    have hbucket : a.bucket = ref :=
      hunique a.bucket ref (hknown a ha).1 hexist ((hknown a ha).2.trans hid)
    have hids := (h ref).ids
    rw [← hbucket, subscriptionsOn_eq_singleton htidy hknown ha, hbucket, hopen] at hids
    obtain ⟨l, hl, hlid⟩ := List.map_eq_singleton_iff.mp hids
    exact ⟨l, hl, hlid⟩

theorem Marked.isVisualized_iff
    (h : Marked w)
    (hknown : ∀ a ∈ w.residency.active, Knows w.scene a)
    (htidy : Tidy w.residency)
    (hunique : w.scene.HasUniqueIds)
    (hexist : ref < w.scene.buckets.size) :
    (w.scene.bucket ref).isVisualized = true ↔
      (w.scene.bucket ref).id ∈ w.residency.committed := by
  rw [h ref]
  constructor
  · rintro ⟨a, ha, rfl, hcommitted⟩
    rw [(hknown a ha).2]
    exact hcommitted
  · intro hcommitted
    obtain ⟨a, ha, hid⟩ := List.mem_map.mp (htidy.committed_active _ hcommitted)
    refine ⟨a, ha, ?_, hid ▸ hcommitted⟩
    exact hunique a.bucket ref (hknown a ha).1 hexist ((hknown a ha).2.trans hid)

/--
A residency that others leave alone has one subscription on each active bucket, that of its
entry, until the bucket is collected, and none on any other bucket.  If it shows what is resident
and nobody else sets marks, the marked buckets are the committed ones; if it does not, no
operation of its own changes a mark.
-/
theorem leaves_footprint_onlyOnHeld
    (hs₀ : ∀ ref, ∀ l ∈ (s₀.bucket ref).listeners, l.mailbox < s₀.mailboxes.size)
    (h : Reachable LeavesAlone s₀ w)
    (hunique : w.scene.HasUniqueIds) :
    (∀ ref < w.scene.buckets.size, w.residency.FootprintOn w.scene ref) ∧
    (w.residency.settings.debugging.visualize = true →
      (∀ ref, (s₀.bucket ref).isVisualized = false) →
      Reachable (fun w op => LeavesAlone w op ∧ SparesMarks w op) s₀ w →
      ∀ ref < w.scene.buckets.size,
        (w.scene.bucket ref).isVisualized = true ↔
          (w.scene.bucket ref).id ∈ w.residency.committed) ∧
    (w.residency.settings.debugging.visualize = false →
      ∀ op : Operation, (∀ o, op ≠ .occurrence o) → op.Names w.scene →
        ∀ ref, ((w.step op).scene.bucket ref).isVisualized =
          (w.scene.bucket ref).isVisualized) := by
  have hknown := (h.mono fun _ _ hop => hop.1).heedful.known
  refine ⟨?_, ?_, ?_⟩
  · intro ref hexist
    exact (h.subscribed hs₀).footprintOn hknown h.tidy hunique hexist
  · intro hvisualize hunmarked hspared ref hexist
    exact (hspared.marked hunmarked hvisualize).isVisualized_iff hknown h.tidy hunique hexist
  · intro hvisualize op hown hnames ref
    cases hwork : op.isWork with
    | true => exact (performs_step hwork h.tidy hnames).isVisualized_eq hvisualize ref
    | false =>
        cases op with
        | occurrence o => exact absurd rfl (hown o)
        | setUp factory bytes =>
            obtain ⟨_, _, _, device, journal, hstep⟩ := w.exists_step_setUp_eq factory bytes
            rw [hstep]
            rfl
        | _ => cases hwork

/-- Settings with a single look-up entry that show what is resident. -/
def Settings.marking : Settings :=
  { Settings.smallest with debugging := ⟨true, none⟩ }

/-- A residency of two slots that shows what is resident and was just created. -/
def World.marking : World where
  residency := { World.smallest.residency with settings := .marking }
  scene := (Residency.create Scene.empty 256 1 1 .marking).2
  chronicle := .blank

theorem reachable_marking (allowed : World → Operation → Prop) :
    Reachable allowed Scene.empty .marking := by
  refine .create (Prod.ext ?_ rfl : Residency.create Scene.empty 256 1 1 .marking =
    (.ok World.marking.residency, World.marking.scene))
  have hcheck : Settings.marking.check = .ok .marking :=
    Settings.check_eq_ok_iff.mpr (by decide)
  rw [Residency.create, hcheck]
  rfl

/-- A bucket is subscribed to and marked while it is committed, and neither once it is collected. -/
theorem leaves_footprint_onlyOnHeld_of_collection :
    let opened : List Operation := [
      .occurrence .addTape, .setUp (.tapes 0) 1,
      .occurrence (.create 7 .origin none), .occurrence (.create 8 .origin none),
      .occurrence (.deed 0 (.receive .empty)),
      .activate (fun _ => true) [0] .origin, .tick (fun _ => true) .unlimited]
    let shown := opened.foldl World.step .marking
    let left := (shown.step (.occurrence (.deed 0 .collect))).step .readNotices
    ((shown.scene.bucket 0).isVisualized = true ∧
      (∃ l, (shown.scene.bucket 0).listenersOf 0 = [l] ∧ l.id = 0) ∧
      (shown.scene.bucket 1).listenersOf 0 = []) ∧
    (left.scene.bucket 0).isVisualized = false ∧ (left.scene.bucket 0).listenersOf 0 = [] := by
  intro opened shown left
  let alone : World → Operation → Prop := fun w op => LeavesAlone w op ∧ SparesMarks w op
  have hshown : Reachable alone Scene.empty shown := by
    refine (reachable_marking _).run ⟨trivial, ⟨⟨trivial, trivial⟩, trivial⟩, trivial,
      ⟨⟨trivial, trivial⟩, trivial⟩, trivial, ⟨⟨trivial, trivial⟩, trivial⟩, trivial,
      ⟨⟨trivial, trivial⟩, trivial⟩, ?_, ⟨⟨trivial, trivial⟩, trivial⟩, ?_,
      ⟨⟨trivial, trivial⟩, trivial⟩, trivial, ⟨⟨trivial, trivial⟩, trivial⟩, trivial⟩
    · change 0 < Array.size _
      decide +kernel
    · intro ref href
      rw [List.mem_singleton.mp href]
      decide +kernel
  have hsizes : shown.scene.buckets.size = 2 ∧ left.scene.buckets.size = 2 := by decide +kernel
  have hcollected : Reachable alone Scene.empty (shown.step (.occurrence (.deed 0 .collect))) :=
    hshown.step (hsizes.1.symm ▸ Nat.zero_lt_two : 0 < shown.scene.buckets.size)
      ⟨⟨trivial, trivial⟩, trivial⟩
  have hleft : Reachable alone Scene.empty left :=
    hcollected.step trivial ⟨⟨trivial, trivial⟩, trivial⟩
  have hlisteners : ∀ ref, ∀ l ∈ (Scene.empty.bucket ref).listeners,
      l.mailbox < Scene.empty.mailboxes.size := fun ref l hl => by cases hl
  have hunmarked : ∀ ref, (Scene.empty.bucket ref).isVisualized = false := fun _ => rfl
  have hids : (∀ i < 2, ∀ j < 2, (shown.scene.bucket i).id = (shown.scene.bucket j).id → i = j) ∧
      ∀ i < 2, ∀ j < 2, (left.scene.bucket i).id = (left.scene.bucket j).id → i = j := by
    decide +kernel
  have hbefore := leaves_footprint_onlyOnHeld hlisteners (hshown.mono fun _ _ hop => hop.1)
    fun i j hi hj => hids.1 i (hsizes.1 ▸ hi) j (hsizes.1 ▸ hj)
  have hafter := leaves_footprint_onlyOnHeld hlisteners (hleft.mono fun _ _ hop => hop.1)
    fun i j hi hj => hids.2 i (hsizes.2 ▸ hi) j (hsizes.2 ▸ hj)
  have hmailboxes : shown.residency.mailbox = 0 ∧ left.residency.mailbox = 0 := by decide +kernel
  have hmarked := hbefore.2.1 (by decide +kernel) hunmarked hshown 0 (by decide +kernel)
  have hkept := hafter.2.1 (by decide +kernel) hunmarked hleft 0 (by decide +kernel)
  have hcommitted : (shown.scene.bucket 0).id ∈ shown.residency.committed := by decide +kernel
  have hreleased : (left.scene.bucket 0).id ∉ left.residency.committed := by decide +kernel
  have hlistening := (hbefore.1 0 (by decide +kernel)).active ⟨7, 0, 0, 0⟩ (by decide +kernel)
    (by decide +kernel)
  have hignored := (hbefore.1 1 (by decide +kernel)).inactive (by decide +kernel)
  have hforgotten := (hafter.1 0 (by decide +kernel)).collected (by decide +kernel)
  rw [hmailboxes.1] at hlistening hignored
  rw [hmailboxes.2] at hforgotten
  exact ⟨⟨hmarked.mpr hcommitted, hlistening, hignored⟩,
    eq_false_of_ne_true (mt hkept.mp hreleased), hforgotten⟩

end Footprint

end VoxelCache
