import VoxelCache.Scene

/-!
# Deeds

Loaders, annotators, collectors and other subscribers act on buckets at any time.
A **deed** is one thing that is done to one bucket; while a bucket is relabeled,
further deeds may be done to it.  An **occurrence** is a deed, the creation of
a bucket, or something that happens to mailboxes and textures.

**Results.**
* `Deed.perform_identity`: no deed changes who a bucket is.
* `Deed.perform_heeds`: a sparing deed keeps the watchers of a bucket subscribed, and they
  are told when the bucket is collected, and only then.
* `Deed.perform_develops`: a considerate deed keeps a bucket sound, and it posts a notice
  whenever it changes a payload.
* `Scene.extends_occur`: whatever happens, the buckets of a scene stay who they are.
-/

namespace VoxelCache

section Deeds

/-- Something that is done to a bucket. -/
inductive Deed where
  | pull
  | receive (payload : Payload)
  /-- The payload is changed; meanwhile other things are done to the bucket. -/
  | label (edits : List Edit) (meanwhile : List Deed)
  | collect
  | subscribe (interest : Interest) (mailbox : MailboxRef)
  | unsubscribe (id : SubscriptionId)
  | visualize (shown : Bool)

namespace Deed

mutual

/-- Do one thing to a bucket. -/
def perform : Deed → Bucket → Bucket × List Post
  | .pull, b => (b.pull.2, [])
  | .receive payload, b => b.receive payload
  | .label edits meanwhile, b => (b.label edits (performAll meanwhile)).2
  | .collect, b => b.collect
  | .subscribe interest mailbox, b => ((b.subscribe interest mailbox).2, [])
  | .unsubscribe id, b => (b.unsubscribe id, [])
  | .visualize shown, b => (b.visualize shown, [])

/-- Do several things to a bucket, in order. -/
def performAll : List Deed → Bucket → Bucket × List Post
  | [], b => (b, [])
  | d :: rest, b =>
      let first := d.perform b
      let later := performAll rest first.1
      (later.1, first.2 ++ later.2)

end

mutual

/--
Whether a deed respects the rules of a layer of voxels of `bytes` bytes and the
owner of a mailbox: a payload has the right size and comes only once, and nobody
cancels a subscription that posts to the mailbox.
-/
def IsConsiderate (bytes : Nat) (mailbox : MailboxRef) : Deed → Bucket → Prop
  | .receive payload, b =>
      payload.size = bucketVoxels * bytes ∧ (b.isCollected = true ∨ b.payload = none)
  | .label _ meanwhile, b => b.payload ≠ none → AllConsiderate bytes mailbox meanwhile b
  | .unsubscribe id, b => ∀ l ∈ b.listeners, l.id = id → l.mailbox ≠ mailbox
  | .pull, _ => True
  | .collect, _ => True
  | .subscribe _ _, _ => True
  | .visualize _, _ => True

/-- Whether deeds that are done in order respect the rules. -/
def AllConsiderate (bytes : Nat) (mailbox : MailboxRef) : List Deed → Bucket → Prop
  | [], _ => True
  | d :: rest, b =>
      IsConsiderate bytes mailbox d b ∧ AllConsiderate bytes mailbox rest (d.perform b).1

end

mutual

/--
Whether a deed spares the owner of a mailbox: nobody cancels a subscription that
posts to the mailbox.
-/
def Spares (mailbox : MailboxRef) : Deed → Bucket → Prop
  | .label _ meanwhile, b => b.payload ≠ none → AllSpare mailbox meanwhile b
  | .unsubscribe id, b => ∀ l ∈ b.listeners, l.id = id → l.mailbox ≠ mailbox
  | .pull, _ => True
  | .receive _, _ => True
  | .collect, _ => True
  | .subscribe _ _, _ => True
  | .visualize _, _ => True

/-- Whether deeds that are done in order spare the owner of a mailbox. -/
def AllSpare (mailbox : MailboxRef) : List Deed → Bucket → Prop
  | [], _ => True
  | d :: rest, b => Spares mailbox d b ∧ AllSpare mailbox rest (d.perform b).1

end

section Identity

/-- Whether a bucket is the same one as before. -/
structure SameBucket (b b' : Bucket) : Prop where
  id : b'.id = b.id
  address : b'.address = b.address
  coarser : b'.coarser = b.coarser
  /-- No number of a subscription is given twice. -/
  subscriptions : b.nextSubscription ≤ b'.nextSubscription

theorem SameBucket.refl (b : Bucket) : SameBucket b b :=
  ⟨rfl, rfl, rfl, Nat.le_refl _⟩

theorem SameBucket.trans
    {b b' b'' : Bucket}
    (h : SameBucket b b')
    (h' : SameBucket b' b'') :
    SameBucket b b'' :=
  ⟨h'.id.trans h.id, h'.address.trans h.address, h'.coarser.trans h.coarser,
    Nat.le_trans h.subscriptions h'.subscriptions⟩

theorem sameBucket_label
    {during : Bucket → Bucket × List Post} {b : Bucket}
    (edits : List Edit)
    (h : SameBucket b (during b).1) :
    SameBucket b (b.label edits during).2.1 := by
  unfold Bucket.label
  split
  · exact .refl b
  · dsimp only
    split
    · exact h
    · exact ⟨h.id, h.address, h.coarser, h.subscriptions⟩

mutual

/-- No deed changes who a bucket is. -/
theorem perform_identity : ∀ (d : Deed) (b : Bucket), SameBucket b (d.perform b).1
  | .pull, b => by
      simp only [perform, Bucket.pull]
      split <;> exact ⟨rfl, rfl, rfl, Nat.le_refl _⟩
  | .receive payload, b => by
      simp only [perform, Bucket.receive]
      split
      · exact .refl b
      · exact ⟨rfl, rfl, rfl, Nat.le_refl _⟩
  | .label edits meanwhile, b => by
      rw [perform]
      exact sameBucket_label edits (performAll_identity meanwhile b)
  | .collect, b => by
      simp only [perform, Bucket.collect]
      split
      · exact .refl b
      · exact ⟨rfl, rfl, rfl, Nat.le_refl _⟩
  | .subscribe interest mailbox, b => by
      simp only [perform, Bucket.subscribe]
      split <;> exact ⟨rfl, rfl, rfl, Nat.le_succ _⟩
  | .unsubscribe _, _ => by
      rw [perform]
      exact ⟨rfl, rfl, rfl, Nat.le_refl _⟩
  | .visualize _, _ => by
      rw [perform]
      exact ⟨rfl, rfl, rfl, Nat.le_refl _⟩

theorem performAll_identity :
    ∀ (ds : List Deed) (b : Bucket), SameBucket b (performAll ds b).1
  | [], b => by
      rw [performAll]
      exact .refl b
  | d :: rest, b => by
      rw [performAll]
      exact (perform_identity d b).trans (performAll_identity rest (d.perform b).1)

end

end Identity

section Watching

/-- Whether the owner of a mailbox hears about everything that happens to a bucket. -/
def IsWatched (mailbox : MailboxRef) (id : SubscriptionId) (b : Bucket) : Prop :=
  b.isCollected = false →
    ∃ l ∈ b.listeners, l.id = id ∧ l.mailbox = mailbox ∧ l.interest.labeled = true ∧
      l.interest.collected = true ∧ (b.payload = none → l.interest.loaded = true)

/-- What a deed that spares the owner of a mailbox makes of a bucket. -/
structure Heeds (mailbox : MailboxRef) (b b' : Bucket) (posts : List Post) : Prop where
  lasting : b.isCollected = true → b'.isCollected = true
  watched : ∀ id, IsWatched mailbox id b → IsWatched mailbox id b'
  /-- The bucket is not collected in silence. -/
  warned : ∀ id, IsWatched mailbox id b → b.isCollected = false → b'.isCollected = true →
    ⟨mailbox, ⟨b.id, .collected⟩⟩ ∈ posts
  /-- Nobody is told that another bucket is collected, or one that is not. -/
  truthful : ∀ post ∈ posts, post.notice.event = .collected →
    post.notice.bucket = b.id ∧ b'.isCollected = true

section Sparing

variable {mailbox : MailboxRef} {b b' b'' : Bucket} {posts later : List Post}

theorem Heeds.trans
    (h : Heeds mailbox b b' posts)
    (h' : Heeds mailbox b' b'' later)
    (hid : b'.id = b.id) :
    Heeds mailbox b b'' (posts ++ later) where
  lasting hcollected := h'.lasting (h.lasting hcollected)
  watched id hwatched := h'.watched id (h.watched id hwatched)
  warned id hwatched hopen hcollected := by
    cases hmid : b'.isCollected with
    | true => exact List.mem_append_left _ (h.warned id hwatched hopen hmid)
    | false =>
        have hwarned := h'.warned id (h.watched id hwatched) hmid hcollected
        rw [hid] at hwarned
        exact List.mem_append_right _ hwarned
  truthful post hpost hevent := by
    rcases List.mem_append.mp hpost with hpost | hpost
    · obtain ⟨hbucket, hcollected⟩ := h.truthful post hpost hevent
      exact ⟨hbucket, h'.lasting hcollected⟩
    · obtain ⟨hbucket, hcollected⟩ := h'.truthful post hpost hevent
      exact ⟨hbucket.trans hid, hcollected⟩

/-- A deed that cancels no subscription of the owner leaves an open bucket watched. -/
theorem heeds_of_same
    (hcollected : b'.isCollected = b.isCollected)
    (hpayload : b'.payload = none → b.payload = none)
    (hlisteners : ∀ l ∈ b.listeners, l.mailbox = mailbox → l ∈ b'.listeners) :
    Heeds mailbox b b' [] where
  lasting h := hcollected.trans h
  watched id hwatched hopen := by
    rw [hcollected] at hopen
    obtain ⟨l, hl, hid, hmailbox, hlabeled, hcollect, hloaded⟩ := hwatched hopen
    exact ⟨l, hlisteners l hl hmailbox, hid, hmailbox, hlabeled, hcollect,
      fun h => hloaded (hpayload h)⟩
  warned _ _ hopen hclosed := by
    rw [hcollected, hopen] at hclosed
    cases hclosed
  truthful _ hpost := by cases hpost

theorem Heeds.refl (mailbox : MailboxRef) (b : Bucket) : Heeds mailbox b b [] :=
  heeds_of_same rfl id fun _ h _ => h

theorem heeds_receive (payload : Payload) :
    Heeds mailbox b (b.receive payload).1 (b.receive payload).2 := by
  cases hopen : b.isCollected with
  | true =>
      rw [Bucket.receive_of_isCollected hopen]
      exact .refl mailbox b
  | false =>
      have hreceive : b.receive payload =
          Bucket.announce { b with state := .loaded, payload := some payload } .loaded := by
        simp [Bucket.receive, hopen]
      have hstill : (b.receive payload).1.isCollected = false :=
        (Bucket.isCollected_receive b payload).trans hopen
      constructor
      · intro hcollected
        rw [hopen] at hcollected
        cases hcollected
      · -- the interest in arrival is spent, those in labeling and collection keep the subscription
        intro id hwatched _
        obtain ⟨l, hl, hid, hmailbox, hlabeled, hcollect, _⟩ := hwatched hopen
        rw [hreceive]
        refine ⟨{ l with interest := l.interest.spend .loaded }, ?_, hid, hmailbox, hlabeled,
          hcollect, ?_⟩
        · refine List.mem_filter.mpr ⟨List.mem_map_of_mem hl, ?_⟩
          simp [Interest.isEmpty, Interest.spend, hlabeled]
        · intro hpayload
          cases hpayload
      · intro _ _ _ hcollected
        rw [hstill] at hcollected
        cases hcollected
      · intro post hpost hevent
        rw [hreceive] at hpost
        obtain ⟨l, _, _, rfl⟩ := Bucket.mem_posts.mp hpost
        cases hevent

theorem heeds_collect :
    Heeds mailbox b b.collect.1 b.collect.2 := by
  cases hopen : b.isCollected with
  | true =>
      rw [Bucket.collect_of_isCollected hopen]
      exact .refl mailbox b
  | false =>
      have hcollected := Bucket.isCollected_collect b
      have hposts : b.collect.2 = b.posts .collected := by
        simp [Bucket.collect, hopen, Bucket.announce, Bucket.posts]
      constructor
      · intro _
        exact hcollected
      · intro _ _ hstill
        rw [hcollected] at hstill
        cases hstill
      · intro id hwatched _ _
        obtain ⟨l, hl, _, rfl, _, hcollect, _⟩ := hwatched hopen
        rw [hposts]
        exact Bucket.mem_posts.mpr ⟨l, hl, hcollect, rfl⟩
      · intro post hpost _
        rw [hposts] at hpost
        obtain ⟨l, _, _, rfl⟩ := Bucket.mem_posts.mp hpost
        exact ⟨rfl, hcollected⟩

/-- A bucket is relabeled after the deeds done meanwhile, unless they left it without payload. -/
theorem label_cases
    {payload : Payload}
    (edits : List Edit) (during : Bucket → Bucket × List Post)
    (hpayload : b.payload = some payload) :
    b.label edits during = (false, (during b).1, (during b).2) ∨
    ((during b).1.isCollected = false ∧
      b.label edits during =
        (true, { (during b).1 with payload := some (Edit.applyAll edits payload) },
          (during b).2 ++ (during b).1.posts .labeled)) := by
  by_cases hlost : ((during b).1.isCollected || !(during b).1.hasPayload) = true
  · exact .inl (by simp only [Bucket.label, hpayload, hlost, if_true])
  · have hopen : (during b).1.isCollected = false := by
      simp only [Bool.or_eq_true, not_or, Bool.not_eq_true] at hlost
      exact hlost.1
    refine .inr ⟨hopen, ?_⟩
    simp only [Bucket.label, hpayload, hlost]
    rfl

theorem label_of_payload_eq_none
    (edits : List Edit) (during : Bucket → Bucket × List Post)
    (hpayload : b.payload = none) :
    b.label edits during = (false, b, []) := by
  simp [Bucket.label, hpayload]

theorem heeds_label
    {during : Bucket → Bucket × List Post}
    (edits : List Edit)
    (hduring : b.payload ≠ none → Heeds mailbox b (during b).1 (during b).2)
    (hid : (during b).1.id = b.id) :
    Heeds mailbox b (b.label edits during).2.1 (b.label edits during).2.2 := by
  cases hpayload : b.payload with
  | none =>
      rw [label_of_payload_eq_none edits during hpayload]
      exact .refl mailbox b
  | some payload =>
      have hacted := hduring (by rw [hpayload]; simp)
      rcases label_cases edits during hpayload with hlabel | ⟨hopen, hlabel⟩
      · rw [hlabel]
        exact hacted
      · have hrelabeled : Heeds mailbox (during b).1
            { (during b).1 with payload := some (Edit.applyAll edits payload) } [] :=
          heeds_of_same rfl (fun h => by cases h) fun _ h _ => h
        rw [hlabel]
        refine hacted.trans ⟨hrelabeled.lasting, hrelabeled.watched, ?_, ?_⟩ hid
        · intro _ _ _ hcollected
          rw [hopen] at hcollected
          cases hcollected
        · intro post hpost hevent
          obtain ⟨l, _, _, rfl⟩ := Bucket.mem_posts.mp hpost
          cases hevent

theorem heeds_subscribe
    (interest : Interest) (target : MailboxRef) :
    Heeds mailbox b (b.subscribe interest target).2 [] := by
  simp only [Bucket.subscribe]
  split
  · exact heeds_of_same rfl id fun _ h _ => h
  · exact heeds_of_same rfl id fun _ h _ => List.mem_append_left _ h

theorem heeds_unsubscribe
    {id : SubscriptionId}
    (hother : ∀ l ∈ b.listeners, l.id = id → l.mailbox ≠ mailbox) :
    Heeds mailbox b (b.unsubscribe id) [] := by
  refine heeds_of_same rfl (fun h => h) ?_
  intro l hl hmailbox
  refine List.mem_filter.mpr ⟨hl, ?_⟩
  simpa using fun hid => hother l hl hid hmailbox

mutual

/-- A sparing deed leaves the watchers subscribed and warns them of a collection. -/
theorem perform_heeds :
    ∀ (d : Deed) {b : Bucket},
      Spares mailbox d b →
      Heeds mailbox b (d.perform b).1 (d.perform b).2
  | .pull, b, _ => by
      simp only [perform, Bucket.pull]
      split
      · exact heeds_of_same rfl id fun _ h _ => h
      · exact .refl mailbox b
  | .receive payload, b, _ => by
      rw [perform]
      exact heeds_receive payload
  | .label edits meanwhile, b, h => by
      rw [Spares] at h
      rw [perform]
      exact heeds_label edits (fun hsome => performAll_heeds meanwhile (h hsome))
        (performAll_identity meanwhile b).id
  | .collect, b, _ => by
      rw [perform]
      exact heeds_collect
  | .subscribe interest target, b, _ => by
      rw [perform]
      exact heeds_subscribe interest target
  | .unsubscribe id, b, h => by
      rw [Spares] at h
      rw [perform]
      exact heeds_unsubscribe h
  | .visualize shown, b, _ => by
      rw [perform]
      exact heeds_of_same rfl id fun _ h _ => h

theorem performAll_heeds :
    ∀ (ds : List Deed) {b : Bucket},
      AllSpare mailbox ds b →
      Heeds mailbox b (performAll ds b).1 (performAll ds b).2
  | [], b, _ => by
      rw [performAll]
      exact .refl mailbox b
  | d :: rest, b, h => by
      rw [AllSpare] at h
      rw [performAll]
      exact (perform_heeds d h.1).trans (performAll_heeds rest h.2) (perform_identity d b).id

end

mutual

/-- Considerate deeds are sparing. -/
theorem spares_of_isConsiderate {bytes : Nat} :
    ∀ (d : Deed) {b : Bucket},
      IsConsiderate bytes mailbox d b →
      Spares mailbox d b
  | .pull, _, _ => by rw [Spares]; trivial
  | .receive _, _, _ => by rw [Spares]; trivial
  | .label _ meanwhile, _, h => by
      rw [IsConsiderate] at h
      rw [Spares]
      exact fun hsome => allSpare_of_allConsiderate meanwhile (h hsome)
  | .collect, _, _ => by rw [Spares]; trivial
  | .subscribe _ _, _, _ => by rw [Spares]; trivial
  | .unsubscribe _, _, h => by
      rw [IsConsiderate] at h
      rw [Spares]
      exact h
  | .visualize _, _, _ => by rw [Spares]; trivial

theorem allSpare_of_allConsiderate {bytes : Nat} :
    ∀ (ds : List Deed) {b : Bucket},
      AllConsiderate bytes mailbox ds b →
      AllSpare mailbox ds b
  | [], _, _ => by rw [AllSpare]; trivial
  | d :: rest, _, h => by
      rw [AllConsiderate] at h
      rw [AllSpare]
      exact ⟨spares_of_isConsiderate d h.1, allSpare_of_allConsiderate rest h.2⟩

end

end Sparing

section Telling

/-- A bucket whose payload has the right size and is gone once it is collected. -/
structure IsSound (bytes : Nat) (b : Bucket) : Prop where
  size : ∀ payload, b.payload = some payload → payload.size = bucketVoxels * bytes
  collected : b.isCollected = true → b.payload = none

/-- Whether some notices tell about the payload of a bucket. -/
def Tells (mailbox : MailboxRef) (id : BucketId) (posts : List Post) : Prop :=
  ∃ post ∈ posts, post.mailbox = mailbox ∧ post.notice.bucket = id ∧
    (post.notice.event = .loaded ∨ post.notice.event = .labeled)

/-- What a considerate deed makes of a bucket that the owner of a mailbox watches. -/
structure Develops
    (bytes : Nat) (mailbox : MailboxRef) (b b' : Bucket) (posts : List Post) : Prop where
  sound : IsSound bytes b'
  /-- A new payload does not arrive or change in silence. -/
  told : ∀ id, IsWatched mailbox id b → b'.payload ≠ b.payload → b'.payload ≠ none →
    Tells mailbox b.id posts

variable {bytes : Nat} {mailbox : MailboxRef} {b b' b'' : Bucket} {posts later : List Post}

theorem Develops.trans
    (h : Develops bytes mailbox b b' posts)
    (h' : Develops bytes mailbox b' b'' later)
    (hheeds : Heeds mailbox b b' posts)
    (hid : b'.id = b.id) :
    Develops bytes mailbox b b'' (posts ++ later) where
  sound := h'.sound
  told id hwatched hchanged hsome := by
    by_cases hlate : b''.payload = b'.payload
    · obtain ⟨post, hpost, hrest⟩ :=
        h.told id hwatched (by rwa [← hlate]) (by rwa [← hlate])
      exact ⟨post, List.mem_append_left _ hpost, hrest⟩
    · obtain ⟨post, hpost, hmailbox, hbucket, hevent⟩ :=
        h'.told id (hheeds.watched id hwatched) hlate hsome
      exact ⟨post, List.mem_append_right _ hpost, hmailbox, hbucket.trans hid, hevent⟩

/-- A deed that does not touch the payload needs no notice. -/
theorem develops_of_same
    (hb : IsSound bytes b)
    (hpayload : b'.payload = b.payload)
    (hcollected : b'.isCollected = b.isCollected) :
    Develops bytes mailbox b b' posts where
  sound :=
    ⟨fun payload h => hb.size payload (hpayload ▸ h),
      fun h => hpayload.trans (hb.collected (hcollected ▸ h))⟩
  told _ _ hchanged _ := absurd hpayload hchanged

theorem Develops.refl (hb : IsSound bytes b) : Develops bytes mailbox b b [] :=
  develops_of_same hb rfl rfl

theorem develops_receive
    {payload : Payload}
    (hb : IsSound bytes b)
    (hsize : payload.size = bucketVoxels * bytes)
    (honce : b.isCollected = true ∨ b.payload = none) :
    Develops bytes mailbox b (b.receive payload).1 (b.receive payload).2 := by
  by_cases hopen : b.isCollected = true
  · rw [Bucket.receive_of_isCollected hopen]
    exact .refl hb
  · have hnone : b.payload = none := honce.resolve_left hopen
    have hreceive : b.receive payload =
        Bucket.announce { b with state := .loaded, payload := some payload } .loaded := by
      simp [Bucket.receive, hopen]
    rw [hreceive]
    refine ⟨⟨?_, ?_⟩, ?_⟩
    · intro other hother
      cases hother
      exact hsize
    · intro hcollected
      exact absurd hcollected hopen
    · intro id hwatched _ _
      obtain ⟨l, hl, _, hmailbox, _, _, hloaded⟩ := hwatched (Bool.eq_false_iff.mpr hopen)
      refine ⟨⟨l.mailbox, ⟨b.id, .loaded⟩⟩, Bucket.mem_posts.mpr ⟨l, hl, ?_, rfl⟩, hmailbox,
        rfl, .inl rfl⟩
      exact hloaded hnone

theorem develops_collect (hb : IsSound bytes b) :
    Develops bytes mailbox b b.collect.1 b.collect.2 := by
  by_cases hopen : b.isCollected = true
  · rw [Bucket.collect_of_isCollected hopen]
    exact .refl hb
  · have hnone := Bucket.payload_collect (Bool.eq_false_iff.mpr hopen)
    refine ⟨⟨?_, fun _ => hnone⟩, ?_⟩
    · intro payload h
      rw [hnone] at h
      cases h
    · intro _ _ _ hsome
      exact absurd hnone hsome

/-- Labeling tells the watchers, unless the bucket is collected meanwhile. -/
theorem develops_label
    {during : Bucket → Bucket × List Post}
    (edits : List Edit)
    (hb : IsSound bytes b)
    (hduring : b.payload ≠ none → Develops bytes mailbox b (during b).1 (during b).2)
    (hheeds : b.payload ≠ none → Heeds mailbox b (during b).1 (during b).2)
    (hid : (during b).1.id = b.id) :
    Develops bytes mailbox b (b.label edits during).2.1 (b.label edits during).2.2 := by
  cases hpayload : b.payload with
  | none =>
      rw [label_of_payload_eq_none edits during hpayload]
      exact .refl hb
  | some payload =>
      have hsome : b.payload ≠ none := by simp [hpayload]
      rcases label_cases edits during hpayload with hlabel | ⟨hopen, hlabel⟩
      · rw [hlabel]
        exact hduring hsome
      · rw [hlabel]
        refine (hduring hsome).trans ⟨⟨?_, ?_⟩, ?_⟩ (hheeds hsome) hid
        · intro other hother
          cases hother
          rw [Edit.size_applyAll]
          exact hb.size payload hpayload
        · intro hcollected
          exact absurd hcollected (by simp [hopen])
        · intro id hwatched _ _
          obtain ⟨l, hl, _, hmailbox, hlabeled, _⟩ := hwatched hopen
          exact ⟨⟨l.mailbox, ⟨(during b).1.id, .labeled⟩⟩,
            Bucket.mem_posts.mpr ⟨l, hl, hlabeled, rfl⟩, hmailbox, rfl, .inr rfl⟩

mutual

/-- A considerate deed keeps a bucket sound and its watchers informed. -/
theorem perform_develops :
    ∀ (d : Deed) {b : Bucket},
      IsSound bytes b →
      IsConsiderate bytes mailbox d b →
      Develops bytes mailbox b (d.perform b).1 (d.perform b).2
  | .pull, b, hb, _ => by
      simp only [perform, Bucket.pull]
      split
      · exact develops_of_same hb rfl rfl
      · exact .refl hb
  | .receive payload, b, hb, h => by
      rw [IsConsiderate] at h
      rw [perform]
      exact develops_receive hb h.1 h.2
  | .label edits meanwhile, b, hb, h => by
      rw [IsConsiderate] at h
      rw [perform]
      exact develops_label edits hb
        (fun hsome => performAll_develops meanwhile hb (h hsome))
        (fun hsome => performAll_heeds meanwhile (allSpare_of_allConsiderate meanwhile (h hsome)))
        (performAll_identity meanwhile b).id
  | .collect, b, hb, _ => by
      rw [perform]
      exact develops_collect hb
  | .subscribe interest target, b, hb, _ => by
      simp only [perform, Bucket.subscribe]
      split <;> exact develops_of_same hb rfl rfl
  | .unsubscribe _, b, hb, _ => by
      rw [perform]
      exact develops_of_same hb rfl rfl
  | .visualize shown, b, hb, _ => by
      rw [perform]
      exact develops_of_same hb rfl rfl

theorem performAll_develops :
    ∀ (ds : List Deed) {b : Bucket},
      IsSound bytes b →
      AllConsiderate bytes mailbox ds b →
      Develops bytes mailbox b (performAll ds b).1 (performAll ds b).2
  | [], b, hb, _ => by
      rw [performAll]
      exact .refl hb
  | d :: rest, b, hb, h => by
      rw [AllConsiderate] at h
      rw [performAll]
      have hfirst := perform_develops d hb h.1
      have hheeds := perform_heeds d (spares_of_isConsiderate d h.1)
      exact hfirst.trans (performAll_develops rest hfirst.sound h.2) hheeds
        (perform_identity d b).id

end

end Telling

end Watching

end Deed

section Occurrences

/-- Something that happens to a scene without the residency having a part in it. -/
inductive Occurrence where
  | deed (ref : BucketRef) (deed : Deed)
  | create (id : BucketId) (address : Address) (coarser : Option BucketRef)
  | openMailbox
  | drain (mailbox : MailboxRef)
  | closeMailbox (mailbox : MailboxRef)
  | addSwitch (isOn : Bool)
  /-- Rasters become ready or cease to be. -/
  | setSwitch (switch : Nat) (isOn : Bool)
  | addTape
  /-- Later writes and creations of taped textures will fail. -/
  | setFuses (tape : Nat) (updateFuse createFuse : Fuse)

namespace Scene

/-- Do something to a bucket of the scene. -/
def deed (s : Scene) (ref : BucketRef) : Deed → Scene
  | .pull => (s.pull ref).2
  | .receive payload => s.receive ref payload
  | .label edits meanwhile => (s.label ref edits (Deed.performAll meanwhile)).2
  | .collect => s.collect ref
  | .subscribe interest mailbox => (s.subscribe ref interest mailbox).2
  | .unsubscribe id => s.unsubscribe ref id
  | .visualize shown => s.visualize ref shown

/-- What the scene is after something happened to it. -/
def occur (s : Scene) : Occurrence → Scene
  | .deed ref deed => s.deed ref deed
  | .create id address coarser => (s.addBucket (.create id address coarser)).2
  | .openMailbox => s.openMailbox.2
  | .drain mailbox => (s.drain mailbox).2
  | .closeMailbox mailbox => s.closeMailbox mailbox
  | .addSwitch isOn => { s with device := (s.device.addSwitch isOn).2 }
  | .setSwitch switch isOn => { s with device := s.device.setSwitch switch isOn }
  | .addTape => { s with device := s.device.addTape.2 }
  | .setFuses tape updateFuse createFuse =>
      let contents := { s.device.tape tape with updateFuse := updateFuse, createFuse := createFuse }
      { s with device := s.device.setTape tape contents }

/-- A deed is an action on one bucket, apart from what the journal says about it. -/
theorem deed_eq_act
    (s : Scene) (ref : BucketRef) (d : Deed) :
    ∃ journal, s.deed ref d = { s.act ref d.perform with journal := journal } := by
  cases d with
  | receive payload =>
      by_cases hcollected : (s.bucket ref).isCollected = true
      · refine ⟨(s.deed ref (.receive payload)).journal, ?_⟩
        have hact : s.act ref (Deed.receive payload).perform = s := by
          simp [act, Deed.perform, Bucket.receive_of_isCollected hcollected, setBucket_self]
        rw [hact]
        simp [deed, receive, hcollected, log]
      · refine ⟨(s.act ref (Bucket.receive payload)).journal, ?_⟩
        have hsame : (Deed.receive payload).perform = Bucket.receive payload := by
          funext b
          rw [Deed.perform]
        simp only [deed, receive, hcollected, hsame]
        rfl
  | label edits meanwhile =>
      refine ⟨(s.act ref (Deed.label edits meanwhile).perform).journal, ?_⟩
      simp [deed, label, act, Deed.perform]
  | collect =>
      refine ⟨(s.act ref Deed.collect.perform).journal, ?_⟩
      simp [deed, collect, act, Deed.perform]
  | pull => exact ⟨s.journal, by simp [deed, pull, act, Deed.perform, setBucket]⟩
  | subscribe interest mailbox =>
      exact ⟨s.journal, by simp [deed, subscribe, act, Deed.perform, setBucket]⟩
  | unsubscribe id => exact ⟨s.journal, by simp [deed, unsubscribe, act, Deed.perform, setBucket]⟩
  | visualize shown => exact ⟨s.journal, by simp [deed, visualize, act, Deed.perform, setBucket]⟩

theorem bucket_deed_self
    {s : Scene} {ref : BucketRef}
    (d : Deed)
    (h : ref < s.buckets.size) :
    (s.deed ref d).bucket ref = (d.perform (s.bucket ref)).1 := by
  obtain ⟨journal, hact⟩ := deed_eq_act s ref d
  rw [hact]
  exact bucket_act_self h

/-- A deed that is done to one bucket leaves all others alone. -/
theorem bucket_deed_of_ne
    {s : Scene} {ref other : BucketRef}
    (d : Deed)
    (h : other ≠ ref) :
    (s.deed ref d).bucket other = s.bucket other := by
  obtain ⟨journal, hact⟩ := deed_eq_act s ref d
  rw [hact]
  exact bucket_act_of_ne h

theorem size_deed
    (s : Scene) (ref : BucketRef) (d : Deed) :
    (s.deed ref d).buckets.size = s.buckets.size := by
  obtain ⟨journal, hact⟩ := deed_eq_act s ref d
  rw [hact]
  simp [act, buckets_deliverAll]

theorem device_deed
    (s : Scene) (ref : BucketRef) (d : Deed) :
    (s.deed ref d).device = s.device := by
  obtain ⟨journal, hact⟩ := deed_eq_act s ref d
  rw [hact]
  exact device_act s ref _

/-- An open mailbox takes in what a deed posts to it. -/
theorem mailbox_deed
    {s : Scene} {mailbox : MailboxRef}
    (ref : BucketRef) (d : Deed)
    (h : (s.mailbox mailbox).isOpen = true) :
    (s.deed ref d).mailbox mailbox =
      { s.mailbox mailbox with
        notices := (s.mailbox mailbox).notices ++
          ((d.perform (s.bucket ref)).2.filter fun post =>
            post.mailbox = mailbox).map (·.notice) } := by
  obtain ⟨journal, hact⟩ := deed_eq_act s ref d
  rw [hact]
  exact mailbox_deliverAll _ _ h

/-- Whether a scene still has all buckets of an earlier one. -/
structure Extends (s s' : Scene) : Prop where
  size : s.buckets.size ≤ s'.buckets.size
  same : ∀ ref, ref < s.buckets.size → Deed.SameBucket (s.bucket ref) (s'.bucket ref)

theorem Extends.refl (s : Scene) : Extends s s :=
  ⟨Nat.le_refl _, fun ref _ => .refl (s.bucket ref)⟩

theorem Extends.trans
    {s s' s'' : Scene}
    (h : Extends s s')
    (h' : Extends s' s'') :
    Extends s s'' where
  size := Nat.le_trans h.size h'.size
  same ref hlt := (h.same ref hlt).trans (h'.same ref (Nat.lt_of_lt_of_le hlt h.size))

theorem extends_of_buckets
    {s s' : Scene}
    (h : s'.buckets = s.buckets) :
    Extends s s' := by
  refine ⟨Nat.le_of_eq (by rw [h]), ?_⟩
  intro ref _
  have hsame : s'.bucket ref = s.bucket ref := by
    unfold bucket
    rw [h]
  rw [hsame]
  exact .refl _

theorem extends_setBucket
    {s : Scene} {ref : BucketRef} {b : Bucket}
    (h : Deed.SameBucket (s.bucket ref) b) :
    Extends s (s.setBucket ref b) := by
  refine ⟨by simp, ?_⟩
  intro other _
  exact bucket_setBucket_induct (motive := fun other b => Deed.SameBucket (s.bucket other) b) h
    (fun other => .refl _) other

theorem extends_act
    {s : Scene} {ref : BucketRef} {action : Bucket → Bucket × List Post}
    (h : Deed.SameBucket (s.bucket ref) (action (s.bucket ref)).1) :
    Extends s (s.act ref action) := by
  refine (extends_setBucket h).trans (extends_of_buckets ?_)
  unfold act
  exact buckets_deliverAll _ _ _

/-- A new bucket takes the next place and leaves the others alone. -/
theorem bucket_addBucket
    (s : Scene) (b : Bucket) (ref : BucketRef) :
    (s.addBucket b).2.bucket ref = if ref = s.buckets.size then b else s.bucket ref := by
  by_cases hnew : ref = s.buckets.size
  · simp [addBucket, bucket, hnew]
  · simp [addBucket, bucket, Array.getElem?_push, hnew]

theorem bucket_addBucket_of_lt
    {s : Scene} {b : Bucket} {ref : BucketRef}
    (h : ref < s.buckets.size) :
    (s.addBucket b).2.bucket ref = s.bucket ref := by
  rw [bucket_addBucket, if_neg (Nat.ne_of_lt h)]

theorem extends_addBucket (s : Scene) (b : Bucket) : Extends s (s.addBucket b).2 := by
  refine ⟨by simp [addBucket], ?_⟩
  intro ref hlt
  rw [bucket_addBucket_of_lt hlt]
  exact .refl _

/-- Whatever happens, the buckets of a scene stay who they are. -/
theorem extends_occur (s : Scene) (o : Occurrence) : Extends s (s.occur o) := by
  cases o with
  | deed ref d =>
      obtain ⟨journal, hact⟩ := deed_eq_act s ref d
      rw [occur, hact]
      exact (extends_act (Deed.perform_identity d _)).trans (extends_of_buckets rfl)
  | create id address coarser => exact extends_addBucket s _
  | openMailbox => exact extends_of_buckets rfl
  | drain mailbox => exact extends_of_buckets rfl
  | closeMailbox mailbox => exact extends_of_buckets rfl
  | addSwitch isOn => exact extends_of_buckets rfl
  | setSwitch switch isOn => exact extends_of_buckets rfl
  | addTape => exact extends_of_buckets rfl
  | setFuses tape updateFuse createFuse => exact extends_of_buckets rfl

end Scene

end Occurrences

end Deeds

end VoxelCache
