import Mathlib.Data.List.Nodup
import VoxelCache.Proofs.Deeds

/-!
# Letters to subscribers

While deeds are done to a bucket, things happen to it that its subscribers may hear about.
A **record** lists these happenings in order: the events, each with the letters that are
written about it, and the subscriptions that begin and are cancelled.  What a deed does while
the bucket is relabeled stands in the record before the relabeling itself, as it happens.

**Invariants.**
* `Passes`: a record leads from one roster of listeners to another.
* `Roster.IsOrderly`: listeners have different numbers that have been given out, each of them
  still waits for something, and a collected bucket has none.

**Results.**
* `Deed.performAll_accounts`: the record of deeds accounts for their posts and for the listeners
  they leave.
* `Passes.lettersTo_eq`: who listens is written to about what it is interested in until it
  cancels its subscription, and about the first payload only.
* `Passes.forall_ne_of_isOver`: whose subscription is over does not listen any more.
* `deliversLetters_performAll`: the law of delivery, for all deeds that are done to a new bucket.
-/

namespace VoxelCache

section Records

/-- A post with the subscription it is sent for. -/
structure Letter where
  subscription : SubscriptionId
  post : Post
deriving DecidableEq

/-- What subscribers may notice of a bucket. -/
inductive Happening where
  /-- Something happened to the bucket, and letters about it were sent. -/
  | event (event : Event) (letters : List Letter)
  | subscribed (l : Listener)
  | cancelled (id : SubscriptionId)
deriving DecidableEq

namespace Happening

def event? : Happening → Option Event
  | .event e _ => some e
  | .subscribed _ => none
  | .cancelled _ => none

def number? : Happening → Option SubscriptionId
  | .event _ _ => none
  | .subscribed l => some l.id
  | .cancelled _ => none

def letters : Happening → List Letter
  | .event _ letters => letters
  | .subscribed _ => []
  | .cancelled _ => []

end Happening

/-- The events of a record. -/
def eventsIn (record : List Happening) : List Event :=
  record.filterMap Happening.event?

/-- The numbers that are given out in a record. -/
def numbersIn (record : List Happening) : List SubscriptionId :=
  record.filterMap Happening.number?

/-- The letters of a record. -/
def lettersIn (record : List Happening) : List Letter :=
  record.flatMap Happening.letters

/-- The letters of a record that are sent for a subscription. -/
def lettersTo (id : SubscriptionId) (record : List Happening) : List Letter :=
  (lettersIn record).filter fun letter => letter.subscription = id

/-- The letters about an event, in order of subscription. -/
def Bucket.letters (b : Bucket) (event : Event) : List Letter :=
  (b.listeners.filter fun l => l.interest.wants event).map fun l =>
    ⟨l.id, ⟨l.mailbox, ⟨b.id, event⟩⟩⟩

namespace Deed

mutual

/--
What happens while a deed is done.  A payload that is dropped is no event, and neither is a
labeling that answers that nothing was put in place.
-/
def record : Deed → Bucket → List Happening
  | .pull, _ => []
  | .receive _, b =>
      if b.isCollected then
        []
      else
        [.event .loaded (b.letters .loaded)]
  | .label edits meanwhile, b =>
      if b.hasPayload then
        let labeled : List Happening :=
          if (b.label edits (performAll meanwhile)).1 then
            [.event .labeled ((performAll meanwhile b).1.letters .labeled)]
          else
            []
        recordAll meanwhile b ++ labeled
      else
        []
  | .collect, b =>
      if b.isCollected then
        []
      else
        [.event .collected (b.letters .collected)]
  | .subscribe interest mailbox, b =>
      [.subscribed ⟨(b.subscribe interest mailbox).1, interest, mailbox⟩]
  | .unsubscribe id, _ => [.cancelled id]
  | .visualize _, _ => []

/-- What happens while several deeds are done in order. -/
def recordAll : List Deed → Bucket → List Happening
  | [], _ => []
  | d :: rest, b => d.record b ++ recordAll rest (d.perform b).1

end

end Deed

end Records

section Hearing

/-- Events without the payloads that arrive after the first one. -/
def firstLoad : List Event → List Event
  | [] => []
  | .loaded :: rest => .loaded :: rest.filter (· ≠ .loaded)
  | event :: rest => event :: firstLoad rest

/-- What an interest makes its owner hear of events: what it wants, and one payload at most. -/
def Interest.hears (interest : Interest) (events : List Event) : List Event :=
  firstLoad (events.filter interest.wants)

namespace Listener

/-- What a subscription is to hear of what happens after its beginning. -/
def hears (l : Listener) (later : List Happening) : List Event :=
  l.interest.hears (eventsIn (later.takeWhile (· ≠ .cancelled l.id)))

/-- A letter to a subscriber about an event. -/
def letter (l : Listener) (bucket : BucketId) (event : Event) : Letter :=
  ⟨l.id, ⟨l.mailbox, ⟨bucket, event⟩⟩⟩

/-- Whether a subscription is over: cancelled, used up, or ended with its bucket. -/
def IsOver (l : Listener) (later : List Happening) : Prop :=
  .cancelled l.id ∈ later ∨ .collected ∈ eventsIn later ∨ l.interest.isEmpty = true ∨
    (.loaded ∈ eventsIn later ∧ (l.interest.spend .loaded).isEmpty = true)

end Listener

/-- Without an interest in payloads there is nothing to leave out. -/
theorem firstLoad_of_not_mem :
    ∀ {events : List Event}, .loaded ∉ events → firstLoad events = events
  | [], _ => rfl
  | .loaded :: rest, h => absurd (List.mem_cons_self ..) h
  | .labeled :: rest, h => by
      rw [firstLoad, firstLoad_of_not_mem fun hin => h (List.mem_cons_of_mem _ hin)]
      exact fun h => by cases h
  | .collected :: rest, h => by
      rw [firstLoad, firstLoad_of_not_mem fun hin => h (List.mem_cons_of_mem _ hin)]
      exact fun h => by cases h

namespace Interest

variable {interest : Interest}

/-- After the first payload an interest in payloads is used up. -/
theorem hears_cons_of_wants
    {event : Event} {events : List Event}
    (h : interest.wants event = true) :
    interest.hears (event :: events) = event :: (interest.spend event).hears events := by
  unfold hears
  rw [List.filter_cons_of_pos h]
  cases event with
  | loaded =>
      have hspent : Event.loaded ∉ events.filter (interest.spend .loaded).wants := by
        intro hin
        have hwants := (List.mem_filter.mp hin).2
        simp [wants, spend] at hwants
      rw [firstLoad, firstLoad_of_not_mem hspent, List.filter_filter]
      refine congrArg (Event.loaded :: ·) (List.filter_congr fun event _ => ?_)
      cases event <;> simp [wants, spend]
  | labeled => rfl
  | collected => rfl

theorem hears_cons_of_not_wants
    {event : Event} {events : List Event}
    (h : interest.wants event = false) :
    interest.hears (event :: events) = (interest.spend event).hears events := by
  have hspend : interest.spend event = interest := by
    cases event with
    | loaded =>
        rw [wants] at h
        simp only [spend, ← h]
    | labeled => rfl
    | collected => rfl
  rw [hspend, hears, List.filter_cons_of_neg (by simp [h]), hears]

theorem wants_of_isEmpty
    (h : interest.isEmpty = true)
    (event : Event) :
    interest.wants event = false := by
  simp only [isEmpty, Bool.not_eq_true', Bool.or_eq_false_iff] at h
  cases event with
  | loaded => exact h.1.1
  | labeled => exact h.1.2
  | collected => exact h.2

theorem hears_of_isEmpty
    (h : interest.isEmpty = true)
    (events : List Event) :
    interest.hears events = [] := by
  have hnone : events.filter interest.wants = [] := by
    simp [List.filter_eq_nil_iff, wants_of_isEmpty h]
  rw [hears, hnone, firstLoad]

/-- The only event that uses up an interest is the arrival of a payload. -/
theorem spend_of_ne
    {event : Event}
    (h : event ≠ .loaded) :
    interest.spend event = interest := by
  cases event with
  | loaded => exact absurd rfl h
  | labeled => rfl
  | collected => rfl

end Interest

end Hearing

section Rosters

/-- Who listens to a bucket. -/
structure Roster where
  bucket : BucketId
  listeners : List Listener
  /-- The number of the next subscription. -/
  next : SubscriptionId
  /-- Whether the bucket is collected. -/
  isClosed : Bool

/-- Who listens to a bucket, and nothing else of it. -/
def Bucket.roster (b : Bucket) : Roster where
  bucket := b.id
  listeners := b.listeners
  next := b.nextSubscription
  isClosed := b.isCollected

namespace Roster

/-- Letters about an event to those who want to hear of it. -/
def letters (r : Roster) (event : Event) : List Letter :=
  (r.listeners.filter fun l => l.interest.wants event).map fun l => l.letter r.bucket event

/-- Strike off those who have nothing left to wait for. -/
def spend (r : Roster) : Roster :=
  { r with
    listeners := (r.listeners.map fun l =>
      { l with interest := l.interest.spend .loaded }).filter fun l => !l.interest.isEmpty }

/-- Who listens after something happened. -/
def meet (r : Roster) : Happening → Roster
  | .event .loaded _ => r.spend
  | .event .labeled _ => r
  | .event .collected _ => { r with listeners := [], isClosed := true }
  | .subscribed l =>
      if r.isClosed || l.interest.isEmpty then
        { r with next := r.next + 1 }
      else
        { r with listeners := r.listeners ++ [l], next := r.next + 1 }
  | .cancelled id => { r with listeners := r.listeners.filter fun l => l.id != id }

/-- Whether something can happen: events are told to the listeners, numbers are given in order. -/
def Admits (r : Roster) : Happening → Prop
  | .event event letters => r.isClosed = false ∧ letters = r.letters event
  | .subscribed l => l.id = r.next
  | .cancelled _ => True

/-- A roster whose listeners have different numbers and still wait for something. -/
structure IsOrderly (r : Roster) : Prop where
  nodup : (r.listeners.map (·.id)).Nodup
  given : ∀ l ∈ r.listeners, l.id < r.next
  waiting : ∀ l ∈ r.listeners, l.interest.isEmpty = false
  closed : r.isClosed = true → r.listeners = []

end Roster

/-- A record leads from one roster to another. -/
inductive Passes : Roster → List Happening → Roster → Prop where
  | nil (r : Roster) : Passes r [] r
  | cons
      {r r' : Roster} {h : Happening} {record : List Happening}
      (hadmits : r.Admits h)
      (rest : Passes (r.meet h) record r') :
      Passes r (h :: record) r'

namespace Passes

variable {r r' r'' : Roster} {record later : List Happening} {h : Happening}

theorem single (hadmits : r.Admits h) : Passes r [h] (r.meet h) :=
  .cons hadmits (.nil _)

theorem append
    (hpasses : Passes r record r')
    (hlater : Passes r' later r'') :
    Passes r (record ++ later) r'' := by
  induction hpasses with
  | nil => exact hlater
  | cons hadmits _ ih => exact .cons hadmits (ih hlater)

/-- A record that is cut in two leads to some roster in between. -/
theorem cut
    {before : List Happening}
    (hpasses : Passes r (before ++ h :: later) r') :
    ∃ middle, Passes r before middle ∧ middle.Admits h ∧ Passes (middle.meet h) later r' := by
  induction before generalizing r with
  | nil =>
      cases hpasses with
      | cons hadmits hrest => exact ⟨r, .nil r, hadmits, hrest⟩
  | cons first before ih =>
      cases hpasses with
      | cons hadmits hrest =>
          obtain ⟨middle, hbefore, hafter⟩ := ih hrest
          exact ⟨middle, .cons hadmits hbefore, hafter⟩

end Passes

end Rosters

section Recording

namespace Deed

/-- What a record says about a deed is what the deed does. -/
structure Accounts (b b' : Bucket) (record : List Happening) (posts : List Post) : Prop where
  passes : Passes b.roster record b'.roster
  posts : (lettersIn record).map (·.post) = posts

variable {b b' b'' : Bucket} {record later : List Happening} {posts laterPosts : List Post}

theorem Accounts.trans
    (h : Accounts b b' record posts)
    (h' : Accounts b' b'' later laterPosts) :
    Accounts b b'' (record ++ later) (posts ++ laterPosts) where
  passes := h.passes.append h'.passes
  posts := by rw [lettersIn, List.flatMap_append, List.map_append, ← h.posts, ← h'.posts]; rfl

/-- The case of a deed that is no happening. -/
theorem accounts_of_roster (h : b'.roster = b.roster) : Accounts b b' [] [] where
  passes := by rw [h]; exact .nil _
  posts := rfl

theorem Accounts.refl (b : Bucket) : Accounts b b [] [] :=
  accounts_of_roster rfl

/-- Posts are letters without the subscriptions they are sent for. -/
theorem posts_eq_letters (b : Bucket) (event : Event) :
    (b.letters event).map (·.post) = b.posts event := by
  simp [Bucket.letters, Bucket.posts]

/-- The case of a deed that is one event. -/
theorem accounts_event
    {event : Event}
    (hopen : b.isCollected = false)
    (hroster : b'.roster = b.roster.meet (.event event (b.letters event)))
    (hposts : posts = b.posts event) :
    Accounts b b' [.event event (b.letters event)] posts where
  passes := by
    rw [hroster]
    exact .single ⟨hopen, rfl⟩
  posts := by
    rw [hposts, ← posts_eq_letters]
    simp [lettersIn, Happening.letters]

theorem accounts_receive (payload : Payload) :
    Accounts b (b.receive payload).1 ((Deed.receive payload).record b) (b.receive payload).2 := by
  cases hopen : b.isCollected with
  | true =>
      rw [Bucket.receive_of_isCollected hopen, record, if_pos hopen]
      exact .refl b
  | false =>
      have hreceive : b.receive payload =
          Bucket.announce { b with state := .loaded, payload := some payload } .loaded := by
        simp [Bucket.receive, hopen]
      rw [record, if_neg (by simp [hopen]), hreceive]
      exact accounts_event hopen rfl rfl

theorem accounts_collect :
    Accounts b b.collect.1 (Deed.collect.record b) b.collect.2 := by
  cases hopen : b.isCollected with
  | true =>
      rw [Bucket.collect_of_isCollected hopen, record, if_pos hopen]
      exact .refl b
  | false =>
      have hcollect : b.collect =
          ({ b with
            isCollected := true, payload := none, state := .unrequested, listeners := [] },
            b.posts .collected) := by
        simp [Bucket.collect, hopen, Bucket.announce, Bucket.spend, Bucket.posts]
      rw [record, if_neg (by simp [hopen]), hcollect]
      exact accounts_event hopen rfl rfl

/-- What is done meanwhile comes before the labeling. -/
theorem accounts_label
    {meanwhile : List Deed}
    (edits : List Edit)
    (hduring : Accounts b (performAll meanwhile b).1 (recordAll meanwhile b)
      (performAll meanwhile b).2) :
    Accounts b (b.label edits (performAll meanwhile)).2.1 ((Deed.label edits meanwhile).record b)
      (b.label edits (performAll meanwhile)).2.2 := by
  rw [record]
  cases hpayload : b.payload with
  | none =>
      rw [label_of_payload_eq_none edits _ hpayload, if_neg (by simp [Bucket.hasPayload, hpayload])]
      exact .refl b
  | some payload =>
      rw [if_pos (by simp [Bucket.hasPayload, hpayload])]
      rcases label_cases edits (performAll meanwhile) hpayload with hlabel | ⟨hopen, hlabel⟩
      · rw [hlabel]
        simpa using hduring
      · rw [hlabel]
        exact hduring.trans (accounts_event hopen rfl rfl)

theorem accounts_subscribe (interest : Interest) (mailbox : MailboxRef) :
    Accounts b (b.subscribe interest mailbox).2 ((Deed.subscribe interest mailbox).record b) [] := by
  have hroster : (b.subscribe interest mailbox).2.roster =
      b.roster.meet (.subscribed ⟨(b.subscribe interest mailbox).1, interest, mailbox⟩) := by
    unfold Bucket.subscribe Roster.meet Bucket.roster
    dsimp only
    split <;> rfl
  have hid : (b.subscribe interest mailbox).1 = b.nextSubscription := by
    unfold Bucket.subscribe
    split <;> rfl
  rw [record]
  exact ⟨by rw [hroster]; exact .single hid, rfl⟩

mutual

/-- The record of a deed accounts for its posts and for the listeners it leaves. -/
theorem perform_accounts :
    ∀ (d : Deed) (b : Bucket), Accounts b (d.perform b).1 (d.record b) (d.perform b).2
  | .pull, b => by
      rw [record, perform, Bucket.pull]
      split
      · exact accounts_of_roster rfl
      · exact .refl b
  | .receive payload, b => by
      rw [perform]
      exact accounts_receive payload
  | .label edits meanwhile, b => by
      rw [perform]
      exact accounts_label edits (performAll_accounts meanwhile b)
  | .collect, b => by
      rw [perform]
      exact accounts_collect
  | .subscribe interest mailbox, b => by
      rw [perform]
      exact accounts_subscribe interest mailbox
  | .unsubscribe id, b => by
      rw [record, perform]
      exact ⟨.single trivial, rfl⟩
  | .visualize shown, b => by
      rw [record, perform]
      exact accounts_of_roster rfl

theorem performAll_accounts :
    ∀ (ds : List Deed) (b : Bucket),
      Accounts b (performAll ds b).1 (recordAll ds b) (performAll ds b).2
  | [], b => by
      rw [recordAll, performAll]
      exact .refl b
  | d :: rest, b => by
      rw [recordAll, performAll]
      exact (perform_accounts d b).trans (performAll_accounts rest (d.perform b).1)

end

end Deed

end Recording

section Following

namespace Roster

variable {r : Roster} {h : Happening}

@[simp] theorem bucket_meet (r : Roster) (h : Happening) : (r.meet h).bucket = r.bucket := by
  cases h with
  | event event _ => cases event <;> rfl
  | subscribed l => simp only [meet]; split <;> rfl
  | cancelled id => rfl

theorem next_le_next_meet (r : Roster) (h : Happening) : r.next ≤ (r.meet h).next := by
  cases h with
  | event event _ => cases event <;> exact Nat.le_refl _
  | subscribed l => simp only [meet]; split <;> exact Nat.le_succ _
  | cancelled id => exact Nat.le_refl _

theorem next_meet_subscribed (r : Roster) (l : Listener) :
    (r.meet (.subscribed l)).next = r.next + 1 := by
  simp only [meet]
  split <;> rfl

/-- A listener that was not there before has just subscribed. -/
theorem mem_listeners_of_mem_meet
    {l : Listener}
    (hl : l ∈ (r.meet h).listeners) :
    (∃ old ∈ r.listeners, old.id = l.id) ∨ h = .subscribed l := by
  cases h with
  | event event _ =>
      cases event with
      | loaded =>
          obtain ⟨old, hold, rfl⟩ := List.mem_map.mp (List.mem_filter.mp hl).1
          exact .inl ⟨old, hold, rfl⟩
      | labeled => exact .inl ⟨l, hl, rfl⟩
      | collected => cases hl
  | subscribed new =>
      simp only [meet] at hl
      split at hl
      · exact .inl ⟨l, hl, rfl⟩
      · rcases List.mem_append.mp hl with hold | hnew
        · exact .inl ⟨l, hold, rfl⟩
        · exact .inr (by rw [List.mem_singleton.mp hnew])
  | cancelled id => exact .inl ⟨l, (List.mem_filter.mp hl).1, rfl⟩

theorem isOrderly_of_listeners_eq_nil (hnone : r.listeners = []) : r.IsOrderly where
  nodup := by rw [hnone]; exact List.nodup_nil
  given l hl := by rw [hnone] at hl; cases hl
  waiting l hl := by rw [hnone] at hl; cases hl
  closed _ := hnone

theorem IsOrderly.spend (hr : r.IsOrderly) : r.spend.IsOrderly where
  nodup := by
    refine List.Nodup.sublist (List.filter_sublist.map _) ?_
    rw [List.map_map]
    exact hr.nodup
  given l hl := by
    obtain ⟨old, hold, rfl⟩ := List.mem_map.mp (List.mem_filter.mp hl).1
    exact hr.given old hold
  waiting l hl := by simpa using (List.mem_filter.mp hl).2
  closed hclosed := by simp [Roster.spend, hr.closed hclosed]

theorem IsOrderly.subscribed
    {l : Listener}
    (hr : r.IsOrderly)
    (hnew : l.id = r.next) :
    (r.meet (.subscribed l)).IsOrderly := by
  simp only [meet]
  split
  · exact ⟨hr.nodup, fun l hl => Nat.lt_succ_of_lt (hr.given l hl), hr.waiting, hr.closed⟩
  · rename_i hwaits
    simp only [Bool.or_eq_true, not_or, Bool.not_eq_true] at hwaits
    refine ⟨?_, ?_, ?_, fun hclosed => absurd hclosed (by simp [hwaits.1])⟩
    · rw [List.map_append, List.nodup_append]
      refine ⟨hr.nodup, by simp, ?_⟩
      intro id hid other hother
      obtain ⟨old, hold, rfl⟩ := List.mem_map.mp hid
      obtain rfl : other = l.id := by simpa using hother
      exact Nat.ne_of_lt (hnew ▸ hr.given old hold)
    · intro other hother
      rcases List.mem_append.mp hother with hold | hlast
      · exact Nat.lt_succ_of_lt (hr.given other hold)
      · rw [List.mem_singleton.mp hlast, hnew]
        exact Nat.lt_succ_self _
    · intro other hother
      rcases List.mem_append.mp hother with hold | hlast
      · exact hr.waiting other hold
      · rw [List.mem_singleton.mp hlast]
        exact hwaits.2

/-- Whatever happens, a roster stays orderly. -/
theorem IsOrderly.meet
    (hr : r.IsOrderly)
    (hadmits : r.Admits h) :
    (r.meet h).IsOrderly := by
  cases h with
  | event event _ =>
      cases event with
      | loaded => exact hr.spend
      | labeled => exact hr
      | collected => exact isOrderly_of_listeners_eq_nil rfl
  | subscribed l => exact hr.subscribed hadmits
  | cancelled id =>
      refine ⟨hr.nodup.sublist (List.filter_sublist.map _), ?_, ?_, ?_⟩
      · exact fun l hl => hr.given l (List.mem_filter.mp hl).1
      · exact fun l hl => hr.waiting l (List.mem_filter.mp hl).1
      · intro hclosed
        simp [Roster.meet, hr.closed hclosed]

theorem isOrderly_create (id : BucketId) (address : Address) (coarser : Option BucketRef) :
    (Bucket.create id address coarser).roster.IsOrderly :=
  isOrderly_of_listeners_eq_nil rfl

/-- Only a listener is written to. -/
theorem filter_letters_of_forall_ne
    {id : SubscriptionId}
    (hnone : ∀ l ∈ r.listeners, l.id ≠ id)
    (event : Event) :
    (r.letters event).filter (fun letter => letter.subscription = id) = [] := by
  refine List.filter_eq_nil_iff.mpr fun letter hletter => ?_
  obtain ⟨l, hl, rfl⟩ := List.mem_map.mp hletter
  exact fun hsame => hnone l (List.mem_filter.mp hl).1 (of_decide_eq_true hsame)

/-- A listener is written to about an event that it wants to hear of, with one letter. -/
theorem filter_letters_of_mem
    {l : Listener}
    (hr : r.IsOrderly)
    (hl : l ∈ r.listeners)
    (event : Event) :
    (r.letters event).filter (fun letter => letter.subscription = l.id) =
      if l.interest.wants event then [l.letter r.bucket event] else [] := by
  obtain ⟨before, after, hsplit⟩ := List.append_of_mem hl
  have hnodup := hr.nodup
  rw [hsplit, List.map_append, List.map_cons, List.nodup_append, List.nodup_cons] at hnodup
  have hbefore : ∀ other ∈ before, other.id ≠ l.id := fun other hother =>
    hnodup.2.2 _ (List.mem_map_of_mem hother) _ (List.mem_cons_self ..)
  have hafter : ∀ other ∈ after, other.id ≠ l.id := fun other hother hsame =>
    hnodup.2.1.1 (hsame ▸ List.mem_map_of_mem hother)
  have hother : ∀ {others : List Listener}, (∀ other ∈ others, other.id ≠ l.id) →
      ((others.filter fun l => l.interest.wants event).map fun l => l.letter r.bucket event).filter
        (fun letter => letter.subscription = l.id) = [] := fun {others} hne =>
    filter_letters_of_forall_ne (r := { r with listeners := others }) hne event
  rw [letters, hsplit, List.filter_append, List.map_append, List.filter_append, hother hbefore,
    List.filter_cons]
  split
  · rw [List.map_cons, List.filter_cons_of_pos (by simp [Listener.letter]), hother hafter]
    rfl
  · rw [hother hafter]
    rfl

end Roster

namespace Passes

variable {r r' : Roster} {record : List Happening}

theorem isOrderly
    (hpasses : Passes r record r')
    (hr : r.IsOrderly) :
    r'.IsOrderly := by
  induction hpasses with
  | nil => exact hr
  | cons hadmits _ ih => exact ih (hr.meet hadmits)

theorem bucket_eq (hpasses : Passes r record r') : r'.bucket = r.bucket := by
  induction hpasses with
  | nil => rfl
  | cons _ _ ih => rw [ih, Roster.bucket_meet]

theorem next_le (hpasses : Passes r record r') : r.next ≤ r'.next := by
  induction hpasses with
  | nil => exact Nat.le_refl _
  | cons _ _ ih => exact Nat.le_trans (Roster.next_le_next_meet _ _) ih

/-- Numbers are given out in order, and none of them twice. -/
theorem range_append_numbersIn (hpasses : Passes r record r') :
    List.range r.next ++ numbersIn record = List.range r'.next := by
  induction hpasses with
  | nil => simp [numbersIn]
  | @cons r r' h record hadmits _ ih =>
      rw [← ih]
      cases h with
      | event event letters => cases event <;> rfl
      | cancelled id => rfl
      | subscribed l =>
          have hid : l.id = r.next := hadmits
          simp [numbersIn, Happening.number?, Roster.next_meet_subscribed, List.range_succ, hid]

/-- Nothing happens to a collected bucket. -/
theorem eventsIn_eq_nil
    (hpasses : Passes r record r')
    (hclosed : r.isClosed = true) :
    eventsIn record = [] ∧ r'.isClosed = true := by
  induction hpasses with
  | nil => exact ⟨rfl, hclosed⟩
  | @cons r r' h record hadmits _ ih =>
      cases h with
      | event event letters => exact absurd hadmits.1 (by simp [hclosed])
      | cancelled id => exact ih hclosed
      | subscribed l => exact ih (by simp only [Roster.meet]; split <;> exact hclosed)

/-- Who does not listen, and has been given a number before, is not written to any more. -/
theorem unaddressed
    {id : SubscriptionId}
    (hpasses : Passes r record r')
    (hgiven : id < r.next)
    (hnone : ∀ l ∈ r.listeners, l.id ≠ id) :
    lettersTo id record = [] ∧ ∀ l ∈ r'.listeners, l.id ≠ id := by
  induction hpasses with
  | nil => exact ⟨rfl, hnone⟩
  | @cons r r' h record hadmits _ ih =>
      have hstill : ∀ l ∈ (r.meet h).listeners, l.id ≠ id := by
        intro l hl hsame
        rcases Roster.mem_listeners_of_mem_meet hl with ⟨old, hold, holdid⟩ | rfl
        · exact hnone old hold (holdid.trans hsame)
        · exact Nat.ne_of_gt hgiven (hadmits.symm.trans hsame)
      obtain ⟨hlater, hend⟩ := ih (Nat.lt_of_lt_of_le hgiven (Roster.next_le_next_meet r h)) hstill
      refine ⟨?_, hend⟩
      rw [lettersTo, lettersIn, List.flatMap_cons, List.filter_append]
      refine List.append_eq_nil_iff.mpr ⟨?_, hlater⟩
      cases h with
      | event event letters =>
          obtain ⟨_, rfl⟩ := hadmits
          exact Roster.filter_letters_of_forall_ne hnone event
      | subscribed l => rfl
      | cancelled id => rfl

/-- Nobody is written to before having subscribed. -/
theorem subscription_lt
    {letter : Letter}
    (hpasses : Passes r record r')
    (hr : r.IsOrderly)
    (hletter : letter ∈ lettersIn record) :
    letter.subscription < r'.next := by
  induction hpasses with
  | nil => cases hletter
  | @cons r r' h record hadmits hrest ih =>
      rw [lettersIn, List.flatMap_cons] at hletter
      rcases List.mem_append.mp hletter with hfirst | hlater
      · cases h with
        | event event letters =>
            obtain ⟨_, rfl⟩ := hadmits
            obtain ⟨l, hl, rfl⟩ := List.mem_map.mp hfirst
            have hle := Nat.le_trans (Roster.next_le_next_meet r _) hrest.next_le
            exact Nat.lt_of_lt_of_le (hr.given l (List.mem_filter.mp hl).1) hle
        | subscribed l => cases hfirst
        | cancelled id => cases hfirst
      · exact ih (hr.meet hadmits) hlater

end Passes

end Following

section Delivering

variable {r r' : Roster} {record : List Happening} {l : Listener}

@[simp] theorem eventsIn_event (event : Event) (letters : List Letter) (later : List Happening) :
    eventsIn (.event event letters :: later) = event :: eventsIn later := by
  rfl

@[simp] theorem eventsIn_subscribed (l : Listener) (later : List Happening) :
    eventsIn (.subscribed l :: later) = eventsIn later := by
  rfl

@[simp] theorem eventsIn_cancelled (id : SubscriptionId) (later : List Happening) :
    eventsIn (.cancelled id :: later) = eventsIn later := by
  rfl

theorem lettersTo_cons (id : SubscriptionId) (h : Happening) (later : List Happening) :
    lettersTo id (h :: later) =
      h.letters.filter (fun letter => letter.subscription = id) ++ lettersTo id later := by
  rw [lettersTo, lettersIn, List.flatMap_cons, List.filter_append]
  rfl

theorem lettersTo_append (id : SubscriptionId) (before later : List Happening) :
    lettersTo id (before ++ later) = lettersTo id before ++ lettersTo id later := by
  simp only [lettersTo, lettersIn, List.flatMap_append, List.filter_append]

namespace Listener

/-- What a subscriber hears of an event, before it hears the rest. -/
theorem hears_event (l : Listener) (event : Event) (letters : List Letter)
    (later : List Happening) :
    l.hears (.event event letters :: later) =
      (if l.interest.wants event then [event] else []) ++
        { l with interest := l.interest.spend event }.hears later := by
  rw [hears, List.takeWhile_cons_of_pos (by simp), eventsIn_event]
  cases hwants : l.interest.wants event with
  | true => exact Interest.hears_cons_of_wants hwants
  | false => exact Interest.hears_cons_of_not_wants hwants

theorem hears_of_isEmpty
    (h : l.interest.isEmpty = true)
    (later : List Happening) :
    l.hears later = [] :=
  Interest.hears_of_isEmpty h _

theorem hears_subscribed (l new : Listener) (later : List Happening) :
    l.hears (.subscribed new :: later) = l.hears later := by
  rw [hears, List.takeWhile_cons_of_pos (by simp), eventsIn_subscribed, hears]

theorem hears_cancelled_self (l : Listener) (later : List Happening) :
    l.hears (.cancelled l.id :: later) = [] := by
  rw [hears, List.takeWhile_cons_of_neg (by simp)]
  rfl

theorem hears_cancelled_of_ne
    {id : SubscriptionId}
    (h : id ≠ l.id)
    (later : List Happening) :
    l.hears (.cancelled id :: later) = l.hears later := by
  rw [hears, List.takeWhile_cons_of_pos (by simp [h]), eventsIn_cancelled, hears]

/-- Where nothing happens there is nothing to hear of. -/
theorem hears_of_eventsIn_eq_nil
    {later : List Happening}
    (l : Listener)
    (h : eventsIn later = []) :
    l.hears later = [] := by
  have hnone : eventsIn (later.takeWhile (· ≠ .cancelled l.id)) = [] :=
    List.eq_nil_of_sublist_nil (h ▸ (List.takeWhile_sublist _).filterMap Happening.event?)
  rw [hears, hnone]
  rfl

end Listener

namespace Passes

/-- After an event a listener either listens on or has nothing left to wait for. -/
theorem mem_meet_event
    {event : Event}
    (hl : l ∈ r.listeners)
    (hevent : event ≠ .collected)
    (letters : List Letter)
    (hwaits : (l.interest.spend event).isEmpty = false) :
    { l with interest := l.interest.spend event } ∈
      (r.meet (.event event letters)).listeners := by
  cases event with
  | loaded => exact List.mem_filter.mpr ⟨List.mem_map_of_mem hl, by simp [hwaits]⟩
  | labeled => exact hl
  | collected => exact absurd rfl hevent

/-- A listener that an event leaves nothing to wait for is struck off. -/
theorem forall_ne_meet_event
    {event : Event}
    (hr : r.IsOrderly)
    (hl : l ∈ r.listeners)
    (letters : List Letter)
    (hover : event = .collected ∨ (l.interest.spend event).isEmpty = true) :
    ∀ other ∈ (r.meet (.event event letters)).listeners, other.id ≠ l.id := by
  intro other hother hsame
  cases event with
  | loaded =>
      obtain ⟨hmem, hwaits⟩ := List.mem_filter.mp hother
      obtain ⟨old, hold, rfl⟩ := List.mem_map.mp hmem
      obtain rfl : old = l := List.inj_on_of_nodup_map hr.nodup hold hl hsame
      simp [hover.resolve_left (by simp)] at hwaits
  | labeled =>
      have hempty : l.interest.isEmpty = true := hover.resolve_left (by simp)
      rw [hr.waiting l hl] at hempty
      cases hempty
  | collected => cases hother

/-- A listener is written to about what it is to hear of, in order. -/
theorem lettersTo_eq
    (hpasses : Passes r record r')
    (hr : r.IsOrderly)
    (hl : l ∈ r.listeners) :
    lettersTo l.id record = (l.hears record).map (l.letter r.bucket) := by
  induction hpasses generalizing l with
  | nil => rfl
  | @cons r r' h record hadmits hrest ih =>
      have hgiven : l.id < (r.meet h).next :=
        Nat.lt_of_lt_of_le (hr.given l hl) (Roster.next_le_next_meet r h)
      have hlater : ∀ {l : Listener}, l ∈ (r.meet h).listeners →
          lettersTo l.id record = (l.hears record).map (l.letter r.bucket) := by
        intro l hl
        rw [ih (hr.meet hadmits) hl, Roster.bucket_meet]
      rw [lettersTo_cons]
      cases h with
      | event event letters =>
          obtain ⟨_, rfl⟩ := hadmits
          -- the letters about this event, and those about the rest
          rw [Listener.hears_event, List.map_append, Happening.letters,
            Roster.filter_letters_of_mem hr hl event]
          congr 1
          · split <;> rfl
          · by_cases hover : event = .collected ∨ (l.interest.spend event).isEmpty = true
            · rw [(hrest.unaddressed hgiven (forall_ne_meet_event hr hl _ hover)).1]
              rcases hover with rfl | hempty
              · rw [Listener.hears_of_eventsIn_eq_nil _ (hrest.eventsIn_eq_nil rfl).1]
                rfl
              · rw [Listener.hears_of_isEmpty hempty]
                rfl
            · obtain ⟨hevent, hwaits⟩ := not_or.mp hover
              exact hlater (mem_meet_event hl hevent _ (by simpa using hwaits))
      | subscribed new =>
          rw [Listener.hears_subscribed]
          refine hlater ?_
          simp only [Roster.meet]
          split
          · exact hl
          · exact List.mem_append_left _ hl
      | cancelled id =>
          by_cases hsame : id = l.id
          · rw [hsame, Listener.hears_cancelled_self]
            refine (hrest.unaddressed hgiven fun other hother => ?_).1
            simpa [hsame] using (List.mem_filter.mp hother).2
          · rw [Listener.hears_cancelled_of_ne hsame]
            exact hlater (List.mem_filter.mpr ⟨hl, by simpa using Ne.symm hsame⟩)

/-- Who has ended a subscription, or has nothing left to wait for, does not listen any more. -/
theorem forall_ne_of_isOver
    (hpasses : Passes r record r')
    (hr : r.IsOrderly)
    (hl : l ∈ r.listeners)
    (hover : l.IsOver record) :
    ∀ other ∈ r'.listeners, other.id ≠ l.id := by
  induction hpasses generalizing l with
  | nil =>
      rcases hover with hin | hin | hempty | ⟨hin, _⟩
      · cases hin
      · cases hin
      · exact absurd hempty (by simp [hr.waiting l hl])
      · cases hin
  | @cons r r' h record hadmits hrest ih =>
      have hgiven : l.id < (r.meet h).next :=
        Nat.lt_of_lt_of_le (hr.given l hl) (Roster.next_le_next_meet r h)
      cases h with
      | event event letters =>
          by_cases hends : event = .collected ∨ (l.interest.spend event).isEmpty = true
          · exact (hrest.unaddressed hgiven (forall_ne_meet_event hr hl letters hends)).2
          · obtain ⟨hevent, hwaits⟩ := not_or.mp hends
            have hstill := mem_meet_event hl hevent letters (by simpa using hwaits)
            refine ih (l := { l with interest := l.interest.spend event }) (hr.meet hadmits) hstill ?_
            -- what is over after this event is so for the same reason after the rest
            rcases hover with hin | hin | hempty | ⟨hin, hempty⟩
            · exact .inl (by simpa using hin)
            · exact .inr (.inl (by simpa [Ne.symm hevent] using hin))
            · exact absurd hempty (by simp [hr.waiting l hl])
            · by_cases hload : event = .loaded
              · exact absurd (hload ▸ hempty) hwaits
              · have hrest : .loaded ∈ eventsIn record := by simpa [Ne.symm hload] using hin
                exact .inr (.inr (.inr ⟨hrest, by rwa [Interest.spend_of_ne hload]⟩))
      | subscribed new =>
          refine ih (hr.meet hadmits) ?_ (by simpa [Listener.IsOver] using hover)
          simp only [Roster.meet]
          split
          · exact hl
          · exact List.mem_append_left _ hl
      | cancelled id =>
          by_cases hsame : id = l.id
          · refine (hrest.unaddressed hgiven fun other hother => ?_).2
            simpa [hsame] using (List.mem_filter.mp hother).2
          · refine ih (hr.meet hadmits) ?_ ?_
            · exact List.mem_filter.mpr ⟨hl, by simpa using Ne.symm hsame⟩
            · simpa [Listener.IsOver, Ne.symm hsame] using hover

/-- Nothing happens to a bucket after its collection. -/
theorem pairwise_eventsIn (hpasses : Passes r record r') :
    (eventsIn record).Pairwise fun event _ => event ≠ .collected := by
  induction hpasses with
  | nil => exact List.Pairwise.nil
  | @cons r r' h record hadmits hrest ih =>
      cases h with
      | event event letters =>
          rw [eventsIn_event]
          refine List.pairwise_cons.mpr ⟨?_, ih⟩
          rintro later hlater rfl
          rw [(hrest.eventsIn_eq_nil rfl).1] at hlater
          cases hlater
      | subscribed l => exact ih
      | cancelled id => exact ih

end Passes

theorem firstLoad_sublist : ∀ events : List Event, (firstLoad events).Sublist events
  | [] => .slnil
  | .loaded :: _ => List.filter_sublist.cons_cons _
  | .labeled :: rest => (firstLoad_sublist rest).cons_cons _
  | .collected :: rest => (firstLoad_sublist rest).cons_cons _

/-- A subscriber hears of nothing that does not happen. -/
theorem Listener.hears_sublist (l : Listener) (later : List Happening) :
    (l.hears later).Sublist (eventsIn later) :=
  (firstLoad_sublist _).trans
    (List.filter_sublist.trans ((List.takeWhile_sublist _).filterMap Happening.event?))

end Delivering

section Law

/-- Do several things to one bucket of a scene, in order. -/
def Scene.deedAll (s : Scene) (ref : BucketRef) (ds : List Deed) : Scene :=
  ds.foldl (fun s d => s.deed ref d) s

/-- An open mailbox takes in what several deeds post to it. -/
theorem Scene.mailbox_deedAll
    {s : Scene} {ref : BucketRef} {mailbox : MailboxRef}
    (ds : List Deed)
    (href : ref < s.buckets.size)
    (hopen : (s.mailbox mailbox).isOpen = true) :
    ((s.deedAll ref ds).mailbox mailbox).notices =
      (s.mailbox mailbox).notices ++
        ((Deed.performAll ds (s.bucket ref)).2.filter fun post =>
          post.mailbox = mailbox).map (·.notice) := by
  induction ds generalizing s with
  | nil => simp [deedAll, Deed.performAll]
  | cons d rest ih =>
      have hmailbox := mailbox_deed ref d hopen
      have hrest := ih (s := s.deed ref d) (by rwa [size_deed]) (by rw [hmailbox]; exact hopen)
      rw [bucket_deed_self d href, hmailbox] at hrest
      rw [deedAll, List.foldl_cons]
      refine hrest.trans ?_
      rw [Deed.performAll, List.filter_append, List.map_append, List.append_assoc]

/-- The law by which a bucket delivers its letters, after what is recorded happened to it. -/
structure DeliversLetters
    (id : BucketId) (record : List Happening) (posts : List Post) (b : Bucket) : Prop where
  /-- The bucket posts its letters, in this order, and nothing else. -/
  posts : (lettersIn record).map (·.post) = posts
  /-- All letters are sent for subscriptions. -/
  addressed : ∀ letter ∈ lettersIn record, ∃ l, .subscribed l ∈ record ∧ l.id = letter.subscription
  /-- Subscriptions are numbered in order, and no number is given twice. -/
  numbers : numbersIn record = List.range b.nextSubscription
  /-- A subscription is sent what it is to hear of what happens after its beginning. -/
  heard : ∀ before l later, record = before ++ .subscribed l :: later →
    lettersTo l.id record = (l.hears later).map (l.letter id)
  /-- A letter about the collection is the last one, so that there is at most one. -/
  last : ∀ before l later, record = before ++ .subscribed l :: later →
    (lettersTo l.id record).Pairwise fun letter _ => letter.post.notice.event ≠ .collected
  /-- To cancel a subscription that is over changes nothing. -/
  cancel_over : ∀ before l later, record = before ++ .subscribed l :: later →
    l.IsOver later → b.unsubscribe l.id = b
  /-- To cancel a subscription twice is to cancel it once. -/
  cancel_twice : ∀ number, (b.unsubscribe number).unsubscribe number = b.unsubscribe number
  /-- To cancel what was never subscribed, or on a collected bucket, changes nothing. -/
  cancel_none : ∀ number, b.nextSubscription ≤ number ∨ b.isCollected = true →
    b.unsubscribe number = b
  /-- A payload that is dropped is not announced. -/
  dropped : b.isCollected = true → ∀ payload, b.receive payload = (b, [])
  /-- A labeling that puts nothing in place posts no more than what is done meanwhile. -/
  unlabeled : ∀ edits meanwhile,
    (b.label edits (Deed.performAll meanwhile)).1 = false →
    (b.label edits (Deed.performAll meanwhile)).2.2 =
      if b.hasPayload then (Deed.performAll meanwhile b).2 else []

/-- Who does not listen cannot be struck off. -/
theorem Bucket.unsubscribe_eq_self
    {b : Bucket} {number : SubscriptionId}
    (h : ∀ l ∈ b.listeners, l.id ≠ number) :
    b.unsubscribe number = b := by
  have hall : b.listeners.filter (fun l => l.id != number) = b.listeners :=
    List.filter_eq_self.mpr fun l hl => by simpa using h l hl
  rw [unsubscribe, hall]

/-- A labeling that puts nothing in place sends no letter of its own. -/
theorem posts_label_of_not_labeled
    {edits : List Edit} {during : Bucket → Bucket × List Post} {b : Bucket}
    (h : (b.label edits during).1 = false) :
    (b.label edits during).2.2 = if b.hasPayload then (during b).2 else [] := by
  cases hpayload : b.payload with
  | none =>
      rw [Deed.label_of_payload_eq_none edits during hpayload]
      simp [Bucket.hasPayload, hpayload]
  | some payload =>
      rw [if_pos (by simp [Bucket.hasPayload, hpayload])]
      rcases Deed.label_cases edits during hpayload with hlabel | ⟨_, hlabel⟩
      · rw [hlabel]
      · rw [hlabel] at h
        cases h

variable {id : BucketId} {address : Address} {coarser : Option BucketRef}

/-- The roster a subscriber finds when it subscribes, and what the record is from then on. -/
theorem Passes.from_subscribed
    {b : Bucket} {before later : List Happening} {l : Listener}
    (hpasses : Passes (Bucket.create id address coarser).roster
      (before ++ .subscribed l :: later) b.roster) :
    lettersTo l.id (before ++ .subscribed l :: later) = (l.hears later).map (l.letter id) ∧
    (l.IsOver later → ∀ other ∈ b.listeners, other.id ≠ l.id) := by
  obtain ⟨middle, hbefore, hadmits, hlater⟩ := hpasses.cut
  have horderly := hbefore.isOrderly (Roster.isOrderly_create id address coarser)
  have hid : l.id = middle.next := hadmits
  have hnone : lettersTo l.id before = [] := by
    refine List.filter_eq_nil_iff.mpr fun letter hletter => ?_
    have hlt := hbefore.subscription_lt (Roster.isOrderly_create id address coarser) hletter
    simpa [hid] using Nat.ne_of_lt hlt
  have hbucket : middle.bucket = id := hbefore.bucket_eq
  rw [lettersTo_append, hnone, lettersTo_cons]
  cases hopen : middle.isClosed || l.interest.isEmpty with
  | false =>
      have hl : l ∈ (middle.meet (.subscribed l)).listeners := by
        simp [Roster.meet, hopen]
      refine ⟨?_, hlater.forall_ne_of_isOver (horderly.meet hadmits) hl⟩
      have hletters := hlater.lettersTo_eq (horderly.meet hadmits) hl
      rwa [Roster.bucket_meet, hbucket] at hletters
  | true =>
      -- the subscription is refused, and there is nothing to hear of either
      have hmeet : middle.meet (.subscribed l) = { middle with next := middle.next + 1 } := by
        simp [Roster.meet, hopen]
      rw [hmeet] at hlater
      have hgiven : l.id < middle.next + 1 := hid ▸ Nat.lt_succ_self _
      have hunheard := hlater.unaddressed hgiven fun other hother =>
        Nat.ne_of_lt (hid ▸ horderly.given other hother)
      refine ⟨?_, fun _ => hunheard.2⟩
      have hsilent : l.hears later = [] := by
        rcases Bool.or_eq_true_iff.mp hopen with hclosed | hempty
        · exact l.hears_of_eventsIn_eq_nil (hlater.eventsIn_eq_nil hclosed).1
        · exact Listener.hears_of_isEmpty hempty later
      rw [hsilent, hunheard.1]
      rfl

/-- The law of delivery, for all deeds that are done to a new bucket. -/
theorem deliversLetters_performAll
    (id : BucketId) (address : Address) (coarser : Option BucketRef) (ds : List Deed) :
    let b := Bucket.create id address coarser
    let after := Deed.performAll ds b
    DeliversLetters id (Deed.recordAll ds b) after.2 after.1 ∧
    ∀ (s : Scene) (ref : BucketRef) (mailbox : MailboxRef),
      ref < s.buckets.size →
      s.bucket ref = b →
      (s.mailbox mailbox).isOpen = true →
      ((s.deedAll ref ds).mailbox mailbox).notices =
        (s.mailbox mailbox).notices ++
          ((lettersIn (Deed.recordAll ds b)).filter fun letter =>
            letter.post.mailbox = mailbox).map (·.post.notice) := by
  intro b after
  have haccounts := Deed.performAll_accounts ds b
  have hpasses : Passes b.roster (Deed.recordAll ds b) after.1.roster := haccounts.passes
  have hstart : b.roster.IsOrderly := Roster.isOrderly_create id address coarser
  have horderly : after.1.roster.IsOrderly := hpasses.isOrderly hstart
  have hnumbers : numbersIn (Deed.recordAll ds b) = List.range after.1.nextSubscription :=
    hpasses.range_append_numbersIn
  have hfrom : ∀ {before l later}, Deed.recordAll ds b = before ++ .subscribed l :: later →
      lettersTo l.id (Deed.recordAll ds b) = (l.hears later).map (l.letter id) ∧
      (l.IsOver later → ∀ other ∈ after.1.listeners, other.id ≠ l.id) := by
    intro before l later hrecord
    rw [hrecord] at hpasses ⊢
    exact hpasses.from_subscribed
  refine ⟨⟨haccounts.posts, ?_, hnumbers, ?_, ?_, ?_, ?_, ?_, ?_, ?_⟩, ?_⟩
  · intro letter hletter
    have hnumber : letter.subscription ∈ numbersIn (Deed.recordAll ds b) := by
      rw [hnumbers]
      exact List.mem_range.mpr (hpasses.subscription_lt hstart hletter)
    obtain ⟨h, hin, hsome⟩ := List.mem_filterMap.mp hnumber
    cases h with
    | event _ _ => cases hsome
    | cancelled _ => cases hsome
    | subscribed l => exact ⟨l, hin, Option.some.inj hsome⟩
  · exact fun before l later hrecord => (hfrom hrecord).1
  · intro before l later hrecord
    rw [(hfrom hrecord).1, List.pairwise_map]
    refine (hpasses.pairwise_eventsIn.sublist ?_)
    refine (l.hears_sublist later).trans ?_
    rw [hrecord]
    exact ((List.sublist_cons_self _ _).trans (List.sublist_append_right _ _)).filterMap _
  · exact fun before l later hrecord hover => Bucket.unsubscribe_eq_self ((hfrom hrecord).2 hover)
  · intro number
    exact Bucket.unsubscribe_eq_self fun l hl => Bucket.not_mem_listeners_unsubscribe hl
  · intro number hnone
    refine Bucket.unsubscribe_eq_self fun l hl hid => ?_
    rcases hnone with hnew | hclosed
    · exact Nat.not_le_of_lt (horderly.given l hl) (hid ▸ hnew)
    · have hempty : after.1.listeners = [] := horderly.closed hclosed
      rw [hempty] at hl
      cases hl
  · exact fun hclosed payload => Bucket.receive_of_isCollected hclosed
  · exact fun edits meanwhile hfalse => posts_label_of_not_labeled hfalse
  · intro s ref mailbox href hbucket hopen
    rw [Scene.mailbox_deedAll ds href hopen, hbucket, ← haccounts.posts, List.filter_map,
      List.map_map]
    rfl

/-- A payload that arrives while the first one is relabeled is not announced again. -/
theorem deliversLetters_performAll_of_relabeled :
    let ds : List Deed :=
      [.subscribe ⟨true, true, true⟩ 0, .receive .empty,
        .label [] [.receive .empty, .subscribe ⟨true, false, true⟩ 0], .unsubscribe 1, .collect]
    let s := (Scene.empty.addBucket (.create 7 ⟨0, 0, 0, 0⟩ none)).2.openMailbox.2
    let record := Deed.recordAll ds (.create 7 ⟨0, 0, 0, 0⟩ none)
    lettersTo 0 record =
        [⟨0, 0, 7, .loaded⟩, ⟨0, 0, 7, .labeled⟩, ⟨0, 0, 7, .collected⟩] ∧
      lettersTo 1 record = [] ∧
      ((s.deedAll 0 ds).mailbox 0).notices = [⟨7, .loaded⟩, ⟨7, .labeled⟩, ⟨7, .collected⟩] := by
  intro ds s record
  have hlaw := deliversLetters_performAll 7 ⟨0, 0, 0, 0⟩ none ds
  have hfirst := hlaw.1.heard [] ⟨0, ⟨true, true, true⟩, 0⟩ record.tail (by decide +kernel)
  have hsecond := hlaw.1.heard (record.take 3) ⟨1, ⟨true, false, true⟩, 0⟩ (record.drop 4)
    (by decide +kernel)
  refine ⟨hfirst.trans (by decide +kernel), hsecond.trans (by decide +kernel), ?_⟩
  rw [hlaw.2 s 0 0 (by decide +kernel) rfl (by decide +kernel)]
  decide +kernel

end Law

end VoxelCache
