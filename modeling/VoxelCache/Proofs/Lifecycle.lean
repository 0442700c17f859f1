import VoxelCache.Proofs.Stock

/-!
# The life of a bucket

A deed may contain other deeds: while a bucket is relabeled, anything can be done to it.  An
**act** contains nothing else, and a deed is nothing but acts, one after the other.  Relabeling
a payload is what is done meanwhile, and then the act of putting the changed copy in place.

**Invariants.**
* `Bucket.IsLawful`: exactly a loaded bucket has a payload, and nothing is left of a collected
  one.
* `Bucket.IsTaken`: a bucket that was asked for, or that is collected, is not given out again.
* `Bucket.IsFilledOrCollected`: a payload is not lost but by collection.

Each is kept by every act, and so by everything that is done to a bucket.

**Results.**
* `Deed.performAll_eq_acts`: deeds are acts, one after the other.
* `Act.outcome`: what an act can make of a bucket.
* `Act.history_keeps`: what every act keeps holds at every moment.
* `Act.countP_isGranted_le_one`: a bucket is given out at most once.
* `Deed.label_spec`: when a labeling puts its copy in place.
* `lifecycle_lawful`: the law of the life of a bucket.
-/

namespace VoxelCache

section Acts

/-- Something that is done to a bucket while nothing else is done to it. -/
inductive Act where
  | pull
  | receive (payload : Payload)
  /-- A changed copy of the payload is put in place. -/
  | store (copy : Payload)
  | collect
  | subscribe (interest : Interest) (mailbox : MailboxRef)
  | unsubscribe (id : SubscriptionId)
  | visualize (shown : Bool)

namespace Act

/-- Do one thing to a bucket. -/
def perform : Act → Bucket → Bucket × List Post
  | .pull, b => (b.pull.2, [])
  | .receive payload, b => b.receive payload
  | .store copy, b =>
      if b.isCollected || !b.hasPayload then
        (b, [])
      else
        Bucket.announce { b with payload := some copy } .labeled
  | .collect, b => b.collect
  | .subscribe interest mailbox, b => ((b.subscribe interest mailbox).2, [])
  | .unsubscribe id, b => (b.unsubscribe id, [])
  | .visualize shown, b => (b.visualize shown, [])

/-- Do several things to a bucket, in order. -/
def performAll : List Act → Bucket → Bucket × List Post
  | [], b => (b, [])
  | act :: rest, b =>
      let first := act.perform b
      let later := performAll rest first.1
      (later.1, first.2 ++ later.2)

theorem performAll_append (acts later : List Act) (b : Bucket) :
    performAll (acts ++ later) b =
      ((performAll later (performAll acts b).1).1,
        (performAll acts b).2 ++ (performAll later (performAll acts b).1).2) := by
  induction acts generalizing b with
  | nil => rfl
  | cons act rest ih => simp [performAll, ih]

theorem performAll_singleton (act : Act) (b : Bucket) :
    performAll [act] b = act.perform b := by
  simp [performAll]

end Act

namespace Deed

mutual

/-- The acts of a deed, in order. -/
def acts : Deed → Bucket → List Act
  | .pull, _ => [.pull]
  | .receive payload, _ => [.receive payload]
  | .label edits meanwhile, b =>
      match b.payload with
      | none => []
      | some payload => actsAll meanwhile b ++ [.store (Edit.applyAll edits payload)]
  | .collect, _ => [.collect]
  | .subscribe interest mailbox, _ => [.subscribe interest mailbox]
  | .unsubscribe id, _ => [.unsubscribe id]
  | .visualize shown, _ => [.visualize shown]

/-- The acts of several deeds that are done in order. -/
def actsAll : List Deed → Bucket → List Act
  | [], _ => []
  | d :: rest, b => d.acts b ++ actsAll rest (d.perform b).1

end

/-- The end of a labeling is an act of its own. -/
theorem label_eq_store
    {b : Bucket} {payload : Payload}
    (edits : List Edit) (during : Bucket → Bucket × List Post)
    (hpayload : b.payload = some payload) :
    (b.label edits during).2 =
      (((Act.store (Edit.applyAll edits payload)).perform (during b).1).1,
        (during b).2 ++ ((Act.store (Edit.applyAll edits payload)).perform (during b).1).2) := by
  simp only [Bucket.label, hpayload, Act.perform]
  split
  · simp
  · rfl

mutual

/-- A deed is its acts, one after the other. -/
theorem perform_eq_acts : ∀ (d : Deed) (b : Bucket),
    d.perform b = Act.performAll (d.acts b) b
  | .pull, b => by rw [acts, Act.performAll_singleton]; rfl
  | .receive payload, b => by rw [acts, Act.performAll_singleton]; rfl
  | .label edits meanwhile, b => by
      rw [perform, acts]
      cases hpayload : b.payload with
      | none => rw [label_of_payload_eq_none edits _ hpayload]; rfl
      | some payload =>
          rw [label_eq_store edits _ hpayload, performAll_eq_acts meanwhile b,
            Act.performAll_append, Act.performAll_singleton]
  | .collect, b => by rw [acts, Act.performAll_singleton]; rfl
  | .subscribe interest mailbox, b => by rw [acts, Act.performAll_singleton]; rfl
  | .unsubscribe id, b => by rw [acts, Act.performAll_singleton]; rfl
  | .visualize shown, b => by rw [acts, Act.performAll_singleton]; rfl

theorem performAll_eq_acts : ∀ (ds : List Deed) (b : Bucket),
    performAll ds b = Act.performAll (actsAll ds b) b
  | [], b => by rw [performAll, actsAll]; rfl
  | d :: rest, b => by
      rw [performAll, actsAll, Act.performAll_append, ← perform_eq_acts d b,
        performAll_eq_acts rest]

end

end Deed

end Acts

section Moments

/-- A moment in the life of a bucket: what is done, and the bucket it is done to. -/
structure Moment where
  act : Act
  before : Bucket

namespace Moment

/-- The bucket that a moment leaves. -/
def after (m : Moment) : Bucket :=
  (m.act.perform m.before).1

/-- Whether the bucket is given out to be loaded. -/
def isGranted (m : Moment) : Bool :=
  match m.act with
  | .pull => m.before.pull.1
  | _ => false

end Moment

namespace Act

/-- The moments at which acts are done in order. -/
def history : List Act → Bucket → List Moment
  | [], _ => []
  | act :: rest, b => ⟨act, b⟩ :: history rest (act.perform b).1

variable {P : Bucket → Prop} {b : Bucket} {m : Moment}

/-- What every act keeps, all acts together keep. -/
theorem performAll_keeps
    (hstep : ∀ (act : Act) (b : Bucket), P b → P (act.perform b).1)
    (acts : List Act)
    (h : P b) :
    P (performAll acts b).1 := by
  induction acts generalizing b with
  | nil => exact h
  | cons act rest ih => exact ih (hstep act b h)

/-- What every act keeps holds at every moment. -/
theorem history_keeps
    (hstep : ∀ (act : Act) (b : Bucket), P b → P (act.perform b).1)
    {acts : List Act}
    (h : P b)
    (hm : m ∈ history acts b) :
    P m.before ∧ P m.after := by
  induction acts generalizing b with
  | nil => cases hm
  | cons act rest ih =>
      rcases List.mem_cons.mp hm with rfl | hlater
      · exact ⟨h, hstep act b h⟩
      · exact ih (hstep act b h) hlater

end Act

end Moments

section Outcomes

namespace Bucket

/-- Whether nothing is left of a bucket. -/
structure IsReclaimed (b : Bucket) : Prop where
  isCollected : b.isCollected = true
  payload : b.payload = none
  state : b.state = .unrequested
  listeners : b.listeners = []

/-- Whether exactly a loaded bucket has a payload, and nothing is left of a collected one. -/
structure IsLawful (b : Bucket) : Prop where
  loaded : b.state = .loaded ↔ b.hasPayload = true
  reclaimed : b.isCollected = true → b.IsReclaimed

/-- Whether a bucket cannot be given out to be loaded. -/
def IsTaken (b : Bucket) : Prop :=
  b.isCollected = true ∨ b.state ≠ .unrequested

/-- Whether a bucket has a payload, unless it is collected. -/
def IsFilledOrCollected (b : Bucket) : Prop :=
  b.isCollected = true ∨ b.hasPayload = true

theorem hasPayload_of_eq_some
    {b : Bucket} {payload : Payload}
    (h : b.payload = some payload) :
    b.hasPayload = true := by
  rw [hasPayload, h]
  rfl

end Bucket

namespace Act

/-- What an act can make of a bucket. -/
inductive Outcome : Act → Bucket → Bucket → Prop where
  /-- State, payload and collection are left alone. -/
  | quiet
      {act : Act} {b b' : Bucket}
      (hstate : b'.state = b.state)
      (hpayload : b'.payload = b.payload)
      (hcollected : b'.isCollected = b.isCollected)
      (hdismissed : b.isCollected = true → b.listeners = [] → b'.listeners = [])
      (hpull : act = .pull → b.IsTaken)
      (hcollect : act = .collect → b.isCollected = true) :
      Outcome act b b'
  | pulled
      {b : Bucket}
      (hopen : b.isCollected = false)
      (hstate : b.state = .unrequested) :
      Outcome .pull b { b with state := .loading }
  | filled
      {b b' : Bucket} {payload : Payload}
      (hopen : b.isCollected = false)
      (hstill : b'.isCollected = false)
      (hstate : b'.state = .loaded)
      (hpayload : b'.payload = some payload) :
      Outcome (.receive payload) b b'
  | stored
      {b : Bucket} {copy : Payload}
      (hopen : b.isCollected = false)
      (hpayload : b.hasPayload = true) :
      Outcome (.store copy) b { b with payload := some copy }
  | reclaimed
      {b b' : Bucket}
      (hopen : b.isCollected = false)
      (h : b'.IsReclaimed) :
      Outcome .collect b b'

/-- The case of an act that leaves the bucket as it was. -/
theorem Outcome.refl
    {act : Act} {b : Bucket}
    (hpull : act = .pull → b.IsTaken)
    (hcollect : act = .collect → b.isCollected = true) :
    Outcome act b b :=
  .quiet rfl rfl rfl (fun _ h => h) hpull hcollect

theorem outcome (act : Act) (b : Bucket) : Outcome act b (act.perform b).1 := by
  cases act with
  | pull =>
      rw [perform, Bucket.pull]
      split
      · rename_i hfree
        exact .pulled hfree.2 hfree.1
      · rename_i htaken
        refine .refl (fun _ => ?_) (by rintro ⟨⟩)
        cases hopen : b.isCollected with
        | true => exact .inl hopen
        | false => exact .inr fun hstate => htaken ⟨hstate, hopen⟩
  | receive payload =>
      rw [perform]
      cases hopen : b.isCollected with
      | true =>
          rw [Bucket.receive_of_isCollected hopen]
          exact .refl (by rintro ⟨⟩) (by rintro ⟨⟩)
      | false =>
          exact .filled hopen ((Bucket.isCollected_receive b payload).trans hopen)
            (Bucket.state_receive hopen) (Bucket.payload_receive hopen)
  | store copy =>
      rw [perform]
      split
      · exact .refl (by rintro ⟨⟩) (by rintro ⟨⟩)
      · rename_i hkept
        simp only [Bool.or_eq_true, not_or, Bool.not_eq_true, Bool.not_eq_false'] at hkept
        exact .stored hkept.1 hkept.2
  | collect =>
      rw [perform]
      cases hopen : b.isCollected with
      | true =>
          rw [Bucket.collect_of_isCollected hopen]
          exact .refl (by rintro ⟨⟩) fun _ => hopen
      | false =>
          refine .reclaimed hopen ⟨Bucket.isCollected_collect b, Bucket.payload_collect hopen, ?_,
            Bucket.listeners_collect hopen⟩
          simp [Bucket.collect, hopen, Bucket.announce]
  | subscribe interest mailbox =>
      rw [perform, Bucket.subscribe]
      dsimp only
      split
      · exact .quiet rfl rfl rfl (fun _ h => h) (by rintro ⟨⟩) (by rintro ⟨⟩)
      · rename_i hopen
        refine .quiet rfl rfl rfl (fun hcollected _ => ?_) (by rintro ⟨⟩) (by rintro ⟨⟩)
        simp [hcollected] at hopen
  | unsubscribe id =>
      rw [perform]
      refine .quiet rfl rfl rfl (fun _ hnone => ?_) (by rintro ⟨⟩) (by rintro ⟨⟩)
      rw [Bucket.unsubscribe, hnone]
      rfl
  | visualize shown =>
      rw [perform]
      exact .quiet rfl rfl rfl (fun _ h => h) (by rintro ⟨⟩) (by rintro ⟨⟩)

end Act

end Outcomes

section Keeping

variable {act : Act} {b b' : Bucket}

theorem Bucket.isLawful_create
    (id : BucketId) (address : Address) (coarser : Option BucketRef) :
    (create id address coarser).IsLawful :=
  ⟨(isConsistent_create id address coarser).loaded, nofun⟩

theorem Bucket.IsReclaimed.isLawful
    (h : b.IsReclaimed) :
    b.IsLawful :=
  ⟨by simp [hasPayload, h.state, h.payload], fun _ => h⟩

/-- A bucket that is open is lawful if exactly the state tells that it has a payload. -/
theorem Bucket.isLawful_of_open
    (hopen : b.isCollected = false)
    (hloaded : b.state = .loaded ↔ b.hasPayload = true) :
    b.IsLawful := by
  refine ⟨hloaded, fun hcollected => ?_⟩
  rw [hopen] at hcollected
  cases hcollected

namespace Act.Outcome

theorem isLawful
    (h : Outcome act b b')
    (hb : b.IsLawful) :
    b'.IsLawful := by
  cases h with
  | quiet hstate hpayload hcollected hdismissed _ _ =>
      refine ⟨?_, fun hclosed => ?_⟩
      · rw [Bucket.hasPayload, hstate, hpayload]
        exact hb.loaded
      · have hold := hb.reclaimed (hcollected.symm.trans hclosed)
        exact ⟨hclosed, hpayload.trans hold.payload, hstate.trans hold.state,
          hdismissed hold.isCollected hold.listeners⟩
  | pulled hopen hstate =>
      refine Bucket.isLawful_of_open hopen ?_
      have hnone : ¬ b.hasPayload = true := by
        rw [← hb.loaded, hstate]
        nofun
      exact iff_of_false nofun hnone
  | filled _ hstill hstate hpayload =>
      exact Bucket.isLawful_of_open hstill
        (iff_of_true hstate (Bucket.hasPayload_of_eq_some hpayload))
  | stored hopen hpayload =>
      exact Bucket.isLawful_of_open hopen (iff_of_true (hb.loaded.mpr hpayload) rfl)
  | reclaimed _ h => exact h.isLawful

/-- What is collected stays collected. -/
theorem isCollected
    (h : Outcome act b b')
    (hb : b.isCollected = true) :
    b'.isCollected = true := by
  cases h with
  | quiet _ _ hcollected _ _ _ => exact hcollected.trans hb
  | pulled _ _ => exact hb
  | filled hopen _ _ _ =>
      rw [hopen] at hb
      cases hb
  | stored _ _ => exact hb
  | reclaimed _ h => exact h.isCollected

theorem isTaken
    (h : Outcome act b b')
    (hb : b.IsTaken) :
    b'.IsTaken := by
  cases h with
  | quiet hstate _ hcollected _ _ _ =>
      unfold Bucket.IsTaken
      rw [hstate, hcollected]
      exact hb
  | pulled _ _ => exact .inr nofun
  | filled _ _ hstate _ =>
      refine .inr ?_
      rw [hstate]
      nofun
  | stored _ _ => exact hb
  | reclaimed _ h => exact .inl h.isCollected

/-- A payload is not lost but by collection. -/
theorem isFilledOrCollected
    (h : Outcome act b b')
    (hb : b.IsFilledOrCollected) :
    b'.IsFilledOrCollected := by
  cases h with
  | quiet _ hpayload hcollected _ _ _ =>
      unfold Bucket.IsFilledOrCollected Bucket.hasPayload
      rw [hpayload, hcollected]
      exact hb
  | pulled _ _ => exact hb
  | filled _ _ _ hpayload => exact .inr (Bucket.hasPayload_of_eq_some hpayload)
  | stored _ _ => exact .inr rfl
  | reclaimed _ h => exact .inl h.isCollected

/-- Only collection makes a loaded bucket leave its state. -/
theorem state_ne_loaded_iff
    (h : Outcome act b b')
    (hb : b.IsLawful)
    (hloaded : b.state = .loaded) :
    b'.state ≠ .loaded ↔ act = .collect := by
  have hopen : b.isCollected = false := by
    refine Bool.eq_false_iff.mpr fun hcollected => ?_
    rw [(hb.reclaimed hcollected).state] at hloaded
    cases hloaded
  cases h with
  | quiet hstate _ _ _ _ hcollect =>
      refine iff_of_false (fun hne => hne (hstate.trans hloaded)) fun hact => ?_
      rw [hcollect hact] at hopen
      cases hopen
  | pulled _ hstate =>
      rw [hstate] at hloaded
      cases hloaded
  | filled _ _ hstate _ => exact iff_of_false (fun hne => hne hstate) nofun
  | stored _ _ => exact iff_of_false (fun hne => hne hloaded) nofun
  | reclaimed _ h =>
      refine iff_of_true ?_ rfl
      rw [h.state]
      nofun

end Act.Outcome

end Keeping

section Granting

variable {m : Moment} {b : Bucket}

/-- A bucket that is taken is not given out. -/
theorem Moment.isGranted_of_isTaken
    (h : m.before.IsTaken) :
    m.isGranted = false := by
  refine Bool.eq_false_iff.mpr fun hgranted => ?_
  unfold isGranted at hgranted
  split at hgranted
  · obtain ⟨hstate, hopen⟩ := Bucket.pull_fst_iff.mp hgranted
    rcases h with hcollected | hne
    · rw [hopen] at hcollected
      cases hcollected
    · exact hne hstate
  · cases hgranted

/-- A bucket that is given out is taken afterwards. -/
theorem Moment.isTaken_after
    (h : m.isGranted = true) :
    m.after.IsTaken := by
  obtain ⟨act, b⟩ := m
  cases act with
  | pull =>
      have hfree : b.state = .unrequested ∧ b.isCollected = false := Bucket.pull_fst_iff.mp h
      have hpull : b.pull.2 = { b with state := .loading } := by
        rw [Bucket.pull, if_pos hfree]
      refine .inr ?_
      show b.pull.2.state ≠ .unrequested
      rw [hpull]
      nofun
  | receive _ => cases h
  | store _ => cases h
  | collect => cases h
  | subscribe _ _ => cases h
  | unsubscribe _ => cases h
  | visualize _ => cases h

namespace Act

theorem countP_isGranted_of_isTaken
    (acts : List Act)
    (h : b.IsTaken) :
    (history acts b).countP Moment.isGranted = 0 := by
  refine List.countP_eq_zero.mpr fun m hm => ?_
  have hbefore := (history_keeps (fun act b => (outcome act b).isTaken) h hm).1
  simp [Moment.isGranted_of_isTaken hbefore]

/-- A bucket is given out at most once. -/
theorem countP_isGranted_le_one (acts : List Act) (b : Bucket) :
    (history acts b).countP Moment.isGranted ≤ 1 := by
  induction acts generalizing b with
  | nil => exact Nat.zero_le 1
  | cons act rest ih =>
      rw [history, List.countP_cons]
      split
      · rename_i hgranted
        have htaken : (act.perform b).1.IsTaken := Moment.isTaken_after hgranted
        exact Nat.succ_le_succ (Nat.le_of_eq (countP_isGranted_of_isTaken rest htaken))
      · rw [Nat.add_zero]
        exact ih _

end Act

end Granting

section Labeling

namespace Edit

/-- Write the first bytes of a payload one after the other. -/
def writing (result : Payload) (n : Nat) : List Edit :=
  (List.range n).map fun i => ⟨i, (result.data[i]?).getD 0⟩

theorem getElem?_apply (payload : Payload) (edit : Edit) (i : Nat) :
    (apply payload edit).data[i]? =
      if edit.index = i ∧ i < payload.size then some edit.value else payload.data[i]? := by
  unfold apply
  split
  · rename_i hlt
    show (payload.data.set edit.index edit.value hlt)[i]? = _
    rw [Array.getElem?_set]
    by_cases hi : edit.index = i
    · subst hi
      rw [if_pos rfl, if_pos ⟨rfl, hlt⟩]
    · rw [if_neg hi, if_neg fun h => hi h.1]
  · rename_i hge
    rw [if_neg]
    rintro ⟨rfl, hlt⟩
    exact hge hlt

/-- After the first bytes are written, they are there, and the others are as before. -/
theorem getElem?_applyAll_writing
    {payload result : Payload} {n : Nat}
    (hsize : result.size = payload.size)
    (hn : n ≤ result.size)
    (i : Nat) :
    (applyAll (writing result n) payload).data[i]? =
      if i < n then result.data[i]? else payload.data[i]? := by
  induction n with
  | zero => rfl
  | succ n ih =>
      have hlast : applyAll (writing result (n + 1)) payload =
          apply (applyAll (writing result n) payload) ⟨n, (result.data[n]?).getD 0⟩ := by
        simp [applyAll, writing, List.range_succ]
      obtain ⟨byte, hbyte⟩ : ∃ byte, result.data[n]? = some byte :=
        ⟨_, Array.getElem?_eq_getElem hn⟩
      rw [hlast, getElem?_apply, ih (Nat.le_of_succ_le hn), size_applyAll, ← hsize, hbyte]
      by_cases hi : n = i
      · subst hi
        rw [if_pos ⟨rfl, hn⟩, if_pos (Nat.lt_succ_self n), hbyte]
        rfl
      · rw [if_neg fun h => hi h.1]
        have hiff : i < n + 1 ↔ i < n := by omega
        simp only [hiff]

/-- A labeling can make any bytes of a payload, as many as it has. -/
theorem exists_applyAll_eq
    {payload result : Payload}
    (hsize : result.size = payload.size) :
    ∃ edits, applyAll edits payload = result := by
  refine ⟨writing result result.size, ByteArray.ext (Array.ext_getElem? fun i => ?_)⟩
  rw [getElem?_applyAll_writing hsize (Nat.le_refl _)]
  split
  · rfl
  · rename_i hge
    have hresult : result.data.size ≤ i := Nat.le_of_not_lt hge
    have hpayload : payload.data.size ≤ i := Nat.le_trans (Nat.le_of_eq hsize.symm) hresult
    rw [Array.getElem?_eq_none hresult, Array.getElem?_eq_none hpayload]

end Edit

namespace Deed

variable {b : Bucket} {payload : Payload} {during : Bucket → Bucket × List Post}

/-- Whether the copy is put in place depends only on whether the bucket was collected. -/
theorem label_of_payload_eq_some
    (edits : List Edit)
    (hpayload : b.payload = some payload)
    (hduring : (during b).1.IsFilledOrCollected) :
    b.label edits during =
      if (during b).1.isCollected then
        (false, (during b).1, (during b).2)
      else
        (true, { (during b).1 with payload := some (Edit.applyAll edits payload) },
          (during b).2 ++ (during b).1.posts .labeled) := by
  simp only [Bucket.label, hpayload]
  cases hcollected : (during b).1.isCollected with
  | true => rfl
  | false =>
      have hfilled : (during b).1.hasPayload = true := by
        rcases hduring with hclosed | hfilled
        · rw [hcollected] at hclosed
          cases hclosed
        · exact hfilled
      rw [hfilled]
      rfl

/-- Nothing that is done to a bucket takes its payload away but collection. -/
theorem isFilledOrCollected_performAll
    (ds : List Deed)
    (hpayload : b.payload = some payload) :
    (performAll ds b).1.IsFilledOrCollected := by
  rw [performAll_eq_acts]
  have hfilled : b.IsFilledOrCollected := .inr (Bucket.hasPayload_of_eq_some hpayload)
  exact Act.performAll_keeps (fun act b => (act.outcome b).isFilledOrCollected) _ hfilled

/-- The answer of a labeling, and what it leaves. -/
theorem label_spec (edits : List Edit) (meanwhile : List Deed) (b : Bucket) :
    let acted := (performAll meanwhile b).1
    let labeled := b.label edits (performAll meanwhile)
    (labeled.1 = true ↔ b.hasPayload = true ∧ acted.isCollected = false) ∧
    (labeled.1 = true → ∃ payload, b.payload = some payload ∧
      labeled.2.1 = { acted with payload := some (Edit.applyAll edits payload) } ∧
      (Edit.applyAll edits payload).size = payload.size) ∧
    (labeled.1 = false → labeled.2.1 = if b.hasPayload then acted else b) := by
  intro acted labeled
  cases hpayload : b.payload with
  | none =>
      have hlabeled : labeled = (false, b, []) := label_of_payload_eq_none edits _ hpayload
      have hnone : b.hasPayload = false := by
        rw [Bucket.hasPayload, hpayload]
        rfl
      rw [hlabeled, hnone]
      exact ⟨by simp, nofun, fun _ => rfl⟩
  | some payload =>
      have hfilled : acted.IsFilledOrCollected :=
        isFilledOrCollected_performAll meanwhile hpayload
      have hsome : b.hasPayload = true := Bucket.hasPayload_of_eq_some hpayload
      have hlabeled := label_of_payload_eq_some edits hpayload hfilled
      cases hcollected : acted.isCollected with
      | true =>
          have hkept : labeled = (false, acted, (performAll meanwhile b).2) :=
            hlabeled.trans (if_pos hcollected)
          rw [hkept, hsome]
          exact ⟨by simp, nofun, fun _ => rfl⟩
      | false =>
          have hstored : labeled =
              (true, { acted with payload := some (Edit.applyAll edits payload) },
                (performAll meanwhile b).2 ++ acted.posts .labeled) :=
            hlabeled.trans (if_neg (Bool.eq_false_iff.mp hcollected))
          rw [hstored, hsome]
          refine ⟨by simp, fun _ => ⟨payload, rfl, ?_, Edit.size_applyAll edits payload⟩, nofun⟩
          rw [← hcollected]

end Deed

end Labeling

section Law

/--
Whatever is done to a bucket, also while it is relabeled, exactly a loaded bucket has a payload,
and nothing is left of a bucket that was collected, now and later.  A bucket is given out at most
once, and only collection makes it leave the loaded state.  A labeling succeeds if there was a
payload and the bucket was not collected meanwhile; then, and only then, the changed copy is the
payload.  It may be any bytes, as many as the payload had at the start.
-/
theorem lifecycle_lawful
    (id : BucketId) (address : Address) (coarser : Option BucketRef) (ds : List Deed) :
    let created := Bucket.create id address coarser
    let acts := Deed.actsAll ds created
    let moments := Act.history acts created
    let b := (Deed.performAll ds created).1
    Deed.performAll ds created = Act.performAll acts created ∧
    b.IsLawful ∧
    (b.isCollected = true → ∀ later, (Deed.performAll later b).1.IsReclaimed) ∧
    (∀ m ∈ moments,
      m.before.IsLawful ∧ m.after.IsLawful ∧
      (m.before.isCollected = true → m.after.isCollected = true) ∧
      (m.before.state = .loaded → (m.after.state ≠ .loaded ↔ m.act = .collect))) ∧
    moments.countP Moment.isGranted ≤ 1 ∧
    (∀ edits meanwhile,
      let acted := (Deed.performAll meanwhile b).1
      let labeled := b.label edits (Deed.performAll meanwhile)
      (labeled.1 = true ↔ b.hasPayload = true ∧ acted.isCollected = false) ∧
      (labeled.1 = true → ∃ payload, b.payload = some payload ∧
        labeled.2.1 = { acted with payload := some (Edit.applyAll edits payload) } ∧
        (Edit.applyAll edits payload).size = payload.size) ∧
      (labeled.1 = false → labeled.2.1 = if b.hasPayload then acted else b)) ∧
    ∀ payload result : Payload, result.size = payload.size →
      ∃ edits, Edit.applyAll edits payload = result := by
  intro created acts moments b
  have hlawful : ∀ (act : Act) (b : Bucket), b.IsLawful → (act.perform b).1.IsLawful :=
    fun act b => (act.outcome b).isLawful
  have hcreated : created.IsLawful := Bucket.isLawful_create id address coarser
  have hacts : Deed.performAll ds created = Act.performAll acts created :=
    Deed.performAll_eq_acts ds created
  have hb : b.IsLawful := by
    show (Deed.performAll ds created).1.IsLawful
    rw [hacts]
    exact Act.performAll_keeps hlawful acts hcreated
  refine ⟨hacts, hb, fun hcollected later => ?_, fun m hm => ?_,
    Act.countP_isGranted_le_one acts created, fun edits meanwhile => ?_,
    fun _ _ => Edit.exists_applyAll_eq⟩
  · rw [Deed.performAll_eq_acts]
    have hlater := Act.performAll_keeps (P := fun b => b.IsLawful ∧ b.isCollected = true)
      (fun act b h => ⟨hlawful act b h.1, (act.outcome b).isCollected h.2⟩)
      (Deed.actsAll later b) ⟨hb, hcollected⟩
    exact hlater.1.reclaimed hlater.2
  · have hmoment := Act.history_keeps hlawful hcreated hm
    have houtcome := m.act.outcome m.before
    exact ⟨hmoment.1, hmoment.2, houtcome.isCollected, houtcome.state_ne_loaded_iff hmoment.1⟩
  · exact Deed.label_spec edits meanwhile b

/-- A bucket that is collected while it is relabeled stays empty. -/
example :
    let b := (Deed.performAll [.pull, .receive ⟨#[1, 2]⟩] (.create 0 ⟨0, 0, 0, 0⟩ none)).1
    let labeled := b.label [⟨0, 7⟩] (Deed.performAll [.collect])
    labeled.1 = false ∧ labeled.2.1.payload = none := by
  decide

end Law

end VoxelCache
