import VoxelCache.Proofs.Activating

/-!
# Scenes that agree

A residency does not see all buckets.  It sees those that are active, and those that a rebuild
reaches from them through links to coarser buckets that are held.  What becomes of the others
has no effect on a frame.

**Agreement.**
* `Scene.AgreesOn`: two scenes differ in nothing but the journal and the buckets that are not
  seen.
* `Confines`: the active buckets are seen, and no chain leaves the buckets that are seen.

**Results.**
* `AgreesOn.deed`, `agreesOn_deed`: the same deed may be done to both scenes, and a deed that
  posts nothing to only one of them, if it is done to a bucket that is not seen.
* `AgreesOn.refresh`, `AgreesOn.tick`: rebuilds and frames on scenes that agree answer the same
  and leave the same residency, and again scenes that agree.
-/

namespace VoxelCache

section Scenes

/-- Whether two scenes differ in nothing but the journal and the buckets that are not seen. -/
structure Scene.AgreesOn (seen : BucketRef → Prop) (s s' : Scene) : Prop where
  size : s'.buckets.size = s.buckets.size
  bucket : ∀ ref, seen ref → s'.bucket ref = s.bucket ref
  mailboxes : s'.mailboxes = s.mailboxes
  device : s'.device = s.device

namespace Scene

variable {seen : BucketRef → Prop} {s s' s'' : Scene} {ref : BucketRef}

theorem AgreesOn.refl (s : Scene) : AgreesOn seen s s :=
  ⟨rfl, fun _ _ => rfl, rfl, rfl⟩

theorem AgreesOn.symm
    (h : AgreesOn seen s s') :
    AgreesOn seen s' s :=
  ⟨h.size.symm, fun ref href => (h.bucket ref href).symm, h.mailboxes.symm, h.device.symm⟩

theorem AgreesOn.trans
    (h : AgreesOn seen s s')
    (h' : AgreesOn seen s' s'') :
    AgreesOn seen s s'' :=
  ⟨h'.size.trans h.size, fun ref href => (h'.bucket ref href).trans (h.bucket ref href),
    h'.mailboxes.trans h.mailboxes, h'.device.trans h.device⟩

theorem AgreesOn.journal
    (h : AgreesOn seen s s')
    (journal journal' : Journal) :
    AgreesOn seen { s with journal := journal } { s' with journal := journal' } :=
  ⟨h.size, h.bucket, h.mailboxes, h.device⟩

theorem AgreesOn.setMailbox
    (h : AgreesOn seen s s')
    (target : MailboxRef) (contents : Mailbox) :
    AgreesOn seen (s.setMailbox target contents) (s'.setMailbox target contents) where
  size := h.size
  bucket := h.bucket
  mailboxes := by rw [Scene.setMailbox, Scene.setMailbox, h.mailboxes]
  device := h.device

theorem AgreesOn.mailbox
    (h : AgreesOn seen s s')
    (target : MailboxRef) :
    s'.mailbox target = s.mailbox target := by
  rw [Scene.mailbox, Scene.mailbox, h.mailboxes]

theorem AgreesOn.setBucket
    (h : AgreesOn seen s s')
    (ref : BucketRef) (b : Bucket) :
    AgreesOn seen (s.setBucket ref b) (s'.setBucket ref b) where
  size := by rw [size_setBucket, size_setBucket, h.size]
  bucket other hother := by
    by_cases hsame : other = ref
    · subst hsame
      by_cases hlt : other < s.buckets.size
      · rw [bucket_setBucket_self hlt, bucket_setBucket_self (by rwa [h.size])]
      · simp [Scene.setBucket, Scene.bucket, hlt, h.size]
    · rw [bucket_setBucket_of_ne hsame, bucket_setBucket_of_ne hsame, h.bucket other hother]
  mailboxes := h.mailboxes
  device := h.device

/-- The same change is made to a bucket that is seen. -/
theorem AgreesOn.edit
    (h : AgreesOn seen s s')
    (href : seen ref)
    (change : Bucket → Bucket) :
    AgreesOn seen (s.setBucket ref (change (s.bucket ref)))
      (s'.setBucket ref (change (s'.bucket ref))) := by
  rw [h.bucket ref href]
  exact h.setBucket ref _

theorem AgreesOn.deliver
    (h : AgreesOn seen s s')
    (address : Address) (post : Post) :
    AgreesOn seen (s.deliver address post) (s'.deliver address post) := by
  unfold Scene.deliver
  dsimp only
  rw [h.mailbox]
  split
  · exact h.setMailbox _ _
  · exact h.journal _ _

theorem AgreesOn.deliverAll
    (h : AgreesOn seen s s')
    (address : Address) (posts : List Post) :
    AgreesOn seen (posts.foldl (Scene.deliver address) s)
      (posts.foldl (Scene.deliver address) s') := by
  induction posts generalizing s s' with
  | nil => exact h
  | cons post rest ih => exact ih (h.deliver address post)

theorem AgreesOn.deed
    (h : AgreesOn seen s s')
    (href : seen ref)
    (d : Deed) :
    AgreesOn seen (s.deed ref d) (s'.deed ref d) := by
  obtain ⟨journal, hdeed⟩ := deed_eq_act s ref d
  obtain ⟨journal', hdeed'⟩ := deed_eq_act s' ref d
  rw [hdeed, hdeed', act, act, h.bucket ref href]
  exact ((h.setBucket ref _).deliverAll _ _).journal journal journal'

/-- Nobody notices a deed that posts nothing, if it is done to a bucket that is not seen. -/
theorem agreesOn_deed
    {d : Deed}
    (hunseen : ¬ seen ref)
    (hsilent : (d.perform (s.bucket ref)).2 = []) :
    AgreesOn seen s (s.deed ref d) where
  size := size_deed s ref d
  bucket other hother := bucket_deed_of_ne d fun hsame => hunseen (hsame ▸ hother)
  mailboxes := by
    obtain ⟨journal, hdeed⟩ := deed_eq_act s ref d
    rw [hdeed]
    simp only [act, hsilent, List.foldl_nil]
    rfl
  device := device_deed s ref d

/-- A chain that begins among some buckets does not leave them, if no link does. -/
theorem forall_mem_coarserChain
    {held : BucketRef → Bool}
    (hclosed : ∀ ref c, seen ref → s.coarser? held ref = some c → seen c)
    (href : seen ref) :
    ∀ c ∈ s.coarserChain held ref, seen c := by
  induction ref using Nat.strongRecOn with
  | _ ref ih =>
      cases hsome : s.coarser? held ref with
      | none =>
          rw [coarserChain_of_eq_none hsome]
          exact fun _ hc => nomatch hc
      | some c =>
          have hc := hclosed ref c href hsome
          rw [coarserChain_of_eq_some hsome]
          exact List.forall_mem_cons.mpr ⟨hc, ih c (lt_of_coarser? hsome) hc⟩

end Scene

end Scenes

section Frames

namespace Residency

open Scene

/--
Whether a residency sees no other buckets than those given, on a scene whose buckets are held
as `outside` tells, nor if they are held as `outside'` tells.
-/
structure Confines (seen : BucketRef → Prop) (m : Residency) (s : Scene)
    (outside outside' : BucketRef → Bool) : Prop where
  active : ∀ a ∈ m.active, seen a.bucket
  closed : ∀ ref c, seen ref →
    s.coarser? (fun ref => outside ref || m.holds ref) ref = some c → seen c
  fewer : ∀ ref, outside' ref = true → outside ref = true
  kept : ∀ ref, seen ref → outside ref = true → outside' ref = true

variable {seen : BucketRef → Prop} {outside outside' : BucketRef → Bool}
variable {m m' : Residency} {s s' t : Scene} {ref : BucketRef}

/-- What gives up active buckets and changes no links, sees no more buckets than before. -/
theorem Confines.of_subset
    (h : Confines seen m s outside outside')
    (hactive : ∀ a ∈ m'.active, a ∈ m.active)
    (halike : Scene.Alike s t) :
    Confines seen m' t outside outside' where
  active a ha := h.active a (hactive a ha)
  closed ref c href hsome := by
    refine h.closed ref c href ?_
    simp only [coarser?, (halike.same ref).coarser, Option.filter_eq_some_iff, Bool.and_eq_true,
      Bool.or_eq_true] at hsome ⊢
    refine ⟨hsome.1, hsome.2.1, hsome.2.2.imp_right fun hholds => ?_⟩
    obtain ⟨a, ha, hbucket⟩ := holds_iff.mp hholds
    exact holds_iff.mpr ⟨a, hactive a ha, hbucket⟩
  fewer := h.fewer
  kept := h.kept

section Rebuilds

theorem Confines.coarser?_eq
    (h : Confines seen m s outside outside')
    (hagree : AgreesOn seen s s')
    (href : seen ref) :
    s'.coarser? (fun ref => outside' ref || m.holds ref) ref =
      s.coarser? (fun ref => outside ref || m.holds ref) ref := by
  unfold coarser?
  rw [hagree.bucket ref href]
  cases hlink : (s.bucket ref).coarser with
  | none => rfl
  | some c =>
      have hheld : (decide (c < ref) && (outside' c || m.holds c)) =
          (decide (c < ref) && (outside c || m.holds c)) := by
        rw [Bool.eq_iff_iff]
        simp only [Bool.and_eq_true, Bool.or_eq_true]
        constructor
        · exact And.imp_right (Or.imp_left (h.fewer c))
        · rintro ⟨hlt, hheld⟩
          have hc : seen c := by
            refine h.closed ref c href ?_
            simp only [coarser?, hlink, Option.filter_eq_some_iff, Bool.and_eq_true,
              Bool.or_eq_true]
            exact ⟨trivial, hlt, hheld⟩
          exact ⟨hlt, hheld.imp_left (h.kept c hc)⟩
      rw [Option.filter_some, Option.filter_some, hheld]

theorem Confines.coarserChain_eq
    (h : Confines seen m s outside outside')
    (hagree : AgreesOn seen s s')
    (href : seen ref) :
    s'.coarserChain (fun ref => outside' ref || m.holds ref) ref =
      s.coarserChain (fun ref => outside ref || m.holds ref) ref := by
  induction ref using Nat.strongRecOn with
  | _ ref ih =>
      have hsame := h.coarser?_eq hagree href
      cases hsome : s.coarser? (fun ref => outside ref || m.holds ref) ref with
      | none => rw [coarserChain_of_eq_none hsome, coarserChain_of_eq_none (hsame.trans hsome)]
      | some c =>
          rw [coarserChain_of_eq_some hsome, coarserChain_of_eq_some (hsame.trans hsome),
            ih c (lt_of_coarser? hsome) (h.closed ref c href hsome)]

theorem Confines.entries_eq
    (h : Confines seen m s outside outside')
    (hagree : AgreesOn seen s s') :
    m.entries s' (fun ref => outside' ref || m.holds ref) =
      m.entries s (fun ref => outside ref || m.holds ref) := by
  refine entries_congr rfl rfl rfl rfl fun a ha => ?_
  have hseen := forall_mem_coarserChain h.closed (h.active a ha)
  refine ⟨h.coarserChain_eq hagree (h.active a ha), fun c hc => ?_, fun c hc => ?_⟩
  · rw [hagree.bucket c (hseen c hc)]
  · rcases List.mem_cons.mp hc with rfl | hc
    · rw [hagree.bucket _ (h.active a ha)]
    · rw [hagree.bucket c (hseen c hc)]

end Rebuilds

/-- A single write neither gives nor takes slots. -/
theorem active_commit
    (m : Residency) (s : Scene) (r : WriteRequest) :
    (m.commit s r).2.1.active = m.active := by
  rcases m.commit_cases s r with
    ⟨_, hcommit, _⟩ | ⟨a, _, _, _, _, ⟨_, _, _, hcommit⟩ | ⟨_, _, hcommit⟩⟩ <;>
    simp only [hcommit, markCommitted]

/-- Whether two runs answer the same and leave the same residency, on scenes that agree. -/
def Coincides {α : Type} (seen : BucketRef → Prop) (r r' : α × Residency × Scene) : Prop :=
  ∃ t, r' = (r.1, r.2.1, t) ∧ AgreesOn seen r.2.2 t

end Residency

namespace Scene.AgreesOn

open Residency

variable {seen : BucketRef → Prop} {outside outside' : BucketRef → Bool}
variable {m : Residency} {s s' : Scene}

section LookUps

theorem updateTexture
    (h : AgreesOn seen s s')
    (ref : TextureRef) (data : ByteArray) (r : Rect) :
    ∃ t, s'.updateTexture ref data r = ((s.updateTexture ref data r).1, t) ∧
      AgreesOn seen (s.updateTexture ref data r).2 t := by
  simp only [Scene.updateTexture, h.device]
  exact ⟨_, rfl, h.size, h.bucket, h.mailboxes, rfl⟩

theorem upload
    (h : AgreesOn seen s s') :
    Coincides seen (m.upload s) (m.upload s') := by
  unfold Residency.upload
  cases m.lookUpTexture with
  | none => exact ⟨s', rfl, h⟩
  | some ref =>
      dsimp only
      rw [h.device]
      split
      · obtain ⟨t, hupdate, hagree⟩ := h.updateTexture ref m.lookUp.bytes
          ⟨0, 0, m.settings.lookUpWidth, m.settings.lookUpWidth⟩
        rw [hupdate]
        generalize s.updateTexture _ _ _ = update at hagree
        obtain ⟨outcome, written⟩ := update
        cases outcome <;> exact ⟨t, rfl, hagree⟩
      · exact ⟨s', rfl, h⟩

/-- A rebuild writes the same entries on both scenes. -/
theorem refresh
    (h : AgreesOn seen s s')
    (hconfines : Confines seen m s outside outside') :
    Coincides seen (m.refresh s outside) (m.refresh s' outside') := by
  unfold Residency.refresh
  dsimp only
  rw [hconfines.entries_eq h]
  split
  · exact h.upload
  · exact AgreesOn.upload (h.journal _ _)

theorem renew
    (h : AgreesOn seen s s')
    (hconfines : Confines seen m s outside outside') :
    Coincides seen (m.renew s outside) (m.renew s' outside') := by
  unfold Residency.renew
  split
  · exact h.refresh hconfines
  · split
    · exact h.upload
    · exact ⟨s', rfl, h⟩

end LookUps

section Notices

theorem dismiss
    {a : ActiveBucket}
    (h : AgreesOn seen s s')
    (hseen : seen a.bucket) :
    AgreesOn seen (m.dismiss s a) (m.dismiss s' a) := by
  have hcancelled : AgreesOn seen (s.unsubscribe a.bucket a.subscription)
      (s'.unsubscribe a.bucket a.subscription) := h.edit hseen _
  unfold Residency.dismiss
  dsimp only
  split
  · exact hcancelled.edit hseen (Bucket.visualize false)
  · exact hcancelled

theorem enqueue_eq
    (h : AgreesOn seen s s')
    (hactive : ∀ a ∈ m.active, seen a.bucket)
    (id : BucketId) :
    m.enqueue s' id = m.enqueue s id := by
  unfold enqueue pendingWrite
  split
  · rfl
  · rename_i a hfind
    rw [h.bucket a.bucket (hactive a (find?_eq_some hfind).1)]

theorem react
    (h : AgreesOn seen s s')
    (hactive : ∀ a ∈ m.active, seen a.bucket)
    (notice : Notice) :
    ∃ t, m.react s' notice = ((m.react s notice).1, t) ∧
      AgreesOn seen (m.react s notice).2 t := by
  unfold Residency.react
  cases notice.event with
  | loaded => exact ⟨s', by rw [h.enqueue_eq hactive], h⟩
  | labeled => exact ⟨s', by rw [h.enqueue_eq hactive], h⟩
  | collected =>
      cases hfind : m.find? notice.bucket with
      | none =>
          simp only [release_of_find?_eq_none _ hfind]
          exact ⟨s', rfl, h⟩
      | some a =>
          simp only [release_of_find?_eq_some _ hfind]
          exact ⟨_, rfl, h.dismiss (hactive a (find?_eq_some hfind).1)⟩

theorem reactAll
    (h : AgreesOn seen s s')
    (hactive : ∀ a ∈ m.active, seen a.bucket)
    (notices : List Notice) :
    ∃ t, m.reactAll s' notices = ((m.reactAll s notices).1, t) ∧
      AgreesOn seen (m.reactAll s notices).2 t := by
  induction notices generalizing m s s' with
  | nil => exact ⟨s', rfl, h⟩
  | cons notice rest ih =>
      obtain ⟨mid, hmid, hagree⟩ := h.react hactive notice
      obtain ⟨t, hrest, hagree⟩ := ih hagree fun a ha => hactive a (mem_active_of_mem_react ha)
      refine ⟨t, ?_, hagree⟩
      rw [Residency.reactAll, List.foldl_cons, hmid]
      exact hrest

theorem readNotices
    (h : AgreesOn seen s s')
    (hactive : ∀ a ∈ m.active, seen a.bucket) :
    ∃ t, m.readNotices s' = ((m.readNotices s).1, t) ∧ AgreesOn seen (m.readNotices s).2 t := by
  simp only [Residency.readNotices, drain, h.mailbox]
  exact AgreesOn.reactAll (h.setMailbox _ _) hactive _

end Notices

section Writes

theorem commit
    (h : AgreesOn seen s s')
    (hactive : ∀ a ∈ m.active, seen a.bucket)
    (r : WriteRequest) :
    Coincides seen (m.commit s r) (m.commit s' r) := by
  unfold Residency.commit
  cases hfind : (m.find? r.bucket).filter fun a => a.slot == r.slot with
  | none => exact ⟨_, rfl, h.journal _ _⟩
  | some a =>
      have ha : seen a.bucket :=
        hactive a (find?_eq_some (Option.filter_eq_some_iff.mp hfind).1).1
      dsimp only
      rw [h.bucket a.bucket ha]
      cases (s.bucket a.bucket).payload with
      | none => exact ⟨s', rfl, h⟩
      | some payload =>
          obtain ⟨t, hwrite, hagree⟩ := h.updateTexture
            (m.dataTextures.getD (m.layout.textureOf r.slot) 0) payload (m.layout.rectOf r.slot)
          dsimp only [writeSlot]
          rw [hwrite]
          generalize s.updateTexture _ _ _ = update at hagree
          obtain ⟨outcome, written⟩ := update
          cases outcome with
          | error fault => exact ⟨t, rfl, hagree⟩
          | ok _ =>
              refine ⟨(m.markCommitted t a).2, rfl, ?_⟩
              simp only [markCommitted]
              split
              · exact hagree.edit ha (Bucket.visualize true)
              · exact hagree

theorem commitAll
    (h : AgreesOn seen s s')
    (hactive : ∀ a ∈ m.active, seen a.bucket)
    (allowance : Allowance) (done : Nat) (queue : List WriteRequest) :
    Coincides seen (m.commitAll s allowance done queue) (m.commitAll s' allowance done queue) := by
  induction queue generalizing m s s' allowance done with
  | nil => exact ⟨s', rfl, h⟩
  | cons r rest ih =>
      rw [Residency.commitAll, Residency.commitAll]
      split
      · exact ⟨s', rfl, h⟩
      · obtain ⟨t, hcommit, hagree⟩ := h.commit hactive r
        have hkept := active_commit m s r
        rw [hcommit]
        generalize m.commit s r = first at hagree hkept
        obtain ⟨answer, mid, written⟩ := first
        cases answer with
        | error fault => exact ⟨t, rfl, hagree⟩
        | ok committed => exact ih hagree (fun a ha => hactive a (hkept ▸ ha)) _ _

theorem work
    (h : AgreesOn seen s s')
    (hactive : ∀ a ∈ m.active, seen a.bucket)
    (allowance : Allowance) :
    Coincides seen (m.work s allowance) (m.work s' allowance) := by
  have hready : m.isReady s' = m.isReady s := by rw [isReady, isReady, h.device]
  unfold Residency.work
  rw [hready]
  split
  · obtain ⟨t, hcommit, hagree⟩ := h.commitAll hactive allowance 0 (newestPerSlot m.queue)
    rw [hcommit]
    generalize m.commitAll s allowance 0 (newestPerSlot m.queue) = pass at hagree
    obtain ⟨answer, mid, written⟩ := pass
    cases answer with
    | error fault => exact ⟨t, rfl, hagree⟩
    | ok done =>
        refine ⟨_, rfl, ?_⟩
        dsimp only
        split
        · exact hagree
        · exact hagree.journal _ _
  · exact ⟨_, rfl, h.journal _ _⟩

end Writes

/-- A frame does the same on both scenes. -/
theorem tick
    (h : AgreesOn seen s s')
    (hconfines : Confines seen m s outside outside')
    (allowance : Allowance) :
    Coincides seen (m.tick s outside allowance) (m.tick s' outside' allowance) := by
  obtain ⟨t, hread, hagree⟩ := h.readNotices hconfines.active
  have hheard : Confines seen (m.readNotices s).1 (m.readNotices s).2 outside outside' :=
    hconfines.of_subset (fun _ => mem_active_of_mem_readNotices) (alike_readNotices m s)
  unfold Residency.tick
  rw [hread]
  generalize m.readNotices s = read at hagree hheard
  obtain ⟨heard, after⟩ := read
  dsimp only at hagree hheard ⊢
  obtain ⟨t', hwork, hagree⟩ := hagree.work hheard.active allowance
  have hworked : Confines seen (heard.work after allowance).2.1 (heard.work after allowance).2.2
      outside outside' := by
    refine hheard.of_subset (fun a ha => ?_) (moves_work true heard after .blank allowance).alike
    rwa [active_work] at ha
  rw [hwork]
  generalize heard.work after allowance = pass at hagree hworked
  obtain ⟨answer, worked, written⟩ := pass
  cases answer with
  | error fault => exact ⟨t', rfl, hagree⟩
  | ok done =>
      obtain ⟨last, hrenew, hagree⟩ := hagree.renew hworked
      dsimp only at hrenew hagree ⊢
      rw [hrenew]
      generalize worked.renew written outside = renewal at hagree
      obtain ⟨renewed, final, shown⟩ := renewal
      cases renewed <;> exact ⟨last, rfl, hagree⟩

end Scene.AgreesOn

end Frames

end VoxelCache
