import VoxelCache.Proofs.SessionMoves

/-!
# The only listener

In a session nobody subscribes to buckets but the residency, which subscribes to a bucket when
it gives it a slot and cancels the subscription when it takes the slot away.  So nothing that
is done to a bucket that is not active is told to anybody.

**Invariant.**
* `ListensAlone`: every subscription belongs to the entry of an active bucket.

**Results.**
* `Reached.listensAlone`: the invariant holds in every session.
* `ListensAlone.posts_eq_nil`: so deeds to other buckets post nothing.
-/

namespace VoxelCache

section Listening

open Residency

/-- Whether nobody listens to a bucket but the residency, and it only while it is active. -/
def Residency.ListensAlone (m : Residency) (s : Scene) : Prop :=
  ∀ ref, ∀ l ∈ (s.bucket ref).listeners, ∃ a ∈ m.active, a.bucket = ref ∧ a.subscription = l.id

variable {opening : Bool} {w w' : World} {m m' : Residency} {s s' : Scene} {a : ActiveBucket}

/-- The case of what takes no slot away and subscribes nobody. -/
theorem Residency.ListensAlone.of_subset
    (h : m.ListensAlone s)
    (hactive : ∀ a ∈ m.active, a ∈ m'.active)
    (hlisteners : ∀ ref, ∀ l ∈ (s'.bucket ref).listeners,
      ∃ before ∈ (s.bucket ref).listeners, before.id = l.id) :
    m'.ListensAlone s' := by
  intro ref l hl
  obtain ⟨before, hbefore, hid⟩ := hlisteners ref l hl
  obtain ⟨a, ha, hbucket, hsubscription⟩ := h ref before hbefore
  exact ⟨a, hactive a ha, hbucket, hsubscription.trans hid⟩

/-- The case of what does not touch the buckets either. -/
theorem Residency.ListensAlone.of_buckets
    (h : m.ListensAlone s)
    (hactive : ∀ a ∈ m.active, a ∈ m'.active)
    (hbuckets : s'.buckets = s.buckets) :
    m'.ListensAlone s' := by
  refine h.of_subset hactive fun ref l hl => ⟨l, ?_, rfl⟩
  rwa [Scene.bucket, hbuckets] at hl

/-- Nobody subscribes by what a session does to its buckets. -/
theorem exists_listener_of_own
    {b : Bucket} {d : Deed} {l : Listener}
    (hown : d = .pull ∨ (∃ payload, d = .receive payload) ∨ d = .collect)
    (hl : l ∈ (d.perform b).1.listeners) :
    ∃ before ∈ b.listeners, before.id = l.id := by
  rcases hown with rfl | ⟨payload, rfl⟩ | rfl
  · rw [Deed.perform, Bucket.pull] at hl
    split at hl <;> exact ⟨l, hl, rfl⟩
  · rw [Deed.perform, Bucket.receive] at hl
    split at hl
    · exact ⟨l, hl, rfl⟩
    · obtain ⟨before, hbefore, rfl⟩ := List.mem_map.mp (List.mem_filter.mp hl).1
      exact ⟨before, hbefore, rfl⟩
  · rw [Deed.perform] at hl
    cases hopen : b.isCollected with
    | true =>
        rw [Bucket.collect_of_isCollected hopen] at hl
        exact ⟨l, hl, rfl⟩
    | false =>
        rw [Bucket.listeners_collect hopen] at hl
        cases hl

theorem Residency.ListensAlone.of_occur
    {o : Occurrence}
    (h : m.ListensAlone s)
    (hown : o.IsOwn s) :
    m.ListensAlone (s.occur o) := by
  cases o with
  | deed ref d =>
      refine h.of_subset (fun _ ha => ha) fun other l hl => ?_
      by_cases hsame : other = ref
      · rw [hsame, Scene.occur, Scene.bucket_deed_self d hown.1] at hl
        rw [hsame]
        exact exists_listener_of_own hown.2 hl
      · rw [Scene.occur, Scene.bucket_deed_of_ne d hsame] at hl
        exact ⟨l, hl, rfl⟩
  | create id address coarser =>
      refine h.of_subset (fun _ ha => ha) fun ref l hl => ?_
      rw [Scene.occur, Scene.bucket_addBucket] at hl
      split at hl
      · cases hl
      · exact ⟨l, hl, rfl⟩
  | openMailbox => cases hown
  | drain mailbox => cases hown
  | closeMailbox mailbox => cases hown
  | addSwitch isOn => exact h.of_buckets (fun _ ha => ha) rfl
  | setSwitch switch isOn => exact h.of_buckets (fun _ ha => ha) rfl
  | addTape => exact h.of_buckets (fun _ ha => ha) rfl
  | setFuses tape updateFuse createFuse => exact h.of_buckets (fun _ ha => ha) rfl

theorem listensAlone_forgo
    (htidy : Tidy w.residency)
    (h : w.residency.ListensAlone w.scene)
    (ha : a ∈ w.residency.active) :
    (w.forgo a).residency.ListensAlone (w.forgo a).scene := by
  intro ref l hl
  obtain ⟨b, hb, hbucket, hsubscription⟩ := h ref l (mem_listeners_of_mem_dismiss hl)
  refine ⟨b, List.mem_filter.mpr ⟨hb, ?_⟩, hbucket, hsubscription⟩
  -- The entry that is given up would have taken its subscription along.
  rw [bne_iff_ne]
  intro hid
  obtain rfl := htidy.eq_of_id hb ha hid
  subst hbucket
  rw [show (w.forgo b).scene = w.residency.dismiss w.scene b from rfl,
    listeners_dismiss_self] at hl
  exact bne_iff_ne.mp (List.mem_filter.mp hl).2 hsubscription.symm

theorem listensAlone_hear
    (htidy : Tidy w.residency)
    (h : w.residency.ListensAlone w.scene)
    (notice : Notice) (rest : List Notice) :
    (w.hear notice rest).residency.ListensAlone (w.hear notice rest).scene := by
  have hpopped : (w.pop rest).residency.ListensAlone (w.pop rest).scene :=
    h.of_buckets (fun _ ha => ha) rfl
  exact World.hear_induct (hpopped.of_buckets (fun _ ha => ha) rfl) hpopped
    fun a => listensAlone_forgo (w := w.pop rest) htidy hpopped

theorem listensAlone_reserve
    (h : w.residency.ListensAlone w.scene)
    (ref : BucketRef) (slot : Nat) (free : List Nat) :
    (w.reserve ref slot free).residency.ListensAlone (w.reserve ref slot free).scene := by
  let subscribed := w.scene.subscribe ref (interestIn (w.scene.bucket ref)) w.residency.mailbox
  let new : ActiveBucket := ⟨(w.scene.bucket ref).id, ref, slot, subscribed.1⟩
  have hactive : (w.reserve ref slot free).residency.active = w.residency.active ++ [new] := rfl
  rw [Residency.ListensAlone, hactive]
  have hold : ∀ other, ∀ l ∈ (w.scene.bucket other).listeners,
      ∃ a ∈ w.residency.active ++ [new], a.bucket = other ∧ a.subscription = l.id := by
    intro other l hl
    obtain ⟨a, ha, hboth⟩ := h other l hl
    exact ⟨a, List.mem_append_left _ ha, hboth⟩
  refine Scene.bucket_setBucket_induct
    (b := ((w.scene.bucket ref).subscribe (interestIn (w.scene.bucket ref))
      w.residency.mailbox).2)
    (motive := fun other b => ∀ l ∈ b.listeners,
      ∃ a ∈ w.residency.active ++ [new], a.bucket = other ∧ a.subscription = l.id) ?_ hold
  intro l hl
  simp only [Bucket.subscribe] at hl
  split at hl
  · exact hold ref l hl
  · rename_i hopen
    rcases List.mem_append.mp hl with hl | hl
    · exact hold ref l hl
    · obtain rfl := List.mem_singleton.mp hl
      refine ⟨new, List.mem_append_right _ (List.mem_singleton.mpr rfl), rfl, ?_⟩
      simp only [new, subscribed, Scene.subscribe, Bucket.subscribe, if_neg hopen]

theorem Residency.ListensAlone.of_move
    (htidy : Tidy w.residency)
    (h : w.residency.ListensAlone w.scene)
    (hmove : Move opening w w') :
    w'.residency.ListensAlone w'.scene := by
  cases hmove with
  | journal => exact h.of_buckets (fun _ ha => ha) rfl
  | hear _ => exact listensAlone_hear htidy h _ _
  | forgo ha => exact listensAlone_forgo htidy h (find?_eq_some ha).1
  | aim => exact h.of_buckets (fun _ ha => ha) rfl
  | reserve _ _ _ _ => exact listensAlone_reserve h _ _ _
  | thin => exact h.of_buckets (fun _ ha => ha) rfl
  | skip _ _ => exact h.of_buckets (fun _ ha => ha) rfl
  | fail _ _ _ _ _ hfail =>
      obtain ⟨device, rfl⟩ := writeSlot_scene hfail
      exact h.of_buckets (fun _ ha => ha) rfl
  | write _ _ _ _ _ hwrite =>
      refine h.of_subset (fun _ ha => ha) fun ref l hl => ⟨l, ?_, rfl⟩
      rwa [listeners_commit hwrite] at hl
  | upload =>
      obtain ⟨isPending, device, hupload⟩ := w.exists_upload_eq
      rw [hupload]
      exact h.of_buckets (fun _ ha => ha) rfl

/-- In a session nobody but the residency listens to buckets. -/
theorem Session.isKept_listensAlone : IsKept ListensAlone where
  occur hown h := h.of_occur hown
  setUp {m s} factory bytes h := by
    obtain ⟨_, _, _, device, journal, hsetUp⟩ := m.exists_setUp_eq s factory bytes
    rw [hsetUp]
    exact h.of_buckets (fun _ ha => ha) rfl
  move htidy hmove h := h.of_move htidy hmove
  rebuild _ _ h := h.of_buckets (fun _ ha => ha) rfl

theorem Session.Reached.listensAlone
    {allowed : Session → Call → Prop} {x : Session}
    (h : Reached allowed x) :
    x.viewer.residency.ListensAlone x.scene := by
  refine h.of_moves (P := ListensAlone) (fun hblank hcreate => ?_) isKept_listensAlone
  obtain ⟨layout, journal, _, _, rfl, -⟩ := create_eq_ok hcreate
  intro ref l hl
  simp [Scene.bucket, Scene.openMailbox, hblank, default, Bucket.create] at hl

/-- Without listeners nobody is told. -/
theorem posts_eq_nil_of_own
    {b : Bucket} {d : Deed}
    (hown : d = .pull ∨ (∃ payload, d = .receive payload) ∨ d = .collect)
    (hnobody : b.listeners = []) :
    (d.perform b).2 = [] := by
  rcases hown with rfl | ⟨payload, rfl⟩ | rfl
  · rw [Deed.perform]
  · rw [Deed.perform, Bucket.receive]
    split <;> simp [Bucket.announce, Bucket.posts, hnobody]
  · rw [Deed.perform, Bucket.collect]
    split <;> simp [Bucket.announce, Bucket.posts, hnobody]

/-- Nobody is told of what a session does to a bucket that is not active. -/
theorem Residency.ListensAlone.posts_eq_nil
    {ref : BucketRef} {d : Deed}
    (h : m.ListensAlone s)
    (hinactive : m.holds ref = false)
    (hown : d = .pull ∨ (∃ payload, d = .receive payload) ∨ d = .collect) :
    (d.perform (s.bucket ref)).2 = [] := by
  refine posts_eq_nil_of_own hown (List.eq_nil_iff_forall_not_mem.mpr fun l hl => ?_)
  obtain ⟨a, ha, hbucket, _⟩ := h ref l hl
  rw [holds_iff.mpr ⟨a, ha, hbucket⟩] at hinactive
  cases hinactive

end Listening

end VoxelCache
