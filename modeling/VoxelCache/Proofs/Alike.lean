import VoxelCache.Proofs.Deeds
import VoxelCache.Residency.Commit

/-!
# Scenes that are alike

The residency works on a scene by subscriptions, marks, writes to textures and mailboxes.
None of this changes who a bucket is, what it holds, or whether it is collected.

**Results.**
* `alike_readNotices`, `alike_releaseAll`, `alike_reserve`: the scene before and after the
  work of the residency.
-/

namespace VoxelCache

section Alike

/-- Whether the buckets of two scenes differ in nothing but subscriptions and marks. -/
structure Scene.Alike (s s' : Scene) : Prop where
  size : s'.buckets.size = s.buckets.size
  same : ∀ ref, Deed.SameBucket (s.bucket ref) (s'.bucket ref)
  state : ∀ ref, (s'.bucket ref).state = (s.bucket ref).state
  payload : ∀ ref, (s'.bucket ref).payload = (s.bucket ref).payload
  isCollected : ∀ ref, (s'.bucket ref).isCollected = (s.bucket ref).isCollected

namespace Scene

variable {s s' s'' : Scene}

theorem alike_of_buckets
    (h : s'.buckets = s.buckets) :
    Alike s s' := by
  have hsame : ∀ ref, s'.bucket ref = s.bucket ref := by
    intro ref
    unfold bucket
    rw [h]
  refine ⟨by rw [h], ?_, ?_, ?_, ?_⟩
  · intro ref
    rw [hsame]
    exact .refl _
  · intro ref
    rw [hsame]
  · intro ref
    rw [hsame]
  · intro ref
    rw [hsame]

theorem Alike.refl (s : Scene) : Alike s s :=
  alike_of_buckets rfl

theorem Alike.trans
    (h : Alike s s')
    (h' : Alike s' s'') :
    Alike s s'' where
  size := h'.size.trans h.size
  same ref := (h.same ref).trans (h'.same ref)
  state ref := (h'.state ref).trans (h.state ref)
  payload ref := (h'.payload ref).trans (h.payload ref)
  isCollected ref := (h'.isCollected ref).trans (h.isCollected ref)

theorem Alike.extends
    (h : Alike s s') :
    Extends s s' :=
  ⟨Nat.le_of_eq h.size.symm, fun ref _ => h.same ref⟩

theorem alike_setBucket
    {ref : BucketRef} {b : Bucket}
    (hsame : Deed.SameBucket (s.bucket ref) b)
    (hstate : b.state = (s.bucket ref).state)
    (hpayload : b.payload = (s.bucket ref).payload)
    (hcollected : b.isCollected = (s.bucket ref).isCollected) :
    Alike s (s.setBucket ref b) where
  size := by simp
  same := bucket_setBucket_induct (motive := fun other b => Deed.SameBucket (s.bucket other) b)
    hsame fun other => .refl _
  state := bucket_setBucket_keeps (·.state) hstate
  payload := bucket_setBucket_keeps (·.payload) hpayload
  isCollected := bucket_setBucket_keeps (·.isCollected) hcollected

theorem alike_subscribe
    (s : Scene) (ref : BucketRef) (interest : Interest) (mailbox : MailboxRef) :
    Alike s (s.subscribe ref interest mailbox).2 := by
  unfold subscribe Bucket.subscribe
  dsimp only
  split <;> exact alike_setBucket ⟨rfl, rfl, rfl, Nat.le_succ _⟩ rfl rfl rfl

theorem alike_unsubscribe
    (s : Scene) (ref : BucketRef) (id : SubscriptionId) :
    Alike s (s.unsubscribe ref id) :=
  alike_setBucket ⟨rfl, rfl, rfl, Nat.le_refl _⟩ rfl rfl rfl

theorem alike_visualize
    (s : Scene) (ref : BucketRef) (shown : Bool) :
    Alike s (s.visualize ref shown) :=
  alike_setBucket ⟨rfl, rfl, rfl, Nat.le_refl _⟩ rfl rfl rfl

end Scene

namespace Residency

variable {m : Residency} {s : Scene}

theorem alike_dismiss (m : Residency) (s : Scene) (a : ActiveBucket) :
    Scene.Alike s (m.dismiss s a) := by
  have hfirst := Scene.alike_unsubscribe s a.bucket a.subscription
  unfold dismiss
  split
  · exact hfirst.trans (Scene.alike_visualize _ _ _)
  · exact hfirst

theorem alike_release (m : Residency) (s : Scene) (id : BucketId) :
    Scene.Alike s (m.release s id).2 := by
  cases hfind : m.find? id with
  | none =>
      rw [release_of_find?_eq_none s hfind]
      exact .refl s
  | some a =>
      rw [release_of_find?_eq_some s hfind]
      exact alike_dismiss m s a

theorem alike_releaseAll (m : Residency) (s : Scene) (ids : List BucketId) :
    Scene.Alike s (m.releaseAll s ids).2 := by
  induction ids generalizing m s with
  | nil => exact .refl s
  | cons id rest ih => exact (alike_release m s id).trans (ih _ _)

theorem alike_react (m : Residency) (s : Scene) (notice : Notice) :
    Scene.Alike s (m.react s notice).2 := by
  rcases m.react_cases s notice with ⟨_, hreact⟩ | ⟨_, ⟨_, hreact⟩ | ⟨a, _, hreact⟩⟩
  · rw [hreact]
    exact .refl s
  · rw [hreact]
    exact .refl s
  · rw [hreact]
    exact alike_dismiss m s a

theorem alike_reactAll (m : Residency) (s : Scene) (notices : List Notice) :
    Scene.Alike s (m.reactAll s notices).2 := by
  induction notices generalizing m s with
  | nil => exact .refl s
  | cons notice rest ih => exact (alike_react m s notice).trans (ih _ _)

theorem alike_readNotices (m : Residency) (s : Scene) :
    Scene.Alike s (m.readNotices s).2 := by
  have hdrained : Scene.Alike s (s.drain m.mailbox).2 := Scene.alike_of_buckets rfl
  exact hdrained.trans (alike_reactAll m _ _)

theorem alike_reserve (m : Residency) (s : Scene) (ref : BucketRef) (slot : Nat) :
    Scene.Alike s (m.reserve s ref slot).2 :=
  Scene.alike_subscribe s ref (interestIn (s.bucket ref)) m.mailbox

theorem alike_writeSlot
    {s' : Scene} {slot : Nat} {payload : Payload} {outcome : Except Fault Unit}
    (h : m.writeSlot s slot payload = (outcome, s')) :
    Scene.Alike s s' := by
  obtain ⟨device, rfl⟩ := writeSlot_scene h
  exact Scene.alike_of_buckets rfl

theorem alike_markCommitted (m : Residency) (s : Scene) (a : ActiveBucket) :
    Scene.Alike s (m.markCommitted s a).2 := by
  rcases m.markCommitted_scene s a with h | h
  · rw [h]
    exact .refl s
  · rw [h]
    exact Scene.alike_visualize _ _ _

theorem alike_upload (m : Residency) (s : Scene) :
    Scene.Alike s (m.upload s).2.2 := by
  obtain ⟨device, h⟩ := upload_scene m s
  rw [h]
  exact Scene.alike_of_buckets rfl

end Residency

/-- Whether an entry of the books belongs to a bucket of the scene. -/
def Knows (s : Scene) (a : ActiveBucket) : Prop :=
  a.bucket < s.buckets.size ∧ (s.bucket a.bucket).id = a.id

theorem Knows.of_extends
    {s s' : Scene} {a : ActiveBucket}
    (h : Knows s a)
    (hextends : Scene.Extends s s') :
    Knows s' a :=
  ⟨Nat.lt_of_lt_of_le h.1 hextends.size, (hextends.same a.bucket h.1).id.trans h.2⟩

end Alike

end VoxelCache
