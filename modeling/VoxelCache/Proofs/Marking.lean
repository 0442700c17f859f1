import VoxelCache.Pool
import Mathlib.Data.List.Basic

/-!
# Marks of the buckets that stay

Whether a bucket stays is found out by marking: from every root, the chain of coarser buckets
is followed and the identity of each bucket is marked, up to the first one that is marked
already.  To stop there loses nothing, because marks are **closed**: above a marked bucket
everything is marked, apart from the bucket at which a walk has just arrived.

Marks are identities, not places.  They tell buckets apart only where identities differ,
as they do among the buckets that one pool has created.

**Results.**
* `Pool.mem_marks_iff`, `Pool.stays_iff_needs`: exactly those buckets are marked and stay that
  are needed, in whatever order the pool lists them.
* `Pool.not_isRoot_of_stays_eq_false`: no bucket leaves that is held by others or loading.
-/

namespace VoxelCache

section Marking

variable {s : Scene} {held : BucketRef → Bool} {known needed : BucketRef → Prop}
variable {marked : List BucketId} {ref : BucketRef}

namespace Scene

/-- Whether identities tell some buckets apart, and no chain leaves these buckets. -/
structure Separates (s : Scene) (held : BucketRef → Bool) (known : BucketRef → Prop) : Prop where
  ids : ∀ x y, known x → known y → (s.bucket x).id = (s.bucket y).id → x = y
  coarser : ∀ x c, known x → s.coarser? held x = some c → known c

/-- Whether the coarser bucket of each marked one is marked, `ref` apart. -/
def IsClosedBut (s : Scene) (held : BucketRef → Bool) (known : BucketRef → Prop)
    (marked : List BucketId) (ref : BucketRef) : Prop :=
  ∀ x c, known x → x ≠ ref → (s.bucket x).id ∈ marked → s.coarser? held x = some c →
    (s.bucket c).id ∈ marked

/-- Whether the coarser bucket of each marked one is marked. -/
def IsClosed (s : Scene) (held : BucketRef → Bool) (known : BucketRef → Prop)
    (marked : List BucketId) : Prop :=
  ∀ x c, known x → (s.bucket x).id ∈ marked → s.coarser? held x = some c →
    (s.bucket c).id ∈ marked

/-- Whether all marks are of buckets that are needed. -/
def MarksOnly (s : Scene) (known needed : BucketRef → Prop) (marked : List BucketId) : Prop :=
  ∀ i ∈ marked, ∃ x, known x ∧ needed x ∧ (s.bucket x).id = i

theorem subset_markAbove
    (s : Scene) (held : BucketRef → Bool) (marked : List BucketId) (ref : BucketRef) :
    marked ⊆ s.markAbove held marked ref := by
  fun_induction markAbove s held marked ref with
  | case1 => exact List.Subset.refl _
  | case2 => exact List.Subset.refl _
  | case3 marked ref c _ _ _ ih => exact List.Subset.trans (List.subset_cons_self _ _) ih

/-- A bucket that is marked without the one above it is the only one of that kind. -/
theorem IsClosed.mark
    (h : s.IsClosed held known marked)
    (hseparates : s.Separates held known)
    (href : known ref) :
    s.IsClosedBut held known ((s.bucket ref).id :: marked) ref := by
  intro x c hx hne hmarked hcoarser
  rcases List.mem_cons.mp hmarked with hid | hmarked
  · exact absurd (hseparates.ids x ref hx href hid) hne
  · exact List.mem_cons_of_mem _ (h x c hx hmarked hcoarser)

/-- At the end of a walk nothing is missing above any marked bucket. -/
theorem isClosed_markAbove
    (hseparates : s.Separates held known)
    (h : s.IsClosedBut held known marked ref)
    (href : known ref) :
    s.IsClosed held known (s.markAbove held marked ref) := by
  fun_induction markAbove s held marked ref with
  | case1 marked ref hnone =>
      intro x c hx hmarked hcoarser
      by_cases hsame : x = ref
      · rw [hsame, hnone] at hcoarser
        cases hcoarser
      · exact h x c hx hsame hmarked hcoarser
  | case2 marked ref c hsome _ halready =>
      intro x d hx hmarked hcoarser
      by_cases hsame : x = ref
      · rw [hsame, hsome] at hcoarser
        obtain rfl := Option.some.inj hcoarser
        exact List.contains_iff_mem.mp halready
      · exact h x d hx hsame hmarked hcoarser
  | case3 marked ref c hsome _ hnew ih =>
      have hc := hseparates.coarser ref c href hsome
      refine ih ?_ hc
      intro x d hx hne hmarked hcoarser
      by_cases hsame : x = ref
      · rw [hsame, hsome] at hcoarser
        obtain rfl := Option.some.inj hcoarser
        exact List.mem_cons_self
      · rcases List.mem_cons.mp hmarked with hid | hmarked
        · exact absurd (hseparates.ids x c hx hc hid) hne
        · exact List.mem_cons_of_mem _ (h x d hx hsame hmarked hcoarser)

theorem MarksOnly.mark
    (h : s.MarksOnly known needed marked)
    (href : known ref)
    (hneeded : needed ref) :
    s.MarksOnly known needed ((s.bucket ref).id :: marked) := by
  intro i hi
  rcases List.mem_cons.mp hi with rfl | hi
  · exact ⟨ref, href, hneeded, rfl⟩
  · exact h i hi

/-- A walk marks nothing but what is above its start. -/
theorem marksOnly_markAbove
    (hseparates : s.Separates held known)
    (habove : ∀ x c, needed x → s.coarser? held x = some c → needed c)
    (h : s.MarksOnly known needed marked)
    (href : known ref)
    (hneeded : needed ref) :
    s.MarksOnly known needed (s.markAbove held marked ref) := by
  fun_induction markAbove s held marked ref with
  | case1 => exact h
  | case2 => exact h
  | case3 marked ref c hsome _ _ ih =>
      have hc := hseparates.coarser ref c href hsome
      have hneeded' := habove ref c hneeded hsome
      exact ih (h.mark hc hneeded') hc hneeded'

end Scene

namespace Pool

variable {p : Pool} {outside : BucketRef → Bool}

/--
The buckets of a pool that are held by others or loading, and all those that can be reached
from them through links to coarser buckets that still exist.
-/
inductive Needs (p : Pool) (s : Scene) (outside : BucketRef → Bool) : BucketRef → Prop
  | root {a : Address} {ref : BucketRef} :
      (a, ref) ∈ p.entries →
      outside ref = true ∨ (s.bucket ref).state = .loading →
      Needs p s outside ref
  | coarser {ref c : BucketRef} :
      Needs p s outside ref →
      s.coarser? (p.isAlive outside) ref = some c →
      Needs p s outside c

theorem mem_roots_iff :
    ref ∈ p.roots s outside ↔
      (∃ a, (a, ref) ∈ p.entries) ∧ (outside ref = true ∨ (s.bucket ref).state = .loading) := by
  simp [roots]

section Roots

variable {roots : List BucketRef}

/-- Marks stay, and each root is marked. -/
theorem subset_foldl_markAbove
    (s : Scene) (held : BucketRef → Bool) (marked : List BucketId) (roots : List BucketRef) :
    let after := roots.foldl
      (fun marked root => s.markAbove held ((s.bucket root).id :: marked) root) marked
    marked ⊆ after ∧ ∀ root ∈ roots, (s.bucket root).id ∈ after := by
  induction roots generalizing marked with
  | nil => exact ⟨List.Subset.refl _, by simp⟩
  | cons root rest ih =>
      obtain ⟨hsubset, hrest⟩ := ih (s.markAbove held ((s.bucket root).id :: marked) root)
      have hwalked := Scene.subset_markAbove s held ((s.bucket root).id :: marked) root
      refine ⟨fun i hi => hsubset (hwalked (List.mem_cons_of_mem _ hi)), ?_⟩
      intro other hother
      rcases List.mem_cons.mp hother with rfl | hother
      · exact hsubset (hwalked List.mem_cons_self)
      · exact hrest other hother

/-- Walks from some roots leave the marks closed, and nothing is marked that is not needed. -/
theorem isClosed_foldl_markAbove
    (hseparates : s.Separates held known)
    (habove : ∀ x c, needed x → s.coarser? held x = some c → needed c)
    (hroots : ∀ root ∈ roots, known root ∧ needed root)
    (hclosed : s.IsClosed held known marked)
    (honly : s.MarksOnly known needed marked) :
    let after := roots.foldl
      (fun marked root => s.markAbove held ((s.bucket root).id :: marked) root) marked
    s.IsClosed held known after ∧ s.MarksOnly known needed after := by
  induction roots generalizing marked with
  | nil => exact ⟨hclosed, honly⟩
  | cons root rest ih =>
      obtain ⟨hknown, hneeded⟩ := hroots root List.mem_cons_self
      exact ih (fun other hother => hroots other (List.mem_cons_of_mem _ hother))
        (Scene.isClosed_markAbove hseparates (hclosed.mark hseparates hknown) hknown)
        (Scene.marksOnly_markAbove hseparates habove (honly.mark hknown hneeded) hknown hneeded)

end Roots

/-- No bucket leaves that is held by others or loading. -/
theorem not_isRoot_of_stays_eq_false
    {a : Address}
    (hmem : (a, ref) ∈ p.entries)
    (h : p.stays s outside (a, ref) = false) :
    outside ref = false ∧ (s.bucket ref).state ≠ .loading := by
  by_contra hkept
  have hroot : ref ∈ p.roots s outside := by
    refine mem_roots_iff.mpr ⟨⟨a, hmem⟩, ?_⟩
    simp only [not_and_or, Bool.not_eq_false, not_not] at hkept
    exact hkept
  have hmarked := (subset_foldl_markAbove s (p.isAlive outside) [] (p.roots s outside)).2 ref hroot
  rw [stays, marks, List.contains_iff_mem.mpr hmarked] at h
  cases h

/-- A bucket is marked exactly if it is needed. -/
theorem mem_marks_iff
    (hseparates : s.Separates (p.isAlive outside) known)
    (hentries : ∀ entry ∈ p.entries, known entry.2)
    (href : known ref) :
    (s.bucket ref).id ∈ p.marks s outside ↔ p.Needs s outside ref := by
  have hroots : ∀ root ∈ p.roots s outside, known root ∧ p.Needs s outside root := by
    intro root hroot
    obtain ⟨⟨a, hmem⟩, hkept⟩ := mem_roots_iff.mp hroot
    exact ⟨hentries _ hmem, .root hmem hkept⟩
  have hclosed : s.IsClosed (p.isAlive outside) known [] := by
    intro x c _ hmark
    cases hmark
  have honly : s.MarksOnly known (p.Needs s outside) [] := by
    intro i hmark
    cases hmark
  obtain ⟨hclosed, honly⟩ := isClosed_foldl_markAbove hseparates
    (fun _ _ hneeded hsome => .coarser hneeded hsome) hroots hclosed honly
  have hmarked := (subset_foldl_markAbove s (p.isAlive outside) [] (p.roots s outside)).2
  constructor
  · intro hmark
    obtain ⟨x, hx, hneeded, hid⟩ := honly _ hmark
    rwa [← hseparates.ids x ref hx href hid]
  · intro hneeded
    suffices hboth : known ref ∧ (s.bucket ref).id ∈ p.marks s outside from hboth.2
    clear href
    induction hneeded with
    | root hmem hkept => exact ⟨hentries _ hmem, hmarked _ (mem_roots_iff.mpr ⟨⟨_, hmem⟩, hkept⟩)⟩
    | coarser _ hsome ih => exact ⟨hseparates.coarser _ _ ih.1 hsome, hclosed _ _ ih.1 ih.2 hsome⟩

/-- What stays is what is needed. -/
theorem stays_iff_needs
    {a : Address}
    (hseparates : s.Separates (p.isAlive outside) known)
    (hentries : ∀ entry ∈ p.entries, known entry.2)
    (hmem : (a, ref) ∈ p.entries) :
    p.stays s outside (a, ref) = true ↔ p.Needs s outside ref := by
  rw [stays, List.contains_iff_mem]
  exact mem_marks_iff hseparates hentries (hentries _ hmem)

end Pool

end Marking

end VoxelCache
