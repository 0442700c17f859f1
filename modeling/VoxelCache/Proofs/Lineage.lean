import VoxelCache.Proofs.Stock
import Mathlib.Data.List.Nodup

/-!
# Lineage of the buckets of a pool

A bucket names the one at the coarser address when it is created, and never again.  The pool
has that one at this time, but it may let go of it later.  How the buckets that a pool has
**issued** name each other is one invariant, whatever others do to the buckets of the scene
and whatever they add to it; the buckets that were **taken** out of the pool by their
address are the only ones to which a link can be lost.

**Results.**
* `Lineage.of_extends`, `Lineage.add`, `Lineage.obtain`, `Lineage.filter`: the lineage
  survives whatever happens to the scene, and all that the pool does.
* `Lineage.stays_iff`: the buckets that stay are those that are needed.
* `Lineage.coarserChain_complete_iff`: the chain above a bucket is complete exactly if nothing of it
  was taken.
-/

namespace VoxelCache

/-- Whether the buckets that a pool has issued are linked as their addresses are. -/
structure Lineage (p : Pool) (s : Scene) (issued taken : List BucketRef) : Prop where
  exist : ∀ ref ∈ issued, ref < s.buckets.size
  /-- Identities are given one after the other, and none is given twice. -/
  ids : (issued.map fun ref => (s.bucket ref).id) = List.range p.nextId
  keys : (p.entries.map (·.1)).Nodup
  entries : ∀ a ref, (a, ref) ∈ p.entries → ref ∈ issued ∧ (s.bucket ref).address = a
  /-- A bucket names one at the next coarser address, if there is such an address. -/
  linked : ∀ ref ∈ issued,
    ((s.bucket ref).coarser.map fun c => (s.bucket c).address) =
      p.pyramid.coarser? (s.bucket ref).address
  older : ∀ ref ∈ issued, ∀ c, (s.bucket ref).coarser = some c → c ∈ issued ∧ c < ref
  /-- The pool lets go of no bucket that is named by another one, the taken ones apart. -/
  complete : ∀ a ref c, (a, ref) ∈ p.entries → (s.bucket ref).coarser = some c →
    p.holds c = true ∨ c ∈ taken
  gone : ∀ c ∈ taken, c ∈ issued ∧ p.holds c = false

/-- All buckets above a bucket, whether they still exist or not. -/
def Scene.lineage (s : Scene) (ref : BucketRef) : List BucketRef :=
  s.coarserChain (fun _ => true) ref

/-- A chain ends early if a bucket of it does not exist any more. -/
theorem Scene.coarserChain_prefix
    (s : Scene) (held : BucketRef → Bool) (ref : BucketRef) :
    s.coarserChain held ref <+: s.lineage ref := by
  fun_induction coarserChain s held ref with
  | case1 => exact List.nil_prefix
  | case2 ref c hsome _ ih =>
      have hlink : s.coarser? (fun _ => true) ref = some c := by
        simp only [coarser?, Option.filter_eq_some_iff, Bool.and_eq_true] at hsome ⊢
        exact ⟨hsome.1, hsome.2.1, trivial⟩
      rw [lineage, coarserChain_of_eq_some hlink]
      exact List.cons_prefix_cons.mpr ⟨rfl, ih⟩

/-- A pool does nothing to a scene but create buckets when it is asked for one. -/
theorem Pool.adds_addChain
    (p : Pool) (s : Scene) (a : Address) (chain : List Address) :
    Scene.Adds s (p.addChain s a chain).2.2 := by
  induction chain generalizing p s a with
  | nil => exact .single ⟨_, _, _, rfl⟩
  | cons c rest ih =>
      cases hfind : p.find? c with
      | some ref =>
          simp only [Pool.addChain, hfind]
          exact .single ⟨_, _, _, rfl⟩
      | none =>
          simp only [Pool.addChain, hfind]
          exact (ih p s c).tail ⟨_, _, _, rfl⟩

theorem Pool.adds_obtain
    (p : Pool) (s : Scene) (a : Address) :
    Scene.Adds s (p.obtain s a).2.2 := by
  unfold Pool.obtain
  split
  · exact .refl
  · split
    · exact .refl
    · exact p.adds_addChain s a _

/-- It does not matter in which order a pool lists its buckets. -/
theorem Pool.holds_of_perm
    {p : Pool} {order : List (Address × BucketRef)}
    (horder : order.Perm p.entries)
    (ref : BucketRef) :
    { p with entries := order }.holds ref = p.holds ref := by
  rw [Bool.eq_iff_iff, holds_iff, holds_iff]
  exact exists_congr fun a => horder.mem_iff

namespace Lineage

variable {p : Pool} {s s' : Scene} {issued taken : List BucketRef}
variable {a : Address} {ref : BucketRef} {outside : BucketRef → Bool}

theorem create
    (pyramid : Pyramid Float) (s : Scene) :
    Lineage (.create pyramid) s [] [] where
  exist _ h := nomatch h
  ids := rfl
  keys := .nil
  entries _ _ h := nomatch h
  linked _ h := nomatch h
  older _ h := nomatch h
  complete _ _ _ h := nomatch h
  gone _ h := nomatch h

section Facts

/-- Two buckets that the pool has issued differ in their identity. -/
theorem eq_of_id_eq
    {other : BucketRef}
    (h : Lineage p s issued taken)
    (href : ref ∈ issued)
    (hother : other ∈ issued)
    (hid : (s.bucket ref).id = (s.bucket other).id) :
    ref = other := by
  have hnodup : (issued.map fun ref => (s.bucket ref).id).Nodup := by
    rw [h.ids]
    exact List.nodup_range
  exact List.inj_on_of_nodup_map hnodup href hother hid

theorem find?_iff
    (h : Lineage p s issued taken) :
    p.find? a = some ref ↔ (a, ref) ∈ p.entries :=
  Pool.find?_iff_mem h.keys

/-- No bucket is entered twice. -/
theorem nodup_refs
    (h : Lineage p s issued taken) :
    (p.entries.map (·.2)).Nodup := by
  have hkeys :
      p.entries.map (·.1) = (p.entries.map (·.2)).map fun ref => (s.bucket ref).address := by
    rw [List.map_map]
    refine List.map_congr_left ?_
    rintro ⟨a, ref⟩ hmem
    exact (h.entries a ref hmem).2.symm
  have hnodup := h.keys
  rw [hkeys] at hnodup
  exact hnodup.of_map

/-- The bucket that stands in for an issued one, as long as it exists. -/
theorem coarser?_eq_some_iff
    {c : BucketRef}
    (h : Lineage p s issued taken)
    (href : ref ∈ issued) :
    s.coarser? outside ref = some c ↔ (s.bucket ref).coarser = some c ∧ outside c = true := by
  simp only [Scene.coarser?, Option.filter_eq_some_iff, Bool.and_eq_true, decide_eq_true_eq]
  constructor
  · rintro ⟨hlink, _, halive⟩
    exact ⟨hlink, halive⟩
  · rintro ⟨hlink, halive⟩
    exact ⟨hlink, (h.older ref href c hlink).2, halive⟩

theorem separates
    (h : Lineage p s issued taken)
    (held : BucketRef → Bool) :
    s.Separates held (· ∈ issued) where
  ids _ _ hx hy hid := h.eq_of_id_eq hx hy hid
  coarser x c hx hsome := (h.older x hx c ((h.coarser?_eq_some_iff hx).mp hsome).1).1

/-- What stays is what is needed. -/
theorem stays_iff
    (h : Lineage p s issued taken)
    (hmem : (a, ref) ∈ p.entries) :
    p.stays s outside (a, ref) = true ↔ p.Needs s outside ref :=
  Pool.stays_iff_needs (h.separates _) (fun _ hentry => (h.entries _ _ hentry).1) hmem

end Facts

section Steps

/-- Whatever happens to the scene, the issued buckets stay linked as they are. -/
theorem of_extends
    (h : Lineage p s issued taken)
    (hextends : Scene.Extends s s') :
    Lineage p s' issued taken := by
  have hsame : ∀ ref ∈ issued, Deed.SameBucket (s.bucket ref) (s'.bucket ref) :=
    fun ref href => hextends.same ref (h.exist ref href)
  constructor
  · exact fun ref href => Nat.lt_of_lt_of_le (h.exist ref href) hextends.size
  · rw [← h.ids]
    exact List.map_congr_left fun ref href => (hsame ref href).id
  · exact h.keys
  · intro a ref hmem
    obtain ⟨href, haddress⟩ := h.entries a ref hmem
    exact ⟨href, (hsame ref href).address.trans haddress⟩
  · intro ref href
    rw [(hsame ref href).coarser, (hsame ref href).address, ← h.linked ref href]
    cases hlink : (s.bucket ref).coarser with
    | none => rfl
    | some c => exact congrArg some (hsame c (h.older ref href c hlink).1).address
  · intro ref href c hlink
    rw [(hsame ref href).coarser] at hlink
    exact h.older ref href c hlink
  · intro a ref c hmem hlink
    rw [(hsame ref (h.entries a ref hmem).1).coarser] at hlink
    exact h.complete a ref c hmem hlink
  · exact h.gone

theorem of_perm
    {order : List (Address × BucketRef)}
    (h : Lineage p s issued taken)
    (horder : order.Perm p.entries) :
    Lineage { p with entries := order } s issued taken where
  exist := h.exist
  ids := h.ids
  keys := (horder.map _).nodup_iff.mpr h.keys
  entries a ref hmem := h.entries a ref (horder.mem_iff.mp hmem)
  linked := h.linked
  older := h.older
  complete a ref c hmem hlink := by
    rw [Pool.holds_of_perm horder]
    exact h.complete a ref c (horder.mem_iff.mp hmem) hlink
  gone c hc := by
    rw [Pool.holds_of_perm horder]
    exact h.gone c hc

/-- A pool may let go of entries, if it remembers what it takes out though it is needed. -/
theorem filter
    {isKept : Address × BucketRef → Bool} {taken' : List BucketRef}
    (h : Lineage p s issued taken)
    (hcomplete : ∀ a ref c, (a, ref) ∈ p.entries → isKept (a, ref) = true →
      (s.bucket ref).coarser = some c → p.holds c = true →
      { p with entries := p.entries.filter isKept }.holds c = true ∨ c ∈ taken')
    (hsubset : taken ⊆ taken')
    (hgone : ∀ c ∈ taken', c ∈ issued ∧
      { p with entries := p.entries.filter isKept }.holds c = false) :
    Lineage { p with entries := p.entries.filter isKept } s issued taken' where
  exist := h.exist
  ids := h.ids
  keys := h.keys.sublist (List.filter_sublist.map _)
  entries a ref hmem := h.entries a ref (List.mem_filter.mp hmem).1
  linked := h.linked
  older := h.older
  complete a ref c hmem hlink := by
    obtain ⟨hmem, hkept⟩ := List.mem_filter.mp hmem
    rcases h.complete a ref c hmem hlink with hheld | htaken
    · exact hcomplete a ref c hmem hkept hlink hheld
    · exact .inr (hsubset htaken)
  gone := hgone

/-- A bucket is issued above which the pool has the bucket of the coarser address. -/
theorem add
    {coarser : Option BucketRef}
    (h : Lineage p s issued taken)
    (hnew : p.find? a = none)
    (hlink : (coarser.map fun c => (s.bucket c).address) = p.pyramid.coarser? a)
    (hheld : ∀ c, coarser = some c → p.holds c = true) :
    let after := p.add s a coarser
    Lineage after.2.1 after.2.2 (issued ++ [s.buckets.size]) taken ∧
      after.2.1.entries = p.entries ++ [(a, s.buckets.size)] ∧
      after.1 = s.buckets.size := by
  let new : Bucket := .create p.nextId a coarser
  let s' := (s.addBucket new).2
  have hself : s'.bucket s.buckets.size = new := by
    rw [Scene.bucket_addBucket, if_pos rfl]
  have hold : ∀ ref ∈ issued, s'.bucket ref = s.bucket ref :=
    fun ref href => Scene.bucket_addBucket_of_lt (h.exist ref href)
  have hissued : ∀ c, p.holds c = true → c ∈ issued := by
    intro c hc
    obtain ⟨b, hmem⟩ := Pool.holds_iff.mp hc
    exact (h.entries b c hmem).1
  have hfresh : s.buckets.size ∉ issued := fun hmem => Nat.lt_irrefl _ (h.exist _ hmem)
  have hholds : ∀ c, (p.add s a coarser).2.1.holds c = true ↔
      p.holds c = true ∨ c = s.buckets.size := by
    intro c
    simp [Pool.holds_iff, Pool.add, Scene.addBucket, exists_or]
  have hsize : s'.buckets.size = s.buckets.size + 1 := Array.size_push _
  have hcases : ∀ {ref}, ref ∈ issued ++ [s.buckets.size] →
      (ref ∈ issued ∧ s'.bucket ref = s.bucket ref) ∨
        (ref = s.buckets.size ∧ s'.bucket ref = new) := by
    intro ref href
    rcases List.mem_append.mp href with href | href
    · exact .inl ⟨href, hold ref href⟩
    · obtain rfl := List.mem_singleton.mp href
      exact .inr ⟨rfl, hself⟩
  refine ⟨⟨?_, ?_, ?_, ?_, ?_, ?_, ?_, ?_⟩, rfl, rfl⟩
  · intro ref href
    refine Nat.lt_of_lt_of_eq ?_ hsize.symm
    rcases hcases href with ⟨href, -⟩ | ⟨rfl, -⟩
    · exact Nat.lt_succ_of_lt (h.exist ref href)
    · exact Nat.lt_succ_self _
  · change (issued ++ [s.buckets.size]).map (fun ref => (s'.bucket ref).id) =
      List.range (p.nextId + 1)
    rw [List.map_append, List.range_succ, ← h.ids, List.map_singleton, hself]
    congr 1
    exact List.map_congr_left fun ref href => congrArg Bucket.id (hold ref href)
  · change ((p.entries ++ [(a, s.buckets.size)]).map (·.1)).Nodup
    rw [List.map_append, List.nodup_append]
    refine ⟨h.keys, by simp, ?_⟩
    rintro b hb c hc rfl
    obtain ⟨⟨b, ref⟩, hmem, rfl⟩ := List.mem_map.mp hb
    obtain rfl : b = a := by simpa using hc
    rw [h.find?_iff.mpr hmem] at hnew
    cases hnew
  · intro b ref hmem
    change ref ∈ _ ∧ (s'.bucket ref).address = b
    rcases List.mem_append.mp hmem with hmem | hmem
    · obtain ⟨href, haddress⟩ := h.entries b ref hmem
      exact ⟨List.mem_append_left _ href, by rw [hold ref href, haddress]⟩
    · obtain ⟨rfl, rfl⟩ := Prod.mk.inj (List.mem_singleton.mp hmem)
      exact ⟨by simp, by rw [hself]; rfl⟩
  · intro ref href
    change ((s'.bucket ref).coarser.map fun c => (s'.bucket c).address) =
      p.pyramid.coarser? (s'.bucket ref).address
    rcases hcases href with ⟨href, hsame⟩ | ⟨rfl, hsame⟩
    · rw [hsame, ← h.linked ref href]
      refine Option.map_congr fun c hc => ?_
      rw [hold c (h.older ref href c hc).1]
    · rw [hsame]
      refine Eq.trans (Option.map_congr fun c hc => ?_) hlink
      rw [hold c (hissued c (hheld c hc))]
  · intro ref href c hlink
    change (s'.bucket ref).coarser = some c at hlink
    rcases hcases href with ⟨href, hsame⟩ | ⟨rfl, hsame⟩
    · rw [hsame] at hlink
      obtain ⟨hc, hlt⟩ := h.older ref href c hlink
      exact ⟨List.mem_append_left _ hc, hlt⟩
    · rw [hsame] at hlink
      have hc := hissued c (hheld c hlink)
      exact ⟨List.mem_append_left _ hc, h.exist c hc⟩
  · intro b ref c hmem hlink
    change (s'.bucket ref).coarser = some c at hlink
    rw [hholds]
    rcases List.mem_append.mp hmem with hmem | hmem
    · rw [hold ref (h.entries b ref hmem).1] at hlink
      exact (h.complete b ref c hmem hlink).imp_left .inl
    · obtain ⟨rfl, rfl⟩ := Prod.mk.inj (List.mem_singleton.mp hmem)
      rw [hself] at hlink
      exact .inl (.inl (hheld c hlink))
  · intro c hc
    obtain ⟨hissued, hlost⟩ := h.gone c hc
    refine ⟨List.mem_append_left _ hissued, Bool.eq_false_iff.mpr ?_⟩
    rw [ne_eq, hholds, hlost]
    rintro (hheld | rfl)
    · cases hheld
    · exact hfresh hissued

/-- The buckets of a chain of addresses are issued as far as they are missing. -/
theorem addChain
    {chain : List Address}
    (h : Lineage p s issued taken)
    (hnew : p.find? a = none)
    (hchain : p.pyramid.coarserChain a = chain) :
    let after := p.addChain s a chain
    ∃ new, after.2.1.entries = p.entries ++ new ∧
      Lineage after.2.1 after.2.2 (issued ++ new.map (·.2)) taken ∧
      (a, after.1) ∈ new ∧ after.2.1.pyramid = p.pyramid ∧
      ∀ entry ∈ new, entry.1 ∈ a :: chain ∧ s.buckets.size ≤ entry.2 := by
  induction chain generalizing p s a issued with
  | nil =>
      have hnone : p.pyramid.coarser? a = none := by
        cases hcoarser : p.pyramid.coarser? a with
        | none => rfl
        | some c =>
            rw [Pyramid.coarserChain_of_eq_some hcoarser] at hchain
            cases hchain
      have hlink : ((none : Option BucketRef).map fun c => (s.bucket c).address) =
          p.pyramid.coarser? a := hnone.symm
      obtain ⟨hlineage, hentries, href⟩ := h.add hnew hlink (by
        rintro d ⟨⟩)
      exact ⟨_, hentries, hlineage, by simp [Pool.addChain, href], rfl, by simp⟩
  | cons c rest ih =>
      obtain ⟨hcoarser, hrest⟩ :
          p.pyramid.coarser? a = some c ∧ p.pyramid.coarserChain c = rest := by
        cases hcoarser : p.pyramid.coarser? a with
        | none =>
            rw [Pyramid.coarserChain_of_eq_none hcoarser] at hchain
            cases hchain
        | some d =>
            rw [Pyramid.coarserChain_of_eq_some hcoarser] at hchain
            obtain ⟨rfl, hrest⟩ := List.cons.inj hchain
            exact ⟨rfl, hrest⟩
      cases hfind : p.find? c with
      | some ref =>
          have hmem := Pool.find?_eq_some hfind
          have hlink : ((some ref).map fun c => (s.bucket c).address) = p.pyramid.coarser? a := by
            rw [hcoarser, Option.map_some, (h.entries c ref hmem).2]
          obtain ⟨hlineage, hentries, href⟩ := h.add hnew hlink (by
            rintro d ⟨⟩
            exact Pool.holds_iff.mpr ⟨c, hmem⟩)
          simp only [Pool.addChain, hfind]
          exact ⟨_, hentries, hlineage, by simp [href], rfl, by simp⟩
      | none =>
          obtain ⟨new, hentries, hlineage, hmem, hpyramid, hkeys⟩ := ih h hfind hrest
          let above := p.addChain s c rest
          have habove : (c, above.1) ∈ above.2.1.entries := by
            rw [hentries]
            exact List.mem_append_right _ hmem
          have hstill : above.2.1.find? a = none := by
            refine Option.eq_none_iff_forall_ne_some.mpr fun ref hfound => ?_
            have hmem := Pool.find?_eq_some hfound
            rw [hentries] at hmem
            rcases List.mem_append.mp hmem with hold | hlater
            · rw [h.find?_iff.mpr hold] at hnew
              cases hnew
            · have hnodup := p.pyramid.nodup_coarserChain a
              rw [hchain] at hnodup
              exact (List.nodup_cons.mp hnodup).1 (hkeys _ hlater).1
          have hlink : ((some above.1).map fun c => (above.2.2.bucket c).address) =
              above.2.1.pyramid.coarser? a := by
            rw [hpyramid, hcoarser, Option.map_some, (hlineage.entries c _ habove).2]
          obtain ⟨hlineage', hentries', href⟩ := hlineage.add hstill hlink (by
            rintro d ⟨⟩
            exact Pool.holds_iff.mpr ⟨c, habove⟩)
          simp only [Pool.addChain, hfind]
          refine ⟨new ++ [(a, above.2.2.buckets.size)], ?_, ?_, ?_, hpyramid, ?_⟩
          · rw [hentries', hentries, List.append_assoc]
          · rw [List.map_append, ← List.append_assoc]
            exact hlineage'
          · simp [href, above]
          · intro entry hentry
            rcases List.mem_append.mp hentry with hentry | hentry
            · exact ⟨List.mem_cons_of_mem _ (hkeys entry hentry).1, (hkeys entry hentry).2⟩
            · rw [List.mem_singleton.mp hentry]
              exact ⟨List.mem_cons_self, (p.adds_addChain s c rest).extends.size⟩

theorem obtain
    (h : Lineage p s issued taken)
    (a : Address) :
    let after := p.obtain s a
    ∃ new, after.2.1.entries = p.entries ++ new ∧
      Lineage after.2.1 after.2.2 (issued ++ new.map (·.2)) taken ∧
      (∀ entry ∈ new, s.buckets.size ≤ entry.2) ∧ after.2.1.pyramid = p.pyramid ∧
      ∀ ref, after.1 = .ok ref → (a, ref) ∈ after.2.1.entries := by
  cases hfind : p.find? a with
  | some ref =>
      simp only [Pool.obtain, hfind]
      refine ⟨[], by simp, by simpa using h, by simp, trivial, ?_⟩
      rintro _ ⟨⟩
      exact Pool.find?_eq_some hfind
  | none =>
      cases hresolution : p.pyramid.resolution a.zoomStep with
      | error fault =>
          simp only [Pool.obtain, hfind, hresolution]
          refine ⟨[], by simp, by simpa using h, by simp, trivial, ?_⟩
          rintro _ ⟨⟩
      | ok resolution =>
          simp only [Pool.obtain, hfind, hresolution]
          obtain ⟨new, hentries, hlineage, hmem, hpyramid, hnew⟩ := h.addChain hfind rfl
          refine ⟨new, hentries, hlineage, fun entry hentry => (hnew entry hentry).2, hpyramid, ?_⟩
          rintro _ ⟨⟩
          rw [hentries]
          exact List.mem_append_right _ hmem

/-- A bucket that is reclaimed by its address is taken out of the pool. -/
theorem collect
    (h : Lineage p s issued taken)
    (a : Address) :
    Lineage (p.collect s a).2.1 (p.collect s a).2.2 issued (taken ++ (p.find? a).toList) := by
  cases hfind : p.find? a with
  | none =>
      simp only [Pool.collect, hfind]
      simpa using h
  | some ref =>
      simp only [Pool.collect, hfind]
      have hmem := Pool.find?_eq_some hfind
      obtain ⟨href, haddress⟩ := h.entries a ref hmem
      have hextends : Scene.Extends s (s.collect ref) := Scene.extends_occur s (.deed ref .collect)
      refine Lineage.of_extends (h.filter ?_ (List.subset_append_left _ _) ?_) hextends
      · intro b other c _ _ _ hheld
        obtain ⟨d, hd⟩ := Pool.holds_iff.mp hheld
        by_cases hsame : d = a
        · rw [hsame, ← h.find?_iff, hfind] at hd
          exact .inr (by simp [Option.some.inj hd])
        · exact .inl (Pool.holds_iff.mpr ⟨d, List.mem_filter.mpr ⟨hd, by simpa using hsame⟩⟩)
      · intro c hc
        have hstill : ∀ d, (d, c) ∈ (p.entries.filter fun entry => entry.1 != a) →
            (d, c) ∈ p.entries ∧ d ≠ a := by
          intro d hd
          simpa using List.mem_filter.mp hd
        simp only [Bool.eq_false_iff, ne_eq, Pool.holds_iff, not_exists]
        rcases List.mem_append.mp hc with hc | hc
        · obtain ⟨hissued, hlost⟩ := h.gone c hc
          refine ⟨hissued, fun d hd => ?_⟩
          rw [Pool.holds_iff.mpr ⟨d, (hstill d hd).1⟩] at hlost
          cases hlost
        · obtain rfl : c = ref := by simpa using hc
          refine ⟨href, fun d hd => ?_⟩
          obtain ⟨hd, hne⟩ := hstill d hd
          exact hne ((h.entries d c hd).2.symm.trans haddress)

/-- What is reclaimed as garbage is named by no bucket that stays. -/
theorem collectGarbage
    (h : Lineage p s issued taken)
    (outside : BucketRef → Bool) :
    Lineage (p.collectGarbage s outside).2.1 (p.collectGarbage s outside).2.2 issued taken := by
  obtain ⟨journal, hafter, -⟩ := p.collectGarbage_eq s outside
  rw [hafter]
  have hextends : Scene.Extends s
      { s.collectAll (p.garbage s outside) with journal := journal } :=
    (Scene.extends_collectAll s _).trans (Scene.extends_of_buckets rfl)
  refine Lineage.of_extends (h.filter ?_ (List.Subset.refl _) ?_) hextends
  · intro a ref c hmem hkept hlink hheld
    have hneeded := (h.stays_iff hmem).mp hkept
    have hcoarser : s.coarser? (p.isAlive outside) ref = some c :=
      (h.coarser?_eq_some_iff (h.entries a ref hmem).1).mpr ⟨hlink, by simp [Pool.isAlive, hheld]⟩
    obtain ⟨b, hc⟩ := Pool.holds_iff.mp hheld
    exact .inl (Pool.holds_iff.mpr
      ⟨b, List.mem_filter.mpr ⟨hc, (h.stays_iff hc).mpr (hneeded.coarser hcoarser)⟩⟩)
  · intro c hc
    obtain ⟨hissued, hlost⟩ := h.gone c hc
    refine ⟨hissued, Bool.eq_false_iff.mpr fun hheld => ?_⟩
    obtain ⟨b, hmem⟩ := Pool.holds_iff.mp hheld
    rw [Pool.holds_iff.mpr ⟨b, (List.mem_filter.mp hmem).1⟩] at hlost
    cases hlost

end Steps

section Chains

theorem coarserChain_of_link_eq_none
    (hlink : (s.bucket ref).coarser = none)
    (held : BucketRef → Bool) :
    s.coarserChain held ref = [] :=
  Scene.coarserChain_of_eq_none (by simp [Scene.coarser?, hlink])

theorem lineage_of_link_eq_some
    {c : BucketRef}
    (h : Lineage p s issued taken)
    (href : ref ∈ issued)
    (hlink : (s.bucket ref).coarser = some c) :
    s.lineage ref = c :: s.lineage c :=
  Scene.coarserChain_of_eq_some ((h.coarser?_eq_some_iff href).mpr ⟨hlink, rfl⟩)

/-- The buckets above an issued one lie at the coarser addresses. -/
theorem lineage_spec
    (h : Lineage p s issued taken)
    (href : ref ∈ issued) :
    ((s.lineage ref).map fun c => (s.bucket c).address) =
        p.pyramid.coarserChain (s.bucket ref).address ∧
      ∀ c ∈ s.lineage ref, c ∈ issued := by
  induction ref using Nat.strongRecOn with
  | _ ref ih =>
      have hlinked := h.linked ref href
      cases hlink : (s.bucket ref).coarser with
      | none =>
          rw [hlink, Option.map_none] at hlinked
          rw [Scene.lineage, coarserChain_of_link_eq_none hlink,
            Pyramid.coarserChain_of_eq_none hlinked.symm]
          exact ⟨rfl, fun _ hc => nomatch hc⟩
      | some c =>
          obtain ⟨hc, hlt⟩ := h.older ref href c hlink
          rw [hlink, Option.map_some] at hlinked
          obtain ⟨haddress, hrest⟩ := ih c hlt hc
          rw [h.lineage_of_link_eq_some href hlink,
            Pyramid.coarserChain_of_eq_some hlinked.symm, List.map_cons]
          refine ⟨congrArg _ haddress, ?_⟩
          intro d hd
          rcases List.mem_cons.mp hd with rfl | hd
          · exact hc
          · exact hrest d hd

/-- Nothing is missing above a bucket of the pool if nothing was taken there. -/
theorem coarserChain_eq_lineage
    (h : Lineage p s issued taken)
    (outside : BucketRef → Bool)
    (hheld : p.holds ref = true)
    (hnone : ∀ c ∈ s.lineage ref, c ∉ taken) :
    s.coarserChain (p.isAlive outside) ref = s.lineage ref ∧
      ∀ c ∈ s.lineage ref, p.holds c = true := by
  induction ref using Nat.strongRecOn with
  | _ ref ih =>
      obtain ⟨a, hmem⟩ := Pool.holds_iff.mp hheld
      have href := (h.entries a ref hmem).1
      cases hlink : (s.bucket ref).coarser with
      | none =>
          rw [Scene.lineage, coarserChain_of_link_eq_none hlink, coarserChain_of_link_eq_none hlink]
          exact ⟨rfl, fun _ hc => nomatch hc⟩
      | some c =>
          have hlt := (h.older ref href c hlink).2
          rw [h.lineage_of_link_eq_some href hlink] at hnone ⊢
          have hc : p.holds c = true :=
            (h.complete a ref c hmem hlink).resolve_right (hnone c List.mem_cons_self)
          have hsome : s.coarser? (p.isAlive outside) ref = some c :=
            (h.coarser?_eq_some_iff href).mpr ⟨hlink, by simp [Pool.isAlive, hc]⟩
          obtain ⟨hchain, hrest⟩ :=
            ih c hlt hc fun d hd => hnone d (List.mem_cons_of_mem _ hd)
          rw [Scene.coarserChain_of_eq_some hsome, hchain]
          refine ⟨rfl, ?_⟩
          intro d hd
          rcases List.mem_cons.mp hd with rfl | hd
          · exact hc
          · exact hrest d hd

/--
The chain above a bucket of the pool consists of what the pool holds at the coarser
addresses, up to the coarsest one, exactly if none of the buckets above it was taken.
-/
theorem coarserChain_complete_iff
    (h : Lineage p s issued taken)
    (hmem : (a, ref) ∈ p.entries) :
    (s.coarserChain (p.isAlive outside) ref).map some = (p.pyramid.coarserChain a).map p.find? ↔
      ∀ c ∈ s.lineage ref, c ∉ taken := by
  obtain ⟨href, rfl⟩ := h.entries a ref hmem
  have hfound : ∀ c, p.holds c = true → p.find? (s.bucket c).address = some c := by
    intro c hc
    obtain ⟨b, hc⟩ := Pool.holds_iff.mp hc
    rw [(h.entries b c hc).2]
    exact h.find?_iff.mpr hc
  obtain ⟨haddress, _⟩ := h.lineage_spec href
  rw [← haddress, List.map_map]
  constructor
  · intro hcomplete c hc
    have hlength := congrArg List.length hcomplete
    rw [List.length_map, List.length_map] at hlength
    rw [(s.coarserChain_prefix (p.isAlive outside) ref).eq_of_length hlength] at hcomplete
    have hthere : p.find? (s.bucket c).address = some c :=
      (List.map_inj_left.mp hcomplete c hc).symm
    intro htaken
    have hlost := (h.gone c htaken).2
    rw [Pool.holds_iff.mpr ⟨_, Pool.find?_eq_some hthere⟩] at hlost
    cases hlost
  · intro hnone
    obtain ⟨hchain, hheld⟩ :=
      h.coarserChain_eq_lineage outside (Pool.holds_iff.mpr ⟨_, hmem⟩) hnone
    rw [hchain]
    exact List.map_congr_left fun c hc => (hfound c (hheld c hc)).symm

end Chains

end Lineage

end VoxelCache
