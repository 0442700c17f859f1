import VoxelCache.Proofs.Lineage

/-!
# Runs of a pool

A **depot** is a pool on a scene that others share: they hold buckets, act on them, and create
buckets and mailboxes of their own.  It is accompanied by lists of the buckets that the
pool has issued, and of those that were taken out of it by their address.  The lists have no
part in what happens.  A **run** creates a pool and lets calls follow in any order; the
table of the pool may change the order in which it lists its entries at any time.

Who holds a bucket beside the pool is told anew at each call that depends on it.

**Results.**
* `Depot.Reachable.lineage`: all runs keep the lineage of the issued buckets.
* `Depot.collectGarbage_exact`: reclaiming garbage keeps what is needed and nothing else.
* `Depot.obtain_chain`: the chain above a bucket that is obtained is complete unless
  buckets of it were taken.
-/

namespace VoxelCache

section Garbage

variable {p : Pool} {s : Scene} {issued taken : List BucketRef}
variable {outside : BucketRef → Bool} {ref : BucketRef}

namespace Pool

/-- What is needed stays needed where its roots and links are still found. -/
theorem Needs.transfer
    {p' : Pool} {s' : Scene}
    (hneeds : p.Needs s outside ref)
    (hroots : ∀ a ref, (a, ref) ∈ p.entries → p.Needs s outside ref →
      (a, ref) ∈ p'.entries ∧ (s'.bucket ref).state = (s.bucket ref).state)
    (hlinks : ∀ ref c, p.Needs s outside c → s.coarser? (p.isAlive outside) ref = some c →
      s'.coarser? (p'.isAlive outside) ref = some c) :
    p'.Needs s' outside ref := by
  induction hneeds with
  | root hmem hkept =>
      obtain ⟨hmem', hstate⟩ := hroots _ _ hmem (.root hmem hkept)
      exact .root hmem' (by rwa [hstate])
  | coarser hneeds hsome ih => exact .coarser ih (hlinks _ _ (.coarser hneeds hsome) hsome)

/-- What is needed does not depend on the order of the entries. -/
theorem needs_of_perm
    {order : List (Address × BucketRef)}
    (horder : order.Perm p.entries) :
    { p with entries := order }.Needs s outside ref ↔ p.Needs s outside ref := by
  have halive : { p with entries := order }.isAlive outside = p.isAlive outside := by
    funext ref
    rw [isAlive, isAlive, holds_of_perm horder]
  constructor
  · intro h
    exact h.transfer (fun _ _ hmem _ => ⟨horder.mem_iff.mp hmem, rfl⟩)
      (fun _ _ _ hsome => halive ▸ hsome)
  · intro h
    exact h.transfer (fun _ _ hmem _ => ⟨horder.mem_iff.mpr hmem, rfl⟩)
      (fun _ _ _ hsome => halive ▸ hsome)

/-- Where everything stays, nothing is changed. -/
theorem collectGarbage_of_all_stay
    (h : ∀ entry ∈ p.entries, p.stays s outside entry = true) :
    p.collectGarbage s outside = (0, p, s) := by
  obtain ⟨journal, hafter, hjournal⟩ := p.collectGarbage_eq s outside
  have hnone : p.garbage s outside = [] := by
    refine List.eq_nil_iff_forall_not_mem.mpr fun ref href => ?_
    obtain ⟨a, hmem, hleaves⟩ := mem_garbage_iff.mp href
    rw [h _ hmem] at hleaves
    cases hleaves
  rw [hafter, hjournal hnone, hnone, List.filter_eq_self.mpr h]
  rfl

end Pool

namespace Lineage

theorem mem_garbage_iff
    (h : Lineage p s issued taken) :
    ref ∈ p.garbage s outside ↔ p.holds ref = true ∧ ¬ p.Needs s outside ref :=
  Pool.mem_garbage_iff_not_needs (h.separates _) fun _ hentry => (h.entries _ _ hentry).1

/-- No bucket is collected twice. -/
theorem nodup_garbage
    (h : Lineage p s issued taken) :
    (p.garbage s outside).Nodup :=
  h.nodup_refs.sublist (List.filter_sublist.map _)

/-- Exactly the garbage is collected. -/
theorem bucket_collectGarbage
    (h : Lineage p s issued taken)
    (outside : BucketRef → Bool)
    (ref : BucketRef) :
    (p.collectGarbage s outside).2.2.bucket ref =
      if ref ∈ p.garbage s outside then (s.bucket ref).collect.1 else s.bucket ref := by
  obtain ⟨journal, hafter, -⟩ := p.collectGarbage_eq s outside
  rw [hafter]
  refine Scene.bucket_collectAll (fun other hother => ?_) ref
  obtain ⟨a, hmem⟩ := Pool.holds_iff.mp (h.mem_garbage_iff.mp hother).1
  exact h.exist other (h.entries a other hmem).1

/-- What stayed is needed still. -/
theorem needs_collectGarbage
    (h : Lineage p s issued taken)
    (hneeds : p.Needs s outside ref) :
    (p.collectGarbage s outside).2.1.Needs (p.collectGarbage s outside).2.2 outside ref := by
  obtain ⟨journal, hafter, -⟩ := p.collectGarbage_eq s outside
  have hbucket := h.bucket_collectGarbage outside
  have hentries : ∀ a ref, (a, ref) ∈ p.entries → p.Needs s outside ref →
      (a, ref) ∈ (p.collectGarbage s outside).2.1.entries := by
    intro a ref hmem hneeds
    rw [hafter]
    exact List.mem_filter.mpr ⟨hmem, (h.stays_iff hmem).mpr hneeds⟩
  refine hneeds.transfer ?_ ?_
  · intro a ref hmem hneeds
    refine ⟨hentries a ref hmem hneeds, ?_⟩
    rw [hbucket, if_neg fun hgarbage => (h.mem_garbage_iff.mp hgarbage).2 hneeds]
  · intro ref c hneeds hsome
    have hlink :
        ((p.collectGarbage s outside).2.2.bucket ref).coarser = (s.bucket ref).coarser := by
      rw [hbucket]
      split
      · exact (Deed.perform_identity .collect (s.bucket ref)).coarser
      · rfl
    simp only [Scene.coarser?, hlink, Option.filter_eq_some_iff, Pool.isAlive, Bool.and_eq_true,
      Bool.or_eq_true] at hsome ⊢
    refine ⟨hsome.1, hsome.2.1, hsome.2.2.imp_right fun hheld => ?_⟩
    obtain ⟨a, hmem⟩ := Pool.holds_iff.mp hheld
    exact Pool.holds_iff.mpr ⟨a, hentries a c hmem hneeds⟩

/-- Right after garbage was reclaimed there is none. -/
theorem collectGarbage_again
    (h : Lineage p s issued taken)
    (outside : BucketRef → Bool)
    (order : List (Address × BucketRef))
    (horder : order.Perm (p.collectGarbage s outside).2.1.entries) :
    let after := p.collectGarbage s outside
    { after.2.1 with entries := order }.collectGarbage after.2.2 outside =
      (0, { after.2.1 with entries := order }, after.2.2) := by
  have hlineage := (h.collectGarbage outside).of_perm horder
  refine Pool.collectGarbage_of_all_stay ?_
  rintro ⟨a, ref⟩ hmem
  rw [hlineage.stays_iff hmem, Pool.needs_of_perm horder]
  have hbefore := horder.mem_iff.mp hmem
  obtain ⟨journal, hafter, -⟩ := p.collectGarbage_eq s outside
  rw [hafter] at hbefore
  obtain ⟨hmem, hstays⟩ := List.mem_filter.mp hbefore
  exact h.needs_collectGarbage ((h.stays_iff hmem).mp hstays)

end Lineage

end Garbage

section Runs

/-- A pool on its scene, with lists of the buckets it has issued and of those taken out of it. -/
structure Depot where
  pool : Pool
  scene : Scene
  issued : List BucketRef
  taken : List BucketRef

/-- Whether an occurrence collects no bucket. -/
def Occurrence.CollectsNone : Occurrence → Prop
  | .deed _ done => ∀ b, (done.perform b).1.isCollected = b.isCollected
  | _ => True

namespace Depot

/-- A call of the pool, or something that happens to the scene or to the table of the pool. -/
inductive Call where
  | obtain (a : Address)
  | receive (a : Address) (payload : Payload)
  | collect (a : Address)
  | collectGarbage (outside : BucketRef → Bool)
  /-- The table lists its entries in another order. -/
  | shuffle (order : List (Address × BucketRef))
  | occurrence (o : Occurrence)

/-- Pool and scene after a call. -/
def result (d : Depot) : Call → Pool × Scene
  | .obtain a => (d.pool.obtain d.scene a).2
  | .receive a payload => (d.pool, (d.pool.receive d.scene a payload).2)
  | .collect a => (d.pool.collect d.scene a).2
  | .collectGarbage outside => (d.pool.collectGarbage d.scene outside).2
  | .shuffle order => ({ d.pool with entries := order }, d.scene)
  | .occurrence o => (d.pool, d.scene.occur o)

/-- The buckets that a call issues. -/
def issues (d : Depot) : Call → List BucketRef
  | .obtain a =>
      ((d.pool.obtain d.scene a).2.1.entries.drop d.pool.entries.length).map (·.2)
  | _ => []

/-- The bucket that a call takes out of the pool by its address. -/
def takes (d : Depot) : Call → List BucketRef
  | .collect a => (d.pool.find? a).toList
  | _ => []

/-- The depot after a call. -/
def step (d : Depot) (call : Call) : Depot :=
  let after := d.result call
  ⟨after.1, after.2, d.issued ++ d.issues call, d.taken ++ d.takes call⟩

namespace Call

/-- Whether a call that lists entries in another order lists those of the pool. -/
def Fits (d : Depot) : Call → Prop
  | .shuffle order => order.Perm d.pool.entries
  | _ => True

/-- Whether no bucket is collected but by calls of the pool. -/
def IsGentle : Call → Prop
  | .occurrence o => o.CollectsNone
  | _ => True

end Call

/-- The depots that runs lead to: a pool is created on some scene, and allowed calls follow. -/
inductive Reachable (allowed : Call → Prop) : Depot → Prop
  | create (pyramid : Pyramid Float) (s : Scene) :
      Reachable allowed ⟨.create pyramid, s, [], []⟩
  | step {d : Depot} {call : Call} :
      Reachable allowed d →
      call.Fits d →
      allowed call →
      Reachable allowed (d.step call)

/-- Whether calls in a row are allowed and fit the depots they find. -/
def Admits (allowed : Call → Prop) : Depot → List Call → Prop
  | _, [] => True
  | d, call :: rest => call.Fits d ∧ allowed call ∧ Admits allowed (d.step call) rest

variable {allowed : Call → Prop} {d : Depot} {call : Call}

theorem Reachable.run
    {calls : List Call}
    (h : Reachable allowed d)
    (hcalls : d.Admits allowed calls) :
    Reachable allowed (calls.foldl Depot.step d) := by
  induction calls generalizing d with
  | nil => exact h
  | cons call rest ih => exact ih (h.step hcalls.1 hcalls.2.1) hcalls.2.2

section Invariants

/-- Each call keeps the lineage of the buckets that are issued. -/
theorem lineage_step
    (h : Lineage d.pool d.scene d.issued d.taken)
    (hfits : call.Fits d) :
    Lineage (d.step call).pool (d.step call).scene (d.step call).issued (d.step call).taken := by
  cases call with
  | obtain a =>
      obtain ⟨new, hentries, hlineage, -⟩ := h.obtain a
      have hissues : d.issues (.obtain a) = new.map (·.2) := by
        rw [issues, hentries, List.drop_left]
      simpa only [step, result, takes, hissues, List.append_nil] using hlineage
  | receive a payload =>
      have hextends : Scene.Extends d.scene (d.pool.receive d.scene a payload).2 := by
        unfold Pool.receive
        split
        · exact Scene.extends_occur _ (.deed _ (.receive payload))
        · exact .refl _
      simpa only [step, result, issues, takes, List.append_nil] using h.of_extends hextends
  | collect a => simpa only [step, result, issues, takes, List.append_nil] using h.collect a
  | collectGarbage outside =>
      simpa only [step, result, issues, takes, List.append_nil] using h.collectGarbage outside
  | shuffle order =>
      simpa only [step, result, issues, takes, List.append_nil] using h.of_perm hfits
  | occurrence o =>
      simpa only [step, result, issues, takes, List.append_nil] using
        h.of_extends (Scene.extends_occur d.scene o)

/-- All runs keep the lineage of the buckets that are issued. -/
theorem Reachable.lineage
    (h : Reachable allowed d) :
    Lineage d.pool d.scene d.issued d.taken := by
  induction h with
  | create pyramid s => exact .create pyramid s
  | step _ hfits _ ih => exact lineage_step ih hfits

/-- Nothing is taken out of a pool that is never asked to. -/
theorem Reachable.taken_eq_nil
    (h : Reachable allowed d)
    (hnever : ∀ a, ¬ allowed (.collect a)) :
    d.taken = [] := by
  induction h with
  | create pyramid s => rfl
  | @step d call _ _ hallowed ih =>
      have htakes : d.takes call = [] := by
        cases call with
        | collect a => exact absurd hallowed (hnever a)
        | _ => rfl
      rw [Depot.step, ih, htakes]
      rfl

end Invariants

section Results

/--
For every run, every set of buckets held by others and every order of the entries, exactly
those buckets are collected that the pool holds without need, each one once and counted,
and right after that there are none.  The identities of all buckets ever issued are the
first numbers, in order.  If nothing was collected by its address in the run, then each
entry has its own address, and the chain above it consists of what the pool holds at
the coarser addresses, up to the coarsest one.
-/
theorem collectGarbage_exact
    (h : Reachable allowed d)
    (outside : BucketRef → Bool) :
    (∀ order, order.Perm d.pool.entries →
      ∃ garbage kept journal,
        let after : Scene := { d.scene.collectAll garbage with journal := journal }
        Pool.collectGarbage { d.pool with entries := order } d.scene outside =
          (garbage.length, { d.pool with entries := kept }, after) ∧
        garbage.Nodup ∧
        (∀ ref, ref ∈ garbage ↔
          d.pool.holds ref = true ∧ ¬ d.pool.Needs d.scene outside ref) ∧
        kept.Sublist order ∧
        (∀ a ref, (a, ref) ∈ kept ↔
          (a, ref) ∈ d.pool.entries ∧ d.pool.Needs d.scene outside ref) ∧
        ∀ order', order'.Perm kept →
          Pool.collectGarbage { d.pool with entries := order' } after outside =
            (0, { d.pool with entries := order' }, after)) ∧
    (d.issued.map fun ref => (d.scene.bucket ref).id) = List.range d.pool.nextId ∧
    ((∀ a, ¬ allowed (.collect a)) →
      ∀ a ref, (a, ref) ∈ d.pool.entries →
        ref ∈ d.issued ∧ d.pool.find? a = some ref ∧ (d.scene.bucket ref).address = a ∧
        (d.scene.coarserChain (d.pool.isAlive outside) ref).map some =
          (d.pool.pyramid.coarserChain a).map d.pool.find?) := by
  have hlineage := h.lineage
  refine ⟨?_, hlineage.ids, ?_⟩
  · intro order horder
    have hordered := hlineage.of_perm horder
    obtain ⟨journal, hafter, -⟩ :=
      Pool.collectGarbage_eq { d.pool with entries := order } d.scene outside
    refine ⟨_, _, journal, hafter, hordered.nodup_garbage, ?_, List.filter_sublist, ?_, ?_⟩
    · intro ref
      rw [hordered.mem_garbage_iff, Pool.holds_of_perm horder, Pool.needs_of_perm horder]
    · intro a ref
      rw [List.mem_filter]
      constructor
      · rintro ⟨hmem, hstays⟩
        exact ⟨horder.mem_iff.mp hmem,
          (Pool.needs_of_perm horder).mp ((hordered.stays_iff hmem).mp hstays)⟩
      · rintro ⟨hmem, hneeds⟩
        have hmem := horder.mem_iff.mpr hmem
        exact ⟨hmem, (hordered.stays_iff hmem).mpr ((Pool.needs_of_perm horder).mpr hneeds)⟩
    · intro order' horder'
      have hagain := hordered.collectGarbage_again outside order'
      rw [hafter] at hagain
      exact hagain horder'
  · intro hnever a ref hmem
    obtain ⟨hissued, haddress⟩ := hlineage.entries a ref hmem
    refine ⟨hissued, hlineage.find?_iff.mpr hmem, haddress, ?_⟩
    refine (hlineage.coarserChain_complete_iff hmem).mpr fun c _ => ?_
    rw [h.taken_eq_nil hnever]
    exact List.not_mem_nil

/-- Of two buckets of the finest grid, the one that nobody holds is reclaimed. -/
theorem collectGarbage_exact_of_one_held :
    let d := [.obtain .origin, .obtain ⟨1, 0, 0, 0⟩].foldl step
      ⟨.create [⟨1, 1, 1⟩], .empty, [], []⟩
    let holdsFirst : BucketRef → Bool := fun ref => ref = 0
    d.pool.entries = [(.origin, 0), (⟨1, 0, 0, 0⟩, 1)] ∧
    d.pool.Needs d.scene holdsFirst 0 ∧ ¬ d.pool.Needs d.scene holdsFirst 1 ∧
    (d.pool.collectGarbage d.scene holdsFirst).1 = 1 := by
  intro d holdsFirst
  have hreachable : Reachable (fun _ => True) d :=
    (Reachable.create [⟨1, 1, 1⟩] .empty).run ⟨trivial, trivial, trivial, trivial, trivial⟩
  have hentries : d.pool.entries = [(.origin, 0), (⟨1, 0, 0, 0⟩, 1)] := by decide +kernel
  have hcount : (d.pool.collectGarbage d.scene holdsFirst).1 = 1 := by decide +kernel
  have hstays : (d.pool.collectGarbage d.scene holdsFirst).2.1.entries = [(.origin, 0)] := by
    decide +kernel
  obtain ⟨garbage, kept, journal, hafter, -, -, -, hkept, -⟩ :=
    (collectGarbage_exact hreachable holdsFirst).1 _ (.refl _)
  have hsame : kept = [(.origin, 0)] := by
    rw [← hstays]
    exact (congrArg (fun after => after.2.1.entries) hafter).symm
  rw [hsame] at hkept
  refine ⟨hentries, ((hkept .origin 0).mp (by simp)).2, fun hneeds => ?_, hcount⟩
  have hmem := (hkept ⟨1, 0, 0, 0⟩ 1).mpr ⟨by simp [hentries], hneeds⟩
  simp at hmem

end Results

section Uncollected

/-- A call by which nothing is collected leaves alone who is collected. -/
theorem isCollected_occur
    {s : Scene} {o : Occurrence} {ref : BucketRef}
    (h : o.CollectsNone)
    (hlt : ref < s.buckets.size) :
    ((s.occur o).bucket ref).isCollected = (s.bucket ref).isCollected := by
  cases o with
  | deed other done =>
      by_cases hsame : ref = other
      · subst hsame
        rw [Scene.occur, Scene.bucket_deed_self done hlt]
        exact h _
      · rw [Scene.occur, Scene.bucket_deed_of_ne done hsame]
  | create id address coarser =>
      rw [Scene.occur, Scene.bucket_addBucket_of_lt hlt]
  | _ => rfl

theorem isCollected_step
    {a : Address} {ref : BucketRef}
    (hlineage : Lineage d.pool d.scene d.issued d.taken)
    (h : ∀ a ref, (a, ref) ∈ d.pool.entries → (d.scene.bucket ref).isCollected = false)
    (hfits : call.Fits d)
    (hgentle : call.IsGentle)
    (hmem : (a, ref) ∈ (d.step call).pool.entries) :
    ((d.step call).scene.bucket ref).isCollected = false := by
  have hexist : ∀ a ref, (a, ref) ∈ d.pool.entries → ref < d.scene.buckets.size :=
    fun a ref hmem => hlineage.exist ref (hlineage.entries a ref hmem).1
  cases call with
  | obtain b =>
      simp only [step, result] at hmem ⊢
      obtain ⟨new, hentries, -, hnew, -⟩ := hlineage.obtain b
      have hadds := d.pool.adds_obtain d.scene b
      rw [hentries] at hmem
      rcases List.mem_append.mp hmem with hold | hlater
      · rw [hadds.bucket (hexist a ref hold)]
        exact h a ref hold
      · exact hadds.isCollected (hnew _ hlater)
  | receive b payload =>
      cases hfind : d.pool.find? b with
      | none => simpa only [step, result, Pool.receive, hfind] using h a ref hmem
      | some other =>
          have hnone : (Occurrence.deed other (.receive payload)).CollectsNone :=
            fun b => Bucket.isCollected_receive b payload
          simp only [step, result, Pool.receive, hfind]
          exact (isCollected_occur hnone (hexist a ref hmem)).trans (h a ref hmem)
  | collect b =>
      cases hfind : d.pool.find? b with
      | none =>
          simp only [step, result, Pool.collect, hfind] at hmem ⊢
          exact h a ref hmem
      | some other =>
          simp only [step, result, Pool.collect, hfind] at hmem ⊢
          obtain ⟨hold, hne⟩ := List.mem_filter.mp hmem
          have hother : ref ≠ other := by
            rintro rfl
            have haddress := (hlineage.entries a ref hold).2
            rw [(hlineage.entries b ref (Pool.find?_eq_some hfind)).2] at haddress
            simp [haddress] at hne
          exact (congrArg _ (Scene.bucket_deed_of_ne .collect hother)).trans (h a ref hold)
  | collectGarbage outside =>
      simp only [step, result] at hmem ⊢
      obtain ⟨journal, hafter, -⟩ := d.pool.collectGarbage_eq d.scene outside
      rw [hafter] at hmem ⊢
      obtain ⟨hold, hstays⟩ := List.mem_filter.mp hmem
      have hsame := hlineage.bucket_collectGarbage outside ref
      rw [hafter, if_neg ((Pool.stays_iff_not_mem_garbage hold).mp hstays)] at hsame
      exact (congrArg _ hsame).trans (h a ref hold)
  | shuffle order => exact h a ref (hfits.mem_iff.mp hmem)
  | occurrence o => exact (isCollected_occur hgentle (hexist a ref hmem)).trans (h a ref hmem)

/-- As long as only the pool collects buckets, it holds none that is collected. -/
theorem Reachable.isCollected_eq_false
    (h : Reachable Call.IsGentle d) :
    ∀ a ref, (a, ref) ∈ d.pool.entries → (d.scene.bucket ref).isCollected = false := by
  induction h with
  | create pyramid s => exact fun _ _ hmem => nomatch hmem
  | step hbefore hfits hgentle ih =>
      exact fun _ _ hmem => isCollected_step hbefore.lineage ih hfits hgentle hmem

end Uncollected

section Chains

/--
For every run in which nobody but the pool collects buckets, and every set of buckets held
by others: the bucket obtained at an address is there and not collected, the buckets
above it were issued for the coarser addresses, up to the coarsest one, and following its
links leads along these as long as they exist.  It leads to what the pool holds at all
coarser addresses, and to no collected bucket, exactly if none of them was taken out of the
pool by its address.  For an address whose bucket exists this is not so after every such
call, whether or not a bucket was created anew in the place of the one that was taken.
-/
theorem obtain_chain
    {a : Address} {ref : BucketRef} {p : Pool} {s : Scene}
    (h : Reachable Call.IsGentle d)
    (hobtain : d.pool.obtain d.scene a = (.ok ref, p, s))
    (outside : BucketRef → Bool) :
    let chain := s.coarserChain (p.isAlive outside) ref
    p.find? a = some ref ∧
    (s.bucket ref).isCollected = false ∧
    ((s.lineage ref).map fun c => (s.bucket c).address) = p.pyramid.coarserChain a ∧
    chain <+: s.lineage ref ∧
    (chain.map some = (p.pyramid.coarserChain a).map p.find? ∧
        (∀ c ∈ chain, (s.bucket c).isCollected = false) ↔
      ∀ c ∈ s.lineage ref, c ∉ d.taken) := by
  intro chain
  obtain ⟨new, -, hlineage, -, -, hfound⟩ := h.lineage.obtain a
  have hafter : Reachable Call.IsGentle (d.step (.obtain a)) := h.step trivial trivial
  have hopen := hafter.isCollected_eq_false
  simp only [step, result] at hopen
  rw [hobtain] at hlineage hfound hopen
  have hmem : (a, ref) ∈ p.entries := hfound ref rfl
  obtain ⟨href, haddress⟩ := hlineage.entries a ref hmem
  refine ⟨hlineage.find?_iff.mpr hmem, hopen a ref hmem, ?_, s.coarserChain_prefix _ ref, ?_⟩
  · rw [← haddress]
    exact (hlineage.lineage_spec href).1
  · rw [hlineage.coarserChain_complete_iff hmem]
    refine and_iff_left_of_imp fun hnone c hc => ?_
    obtain ⟨-, hheld⟩ := hlineage.coarserChain_eq_lineage outside
      (Pool.holds_iff.mpr ⟨a, hmem⟩) hnone
    obtain ⟨b, hb⟩ := Pool.holds_iff.mp (hheld c ((s.coarserChain_prefix _ ref).subset hc))
    exact hopen b c hb

/--
The coarser bucket of a bucket is taken out of the pool and created anew, and the finer
bucket is asked for once more: its chain does not lead to the new coarser one.
-/
theorem obtain_chain_of_one_renewed :
    let pyramid : Pyramid Float := [⟨1, 1, 1⟩, ⟨2, 2, 2⟩]
    let nobody : BucketRef → Bool := fun _ => false
    ∃ coarse, pyramid.coarser? .origin = some coarse ∧
      let d := [.obtain .origin, .collect coarse, .obtain coarse].foldl step
        ⟨.create pyramid, .empty, [], []⟩
      d.pool.obtain d.scene .origin = (.ok 1, d.pool, d.scene) ∧
      d.pool.find? coarse = some 2 ∧
      ¬ ((d.scene.coarserChain (d.pool.isAlive nobody) 1).map some =
            (pyramid.coarserChain .origin).map d.pool.find? ∧
          ∀ c ∈ d.scene.coarserChain (d.pool.isAlive nobody) 1,
            (d.scene.bucket c).isCollected = false) := by
  intro pyramid nobody
  have hsome : (pyramid.coarser? .origin).isSome = true :=
    Pyramid.isSome_coarser?_iff.mpr (by decide)
  obtain ⟨coarse, hcoarse⟩ := Option.isSome_iff_exists.mp hsome
  have hzoom : coarse.zoomStep = 1 := (Pyramid.zoomStep_of_coarser? hcoarse).1
  have hnone : pyramid.coarser? coarse = none := by
    rw [← Option.not_isSome_iff_eq_none, Pyramid.isSome_coarser?_iff, hzoom]
    decide
  have hne : (coarse == Address.origin) = false := by
    rw [beq_eq_false_iff_ne]
    rintro rfl
    cases hzoom
  have hne' : (Address.origin == coarse) = false := by
    rw [beq_eq_false_iff_ne] at hne ⊢
    exact hne.symm
  have hfine : pyramid.resolution Address.origin.zoomStep = .ok ⟨1, 1, 1⟩ := rfl
  have hstep : pyramid.resolution coarse.zoomStep = .ok ⟨2, 2, 2⟩ := by
    rw [hzoom]
    rfl
  have hchain := Pyramid.coarserChain_of_eq_none hnone
  have hchain' := Pyramid.coarserChain_of_eq_some hcoarse
  rw [hchain] at hchain'
  refine ⟨coarse, hcoarse, ?_⟩
  intro d
  have hrun : d.pool = ⟨pyramid, [(.origin, 1), (coarse, 2)], 3⟩ ∧ d.taken = [0] ∧
      (d.scene.bucket 1).coarser = some 0 := by
    simp [d, step, result, takes, Pool.obtain, Pool.create, Pool.find?, hchain, hchain', hfine,
      hstep, Pool.addChain, Pool.add, Pool.collect, hne, hne', List.lookup_cons, Scene.addBucket,
      Scene.empty, Scene.collect, Scene.act, Scene.setBucket, bne, Scene.buckets_deliverAll,
      Scene.bucket, Bucket.create]
  obtain ⟨hpool, htaken, hlink⟩ := hrun
  have hobtain : d.pool.obtain d.scene .origin = (.ok 1, d.pool, d.scene) := by
    simp [Pool.obtain, Pool.find?, hpool]
  have hreachable : Reachable Call.IsGentle d :=
    (Reachable.create pyramid .empty).run
      ⟨trivial, trivial, trivial, trivial, trivial, trivial, trivial⟩
  obtain ⟨-, -, -, -, hcomplete⟩ := obtain_chain hreachable hobtain nobody
  have hpyramid : d.pool.pyramid = pyramid := by rw [hpool]
  rw [hpyramid] at hcomplete
  refine ⟨hobtain, by simp [Pool.find?, hpool, List.lookup_cons, hne], ?_⟩
  rw [hcomplete]
  intro hkept
  have hfirst : d.scene.coarser? (fun _ => true) 1 = some 0 := by
    simp [Scene.coarser?, hlink]
  refine hkept 0 ?_ (by rw [htaken]; exact List.mem_cons_self)
  rw [Scene.lineage, Scene.coarserChain_of_eq_some hfirst]
  exact List.mem_cons_self

end Chains

end Depot

end Runs

end VoxelCache
