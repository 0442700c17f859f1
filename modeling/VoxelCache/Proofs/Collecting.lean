import VoxelCache.Proofs.Agreement
import VoxelCache.Proofs.Completion
import VoxelCache.Proofs.Listening

/-!
# Collecting garbage unnoticed

When a session reclaims garbage, its pool keeps what is **needed**: active buckets, buckets that
are held by others or being loaded, and the chains above all these.  The residency sees
nothing else, and it listens to nothing else.  So the session after the collection is a **twin**
of the session before: they differ in nothing but buckets that nobody sees, and what is done to
both of them later has the same outcome.

**Invariants.**
* `KeepsActive`: the pool has the buckets that the last update made active.
* `Twins`: one session lacks some buckets of another one that are not seen, and agrees with it
  otherwise.

**Results.**
* `Orderly.twins_collectGarbage`: reclaiming garbage leaves a twin.
* `Twins.receiveAll`: twins to which the same payloads are delivered remain twins.
* `collectGarbage_unnoticed`: neither the residency nor the loader notices that garbage was
  reclaimed.
-/

namespace VoxelCache

section Garbage

variable {seen : BucketRef → Prop} {m : Residency} {s : Scene} {refs : List BucketRef}

/-- Nobody notices what a session does to a bucket that is not seen. -/
theorem Residency.ListensAlone.agreesOn_deed
    {ref : BucketRef} {d : Deed}
    (h : m.ListensAlone s)
    (hactive : ∀ a ∈ m.active, seen a.bucket)
    (hunseen : ¬ seen ref)
    (hown : d = .pull ∨ (∃ payload, d = .receive payload) ∨ d = .collect) :
    Scene.AgreesOn seen s (s.deed ref d) := by
  refine Scene.agreesOn_deed hunseen (h.posts_eq_nil ?_ hown)
  rw [Bool.eq_false_iff]
  intro hholds
  obtain ⟨a, ha, rfl⟩ := holds_iff.mp hholds
  exact hunseen (hactive a ha)

/-- Nobody notices that buckets are collected that are not seen. -/
theorem Residency.ListensAlone.agreesOn_collectAll
    (h : m.ListensAlone s)
    (hactive : ∀ a ∈ m.active, seen a.bucket)
    (hlt : ∀ ref ∈ refs, ref < s.buckets.size)
    (hunseen : ∀ ref ∈ refs, ¬ seen ref) :
    Scene.AgreesOn seen s (s.collectAll refs) := by
  induction refs generalizing s with
  | nil => exact .refl s
  | cons ref rest ih =>
      have hfirst : Scene.AgreesOn seen s (s.deed ref .collect) :=
        h.agreesOn_deed hactive (hunseen ref List.mem_cons_self) (.inr (.inr rfl))
      have hafter : m.ListensAlone (s.deed ref .collect) :=
        h.of_occur (o := .deed ref .collect) ⟨hlt ref List.mem_cons_self, .inr (.inr rfl)⟩
      refine hfirst.trans (ih hafter ?_ fun other hother =>
        hunseen other (List.mem_cons_of_mem _ hother))
      intro other hother
      rw [Scene.size_deed]
      exact hlt other (List.mem_cons_of_mem _ hother)

end Garbage

namespace Session

section Keeping

variable {x : Session} {ref : BucketRef}

/-- Whether the pool has the buckets that the last update made active. -/
def KeepsActive (x : Session) : Prop :=
  ∀ ref ∈ x.viewer.active, x.viewer.pool.holds ref = true

/-- An update replaces the active buckets by others that the pool has, or not at all. -/
theorem KeepsActive.update
    (h : x.KeepsActive)
    (horderly : x.Orderly)
    (outside : BucketRef → Bool) (camera : Camera) :
    (x.step (.update outside camera)).KeepsActive := by
  cases hview : x.viewer.inView camera with
  | error fault =>
      simp only [step, result, Viewer.update_of_inView_eq_error hview]
      exact h
  | ok addresses =>
      obtain ⟨journal, refs, v, s, anchor, hobtains, -, hupdate⟩ :=
        Viewer.update_of_inView horderly.stocked hview outside
      obtain ⟨held, active, later, hactive, hactivate⟩ :=
        v.exists_activate_eq s outside refs anchor
      have hafter : (x.step (.update outside camera)).viewer =
          (v.activate s outside refs anchor).2.1 := by
        simp only [step, result, hupdate]
      rw [KeepsActive, hafter, hactivate]
      intro ref href
      rcases hactive with rfl | ⟨rfl, _⟩
      · obtain ⟨a, _, hfind⟩ := hobtains.mem_iff.mp href
        exact Pool.holds_iff.mpr ⟨a, Pool.find?_eq_some hfind⟩
      · have hsame : v.active = x.viewer.active := by rw [hobtains.others]
        obtain ⟨a, hmem⟩ := Pool.holds_iff.mp (h ref (hsame ▸ href))
        have hlives := (horderly.stocked.entries a ref).mp hmem
        have hlives := hobtains.adds.lives ⟨hlives.lt, hlives.address, hlives.uncollected⟩
        exact Pool.holds_iff.mpr ⟨a, (hobtains.stocked.entries a ref).mpr hlives⟩

/-- What others than the pool hold while garbage is reclaimed. -/
def heldBeside (x : Session) (outside : BucketRef → Bool) (ref : BucketRef) : Bool :=
  outside ref || x.viewer.residency.holds ref || x.viewer.active.contains ref

/-- Garbage is what the pool holds without need, and it is collected. -/
theorem step_collectGarbage_eq
    (x : Session) (outside : BucketRef → Bool) :
    ∃ journal, x.step (.collectGarbage outside) =
      let garbage := x.viewer.pool.garbage x.scene (x.heldBeside outside)
      ⟨{ x.viewer with
          pool :=
            { x.viewer.pool with
              entries := x.viewer.pool.entries.filter
                (x.viewer.pool.stays x.scene (x.heldBeside outside)) } },
        { x.scene.collectAll garbage with journal := journal }, x.ledger⟩ := by
  let held := x.heldBeside outside
  obtain ⟨journal, hcollect, -⟩ := x.viewer.pool.collectGarbage_eq x.scene held
  have hafter : x.viewer.collectGarbage x.scene outside =
      let after := x.viewer.pool.collectGarbage x.scene held
      (after.1, { x.viewer with pool := after.2.1 }, after.2.2) := rfl
  refine ⟨journal, ?_⟩
  simp only [step, result, record, hafter, hcollect]
  rfl

/-- The pool keeps exactly those of its buckets that are needed. -/
theorem Orderly.mem_entries_collectGarbage
    {a : Address}
    (h : x.Orderly)
    (outside : BucketRef → Bool) :
    (a, ref) ∈ (x.step (.collectGarbage outside)).viewer.pool.entries ↔
      (a, ref) ∈ x.viewer.pool.entries ∧
        x.viewer.pool.Needs x.scene (x.heldBeside outside) ref := by
  obtain ⟨journal, hafter⟩ := x.step_collectGarbage_eq outside
  rw [hafter]
  dsimp only
  rw [List.mem_filter]
  exact and_congr_right fun hmem => h.stocked.stays_iff hmem

theorem KeepsActive.collectGarbage
    (h : x.KeepsActive)
    (horderly : x.Orderly)
    (outside : BucketRef → Bool) :
    (x.step (.collectGarbage outside)).KeepsActive := by
  intro ref href
  have hactive : (x.step (.collectGarbage outside)).viewer.active = x.viewer.active := rfl
  rw [hactive] at href
  obtain ⟨a, hmem⟩ := Pool.holds_iff.mp (h ref href)
  refine Pool.holds_iff.mpr ⟨a, (horderly.mem_entries_collectGarbage outside).mpr ⟨hmem, ?_⟩⟩
  exact .root hmem (.inl (by simp [heldBeside, href]))

/-- In every run the pool has the buckets that the last update made active. -/
theorem Reached.keepsActive
    {allowed : Session → Call → Prop}
    (h : Reached allowed x) :
    x.KeepsActive := by
  induction h with
  | create _ hcreate =>
      obtain ⟨m, _, rfl⟩ := Viewer.create_eq_ok hcreate
      exact fun _ href => nomatch href
  | @step x call hbefore _ ih =>
      cases call with
      | update outside camera => exact ih.update hbefore.orderly outside camera
      | collectGarbage outside => exact ih.collectGarbage hbefore.orderly outside
      | take count =>
          obtain ⟨taken, _, hafter⟩ := exists_takeFront_eq hbefore.orderly count
          rw [hafter]
          exact ih
      | _ => exact ih

/-- Active buckets are needed. -/
theorem Orderly.needs_of_active
    (h : x.Orderly)
    (hkeeps : x.KeepsActive)
    (outside : BucketRef → Bool)
    (hactive : x.viewer.residency.holds ref = true ∨ ref ∈ x.viewer.active) :
    x.viewer.pool.Needs x.scene (x.heldBeside outside) ref := by
  have hheld : x.heldBeside outside ref = true := by
    rcases hactive with hholds | hmem
    · simp [heldBeside, hholds]
    · simp [heldBeside, hmem]
  have hpool : x.viewer.pool.holds ref = true := by
    rcases hactive with hholds | hmem
    · obtain ⟨a, ha, rfl⟩ := Residency.holds_iff.mp hholds
      exact Pool.holds_iff.mpr ⟨_, (h.stocked.entries _ _).mpr (h.lives ha)⟩
    · exact hkeeps ref hmem
  obtain ⟨a, hmem⟩ := Pool.holds_iff.mp hpool
  exact .root hmem (.inl hheld)

end Keeping

section Twins

variable {seen : BucketRef → Prop} {x y : Session}

/-- Whether a session is like another one but for buckets that are not seen, which it lacks. -/
structure Twins (seen : BucketRef → Prop) (x y : Session) : Prop where
  viewer : y.viewer = { x.viewer with pool := y.viewer.pool }
  active : ∀ a ∈ x.viewer.residency.active, seen a.bucket
  find? : ∀ a ref, y.viewer.pool.find? a = some ref ↔ x.viewer.pool.find? a = some ref ∧ seen ref
  scene : Scene.AgreesOn seen x.scene y.scene

/-- Reclaiming garbage leaves a twin. -/
theorem Orderly.twins_collectGarbage
    (h : x.Orderly)
    (hkeeps : x.KeepsActive)
    (halone : x.viewer.residency.ListensAlone x.scene)
    (outside : BucketRef → Bool) :
    Twins (x.viewer.pool.Needs x.scene (x.heldBeside outside)) x
      (x.step (.collectGarbage outside)) := by
  have hactive : ∀ a ∈ x.viewer.residency.active,
      x.viewer.pool.Needs x.scene (x.heldBeside outside) a.bucket := fun a ha =>
    h.needs_of_active hkeeps outside (.inl (Residency.holds_iff.mpr ⟨a, ha, rfl⟩))
  refine ⟨rfl, hactive, fun a ref => ?_, ?_⟩
  · rw [(h.collectGarbage outside).stocked.find?_iff, ← (h.collectGarbage outside).stocked.entries,
      h.stocked.find?_iff, ← h.stocked.entries]
    exact h.mem_entries_collectGarbage outside
  · obtain ⟨journal, hafter⟩ := x.step_collectGarbage_eq outside
    rw [hafter]
    refine Scene.AgreesOn.journal (s := x.scene) ?_ x.scene.journal journal
    refine halone.agreesOn_collectAll hactive (fun ref href => ?_) fun ref href =>
      (h.stocked.mem_garbage_iff.mp href).2
    obtain ⟨a, hmem⟩ := Pool.holds_iff.mp (h.stocked.mem_garbage_iff.mp href).1
    exact ((h.stocked.entries a ref).mp hmem).lt

/-- A twin lacks what is not seen. -/
theorem Twins.find?_eq_none
    {a : Address}
    (h : Twins seen x y)
    (hunseen : ∀ ref, x.viewer.pool.find? a = some ref → ¬ seen ref) :
    y.viewer.pool.find? a = none := by
  rw [Option.eq_none_iff_forall_ne_some]
  intro ref hfound
  obtain ⟨hfind, hseen⟩ := (h.find? a ref).mp hfound
  exact hunseen ref hfind hseen

/-- A payload that is delivered to one session is delivered to its twin, or lost unseen. -/
theorem Twins.receive
    (h : Twins seen x y)
    (halone : x.viewer.residency.ListensAlone x.scene)
    (a : Address) (payload : Payload) :
    Twins seen (x.step (.receive a payload)) (y.step (.receive a payload)) := by
  cases hfind : x.viewer.pool.find? a with
  | none =>
      have hlost := h.find?_eq_none (a := a) (by simp [hfind])
      rw [step_receive_of_find?_eq_none hfind, step_receive_of_find?_eq_none hlost]
      exact h
  | some ref =>
      rw [step_receive_of_find? hfind]
      by_cases hseen : seen ref
      · rw [step_receive_of_find? ((h.find? a ref).mpr ⟨hfind, hseen⟩)]
        exact ⟨h.viewer, h.active, h.find?, h.scene.deed hseen (.receive payload)⟩
      · have hlost := h.find?_eq_none (a := a) (by simpa [hfind] using hseen)
        have hunnoticed := halone.agreesOn_deed h.active hseen (.inr (.inl ⟨payload, rfl⟩))
        rw [step_receive_of_find?_eq_none hlost]
        exact ⟨h.viewer, h.active, h.find?, hunnoticed.symm.trans h.scene⟩

/-- Whatever payloads are delivered, twins remain twins. -/
theorem Twins.receiveAll
    (h : Twins seen x y)
    (horderly : x.Orderly)
    (halone : x.viewer.residency.ListensAlone x.scene)
    (deliveries : List (Address × Payload)) :
    Twins seen (x.receiveAll deliveries) (y.receiveAll deliveries) := by
  induction deliveries generalizing x y with
  | nil => exact h
  | cons delivery rest ih =>
      exact ih (h.receive halone delivery.1 delivery.2)
        (horderly.receive delivery.1 delivery.2) (isKept_listensAlone.step horderly halone)

end Twins

section Results

variable {x : Session} {outside : BucketRef → Bool} {ref : BucketRef}

/-- Buckets that are active, that stand in for active ones, or that are being loaded. -/
inductive Matters (x : Session) (outside : BucketRef → Bool) : BucketRef → Prop
  | active {ref : BucketRef} :
      x.viewer.residency.holds ref = true ∨ ref ∈ x.viewer.active →
      Matters x outside ref
  | standIn {ref c : BucketRef} :
      x.viewer.residency.holds ref = true ∨ ref ∈ x.viewer.active →
      c ∈ x.scene.coarserChain (fun ref => outside ref || x.viewer.holds ref) ref →
      Matters x outside c
  | loading {ref : BucketRef} :
      (x.scene.bucket ref).state = .loading →
      Matters x outside ref

/-- What a rebuild of the look-up entries answers and leaves of the residency and on the device. -/
def rebuilt (x : Session) (outside : BucketRef → Bool) :
    Except Fault Unit × Residency × Device :=
  let held := fun ref => outside ref || x.viewer.pool.holds ref || x.viewer.active.contains ref
  let after := x.viewer.residency.refresh x.scene held
  (after.1, after.2.1, after.2.2.device)

/-- What a frame answers and leaves of the residency and on the device. -/
def framed (x : Session) (outside : BucketRef → Bool) (allowance : Residency.Allowance) :
    Except Fault Nat × Residency × Device :=
  let after := x.viewer.tick x.scene outside allowance
  (after.1, after.2.1.residency, after.2.2.device)

/-- What is needed lies on the scene. -/
theorem Orderly.lt_size_of_needs
    {held : BucketRef → Bool}
    (h : x.Orderly)
    (hneeds : x.viewer.pool.Needs x.scene held ref) :
    ref < x.scene.buckets.size := by
  induction hneeds with
  | root hmem _ => exact ((h.stocked.entries _ _).mp hmem).lt
  | coarser _ hsome ih => exact Nat.lt_trans (Scene.lt_of_coarser? hsome) ih

variable {later : BucketRef → Bool} {s : Scene}

/-- As long as nobody takes hold of anything new, links lead from what is needed to the like. -/
theorem Orderly.needs_of_coarser?
    {c : BucketRef}
    (h : x.Orderly)
    (hlater : ∀ ref, later ref = true → outside ref = true ∨ x.viewer.holds ref = true)
    (hextends : Scene.Extends x.scene s)
    (hneeds : x.viewer.pool.Needs x.scene (x.heldBeside outside) ref)
    (hsome : s.coarser? (fun ref => later ref || x.viewer.holds ref) ref = some c) :
    x.viewer.pool.Needs x.scene (x.heldBeside outside) c := by
  have hlink := (hextends.same ref (h.lt_size_of_needs hneeds)).coarser
  refine .coarser hneeds ?_
  simp only [Scene.coarser?, hlink, Option.filter_eq_some_iff, Bool.and_eq_true, Bool.or_eq_true]
    at hsome ⊢
  refine ⟨hsome.1, hsome.2.1, ?_⟩
  have hheld : outside c = true ∨ x.viewer.holds c = true :=
    hsome.2.2.elim (hlater c) .inr
  simp only [Pool.isAlive, heldBeside, Viewer.holds, Bool.or_eq_true] at hheld ⊢
  tauto

/-- What is active, stands in for something active or is being loaded is needed. -/
theorem Orderly.needs_of_matters
    (h : x.Orderly)
    (hkeeps : x.KeepsActive)
    (hmatters : x.Matters outside ref) :
    x.viewer.pool.Needs x.scene (x.heldBeside outside) ref := by
  cases hmatters with
  | active hactive => exact h.needs_of_active hkeeps outside hactive
  | standIn hactive hchain =>
      have hfirst := h.needs_of_active hkeeps outside hactive
      refine Scene.forall_mem_coarserChain (fun _ _ hneeds hsome => ?_) hfirst ref hchain
      exact h.needs_of_coarser? (fun _ => .inl) (.refl x.scene) hneeds hsome
  | loading hstate =>
      have hlt : ref < x.scene.buckets.size := by
        by_contra hbeyond
        simp [Scene.bucket, hbeyond, default, Bucket.create] at hstate
      have hopen : (x.scene.bucket ref).isCollected = false := by
        rw [Bool.eq_false_iff]
        intro hcollected
        rw [(h.stocked.consistent ref).collected hcollected] at hstate
        cases hstate
      exact .root ((h.stocked.entries _ ref).mpr ⟨hlt, rfl, hopen⟩) (.inr hstate)

/-- The residency sees nothing but what is needed, before and after garbage is reclaimed. -/
theorem Orderly.confines
    (h : x.Orderly)
    (hkeeps : x.KeepsActive)
    (hlater : ∀ ref, later ref = true → outside ref = true ∨ x.viewer.holds ref = true)
    (hextends : Scene.Extends x.scene s) :
    let y := x.step (.collectGarbage outside)
    Residency.Confines (x.viewer.pool.Needs x.scene (x.heldBeside outside)) x.viewer.residency s
      (fun ref => later ref || x.viewer.pool.holds ref || x.viewer.active.contains ref)
      (fun ref => later ref || y.viewer.pool.holds ref || x.viewer.active.contains ref) := by
  intro y
  have hpool : ∀ ref, y.viewer.pool.holds ref = true ↔ x.viewer.pool.holds ref = true ∧
      x.viewer.pool.Needs x.scene (x.heldBeside outside) ref := by
    intro ref
    simp only [Pool.holds_iff, y, h.mem_entries_collectGarbage, exists_and_right]
  constructor
  · exact fun a ha =>
      h.needs_of_active hkeeps outside (.inl (Residency.holds_iff.mpr ⟨a, ha, rfl⟩))
  · intro ref c hneeds hsome
    refine h.needs_of_coarser? hlater hextends hneeds (Eq.trans ?_ hsome)
    simp only [Viewer.holds]
    congr 1
    funext ref
    ac_rfl
  · intro ref hheld
    simp only [Bool.or_eq_true] at hheld ⊢
    exact hheld.imp_left (Or.imp_right fun hkept => ((hpool ref).mp hkept).1)
  · intro ref hneeds hheld
    simp only [Bool.or_eq_true] at hheld ⊢
    exact hheld.imp_left (Or.imp_right fun hkept => (hpool ref).mpr ⟨hkept, hneeds⟩)

theorem extends_receiveAll
    (x : Session) (deliveries : List (Address × Payload)) :
    Scene.Extends x.scene (x.receiveAll deliveries).scene := by
  refine List.foldlRecOn (motive := fun y : Session => Scene.Extends x.scene y.scene)
    deliveries _ (.refl _) ?_
  intro y hbefore delivery _
  cases hfind : y.viewer.pool.find? delivery.1 with
  | none =>
      rw [step_receive_of_find?_eq_none hfind]
      exact hbefore
  | some ref =>
      rw [step_receive_of_find? hfind]
      exact hbefore.trans (Scene.extends_occur y.scene (.deed ref (.receive delivery.2)))

/--
Reclaiming garbage is noticed by nobody.  In every session it changes nothing of the viewer but
its pool, no mailbox and no texture, and of the buckets that are active, that stand in for active
ones or that are being loaded, it changes none and takes none out of the pool.  As long as
others hold nothing later that is not held then, a rebuild of the look-up entries and, after
any payloads were delivered, a frame answer the same and leave the same residency, its
committed buckets and look-up entries among it, and the same textures as without it.
-/
theorem collectGarbage_unnoticed
    {allowed : Session → Call → Prop}
    (hreached : Reached allowed x)
    (outside : BucketRef → Bool) :
    let y := x.step (.collectGarbage outside)
    y.viewer = { x.viewer with pool := y.viewer.pool } ∧
    y.scene.mailboxes = x.scene.mailboxes ∧
    y.scene.device = x.scene.device ∧
    (∀ ref, x.Matters outside ref →
      y.scene.bucket ref = x.scene.bucket ref ∧
      ∀ a, x.viewer.pool.find? a = some ref → y.viewer.pool.find? a = some ref) ∧
    ∀ later : BucketRef → Bool,
      (∀ ref, later ref = true → outside ref = true ∨ x.viewer.holds ref = true) →
      y.rebuilt later = x.rebuilt later ∧
      ∀ deliveries allowance,
        (y.receiveAll deliveries).framed later allowance =
          (x.receiveAll deliveries).framed later allowance := by
  intro y
  have horderly := hreached.orderly
  have hkeeps := hreached.keepsActive
  have halone := hreached.listensAlone
  have htwins : Twins (x.viewer.pool.Needs x.scene (x.heldBeside outside)) x y :=
    horderly.twins_collectGarbage hkeeps halone outside
  refine ⟨htwins.viewer, htwins.scene.mailboxes, htwins.scene.device, ?_, ?_⟩
  · intro ref hmatters
    have hneeds := horderly.needs_of_matters hkeeps hmatters
    exact ⟨htwins.scene.bucket ref hneeds, fun a hfind => (htwins.find? a ref).mpr ⟨hfind, hneeds⟩⟩
  · intro later hlater
    refine ⟨?_, fun deliveries allowance => ?_⟩
    · obtain ⟨t, hrefresh, hagree⟩ := htwins.scene.refresh
        (horderly.confines hkeeps hlater (.refl x.scene))
      have hrebuilt : y.rebuilt later = _ :=
        congrArg (fun after => (after.1, after.2.1, after.2.2.device)) hrefresh
      rw [hrebuilt, hagree.device]
      rfl
    · obtain ⟨t, htick, hagree⟩ :=
        (htwins.receiveAll horderly halone deliveries).scene.tick
          (horderly.confines hkeeps hlater (x.extends_receiveAll deliveries)) allowance
      have hframed : y.viewer.tick (y.receiveAll deliveries).scene later allowance = _ :=
        congrArg (fun after => (after.1, { y.viewer with residency := after.2.1 }, after.2.2)) htick
      simp only [framed, viewer_receiveAll, hframed, hagree.device]
      rfl

/-- A viewer that has looked around once reclaims garbage before its first frame. -/
theorem collectGarbage_unnoticed_of_one_update :
    let nobody : BucketRef → Bool := fun _ => false
    let x := [.addSwitch true, .setUp (.rasters 0) 1, .update nobody .start, .take none].foldl
      Session.step .smallest
    let y := x.step (.collectGarbage nobody)
    let arrived : List (Address × Payload) := [(.origin, zeroBytes bucketVoxels)]
    Reached (fun _ _ => True) x ∧
      (∀ ref, (x.scene.bucket ref).state = .loading → y.scene.bucket ref = x.scene.bucket ref) ∧
      y.rebuilt nobody = x.rebuilt nobody ∧
      (y.receiveAll arrived).framed nobody .unlimited =
        (x.receiveAll arrived).framed nobody .unlimited := by
  intro nobody x y arrived
  have hreached : Reached (fun _ _ => True) x :=
    (reached_smallest _).run ⟨trivial, trivial, trivial, trivial, trivial⟩
  clear_value x
  obtain ⟨_, _, _, hkept, hlater⟩ := collectGarbage_unnoticed hreached nobody
  obtain ⟨hrebuilt, hframed⟩ := hlater nobody nofun
  exact ⟨hreached, fun ref hstate => (hkept ref (.loading hstate)).1, hrebuilt,
    hframed arrived .unlimited⟩

end Results

end Session

end VoxelCache
