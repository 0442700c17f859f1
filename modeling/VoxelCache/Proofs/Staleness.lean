import VoxelCache.Proofs.Provenance

/-!
# Staleness of the look-up entries

Between two rebuilds the look-up entries are left alone, unless they are marked as stale.
They are marked when a bucket is committed and when a committed bucket gives up its slot,
but not when a bucket departs that was never committed.

**Invariants.**
* `Registered`: nobody was written who holds a number of a subscription that is still to be
  given, so that a bucket that comes back is not taken for the one that left.
* `UpToDate`: entries that are not stale are those of the buckets that were active at the
  last rebuild, and the buckets that departed since were never committed.

**Results.**
* `Residency.getElem?_entries_of_sublist`: departed buckets matter only in their own cells.
* `isStale_step_of_not_rebuilds`: a write marks the entries, and only a rebuild takes the mark back.
* `tick_renews_but_departed`: after a frame the entries are those of a rebuild, except in
  the cells of buckets that departed uncommitted.
-/

namespace VoxelCache

section Cells

namespace Residency

variable {m : Residency} {s : Scene} {held : BucketRef → Bool} {i : Nat}
  {list : List ActiveBucket} {state : LookUp.Buffer × Nat}

/-- What is written into a cell depends on the buckets that lie there. -/
theorem getElem?_foldl_enter_filter
    (m : Residency) (s : Scene) (held : BucketRef → Bool) (i : Nat) (list : List ActiveBucket)
    (state state' : LookUp.Buffer × Nat)
    (hsize : state'.1.size = state.1.size)
    (hstate : state'.1[i]? = state.1[i]?) :
    ((list.filter fun a => m.lookUpIndex? (s.bucket a.bucket).address = some i).foldl
        (m.enter s held) state').1[i]? =
      (list.foldl (m.enter s held) state).1[i]? := by
  induction list generalizing state state' with
  | nil => exact hstate
  | cons a rest ih =>
      by_cases hindex : m.lookUpIndex? (s.bucket a.bucket).address = some i
      · rw [List.filter_cons_of_pos (by simpa using hindex), List.foldl_cons, List.foldl_cons]
        refine ih _ _ ?_ ?_
        · rw [size_enter, size_enter, hsize]
        · simp [enter, hindex, Array.getElem?_setIfInBounds, hsize]
      · rw [List.filter_cons_of_neg (by simpa using hindex), List.foldl_cons]
        refine ih _ _ ?_ ?_
        · rw [size_enter, hsize]
        · simp only [enter]
          split
          · rename_i j hj
            have hother : j ≠ i := fun hsame => hindex (hsame ▸ hj)
            rw [hstate]
            exact (Array.getElem?_setIfInBounds_ne hother).symm
          · exact hstate

/-- A part of a list agrees with the whole on what it has kept of it. -/
theorem filter_eq_of_sublist
    {part whole : List ActiveBucket} {p : ActiveBucket → Bool}
    (h : part.Sublist whole)
    (hwhole : whole.Nodup)
    (hkept : ∀ a ∈ whole, p a = true → a ∈ part) :
    part.filter p = whole.filter p := by
  induction h with
  | slnil => rfl
  | @cons part whole a h ih =>
      obtain ⟨hnew, hrest⟩ := List.nodup_cons.mp hwhole
      have hlost : ¬ p a = true := fun ha => hnew (h.subset (hkept a List.mem_cons_self ha))
      rw [List.filter_cons_of_neg hlost]
      exact ih hrest fun b hb => hkept b (List.mem_cons_of_mem _ hb)
  | @cons_cons part whole a h ih =>
      obtain ⟨hnew, hrest⟩ := List.nodup_cons.mp hwhole
      rw [List.filter_cons, List.filter_cons, ih hrest]
      intro b hb hp
      refine (List.mem_cons.mp (hkept b (List.mem_cons_of_mem _ hb) hp)).resolve_left ?_
      rintro rfl
      exact hnew hb

theorem committedOwner?_of_sublist
    {whole : List ActiveBucket}
    (h : m.active.Sublist whole)
    (hdistinct : (whole.map (·.id)).Nodup)
    (hcommitted : ∀ id ∈ m.committed, id ∈ m.active.map (·.id))
    (id : BucketId) :
    { m with active := whole }.committedOwner? id = m.committedOwner? id := by
  unfold committedOwner?
  by_cases hid : m.isCommitted id = true
  · have hwhole : { m with active := whole }.isCommitted id = true := hid
    rw [if_pos hid, if_pos hwhole]
    obtain ⟨a, hfind⟩ := Option.isSome_iff_exists.mp
      (isActive_iff.mpr (hcommitted id (List.contains_iff_mem.mp hid)))
    obtain ⟨ha, rfl⟩ := find?_eq_some hfind
    obtain ⟨b, hb⟩ := Option.isSome_iff_exists.mp
      (isActive_iff (m := { m with active := whole }).mpr
        (List.mem_map_of_mem (f := (·.id)) (h.subset ha)))
    obtain ⟨hmem, hsame⟩ := find?_eq_some hb
    rw [hb, hfind, List.inj_on_of_nodup_map hdistinct hmem (h.subset ha) hsame]
  · have hwhole : ¬ { m with active := whole }.isCommitted id = true := hid
    rw [if_neg hid, if_neg hwhole]

/-- Buckets that departed uncommitted matter to a rebuild only in their own cells. -/
theorem getElem?_entries_of_sublist
    {whole : List ActiveBucket}
    (s : Scene) (held : BucketRef → Bool)
    (h : m.active.Sublist whole)
    (hdistinct : (whole.map (·.id)).Nodup)
    (hcommitted : ∀ id ∈ m.committed, id ∈ m.active.map (·.id))
    (helsewhere : ∀ d ∈ whole, d ∉ m.active →
      m.lookUpIndex? (s.bucket d.bucket).address ≠ some i) :
    ({ m with active := whole }.entries s held).1[i]? = (m.entries s held).1[i]? := by
  have henter : { m with active := whole }.enter s held = m.enter s held := by
    funext state a
    have hentry : { m with active := whole }.entryFor s held a = m.entryFor s held a :=
      entryFor_congr rfl rfl rfl (committedOwner?_of_sublist h hdistinct hcommitted)
        ⟨rfl, fun _ _ => rfl, fun _ _ => rfl⟩
    unfold enter
    rw [hentry]
    rfl
  have hshown : (m.shown s).Sublist ({ m with active := whole }.shown s) := h.filter _
  have hwhole : ({ m with active := whole }.shown s).Nodup :=
    (List.Nodup.of_map _ hdistinct).filter _
  have hcell : ((m.shown s).filter fun a =>
        m.lookUpIndex? (s.bucket a.bucket).address = some i) =
      ({ m with active := whole }.shown s).filter fun a =>
        m.lookUpIndex? (s.bucket a.bucket).address = some i := by
    refine filter_eq_of_sublist hshown hwhole ?_
    intro a ha hindex
    obtain ⟨hmem, hzoom⟩ := mem_shown.mp ha
    refine mem_shown.mpr ⟨?_, hzoom⟩
    by_contra hgone
    exact helsewhere a hmem hgone (by simpa using hindex)
  let blank : LookUp.Buffer × Nat := (.blank m.settings.lookUpEntries, 0)
  have hpart := getElem?_foldl_enter_filter m s held i (m.shown s) blank blank rfl rfl
  have hall := getElem?_foldl_enter_filter m s held i
    ({ m with active := whole }.shown s) blank blank rfl rfl
  rw [entries, entries, henter]
  rw [hcell] at hpart
  exact hall.symm.trans hpart

end Residency

end Cells

section Registration

open Residency

variable {opening : Bool} {w w' : World} {a : ActiveBucket}

/-- Whether the subscription of an entry of the books was given by its bucket. -/
structure IsRegistered (s : Scene) (a : ActiveBucket) : Prop where
  known : Knows s a
  given : a.subscription < (s.bucket a.bucket).nextSubscription

theorem IsRegistered.of_extends
    {s s' : Scene}
    (h : IsRegistered s a)
    (hextends : Scene.Extends s s') :
    IsRegistered s' a where
  known := h.known.of_extends hextends
  given := Nat.lt_of_lt_of_le h.given (hextends.same a.bucket h.known.1).subscriptions

/-- Whether buckets are active and uncommitted only until they are written. -/
structure Registered (w : World) : Prop where
  active : ∀ a ∈ w.residency.active, IsRegistered w.scene a
  writes : ∀ a ∈ w.chronicle.writes, IsRegistered w.scene a
  committed : ∀ a ∈ w.residency.active, a ∈ w.chronicle.writes → a.id ∈ w.residency.committed

theorem Registered.of_shrinks
    (h : Registered w)
    (hshrinks : Shrinks w w') :
    Registered w' where
  active a ha := (h.active a (hshrinks.active a ha)).of_extends hshrinks.scene
  writes a ha := by
    rw [hshrinks.chronicle] at ha
    exact (h.writes a ha).of_extends hshrinks.scene
  committed a ha hwritten := by
    rw [hshrinks.chronicle] at hwritten
    exact hshrinks.kept a ha (h.committed a (hshrinks.active a ha) hwritten)

/-- A subscription gets a number that was not given before. -/
theorem registered_reserve
    {ref : BucketRef} {slot : Nat} {free : List Nat}
    (h : Registered w)
    (hexist : ref < w.scene.buckets.size) :
    Registered (w.reserve ref slot free) := by
  let number := (w.scene.bucket ref).nextSubscription
  let new : ActiveBucket := ⟨(w.scene.bucket ref).id, ref, slot, number⟩
  have hactive : (w.reserve ref slot free).residency.active = w.residency.active ++ [new] := by
    simp only [World.reserve, reserve, enqueue, Scene.subscribe, Bucket.subscribe]
    split <;> rfl
  have hnumber : ((w.reserve ref slot free).scene.bucket ref).nextSubscription = number + 1 := by
    simp only [World.reserve, reserve, Scene.subscribe, Scene.bucket_setBucket_self hexist,
      Bucket.subscribe]
    split <;> rfl
  have hextends : Scene.Extends w.scene (w.reserve ref slot free).scene :=
    (alike_reserve _ w.scene ref slot).extends
  constructor
  · intro a ha
    rw [hactive] at ha
    rcases List.mem_append.mp ha with ha | ha
    · exact (h.active a ha).of_extends hextends
    · rw [List.mem_singleton.mp ha]
      refine ⟨Knows.of_extends (a := new) ⟨hexist, rfl⟩ hextends, ?_⟩
      rw [hnumber]
      exact Nat.lt_succ_self _
  · intro a ha
    exact (h.writes a ha).of_extends hextends
  · intro a ha hwritten
    rw [hactive] at ha
    rcases List.mem_append.mp ha with ha | ha
    · exact h.committed a ha hwritten
    · rw [List.mem_singleton.mp ha] at hwritten
      exact absurd (h.writes new hwritten).given (Nat.lt_irrefl _)

theorem registered_commit
    {rest : List WriteRequest} {s : Scene}
    (h : Registered w)
    (ha : a ∈ w.residency.active)
    (hextends : Scene.Extends w.scene s) :
    Registered (w.commit a rest s) := by
  have hscene : Scene.Extends w.scene (w.commit a rest s).scene :=
    hextends.trans (alike_markCommitted _ s a).extends
  have hwrites : ∀ b ∈ (w.commit a rest s).chronicle.writes, b ∈ w.chronicle.writes ∨ b = a := by
    intro b hb
    rcases List.mem_append.mp hb with hb | hb
    · exact .inl hb
    · exact .inr (List.mem_singleton.mp hb)
  constructor
  · intro b hb
    exact (h.active b hb).of_extends hscene
  · intro b hb
    rcases hwrites b hb with hb | rfl
    · exact (h.writes b hb).of_extends hscene
    · exact (h.active b ha).of_extends hscene
  · intro b hb hwritten
    refine (mem_committed_markCommitted (s := s)).mpr ?_
    rcases hwrites b hwritten with hwritten | rfl
    · exact .inr (h.committed b hb hwritten)
    · exact .inl rfl

theorem Registered.of_move
    (h : Registered w)
    (hmove : Move opening w w') :
    Registered w' := by
  rcases hmove.inversion with
    hshrinks | ⟨_, ref, slot, free, _, hexist, _, rfl⟩ | ⟨a, rest, s, ha, _, hextends, rfl⟩
  · exact h.of_shrinks hshrinks
  · exact registered_reserve h hexist
  · exact registered_commit h ha hextends

end Registration

section Renewal

open Residency

variable {w w' w'' : World} {a : ActiveBucket}

/-- Whether the look-up entries, and what they are made from, are still the same. -/
structure Steady (w w' : World) : Prop where
  settings : w'.residency.settings = w.residency.settings
  anchor : w'.residency.anchor = w.residency.anchor
  committed : w'.residency.committed = w.residency.committed
  lookUp : w'.residency.lookUp = w.residency.lookUp
  isStale : w'.residency.isStale = w.residency.isStale
  chronicle : w'.chronicle = w.chronicle
  active : w'.residency.active.Sublist w.residency.active
  /-- Who departs was not committed. -/
  departed : ∀ a ∈ w.residency.active, a ∉ w'.residency.active → a.id ∉ w.residency.committed
  scene : Scene.Extends w.scene w'.scene

theorem Steady.trans
    (h : Steady w w')
    (h' : Steady w' w'') :
    Steady w w'' where
  settings := h'.settings.trans h.settings
  anchor := h'.anchor.trans h.anchor
  committed := h'.committed.trans h.committed
  lookUp := h'.lookUp.trans h.lookUp
  isStale := h'.isStale.trans h.isStale
  chronicle := h'.chronicle.trans h.chronicle
  active := h'.active.trans h.active
  departed a ha hgone := by
    by_cases hmid : a ∈ w'.residency.active
    · rw [← h.committed]
      exact h'.departed a hmid hgone
    · exact h.departed a ha hmid
  scene := h.scene.trans h'.scene

theorem steady_of_books
    (hsettings : w'.residency.settings = w.residency.settings)
    (hanchor : w'.residency.anchor = w.residency.anchor)
    (hcommitted : w'.residency.committed = w.residency.committed)
    (hlookUp : w'.residency.lookUp = w.residency.lookUp)
    (hstale : w'.residency.isStale = w.residency.isStale)
    (hchronicle : w'.chronicle = w.chronicle)
    (hactive : w'.residency.active = w.residency.active)
    (hscene : Scene.Extends w.scene w'.scene) :
    Steady w w' where
  settings := hsettings
  anchor := hanchor
  committed := hcommitted
  lookUp := hlookUp
  isStale := hstale
  chronicle := hchronicle
  active := hactive ▸ List.Sublist.refl _
  departed _ ha hgone := absurd (hactive ▸ ha) hgone
  scene := hscene

/-- When a committed bucket departs the entries become stale, else they stay as they are. -/
theorem forgo_cases (w : World) (a : ActiveBucket) :
    Steady w (w.forgo a) ∨ (w.forgo a).residency.isStale = true := by
  have hstale : (w.forgo a).residency.isStale =
      (w.residency.isStale || w.residency.isCommitted a.id) := rfl
  cases hcommitted : w.residency.isCommitted a.id with
  | true =>
      right
      rw [hstale, hcommitted, Bool.or_true]
  | false =>
      left
      have hnot : a.id ∉ w.residency.committed := by
        intro hid
        have htrue : w.residency.isCommitted a.id = true := List.contains_iff_mem.mpr hid
        rw [hcommitted] at htrue
        cases htrue
      refine ⟨rfl, rfl, ?_, rfl, ?_, rfl, List.filter_sublist, ?_, ?_⟩
      · refine List.filter_eq_self.mpr ?_
        intro id hid
        have hne : id ≠ a.id := fun hsame => hnot (hsame ▸ hid)
        simpa using hne
      · rw [hstale, hcommitted, Bool.or_false]
      · intro b hb hgone
        have hsame : b.id = a.id := by
          by_contra hne
          exact hgone (List.mem_filter.mpr ⟨hb, by simpa using hne⟩)
        rw [hsame]
        exact hnot
      · exact (alike_dismiss w.residency w.scene a).extends

/-- A move that does not mark the entries as stale leaves alone what they are made from. -/
theorem Move.steady_or_stale
    (h : Move false w w') :
    Steady w w' ∨ w'.residency.isStale = true := by
  have hextends := h.alike.extends
  cases h with
  | journal => exact .inl (steady_of_books rfl rfl rfl rfl rfl rfl rfl hextends)
  | @hear _ _ notice rest _ =>
      have hpop : Steady w (w.pop rest) :=
        steady_of_books rfl rfl rfl rfl rfl rfl rfl (Scene.extends_of_buckets rfl)
      rcases w.hear_cases notice rest with ⟨_, hhear⟩ | ⟨_, ⟨_, hhear⟩ | ⟨a, _, _, hhear⟩⟩
      · rw [hhear] at hextends ⊢
        exact .inl (steady_of_books rfl rfl rfl rfl rfl rfl rfl hextends)
      · rw [hhear]
        exact .inl hpop
      · rw [hhear]
        exact (forgo_cases (w.pop rest) a).imp_left hpop.trans
  | forgo _ => exact forgo_cases w _
  | thin => exact .inl (steady_of_books rfl rfl rfl rfl rfl rfl rfl hextends)
  | skip _ _ => exact .inl (steady_of_books rfl rfl rfl rfl rfl rfl rfl hextends)
  | fail _ _ _ _ _ _ => exact .inl (steady_of_books rfl rfl rfl rfl rfl rfl rfl hextends)
  | write _ _ _ _ _ _ => exact .inr rfl
  | upload =>
      obtain ⟨isPending, device, hupload⟩ := w.exists_upload_eq
      rw [hupload] at hextends ⊢
      exact .inl (steady_of_books rfl rfl rfl rfl rfl rfl rfl hextends)

/-- What a rebuild would write if the buckets of the last rebuild were still active. -/
def World.recalled (w : World) : LookUp.Buffer :=
  ({ w.residency with active := w.chronicle.owners }.entries w.scene fun _ => true).1

/-- Whether the look-up entries are right but for buckets that departed uncommitted. -/
structure UpToDate (w : World) : Prop where
  known : ∀ a ∈ w.chronicle.owners, Knows w.scene a
  distinct : (w.chronicle.owners.map (·.id)).Nodup
  active : w.residency.active.Sublist w.chronicle.owners
  departed : ∀ a ∈ w.chronicle.owners, a ∉ w.residency.active → a ∉ w.chronicle.writes
  lookUp : w.residency.lookUp = w.recalled

/-- A chain of coarser buckets stays the same when buckets are added. -/
theorem looksAlike_of_extends
    {s s' : Scene} {held held' : BucketRef → Bool} {ref : BucketRef}
    (h : Scene.Extends s s')
    (hheld : ∀ r c, (s.bucket r).coarser = some c → held' c = held c)
    (hexist : ref < s.buckets.size) :
    LooksAlike s s' held held' ref := by
  have hsame : ∀ c ≤ ref, Deed.SameBucket (s.bucket c) (s'.bucket c) :=
    fun c hc => h.same c (Nat.lt_of_le_of_lt hc hexist)
  have hbelow : ∀ c ∈ s.coarserChain held ref, c ≤ ref :=
    fun c hc => Nat.le_of_lt (Scene.lt_of_mem_coarserChain hc)
  constructor
  · refine Scene.coarserChain_congr ?_
    intro c hc
    unfold Scene.coarser?
    rw [(hsame c hc).coarser]
    cases hcoarser : (s.bucket c).coarser with
    | none => rfl
    | some d => rw [Option.filter_some, Option.filter_some, hheld c d hcoarser]
  · intro c hc
    exact (hsame c (hbelow c hc)).id
  · intro c hc
    rcases List.mem_cons.mp hc with rfl | hc
    · exact (hsame c (Nat.le_refl c)).address
    · exact (hsame c (hbelow c hc)).address

theorem UpToDate.of_steady
    (h : UpToDate w)
    (hregistered : Registered w)
    (hsteady : Steady w w') :
    UpToDate w' := by
  have howners : w'.chronicle.owners = w.chronicle.owners := by rw [hsteady.chronicle]
  refine ⟨?_, ?_, ?_, ?_, ?_⟩
  · intro a ha
    rw [howners] at ha
    exact (h.known a ha).of_extends hsteady.scene
  · rw [howners]
    exact h.distinct
  · rw [howners]
    exact hsteady.active.trans h.active
  · intro a ha hgone hwritten
    rw [howners] at ha
    rw [hsteady.chronicle] at hwritten
    by_cases hactive : a ∈ w.residency.active
    · exact hsteady.departed a hactive hgone (hregistered.committed a hactive hwritten)
    · exact h.departed a ha hactive hwritten
  · have hrecalled : w'.recalled = w.recalled := by
      refine congrArg Prod.fst (entries_congr hsteady.settings hsteady.anchor howners
        hsteady.committed ?_)
      intro a ha
      exact looksAlike_of_extends hsteady.scene (fun _ _ _ => rfl) (h.known a ha).1
    rw [hsteady.lookUp, h.lookUp, hrecalled]

/-- Whether every bucket that stands in for another one is held. -/
def Scene.HoldsCoarser (s : Scene) (held : BucketRef → Bool) : Prop :=
  ∀ ref c, (s.bucket ref).coarser = some c → held c = true

theorem Scene.HoldsCoarser.of_alike
    {s s' : Scene} {held : BucketRef → Bool}
    (h : s.HoldsCoarser held)
    (halike : Scene.Alike s s') :
    s'.HoldsCoarser held := by
  intro ref c hcoarser
  rw [(halike.same ref).coarser] at hcoarser
  exact h ref c hcoarser

theorem upToDate_rebuild
    {outside : BucketRef → Bool}
    (htidy : Tidy w.residency)
    (h : Registered w)
    (hheld : w.scene.HoldsCoarser outside) :
    UpToDate (w.rebuild outside) where
  known a ha := (h.active a ha).known
  distinct := htidy.ids
  active := List.Sublist.refl _
  departed _ ha hgone := absurd ha hgone
  lookUp := by
    refine (congrArg Prod.fst (entries_congr rfl rfl rfl rfl ?_)).symm
    intro a ha
    refine looksAlike_of_extends (.refl _) ?_ (h.active a ha).known.1
    intro ref c hcoarser
    rw [hheld ref c hcoarser, Bool.true_or]

end Renewal

section Listing

open Residency

variable {allowed : World → Operation → Prop} {s₀ : Scene} {w w' : World} {op : Operation}

theorem steady_step_of_not_isWork
    (h : op.isWork = false) :
    Steady w (w.step op) := by
  cases op with
  | occurrence o =>
      rw [w.step_occurrence]
      exact steady_of_books rfl rfl rfl rfl rfl rfl rfl (Scene.extends_occur w.scene o)
  | setUp factory bytes =>
      obtain ⟨_, _, _, device, journal, hstep⟩ := w.exists_step_setUp_eq factory bytes
      rw [hstep]
      exact steady_of_books rfl rfl rfl rfl rfl rfl rfl (Scene.extends_of_buckets rfl)
  | _ => cases h

/-- Moves that write mark the entries as stale, and none take the mark back. -/
theorem Moves.unwritten_or_stale
    (h : Moves false w w') :
    (w'.chronicle = w.chronicle ∧ w'.residency.isStale = w.residency.isStale) ∨
      w'.residency.isStale = true := by
  induction h with
  | refl => exact .inl ⟨rfl, rfl⟩
  | tail _ hmove ih =>
      rcases hmove.steady_or_stale with hsteady | hstale
      · rcases ih with ⟨hchronicle, hsame⟩ | hstale
        · exact .inl ⟨hsteady.chronicle.trans hchronicle, hsteady.isStale.trans hsame⟩
        · exact .inr (hsteady.isStale.trans hstale)
      · exact .inr hstale

/-- An operation that writes leaves a mark unless it rebuilds the entries, and keeps an old one. -/
theorem isStale_step_of_not_rebuilds
    (htidy : Tidy w.residency)
    (h : w.rebuilds op = false)
    (hdue : w.writes op ≠ [] ∨ w.residency.isStale = true) :
    (w.step op).residency.isStale = true := by
  have hwrites : (w.step op).chronicle.writes = w.chronicle.writes ++ w.writes op := rfl
  have hkept : ((w.step op).chronicle = w.chronicle ∧
      (w.step op).residency.isStale = w.residency.isStale) ∨
      (w.step op).residency.isStale = true := by
    cases hwork : op.isWork with
    | false =>
        have hsteady := steady_step_of_not_isWork (w := w) hwork
        exact .inl ⟨hsteady.chronicle, hsteady.isStale⟩
    | true => exact (moves_step_of_not_rebuilds hwork htidy h).unwritten_or_stale
  rcases hkept with ⟨hchronicle, hsame⟩ | hstale
  · rw [hchronicle] at hwrites
    exact hsame.trans (hdue.resolve_left fun hwritten =>
      hwritten (List.self_eq_append_right.mp hwrites))
  · exact hstale

/--
Whether the look-up entries were rebuilt since the last write of a run, if they were `listed`
when it began.  An operation that does both rebuilds them after it has written.
-/
def World.isListed (w : World) (listed : Bool) : List Operation → Bool
  | [] => listed
  | op :: rest => (w.step op).isListed (w.rebuilds op || listed && (w.writes op).isEmpty) rest

/-- Entries that were not rebuilt since the last write are marked as stale. -/
theorem Reachable.isListed_or_isStale
    {listed : Bool} {ops : List Operation}
    (h : Reachable allowed s₀ w)
    (hops : w.Admits allowed ops)
    (hlisted : listed = true ∨ w.residency.isStale = true) :
    w.isListed listed ops = true ∨ (ops.foldl World.step w).residency.isStale = true := by
  induction ops generalizing w listed with
  | nil => exact hlisted
  | cons op rest ih =>
      refine ih (h.step hops.1 hops.2.1) hops.2.2 ?_
      cases hrebuilds : w.rebuilds op with
      | true => exact .inl (Bool.true_or _)
      | false =>
          rw [Bool.false_or]
          by_cases hwritten : w.writes op = []
          · refine hlisted.imp (fun hbefore => ?_) fun hstale =>
              isStale_step_of_not_rebuilds h.tidy hrebuilds (.inr hstale)
            rw [hbefore, hwritten]
            rfl
          · exact .inr (isStale_step_of_not_rebuilds h.tidy hrebuilds (.inl hwritten))

end Listing

section Frames

open Residency

variable {s₀ : Scene} {w : World} {op : Operation}

/-- Whether an operation begins while every bucket that stands in for another one is held. -/
def KeepsCoarser (w : World) (op : Operation) : Prop :=
  ∀ outside, op.outside? = some outside → w.scene.HoldsCoarser outside

theorem Reachable.registered_upToDate
    (h : Reachable KeepsCoarser s₀ w) :
    Registered w ∧ (w.residency.isStale = false → UpToDate w) := by
  refine h.of_moves (P := Registered)
    (Q := fun w => w.residency.isStale = false → UpToDate w) ?_ ?_ ?_ ?_ ?_
  · intro width textures packing settings m s hcreate
    obtain ⟨_, _, _, _, _, rfl⟩ := create_eq_ok hcreate
    refine ⟨⟨by simp, by simp [Chronicle.blank], by simp⟩, fun _ => ?_⟩
    exact ⟨by simp [Chronicle.blank], by simp [Chronicle.blank], .refl _,
      by simp [Chronicle.blank], rfl⟩
  · intro w op _ hother _ _ hregistered hupToDate
    have hsteady := steady_step_of_not_isWork (w := w) hother
    refine ⟨hregistered.of_shrinks (shrinks_step_of_not_isWork hother), ?_⟩
    intro hstale
    exact (hupToDate (hsteady.isStale ▸ hstale)).of_steady hregistered hsteady
  · intro w w' _ hmove hregistered
    exact hregistered.of_move hmove
  · intro w w' _ hmove hregistered hupToDate hstale
    rcases hmove.steady_or_stale with hsteady | hmarked
    · exact (hupToDate (hsteady.isStale ▸ hstale)).of_steady hregistered hsteady
    · rw [hmarked] at hstale
      cases hstale
  · intro v w op outside hkeeps houtside halike htidy hregistered
    refine ⟨⟨hregistered.active, hregistered.writes, hregistered.committed⟩, fun _ => ?_⟩
    exact upToDate_rebuild htidy hregistered ((hkeeps outside houtside).of_alike halike)

/-- A frame that succeeds leaves no mark of staleness. -/
theorem isStale_tick
    {m : Residency} {s : Scene} {outside : BucketRef → Bool} {allowance : Allowance} {count : Nat}
    (h : (m.tick s outside allowance).1 = .ok count) :
    (m.tick s outside allowance).2.1.isStale = false := by
  rcases hwork : (m.readNotices s).1.work (m.readNotices s).2 allowance with ⟨outcome, m', s'⟩
  cases outcome with
  | error fault => simp [tick, hwork] at h
  | ok done =>
      rw [tick_of_work_eq_ok outside hwork]
      by_cases hstale : m'.isStale = true
      · obtain ⟨isPending, hrefresh⟩ := m'.refresh_residency s' outside
        rw [renew, if_pos hstale, hrefresh]
      · rw [renew, if_neg hstale]
        split
        · obtain ⟨isPending, hupload⟩ := m'.upload_residency s'
          rw [hupload]
          exact Bool.eq_false_iff.mpr hstale
        · exact Bool.eq_false_iff.mpr hstale

/--
After every frame that succeeds, the look-up entries are those that a rebuild would write,
except where a bucket lies that gave up its slot since the last rebuild without ever having
been written: its cell is left as it was.  A cell in which neither such a bucket nor an
active one lies shows nothing.
-/
theorem tick_renews_but_departed
    {outside held : BucketRef → Bool} {allowance : Allowance} {count : Nat}
    (h : Reachable KeepsCoarser s₀ w)
    (houtside : w.scene.HoldsCoarser outside)
    (hheld : w.scene.HoldsCoarser held)
    (htick : (w.residency.tick w.scene outside allowance).1 = .ok count) :
    let after := w.step (.tick outside allowance)
    let rebuilt := (after.residency.entries after.scene held).1
    let cell? := fun a : ActiveBucket =>
      after.residency.lookUpIndex? (after.scene.bucket a.bucket).address
    let departed := after.chronicle.owners.filter fun a => a ∉ after.residency.active
    (∀ d ∈ departed, d ∉ after.chronicle.writes) ∧
    (∀ i, (∀ d ∈ departed, cell? d ≠ some i) →
      after.residency.lookUp[i]? = rebuilt[i]?) ∧
    (∀ i < after.residency.lookUp.size,
      (∀ d ∈ departed, cell? d ≠ some i) → (∀ a ∈ after.residency.active, cell? a ≠ some i) →
      after.residency.lookUp[i]? = some .outside) := by
  intro after rebuilt cell? departed
  have hreached : Reachable KeepsCoarser s₀ after := by
    refine h.step trivial ?_
    intro other hother
    cases hother
    exact houtside
  have halike : Scene.Alike w.scene after.scene := (performs_tick w outside allowance).alike
  obtain ⟨hregistered, hupToDate⟩ := hreached.registered_upToDate
  obtain ⟨hknown, hdistinct, hactive, hdeparted, hlookUp⟩ := hupToDate (isStale_tick htick)
  have hcell : ∀ i, (∀ d ∈ departed, cell? d ≠ some i) →
      after.residency.lookUp[i]? = rebuilt[i]? := by
    intro i helsewhere
    rw [hlookUp]
    -- Who else holds coarser buckets makes no difference as long as all of them are held.
    have hrebuilt : after.residency.entries after.scene held =
        after.residency.entries after.scene fun _ => true := by
      refine entries_congr rfl rfl rfl rfl ?_
      intro a ha
      refine looksAlike_of_extends (.refl _) ?_ (hregistered.active a ha).known.1
      exact hheld.of_alike halike
    have hsame := getElem?_entries_of_sublist after.scene (fun _ => true) hactive hdistinct
      hreached.tidy.committed_active fun d hd hgone =>
        helsewhere d (List.mem_filter.mpr ⟨hd, by simpa using hgone⟩)
    simp only [rebuilt, hrebuilt]
    exact hsame
  refine ⟨?_, hcell, ?_⟩
  · intro d hd
    obtain ⟨howner, hgone⟩ := List.mem_filter.mp hd
    exact hdeparted d howner (by simpa using hgone)
  · intro i hi helsewhere hinactive
    have hsize : after.residency.lookUp.size = after.residency.settings.lookUpEntries := by
      rw [hlookUp, World.recalled, entries, size_foldl_enter]
      exact Array.size_replicate
    rw [hcell i helsewhere]
    simp only [rebuilt, entries]
    rw [getElem?_foldl_enter_of_forall_ne fun a ha => hinactive a (mem_shown.mp ha).1]
    rw [hsize] at hi
    simp [LookUp.Buffer.blank, hi]

/--
The only active bucket gives up its slot before anything is written.  The next frame
succeeds, and its cell is still announced as pending, whereas a rebuild would blank it.
-/
theorem tick_renews_but_departed_of_one_departed :
    let ops : List Operation := [
      .occurrence (.create 7 .origin none), .activate (fun _ => true) [0] .origin, .release 0]
    let w := ops.foldl World.step .smallest
    let after := w.step (.tick (fun _ => true) .unlimited)
    let departed := after.chronicle.owners.filter fun a => a ∉ after.residency.active
    (w.residency.tick w.scene (fun _ => true) .unlimited).1 = .ok 0 ∧
      after.residency.active = [] ∧
      after.residency.lookUp[0]? = some (.pending 0) ∧
      (after.residency.entries after.scene fun _ => true).1[0]? = some .outside ∧
      departed.map (·.bucket) = [0] ∧
      ∀ d ∈ departed, d ∉ after.chronicle.writes := by
  intro ops w after departed
  have hheld : ∀ s : Scene, s.HoldsCoarser fun _ => true := fun _ _ _ _ => rfl
  have hkeeps : ∀ v op, op ∈ ops → KeepsCoarser v op := by
    intro v op hop outside houtside
    simp only [ops, List.mem_cons, List.not_mem_nil, or_false] at hop
    rcases hop with rfl | rfl | rfl
    · cases houtside
    · cases houtside
      exact hheld v.scene
    · cases houtside
  have hreached : Reachable KeepsCoarser Scene.empty w := by
    refine (reachable_smallest _).run ⟨trivial, hkeeps _ _ (by simp [ops]), ?_,
      hkeeps _ _ (by simp [ops]), ?_, hkeeps _ _ (by simp [ops]), trivial⟩
    · show ∀ ref ∈ [0], ref < _
      decide +kernel
    · show 0 < _
      decide +kernel
  have htick : (w.residency.tick w.scene (fun _ => true) .unlimited).1 = .ok 0 := by
    decide +kernel
  have hbooks : after.residency.active = [] ∧
      after.residency.lookUp[0]? = some (.pending 0) ∧
      (after.residency.entries after.scene fun _ => true).1[0]? = some .outside ∧
      departed.map (·.bucket) = [0] := by
    decide +kernel
  obtain ⟨hactive, hpending, hrebuilt, hdeparted⟩ := hbooks
  have hrenewed := tick_renews_but_departed hreached (hheld _) (hheld _) htick
  exact ⟨htick, hactive, hpending, hrebuilt, hdeparted, hrenewed.1⟩

end Frames

end VoxelCache
