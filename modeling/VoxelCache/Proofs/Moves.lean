import VoxelCache.Proofs.Alike
import VoxelCache.Proofs.Runs
import Mathlib.Logic.Relation

/-!
# Moves

A **move** changes the books once: a notice is taken up, a slot is given or taken
away, a write is carried out, the look-up entries are uploaded.  Rebuilding the look-up
entries is set apart: a slot is given to a bucket only if a rebuild follows.

**Results.**
* `moves_readNotices`, `moves_occupy`, `moves_work`, `moves_refresh`: the parts of which
  the operations of the residency are made are chains of moves.
* `Move.tidy`, `Move.alike`, `Move.retains`: what every move keeps.
-/

namespace VoxelCache

section Moves

namespace World

/-- The world after the first of the notices was taken out of the mailbox. -/
def pop (w : World) (rest : List Notice) : World :=
  { w with
    scene := w.scene.setMailbox w.residency.mailbox
      { w.scene.mailbox w.residency.mailbox with notices := rest } }

/-- The world after its residency took up the first of the notices that arrived. -/
def hear (w : World) (notice : Notice) (rest : List Notice) : World :=
  let mailbox := w.scene.mailbox w.residency.mailbox
  let s := w.scene.setMailbox w.residency.mailbox { mailbox with notices := rest }
  let after := w.residency.react s notice
  ⟨after.1, after.2, w.chronicle⟩

/-- The world after a slot was taken away. -/
def forgo (w : World) (a : ActiveBucket) : World :=
  ⟨w.residency.without a, w.residency.dismiss w.scene a, w.chronicle⟩

/-- The world after the first of the free slots was given to a bucket. -/
def reserve (w : World) (ref : BucketRef) (slot : Nat) (free : List Nat) : World :=
  let after := { w.residency with free := free }.reserve w.scene ref slot
  ⟨after.1, after.2, w.chronicle⟩

/-- The world after the payload of an owner was written and its texture changed. -/
def commit (w : World) (a : ActiveBucket) (rest : List WriteRequest) (s : Scene) : World :=
  let after := { w.residency with queue := rest }.markCommitted s a
  ⟨after.1, after.2, w.chronicle.addWrites [a]⟩

/-- The world after the look-up entries were rebuilt. -/
def rebuild (w : World) (outside : BucketRef → Bool) : World :=
  let held := fun ref => outside ref || w.residency.holds ref
  { w with
    residency :=
      { w.residency with
        lookUp := (w.residency.entries w.scene held).1
        isStale := false
        isUploadPending := true }
    chronicle := { w.chronicle with owners := w.residency.active } }

/-- The world after the look-up entries were uploaded, if their texture is ready. -/
def upload (w : World) : World :=
  let after := (w.residency.upload w.scene).2
  ⟨after.1, after.2, w.chronicle⟩

/-- A notice that is taken up queues a payload, or it takes a slot away. -/
theorem hear_cases
    (w : World) (notice : Notice) (rest : List Notice) :
    (notice.event ≠ .collected ∧
      w.hear notice rest =
        { w.pop rest with
          residency := w.residency.enqueue (w.pop rest).scene notice.bucket }) ∨
    (notice.event = .collected ∧
      (w.residency.find? notice.bucket = none ∧ w.hear notice rest = w.pop rest ∨
        ∃ a, w.residency.find? a.id = some a ∧ a.id = notice.bucket ∧
          w.hear notice rest = (w.pop rest).forgo a)) := by
  have hafter : w.hear notice rest =
      ⟨(w.residency.react (w.pop rest).scene notice).1,
        (w.residency.react (w.pop rest).scene notice).2, w.chronicle⟩ := rfl
  rw [hafter]
  rcases w.residency.react_cases (w.pop rest).scene notice with
    ⟨hevent, h⟩ | ⟨hevent, ⟨hnone, h⟩ | ⟨a, ha, h⟩⟩
  · exact .inl ⟨hevent, by rw [h]; rfl⟩
  · exact .inr ⟨hevent, .inl ⟨hnone, by rw [h]; rfl⟩⟩
  · have hid : a.id = notice.bucket := (Residency.find?_eq_some ha).2
    exact .inr ⟨hevent, .inr ⟨a, hid ▸ ha, hid, by rw [h]; rfl⟩⟩

/-- What is queued for a notice, and who gives up a slot for it, is all that there is to hear. -/
@[elab_as_elim]
theorem hear_induct
    {motive : World → Prop} {w : World} {notice : Notice} {rest : List Notice}
    (henqueue : motive
      { w.pop rest with
        residency := w.residency.enqueue (w.pop rest).scene notice.bucket })
    (hpop : motive (w.pop rest))
    (hforgo : ∀ a ∈ w.residency.active, motive ((w.pop rest).forgo a)) :
    motive (w.hear notice rest) := by
  rcases w.hear_cases notice rest with ⟨_, hhear⟩ | ⟨_, ⟨_, hhear⟩ | ⟨a, ha, _, hhear⟩⟩
  · rw [hhear]
    exact henqueue
  · rw [hhear]
    exact hpop
  · rw [hhear]
    exact hforgo a (Residency.find?_eq_some ha).1

/-- An upload changes nothing but the device and whether it is pending. -/
theorem exists_upload_eq (w : World) :
    ∃ isPending device, w.upload =
      ⟨{ w.residency with isUploadPending := isPending },
        { w.scene with device := device }, w.chronicle⟩ := by
  obtain ⟨isPending, hresidency⟩ := w.residency.upload_residency w.scene
  obtain ⟨device, hscene⟩ := w.residency.upload_scene w.scene
  exact ⟨isPending, device, by rw [upload, hresidency, hscene]⟩

end World

/--
One change of the books.  The flag tells whether the anchor may be moved and slots may be
given to buckets.
-/
inductive Move : Bool → World → World → Prop
  | journal {opening : Bool} (w : World) (journal : Journal) :
      Move opening w { w with scene := { w.scene with journal := journal } }
  | hear {opening : Bool} {w : World} {notice : Notice} {rest : List Notice} :
      (w.scene.mailbox w.residency.mailbox).notices = notice :: rest →
      Move opening w (w.hear notice rest)
  | forgo {opening : Bool} {w : World} {a : ActiveBucket} :
      w.residency.find? a.id = some a →
      Move opening w (w.forgo a)
  | aim (w : World) (anchor : Address) :
      Move true w { w with residency := { w.residency with anchor := anchor } }
  | reserve {w : World} {ref : BucketRef} {slot : Nat} {free : List Nat} :
      w.residency.free = slot :: free →
      ref < w.scene.buckets.size →
      (w.scene.bucket ref).isCollected = false →
      w.residency.isActive (w.scene.bucket ref).id = false →
      Move true w (w.reserve ref slot free)
  | thin {opening : Bool} (w : World) :
      Move opening w
        { w with
          residency :=
            { w.residency with queue := Residency.newestPerSlot w.residency.queue } }
  /-- A request is dropped because its bucket has no payload in its slot. -/
  | skip {opening : Bool} {w : World} {r : WriteRequest} {rest : List WriteRequest} :
      w.residency.queue = r :: rest →
      (∀ a, w.residency.find? r.bucket = some a → a.slot = r.slot →
        (w.scene.bucket a.bucket).payload = none) →
      Move opening w { w with residency := { w.residency with queue := rest } }
  | fail {opening : Bool} {w : World} {r : WriteRequest} {rest : List WriteRequest}
      {a : ActiveBucket} {payload : Payload} {fault : Fault} {s : Scene} :
      w.residency.queue = r :: rest →
      w.residency.lookUpTexture.isSome = true →
      w.residency.find? r.bucket = some a →
      a.slot = r.slot →
      (w.scene.bucket a.bucket).payload = some payload →
      w.residency.writeSlot w.scene r.slot payload = (.error fault, s) →
      Move opening w
        { w with residency := { w.residency with queue := rest }, scene := s }
  | write {opening : Bool} {w : World} {r : WriteRequest} {rest : List WriteRequest}
      {a : ActiveBucket} {payload : Payload} {s : Scene} :
      w.residency.queue = r :: rest →
      w.residency.lookUpTexture.isSome = true →
      w.residency.find? r.bucket = some a →
      a.slot = r.slot →
      (w.scene.bucket a.bucket).payload = some payload →
      w.residency.writeSlot w.scene r.slot payload = (.ok (), s) →
      Move opening w (w.commit a rest s)
  | upload {opening : Bool} (w : World) :
      Move opening w w.upload

/-- A chain of moves. -/
abbrev Moves (opening : Bool) : World → World → Prop :=
  Relation.ReflTransGen (Move opening)

/-- A move that leaves the anchor and gives no slot is a move. -/
theorem Move.opens
    {w w' : World}
    (h : Move false w w') :
    Move true w w' := by
  cases h with
  | journal => exact .journal w _
  | hear hnotices => exact .hear hnotices
  | forgo ha => exact .forgo ha
  | thin => exact .thin w
  | skip hqueue hskip => exact .skip hqueue hskip
  | fail hqueue htextures ha hslot hpayload hfail =>
      exact .fail hqueue htextures ha hslot hpayload hfail
  | write hqueue htextures ha hslot hpayload hwrite =>
      exact .write hqueue htextures ha hslot hpayload hwrite
  | upload => exact .upload w

theorem Moves.opens
    {w w' : World}
    (h : Moves false w w') :
    Moves true w w' :=
  Relation.ReflTransGen.mono (fun _ _ => Move.opens) _ _ h

/-- The residency changes nothing of a bucket but subscriptions and marks. -/
theorem Move.alike
    {opening : Bool} {w w' : World}
    (h : Move opening w w') :
    Scene.Alike w.scene w'.scene := by
  cases h with
  | journal => exact Scene.alike_of_buckets rfl
  | @hear _ _ notice rest _ =>
      have hpopped : Scene.Alike w.scene
          (w.scene.setMailbox w.residency.mailbox
            { w.scene.mailbox w.residency.mailbox with notices := rest }) :=
        Scene.alike_of_buckets rfl
      exact hpopped.trans (Residency.alike_react _ _ notice)
  | forgo _ => exact Residency.alike_dismiss _ _ _
  | aim => exact .refl _
  | @reserve _ ref slot _ _ _ _ _ => exact Residency.alike_reserve _ _ ref slot
  | thin => exact .refl _
  | skip _ _ => exact .refl _
  | fail _ _ _ _ _ hfail => exact Residency.alike_writeSlot hfail
  | write _ _ _ _ _ hwrite =>
      exact (Residency.alike_writeSlot hwrite).trans (Residency.alike_markCommitted _ _ _)
  | upload => exact Residency.alike_upload _ _

theorem Moves.alike
    {opening : Bool} {w w' : World}
    (h : Moves opening w w') :
    Scene.Alike w.scene w'.scene := by
  induction h with
  | refl => exact .refl _
  | tail _ hmove ih => exact ih.trans hmove.alike

namespace Residency

variable {opening : Bool} {m m' : Residency} {s s' : Scene} {c : Chronicle}

theorem moves_journal
    (m : Residency) (c : Chronicle)
    (h : ∃ journal, s' = { s with journal := journal }) :
    Moves opening ⟨m, s, c⟩ ⟨m, s', c⟩ := by
  obtain ⟨journal, rfl⟩ := h
  exact .single (.journal ⟨m, s, c⟩ journal)

section Notices

theorem mailbox_react (m : Residency) (s : Scene) (notice : Notice) :
    (m.react s notice).1.mailbox = m.mailbox := by
  rcases m.react_cases s notice with ⟨_, h⟩ | ⟨_, ⟨_, h⟩ | ⟨a, _, h⟩⟩ <;> rw [h] <;> rfl

theorem sceneMailbox_dismiss
    (m : Residency) (s : Scene) (a : ActiveBucket) (ref : MailboxRef) :
    (m.dismiss s a).mailbox ref = s.mailbox ref := by
  simp only [dismiss]
  split <;> rfl

theorem sceneMailbox_react
    (m : Residency) (s : Scene) (notice : Notice) (ref : MailboxRef) :
    (m.react s notice).2.mailbox ref = s.mailbox ref := by
  rcases m.react_cases s notice with ⟨_, h⟩ | ⟨_, ⟨_, h⟩ | ⟨a, _, h⟩⟩
  · rw [h]
  · rw [h]
  · rw [h]
    exact sceneMailbox_dismiss m s a ref

/-- A residency that reacts does not look into mailboxes. -/
theorem react_setMailbox
    (m : Residency) (s : Scene) (notice : Notice) (ref : MailboxRef) (mailbox : Mailbox) :
    m.react (s.setMailbox ref mailbox) notice =
      ((m.react s notice).1, (m.react s notice).2.setMailbox ref mailbox) := by
  cases hevent : notice.event with
  | loaded =>
      simp only [react, hevent]
      rfl
  | labeled =>
      simp only [react, hevent]
      rfl
  | collected =>
      simp only [react, hevent, release]
      cases m.find? notice.bucket with
      | none => rfl
      | some a =>
          simp only [dismiss]
          split <;> rfl

/-- Taking notices up one by one comes to the same as emptying the mailbox first. -/
theorem moves_reactAll
    {notices : List Notice}
    (h : (s.mailbox m.mailbox).notices = notices) :
    let emptied := s.setMailbox m.mailbox { s.mailbox m.mailbox with notices := [] }
    Moves opening ⟨m, s, c⟩
      ⟨(m.reactAll emptied notices).1, (m.reactAll emptied notices).2, c⟩ := by
  induction notices generalizing m s with
  | nil =>
      have hsame : { s.mailbox m.mailbox with notices := [] } = s.mailbox m.mailbox := by
        rw [← h]
      intro emptied
      have hemptied : emptied = s := by
        simp only [emptied, hsame, Scene.setMailbox_self]
      rw [hemptied]
      exact .refl
  | cons notice rest ih =>
      intro emptied
      have hlt : m.mailbox < s.mailboxes.size := by
        by_contra hout
        have hdefault : s.mailbox m.mailbox = default := by
          simp [Scene.mailbox, Array.getD, hout]
        rw [hdefault] at h
        cases h
      let popped := s.setMailbox m.mailbox { s.mailbox m.mailbox with notices := rest }
      have hfirst : Moves opening ⟨m, s, c⟩
          ⟨(m.react popped notice).1, (m.react popped notice).2, c⟩ := .single (.hear h)
      have hheld : (m.react popped notice).2.mailbox m.mailbox =
          { s.mailbox m.mailbox with notices := rest } := by
        rw [sceneMailbox_react]
        exact Scene.mailbox_setMailbox_self hlt
      have hrest := ih (m := (m.react popped notice).1) (s := (m.react popped notice).2)
        (by rw [mailbox_react, hheld])
      have hsame : m.react emptied notice =
          ((m.react popped notice).1,
            (m.react popped notice).2.setMailbox m.mailbox
              { s.mailbox m.mailbox with notices := [] }) := by
        simp only [emptied, popped, react_setMailbox, Scene.setMailbox_setMailbox]
      simp only [mailbox_react, hheld] at hrest
      rw [reactAll, List.foldl_cons, hsame]
      exact hfirst.trans hrest

theorem moves_readNotices
    (opening : Bool) (m : Residency) (s : Scene) (c : Chronicle) :
    Moves opening ⟨m, s, c⟩ ⟨(m.readNotices s).1, (m.readNotices s).2, c⟩ :=
  moves_reactAll rfl

end Notices

section Slots

theorem moves_release
    (opening : Bool) (m : Residency) (s : Scene) (c : Chronicle) (id : BucketId) :
    Moves opening ⟨m, s, c⟩ ⟨(m.release s id).1, (m.release s id).2, c⟩ := by
  cases hfind : m.find? id with
  | none => rw [release_of_find?_eq_none s hfind]
  | some a =>
      obtain ⟨_, rfl⟩ := find?_eq_some hfind
      rw [release_of_find?_eq_some s hfind]
      exact .single (.forgo hfind)

theorem moves_releaseAll
    (m : Residency) (s : Scene) (c : Chronicle) (ids : List BucketId) :
    Moves opening ⟨m, s, c⟩ ⟨(m.releaseAll s ids).1, (m.releaseAll s ids).2, c⟩ := by
  induction ids generalizing m s with
  | nil => exact .refl
  | cons id rest ih => exact (moves_release opening m s c id).trans (ih _ _)

/-- Nobody becomes active when a slot is taken away. -/
theorem isActive_of_isActive_release
    {first id : BucketId}
    (h : (m.release s first).1.isActive id = true) :
    m.isActive id = true := by
  cases hfind : m.find? first with
  | none =>
      rw [release_of_find?_eq_none s hfind] at h
      exact h
  | some a =>
      rw [release_of_find?_eq_some s hfind, isActive_iff] at h
      obtain ⟨b, hb, hid⟩ := List.mem_map.mp h
      exact isActive_iff.mpr (List.mem_map.mpr ⟨b, (List.mem_filter.mp hb).1, hid⟩)

theorem isActive_of_isActive_releaseAll
    {ids : List BucketId} {id : BucketId}
    (h : (m.releaseAll s ids).1.isActive id = true) :
    m.isActive id = true := by
  induction ids generalizing m s with
  | nil => exact h
  | cons first rest ih => exact isActive_of_isActive_release (ih h)

/-- Whether buckets can be given slots one after the other. -/
structure Placeable (m : Residency) (s : Scene) (refs : List BucketRef) : Prop where
  exist : ∀ ref ∈ refs, ref < s.buckets.size
  uncollected : ∀ ref ∈ refs, (s.bucket ref).isCollected = false
  inactive : ∀ ref ∈ refs, m.isActive (s.bucket ref).id = false
  distinct : (refs.map fun ref => (s.bucket ref).id).Nodup

theorem Placeable.of_alike
    {refs : List BucketRef}
    (h : Placeable m s refs)
    (halike : Scene.Alike s s')
    (hactive : ∀ ref ∈ refs, m'.isActive (s.bucket ref).id = false) :
    Placeable m' s' refs where
  exist ref href := by
    rw [halike.size]
    exact h.exist ref href
  uncollected ref href := (halike.isCollected ref).trans (h.uncollected ref href)
  inactive ref href := by
    rw [(halike.same ref).id]
    exact hactive ref href
  distinct := by
    simp only [(halike.same _).id]
    exact h.distinct

theorem isActive_reserve
    (m : Residency) (s : Scene) (ref : BucketRef) (slot : Nat) (id : BucketId) :
    (m.reserve s ref slot).1.isActive id = (m.isActive id || (s.bucket ref).id == id) := by
  by_cases hid : (s.bucket ref).id = id
  · simp [isActive, find?, reserve, enqueue, hid]
  · simp [isActive, find?, reserve, enqueue, hid]

theorem moves_reserveAll
    (c : Chronicle) (fault : Fault) {refs : List BucketRef}
    (h : Placeable m s refs) :
    Moves true ⟨m, s, c⟩
      ⟨(m.reserveAll s fault refs).2.1, (m.reserveAll s fault refs).2.2, c⟩ := by
  induction refs generalizing m s with
  | nil => exact .refl
  | cons ref rest ih =>
      rw [reserveAll]
      split
      · exact .refl
      · rename_i slot free hfree
        have hfirst : Moves true ⟨m, s, c⟩ _ := .single (.reserve hfree
          (h.exist ref List.mem_cons_self) (h.uncollected ref List.mem_cons_self)
          (h.inactive ref List.mem_cons_self))
        refine hfirst.trans (ih ?_)
        have hdistinct := h.distinct
        rw [List.map_cons, List.nodup_cons] at hdistinct
        have hrest : Placeable m s rest :=
          ⟨fun ref href => h.exist ref (List.mem_cons_of_mem _ href),
            fun ref href => h.uncollected ref (List.mem_cons_of_mem _ href),
            fun ref href => h.inactive ref (List.mem_cons_of_mem _ href), hdistinct.2⟩
        refine hrest.of_alike (alike_reserve { m with free := free } s ref slot) ?_
        intro later hlater
        have hne : (s.bucket ref).id ≠ (s.bucket later).id := fun hid =>
          hdistinct.1 (hid ▸ List.mem_map_of_mem (f := fun ref => (s.bucket ref).id) hlater)
        rw [isActive_reserve, beq_eq_false_iff_ne.mpr hne, Bool.or_false]
        exact hrest.inactive later hlater

/-- What is left of a request list is distinct. -/
theorem nodup_distinct
    (s : Scene) (seen : List BucketId) (refs : List BucketRef) :
    ((distinct s seen refs).map fun ref => (s.bucket ref).id).Nodup ∧
      ∀ ref ∈ distinct s seen refs, ref ∈ refs ∧ (s.bucket ref).id ∉ seen := by
  induction refs generalizing seen with
  | nil => exact ⟨List.nodup_nil, by simp [distinct]⟩
  | cons ref rest ih =>
      simp only [distinct]
      split
      · obtain ⟨hnodup, hrest⟩ := ih seen
        refine ⟨hnodup, ?_⟩
        intro later hlater
        exact ⟨List.mem_cons_of_mem _ (hrest later hlater).1, (hrest later hlater).2⟩
      · rename_i hseen
        obtain ⟨hnodup, hrest⟩ := ih ((s.bucket ref).id :: seen)
        constructor
        · rw [List.map_cons, List.nodup_cons]
          refine ⟨?_, hnodup⟩
          intro hmem
          obtain ⟨later, hlater, hid⟩ := List.mem_map.mp hmem
          exact (hrest later hlater).2 (hid ▸ List.mem_cons_self)
        · intro later hlater
          rcases List.mem_cons.mp hlater with rfl | hlater
          · exact ⟨List.mem_cons_self, by simpa using hseen⟩
          · obtain ⟨hmem, hnew⟩ := hrest later hlater
            exact ⟨List.mem_cons_of_mem _ hmem, fun h => hnew (List.mem_cons_of_mem _ h)⟩

theorem placeable_arriving
    {refs : List BucketRef}
    (hexist : ∀ ref ∈ refs, ref < s.buckets.size)
    (hdistinct : (refs.map fun ref => (s.bucket ref).id).Nodup) :
    Placeable m s (m.arriving s refs) where
  exist ref href := hexist ref (List.mem_filter.mp href).1
  uncollected ref href := by
    have hkept := (List.mem_filter.mp href).2
    simp only [Bool.and_eq_true, Bool.not_eq_true'] at hkept
    exact hkept.1
  inactive ref href := by
    have hkept := (List.mem_filter.mp href).2
    simp only [Bool.and_eq_true, Bool.not_eq_true'] at hkept
    exact hkept.2
  distinct := hdistinct.sublist (List.filter_sublist.map _)

theorem journal_reportCollected
    (s : Scene) (refs : List BucketRef) :
    ∃ journal, refs.foldl reportCollected s = { s with journal := journal } := by
  induction refs generalizing s with
  | nil => exact ⟨s.journal, rfl⟩
  | cons ref rest ih =>
      obtain ⟨journal, hrest⟩ := ih (reportCollected s ref)
      refine ⟨journal, ?_⟩
      rw [List.foldl_cons, hrest]
      simp only [reportCollected]
      split <;> rfl

theorem moves_occupy
    (c : Chronicle) {requested : List BucketRef} (anchor : Address)
    (hroom : m.hasRoom s requested = true)
    (hexist : ∀ ref ∈ requested, ref < s.buckets.size)
    (hdistinct : (requested.map fun ref => (s.bucket ref).id).Nodup) :
    Moves true ⟨m, s, c⟩
      ⟨(m.occupy s requested anchor).2.1, (m.occupy s requested anchor).2.2, c⟩ := by
  have haimed : Moves true ⟨m, s, c⟩ ⟨{ m with anchor := anchor }, s, c⟩ :=
    .single (.aim ⟨m, s, c⟩ anchor)
  have hplaceable : Placeable { m with anchor := anchor } s (m.arriving s requested) :=
    placeable_arriving hexist hdistinct
  let released := releaseAll { m with anchor := anchor } s (m.leaving s requested)
  have hreleased : Placeable released.1 released.2 (m.arriving s requested) := by
    refine hplaceable.of_alike (alike_releaseAll _ s _) ?_
    intro ref href
    rw [Bool.eq_false_iff]
    intro hactive
    have hbefore := isActive_of_isActive_releaseAll hactive
    rw [hplaceable.inactive ref href] at hbefore
    cases hbefore
  rw [occupy, if_pos hroom]
  exact (haimed.trans (moves_releaseAll _ _ c _)).trans (moves_reserveAll c _ hreleased)

/-- Without room nothing happens. -/
theorem occupy_of_not_hasRoom
    {requested : List BucketRef} (anchor : Address)
    (hroom : ¬ m.hasRoom s requested = true) :
    ∃ journal, m.occupy s requested anchor =
      (.error (m.exhausted requested), m, { s with journal := journal }) := by
  rw [occupy, if_neg hroom]
  exact ⟨_, rfl⟩

end Slots

section Commits

theorem moves_commitAll
    (m : Residency) (s : Scene) (c : Chronicle) (allowance : Allowance) (done : Nat)
    (queue : List WriteRequest)
    (htexture : m.lookUpTexture.isSome = true) :
    Moves opening ⟨{ m with queue := queue }, s, c⟩
      ⟨(m.commitAll s allowance done queue).2.1, (m.commitAll s allowance done queue).2.2,
        c.addWrites (m.writesOfAll s allowance queue)⟩ := by
  induction queue generalizing m s c allowance done with
  | nil =>
      rw [writesOfAll, Chronicle.addWrites, List.append_nil]
      exact .refl
  | cons r rest ih =>
      rw [commitAll, writesOfAll]
      by_cases hused : allowance.isUsedUp = true
      · rw [if_pos hused, if_pos hused, Chronicle.addWrites, List.append_nil]
      · rw [if_neg hused, if_neg hused]
        rcases m.commit_cases s r with
          ⟨journal, hcommit, hskip⟩ |
            ⟨a, payload, ha, hslot, hpayload,
              ⟨fault, s', hwrite, hcommit⟩ | ⟨s', hwrite, hcommit⟩⟩
        · have hwritten : m.writtenBy s r = [] := by simp [writtenBy, hcommit]
          simp only [hcommit, hwritten, List.nil_append]
          have hskipped : Moves opening ⟨{ m with queue := r :: rest }, s, c⟩
              ⟨{ m with queue := rest }, s, c⟩ := .single (.skip rfl hskip)
          have hlogged : Moves opening ⟨{ m with queue := rest }, s, c⟩
              ⟨{ m with queue := rest }, { s with journal := journal }, c⟩ :=
            moves_journal _ c ⟨journal, rfl⟩
          exact (hskipped.trans hlogged).trans (ih m _ c _ _ htexture)
        · simp only [hcommit, Chronicle.addWrites, List.append_nil]
          exact .single (.fail rfl htexture ha hslot hpayload hwrite)
        · have hwritten : m.writtenBy s r = [a] := by simp [writtenBy, hcommit, ha]
          simp only [hcommit, hwritten]
          have hwrote : Moves opening ⟨{ m with queue := r :: rest }, s, c⟩
              ⟨{ (m.markCommitted s' a).1 with queue := rest }, (m.markCommitted s' a).2,
                c.addWrites [a]⟩ :=
            .single (Move.write (w := ⟨{ m with queue := r :: rest }, s, c⟩) rfl htexture ha hslot
              hpayload hwrite)
          have hrest := ih (m.markCommitted s' a).1 (m.markCommitted s' a).2 (c.addWrites [a])
            allowance.spend (done + 1) htexture
          have hadd : (c.addWrites [a]).addWrites
              ((m.markCommitted s' a).1.writesOfAll (m.markCommitted s' a).2 allowance.spend rest) =
              c.addWrites ([a] ++
                (m.markCommitted s' a).1.writesOfAll (m.markCommitted s' a).2
                  allowance.spend rest) := by
            simp [Chronicle.addWrites]
          rw [← hadd]
          exact hwrote.trans hrest

theorem moves_work
    (opening : Bool) (m : Residency) (s : Scene) (c : Chronicle) (allowance : Allowance) :
    Moves opening ⟨m, s, c⟩
      ⟨(m.work s allowance).2.1, (m.work s allowance).2.2,
        c.addWrites (m.writesOfPass s allowance)⟩ := by
  by_cases hready : m.isReady s = true
  · obtain ⟨journal, hwork⟩ := work_of_isReady allowance hready
    have hthinned : Moves opening ⟨m, s, c⟩ ⟨{ m with queue := newestPerSlot m.queue }, s, c⟩ :=
      .single (.thin ⟨m, s, c⟩)
    have hpass := hthinned.trans (moves_commitAll m s c allowance 0 (newestPerSlot m.queue)
      (isSome_lookUpTexture_of_isReady hready))
    rw [hwork, writesOfPass, if_pos hready]
    exact hpass.trans (moves_journal _ _ ⟨journal, rfl⟩)
  · rw [work, if_neg hready, writesOfPass, if_neg hready, Chronicle.addWrites, List.append_nil]
    exact moves_journal m c ⟨_, rfl⟩

end Commits

section LookUps

theorem moves_upload (m : Residency) (s : Scene) (c : Chronicle) :
    Moves opening ⟨m, s, c⟩ ⟨(m.upload s).2.1, (m.upload s).2.2, c⟩ :=
  .single (.upload ⟨m, s, c⟩)

/-- After the rebuild, a refresh only uploads. -/
theorem moves_refresh
    (m : Residency) (s : Scene) (c : Chronicle) (outside : BucketRef → Bool) :
    Moves opening (World.rebuild ⟨m, s, c⟩ outside)
      ⟨(m.refresh s outside).2.1, (m.refresh s outside).2.2, { c with owners := m.active }⟩ := by
  simp only [refresh]
  refine Relation.ReflTransGen.trans ?_ (moves_upload _ _ _)
  refine moves_journal _ _ ?_
  split
  · exact ⟨s.journal, rfl⟩
  · exact ⟨_, rfl⟩

end LookUps

end Residency

/-- Every move keeps the books in order. -/
theorem Move.tidy
    {opening : Bool} {w w' : World}
    (h : Move opening w w')
    (htidy : Residency.Tidy w.residency) :
    Residency.Tidy w'.residency := by
  cases h with
  | journal => exact htidy
  | hear _ =>
      exact World.hear_induct (htidy.of_eq rfl rfl rfl rfl) htidy fun a ha => htidy.without ha
  | forgo ha => exact htidy.without (Residency.find?_eq_some ha).1
  | aim => exact htidy.of_eq rfl rfl rfl rfl
  | reserve hfree _ _ hinactive => exact htidy.reserve hfree hinactive
  | thin => exact htidy.of_eq rfl rfl rfl rfl
  | skip _ _ => exact htidy.of_eq rfl rfl rfl rfl
  | fail _ _ _ _ _ _ => exact htidy.of_eq rfl rfl rfl rfl
  | @write _ _ r rest a payload s _ _ ha _ _ _ =>
      have hshort : Residency.Tidy { w.residency with queue := rest } :=
        htidy.of_eq rfl rfl rfl rfl
      exact hshort.markCommitted (s := s) (Residency.find?_eq_some ha).1
  | upload =>
      obtain ⟨isPending, device, h⟩ := w.exists_upload_eq
      rw [h]
      exact htidy.of_eq rfl rfl rfl rfl

theorem Moves.tidy
    {opening : Bool} {w w' : World}
    (h : Moves opening w w')
    (htidy : Residency.Tidy w.residency) :
    Residency.Tidy w'.residency := by
  induction h with
  | refl => exact htidy
  | tail _ hmove ih => exact hmove.tidy ih

theorem tidy_rebuild
    {w : World} (outside : BucketRef → Bool)
    (htidy : Residency.Tidy w.residency) :
    Residency.Tidy (w.rebuild outside).residency :=
  htidy.of_eq rfl rfl rfl rfl

/-- What the residency changes by no move. -/
structure Retains (m m' : Residency) : Prop where
  layout : m'.layout = m.layout
  settings : m'.settings = m.settings
  mailbox : m'.mailbox = m.mailbox
  lookUp : m'.lookUp = m.lookUp
  dataTextures : m'.dataTextures = m.dataTextures
  lookUpTexture : m'.lookUpTexture = m.lookUpTexture

theorem Retains.trans
    {m m' m'' : Residency}
    (h : Retains m m')
    (h' : Retains m' m'') :
    Retains m m'' where
  layout := h'.layout.trans h.layout
  settings := h'.settings.trans h.settings
  mailbox := h'.mailbox.trans h.mailbox
  lookUp := h'.lookUp.trans h.lookUp
  dataTextures := h'.dataTextures.trans h.dataTextures
  lookUpTexture := h'.lookUpTexture.trans h.lookUpTexture

theorem Move.retains
    {opening : Bool} {w w' : World}
    (h : Move opening w w') :
    Retains w.residency w'.residency := by
  cases h with
  | journal => exact ⟨rfl, rfl, rfl, rfl, rfl, rfl⟩
  | @hear _ _ notice rest _ =>
      rcases w.hear_cases notice rest with ⟨_, h⟩ | ⟨_, ⟨_, h⟩ | ⟨a, _, _, h⟩⟩ <;>
        rw [h] <;> exact ⟨rfl, rfl, rfl, rfl, rfl, rfl⟩
  | forgo _ => exact ⟨rfl, rfl, rfl, rfl, rfl, rfl⟩
  | aim => exact ⟨rfl, rfl, rfl, rfl, rfl, rfl⟩
  | reserve _ _ _ _ => exact ⟨rfl, rfl, rfl, rfl, rfl, rfl⟩
  | thin => exact ⟨rfl, rfl, rfl, rfl, rfl, rfl⟩
  | skip _ _ => exact ⟨rfl, rfl, rfl, rfl, rfl, rfl⟩
  | fail _ _ _ _ _ _ => exact ⟨rfl, rfl, rfl, rfl, rfl, rfl⟩
  | write _ _ _ _ _ _ => exact ⟨rfl, rfl, rfl, rfl, rfl, rfl⟩
  | upload =>
      obtain ⟨isPending, device, h⟩ := w.exists_upload_eq
      rw [h]
      exact ⟨rfl, rfl, rfl, rfl, rfl, rfl⟩

theorem Moves.retains
    {opening : Bool} {w w' : World}
    (h : Moves opening w w') :
    Retains w.residency w'.residency := by
  induction h with
  | refl => exact ⟨rfl, rfl, rfl, rfl, rfl, rfl⟩
  | tail _ hmove ih => exact ih.trans hmove.retains

theorem Move.anchor_eq
    {w w' : World}
    (h : Move false w w') :
    w'.residency.anchor = w.residency.anchor := by
  cases h with
  | journal => rfl
  | @hear _ _ notice rest _ =>
      rcases w.hear_cases notice rest with ⟨_, h⟩ | ⟨_, ⟨_, h⟩ | ⟨a, _, _, h⟩⟩ <;> rw [h] <;> rfl
  | forgo _ => rfl
  | thin => rfl
  | skip _ _ => rfl
  | fail _ _ _ _ _ _ => rfl
  | write _ _ _ _ _ _ => rfl
  | upload =>
      obtain ⟨isPending, device, h⟩ := w.exists_upload_eq
      rw [h]

/-- The window is aimed only where slots may be given to buckets. -/
theorem Moves.anchor_eq
    {w w' : World}
    (h : Moves false w w') :
    w'.residency.anchor = w.residency.anchor := by
  induction h with
  | refl => rfl
  | tail _ hmove ih => exact hmove.anchor_eq.trans ih

end Moves

end VoxelCache
