import VoxelCache.Proofs.Moves

/-!
# Operations as chains of moves

Every operation of the residency is a chain of moves.  If it gives slots to buckets, it
rebuilds the look-up entries afterwards.

**Results.**
* `moves_step_of_not_rebuilds`, `performs_step`: every operation is a chain of moves.
* `Reachable.tidy`: the books are in order in every run.
* `Reachable.of_moves`: what each move and each occurrence keeps holds in every run.
-/

namespace VoxelCache

section Operations

namespace Operation

/-- Who else holds buckets, as far as an operation may rebuild the look-up entries. -/
def outside? : Operation → Option (BucketRef → Bool)
  | .activate outside _ _ => some outside
  | .clear outside => some outside
  | .tick outside _ => some outside
  | .refresh outside => some outside
  | _ => none

/-- Whether an operation works with slots, writes and look-up entries. -/
def isWork : Operation → Bool
  | .occurrence _ => false
  | .setUp _ _ => false
  | _ => true

end Operation

/-- A chain of moves in which slots are given only before the look-up entries are rebuilt. -/
inductive Performs (op : Operation) : World → World → Prop
  | keeping {w w' : World} :
      Moves false w w' →
      Performs op w w'
  | rebuilding {w v w' : World} {outside : BucketRef → Bool} :
      op.outside? = some outside →
      Moves true w v →
      Moves false (v.rebuild outside) w' →
      Performs op w w'

open Residency

theorem performs_refresh
    (w : World) (outside : BucketRef → Bool) :
    Performs (.refresh outside) w (w.step (.refresh outside)) := by
  have hstep : w.step (.refresh outside) =
      ⟨(w.residency.refresh w.scene outside).2.1, (w.residency.refresh w.scene outside).2.2,
        { w.chronicle with owners := w.residency.active }⟩ := by
    simp [World.step, World.result, World.writes, World.rebuilds, active_refresh]
  rw [hstep]
  exact .rebuilding rfl .refl (moves_refresh w.residency w.scene w.chronicle outside)

/-- A request to replace the active buckets that is refused does no more than read notices. -/
theorem moves_activate_of_not_occupies
    {w : World} {refs : List BucketRef} {anchor : Address}
    (outside : BucketRef → Bool)
    (htidy : Tidy w.residency)
    (h : w.occupies refs anchor = false) :
    Moves false w (w.step (.activate outside refs anchor)) := by
  rcases hread : w.residency.readNotices w.scene with ⟨m, s⟩
  let requested := distinct s [] refs
  obtain ⟨journal, hreport⟩ := journal_reportCollected s requested
  have hheard : Moves false w ⟨m, requested.foldl reportCollected s, w.chronicle⟩ := by
    have hmoves := moves_readNotices false w.residency w.scene w.chronicle
    rw [hread] at hmoves
    exact hmoves.trans (moves_journal m _ ⟨journal, hreport⟩)
  rcases hoccupy : m.occupy (requested.foldl reportCollected s) requested anchor with
    ⟨outcome, m', s'⟩
  have hroom : ¬ m.hasRoom (requested.foldl reportCollected s) requested = true := by
    intro hroom
    have hok := isOk_occupy (hheard.tidy htidy) hroom anchor
    rw [hoccupy] at hok
    cases hok
    simp [World.occupies, hread, requested, hoccupy, Except.isOk, Except.toBool] at h
  obtain ⟨later, hrefused⟩ := occupy_of_not_hasRoom anchor hroom
  rw [hoccupy] at hrefused
  cases hrefused
  have hstep : w.step (.activate outside refs anchor) =
      ⟨m, { requested.foldl reportCollected s with journal := later }, w.chronicle⟩ := by
    simp [World.step, World.result, World.writes, World.rebuilds, World.occupies, activate,
      hread, requested, hoccupy, Except.isOk, Except.toBool]
  rw [hstep]
  exact hheard.trans (moves_journal m _ ⟨later, rfl⟩)

theorem performs_activate
    {w : World} {op : Operation} {outside : BucketRef → Bool} {refs : List BucketRef}
    (anchor : Address)
    (hop : op.outside? = some outside)
    (htidy : Tidy w.residency)
    (hexist : ∀ ref ∈ refs, ref < w.scene.buckets.size) :
    Performs op w (w.step (.activate outside refs anchor)) := by
  cases hoccupies : w.occupies refs anchor with
  | false => exact .keeping (moves_activate_of_not_occupies outside htidy hoccupies)
  | true =>
      rcases hread : w.residency.readNotices w.scene with ⟨m, s⟩
      let requested := distinct s [] refs
      obtain ⟨journal, hreport⟩ := journal_reportCollected s requested
      have hheard : Moves false w ⟨m, requested.foldl reportCollected s, w.chronicle⟩ := by
        have hmoves := moves_readNotices false w.residency w.scene w.chronicle
        rw [hread] at hmoves
        exact hmoves.trans (moves_journal m _ ⟨journal, hreport⟩)
      have halike : Scene.Alike w.scene s := by
        have hmoves := alike_readNotices w.residency w.scene
        rwa [hread] at hmoves
      rcases hoccupy : m.occupy (requested.foldl reportCollected s) requested anchor with
        ⟨outcome, m', s'⟩
      have hok : outcome.isOk = true := by
        simpa [World.occupies, hread, requested, hoccupy] using hoccupies
      cases outcome with
      | error fault => cases hok
      | ok _ =>
          have hroom : m.hasRoom (requested.foldl reportCollected s) requested = true := by
            by_contra hroom
            obtain ⟨later, hrefused⟩ := occupy_of_not_hasRoom anchor hroom
            rw [hoccupy] at hrefused
            cases hrefused
          have hreserved : Moves true w ⟨m', s', w.chronicle⟩ := by
            have hmoves := moves_occupy w.chronicle anchor hroom
              (by
                intro ref href
                rw [hreport]
                exact halike.size ▸ hexist ref ((nodup_distinct s [] refs).2 ref href).1)
              (by
                rw [hreport]
                exact (nodup_distinct s [] refs).1)
            rw [hoccupy] at hmoves
            exact hheard.opens.trans hmoves
          have hstep : w.step (.activate outside refs anchor) =
              ⟨(m'.refresh s' outside).2.1, (m'.refresh s' outside).2.2,
                { w.chronicle with owners := m'.active }⟩ := by
            simp [World.step, World.result, World.writes, World.rebuilds, World.occupies, activate,
              hread, requested, hoccupy, active_refresh, Except.isOk, Except.toBool]
          rw [hstep]
          exact .rebuilding hop hreserved (moves_refresh m' s' w.chronicle outside)

/-- The work of a frame before it looks after the look-up entries. -/
theorem moves_tick_work
    (w : World) (allowance : Allowance) :
    let read := w.residency.readNotices w.scene
    let worked := read.1.work read.2 allowance
    Moves false w
      ⟨worked.2.1, worked.2.2, w.chronicle.addWrites (read.1.writesOfPass read.2 allowance)⟩ :=
  (moves_readNotices false w.residency w.scene w.chronicle).trans
    (moves_work false _ _ w.chronicle allowance)

/-- A frame whose writes fail, or that finds the entries up to date, rebuilds nothing. -/
theorem moves_tick_of_not_rebuilds
    {w : World} {outside : BucketRef → Bool} {allowance : Allowance}
    (h : w.rebuilds (.tick outside allowance) = false) :
    Moves false w (w.step (.tick outside allowance)) := by
  have hworked := moves_tick_work w allowance
  rcases hread : w.residency.readNotices w.scene with ⟨m, s⟩
  rcases hwork : m.work s allowance with ⟨outcome, m', s'⟩
  simp only [hread, hwork] at hworked
  cases outcome with
  | error fault =>
      have hstep : w.step (.tick outside allowance) =
          ⟨m', s', w.chronicle.addWrites (m.writesOfPass s allowance)⟩ := by
        simp [World.step, World.result, World.writes, World.rebuilds, tick, hread, hwork,
          Except.isOk, Except.toBool, Chronicle.addWrites]
      rw [hstep]
      exact hworked
  | ok done =>
      have hstale : ¬ m'.isStale = true := by
        simpa [World.rebuilds, hread, hwork, Except.isOk, Except.toBool] using h
      have hrenew : (w.residency.tick w.scene outside allowance).2 =
          (m'.renew s' outside).2 := tick_of_work_eq_ok outside (by rw [hread]; exact hwork)
      have hstep : w.step (.tick outside allowance) =
          ⟨(m'.renew s' outside).2.1, (m'.renew s' outside).2.2,
            w.chronicle.addWrites (m.writesOfPass s allowance)⟩ := by
        simp [World.step, World.result, World.writes, World.rebuilds, hrenew, hread, hwork,
          hstale, Except.isOk, Except.toBool, Chronicle.addWrites]
      rw [hstep, renew, if_neg hstale]
      refine hworked.trans ?_
      split
      · exact moves_upload m' s' _
      · exact .refl

theorem performs_tick
    (w : World) (outside : BucketRef → Bool) (allowance : Allowance) :
    Performs (.tick outside allowance) w (w.step (.tick outside allowance)) := by
  cases hrebuilds : w.rebuilds (.tick outside allowance) with
  | false => exact .keeping (moves_tick_of_not_rebuilds hrebuilds)
  | true =>
      have hworked := moves_tick_work w allowance
      rcases hread : w.residency.readNotices w.scene with ⟨m, s⟩
      rcases hwork : m.work s allowance with ⟨outcome, m', s'⟩
      simp only [hread, hwork] at hworked
      cases outcome with
      | error fault =>
          simp [World.rebuilds, hread, hwork, Except.isOk, Except.toBool] at hrebuilds
      | ok done =>
          have hstale : m'.isStale = true := by
            simpa [World.rebuilds, hread, hwork, Except.isOk, Except.toBool] using hrebuilds
          have hrenew : (w.residency.tick w.scene outside allowance).2 =
              (m'.renew s' outside).2 := tick_of_work_eq_ok outside (by rw [hread]; exact hwork)
          have hstep : w.step (.tick outside allowance) =
              ⟨(m'.refresh s' outside).2.1, (m'.refresh s' outside).2.2,
                { w.chronicle.addWrites (m.writesOfPass s allowance) with
                  owners := m'.active }⟩ := by
            simp [World.step, World.result, World.writes, World.rebuilds, hrenew, renew, hread,
              hwork, hstale, active_refresh, Except.isOk, Except.toBool, Chronicle.addWrites]
          rw [hstep]
          exact .rebuilding rfl hworked.opens (moves_refresh m' s' _ outside)

/-- An operation that does not rebuild the look-up entries gives no slots. -/
theorem moves_step_of_not_rebuilds
    {w : World} {op : Operation}
    (hwork : op.isWork = true)
    (htidy : Tidy w.residency)
    (h : w.rebuilds op = false) :
    Moves false w (w.step op) := by
  cases op with
  | occurrence o => cases hwork
  | setUp factory bytes => cases hwork
  | activate outside refs anchor => exact moves_activate_of_not_occupies outside htidy h
  | release ref =>
      have hmoves := moves_release false w.residency w.scene w.chronicle
        (w.scene.bucket ref).id
      simpa [World.step, World.result, World.writes, World.rebuilds] using hmoves
  | clear outside => exact moves_activate_of_not_occupies outside htidy h
  | readNotices =>
      have hmoves := moves_readNotices false w.residency w.scene w.chronicle
      simpa [World.step, World.result, World.writes, World.rebuilds] using hmoves
  | work allowance => exact moves_work false w.residency w.scene w.chronicle allowance
  | tick outside allowance => exact moves_tick_of_not_rebuilds h
  | refresh outside => cases h

theorem performs_step
    {w : World} {op : Operation}
    (hwork : op.isWork = true)
    (htidy : Tidy w.residency)
    (hnames : op.Names w.scene) :
    Performs op w (w.step op) := by
  cases hrebuilds : w.rebuilds op with
  | false => exact .keeping (moves_step_of_not_rebuilds hwork htidy hrebuilds)
  | true =>
      cases op with
      | activate outside refs anchor => exact performs_activate anchor rfl htidy hnames
      | clear outside => exact performs_activate .origin rfl htidy (by simp)
      | tick outside allowance => exact performs_tick w outside allowance
      | refresh outside => exact performs_refresh w outside
      | _ => cases hrebuilds

end Operations

section Reachability

variable {allowed : World → Operation → Prop} {s₀ : Scene} {w w' : World} {op : Operation}

theorem Performs.tidy
    (h : Performs op w w')
    (htidy : Residency.Tidy w.residency) :
    Residency.Tidy w'.residency := by
  cases h with
  | keeping hmoves => exact hmoves.tidy htidy
  | rebuilding _ hbefore hafter =>
      exact hafter.tidy (tidy_rebuild _ (hbefore.tidy htidy))

/-- No operation changes anything of a bucket but subscriptions and marks. -/
theorem Performs.alike
    (h : Performs op w w') :
    Scene.Alike w.scene w'.scene := by
  cases h with
  | keeping hmoves => exact hmoves.alike
  | rebuilding _ hbefore hafter => exact hbefore.alike.trans hafter.alike

/-- An operation changes neither settings nor textures, and of the rest only the look-up entries. -/
theorem Performs.retains
    (h : Performs op w w') :
    Retains { w.residency with lookUp := w'.residency.lookUp } w'.residency := by
  cases h with
  | keeping hmoves =>
      have hall := Moves.retains hmoves
      exact ⟨hall.layout, hall.settings, hall.mailbox, rfl, hall.dataTextures,
        hall.lookUpTexture⟩
  | rebuilding _ hbefore hafter =>
      have hfirst := Moves.retains hbefore
      have hlast := Moves.retains hafter
      exact ⟨hlast.layout.trans hfirst.layout, hlast.settings.trans hfirst.settings,
        hlast.mailbox.trans hfirst.mailbox, rfl, hlast.dataTextures.trans hfirst.dataTextures,
        hlast.lookUpTexture.trans hfirst.lookUpTexture⟩

/-- The books are in order in every run. -/
theorem Reachable.tidy
    (h : Reachable allowed s₀ w) :
    Residency.Tidy w.residency := by
  induction h with
  | create hcreate => exact Residency.tidy_create hcreate
  | @step w op hw hnames _ ih =>
      cases hwork : op.isWork with
      | true => exact (performs_step hwork ih hnames).tidy ih
      | false =>
          cases op with
          | occurrence o => exact ih
          | setUp factory bytes =>
              obtain ⟨_, _, _, device, journal, hstep⟩ := w.exists_step_setUp_eq factory bytes
              rw [hstep]
              exact ih.of_eq rfl rfl rfl rfl
          | _ => cases hwork

/--
What holds at the start, and is kept by occurrences, new textures, moves and
rebuilds, holds in every run.  A second property `Q` may be lost when a slot is given
to a bucket, if every rebuild brings it back.  A rebuild is part of an operation that was
allowed when it began.
-/
theorem Reachable.of_moves
    {P Q : World → Prop}
    (h : Reachable allowed s₀ w)
    (hcreate : ∀ {width textures packing settings m s},
      Residency.create s₀ width textures packing settings = (.ok m, s) →
      P ⟨m, s, .blank⟩ ∧ Q ⟨m, s, .blank⟩)
    (hother : ∀ {w op}, Residency.Tidy w.residency → op.isWork = false → op.Names w.scene →
      allowed w op → P w → Q w → P (w.step op) ∧ Q (w.step op))
    (hmove : ∀ {w w'}, Residency.Tidy w.residency → Move true w w' → P w → P w')
    (hkeep : ∀ {w w'}, Residency.Tidy w.residency → Move false w w' → P w → Q w → Q w')
    (hrebuild : ∀ {v w op outside}, allowed v op → op.outside? = some outside →
      Scene.Alike v.scene w.scene → Residency.Tidy w.residency → P w →
      P (w.rebuild outside) ∧ Q (w.rebuild outside)) :
    P w ∧ Q w := by
  have hopened : ∀ {w w'}, Residency.Tidy w.residency → Moves true w w' → P w → P w' := by
    intro w w' htidy hmoves hw
    induction hmoves with
    | refl => exact hw
    | tail hbefore hlast ih => exact hmove (Moves.tidy hbefore htidy) hlast ih
  have hkept : ∀ {w w'}, Residency.Tidy w.residency → Moves false w w' → P w ∧ Q w →
      P w' ∧ Q w' := by
    intro w w' htidy hmoves hw
    induction hmoves with
    | refl => exact hw
    | tail hbefore hlast ih =>
        have hmid := Moves.tidy hbefore htidy
        exact ⟨hmove hmid hlast.opens ih.1, hkeep hmid hlast ih.1 ih.2⟩
  induction h with
  | create hnew => exact hcreate hnew
  | @step w op hw hnames hallowed ih =>
      cases hwork : op.isWork with
      | false => exact hother hw.tidy hwork hnames hallowed ih.1 ih.2
      | true =>
          cases performs_step hwork hw.tidy hnames with
          | keeping hmoves => exact hkept hw.tidy hmoves ih
          | rebuilding houtside hbefore hafter =>
              have hmid := hbefore.tidy hw.tidy
              exact hkept (tidy_rebuild _ hmid) hafter
                (hrebuild hallowed houtside hbefore.alike hmid (hopened hw.tidy hbefore ih.1))

end Reachability

end VoxelCache
