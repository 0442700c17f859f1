import VoxelCache.Proofs.Sessions

/-!
# Sessions as chains of moves

A call of a session does three kinds of things to the residency and its scene: it creates
buckets and acts on those that the pool has, it sets textures up or changes the device, and it
has the residency make moves.

**Results.**
* `Reached.of_moves`: what each of these things keeps holds in every session.
-/

namespace VoxelCache

/-- What a session itself does to its scene; nobody else subscribes to its buckets. -/
def Occurrence.IsOwn (s : Scene) : Occurrence → Prop
  | .deed ref d =>
      ref < s.buckets.size ∧ (d = .pull ∨ (∃ payload, d = .receive payload) ∨ d = .collect)
  | .openMailbox => False
  | .drain _ => False
  | .closeMailbox _ => False
  | _ => True

namespace Session

section SessionMoves

open Residency

variable {x : Session} {call : Call}

/-- Whether a property is kept by everything of which the calls of a session consist. -/
structure IsKept (P : Residency → Scene → Prop) : Prop where
  occur : ∀ {m s o}, o.IsOwn s → P m s → P m (s.occur o)
  setUp : ∀ {m s} factory bytes, P m s →
    P (m.setUp s factory bytes).2.1 (m.setUp s factory bytes).2.2
  move : ∀ {w w' : World}, Tidy w.residency → Move true w w' → P w.residency w.scene →
    P w'.residency w'.scene
  rebuild : ∀ {w : World} outside, Tidy w.residency → P w.residency w.scene →
    P (w.rebuild outside).residency w.scene

variable {P : Residency → Scene → Prop}

theorem IsKept.journal
    {m : Residency} {s : Scene}
    (hkept : IsKept P)
    (htidy : Tidy m)
    (h : P m s)
    (journal : Journal) :
    P m { s with journal := journal } :=
  hkept.move htidy (.journal ⟨m, s, .blank⟩ journal) h

theorem IsKept.moves
    {w w' : World}
    (hkept : IsKept P)
    (htidy : Tidy w.residency)
    (hmoves : Moves true w w')
    (h : P w.residency w.scene) :
    P w'.residency w'.scene := by
  induction hmoves with
  | refl => exact h
  | tail hbefore hlast ih => exact hkept.move (Moves.tidy hbefore htidy) hlast ih

theorem IsKept.performs
    {w w' : World} {op : Operation}
    (hkept : IsKept P)
    (htidy : Tidy w.residency)
    (hperforms : Performs op w w')
    (h : P w.residency w.scene) :
    P w'.residency w'.scene := by
  cases hperforms with
  | keeping hmoves => exact hkept.moves htidy hmoves.opens h
  | rebuilding _ hbefore hafter =>
      have hmid := hbefore.tidy htidy
      exact hkept.moves (tidy_rebuild _ hmid) hafter.opens
        (hkept.rebuild _ hmid (hkept.moves htidy hbefore h))

theorem IsKept.adds
    {m : Residency} {s s' : Scene}
    (hkept : IsKept P)
    (hadds : Scene.Adds s s')
    (h : P m s) :
    P m s' := by
  induction hadds with
  | refl => exact h
  | tail _ hlast ih =>
      obtain ⟨id, address, coarser, rfl⟩ := hlast
      exact hkept.occur (o := .create id address coarser) trivial ih

theorem IsKept.step
    (hkept : IsKept P)
    (horderly : x.Orderly)
    (h : P x.viewer.residency x.scene) :
    P (x.step call).viewer.residency (x.step call).scene := by
  cases call with
  | setUp factory bytes => exact hkept.setUp factory bytes h
  | update outside camera =>
      rcases step_update_cases horderly outside camera with hsame |
        ⟨_, refs, v, s, journal, _, hobtains, held, anchor, _, later, _, hafter⟩
      · rw [hsame]
        exact h
      · have hadded := hkept.adds hobtains.adds (hkept.journal horderly.tidy h journal)
        have hperforms : Performs (.activate held refs anchor)
            ⟨x.viewer.residency, s, .blank⟩ _ :=
          performs_activate anchor rfl horderly.tidy hobtains.lt_size
        rw [hafter]
        exact hkept.journal (hperforms.tidy horderly.tidy)
          (hkept.performs horderly.tidy hperforms hadded) later
  | take count =>
      obtain ⟨taken, _, hafter⟩ := exists_takeFront_eq horderly count
      rw [hafter]
      refine horderly.stocked.pullAll_induction (motive := P x.viewer.residency) ?_ h _
      exact fun s ref hlt hs => hkept.occur (o := .deed ref .pull) ⟨hlt, .inl rfl⟩ hs
  | receive a payload =>
      cases hfind : x.viewer.pool.find? a with
      | none =>
          rw [step_receive_of_find?_eq_none hfind]
          exact h
      | some ref =>
          rw [step_receive_of_find? hfind]
          exact hkept.occur (o := .deed ref (.receive payload))
            ⟨(horderly.stocked.find?_iff.mp hfind).lt, .inr (.inl ⟨payload, rfl⟩)⟩ h
  | tick outside allowance =>
      obtain ⟨held, hafter⟩ := x.exists_tick_eq outside allowance
      have hperforms := performs_tick ⟨x.viewer.residency, x.scene, .blank⟩ held allowance
      rw [hafter]
      exact hkept.performs horderly.tidy hperforms h
  | collectGarbage outside =>
      obtain ⟨refs, p, journal, hafter, _, hrefs⟩ := exists_collectGarbage_eq horderly outside
      rw [hafter]
      refine hkept.journal horderly.tidy ?_ journal
      refine Scene.collectAll_induction (motive := P x.viewer.residency) ?_ h
        fun ref href => (hrefs ref href).1
      exact fun s ref hlt hs => hkept.occur (o := .deed ref .collect) ⟨hlt, .inr (.inr rfl)⟩ hs
  | addSwitch isOn => exact hkept.occur (o := .addSwitch isOn) trivial h
  | setSwitch switch isOn => exact hkept.occur (o := .setSwitch switch isOn) trivial h
  | addTape => exact hkept.occur (o := .addTape) trivial h
  | setFuses tape updateFuse createFuse =>
      exact hkept.occur (o := .setFuses tape updateFuse createFuse) trivial h

/-- What holds at the start and is kept by everything that is done holds in every session. -/
theorem Reached.of_moves
    {allowed : Session → Call → Prop}
    (h : Reached allowed x)
    (hcreate : ∀ {s₀ s width textures packing settings m}, s₀.buckets = #[] →
      Residency.create s₀ width textures packing settings = (.ok m, s) → P m s)
    (hkept : IsKept P) :
    P x.viewer.residency x.scene := by
  induction h with
  | create hblank hnew =>
      obtain ⟨m, hresidency, rfl⟩ := Viewer.create_eq_ok hnew
      exact hcreate hblank hresidency
  | step hbefore _ ih => exact hkept.step hbefore.orderly ih

end SessionMoves

end Session

end VoxelCache
