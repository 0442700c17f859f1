import VoxelCache.Proofs.Sessions

/-!
# The handshake with the loader

A loader takes addresses, loads them for as long as it likes, and answers each.  Meanwhile
frames go by, buckets are reclaimed, and payloads arrive that nobody asked for.

**Results.**
* `Orderly.find?_of_outstanding`: what was handed out and not answered is still there.
* `outstanding_step`: only an answer ends the waiting.
* `handshake_exactlyOnce`: what the loader is given, and what it can rely on.
-/

namespace VoxelCache
namespace Session

section Waiting

variable {x : Session} {a : Address} {ref : BucketRef} {call : Call}

/-- What was handed out and not answered is still there. -/
theorem Orderly.find?_of_outstanding
    (h : x.Orderly)
    (hmem : (a, ref) ∈ x.ledger.outstanding) :
    x.viewer.pool.find? a = some ref := by
  have hloads := (h.accounts.awaited a ref).mp hmem
  refine h.stocked.find?_iff.mpr ⟨hloads.lt, hloads.address, ?_⟩
  cases hcollected : (x.scene.bucket ref).isCollected with
  | false => rfl
  | true =>
      have hstate := (h.stocked.consistent ref).collected hcollected
      rw [hloads.state] at hstate
      cases hstate

/-- Only an answer ends the waiting. -/
theorem outstanding_step
    (h : x.Orderly)
    (hmem : (a, ref) ∈ x.ledger.outstanding)
    (hcall : ∀ payload, call ≠ .receive a payload) :
    (a, ref) ∈ (x.step call).ledger.outstanding := by
  obtain ⟨hhanded, hdelivered⟩ := Ledger.mem_outstanding.mp hmem
  cases call with
  | update outside camera =>
      rcases step_update_cases h outside camera with hsame |
        ⟨addresses, _, _, _, _, _, _, _, _, _, _, _, hafter⟩
      · rw [hsame]
        exact hmem
      · rw [hafter]
        exact hmem
  | take count =>
      exact Ledger.mem_outstanding.mpr ⟨List.mem_append_left _ hhanded, hdelivered⟩
  | receive b payload =>
      cases hfind : x.viewer.pool.find? b with
      | none =>
          rw [step_receive_of_find?_eq_none hfind]
          exact hmem
      | some other =>
          have hother : ref ≠ other := by
            rintro rfl
            have haddress := (h.stocked.find?_iff.mp hfind).address
            rw [(h.stocked.find?_iff.mp (h.find?_of_outstanding hmem)).address] at haddress
            exact hcall payload (haddress ▸ rfl)
          rw [step_receive_of_find? hfind]
          refine Ledger.mem_outstanding.mpr ⟨hhanded, ?_⟩
          intro hanswered
          rcases List.mem_append.mp hanswered with hanswered | hanswered
          · exact hdelivered hanswered
          · exact hother (List.mem_singleton.mp hanswered)
  | setUp factory bytes => exact hmem
  | tick outside allowance => exact hmem
  | collectGarbage outside => exact hmem
  | addSwitch isOn => exact hmem
  | setSwitch switch isOn => exact hmem
  | addTape => exact hmem
  | setFuses tape updateFuse createFuse => exact hmem

/-- The payload of an answer lands in the bucket that was handed out. -/
theorem lands_of_outstanding
    (h : x.Orderly)
    (hmem : (a, ref) ∈ x.ledger.outstanding)
    (payload : Payload) :
    (x.viewer.receive x.scene a payload).1 = true ∧
      ((x.step (.receive a payload)).scene.bucket ref).payload = some payload ∧
      (a, ref) ∉ (x.step (.receive a payload)).ledger.outstanding := by
  have hfind := h.find?_of_outstanding hmem
  have hlives := h.stocked.find?_iff.mp hfind
  rw [step_receive_of_find? hfind]
  refine ⟨?_, ?_, ?_⟩
  · simp only [Viewer.receive, Pool.receive, hfind]
  · rw [Scene.bucket_deed_self _ hlives.lt, Deed.perform, Bucket.payload_receive hlives.uncollected]
  · simp [Ledger.mem_outstanding, Ledger.deliver]

end Waiting

section Taking

variable {x : Session} {a : Address} {ref : BucketRef}

theorem map_fst_located
    {p : Pool} {addresses : List Address}
    (h : ∀ a ∈ addresses, (p.find? a).isSome = true) :
    (p.located addresses).map (·.1) = addresses := by
  induction addresses with
  | nil => rfl
  | cons a rest ih =>
      obtain ⟨ref, href⟩ := Option.isSome_iff_exists.mp (h a List.mem_cons_self)
      have hrest := ih fun b hb => h b (List.mem_cons_of_mem a hb)
      simp only [Pool.located] at hrest
      simp [Pool.located, href, hrest]

/-- An address is handed out again only if its earlier bucket was answered and is reclaimed. -/
theorem reclaimed_of_handed
    (h : x.Orderly)
    (hasked : x.viewer.pool.isUnrequested x.scene a = true)
    (hmem : (a, ref) ∈ x.ledger.handed) :
    (x.scene.bucket ref).isCollected = true ∧ ref ∈ x.ledger.delivered := by
  obtain ⟨now, hfind, hstate⟩ := Pool.isUnrequested_iff.mp hasked
  have hlives := h.stocked.find?_iff.mp hfind
  obtain ⟨hlt, haddress⟩ := h.accounts.known a ref hmem
  have hnew := (h.accounts.not_mem_of_unrequested hlives.uncollected hstate).1
  -- If the earlier bucket still lived there, it would be the unrequested one.
  have hcollected : (x.scene.bucket ref).isCollected = true := by
    cases hopen : (x.scene.bucket ref).isCollected with
    | true => rfl
    | false =>
        obtain rfl : ref = now := h.stocked.eq_of_lives hlives ⟨hlt, haddress, hopen⟩
        exact absurd (List.mem_map_of_mem (f := (·.2)) hmem) hnew
  -- If it had not been answered, it would still be loading, and could not be reclaimed.
  refine ⟨hcollected, Decidable.byContradiction fun hnot => ?_⟩
  have hloads := (h.accounts.awaited a ref).mp (Ledger.mem_outstanding.mpr ⟨hmem, hnot⟩)
  have hconsistent := (h.stocked.consistent ref).collected hcollected
  rw [hloads.state] at hconsistent
  cases hconsistent

/--
Taking requests hands out, in the order in which they were picked and without repetition,
exactly the first waiting addresses that are still unrequested, and takes the shortest
sufficient front off the queue, or the whole queue if it is not sufficient.  All of them are
entered in the ledger, by which no bucket is handed out twice: an address is handed out again
only if its earlier bucket was answered and is reclaimed.  Until an address is answered, no
call removes or replaces its bucket, and the answer is accepted and lands in that bucket.
-/
theorem handshake_exactlyOnce
    (h : Reached (fun _ _ => True) x) :
    (∀ count,
      let wanted := count.getD x.viewer.requests.size
      let waiting := x.viewer.requests.addresses
      let given := (x.viewer.take x.scene count).1
      let after := x.step (.take count)
      given = (waiting.filter (x.viewer.pool.isUnrequested x.scene)).take wanted ∧
      given.Nodup ∧
      given.Sublist x.ledger.picked ∧
      (∃ taken,
        after.viewer.requests.addresses = waiting.drop taken ∧
        (∀ a ∈ given, a ∈ waiting.take taken) ∧
        (given.length < wanted → taken = waiting.length) ∧
        (given.length = wanted → ∀ fewer < taken, ∃ a ∈ given, a ∉ waiting.take fewer)) ∧
      after.ledger.handed.map (·.1) = x.ledger.handed.map (·.1) ++ given ∧
      ∀ a ∈ given, ∀ ref, (a, ref) ∈ x.ledger.handed →
        (x.scene.bucket ref).isCollected = true ∧ ref ∈ x.ledger.delivered) ∧
    (x.ledger.handed.map (·.2)).Nodup ∧
    ∀ a ref, (a, ref) ∈ x.ledger.outstanding →
      (∀ call, (∀ payload, call ≠ .receive a payload) →
        (a, ref) ∈ (x.step call).ledger.outstanding ∧
        (x.step call).viewer.pool.find? a = some ref ∧
        ((x.step call).scene.bucket ref).state = .loading) ∧
      ∀ payload,
        (x.viewer.receive x.scene a payload).1 = true ∧
        ((x.step (.receive a payload)).scene.bucket ref).payload = some payload ∧
        (a, ref) ∉ (x.step (.receive a payload)).ledger.outstanding := by
  have horderly := h.orderly
  refine ⟨?_, horderly.accounts.once, ?_⟩
  · intro count wanted waiting given after
    obtain ⟨taken, hhandsOut, hstep⟩ := exists_takeFront_eq horderly count
    have hgiven : given = x.viewer.unrequestedAmong x.scene taken :=
      congrArg Prod.fst hhandsOut.answer
    have hasked : ∀ a ∈ given, x.viewer.pool.isUnrequested x.scene a = true := by
      rw [hgiven]
      exact fun a ha => (List.mem_filter.mp ha).2
    have hsublist : given.Sublist waiting := by
      rw [hgiven]
      exact List.filter_sublist.trans (List.take_sublist _ _)
    refine ⟨hhandsOut.given, horderly.distinct.sublist hsublist, hsublist.trans horderly.picked,
      ⟨taken, ?_, ?_, ?_, ?_⟩, ?_, ?_⟩
    · rw [show after = _ from hstep]
      exact Viewer.addresses_skip x.viewer taken
    · rw [hgiven]
      exact fun a ha => (List.mem_filter.mp ha).1
    · rw [hgiven]
      exact fun hfew => (hhandsOut.exhausted hfew).trans (Requests.length_addresses _).symm
    · rw [hgiven]
      exact fun henough fewer hfewer => hhandsOut.shortest horderly.distinct henough hfewer
    · have hfound : ∀ a ∈ given, (x.viewer.pool.find? a).isSome = true := by
        intro a ha
        obtain ⟨ref, href, _⟩ := Pool.isUnrequested_iff.mp (hasked a ha)
        exact Option.isSome_iff_exists.mpr ⟨ref, href⟩
      have hentered : after.ledger.handed = x.ledger.handed ++ x.viewer.pool.located given := rfl
      rw [hentered, List.map_append, map_fst_located hfound]
    · exact fun a ha ref hmem => reclaimed_of_handed horderly (hasked a ha) hmem
  · intro a ref hmem
    refine ⟨?_, lands_of_outstanding horderly hmem⟩
    intro call hcall
    have hafter := horderly.step call
    have hstill := outstanding_step horderly hmem hcall
    exact ⟨hstill, hafter.find?_of_outstanding hstill,
      ((hafter.accounts.awaited a ref).mp hstill).state⟩

/--
A viewer looks around, one address is taken and answered with a payload, a frame goes by and
buckets are reclaimed: of all addresses that wait then the first one is handed out.
-/
theorem handshake_exactlyOnce_of_one_taken :
    let nobody : BucketRef → Bool := fun _ => false
    let x := [.addSwitch true, .setUp (.rasters 0) 1, .update nobody .start, .take (some 1),
      .receive .origin (zeroBytes bucketVoxels), .tick nobody .unlimited,
      .collectGarbage nobody].foldl Session.step .smallest
    Reached (fun _ _ => True) x ∧
      (x.viewer.take x.scene (some 1)).1 =
        (x.viewer.requests.addresses.filter (x.viewer.pool.isUnrequested x.scene)).take 1 ∧
      (x.ledger.handed.map (·.2)).Nodup := by
  intro nobody x
  have hreached : Reached (fun _ _ => True) x :=
    (reached_smallest _).run
      ⟨trivial, trivial, trivial, trivial, trivial, trivial, trivial, trivial⟩
  have hhandshake := handshake_exactlyOnce hreached
  exact ⟨hreached, (hhandshake.1 (some 1)).1, hhandshake.2.1⟩

end Taking

end Session
end VoxelCache
