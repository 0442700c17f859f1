/-!
# Places in rows

Texels, bytes and look-up entries are numbered row by row.  A place in such a numbering
is `row * width + place`.
-/

namespace VoxelCache

section Places

variable {width rows row row' place place' i : Nat}

/-- A row number and a place in the row give a place below the number of all places. -/
theorem rowMajor_lt
    (hplace : place < width)
    (hrow : row < rows) :
    row * width + place < rows * width := by
  calc row * width + place
      < row * width + width := Nat.add_lt_add_left hplace _
    _ = (row + 1) * width := (Nat.succ_mul row width).symm
    _ ≤ rows * width := Nat.mul_le_mul_right width hrow

/-- Places of an earlier row come before places of a later row. -/
theorem rowMajor_lt_of_lt
    (hplace : place < width)
    (hrow : row < row') :
    row * width + place < row' * width + place' :=
  Nat.lt_of_lt_of_le (rowMajor_lt hplace hrow) (Nat.le_add_right _ _)

/-- A place comes before a later row exactly if its own row does. -/
theorem rowMajor_lt_iff
    (hplace : place < width) :
    row * width + place < row' * width ↔ row < row' := by
  constructor
  · intro h
    refine Nat.lt_of_mul_lt_mul_right (a := width) ?_
    omega
  · exact rowMajor_lt hplace

theorem le_rowMajor_iff
    (hplace : place < width) :
    row' * width ≤ row * width + place ↔ row' ≤ row := by
  rw [← Nat.not_lt, rowMajor_lt_iff hplace, Nat.not_lt]

/-- Different places have different numbers. -/
theorem rowMajor_inj
    (hplace : place < width)
    (hplace' : place' < width)
    (h : row * width + place = row' * width + place') :
    row = row' ∧ place = place' := by
  have hrow : row = row' := by
    rcases Nat.lt_trichotomy row row' with hlt | heq | hgt
    · exact absurd h (Nat.ne_of_lt (rowMajor_lt_of_lt hplace hlt))
    · exact heq
    · exact absurd h.symm (Nat.ne_of_lt (rowMajor_lt_of_lt hplace' hgt))
  subst hrow
  exact ⟨rfl, Nat.add_left_cancel h⟩

theorem rowMajor_div
    (hplace : place < width) :
    (row * width + place) / width = row := by
  rw [Nat.mul_comm, Nat.mul_add_div (Nat.zero_lt_of_lt hplace), Nat.div_eq_of_lt hplace,
    Nat.add_zero]

theorem rowMajor_mod
    (hplace : place < width) :
    (row * width + place) % width = place := by
  rw [Nat.mul_add_mod_self_right, Nat.mod_eq_of_lt hplace]

/-- Every number below that of all places is the number of a place. -/
theorem exists_rowMajor
    (h : i < rows * width) :
    ∃ row place, row < rows ∧ place < width ∧ i = row * width + place := by
  have hwidth : 0 < width := Nat.pos_of_lt_mul_left h
  refine ⟨i / width, i % width, ?_, Nat.mod_lt i hwidth, (Nat.div_add_mod' i width).symm⟩
  exact Nat.div_lt_of_lt_mul (Nat.mul_comm rows width ▸ h)

/-- Every number below that of all bytes is the number of a byte of a texel. -/
theorem exists_texelMajor
    {bytes : Nat}
    (h : i < rows * width * bytes) :
    ∃ row column byte, row < rows ∧ column < width ∧ byte < bytes ∧
      i = (row * width + column) * bytes + byte := by
  obtain ⟨texel, byte, htexel, hbyte, rfl⟩ := exists_rowMajor h
  obtain ⟨row, column, hrow, hcolumn, rfl⟩ := exists_rowMajor htexel
  exact ⟨row, column, byte, hrow, hcolumn, hbyte, rfl⟩

end Places

end VoxelCache
