import Transclusion.Message.Body

/-!
# Grids

The characters of two bytes stand in a grid: the first byte gives the row and the second one the
column. The bytes that are in use for either come in two blocks.
-/

namespace Transclusion

/-- Bytes that stand for places, the first of them in one block and the others in a second one. -/
structure Axis where
  size : Nat
  first : Nat
  /-- How many places the first block has. -/
  split : Nat
  second : Nat
  apart : split ≤ size ∧ first + split ≤ second ∧ second + (size - split) ≤ 256 := by decide

namespace Axis

def byte (x : Axis) (place : Nat) : UInt8 :=
  UInt8.ofNat (if place < x.split then x.first + place else x.second + (place - x.split))

def place? (x : Axis) (b : UInt8) : Option Nat :=
  if x.first ≤ b.toNat ∧ b.toNat < x.first + x.split then some (b.toNat - x.first)
  else if x.second ≤ b.toNat ∧ b.toNat < x.second + (x.size - x.split) then
    some (b.toNat - x.second + x.split)
  else none

/-- A single block of bytes. -/
def block (first size : Nat) (inside : first + size ≤ 256 := by decide) : Axis where
  size := size
  first := first
  split := size
  second := first + size
  apart := ⟨Nat.le_refl _, Nat.le_refl _, by omega⟩

/-- The bytes that begin a pair where all above those of ASCII do, but the first and the last. -/
def lead : Axis := .block 0x81 126

theorem toNat_byte (x : Axis) {place : Nat} (inside : place < x.size) :
    (x.byte place).toNat =
      if place < x.split then x.first + place else x.second + (place - x.split) := by
  have apart := x.apart
  rw [byte, UInt8.toNat_ofNat']
  apply Nat.mod_eq_of_lt
  split <;> omega

theorem place?_byte (x : Axis) {place : Nat} (inside : place < x.size) :
    x.place? (x.byte place) = some place := by
  have apart := x.apart
  have value := x.toNat_byte inside
  unfold place?
  split at value
  next => rw [if_pos (by omega)]; congr; omega
  next => rw [if_neg (by omega), if_pos (by omega)]; congr; omega

end Axis

structure Grid where
  rows : Axis
  columns : Axis

namespace Grid

def size (g : Grid) : Nat := g.rows.size * g.columns.size

/-- The number of the place that two bytes stand for, row by row. -/
def pointer? (g : Grid) (a b : UInt8) : Option Nat := do
  let row ← g.rows.place? a
  let column ← g.columns.place? b
  return row * g.columns.size + column

def row (g : Grid) (pointer : Nat) : UInt8 := g.rows.byte (pointer / g.columns.size)

def column (g : Grid) (pointer : Nat) : UInt8 := g.columns.byte (pointer % g.columns.size)

def bytes (g : Grid) (pointer : Nat) : Bytes := [g.row pointer, g.column pointer]

variable {g : Grid} {p : Nat}

theorem place?_row (inside : p < g.size) : g.rows.place? (g.row p) = some (p / g.columns.size) :=
  g.rows.place?_byte (Nat.div_lt_of_lt_mul (Nat.mul_comm _ _ ▸ inside))

theorem place?_column (inside : p < g.size) :
    g.columns.place? (g.column p) = some (p % g.columns.size) := by
  apply g.columns.place?_byte
  apply Nat.mod_lt
  exact Nat.pos_of_ne_zero fun empty => by simp [size, empty] at inside

theorem isSome_row (inside : p < g.size) : (g.rows.place? (g.row p)).isSome = true := by
  simp [place?_row inside]

theorem isSome_column (inside : p < g.size) : (g.columns.place? (g.column p)).isSome = true := by
  simp [place?_column inside]

/-- A place is found again by its bytes. -/
theorem pointer?_row_column (inside : p < g.size) :
    g.pointer? (g.row p) (g.column p) = some p := by
  simp [pointer?, place?_row inside, place?_column inside, Nat.div_add_mod']

end Grid

end Transclusion
