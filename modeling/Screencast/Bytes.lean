/-
Byte strings and the big-endian numbers packed into them.

Every number on the wire is unsigned and written most significant byte first.
`toNat` reads such a number and `ofNat` writes one into a field of a given
width; the two are inverse to each other on fields of that width
(`ofNat_toNat`) and on numbers that fit (`toNat_ofNat`).
-/

namespace Screencast.Bytes

/-- How many numbers a field of the given width can hold: 256 times as many for each byte. -/
def bound : Nat → Nat
  | 0 => 1
  | width + 1 => bound width * 256

@[simp] theorem bound_zero : bound 0 = 1 := rfl

@[simp] theorem bound_succ (width : Nat) : bound (width + 1) = bound width * 256 := rfl

theorem bound_pos (width : Nat) : 0 < bound width := by
  induction width with
  | zero => decide
  | succ width ih => exact Nat.mul_pos ih (by decide)

/-- The number whose big-endian digits to base 256 are the given bytes. -/
def toNat : List UInt8 → Nat
  | [] => 0
  | b :: rest => b.toNat * bound rest.length + toNat rest

/-- The low `width` bytes of a number, most significant first; higher bits are dropped. -/
def ofNat : Nat → Nat → List UInt8
  | 0, _ => []
  | width + 1, n => UInt8.ofNat (n / bound width % 256) :: ofNat width n

@[simp] theorem toNat_nil : toNat [] = 0 := rfl

@[simp] theorem toNat_cons (b : UInt8) (rest : List UInt8) :
    toNat (b :: rest) = b.toNat * bound rest.length + toNat rest := rfl

@[simp] theorem ofNat_zero (n : Nat) : ofNat 0 n = [] := rfl

@[simp] theorem ofNat_succ (width n : Nat) :
    ofNat (width + 1) n = UInt8.ofNat (n / bound width % 256) :: ofNat width n := rfl

@[simp] theorem length_ofNat (width n : Nat) : (ofNat width n).length = width := by
  induction width with
  | zero => rfl
  | succ width ih => simp [ih]

/-- A number stays below the bound of the field that it fills. -/
theorem toNat_lt (bs : List UInt8) : toNat bs < bound bs.length := by
  induction bs with
  | nil => simp
  | cons b rest ih =>
    have hb : b.toNat < 256 := b.toNat_lt
    have : b.toNat * bound rest.length + bound rest.length ≤ 256 * bound rest.length := by
      rw [← Nat.succ_mul]
      exact Nat.mul_le_mul_right _ hb
    simp only [toNat_cons, List.length_cons, bound_succ]
    omega

/-- Reading what was written gives the number back, reduced to the width of the field. -/
theorem toNat_ofNat (width n : Nat) : toNat (ofNat width n) = n % bound width := by
  induction width with
  | zero => simp [Nat.mod_one]
  | succ width ih =>
    have hd : n / bound width % 256 < 256 := Nat.mod_lt _ (by decide)
    rw [ofNat_succ, toNat_cons, length_ofNat, ih, UInt8.toNat_ofNat', Nat.mod_eq_of_lt hd,
      bound_succ, Nat.mod_mul, Nat.add_comm, Nat.mul_comm]

theorem toNat_ofNat_of_lt {width n : Nat} (h : n < bound width) :
    toNat (ofNat width n) = n := by
  rw [toNat_ofNat, Nat.mod_eq_of_lt h]

/-- Bytes above the written field do not change it. -/
theorem ofNat_add_mul (width n k : Nat) : ofNat width (k * bound width + n) = ofNat width n := by
  induction width generalizing k with
  | zero => rfl
  | succ width ih =>
    have hsplit : k * bound (width + 1) + n = k * 256 * bound width + n := by
      rw [bound_succ, Nat.mul_assoc, Nat.mul_comm 256]
    have hpos : 0 < bound width := bound_pos _
    rw [ofNat_succ, ofNat_succ, hsplit, ih, Nat.add_comm, Nat.add_mul_div_right _ _ hpos,
      Nat.add_mul_mod_self_right]

/-- Writing what was read gives the bytes back. -/
theorem ofNat_toNat (bs : List UInt8) : ofNat bs.length (toNat bs) = bs := by
  induction bs with
  | nil => rfl
  | cons b rest ih =>
    have hpos : 0 < bound rest.length := bound_pos _
    have hb : b.toNat < 256 := b.toNat_lt
    have hlow : toNat rest / bound rest.length = 0 := Nat.div_eq_of_lt (toNat_lt rest)
    rw [List.length_cons, ofNat_succ, toNat_cons, ofNat_add_mul, ih, Nat.add_comm,
      Nat.add_mul_div_right _ _ hpos, hlow, Nat.zero_add, Nat.mod_eq_of_lt hb,
      UInt8.ofNat_toNat]

end Screencast.Bytes
