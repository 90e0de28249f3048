import Mathlib.Data.Nat.Defs
import Mathlib.Algebra.Group.Nat.Basic

/-!
# Byte images of the fixed-width wire fields

The packed structs of `common/protocol.h` go to and from the wire by `memcpy` on a
little-endian host, and the replay file stores its `u64` timestamp and `u32` length the same
way, so every fixed-width field is its little-endian image.  `leBytes w n` is the `w`-byte image
of `n` (its value modulo `256 ^ w`) and `leNat` reads a byte string back; they are inverse
(`leNat_leBytes`, `leBytes_leNat`).  `le16`, `le32`, `le64` and `ofLe16`, `ofLe32`, `ofLe64`
specialize them to the machine types, and round-trip both ways.
-/

namespace NetNodeGateway

/-! ### Naturals -/

/-- The `w`-byte little-endian image of `n`: byte `i` is `(n >> 8i) & 0xFF`. -/
def leBytes : Nat → Nat → List UInt8
  | 0, _ => []
  | w + 1, n => UInt8.ofNat n :: leBytes w (n / 256)

/-- The value of a little-endian byte string. -/
def leNat : List UInt8 → Nat
  | [] => 0
  | b :: bs => b.toNat + 256 * leNat bs

@[simp] theorem uint8_size : UInt8.size = 256 := rfl
@[simp] theorem uint16_size : UInt16.size = 65536 := rfl
@[simp] theorem uint32_size : UInt32.size = 4294967296 := rfl
@[simp] theorem uint64_size : UInt64.size = 18446744073709551616 := rfl

@[simp] theorem toNat_uint8_ofNat (n : Nat) : (UInt8.ofNat n).toNat = n % 256 := rfl

@[simp] theorem length_leBytes (w n : Nat) : (leBytes w n).length = w := by
  induction w generalizing n <;> simp [leBytes, *]

theorem leNat_lt (bs : List UInt8) : leNat bs < 256 ^ bs.length := by
  induction bs with
  | nil => simp [leNat]
  | cons b bs ih =>
    have : b.toNat < 256 := b.toNat_lt_size
    simp only [leNat, List.length_cons, Nat.pow_succ]
    omega

theorem leNat_leBytes (w n : Nat) : leNat (leBytes w n) = n % 256 ^ w := by
  induction w generalizing n with
  | zero => simp [leBytes, leNat, Nat.mod_one]
  | succ w ih => rw [leBytes, leNat, ih, toNat_uint8_ofNat, Nat.pow_succ', Nat.mod_mul]

theorem leBytes_leNat (bs : List UInt8) : leBytes bs.length (leNat bs) = bs := by
  induction bs with
  | nil => rfl
  | cons b bs ih =>
    have hb : b.toNat < 256 := b.toNat_lt_size
    have hdiv : (b.toNat + 256 * leNat bs) / 256 = leNat bs := by omega
    rw [List.length_cons, leBytes, leNat, hdiv, ih]
    congr 1
    exact UInt8.toNat.inj (by simp only [toNat_uint8_ofNat, uint8_size] at *; omega)

/-! ### Machine words -/

@[simp] theorem uint8_lt_iff (a b : UInt8) : a < b ↔ a.toNat < b.toNat := Iff.rfl
@[simp] theorem uint8_le_iff (a b : UInt8) : a ≤ b ↔ a.toNat ≤ b.toNat := Iff.rfl
@[simp] theorem uint32_lt_iff (a b : UInt32) : a < b ↔ a.toNat < b.toNat := Iff.rfl
@[simp] theorem uint32_le_iff (a b : UInt32) : a ≤ b ↔ a.toNat ≤ b.toNat := Iff.rfl
theorem uint32_eq_iff (a b : UInt32) : a = b ↔ a.toNat = b.toNat :=
  ⟨congrArg _, UInt32.toNat.inj⟩

theorem toNat_uint32_add (a b : UInt32) : (a + b).toNat = (a.toNat + b.toNat) % 4294967296 := rfl

theorem toNat_uint64_add (a b : UInt64) :
    (a + b).toNat = (a.toNat + b.toNat) % 18446744073709551616 := rfl

/-- Shifts, masks and narrowing of `uint32_t` values, through `toNat`. -/
theorem toNat_uint32_shiftRight (a b : UInt32) :
    (a >>> b).toNat = a.toNat / 2 ^ (b.toNat % 32) := by
  show (a.toBitVec >>> (b.mod 32).toBitVec).toNat = _
  rw [BitVec.ushiftRight_eq', BitVec.toNat_ushiftRight, Nat.shiftRight_eq_div_pow]
  rfl

theorem toNat_uint32_shiftLeft (a b : UInt32) :
    (a <<< b).toNat = a.toNat * 2 ^ (b.toNat % 32) % 4294967296 := by
  show (a.toBitVec <<< (b.mod 32).toBitVec).toNat = _
  rw [BitVec.shiftLeft_eq', BitVec.toNat_shiftLeft, Nat.shiftLeft_eq]
  rfl

theorem toNat_uint32_land (a b : UInt32) : (a &&& b).toNat = a.toNat &&& b.toNat :=
  BitVec.toNat_and ..

theorem toNat_uint32_lor (a b : UInt32) : (a ||| b).toNat = a.toNat ||| b.toNat :=
  BitVec.toNat_or ..

@[simp] theorem toNat_uint8_toUInt32 (a : UInt8) : a.toUInt32.toNat = a.toNat := rfl

@[simp] theorem toNat_uint32_toUInt8 (a : UInt32) : a.toUInt8.toNat = a.toNat % 256 := rfl

/-- The two bytes of a `uint16_t` as `memcpy` lays them out. -/
def le16 (x : UInt16) : List UInt8 := leBytes 2 x.toNat

/-- The four bytes of a `uint32_t`. -/
def le32 (x : UInt32) : List UInt8 := leBytes 4 x.toNat

/-- The eight bytes of a `uint64_t`. -/
def le64 (x : UInt64) : List UInt8 := leBytes 8 x.toNat

/-- The `uint16_t` that `memcpy` reads from two bytes. -/
def ofLe16 (bs : List UInt8) : UInt16 := UInt16.ofNat (leNat bs)

/-- The `uint32_t` read from four bytes. -/
def ofLe32 (bs : List UInt8) : UInt32 := UInt32.ofNat (leNat bs)

/-- The `uint64_t` read from eight bytes. -/
def ofLe64 (bs : List UInt8) : UInt64 := UInt64.ofNat (leNat bs)

@[simp] theorem length_le16 (x : UInt16) : (le16 x).length = 2 := length_leBytes ..
@[simp] theorem length_le32 (x : UInt32) : (le32 x).length = 4 := length_leBytes ..
@[simp] theorem length_le64 (x : UInt64) : (le64 x).length = 8 := length_leBytes ..

@[simp] theorem toNat_uint16_ofNat (n : Nat) : (UInt16.ofNat n).toNat = n % 65536 := rfl
@[simp] theorem toNat_uint32_ofNat (n : Nat) : (UInt32.ofNat n).toNat = n % 4294967296 := rfl
@[simp] theorem toNat_uint64_ofNat (n : Nat) :
    (UInt64.ofNat n).toNat = n % 18446744073709551616 := rfl

@[simp] theorem uint32_ofNat_zero : UInt32.ofNat 0 = 0 := rfl

theorem uint32_ofNat_add (a b : Nat) :
    UInt32.ofNat (a + b) = UInt32.ofNat a + UInt32.ofNat b :=
  UInt32.toNat.inj (by simp only [toNat_uint32_add, toNat_uint32_ofNat, Nat.add_mod_mod,
    Nat.mod_add_mod])

theorem uint64_ofNat_add (a b : Nat) :
    UInt64.ofNat (a + b) = UInt64.ofNat a + UInt64.ofNat b :=
  UInt64.toNat.inj (by simp only [toNat_uint64_add, toNat_uint64_ofNat, Nat.add_mod_mod,
    Nat.mod_add_mod])

theorem toUInt64_eq_ofNat (x : UInt32) : x.toUInt64 = UInt64.ofNat x.toNat :=
  UInt64.toNat.inj (by
    rw [toNat_uint64_ofNat, Nat.mod_eq_of_lt (by have := x.toNat_lt_size; simp at this; omega)]
    rfl)

@[simp] theorem ofLe16_le16 (x : UInt16) : ofLe16 (le16 x) = x := by
  have := x.toNat_lt_size
  apply UInt16.toNat.inj
  simp only [ofLe16, le16, leNat_leBytes, toNat_uint16_ofNat, uint16_size] at *
  omega

@[simp] theorem ofLe32_le32 (x : UInt32) : ofLe32 (le32 x) = x := by
  have := x.toNat_lt_size
  apply UInt32.toNat.inj
  simp only [ofLe32, le32, leNat_leBytes, toNat_uint32_ofNat, uint32_size] at *
  omega

@[simp] theorem ofLe64_le64 (x : UInt64) : ofLe64 (le64 x) = x := by
  have := x.toNat_lt_size
  apply UInt64.toNat.inj
  simp only [ofLe64, le64, leNat_leBytes, toNat_uint64_ofNat, uint64_size] at *
  omega

theorem le16_ofLe16 {bs : List UInt8} (h : bs.length = 2) : le16 (ofLe16 bs) = bs := by
  have := leNat_lt bs
  rw [h] at this
  rw [le16, ofLe16, toNat_uint16_ofNat, Nat.mod_eq_of_lt (by omega), ← h, leBytes_leNat]

theorem le32_ofLe32 {bs : List UInt8} (h : bs.length = 4) : le32 (ofLe32 bs) = bs := by
  have := leNat_lt bs
  rw [h] at this
  rw [le32, ofLe32, toNat_uint32_ofNat, Nat.mod_eq_of_lt (by omega), ← h, leBytes_leNat]

theorem le64_ofLe64 {bs : List UInt8} (h : bs.length = 8) : le64 (ofLe64 bs) = bs := by
  have := leNat_lt bs
  rw [h] at this
  rw [le64, ofLe64, toNat_uint64_ofNat, Nat.mod_eq_of_lt (by omega), ← h, leBytes_leNat]

end NetNodeGateway
