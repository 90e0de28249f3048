import NetNodeGateway.Common.Crc32

/-!
# The table-driven CRC is the bitwise CRC-32

`crc32Reference` is the CRC-32 as the specification describes it: complement the initial value;
for each byte, XOR it into the low eight bits and make eight reflected shift-and-reduce steps
(`refBitStep`); complement.  The table-driven `crc32Update` computes it from every initial value
on every input (`crc32Update_eq_reference`), because a table entry is eight bit steps on its
index and one table step is eight bit steps on `crc ^ byte` (`crcByteStep_eq`).  The proof works
on the `BitVec 32` under each `UInt32`: the bit step is linear over XOR (`bitStep_xor`), and
eight steps on a word are the word shifted down a byte XOR the steps on its low byte
(`iterate_bitStep_eight`).

The incremental form composes (`crc32Update_append`), and the same linearity shows that the CRC
detects every single-byte error (`crc32Update_modify_ne`): a byte difference enters the register
as a nonzero word (`crcByteStep_zero_byte_ne`), which the bit step, whose only kernel is zero
(`eq_zero_of_bitStep`), keeps nonzero through every byte that follows.
-/

namespace NetNodeGateway

/-! ### The reference -/

/-- One step of the bitwise reflected CRC-32: shift right, XOR-ing in `0xEDB88320` when the bit
shifted out was set. -/
def refBitStep (crc : UInt32) : UInt32 :=
  (crc >>> 1) ^^^ if crc &&& 1 = 1 then 0xEDB88320 else 0

/-- A byte of the bitwise CRC-32: XOR it into the low eight bits, then eight bit steps. -/
def refByteStep (crc : UInt32) (b : UInt8) : UInt32 := refBitStep^[8] (crc ^^^ b.toUInt32)

/-- The bitwise reflected CRC-32 from the value `c`: complement, the bytes, complement. -/
def crc32Reference (c : UInt32) (data : List UInt8) : UInt32 :=
  ~~~(data.foldl refByteStep (~~~c))

/-! ### The bits of a `uint32_t` -/

theorem toBitVec_uint32_xor (x y : UInt32) : (x ^^^ y).toBitVec = x.toBitVec ^^^ y.toBitVec :=
  rfl

theorem toBitVec_toUInt32 (b : UInt8) : b.toUInt32.toBitVec = BitVec.ofNat 32 b.toNat :=
  BitVec.eq_of_toNat_eq (Nat.mod_eq_of_lt (lt_trans b.toBitVec.isLt (by decide))).symm

theorem toUInt32_xor (a e : UInt8) : (a ^^^ e).toUInt32 = a.toUInt32 ^^^ e.toUInt32 :=
  UInt32.eq_of_toBitVec_eq <| BitVec.eq_of_toNat_eq <| (BitVec.toNat_xor _ _).trans
    (BitVec.toNat_xor _ _).symm

theorem uint32_not_not (x : UInt32) : ~~~~~~x = x := UInt32.eq_of_toBitVec_eq BitVec.not_not

theorem uint32_xor_zero (x : UInt32) : x ^^^ 0 = x := UInt32.eq_of_toBitVec_eq BitVec.xor_zero

theorem uint32_xor_eq_self {x d : UInt32} (h : x ^^^ d = x) : d = 0 := by
  apply UInt32.eq_of_toBitVec_eq
  have h' := congrArg (x.toBitVec ^^^ ·) (congrArg UInt32.toBitVec h)
  simpa [toBitVec_uint32_xor, ← BitVec.xor_assoc] using h'

theorem and_one_eq (x : UInt32) : x &&& 1 = if x.toBitVec.getLsbD 0 then 1 else 0 := by
  apply UInt32.eq_of_toBitVec_eq
  show x.toBitVec &&& 1#32 = _
  rw [BitVec.and_one_eq_setWidth_ofBool_getLsbD]
  cases x.toBitVec.getLsbD 0 <;> rfl

/-! ### The bit step -/

/-- The bit step on the `BitVec 32` under a `uint32_t`. -/
def bitStep (x : BitVec 32) : BitVec 32 :=
  (x >>> 1) ^^^ if x.getLsbD 0 then 0xEDB88320#32 else 0#32

theorem toBitVec_crcBitStep (x : UInt32) : (crcBitStep x).toBitVec = bitStep x.toBitVec := by
  rw [crcBitStep, bitStep, and_one_eq]
  cases x.toBitVec.getLsbD 0
  · exact (BitVec.xor_zero).symm
  · rfl

theorem toBitVec_refBitStep (x : UInt32) : (refBitStep x).toBitVec = bitStep x.toBitVec := by
  rw [refBitStep, bitStep, and_one_eq]
  cases x.toBitVec.getLsbD 0 <;> rfl

theorem getLsbD_bitStep (x : BitVec 32) (i : Nat) :
    (bitStep x).getLsbD i = (x.getLsbD (1 + i) ^^ (x.getLsbD 0 && (0xEDB88320#32).getLsbD i)) := by
  rw [bitStep]
  cases x.getLsbD 0 <;> simp

/-- The bit step is linear over XOR. -/
theorem bitStep_xor (x y : BitVec 32) : bitStep (x ^^^ y) = bitStep x ^^^ bitStep y := by
  ext i
  simp only [getLsbD_bitStep, BitVec.getLsbD_xor, Bool.and_xor_distrib_right, Bool.xor_assoc,
    Bool.xor_left_comm]

theorem iterate_bitStep_xor (n : Nat) (x y : BitVec 32) :
    bitStep^[n] (x ^^^ y) = bitStep^[n] x ^^^ bitStep^[n] y := by
  induction n generalizing x y with
  | zero => rfl
  | succ n ih => simp only [Function.iterate_succ_apply, bitStep_xor, ih]

theorem bitStep_of_getLsbD_zero {x : BitVec 32} (h : x.getLsbD 0 = false) :
    bitStep x = x >>> 1 := by
  rw [bitStep, h]
  exact BitVec.xor_zero

/-- Below its low byte, a word goes through the bit steps as a plain shift. -/
theorem iterate_bitStep_high (x : BitVec 32) {k : Nat} (hk : k ≤ 8) :
    bitStep^[k] ((x >>> 8) <<< 8) = (x >>> 8) <<< 8 >>> k := by
  induction k with
  | zero => exact (BitVec.ushiftRight_zero _).symm
  | succ k ih =>
    rw [Function.iterate_succ_apply', ih (by omega),
      bitStep_of_getLsbD_zero (by simp; omega), BitVec.shiftRight_add]

theorem high_ushiftRight (x : BitVec 32) : (x >>> 8) <<< 8 >>> 8 = x >>> 8 := by
  ext i
  simpa using BitVec.lt_of_getLsbD

theorem eq_high_xor_low (x : BitVec 32) :
    x = (x >>> 8) <<< 8 ^^^ BitVec.ofNat 32 (x.toNat % 2 ^ 8) := by
  ext i
  rw [BitVec.getLsbD_xor, BitVec.getLsbD_ofNat, Nat.testBit_mod_two_pow, BitVec.testBit_toNat,
    BitVec.getLsbD_shiftLeft, BitVec.getLsbD_ushiftRight]
  by_cases h : i.val < 8
  · simp [h]
  · simp [h, show 8 + (i.val - 8) = i.val by omega]

/-- Eight bit steps on a word are the word shifted down a byte, XOR eight bit steps on its low
byte: the identity the table rests on. -/
theorem iterate_bitStep_eight (x : BitVec 32) :
    bitStep^[8] x = x >>> 8 ^^^ bitStep^[8] (BitVec.ofNat 32 (x.toNat % 2 ^ 8)) := by
  conv_lhs => rw [eq_high_xor_low x]
  rw [iterate_bitStep_xor, iterate_bitStep_high x le_rfl, high_ushiftRight]

/-! ### The table step -/

theorem table_entries (i : UInt8) : table.entries i = refBitStep^[8] i.toUInt32 :=
  UInt32.eq_of_toBitVec_eq <|
    ((Function.Semiconj.iterate_right toBitVec_crcBitStep 8) _).trans
      ((Function.Semiconj.iterate_right toBitVec_refBitStep 8) _).symm

/-- One table step is eight bit steps on `crc ^ byte`. -/
theorem crcByteStep_eq (crc : UInt32) (b : UInt8) :
    crcByteStep crc b = refBitStep^[8] (crc ^^^ b.toUInt32) := by
  apply UInt32.eq_of_toBitVec_eq
  have hhi : (crc ^^^ b.toUInt32).toBitVec >>> 8 = crc.toBitVec >>> 8 := by
    ext i
    have hb : b.toNat.testBit (8 + i) = false := Nat.testBit_lt_two_pow
      (lt_of_lt_of_le b.toBitVec.isLt (Nat.pow_le_pow_right (by decide) (by omega)))
    simp [toBitVec_uint32_xor, toBitVec_toUInt32, BitVec.getLsbD_ofNat, hb]
  rw [(Function.Semiconj.iterate_right toBitVec_refBitStep 8) _, iterate_bitStep_eight, hhi]
  show crc.toBitVec >>> 8 ^^^ (crcBitStep^[8] _).toBitVec = _
  rw [(Function.Semiconj.iterate_right toBitVec_crcBitStep 8) _, toBitVec_toUInt32]
  rfl

/-! ### The table-driven CRC and its incremental form -/

/-- **The table-driven CRC is the bitwise CRC-32**: each table entry is eight bit steps on its
index, one table step is eight bit steps on `crc ^ byte`, and so `crc32_update` equals the
bitwise reference from every initial value on every input. -/
theorem crc32Update_eq_reference :
    (∀ i : UInt8, table.entries i = refBitStep^[8] i.toUInt32) ∧
      (∀ (crc : UInt32) (b : UInt8), crcByteStep crc b = refBitStep^[8] (crc ^^^ b.toUInt32)) ∧
      ∀ (c : UInt32) (data : List UInt8), crc32Update c data = crc32Reference c data := by
  have hstep : crcByteStep = refByteStep := funext₂ crcByteStep_eq
  exact ⟨table_entries, crcByteStep_eq, fun c data => by rw [crc32Update, hstep]; rfl⟩

/-- **The incremental CRC composes**: updating by `a` then by `b` is updating by `a ++ b`, the
empty update changes nothing, and so `crc32` of a buffer continues from `crc32` of any prefix. -/
theorem crc32Update_append :
    (∀ (c : UInt32) (a b : List UInt8), crc32Update (crc32Update c a) b = crc32Update c (a ++ b)) ∧
      (∀ c : UInt32, crc32Update c [] = c) ∧
      ∀ a b : List UInt8, crc32 (a ++ b) = crc32Update (crc32 a) b := by
  have happ (c : UInt32) (a b : List UInt8) :
      crc32Update (crc32Update c a) b = crc32Update c (a ++ b) := by
    rw [crc32Update, crc32Update, uint32_not_not, crc32Update, List.foldl_append]
  exact ⟨happ, fun c => uint32_not_not c, fun a b => (happ 0 a b).symm⟩

/-! ### Single-byte errors -/

/-- The bit step's kernel is zero: bit 31 of the result is the bit shifted out, since the
polynomial has its top bit set. -/
theorem eq_zero_of_bitStep {x : BitVec 32} (h : bitStep x = 0#32) : x = 0#32 := by
  have h0 : x.getLsbD 0 = false := by
    simpa [getLsbD_bitStep] using congrArg (BitVec.getLsbD · 31) h
  rw [bitStep_of_getLsbD_zero h0] at h
  ext i
  rcases i with ⟨_ | j, hj⟩
  · simpa using h0
  · simpa [Nat.add_comm 1 j] using congrArg (BitVec.getLsbD · j) h

theorem eq_zero_of_iterate_refBitStep {n : Nat} {x : UInt32} (h : refBitStep^[n] x = 0) :
    x = 0 := by
  induction n generalizing x with
  | zero => exact h
  | succ n ih =>
    rw [Function.iterate_succ_apply] at h
    exact UInt32.eq_of_toBitVec_eq <| eq_zero_of_bitStep <| by
      rw [← toBitVec_refBitStep, ih h]; rfl

/-- A register difference goes through a byte as through a zero byte. -/
theorem crcByteStep_xor (s d : UInt32) (b : UInt8) :
    crcByteStep (s ^^^ d) b = crcByteStep s b ^^^ crcByteStep d 0 := by
  simp only [crcByteStep_eq]
  apply UInt32.eq_of_toBitVec_eq
  simp only [(Function.Semiconj.iterate_right toBitVec_refBitStep 8) _, toBitVec_uint32_xor,
    ← iterate_bitStep_xor]
  congr 1
  rw [toBitVec_toUInt32 0, show BitVec.ofNat 32 (0 : UInt8).toNat = 0#32 from rfl,
    BitVec.xor_zero]
  ac_rfl

/-- A byte difference enters the register as the byte into a zero register. -/
theorem crcByteStep_xor_byte (s : UInt32) (a e : UInt8) :
    crcByteStep s (a ^^^ e) = crcByteStep s a ^^^ crcByteStep 0 e := by
  simp only [crcByteStep_eq]
  apply UInt32.eq_of_toBitVec_eq
  simp only [(Function.Semiconj.iterate_right toBitVec_refBitStep 8) _, toBitVec_uint32_xor,
    ← iterate_bitStep_xor, toUInt32_xor]
  congr 1
  rw [show (0 : UInt32).toBitVec = 0#32 from rfl, BitVec.zero_xor]
  ac_rfl

theorem crcByteStep_zero_ne {d : UInt32} (hd : d ≠ 0) : crcByteStep d 0 ≠ 0 := by
  rw [crcByteStep_eq, show (0 : UInt8).toUInt32 = 0 from rfl, uint32_xor_zero]
  exact fun h => hd (eq_zero_of_iterate_refBitStep h)

theorem crcByteStep_zero_byte_ne {e : UInt8} (he : e ≠ 0) : crcByteStep 0 e ≠ 0 := by
  rw [crcByteStep_eq]
  refine fun h => he ?_
  have h0 := eq_zero_of_iterate_refBitStep h
  rw [show (0 : UInt32) ^^^ e.toUInt32 = e.toUInt32 from
    UInt32.eq_of_toBitVec_eq BitVec.zero_xor] at h0
  exact UInt8.eq_of_toBitVec_eq (BitVec.eq_of_toNat_eq (congrArg UInt32.toNat h0))

/-- The zero bytes' register steps keep a nonzero difference nonzero. -/
theorem foldl_zero_ne {d : UInt32} (hd : d ≠ 0) (v : List UInt8) :
    v.foldl (fun r _ => crcByteStep r 0) d ≠ 0 := by
  induction v generalizing d with
  | nil => exact hd
  | cons _ v ih => exact ih (crcByteStep_zero_ne hd)

theorem foldl_crcByteStep_xor (s d : UInt32) (v : List UInt8) :
    v.foldl crcByteStep (s ^^^ d) =
      v.foldl crcByteStep s ^^^ v.foldl (fun r _ => crcByteStep r 0) d := by
  induction v generalizing s d with
  | nil => rfl
  | cons b v ih => simp only [List.foldl_cons, crcByteStep_xor, ih]

/-- **CRC-32 detects every single-byte error**: XOR-ing a nonzero value into one byte of the
data changes its CRC, from any initial value. -/
theorem crc32Update_modify_ne (c : UInt32) {data : List UInt8} {k : Nat} (hk : k < data.length)
    {e : UInt8} (he : e ≠ 0) : crc32Update c (data.modify (· ^^^ e) k) ≠ crc32Update c data := by
  have hdata : data = data.take k ++ data[k] :: data.drop (k + 1) := by
    simp
  rw [List.modify_eq_take_cons_drop hk]
  conv_rhs => rw [hdata]
  simp only [crc32Update, List.foldl_append, List.foldl_cons, crcByteStep_xor_byte,
    foldl_crcByteStep_xor]
  intro h
  exact foldl_zero_ne (crcByteStep_zero_byte_ne he) _
    (uint32_xor_eq_self (by simpa only [uint32_not_not] using congrArg (~~~·) h))

end NetNodeGateway
