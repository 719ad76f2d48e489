/-!
# Little-endian words

Records are written in the byte order of the machine that runs the probe, which is little
endian: a `w`-byte word is stored least significant byte first. Words are read off the front
of a byte list; a read past the end sees zero bytes, which the callers rule out by checking
sizes first.

## Results

* `decode_encode`: reading back `w` written bytes gives the number modulo `Nat.pow 256 w`.
* `length_encode`: a `w`-byte word takes `w` bytes.
* `takeWord_append`: a word read off the front of `encode w n ++ rest` leaves `rest`.
* `takeU64_append`, `takeI64_append`: a 64-bit word written and read back is unchanged.
-/

set_option autoImplicit false

namespace SyscallTrace.Bytes

/-- The `width` low bytes of `n`, least significant first. -/
def encode : Nat → Nat → List UInt8
  | 0, _ => []
  | w + 1, n => (n % 256).toUInt8 :: encode w (n / 256)

/-- The number whose little-endian bytes are `bs`. -/
def decode : List UInt8 → Nat
  | [] => 0
  | b :: bs => b.toNat + 256 * decode bs

/-- A `width`-byte word off the front of `bs`, and the bytes after it. -/
def takeWord (width : Nat) (bs : List UInt8) : Nat × List UInt8 :=
  (decode (bs.take width), bs.drop width)

theorem length_encode (w n : Nat) : (encode w n).length = w := by
  induction w generalizing n with
  | zero => rfl
  | succ w ih => simp [encode, ih]

theorem decode_encode (w n : Nat) : decode (encode w n) = n % Nat.pow 256 w := by
  induction w generalizing n with
  | zero =>
    show 0 = n % 1
    rw [Nat.mod_one]
  | succ w ih =>
    rw [encode, decode, ih]
    have h : ((n % 256).toUInt8).toNat = n % 256 := by
      rw [Nat.toUInt8_eq, UInt8.toNat_ofNat', Nat.mod_mod]
    have hp : Nat.pow 256 (w + 1) = 256 * Nat.pow 256 w := Nat.mul_comm (Nat.pow 256 w) 256
    rw [h, hp, Nat.mod_mul]

theorem takeWord_append (w n : Nat) (rest : List UInt8) :
    takeWord w (encode w n ++ rest) = (n % Nat.pow 256 w, rest) := by
  rw [takeWord, List.take_left' (length_encode w n), List.drop_left' (length_encode w n),
    decode_encode]

/-- The bytes of a 16-bit word. -/
def u16 (v : UInt16) : List UInt8 := encode 2 v.toNat

/-- The bytes of a 32-bit word. -/
def u32 (v : UInt32) : List UInt8 := encode 4 v.toNat

/-- The bytes of a 64-bit word. -/
def u64 (v : UInt64) : List UInt8 := encode 8 v.toNat

/-- The bytes of a signed 32-bit word, in two's complement. -/
def i32 (v : Int32) : List UInt8 := u32 v.toUInt32

/-- The bytes of a signed 64-bit word, in two's complement. -/
def i64 (v : Int64) : List UInt8 := u64 v.toUInt64

/-- A 16-bit word off the front. -/
def takeU16 (bs : List UInt8) : UInt16 × List UInt8 :=
  let (n, rest) := takeWord 2 bs
  (n.toUInt16, rest)

/-- A 32-bit word off the front. -/
def takeU32 (bs : List UInt8) : UInt32 × List UInt8 :=
  let (n, rest) := takeWord 4 bs
  (n.toUInt32, rest)

/-- A 64-bit word off the front. -/
def takeU64 (bs : List UInt8) : UInt64 × List UInt8 :=
  let (n, rest) := takeWord 8 bs
  (n.toUInt64, rest)

/-- A signed 32-bit word off the front. -/
def takeI32 (bs : List UInt8) : Int32 × List UInt8 :=
  let (n, rest) := takeU32 bs
  (n.toInt32, rest)

/-- A signed 64-bit word off the front. -/
def takeI64 (bs : List UInt8) : Int64 × List UInt8 :=
  let (n, rest) := takeU64 bs
  (n.toInt64, rest)

theorem takeU64_append (v : UInt64) (rest : List UInt8) :
    takeU64 (u64 v ++ rest) = (v, rest) := by
  have hv : v.toNat % Nat.pow 256 8 = v.toNat := Nat.mod_eq_of_lt v.toNat_lt
  simp only [takeU64, u64, takeWord_append, hv, UInt64.ofNat_toNat]

theorem takeI64_append (v : Int64) (rest : List UInt8) :
    takeI64 (i64 v ++ rest) = (v, rest) := by
  simp only [takeI64, i64, takeU64_append, Int64.toInt64_toUInt64]

example : u32 0x01020304 = [4, 3, 2, 1] := by decide

end SyscallTrace.Bytes
