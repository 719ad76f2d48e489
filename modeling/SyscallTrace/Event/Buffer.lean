import SyscallTrace.Schema.FieldType

/-!
# Captured buffers and decoding errors

String-like arguments are captured as fixed buffers of `bufferSize` bytes. A buffer is shown
either as a C string, up to its first NUL byte, or, for a syscall whose return value counts
the bytes it transferred, as that many bytes; a return value that is not positive shows
nothing.

A recorded event fails to decode when its buffer is shorter than the common header, or when
what follows the header is shorter than the payload of the event it names. Asking an event for
an argument fails when it has no argument at that index, or when it exposes none.

## Results

* `cString_idem`: cutting at the first NUL twice is cutting once.
* `cString_append_nul`: bytes free of NUL followed by a NUL read back as those bytes,
  whatever follows.
* `ensurePayload_eq_ok_iff`: a payload passes exactly when it holds the expected bytes.
* `retBounded_retBounded`: two cuts by return values are one cut by the smaller.
-/

set_option autoImplicit false

namespace SyscallTrace.Event

/-- Why a buffer does not decode. -/
inductive DecodeError where
  /-- The buffer, of `len` bytes, is shorter than the common header. -/
  | truncatedHeader (len : Nat)
  /-- The payload of `event` holds `actual` bytes where `expected` are needed. -/
  | truncatedPayload (event : String) (expected actual : Nat)
  deriving DecidableEq, Repr

/-- The text of a decoding error. -/
def DecodeError.message : DecodeError → String
  | .truncatedHeader len =>
    "buffer of " ++ toString len ++ " bytes is too short for the common event header"
  | .truncatedPayload event expected actual =>
    event ++ " needs " ++ toString expected ++ " bytes of payload, got " ++ toString actual

/-- Why an argument cannot be shown. -/
inductive ArgError where
  /-- `event` has no argument `index`. -/
  | outOfRange (event : String) (index : Nat)
  /-- `event` exposes no arguments. -/
  | unsupported (event : String)
  deriving DecidableEq, Repr

/-- The text of an argument error. -/
def ArgError.message : ArgError → String
  | .outOfRange event index => event ++ " has no argument " ++ toString index
  | .unsupported event => event ++ " does not expose its arguments"

/-- The bytes before the first NUL, or all of them. -/
def cString (buf : List UInt8) : List UInt8 :=
  buf.takeWhile (· != 0)

/-- How many bytes a return value says are valid: none if it is not positive. -/
def retLength (ret : Int64) : Nat :=
  ret.toInt.toNat

/-- The bytes a read or write transferred, by its return value. -/
def retBounded (buf : List UInt8) (ret : Int64) : List UInt8 :=
  buf.take (retLength ret)

/-- A captured buffer off the front of a payload, and the bytes after it. -/
def takeBuffer (payload : List UInt8) : List UInt8 × List UInt8 :=
  (payload.take Schema.bufferSize, payload.drop Schema.bufferSize)

/-- Fails unless `payload` holds at least `expected` bytes for `event`. -/
def ensurePayload (event : String) (payload : List UInt8) (expected : Nat) :
    Except DecodeError Unit :=
  if payload.length < expected then .error (.truncatedPayload event expected payload.length)
  else .ok ()

theorem cString_idem (buf : List UInt8) : cString (cString buf) = cString buf := by
  unfold cString
  induction buf with
  | nil => rfl
  | cons b bs ih =>
    by_cases h : (b != 0) = true
    · simp only [List.takeWhile_cons, h, if_true]
      exact congrArg (b :: ·) ih
    · simp [h]

theorem cString_append_nul (b rest : List UInt8) (h : ∀ x ∈ b, x ≠ 0) :
    cString (b ++ 0 :: rest) = b := by
  unfold cString
  induction b with
  | nil => rfl
  | cons y ys ih =>
    have hy : (y != 0) = true := bne_iff_ne.mpr (h y (List.mem_cons_self ..))
    have hys : ∀ x ∈ ys, x ≠ 0 := fun x hx => h x (List.mem_cons_of_mem y hx)
    rw [List.cons_append, List.takeWhile_cons, if_pos hy, ih hys]

theorem ensurePayload_eq_ok_iff (event : String) (payload : List UInt8) (expected : Nat) :
    ensurePayload event payload expected = .ok () ↔ expected ≤ payload.length := by
  unfold ensurePayload
  by_cases h : payload.length < expected
  · simp only [if_pos h, reduceCtorEq, false_iff]
    omega
  · simp only [if_neg h, true_iff]
    omega

theorem retBounded_retBounded (buf : List UInt8) (r s : Int64) :
    retBounded (retBounded buf r) s = buf.take (min (retLength s) (retLength r)) := by
  simp [retBounded, List.take_take]

end SyscallTrace.Event
