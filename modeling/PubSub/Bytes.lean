/-!
# Numbers in byte strings

Fixed-width numbers, most significant byte first, as record headers and datagrams carry them.

* `Bytes.span`: how many numbers some bytes can hold.
* `Bytes.digits`, `Bytes.value`: the base-256 digits of a number and the number that digits stand for.
* `Bytes.numberAt`: the number that a stretch of a byte string holds.

Results:

* `Bytes.length_digits`: a number written in `width` bytes has `width` bytes.
* `Bytes.value_digits`: reading back what was written gives the number modulo `span width`.
-/

namespace PubSub.Bytes

/-- How many numbers `width` bytes can hold. -/
def span : Nat → Nat
  | 0 => 1
  | width + 1 => 256 * span width

/-- The low `width` base-256 digits of `n`, most significant first. -/
def digits : Nat → Nat → List UInt8
  | 0, _ => []
  | width + 1, n => digits width (n / 256) ++ [UInt8.ofNat (n % 256)]

/-- The number whose base-256 digits are `bs`, most significant first. -/
def value (bs : List UInt8) : Nat :=
  bs.foldl (fun v b => v * 256 + b.toNat) 0

theorem value_append_singleton (bs : List UInt8) (b : UInt8) :
    value (bs ++ [b]) = value bs * 256 + b.toNat := by
  simp [value]

theorem length_digits (width n : Nat) : (digits width n).length = width := by
  induction width generalizing n with
  | zero => rfl
  | succ w ih => simp [digits, ih]

theorem value_digits (width n : Nat) : value (digits width n) = n % span width := by
  induction width generalizing n with
  | zero => simp [digits, value, span, Nat.mod_one]
  | succ w ih =>
    rw [digits, value_append_singleton, ih]
    have hb : (UInt8.ofNat (n % 256)).toNat = n % 256 := by
      simp [UInt8.toNat_ofNat']
    rw [hb, span, Nat.mod_mul]
    omega

/-- The digits of `n` as a byte string. -/
def ofNat (width n : Nat) : ByteArray :=
  (digits width n).toByteArray

/-- The bytes of `b` from `pos` on, `width` of them where there are as many. -/
def listAt (b : ByteArray) (pos width : Nat) : List UInt8 :=
  (b.extract pos (pos + width)).data.toList

/-- The number held by the `width` bytes of `b` from `pos` on. -/
def numberAt (b : ByteArray) (pos width : Nat) : Nat :=
  value (listAt b pos width)

/-- The word held by the two bytes at `pos`. -/
def word16At (b : ByteArray) (pos : Nat) : UInt16 := UInt16.ofNat (numberAt b pos 2)

/-- The word held by the four bytes at `pos`. -/
def word32At (b : ByteArray) (pos : Nat) : UInt32 := UInt32.ofNat (numberAt b pos 4)

/-- The word held by the eight bytes at `pos`. -/
def word64At (b : ByteArray) (pos : Nat) : UInt64 := UInt64.ofNat (numberAt b pos 8)

/-- `n` copies of the byte `b`. -/
def replicate (n : Nat) (b : UInt8) : ByteArray :=
  n.fold (fun _ _ acc => acc.push b) (ByteArray.emptyWithCapacity n)

end PubSub.Bytes
