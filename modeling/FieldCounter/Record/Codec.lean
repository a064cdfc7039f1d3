/-!
# Byte codecs

A codec writes a value as bytes and reads one back from the front of a longer string, returning
what follows. Whole numbers are written in groups of seven bits, the lowest first, with the high
bit of every byte but the last set; signed ones are first folded onto the natural numbers. A reader
accepts a number written with needless zero groups, but no more bytes than its width calls for.
-/

namespace FieldCounter

/-- Stored bytes. -/
abbrev Bytes := List UInt8

/-- How values are written, and how one is read from the front of a byte string. -/
structure Codec (α : Type) where
  write : α → Bytes
  read : Bytes → Option (α × Bytes)

/-! ## Numbers in groups of seven bits -/

/-- Write a number in groups of seven bits, at most `more` of them before the last. -/
def writeVarint : (more : Nat) → Nat → Bytes
  | 0, n => [UInt8.ofNat n]
  | more + 1, n =>
    if n < 128 then [UInt8.ofNat n]
    else UInt8.ofNat (n % 128 + 128) :: writeVarint more (n / 128)

/-- Read a number of at most `more` groups before the last; the last possible byte is at most `top`. -/
def readVarint : (more : Nat) → (top : Nat) → Bytes → Option (Nat × Bytes)
  | _, _, [] => none
  | 0, top, byte :: rest => if byte.toNat ≤ top then some (byte.toNat, rest) else none
  | more + 1, top, byte :: rest =>
    if byte.toNat < 128 then some (byte.toNat, rest)
    else (readVarint more top rest).map fun (high, rest) => (byte.toNat - 128 + 128 * high, rest)

/-- Fold the integers onto the natural numbers, alternating the signs from zero on. -/
def foldSign (n : Int) : Nat := if 0 ≤ n then 2 * n.toNat else 2 * (-n).toNat - 1

/-- The integer that folds to `n`. -/
def unfoldSign (n : Nat) : Int := if n % 2 = 0 then (n / 2 : Nat) else -((n / 2 : Nat) + 1)

/-- An integer is found again by the number it is folded to. -/
theorem unfoldSign_foldSign (n : Int) : unfoldSign (foldSign n) = n := by
  unfold unfoldSign foldSign
  split <;> split <;> omega

/-- Every number is folded to by some integer. -/
theorem foldSign_unfoldSign (n : Nat) : foldSign (unfoldSign n) = n := by
  unfold unfoldSign foldSign
  split <;> split <;> omega

namespace Codec

variable {α β : Type}

/-- The bytes of a value, if there is room for them. -/
def writeWithin (codec : Codec α) (room : Nat) (value : α) : Option Bytes :=
  let bytes := codec.write value
  if bytes.length ≤ room then some bytes else none

/-- The same bytes for another type of value. -/
def convert (codec : Codec α) (wrap : α → β) (unwrap : β → α) : Codec β where
  write := fun b => codec.write (unwrap b)
  read := fun bytes => (codec.read bytes).map fun (a, rest) => (wrap a, rest)

/-- One value after the other. -/
def both (first : Codec α) (second : Codec β) : Codec (α × β) where
  write := fun (a, b) => first.write a ++ second.write b
  read := fun bytes => do
    let (a, rest) ← first.read bytes
    let (b, rest) ← second.read rest
    return ((a, b), rest)

/-- One byte. -/
def byte : Codec UInt8 where
  write := fun b => [b]
  read
    | [] => none
    | b :: rest => some (b, rest)

/-- One byte, read as a signed number. -/
def signedByte : Codec Int8 := byte.convert UInt8.toInt8 Int8.toUInt8

/-- A truth value as a byte that is zero or one; no other byte is read as one. -/
def flag : Codec Bool where
  write := fun b => [if b then 1 else 0]
  read
    | 0 :: rest => some (false, rest)
    | 1 :: rest => some (true, rest)
    | _ => none

/-- A flag that says whether a value follows. -/
def optional (codec : Codec α) : Codec (Option α) where
  write
    | none => flag.write false
    | some a => flag.write true ++ codec.write a
  read := fun bytes => do
    let (present, rest) ← flag.read bytes
    if present then
      let (a, rest) ← codec.read rest
      return (some a, rest)
    else return (none, rest)

/-- A number of at most 16 bits. -/
def halfword : Codec UInt16 where
  write := fun n => writeVarint 2 n.toNat
  read := fun bytes => (readVarint 2 3 bytes).map fun (n, rest) => (UInt16.ofNat n, rest)

/-- A number of at most 32 bits. -/
def word : Codec UInt32 where
  write := fun n => writeVarint 4 n.toNat
  read := fun bytes => (readVarint 4 15 bytes).map fun (n, rest) => (UInt32.ofNat n, rest)

/-- A signed number of at most 16 bits. -/
def signedHalfword : Codec Int16 :=
  halfword.convert (fun n => Int16.ofInt (unfoldSign n.toNat)) (fun n => UInt16.ofNat (foldSign n.toInt))

/-- One of the listed values, by its place in the list. -/
def choice [BEq α] (values : List α) : Codec α where
  write := fun a => word.write (UInt32.ofNat (values.idxOf a))
  read := fun bytes => do
    let (index, rest) ← word.read bytes
    let a ← values[index.toNat]?
    return (a, rest)

end Codec

end FieldCounter
