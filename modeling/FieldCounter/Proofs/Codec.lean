import FieldCounter.Record.Codec

/-!
# Codecs lose nothing

A codec is faithful with a width when every value is read back from what was written, whatever
follows, and no value takes more bytes than the width. The basic codecs are faithful and so are the
codecs built from faithful ones, which gives the faithfulness of a record from its list of fields.
-/

namespace FieldCounter

/-! ## Numbers in groups of seven bits -/

/-- A small number is the byte it is written as. -/
theorem toNat_ofNat_byte {n : Nat} (h : n < 256) : (UInt8.ofNat n).toNat = n := by
  rw [UInt8.toNat_ofNat']
  omega

/-- How many numbers there are with at most so many groups after the first, of which the last one
stays within the top. -/
def varintRoom : Nat → Nat → Nat
  | 0, top => top + 1
  | more + 1, top => 128 * varintRoom more top

/-- A number of at most so many groups is read back, and what follows is left alone. -/
theorem readVarint_writeVarint {more top n : Nat} (htop : top < 128) (h : n < varintRoom more top)
    (rest : Bytes) : readVarint more top (writeVarint more n ++ rest) = some (n, rest) := by
  induction more generalizing n with
  | zero =>
    have hn : n ≤ top := Nat.le_of_lt_succ h
    have hbyte : (UInt8.ofNat n).toNat = n := toNat_ofNat_byte (by omega)
    simp [writeVarint, readVarint, hbyte, hn]
  | succ more ih =>
    by_cases hsmall : n < 128
    · have hbyte : (UInt8.ofNat n).toNat = n := toNat_ofNat_byte (by omega)
      simp [writeVarint, readVarint, hbyte, hsmall]
    · have hbyte : (UInt8.ofNat (n % 128 + 128)).toNat = n % 128 + 128 := toNat_ofNat_byte (by omega)
      have hhigh : n / 128 < varintRoom more top := Nat.div_lt_of_lt_mul h
      have hlarge : ¬n % 128 + 128 < 128 := by omega
      simp only [writeVarint, readVarint, if_neg hsmall, List.cons_append, hbyte, if_neg hlarge, ih hhigh,
        Option.map_some, Option.some.injEq, Prod.mk.injEq, and_true]
      omega

/-- A number takes no more bytes than it has groups. -/
theorem length_writeVarint_le (more n : Nat) : (writeVarint more n).length ≤ more + 1 := by
  induction more generalizing n with
  | zero => exact Nat.le_refl _
  | succ more ih =>
    unfold writeVarint
    split
    · simp
    · exact Nat.succ_le_succ (ih _)

namespace Codec

variable {α β : Type} {codec : Codec α} {width : Nat}

/-- Every value is read back from its bytes, of which there are at most `width`. -/
structure Faithful (codec : Codec α) (width : Nat) : Prop where
  read_write : ∀ a rest, codec.read (codec.write a ++ rest) = some (a, rest)
  length_write_le : ∀ a, (codec.write a).length ≤ width

/-! ## Codecs built from others -/

/-- A value that another type stands for without loss is stored as faithfully. -/
theorem Faithful.convert (h : codec.Faithful width) {wrap : α → β} {unwrap : β → α}
    (hwrap : ∀ b, wrap (unwrap b) = b) : (codec.convert wrap unwrap).Faithful width where
  read_write := by
    intro b rest
    simp only [Codec.convert, h.read_write, Option.map_some, hwrap]
  length_write_le := fun b => h.length_write_le (unwrap b)

/-- Two values are stored one after the other. -/
theorem Faithful.both {first : Codec α} {second : Codec β} {m n : Nat} (hfirst : first.Faithful m)
    (hsecond : second.Faithful n) : (first.both second).Faithful (m + n) where
  read_write := by
    rintro ⟨a, b⟩ rest
    simp only [Codec.both, List.append_assoc]
    rw [hfirst.read_write]
    simp only [Option.bind_eq_bind, Option.bind_some]
    rw [hsecond.read_write]
    rfl
  length_write_le := by
    rintro ⟨a, b⟩
    have ha := hfirst.length_write_le a
    have hb := hsecond.length_write_le b
    simp only [Codec.both, List.length_append]
    omega

/-! ## Basic codecs -/

/-- A byte is stored as itself. -/
theorem faithful_byte : byte.Faithful 1 where
  read_write := fun _ _ => rfl
  length_write_le := fun _ => Nat.le_refl 1

/-- A signed byte takes one byte. -/
theorem faithful_signedByte : signedByte.Faithful 1 := faithful_byte.convert fun _ => rfl

/-- A flag takes one byte. -/
theorem faithful_flag : flag.Faithful 1 where
  read_write := by
    intro b rest
    cases b <;> rfl
  length_write_le := fun _ => Nat.le_refl 1

/-- The flag in front takes one byte more. -/
theorem Faithful.optional (h : codec.Faithful width) : (optional codec).Faithful (1 + width) where
  read_write := by
    intro value rest
    cases value with
    | none => rfl
    | some a =>
      simp only [Codec.optional, List.append_assoc]
      rw [faithful_flag.read_write]
      simp only [Option.bind_eq_bind, Option.bind_some, if_true]
      rw [h.read_write]
      rfl
  length_write_le := by
    intro value
    cases value with
    | none => exact Nat.le_add_right 1 width
    | some a =>
      have ha := h.length_write_le a
      simp only [Codec.optional, flag, List.length_append, List.length_singleton]
      omega

/-- A number of 16 bits takes three bytes at most. -/
theorem faithful_halfword : halfword.Faithful 3 where
  read_write := by
    intro n rest
    have hn : n.toNat < varintRoom 2 3 := n.toNat_lt
    simp only [halfword, readVarint_writeVarint (by decide) hn, Option.map_some, UInt16.ofNat_toNat]
  length_write_le := fun n => length_writeVarint_le 2 n.toNat

/-- A number of 32 bits takes five bytes at most. -/
theorem faithful_word : word.Faithful 5 where
  read_write := by
    intro n rest
    have hn : n.toNat < varintRoom 4 15 := n.toNat_lt
    simp only [word, readVarint_writeVarint (by decide) hn, Option.map_some, UInt32.ofNat_toNat]
  length_write_le := fun n => length_writeVarint_le 4 n.toNat

/-- A folded number of 16 bits fits into as many bits. -/
theorem foldSign_toInt_lt (n : Int16) : foldSign n.toInt < 65536 := by
  have hlow := n.le_toInt
  have hhigh := n.toInt_lt
  unfold foldSign
  split <;> omega

/-- A signed number of 16 bits takes three bytes at most. -/
theorem faithful_signedHalfword : signedHalfword.Faithful 3 := by
  refine faithful_halfword.convert fun n => ?_
  have hfold : (UInt16.ofNat (foldSign n.toInt)).toNat = foldSign n.toInt := by
    rw [UInt16.toNat_ofNat']
    exact Nat.mod_eq_of_lt (foldSign_toInt_lt n)
  rw [hfold, unfoldSign_foldSign, Int16.ofInt_toInt]

/-- A choice is stored faithfully where every value is listed. -/
theorem faithful_choice [BEq α] [LawfulBEq α] {values : List α} (hall : ∀ a, a ∈ values)
    (hlength : values.length < 4294967296) : (choice values).Faithful 5 where
  read_write := by
    intro a rest
    have hindex : values.idxOf a < values.length := List.idxOf_lt_length_of_mem (hall a)
    have hword : (UInt32.ofNat (values.idxOf a)).toNat = values.idxOf a := by
      rw [UInt32.toNat_ofNat']
      exact Nat.mod_eq_of_lt (by omega)
    simp only [choice, faithful_word.read_write, Option.bind_eq_bind, Option.bind_some, hword]
    rw [List.getElem?_eq_getElem hindex, List.getElem_idxOf hindex]
    rfl
  length_write_le := fun a => faithful_word.length_write_le _

end Codec

end FieldCounter
