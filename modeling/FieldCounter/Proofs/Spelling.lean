import Mathlib.Computability.Language
import FieldCounter.Proofs.Codec

/-!
# The spellings of values

A spelling of a value is a byte string that stands for it. Which strings do so is said here without a reader: a
number is spelled in groups of seven bits, the lowest first, with as many needless zero groups as its width has
room for; a choice is spelled as the number of its place; everything else has one spelling. The spellings of a
value are a language, and those of several values in a row are the product of their languages. A codec is exact
when it finds at the front of a string what a spelling there stands for and nothing else, and when no spelling is
shorter than what it writes. An exact codec cannot be misled by a string that was cut short.
-/

namespace FieldCounter

namespace Spelling

variable {more top n : Nat}

/-! ## Numbers in groups of seven bits -/

/-- Bytes that can be a number: each one but the last has the high bit set, at most `more` of them come before the
last, and a last one with that many before it is at most `top`. -/
structure InGroups (more top : Nat) (groups : Bytes) (last : UInt8) : Prop where
  high_bit : ∀ group ∈ groups, 128 ≤ group.toNat
  last_lt : last.toNat < 128
  length_le : groups.length ≤ more
  last_le : groups.length = more → last.toNat ≤ top

/-- The number that groups of seven bits stand for, the lowest group first. -/
def groupsValue (bytes : Bytes) : Nat := bytes.foldr (fun byte high => byte.toNat % 128 + 128 * high) 0

/-- The spellings of a number. -/
def number (more top n : Nat) : Language UInt8 :=
  {bytes | ∃ groups last, InGroups more top groups last ∧ bytes = groups ++ [last] ∧ groupsValue bytes = n}

/-- No number is spelled by no bytes. -/
theorem nil_notMem_number : [] ∉ number more top n := by
  rintro ⟨groups, last, _, hbytes, _⟩
  exact List.append_ne_nil_of_right_ne_nil groups (List.cons_ne_nil last []) hbytes.symm

/-- With no room for more groups a number is one byte. -/
theorem mem_number_zero_iff (htop : top < 128) {form : Bytes} :
    form ∈ number 0 top n ↔ ∃ byte : UInt8, form = [byte] ∧ byte.toNat ≤ top ∧ byte.toNat = n := by
  constructor
  · rintro ⟨groups, last, hgroups, rfl, hvalue⟩
    obtain rfl : groups = [] := List.length_eq_zero_iff.mp (Nat.le_zero.mp hgroups.length_le)
    have hlast := hgroups.last_lt
    refine ⟨last, rfl, hgroups.last_le rfl, ?_⟩
    simp only [groupsValue, List.nil_append, List.foldr_cons, List.foldr_nil] at hvalue
    omega
  · rintro ⟨byte, rfl, hbyte, hvalue⟩
    refine ⟨[], byte, ⟨nofun, by omega, Nat.le_refl 0, fun _ => hbyte⟩, rfl, ?_⟩
    simp only [groupsValue, List.foldr_cons, List.foldr_nil]
    omega

/-- With room for more, the first byte is the last one as well, or a group with a number after it. -/
theorem cons_mem_number_iff {byte : UInt8} {form : Bytes} :
    byte :: form ∈ number (more + 1) top n ↔
      (byte.toNat < 128 ∧ form = [] ∧ byte.toNat = n) ∨
        128 ≤ byte.toNat ∧ ∃ high, form ∈ number more top high ∧ byte.toNat - 128 + 128 * high = n := by
  constructor
  · rintro ⟨groups, last, hgroups, hbytes, hvalue⟩
    cases groups with
    | nil =>
      obtain ⟨rfl, rfl⟩ := List.cons.inj hbytes
      have hlast := hgroups.last_lt
      simp only [groupsValue, List.foldr_cons, List.foldr_nil] at hvalue
      exact .inl ⟨hlast, rfl, by omega⟩
    | cons group groups =>
      obtain ⟨rfl, rfl⟩ := List.cons.inj hbytes
      obtain ⟨hfirst, hothers⟩ := List.forall_mem_cons.mp hgroups.high_bit
      have hrest : InGroups more top groups last :=
        ⟨hothers, hgroups.last_lt, Nat.le_of_succ_le_succ hgroups.length_le,
          fun hlength => hgroups.last_le (congrArg Nat.succ hlength)⟩
      have hbyte := byte.toNat_lt
      refine .inr ⟨hfirst, groupsValue (groups ++ [last]), ⟨groups, last, hrest, rfl, rfl⟩, ?_⟩
      have hsum : byte.toNat % 128 + 128 * groupsValue (groups ++ [last]) = n := hvalue
      omega
  · rintro (⟨hbyte, rfl, rfl⟩ | ⟨hbyte, high, ⟨groups, last, hgroups, rfl, rfl⟩, rfl⟩)
    · refine ⟨[], byte, ⟨nofun, hbyte, Nat.zero_le _, nofun⟩, rfl, ?_⟩
      simp only [groupsValue, List.foldr_cons, List.foldr_nil]
      omega
    · have hmore : InGroups (more + 1) top (byte :: groups) last :=
        ⟨List.forall_mem_cons.mpr ⟨hbyte, hgroups.high_bit⟩, hgroups.last_lt,
          Nat.succ_le_succ hgroups.length_le, fun hlength => hgroups.last_le (Nat.succ.inj hlength)⟩
      have hlt := byte.toNat_lt
      refine ⟨byte :: groups, last, hmore, rfl, ?_⟩
      simp only [groupsValue, List.foldr_cons]
      omega

/-- A number is within its room. -/
theorem lt_varintRoom (htop : top < 128) {form : Bytes} (h : form ∈ number more top n) : n < varintRoom more top := by
  induction more generalizing n form with
  | zero =>
    obtain ⟨byte, _, hbyte, rfl⟩ := (mem_number_zero_iff htop).mp h
    exact Nat.lt_succ_of_le hbyte
  | succ more ih =>
    cases form with
    | nil => exact absurd h nil_notMem_number
    | cons byte form =>
      have hroom : 0 < varintRoom more top := by
        clear ih h
        induction more with
        | zero => exact Nat.succ_pos top
        | succ more ih => exact Nat.mul_pos (by decide) ih
      rcases cons_mem_number_iff.mp h with ⟨hbyte, _, rfl⟩ | ⟨_, high, hform, rfl⟩
      · simp only [varintRoom]
        omega
      · have hhigh := ih hform
        have hbyte := byte.toNat_lt
        simp only [varintRoom]
        omega

/-- No spelling of a number is shorter than what is written. -/
theorem length_writeVarint_le_length (htop : top < 128) {form : Bytes} (h : form ∈ number more top n) :
    (writeVarint more n).length ≤ form.length := by
  induction more generalizing n form with
  | zero =>
    obtain ⟨byte, rfl, _, _⟩ := (mem_number_zero_iff htop).mp h
    exact Nat.le_refl 1
  | succ more ih =>
    cases form with
    | nil => exact absurd h nil_notMem_number
    | cons byte form =>
      unfold writeVarint
      split
      · exact Nat.succ_le_succ (Nat.zero_le form.length)
      · rename_i hlarge
        rcases cons_mem_number_iff.mp h with ⟨hbyte, _, rfl⟩ | ⟨_, high, hform, rfl⟩
        · exact absurd hbyte hlarge
        · have hbyte := byte.toNat_lt
          have hhigh : (byte.toNat - 128 + 128 * high) / 128 = high := by omega
          rw [hhigh]
          exact Nat.succ_le_succ (ih hform)

/-- Of a string the reader takes the spelling of a number in front, and leaves the rest. -/
theorem readVarint_eq_some_iff (htop : top < 128) {bytes rest : Bytes} :
    readVarint more top bytes = some (n, rest) ↔ ∃ form ∈ number more top n, form ++ rest = bytes := by
  induction more generalizing n bytes with
  | zero =>
    cases bytes with
    | nil =>
      constructor
      · intro hread
        cases hread
      · rintro ⟨form, hform, hsplit⟩
        rw [(List.append_eq_nil_iff.mp hsplit).1] at hform
        exact absurd hform nil_notMem_number
    | cons byte tail =>
      simp only [readVarint]
      constructor
      · intro hread
        split at hread
        · rename_i hbyte
          cases hread
          exact ⟨[byte], (mem_number_zero_iff htop).mpr ⟨byte, rfl, hbyte, rfl⟩, rfl⟩
        · cases hread
      · rintro ⟨form, hform, hsplit⟩
        obtain ⟨first, rfl, hfirst, rfl⟩ := (mem_number_zero_iff htop).mp hform
        obtain ⟨rfl, rfl⟩ := List.cons.inj hsplit
        exact if_pos hfirst
  | succ more ih =>
    cases bytes with
    | nil =>
      constructor
      · intro hread
        cases hread
      · rintro ⟨form, hform, hsplit⟩
        rw [(List.append_eq_nil_iff.mp hsplit).1] at hform
        exact absurd hform nil_notMem_number
    | cons byte tail =>
      simp only [readVarint]
      constructor
      · intro hread
        split at hread
        · rename_i hbyte
          cases hread
          exact ⟨[byte], cons_mem_number_iff.mpr (.inl ⟨hbyte, rfl, rfl⟩), rfl⟩
        · rename_i hbyte
          obtain ⟨⟨high, left⟩, hhigh, hresult⟩ := Option.map_eq_some_iff.mp hread
          obtain ⟨rfl, rfl⟩ := Prod.mk.inj hresult
          obtain ⟨form, hform, rfl⟩ := ih.mp hhigh
          exact ⟨byte :: form, cons_mem_number_iff.mpr (.inr ⟨Nat.le_of_not_lt hbyte, high, hform, rfl⟩), rfl⟩
      · rintro ⟨form, hform, hsplit⟩
        cases form with
        | nil => exact absurd hform nil_notMem_number
        | cons first form =>
          obtain ⟨rfl, rfl⟩ := List.cons.inj hsplit
          rcases cons_mem_number_iff.mp hform with ⟨hbyte, rfl, rfl⟩ | ⟨hbyte, high, hhigh, rfl⟩
          · exact if_pos hbyte
          · have hread := ih.mpr ⟨form, hhigh, rfl⟩
            rw [if_neg (Nat.not_lt.mpr hbyte)]
            exact Option.map_eq_some_iff.mpr ⟨_, hread, rfl⟩

/-! ## Values of every kind -/

/-- A number of at most 16 bits. -/
def halfword (n : UInt16) : Language UInt8 := number 2 3 n.toNat

/-- A number of at most 32 bits. -/
def word (n : UInt32) : Language UInt8 := number 4 15 n.toNat

/-- A signed number of at most 16 bits, folded onto the natural numbers. -/
def signedHalfword (n : Int16) : Language UInt8 := halfword (UInt16.ofNat (foldSign n.toInt))

/-- One byte. -/
def byte (b : UInt8) : Language UInt8 := {[b]}

/-- One byte that is a signed number. -/
def signedByte (n : Int8) : Language UInt8 := byte n.toUInt8

/-- A byte that is zero or one. -/
def flag (b : Bool) : Language UInt8 := {[if b then 1 else 0]}

/-- A byte is spelled by itself. -/
theorem mem_byte_iff {b : UInt8} {form : Bytes} : form ∈ byte b ↔ form = [b] := Iff.rfl

/-- A truth value is spelled by the byte that is written for it. -/
theorem mem_flag_iff {b : Bool} {form : Bytes} : form ∈ flag b ↔ form = [if b then 1 else 0] := Iff.rfl

/-- A flag, and after a true one the value. -/
def optional {α : Type} (spellings : α → Language UInt8) : Option α → Language UInt8
  | none => flag false
  | some a => flag true * spellings a

/-- The number of its place in the list. -/
def choice {α : Type} (values : List α) (a : α) : Language UInt8 :=
  {bytes | ∃ place : UInt32, values[place.toNat]? = some a ∧ bytes ∈ word place}

end Spelling

namespace Codec

variable {α β : Type} {codec : Codec α} {spellings : α → Language UInt8}

/-- The codec finds at the front of a string the value that a spelling there stands for, and no other; and no
spelling is shorter than what it writes. -/
structure Exact (codec : Codec α) (spellings : α → Language UInt8) : Prop where
  read_iff : ∀ {bytes a rest}, codec.read bytes = some (a, rest) ↔ ∃ form ∈ spellings a, form ++ rest = bytes
  length_write_le : ∀ {a form}, form ∈ spellings a → (codec.write a).length ≤ form.length

/-- More bytes after what was read make no difference to it. -/
theorem Exact.read_append {bytes rest : Bytes} {a : α} (h : codec.Exact spellings)
    (hread : codec.read bytes = some (a, rest)) (more : Bytes) :
    codec.read (bytes ++ more) = some (a, rest ++ more) := by
  obtain ⟨form, hform, rfl⟩ := h.read_iff.mp hread
  exact h.read_iff.mpr ⟨form, hform, (List.append_assoc ..).symm⟩

/-! ## Codecs built from others -/

/-- A codec for another type is as exact. -/
theorem Exact.convert (h : codec.Exact spellings) {wrap : α → β} {unwrap : β → α} (hwrap : ∀ b, wrap (unwrap b) = b)
    (hunwrap : ∀ a, unwrap (wrap a) = a) : (codec.convert wrap unwrap).Exact fun b => spellings (unwrap b) where
  read_iff := by
    intro bytes b rest
    rw [← h.read_iff]
    simp only [Codec.convert, Option.map_eq_some_iff, Prod.exists, Prod.mk.injEq]
    constructor
    · rintro ⟨a, left, hread, rfl, rfl⟩
      rwa [hunwrap]
    · exact fun hread => ⟨unwrap b, rest, hread, hwrap b, rfl⟩
  length_write_le := h.length_write_le

/-- Two exact codecs, one after the other, are exact. -/
theorem Exact.both {first : Codec α} {second : Codec β} {firsts : α → Language UInt8} {seconds : β → Language UInt8}
    (hfirst : first.Exact firsts) (hsecond : second.Exact seconds) :
    (first.both second).Exact fun pair => firsts pair.1 * seconds pair.2 where
  read_iff := by
    rintro bytes ⟨a, b⟩ rest
    have hread : (first.both second).read bytes = some ((a, b), rest) ↔
        ∃ left, first.read bytes = some (a, left) ∧ second.read left = some (b, rest) := by
      simp [Codec.both, Option.bind_eq_some_iff]
    simp only [hread, hfirst.read_iff, hsecond.read_iff, Language.mem_mul]
    constructor
    · rintro ⟨_, ⟨form, hform, rfl⟩, after, hafter, rfl⟩
      exact ⟨form ++ after, ⟨form, hform, after, hafter, rfl⟩, List.append_assoc ..⟩
    · rintro ⟨_, ⟨form, hform, after, hafter, rfl⟩, rfl⟩
      exact ⟨after ++ rest, ⟨form, hform, (List.append_assoc ..).symm⟩, after, hafter, rfl⟩
  length_write_le := by
    rintro ⟨a, b⟩ _ ⟨form, hform, after, hafter, rfl⟩
    simp only [Codec.both, List.length_append]
    exact Nat.add_le_add (hfirst.length_write_le hform) (hsecond.length_write_le hafter)

/-! ## Basic codecs -/

/-- A byte is read as itself. -/
theorem exact_byte : byte.Exact Spelling.byte where
  read_iff := by
    intro bytes b rest
    simp only [Spelling.mem_byte_iff, exists_eq_left]
    cases bytes with
    | nil => simp [byte]
    | cons first tail => simp [byte, eq_comm]
  length_write_le := by
    rintro b _ rfl
    exact Nat.le_refl 1

/-- A signed byte is read as itself. -/
theorem exact_signedByte : signedByte.Exact Spelling.signedByte :=
  exact_byte.convert (fun _ => rfl) (fun _ => rfl)

/-- A truth value is read from zero and one only. -/
theorem exact_flag : flag.Exact Spelling.flag where
  read_iff := by
    intro bytes b rest
    simp only [Spelling.mem_flag_iff, exists_eq_left]
    cases bytes with
    | nil => simp [flag]
    | cons first tail =>
      by_cases hzero : first = 0
      · subst hzero
        cases b <;> simp [flag, eq_comm]
      · by_cases hone : first = 1
        · subst hone
          cases b <;> simp [flag, eq_comm]
        · cases b <;> simp [flag, Ne.symm hzero, Ne.symm hone, hzero, hone]
  length_write_le := by
    rintro b _ rfl
    exact Nat.le_refl 1

/-- An optional value is read as exactly as the value itself. -/
theorem Exact.optional (h : codec.Exact spellings) : codec.optional.Exact (Spelling.optional spellings) where
  read_iff := by
    intro bytes value rest
    cases value with
    | none =>
      have hread : codec.optional.read bytes = some (none, rest) ↔ flag.read bytes = some (false, rest) := by
        simp [Codec.optional, Option.bind_eq_some_iff]
      exact hread.trans exact_flag.read_iff
    | some a =>
      have hread : codec.optional.read bytes = some (some a, rest) ↔
          (flag.both codec).read bytes = some ((true, a), rest) := by
        simp [Codec.optional, Codec.both, Option.bind_eq_some_iff]
      exact hread.trans (exact_flag.both h).read_iff
  length_write_le := by
    intro value form hform
    cases value with
    | none => exact exact_flag.length_write_le hform
    | some a => exact (exact_flag.both h).length_write_le (a := (true, a)) hform

/-- A number of 16 bits is read from its spellings only. -/
theorem exact_halfword : halfword.Exact Spelling.halfword where
  read_iff := by
    intro bytes n rest
    rw [Spelling.halfword, ← Spelling.readVarint_eq_some_iff (by decide)]
    simp only [halfword, Option.map_eq_some_iff, Prod.exists, Prod.mk.injEq]
    constructor
    · rintro ⟨value, left, hread, rfl, rfl⟩
      obtain ⟨form, hform, _⟩ := (Spelling.readVarint_eq_some_iff (by decide)).mp hread
      have hlt : value < 65536 := Spelling.lt_varintRoom (by decide) hform
      rwa [UInt16.toNat_ofNat', Nat.mod_eq_of_lt hlt]
    · exact fun hread => ⟨n.toNat, rest, hread, UInt16.ofNat_toNat, rfl⟩
  length_write_le := Spelling.length_writeVarint_le_length (by decide)

/-- A number of 32 bits is read from its spellings only. -/
theorem exact_word : word.Exact Spelling.word where
  read_iff := by
    intro bytes n rest
    rw [Spelling.word, ← Spelling.readVarint_eq_some_iff (by decide)]
    simp only [word, Option.map_eq_some_iff, Prod.exists, Prod.mk.injEq]
    constructor
    · rintro ⟨value, left, hread, rfl, rfl⟩
      obtain ⟨form, hform, _⟩ := (Spelling.readVarint_eq_some_iff (by decide)).mp hread
      have hlt : value < 4294967296 := Spelling.lt_varintRoom (by decide) hform
      rwa [UInt32.toNat_ofNat', Nat.mod_eq_of_lt hlt]
    · exact fun hread => ⟨n.toNat, rest, hread, UInt32.ofNat_toNat, rfl⟩
  length_write_le := Spelling.length_writeVarint_le_length (by decide)

/-- A number that is unfolded to a signed one stays within 16 bits. -/
theorem toInt_ofInt_unfoldSign (n : UInt16) : (Int16.ofInt (unfoldSign n.toNat)).toInt = unfoldSign n.toNat := by
  have hn := n.toNat_lt
  refine Int16.toInt_ofInt_of_le ?_ ?_
  · unfold unfoldSign
    split <;> omega
  · unfold unfoldSign
    split <;> omega

/-- A signed number of 16 bits is read from the spellings of what it is folded to. -/
theorem exact_signedHalfword : signedHalfword.Exact Spelling.signedHalfword := by
  refine exact_halfword.convert (fun n => ?_) fun n => ?_
  · have hfold : (UInt16.ofNat (foldSign n.toInt)).toNat = foldSign n.toInt := by
      rw [UInt16.toNat_ofNat']
      exact Nat.mod_eq_of_lt (foldSign_toInt_lt n)
    rw [hfold, unfoldSign_foldSign, Int16.ofInt_toInt]
  · rw [toInt_ofInt_unfoldSign, foldSign_unfoldSign, UInt16.ofNat_toNat]

/-- A choice is exact where no value is listed twice. -/
theorem exact_choice [BEq α] [LawfulBEq α] {values : List α} (hnodup : values.Nodup) :
    (choice values).Exact (Spelling.choice values) where
  read_iff := by
    intro bytes a rest
    have hread : (choice values).read bytes = some (a, rest) ↔
        ∃ place, word.read bytes = some (place, rest) ∧ values[place.toNat]? = some a := by
      simp [choice, Option.bind_eq_some_iff, and_comm]
    simp only [hread, exact_word.read_iff, Spelling.choice]
    constructor
    · rintro ⟨place, ⟨form, hform, rfl⟩, hplace⟩
      exact ⟨form, ⟨place, hplace, hform⟩, rfl⟩
    · rintro ⟨form, ⟨place, hplace, hform⟩, rfl⟩
      exact ⟨place, ⟨form, hform, rfl⟩, hplace⟩
  length_write_le := by
    rintro a form ⟨place, hplace, hform⟩
    obtain ⟨hlt, rfl⟩ := List.getElem?_eq_some_iff.mp hplace
    have hwritten : UInt32.ofNat (values.idxOf values[place.toNat]) = place := by
      rw [hnodup.idxOf_getElem, UInt32.ofNat_toNat]
    simp only [choice, hwritten]
    exact exact_word.length_write_le hform

end Codec

end FieldCounter
