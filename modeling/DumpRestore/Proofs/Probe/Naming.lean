/-
This file proves that the names of throwaway tables are short enough for a server and tell the
probes apart. A name ends in a random number and a digest, with no mark between the two. The digest
always has thirty-two digits, so that it can be cut off, and the number is what stands in front of
it behind the last underscore, however much of the prefix the name has room for.
-/

import DumpRestore.Probe.Columns

namespace DumpRestore

/-! ### Digits -/

namespace Text

theorem ofNat_injective : Function.Injective ofNat := by
  intro first second same
  have read := congrArg (fun digits => Nat.ofDigitChars 10 digits 0) same
  simpa only [ofNat, Nat.ofDigitChars_ten_toDigits] using read

theorem isDigit_of_mem_ofNat (number : Nat) (digit : Char) (member : digit ∈ ofNat number) :
    digit.isDigit = true :=
  Nat.isDigit_of_mem_toDigits (by decide) (by decide) member

/-- The digits of a number stand in front of a mark when they are read backwards. -/
theorem takeWhile_isDigit_reverse (before : Text) (mark : Char) (number : Nat)
    (noDigit : mark.isDigit = false) :
    (before ++ mark :: ofNat number).reverse.takeWhile Char.isDigit = (ofNat number).reverse := by
  have digits : ∀ digit ∈ (ofNat number).reverse, digit.isDigit = true := fun digit member =>
    isDigit_of_mem_ofNat number digit (List.mem_reverse.mp member)
  rw [List.reverse_append, List.reverse_cons, List.append_assoc,
    List.takeWhile_append_of_pos digits, List.singleton_append, List.takeWhile_cons_of_neg,
    List.append_nil]
  rw [noDigit]
  exact Bool.false_ne_true

/-- A byte is written with two digits. -/
theorem length_hexadecimal (number : Nat) (fits : number < 256) :
    (hexadecimal 2 number).length = 2 := by
  have short : (Nat.toDigits 16 number).length ≤ 2 :=
    (Nat.length_toDigits_le_iff (by decide) (by decide)).mpr fits
  rw [hexadecimal, List.length_append, List.length_replicate]
  omega

end Text

namespace Digest

theorem length_littleEndian (count number : Nat) : (littleEndian count number).length = count := by
  induction count generalizing number with
  | zero => rfl
  | succ count inductionHypothesis => rw [littleEndian, List.length_cons, inductionHypothesis]

theorem length_md5 (message : List UInt8) : (md5 message).length = 16 := by
  simp only [md5, List.flatMap_cons, List.flatMap_nil, List.length_append, List.length_nil,
    length_littleEndian]

theorem length_md5Text (message : List UInt8) : (md5Text message).length = 32 := by
  have twoDigits (byte : UInt8) : (Text.hexadecimal 2 byte.toNat).length = 2 :=
    Text.length_hexadecimal byte.toNat byte.toNat_lt
  rw [md5Text, List.length_flatMap, funext twoDigits, List.map_const', List.sum_replicate_nat,
    length_md5]

end Digest

/-! ### Names -/

namespace Inspector

section Names

variable (tablePrefix : Text) (random : Int) (clock : Text)

theorem tableSuffix_eq : tableSuffix random clock =
    "mrk_tmp_" ++ Text.ofInt random ++ Digest.md5Text (Text.toUtf8 clock) := rfl

theorem length_tableSuffix :
    (tableSuffix random clock).length = 40 + (Text.ofInt random).length := by
  have label : ("mrk_tmp_" : Text).length = 8 := rfl
  rw [tableSuffix_eq, List.length_append, List.length_append, Digest.length_md5Text, label]
  omega

variable (low : 0 ≤ random) (high : random ≤ 9999999)

include low high

/-- There is always room for the suffix, so that the bound for the prefix is not negative. -/
theorem length_tableSuffix_le : (tableSuffix random clock).length ≤ 47 := by
  obtain ⟨number, rfl⟩ := Int.eq_ofNat_of_zero_le low
  have digits : (Text.ofNat number).length ≤ 7 :=
    (Nat.length_toDigits_le_iff (by decide) (by decide)).mpr (by omega)
  rw [length_tableSuffix]
  exact Nat.add_le_add_left digits 40

/-- The name is as much of the prefix as there is room for, and the suffix. -/
theorem tableName_eq : tableName tablePrefix random clock =
    tablePrefix.take (64 - (tableSuffix random clock).length) ++ tableSuffix random clock := by
  have room := length_tableSuffix_le random clock low high
  have bound : Int.ofNat Identifier.maxLength - (tableSuffix random clock).length =
      ((64 - (tableSuffix random clock).length : Nat) : Int) := by
    rw [Identifier.maxLength, Int.ofNat_eq_natCast]
    omega
  rw [tableName, Identifier.cut, Text.cut, bound, if_pos (Int.natCast_nonneg _), Int.toNat_natCast]

end Names

/-- A name tells its number and its digest: the digest is the last thirty-two digits, and the number
is what stands between the last underscore and the digest. -/
theorem eq_of_append_tableSuffix (front back : Text) (first second : Nat)
    (firstClock secondClock : Text)
    (same : front ++ tableSuffix first firstClock = back ++ tableSuffix second secondClock) :
    first = second ∧
      Digest.md5Text (Text.toUtf8 firstClock) = Digest.md5Text (Text.toUtf8 secondClock) := by
  have digests := (Digest.length_md5Text (Text.toUtf8 firstClock)).trans
    (Digest.length_md5Text (Text.toUtf8 secondClock)).symm
  have split (before : Text) (number : Nat) (clock : Text) : before ++ tableSuffix number clock =
      before ++ "mrk_tmp" ++ '_' :: Text.ofNat number ++ Digest.md5Text (Text.toUtf8 clock) := by
    have label : ("mrk_tmp_" : Text) = "mrk_tmp" ++ ['_'] := rfl
    rw [tableSuffix_eq, label]
    simp only [List.append_assoc, List.cons_append, List.nil_append]
    rfl
  rw [split, split] at same
  obtain ⟨numbered, digest⟩ := List.append_inj' same digests
  have digits := congrArg (fun text => (text.reverse.takeWhile Char.isDigit).reverse) numbered
  simp only [Text.takeWhile_isDigit_reverse _ '_' _ rfl, List.reverse_reverse] at digits
  exact ⟨Text.ofNat_injective digits, digest⟩

/-- For every prefix, every random number that is drawn and every time, the name of a throwaway
table has at most sixty-four characters. It ends in the whole suffix, for which the bound of the
prefix is never negative, and starts with the longest piece of the prefix that leaves room for the
suffix. Two names with one prefix are equal only where the numbers and the digests are. -/
theorem tableName_keeps_suffix (tablePrefix : Text) (random : Int) (clock : Text)
    (low : 0 ≤ random) (high : random ≤ 9999999) :
    0 ≤ Int.ofNat Identifier.maxLength - (tableSuffix random clock).length ∧
      (tableName tablePrefix random clock).length ≤ 64 ∧
      (∃ front, tableName tablePrefix random clock =
          front ++ ("mrk_tmp_" ++ Text.ofInt random ++ Digest.md5Text (Text.toUtf8 clock)) ∧
        front <+: tablePrefix ∧
        ∀ other, other <+: tablePrefix → other.length + (tableSuffix random clock).length ≤ 64 →
          other <+: front) ∧
      ∀ (other : Int) (otherClock : Text), 0 ≤ other → other ≤ 9999999 →
        (tableName tablePrefix random clock = tableName tablePrefix other otherClock ↔
          random = other ∧
            Digest.md5Text (Text.toUtf8 clock) = Digest.md5Text (Text.toUtf8 otherClock)) := by
  have room := length_tableSuffix_le random clock low high
  have named := tableName_eq tablePrefix random clock low high
  refine ⟨?_, ?_, ⟨_, named, List.take_prefix _ _, fun other starts fits => ?_⟩,
    fun other otherClock otherLow otherHigh => ⟨fun same => ?_, ?_⟩⟩
  · rw [Identifier.maxLength, Int.ofNat_eq_natCast]
    omega
  · rw [named, List.length_append, List.length_take]
    omega
  · exact List.prefix_take_iff.mpr ⟨starts, Nat.le_sub_of_add_le fits⟩
  · rw [named, tableName_eq tablePrefix other otherClock otherLow otherHigh] at same
    obtain ⟨number, rfl⟩ := Int.eq_ofNat_of_zero_le low
    obtain ⟨otherNumber, rfl⟩ := Int.eq_ofNat_of_zero_le otherLow
    obtain ⟨rfl, digest⟩ := eq_of_append_tableSuffix _ _ _ _ _ _ same
    exact ⟨rfl, digest⟩
  · rintro ⟨rfl, digest⟩
    have sameSuffix : tableSuffix random clock = tableSuffix random otherClock :=
      congrArg ("mrk_tmp_" ++ Text.ofInt random ++ ·) digest
    rw [named, tableName_eq tablePrefix random otherClock low high, sameSuffix]

/-- A prefix of seventy characters is cut, and two numbers of which one starts with the other give
two names. -/
theorem tableName_keeps_suffix_seventy :
    (tableName (List.replicate 70 'w') 12 "1700000000.5").length ≤ 64 ∧
      (∃ front, tableName (List.replicate 70 'w') 12 "1700000000.5" = front ++
          ("mrk_tmp_" ++ Text.ofInt 12 ++ Digest.md5Text (Text.toUtf8 "1700000000.5")) ∧
        front <+: List.replicate 70 'w') ∧
      tableName (List.replicate 70 'w') 12 "1700000000.5" ≠
        tableName (List.replicate 70 'w') 1 "1700000000.5" := by
  obtain ⟨_, short, ⟨front, named, starts, _⟩, exactly⟩ :=
    tableName_keeps_suffix (List.replicate 70 'w') 12 "1700000000.5" (by decide) (by decide)
  refine ⟨short, ⟨front, named, starts⟩, fun same => ?_⟩
  have numbers := ((exactly 1 "1700000000.5" (by decide) (by decide)).mp same).1
  exact absurd numbers (by decide)

end Inspector

end DumpRestore
