import LegLink.Bytes

/- Everything goes through the value as a number, in which the bytes are digits to the base 256. -/

set_option autoImplicit false

namespace LegLink.Bytes

theorem to_nat_word (lo hi : UInt8) : (word lo hi).toNat = lo.toNat + 256 * hi.toNat := by
  have lower := lo.toNat_lt
  have upper := hi.toNat_lt
  have digits := Nat.two_pow_add_eq_or_of_lt (i := 8) lower hi.toNat
  have fits : hi.toNat * 256 < 65536 := by omega
  simp only [word, UInt16.toNat_or, UInt8.toNat_toUInt16, UInt16.toNat_shiftLeft,
    UInt16.reduceToNat, Nat.reduceMod, Nat.shiftLeft_eq, Nat.reducePow, Nat.mod_eq_of_lt fits]
  rw [Nat.or_comm, Nat.mul_comm hi.toNat, ← digits]
  omega

theorem word_of_word (w : UInt16) : word w.toUInt8 (w >>> 8).toUInt8 = w := by
  apply UInt16.toNat_inj.mp
  have bound := w.toNat_lt
  simp only [to_nat_word, UInt16.toNat_toUInt8, UInt16.toNat_shiftRight, UInt16.reduceToNat,
    Nat.reduceMod, Nat.shiftRight_eq_div_pow]
  omega

theorem of_word_word (lo hi : UInt8) : ofWord (word lo hi) = [lo, hi] := by
  have lower := lo.toNat_lt
  have upper := hi.toNat_lt
  simp only [ofWord, List.cons.injEq, and_true, ← UInt8.toNat_inj, UInt16.toNat_toUInt8,
    UInt16.toNat_shiftRight, to_nat_word, UInt16.reduceToNat, Nat.reduceMod,
    Nat.shiftRight_eq_div_pow]
  omega

theorem to_nat_long (a b c d : UInt8) :
    (long a b c d).toNat = a.toNat + 256 * b.toNat + 65536 * c.toNat + 16777216 * d.toNat := by
  have first := a.toNat_lt
  have second := b.toNat_lt
  have third := c.toNat_lt
  have fourth := d.toNat_lt
  have two := Nat.two_pow_add_eq_or_of_lt (i := 8) first b.toNat
  have three := Nat.two_pow_add_eq_or_of_lt (i := 16) (b := 2 ^ 8 * b.toNat + a.toNat)
    (by omega) c.toNat
  have four := Nat.two_pow_add_eq_or_of_lt (i := 24)
    (b := 2 ^ 16 * c.toNat + (2 ^ 8 * b.toNat + a.toNat)) (by omega) d.toNat
  simp only [long, UInt32.toNat_or, UInt8.toNat_toUInt32, UInt32.toNat_shiftLeft,
    UInt32.reduceToNat, Nat.reduceMod, Nat.shiftLeft_eq]
  rw [Nat.mod_eq_of_lt (by omega : b.toNat * 2 ^ 8 < 2 ^ 32),
    Nat.mod_eq_of_lt (by omega : c.toNat * 2 ^ 16 < 2 ^ 32),
    Nat.mod_eq_of_lt (by omega : d.toNat * 2 ^ 24 < 2 ^ 32),
    Nat.mul_comm b.toNat, Nat.mul_comm c.toNat, Nat.mul_comm d.toNat,
    Nat.or_comm a.toNat, ← two, Nat.or_comm _ (2 ^ 16 * c.toNat), ← three,
    Nat.or_comm _ (2 ^ 24 * d.toNat), ← four]
  omega

theorem long_of_long (w : UInt32) :
    long w.toUInt8 (w >>> 8).toUInt8 (w >>> 16).toUInt8 (w >>> 24).toUInt8 = w := by
  apply UInt32.toNat_inj.mp
  have bound := w.toNat_lt
  simp only [to_nat_long, UInt32.toNat_toUInt8, UInt32.toNat_shiftRight, UInt32.reduceToNat,
    Nat.reduceMod, Nat.shiftRight_eq_div_pow]
  omega

theorem of_long_long (a b c d : UInt8) : ofLong (long a b c d) = [a, b, c, d] := by
  have first := a.toNat_lt
  have second := b.toNat_lt
  have third := c.toNat_lt
  have fourth := d.toNat_lt
  simp only [ofLong, List.cons.injEq, and_true, ← UInt8.toNat_inj, UInt32.toNat_toUInt8,
    UInt32.toNat_shiftRight, to_nat_long, UInt32.reduceToNat, Nat.reduceMod,
    Nat.shiftRight_eq_div_pow]
  omega

end LegLink.Bytes
