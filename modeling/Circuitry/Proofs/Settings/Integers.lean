import Mathlib
import Circuitry.Settings.Json.Decode

/-!
# Integer settings from text keep their low bits

Default tags, environment variables and the values of a text table all set a field through
`Kind.ofText`. For an integer field, the text is read as a decimal integer within 64 bits, and
the field then keeps its low bits: a signed field the value in its range that agrees with the
integer modulo `2 ^ width` (two's complement), an unsigned field the remainder.

Main statement, `Kind.ofText_integer_low_bits`: setting an integer field from text fails exactly
when the text is no decimal integer within 64 bits; otherwise the field holds the one value of its
range that agrees with the integer modulo `2 ^ width`, which is the integer itself exactly when the
integer lies in that range, the range the JSON reader (`fitsSigned`) checks. An integer outside the
range is not refused but wraps: `200` sets a field of 8 signed bits to `-56`
(`int8_text_200_wraps`).
-/

namespace Circuitry

theorem Settings.IntSize.bits_pos (size : Settings.IntSize) : 0 < size.bits := by
  cases size <;> decide

namespace Number

/-! ### Wrapping to a width -/

theorem wrapSigned_emod (bits : Nat) (i : Int) : wrapSigned bits i % 2 ^ bits = i % 2 ^ bits := by
  have modulus : ((Nat.pow 2 bits : Nat) : Int) = 2 ^ bits := by
    rw [Nat.pow_eq, Int.natCast_pow]
    rfl
  rw [wrapSigned, ← modulus, Int.bmod_emod]

theorem fitsSigned_iff (bits : Nat) (i : Int) :
    Settings.fitsSigned bits i = true ↔ -(2 ^ (bits - 1) : Int) ≤ i ∧ i < 2 ^ (bits - 1) := by
  simp only [Settings.fitsSigned, Bool.and_eq_true, decide_eq_true_eq]
  exact Iff.rfl

theorem two_pow_eq_twice {bits : Nat} (positive : 0 < bits) :
    ((Nat.pow 2 bits : Nat) : Int) = 2 * 2 ^ (bits - 1) := by
  obtain ⟨k, rfl⟩ : ∃ k, bits = k + 1 := ⟨bits - 1, by omega⟩
  rw [Nat.pow_eq, Nat.add_sub_cancel, Nat.pow_succ, Int.natCast_mul, Int.natCast_pow, Int.mul_comm]
  rfl

theorem fitsSigned_wrapSigned {bits : Nat} (positive : 0 < bits) (i : Int) :
    Settings.fitsSigned bits (wrapSigned bits i) = true := by
  have width : (0 : Nat) < Nat.pow 2 bits := Nat.two_pow_pos bits
  have low := Int.le_bmod (x := i) width
  have high := Int.bmod_lt (x := i) width
  rw [fitsSigned_iff, wrapSigned]
  have twice := two_pow_eq_twice positive
  omega

theorem wrapSigned_eq_self_iff {bits : Nat} (positive : 0 < bits) (i : Int) :
    wrapSigned bits i = i ↔ Settings.fitsSigned bits i = true := by
  constructor
  · intro kept
    rw [← kept]
    exact fitsSigned_wrapSigned positive i
  · intro fits
    rw [fitsSigned_iff] at fits
    have twice := two_pow_eq_twice positive
    exact Int.bmod_eq_of_le_mul_two (by omega) (by omega)

theorem wrapUnsigned_mod (bits n : Nat) : wrapUnsigned bits n % 2 ^ bits = n % 2 ^ bits :=
  Nat.mod_mod n _

theorem wrapUnsigned_lt (bits n : Nat) : wrapUnsigned bits n < 2 ^ bits :=
  Nat.mod_lt n (Nat.two_pow_pos bits)

theorem wrapUnsigned_eq_self_iff (bits n : Nat) : wrapUnsigned bits n = n ↔ n < 2 ^ bits :=
  Nat.mod_eq_iff_lt (Nat.pos_iff_ne_zero.mp (Nat.two_pow_pos bits))

end Number

namespace Settings

/-! ### Setting an integer field from text -/

/-- Setting an integer field from text fails exactly when the text is no decimal integer within
64 bits. Otherwise the field holds the one value of its range that agrees with the integer modulo
`2 ^ width`: for a signed field a value that `fitsSigned` accepts, for an unsigned one a value
below `2 ^ width`. That value is the integer itself exactly when the integer lies in the range,
and otherwise its low bits: a text outside the range is never refused. -/
theorem Kind.ofText_integer_low_bits (size : IntSize) (s : String) :
    ((∃ issue, Kind.ofText (.signed size) s = .error issue) ↔ Number.readSigned s = none) ∧
    (∀ i, Number.readSigned s = some i → ∃ w, Kind.ofText (.signed size) s = .ok (.signed w) ∧
      w % 2 ^ size.bits = i % 2 ^ size.bits ∧ fitsSigned size.bits w = true ∧
      (w = i ↔ fitsSigned size.bits i = true)) ∧
    ((∃ issue, Kind.ofText (.unsigned size) s = .error issue) ↔ Number.readUnsigned s = none) ∧
    (∀ n, Number.readUnsigned s = some n → ∃ w, Kind.ofText (.unsigned size) s = .ok (.unsigned w) ∧
      w % 2 ^ size.bits = n % 2 ^ size.bits ∧ w < 2 ^ size.bits ∧ (w = n ↔ n < 2 ^ size.bits)) := by
  refine ⟨?_, fun i read => ?_, ?_, fun n read => ?_⟩
  · cases read : Number.readSigned s <;> simp [Kind.ofText, read]
  · refine ⟨Number.wrapSigned size.bits i, by simp [Kind.ofText, read], Number.wrapSigned_emod _ i,
      Number.fitsSigned_wrapSigned size.bits_pos i, Number.wrapSigned_eq_self_iff size.bits_pos i⟩
  · cases read : Number.readUnsigned s <;> simp [Kind.ofText, read]
  · exact ⟨Number.wrapUnsigned size.bits n, by simp [Kind.ofText, read], Number.wrapUnsigned_mod _ n,
      Number.wrapUnsigned_lt _ n, Number.wrapUnsigned_eq_self_iff _ n⟩

/-- The text `200` read for a field of 8 signed bits: it is a decimal integer within 64 bits,
outside the field's range, and the field holds `-56`. -/
theorem int8_text_200_wraps :
    Number.readSigned "200" = some 200 ∧ fitsSigned 8 200 = false ∧
      Kind.ofText (.signed .bits8) "200" = .ok (.signed (-56)) := by
  have read : Number.readSigned "200" = some 200 := by decide
  obtain ⟨w, set, agrees, fits, -⟩ := (Kind.ofText_integer_low_bits .bits8 "200").2.1 200 read
  have bits : IntSize.bits .bits8 = 8 := rfl
  rw [bits] at agrees fits
  rw [Number.fitsSigned_iff] at fits
  have held : w = -56 := by omega
  exact ⟨read, by decide, held ▸ set⟩

end Settings

end Circuitry
