import CssMinifier.Encoding.SingleByte
import CssMinifier.Encoding.Utf16
import CssMinifier.Encoding.Utf8
import Mathlib.Data.Option.Basic

/-! Re-encoding decoded texts. One byte, eight-bit and sixteen-bit encodings all decode
only what they write themselves, so a decoded text encodes to its own bytes.
-/

namespace CssMinifier.Encoding

theorem toNat_ofNat_of_valid {n : Nat} (h : n < 0xD800 ∨ 0xDFFF < n ∧ n < 0x110000)
    : (Char.ofNat n).toNat = n := by
  rw [Char.ofNat, dif_pos h]
  rfl

-----------------------------------------------------------------------------------------
-- One byte a character
-----------------------------------------------------------------------------------------

namespace SingleByte

/-- Holds for a code that writes what it reads. -/
def Faithful (code : SingleByte) : Prop :=
  ∀ b c, code.char? b = some c → code.byte? c = some b

theorem toNat_ofNat_byte (b : UInt8)
    : (Char.ofNat b.toNat).toNat = b.toNat := by
  have small := b.toNat_lt
  exact toNat_ofNat_of_valid (by omega)

theorem ascii_faithful : ascii.Faithful := by
  intro b c h
  simp only [ascii] at h ⊢
  split at h
  · next small =>
      obtain rfl := Option.some.inj h
      rw [toNat_ofNat_byte, if_pos small, UInt8.ofNat_toNat]
  · cases h

theorem latin1_faithful : latin1.Faithful := by
  intro b c h
  have small := b.toNat_lt
  obtain rfl := Option.some.inj h
  simp only [latin1, toNat_ofNat_byte]
  rw [if_pos (by omega), UInt8.ofNat_toNat]

/-- No character stands twice in the upper table, and none is one of the first 256. -/
theorem westernUpper_distinct (k : Fin 32) {c : Char}
    (h : westernUpper[k.val]? = some (some c))
    : westernUpper.findIdx? (· = some c) = some k.val ∧ 256 ≤ c.toNat := by
  have table : ∀ k : Fin 32,
      (westernUpper[k.val]?).join.all fun c =>
        westernUpper.findIdx? (· = some c) = some k.val ∧ 256 ≤ c.toNat := by
    decide +kernel
  have row := table k
  rw [h] at row
  simpa using row

theorem western_faithful : western.Faithful := by
  intro b c h
  have small := b.toNat_lt
  simp only [western] at h ⊢
  split at h
  · next upper =>
      simp only [isUpper, Bool.and_eq_true, decide_eq_true_eq] at upper
      rw [Option.join_eq_some_iff] at h
      -- A character of the table is none of the first 256, so writing asks the table for
      -- it too.
      obtain ⟨index, far⟩ := westernUpper_distinct ⟨b.toNat - 0x80, by omega⟩ h
      have place : 0x80 + (b.toNat - 0x80) = b.toNat := by omega
      rw [if_neg (by simp [far]), index, Option.map_some, place, UInt8.ofNat_toNat]
  · next lower =>
      obtain rfl := Option.some.inj h
      rw [toNat_ofNat_byte, if_pos (by simp [lower, small]), UInt8.ofNat_toNat]

/-- A decoded text encodes to its own bytes, by induction on them. -/
theorem encode?_decodeFrom {code : SingleByte} (faithful : code.Faithful) {position : Nat}
    {bytes : Bytes} {text : List Char} (h : code.decodeFrom position bytes = .ok text)
    : code.encode? text = some bytes := by
  induction bytes generalizing position text with
  | nil =>
      obtain rfl : [] = text := by simpa [decodeFrom] using h
      rfl
  | cons b rest ih =>
      rw [decodeFrom] at h
      cases meaning : code.char? b with
      | none => simp [meaning] at h
      | some c =>
          rw [meaning] at h
          cases later : code.decodeFrom (position + 1) rest with
          | error fault => simp [later, Except.map] at h
          | ok tail =>
              rw [later] at h
              obtain rfl : c :: tail = text := Except.ok.inj h
              have behind := ih later
              rw [encode?] at behind ⊢
              rw [List.mapM_cons, faithful b c meaning, behind]
              rfl

theorem encode?_isSome_iff (code : SingleByte) (text : List Char)
    : (code.encode? text).isSome = true ↔ ∀ c ∈ text, (code.byte? c).isSome = true := by
  induction text with
  | nil => simp [encode?]
  | cons c rest ih =>
      rw [encode?] at ih ⊢
      rw [List.mapM_cons, List.forall_mem_cons, ← ih]
      cases code.byte? c <;> cases rest.mapM code.byte? <;> simp

end SingleByte

-----------------------------------------------------------------------------------------
-- Sixteen-bit units
-----------------------------------------------------------------------------------------

namespace Utf16

theorem Order.unit_lt (order : Order) (a b : UInt8)
    : order.unit a b < 0x10000 := by
  have := a.toNat_lt
  have := b.toNat_lt
  cases order <;> simp only [Order.unit] <;> omega

/-- A unit is written as the two bytes that it was. -/
theorem Order.bytes_unit (order : Order) (a b : UInt8)
    : order.bytes (order.unit a b) = [a, b] := by
  have ha := a.toNat_lt
  have hb := b.toNat_lt
  have low {x y : UInt8} (h : y.toNat < 256)
      : UInt8.ofNat ((x.toNat + 256 * y.toNat) % 256) = x := by
    rw [← UInt8.toNat_inj, UInt8.toNat_ofNat']
    have := x.toNat_lt
    omega
  have high {x y : UInt8} (h : y.toNat < 256)
      : UInt8.ofNat ((x.toNat + 256 * y.toNat) / 256) = y := by
    rw [← UInt8.toNat_inj, UInt8.toNat_ofNat']
    have := x.toNat_lt
    omega
  cases order with
  | little => simp only [Order.bytes, Order.unit, low hb, high hb]
  | big =>
      simp only [Order.bytes, Order.unit, Nat.add_comm (256 * a.toNat)]
      rw [low ha, high ha]

/-- A unit that is no surrogate is the one unit of its character. -/
theorem units_ofNat {unit : Nat} (small : unit < 0x10000) (hl : isLow unit = false)
    (hh : isHigh unit = false)
    : units (Char.ofNat unit) = [unit] := by
  simp only [isLow, isHigh, Bool.and_eq_false_iff, decide_eq_false_iff_not] at hl hh
  have code : (Char.ofNat unit).toNat = unit := toNat_ofNat_of_valid (by omega)
  simp only [units, code, if_pos small]

/-- Two surrogates are the two units of their character. -/
theorem units_paired {high low : Nat} (hh : isHigh high = true) (hl : isLow low = true)
    : units (paired high low) = [high, low] := by
  simp only [isHigh, isLow, Bool.and_eq_true, decide_eq_true_eq] at hh hl
  have code
      : (paired high low).toNat = 0x10000 + (high - 0xD800) * 0x400 + (low - 0xDC00) :=
    toNat_ofNat_of_valid (by omega)
  simp only [units, code]
  rw [if_neg (by omega)]
  have first
      : 0xD800 + (0x10000 + (high - 0xD800) * 0x400 + (low - 0xDC00) - 0x10000) / 0x400
        = high := by
    omega
  have second
      : 0xDC00 + (0x10000 + (high - 0xD800) * 0x400 + (low - 0xDC00) - 0x10000) % 0x400
        = low := by
    omega
  rw [first, second]

/-- A decoded text encodes to its own bytes, along the recursion of decoding. -/
theorem encode_decodeFrom {order : Order} {position : Nat} {bytes : Bytes} {text : List Char}
    (h : decodeFrom order position bytes = .ok text)
    : encode order text = bytes := by
  fun_induction decodeFrom order position bytes generalizing text with
  | case1 =>
      obtain rfl := Except.ok.inj h
      rfl
  | case2 => cases h
  | case3 => cases h
  | case4 position a b unit low high c d more pair =>
      -- A high surrogate with its low one behind it.
      rename_i ih
      cases later : decodeFrom order (position + 4) more with
      | error fault => simp [later, Except.map] at h
      | ok tail =>
          rw [later] at h
          obtain rfl : paired unit (order.unit c d) :: tail = text := Except.ok.inj h
          have behind := ih later
          rw [encode] at behind ⊢
          rw [List.flatMap_cons, behind, units_paired high pair]
          simp [unit, Order.bytes_unit]
  | case5 => cases h
  | case6 => cases h
  | case7 position a b rest unit low high =>
      -- A unit that is no surrogate.
      rename_i ih
      cases later : decodeFrom order (position + 2) rest with
      | error fault => simp [later, Except.map] at h
      | ok tail =>
          rw [later] at h
          obtain rfl : Char.ofNat unit :: tail = text := Except.ok.inj h
          have behind := ih later
          rw [encode] at behind ⊢
          rw [List.flatMap_cons, behind,
            units_ofNat (order.unit_lt a b) (Bool.eq_false_iff.mpr low)
              (Bool.eq_false_iff.mpr high)]
          simp [Order.bytes_unit]

end Utf16

-----------------------------------------------------------------------------------------
-- One to four bytes a character
-----------------------------------------------------------------------------------------

namespace Utf8

/-- A byte that follows is in its range and adds six bits. -/
theorem continued_cons {bits low high : Nat} {more : List (Nat × Nat)} {bytes : Bytes}
    {value : Nat} (h : continued bits ((low, high) :: more) bytes = .ok value)
    : ∃ b rest,
        bytes = b :: rest
        ∧ (low ≤ b.toNat ∧ b.toNat ≤ high)
        ∧ continued (bits * 64 + (b.toNat - 0x80)) more rest = .ok value := by
  cases bytes with
  | nil => cases h
  | cons b rest =>
      rw [continued] at h
      split at h
      · next range =>
          cases later : continued (bits * 64 + (b.toNat - 0x80)) more rest with
          | ok found =>
              rw [later] at h
              exact ⟨b, rest, rfl, range, later.trans h⟩
          | error fault =>
              rw [later] at h
              cases h
      · cases h

theorem continued_nil {bits value : Nat} {bytes : Bytes}
    (h : continued bits [] bytes = .ok value)
    : value = bits := by
  cases bytes <;> exact (Except.ok.inj h).symm

theorem byte_eq {n : Nat} {b : UInt8} (h : n = b.toNat)
    : UInt8.ofNat n = b := by
  rw [h, UInt8.ofNat_toNat]

theorem encodeChar_one {b : UInt8} (hb : b.toNat < 0x80)
    : encodeChar (Char.ofNat b.toNat) = [b] := by
  have code : (Char.ofNat b.toNat).toNat = b.toNat := toNat_ofNat_of_valid (by omega)
  simp only [encodeChar, code, if_pos hb, UInt8.ofNat_toNat]

theorem encodeChar_two {b x : UInt8} (hb : 0xC2 ≤ b.toNat ∧ b.toNat < 0xE0)
    (hx : 0x80 ≤ x.toNat ∧ x.toNat ≤ 0xBF)
    : encodeChar (Char.ofNat ((b.toNat - 0xC0) * 64 + (x.toNat - 0x80))) = [b, x] := by
  -- Named, the value enters the arithmetic by its equation only.
  generalize hv : (b.toNat - 0xC0) * 64 + (x.toNat - 0x80) = value
  have code : (Char.ofNat value).toNat = value := toNat_ofNat_of_valid (by omega)
  simp only [encodeChar, code]
  rw [if_neg (by omega), if_pos (by omega), byte_eq (b := b) (by omega),
    byte_eq (b := x) (by omega)]

theorem encodeChar_three {b x y : UInt8} (hb : 0xE0 ≤ b.toNat ∧ b.toNat < 0xF0)
    (hx : 0x80 ≤ x.toNat ∧ x.toNat ≤ 0xBF) (hy : 0x80 ≤ y.toNat ∧ y.toNat ≤ 0xBF)
    (shortest : b.toNat = 0xE0 → 0xA0 ≤ x.toNat) (scalar : b.toNat = 0xED → x.toNat ≤ 0x9F)
    : encodeChar
          (Char.ofNat
            (((b.toNat - 0xE0) * 64 + (x.toNat - 0x80)) * 64 + (y.toNat - 0x80)))
      = [b, x, y] := by
  generalize hv : ((b.toNat - 0xE0) * 64 + (x.toNat - 0x80)) * 64 + (y.toNat - 0x80) = value
  have code : (Char.ofNat value).toNat = value := toNat_ofNat_of_valid (by omega)
  simp only [encodeChar, code]
  rw [if_neg (by omega), if_neg (by omega), if_pos (by omega), byte_eq (b := b) (by omega),
    byte_eq (b := x) (by omega), byte_eq (b := y) (by omega)]

theorem encodeChar_four {b x y z : UInt8} (hb : 0xF0 ≤ b.toNat ∧ b.toNat < 0xF5)
    (hx : 0x80 ≤ x.toNat ∧ x.toNat ≤ 0xBF) (hy : 0x80 ≤ y.toNat ∧ y.toNat ≤ 0xBF)
    (hz : 0x80 ≤ z.toNat ∧ z.toNat ≤ 0xBF) (shortest : b.toNat = 0xF0 → 0x90 ≤ x.toNat)
    (scalar : b.toNat = 0xF4 → x.toNat ≤ 0x8F)
    : encodeChar
          (Char.ofNat
            ((((b.toNat - 0xF0) * 64 + (x.toNat - 0x80)) * 64 + (y.toNat - 0x80)) * 64
              + (z.toNat - 0x80)))
      = [b, x, y, z] := by
  generalize hv
    : (((b.toNat - 0xF0) * 64 + (x.toNat - 0x80)) * 64 + (y.toNat - 0x80)) * 64
        + (z.toNat - 0x80)
      = value
  have code : (Char.ofNat value).toNat = value := toNat_ofNat_of_valid (by omega)
  simp only [encodeChar, code]
  rw [if_neg (by omega), if_neg (by omega), if_neg (by omega), byte_eq (b := b) (by omega),
    byte_eq (b := x) (by omega), byte_eq (b := y) (by omega), byte_eq (b := z) (by omega)]

/-- What a first byte asks for. The second byte of the longer characters is bounded
twice: it must follow, and the character must not have a shorter form, be a surrogate or
lie beyond the last one.
-/
inductive Leads (n : Nat) : Nat → List (Nat × Nat) → Prop
  | one (alone : n < 0x80) : Leads n n []
  | two (hb : 0xC2 ≤ n ∧ n < 0xE0) : Leads n (n - 0xC0) [(0x80, 0xBF)]
  | three {low high : Nat} (hb : 0xE0 ≤ n ∧ n < 0xF0)
    (second
      : ∀ x,
          low ≤ x ∧ x ≤ high
          → (0x80 ≤ x ∧ x ≤ 0xBF) ∧ (n = 0xE0 → 0xA0 ≤ x) ∧ (n = 0xED → x ≤ 0x9F))
    : Leads n (n - 0xE0) [(low, high), (0x80, 0xBF)]
  | four {low high : Nat} (hb : 0xF0 ≤ n ∧ n < 0xF5)
    (second
      : ∀ x,
          low ≤ x ∧ x ≤ high
          → (0x80 ≤ x ∧ x ≤ 0xBF) ∧ (n = 0xF0 → 0x90 ≤ x) ∧ (n = 0xF4 → x ≤ 0x8F))
    : Leads n (n - 0xF0) [(low, high), (0x80, 0xBF), (0x80, 0xBF)]

theorem range_of_second {n x least greatest lower upper : Nat} (hl : 0x80 ≤ lower)
    (hu : upper ≤ 0xBF) (hne : least ≠ greatest)
    (range
      : (if n = least then (lower, 0xBF)
          else if n = greatest then (0x80, upper) else (0x80, 0xBF)).1 ≤ x
        ∧ x
          ≤ (if n = least then (lower, 0xBF)
              else if n = greatest then (0x80, upper) else (0x80, 0xBF)).2)
    : (0x80 ≤ x ∧ x ≤ 0xBF) ∧ (n = least → lower ≤ x) ∧ (n = greatest → x ≤ upper) := by
  by_cases first : n = least
  · rw [if_pos first] at range
    simp only at range
    omega
  by_cases last : n = greatest
  · rw [if_neg first, if_pos last] at range
    simp only at range
    omega
  · rw [if_neg first, if_neg last] at range
    simp only at range
    omega

theorem leads_of_lead? {n bits : Nat} {following : List (Nat × Nat)}
    (h : lead? n = some (bits, following))
    : Leads n bits following := by
  simp only [lead?] at h
  split at h
  · next alone =>
      simp only [Option.some.injEq, Prod.mk.injEq] at h
      obtain ⟨rfl, rfl⟩ := h
      exact .one alone
  split at h
  · cases h
  split at h
  · simp only [Option.some.injEq, Prod.mk.injEq] at h
    obtain ⟨rfl, rfl⟩ := h
    exact .two (by omega)
  split at h
  · simp only [Option.some.injEq, Prod.mk.injEq] at h
    obtain ⟨rfl, rfl⟩ := h
    refine .three (by omega) fun x range => ?_
    exact range_of_second (by omega) (by omega) (by omega) range
  split at h
  · simp only [Option.some.injEq, Prod.mk.injEq] at h
    obtain ⟨rfl, rfl⟩ := h
    refine .four (by omega) fun x range => ?_
    exact range_of_second (by omega) (by omega) (by omega) range
  · cases h

/-- The bytes that a character is read from are the bytes that it is written as, by the
number of bytes that its first one asks for.
-/
theorem encodeChar_of_first {b : UInt8} {rest : Bytes} {c : Char} {more : Nat}
    (h : first b rest = .ok (c, more))
    : encodeChar c ++ rest.drop more = b :: rest := by
  rw [first] at h
  cases lead : lead? b.toNat with
  | none => simp [lead] at h
  | some start =>
      obtain ⟨bits, following⟩ := start
      simp only [lead] at h
      cases found : continued bits following rest with
      | error fault => simp [found] at h
      | ok value =>
          simp only [found, Except.ok.injEq, Prod.mk.injEq] at h
          obtain ⟨rfl, rfl⟩ := h
          cases leads_of_lead? lead with
          | one alone =>
              rw [continued_nil found, encodeChar_one alone]
              rfl
          | two hb =>
              obtain ⟨x, rest, rfl, hx, found⟩ := continued_cons found
              rw [continued_nil found, encodeChar_two hb hx]
              rfl
          | three hb second =>
              obtain ⟨x, rest, rfl, hx, found⟩ := continued_cons found
              obtain ⟨y, rest, rfl, hy, found⟩ := continued_cons found
              obtain ⟨range, shortest, scalar⟩ := second x.toNat hx
              rw [continued_nil found, encodeChar_three hb range hy shortest scalar]
              rfl
          | four hb second =>
              obtain ⟨x, rest, rfl, hx, found⟩ := continued_cons found
              obtain ⟨y, rest, rfl, hy, found⟩ := continued_cons found
              obtain ⟨z, rest, rfl, hz, found⟩ := continued_cons found
              obtain ⟨range, shortest, scalar⟩ := second x.toNat hx
              rw [continued_nil found, encodeChar_four hb range hy hz shortest scalar]
              rfl

/-- A decoded text encodes to its own bytes, along the recursion of decoding. -/
theorem encode_decodeFrom {position : Nat} {bytes : Bytes} {text : List Char}
    (h : decodeFrom position bytes = .ok text)
    : encode text = bytes := by
  fun_induction decodeFrom position bytes generalizing text with
  | case1 =>
      obtain rfl := Except.ok.inj h
      rfl
  | case2 => cases h
  | case3 => cases h
  | case4 position b rest c more start tail later ih =>
      obtain rfl := Except.ok.inj h
      have behind := ih later
      rw [encode] at behind ⊢
      rw [List.flatMap_cons, behind]
      exact encodeChar_of_first start

end Utf8

end CssMinifier.Encoding
