import CssMinifier.Encoding
import CssMinifier.Proofs.Encoding.Codec

/-! Decoding encoded texts. Every codec reads back what it writes: the bytes of a character
give that character, whatever stands behind them, and a mark that was written is taken off
again. A file gives the text with its line ends made uniform.
-/

namespace CssMinifier.Encoding

theorem toNat_valid (c : Char)
    : c.toNat < 0xD800 ∨ 0xDFFF < c.toNat ∧ c.toNat < 0x110000 :=
  c.valid

-- The bound is a numeral here, so that `omega` sees it.
theorem toNat_ofNat_of_lt {n : Nat} (h : n < 256)
    : (UInt8.ofNat n).toNat = n :=
  UInt8.toNat_ofNat_of_lt' h

-----------------------------------------------------------------------------------------
-- One byte a character
-----------------------------------------------------------------------------------------

namespace SingleByte

/-- Holds for a code that reads what it writes. -/
def Legible (code : SingleByte) : Prop :=
  ∀ c b, code.byte? c = some b → code.char? b = some c

theorem ascii_legible : ascii.Legible := by
  intro c b h
  simp only [ascii] at h ⊢
  split at h
  · next small =>
      obtain rfl := Option.some.inj h
      rw [toNat_ofNat_of_lt (by omega), if_pos small, Char.ofNat_toNat]
  · cases h

theorem latin1_legible : latin1.Legible := by
  intro c b h
  simp only [latin1] at h ⊢
  split at h
  · next small =>
      obtain rfl := Option.some.inj h
      rw [toNat_ofNat_of_lt small, Char.ofNat_toNat]
  · cases h

theorem western_legible : western.Legible := by
  intro c b h
  simp only [western] at h ⊢
  split at h
  · next lower =>
      simp only [Bool.and_eq_true, decide_eq_true_eq, Bool.not_eq_true'] at lower
      obtain rfl := Option.some.inj h
      rw [toNat_ofNat_of_lt lower.1, if_neg (by simp [lower.2]), Char.ofNat_toNat]
  · obtain ⟨index, found, rfl⟩ := Option.map_eq_some_iff.mp h
    obtain ⟨bound, holds, _⟩ := List.findIdx?_eq_some_iff_getElem.mp found
    have small : index < 32 := bound
    have row : westernUpper[index] = some c := of_decide_eq_true holds
    -- A row of the table is one of the codes that the table fills.
    have upper : isUpper (0x80 + index) = true := by
      simp only [isUpper, Bool.and_eq_true, decide_eq_true_eq]
      omega
    rw [toNat_ofNat_of_lt (by omega), if_pos upper, Nat.add_sub_cancel_left,
      List.getElem?_eq_getElem bound]
    exact row

theorem encode?_cons {code : SingleByte} {c : Char} {rest : List Char} {bytes : Bytes}
    (h : code.encode? (c :: rest) = some bytes)
    : ∃ b tail, code.byte? c = some b ∧ code.encode? rest = some tail ∧ b :: tail = bytes := by
  rw [encode?, List.mapM_cons] at h
  cases written : code.byte? c with
  | none => simp [written] at h
  | some b =>
      cases behind : rest.mapM code.byte? with
      | none => simp [written, behind] at h
      | some tail => exact ⟨b, tail, rfl, behind, by simpa [written, behind] using h⟩

/-- An encoded text is read back, by induction on it. -/
theorem decodeFrom_encode? {code : SingleByte} (legible : code.Legible) (position : Nat)
    {text : List Char} {bytes : Bytes} (h : code.encode? text = some bytes)
    : code.decodeFrom position bytes = .ok text := by
  induction text generalizing position bytes with
  | nil =>
      obtain rfl : [] = bytes := by simpa [encode?] using h
      rfl
  | cons c rest ih =>
      obtain ⟨b, tail, written, behind, rfl⟩ := encode?_cons h
      rw [decodeFrom, legible c b written, ih (position + 1) behind]
      rfl

end SingleByte

-----------------------------------------------------------------------------------------
-- Sixteen-bit units
-----------------------------------------------------------------------------------------

namespace Utf16

theorem Order.unit_bytes (order : Order) {unit : Nat} (small : unit < 0x10000)
    : ∃ a b, order.bytes unit = [a, b] ∧ order.unit a b = unit := by
  have low := toNat_ofNat_of_lt (Nat.mod_lt unit (by omega : 256 > 0))
  have high := toNat_ofNat_of_lt (by omega : unit / 256 < 256)
  cases order with
  | little => exact ⟨_, _, rfl, by simp only [Order.unit, low, high]; omega⟩
  | big => exact ⟨_, _, rfl, by simp only [Order.unit, low, high]; omega⟩

/-- How a character is spelled in units: as itself, or as a high and a low surrogate. -/
inductive Spelled : Char → List Nat → Prop
  | single {c : Char} (notHigh : isHigh c.toNat = false) (notLow : isLow c.toNat = false)
    (small : c.toNat < 0x10000)
    : Spelled c [c.toNat]
  | pair {high low : Nat} (hh : isHigh high = true) (hl : isLow low = true)
    : Spelled (paired high low) [high, low]

theorem spelled_units (c : Char)
    : Spelled c (units c) := by
  have valid := toNat_valid c
  by_cases small : c.toNat < 0x10000
  · simp only [units, if_pos small]
    refine .single ?_ ?_ small
    · simp only [isHigh, Bool.and_eq_false_iff, decide_eq_false_iff_not]
      omega
    · simp only [isLow, Bool.and_eq_false_iff, decide_eq_false_iff_not]
      omega
  · simp only [units, if_neg small]
    generalize hh : 0xD800 + (c.toNat - 0x10000) / 0x400 = high
    generalize hl : 0xDC00 + (c.toNat - 0x10000) % 0x400 = low
    have value : 0x10000 + (high - 0xD800) * 0x400 + (low - 0xDC00) = c.toNat := by omega
    have same : paired high low = c := by rw [paired, value, Char.ofNat_toNat]
    rw [← same]
    refine .pair ?_ ?_
    · simp only [isHigh, Bool.and_eq_true, decide_eq_true_eq]
      omega
    · simp only [isLow, Bool.and_eq_true, decide_eq_true_eq]
      omega

theorem not_isLow_of_isHigh {unit : Nat} (h : isHigh unit = true)
    : isLow unit = false := by
  simp only [isHigh, Bool.and_eq_true, decide_eq_true_eq] at h
  simp only [isLow, Bool.and_eq_false_iff, decide_eq_false_iff_not]
  omega

theorem lt_of_isHigh {unit : Nat} (h : isHigh unit = true)
    : unit < 0x10000 := by
  simp only [isHigh, Bool.and_eq_true, decide_eq_true_eq] at h
  omega

theorem lt_of_isLow {unit : Nat} (h : isLow unit = true)
    : unit < 0x10000 := by
  simp only [isLow, Bool.and_eq_true, decide_eq_true_eq] at h
  omega

theorem decodeFrom_unit {order : Order} {a b : UInt8} (notHigh : isHigh (order.unit a b) = false)
    (notLow : isLow (order.unit a b) = false) (position : Nat) (rest : Bytes)
    : decodeFrom order position (a :: b :: rest)
      = (decodeFrom order (position + 2) rest).map (Char.ofNat (order.unit a b) :: ·) := by
  rw [decodeFrom.eq_def]
  simp only [notHigh, notLow]
  rfl

theorem decodeFrom_pair {order : Order} {a b c d : UInt8}
    (high : isHigh (order.unit a b) = true) (low : isLow (order.unit c d) = true)
    (position : Nat) (rest : Bytes)
    : decodeFrom order position (a :: b :: c :: d :: rest)
      = (decodeFrom order (position + 4) rest).map
          (paired (order.unit a b) (order.unit c d) :: ·) := by
  rw [decodeFrom.eq_def]
  simp only [high, low, not_isLow_of_isHigh high]
  rfl

/-- An encoded text is read back, by induction on it. -/
theorem decodeFrom_encode (order : Order) (position : Nat) (text : List Char)
    : decodeFrom order position (encode order text) = .ok text := by
  induction text generalizing position with
  | nil => rfl
  | cons c rest ih =>
      rw [encode] at ih ⊢
      rw [List.flatMap_cons]
      have spelled := spelled_units c
      generalize units c = spelling at spelled
      cases spelled with
      | single notHigh notLow small =>
          obtain ⟨a, b, written, unit⟩ := order.unit_bytes small
          rw [← unit] at notHigh notLow
          simp only [List.flatMap_cons, List.flatMap_nil, written, List.cons_append,
            List.nil_append]
          rw [decodeFrom_unit notHigh notLow, unit, ih, Char.ofNat_toNat]
          rfl
      | pair hh hl =>
          obtain ⟨a, b, first, unit⟩ := order.unit_bytes (lt_of_isHigh hh)
          obtain ⟨d, e, second, unit'⟩ := order.unit_bytes (lt_of_isLow hl)
          rw [← unit] at hh
          rw [← unit'] at hl
          simp only [List.flatMap_cons, List.flatMap_nil, first, second, List.cons_append,
            List.nil_append]
          rw [decodeFrom_pair hh hl, unit, unit', ih]
          rfl

end Utf16

-----------------------------------------------------------------------------------------
-- One to four bytes a character
-----------------------------------------------------------------------------------------

namespace Utf8

/-- A byte in its range adds six bits and leaves the rest to read. -/
theorem continued_of_range {bits value : Nat} {range : Nat × Nat} {more : List (Nat × Nat)}
    {b : UInt8} {rest : Bytes} (within : range.1 ≤ b.toNat ∧ b.toNat ≤ range.2)
    (later : continued (bits * 64 + (b.toNat - 0x80)) more rest = .ok value)
    : continued bits (range :: more) (b :: rest) = .ok value := by
  obtain ⟨low, high⟩ := range
  rw [continued, if_pos within, later]

@[simp]
theorem continued_end (bits : Nat) (rest : Bytes)
    : continued bits [] rest = .ok bits := by
  cases rest <;> rfl

theorem first_of_continued {b : UInt8} {rest : Bytes} {bits : Nat}
    {following : List (Nat × Nat)} {c : Char} (lead : lead? b.toNat = some (bits, following))
    (found : continued bits following rest = .ok c.toNat)
    : first b rest = .ok (c, following.length) := by
  simp only [first, lead, found, Char.ofNat_toNat]

/-- The second byte of a longer character is in its range if the character has no shorter
form and is neither a surrogate nor beyond the last one.
-/
theorem second_of_range {n x least greatest lower upper : Nat}
    (range : 0x80 ≤ x ∧ x ≤ 0xBF) (shortest : n = least → lower ≤ x)
    (scalar : n = greatest → x ≤ upper)
    : (if n = least then (lower, 0xBF)
        else if n = greatest then (0x80, upper) else (0x80, 0xBF)).1 ≤ x
      ∧ x
        ≤ (if n = least then (lower, 0xBF)
            else if n = greatest then (0x80, upper) else (0x80, 0xBF)).2 := by
  split
  · next first => exact ⟨shortest first, range.2⟩
  · split
    · next last => exact ⟨range.1, scalar last⟩
    · exact range

theorem toNat_follow (n : Nat)
    : (UInt8.ofNat (0x80 + n % 0x40)).toNat = 0x80 + n % 0x40 :=
  toNat_ofNat_of_lt (by omega)

theorem lead?_two {bits : Nat} (h : 2 ≤ bits ∧ bits < 0x20)
    : lead? (0xC0 + bits) = some (bits, [(0x80, 0xBF)]) := by
  rw [lead?, if_neg (by omega), if_neg (by omega), if_pos (by omega), Nat.add_sub_cancel_left]

theorem lead?_three {bits : Nat} (h : bits < 0x10)
    : lead? (0xE0 + bits)
      = some
          (bits,
            [if 0xE0 + bits = 0xE0 then (0xA0, 0xBF)
              else if 0xE0 + bits = 0xED then (0x80, 0x9F) else (0x80, 0xBF),
            (0x80, 0xBF)]) := by
  rw [lead?, if_neg (by omega), if_neg (by omega), if_neg (by omega), if_pos (by omega),
    Nat.add_sub_cancel_left]

theorem lead?_four {bits : Nat} (h : bits < 5)
    : lead? (0xF0 + bits)
      = some
          (bits,
            [if 0xF0 + bits = 0xF0 then (0x90, 0xBF)
              else if 0xF0 + bits = 0xF4 then (0x80, 0x8F) else (0x80, 0xBF),
            (0x80, 0xBF), (0x80, 0xBF)]) := by
  rw [lead?, if_neg (by omega), if_neg (by omega), if_neg (by omega), if_neg (by omega),
    if_pos (by omega), Nat.add_sub_cancel_left]

/-- The bytes of a character give it back, whatever stands behind them, by their number. -/
theorem first_encodeChar (c : Char) (rest : Bytes)
    : ∃ b more, encodeChar c = b :: more ∧ first b (more ++ rest) = .ok (c, more.length) := by
  have valid := toNat_valid c
  have tail {n : Nat} : 0x80 ≤ 0x80 + n % 0x40 ∧ 0x80 + n % 0x40 ≤ 0xBF := by omega
  generalize hn : c.toNat = n at valid
  by_cases one : n < 0x80
  · refine ⟨UInt8.ofNat n, [], by simp only [encodeChar, hn, if_pos one], ?_⟩
    have lead : lead? (UInt8.ofNat n).toNat = some (n, []) := by
      rw [toNat_ofNat_of_lt (by omega), lead?, if_pos one]
    exact first_of_continued lead (by rw [hn, continued_end])
  by_cases two : n < 0x800
  · refine ⟨_, _, by simp only [encodeChar, hn, if_neg one, if_pos two]; rfl, ?_⟩
    have lead
        : lead? (UInt8.ofNat (0xC0 + n / 0x40)).toNat = some (n / 0x40, [(0x80, 0xBF)]) := by
      rw [toNat_ofNat_of_lt (by omega), lead?_two (by omega)]
    refine first_of_continued lead ?_
    refine continued_of_range (by rw [toNat_follow]; exact tail) ?_
    rw [continued_end, hn, toNat_follow]
    exact congrArg Except.ok (by omega)
  by_cases three : n < 0x10000
  · refine ⟨_, _, by simp only [encodeChar, hn, if_neg one, if_neg two, if_pos three]; rfl, ?_⟩
    have lead := lead?_three (by omega : n / 0x1000 < 0x10)
    rw [← toNat_ofNat_of_lt (by omega : 0xE0 + n / 0x1000 < 256)] at lead
    refine first_of_continued lead ?_
    refine continued_of_range ?_ (continued_of_range (by rw [toNat_follow]; exact tail) ?_)
    · rw [toNat_follow, toNat_ofNat_of_lt (by omega)]
      exact second_of_range tail (by omega) (by omega)
    · rw [continued_end, hn, toNat_follow, toNat_follow]
      exact congrArg Except.ok (by omega)
  · refine ⟨_, _, by simp only [encodeChar, hn, if_neg one, if_neg two, if_neg three]; rfl,
      ?_⟩
    have lead := lead?_four (by omega : n / 0x40000 < 5)
    rw [← toNat_ofNat_of_lt (by omega : 0xF0 + n / 0x40000 < 256)] at lead
    refine first_of_continued lead ?_
    refine continued_of_range ?_
      (continued_of_range (by rw [toNat_follow]; exact tail)
        (continued_of_range (by rw [toNat_follow]; exact tail) ?_))
    · rw [toNat_follow, toNat_ofNat_of_lt (by omega)]
      exact second_of_range tail (by omega) (by omega)
    · rw [continued_end, hn, toNat_follow, toNat_follow, toNat_follow]
      exact congrArg Except.ok (by omega)

/-- An encoded text is read back, by induction on it. -/
theorem decodeFrom_encode (position : Nat) (text : List Char)
    : decodeFrom position (encode text) = .ok text := by
  induction text generalizing position with
  | nil =>
      rw [encode, List.flatMap_nil, decodeFrom]
  | cons c rest ih =>
      rw [encode] at ih ⊢
      obtain ⟨b, more, written, read⟩ := first_encodeChar c (rest.flatMap encodeChar)
      rw [List.flatMap_cons, written, List.cons_append, decodeFrom, read]
      simp only [List.drop_left, ih]

end Utf8

-----------------------------------------------------------------------------------------
-- All codecs
-----------------------------------------------------------------------------------------

namespace Codec

/-- Every codec reads back what it writes. -/
theorem decodeWhole_of_encode? {codec : Codec} {text : List Char} {bytes : Bytes}
    (h : codec.encode? text = some bytes)
    : codec.decodeWhole bytes = .ok text := by
  cases codec with
  | utf8 =>
      obtain rfl := Option.some.inj h
      exact Utf8.decodeFrom_encode 0 text
  | utf8Marked =>
      obtain rfl := Option.some.inj h
      exact Utf8.decodeFrom_encode 0 text
  | ascii => exact SingleByte.decodeFrom_encode? SingleByte.ascii_legible 0 h
  | latin1 => exact SingleByte.decodeFrom_encode? SingleByte.latin1_legible 0 h
  | western => exact SingleByte.decodeFrom_encode? SingleByte.western_legible 0 h
  | utf16 =>
      obtain rfl := Option.some.inj h
      exact Utf16.decodeFrom_encode .little 2 text
  | utf16Little =>
      obtain rfl := Option.some.inj h
      exact Utf16.decodeFrom_encode .little 0 text
  | utf16Big =>
      obtain rfl := Option.some.inj h
      exact Utf16.decodeFrom_encode .big 0 text

/-- A file that was written is neither cut inside its mark nor without one. -/
theorem decodeStored_of_encode? {codec : Codec} {text : List Char} {bytes : Bytes}
    (h : codec.encode? text = some bytes)
    : codec.decodeStored bytes = .ok text := by
  have whole := decodeWhole_of_encode? h
  rw [decodeStored, whole]
  cases codec with
  | utf8Marked =>
      obtain rfl := Option.some.inj h
      simp [Utf8.mark]
  | utf16 =>
      obtain rfl := Option.some.inj h
      simp [Utf16.mark, Utf16.Order.bytes, Utf16.marked?]
  | utf8 | ascii | latin1 | western | utf16Little | utf16Big => simp

/-- A text with uniform line ends is read back from the file that it was written to. -/
theorem decodeFile_of_encode? {codec : Codec} {text : List Char} {bytes : Bytes}
    (h : codec.encode? text = some bytes) (uniform : uniformLines text = text)
    : codec.decodeFile bytes = .ok text := by
  rw [decodeFile, decodeStored_of_encode? h]
  exact congrArg Except.ok uniform

end Codec

theorem uniformLines_eq_self {text : List Char} (h : '\r' ∉ text)
    : uniformLines text = text := by
  fun_induction uniformLines text with
  | case1 rest ih => simp at h
  | case2 rest hne ih => simp at h
  | case3 c rest hne hne' ih =>
      rw [ih fun later => h (List.mem_cons_of_mem c later)]
  | case4 => rfl

end CssMinifier.Encoding
