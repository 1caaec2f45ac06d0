import FeedHydration.Time.Instant
import Mathlib.Algebra.Group.Nat.Defs
import Mathlib.Data.List.TakeWhile

/-!
# Instants are read back

The text of an instant is read as that instant. Its numbers have a fixed width, so the reader finds
their ends by counting; a signed year and the fraction of a second end where the digits do. The
offset `Z` leaves date and time as they are.
-/

namespace FeedHydration

namespace Instant

variable {width n : Nat} {digits rest : List Char}

/-! ### Numbers -/

theorem digitsValue_eq (digits : List Char) :
    digitsValue digits = Nat.ofDigitChars 10 digits 0 := by
  rw [Nat.ofDigitChars_eq_foldl, digitsValue]
  congr
  funext n c
  rw [Nat.mul_comm]

theorem digitsValue_padded (width n : Nat) : digitsValue (padded width n) = n := by
  rw [digitsValue_eq, padded, Nat.ofDigitChars_append, Nat.ofDigitChars_replicate_zero,
    Nat.mul_zero, Nat.ofDigitChars_ten_toDigits]

theorem isDigit_of_mem_padded {c : Char} (h : c ∈ padded width n) : c.isDigit = true := by
  obtain h | h := List.mem_append.1 h
  · rw [List.eq_of_mem_replicate h]
    rfl
  · exact Nat.isDigit_of_mem_toDigits (by decide) (by decide) h

theorem padded_ne_nil : padded width n ≠ [] :=
  List.append_ne_nil_of_right_ne_nil _ Nat.toDigits_ne_nil

theorem length_padded (hwidth : 0 < width) (h : n < 10 ^ width) :
    (padded width n).length = width := by
  have hdigits := (Nat.length_toDigits_le_iff (b := 10) (by decide) hwidth).2 h
  rw [padded, List.length_append, List.length_replicate]
  omega

theorem isBlank_of_isDigit {c : Char} (h : c.isDigit = true) : Text.isBlank c = false := by
  simp only [Char.isDigit, Bool.and_eq_true, decide_eq_true_eq, ge_iff_le,
    UInt32.le_iff_toNat_le] at h
  have hlow : 48 ≤ c.toNat := h.1
  have hhigh : c.toNat ≤ 57 := h.2
  have hspace : c ≠ ' ' := by
    rintro rfl
    exact absurd hlow (by decide)
  simp only [Text.isBlank, Bool.or_eq_false_iff, Bool.and_eq_false_iff, decide_eq_false_iff_not,
    beq_eq_false_iff_ne]
  refine ⟨⟨⟨⟨⟨⟨⟨⟨⟨⟨?_, hspace⟩, ?_⟩, ?_⟩, ?_⟩, ?_⟩, ?_⟩, ?_⟩, ?_⟩, ?_⟩, ?_⟩ <;> omega

theorem trimStart_of_digits (h : ∀ c ∈ digits, c.isDigit = true) (hne : digits ≠ []) :
    Text.trimStart (digits ++ rest) = digits ++ rest := by
  obtain ⟨c, digits, rfl⟩ := List.exists_cons_of_ne_nil hne
  rw [Text.trimStart, List.cons_append,
    List.dropWhile_cons_of_neg (by rw [isBlank_of_isDigit (h c List.mem_cons_self)]; decide)]

theorem takeWhile_isDigit_append {c : Char} (h : ∀ c ∈ digits, c.isDigit = true)
    (hc : c.isDigit = false) : (digits ++ c :: rest).takeWhile Char.isDigit = digits := by
  rw [List.takeWhile_append_of_pos h, List.takeWhile_cons_of_neg (by rw [hc]; decide),
    List.append_nil]

theorem number?_of_digits (h : ∀ c ∈ digits, c.isDigit = true) (hne : digits ≠ [])
    (hcut : ((digits ++ rest).take width).takeWhile Char.isDigit = digits) :
    number? width (digits ++ rest) = some (digitsValue digits, rest) := by
  rw [number?, trimStart_of_digits h hne, hcut, List.drop_left,
    if_neg (by rwa [List.isEmpty_iff])]

/-- A number of fixed width ends by its width, whatever comes next. -/
theorem number?_padded (hwidth : 0 < width) (h : n < 10 ^ width) :
    number? width (padded width n ++ rest) = some (n, rest) := by
  rw [number?_of_digits (fun _ => isDigit_of_mem_padded) padded_ne_nil, digitsValue_padded]
  rw [List.take_left' (length_padded hwidth h)]
  exact List.takeWhile_eq_self_iff.2 fun _ => isDigit_of_mem_padded

/-! ### The parts of an instant -/

/-- The letter, hyphen or colon after a number. -/
theorem literal?_cons {c : Char} (h : Text.isBlank c = false) :
    literal? c (c :: rest) = some rest := by
  rw [literal?, Text.trimStart, List.dropWhile_cons_of_neg (by rw [h]; decide)]
  exact if_pos rfl

theorem year?_minus (h : rest.head?.any Char.isDigit = true) :
    year? ('-' :: rest) = (number? rest.length rest).map fun (n, rest) => (-(n : Int), rest) := by
  change Option.map _ (if rest.head?.any Char.isDigit then number? rest.length rest else none) = _
  rw [if_pos h]

theorem year?_plus (h : rest.head?.any Char.isDigit = true) :
    year? ('+' :: rest) = (number? rest.length rest).map fun (n, rest) => ((n : Int), rest) := by
  change Option.map _ (if rest.head?.any Char.isDigit then number? rest.length rest else none) = _
  rw [if_pos h]

theorem year?_of_digits (h : ∀ c ∈ digits, c.isDigit = true) (hne : digits ≠ []) :
    year? (digits ++ rest) =
      (number? 4 (digits ++ rest)).map fun (n, rest) => ((n : Int), rest) := by
  obtain ⟨c, digits, rfl⟩ := List.exists_cons_of_ne_nil hne
  have hc : c.isDigit = true := h c List.mem_cons_self
  unfold year?
  rw [trimStart_of_digits h hne]
  split
  · rename_i heq
    cases heq
    exact absurd hc (by decide)
  · rename_i heq
    cases heq
    exact absurd hc (by decide)
  · rfl

/-- A year has a sign when it does not have four digits. -/
theorem year?_renderYear (year : Int) :
    year? (renderYear year ++ '-' :: rest) = some (year, '-' :: rest) := by
  have hdigits : ∀ n, number? (padded 4 n ++ '-' :: rest).length (padded 4 n ++ '-' :: rest) =
      some (n, '-' :: rest) := by
    intro n
    rw [number?_of_digits (fun _ => isDigit_of_mem_padded) padded_ne_nil, digitsValue_padded]
    rw [List.take_length]
    exact takeWhile_isDigit_append (fun _ => isDigit_of_mem_padded) rfl
  have hhead : ∀ n, (padded 4 n ++ '-' :: rest).head?.any Char.isDigit = true := by
    intro n
    have hne : padded 4 n ≠ [] := padded_ne_nil
    obtain ⟨c, digits, hpadded⟩ := List.exists_cons_of_ne_nil hne
    have hc : c ∈ padded 4 n := hpadded ▸ List.mem_cons_self
    rw [hpadded]
    exact isDigit_of_mem_padded hc
  unfold renderYear
  split
  · rename_i hyear
    rw [year?_of_digits (fun _ => isDigit_of_mem_padded) padded_ne_nil,
      number?_padded (by decide) (by omega), Option.map_some]
    exact congrArg (fun year => some (year, '-' :: rest)) (Int.toNat_of_nonneg hyear.1)
  · rw [List.cons_append]
    split
    · have habs : -(year.natAbs : Int) = year := by omega
      rw [year?_minus (hhead _), hdigits, Option.map_some]
      exact congrArg (fun year => some (year, '-' :: rest)) habs
    · have habs : (year.natAbs : Int) = year := by omega
      rw [year?_plus (hhead _), hdigits, Option.map_some]
      exact congrArg (fun year => some (year, '-' :: rest)) habs

theorem fraction?_padded (hwidth : 0 < width) (hnine : width ≤ 9) (h : n < 10 ^ width) :
    fraction? ('.' :: (padded width n ++ ['Z'])) = some (n * 10 ^ (9 - width), ['Z']) := by
  have hlength := length_padded hwidth h
  have htake : (padded width n ++ ['Z']).takeWhile Char.isDigit = padded width n :=
    takeWhile_isDigit_append (fun _ => isDigit_of_mem_padded) rfl
  have hkept : (padded width n).take 9 = padded width n :=
    List.take_of_length_le (by rw [hlength]; exact hnine)
  change (if ((padded width n ++ ['Z']).takeWhile Char.isDigit).isEmpty then none else some _) = _
  rw [htake, hkept, if_neg (by rw [List.isEmpty_iff]; exact padded_ne_nil), digitsValue_padded,
    hlength, List.drop_left' hlength]
  rfl

/-- The digits that are left off a fraction are zeros. -/
theorem fraction?_renderFraction (h : n < 10 ^ 9) :
    fraction? (renderFraction n ++ ['Z']) = some (n, ['Z']) := by
  unfold renderFraction
  split
  · rename_i hzero
    rw [hzero]
    rfl
  · split
    · rename_i hmillis
      have hdiv : n / Nat.pow 10 6 * 10 ^ (9 - 3) = n :=
        Nat.div_mul_cancel (Nat.dvd_of_mod_eq_zero hmillis)
      rw [List.cons_append, fraction?_padded (by decide) (by decide)
        (Nat.div_lt_of_lt_mul (by simpa using h)), hdiv]
    · split
      · rename_i hmicros
        have hdiv : n / Nat.pow 10 3 * 10 ^ (9 - 6) = n :=
          Nat.div_mul_cancel (Nat.dvd_of_mod_eq_zero hmicros)
        rw [List.cons_append, fraction?_padded (by decide) (by decide)
          (Nat.div_lt_of_lt_mul (by simpa using h)), hdiv]
      · rw [List.cons_append, fraction?_padded (by decide) (by decide) h, Nat.sub_self,
          Nat.pow_zero, Nat.mul_one]

/-! ### The whole -/

theorem daysInMonth_le (year : Int) (month : Nat) : daysInMonth year month ≤ 31 := by
  unfold daysInMonth
  split
  · split <;> decide
  · decide
  · decide
  · decide
  · decide
  · decide

theorem reading?_render (t : Instant) :
    reading? t.render =
      some ⟨⟨t.year, t.month, t.day⟩, t.hour, t.minute, t.second, t.nanosecond, 0⟩ := by
  have hdate := t.date_valid
  have htime := t.time_valid
  have hdays := daysInMonth_le t.year t.month
  simp only [isDate, Bool.and_eq_true, decide_eq_true_eq] at hdate
  simp only [isTime, Bool.and_eq_true, decide_eq_true_eq] at htime
  obtain ⟨⟨⟨⟨⟨-, -⟩, -⟩, hmonth⟩, -⟩, hday⟩ := hdate
  obtain ⟨⟨⟨hhour, hminute⟩, hsecond⟩, hnano⟩ := htime
  have hcolon : Text.isBlank ':' = false := rfl
  have hhyphen : Text.isBlank '-' = false := rfl
  unfold reading? render
  simp only [year?_renderYear, literal?_cons hhyphen, Option.bind_eq_bind, Option.bind_some]
  rw [number?_padded (by decide) (show t.month < 10 ^ 2 by omega)]
  simp only [literal?_cons hhyphen, Option.bind_some]
  rw [number?_padded (by decide) (show t.day < 10 ^ 2 by omega)]
  simp only [separator?, Option.bind_some, true_or, if_true]
  rw [number?_padded (by decide) (show t.hour < 10 ^ 2 by omega)]
  simp only [literal?_cons hcolon, Option.bind_some]
  rw [number?_padded (by decide) (show t.minute < 10 ^ 2 by omega)]
  simp only [literal?_cons hcolon, Option.bind_some]
  rw [number?_padded (by decide) (show t.second < 10 ^ 2 by omega)]
  simp only [Option.bind_some]
  rw [fraction?_renderFraction (by simpa using hnano)]
  have hoffset : offset? ['Z'] = some (0, []) := rfl
  simp only [Option.bind_some, hoffset]
  rw [if_pos (by rfl), if_pos ⟨hhour, hminute⟩]

/-- In UTC a reading is its own date and time. -/
theorem ofReading?_utc (t : Instant) :
    ofReading? ⟨⟨t.year, t.month, t.day⟩, t.hour, t.minute, t.second, t.nanosecond, 0⟩ =
      some t := by
  have hdate := t.date_valid
  have htime := t.time_valid
  simp only [isTime, Bool.and_eq_true, decide_eq_true_eq] at htime
  obtain ⟨⟨⟨hhour, hminute⟩, -⟩, -⟩ := htime
  have hlow : ¬((t.hour : Int) * 60 + t.minute - 0 < 0) := by omega
  have hhigh : ¬((24 : Int) * 60 ≤ (t.hour : Int) * 60 + t.minute - 0) := by omega
  have hhours : (((t.hour : Int) * 60 + t.minute - 0) % (24 * 60)).toNat / 60 = t.hour := by
    omega
  have hminutes : (((t.hour : Int) * 60 + t.minute - 0) % (24 * 60)).toNat % 60 = t.minute := by
    omega
  unfold ofReading?
  dsimp only
  rw [if_pos (by rw [hdate]; rfl)]
  simp only [if_neg hlow, if_neg hhigh, hhours, hminutes, dif_pos hdate, dif_pos t.time_valid]

/-- The text of an instant gives it back. -/
theorem parse?_text (t : Instant) : parse? t.text = some t := by
  rw [parse?, text, String.toList_ofList, reading?_render]
  exact ofReading?_utc t

end Instant

end FeedHydration
