/-
# A written instant is read back

Every instant of a year in range is read from its text (`Instant.ofText?_toText`), leap
seconds included. The text is made of numbers with leading zeros and marks between them;
a reader takes a number whole, because a mark follows it (`Instant.readNumber?_append`).

Key definitions: `Instant.InRange`.
Key theorems: `Instant.readDate?_append`, `Instant.readTimeOfDay?_append`,
`Instant.ofText?_toText`.
-/
import StageRuns.Proofs.Text
import StageRuns.Proofs.Time.Date
import StageRuns.Time.Rfc3339

namespace StageRuns
namespace Instant

open Text

/-! ### Readers -/

variable {rest : List Char}

theorem not_isDigit_head (mark : Char) (h : mark.isDigit = false) (cs : List Char) :
    ∀ c ∈ (mark :: cs).head?, c.isDigit = false := by
  intro c hc
  cases hc
  exact h

/-- A number ends where no digit follows. -/
theorem readNumber?_append {most width n : Nat} (hlength : (paddedDigits width n).length ≤ most)
    (hrest : ∀ c ∈ rest.head?, c.isDigit = false) :
    readNumber? most (paddedDigits width n ++ rest) = some (n, rest) := by
  have hdigit : ∀ c ∈ paddedDigits width n, c.isDigit = true := fun _ =>
    isDigit_of_mem_paddedDigits
  have hnone : rest.takeWhile Char.isDigit = [] := by
    cases rest with
    | nil => rfl
    | cons c rest =>
      rw [List.takeWhile_cons, if_neg (by rw [hrest c rfl]; exact Bool.false_ne_true)]
  rw [readNumber?, List.takeWhile_append_of_pos hdigit, hnone, List.append_nil,
    List.take_of_length_le hlength, natOfDigits?_paddedDigits, Option.map_some, List.drop_left]

theorem readPart?_append {n : Nat} (hn : n < 100) (hrest : ∀ c ∈ rest.head?, c.isDigit = false) :
    readPart? (paddedDigits 2 n ++ rest) = some (n, rest) := by
  rw [readPart?, trimStart_paddedDigits]
  exact readNumber?_append (length_paddedDigits (by decide) hn).le hrest

theorem readMark?_cons {mark : Char} (h : isBlank mark = false) (rest : List Char) :
    readMark? mark (mark :: rest) = some rest := by
  rw [readMark?, trimStart_cons h]
  exact if_pos rfl

/-! ### Dates -/

/-- A year is read back, with a sign or without. -/
theorem readYear?_yearText (year : Int) (hrest : ∀ c ∈ rest.head?, c.isDigit = false) :
    readYear? (yearText year ++ rest) = some (year, rest) := by
  have hsigned : readNumber? (paddedDigits 4 year.natAbs ++ rest).length
      (paddedDigits 4 year.natAbs ++ rest) = some (year.natAbs, rest) :=
    readNumber?_append (by rw [List.length_append]; omega) hrest
  unfold yearText
  by_cases h : 0 ≤ year ∧ year ≤ 9999
  · have hyear : (year.toNat : Int) = year := by omega
    have hless : year.toNat < 10000 := by omega
    have hread : readNumber? 4 (paddedDigits 4 year.toNat ++ rest) = some (year.toNat, rest) :=
      readNumber?_append (length_paddedDigits (by decide) hless).le hrest
    rw [if_pos h, readYear?, trimStart_paddedDigits]
    split
    case h_1 cs hcs => exact absurd hcs (paddedDigits_append_ne (by decide))
    case h_2 cs hcs => exact absurd hcs (paddedDigits_append_ne (by decide))
    case h_3 => simp only [hread, Option.map_some, hyear]
  · rw [if_neg h]
    by_cases hneg : year < 0
    · have hyear : -(year.natAbs : Int) = year := by omega
      rw [if_pos hneg, List.cons_append, readYear?, trimStart_cons (by decide)]
      simp only [hsigned, Option.map_some, hyear]
    · have hyear : (year.natAbs : Int) = year := by omega
      rw [if_neg hneg, List.cons_append, readYear?, trimStart_cons (by decide)]
      simp only [hsigned, Option.map_some, hyear]

/-- A date in front of what is no digit is read back. -/
theorem readDate?_append {d : Date} (h : d.isValid = true)
    (hrest : ∀ c ∈ rest.head?, c.isDigit = false) :
    readDate? (yearText d.year ++ '-' :: (paddedDigits 2 d.month ++
      '-' :: (paddedDigits 2 d.day ++ rest))) = some (d, rest) := by
  have hmonth : d.month < 100 := by
    simp only [Date.isValid, Bool.and_eq_true, decide_eq_true_eq] at h
    omega
  have hday : d.day < 100 := by
    have hmost := Date.daysInMonth_le d.year d.month
    simp only [Date.isValid, Bool.and_eq_true, decide_eq_true_eq] at h
    omega
  have hdash : isBlank '-' = false := by decide
  rw [readDate?, readYear?_yearText d.year (not_isDigit_head '-' rfl _)]
  simp only [Option.bind_eq_bind, Option.bind_some, readMark?_cons hdash,
    readPart?_append hmonth (not_isDigit_head '-' rfl _), readPart?_append hday hrest]

/-! ### Times of day -/

theorem readFraction?_paddedDigits {width n : Nat} (hw : 0 < width) (hmost : width ≤ 9)
    (hn : n < Nat.pow 10 width) (hrest : ∀ c ∈ rest.head?, c.isDigit = false) :
    readFraction? ('.' :: paddedDigits width n ++ rest) =
      some (n * Nat.pow 10 (9 - width), rest) := by
  have hlength : (paddedDigits width n).length = width := length_paddedDigits hw hn
  have hread : readNumber? 9 (paddedDigits width n ++ rest) = some (n, rest) :=
    readNumber?_append (hlength.le.trans hmost) hrest
  have hused : (paddedDigits width n ++ rest).length - rest.length = width := by
    rw [List.length_append, hlength]
    omega
  have hdrop : rest.dropWhile Char.isDigit = rest := by
    cases rest with
    | nil => rfl
    | cons c rest =>
      rw [List.dropWhile_cons, if_neg (by rw [hrest c rfl]; exact Bool.false_ne_true)]
  rw [List.cons_append, readFraction?]
  simp only [hread, Option.map_some, hused, hdrop]

/-- No more digits of a fraction are written than are needed, and no fewer. -/
theorem readFraction?_fractionText {nanos : Nat} (h : nanos < nanosPerSecond)
    (hrest : ∀ c ∈ rest.head?, c.isDigit = false) (hpoint : rest.head? ≠ some '.') :
    readFraction? (fractionText nanos ++ rest) = some (nanos, rest) := by
  unfold nanosPerSecond at h
  unfold fractionText
  by_cases hzero : nanos = 0
  · rw [if_pos hzero, List.nil_append, hzero]
    unfold readFraction?
    split
    case h_1 cs => exact absurd rfl hpoint
    case h_2 => rfl
  rw [if_neg hzero]
  by_cases hmilli : nanos % 1000000 = 0
  · have hless : nanos / 1000000 < 1000 := by omega
    have hscaled : nanos / 1000000 * Nat.pow 10 6 = nanos :=
      Nat.div_mul_cancel (Nat.dvd_of_mod_eq_zero hmilli)
    rw [if_pos hmilli, readFraction?_paddedDigits (by decide) (by decide) hless hrest, hscaled]
  rw [if_neg hmilli]
  by_cases hmicro : nanos % 1000 = 0
  · have hless : nanos / 1000 < 1000000 := by omega
    have hscaled : nanos / 1000 * Nat.pow 10 3 = nanos :=
      Nat.div_mul_cancel (Nat.dvd_of_mod_eq_zero hmicro)
    rw [if_pos hmicro, readFraction?_paddedDigits (by decide) (by decide) hless hrest, hscaled]
  · have hscaled : nanos * Nat.pow 10 0 = nanos := Nat.mul_one nanos
    rw [if_neg hmicro, readFraction?_paddedDigits (by decide) (by decide) h hrest, hscaled]

theorem not_isDigit_fractionText (nanos : Nat) (hrest : ∀ c ∈ rest.head?, c.isDigit = false) :
    ∀ c ∈ (fractionText nanos ++ rest).head?, c.isDigit = false := by
  unfold fractionText
  split
  · exact hrest
  split
  · exact not_isDigit_head '.' rfl _
  split
  · exact not_isDigit_head '.' rfl _
  · exact not_isDigit_head '.' rfl _

/-- A time of day in front of what goes on neither with a digit nor with a point. Second
60 is in the leap second of the second before. -/
theorem readTimeOfDay?_append {hour minute second nanos : Nat} (hhour : hour < 24)
    (hminute : minute < 60) (hsecond : second ≤ 60) (hnanos : nanos < nanosPerSecond)
    (hrest : ∀ c ∈ rest.head?, c.isDigit = false) (hpoint : rest.head? ≠ some '.') :
    readTimeOfDay? (paddedDigits 2 hour ++ ':' :: (paddedDigits 2 minute ++
      ':' :: (paddedDigits 2 second ++ (fractionText nanos ++ rest)))) =
      if second = 60 then some ((hour * 3600 + minute * 60 + 59, nanos + nanosPerSecond), rest)
      else some ((hour * 3600 + minute * 60 + second, nanos), rest) := by
  have hcolon : isBlank ':' = false := by decide
  rw [readTimeOfDay?, readPart?_append (by omega) (not_isDigit_head ':' rfl _)]
  simp only [Option.bind_eq_bind, Option.bind_some, readMark?_cons hcolon,
    readPart?_append (n := minute) (by omega) (not_isDigit_head ':' rfl _),
    readPart?_append (n := second) (by omega) (not_isDigit_fractionText nanos hrest),
    readFraction?_fractionText hnanos hrest hpoint]
  by_cases hleap : second = 60
  · rw [if_neg (by omega), if_pos ⟨hhour, hminute, hleap⟩, if_pos hleap]
  · rw [if_pos ⟨hhour, hminute, by omega⟩, if_neg hleap]

/-! ### Instants -/

/-- An instant of a year that can be written, and not deeper in its second than a leap
second goes; that one ends a minute. -/
structure InRange (t : Instant) : Prop where
  year : isYearInRange t.date.year = true
  nanos : t.nanos < 2 * nanosPerSecond
  leap : t.isLeap = true → t.secondOfDay % 60 = 59

/-- The characters that follow the date and its mark. -/
def clockChars (t : Instant) : List Char :=
  paddedDigits 2 (t.secondOfDay / 3600) ++ ':' :: (paddedDigits 2 (t.secondOfDay / 60 % 60) ++
    ':' :: (paddedDigits 2 (if t.isLeap then t.secondOfDay % 60 + 1 else t.secondOfDay % 60) ++
      (fractionText (t.nanos % nanosPerSecond) ++ ['Z'])))

theorem toChars_eq (t : Instant) : t.toChars = yearText t.date.year ++
    '-' :: (paddedDigits 2 t.date.month ++ '-' :: (paddedDigits 2 t.date.day ++
      'T' :: t.clockChars)) := by
  simp only [toChars, clockChars, List.append_assoc, List.cons_append]

variable {t : Instant}

theorem readTimeOfDay?_clockChars (h : t.InRange) :
    readTimeOfDay? t.clockChars = some ((t.secondOfDay, t.nanos), ['Z']) := by
  obtain ⟨-, hnanos, hleap⟩ := h
  have hday : t.secondOfDay < 86400 := by
    unfold secondOfDay
    omega
  have hfraction : t.nanos % nanosPerSecond < nanosPerSecond := Nat.mod_lt _ (by decide)
  rw [clockChars, readTimeOfDay?_append (by omega) (by omega) (by split <;> omega) hfraction
    (not_isDigit_head 'Z' rfl []) (by decide)]
  by_cases hl : t.isLeap = true
  · have hlast := hleap hl
    have hmost : nanosPerSecond ≤ t.nanos := of_decide_eq_true hl
    have hsecond : t.secondOfDay / 3600 * 3600 + t.secondOfDay / 60 % 60 * 60 + 59 =
        t.secondOfDay := by omega
    have hnanos : t.nanos % nanosPerSecond + nanosPerSecond = t.nanos := by
      rw [Nat.mod_eq_sub_mod hmost, Nat.mod_eq_of_lt (by omega)]
      omega
    rw [if_pos hl, if_pos (by omega), hsecond, hnanos]
  · have hless : t.nanos < nanosPerSecond := Nat.lt_of_not_le fun hle => hl (decide_eq_true hle)
    have hsecond : t.secondOfDay / 3600 * 3600 + t.secondOfDay / 60 % 60 * 60 +
        t.secondOfDay % 60 = t.secondOfDay := by omega
    rw [if_neg hl, if_neg (by omega), hsecond, Nat.mod_eq_of_lt hless]

/-- An instant is read back from its text. -/
theorem ofText?_toText (h : t.InRange) : ofText? t.toText = some t := by
  have hvalid : t.date.isValid = true := Date.isValid_ofDayNumber _
  have hseconds : t.date.dayNumber * 86400 + t.secondOfDay - 0 = t.seconds := by
    unfold date secondOfDay
    rw [Date.dayNumber_ofDayNumber]
    omega
  have hoffset : readOffset? ['Z'] = some (0, []) := rfl
  rw [ofText?, toText, String.toList_ofList, toChars_eq, ofChars?,
    readDate?_append hvalid (not_isDigit_head 'T' rfl _)]
  simp only [Option.bind_eq_bind, Option.bind_some, readSeparator?, true_or, if_true,
    readTimeOfDay?_clockChars h, hoffset, hseconds]
  exact if_pos ⟨rfl, hvalid, h.year, h.year⟩

end Instant
end StageRuns
