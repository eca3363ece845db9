import Reckoner.Calendar.Stamp
import Reckoner.Proofs.Calendar.Days
import Reckoner.Proofs.Text.Blanks
import Reckoner.Proofs.Text.Digits

/-!
# A stamp is read as it is written

Each part of a stamp is read off the front of what follows it: the year with its sign, the fields of
the date and the time in two digits, the decimals in groups of three. Together they give back the
moment, with every nanosecond (`read?_text`).

The second of a stamp counts an extra second of the moment. Only the sixtieth second of a minute is
read as an extra one, so a moment with an extra second anywhere else comes back as the next second
(`Moment.stamped`).
-/

namespace Reckoner

namespace Moment

/-- The moments that there are: the year is one that dates may have, and there is at most one extra
second. -/
structure IsDated (moment : Moment) : Prop where
  year : Date.isYear moment.date.year = true
  nanos : moment.nanos < 2 * secondNanos

/-- The moments that stamps tell apart: an extra second stands at the end of a minute only. -/
structure IsProper (moment : Moment) : Prop extends moment.IsDated where
  extra : moment.nanos < secondNanos ∨ moment.seconds % 60 = 59

/-- The moment that a stamp says: an extra second is counted with the others, except at the end of a
minute. -/
def stamped (moment : Moment) : Moment :=
  if moment.nanos < secondNanos ∨ moment.seconds % 60 = 59 then moment
  else ⟨moment.seconds + 1, moment.nanos - secondNanos⟩

/-- An extra second that is counted leaves the minute as it is. -/
theorem stamped_minute (moment : Moment) : moment.stamped.seconds / 60 = moment.seconds / 60 := by
  rw [stamped]
  split
  · rfl
  · show (moment.seconds + 1) / 60 = moment.seconds / 60
    omega

theorem date_stamped (moment : Moment) : moment.stamped.date = moment.date := by
  have minute := moment.stamped_minute
  have days : moment.stamped.seconds / daySeconds = moment.seconds / daySeconds := by
    rw [daySeconds]
    omega
  rw [date, date, days]

end Moment

namespace Stamp

/-! ## Digits and marks -/

section Digits

variable {digits rest : Text} (proper : Text.IsDigits digits)
  (ends : ∀ c ∈ rest.head?, Text.isDigit c = false)

include proper

theorem head?_digits (rest : Text) : ∀ c ∈ (digits ++ rest).head?, Text.isDigit c = true := by
  obtain ⟨d, others, rfl⟩ := List.exists_cons_of_ne_nil proper.proper
  intro c first
  rw [← Option.some.inj first]
  exact proper.all d List.mem_cons_self

/-- Digits are no white space. -/
theorem trimStart_digits (rest : Text) : Text.trimStart (digits ++ rest) = digits ++ rest := by
  apply Text.trimStart_of_head
  intro c first
  exact Text.isBlank_of_isDigit (head?_digits proper rest c first)

include ends

/-- Digits are read up to where they end. -/
theorem digits?_append {most : Nat} (few : digits.length ≤ most) :
    digits? most (digits ++ rest) = some (digits, rest) := by
  have short : ∀ c ∈ (rest.take (most - digits.length)).head?, Text.isDigit c = false := by
    intro c first
    apply ends c
    rw [List.head?_take] at first
    split at first
    · cases first
    · exact first
  have run : ((digits ++ rest).take most).takeWhile Text.isDigit = digits := by
    rw [List.take_append, List.take_of_length_le few]
    exact Text.takeWhile_digits proper.all short
  rw [digits?, run, if_neg proper.proper, List.drop_left]

/-- A reader that may take all that is left takes all the digits. -/
theorem digits?_length :
    digits? (digits ++ rest).length (digits ++ rest) = some (digits, rest) := by
  apply digits?_append proper ends
  rw [List.length_append]
  exact Nat.le_add_right _ _

end Digits

section Fields

variable {rest : Text} (ends : ∀ c ∈ rest.head?, Text.isDigit c = false)

include ends

/-- A number is read from as many digits as it was filled up to. -/
theorem number?_padded {width n : Nat} (wide : 0 < width) (small : n < 10 ^ width) :
    number? width (Text.padded width n ++ rest) = some (n, rest) := by
  have digits := Text.isDigits_padded width n
  have few := Nat.le_of_eq (Text.length_padded wide small)
  rw [number?, trimStart_digits digits, digits?_append digits ends few]
  show some (Nat.ofDigitChars 10 (Text.padded width n) 0, rest) = _
  rw [Text.ofDigitChars_padded]

/-- A year is read with its sign, however many digits it has. -/
theorem year?_yearText (year : Int) : year? (Date.yearText year ++ rest) = some (year, rest) := by
  have digits := Text.isDigits_padded 4 year.natAbs
  have signed {c : Char} (visible : Text.isBlank c = false) :
      Text.trimStart (c :: (Text.padded 4 year.natAbs ++ rest)) =
        c :: (Text.padded 4 year.natAbs ++ rest) := by
    apply Text.trimStart_of_head
    intro d first
    cases first
    exact visible
  -- Four digits by themselves, or a sign that lets all the digits be read.
  by_cases plain : (0 ≤ year && year ≤ 9999) = true
  · rw [Date.yearText, if_pos plain]
    rw [Bool.and_eq_true, decide_eq_true_eq, decide_eq_true_eq] at plain
    have same : year.toNat = year.natAbs := by omega
    have starts := head?_digits digits rest
    rw [same, year?, trimStart_digits digits]
    split
    · rename_i minus
      rw [minus] at starts
      exact absurd (starts '-' rfl) (by decide)
    · rename_i plus
      rw [plus] at starts
      exact absurd (starts '+' rfl) (by decide)
    · rw [number?_padded ends (by decide) (by omega)]
      show some ((year.natAbs : Int), rest) = _
      rw [Int.natAbs_of_nonneg plain.1]
  · rw [Date.yearText, if_neg plain]
    by_cases negative : year < 0
    · rw [if_pos negative]
      show year? ('-' :: (Text.padded 4 year.natAbs ++ rest)) = _
      rw [year?, signed (by decide)]
      show (digits? _ (Text.padded 4 year.natAbs ++ rest)).bind _ = _
      rw [digits?_length digits ends]
      show some (-(Nat.ofDigitChars 10 (Text.padded 4 year.natAbs) 0 : Int), rest) = _
      rw [Text.ofDigitChars_padded, Int.ofNat_natAbs_of_nonpos (Int.le_of_lt negative), Int.neg_neg]
    · rw [if_neg negative]
      show year? ('+' :: (Text.padded 4 year.natAbs ++ rest)) = _
      rw [year?, signed (by decide)]
      show (digits? _ (Text.padded 4 year.natAbs ++ rest)).bind _ = _
      rw [digits?_length digits ends]
      show some ((Nat.ofDigitChars 10 (Text.padded 4 year.natAbs) 0 : Int), rest) = _
      rw [Text.ofDigitChars_padded, Int.natAbs_of_nonneg (Int.not_lt.mp negative)]

end Fields

theorem mark?_cons {c : Char} (visible : Text.isBlank c = false) (rest : Text) :
    mark? c (c :: rest) = some rest := by
  have kept : Text.trimStart (c :: rest) = c :: rest := by
    apply Text.trimStart_of_head
    intro d first
    cases first
    exact visible
  rw [mark?, kept]
  exact if_pos rfl

/-! ## Dates and times -/

/-- What follows a number is no digit, if it starts with another character. -/
theorem ends_cons {c : Char} (other : Text.isDigit c = false) (rest : Text) :
    ∀ d ∈ (c :: rest).head?, Text.isDigit d = false := by
  intro d first
  cases first
  exact other

theorem date?_text {date : Date} (valid : date.isValid = true) {rest : Text}
    (ends : ∀ c ∈ rest.head?, Text.isDigit c = false) :
    date? (date.text ++ rest) = some (date, rest) := by
  have fields := valid
  simp only [Date.isValid, Bool.and_eq_true, decide_eq_true_eq] at fields
  obtain ⟨⟨⟨⟨-, -⟩, months⟩, -⟩, days⟩ := fields
  have longest := Date.daysInMonth_le_max date.year date.month
  have dash : Text.isDigit '-' = false := by decide
  have written : date.text ++ rest = Date.yearText date.year ++ '-' ::
      (Text.padded 2 date.month ++ '-' :: (Text.padded 2 date.day ++ rest)) := by
    simp only [Date.text, List.append_assoc]
    rfl
  have year := year?_yearText (ends_cons dash
    (Text.padded 2 date.month ++ '-' :: (Text.padded 2 date.day ++ rest))) date.year
  have month := number?_padded (ends_cons dash (Text.padded 2 date.day ++ rest))
    (by decide : 0 < 2) (by omega : date.month < 10 ^ 2)
  have day := number?_padded ends (by decide : 0 < 2) (by omega : date.day < 10 ^ 2)
  simp only [date?, written, Option.bind_eq_bind, year, Option.bind_some,
    mark?_cons (show Text.isBlank '-' = false by decide), month, day, valid, if_true]

/-! ## Decimals -/

section Fractions

variable {rest : Text} (ends : ∀ c ∈ rest.head?, Text.isDigit c = false)

include ends

/-- Decimals count for as many nanoseconds as their place says. -/
theorem fraction?_padded {width n : Nat} (wide : 0 < width) (most : width ≤ 9)
    (small : n < 10 ^ width) :
    fraction? ('.' :: (Text.padded width n ++ rest)) = some (n * 10 ^ (9 - width), rest) := by
  have digits := Text.isDigits_padded width n
  have length := Text.length_padded wide small
  have ended : rest.dropWhile Text.isDigit = rest := @Text.dropWhile_digits [] rest (by simp) ends
  show (digits? 9 (Text.padded width n ++ rest)).bind _ = _
  rw [digits?_append digits ends (by rw [length]; exact most)]
  show some (Nat.ofDigitChars 10 (Text.padded width n) 0 *
    10 ^ (9 - (Text.padded width n).length), rest.dropWhile Text.isDigit) = _
  rw [Text.ofDigitChars_padded, length, ended]

/-- Decimals start with a point, if there are any. -/
theorem head?_fractionText (nanos : Nat) :
    ∀ c ∈ (fractionText nanos ++ rest).head?, Text.isDigit c = false := by
  rw [fractionText]
  split
  · exact ends
  · split
    · exact ends_cons (by decide) _
    · split
      · exact ends_cons (by decide) _
      · exact ends_cons (by decide) _

/-- **No nanosecond is lost.** -/
theorem fraction?_fractionText {nanos : Nat} (small : nanos < Moment.secondNanos)
    (pointless : rest.head? ≠ some '.') :
    fraction? (fractionText nanos ++ rest) = some (nanos, rest) := by
  rw [Moment.secondNanos] at small
  rw [fractionText]
  split
  · rename_i zero
    rw [zero, List.nil_append, fraction?]
    rintro later rfl
    exact pointless rfl
  · split
    · rename_i millis
      show fraction? ('.' :: (Text.padded 3 (nanos / 1000000) ++ rest)) = _
      rw [fraction?_padded ends (by decide) (by decide) (by omega)]
      have same : nanos / 1000000 * 10 ^ (9 - 3) = nanos := by omega
      rw [same]
    · split
      · rename_i micros
        show fraction? ('.' :: (Text.padded 6 (nanos / 1000) ++ rest)) = _
        rw [fraction?_padded ends (by decide) (by decide) (by omega)]
        have same : nanos / 1000 * 10 ^ (9 - 6) = nanos := by omega
        rw [same]
      · show fraction? ('.' :: (Text.padded 9 nanos ++ rest)) = _
        rw [fraction?_padded ends (by decide) (by decide) (by omega), Nat.pow_zero, Nat.mul_one]

end Fractions

/-- What the clock shows of a moment: no extra second, one at the end of a minute, or one that is the
next second of the same minute. -/
theorem clock_cases {moment : Moment} (dated : moment.IsDated) :
    (moment.nanos / Moment.secondNanos = 0 ∧ moment.stamped.secondOfDay = moment.secondOfDay ∧
        moment.nanos % Moment.secondNanos = moment.stamped.nanos) ∨
      (moment.nanos / Moment.secondNanos = 1 ∧ moment.secondOfDay % 60 = 59 ∧
        moment.stamped.secondOfDay = moment.secondOfDay ∧
        moment.nanos % Moment.secondNanos + Moment.secondNanos = moment.stamped.nanos) ∨
      (moment.nanos / Moment.secondNanos = 1 ∧ moment.secondOfDay % 60 < 59 ∧
        moment.stamped.secondOfDay = moment.secondOfDay + 1 ∧
        moment.nanos % Moment.secondNanos = moment.stamped.nanos) := by
  have nanos := dated.nanos
  rw [Moment.secondNanos] at nanos ⊢
  by_cases less : moment.nanos < 1000000000
  · have same : moment.stamped = moment := if_pos (.inl less)
    rw [same]
    exact .inl ⟨by omega, rfl, by omega⟩
  · by_cases last : moment.seconds % 60 = 59
    · have same : moment.stamped = moment := if_pos (.inr last)
      rw [same, Moment.secondOfDay, Moment.daySeconds]
      exact .inr (.inl ⟨by omega, by omega, rfl, by omega⟩)
    · have next : moment.stamped = ⟨moment.seconds + 1, moment.nanos - 1000000000⟩ :=
        if_neg (not_or.mpr ⟨less, last⟩)
      rw [next, Moment.secondOfDay, Moment.secondOfDay, Moment.daySeconds]
      exact .inr (.inr ⟨by omega, by omega, by dsimp only; omega, by dsimp only; omega⟩)

/-- The time of day is read with its nanoseconds. -/
theorem clock?_text {moment : Moment} (dated : moment.IsDated) {rest : Text}
    (ends : ∀ c ∈ rest.head?, Text.isDigit c = false) (pointless : rest.head? ≠ some '.') :
    clock? (moment.clockText ++ (fractionText (moment.nanos % Moment.secondNanos) ++ rest)) =
      some ((moment.stamped.secondOfDay, moment.stamped.nanos), rest) := by
  have decimals := fraction?_fractionText ends
    (Nat.mod_lt moment.nanos (by decide : 0 < Moment.secondNanos)) pointless
  have fractionEnds := head?_fractionText ends (moment.nanos % Moment.secondNanos)
  have second : moment.secondOfDay < 86400 := by
    rw [Moment.secondOfDay, Moment.daySeconds]
    omega
  have shown := clock_cases dated
  have colon : Text.isDigit ':' = false := by decide
  have written : moment.clockText
        ++ (fractionText (moment.nanos % Moment.secondNanos) ++ rest) =
      Text.padded 2 (moment.secondOfDay / 3600) ++ ':' ::
        (Text.padded 2 (moment.secondOfDay / 60 % 60) ++ ':' ::
          (Text.padded 2 (moment.secondOfDay % 60 + moment.nanos / Moment.secondNanos)
            ++ (fractionText (moment.nanos % Moment.secondNanos) ++ rest))) := by
    simp only [Moment.clockText, List.append_assoc]
    rfl
  rw [written]
  -- From here on only the second of the day and the one second more matter.
  generalize moment.secondOfDay = s at second shown
  generalize moment.nanos / Moment.secondNanos = more at shown
  have hours := fun later => number?_padded (ends_cons colon later)
    (by decide : 0 < 2) (by omega : s / 3600 < 10 ^ 2)
  have minutes := fun later => number?_padded (ends_cons colon later)
    (by decide : 0 < 2) (by omega : s / 60 % 60 < 10 ^ 2)
  have seconds := number?_padded fractionEnds
    (by decide : 0 < 2) (by omega : s % 60 + more < 10 ^ 2)
  have within : (s / 3600 < 24 && s / 60 % 60 < 60 && s % 60 + more ≤ 60) = true := by
    simp only [Bool.and_eq_true, decide_eq_true_eq]
    omega
  simp only [clock?, Option.bind_eq_bind, hours, Option.bind_some,
    mark?_cons (show Text.isBlank ':' = false by decide), minutes, seconds, decimals, within,
    if_true]
  rcases shown with ⟨rfl, same, nanos⟩ | ⟨rfl, last, same, nanos⟩ | ⟨rfl, early, next, nanos⟩
  · rw [if_neg (by omega), same, nanos]
    have whole : s / 3600 * 3600 + s / 60 % 60 * 60 + (s % 60 + 0) = s := by omega
    rw [whole]
  · rw [if_pos (by omega), same, nanos]
    have whole : s / 3600 * 3600 + s / 60 % 60 * 60 + 59 = s := by omega
    rw [whole]
  · rw [if_neg (by omega), next, nanos]
    have whole : s / 3600 * 3600 + s / 60 % 60 * 60 + (s % 60 + 1) = s + 1 := by omega
    rw [whole]

/-- **A stamp is read as the moment that it says.** -/
theorem read?_text {moment : Moment} (dated : moment.IsDated) :
    read? (text moment) = some moment.stamped := by
  have zone : Text.isDigit 'Z' = false := by decide
  have valid : moment.date.isValid = true := Date.isValid_ofDays dated.year
  have written : text moment = moment.date.text ++ 'T' :: (moment.clockText
      ++ (fractionText (moment.nanos % Moment.secondNanos) ++ ['Z'])) := by
    simp only [text, List.append_assoc]
    rfl
  have date := date?_text valid (ends_cons (by decide : Text.isDigit 'T' = false)
    (moment.clockText ++ (fractionText (moment.nanos % Moment.secondNanos) ++ ['Z'])))
  have clock := clock?_text dated (ends_cons zone []) (by decide)
  have offset : offset? (Text.trimStart ['Z']) = some (0, []) := by decide
  have seconds : moment.date.toDays * Moment.daySeconds + moment.stamped.secondOfDay - 0 =
      moment.stamped.seconds := by
    rw [← moment.date_stamped, Moment.date, Date.toDays_ofDays, Moment.secondOfDay,
      Moment.daySeconds]
    omega
  have divider : isDivider 'T' = true := by decide
  have blank : Text.isAllBlank [] = true := rfl
  have year : Date.isYear (Moment.date ⟨moment.stamped.seconds, moment.stamped.nanos⟩).year =
      true := (congrArg (fun date => Date.isYear date.year) moment.date_stamped).trans dated.year
  simp only [read?, written, Option.bind_eq_bind, date, Option.bind_some, clock, offset, seconds,
    divider, blank, year, Bool.and_true, if_true, Bool.not_true, Bool.false_eq_true, if_false]

end Stamp

end Reckoner
