import Reckoner.Answer
import Reckoner.Proofs.Decimal.Magnitude
import Reckoner.Proofs.Text.Digits

/-!
# Doubles as they are shown

A finite double is shown as a number (`Answer.isNumeral_text`): digits, at most one point between
them, and perhaps a minus sign and an exponent. An infinite one is shown as a word
(`Answer.text_of_isInf`).
-/

namespace Reckoner

/-- Digits, or digits on both sides of a point. -/
inductive Text.IsDecimal : Text → Prop where
  | whole {digits : Text} (proper : IsDigits digits) : IsDecimal digits
  | pointed {digits decimals : Text} (whole : IsDigits digits) (part : IsDigits decimals) :
      IsDecimal (digits ++ '.' :: decimals)

namespace Decimal

/-- Digits are pointed with a digit on each side of the point. -/
theorem isDecimal_pointed {digits : Text} (all : ∀ c ∈ digits, Text.isDigit c = true)
    (places : Nat) : Text.IsDecimal (pointed digits places) := by
  have count : (Text.copies (places + 1 - digits.length) '0' ++ digits).length =
      places + 1 - digits.length + digits.length := by
    rw [List.length_append, Text.copies, List.length_replicate]
  have filled : Text.IsDigits (Text.copies (places + 1 - digits.length) '0' ++ digits) := by
    refine Text.isDigits_append ?_ (fun _ member => Text.isDigit_of_mem_zeros member) all
    apply List.length_pos_iff.mp
    omega
  rw [pointed]
  generalize Text.copies (places + 1 - digits.length) '0' ++ digits = row at count filled
  split
  · exact .whole filled
  · rename_i parted
    rw [List.append_assoc]
    exact .pointed (filled.take (by omega)) (filled.drop (by omega))

theorem isDecimal_plain (d : Decimal) : Text.IsDecimal d.plain := by
  apply isDecimal_pointed
  intro c member
  rcases List.mem_append.mp member with front | zero
  · exact (Text.isDigits_ofNat d.digits).all c front
  · exact Text.isDigit_of_mem_zeros zero

end Decimal

theorem exists_signed (x : Float) (text : Text) :
    ∃ sign, signed x text = sign ++ text ∧ (sign = [] ∨ sign = ['-']) := by
  rw [signed]
  split
  · exact ⟨['-'], rfl, .inr rfl⟩
  · exact ⟨[], rfl, .inl rfl⟩

/-- Plain notation of a finite double has no exponent. -/
theorem plainText_of_finite {x : Float} {value : Dyadic}
    (finite : Magnitude.ofFloat x = .finite value) :
    ∃ body, Text.IsDecimal body ∧ plainText x = signed x body := by
  refine ⟨(shortestDecimal .up value).plain, Decimal.isDecimal_plain _, ?_⟩
  rw [plainText, finite]

/-- **Plain notation of any double**: a decimal or a word, perhaps after a minus sign. -/
theorem exists_plainText (x : Float) :
    ∃ sign body, plainText x = sign ++ body ∧ (sign = [] ∨ sign = ['-']) ∧
      (Text.IsDecimal body ∨ body = undefinedText ∨ body = infiniteText) := by
  cases magnitude : Magnitude.ofFloat x with
  | finite value =>
      obtain ⟨body, decimal, shown⟩ := plainText_of_finite magnitude
      obtain ⟨sign, marked, either⟩ := exists_signed x body
      exact ⟨sign, body, shown.trans marked, either, .inl decimal⟩
  | infinite =>
      obtain ⟨sign, marked, either⟩ := exists_signed x infiniteText
      refine ⟨sign, infiniteText, ?_, either, .inr (.inr rfl)⟩
      rw [plainText, magnitude, ← marked]
  | undefined =>
      refine ⟨[], undefinedText, ?_, .inl rfl, .inr (.inl rfl)⟩
      rw [plainText, magnitude]
      rfl

theorem scientificText_of_finite {x : Float} {value : Dyadic}
    (finite : Magnitude.ofFloat x = .finite value) :
    ∃ body power, Text.IsDecimal body ∧
      scientificText x = signed x (body ++ ['e'] ++ Text.ofInt power) := by
  rw [scientificText, finite]
  exact ⟨_, _, Decimal.isDecimal_pointed (Text.isDigits_ofNat _).all 6, rfl⟩

namespace Answer

/-- A number as it is shown: a decimal, perhaps after a minus sign and before an exponent. -/
def IsNumeral (text : Text) : Prop :=
  ∃ sign body exponent, text = sign ++ body ++ exponent ∧ (sign = [] ∨ sign = ['-']) ∧
    Text.IsDecimal body ∧ (exponent = [] ∨ ∃ power : Int, exponent = 'e' :: Text.ofInt power)

theorem isNumeral_signed (x : Float) {body exponent : Text} (decimal : Text.IsDecimal body)
    (power : exponent = [] ∨ ∃ power : Int, exponent = 'e' :: Text.ofInt power) :
    IsNumeral (signed x (body ++ exponent)) := by
  obtain ⟨sign, marked, either⟩ := exists_signed x (body ++ exponent)
  exact ⟨sign, body, exponent, by rw [marked, List.append_assoc], either, decimal, power⟩

/-- **A finite double is shown as a number.** -/
theorem isNumeral_text {x : Float} (finite : x.isFinite = true) : IsNumeral (text x) := by
  obtain ⟨value, magnitude⟩ := Magnitude.ofFloat_of_isFinite finite
  rw [text]
  split
  · obtain ⟨body, power, decimal, shown⟩ := scientificText_of_finite magnitude
    rw [shown, List.append_assoc]
    exact isNumeral_signed x decimal (.inr ⟨power, rfl⟩)
  · obtain ⟨body, decimal, shown⟩ := plainText_of_finite magnitude
    have numeral := isNumeral_signed x decimal (.inl rfl)
    rw [List.append_nil] at numeral
    rw [shown]
    exact numeral

/-- **An infinite double is shown as a word.** -/
theorem text_of_isInf {x : Float} (infinite : x.isInf = true) :
    text x = "inf".toList ∨ text x = "-inf".toList := by
  have magnitude := Magnitude.ofFloat_of_isInf infinite
  have word : text x = signed x infiniteText := by
    rw [text, scientificText, plainText, magnitude]
    split
    · rfl
    · rfl
  rw [word]
  obtain ⟨sign, marked, rfl | rfl⟩ := exists_signed x infiniteText
  · exact .inl marked
  · exact .inr marked

end Answer

end Reckoner
