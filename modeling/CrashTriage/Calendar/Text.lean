import CrashTriage.Calendar.Date
import CrashTriage.Text.Numeral

/-!
# Dates as text

The written form of a date, the order of written forms, and the reading of one. Years 0 to 9999
have four digits and every other year has a sign and at least four; within the four-digit years
the order of the texts is the order of the dates, and outside them it is not.
-/

namespace CrashTriage

/-- The written form of a year. -/
def yearText (year : Int) : List Char :=
  if year < 0 then '-' :: Numeral.padded 4 year.natAbs
  else if 9999 < year then '+' :: Numeral.padded 4 year.natAbs
  else Numeral.padded 4 year.natAbs

/-- Whether one text comes strictly before another, character by character. -/
def textBefore : List Char → List Char → Bool
  | _, [] => false
  | [], _ :: _ => true
  | a :: as, b :: bs => if a = b then textBefore as bs else decide (a < b)

namespace Date

/-- The written form of a date: year, month and day, divided by hyphens. -/
def text (date : Date) : List Char :=
  yearText date.year ++ '-' :: Numeral.padded 2 date.month.toNat
    ++ '-' :: Numeral.padded 2 date.dayOfMonth.toNat

instance : ToString Date := ⟨fun date => String.ofList date.text⟩

/-- The date that a text is the written form of. -/
def ofText? (cs : List Char) : Option Date := do
  let unsigned := match cs with
    | '+' :: rest => rest
    | '-' :: rest => rest
    | _ => cs
  match unsigned.dropWhile Char.isDigit with
  | ['-', m₁, m₂, '-', d₁, d₂] =>
    let size ← Numeral.natural? (unsigned.takeWhile Char.isDigit)
    let month ← Numeral.natural? [m₁, m₂]
    let day ← Numeral.natural? [d₁, d₂]
    let year : Int := if cs.head? = some '-' then -size else size
    (ofYearMonthDay? year month day).filter fun date => date.text = cs
  | _ => none

/-! ### The order of the written forms -/

/-- Whether the written form of `a` comes strictly before that of `b`. -/
def isWrittenBefore (a b : Date) : Bool := textBefore a.text b.text

/-- The one of two dates whose written form comes first. -/
def writtenMin (a b : Date) : Date := if b.isWrittenBefore a then b else a

/-- The one of two dates whose written form comes last. -/
def writtenMax (a b : Date) : Date := if a.isWrittenBefore b then b else a

end Date

/-! ### Texts are linearly ordered -/

theorem textBefore_irrefl (a : List Char) : textBefore a a = false := by
  induction a with
  | nil => rfl
  | cons x a ih => simp [textBefore, ih]

theorem textBefore_trans {a b c : List Char} (hab : textBefore a b = true)
    (hbc : textBefore b c = true) : textBefore a c = true := by
  induction a generalizing b c with
  | nil => cases b <;> cases c <;> simp_all [textBefore]
  | cons x a ih =>
    cases b with
    | nil => simp [textBefore] at hab
    | cons y b =>
      cases c with
      | nil => simp [textBefore] at hbc
      | cons z c =>
        simp only [textBefore] at *
        by_cases hxy : x = y
        · subst hxy
          by_cases hyz : x = z
          · subst hyz; simp_all; exact ih hab hbc
          · simp_all
        · by_cases hyz : y = z
          · subst hyz; simp_all
          · have xy : x < y := by simpa [hxy] using hab
            have yz : y < z := by simpa [hyz] using hbc
            have xz : x < z := Char.lt_trans xy yz
            have : x ≠ z := by rintro rfl; exact Char.lt_irrefl _ xz
            simp [this, xz]

theorem textBefore_total {a b : List Char} (hab : textBefore a b = false)
    (hba : textBefore b a = false) : a = b := by
  induction a generalizing b with
  | nil => cases b <;> simp_all [textBefore]
  | cons x a ih =>
    cases b with
    | nil => simp [textBefore] at hba
    | cons y b =>
      simp only [textBefore] at *
      by_cases hxy : x = y
      · subst hxy; simp_all; exact ih hab hba
      · have hyx : ¬ y = x := fun h => hxy h.symm
        simp only [hxy, hyx, if_false, decide_eq_false_iff_not] at hab hba
        exact absurd (Char.le_antisymm (Char.not_lt.1 hba) (Char.not_lt.1 hab)) hxy

end CrashTriage
