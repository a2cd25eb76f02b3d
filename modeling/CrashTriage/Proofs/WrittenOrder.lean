import CrashTriage.Calendar.Text
import CrashTriage.Proofs.CalendarOrder

/-!
# The order of written dates

Stored dates are compared character by character. Between the years 0 and 9999 dates are written
without a sign, and there the order of the texts is the order of the calendar. Every date with a
sign is written before every date without one, which is the calendar's order for the years before
year 0 and not for those after year 9999. Different dates have different texts, so the first and the
last of several dates as written do not depend on the order in which they are compared.
-/

namespace CrashTriage

/-! ### Digits and numerals of one width -/

/-- Digits come in the order of their values. -/
lemma digitChar_lt_iff {m n : Nat} (hm : m < 10) (hn : n < 10) :
    Nat.digitChar m < Nat.digitChar n ↔ m < n := by
  have values : Nat.digitChar m < Nat.digitChar n ↔
      (Nat.digitChar m).toNat < (Nat.digitChar n).toNat := by
    rw [Char.lt_def, UInt32.lt_iff_toNat_lt]
    rfl
  rw [values, Nat.toNat_digitChar_of_lt_ten hm, Nat.toNat_digitChar_of_lt_ten hn]
  omega

/-- Different digits are different characters. -/
lemma digitChar_inj {m n : Nat} (hm : m < 10) (hn : n < 10) :
    Nat.digitChar m = Nat.digitChar n ↔ m = n := by
  rw [← Char.toNat_inj, Nat.toNat_digitChar_of_lt_ten hm, Nat.toNat_digitChar_of_lt_ten hn]
  omega

/-- Numerals of the same width are compared by their values, and what follows them only when these
are equal. -/
lemma textBefore_lastDigits {width m n : Nat} (hm : m < powTen width) (hn : n < powTen width)
    (s t : List Char) :
    textBefore (Numeral.lastDigits width m ++ s) (Numeral.lastDigits width n ++ t)
      = if m = n then textBefore s t else decide (m < n) := by
  induction width generalizing m n s t with
  | zero =>
    have hm0 : m = 0 := Nat.lt_one_iff.1 hm
    have hn0 : n = 0 := Nat.lt_one_iff.1 hn
    rw [if_pos (hm0.trans hn0.symm)]
    rfl
  | succ width ih =>
    rw [powTen_succ] at hm hn
    have front := ih (m := m / 10) (n := n / 10) (by omega) (by omega)
      (Nat.digitChar (m % 10) :: s) (Nat.digitChar (n % 10) :: t)
    have unit : m % 10 < 10 ∧ n % 10 < 10 := ⟨Nat.mod_lt _ (by decide), Nat.mod_lt _ (by decide)⟩
    simp only [Numeral.lastDigits, List.append_assoc, List.singleton_append]
    rw [front, textBefore]
    simp only [digitChar_inj unit.1 unit.2, digitChar_lt_iff unit.1 unit.2]
    by_cases same : m = n
    · subst same
      simp
    · by_cases tens : m / 10 = n / 10
      · have units : ¬ m % 10 = n % 10 := by omega
        have order : m % 10 < n % 10 ↔ m < n := by omega
        simp only [if_pos tens, if_neg units, if_neg same, order]
      · have order : m / 10 < n / 10 ↔ m < n := by omega
        simp only [if_neg tens, if_neg same, order]

/-- Numerals that are filled up to a width which holds their values are compared by these. -/
lemma textBefore_padded {width m n : Nat} (hm : m < powTen width) (hn : n < powTen width)
    (s t : List Char) :
    textBefore (Numeral.padded width m ++ s) (Numeral.padded width n ++ t)
      = if m = n then textBefore s t else decide (m < n) := by
  unfold Numeral.padded
  rw [if_pos hm, if_pos hn, textBefore_lastDigits hm hn]

/-- A number is read back from its digits. -/
lemma ofDigitChars_lastDigits {width n : Nat} (h : n < powTen width) :
    Nat.ofDigitChars 10 (Numeral.lastDigits width n) 0 = n := by
  induction width generalizing n with
  | zero =>
    rw [Nat.lt_one_iff.1 h]
    rfl
  | succ width ih =>
    rw [powTen_succ] at h
    have digit : (Nat.digitChar (n % 10)).toNat = 48 + n % 10 :=
      Nat.toNat_digitChar_of_lt_ten (Nat.mod_lt n (by decide))
    have zero : '0'.toNat = 48 := rfl
    rw [Numeral.lastDigits, Nat.ofDigitChars_append, ih (by omega), Nat.ofDigitChars_cons,
      Nat.ofDigitChars_nil, digit, zero]
    omega

/-- A number is read back from its digits, however many zeros come first. -/
lemma ofDigitChars_padded (width n : Nat) :
    Nat.ofDigitChars 10 (Numeral.padded width n) 0 = n := by
  unfold Numeral.padded
  split
  · rename_i fits
    exact ofDigitChars_lastDigits fits
  · exact Nat.ofDigitChars_toDigits (by decide) (by decide)

lemma padded_inj {width m n : Nat} (h : Numeral.padded width m = Numeral.padded width n) :
    m = n := by
  have read := congrArg (Nat.ofDigitChars 10 · 0) h
  simpa only [ofDigitChars_padded] using read

/-- The order of texts is asymmetric. -/
lemma textBefore_asymm {s t : List Char} (h : textBefore s t = true) : textBefore t s = false := by
  rw [Bool.eq_false_iff]
  intro back
  have loop := textBefore_trans h back
  rw [textBefore_irrefl] at loop
  cases loop

namespace Date

/-! ### Dates in the order of their texts -/

/-- The text of a date does not come after the text of another. -/
def WrittenLE (a b : Date) : Prop := b.isWrittenBefore a = false

lemma WrittenLE.refl (a : Date) : a.WrittenLE a := textBefore_irrefl a.text

lemma WrittenLE.trans {a b c : Date} (hab : a.WrittenLE b) (hbc : b.WrittenLE c) :
    a.WrittenLE c := by
  unfold WrittenLE at *
  rw [Bool.eq_false_iff] at hab ⊢
  intro back
  cases between : b.isWrittenBefore c with
  | true => exact hab (textBefore_trans between back)
  | false =>
    have same : b.text = c.text := textBefore_total between hbc
    apply hab
    rw [isWrittenBefore, same]
    exact back

/-- The earlier written of two dates is one of them and not written after either. -/
lemma writtenMin_spec (a b : Date) :
    (a.writtenMin b = a ∨ a.writtenMin b = b) ∧
      (a.writtenMin b).WrittenLE a ∧ (a.writtenMin b).WrittenLE b := by
  unfold writtenMin
  split
  · rename_i earlier
    exact ⟨.inr rfl, textBefore_asymm earlier, .refl b⟩
  · rename_i later
    exact ⟨.inl rfl, .refl a, Bool.eq_false_iff.2 later⟩

/-- The later written of two dates is one of them and not written before either. -/
lemma writtenMax_spec (a b : Date) :
    (a.writtenMax b = a ∨ a.writtenMax b = b) ∧
      a.WrittenLE (a.writtenMax b) ∧ b.WrittenLE (a.writtenMax b) := by
  unfold writtenMax
  split
  · rename_i later
    exact ⟨.inr rfl, textBefore_asymm later, .refl b⟩
  · rename_i earlier
    exact ⟨.inl rfl, .refl a, Bool.eq_false_iff.2 earlier⟩

/-! ### The order of the texts and the order of the calendar -/

/-- Whether a date is written without a sign: its year has four digits. -/
def IsUnsigned (date : Date) : Prop := 0 ≤ date.year ∧ date.year ≤ 9999

instance (date : Date) : Decidable date.IsUnsigned := inferInstanceAs (Decidable (_ ∧ _))

lemma yearText_of_isUnsigned {date : Date} (h : date.IsUnsigned) :
    yearText date.year = Numeral.padded 4 date.year.natAbs := by
  unfold yearText
  rw [if_neg (Int.not_lt.2 h.1), if_neg (Int.not_lt.2 h.2)]

/-- Between dates without a sign the order of the texts is the order of the calendar. -/
lemma isWrittenBefore_iff_of_isUnsigned {a b : Date} (ha : a.IsUnsigned) (hb : b.IsUnsigned) :
    a.isWrittenBefore b = true ↔ a < b := by
  have years : a.year.natAbs < powTen 4 ∧ b.year.natAbs < powTen 4 := by
    have ten : powTen 4 = 10000 := rfl
    unfold IsUnsigned at ha hb
    omega
  have hundred : powTen 2 = 100 := rfl
  have monthA := month_bounds a
  have monthB := month_bounds b
  have dayA := dayOfMonth_bounds a
  have dayB := dayOfMonth_bounds b
  have shape : a.isWrittenBefore b =
      if a.year.natAbs = b.year.natAbs then
        if a.month.toNat = b.month.toNat then
          if a.dayOfMonth.toNat = b.dayOfMonth.toNat then false
          else decide (a.dayOfMonth.toNat < b.dayOfMonth.toNat)
        else decide (a.month.toNat < b.month.toNat)
      else decide (a.year.natAbs < b.year.natAbs) := by
    unfold isWrittenBefore text
    rw [yearText_of_isUnsigned ha, yearText_of_isUnsigned hb, List.append_assoc, List.append_assoc,
      textBefore_padded years.1 years.2]
    simp only [List.cons_append, textBefore, if_true]
    rw [textBefore_padded (by omega) (by omega), textBefore, if_pos rfl]
    have last := @textBefore_padded 2 a.dayOfMonth.toNat b.dayOfMonth.toNat (by omega) (by omega)
      [] []
    rw [List.append_nil, List.append_nil, textBefore] at last
    rw [last]
  rw [shape, lt_iff_monthIndex, monthIndex_eq a, monthIndex_eq b]
  unfold IsUnsigned at ha hb
  split
  · split
    · split
      · simp
        omega
      · rw [decide_eq_true_iff]
        omega
    · rw [decide_eq_true_iff]
      omega
  · rw [decide_eq_true_iff]
    omega

/-- Between dates without a sign the order of the texts is the order of the calendar, also for dates
that may be the same. -/
lemma writtenLE_iff_of_isUnsigned {a b : Date} (ha : a.IsUnsigned) (hb : b.IsUnsigned) :
    a.WrittenLE b ↔ a ≤ b := by
  unfold WrittenLE
  rw [Bool.eq_false_iff, ne_eq, isWrittenBefore_iff_of_isUnsigned hb ha, lt_def, le_def]
  omega

/-- A date with a sign is written before every date without one. -/
lemma isWrittenBefore_of_signed {a b : Date} (ha : ¬ a.IsUnsigned) (hb : b.IsUnsigned) :
    a.isWrittenBefore b = true := by
  have ten : powTen 4 = 10000 := rfl
  have small : b.year.natAbs < powTen 4 := by
    unfold IsUnsigned at hb
    omega
  obtain ⟨n, digit, rest, first⟩ : ∃ n, n < 10 ∧ ∃ rest, b.text = Nat.digitChar n :: rest := by
    refine ⟨b.year.natAbs / 10 / 10 / 10 % 10, Nat.mod_lt _ (by decide), ?_⟩
    unfold text
    rw [yearText_of_isUnsigned hb, Numeral.padded, if_pos small]
    exact ⟨_, rfl⟩
  obtain ⟨sign, below, rest', signed⟩ :
      ∃ sign : Char, sign.toNat < 48 ∧ ∃ rest, a.text = sign :: rest := by
    unfold text yearText
    by_cases negative : a.year < 0
    · rw [if_pos negative]
      exact ⟨'-', by decide, _, rfl⟩
    · have large : 9999 < a.year := by
        unfold IsUnsigned at ha
        omega
      rw [if_neg negative, if_pos large]
      exact ⟨'+', by decide, _, rfl⟩
  have value := Nat.toNat_digitChar_of_lt_ten digit
  have differ : sign ≠ Nat.digitChar n := by
    intro same
    rw [same, value] at below
    omega
  have before : sign < Nat.digitChar n := by
    rw [Char.lt_def, UInt32.lt_iff_toNat_lt]
    change sign.toNat < (Nat.digitChar n).toNat
    omega
  unfold isWrittenBefore
  rw [signed, first, textBefore, if_neg differ, decide_eq_true_iff]
  exact before

/-- A date up to year 9999 is written before a date without a sign exactly when it is earlier. -/
lemma isWrittenBefore_unsigned_iff {a b : Date} (ha : a.year ≤ 9999) (hb : b.IsUnsigned) :
    a.isWrittenBefore b = true ↔ a < b := by
  by_cases unsigned : a.IsUnsigned
  · exact isWrittenBefore_iff_of_isUnsigned unsigned hb
  · have earlier : a.year < b.year := by
      unfold IsUnsigned at unsigned hb
      omega
    have before : a < b := by
      rw [lt_iff_monthIndex, monthIndex_eq a, monthIndex_eq b]
      have monthA := month_bounds a
      have monthB := month_bounds b
      omega
    exact ⟨fun _ => before, fun _ => isWrittenBefore_of_signed unsigned hb⟩

/-- A date without a sign is written before a date up to year 9999 exactly when it is earlier. -/
lemma unsigned_isWrittenBefore_iff {a b : Date} (ha : a.IsUnsigned) (hb : b.year ≤ 9999) :
    a.isWrittenBefore b = true ↔ a < b := by
  by_cases unsigned : b.IsUnsigned
  · exact isWrittenBefore_iff_of_isUnsigned ha unsigned
  · have after : b < a :=
      (isWrittenBefore_unsigned_iff hb ha).1 (isWrittenBefore_of_signed unsigned ha)
    have written : a.isWrittenBefore b = false :=
      textBefore_asymm (isWrittenBefore_of_signed unsigned ha)
    rw [written]
    constructor
    · intro h
      cases h
    · intro before
      rw [lt_def] at before after
      omega

/-! ### Different dates have different texts -/

/-- Dates with the same text both have a sign or both have none. -/
lemma isUnsigned_of_text_eq {a b : Date} (same : a.text = b.text) (ha : a.IsUnsigned) :
    b.IsUnsigned := by
  refine Decidable.byContradiction fun signed => ?_
  have before : b.isWrittenBefore a = true := isWrittenBefore_of_signed signed ha
  rw [isWrittenBefore, same, textBefore_irrefl] at before
  cases before

/-- Dates whose years are written alike have the same year. -/
lemma year_eq_of_yearText_eq {a b : Date} (unsigned : a.IsUnsigned ↔ b.IsUnsigned)
    (same : yearText a.year = yearText b.year) : a.year = b.year := by
  by_cases ha : a.IsUnsigned
  · have hb := unsigned.1 ha
    rw [yearText_of_isUnsigned ha, yearText_of_isUnsigned hb] at same
    have digits := padded_inj same
    unfold IsUnsigned at ha hb
    omega
  · have hb := mt unsigned.2 ha
    unfold yearText at same
    unfold IsUnsigned at ha hb
    by_cases early : a.year < 0
    · by_cases early' : b.year < 0
      · rw [if_pos early, if_pos early'] at same
        have digits := padded_inj (List.cons.inj same).2
        omega
      · rw [if_pos early, if_neg early', if_pos (show 9999 < b.year by omega)] at same
        exact absurd (List.cons.inj same).1 (by decide)
    · by_cases early' : b.year < 0
      · rw [if_neg early, if_pos (show 9999 < a.year by omega), if_pos early'] at same
        exact absurd (List.cons.inj same).1 (by decide)
      · rw [if_neg early, if_pos (show 9999 < a.year by omega), if_neg early',
          if_pos (show 9999 < b.year by omega)] at same
        have digits := padded_inj (List.cons.inj same).2
        omega

/-- A date is known by its text. -/
theorem text_injective {a b : Date} (same : a.text = b.text) : a = b := by
  have monthA := month_bounds a
  have monthB := month_bounds b
  have dayA := dayOfMonth_bounds a
  have dayB := dayOfMonth_bounds b
  have width {n : Nat} (small : n < 100) : (Numeral.padded 2 n).length = 2 := by
    rw [Numeral.padded, if_pos (show n < powTen 2 from small), Numeral.length_lastDigits]
  have parts := same
  unfold text at parts
  obtain ⟨front, days⟩ := List.append_inj' parts (by
    rw [List.length_cons, List.length_cons, width (by omega), width (by omega)])
  obtain ⟨years, months⟩ := List.append_inj' front (by
    rw [List.length_cons, List.length_cons, width (by omega), width (by omega)])
  have year : a.year = b.year := year_eq_of_yearText_eq
    ⟨isUnsigned_of_text_eq same, isUnsigned_of_text_eq same.symm⟩ years
  have month : a.month = b.month := by
    have digits := padded_inj (List.cons.inj months).2
    omega
  have day : a.dayOfMonth = b.dayOfMonth := by
    have digits := padded_inj (List.cons.inj days).2
    omega
  have reads := ofYearMonthDay?_eq_self a
  rw [year, month, day, ofYearMonthDay?_eq_self b] at reads
  exact (Option.some.inj reads).symm

lemma WrittenLE.antisymm {a b : Date} (hab : a.WrittenLE b) (hba : b.WrittenLE a) : a = b :=
  text_injective (textBefore_total hba hab)

/-- It does not matter in which order the first of three dates is looked for. -/
lemma writtenMin_right_comm (a b c : Date) :
    (a.writtenMin b).writtenMin c = (a.writtenMin c).writtenMin b := by
  -- each side is one of the three dates, and the other side is not written after any of them
  have below (x y z : Date) : ((x.writtenMin y).writtenMin z).WrittenLE
      ((x.writtenMin z).writtenMin y) := by
    obtain ⟨-, left, lowZ⟩ := writtenMin_spec (x.writtenMin y) z
    obtain ⟨-, lowX, lowY⟩ := writtenMin_spec x y
    rcases (writtenMin_spec (x.writtenMin z) y).1 with front | last
    · rw [front]
      rcases (writtenMin_spec x z).1 with first | second
      · rw [first]
        exact left.trans lowX
      · rw [second]
        exact lowZ
    · rw [last]
      exact left.trans lowY
  exact (below a b c).antisymm (below a c b)

/-- It does not matter in which order the last of three dates is looked for. -/
lemma writtenMax_right_comm (a b c : Date) :
    (a.writtenMax b).writtenMax c = (a.writtenMax c).writtenMax b := by
  have above (x y z : Date) : ((x.writtenMax z).writtenMax y).WrittenLE
      ((x.writtenMax y).writtenMax z) := by
    obtain ⟨-, left, highZ⟩ := writtenMax_spec (x.writtenMax y) z
    obtain ⟨-, highX, highY⟩ := writtenMax_spec x y
    rcases (writtenMax_spec (x.writtenMax z) y).1 with front | last
    · rw [front]
      rcases (writtenMax_spec x z).1 with first | second
      · rw [first]
        exact highX.trans left
      · rw [second]
        exact highZ
    · rw [last]
      exact highY.trans left
  exact (above a c b).antisymm (above a b c)

end Date

end CrashTriage
