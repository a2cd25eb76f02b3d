import CrashTriage.Http.IdList
import Mathlib.Data.List.DropRight
import Mathlib.Tactic.Lemma

/-!
# Reading lists of ids

A list of ids is read segment by segment. A segment of blanks counts for nothing, an id between
blanks is read, and the first segment that is neither ends the reading. So a list is read back
however it is written down, the two sides of a comma are read one after the other, and the error is
that of the first bad segment.
-/

namespace CrashTriage

/-! ### Blanks around a text -/

/-- A text of blanks, which may be empty. -/
def IsBlankText (cs : List Char) : Prop := ∀ c ∈ cs, isBlank c = true

instance (cs : List Char) : Decidable (IsBlankText cs) :=
  decidable_of_iff (cs.all isBlank = true) List.all_eq_true

/-- The end of a text is trimmed from the right. -/
lemma trim_eq_rdropWhile (cs : List Char) :
    trim cs = (cs.dropWhile isBlank).rdropWhile isBlank := rfl

/-- Nothing is left of a text exactly when it consists of blanks. -/
lemma trim_eq_nil_iff {cs : List Char} : trim cs = [] ↔ IsBlankText cs := by
  rw [trim_eq_rdropWhile, List.rdropWhile_eq_nil_iff]
  constructor
  · intro rest c member
    rw [← List.takeWhile_append_dropWhile (p := isBlank) (l := cs)] at member
    rcases List.mem_append.1 member with front | back
    · exact List.mem_takeWhile_imp front
    · exact rest c back
  · intro blank c member
    exact blank c ((List.dropWhile_sublist isBlank).subset member)

/-- A text without blanks is what is left of it when blanks are put around it. -/
lemma trim_surrounded {before core after : List Char} (first : IsBlankText before)
    (last : IsBlankText after) (solid : ∀ c ∈ core, isBlank c = false) :
    trim (before ++ core ++ after) = core := by
  cases core with
  | nil =>
    rw [trim_eq_nil_iff, List.append_nil]
    intro c member
    exact (List.mem_append.1 member).elim (first c) (last c)
  | cons c rest =>
    have start : ((before ++ (c :: rest) ++ after).dropWhile isBlank) = (c :: rest) ++ after := by
      rw [List.append_assoc, List.dropWhile_append_of_pos first, List.cons_append,
        List.dropWhile_cons_of_neg]
      rw [solid c List.mem_cons_self]
      exact Bool.false_ne_true
    have inner : (c :: rest).rdropWhile isBlank = c :: rest := by
      rw [List.rdropWhile_eq_self_iff]
      intro nonempty
      rw [solid _ (List.getLast_mem nonempty)]
      exact Bool.false_ne_true
    rw [trim_eq_rdropWhile, start, List.rdropWhile, List.reverse_append,
      List.dropWhile_append_of_pos fun c member => last c (List.mem_reverse.1 member)]
    exact inner

/-! ### Texts that denote integers -/

namespace Numeral

/-- A text of decimal digits, at least one of them. -/
def IsDecimal (cs : List Char) : Prop := cs ≠ [] ∧ ∀ c ∈ cs, c.isDigit = true

/-- A text that denotes an integer: decimal digits, with or without a sign before them. -/
inductive Denotes : List Char → Int → Prop
  | unsigned {digits : List Char} (decimal : IsDecimal digits) :
      Denotes digits (Nat.ofDigitChars 10 digits 0)
  | plus {digits : List Char} (decimal : IsDecimal digits) :
      Denotes ('+' :: digits) (Nat.ofDigitChars 10 digits 0)
  | minus {digits : List Char} (decimal : IsDecimal digits) :
      Denotes ('-' :: digits) (-(Nat.ofDigitChars 10 digits 0))

lemma natural?_eq_some_iff {cs : List Char} {n : Nat} :
    natural? cs = some n ↔ IsDecimal cs ∧ n = Nat.ofDigitChars 10 cs 0 := by
  have digits : IsDecimal cs ↔ cs ≠ [] ∧ cs.all Char.isDigit = true := by
    rw [IsDecimal, List.all_eq_true]
  rw [natural?, digits]
  by_cases decimal : cs ≠ [] ∧ cs.all Char.isDigit = true
  · rw [if_pos decimal, Option.some.injEq, eq_comm]
    exact (and_iff_right decimal).symm
  · rw [if_neg decimal]
    constructor
    · intro read
      cases read
    · intro both
      exact absurd both.1 decimal

lemma integer?_eq_some_iff {cs : List Char} {n : Int} : integer? cs = some n ↔ Denotes cs n := by
  constructor
  · intro read
    unfold integer? at read
    split at read
    · obtain ⟨value, digits, rfl⟩ := Option.map_eq_some_iff.1 read
      obtain ⟨decimal, rfl⟩ := natural?_eq_some_iff.1 digits
      exact .plus decimal
    · obtain ⟨value, digits, rfl⟩ := Option.map_eq_some_iff.1 read
      obtain ⟨decimal, rfl⟩ := natural?_eq_some_iff.1 digits
      exact .minus decimal
    · obtain ⟨value, digits, rfl⟩ := Option.map_eq_some_iff.1 read
      obtain ⟨decimal, rfl⟩ := natural?_eq_some_iff.1 digits
      exact .unsigned decimal
  · intro denotes
    cases denotes with
    | plus decimal =>
      exact Option.map_eq_some_iff.2 ⟨_, natural?_eq_some_iff.2 ⟨decimal, rfl⟩, rfl⟩
    | minus decimal =>
      exact Option.map_eq_some_iff.2 ⟨_, natural?_eq_some_iff.2 ⟨decimal, rfl⟩, rfl⟩
    | unsigned decimal =>
      have value := natural?_eq_some_iff.2 ⟨decimal, rfl⟩
      unfold integer?
      -- a digit is no sign
      split
      · exact absurd (decimal.2 '+' List.mem_cons_self) (by decide)
      · exact absurd (decimal.2 '-' List.mem_cons_self) (by decide)
      · rw [value]
        rfl

lemma int64?_eq_some_iff {cs : List Char} {n : Int} :
    int64? cs = some n ↔ Denotes cs n ∧ FitsInt64 n := by
  unfold int64?
  rw [Option.filter_eq_some_iff, integer?_eq_some_iff, decide_eq_true_iff]

/-- An integer is printed with digits and perhaps a minus sign. -/
lemma isDigit_of_mem_ofInt {n : Int} {c : Char} (member : c ∈ ofInt n) :
    c = '-' ∨ c.isDigit = true := by
  cases n with
  | ofNat n => exact .inr (Nat.isDigit_of_mem_toDigits (by decide) (by decide) member)
  | negSucc n =>
    rcases List.mem_cons.1 member with sign | member
    · exact .inl sign
    · exact .inr (Nat.isDigit_of_mem_toDigits (by decide) (by decide) member)

/-- No character of a printed integer is blank. -/
lemma isBlank_of_mem_ofInt {n : Int} {c : Char} (member : c ∈ ofInt n) : isBlank c = false := by
  rcases isDigit_of_mem_ofInt member with rfl | digit
  · decide
  · rw [Char.isDigit_iff_toNat] at digit
    have low : 48 ≤ c.toNat := digit.1
    have high : c.toNat ≤ 57 := digit.2
    simp [isBlank, blankRanges]
    omega

lemma denotes_ofInt (n : Int) : Denotes (ofInt n) n :=
  integer?_eq_some_iff.1 (integer?_ofInt n)

lemma ofInt_ne_nil (n : Int) : ofInt n ≠ [] := by
  intro empty
  have read := integer?_ofInt n
  rw [empty] at read
  cases read

end Numeral

/-- A text that is read as an id: it denotes an integer of 64 bits. -/
def IsIdText (cs : List Char) : Prop := ∃ id, Numeral.Denotes cs id ∧ Numeral.FitsInt64 id

lemma int64?_eq_none_iff {cs : List Char} : Numeral.int64? cs = none ↔ ¬ IsIdText cs := by
  rw [Option.eq_none_iff_forall_ne_some, IsIdText, not_exists]
  simp only [ne_eq, Numeral.int64?_eq_some_iff]

/-! ### Segment by segment -/

/-- The id in a piece of text, or the error that quotes it. -/
def readId (field : String) (piece : List Char) : Except ApiError Int :=
  match Numeral.int64? piece with
  | some id => .ok id
  | none => .error (invalidId field piece)

/-- The ids in segments, each without the blanks around it and those of blanks left out. -/
def readSegments (field : String) (segments : List (List Char)) : Except ApiError (List Int) :=
  ((segments.map trim).filter (!·.isEmpty)).mapM (readId field)

section
variable {field : String} {segment : List Char} {segments : List (List Char)}

lemma idList_eq (field : String) (cs : List Char) :
    idList field cs = readSegments field (splitOn ',' cs) := rfl

lemma readSegments_nil : readSegments field [] = .ok [] := rfl

lemma readSegments_append (first rest : List (List Char)) :
    readSegments field (first ++ rest) =
      readSegments field first >>= fun ids => (ids ++ ·) <$> readSegments field rest := by
  unfold readSegments
  rw [List.map_append, List.filter_append, List.mapM_append]
  simp only [bind_pure_comp]

/-- A segment of blanks counts for nothing. -/
lemma readSegments_of_blank (blank : IsBlankText segment) :
    readSegments field (segment :: segments) = readSegments field segments := by
  unfold readSegments
  rw [List.map_cons, trim_eq_nil_iff.2 blank]
  rfl

/-- Any other segment is read before the rest. -/
lemma readSegments_cons (solid : ¬ IsBlankText segment) :
    readSegments field (segment :: segments) =
      readId field (trim segment) >>= fun id => (id :: ·) <$> readSegments field segments := by
  have kept : (!(trim segment).isEmpty) = true := by
    rw [Bool.not_eq_true', List.isEmpty_eq_false_iff]
    exact mt trim_eq_nil_iff.1 solid
  unfold readSegments
  rw [List.map_cons, List.filter_cons, if_pos kept, List.mapM_cons]
  simp only [bind_pure_comp]

/-- An id between blanks is read. -/
lemma readSegments_of_id {id : Int} {ids : List Int} (solid : ¬ IsBlankText segment)
    (denotes : Numeral.Denotes (trim segment) id) (fits : Numeral.FitsInt64 id)
    (rest : readSegments field segments = .ok ids) :
    readSegments field (segment :: segments) = .ok (id :: ids) := by
  rw [readSegments_cons solid, readId, Numeral.int64?_eq_some_iff.2 ⟨denotes, fits⟩, rest]
  rfl

/-- A segment that is neither blank nor an id between blanks. -/
def IsBadSegment (segment : List Char) : Prop := ¬ IsBlankText segment ∧ ¬ IsIdText (trim segment)

/-- A bad segment ends the reading. -/
lemma readSegments_of_bad (bad : IsBadSegment segment) :
    readSegments field (segment :: segments) = .error (invalidId field (trim segment)) := by
  rw [readSegments_cons bad.1, readId, int64?_eq_none_iff.2 bad.2]
  rfl

/-- A segment that is not bad is passed, and reading fails behind it as it does without it. -/
lemma readSegments_cons_eq_error_iff (good : ¬ IsBadSegment segment) {error : ApiError} :
    readSegments field (segment :: segments) = .error error ↔
      readSegments field segments = .error error := by
  by_cases blank : IsBlankText segment
  · rw [readSegments_of_blank blank]
  · obtain ⟨id, denotes, fits⟩ := not_not.1 fun bad => good ⟨blank, bad⟩
    cases rest : readSegments field segments with
    | ok ids => simp [readSegments_of_id blank denotes fits rest]
    | error failure =>
      rw [readSegments_cons blank, readId, Numeral.int64?_eq_some_iff.2 ⟨denotes, fits⟩, rest]
      rfl

/-- Reading fails exactly when there is a bad segment. -/
lemma readSegments_fails_iff :
    (∃ error, readSegments field segments = .error error) ↔
      ∃ segment ∈ segments, IsBadSegment segment := by
  induction segments with
  | nil => simp [readSegments_nil]
  | cons first rest ih =>
    by_cases bad : IsBadSegment first
    · simp [readSegments_of_bad bad, bad]
    · simp [readSegments_cons_eq_error_iff bad, bad, ih]

/-- The error is that of the first bad segment. -/
lemma readSegments_eq_error_iff {error : ApiError} :
    readSegments field segments = .error error ↔
      ∃ before segment after, segments = before ++ segment :: after ∧
        (∀ other ∈ before, ¬ IsBadSegment other) ∧ IsBadSegment segment ∧
        error = invalidId field (trim segment) := by
  induction segments with
  | nil => simp [readSegments_nil]
  | cons first rest ih =>
    by_cases bad : IsBadSegment first
    · rw [readSegments_of_bad bad]
      constructor
      · intro same
        exact ⟨[], first, rest, rfl, by simp, bad, (Except.error.inj same).symm⟩
      · rintro ⟨before, segment, after, cut, passed, -, rfl⟩
        cases before with
        | nil =>
          obtain ⟨rfl, rfl⟩ := List.cons.inj cut
          rfl
        | cons other before =>
          obtain ⟨rfl, -⟩ := List.cons.inj cut
          exact absurd bad (passed first List.mem_cons_self)
    · rw [readSegments_cons_eq_error_iff bad, ih]
      constructor
      · rintro ⟨before, segment, after, rfl, passed, found⟩
        exact ⟨first :: before, segment, after, rfl, List.forall_mem_cons.2 ⟨bad, passed⟩, found⟩
      · rintro ⟨before, segment, after, cut, passed, found⟩
        cases before with
        | nil =>
          obtain ⟨rfl, rfl⟩ := List.cons.inj cut
          exact absurd found.1 bad
        | cons other before =>
          obtain ⟨rfl, rfl⟩ := List.cons.inj cut
          exact ⟨before, segment, after, rfl, (List.forall_mem_cons.1 passed).2, found⟩

/-! ### Lists that are written down -/

/-- Segments that write a list of ids down: each id in decimal with blanks around it, in order, and
any segments of blanks between them. -/
inductive Writes : List Int → List (List Char) → Prop
  | nil : Writes [] []
  | blank {ids : List Int} {segments : List (List Char)} {segment : List Char}
      (blank : IsBlankText segment) (rest : Writes ids segments) : Writes ids (segment :: segments)
  | id {ids : List Int} {segments : List (List Char)} {before after : List Char} (id : Int)
      (first : IsBlankText before) (last : IsBlankText after) (rest : Writes ids segments) :
      Writes (id :: ids) ((before ++ Numeral.ofInt id ++ after) :: segments)

/-- Ids that are written down in segments are read from them. -/
lemma Writes.readSegments {ids : List Int} (written : Writes ids segments)
    (fit : ∀ id ∈ ids, Numeral.FitsInt64 id) : readSegments field segments = .ok ids := by
  induction written with
  | nil => exact readSegments_nil
  | blank blank _ ih => rw [readSegments_of_blank blank, ih fit]
  | @id ids segments before after id first last _ ih =>
    have trimmed : trim (before ++ Numeral.ofInt id ++ after) = Numeral.ofInt id :=
      trim_surrounded first last fun c => Numeral.isBlank_of_mem_ofInt
    have solid : ¬ IsBlankText (before ++ Numeral.ofInt id ++ after) := by
      rw [← trim_eq_nil_iff, trimmed]
      exact Numeral.ofInt_ne_nil id
    obtain ⟨fits, others⟩ := List.forall_mem_cons.1 fit
    have denotes : Numeral.Denotes (trim (before ++ Numeral.ofInt id ++ after)) id := by
      rw [trimmed]
      exact Numeral.denotes_ofInt id
    exact readSegments_of_id solid denotes fits (ih others)

/-- The segments contain no comma. -/
lemma Writes.comma_notMem {ids : List Int} (written : Writes ids segments) :
    ∀ segment ∈ segments, ',' ∉ segment := by
  have solid {cs : List Char} (blank : IsBlankText cs) : ',' ∉ cs := by
    intro member
    cases blank ',' member
  induction written with
  | nil => simp
  | blank blank _ ih => exact List.forall_mem_cons.2 ⟨solid blank, ih⟩
  | id id first last _ ih =>
    refine List.forall_mem_cons.2 ⟨?_, ih⟩
    have printed : ',' ∉ Numeral.ofInt id := by
      intro member
      rcases Numeral.isDigit_of_mem_ofInt member with sign | digit
      · cases sign
      · cases digit
    simp [solid first, solid last, printed]

/-- Segments without commas are read from the text that they make up with commas between them. -/
lemma idList_intercalate (apart : ∀ segment ∈ segments, ',' ∉ segment) :
    idList field ([','].intercalate segments) = readSegments field segments := by
  cases segments with
  | nil => rfl
  | cons first rest => rw [idList_eq, splitOn_intercalate (List.cons_ne_nil first rest) apart]

end

/-! ### What is read -/

/-- Lists of ids are read exactly as they are written. Ids of 64 bits that are written down in
decimal, in order, with blanks around them and blank segments between them, are read back. What is
read on both sides of a comma is read one after the other, and the error is that of the first side
that has one. Reading fails exactly when some segment is neither blank nor an optional sign with
decimal digits for an integer of 64 bits between blanks; the error names the field and quotes the
first such segment without the blanks around it. -/
theorem id_lists_are_read_exactly (field : String) :
    (∀ ids segments, (∀ id ∈ ids, Numeral.FitsInt64 id) → Writes ids segments →
      idList field ([','].intercalate segments) = .ok ids) ∧
    (∀ first rest : List Char,
      idList field (first ++ ',' :: rest) =
        match idList field first, idList field rest with
        | .ok ids, .ok more => .ok (ids ++ more)
        | .error error, _ => .error error
        | .ok _, .error error => .error error) ∧
    (∀ text, (∃ error, idList field text = .error error) ↔
      ∃ segment ∈ splitOn ',' text, IsBadSegment segment) ∧
    ∀ text error, idList field text = .error error ↔
      ∃ before segment after, splitOn ',' text = before ++ segment :: after ∧
        (∀ other ∈ before, ¬ IsBadSegment other) ∧ IsBadSegment segment ∧
        error = .validation
          ("invalid id in " ++ field ++ ": " ++ String.ofList (quoted (trim segment))) := by
  refine ⟨?_, ?_, ?_, ?_⟩
  · intro ids segments fit written
    rw [idList_intercalate written.comma_notMem]
    exact written.readSegments fit
  · intro first rest
    rw [idList_eq, splitOn_append_cons, readSegments_append, ← idList_eq, ← idList_eq]
    cases idList field first with
    | error error => rfl
    | ok ids => cases idList field rest <;> rfl
  · intro text
    exact readSegments_fails_iff
  · intro text error
    exact readSegments_eq_error_iff

/-- The least and the greatest id, with blanks and empty segments around them. -/
def extremeIds : List Char := " -9223372036854775808\t,, ,9223372036854775807".toList

/-- The least and the greatest id are read, and so is what follows after one more comma. The number
after the greatest id is refused, before anything else that is no id. -/
theorem id_lists_of_extremes :
    idList "releases" extremeIds = .ok [Numeral.minInt64, Numeral.maxInt64] ∧
      idList "releases" (extremeIds ++ ',' :: "+07,".toList)
        = .ok [Numeral.minInt64, Numeral.maxInt64, 7] ∧
      idList "releases" "+07, 9223372036854775808 ,x".toList
        = .error (.validation "invalid id in releases: \"9223372036854775808\"") := by
  obtain ⟨read, joined, -, refused⟩ := id_lists_are_read_exactly "releases"
  have extremes : idList "releases" extremeIds
      = .ok [Numeral.minInt64, Numeral.maxInt64] := by
    have text : [','].intercalate [[' '] ++ Numeral.ofInt Numeral.minInt64 ++ ['\t'], [], [' '],
        [] ++ Numeral.ofInt Numeral.maxInt64 ++ []] = extremeIds := by decide +kernel
    rw [← text]
    refine read _ _ (by decide) (.id _ (by decide) (by decide) ?_)
    exact .blank (by decide) (.blank (by decide) (.id _ (by decide) (by decide) .nil))
  have seven : idList "releases" "+07,".toList = .ok [7] := rfl
  refine ⟨extremes, ?_, ?_⟩
  · rw [joined, extremes, seven]
    rfl
  · refine (refused _ _).2 ⟨["+07".toList], " 9223372036854775808 ".toList, ["x".toList],
      by decide +kernel, ?_, ⟨by decide, int64?_eq_none_iff.1 (by decide +kernel)⟩,
      by decide +kernel⟩
    intro other member
    rw [List.mem_singleton.1 member]
    exact fun bad => bad.2 ⟨7, Numeral.int64?_eq_some_iff.1 rfl⟩

end CrashTriage
