import BoxOffice.Instant.Text
import BoxOffice.Proofs.Digits

/-!
Texts of moments. A moment is written with a year of four digits or more, a leap second as the
second after the one that it prolongs, and as many digits of its fraction as it needs. Each part is
read by itself, with the others behind it, and gives back the number that was written. Second 60 can
only be a leap second, but any other second is read as a second of its own: so a leap second that
does not end a minute is taken for the second that follows.
-/

namespace BoxOffice.Instant

open Text Calendar

/-! ### Numbers and separators -/

theorem dropBlank_cons {c : Char} (notBlank : isBlank c = false) (cs : List Char) :
    dropBlank (c :: cs) = c :: cs := by
  rw [dropBlank, List.dropWhile_cons, notBlank]
  rfl

theorem isBlank_digitChar {d : Nat} (small : d < 10) : isBlank (digitChar d) = false := by
  revert d
  decide

theorem separator?_cons {c : Char} (notBlank : isBlank c = false) (cs : List Char) :
    separator? c (c :: cs) = some cs := by
  rw [separator?, dropBlank_cons notBlank]
  exact if_pos rfl

variable {ds : List Nat} {rest : List Char}

/-- A number with as many digits as are admitted is read, whatever follows. -/
theorem number?_some (digits : ∀ d ∈ ds, d < 10) (some : ds ≠ []) (rest : List Char) :
    number? (.some ds.length) (ds.map digitChar ++ rest) = .some (ofDigits 10 ds, rest) := by
  obtain ⟨d, others, rfl⟩ := List.exists_cons_of_ne_nil some
  have taken : (d :: (others ++ (spanDigits rest).1)).take (d :: others).length = d :: others :=
    List.take_left
  rw [number?, spanDigits_append_fst digits rest]
  simp only [List.cons_append, taken]
  rw [List.drop_left' (List.length_map digitChar)]

/-- A number of any length is read to its end. -/
theorem number?_none (digits : ∀ d ∈ ds, d < 10) (some : ds ≠ []) (ends : EndsDigits rest) :
    number? none (ds.map digitChar ++ rest) = .some (ofDigits 10 ds, rest) := by
  obtain ⟨d, others, rfl⟩ := List.exists_cons_of_ne_nil some
  simp only [number?, spanDigits_append digits ends]
  rw [List.drop_left' (List.length_map digitChar)]

theorem shortNumber?_padded {n : Nat} (small : n < 100) (rest : List Char) :
    shortNumber? (padded 10 2 n ++ rest) = some (n, rest) := by
  have digits : ∀ d ∈ fixedDigits 10 2 n, d < 10 := lt_of_mem_fixedDigits (by decide)
  have notBlank : dropBlank (padded 10 2 n ++ rest) = padded 10 2 n ++ rest :=
    dropBlank_cons (isBlank_digitChar (Nat.mod_lt _ (by decide))) _
  rw [shortNumber?, notBlank, padded]
  refine (number?_some digits (by simp [fixedDigits]) rest).trans ?_
  rw [ofDigits_fixedDigits_of_lt small]

/-! ### Years -/

theorem year?_of_digit {d : Nat} (small : d < 10) (cs : List Char) :
    year? (digitChar d :: cs) =
      (number? (some 4) (digitChar d :: cs)).map fun (n, rest) => ((n : Int), rest) := by
  obtain ⟨noMinus, noPlus⟩ := digitChar_ne_sign small
  rw [year?, dropBlank_cons (isBlank_digitChar small)]
  simp [noMinus, noPlus]

theorem year?_yearChars (year : Int) (ends : EndsDigits rest) :
    year? (yearChars year ++ rest) = some (year, rest) := by
  unfold yearChars
  split
  next inRange =>
    have small : year.toNat < 10 ^ 4 := by omega
    have digits : ∀ d ∈ fixedDigits 10 4 year.toNat, d < 10 := lt_of_mem_fixedDigits (by decide)
    have read := number?_some digits (by simp [fixedDigits]) rest
    rw [ofDigits_fixedDigits_of_lt small, length_fixedDigits] at read
    refine (year?_of_digit (Nat.mod_lt _ (by decide)) _).trans ?_
    show (number? (some 4) (padded 10 4 year.toNat ++ rest)).map _ = _
    rw [padded, read]
    simp [inRange.1]
  next outOfRange =>
    obtain ⟨ds, written, digits, some, value⟩ := exists_decimalAtLeast_eq 4 year.natAbs
    have read := number?_none digits some ends
    split
    next low =>
      rw [List.cons_append, year?, dropBlank_cons (by decide), written]
      simp only [read, Option.map_some, value]
      congr 2
      omega
    next high =>
      rw [List.cons_append, year?, dropBlank_cons (by decide), written]
      simp only [read, Option.map_some, value]
      congr 2
      omega

/-! ### Fractions -/

theorem fraction?_padded {width n : Nat} (pos : 0 < width) (atMost : width ≤ 9)
    (small : n < 10 ^ width) (ends : EndsDigits rest) :
    fraction? ('.' :: padded 10 width n ++ rest) = some (n * 10 ^ (9 - width), rest) := by
  have digits : ∀ d ∈ fixedDigits 10 width n, d < 10 := lt_of_mem_fixedDigits (by decide)
  have length := length_fixedDigits 10 width n
  have value := ofDigits_fixedDigits_of_lt small
  rw [List.cons_append, padded]
  generalize fixedDigits 10 width n = ds at digits length value
  subst length value
  obtain ⟨d, others, rfl⟩ := List.exists_cons_of_length_pos pos
  rw [fraction?, spanDigits_append digits ends]
  simp only [List.take_of_length_le atMost]
  rfl

theorem fraction?_fractionChars {nano : Nat} (small : nano < 1000000000) (ends : EndsDigits rest)
    (noPoint : rest.head? ≠ some '.') :
    fraction? (fractionChars nano ++ rest) = some (nano, rest) := by
  unfold fractionChars
  split
  next none =>
    rw [List.nil_append, none]
    unfold fraction?
    split
    · simp at noPoint
    · rfl
  · split
    next millis =>
      rw [fraction?_padded (by decide) (by decide) (by omega) ends]
      congr 2
      omega
    next =>
      split
      next micros =>
        rw [fraction?_padded (by decide) (by decide) (by omega) ends]
        congr 2
        omega
      next =>
        rw [fraction?_padded (by decide) (by decide) small ends]
        congr 2
        omega

/-! ### Moments -/

/-- A leap second ends a minute. -/
def ProperLeap (t : Instant) : Prop := 1000000000 ≤ t.nano → t.second % 60 = 59

instance (t : Instant) : Decidable t.ProperLeap :=
  inferInstanceAs (Decidable (1000000000 ≤ t.nano → t.second % 60 = 59))

/-- The moment with the same text that is no leap second, unless one that ends a minute. -/
def normalLeap (t : Instant) : Instant :=
  if inside : 1000000000 ≤ t.nano ∧ t.second % 60 ≠ 59 then
    have inDay := t.second_lt
    have fits := t.nano_lt
    ⟨t.date, t.second + 1, t.nano - 1000000000, by omega, by omega⟩
  else t

theorem normalLeap_eq_self_iff {t : Instant} : t.normalLeap = t ↔ t.ProperLeap := by
  unfold normalLeap ProperLeap
  split
  next inside =>
    refine ⟨fun same => ?_, fun proper => absurd (proper inside.1) inside.2⟩
    have sameSecond : t.second + 1 = t.second := congrArg second same
    omega
  next outside =>
    have proper : 1000000000 ≤ t.nano → t.second % 60 = 59 := by omega
    exact iff_of_true rfl proper

theorem eq_of_parts {t u : Instant} (date : t.date = u.date) (second : t.second = u.second)
    (nano : t.nano = u.nano) : t = u := by
  cases t
  cases u
  simp_all

theorem date_normalLeap (t : Instant) : t.normalLeap.date = t.date := by
  unfold normalLeap
  split <;> rfl

/-- The reading of a clock gives the second of the day again, and a leap second as the last second
of its minute or as the one that follows. -/
theorem clock?_written (t : Instant) :
    clock? (t.second / 3600) (t.second / 60 % 60)
        (t.second % 60 + if decide (1000000000 ≤ t.nano) then 1 else 0)
        (if decide (1000000000 ≤ t.nano) then t.nano - 1000000000 else t.nano) =
      some (t.normalLeap.second, t.normalLeap.nano) := by
  have inDay := t.second_lt
  have inRange : t.second / 3600 < 24 ∧ t.second / 60 % 60 < 60 := by omega
  unfold normalLeap
  by_cases leap : 1000000000 ≤ t.nano
  · by_cases last : t.second % 60 = 59
    · simp only [clock?, leap, decide_true, if_true, last]
      rw [if_pos ⟨inRange.1, inRange.2, Nat.le_refl 60⟩, dif_neg (by simp)]
      congr 2 <;> omega
    · rw [dif_pos ⟨leap, last⟩]
      simp only [clock?, leap, decide_true, if_true]
      rw [if_pos ⟨inRange.1, inRange.2, by omega⟩, if_neg (by omega)]
      congr 2
      omega
  · simp only [clock?, leap, decide_false, Bool.false_eq_true, if_false, Nat.add_zero]
    rw [if_pos ⟨inRange.1, inRange.2, by omega⟩, if_neg (by omega), dif_neg (by simp)]
    congr 2
    omega

theorem bind_of_eq_some {α β : Type} {first : Option α} {a : α} (eq : first = some a)
    (next : α → Option β) : (first >>= next) = next a := by
  rw [eq]
  rfl

theorem ofChars?_toChars (t : Instant) : ofChars? t.toChars = some t.normalLeap := by
  have inDay := t.second_lt
  have fits := t.nano_lt
  have monthSmall : t.date.month < 100 := Nat.lt_of_le_of_lt t.date.month_le (by decide)
  have daySmall : t.date.day < 100 :=
    Nat.lt_of_le_of_lt (Nat.le_trans t.date.day_le (daysInMonth_le _ _)) (by decide)
  have clock := t.clock?_written
  -- What is written of a leap second is the next second, with its nanoseconds from there on.
  generalize seconds_eq :
    (t.second % 60 + if decide (1000000000 ≤ t.nano) then 1 else 0) = seconds at clock
  generalize nanos_eq :
    (if decide (1000000000 ≤ t.nano) then t.nano - 1000000000 else t.nano) = nanos at clock
  have secondsSmall : seconds < 100 := by
    subst seconds_eq
    split <;> omega
  have nanosSmall : nanos < 1000000000 := by
    subst nanos_eq
    simp only [decide_eq_true_eq]
    split <;> omega
  have written : t.toChars =
      yearChars t.date.year ++ '-' :: (padded 10 2 t.date.month ++ '-' :: (padded 10 2 t.date.day ++
        'T' :: (padded 10 2 (t.second / 3600) ++ ':' :: (padded 10 2 (t.second / 60 % 60) ++ ':' ::
          (padded 10 2 seconds ++ (fractionChars nanos ++ ['Z'])))))) := by
    simp only [toChars, dateChars, timeChars, List.append_assoc, List.cons_append, seconds_eq,
      nanos_eq]
  have minus (cs : List Char) : EndsDigits ('-' :: cs) := endsDigits_cons rfl cs
  have zed : EndsDigits ['Z'] := endsDigits_cons rfl []
  -- Date, clock and fraction are read one after the other, each up to what is behind it.
  rw [written, ofChars?]
  refine (bind_of_eq_some (year?_yearChars _ (minus _)) _).trans ?_
  refine (bind_of_eq_some (separator?_cons (by decide) _) _).trans ?_
  refine (bind_of_eq_some (shortNumber?_padded monthSmall _) _).trans ?_
  refine (bind_of_eq_some (separator?_cons (by decide) _) _).trans ?_
  refine (bind_of_eq_some (shortNumber?_padded daySmall _) _).trans ?_
  refine (bind_of_eq_some rfl _).trans ?_
  refine (bind_of_eq_some (shortNumber?_padded (by omega) _) _).trans ?_
  refine (bind_of_eq_some (separator?_cons (by decide) _) _).trans ?_
  refine (bind_of_eq_some (shortNumber?_padded (by omega) _) _).trans ?_
  refine (bind_of_eq_some (separator?_cons (by decide) _) _).trans ?_
  refine (bind_of_eq_some (shortNumber?_padded secondsSmall _) _).trans ?_
  refine (bind_of_eq_some (fraction?_fractionChars nanosSmall zed (by decide)) _).trans ?_
  refine (bind_of_eq_some (rfl : offset? (dropBlank ['Z']) = some (0, [])) _).trans ?_
  -- Nothing is left over, and the parts make a day and a time of it.
  refine (if_pos rfl).trans ?_
  refine (bind_of_eq_some (dif_pos ⟨⟨t.date.year_ge, t.date.year_le⟩,
    ⟨t.date.month_pos, t.date.month_le⟩, t.date.day_pos, t.date.day_le⟩) _).trans ?_
  refine (bind_of_eq_some clock _).trans ?_
  refine (bind_of_eq_some (dif_pos ⟨t.normalLeap.second_lt, t.normalLeap.nano_lt⟩) _).trans ?_
  exact congrArg some (eq_of_parts t.date_normalLeap.symm rfl rfl)

/-- A moment is read from its text, but for a leap second that does not end a minute. -/
theorem ofText?_text (t : Instant) : ofText? t.text = some t.normalLeap := by
  rw [ofText?, text, String.toList_ofList, ofChars?_toChars]

end BoxOffice.Instant
