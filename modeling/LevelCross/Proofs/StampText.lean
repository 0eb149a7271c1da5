import Mathlib
import LevelCross.Store.Schema

/-!
# Times kept as text

The store keeps a time as its listing text `YYYY-MM-DD HH:MM:SS` and reads it back against the
listing layout with an optional fraction. This module shows that a time as a clock gives it
(`DateTime.isClockReading`: an existing date of the supported years, a time of day and no
fraction of a second) reads back as itself, signed and long years included.

The reading walks the layout over the text; each field is read by a lemma that takes its digits
off the front and leaves the rest (`readFields_year`, `readFields_padNat`, `readFields_char`,
`readFields_blank`), and the digits of a padded number are read as that number
(`scanNumber_padNat`).

* `parseDateTime_listText`: the listing text of a clock reading reads back as itself.
* `parseDateTime_listText_listed`: the listing text of any reading of the data form reads back
  without its fraction of a second, a leap second staying a leap second.
* `Store.Value.toTime_stampText`: so does a time cell the store wrote.
* `compare_listText`: listing texts of readings of the years `0` to `9999` compare, letter by
  letter, as the times they keep.
-/

namespace LevelCross.Time

open LevelCross.Text

/-! ### Padded numbers -/

theorem digitsValue_eq (ds : List Char) : digitsValue ds = Nat.ofDigitChars 10 ds 0 := rfl

/-- A padded number is zeros, then its decimal digits. -/
theorem padNat_toList (w n : Nat) :
    (padNat w n).toList =
      List.replicate (w - (Nat.toDigits 10 n).length) '0' ++ Nat.toDigits 10 n := by
  simp [padNat, ← String.length_toList]

theorem isDigit_of_mem_padNat {w n : Nat} {c : Char} (h : c ∈ (padNat w n).toList) :
    c.isDigit = true := by
  rw [padNat_toList, List.mem_append, List.mem_replicate] at h
  rcases h with ⟨-, rfl⟩ | h
  · rfl
  · exact Nat.isDigit_of_mem_toDigits (by decide) (by decide) h

/-- Leading zeros do not change the value of the digits. -/
theorem digitsValue_padNat (w n : Nat) : digitsValue (padNat w n).toList = n := by
  rw [digitsValue_eq, padNat_toList, Nat.ofDigitChars_append, Nat.ofDigitChars_replicate_zero]
  simp

/-- A number below `10^w` takes exactly `w` characters. -/
theorem length_padNat {w n : Nat} (h : n < 10 ^ w) (hw : 0 < w) :
    (padNat w n).toList.length = w := by
  have := (Nat.length_toDigits_le_iff (n := n) (by decide) hw).2 h
  rw [padNat_toList, List.length_append, List.length_replicate]
  omega

theorem length_padNat_pos (w n : Nat) : 1 ≤ (padNat w n).toList.length := by
  rw [padNat_toList, List.length_append]
  have := Nat.length_toDigits_pos (b := 10) (n := n)
  omega

/-- A digit is not blank. -/
theorem dropBlank_of_isDigit {c : Char} (cs : List Char) (h : c.isDigit = true) :
    dropBlank (c :: cs) = c :: cs := by
  have : isBlank c = false := by
    have hr : 48 ≤ c.toNat ∧ c.toNat ≤ 57 := by
      simp only [Char.isDigit, Bool.and_eq_true, decide_eq_true_eq] at h
      exact ⟨h.1, h.2⟩
    simp only [isBlank]
    simp
    omega
  simp [dropBlank, this]

/-- A padded number starts with a digit, so no blank is skipped before it. -/
theorem dropBlank_padNat (w n : Nat) (rest : List Char) :
    dropBlank ((padNat w n).toList ++ rest) = (padNat w n).toList ++ rest := by
  cases h : (padNat w n).toList with
  | nil => simp [padNat_toList, Nat.toDigits_ne_nil] at h
  | cons c cs =>
    exact dropBlank_of_isDigit _ (isDigit_of_mem_padNat (h ▸ List.mem_cons_self))

/-! ### Reading digits -/

/-- Digits followed by something that is not a digit are read as their value. -/
theorem scanNumber_digits {ds rest : List Char} {lo hi : Nat} (hds : ∀ c ∈ ds, c.isDigit = true)
    (hrest : ∀ c ∈ rest.head?, c.isDigit = false) (hlo : lo ≤ ds.length) (hhi : ds.length ≤ hi)
    (hv : digitsValue ds ≤ numberLimit) :
    scanNumber (ds ++ rest) lo hi = .ok (digitsValue ds, rest) := by
  have htake : (ds ++ rest).takeWhile Char.isDigit = ds := by
    rw [List.takeWhile_append_of_pos hds]
    cases rest with
    | nil => simp
    | cons c cs => simp [hrest c rfl]
  unfold scanNumber
  rw [if_neg (by simp; omega), htake, List.take_of_length_le hhi, if_neg (by omega),
    if_neg (by omega), List.drop_left]

/-- A padded number followed by something that is not a digit is read as itself. -/
theorem scanNumber_padNat (w n lo hi : Nat) {rest : List Char}
    (hrest : ∀ c ∈ rest.head?, c.isDigit = false) (hlo : lo ≤ (padNat w n).toList.length)
    (hhi : (padNat w n).toList.length ≤ hi) (hv : n ≤ numberLimit) :
    scanNumber ((padNat w n).toList ++ rest) lo hi = .ok (n, rest) := by
  have := scanNumber_digits (fun c hc ↦ isDigit_of_mem_padNat hc) hrest hlo hhi
    (by rw [digitsValue_padNat]; exact hv)
  rwa [digitsValue_padNat] at this

/-- Two digits of a field other than the year. -/
theorem scanField_padNat {f : Field} (hf : f ≠ .year) {n : Nat} (hn : n < 100) {rest : List Char}
    (hrest : ∀ c ∈ rest.head?, c.isDigit = false) :
    scanField f ((padNat 2 n).toList ++ rest) = .ok (n, rest) := by
  have hlen := length_padNat (w := 2) hn (by decide)
  have hscan := scanNumber_padNat 2 n 1 2 hrest (by omega) (by omega)
    (by unfold numberLimit; simp; omega)
  unfold scanField
  cases f <;> simp only [dropBlank_padNat, hscan]
  case year => exact absurd rfl hf
  all_goals rfl

/-- The year as written, signed or not. -/
theorem scanField_yearText {y : Int} (hlo : minYear ≤ y) (hhi : y ≤ maxYear) {rest : List Char}
    (hrest : ∀ c ∈ rest.head?, c.isDigit = false) :
    scanField .year ((yearText y).toList ++ rest) = .ok (y, rest) := by
  have hlim : y.natAbs ≤ numberLimit := by
    unfold numberLimit
    unfold minYear at hlo
    unfold maxYear at hhi
    rw [Nat.pow_eq]
    omega
  unfold yearText
  by_cases hpos : 0 ≤ y ∧ y ≤ 9999
  · -- four digits, no sign
    have hlen := length_padNat (w := 4) (n := y.toNat) (by omega) (by decide)
    have hscan := scanNumber_padNat 4 y.toNat 1 4 hrest (by omega) (by omega) (by omega)
    rw [if_pos (by simp [hpos.1, hpos.2])]
    unfold scanField
    rw [dropBlank_padNat]
    simp only
    cases h : (padNat 4 y.toNat).toList with
    | nil => rw [h] at hlen; cases hlen
    | cons c cs =>
      have hc : c.isDigit = true := isDigit_of_mem_padNat (h ▸ List.mem_cons_self)
      rw [h] at hscan
      split
      · next heq =>
        simp only [List.cons_append, List.cons.injEq] at heq
        rw [heq.1] at hc
        exact absurd hc (by decide)
      · next heq =>
        simp only [List.cons_append, List.cons.injEq] at heq
        rw [heq.1] at hc
        exact absurd hc (by decide)
      · rw [hscan]
        show Except.ok ((y.toNat : Int), rest) = _
        rw [Int.toNat_of_nonneg hpos.1]
  · -- a sign, then at least four digits
    rw [if_neg (by simpa using hpos)]
    have hscan := scanNumber_padNat 4 y.natAbs 1 ((padNat 4 y.natAbs).toList ++ rest).length hrest
      (length_padNat_pos 4 y.natAbs) (by simp) hlim
    unfold scanField
    by_cases hneg : y < 0
    · rw [if_pos hneg]
      have hsign : dropBlank ("-".toList ++ ((padNat 4 y.natAbs).toList ++ rest)) =
          '-' :: ((padNat 4 y.natAbs).toList ++ rest) := by
        simp [dropBlank, isBlank]
      simp only [String.toList_append, List.append_assoc, hsign]
      rw [hscan]
      show Except.ok (-(y.natAbs : Int), rest) = _
      rw [Int.ofNat_natAbs_of_nonpos (by omega), Int.neg_neg]
    · rw [if_neg hneg]
      have hsign : dropBlank ("+".toList ++ ((padNat 4 y.natAbs).toList ++ rest)) =
          '+' :: ((padNat 4 y.natAbs).toList ++ rest) := by
        simp [dropBlank, isBlank]
      simp only [String.toList_append, List.append_assoc, hsign]
      rw [hscan]
      show Except.ok ((y.natAbs : Int), rest) = _
      rw [Int.natAbs_of_nonneg (by omega)]

/-! ### Walking the layout -/

theorem readFields_literal (s : String) (fs : List Field) (rest : List Char) (r : Reading) :
    readFields (.literal s :: fs) (s.toList ++ rest) r = readFields fs rest r := by
  rw [readFields.eq_4, if_neg (by simp), List.take_left, beq_self_eq_true, if_pos rfl,
    List.drop_left]

theorem readFields_blank (fs : List Field) (w n : Nat) (rest : List Char) :
    readFields (.blank :: fs) (' ' :: ((padNat w n).toList ++ rest)) =
      readFields fs ((padNat w n).toList ++ rest) := by
  funext r
  have hspace : dropBlank (' ' :: ((padNat w n).toList ++ rest)) = (padNat w n).toList ++ rest := by
    rw [dropBlank, List.dropWhile_cons_of_pos (by decide), ← dropBlank, dropBlank_padNat]
  rw [readFields.eq_3, hspace]

theorem readFields_char (s : String) (c : Char) (hs : s.toList = [c]) (fs : List Field)
    (rest : List Char) : readFields (.literal s :: fs) (c :: rest) = readFields fs rest := by
  funext r
  rw [← readFields_literal s fs rest r, hs]
  rfl

theorem readFields_year (fs : List Field) {y : Int} (hlo : minYear ≤ y) (hhi : y ≤ maxYear)
    (c : Char) (more : List Char) (hc : c.isDigit = false) :
    readFields (.year :: fs) ((yearText y).toList ++ c :: more) =
      fun r ↦ (r.put .year y) >>= readFields fs (c :: more) := by
  funext r
  rw [readFields, scanField_yearText hlo hhi (by simpa using hc)]
  all_goals first | rfl | nofun

theorem readFields_padNat {f : Field}
    (hf : f = .month ∨ f = .day ∨ f = .hour ∨ f = .minute ∨ f = .second) (fs : List Field)
    {n : Nat} (hn : n < 100) {rest : List Char} (hrest : ∀ c ∈ rest.head?, c.isDigit = false)
    (r : Reading) :
    readFields (f :: fs) ((padNat 2 n).toList ++ rest) r = (r.put f n) >>= readFields fs rest := by
  have hy : f ≠ .year := by rcases hf with rfl | rfl | rfl | rfl | rfl <;> decide
  have hscan := scanField_padNat hy hn hrest
  rcases hf with rfl | rfl | rfl | rfl | rfl <;> rw [readFields, hscan]
  all_goals first | rfl | nofun

/-- Two digits before a separator. -/
theorem readFields_padNat_cons {f : Field}
    (hf : f = .month ∨ f = .day ∨ f = .hour ∨ f = .minute ∨ f = .second) (fs : List Field)
    {n : Nat} (hn : n < 100) (c : Char) (more : List Char) (hc : c.isDigit = false) :
    readFields (f :: fs) ((padNat 2 n).toList ++ c :: more) =
      fun r ↦ (r.put f n) >>= readFields fs (c :: more) :=
  funext fun r ↦ readFields_padNat hf fs hn (by simpa using hc) r

/-- Two digits at the end of the text. -/
theorem readFields_padNat_end {f : Field}
    (hf : f = .month ∨ f = .day ∨ f = .hour ∨ f = .minute ∨ f = .second) (fs : List Field)
    {n : Nat} (hn : n < 100) :
    readFields (f :: fs) (padNat 2 n).toList = fun r ↦ (r.put f n) >>= readFields fs [] := by
  funext r
  rw [← readFields_padNat hf fs hn (by simp) r, List.append_nil]

/-- A time as a clock gives it: an existing date of the supported years, a time of day, and no
fraction of a second. -/
def DateTime.isClockReading (t : DateTime) : Bool :=
  validDate t.year t.month t.day && t.hour < 24 && t.minute < 60 && t.second < 60 && t.nano == 0

theorem listText_toList (t : DateTime) :
    t.listText.toList = (yearText t.year).toList ++ '-' :: ((padNat 2 t.month).toList ++
      '-' :: ((padNat 2 t.day).toList ++ ' ' :: ((padNat 2 t.hour).toList ++
      ':' :: ((padNat 2 t.minute).toList ++ ':' :: (padNat 2 t.shownSecond).toList)))) := by
  simp [DateTime.listText, DateTime.dateText, DateTime.clockText]

/-- The listing text of an existing date and a time of day, its second written up to `60`,
reads back; a second written as `60` is read as the leap second of second `59`. -/
theorem parseDateTime_listText_shown {t : DateTime} (hdate : validDate t.year t.month t.day = true)
    (hh : t.hour < 24) (hmi : t.minute < 60) (hs : t.shownSecond ≤ 60) :
    parseDateTime listFractionLayout t.listText =
      .ok { t with second := if t.shownSecond = 60 then 59 else t.shownSecond,
                   nano := if t.shownSecond = 60 then 1000000000 else 0 } := by
  unfold parseDateTime
  rw [listText_toList t]
  simp only [listFractionLayout, listLayout, dateLayout, List.cons_append, List.nil_append]
  have hdate' := hdate
  simp only [validDate, Bool.and_eq_true, decide_eq_true_eq] at hdate'
  obtain ⟨⟨⟨hylo, hyhi⟩, hd1⟩, hd2⟩ := hdate'
  have hm : 1 ≤ t.month ∧ t.month ≤ 12 := by
    unfold daysInMonth at hd2
    split at hd2 <;> omega
  have hd : t.day ≤ 31 := by
    unfold daysInMonth at hd2
    split at hd2 <;> (try split at hd2) <;> omega
  have hyr : -2147483648 ≤ t.year ∧ t.year ≤ 2147483647 := by
    unfold minYear at hylo; unfold maxYear at hyhi; omega
  have hm100 : t.month < 100 := by omega
  have hd100 : t.day < 100 := by omega
  have hh100 : t.hour < 100 := by omega
  have hmi100 : t.minute < 100 := by omega
  have hs100 : t.shownSecond < 100 := by omega
  have hminus : '-'.isDigit = false := by decide
  have hcolon : ':'.isDigit = false := by decide
  have hspace : ' '.isDigit = false := by decide
  simp only [readFields_year _ hylo hyhi '-' _ hminus, readFields_char "-" '-' rfl,
    readFields_char ":" ':' rfl,
    readFields_padNat_cons (Or.inl rfl) _ hm100 '-' _ hminus,
    readFields_padNat_cons (Or.inr (Or.inl rfl)) _ hd100 ' ' _ hspace,
    readFields_blank,
    readFields_padNat_cons (Or.inr (Or.inr (Or.inl rfl))) _ hh100 ':' _ hcolon,
    readFields_padNat_cons (Or.inr (Or.inr (Or.inr (Or.inl rfl)))) _ hmi100 ':' _ hcolon,
    readFields_padNat_end (Or.inr (Or.inr (Or.inr (Or.inr rfl)))) _ hs100]
  have hfrac : readFields [Field.fraction] [] = Except.ok := by
    funext r
    rw [readFields.eq_6 _ _ _ (fun _ h ↦ by cases h), readFields.eq_1]
  simp only [hfrac]
  have hmI : 1 ≤ (t.month : Int) ∧ (t.month : Int) ≤ 12 := by omega
  have hdI : 1 ≤ (t.day : Int) ∧ (t.day : Int) ≤ 31 := by omega
  have hhI : (t.hour : Int) ≤ 23 := by omega
  have hmiI : (t.minute : Int) ≤ 59 := by omega
  have hsI : (t.shownSecond : Int) ≤ 60 := by omega
  simp [Reading.put, setField, bind, Except.bind, pure, Except.pure, hyr, hmI, hdI, hhI, hmiI, hsI,
    Reading.dateTime, Reading.date, hdate, DateTime.ofDate]
  -- the second written decides between an ordinary second and the leap second
  split
  · next heq =>
    simp only [Option.some.injEq] at heq
    simp [heq]
  · next s hne hsome =>
    cases hsome
    have h60 : t.shownSecond ≠ 60 := fun h ↦ hne h
    simp [h60]
  · next heq => cases heq

theorem parseDateTime_listText {t : DateTime} (ht : t.isClockReading = true) :
    parseDateTime listFractionLayout t.listText = .ok t := by
  simp only [DateTime.isClockReading, Bool.and_eq_true, decide_eq_true_eq, beq_iff_eq] at ht
  obtain ⟨⟨⟨⟨hdate, hh⟩, hmi⟩, hs⟩, hn⟩ := ht
  have hshown : t.shownSecond = t.second := by simp [DateTime.shownSecond, hn]
  rw [parseDateTime_listText_shown hdate hh hmi (by omega), hshown, if_neg (by omega),
    if_neg (by omega), ← hn]

/-- A time as the data form can give it: an existing date of the supported years, a time of day
and a fraction of a second, the second `59` alone carrying a leap second. -/
def DateTime.isReading (t : DateTime) : Bool :=
  validDate t.year t.month t.day && t.hour < 24 && t.minute < 60 && t.second < 60 &&
    (t.nano < 1000000000 || t.second == 59 && t.nano < 2000000000)

/-- A time as its listing text keeps it: the fraction of the second is lost, a leap second
stays one. -/
def DateTime.listed (t : DateTime) : DateTime :=
  { t with nano := t.nano / 1000000000 * 1000000000 }

/-- The listing text of a reading reads back as the reading without its fraction. -/
theorem parseDateTime_listText_listed {t : DateTime} (ht : t.isReading = true) :
    parseDateTime listFractionLayout t.listText = .ok t.listed := by
  simp only [DateTime.isReading, Bool.and_eq_true, Bool.or_eq_true, decide_eq_true_eq,
    beq_iff_eq] at ht
  obtain ⟨⟨⟨⟨hdate, hh⟩, hmi⟩, hs⟩, hn⟩ := ht
  have hshown : t.shownSecond = t.second + t.nano / 1000000000 := rfl
  -- below a second of fraction the second is written as it is; else it is the leap second
  by_cases hlt : t.nano < 1000000000
  · have hq : t.nano / 1000000000 = 0 := Nat.div_eq_of_lt hlt
    have hsec : t.shownSecond = t.second := by rw [hshown, hq, Nat.add_zero]
    rw [parseDateTime_listText_shown hdate hh hmi (by omega), DateTime.listed, hsec,
      if_neg (by omega), if_neg (by omega), hq, Nat.zero_mul]
  · obtain ⟨h59, hn⟩ := hn.resolve_left hlt
    have hq : t.nano / 1000000000 = 1 := by omega
    have hsec : t.shownSecond = 60 := by rw [hshown, hq, h59]
    rw [parseDateTime_listText_shown hdate hh hmi (by omega), DateTime.listed, hsec,
      if_pos rfl, if_pos rfl, hq, ← h59]

/-! ### The order of listing texts

The store orders and bounds times by comparing their listing texts letter by letter. For the
years `0` to `9999` every field of the text has a fixed number of digits, so the texts compare
as the times they keep. -/

/-- Lists compared letter by letter: a first part of one length decides unless it agrees. -/
theorem compareLex_append_of_length_eq {α : Type} {cmp : α → α → Ordering} :
    ∀ {xs ys : List α} (zs ws : List α), xs.length = ys.length →
      (xs ++ zs).compareLex cmp (ys ++ ws) = (xs.compareLex cmp ys).then (zs.compareLex cmp ws)
  | [], [], _, _, _ => rfl
  | x :: xs, y :: ys, zs, ws, h => by
    rw [List.cons_append, List.cons_append, List.compareLex_cons_cons, List.compareLex_cons_cons,
      compareLex_append_of_length_eq zs ws (by simpa using h), Ordering.then_assoc]

theorem Char.lt_iff_toNat_lt {a b : Char} : a < b ↔ a.toNat < b.toNat :=
  Char.lt_def.trans UInt32.lt_iff_toNat_lt

/-- Characters compare as their code points. -/
theorem Char.compare_eq_compare_toNat (a b : Char) : compare a b = compare a.toNat b.toNat := by
  simp only [compare, compareOfLessAndEq, Char.lt_iff_toNat_lt, ← Char.toNat_inj]

/-- A digit's code point lies between those of `0` and `9`. -/
theorem toNat_of_isDigit {c : Char} (h : c.isDigit = true) : 48 ≤ c.toNat ∧ c.toNat ≤ 57 := by
  simp only [Char.isDigit, Bool.and_eq_true, decide_eq_true_eq] at h
  exact ⟨h.1, h.2⟩

/-- Two pairs of numbers in the same order compare alike. -/
theorem compare_eq_compare_of_lt_iff {x y u v : Nat} (hlt : x < y ↔ u < v) (hgt : y < x ↔ v < u) :
    compare x y = compare u v := by
  simp only [Nat.compare_eq_ite_lt, hlt, hgt]

/-- A number written in base `P` with the smaller leading digit is the smaller, whatever the
digit after it. -/
theorem mul_add_lt_mul_add {P a b u : Nat} (v : Nat) (hu : u < P) (h : a < b) :
    P * a + u < P * b + v :=
  calc P * a + u < P * (a + 1) := by rw [Nat.mul_succ]; omega
    _ ≤ P * b := Nat.mul_le_mul_left P h
    _ ≤ P * b + v := Nat.le_add_right _ _

/-- Numbers written in base `P` from two digits compare digit by digit, the first deciding. -/
theorem compare_mul_add {P a b u v : Nat} (hu : u < P) (hv : v < P) :
    compare (P * a + u) (P * b + v) = (compare a b).then (compare u v) := by
  rcases Nat.lt_trichotomy a b with h | rfl | h
  · rw [Nat.compare_eq_lt.mpr (mul_add_lt_mul_add v hu h), Nat.compare_eq_lt.mpr h]
    rfl
  · rw [Nat.compare_eq_eq.mpr rfl, Ordering.eq_then]
    exact compare_eq_compare_of_lt_iff (by omega) (by omega)
  · rw [Nat.compare_eq_gt.mpr (mul_add_lt_mul_add u hv h), Nat.compare_eq_gt.mpr h]
    rfl

/-- The value of digits with a digit in front: that digit counts `10 ^ n` times. -/
theorem digitsValue_cons (c : Char) (cs : List Char) :
    digitsValue (c :: cs) = 10 ^ cs.length * (c.toNat - '0'.toNat) + digitsValue cs := by
  rw [digitsValue_eq, digitsValue_eq, Nat.ofDigitChars_cons, Nat.ofDigitChars_eq_ofDigitChars_zero]
  simp

theorem digitsValue_lt : ∀ {ds : List Char}, (∀ c ∈ ds, c.isDigit = true) →
    digitsValue ds < 10 ^ ds.length
  | [], _ => by decide
  | c :: cs, h => by
    have hc : c.toNat - '0'.toNat < 10 := by
      have := toNat_of_isDigit (h c List.mem_cons_self)
      rw [show '0'.toNat = 48 from rfl]
      omega
    have hcs := digitsValue_lt fun d hd ↦ h d (List.mem_cons_of_mem c hd)
    rw [digitsValue_cons, List.length_cons, Nat.pow_succ]
    calc 10 ^ cs.length * (c.toNat - '0'.toNat) + digitsValue cs
        < 10 ^ cs.length * (c.toNat - '0'.toNat) + 10 ^ cs.length := by omega
      _ = 10 ^ cs.length * (c.toNat - '0'.toNat + 1) := by rw [Nat.mul_succ]
      _ ≤ 10 ^ cs.length * 10 := Nat.mul_le_mul_left _ hc

/-- Two digits compare as the values they stand for. -/
theorem compare_digit {x y : Char} (hx : x.isDigit = true) (hy : y.isDigit = true) :
    compare x y = compare (x.toNat - '0'.toNat) (y.toNat - '0'.toNat) := by
  have hx' := toNat_of_isDigit hx
  have hy' := toNat_of_isDigit hy
  rw [Char.compare_eq_compare_toNat, show '0'.toNat = 48 from rfl]
  exact compare_eq_compare_of_lt_iff (by omega) (by omega)

/-- Digits of one length compare, letter by letter, as the numbers they spell. -/
theorem compareLex_digits : ∀ {xs ys : List Char}, (∀ c ∈ xs, c.isDigit = true) →
    (∀ c ∈ ys, c.isDigit = true) → xs.length = ys.length →
      xs.compareLex compare ys = compare (digitsValue xs) (digitsValue ys)
  | [], [], _, _, _ => rfl
  | x :: xs, y :: ys, hx, hy, hl => by
    have hxs : ∀ c ∈ xs, c.isDigit = true := fun c hc ↦ hx c (List.mem_cons_of_mem x hc)
    have hys : ∀ c ∈ ys, c.isDigit = true := fun c hc ↦ hy c (List.mem_cons_of_mem y hc)
    have hl' : xs.length = ys.length := by simpa using hl
    rw [List.compareLex_cons_cons, compareLex_digits hxs hys hl', digitsValue_cons,
      digitsValue_cons, hl', compare_mul_add (hl' ▸ digitsValue_lt hxs) (digitsValue_lt hys),
      compare_digit (hx x List.mem_cons_self) (hy y List.mem_cons_self)]

/-- Numbers padded to one width compare, as text, as numbers. -/
theorem compareLex_padNat {w a b : Nat} (ha : a < 10 ^ w) (hb : b < 10 ^ w) (hw : 0 < w) :
    (padNat w a).toList.compareLex compare (padNat w b).toList = compare a b := by
  rw [compareLex_digits (fun _ hc ↦ isDigit_of_mem_padNat hc) (fun _ hc ↦ isDigit_of_mem_padNat hc)
    (by rw [length_padNat ha hw, length_padNat hb hw]), digitsValue_padNat, digitsValue_padNat]

/-- A padded field followed by a separator: the fields decide unless they agree. -/
theorem compareLex_padNat_cons {w a b : Nat} (ha : a < 10 ^ w) (hb : b < 10 ^ w) (hw : 0 < w)
    (c : Char) (xs ys : List Char) :
    ((padNat w a).toList ++ c :: xs).compareLex compare ((padNat w b).toList ++ c :: ys) =
      (compare a b).then (xs.compareLex compare ys) := by
  rw [compareLex_append_of_length_eq _ _ (by rw [length_padNat ha hw, length_padNat hb hw]),
    compareLex_padNat ha hb hw, List.compareLex_cons_cons, Char.compare_eq_compare_toNat,
    Nat.compare_eq_eq.mpr rfl]
  rfl

/-- Character lists compared letter by letter come first exactly when they are smaller. -/
theorem compareLex_eq_lt_iff_lt : ∀ {xs ys : List Char},
    xs.compareLex compare ys = .lt ↔ xs < ys
  | [], [] => by simp [List.compareLex_nil_nil]
  | [], _ :: _ => by simp [List.compareLex_nil_cons]
  | _ :: _, [] => by simp [List.compareLex_cons_nil]
  | x :: xs, y :: ys => by
    rw [List.compareLex_cons_cons, Ordering.then_eq_lt, compareLex_eq_lt_iff_lt,
      List.cons_lt_cons_iff, Char.compare_eq_compare_toNat, Nat.compare_eq_lt, Nat.compare_eq_eq,
      Char.lt_iff_toNat_lt, Char.toNat_inj]

/-- Strings compare letter by letter. -/
theorem String.compare_eq_compareLex (s t : String) :
    compare s t = s.toList.compareLex compare t.toList := by
  cases h : s.toList.compareLex compare t.toList with
  | lt => exact compareOfLessAndEq_eq_lt.mpr (compareLex_eq_lt_iff_lt.mp h)
  | eq =>
    obtain rfl : s = t := String.toList_inj.mp (Std.LawfulEqCmp.eq_of_compare h)
    exact Std.ReflCmp.compare_self
  | gt =>
    -- the other way round the lists compare as smaller
    have h' : t.toList.compareLex compare s.toList = .lt := by
      rw [(Std.OrientedCmp.eq_swap : t.toList.compareLex compare s.toList = _), h]
      rfl
    have hts : compare t s = .lt := compareOfLessAndEq_eq_lt.mpr (compareLex_eq_lt_iff_lt.mp h')
    rw [(Std.OrientedCmp.eq_swap : compare s t = _), hts]
    rfl

/-- An existing date has a month of the year and a day of a month. -/
theorem month_day_of_validDate {y : Int} {m d : Nat} (h : validDate y m d = true) :
    1 ≤ m ∧ m ≤ 12 ∧ 1 ≤ d ∧ d ≤ 31 := by
  simp only [validDate, Bool.and_eq_true, decide_eq_true_eq] at h
  obtain ⟨⟨-, hd1⟩, hd2⟩ := h
  unfold daysInMonth at hd2
  split at hd2 <;> (try split at hd2) <;> omega

/-- The fields of a reading: a month and a day of two digits, a time of day, and a second
written up to `60`, the leap second only after second `59`. -/
theorem DateTime.isReading_fields {t : DateTime} (h : t.isReading = true) :
    t.month < 100 ∧ t.day < 100 ∧ t.hour < 24 ∧ t.minute < 60 ∧ t.second < 60 ∧
      (t.nano < 1000000000 ∨ t.second = 59 ∧ t.nano < 2000000000) := by
  simp only [DateTime.isReading, Bool.and_eq_true, Bool.or_eq_true, decide_eq_true_eq,
    beq_iff_eq] at h
  obtain ⟨⟨⟨⟨hdate, hh⟩, hmi⟩, hs⟩, hn⟩ := h
  have := month_day_of_validDate hdate
  exact ⟨by omega, by omega, hh, hmi, hs, hn⟩

/-- A year written with four digits and no sign: `0` to `9999`. -/
def DateTime.hasPlainYear (t : DateTime) : Bool := 0 ≤ t.year && t.year ≤ 9999

theorem yearText_of_hasPlainYear {t : DateTime} (h : t.hasPlainYear = true) :
    yearText t.year = padNat 4 t.year.toNat := by
  rw [yearText, if_pos (by simpa [DateTime.hasPlainYear] using h)]

/-- Years of four digits compare as their numbers. -/
theorem compare_toNat_of_nonneg {a b : Int} (ha : 0 ≤ a) (hb : 0 ≤ b) :
    compare a.toNat b.toNat = compare a b := by
  simp only [compare, compareOfLessAndEq]
  split_ifs <;> first | rfl | omega

/-- The second as written orders the seconds of a minute as the second and its whole seconds of
fraction do, the leap second coming only after second `59`. -/
theorem compare_shownSecond {a b : DateTime}
    (ha : a.second < 60 ∧ (a.nano < 1000000000 ∨ a.second = 59 ∧ a.nano < 2000000000))
    (hb : b.second < 60 ∧ (b.nano < 1000000000 ∨ b.second = 59 ∧ b.nano < 2000000000)) :
    compare a.shownSecond b.shownSecond = (compare a.second b.second).then
      (compare (a.nano / 1000000000 * 1000000000) (b.nano / 1000000000 * 1000000000)) := by
  simp only [DateTime.shownSecond]
  rcases Nat.lt_trichotomy a.second b.second with h | h | h
  · rw [Nat.compare_eq_lt.mpr h, Nat.compare_eq_lt.mpr (by omega)]
    rfl
  · rw [Nat.compare_eq_eq.mpr h, Ordering.eq_then]
    exact compare_eq_compare_of_lt_iff (by omega) (by omega)
  · rw [Nat.compare_eq_gt.mpr h, Nat.compare_eq_gt.mpr (by omega)]
    rfl

/-- Listing texts of readings of four-digit years compare as the times they keep: the text
writes the fields from the year down, each with a fixed number of digits. -/
theorem compare_listText {a b : DateTime} (ha : a.isReading = true) (hb : b.isReading = true)
    (hya : a.hasPlainYear = true) (hyb : b.hasPlainYear = true) :
    compare a.listText b.listText = compare a.listed b.listed := by
  obtain ⟨hma, hda, hha, hmia, hsa, hna⟩ := DateTime.isReading_fields ha
  obtain ⟨hmb, hdb, hhb, hmib, hsb, hnb⟩ := DateTime.isReading_fields hb
  have hyears := (Bool.and_eq_true _ _).mp hya
  have hyears' := (Bool.and_eq_true _ _).mp hyb
  simp only [decide_eq_true_eq] at hyears hyears'
  -- the text, field by field
  rw [String.compare_eq_compareLex, listText_toList, listText_toList,
    yearText_of_hasPlainYear hya, yearText_of_hasPlainYear hyb,
    compareLex_padNat_cons (by omega) (by omega) (by decide),
    compareLex_padNat_cons (by omega) (by omega) (by decide),
    compareLex_padNat_cons (by omega) (by omega) (by decide),
    compareLex_padNat_cons (by omega) (by omega) (by decide),
    compareLex_padNat_cons (by omega) (by omega) (by decide),
    compareLex_padNat (by simp only [DateTime.shownSecond]; omega)
      (by simp only [DateTime.shownSecond]; omega) (by decide),
    compare_toNat_of_nonneg hyears.1 hyears'.1, compare_shownSecond ⟨hsa, hna⟩ ⟨hsb, hnb⟩]
  rfl

/-- A time its listing text keeps exactly and orders as a time: a clock reading of a year written
with four digits. -/
def DateTime.isPlainReading (t : DateTime) : Bool := t.isClockReading && t.hasPlainYear

theorem DateTime.isReading_of_isClockReading {t : DateTime} (h : t.isClockReading = true) :
    t.isReading = true := by
  simp only [DateTime.isClockReading, DateTime.isReading, Bool.and_eq_true, Bool.or_eq_true,
    decide_eq_true_eq, beq_iff_eq] at h ⊢
  obtain ⟨⟨⟨⟨hdate, hh⟩, hmi⟩, hs⟩, hn⟩ := h
  exact ⟨⟨⟨⟨hdate, hh⟩, hmi⟩, hs⟩, Or.inl (by omega)⟩

/-- The listing text keeps a clock reading whole. -/
theorem DateTime.listed_of_isClockReading {t : DateTime} (h : t.isClockReading = true) :
    t.listed = t := by
  simp only [DateTime.isClockReading, Bool.and_eq_true, beq_iff_eq] at h
  cases t
  simp_all [DateTime.listed]

/-- Listing texts of plain readings compare as the readings themselves. -/
theorem compare_listText_of_isPlainReading {a b : DateTime} (ha : a.isPlainReading = true)
    (hb : b.isPlainReading = true) : compare a.listText b.listText = compare a b := by
  simp only [DateTime.isPlainReading, Bool.and_eq_true] at ha hb
  rw [compare_listText (DateTime.isReading_of_isClockReading ha.1)
    (DateTime.isReading_of_isClockReading hb.1) ha.2 hb.2, DateTime.listed_of_isClockReading ha.1,
    DateTime.listed_of_isClockReading hb.1]

end LevelCross.Time

namespace LevelCross.Store

open LevelCross.Time

/-- A time cell written from a clock reading reads back as that reading. -/
theorem Value.toTime_stampText (i : Nat) (name : String) {t : DateTime}
    (ht : t.isClockReading = true) : Value.toTime i name (.text (stampText t)) = .ok t := by
  simp [Value.toTime, Value.toText, stampText, parseDateTime_listText ht, bind, Except.bind]

/-- A time cell written from a reading reads back as the reading without its fraction. -/
theorem Value.toTime_stampText_listed (i : Nat) (name : String) {t : DateTime}
    (ht : t.isReading = true) : Value.toTime i name (.text (stampText t)) = .ok t.listed := by
  simp [Value.toTime, Value.toText, stampText, parseDateTime_listText_listed ht, bind, Except.bind]

end LevelCross.Store
