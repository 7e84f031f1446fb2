import DataAccess.Proofs.Time.Instant
import DataAccess.Proofs.Time.Parts

/-!
# Spellings of an instant

A grammar of the texts that spell an instant: a strict spelling with an offset, and loose ones
without. A text has at most one spelling: its colons, the letter in front of the clock and the letter of
offset zero tell which. So it does not matter in which order the spellings are tried, and exactly the
texts of the grammar are read, each as the instant that it spells.
-/

namespace DataAccess

namespace Timestamp

/-! ### Forms -/

/-- The ways to spell a timestamp. -/
inductive Form
  | strict
  | loose (dateEnd : DateEnd) (withSeconds : Bool)
  | date

/-- A text in one form, with the fields that stand in it and its offset. -/
inductive Spelled : Form → List Char → Timestamp → Int → Prop
  | strict {s s₁ s₂ s₃ s₄ s₅ s₆ s₇ : List Char} {mark : Char}
      {year month day hour minute second nano : Nat} {offset : Int}
      (hyear : Number 4 4 s year ('-' :: s₁)) (hmonth : Number 2 2 s₁ month ('-' :: s₂))
      (hday : Number 2 2 s₂ day (mark :: s₃)) (hmark : mark = 'T' ∨ mark = 't' ∨ mark = ' ')
      (hhour : Number 2 2 s₃ hour (':' :: s₄)) (hminute : Number 2 2 s₄ minute (':' :: s₅))
      (hsecond : Number 2 2 s₅ second s₆) (hfraction : Fraction s₆ nano s₇)
      (hzone : Zone s₇ offset) :
      Spelled .strict s ⟨year, month, day, hour, minute, second, nano⟩ offset
  | seconds {s s₁ s₂ s₃ s₄ s₅ : List Char} {dateEnd : DateEnd} {year : Int}
      {month day hour minute second nano : Nat} (hdate : Date s year month day s₁)
      (hgap : Gap dateEnd s₁ s₂) (hhour : Field s₂ hour (':' :: s₃))
      (hminute : Field s₃ minute (':' :: s₄)) (hsecond : Field s₄ second s₅)
      (hfraction : Fraction s₅ nano []) :
      Spelled (.loose dateEnd true) s ⟨year, month, day, hour, minute, second, nano⟩ 0
  | minutes {s s₁ s₂ s₃ : List Char} {dateEnd : DateEnd} {year : Int}
      {month day hour minute : Nat} (hdate : Date s year month day s₁)
      (hgap : Gap dateEnd s₁ s₂) (hhour : Field s₂ hour (':' :: s₃))
      (hminute : Field s₃ minute []) :
      Spelled (.loose dateEnd false) s ⟨year, month, day, hour, minute, 0, 0⟩ 0
  | date {s : List Char} {year : Int} {month day : Nat} (hdate : Date s year month day []) :
      Spelled .date s ⟨year, month, day, 0, 0, 0, 0⟩ 0

def Form.read? : Form → List Char → Option Timestamp
  | strict => readStrict?
  | loose dateEnd withSeconds => readLoose? dateEnd withSeconds
  | date => readDate?

section Forms

variable {k : Form} {s : List Char} {t civil : Timestamp} {offset : Int}

theorem ofFields?_eq_some_iff {year : Int} {month day hour minute second nano : Nat} :
    ofFields? year month day hour minute second nano = some t ↔
      validDate year month day = true ∧ validTime hour minute second = true ∧
        t = ⟨year, month, day, hour, minute, second, nano⟩ := by
  rw [ofFields?]
  split
  next h =>
    rw [Bool.and_eq_true] at h
    simp [h, eq_comm]
  next h =>
    rw [Bool.and_eq_true] at h
    simp only [reduceCtorEq, false_iff]
    exact fun hvalid => h ⟨hvalid.1, hvalid.2.1⟩

theorem isDateEnd_iff {c : Char} : isDateEnd c = true ↔ c = 'T' ∨ c = 't' ∨ c = ' ' := by
  simp [isDateEnd, or_assoc]

theorem spelled_of_readStrict? (h : readStrict? s = some t) :
    ∃ civil offset, Spelled .strict s civil offset ∧ civil.Valid ∧
      civil.minusMinutes offset = t := by
  rw [readStrict?] at h
  obtain ⟨⟨year, s₁⟩, hyear, h⟩ := Option.bind_eq_some_iff.mp h
  obtain ⟨s₁, hhyphen, h⟩ := Option.bind_eq_some_iff.mp h
  obtain ⟨⟨month, s₂⟩, hmonth, h⟩ := Option.bind_eq_some_iff.mp h
  obtain ⟨s₂, hhyphen', h⟩ := Option.bind_eq_some_iff.mp h
  obtain ⟨⟨day, s₃⟩, hday, h⟩ := Option.bind_eq_some_iff.mp h
  dsimp only at h
  split at h
  case h_2 => cases h
  case h_1 mark s₃ =>
    split at h
    case isFalse => cases h
    case isTrue hmark =>
      obtain ⟨s₃, hrest, h⟩ := Option.bind_eq_some_iff.mp h
      obtain ⟨⟨hour, s₄⟩, hhour, h⟩ := Option.bind_eq_some_iff.mp h
      obtain ⟨s₄, hcolon, h⟩ := Option.bind_eq_some_iff.mp h
      obtain ⟨⟨minute, s₅⟩, hminute, h⟩ := Option.bind_eq_some_iff.mp h
      obtain ⟨s₅, hcolon', h⟩ := Option.bind_eq_some_iff.mp h
      obtain ⟨⟨second, s₆⟩, hsecond, h⟩ := Option.bind_eq_some_iff.mp h
      obtain ⟨⟨nano, s₇⟩, hfraction, h⟩ := Option.bind_eq_some_iff.mp h
      obtain ⟨offset, hzone, h⟩ := Option.bind_eq_some_iff.mp h
      obtain ⟨civil, hcivil, h⟩ := Option.bind_eq_some_iff.mp h
      obtain ⟨hdate, htime, rfl⟩ := ofFields?_eq_some_iff.mp hcivil
      obtain rfl := Option.some.inj hrest
      obtain rfl := takeChar?_eq_some_iff.mp hhyphen
      obtain rfl := takeChar?_eq_some_iff.mp hhyphen'
      obtain rfl := takeChar?_eq_some_iff.mp hcolon
      obtain rfl := takeChar?_eq_some_iff.mp hcolon'
      rw [isDateEnd_iff] at hmark
      refine ⟨_, offset, .strict (takeDigits?_eq_some_iff.mp hyear) (takeDigits?_eq_some_iff.mp hmonth)
        (takeDigits?_eq_some_iff.mp hday) hmark (takeDigits?_eq_some_iff.mp hhour)
        (takeDigits?_eq_some_iff.mp hminute) (takeDigits?_eq_some_iff.mp hsecond)
        (takeOptionalFraction?_eq_some_iff.mp hfraction) (offset?_eq_some_iff.mp hzone),
        ⟨hdate, htime, takeOptionalFraction?_lt hfraction⟩, Option.some.inj h⟩

theorem readStrict?_of_spelled (h : Spelled .strict s civil offset) (hvalid : civil.Valid) :
    readStrict? s = some (civil.minusMinutes offset) := by
  cases h with
  | strict hyear hmonth hday hmark hhour hminute hsecond hfraction hzone =>
      rw [readStrict?]
      refine (bind_of_eq_some (takeDigits?_eq_some_iff.mpr hyear) _).trans ?_
      refine (bind_of_eq_some (takeChar?_self '-' _) _).trans ?_
      refine (bind_of_eq_some (takeDigits?_eq_some_iff.mpr hmonth) _).trans ?_
      refine (bind_of_eq_some (takeChar?_self '-' _) _).trans ?_
      refine (bind_of_eq_some (takeDigits?_eq_some_iff.mpr hday) _).trans ?_
      dsimp only
      rw [if_pos (isDateEnd_iff.mpr hmark)]
      refine (bind_of_eq_some rfl _).trans ?_
      refine (bind_of_eq_some (takeDigits?_eq_some_iff.mpr hhour) _).trans ?_
      refine (bind_of_eq_some (takeChar?_self ':' _) _).trans ?_
      refine (bind_of_eq_some (takeDigits?_eq_some_iff.mpr hminute) _).trans ?_
      refine (bind_of_eq_some (takeChar?_self ':' _) _).trans ?_
      refine (bind_of_eq_some (takeDigits?_eq_some_iff.mpr hsecond) _).trans ?_
      refine (bind_of_eq_some (takeOptionalFraction?_eq_some_iff.mpr hfraction) _).trans ?_
      refine (bind_of_eq_some (offset?_eq_some_iff.mpr hzone) _).trans ?_
      exact bind_of_eq_some (ofFields?_eq_some_iff.mpr ⟨hvalid.date, hvalid.time, rfl⟩) _

theorem spelled_of_readLoose? {dateEnd : DateEnd} {withSeconds : Bool}
    (h : readLoose? dateEnd withSeconds s = some t) :
    Spelled (.loose dateEnd withSeconds) s t 0 ∧ t.Valid := by
  refine ⟨?_, valid_readLoose? h⟩
  rw [readLoose?] at h
  obtain ⟨⟨⟨year, month, day⟩, s₁⟩, hdate, h⟩ := Option.bind_eq_some_iff.mp h
  obtain ⟨s₂, hgap, h⟩ := Option.bind_eq_some_iff.mp h
  obtain ⟨⟨hour, s₃⟩, hhour, h⟩ := Option.bind_eq_some_iff.mp h
  obtain ⟨s₃, hcolon, h⟩ := Option.bind_eq_some_iff.mp h
  obtain ⟨⟨minute, s₄⟩, hminute, h⟩ := Option.bind_eq_some_iff.mp h
  rw [takeChar?_eq_some_iff.mp hcolon] at hhour
  obtain ⟨s₂, hgap, hhour⟩ := Gap.take?_iff.mp ⟨s₂, hgap, hhour⟩
  have hdate := takeDate?_eq_some_iff.mp hdate
  dsimp only at h
  split at h
  next hseconds =>
    obtain ⟨s₄, hcolon, h⟩ := Option.bind_eq_some_iff.mp h
    obtain ⟨⟨second, s₅⟩, hsecond, h⟩ := Option.bind_eq_some_iff.mp h
    obtain ⟨⟨nano, s₆⟩, hfraction, h⟩ := Option.bind_eq_some_iff.mp h
    obtain ⟨clock, hclock, h⟩ := Option.bind_eq_some_iff.mp h
    obtain rfl := Option.some.inj hclock
    rw [takeChar?_eq_some_iff.mp hcolon] at hminute
    dsimp only at h
    split at h
    case isFalse => cases h
    case isTrue hend =>
      obtain ⟨-, -, rfl⟩ := ofFields?_eq_some_iff.mp h
      rw [List.isEmpty_iff.mp hend] at hfraction
      rw [hseconds]
      exact .seconds hdate hgap hhour (takeField?_eq_some_iff.mp hminute)
        (takeField?_eq_some_iff.mp hsecond) (takeOptionalFraction?_eq_some_iff.mp hfraction)
  next hnone =>
    obtain ⟨clock, hclock, h⟩ := Option.bind_eq_some_iff.mp h
    obtain rfl := Option.some.inj hclock
    dsimp only at h
    split at h
    case isFalse => cases h
    case isTrue hend =>
      obtain ⟨-, -, rfl⟩ := ofFields?_eq_some_iff.mp h
      rw [List.isEmpty_iff.mp hend] at hminute
      rw [eq_false_of_ne_true hnone]
      exact .minutes hdate hgap hhour (takeField?_eq_some_iff.mp hminute)

theorem readLoose?_of_spelled {dateEnd : DateEnd} {withSeconds : Bool}
    (h : Spelled (.loose dateEnd withSeconds) s t offset) (hvalid : t.Valid) :
    readLoose? dateEnd withSeconds s = some t := by
  cases h with
  | seconds hdate hgap hhour hminute hsecond hfraction =>
      obtain ⟨_, hgap, hhour⟩ := Gap.take?_iff.mpr ⟨_, hgap, hhour⟩
      rw [readLoose?]
      refine (bind_of_eq_some (takeDate?_eq_some_iff.mpr hdate) _).trans ?_
      refine (bind_of_eq_some hgap _).trans ?_
      refine (bind_of_eq_some hhour _).trans ?_
      refine (bind_of_eq_some (takeChar?_self ':' _) _).trans ?_
      refine (bind_of_eq_some (takeField?_eq_some_iff.mpr hminute) _).trans ?_
      simp only [if_true, takeChar?_self, takeField?_eq_some_iff.mpr hsecond,
        takeOptionalFraction?_eq_some_iff.mpr hfraction, Option.bind_eq_bind, Option.bind_some,
        List.isEmpty_nil]
      exact ofFields?_eq_some_iff.mpr ⟨hvalid.date, hvalid.time, rfl⟩
  | minutes hdate hgap hhour hminute =>
      obtain ⟨_, hgap, hhour⟩ := Gap.take?_iff.mpr ⟨_, hgap, hhour⟩
      rw [readLoose?]
      refine (bind_of_eq_some (takeDate?_eq_some_iff.mpr hdate) _).trans ?_
      refine (bind_of_eq_some hgap _).trans ?_
      refine (bind_of_eq_some hhour _).trans ?_
      refine (bind_of_eq_some (takeChar?_self ':' _) _).trans ?_
      refine (bind_of_eq_some (takeField?_eq_some_iff.mpr hminute) _).trans ?_
      exact ofFields?_eq_some_iff.mpr ⟨hvalid.date, hvalid.time, rfl⟩

theorem readDate?_eq_some_iff :
    readDate? s = some t ↔ Spelled .date s t 0 ∧ t.Valid := by
  constructor
  · intro h
    refine ⟨?_, valid_readDate? h⟩
    rw [readDate?] at h
    obtain ⟨⟨⟨year, month, day⟩, s₁⟩, hdate, h⟩ := Option.bind_eq_some_iff.mp h
    dsimp only at h
    split at h
    case isFalse => cases h
    case isTrue hend =>
      obtain ⟨-, -, rfl⟩ := ofFields?_eq_some_iff.mp h
      obtain rfl := List.isEmpty_iff.mp hend
      exact .date (takeDate?_eq_some_iff.mp hdate)
  · rintro ⟨hspelled, hvalid⟩
    cases hspelled with
    | date hdate =>
        rw [readDate?]
        refine (bind_of_eq_some (takeDate?_eq_some_iff.mpr hdate) _).trans ?_
        exact ofFields?_eq_some_iff.mpr ⟨hvalid.date, hvalid.time, rfl⟩

/-- The reader of a form reads its texts, and no others. -/
theorem Form.read?_eq_some_iff :
    k.read? s = some t ↔ ∃ civil offset, Spelled k s civil offset ∧ civil.Valid ∧
      civil.minusMinutes offset = t := by
  have hloose : ∀ (k : Form) {civil : Timestamp} {offset : Int}, k ≠ .strict →
      Spelled k s civil offset → civil.Valid → civil.minusMinutes offset = civil := by
    intro k civil offset hk h hvalid
    cases h with
    | strict => exact absurd rfl hk
    | seconds | minutes | date => exact minusMinutes_zero hvalid
  cases k with
  | strict =>
      constructor
      · exact spelled_of_readStrict?
      · rintro ⟨civil, offset, hspelled, hvalid, rfl⟩
        exact readStrict?_of_spelled hspelled hvalid
  | loose dateEnd withSeconds =>
      constructor
      · intro h
        obtain ⟨hspelled, hvalid⟩ := spelled_of_readLoose? h
        exact ⟨t, 0, hspelled, hvalid, minusMinutes_zero hvalid⟩
      · rintro ⟨civil, offset, hspelled, hvalid, rfl⟩
        rw [hloose (.loose dateEnd withSeconds) nofun hspelled hvalid]
        exact readLoose?_of_spelled hspelled hvalid
  | date =>
      constructor
      · intro h
        obtain ⟨hspelled, hvalid⟩ := readDate?_eq_some_iff.mp h
        exact ⟨t, 0, hspelled, hvalid, minusMinutes_zero hvalid⟩
      · rintro ⟨civil, offset, hspelled, hvalid, rfl⟩
        rw [hloose .date nofun hspelled hvalid]
        cases hspelled with
        | date hdate => exact readDate?_eq_some_iff.mpr ⟨.date hdate, hvalid⟩

end Forms

/-! ### Which form a text is in -/

/-- A character that stands in no number, field or date. -/
def isMark (c : Char) : Bool := c = ':' || c = 'T' || c = 'Z' || c = 'z'

/-- The colons and letters of a text, in their order. -/
def marks (s : List Char) : List Char := s.filter isMark

/-- The form that the marks of a text leave for it. -/
def formOf (s : List Char) : Form :=
  match marks s with
  | [] => .date
  | [':'] => .loose .blanks false
  | ['T', ':'] => .loose .letter false
  | [':', ':'] => .loose .blanks true
  | ['T', ':', ':'] => .loose .letter true
  | _ => .strict

section Marks

variable {least most n : Nat} {s s' rest : List Char} {c : Char}

theorem marks_cons_of_isMark (hc : isMark c = true) (s : List Char) : marks (c :: s) = c :: marks s :=
  List.filter_cons_of_pos hc

theorem marks_cons_of_plain (hc : isMark c = false) (s : List Char) : marks (c :: s) = marks s :=
  List.filter_cons_of_neg (by simp [hc])

theorem marks_append_of_plain {front : List Char} (h : ∀ c ∈ front, isMark c = false) :
    marks (front ++ rest) = marks rest := by
  have hnone : front.filter isMark = [] :=
    List.filter_eq_nil_iff.mpr fun c hc => by simp [h c hc]
  rw [marks, List.filter_append, hnone, List.nil_append, marks]

theorem isMark_of_isDigit (h : Decimal.isDigit c = true) : isMark c = false :=
  Decimal.of_isDigit (P := fun c => isMark c = false) (by decide) h

theorem isMark_of_isBlank (h : Text.isBlank c = true) : isMark c = false := by
  refine eq_false_of_ne_true fun hmark => ?_
  simp only [isMark, Bool.or_eq_true, decide_eq_true_iff] at hmark
  rcases hmark with ((rfl | rfl) | rfl) | rfl <;> revert h <;> decide

theorem Number.marks_eq (h : Number least most s n rest) : marks s = marks rest := by
  obtain ⟨digits, rfl, hdigits, -⟩ := h
  exact marks_append_of_plain fun c hc => isMark_of_isDigit (hdigits c hc)

theorem AfterBlanks.marks_eq (h : AfterBlanks s rest) : marks s = marks rest := by
  obtain ⟨blanks, rfl, hblanks⟩ := h
  exact marks_append_of_plain fun c hc => isMark_of_isBlank (hblanks c hc)

theorem Field.marks_eq (h : Field s n rest) : marks s = marks rest := by
  obtain ⟨s', hblanks, hnumber⟩ := h
  exact hblanks.marks_eq.trans hnumber.marks_eq

theorem Year.marks_eq {year : Int} (h : Year s year rest) : marks s = marks rest := by
  cases h with
  | plain h => exact h.marks_eq
  | plus h => rw [marks_cons_of_plain rfl, h.marks_eq]
  | minus h => rw [marks_cons_of_plain rfl, h.marks_eq]

theorem Date.marks_eq {year : Int} {month day : Nat} (h : Date s year month day rest) :
    marks s = marks rest := by
  obtain ⟨hblanks, hyear, hmonth, hday⟩ := h
  rw [hblanks.marks_eq, hyear.marks_eq, marks_cons_of_plain rfl, hmonth.marks_eq,
    marks_cons_of_plain rfl, hday.marks_eq]

theorem Fraction.marks_eq (h : Fraction s n rest) : marks s = marks rest := by
  cases h with
  | none => rfl
  | point _ hdigits =>
      rw [marks_cons_of_plain rfl]
      exact marks_append_of_plain fun c hc => isMark_of_isDigit (hdigits c hc)

theorem Zone.marks_eq {offset : Int} (h : Zone s offset) :
    marks s = ['Z'] ∨ marks s = ['z'] ∨ marks s = [':'] := by
  cases h with
  | zero hletter =>
      rcases hletter with rfl | rfl
      · exact .inl rfl
      · exact .inr (.inl rfl)
  | ahead hhours hminutes =>
      rw [marks_cons_of_plain rfl, hhours.marks_eq, marks_cons_of_isMark rfl, hminutes.marks_eq]
      exact .inr (.inr rfl)
  | behind hsign hhours hminutes =>
      have hplain : ∀ {sign : Char}, sign = '-' ∨ sign = '−' → isMark sign = false := by
        rintro sign (rfl | rfl) <;> rfl
      rw [marks_cons_of_plain (hplain hsign), hhours.marks_eq, marks_cons_of_isMark rfl,
        hminutes.marks_eq]
      exact .inr (.inr rfl)

theorem Gap.marks_eq {dateEnd : DateEnd} (h : Gap dateEnd s s') :
    marks s = (match dateEnd with | .blanks => marks s' | .letter => 'T' :: marks s') := by
  cases h with
  | blanks => rfl
  | letter => exact marks_cons_of_isMark rfl _

end Marks

/-- No two forms have the same marks, since only the strict one marks its offset. -/
theorem Spelled.formOf_eq {k : Form} {s : List Char} {civil : Timestamp} {offset : Int}
    (h : Spelled k s civil offset) : formOf s = k := by
  cases h with
  | @strict _ _ _ s₃ _ _ _ s₇ mark _ _ _ _ _ _ _ _ hyear hmonth hday hmark hhour hminute hsecond
      hfraction hzone =>
      have hdate : marks s = marks (mark :: s₃) := by
        rw [hyear.marks_eq, marks_cons_of_plain rfl, hmonth.marks_eq, marks_cons_of_plain rfl,
          hday.marks_eq]
      have hclock : marks s₃ = ':' :: ':' :: marks s₇ := by
        rw [hhour.marks_eq, marks_cons_of_isMark rfl, hminute.marks_eq, marks_cons_of_isMark rfl,
          hsecond.marks_eq, hfraction.marks_eq]
      rw [formOf, hdate]
      rcases hmark with rfl | rfl | rfl
      · rw [marks_cons_of_isMark rfl, hclock]
        rcases hzone.marks_eq with h | h | h <;> rw [h] <;> rfl
      · rw [marks_cons_of_plain rfl, hclock]
        rcases hzone.marks_eq with h | h | h <;> rw [h] <;> rfl
      · rw [marks_cons_of_plain rfl, hclock]
        rcases hzone.marks_eq with h | h | h <;> rw [h] <;> rfl
  | seconds hdate hgap hhour hminute hsecond hfraction =>
      have hclock := hgap.marks_eq
      rw [hhour.marks_eq, marks_cons_of_isMark rfl, hminute.marks_eq, marks_cons_of_isMark rfl,
        hsecond.marks_eq, hfraction.marks_eq] at hclock
      rw [formOf, hdate.marks_eq, hclock]
      cases hgap <;> rfl
  | minutes hdate hgap hhour hminute =>
      have hclock := hgap.marks_eq
      rw [hhour.marks_eq, marks_cons_of_isMark rfl, hminute.marks_eq] at hclock
      rw [formOf, hdate.marks_eq, hclock]
      cases hgap <;> rfl
  | date hdate =>
      rw [formOf, hdate.marks_eq]
      rfl

/-! ### Reading -/

section Reading

variable {text : String} {t : Timestamp} {a b : Instant}

/-- Of the readers at most the one for the form of a text reads it, so their order does not matter. -/
theorem read?_eq_form (text : String) :
    read? text = (formOf (Text.trimChars text.toList)).read? (Text.trimChars text.toList) := by
  have hall : ∀ s, Text.trimChars text.toList = s → read? text =
      (Form.strict.read? s <|> (Form.loose .blanks true).read? s
        <|> (Form.loose .letter true).read? s <|> (Form.loose .blanks false).read? s
        <|> (Form.loose .letter false).read? s <|> Form.date.read? s) := by
    rintro s rfl
    rfl
  have hnone : ∀ k, formOf (Text.trimChars text.toList) ≠ k →
      k.read? (Text.trimChars text.toList) = none := by
    intro k hk
    refine Option.eq_none_iff_forall_ne_some.mpr fun t h => ?_
    obtain ⟨civil, offset, hspelled, -⟩ := Form.read?_eq_some_iff.mp h
    exact hk hspelled.formOf_eq
  -- Five of the six readers find marks that are not theirs.
  rw [hall _ rfl]
  generalize Text.trimChars text.toList = s at hnone ⊢
  generalize formOf s = k at hnone ⊢
  rcases k with _ | ⟨_ | _, _ | _⟩ | _
  all_goals simp [hnone]

theorem read?_eq_some_iff :
    read? text = some t ↔ ∃ k civil offset,
      Spelled k (Text.trimChars text.toList) civil offset ∧ civil.Valid ∧
        civil.minusMinutes offset = t := by
  rw [read?_eq_form]
  constructor
  · exact fun h => ⟨_, Form.read?_eq_some_iff.mp h⟩
  · rintro ⟨k, civil, offset, hspelled, hrest⟩
    rw [hspelled.formOf_eq]
    exact Form.read?_eq_some_iff.mpr ⟨civil, offset, hspelled, hrest⟩

/-- A text that spells an instant: a time of a day that exists, taken back to offset zero. -/
def Spells (text : String) (a : Instant) : Prop :=
  ∃ k civil offset, Spelled k (Text.trimChars text.toList) civil offset ∧ civil.Valid ∧
    civil.instant.earlier offset = a

theorem Spelled.offset_bounds {k : Form} {s : List Char} {civil : Timestamp} {offset : Int}
    (h : Spelled k s civil offset) : -1440 < offset ∧ offset < 1440 := by
  cases h with
  | strict _ _ _ _ _ _ _ _ hzone => exact offset?_bounds (offset?_eq_some_iff.mpr hzone)
  | seconds | minutes | date => decide

/-- Exactly the texts that spell an instant are read, each as that instant. -/
theorem spells_iff : Spells text a ↔ ∃ t, read? text = some t ∧ t.instant = a := by
  constructor
  · rintro ⟨k, civil, offset, hspelled, hvalid, rfl⟩
    exact ⟨_, read?_eq_some_iff.mpr ⟨k, civil, offset, hspelled, hvalid, rfl⟩,
      instant_minusMinutes hvalid hspelled.offset_bounds⟩
  · rintro ⟨t, hread, rfl⟩
    obtain ⟨k, civil, offset, hspelled, hvalid, rfl⟩ := read?_eq_some_iff.mp hread
    exact ⟨k, civil, offset, hspelled, hvalid,
      (instant_minusMinutes hvalid hspelled.offset_bounds).symm⟩

/-- An offset may lead into a leap day. -/
example : Spells "2024-03-01T00:30:00+01:00" ⟨daysOf 2024 2 29 * 1440 + 1410, 0, 0⟩ :=
  spells_iff.mpr ⟨⟨2024, 2, 29, 23, 30, 0, 0⟩, by decide +kernel, by decide⟩

theorem Spells.unique (ha : Spells text a) (hb : Spells text b) : a = b := by
  obtain ⟨t, ht, rfl⟩ := spells_iff.mp ha
  obtain ⟨u, hu, rfl⟩ := spells_iff.mp hb
  rw [Option.some.inj (ht.symm.trans hu)]

end Reading

end Timestamp

end DataAccess
