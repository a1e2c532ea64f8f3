import Mathlib.Data.List.Chain
import TimeRange.Proofs.Zone.Rounding

/-!
# Rounding to one unit after another

Units nest where the longer one starts only where the shorter one does: seconds,
minutes, hours and days up to the months, quarters and years of a fiscal calendar,
and up to the weeks apart from these. Rounding down to a shorter unit first then
makes no difference to rounding down to a longer one.

The main statement is `truncate?_bind_truncate?_of_nests`.
-/

namespace TimeRange

open Calendar

namespace TimeUnit

def chain : List TimeUnit :=
  [.second, .minute, .hour, .day, .month, .quarter, .year]

/-- The units from the second to the week, of which no month is made up. -/
def weekChain : List TimeUnit :=
  [.second, .minute, .hour, .day, .week]

/-- Whether a unit comes before another one among the units up to the year, or up to the week. -/
def Nests (fine coarse : TimeUnit) : Prop :=
  [fine, coarse].Sublist chain ∨ [fine, coarse].Sublist weekChain

instance (fine coarse : TimeUnit) : Decidable (fine.Nests coarse) :=
  inferInstanceAs (Decidable (_ ∨ _))

end TimeUnit

/-! ## Where nested units start -/

namespace Calendar.Convention

def StartsWithin (convention : Convention) (fine coarse : TimeUnit) : Prop :=
  ∀ nanoseconds, convention.AtBoundary coarse nanoseconds → convention.AtBoundary fine nanoseconds

variable (convention : Convention)

theorem StartsWithin.trans {convention : Convention} {fine middle coarse : TimeUnit}
    (first : convention.StartsWithin fine middle) (second : convention.StartsWithin middle coarse) :
    convention.StartsWithin fine coarse :=
  fun nanoseconds starts => first nanoseconds (second nanoseconds starts)

instance : Trans convention.StartsWithin convention.StartsWithin convention.StartsWithin :=
  ⟨StartsWithin.trans⟩

theorem startsWithin_minute : convention.StartsWithin .second .minute := by
  intro nanoseconds starts
  simp only [AtBoundary, secondLength] at starts ⊢
  omega

theorem startsWithin_hour : convention.StartsWithin .minute .hour := by
  intro nanoseconds starts
  simp only [AtBoundary, secondLength] at starts ⊢
  omega

theorem startsWithin_day : convention.StartsWithin .hour .day := by
  intro nanoseconds starts
  simp only [AtBoundary] at starts ⊢
  rw [starts, Int.zero_emod]

theorem startsWithin_week : convention.StartsWithin .day .week :=
  fun _ starts => starts.1

theorem startsWithin_month : convention.StartsWithin .day .month :=
  fun _ starts => starts.1

theorem startsWithin_quarter : convention.StartsWithin .month .quarter :=
  fun _ starts => ⟨starts.1, starts.2.1⟩

/-- The first month of a year is in step with itself. -/
theorem startsWithin_year : convention.StartsWithin .quarter .year :=
  fun _ starts => ⟨starts.1, starts.2.1, congrArg (· % 3) starts.2.2⟩

theorem isChain_startsWithin {longer : List TimeUnit}
    (fromDay : (.day :: longer).IsChain convention.StartsWithin) :
    (.second :: .minute :: .hour :: .day :: longer).IsChain convention.StartsWithin :=
  .cons_cons convention.startsWithin_minute <|
    .cons_cons convention.startsWithin_hour <|
      .cons_cons convention.startsWithin_day fromDay

theorem startsWithin_of_nests {fine coarse : TimeUnit} (nests : fine.Nests coarse) :
    convention.StartsWithin fine coarse := by
  have years : TimeUnit.chain.IsChain convention.StartsWithin :=
    convention.isChain_startsWithin <|
      .cons_cons convention.startsWithin_month <|
        .cons_cons convention.startsWithin_quarter <|
          .cons_cons convention.startsWithin_year (.singleton _)
  have weeks : TimeUnit.weekChain.IsChain convention.StartsWithin :=
    convention.isChain_startsWithin <| .cons_cons convention.startsWithin_week (.singleton _)
  rcases nests with upToYear | upToWeek
  · exact (List.isChain_iff_pairwise.mp years).forall_sublist upToYear
  · exact (List.isChain_iff_pairwise.mp weeks).forall_sublist upToWeek

end Calendar.Convention

/-! ## Rounding down twice -/

namespace Calendar.Grid

variable {fine coarse : Grid}

theorem floor_le_floor (within : ∀ value, coarse.Starts value → fine.Starts value) (value : Int) :
    coarse.floor value ≤ fine.floor value :=
  le_floor (within _ (coarse.starts_floor value)) (coarse.floor_le value)

/-- The start of a bucket and that of a finer one within it lie in the same bucket. -/
theorem floor_floor (within : ∀ value, coarse.Starts value → fine.Starts value) (value : Int) :
    coarse.floor (fine.floor value) = coarse.floor value := by
  apply Int.le_antisymm
  · exact coarse.floor_mono (fine.floor_le value)
  · exact le_floor (coarse.starts_floor value) (floor_le_floor within value)

end Calendar.Grid

namespace Zone

variable {offset : Int} {convention : Convention} {fine coarse : TimeUnit} {instant start : Instant}

theorem exists_wallNanoseconds_between {first last : Instant} {nanoseconds : Int}
    (begins : InCalendar ((fixed offset).wallNanoseconds first))
    (ends : InCalendar ((fixed offset).wallNanoseconds last))
    (after : (fixed offset).wallNanoseconds first ≤ nanoseconds)
    (before : nanoseconds ≤ (fixed offset).wallNanoseconds last) :
    ∃ between : Instant, (fixed offset).wallNanoseconds between = nanoseconds
      ∧ InCalendar nanoseconds := by
  have covered : InCalendar (nanoseconds - offset * secondLength) := by
    have from_ := first.inCalendar
    have to_ := last.inCalendar
    rw [wallNanoseconds_fixed] at after before
    unfold InCalendar at from_ to_ ⊢
    omega
  refine ⟨⟨_, covered⟩, Int.sub_add_cancel _ _, ?_⟩
  unfold InCalendar at begins ends ⊢
  omega

/-- Where a longer unit is rounded down to, a shorter one within it is rounded down as well. -/
theorem exists_truncate?_of_within
    (within : ∀ value, (convention.grid coarse).Starts value → (convention.grid fine).Starts value)
    (found : (fixed offset).truncate? convention (some coarse) instant = some start) :
    ∃ middle, (fixed offset).truncate? convention (some fine) instant = some middle := by
  obtain ⟨inside, stays, same⟩ := truncate?_fixed_eq_some_iff.mp found
  obtain ⟨middle, middleAt, covered⟩ := @exists_wallNanoseconds_between offset start instant
    ((convention.grid fine).floor ((fixed offset).wallNanoseconds instant)) (same ▸ stays) inside
    (same ▸ Grid.floor_le_floor within _) (Grid.floor_le _ _)
  exact ⟨middle, truncate?_fixed_eq_some_iff.mpr ⟨inside, covered, middleAt⟩⟩

/-- Rounding down to a shorter unit first does not change what a longer one is rounded down to. -/
theorem truncate?_eq_some_iff_of_within
    (within : ∀ value, (convention.grid coarse).Starts value → (convention.grid fine).Starts value)
    {middle : Instant} (rounded : (fixed offset).truncate? convention (some fine) instant = some middle) :
    (fixed offset).truncate? convention (some coarse) middle = some start ↔
      (fixed offset).truncate? convention (some coarse) instant = some start := by
  obtain ⟨inside, stays, same⟩ := truncate?_fixed_eq_some_iff.mp rounded
  rw [truncate?_fixed_eq_some_iff, truncate?_fixed_eq_some_iff, same, Grid.floor_floor within]
  exact and_congr_left fun _ => iff_of_true stays inside

/--
In a zone of one offset, rounding down to a unit gives the same whether or not an
instant has been rounded down to a shorter unit that nests in it; neither has a
result where the other has none. A unit starts only where those that nest in it
do, so that a fiscal year starts with a fiscal quarter and that with a month.
-/
theorem truncate?_bind_truncate?_of_nests (offset : Int) (convention : Convention)
    {fine coarse : TimeUnit} (nests : fine.Nests coarse) (instant : Instant) :
    ((fixed offset).truncate? convention (some fine) instant).bind
          ((fixed offset).truncate? convention (some coarse))
        = (fixed offset).truncate? convention (some coarse) instant ∧
      ((fixed offset).IsBoundary convention coarse instant →
        (fixed offset).IsBoundary convention fine instant) := by
  have within : ∀ value, (convention.grid coarse).Starts value →
      (convention.grid fine).Starts value := by
    intro value starts
    rw [← Convention.atBoundary_iff_starts] at starts ⊢
    exact convention.startsWithin_of_nests nests value starts
  refine ⟨Option.ext fun start => ?_, convention.startsWithin_of_nests nests _⟩
  rw [Option.bind_eq_some_iff]
  constructor
  · rintro ⟨middle, rounded, found⟩
    exact (truncate?_eq_some_iff_of_within within rounded).mp found
  · intro found
    obtain ⟨middle, rounded⟩ := exists_truncate?_of_within within found
    exact ⟨middle, rounded, (truncate?_eq_some_iff_of_within within rounded).mpr found⟩

/--
At 05:30, the first of March 2024 lies in the quarter that starts in February and
in the year that started in the May before it, the weeks starting on Sunday.
-/
theorem truncate?_bind_truncate?_of_quarter :
    TimeUnit.quarter.Nests .year ∧
      ((fixed 19800).truncate? ⟨7, 5⟩ (some .quarter) ⟨1709251200000000000, by decide⟩).bind
          ((fixed 19800).truncate? ⟨7, 5⟩ (some .year))
        = some ⟨1682879400000000000, by decide⟩ := by
  have nests : TimeUnit.quarter.Nests .year := by decide
  have rounded : (fixed 19800).truncate? ⟨7, 5⟩ (some .year) ⟨1709251200000000000, by decide⟩
      = some ⟨1682879400000000000, by decide⟩ := by decide
  refine ⟨nests, ?_⟩
  rw [(truncate?_bind_truncate?_of_nests 19800 ⟨7, 5⟩ nests _).1]
  exact rounded

end Zone

end TimeRange
