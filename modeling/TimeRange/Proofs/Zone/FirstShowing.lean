import TimeRange.Proofs.Zone.LocalOrder

/-!
# Where a time is shown first

The clocks of a zone may show a time at several instants, or at none. `locate?`
settles on one instant all the same. A time that is shown is located at the first
instant at which it is. A time that is not shown is skipped by one change of
offset, and it is located after that change, as far as the skipped time lies
after the time at which the clock was moved forward.

A time can be shown first at an instant that the calendar does not cover. In the
catalogue this does not happen, since no clock is changed in the first two days
of the calendar.

The main statement is `locate?_first_showing_or_past_skip`.
-/

namespace TimeRange.Zone

open Calendar

/-- Whether no change of offset is made in the first two days of the calendar. -/
def QuietAtFirst (zone : Zone) : Prop :=
  ∀ change ∈ zone.changes, -8334601228800 + 172800 ≤ change.second

instance (zone : Zone) : Decidable zone.QuietAtFirst :=
  inferInstanceAs (Decidable (∀ change ∈ zone.changes, -8334601228800 + 172800 ≤ change.second))

theorem quietAtFirst_of_mem_catalogue :
    ∀ zone ∈ NamedZone.catalogue, zone.toZone.QuietAtFirst := by
  decide +kernel

/-- Whether an instant is the first one at which the clocks of a zone show a time. -/
def IsFirstShowing (zone : Zone) (wall : WallTime) (instant : Instant) : Prop :=
  zone.wallTime? instant = some wall ∧
    ∀ other, zone.wallTime? other = some wall → instant.nanoseconds ≤ other.nanoseconds

/-- Whether an instant is where the offset before a change leads from a time that the change skips. -/
structure CarriedPast (zone : Zone) (change : Change) (wall : WallTime) (instant : Instant) : Prop where
  skips : change.Skips wall.seconds
  before : zone.offsetAtSecond (change.second - 1) = change.before
  after : zone.offsetAtSecond change.second = change.after
  located : instant.nanoseconds = wall.nanoseconds - change.before * secondLength
  late : change.second ≤ instant.seconds
  shown : zone.wallNanoseconds instant = wall.nanoseconds + change.jump * secondLength

theorem IsFirstShowing.unique {zone : Zone} {wall : WallTime} {first second : Instant}
    (left : zone.IsFirstShowing wall first) (right : zone.IsFirstShowing wall second) :
    first = second :=
  Instant.eq_of_nanoseconds_eq
    (Int.le_antisymm (left.2 second right.1) (right.2 first left.1))

/-! ## Along a history -/

section History

variable {start? : Option Int} {offset wallSecond : Int} {transitions : List Transition}

/-- A change leads from the offset in force a second before it to the one in force from then on. -/
theorem SteadyFrom.offsetAfter_of_mem_changesFrom (steady : SteadyFrom start? offset transitions)
    {change : Change} (member : change ∈ changesFrom offset transitions) :
    offsetAfter offset transitions (change.second - 1) = change.before
      ∧ offsetAfter offset transitions change.second = change.after := by
  induction transitions generalizing start? offset with
  | nil => cases member
  | cons next later ih =>
      have rest := steady.2.2.2
      rcases List.mem_cons.mp member with rfl | behind
      · refine ⟨offsetAfter_of_lt (Int.sub_lt_self _ (by decide)), ?_⟩
        rw [offsetAfter_of_le (Int.le_refl _)]
        exact rest.offsetAfter_of_near (Int.lt_add_of_pos_right _ (by decide))
      · have apart := rest.second_of_mem_changesFrom behind
        rw [offsetAfter_of_le (show next.second ≤ change.second - 1 by omega),
          offsetAfter_of_le (show next.second ≤ change.second by omega)]
        exact ih rest behind

/-- What a transition skips is not skipped by a later change. -/
theorem SteadyFrom.not_skips_of_mem_changesFrom {start before : Int}
    (steady : SteadyFrom (some start) offset transitions) {change : Change}
    (behind : change ∈ changesFrom offset transitions)
    (skips : Change.Skips ⟨start, before, offset⟩ wallSecond) : ¬ change.Skips wallSecond := by
  rintro ⟨begun, _⟩
  have bounds := steady.offset_bounds
  have changeBounds := steady.before_bounds behind
  have apart := steady.second_of_mem_changesFrom behind
  have ends := skips.2
  simp only at ends
  omega

/-- A time is skipped by one change at most. -/
theorem SteadyFrom.eq_of_skips (steady : SteadyFrom start? offset transitions) {first second : Change}
    (firstMember : first ∈ changesFrom offset transitions)
    (secondMember : second ∈ changesFrom offset transitions) (firstSkips : first.Skips wallSecond)
    (secondSkips : second.Skips wallSecond) : first = second := by
  induction transitions generalizing start? offset with
  | nil => cases firstMember
  | cons next later ih =>
      have rest := steady.2.2.2
      rcases List.mem_cons.mp firstMember with rfl | firstBehind
      · rcases List.mem_cons.mp secondMember with rfl | secondBehind
        · rfl
        · exact absurd secondSkips (rest.not_skips_of_mem_changesFrom secondBehind firstSkips)
      · rcases List.mem_cons.mp secondMember with rfl | secondBehind
        · exact absurd firstSkips (rest.not_skips_of_mem_changesFrom firstBehind secondSkips)
        · exact ih rest firstBehind secondBehind

end History

/-! ## Located times -/

variable {zone : Zone} {wall : WallTime} {instant located : Instant}

theorem exists_spanShowing?_of_wallTime? (shown : zone.wallTime? instant = some wall) :
    ∃ span, zone.spanShowing? wall = some span :=
  exists_spanShowing?_eq_some (wallTime?_eq_some_iff.mp shown).symm

theorem Steady.exists_locate?_of_shown (steady : zone.Steady) (quiet : zone.QuietAtFirst)
    (shown : zone.wallTime? instant = some wall) : ∃ located, zone.locate? wall = some located := by
  have reads := (wallTime?_eq_some_iff.mp shown).symm
  have onWall : instant.seconds + zone.offsetAtSecond instant.seconds = wall.seconds :=
    (wallNanoseconds_eq_iff.mp reads).1
  obtain ⟨span, found⟩ := exists_spanShowing?_of_wallTime? shown
  obtain ⟨holds, first⟩ := steady.of_spanShowing?_eq_some found
  have notLater := first instant.seconds onWall
  have inside : InCalendar (wall.nanoseconds - span.offset * secondLength) := by
    have covered := instant.inCalendar
    by_cases same : zone.offsetAtSecond (wall.seconds - span.offset)
        = zone.offsetAtSecond instant.seconds
    · rw [← reads, wallNanoseconds, offsetAt, ← same, holds, Int.add_sub_cancel]
      exact covered
    · -- the clock has been changed in between, and so not at the beginning of the calendar
      have bounds := steady.offsetAtSecond_bounds instant.seconds
      have spanBounds := steady.offsetAtSecond_bounds (wall.seconds - span.offset)
      obtain ⟨change, member, _, late, _⟩ :=
        SteadyFrom.exists_change_of_ne steady notLater (by omega) same
      have opening := quiet change member
      simp only [InCalendar, Instant.seconds, WallTime.seconds, secondLength] at *
      omega
  refine ⟨⟨_, inside⟩, ?_⟩
  simp only [locate?, found]
  exact Instant.ofNanoseconds?_eq_some_iff.mpr rfl

theorem Steady.isFirstShowing_of_locate? (steady : zone.Steady)
    (shown : zone.wallTime? instant = some wall) (found : zone.locate? wall = some located) :
    zone.IsFirstShowing wall located := by
  obtain ⟨span, inSpan⟩ := exists_spanShowing?_of_wallTime? shown
  refine ⟨steady.wallTime?_of_shown inSpan found, ?_⟩
  intro other otherShown
  exact steady.locate?_le_of_shown inSpan found (Int.le_of_eq (wallTime?_eq_some_iff.mp otherShown))

/-- A time that is not shown is carried past the one change that skips it. -/
theorem Steady.exists_carriedPast_of_locate? (steady : zone.Steady)
    (unshown : ∀ instant, zone.wallTime? instant ≠ some wall)
    (found : zone.locate? wall = some located) :
    ∃ change ∈ zone.changes, zone.CarriedPast change wall located
      ∧ ∀ other ∈ zone.changes, other.Skips wall.seconds → other = change := by
  cases inSpan : zone.spanShowing? wall with
  | some span => exact absurd (steady.wallTime?_of_shown inSpan found) (unshown located)
  | none =>
      obtain ⟨change, member, skips, seconds, reads⟩ := steady.of_spanShowing?_eq_none inSpan found
      obtain ⟨before, after⟩ := SteadyFrom.offsetAfter_of_mem_changesFrom steady member
      have late : change.second ≤ located.seconds := by
        rw [seconds]
        exact Int.le_sub_right_of_add_le skips.1
      have subsecond := (wallNanoseconds_eq_iff.mp reads).2
      refine ⟨change, member, ⟨skips, before, after, ?_, late, reads⟩, ?_⟩
      · simp only [Instant.seconds, Instant.subsecond, WallTime.seconds, secondLength]
          at seconds subsecond ⊢
        omega
      · intro other otherMember otherSkips
        exact SteadyFrom.eq_of_skips steady otherMember member otherSkips skips

/-- An instant is located by what the clocks show at it, if they have not shown it before. -/
theorem IsFirstShowing.locate?_eq_some (first : zone.IsFirstShowing wall instant)
    (steady : zone.Steady) (quiet : zone.QuietAtFirst) : zone.locate? wall = some instant := by
  obtain ⟨located, found⟩ := steady.exists_locate?_of_shown quiet first.1
  rw [found, (steady.isFirstShowing_of_locate? first.1 found).unique first]

/--
In every zone of the catalogue, a time is located at the first instant at which
the clocks show it. If they never do, it is skipped by one change of offset, and
located where the offset in force just before that change leads: not before the
change, and with a wall clock that is ahead of the time by the jump of the change.
Hence every instant is located by what the clocks show at it, save the later ones
of those at which they show the same.
-/
theorem locate?_first_showing_or_past_skip {named : NamedZone} (member : named ∈ NamedZone.catalogue) :
    (∀ wall located, named.toZone.locate? wall = some located →
        ((∃ instant, named.toZone.wallTime? instant = some wall) →
            named.toZone.IsFirstShowing wall located) ∧
          ((∀ instant, named.toZone.wallTime? instant ≠ some wall) →
            ∃ change ∈ named.toZone.changes, named.toZone.CarriedPast change wall located
              ∧ ∀ other ∈ named.toZone.changes, other.Skips wall.seconds → other = change)) ∧
      ∀ wall instant, named.toZone.IsFirstShowing wall instant →
        named.toZone.locate? wall = some instant := by
  have steady := steady_of_mem_catalogue named member
  refine ⟨?_, ?_⟩
  · intro wall located found
    refine ⟨?_, fun unshown => steady.exists_carriedPast_of_locate? unshown found⟩
    rintro ⟨instant, shown⟩
    exact steady.isFirstShowing_of_locate? shown found
  · intro wall instant first
    exact first.locate?_eq_some steady (quietAtFirst_of_mem_catalogue named member)

/--
In New York, half past two is skipped on the tenth of March 2024 and located at
half past three, and half past one is shown twice on the third of November.
-/
theorem locate?_first_showing_or_past_skip_of_new_york :
    (∃ change ∈ NamedZone.americaNewYork.toZone.changes,
        NamedZone.americaNewYork.toZone.CarriedPast change ⟨1710037800000000000, by decide⟩
          ⟨1710055800000000000, by decide⟩) ∧
      NamedZone.americaNewYork.toZone.wallTime? ⟨1730615400000000000, by decide⟩
        = some ⟨1730597400000000000, by decide⟩ ∧
      NamedZone.americaNewYork.toZone.IsFirstShowing ⟨1730597400000000000, by decide⟩
        ⟨1730611800000000000, by decide⟩ := by
  have located := (locate?_first_showing_or_past_skip (show NamedZone.americaNewYork ∈ _ by
    decide +kernel)).1
  have hidden : NamedZone.americaNewYork.toZone.spanShowing? ⟨1710037800000000000, by decide⟩
      = none := by
    decide +kernel
  have unshown : ∀ instant, NamedZone.americaNewYork.toZone.wallTime? instant
      ≠ some ⟨1710037800000000000, by decide⟩ := by
    intro instant shown
    obtain ⟨span, inSpan⟩ := exists_spanShowing?_of_wallTime? shown
    cases hidden.symm.trans inSpan
  have again : NamedZone.americaNewYork.toZone.wallTime? ⟨1730615400000000000, by decide⟩
      = some ⟨1730597400000000000, by decide⟩ := by
    decide +kernel
  have carriedTo : NamedZone.americaNewYork.toZone.locate? ⟨1710037800000000000, by decide⟩
      = some ⟨1710055800000000000, by decide⟩ := by
    decide +kernel
  have shownAt : NamedZone.americaNewYork.toZone.locate? ⟨1730597400000000000, by decide⟩
      = some ⟨1730611800000000000, by decide⟩ := by
    decide +kernel
  obtain ⟨change, listed, carried, _⟩ := (located _ _ carriedTo).2 unshown
  exact ⟨⟨change, listed, carried⟩, again, (located _ _ shownAt).1 ⟨_, again⟩⟩

end TimeRange.Zone
