import TimeRange.Proofs.Zone.Rounding
import TimeRange.Zone.Catalogue

/-!
# Locating a wall-clock time

Offsets are at most a day and change at most every other day; a history of
which this is true is called steady, and those of the catalogue are. On such a
history it is settled what `locate?` finds. If the wall clock shows a time, it
is the earliest instant at which it does. Otherwise a change of offset skips the
time, and the offset before the change leads to an instant at which the clock
has already been moved forward.

The main statements are `Steady.locates` and `steady_of_mem_catalogue`. The
proofs follow the transitions of a history one by one, given the second from
which on the rest of the history holds.
-/

namespace TimeRange

open Calendar

/-- A change of offset: the second from which on it holds, and the offsets before it and from then on. -/
structure Change where
  second : Int
  before : Int
  after : Int
  deriving DecidableEq, Repr

namespace Change

def jump (change : Change) : Int :=
  change.after - change.before

/-- Whether the wall clock skips a second of its own count. -/
def Skips (change : Change) (wallSecond : Int) : Prop :=
  change.second + change.before ≤ wallSecond ∧ wallSecond < change.second + change.after

instance (change : Change) (wallSecond : Int) : Decidable (change.Skips wallSecond) :=
  inferInstanceAs (Decidable (_ ∧ _))

end Change

namespace Zone

def changesFrom (offset : Int) : List Transition → List Change
  | [] => []
  | next :: later => ⟨next.second, offset, next.offset⟩ :: changesFrom next.offset later

def changes (zone : Zone) : List Change :=
  changesFrom zone.initialOffset zone.transitions

/--
Whether offsets are at most a day, no change is forward by more than a day or in
the last two days of the calendar, and changes are at least two days apart, from
a second on.
-/
def SteadyFrom (start? : Option Int) (offset : Int) : List Transition → Prop
  | [] => -86400 ≤ offset ∧ offset ≤ 86400
  | next :: later =>
      (-86400 ≤ offset ∧ offset ≤ 86400)
        ∧ (next.offset ≤ offset + 86400 ∧ next.second + 172800 ≤ 8210266876800)
        ∧ (∀ start ∈ start?, start + 172800 ≤ next.second)
        ∧ SteadyFrom (some next.second) next.offset later

instance decidableSteadyFrom : (start? : Option Int) → (offset : Int) →
    (transitions : List Transition) → Decidable (SteadyFrom start? offset transitions)
  | _, _, [] => inferInstanceAs (Decidable (_ ∧ _))
  | _, _, next :: later =>
      have := decidableSteadyFrom (some next.second) next.offset later
      inferInstanceAs (Decidable (_ ∧ _ ∧ _ ∧ _))

def Steady (zone : Zone) : Prop :=
  SteadyFrom none zone.initialOffset zone.transitions

instance (zone : Zone) : Decidable zone.Steady :=
  decidableSteadyFrom _ _ _

theorem steady_of_mem_catalogue :
    ∀ zone ∈ NamedZone.catalogue, zone.toZone.Steady := by
  decide +kernel

variable {start? : Option Int} {offset second wallSecond : Int} {next : Transition}
  {transitions later : List Transition}

theorem offsetAfter_of_lt (early : second < next.second) :
    offsetAfter offset (next :: later) second = offset :=
  if_pos early

theorem offsetAfter_of_le (late : next.second ≤ second) :
    offsetAfter offset (next :: later) second = offsetAfter next.offset later second :=
  if_neg (Int.not_lt.mpr late)

theorem SteadyFrom.offset_bounds (steady : SteadyFrom start? offset transitions) :
    -86400 ≤ offset ∧ offset ≤ 86400 := by
  cases transitions with
  | nil => exact steady
  | cons next later => exact steady.1

theorem SteadyFrom.offsetAfter_bounds (steady : SteadyFrom start? offset transitions)
    (second : Int) :
    -86400 ≤ offsetAfter offset transitions second
      ∧ offsetAfter offset transitions second ≤ 86400 := by
  induction transitions generalizing start? offset with
  | nil => exact steady
  | cons next later ih =>
      by_cases early : second < next.second
      · rw [offsetAfter_of_lt early]
        exact steady.1
      · rw [offsetAfter_of_le (Int.not_lt.mp early)]
        exact ih steady.2.2.2

/-- For two days after a change there is no other. -/
theorem SteadyFrom.offsetAfter_of_near {start : Int}
    (steady : SteadyFrom (some start) offset transitions) (near : second < start + 172800) :
    offsetAfter offset transitions second = offset := by
  cases transitions with
  | nil => rfl
  | cons next later =>
      have apart := steady.2.2.1 start rfl
      exact offsetAfter_of_lt (by omega)

theorem SteadyFrom.second_of_mem_changesFrom {start : Int}
    (steady : SteadyFrom (some start) offset transitions) {change : Change}
    (member : change ∈ changesFrom offset transitions) : start + 172800 ≤ change.second := by
  induction transitions generalizing start offset with
  | nil => cases member
  | cons next later ih =>
      have apart := steady.2.2.1 start rfl
      rcases List.mem_cons.mp member with rfl | behind
      · exact apart
      · have further := ih steady.2.2.2 behind
        omega

theorem SteadyFrom.change_bounds (steady : SteadyFrom start? offset transitions) {change : Change}
    (member : change ∈ changesFrom offset transitions) :
    change.after ≤ 86400 ∧ change.jump ≤ 86400 ∧ change.second + 172800 ≤ 8210266876800 := by
  induction transitions generalizing start? offset with
  | nil => cases member
  | cons next later ih =>
      rcases List.mem_cons.mp member with rfl | behind
      · have bounds := steady.2.2.2.offset_bounds
        have change := steady.2.1
        simp only [Change.jump]
        omega
      · exact ih steady.2.2.2 behind

/-- The first span, from its start up to the next transition, shows the seconds that its offset leads to. -/
theorem shows_first_iff :
    Span.shows ⟨start?, some next.second, offset⟩ wallSecond = true ↔
      (∀ start ∈ start?, start ≤ wallSecond - offset) ∧ wallSecond - offset < next.second := by
  simp [Span.shows, Span.holds_iff]

theorem shows_last_iff :
    Span.shows ⟨start?, none, offset⟩ wallSecond = true ↔
      ∀ start ∈ start?, start ≤ wallSecond - offset := by
  simp [Span.shows, Span.holds_iff]

/-- The first span that shows a second leads to the earliest second of Universal Time at which it is shown. -/
theorem SteadyFrom.of_find?_eq_some (steady : SteadyFrom start? offset transitions) {span : Span}
    (found : (spansFrom start? offset transitions).find? (·.shows wallSecond) = some span) :
    (∀ start ∈ start?, start ≤ wallSecond - span.offset)
      ∧ offsetAfter offset transitions (wallSecond - span.offset) = span.offset
      ∧ ∀ other, (∀ start ∈ start?, start ≤ other) →
          other + offsetAfter offset transitions other = wallSecond →
          wallSecond - span.offset ≤ other := by
  induction transitions generalizing start? offset with
  | nil =>
      simp only [spansFrom, List.find?_singleton, Option.ite_none_right_eq_some] at found
      obtain ⟨shown, same⟩ := found
      cases same
      refine ⟨shows_last_iff.mp shown, rfl, ?_⟩
      intro other _ reads
      simp only [offsetAfter] at reads ⊢
      omega
  | cons next later ih =>
      rw [spansFrom, List.find?_cons] at found
      split at found
      · rename_i shown
        cases found
        obtain ⟨begun, early⟩ := shows_first_iff.mp shown
        refine ⟨begun, offsetAfter_of_lt early, ?_⟩
        intro other _ reads
        by_cases otherEarly : other < next.second
        · rw [offsetAfter_of_lt otherEarly] at reads
          exact Int.le_of_eq (Int.sub_eq_iff_eq_add.mpr reads.symm)
        · exact Int.le_of_lt (Int.lt_of_lt_of_le early (Int.not_lt.mp otherEarly))
      · rename_i hidden
        obtain ⟨begun, holds, first⟩ := ih steady.2.2.2 found
        have late := begun next.second rfl
        refine ⟨?_, (offsetAfter_of_le late).trans holds, ?_⟩
        · intro start known
          have apart := steady.2.2.1 start known
          omega
        · intro other otherBegun reads
          by_cases otherEarly : other < next.second
          · -- the first span would show the second
            rw [offsetAfter_of_lt otherEarly] at reads
            have same : wallSecond - offset = other := by omega
            have shown : Span.shows ⟨start?, some next.second, offset⟩ wallSecond = true := by
              rw [shows_first_iff, same]
              exact ⟨otherBegun, otherEarly⟩
            rw [hidden] at shown
            cases shown
          · rw [offsetAfter_of_le (Int.not_lt.mp otherEarly)] at reads
            apply first other _ reads
            intro start known
            cases known
            omega

theorem exists_span_holds (begun : ∀ start ∈ start?, start ≤ second) :
    ∃ span ∈ spansFrom start? offset transitions,
      span.holds second = true ∧ span.offset = offsetAfter offset transitions second := by
  induction transitions generalizing start? offset with
  | nil => exact ⟨_, List.mem_singleton_self _, Span.holds_iff.mpr ⟨begun, by simp⟩, rfl⟩
  | cons next later ih =>
      by_cases early : second < next.second
      · refine ⟨_, List.mem_cons_self, Span.holds_iff.mpr ⟨begun, ?_⟩, (offsetAfter_of_lt early).symm⟩
        intro stop known
        cases known
        exact early
      · have late := Int.not_lt.mp early
        obtain ⟨span, member, holds, same⟩ := @ih (some next.second) next.offset
          (by intro start known; cases known; exact late)
        exact ⟨span, List.mem_cons_of_mem _ member, holds, same.trans (offsetAfter_of_le late).symm⟩

/--
A second that no span shows is skipped by a change. The offset before the change
is the one in force a day before, and the one after it is in force at the second
to which the former leads.
-/
theorem SteadyFrom.of_find?_eq_none (steady : SteadyFrom start? offset transitions)
    (begun : ∀ start ∈ start?, start + offset ≤ wallSecond)
    (hidden : (spansFrom start? offset transitions).find? (·.shows wallSecond) = none) :
    ∃ change ∈ changesFrom offset transitions, change.Skips wallSecond
      ∧ (∀ start ∈ start?, start + 86400 ≤ wallSecond ∧ start + change.before ≤ wallSecond)
      ∧ offsetAfter offset transitions (wallSecond - 86400) = change.before
      ∧ offsetAfter offset transitions (wallSecond - change.before) = change.after := by
  induction transitions generalizing start? offset with
  | nil =>
      have shown : Span.shows ⟨start?, none, offset⟩ wallSecond = true :=
        shows_last_iff.mpr fun start known => Int.le_sub_right_of_add_le (begun start known)
      simp [spansFrom, shown] at hidden
  | cons next later ih =>
      rw [spansFrom, List.find?_cons] at hidden
      split at hidden
      · cases hidden
      · rename_i unseen
        have late : next.second ≤ wallSecond - offset := by
          apply Int.not_lt.mp
          intro early
          have shown : Span.shows ⟨start?, some next.second, offset⟩ wallSecond = true :=
            shows_first_iff.mpr
              ⟨fun start known => Int.le_sub_right_of_add_le (begun start known), early⟩
          rw [unseen] at shown
          cases shown
        have bounds := steady.1
        have nextBounds := steady.2.2.2.offset_bounds
        by_cases skipped : wallSecond < next.second + next.offset
        · refine ⟨⟨next.second, offset, next.offset⟩, List.mem_cons_self,
            ⟨Int.add_le_of_le_sub_right late, skipped⟩, ?_, ?_, ?_⟩
          · intro start known
            have apart := steady.2.2.1 start known
            exact ⟨by omega, begun start known⟩
          · exact offsetAfter_of_lt (by omega)
          · rw [offsetAfter_of_le late]
            exact steady.2.2.2.offsetAfter_of_near (show wallSecond - offset < _ by omega)
        · have nextBegun : ∀ start ∈ some next.second, start + next.offset ≤ wallSecond := by
            intro start known
            cases known
            omega
          obtain ⟨change, member, skips, room, dayBefore, landing⟩ := ih steady.2.2.2 nextBegun hidden
          obtain ⟨roomBefore, roomAfter⟩ := room next.second rfl
          refine ⟨change, List.mem_cons_of_mem _ member, skips, ?_, ?_, ?_⟩
          · intro start known
            have apart := steady.2.2.1 start known
            exact ⟨by omega, by omega⟩
          · rwa [offsetAfter_of_le (by omega)]
          · rwa [offsetAfter_of_le (by omega)]

/-- For two days from a change forward on, the wall clock shows later times than ever before. -/
theorem SteadyFrom.wall_lt_of_lt (steady : SteadyFrom start? offset transitions) {change : Change}
    (member : change ∈ changesFrom offset transitions) (forward : 0 ≤ change.jump) {first last : Int}
    (late : change.second ≤ last) (near : last < change.second + 172800) (ordered : first < last) :
    first + offsetAfter offset transitions first < last + offsetAfter offset transitions last := by
  induction transitions generalizing start? offset with
  | nil => cases member
  | cons next later ih =>
      have rest := steady.2.2.2
      rcases List.mem_cons.mp member with rfl | behind
      · simp only [Change.jump] at late near forward
        rw [offsetAfter_of_le late, rest.offsetAfter_of_near near]
        by_cases early : first < next.second
        · rw [offsetAfter_of_lt early]
          omega
        · rw [offsetAfter_of_le (Int.not_lt.mp early), rest.offsetAfter_of_near (by omega)]
          omega
      · have apart := rest.second_of_mem_changesFrom behind
        have lastLate : next.second ≤ last := by omega
        rw [offsetAfter_of_le lastLate]
        by_cases early : first < next.second
        · have bounds := steady.1
          have lastBounds := rest.offsetAfter_bounds last
          rw [offsetAfter_of_lt early]
          omega
        · rw [offsetAfter_of_le (Int.not_lt.mp early)]
          exact ih rest behind

/-! ## Locating a time in a steady zone -/

section Locate

variable {zone : Zone} {wall : WallTime} {instant : Instant}

theorem wallNanoseconds_eq_iff {nanoseconds : Int} :
    zone.wallNanoseconds instant = nanoseconds ↔
      instant.seconds + zone.offsetAtSecond instant.seconds = nanoseconds / secondLength
        ∧ instant.subsecond = nanoseconds % secondLength := by
  unfold wallNanoseconds offsetAt Instant.subsecond
  generalize zone.offsetAtSecond instant.seconds = offset
  unfold Instant.seconds secondLength
  omega

theorem Steady.offsetAtSecond_bounds (steady : zone.Steady) (second : Int) :
    -86400 ≤ zone.offsetAtSecond second ∧ zone.offsetAtSecond second ≤ 86400 :=
  SteadyFrom.offsetAfter_bounds steady second

theorem exists_spanShowing?_eq_some (reads : zone.wallNanoseconds instant = wall.nanoseconds) :
    ∃ span, zone.spanShowing? wall = some span := by
  obtain ⟨onWall, _⟩ := wallNanoseconds_eq_iff.mp reads
  obtain ⟨span, member, holds, same⟩ := @exists_span_holds none zone.initialOffset instant.seconds
    zone.transitions (by intro start known; cases known)
  have shown : span.shows wall.seconds = true := by
    rw [← Span.shows_add_offset, same] at holds
    exact (show _ = wall.seconds from onWall) ▸ holds
  exact Option.isSome_iff_exists.mp (List.find?_isSome.mpr ⟨span, member, shown⟩)

/-- The first span that shows a time leads to the earliest second at which the wall clock shows its second. -/
theorem Steady.of_spanShowing?_eq_some (steady : zone.Steady) {span : Span}
    (found : zone.spanShowing? wall = some span) :
    zone.offsetAtSecond (wall.seconds - span.offset) = span.offset ∧
      ∀ other, other + zone.offsetAtSecond other = wall.seconds → wall.seconds - span.offset ≤ other := by
  obtain ⟨_, holds, first⟩ := SteadyFrom.of_find?_eq_some steady found
  refine ⟨holds, fun other reads => first other ?_ reads⟩
  intro start known
  cases known

/-- A time that no span shows is skipped by a change, and located where the offset before the change leads. -/
theorem Steady.of_spanShowing?_eq_none (steady : zone.Steady) (hidden : zone.spanShowing? wall = none)
    (found : zone.locate? wall = some instant) :
    ∃ change ∈ zone.changes, change.Skips wall.seconds
      ∧ instant.seconds = wall.seconds - change.before
      ∧ zone.wallNanoseconds instant = wall.nanoseconds + change.jump * secondLength := by
  obtain ⟨change, member, skips, _, dayBefore, landing⟩ :=
    SteadyFrom.of_find?_eq_none steady (by intro start known; cases known) hidden
  simp only [locate?, hidden, Option.bind_eq_bind, Option.bind_eq_some_iff,
    Instant.ofNanoseconds?_eq_some_iff] at found
  obtain ⟨eve, eveAt, located⟩ := found
  have eveSeconds : eve.seconds = wall.seconds - 86400 := by
    simp only [Instant.seconds, WallTime.seconds, eveAt, dayLength, secondLength]
    omega
  have eveOffset : zone.offsetAt eve = change.before := by
    rw [offsetAt, eveSeconds]
    exact dayBefore
  rw [eveOffset] at located
  have seconds : instant.seconds = wall.seconds - change.before := by
    simp only [Instant.seconds, WallTime.seconds, located, secondLength]
    omega
  have offset : zone.offsetAt instant = change.after := by
    rw [offsetAt, seconds]
    exact landing
  refine ⟨change, member, skips, seconds, ?_⟩
  rw [wallNanoseconds, offset, located, Change.jump, Int.sub_mul]
  omega

/-- For two days from a change forward on, an instant is located by what the wall clock shows. -/
theorem Steady.locate?_of_near (steady : zone.Steady) {change : Change}
    (member : change ∈ zone.changes) (forward : 0 ≤ change.jump)
    (late : change.second ≤ instant.seconds) (near : instant.seconds < change.second + 172800)
    (reads : zone.wallNanoseconds instant = wall.nanoseconds) : zone.locate? wall = some instant := by
  obtain ⟨span, shown⟩ := exists_spanShowing?_eq_some reads
  obtain ⟨holds, first⟩ := steady.of_spanShowing?_eq_some shown
  have onWall : instant.seconds + zone.offsetAtSecond instant.seconds = wall.seconds :=
    (wallNanoseconds_eq_iff.mp reads).1
  have notLater := first instant.seconds onWall
  have notEarlier : ¬ wall.seconds - span.offset < instant.seconds := by
    intro earlier
    have runs := SteadyFrom.wall_lt_of_lt steady member forward late near earlier
    change _ + zone.offsetAtSecond _ < _ + zone.offsetAtSecond _ at runs
    omega
  have offset : zone.offsetAt instant = span.offset := by
    unfold offsetAt
    omega
  simp only [locate?, shown, Instant.ofNanoseconds?_eq_some_iff]
  rw [wallNanoseconds, offset] at reads
  omega

/-- A time that some span shows is shown at the instant at which it is located. -/
theorem Steady.wallTime?_of_shown (steady : zone.Steady) {span : Span}
    (shown : zone.spanShowing? wall = some span) (found : zone.locate? wall = some instant) :
    zone.wallTime? instant = some wall := by
  have holds := (steady.of_spanShowing?_eq_some shown).1
  simp only [locate?, shown, Instant.ofNanoseconds?_eq_some_iff] at found
  have seconds : instant.seconds = wall.seconds - span.offset := by
    simp only [Instant.seconds, WallTime.seconds, found, secondLength]
    omega
  rw [wallTime?_eq_some_iff, wallNanoseconds, offsetAt, seconds, holds, found, Int.sub_add_cancel]

/--
What is located shows the time it was located by, or the time is skipped by a
change and it shows the time that the jump of the change leads to. It is located
again by what it shows.
-/
theorem Steady.locates (steady : zone.Steady) (found : zone.locate? wall = some instant) :
    ∃ landed, zone.wallTime? instant = some landed ∧ zone.locate? landed = some instant
      ∧ (landed = wall ∨ ∃ change ∈ zone.changes, change.Skips wall.seconds
        ∧ landed.nanoseconds = wall.nanoseconds + change.jump * secondLength) := by
  cases shown : zone.spanShowing? wall with
  | some span => exact ⟨wall, steady.wallTime?_of_shown shown found, found, .inl rfl⟩
  | none =>
      obtain ⟨change, member, skips, seconds, reads⟩ := steady.of_spanShowing?_eq_none shown found
      obtain ⟨offset, jump, early⟩ := SteadyFrom.change_bounds steady member
      obtain ⟨begun, ends⟩ := skips
      have moved : change.jump = change.after - change.before := rfl
      have inside : InCalendar (wall.nanoseconds + change.jump * secondLength) := by
        have covered := wall.inCalendar
        simp only [InCalendar, WallTime.seconds, secondLength] at covered begun ends ⊢
        omega
      exact ⟨⟨_, inside⟩, wallTime?_eq_some_iff.mpr reads.symm,
        steady.locate?_of_near member (by omega) (by omega) (by omega) reads,
        .inr ⟨change, member, ⟨begun, ends⟩, rfl⟩⟩

end Locate

end Zone

end TimeRange
