import TimeRange.Zone.Africa
import TimeRange.Zone.America
import TimeRange.Zone.Asia
import TimeRange.Zone.Europe
import TimeRange.Zone.Oceania

/-!
# The catalogue of zones

The zones that an expression can name. A name is looked up exactly as it is
written. The main statement is `ofName?_eq_some_iff`: since the names are
distinct, each zone of the catalogue is found by its own.
-/

namespace TimeRange.NamedZone

def utc : NamedZone :=
  .ofRecord "UTC" 0 []

/-- A zone twelve hours west of Universal Time; the sign in its name is reversed. -/
def etcGMTPlus12 : NamedZone :=
  .ofRecord "Etc/GMT+12" (west 43200) []

/-- Eastern Standard Time all year round, with the history of Panama. -/
def est : NamedZone :=
  .ofRecord "EST" (west 19088)
    [(before 2524502512, west 19176), (before 1946918424, west 18000)]

def usEastern : NamedZone :=
  ⟨americaNewYork.toZone, "US/Eastern"⟩

def catalogue : List NamedZone :=
  [utc, americaNewYork, europeBerlin, europeLondon, europeParis, asiaKolkata, asiaTokyo,
    asiaKathmandu, pacificKiritimati, pacificApia, americaSaoPaulo, americaHavana,
    australiaLordHowe, americaStJohns, pacificKwajalein, africaCairo, africaCasablanca,
    europeDublin, americaJuneau, antarcticaTroll, asiaTehran, africaMonrovia, usEastern,
    etcGMTPlus12, est, pacificChatham]

def ofName? (name : String) : Option NamedZone :=
  catalogue.find? (·.name == name)

theorem name_of_ofName? {name : String} {zone : NamedZone} (found : ofName? name = some zone) :
    zone.name = name := by
  have holds := List.find?_some found
  exact eq_of_beq holds

theorem mem_of_ofName? {name : String} {zone : NamedZone} (found : ofName? name = some zone) :
    zone ∈ catalogue :=
  List.mem_of_find?_eq_some found

/-- No two zones of the catalogue have the same name. -/
theorem nodup_names : (catalogue.map NamedZone.name).Nodup := by
  decide

/-- A zone is found among others of different names by its own. -/
theorem find?_name_eq {zones : List NamedZone} (distinct : (zones.map NamedZone.name).Nodup)
    {zone : NamedZone} (member : zone ∈ zones) :
    zones.find? (·.name == zone.name) = some zone := by
  induction zones with
  | nil => cases member
  | cons first later ih =>
      rw [List.map_cons, List.nodup_cons] at distinct
      rcases List.mem_cons.mp member with rfl | behind
      · simp
      · have different : first.name ≠ zone.name := by
          intro same
          exact distinct.1 (same ▸ List.mem_map_of_mem behind)
        rw [List.find?_cons_of_neg (by simpa using different)]
        exact ih distinct.2 behind

theorem ofName?_eq_some_iff {name : String} {zone : NamedZone} :
    ofName? name = some zone ↔ zone ∈ catalogue ∧ zone.name = name := by
  constructor
  · intro found
    exact ⟨mem_of_ofName? found, name_of_ofName? found⟩
  · rintro ⟨member, rfl⟩
    exact find?_name_eq nodup_names member

end TimeRange.NamedZone
