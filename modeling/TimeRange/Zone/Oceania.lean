import TimeRange.Zone.Record

/-!
# Zones of Australia, the Pacific and Antarctica
-/

namespace TimeRange.NamedZone

def pacificKiritimati : NamedZone :=
  .ofRecord "Pacific/Kiritimati" (west 37760)
    [(before 2177415040, west 38400), (307622400, west 36000), (788868000, 50400)]

def pacificApia : NamedZone :=
  .ofRecord "Pacific/Apia" 45184
    [(before 2445424384, west 41216), (before 1861878784, west 41400),
     (before 631110600, west 39600), (1285498800, west 36000), (1301752800, west 39600),
     (1316872800, west 36000), (1325239200, 50400), (1333202400, 46800), (1348927200, 50400),
     (1365256800, 46800), (1380376800, 50400), (1396706400, 46800), (1411826400, 50400),
     (1428156000, 46800), (1443276000, 50400), (1459605600, 46800), (1474725600, 50400),
     (1491055200, 46800), (1506175200, 50400), (1522504800, 46800), (1538229600, 50400),
     (1554559200, 46800), (1569679200, 50400), (1586008800, 46800), (1601128800, 50400),
     (1617458400, 46800)]

/-- The clocks of Lord Howe Island, which change by half an hour. -/
def australiaLordHowe : NamedZone :=
  .ofRecordAndRule "Australia/Lord_Howe" 38180
    [(before 2364114980, 36000), (352216800, 37800), (372785400, 41400), (384273000, 37800),
     (404839800, 41400), (415722600, 37800), (436289400, 41400), (447172200, 37800),
     (467739000, 41400), (478621800, 37800), (499188600, 39600), (511282800, 37800),
     (530033400, 39600), (542732400, 37800), (562087800, 39600), (574786800, 37800),
     (594142200, 39600), (606236400, 37800), (625591800, 39600), (636476400, 37800),
     (657041400, 39600), (667926000, 37800), (688491000, 39600), (699375600, 37800),
     (719940600, 39600), (731430000, 37800), (751995000, 39600), (762879600, 37800),
     (783444600, 39600), (794329200, 37800), (814894200, 39600), (828198000, 37800),
     (846343800, 39600), (859647600, 37800), (877793400, 39600), (891097200, 37800),
     (909243000, 39600), (922546800, 37800), (941297400, 39600), (953996400, 37800),
     (967303800, 39600), (985446000, 37800), (1004196600, 39600), (1017500400, 37800),
     (1035646200, 39600), (1048950000, 37800), (1067095800, 39600), (1080399600, 37800),
     (1099150200, 39600), (1111849200, 37800), (1130599800, 39600), (1143903600, 37800),
     (1162049400, 39600), (1174748400, 37800), (1193499000, 39600)]
    ⟨2008, 2099, ⟨4, 1, 7, 7200, 37800⟩, ⟨10, 1, 7, 7200, 39600⟩⟩

def pacificKwajalein : NamedZone :=
  .ofRecord "Pacific/Kwajalein" 40160
    [(before 2177492960, 39600), (before 1041418800, 36000), (before 907408800, 32400),
     (before 817462800, 39600), (before 7988400, west 43200), (745934400, 43200)]

/-- The clocks of the Troll station, which change by two hours. -/
def antarcticaTroll : NamedZone :=
  .ofRecordAndRule "Antarctica/Troll" 0
    []
    ⟨2005, 2099, ⟨3, 5, 7, 3600, 7200⟩, ⟨10, 5, 7, 10800, 0⟩⟩

def pacificChatham : NamedZone :=
  .ofRecordAndRule "Pacific/Chatham" 44028
    [(before 3192437628, 44100), (before 757426500, 45900), (152632800, 49500), (162309600, 45900),
     (183477600, 49500), (194968800, 45900), (215532000, 49500), (226418400, 45900),
     (246981600, 49500), (257868000, 45900), (278431200, 49500), (289317600, 45900),
     (309880800, 49500), (320767200, 45900), (341330400, 49500), (352216800, 45900),
     (372780000, 49500), (384271200, 45900), (404834400, 49500), (415720800, 45900),
     (436284000, 49500), (447170400, 45900), (467733600, 49500), (478620000, 45900),
     (499183200, 49500), (510069600, 45900), (530632800, 49500), (541519200, 45900),
     (562082400, 49500), (573573600, 45900), (594136800, 49500), (605023200, 45900),
     (623772000, 49500), (637682400, 45900), (655221600, 49500), (669132000, 45900),
     (686671200, 49500), (700581600, 45900), (718120800, 49500), (732636000, 45900),
     (749570400, 49500), (764085600, 45900), (781020000, 49500), (795535200, 45900),
     (812469600, 49500), (826984800, 45900), (844524000, 49500), (858434400, 45900),
     (875973600, 49500), (889884000, 45900), (907423200, 49500), (921938400, 45900),
     (938872800, 49500), (953388000, 45900), (970322400, 49500), (984837600, 45900),
     (1002376800, 49500), (1016287200, 45900), (1033826400, 49500), (1047736800, 45900),
     (1065276000, 49500), (1079791200, 45900), (1096725600, 49500), (1111240800, 45900),
     (1128175200, 49500), (1142690400, 45900), (1159624800, 49500), (1174140000, 45900),
     (1191074400, 49500)]
    ⟨2008, 2099, ⟨4, 1, 7, 13500, 45900⟩, ⟨9, 5, 7, 9900, 49500⟩⟩

end TimeRange.NamedZone
