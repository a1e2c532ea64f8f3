import TimeRange.Zone.Record

/-!
# Zones of Europe
-/

namespace TimeRange.NamedZone

def europeBerlin : NamedZone :=
  .ofRecordAndRule "Europe/Berlin" 3208
    [(before 2422054408, 3600), (before 1693706400, 7200), (before 1680483600, 3600),
     (before 1663455600, 7200), (before 1650150000, 3600), (before 1632006000, 7200),
     (before 1618700400, 3600), (before 938905200, 7200), (before 857257200, 3600),
     (before 844556400, 7200), (before 828226800, 3600), (before 812502000, 7200),
     (before 796777200, 3600), (before 781052400, 7200), (before 776563200, 10800),
     (before 765936000, 7200), (before 761180400, 3600), (before 748479600, 7200),
     (before 733273200, 3600), (before 717631200, 7200), (before 714610800, 10800),
     (before 710380800, 7200), (before 701910000, 3600), (before 684975600, 7200),
     (before 670460400, 3600), (before 654130800, 7200), (before 639010800, 3600),
     (323830800, 7200), (338950800, 3600), (354675600, 7200), (370400400, 3600), (386125200, 7200),
     (401850000, 3600), (417574800, 7200), (433299600, 3600), (449024400, 7200), (465354000, 3600),
     (481078800, 7200), (496803600, 3600), (512528400, 7200), (528253200, 3600), (543978000, 7200),
     (559702800, 3600), (575427600, 7200), (591152400, 3600), (606877200, 7200), (622602000, 3600),
     (638326800, 7200), (654656400, 3600), (670381200, 7200), (686106000, 3600), (701830800, 7200),
     (717555600, 3600), (733280400, 7200), (749005200, 3600), (764730000, 7200), (780454800, 3600),
     (796179600, 7200), (811904400, 3600)]
    ⟨1996, 2099, ⟨3, 5, 7, 7200, 7200⟩, ⟨10, 5, 7, 10800, 3600⟩⟩

def europeLondon : NamedZone :=
  .ofRecordAndRule "Europe/London" (west 75)
    [(before 3852662325, 0), (before 1691964000, 3600), (before 1680472800, 0),
     (before 1664143200, 3600), (before 1650146400, 0), (before 1633903200, 3600),
     (before 1617487200, 0), (before 1601848800, 3600), (before 1586037600, 0),
     (before 1570399200, 3600), (before 1552168800, 0), (before 1538344800, 3600),
     (before 1522533600, 0), (before 1507500000, 3600), (before 1490565600, 0),
     (before 1473631200, 3600), (before 1460930400, 0), (before 1442786400, 3600),
     (before 1428876000, 0), (before 1410732000, 3600), (before 1396216800, 0),
     (before 1379282400, 3600), (before 1364767200, 0), (before 1348437600, 3600),
     (before 1333317600, 0), (before 1315778400, 3600), (before 1301263200, 0),
     (before 1284328800, 3600), (before 1269813600, 0), (before 1253484000, 3600),
     (before 1238364000, 0), (before 1221429600, 3600), (before 1206914400, 0),
     (before 1189980000, 3600), (before 1175464800, 0), (before 1159135200, 3600),
     (before 1143410400, 0), (before 1126476000, 3600), (before 1111960800, 0),
     (before 1095631200, 3600), (before 1080511200, 0), (before 1063576800, 3600),
     (before 1049061600, 0), (before 1032127200, 3600), (before 1017612000, 0),
     (before 1001282400, 3600), (before 986162400, 0), (before 969228000, 3600),
     (before 950479200, 0), (before 942012000, 3600), (before 904518000, 7200),
     (before 896050800, 3600), (before 875487600, 7200), (before 864601200, 3600),
     (before 844038000, 7200), (before 832546800, 3600), (before 812588400, 7200),
     (before 798073200, 3600), (before 781052400, 7200), (before 772066800, 3600),
     (before 764805600, 0), (before 748476000, 3600), (before 733356000, 0),
     (before 719445600, 3600), (before 717030000, 7200), (before 706748400, 3600),
     (before 699487200, 0), (before 687996000, 3600), (before 668037600, 0),
     (before 654732000, 3600), (before 636588000, 0), (before 622072800, 3600),
     (before 605743200, 0), (before 590623200, 3600), (before 574293600, 0),
     (before 558568800, 3600), (before 542239200, 0), (before 527119200, 3600),
     (before 512604000, 0), (before 496274400, 3600), (before 481154400, 0),
     (before 464220000, 3600), (before 449704800, 0), (before 432165600, 3600),
     (before 417650400, 0), (before 401320800, 3600), (before 386200800, 0),
     (before 369266400, 3600), (before 354751200, 0), (before 337816800, 3600),
     (before 323301600, 0), (before 306972000, 3600), (before 291852000, 0),
     (before 276732000, 3600), (before 257983200, 0), (before 245282400, 3600),
     (before 226533600, 0), (before 213228000, 3600), (before 195084000, 0),
     (before 182383200, 3600), (before 163634400, 0), (before 150933600, 3600),
     (before 132184800, 0), (before 119484000, 3600), (before 100735200, 0),
     (before 88034400, 3600), (before 68680800, 0), (before 59004000, 3600), (57722400, 0),
     (69818400, 3600), (89172000, 0), (101268000, 3600), (120621600, 0), (132717600, 3600),
     (152071200, 0), (164167200, 3600), (183520800, 0), (196221600, 3600), (214970400, 0),
     (227671200, 3600), (246420000, 0), (259120800, 3600), (278474400, 0), (290570400, 3600),
     (309924000, 0), (322020000, 3600), (341373600, 0), (354675600, 3600), (372819600, 0),
     (386125200, 3600), (404269200, 0), (417574800, 3600), (435718800, 0), (449024400, 3600),
     (467773200, 0), (481078800, 3600), (499222800, 0), (512528400, 3600), (530672400, 0),
     (543978000, 3600), (562122000, 0), (575427600, 3600), (593571600, 0), (606877200, 3600),
     (625626000, 0), (638326800, 3600), (657075600, 0), (670381200, 3600), (688525200, 0),
     (701830800, 3600), (719974800, 0), (733280400, 3600), (751424400, 0), (764730000, 3600),
     (782874000, 0), (796179600, 3600), (814323600, 0)]
    ⟨1996, 2099, ⟨3, 5, 7, 3600, 3600⟩, ⟨10, 5, 7, 7200, 0⟩⟩

def europeParis : NamedZone :=
  .ofRecordAndRule "Europe/Paris" 561
    [(before 1855958961, 0), (before 1689814800, 3600), (before 1680397200, 0),
     (before 1665363600, 3600), (before 1648342800, 0), (before 1635123600, 3600),
     (before 1616893200, 0), (before 1604278800, 3600), (before 1585443600, 0),
     (before 1574038800, 3600), (before 1552266000, 0), (before 1539997200, 3600),
     (before 1520557200, 0), (before 1507510800, 3600), (before 1490576400, 0),
     (before 1470618000, 3600), (before 1459126800, 0), (before 1444006800, 3600),
     (before 1427677200, 0), (before 1411952400, 3600), (before 1396227600, 0),
     (before 1379293200, 3600), (before 1364778000, 0), (before 1348448400, 3600),
     (before 1333328400, 0), (before 1316394000, 3600), (before 1301274000, 0),
     (before 1284339600, 3600), (before 1269824400, 0), (before 1253494800, 3600),
     (before 1238374800, 0), (before 1221440400, 3600), (before 1206925200, 0),
     (before 1191200400, 3600), (before 1175475600, 0), (before 1160355600, 3600),
     (before 1143421200, 0), (before 1127696400, 3600), (before 1111971600, 0),
     (before 1096851600, 3600), (before 1080522000, 0), (before 1063587600, 3600),
     (before 1049072400, 0), (before 1033347600, 3600), (before 1017622800, 0),
     (before 1002502800, 3600), (before 986173200, 0), (before 969238800, 3600),
     (before 950490000, 0), (before 942012000, 3600), (before 932436000, 7200),
     (before 857257200, 3600), (before 844556400, 7200), (before 828226800, 3600),
     (before 812502000, 7200), (before 796266000, 3600), (before 781052400, 7200),
     (before 766623600, 3600), (196819200, 7200), (212540400, 3600), (228877200, 7200),
     (243997200, 3600), (260326800, 7200), (276051600, 3600), (291776400, 7200), (307501200, 3600),
     (323830800, 7200), (338950800, 3600), (354675600, 7200), (370400400, 3600), (386125200, 7200),
     (401850000, 3600), (417574800, 7200), (433299600, 3600), (449024400, 7200), (465354000, 3600),
     (481078800, 7200), (496803600, 3600), (512528400, 7200), (528253200, 3600), (543978000, 7200),
     (559702800, 3600), (575427600, 7200), (591152400, 3600), (606877200, 7200), (622602000, 3600),
     (638326800, 7200), (654656400, 3600), (670381200, 7200), (686106000, 3600), (701830800, 7200),
     (717555600, 3600), (733280400, 7200), (749005200, 3600), (764730000, 7200), (780454800, 3600),
     (796179600, 7200), (811904400, 3600)]
    ⟨1996, 2099, ⟨3, 5, 7, 7200, 7200⟩, ⟨10, 5, 7, 10800, 3600⟩⟩

def europeDublin : NamedZone :=
  .ofRecordAndRule "Europe/Dublin" (west 1521)
    [(before 1691962479, 2079), (before 1680471279, 0), (before 1664143200, 3600),
     (before 1650146400, 0), (before 1633903200, 3600), (before 1617487200, 0),
     (before 1601848800, 3600), (before 1586037600, 0), (before 1570399200, 3600),
     (before 1552168800, 0), (before 1538344800, 3600), (before 1522533600, 0),
     (before 1507500000, 3600), (before 1490565600, 0), (before 1473631200, 3600),
     (before 1460930400, 0), (before 1442786400, 3600), (before 1428876000, 0),
     (before 1410732000, 3600), (before 1396216800, 0), (before 1379282400, 3600),
     (before 1364767200, 0), (before 1348437600, 3600), (before 1333317600, 0),
     (before 1315778400, 3600), (before 1301263200, 0), (before 1284328800, 3600),
     (before 1269813600, 0), (before 1253484000, 3600), (before 1238364000, 0),
     (before 1221429600, 3600), (before 1206914400, 0), (before 1189980000, 3600),
     (before 1175464800, 0), (before 1159135200, 3600), (before 1143410400, 0),
     (before 1126476000, 3600), (before 1111960800, 0), (before 1095631200, 3600),
     (before 1080511200, 0), (before 1063576800, 3600), (before 1049061600, 0),
     (before 1032127200, 3600), (before 1017612000, 0), (before 1001282400, 3600),
     (before 986162400, 0), (before 969228000, 3600), (before 950479200, 0),
     (before 942012000, 3600), (before 733356000, 0), (before 719445600, 3600),
     (before 699487200, 0), (before 684972000, 3600), (before 668037600, 0),
     (before 654732000, 3600), (before 636588000, 0), (before 622072800, 3600),
     (before 605743200, 0), (before 590623200, 3600), (before 574293600, 0),
     (before 558568800, 3600), (before 542239200, 0), (before 527119200, 3600),
     (before 512604000, 0), (before 496274400, 3600), (before 481154400, 0),
     (before 464220000, 3600), (before 449704800, 0), (before 432165600, 3600),
     (before 417650400, 0), (before 401320800, 3600), (before 386200800, 0),
     (before 369266400, 3600), (before 354751200, 0), (before 337816800, 3600),
     (before 323301600, 0), (before 306972000, 3600), (before 291852000, 0),
     (before 276732000, 3600), (before 257983200, 0), (before 245282400, 3600),
     (before 226533600, 0), (before 213228000, 3600), (before 195084000, 0),
     (before 182383200, 3600), (before 163634400, 0), (before 150933600, 3600),
     (before 132184800, 0), (before 119484000, 3600), (before 100735200, 0),
     (before 88034400, 3600), (before 68680800, 0), (before 59004000, 3600), (57722400, 0),
     (69818400, 3600), (89172000, 0), (101268000, 3600), (120621600, 0), (132717600, 3600),
     (152071200, 0), (164167200, 3600), (183520800, 0), (196221600, 3600), (214970400, 0),
     (227671200, 3600), (246420000, 0), (259120800, 3600), (278474400, 0), (290570400, 3600),
     (309924000, 0), (322020000, 3600), (341373600, 0), (354675600, 3600), (372819600, 0),
     (386125200, 3600), (404269200, 0), (417574800, 3600), (435718800, 0), (449024400, 3600),
     (467773200, 0), (481078800, 3600), (499222800, 0), (512528400, 3600), (530672400, 0),
     (543978000, 3600), (562122000, 0), (575427600, 3600), (593571600, 0), (606877200, 3600),
     (625626000, 0), (638326800, 3600), (657075600, 0), (670381200, 3600), (688525200, 0),
     (701830800, 3600), (719974800, 0), (733280400, 3600), (751424400, 0), (764730000, 3600),
     (782874000, 0), (796179600, 3600), (814323600, 0)]
    ⟨1996, 2099, ⟨3, 5, 7, 3600, 3600⟩, ⟨10, 5, 7, 7200, 0⟩⟩

end TimeRange.NamedZone
