import TimeRange.Zone.Record

/-!
# Zones of Asia
-/

namespace TimeRange.NamedZone

def asiaKolkata : NamedZone :=
  .ofRecord "Asia/Kolkata" 21208
    [(before 3645237208, 21200), (before 3155694800, 19270), (before 2019705670, 19800),
     (before 891581400, 23400), (before 872058600, 19800), (before 862637400, 23400),
     (before 764145000, 19800)]

def asiaTokyo : NamedZone :=
  .ofRecord "Asia/Tokyo" 33539
    [(before 2587712400, 32400), (before 683802000, 36000), (before 672310800, 32400),
     (before 654771600, 36000), (before 640861200, 32400), (before 620298000, 36000),
     (before 609411600, 32400), (before 588848400, 36000), (before 577962000, 32400)]

def asiaKathmandu : NamedZone :=
  .ofRecord "Asia/Kathmandu" 20476
    [(before 1577943676, 19800), (504901800, 20700)]

def asiaTehran : NamedZone :=
  .ofRecord "Asia/Tehran" 12344
    [(before 1090466744, 12600), (227820600, 16200), (246223800, 14400), (259617600, 18000),
     (271108800, 14400), (279576000, 12600), (296598600, 16200), (306531000, 12600),
     (322432200, 16200), (338499000, 12600), (673216200, 16200), (685481400, 12600),
     (701209800, 16200), (717103800, 12600), (732745800, 16200), (748639800, 12600),
     (764281800, 16200), (780175800, 12600), (795817800, 16200), (811711800, 12600),
     (827353800, 16200), (843247800, 12600), (858976200, 16200), (874870200, 12600),
     (890512200, 16200), (906406200, 12600), (922048200, 16200), (937942200, 12600),
     (953584200, 16200), (969478200, 12600), (985206600, 16200), (1001100600, 12600),
     (1016742600, 16200), (1032636600, 12600), (1048278600, 16200), (1064172600, 12600),
     (1079814600, 16200), (1095708600, 12600), (1111437000, 16200), (1127331000, 12600),
     (1206045000, 16200), (1221939000, 12600), (1237667400, 16200), (1253561400, 12600),
     (1269203400, 16200), (1285097400, 12600), (1300739400, 16200), (1316633400, 12600),
     (1332275400, 16200), (1348169400, 12600), (1363897800, 16200), (1379791800, 12600),
     (1395433800, 16200), (1411327800, 12600), (1426969800, 16200), (1442863800, 12600),
     (1458505800, 16200), (1474399800, 12600), (1490128200, 16200), (1506022200, 12600),
     (1521664200, 16200), (1537558200, 12600), (1553200200, 16200), (1569094200, 12600),
     (1584736200, 16200), (1600630200, 12600), (1616358600, 16200), (1632252600, 12600),
     (1647894600, 16200), (1663788600, 12600)]

end TimeRange.NamedZone
