import TimeRange.Zone.Record

/-!
# Zones of the Americas
-/

namespace TimeRange.NamedZone

def americaNewYork : NamedZone :=
  .ofRecordAndRule "America/New_York" (west 17762)
    [(before 2717650800, west 18000), (before 1633280400, west 14400),
     (before 1615140000, west 18000), (before 1601830800, west 14400),
     (before 1583690400, west 18000), (before 1570381200, west 14400),
     (before 1551636000, west 18000), (before 1536512400, west 14400),
     (before 1523210400, west 18000), (before 1504458000, west 14400),
     (before 1491760800, west 18000), (before 1473008400, west 14400),
     (before 1459706400, west 18000), (before 1441558800, west 14400),
     (before 1428256800, west 18000), (before 1410109200, west 14400),
     (before 1396807200, west 18000), (before 1378659600, west 14400),
     (before 1365357600, west 18000), (before 1347210000, west 14400),
     (before 1333908000, west 18000), (before 1315155600, west 14400),
     (before 1301853600, west 18000), (before 1283706000, west 14400),
     (before 1270404000, west 18000), (before 1252256400, west 14400),
     (before 1238954400, west 18000), (before 1220806800, west 14400),
     (before 1207504800, west 18000), (before 1189357200, west 14400),
     (before 1176055200, west 18000), (before 1157302800, west 14400),
     (before 1144605600, west 18000), (before 1125853200, west 14400),
     (before 1112551200, west 18000), (before 1094403600, west 14400),
     (before 1081101600, west 18000), (before 1062954000, west 14400),
     (before 1049652000, west 18000), (before 1031504400, west 14400),
     (before 1018202400, west 18000), (before 1000054800, west 14400),
     (before 986752800, west 18000), (before 968000400, west 14400), (before 955303200, west 18000),
     (before 936550800, west 14400), (before 923248800, west 18000), (before 905101200, west 14400),
     (before 891799200, west 18000), (before 880218000, west 14400), (before 765396000, west 18000),
     (before 747248400, west 14400), (before 733946400, west 18000), (before 715798800, west 14400),
     (before 702496800, west 18000), (before 684349200, west 14400), (before 671047200, west 18000),
     (before 652899600, west 14400), (before 639597600, west 18000), (before 620845200, west 14400),
     (before 608148000, west 18000), (before 589395600, west 14400), (before 576093600, west 18000),
     (before 557946000, west 14400), (before 544644000, west 18000), (before 526496400, west 14400),
     (before 513194400, west 18000), (before 495046800, west 14400), (before 481744800, west 18000),
     (before 463597200, west 14400), (before 447271200, west 18000), (before 431542800, west 14400),
     (before 415821600, west 18000), (before 400093200, west 14400), (before 384372000, west 18000),
     (before 368643600, west 14400), (before 352922400, west 18000), (before 337194000, west 14400),
     (before 321472800, west 18000), (before 305744400, west 14400), (before 289418400, west 18000),
     (before 273690000, west 14400), (before 257968800, west 18000), (before 242240400, west 14400),
     (before 226519200, west 18000), (before 210790800, west 14400), (before 195069600, west 18000),
     (before 179341200, west 14400), (before 163620000, west 18000), (before 147891600, west 14400),
     (before 131565600, west 18000), (before 116442000, west 14400), (before 100116000, west 18000),
     (before 84387600, west 14400), (before 68666400, west 18000), (before 52938000, west 14400),
     (before 37216800, west 18000), (before 21488400, west 14400), (before 5767200, west 18000),
     (9961200, west 14400), (25682400, west 18000), (41410800, west 14400), (57736800, west 18000),
     (73465200, west 14400), (89186400, west 18000), (104914800, west 14400),
     (120636000, west 18000), (126687600, west 14400), (152085600, west 18000),
     (162370800, west 14400), (183535200, west 18000), (199263600, west 14400),
     (215589600, west 18000), (230713200, west 14400), (247039200, west 18000),
     (262767600, west 14400), (278488800, west 18000), (294217200, west 14400),
     (309938400, west 18000), (325666800, west 14400), (341388000, west 18000),
     (357116400, west 14400), (372837600, west 18000), (388566000, west 14400),
     (404892000, west 18000), (420015600, west 14400), (436341600, west 18000),
     (452070000, west 14400), (467791200, west 18000), (483519600, west 14400),
     (499240800, west 18000), (514969200, west 14400), (530690400, west 18000),
     (544604400, west 14400), (562140000, west 18000), (576054000, west 14400),
     (594194400, west 18000), (607503600, west 14400), (625644000, west 18000),
     (638953200, west 14400), (657093600, west 18000), (671007600, west 14400),
     (688543200, west 18000), (702457200, west 14400), (719992800, west 18000),
     (733906800, west 14400), (752047200, west 18000), (765356400, west 14400),
     (783496800, west 18000), (796806000, west 14400), (814946400, west 18000),
     (828860400, west 14400), (846396000, west 18000), (860310000, west 14400),
     (877845600, west 18000), (891759600, west 14400), (909295200, west 18000),
     (923209200, west 14400), (941349600, west 18000), (954658800, west 14400),
     (972799200, west 18000), (986108400, west 14400), (1004248800, west 18000),
     (1018162800, west 14400), (1035698400, west 18000), (1049612400, west 14400),
     (1067148000, west 18000), (1081062000, west 14400), (1099202400, west 18000),
     (1112511600, west 14400), (1130652000, west 18000), (1143961200, west 14400),
     (1162101600, west 18000)]
    ⟨2007, 2099, ⟨3, 2, 7, 7200, west 14400⟩, ⟨11, 1, 7, 7200, west 18000⟩⟩

def americaSaoPaulo : NamedZone :=
  .ofRecord "America/Sao_Paulo" (west 11188)
    [(before 1767214412, west 10800), (before 1206957600, west 7200),
     (before 1191362400, west 10800), (before 1175374800, west 7200),
     (before 1159826400, west 10800), (before 633819600, west 7200), (before 622069200, west 10800),
     (before 602283600, west 7200), (before 591832800, west 10800), (before 570747600, west 7200),
     (before 560210400, west 10800), (before 539125200, west 7200), (before 531352800, west 10800),
     (before 195426000, west 7200), (before 184197600, west 10800), (before 155163600, west 7200),
     (before 150069600, west 10800), (before 128898000, west 7200), (before 121125600, west 10800),
     (before 99954000, west 7200), (before 89589600, west 10800), (before 68418000, west 7200),
     (before 57967200, west 10800), (499748400, west 7200), (511236000, west 10800),
     (530593200, west 7200), (540266400, west 10800), (562129200, west 7200),
     (571197600, west 10800), (592974000, west 7200), (602042400, west 10800),
     (624423600, west 7200), (634701600, west 10800), (656478000, west 7200),
     (666756000, west 10800), (687927600, west 7200), (697600800, west 10800),
     (719982000, west 7200), (728445600, west 10800), (750826800, west 7200),
     (761709600, west 10800), (782276400, west 7200), (793159200, west 10800),
     (813726000, west 7200), (824004000, west 10800), (844570800, west 7200),
     (856058400, west 10800), (876106800, west 7200), (888717600, west 10800),
     (908074800, west 7200), (919562400, west 10800), (938919600, west 7200),
     (951616800, west 10800), (970974000, west 7200), (982461600, west 10800),
     (1003028400, west 7200), (1013911200, west 10800), (1036292400, west 7200),
     (1045360800, west 10800), (1066532400, west 7200), (1076810400, west 10800),
     (1099364400, west 7200), (1108864800, west 10800), (1129431600, west 7200),
     (1140314400, west 10800), (1162695600, west 7200), (1172368800, west 10800),
     (1192330800, west 7200), (1203213600, west 10800), (1224385200, west 7200),
     (1234663200, west 10800), (1255834800, west 7200), (1266717600, west 10800),
     (1287284400, west 7200), (1298167200, west 10800), (1318734000, west 7200),
     (1330221600, west 10800), (1350788400, west 7200), (1361066400, west 10800),
     (1382238000, west 7200), (1392516000, west 10800), (1413687600, west 7200),
     (1424570400, west 10800), (1445137200, west 7200), (1456020000, west 10800),
     (1476586800, west 7200), (1487469600, west 10800), (1508036400, west 7200),
     (1518919200, west 10800), (1541300400, west 7200), (1550368800, west 10800)]

/-- The clocks of Havana, which go forward at midnight. -/
def americaHavana : NamedZone :=
  .ofRecordAndRule "America/Havana" (west 19768)
    [(before 2524501832, west 19776), (before 1402813824, west 18000),
     (before 1311534000, west 14400), (before 1300996800, west 18000),
     (before 933534000, west 14400), (before 925675200, west 18000), (before 902084400, west 14400),
     (before 893620800, west 18000), (before 870030000, west 14400), (before 862171200, west 18000),
     (before 775681200, west 14400), (before 767822400, west 18000), (before 744231600, west 14400),
     (before 736372800, west 18000), (before 144702000, west 14400), (before 134251200, west 18000),
     (before 113425200, west 14400), (before 102542400, west 18000), (before 86295600, west 14400),
     (before 72907200, west 18000), (before 54154800, west 14400), (before 41457600, west 18000),
     (before 21495600, west 14400), (before 5774400, west 18000), (9954000, west 14400),
     (25675200, west 18000), (41403600, west 14400), (57729600, west 18000), (73458000, west 14400),
     (87364800, west 18000), (104907600, west 14400), (118900800, west 18000),
     (136357200, west 14400), (150436800, west 18000), (167806800, west 14400),
     (183528000, west 18000), (199256400, west 14400), (215582400, west 18000),
     (230706000, west 14400), (247032000, west 18000), (263365200, west 14400),
     (276667200, west 18000), (290581200, west 14400), (308721600, west 18000),
     (322030800, west 14400), (340171200, west 18000), (358318800, west 14400),
     (371620800, west 18000), (389768400, west 14400), (403070400, west 18000),
     (421218000, west 14400), (434520000, west 18000), (452667600, west 14400),
     (466574400, west 18000), (484117200, west 14400), (498024000, west 18000),
     (511333200, west 14400), (529473600, west 18000), (542782800, west 14400),
     (560923200, west 18000), (574837200, west 14400), (592372800, west 18000),
     (606286800, west 14400), (623822400, west 18000), (638946000, west 14400),
     (655876800, west 18000), (671000400, west 14400), (687330000, west 18000),
     (702450000, west 14400), (718779600, west 18000), (733899600, west 14400),
     (750229200, west 18000), (765349200, west 14400), (781678800, west 18000),
     (796798800, west 14400), (813128400, west 18000), (828853200, west 14400),
     (844578000, west 18000), (860302800, west 14400), (876632400, west 18000),
     (891147600, west 14400), (909291600, west 18000), (922597200, west 14400),
     (941346000, west 18000), (954651600, west 14400), (972795600, west 18000),
     (986101200, west 14400), (1004245200, west 18000), (1018155600, west 14400),
     (1035694800, west 18000), (1049605200, west 14400), (1067144400, west 18000),
     (1080450000, west 14400), (1162098000, west 18000), (1173589200, west 14400),
     (1193547600, west 18000), (1205643600, west 14400), (1224997200, west 18000),
     (1236488400, west 14400), (1256446800, west 18000), (1268542800, west 14400),
     (1288501200, west 18000), (1300597200, west 14400), (1321160400, west 18000),
     (1333256400, west 14400), (1352005200, west 18000)]
    ⟨2013, 2099, ⟨3, 2, 7, 0, west 14400⟩, ⟨11, 1, 7, 3600, west 18000⟩⟩

def americaStJohns : NamedZone :=
  .ofRecordAndRule "America/St_Johns" (west 12652)
    [(before 1664130548, west 9052), (before 1650137348, west 12652),
     (before 1632076148, west 9052), (before 1615145348, west 12652),
     (before 1598650148, west 9052), (before 1590100148, west 12652),
     (before 1567286948, west 9052), (before 1551565748, west 12652),
     (before 1535837348, west 9052), (before 1520116148, west 12652),
     (before 1503782948, west 9052), (before 1488666548, west 12652),
     (before 1472333348, west 9052), (before 1457216948, west 12652),
     (before 1440883748, west 9052), (before 1425767348, west 12652),
     (before 1409434148, west 9052), (before 1394317748, west 12652),
     (before 1377984548, west 9052), (before 1362263348, west 12652),
     (before 1346534948, west 9052), (before 1330813748, west 12652),
     (before 1314480548, west 9052), (before 1299364148, west 12652),
     (before 1283030948, west 9052), (before 1267914548, west 12652),
     (before 1251581348, west 9052), (before 1236464948, west 12652),
     (before 1220131748, west 9052), (before 1205015348, west 12652),
     (before 1188682148, west 9052), (before 1172960948, west 12652),
     (before 1156627748, west 9052), (before 1141511348, west 12652),
     (before 1125178148, west 9052), (before 1110061748, west 12652),
     (before 1096921748, west 12600), (before 1093728600, west 9000),
     (before 1078612200, west 12600), (before 1061670600, west 9000),
     (before 1048973400, west 12600), (before 1030221000, west 9000),
     (before 1017523800, west 12600), (before 998771400, west 9000), (before 986074200, west 12600),
     (before 966717000, west 9000), (before 954624600, west 12600), (before 935267400, west 9000),
     (before 922570200, west 12600), (before 903817800, west 9000), (before 891120600, west 12600),
     (before 872368200, west 9000), (before 765401400, west 12600), (before 746044200, west 9000),
     (before 733347000, west 12600), (before 714594600, west 9000), (before 701897400, west 12600),
     (before 683145000, west 9000), (before 670447800, west 12600), (before 651695400, west 9000),
     (before 638998200, west 12600), (before 619641000, west 9000), (before 606943800, west 12600),
     (before 589401000, west 9000), (before 576099000, west 12600), (before 557951400, west 9000),
     (before 544649400, west 12600), (before 526501800, west 9000), (before 513199800, west 12600),
     (before 495052200, west 9000), (before 481750200, west 12600), (before 463602600, west 9000),
     (before 450300600, west 12600), (before 431548200, west 9000), (before 418246200, west 12600),
     (before 400098600, west 9000), (before 386796600, west 12600), (before 368649000, west 9000),
     (before 355347000, west 12600), (before 337199400, west 9000), (before 323897400, west 12600),
     (before 305749800, west 9000), (before 289423800, west 12600), (before 273695400, west 9000),
     (before 257974200, west 12600), (before 242245800, west 9000), (before 226524600, west 12600),
     (before 210796200, west 9000), (before 195075000, west 12600), (before 179346600, west 9000),
     (before 163625400, west 12600), (before 147897000, west 9000), (before 131571000, west 12600),
     (before 116447400, west 9000), (before 100121400, west 12600), (before 84393000, west 9000),
     (before 68671800, west 12600), (before 52943400, west 9000), (before 37222200, west 12600),
     (before 21493800, west 9000), (before 5772600, west 12600), (9955800, west 9000),
     (25677000, west 12600), (41405400, west 9000), (57731400, west 12600), (73459800, west 9000),
     (89181000, west 12600), (104909400, west 9000), (120630600, west 12600),
     (136359000, west 9000), (152080200, west 12600), (167808600, west 9000),
     (183529800, west 12600), (199258200, west 9000), (215584200, west 12600),
     (230707800, west 9000), (247033800, west 12600), (262762200, west 9000),
     (278483400, west 12600), (294211800, west 9000), (309933000, west 12600),
     (325661400, west 9000), (341382600, west 12600), (357111000, west 9000),
     (372832200, west 12600), (388560600, west 9000), (404886600, west 12600),
     (420010200, west 9000), (436336200, west 12600), (452064600, west 9000),
     (467785800, west 12600), (483514200, west 9000), (499235400, west 12600),
     (514963800, west 9000), (530685000, west 12600), (544591860, west 9000),
     (562127460, west 12600), (576041460, west 5400), (594178260, west 12600),
     (607491060, west 9000), (625631460, west 12600), (638940660, west 9000),
     (657081060, west 12600), (670995060, west 9000), (688530660, west 12600),
     (702444660, west 9000), (719980260, west 12600), (733894260, west 9000),
     (752034660, west 12600), (765343860, west 9000), (783484260, west 12600),
     (796793460, west 9000), (814933860, west 12600), (828847860, west 9000),
     (846383460, west 12600), (860297460, west 9000), (877833060, west 12600),
     (891747060, west 9000), (909282660, west 12600), (923196660, west 9000),
     (941337060, west 12600), (954646260, west 9000), (972786660, west 12600),
     (986095860, west 9000), (1004236260, west 12600), (1018150260, west 9000),
     (1035685860, west 12600), (1049599860, west 9000), (1067135460, west 12600),
     (1081049460, west 9000), (1099189860, west 12600), (1112499060, west 9000),
     (1130639460, west 12600), (1143948660, west 9000), (1162089060, west 12600),
     (1173583860, west 9000), (1194143460, west 12600), (1205033460, west 9000),
     (1225593060, west 12600), (1236483060, west 9000), (1257042660, west 12600),
     (1268537460, west 9000), (1289097060, west 12600), (1299987060, west 9000),
     (1320553800, west 12600)]
    ⟨2012, 2099, ⟨3, 2, 7, 7200, west 9000⟩, ⟨11, 1, 7, 7200, west 12600⟩⟩

/-- The clocks of Juneau, which crossed the date line in 1867. -/
def americaJuneau : NamedZone :=
  .ofRecordAndRule "America/Juneau" 54139
    [(before 3225223727, west 32261), (before 2188954939, west 28800),
     (before 880207200, west 25200), (before 765385200, west 28800), (before 21477600, west 25200),
     (before 5756400, west 28800), (9972000, west 25200), (25693200, west 28800),
     (41421600, west 25200), (57747600, west 28800), (73476000, west 25200), (89197200, west 28800),
     (104925600, west 25200), (120646800, west 28800), (126698400, west 25200),
     (152096400, west 28800), (162381600, west 25200), (183546000, west 28800),
     (199274400, west 25200), (215600400, west 28800), (230724000, west 25200),
     (247050000, west 28800), (262778400, west 25200), (278499600, west 28800),
     (294228000, west 25200), (309949200, west 28800), (357127200, west 25200),
     (372848400, west 28800), (388576800, west 25200), (404902800, west 28800),
     (420026400, west 25200), (436352400, west 32400), (452084400, west 28800),
     (467805600, west 32400), (483534000, west 28800), (499255200, west 32400),
     (514983600, west 28800), (530704800, west 32400), (544618800, west 28800),
     (562154400, west 32400), (576068400, west 28800), (594208800, west 32400),
     (607518000, west 28800), (625658400, west 32400), (638967600, west 28800),
     (657108000, west 32400), (671022000, west 28800), (688557600, west 32400),
     (702471600, west 28800), (720007200, west 32400), (733921200, west 28800),
     (752061600, west 32400), (765370800, west 28800), (783511200, west 32400),
     (796820400, west 28800), (814960800, west 32400), (828874800, west 28800),
     (846410400, west 32400), (860324400, west 28800), (877860000, west 32400),
     (891774000, west 28800), (909309600, west 32400), (923223600, west 28800),
     (941364000, west 32400), (954673200, west 28800), (972813600, west 32400),
     (986122800, west 28800), (1004263200, west 32400), (1018177200, west 28800),
     (1035712800, west 32400), (1049626800, west 28800), (1067162400, west 32400),
     (1081076400, west 28800), (1099216800, west 32400), (1112526000, west 28800),
     (1130666400, west 32400), (1143975600, west 28800), (1162116000, west 32400)]
    ⟨2007, 2099, ⟨3, 2, 7, 7200, west 28800⟩, ⟨11, 1, 7, 7200, west 32400⟩⟩

end TimeRange.NamedZone
