import Ebms.Text.Decomposition

/-! # Composed text

Texts that are the same up to the decomposition of characters and to the order of
marks that do not touch each other have one composed form.  It is found in three
steps: characters are taken apart, marks are sorted by their class, and what can
be put together is. -/

set_option autoImplicit false

namespace Ebms.Text

/-- The codes at which the class of marks changes, with the class from there on. -/
def classBounds : Array (Nat × Nat) :=
  #[
    (768, 230), (789, 232), (790, 220), (794, 232), (795, 216), (796, 220), (801, 202),
    (803, 220), (807, 202), (809, 220), (820, 1), (825, 220), (829, 230), (839, 220),
    (842, 230), (845, 220), (848, 230), (851, 220), (855, 230), (856, 232), (857, 220),
    (859, 230), (860, 233), (861, 234), (863, 233), (864, 234), (866, 233), (867, 230),
    (881, 0), (1155, 230), (1160, 0), (1425, 220), (1426, 230), (1430, 220), (1431, 230),
    (1434, 222), (1435, 220), (1436, 230), (1442, 220), (1448, 230), (1450, 220),
    (1451, 230), (1453, 222), (1454, 228), (1455, 230), (1456, 10), (1457, 11), (1458, 12),
    (1459, 13), (1460, 14), (1461, 15), (1462, 16), (1463, 17), (1464, 18), (1465, 19),
    (1467, 20), (1468, 21), (1469, 22), (1470, 0), (1471, 23), (1472, 0), (1473, 24),
    (1474, 25), (1475, 0), (1476, 230), (1477, 220), (1478, 0), (1479, 18), (1488, 0),
    (1552, 230), (1560, 30), (1561, 31), (1562, 32), (1563, 0), (1611, 27), (1612, 28),
    (1613, 29), (1614, 30), (1615, 31), (1616, 32), (1617, 33), (1618, 34), (1619, 230),
    (1621, 220), (1623, 230), (1628, 220), (1629, 230), (1631, 220), (1632, 0), (1648, 35),
    (1649, 0), (1750, 230), (1758, 0), (1759, 230), (1763, 220), (1764, 230), (1765, 0),
    (1767, 230), (1769, 0), (1770, 220), (1771, 230), (1773, 220), (1774, 0), (1809, 36),
    (1810, 0), (1840, 230), (1841, 220), (1842, 230), (1844, 220), (1845, 230), (1847, 220),
    (1850, 230), (1851, 220), (1853, 230), (1854, 220), (1855, 230), (1858, 220),
    (1859, 230), (1860, 220), (1861, 230), (1862, 220), (1863, 230), (1864, 220),
    (1865, 230), (1869, 0), (2027, 230), (2034, 220), (2035, 230), (2036, 0), (2045, 220),
    (2046, 0), (2070, 230), (2074, 0), (2075, 230), (2084, 0), (2085, 230), (2088, 0),
    (2089, 230), (2096, 0), (2137, 220), (2142, 0), (2199, 230), (2201, 220), (2204, 230),
    (2208, 0), (2250, 230), (2255, 220), (2260, 230), (2275, 220), (2276, 230), (2278, 220),
    (2279, 230), (2281, 220), (2282, 230), (2285, 220), (2288, 27), (2289, 28), (2290, 29),
    (2291, 230), (2294, 220), (2295, 230), (2297, 220), (2299, 230), (2304, 0), (2364, 7),
    (2365, 0), (2381, 9), (2382, 0), (2385, 230), (2386, 220), (2387, 230), (2389, 0),
    (2492, 7), (2493, 0), (2509, 9), (2510, 0), (2558, 230), (2561, 0), (2620, 7),
    (2622, 0), (2637, 9), (2641, 0), (2748, 7), (2749, 0), (2765, 9), (2768, 0), (2876, 7),
    (2877, 0), (2893, 9), (2901, 0), (3021, 9), (3024, 0), (3132, 7), (3133, 0), (3149, 9),
    (3157, 84), (3158, 91), (3160, 0), (3260, 7), (3261, 0), (3277, 9), (3285, 0),
    (3387, 9), (3389, 0), (3405, 9), (3406, 0), (3530, 9), (3535, 0), (3640, 103),
    (3642, 9), (3647, 0), (3656, 107), (3660, 0), (3768, 118), (3770, 9), (3771, 0),
    (3784, 122), (3788, 0), (3864, 220), (3866, 0), (3893, 220), (3894, 0), (3895, 220),
    (3896, 0), (3897, 216), (3898, 0), (3953, 129), (3954, 130), (3956, 132), (3962, 130),
    (3966, 0), (3968, 130), (3970, 230), (3972, 9), (3973, 0), (3974, 230), (3976, 0),
    (4038, 220), (4039, 0), (4151, 7), (4152, 0), (4153, 9), (4155, 0), (4237, 220),
    (4238, 0), (4957, 230), (4960, 0), (5908, 9), (5919, 0), (5940, 9), (5941, 0),
    (6098, 9), (6099, 0), (6109, 230), (6112, 0), (6313, 228), (6314, 0), (6457, 222),
    (6458, 230), (6459, 220), (6464, 0), (6679, 230), (6680, 220), (6681, 0), (6752, 9),
    (6753, 0), (6773, 230), (6783, 220), (6784, 0), (6832, 230), (6837, 220), (6843, 230),
    (6845, 220), (6846, 0), (6847, 220), (6849, 230), (6851, 220), (6853, 230), (6858, 220),
    (6859, 230), (6877, 220), (6880, 230), (6886, 220), (6887, 230), (6891, 234), (6912, 0),
    (6964, 7), (6965, 0), (6980, 9), (6981, 0), (7019, 230), (7020, 220), (7021, 230),
    (7028, 0), (7082, 9), (7084, 0), (7142, 7), (7143, 0), (7154, 9), (7164, 0), (7223, 7),
    (7227, 0), (7376, 230), (7379, 0), (7380, 1), (7381, 220), (7386, 230), (7388, 220),
    (7392, 230), (7393, 0), (7394, 1), (7401, 0), (7405, 220), (7406, 0), (7412, 230),
    (7413, 0), (7416, 230), (7418, 0), (7616, 230), (7618, 220), (7619, 230), (7626, 220),
    (7627, 230), (7629, 234), (7630, 214), (7631, 220), (7632, 202), (7633, 230),
    (7670, 232), (7671, 228), (7673, 220), (7674, 218), (7675, 230), (7676, 233),
    (7677, 220), (7678, 230), (7679, 220), (7681, 0), (8400, 230), (8402, 1), (8404, 230),
    (8408, 1), (8411, 230), (8413, 0), (8417, 230), (8418, 0), (8421, 1), (8423, 230),
    (8424, 220), (8425, 230), (8426, 1), (8428, 220), (8432, 230), (8452, 0), (11503, 230),
    (11507, 0), (11647, 9), (11648, 0), (11744, 230), (11776, 0), (12330, 218),
    (12331, 228), (12332, 232), (12333, 222), (12334, 224), (12336, 0), (12441, 8),
    (12445, 0), (42607, 230), (42608, 0), (42612, 230), (42622, 0), (42654, 230),
    (42656, 0), (42736, 230), (42738, 0), (43014, 9), (43015, 0), (43052, 9), (43056, 0),
    (43204, 9), (43205, 0), (43232, 230), (43250, 0), (43307, 220), (43310, 0), (43347, 9),
    (43359, 0), (43443, 7), (43444, 0), (43456, 9), (43457, 0), (43696, 230), (43697, 0),
    (43698, 230), (43700, 220), (43701, 0), (43703, 230), (43705, 0), (43710, 230),
    (43712, 0), (43713, 230), (43714, 0), (43766, 9), (43777, 0), (44013, 9), (44016, 0),
    (64286, 26), (64434, 0), (65056, 230), (65063, 220), (65070, 230), (65093, 0),
    (66045, 220), (66176, 0), (66272, 220), (66273, 0), (66422, 230), (66432, 0),
    (68109, 220), (68110, 0), (68111, 230), (68112, 0), (68152, 230), (68153, 1),
    (68154, 220), (68159, 9), (68160, 0), (68325, 230), (68326, 220), (68331, 0),
    (68900, 230), (68912, 0), (68969, 230), (68974, 0), (69291, 230), (69293, 0),
    (69370, 220), (69372, 0), (69373, 220), (69376, 0), (69446, 220), (69448, 230),
    (69451, 220), (69452, 230), (69453, 220), (69457, 0), (69506, 230), (69507, 220),
    (69508, 230), (69509, 220), (69510, 0), (69702, 9), (69703, 0), (69744, 9), (69745, 0),
    (69759, 9), (69760, 0), (69817, 9), (69818, 7), (69819, 0), (69888, 230), (69891, 0),
    (69939, 9), (69942, 0), (70003, 7), (70004, 0), (70080, 9), (70081, 0), (70090, 7),
    (70091, 0), (70197, 9), (70198, 7), (70199, 0), (70377, 7), (70378, 9), (70384, 0),
    (70459, 7), (70461, 0), (70477, 9), (70480, 0), (70502, 230), (70528, 0), (70606, 9),
    (70609, 0), (70722, 9), (70723, 0), (70726, 7), (70727, 0), (70750, 230), (70751, 0),
    (70850, 9), (70851, 7), (70852, 0), (71103, 9), (71104, 7), (71105, 0), (71231, 9),
    (71232, 0), (71350, 9), (71351, 7), (71352, 0), (71467, 9), (71472, 0), (71737, 9),
    (71738, 7), (71739, 0), (71997, 9), (71999, 0), (72003, 7), (72004, 0), (72160, 9),
    (72161, 0), (72244, 9), (72245, 0), (72263, 9), (72272, 0), (72345, 9), (72346, 0),
    (72767, 9), (72768, 0), (73026, 7), (73027, 0), (73028, 9), (73030, 0), (73111, 9),
    (73112, 0), (73537, 9), (73539, 0), (90415, 9), (90416, 0), (92912, 1), (92917, 0),
    (92976, 230), (92983, 0), (94192, 6), (94194, 0), (113822, 1), (113823, 0),
    (119141, 216), (119143, 1), (119146, 0), (119149, 226), (119150, 216), (119163, 220),
    (119171, 0), (119173, 230), (119178, 220), (119180, 0), (119210, 230), (119214, 0),
    (119362, 230), (119365, 0), (122880, 230), (123136, 0), (123184, 230), (123191, 0),
    (123566, 230), (123584, 0), (123628, 230), (123632, 0), (124140, 232), (124142, 220),
    (124143, 230), (124144, 0), (124398, 230), (124399, 220), (124400, 0), (124643, 230),
    (124644, 0), (124646, 230), (124647, 0), (124654, 230), (124656, 0), (124661, 230),
    (124670, 0), (125136, 220), (125218, 0), (125252, 230), (125258, 7), (125259, 0)]

def classStarts : Array Nat := classBounds.map Prod.fst

/-- The class of a mark tells where it stands at its letter; zero is the class of
all that starts anew. -/
def combiningClass (c : Char) : Nat :=
  if c.toNat < 0x300 then 0
  else
    match boundsUpTo classStarts c with
    | 0 => 0
    | count + 1 => (classBounds[count]?.map Prod.snd).getD 0

def isStarter (c : Char) : Bool := combiningClass c == 0

/-- The text with every run of marks sorted by class; marks of one class keep
their order.  `done` holds what is sorted, last one first. -/
def sortMarksFrom (done : List Char) : List Char → List Char
  | [] => done.reverse
  | c :: rest =>
    if isStarter c then sortMarksFrom (c :: done) rest
    else
      let marks := rest.takeWhile (!isStarter ·)
      let sorted := (c :: marks).mergeSort fun a b => combiningClass a ≤ combiningClass b
      sortMarksFrom (sorted.reverse ++ done) (rest.drop marks.length)
termination_by text => text.length
decreasing_by
  · exact Nat.lt_succ_self rest.length
  · exact Nat.lt_succ_of_le (List.length_drop ▸ Nat.sub_le rest.length marks.length)

/-- Puts characters together with `starter`, the last one that starts anew.
`passed` holds the marks since then that stay apart, last one first; a mark
behind one of its class or a higher one stays apart as well. -/
def composeFrom (done : List Char) (starter : Char) (passed : List Char) :
    List Char → List Char
  | [] => (passed ++ starter :: done).reverse
  | c :: rest =>
    let joins := match passed with
      | [] => true
      | mark :: _ => combiningClass mark < combiningClass c
    match if joins then composite? starter c else none with
    | some whole => composeFrom done whole passed rest
    | none =>
      if isStarter c then composeFrom (passed ++ starter :: done) c [] rest
      else composeFrom done starter (c :: passed) rest

def compose (text : List Char) : List Char :=
  let marks := text.takeWhile (!isStarter ·)
  match text.drop marks.length with
  | [] => marks
  | starter :: rest => marks ++ composeFrom [] starter [] rest

def composed (text : List Char) : List Char := compose (sortMarksFrom [] (text.flatMap partsOf))

end Ebms.Text
