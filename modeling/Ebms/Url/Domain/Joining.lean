import Ebms.Text.Composition
import Ebms.Url.Domain.Direction

/-! # Joiners in domain names

Two characters that can not be seen decide whether their neighbours are joined.
A name holds them only where they make a difference. -/

set_option autoImplicit false

namespace Ebms.Domain

def joinsBothBounds : Array Nat :=
  #[
    1568, 1569, 1574, 1575, 1576, 1577, 1578, 1583, 1587, 1600, 1601, 1608, 1609, 1632,
    1646, 1649, 1657, 1672, 1690, 1728, 1729, 1731, 1740, 1741, 1742, 1743, 1744, 1746,
    1786, 1789, 1791, 1792, 1810, 1813, 1818, 1822, 1823, 1832, 1833, 1834, 1835, 1836,
    1837, 1839, 1870, 1881, 1884, 1899, 1901, 1905, 1906, 1907, 1909, 1912, 1914, 1920,
    1994, 2036, 2113, 2118, 2120, 2121, 2122, 2132, 2133, 2134, 2144, 2145, 2146, 2150,
    2152, 2153, 2182, 2183, 2185, 2190, 2191, 2218, 2223, 2225, 2227, 2233, 2234, 2249,
    6151, 6152, 6176, 6272, 6279, 6320, 43072, 43122, 68288, 68293, 68307, 68311, 68312,
    68317, 68318, 68321, 68331, 68335, 68480, 68481, 68482, 68483, 68486, 68489, 68490,
    68492, 68493, 68494, 68496, 68497, 68525, 68527, 68865, 68898, 68899, 68912, 69315,
    69317, 69318, 69328, 69424, 69427, 69428, 69445, 69457, 69460, 69488, 69492, 69494,
    69510, 69552, 69553, 69554, 69556, 69560, 69561, 69563, 69565, 69566, 69568, 69569,
    69570, 69572, 69573, 69578, 69579, 125218, 125259]

def joinsBeforeBounds : Array Nat :=
  #[
    1570, 1574, 1575, 1576, 1577, 1578, 1583, 1587, 1608, 1609, 1649, 1652, 1672, 1690,
    1728, 1729, 1731, 1740, 1741, 1742, 1743, 1744, 1746, 1748, 1749, 1758, 1774, 1776,
    1808, 1810, 1813, 1818, 1822, 1823, 1832, 1833, 1834, 1835, 1836, 1837, 1839, 1870,
    1881, 1884, 1899, 1901, 1905, 1906, 1907, 1909, 1912, 1914, 2112, 2113, 2118, 2120,
    2121, 2122, 2132, 2133, 2134, 2142, 2151, 2152, 2153, 2179, 2190, 2191, 2218, 2221,
    2222, 2223, 2225, 2227, 2233, 2234, 68293, 68294, 68295, 68296, 68297, 68299, 68302,
    68307, 68317, 68318, 68321, 68322, 68324, 68331, 68335, 68336, 68481, 68482, 68483,
    68486, 68489, 68490, 68492, 68493, 68494, 68496, 68497, 68505, 68521, 68525, 68898,
    68899, 69314, 69315, 69427, 69428, 69460, 69461, 69492, 69494, 69556, 69559, 69561,
    69563, 69565, 69566, 69570, 69572, 69577, 69578]

def joinsAfterBounds : Array Nat :=
  #[
    43122, 43123, 68301, 68302, 68311, 68312, 68864, 68865, 69579, 69600]

def isTransparent (c : Char) : Bool :=
  Text.isWithin nonspacingBounds c || c.toNat == 0x1E94B

/-- Whether the first letter of a text, marks aside, joins on a side. -/
def startsJoining (side : Array Nat) (text : List Char) : Bool :=
  match text.dropWhile isTransparent with
  | [] => false
  | c :: _ => Text.isWithin joinsBothBounds c || Text.isWithin side c

/-- The class of the marks that silence the vowel of a letter. -/
def silencingClass : Nat := 9

/-- Whether every joiner of a label makes a difference; `before` holds the
characters before, last one first.  Both stand behind a mark that silences a
vowel, and the one that keeps letters apart between letters that would join. -/
def joinersMatter (before : List Char) : List Char → Bool
  | [] => true
  | c :: rest =>
    let silenced := before.head?.any fun previous => Text.combiningClass previous == silencingClass
    let parts := startsJoining joinsAfterBounds before && startsJoining joinsBeforeBounds rest
    (if c.toNat = 0x200C then silenced || parts else if c.toNat = 0x200D then silenced else true)
      && joinersMatter (c :: before) rest

end Ebms.Domain
