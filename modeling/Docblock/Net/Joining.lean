import Docblock.Text.CombiningClass
import Docblock.Text.Mark
import Docblock.Text.Ranges

/-!
# Joiners in host names

Two invisible characters tell letters to join or not to join. They stand in a name only where they
change how it looks: after a mark that takes away a vowel, and the one that parts letters also
between two letters that would join. The ranges run over characters that no mapped name holds.
-/

namespace Docblock.Net

open Text

/-- Letters that join with those on both sides. -/
def joinBothSides : List (Nat × Nat) := [
  (1568, 1568), (1574, 1574), (1576, 1576), (1578, 1582), (1587, 1599), (1601, 1607), (1609, 1610),
  (1646, 1647), (1657, 1671), (1690, 1727), (1729, 1730), (1740, 1740), (1742, 1742), (1744, 1745),
  (1786, 1788), (1791, 1791), (1810, 1812), (1818, 1821), (1823, 1831), (1833, 1833), (1835, 1835),
  (1837, 1838), (1870, 1880), (1884, 1898), (1901, 1904), (1906, 1906), (1909, 1911), (1914, 1919),
  (1994, 2026), (2113, 2117), (2120, 2120), (2122, 2131), (2133, 2133), (2144, 2144), (2146, 2149),
  (2152, 2152), (2182, 2182), (2185, 2189), (2208, 2217), (2223, 2224), (2227, 2232), (2234, 2248),
  (6151, 6151), (6176, 6264), (6279, 6312), (6314, 6314), (43072, 43121), (68288, 68292),
  (68307, 68310), (68312, 68316), (68318, 68320), (68331, 68334), (68480, 68480), (68482, 68482),
  (68486, 68488), (68490, 68491), (68493, 68493), (68496, 68496), (68525, 68526), (68865, 68897),
  (68899, 68899), (69424, 69426), (69428, 69444), (69457, 69459), (69488, 69491), (69494, 69505),
  (69552, 69552), (69554, 69555), (69560, 69560), (69563, 69564), (69566, 69567), (69569, 69569),
  (69572, 69572), (69578, 69578), (125218, 125251)]

/-- Letters that join with the next one only. -/
def joinNext : List (Nat × Nat) := [
  (43122, 43122), (68301, 68301), (68311, 68311), (68864, 68864), (69579, 69579)]

/-- Letters that join with the one before only. -/
def joinPrevious : List (Nat × Nat) := [
  (1570, 1573), (1575, 1575), (1577, 1577), (1583, 1586), (1608, 1608), (1649, 1651), (1672, 1689),
  (1728, 1728), (1731, 1739), (1741, 1741), (1743, 1743), (1746, 1747), (1749, 1749), (1774, 1775),
  (1808, 1808), (1813, 1817), (1822, 1822), (1832, 1832), (1834, 1834), (1836, 1836), (1839, 1839),
  (1869, 1869), (1881, 1883), (1899, 1900), (1905, 1905), (1907, 1908), (1912, 1913), (2112, 2112),
  (2118, 2119), (2121, 2121), (2132, 2132), (2134, 2136), (2151, 2151), (2153, 2178), (2190, 2190),
  (2218, 2220), (2222, 2222), (2225, 2226), (2233, 2233), (68293, 68293), (68295, 68295),
  (68297, 68298), (68302, 68306), (68317, 68317), (68321, 68321), (68324, 68324), (68335, 68335),
  (68481, 68481), (68483, 68485), (68489, 68489), (68492, 68492), (68494, 68495), (68497, 68497),
  (68521, 68524), (68898, 68898), (69427, 69427), (69460, 69460), (69492, 69493), (69556, 69558),
  (69561, 69562), (69565, 69565), (69570, 69571), (69577, 69577)]

/-- Characters that letters join across, nonspacing marks apart. -/
def transparent : List (Nat × Nat) := [
  (3263, 3263), (3270, 3270), (72199, 72200), (72767, 72767), (125259, 125259)]

/-- A character that letters join across. -/
def isTransparent (c : Char) : Bool := isNonspacingMark c || inRanges transparent c.toNat

/-- A letter that would join with the one after it. -/
def joinsNext (c : Char) : Bool := inRanges joinBothSides c.toNat || inRanges joinNext c.toNat

/-- A letter that would join with the one before it. -/
def joinsPrevious (c : Char) : Bool :=
  inRanges joinBothSides c.toNat || inRanges joinPrevious c.toNat

/-- Whether the nearest character that letters do not join across joins towards this place. -/
def reachesOver (joins : Char → Bool) (cs : List Char) : Bool :=
  (cs.dropWhile fun c => isTransparent c && !joins c).head?.any joins

/-- The combining class of the marks that take away a vowel. -/
def vowelKiller : Nat := 9

/-- Whether the joiners in a text are in their place. What stands before it is given, last
character first. -/
def joinersFrom (before : List Char) : List Char → Bool
  | [] => true
  | c :: after =>
    (match c.toNat, before with
      | 0x200c, previous :: _ =>
        combiningClass previous.toNat == vowelKiller ||
          (reachesOver joinsNext before && reachesOver joinsPrevious after)
      | 0x200d, previous :: _ => combiningClass previous.toNat == vowelKiller
      | code, _ => code != 0x200c && code != 0x200d) &&
    joinersFrom (c :: before) after

/-- Whether all joiners of a label are in their place. -/
def hasJoinersInPlace (label : List Char) : Bool := joinersFrom [] label

end Docblock.Net
