import Soap.Text.Mark

/-!
# Direction of writing

Characters are written from left to right or from right to left, or go along with those around them.
The class of a character says which. The table is that of Unicode 17 for the characters that a
domain name may contain; a stretch may take in code points without a character.
-/

namespace Soap.Text

/-- How a character takes part in the direction of a text. -/
inductive Direction where
  | leftToRight
  | rightToLeft
  /-- A letter of Arabic or a related script. -/
  | arabicLetter
  | arabicNumber
  | europeanNumber
  | europeanSeparator
  /-- What stands next to a number, like a sign of currency. -/
  | europeanTerminator
  | commonSeparator
  /-- A nonspacing mark, which goes along with what it is written on. -/
  | mark
  /-- What is not seen. -/
  | boundary
  | neutral
deriving DecidableEq, Repr

def Direction.ofTag? (tag : List Char) : Option Direction :=
  match String.ofList tag with
  | "=L" => some .leftToRight
  | "=R" => some .rightToLeft
  | "=AL" => some .arabicLetter
  | "=AN" => some .arabicNumber
  | "=EN" => some .europeanNumber
  | "=ES" => some .europeanSeparator
  | "=ET" => some .europeanTerminator
  | "=CS" => some .commonSeparator
  | "=BN" => some .boundary
  | "=ON" => some .neutral
  | _ => none

/-- The characters that are not written from left to right, and the nonspacing marks that are. -/
def directionRows : List String :=
  ["0-8=BN e-1b=BN 21-22=ON 23-25=ET 26-2a=ON 2b=ES 2c=CS 2d=ES 2e-2f=CS 30-39=EN 3a=CS 3b-40=ON",
    "5b-60=ON 7b-7e=ON 7f=BN a1=ON a2-a5=ET a6-a7=ON a9=ON ab-ac=ON ae=ON b0-b1=ET b6-b7=ON bb=ON",
    "bf=ON d7=ON f7=ON 2b9-2ba=ON 2c2-2cf=ON 2d2-2d7=ON 2de-2df=ON 2e5-2ed=ON 2ef-2ff=ON 375=ON",
    "3f6=ON 58a-58e=ON 58f=ET 5be=R 5c0=R 5c3=R 5c6=R 5d0-5f4=R 606-607=ON 608=AL 609-60a=ET 60b=AL",
    "60c=CS 60d=AL 60e-60f=ON 61b=AL 61d-64a=AL 660-669=AN 66a=ET 66b-66c=AN 66d-66f=AL 671-674=AL",
    "679-6d5=AL 6de=ON 6e5-6e6=AL 6e9=ON 6ee-6ef=AL 6f0-6f9=EN 6fa-70d=AL 710=AL 712-72f=AL",
    "74d-7a5=AL 7b1=AL 7c0-7ea=R 7f4-7f5=R 7f6-7f9=ON 7fa=R 7fe-815=R 81a=R 824=R 828=R 830-858=R",
    "85e=R 860-88f=AL 8a0-8c9=AL 9f2-9f3=ET 9fb=ET af1=ET bf3-bf8=ON bf9=ET bfa=ON c78-c7e=ON cbf=L",
    "cc6=L e3f=ET f3a-f3d=ON 1390-1399=ON 1400=ON 169b-169c=ON 17db=ET 17f0-180a=ON 1940-1945=ON",
    "19de-19ff=ON 200c-200d=BN 2010=ON 2012-2016=ON 2018-2023=ON 2027=ON 2030-2032=ET 2035=ON",
    "2038-203b=ON 203d=ON 203f-2043=ON 2044=CS 2045-2046=ON 204a-2056=ON 2058-205e=ON 20a0-20a7=ET",
    "20a9-20c1=ET 2104=ON 2108=ON 2114=ON 2117-2118=ON 211e-211f=ON 2123=ON 2125=ON 2127=ON 2129=ON",
    "212e=ET 213a=ON 2141-2144=ON 214a-214d=ON 218a-2211=ON 2212=ES 2213=ET 2214-222b=ON 222e=ON",
    "2231-2328=ON 232b-2335=ON 237b-2394=ON 2396-244a=ON 24eb-26ab=ON 26ad-27ff=ON 2900-2a0b=ON",
    "2a0d-2a73=ON 2a77-2adb=ON 2add-2bff=ON 2ce5-2cea=ON 2cf9-2cff=ON 2e00-2e9e=ON 2ea0-2ef2=ON",
    "3001=ON 3003-3004=ON 3008-3020=ON 3030=ON 3037=ON 303d-303f=ON 30a0=ON 30fb=ON 31c0-31e5=ON",
    "4dc0-4dff=ON a490-a4c6=ON a60d-a60f=ON a673=ON a67e-a67f=ON a700-a721=ON a788=ON a828-a82b=ON",
    "a838-a839=ET a874-a877=ON ab6a-ab6b=ON fbb2-fbc2=AL fbc3-fbd2=ON fd3e-fd4f=ON fd90-fd91=ON",
    "fdc8-fdcf=ON fdfd-fdff=ON fe45-fe46=ON fe73=AL 10101=ON 10140-1018c=ON 10190-101a0=ON",
    "102e1-102fb=EN 10800-1091b=R 1091f=ON 10920-10a00=R 10a10-10a35=R 10a40-10ae4=R 10aeb-10b35=R",
    "10b39-10b3f=ON 10b40-10c48=R 10cc0-10cff=R 10d00-10d23=AL 10d30-10d39=AN 10d40-10d4f=R",
    "10d6e=ON 10d6f-10d8f=R 10e60-10e7e=AN 10e80-10ea9=R 10ead-10eb1=R 10ec2-10ec7=AL",
    "10ed0-10ed8=ON 10f00-10f27=R 10f30-10f45=AL 10f51-10f59=AL 10f70-10f81=R 10f86-10ff6=R",
    "11052-11065=ON 11660-1166c=ON 11a07-11a08=L 11c3f=L 11fd5-11fdc=ON 11fdd-11fe0=ET",
    "11fe1-11ff1=ON 16fe2=ON 1cc00-1ccd5=ON 1ccfa-1cef0=ON 1d1e9-1d241=ON 1d245=ON 1d300-1d356=ON",
    "1e2ff=ET 1e800-1e8cf=R 1e922-1e943=R 1e94b-1e95f=R 1ec71-1ed3d=AL 1eef0-1f0f5=ON",
    "1f10b-1f10f=ON 1f12f=ON 1f16d-1f16f=ON 1f1ad=ON 1f260-1fbef=ON 1fbfa=ON"]

def directionTable : CodeTable Direction := .read Direction.ofTag? directionRows

/-- The direction of a character. What the table does not mention is a nonspacing mark or goes from
left to right. -/
def direction (c : Char) : Direction :=
  (directionTable.lookup? c).getD (if isNonspacing c then .mark else .leftToRight)

/-- Does `c` make a text one with parts from right to left? The first such character is U+05BE. -/
def isRightToLeft (c : Char) : Bool :=
  0x590 ≤ c.toNat && [Direction.rightToLeft, .arabicLetter, .arabicNumber].contains (direction c)

end Soap.Text
