import ScriptHost.Text.Ranges

/-!
# Word characters

Letters, digits and other numerals of all scripts, and the low line. A name in a formula has
narrower rules: it starts with a letter or a low line and may go on with marks.
-/

namespace ScriptHost.Text

/-- Letters and numerals beyond the first 128 characters. -/
def wordRanges : Ranges :=
  .ofRows [
    "aa 7+1 1 3+1 1+2 1+16 1+1e 1+1c9 4+b e+4 7 1 81+4 1+1 2+3 1 6 1+2 1 1+13 1+52 1+8a 8+a5 1+25",
    "2 6+28 47+1a 4+3 2d+2a 15+9 4+1 1+62 1 f+1 7+e 2 10 1+1d 1d+58 b e+2a 9+1 4 5+15 4 9 3 17+18",
    "7+a 5+17 1+5 11+29 3a+35 3 12 7+9 4+9 1+f 4+7 2+1 2+15 1+6 1 3+3 3 10 d+1 1+2 4+b 2+5 2 8+5",
    "4+1 2+15 1+6 1+1 1+1 1+1 1f+3 1 7+9 2+2 10+8 1+2 1+15 1+6 1+1 1+4 3 12 f+1 4+9 9 b+7 2+1",
    "2+15 1+6 1+1 1+4 3 1e+1 1+2 4+9 1+6 b 1+5 3+2 1+3 3+1 1 1+1 3+1 3+2 3+b 16 15+c 12+7 1+2",
    "1+16 1+f 3 1a+2 2 2+1 4+9 8+6 1 4+7 1+2 1+16 1+9 1+4 3 1f+1 1+1 4+9 1+1 11+8 1+2 1+28 2 10",
    "5+2 1+9 4+12 1+5 5+11 3+17 1+8 1 2+6 1f+9 11+2f 1+1 c+6 9+9 27+1 1 1+4 1+17 1 1+9 1+1 9 2+4",
    "1 9+9 2+3 20 1f+13 c+7 1+23 1b+4 73+2a 14+a 6+5 4+3 3 3+1 7+2 4+c c 1+9 6+25 1 5 2+2a 1+14c",
    "1+3 2+6 1 1+3 2+28 1+3 2+20 1+3 2+6 1 1+3 2+e 1+38 1+3 2+42 e+13 3+f 10+55 2+5 3+26b 2+10",
    "1+19 5+4a 3+a 7+11 d+12 e+11 e+c 1+2 f+33 23 4 3+9 6+9 16+9 6+58 7+4 2+21 1 5+45 a+1e 27+27",
    "2+4 b+2b 4+19 6+a 25+16 9+34 2b+9 6+9 d 5d+2e 11+7 3+9 29+1d d+37 1a+23 1c+9 3+30 2+8 7+2a",
    "2+2 29+3 1+5 1+1 3 5+bf 40+115 2+5 2+25 2+5 2+7 1 1 1 1+1e 2+34 1+6 1 3+2 1+6 3+3 2+5 4+c",
    "5+2 1+6 73+1 2+5 5+a 6+c 65 4 2+9 1 3+4 6 1 1 1+3 1+a 2+3 5+4 4 1+39 2d6+3b 4e+15 276+1d",
    "46c+e4 6+3 3+1 9 2+25 1 5 2+37 7 10+16 9+6 1+6 1+6 1+6 1+6 1+6 1+6 1+6 50 1d5+2 19+8 7+4 2+4",
    "4+55 6+2 1+59 1+3 5+2a 1+5d 3+3 a+1f 30+f 20+9 1e+7 1+e 20+9 27+e 140+19bf 40+568c 43+2d",
    "2+10c 3+1b 14+2e 10+1e 2+4f 27+8 2+66 2+3f 5+1 1 1+4 18+f 1+2 1+3 1+16 d+5 a+33 e+31 1c+9",
    "18+5 3 1+1 1+25 a+16 19+1c 7+2e 1c+a 6+4 1+18 1+28 17+2 1+7 4+9 6+16 3 3+31 1 3+1 2+4 2 1",
    "18+2 2+a 7+2 c+5 2+5 2+5 9+6 1+6 1+2a 1+d 6+72 d+9 6+2ba3 c+16 4+30 2104+16d 2+69 26+6 c+4 5",
    "1+9 1+c 1+4 1 1+1 1+1 1+6b 21+16a 12+3f 2+35 28+b 74+4 1+86 13+9 7+19 6+19 b+58 3+5 2+5 2+5",
    "2+2 23+b 1+19 1+12 1+1 1+e 2+d 22+7a c+2c c+38 11+1 f4+1c 3+30 10+1a 4+23 9+1d 5+25 a+1d",
    "2+23 4+7 1+4 2a+9d 2+9 6+23 4+23 4+27 8+33 c+a 1+e 1+6 1+1 1+a 1+e 1+6 1+1 43+136 9+15 a+7",
    "18+5 1+29 1+8 45+5 2 1+2b 1+1 3 2+16 2+1e 2+25 8+8 30+12 1+1 5+20 4+19 46+37 4+13 2+2e f+3",
    "1+2 1+1c a+8 17+1e 1+1f 20+7 1+1b 6+4 10+35 a+15 2+1a 5+19 17+6 50+48 37+32 d+32 7+29 c+9",
    "126+1e 1+29 6+1 4e+27 8+15 b+3 1b+11 2e+1b 14+16 c+34 1a+1d 1+1 2 d+2c 20+18 7+9 9+23 f+9 4",
    "2 8+22 3 c+2f e+3 b+a 1 4+13 b+11 1+18 54+6 1 1+3 1+e 1+9 7+2e 11+9 b+7 2+1 2+15 1+6 1+1 1+4",
    "3 12 c+4 9e+34 12+3 5+9 5+2 1e+2f 14+1 1 8+9 a6+2e 29+3 24+2f 14 b+9 26+2a d 7+9 36+1a 15+b",
    "4+6 b9+2b 74+52 c+7 2 2+7 1+1 1+17 f 1 e+9 46+7 2+26 10 1 1c a+27 7 15 b+2d 13 12+48 107+8",
    "1+24 11 f+1c 5+1d 70+6 1+1 1+25 15 9+9 6+5 1+1 1+1f e 7+9 136+12 bd f+14 2b+399 66+6e 11+c3",
    "a4c+60 f+42e fd1+246 21b9+238 7+1e 1+9 6+4e 1+9 6+1d 12+2f 10+3 c+9 1+6 1+14 5+12 2b0+56",
    "69+4a 5 42+c 40+1 1 1c+17f7 8+4d5 2a+8 22e7+3 1+6 1+1 1+122 2d+2 11+3 8+18b 904+6a 5+c 3+8",
    "7+9 1646+13 6c+18 87+54 1+46 1+1 2 2+1 2+3 1+b 1 1+6 1+40 1+3 2+7 1+6 1+1b 1+3 1+4 1 3+6",
    "1+153 2+18 1+18 1+1e 1+18 1+1e 1+18 1+1e 1+18 1+1e 1+18 1+7 2+31 700+1e 1e1+2c a+6 2+9 4",
    "141+1d 12+2b 4+9 4e6+6 1+3 1+1 1+e 1+c4 2+8 30+43 7 4+9 317+3a 1+2 1+3 4c+2c 1+e c2+3 1+1a",
    "1+1 1 2 1+9 1+3 1 1 6 4 1 1 1+2 1+1 1 2 1 1 1 1 1+1 1 2+3 1+6 1+3 1+3 1 1+9 1+10 5+2 1+4",
    "1+10 244+c ae3+9 406+a6df 20+1038 7+dd 2+1681 e+1d30 c1f+21d 5e2+134a"]

/-- Whether a character is a plain letter, a plain digit or the low line. -/
def isPlainWord (c : Char) : Bool :=
  let n := c.toNat
  (48 ≤ n && n ≤ 57) || (65 ≤ n && n ≤ 90) || n == 95 || (97 ≤ n && n ≤ 122)

/-- Whether a character belongs to a word. -/
def isWord (c : Char) : Bool :=
  if c.toNat < 128 then isPlainWord c else wordRanges.contains c.toNat

/-- Word characters beyond the first 128 that no name starts with: digits and other numerals. -/
def numeralRanges : Ranges :=
  .ofRows [
    "b2+1 5 2+2 2bb 2e5+9 86+9 c6+9 19c+9 76+9 4+5 6c+9 76+9 76+9 2+5 6e+c 73+9 8+6 67+9 68+6",
    "7+12 6d+9 43 1c+9 59 1c+9 46+13 10c+9 46+9 2cf+13 463+9 6+9 16+9 12c+9 80+a a5+9 6+9 b6+9",
    "56+9 86+9 6+9 416 3+5 6+9 c6+f 29 2d6+3b 4e+15 276+1d 569 131 362+3 8a+9 1e+7 1+e 20+9 27+e",
    "7360+9 206+5 9a+9 26+9 c6+9 16+9 56+9 196+9 5064+5 196+1 74 1 1 1 1 1 1 1 91+9 84+1 167+2c",
    "41+3 11+1 155+1a 24+3 17c+9 3ae+7 19+6 27+8 4b+4 16+5 a0+1 2+f 2+2d 40+8 34+1 1e+2 4b+4 68+7",
    "18+7 29+6 14a+5 30+9 126+1e 9e+9 2a+3 70+6 86+1d 80+9 3c+9 90+9 7+13 fb+9 156+9 76+9 176+9",
    "66+9 66+b 1a4+12 5d+9 2f6+1c e3+9 46+9 216+14 4a8b+9 56+9 86+9 1+6 31e+16 6449+13 6c+18",
    "455+31 940+9 1a6+9 5cd+8 80+9 317+3a 1+2 1+3 4c+2c 1+e 3c2+c ae3+9"]

/-- What names go on with beyond the first 128 characters, besides what they start with: marks and
digits. -/
def markRanges : Ranges :=
  .ofRows [
    "b7 248+6f 17 fb+4 109+2c 1 1+1 1+1 1 48+a 30+1e 6 65+6 2+5 2+1 1+3 2+9 17 1e+1a 5b+a f+9",
    "21+8 9 18+3 1+8 1+2 1+4 2b+2 3c+7 2a+17 1+20 36+2 1+11 1+6 a+1 2+9 11+2 38 1+6 2+1 2+2 9 a+1",
    "2+9 e 2+2 38 1+4 4+1 2+2 3 14+b 3 b+2 38 1+7 1+2 1+2 14+1 2+9 a+5 1+2 38 1+6 2+1 2+2 7+2 a+1",
    "2+9 12 3b+4 3+2 1+3 9 e+9 10+4 37 1+6 1+2 1+3 7+1 b+1 2+9 11+2 38 1+6 1+2 1+3 7+1 b+1 2+9",
    "10+3 37+1 1+6 1+2 1+3 9 a+1 2+9 11+2 46 4+5 1 1+7 6+9 2+1 3d 1+7 c+7 1+9 57 1+9 b+5 2+9 3e+1",
    "6+9 b 1 1 4+1 31+13 1+1 5+a 1+23 9 64+13 1+9 c+3 4+2 1+2 2+6 3+3 d+b 1+e 2bf+2 9+8 3a0+3",
    "1c+2 1d+1 1e+1 40+1f 9 2+9 21+2 1+a 8f 76+b 4+b a+9 80+a 3c+4 39+9 1+1c 2+a 6+9 16+d 1+f",
    "31+4 2f+10 b+9 11+8 c+2 1e+c 2+9 2c+d 30+13 8+9 6+9 76+2 1+14 4 6 2+2 c6+3f 23f+1 13 7b+c 4",
    "3+b bfe+2 8d 60+1f 22a+5 69+1 7585+9 45 4+9 20+1 50+1 110 3 4 17+4 4 53+1 32+11 a+9 6+11 d+a",
    "1c+7 19+c 2c+3 2f+d f+9 b a+9 2f+d c 8+1 2+9 21+2 32 1+2 2+1 5+1 1 29+4 5+1 ec+7 1+1 2+9",
    "4f24 2e1+f 10+f 3+1 18+2 c0+9 25 5e+1 25d e2 95+4 125+9 557+2 1+1 5+3 28+2 4 a5+1 23d+3 8+9",
    "171+1 99+a 31+3 7a+2 35+e 1f+a 2+1 a+3 2d+a 7 2d+9 6+2 24+d 1+9 5+1 2c c+2 30+d 8+3 1+b 52+b",
    "6 a0+b 5+9 6+3 37+1 1+6 2+1 2+2 9 a+1 2+6 3+4 c0+11 9+9 4 51+13 c+9 d5+6 2+8 1b+1 52+10 f+9",
    "51+c 8+9 53+e 4+9 f2+e a5+9 46+5 1+1 2+3 1 1+1 c+9 77+6 2+6 3 1c+9 28+6 1+3 8 9+a 2e+f 195+7",
    "1+7 10+9 38+15 1+d 7a+5 3 1+1 1+6 1 8+9 30+4 1+1 1+4 8+9 149+3 4b69+9 56+9 26+4 3b+6 19+9",
    "3f5 1+36 7+3 51 b+1 4cab+1 1261+2d 2+16 21e+4 3+5 8+7 2+6 1e+3 94+2 589+31 200+36 4+31 8 e",
    "16+4 1+e 550+6 1+10 2+6 1+1 1+4 105+6 9+9 164 3d+d 5d6+6 6d+6 5+9 1296+9 c0506+ef"]

/-- Characters that names start with though they are no word characters. -/
def nameMarks : List Nat := [0x1885, 0x1886, 0x2118, 0x212e]

/-- Whether a character may start a name. -/
def isNameStart (c : Char) : Bool :=
  let n := c.toNat
  if n < 128 then isPlainWord c && !(48 ≤ n && n ≤ 57)
  else (wordRanges.contains n && !numeralRanges.contains n) || nameMarks.contains n

/-- Whether a character may continue a name. -/
def isNameChar (c : Char) : Bool :=
  if c.toNat < 128 then isPlainWord c else isNameStart c || markRanges.contains c.toNat

end ScriptHost.Text
