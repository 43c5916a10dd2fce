import ScriptHost.Text.Word

/-!
# Printable characters

What a quoted text shows as it is; everything else is written as an escape.
-/

namespace ScriptHost.Text

/-- Printable characters beyond the first 128 that are no word characters. -/
def signRanges : Ranges :=
  .ofRows [
    "a1+8 1+1 1+3 2 1+2 2 3 17 1f 1ca+3 c+d 5+6 1 1+80 5 8 5+1 1 6e 8b+7 d0+5 29+1 2+2 1+36 2b+1",
    "11+15 1+2 2b+14 a+3 2 63 1+6 1+6 2+6 f+1 1+d 3 1e+1a 5b+a 3a+8 2+3 3+2 16+3 1+8 1+2 1+4 2+e",
    "1a+2 2 29 f+7 2a+17 1+20 36+2 1+11 1+6 a+3 a 10+2 38 1+6 2+1 2+2 9 a+1 e+1 6+1 1+1 2+2 38",
    "1+4 4+1 2+2 3 1e+1 3+1 a+2 38 1+7 1+2 1+2 14+1 c+1 8+5 1+2 38 1+6 2+1 2+2 7+2 a+1 c 11 3b+4",
    "3+2 1+3 9 1b+7 5+4 37 1+6 1+2 1+3 7+1 b+1 13 7 1+3 37 1+6 1+2 1+3 7+1 b+1 1c+3 37+1 1+6 1+2",
    "1+3 1 7 a+1 15 7+2 46 4+5 1 1+7 12+2 3c 2+6 4 7+8 a+1 55 2+8 b+5 33+1e 14+b 31+16 5+a 1+23",
    "1+e 1+c 50+13 b+5 6+3 4+2 1+2 2+6 3+3 d+b 1 a+5 5b 261+b 27+9 66 26c+1 2c+1 4e+2 24+3 1c+4",
    "1b+1 1e+1 40+22 1+3 1 22+d 1 75+1 22 76+b 4+b 4 3+1 98+21 17+4 2+1 35+9 1+1c 2 20+6 1+5 2+1e",
    "31+4 2f+10 15+24 1+2 1e+c 38+d 8+3 24+13 3+4 3e+1 40+7 8+18 4 6 2+2 c6+3f 1bd 1+2 b+2 d+2",
    "d+2 d+1 11+17 8+2e 1b+4 b+4 11+20 f+20 f+1 1+3 1+1 a 1+2 5+5 1 1 1 4 b+1 4+4 5+3 1 3a+1",
    "4+296 19+a 51+4d 16+275 1e+3df 2+1f 1+68 e5+5 4+2 7+3 1+1 70 e 60+4e 1+2d 22+19 1+58 c+d5",
    "1a+b 5+3 3+18 9+6 5+1 5+2 59+3 3 5a 94+1 4+9 20+23 1c+1e b+1d 8 f+1f a+26 f+13f 19c0+3f",
    "5690+36 37+1 10d+2 5f+f 1f+1 50+7 8+16 9+1 67+1 77 3 4 17+9 9+3 3a+3 8+1 32+11 8+1 10+11 6+2",
    "1 2 26+9 17+c b 20+3 2f+1a 10+1 5 43+d c 8+1 e+3 17+2 1+2 32 1+2 2+1 5+1 1 1c+1 b+6 3+1 64",
    "e+1 77+a 4f30 a 88+10 17b+11 7f 2c+1d 6+32 1+12 1+3 95+e a+6 1a+5 1a+a 7a+6 1+6 d+1 102+2",
    "34+8 39+10 2+2 1+c 3 2f+2d e2 95+4 24 30 19e 2e7 1f+1 a6 1f c1+2 1+1 5+3 28+2 4 10+8 26 48",
    "1c+1 9+6 42+6 59+3 187+3 183+2 98+a 4+4 28+7 76+2 35+15 22 2+1 a+3 2d+c 1+4 3d+2 24+d b+3",
    "1+1 2c+2 a+2 30+d 4+a b 1+2 4c+12 6a 35+b 15+3 37+1 1+6 2+1 2+2 9 a+1 2+6 3+4 c0+11 4+4 a+1",
    "1+1 51+13 2 e8+6 2+1f 4+1 52+13 1c+c 3e+c 1 63+e 10+3 ec+f f4+5 1+1 2+3 1 1+4 8a+6 2+6 1 1",
    "1c+9 28+6 1+c 9+a 2e+12 1+4 18c+7 1+7 1+4 2a+1 20+15 1+d 7a+5 3 1+1 1+6 1 42+4 1+1 1+4 15b+5",
    "dc+1c d 470+4 b7c+1 3a7b+1 80+5 3a+f 4+1 351+3 b4 1+36 7+3 4f 1 b+1 4caa+3 1260+2d 2+16 9+73",
    "3c+f5 a+26 2+49 8+6f 15+45 ba+56 36a 19 1f 19 1f 19 1f 19 1f 19 3c+28b f+4 1+e 550+6 1+10",
    "2+6 1+1 1+4 105+6 18 15e 3d+3 f 5d0+6 6d+6 13+1 34c 3 7d 1c1+1 10e+2b 4+63 c+e 2+e 1+e 1+24",
    "17+a0 38+1c d+2b 4+8 7+1 e+5 9a+3d7 5+f 3+c 3+73 c+58 7+b 4 f+b 4+37 8+9 6+27 8+1d 2+1",
    "4e+153 c+d 2+4 3+4 3+6 9+1c 3+a 5+5 a+9 6+7 8+6 9+92 1+36 c0535+ef"]

/-- Whether a quoted text shows the character as it is. -/
def isPrintable (c : Char) : Bool :=
  let n := c.toNat
  if n < 128 then 32 ≤ n && n ≤ 126 else isWord c || signRanges.contains n

end ScriptHost.Text
