import KeyTrace.Text.Runs

/-!
# Letters and numbers

The characters that are alphabetic, and those that are letters or numbers, as of version 17 of
Unicode. Names are made of them.

## Main definitions

* `Letter.isAlphabetic`: a character with the property Alphabetic.
* `Letter.isAlphanumeric`: an alphabetic character or one with a category of numbers.
-/

namespace KeyTrace

namespace Letter

/-- The runs of Alphabetic, packed. -/
def alphabetic : List String :=
  ["41+19 6+19 2f a 4 5+16 1+1e 1+1c9 4+b e+4 7 1 56 1d+11 1+1 2+3 1 6 1+2 1 1+13 1+52 1+8a",
   "8+a5 1+25 2 6+28 27+d 1 1+1 1+1 1 8+1a 4+3 1d+a 5+37 1+6 e+65 1+7 4+7 4+2 a+2 2 10+2f d+64",
   "18+20 9+1 4 5+17 2+12 13+18 7+a 5+17 1+6 7 8+29 a+b 3+6 6+4b 1+f 1+2 4+e d+12 1+7 2+1 2+15",
   "1+6 1 3+3 3+7 2+1 2+1 1 8 4+1 1+4 c+1 a 4+2 1+5 4+1 2+15 1+6 1+1 1+1 1+1 4+4 4+1 2+1 4 7+3",
   "1 11+5 b+2 1+8 1+2 1+15 1+6 1+1 1+4 3+8 1+2 1+1 3 f+3 15+3 4+2 1+7 2+1 2+15 1+6 1+1 1+4 3+7",
   "2+1 2+1 9+1 4+1 1+4 d 10+1 1+5 3+2 1+3 3+1 1 1+1 3+1 3+2 3+b 4+4 3+2 1+2 3 6 28+c 1+2 1+16",
   "1+f 3+7 1+2 1+2 8+1 1+2 1+1 2+3 1c+3 1+7 1+2 1+16 1+9 1+4 3+7 1+2 1+2 8+1 5+2 1+3 d+2 c+c",
   "1+2 1+28 2+7 1+2 1+2 1 5+3 7+4 16+5 1+2 1+11 3+17 1+8 1 2+6 8+5 1 1+7 12+1 d+39 5+6 6 33+1",
   "1 1+4 1+17 1 1+12 1+2 2+4 1 6 e+3 20 3f+7 1+23 4+12 4+f 1+23 43+36 1 2+4 10+3f a+3 2+25 1 5",
   "2+2a 1+14c 1+3 2+6 1 1+3 2+28 1+3 2+20 1+3 2+6 1 1+3 2+e 1+38 1+3 2+42 25+f 10+55 2+5 3+26b",
   "2+10 1+19 5+4a 3+a 7+13 b+14 c+13 c+c 1+2 1+1 c+33 2+12 e 4 43+58 7+2a 5+45 a+1e 1+b 4+8",
   "17+1d 2+4 b+2b 4+19 36+1b 4+3e 2+13 32 17+1 b+2 31+33 1+e 1+7 33+29 2+3 a+2b 1+a e+36 16+2",
   "a+23 2+a 5+2a 2+2 29+3 1+5 1+1 3 5+bf 13+21 b+115 2+5 2+25 2+5 2+7 1 1 1 1+1e 2+34 1+6 1",
   "3+2 1+6 3+3 2+5 4+c 5+2 1+6 74 d 10+c 65 4 2+9 1 3+4 6 1 1 1+3 1+a 2+3 5+4 4 11+28 32d+33",
   "716+e4 6+3 3+1 c+25 1 5 2+37 7 10+16 9+6 1+6 1+6 1+6 1+6 1+6 1+6 1+6 1+1f 2f 1d5+2 19+8 7+4",
   "2+4 4+55 6+2 1+59 1+3 5+2a 1+5d 11+1f 30+f 200+19bf 40+568c 43+2d 2+10c 3+f a+1 14+2e 5+7",
   "3+70 27+8 2+66 2+51 14+14 1+20 18+33 c+43 1 2c+5 3 1+2 a+20 5+22 d+1c 3+32 1+b f 10+f a+4",
   "1+36 9+d 12+16 3+44 1 1 18+2 2+f 2+3 b+5 2+5 2+5 9+6 1+6 1+2a 1+d 6+7a 15+2ba3 c+16 4+30",
   "2104+16d 2+69 26+6 c+4 5+b 1+c 1+4 1 1+1 1+1 1+6b 21+16a 12+3f 2+35 28+b 74+4 1+86 24+19",
   "6+19 b+58 3+5 2+5 2+5 2+2 23+b 1+19 1+12 1+1 1+e 2+d 22+7a 45+34 10b+1c 3+30 2f+1f d+1d",
   "5+2a 5+1d 2+23 4+7 1+4 2a+9d 12+23 4+23 4+27 8+33 c+a 1+e 1+6 1+1 1+a 1+e 1+6 1+1 3+33",
   "c+136 9+15 a+7 18+5 1+29 1+8 45+5 2 1+2b 1+1 3 2+16 a+16 9+1e 41+12 1+1 a+15 a+19 6+19",
   "26+37 6+1 40+3 1+1 5+7 1+2 1+1c 2a+1c 3+1c 23+7 1+1b 1b+35 a+15 a+12 d+11 6e+48 37+32 d+32",
   "d+27 22+1b 3 5+16 fa+29 1+1 3+1 10+5 32+2 3+1c a 8+15 2a+11 2e+14 1b+16 9+45 2b+4 a+38 9",
   "d+18 17+32 11+3 8+22 3 9+3f 1+3 9+1 a 1 23+11 1+21 2 6+3 3e+6 1 1+3 1+e 1+9 7+38 17+3 1+7",
   "2+1 2+15 1+6 1+1 1+4 3+7 2+1 2+1 3 6 5+6 1c+9 1 2 1+25 1+9 1 2 1+3 1+1 3 1 2c+41 1+2 1+3",
   "14+2 1e+41 2+1 1 b8+35 2+6 19+5 22+3e 1 3 3b+35 2 47+1a 2+d 15+6 b9+38 67+3f 1f+7 2 2+7 1+1",
   "1+1d 1+1 2+1 2+3 5d+7 2+2d 2+5 1 1+1 1b+32 2+9 11+47 5 12+48 67+7 58+20 1f+8 1+2c 1+6 1",
   "31+1d 2+15 1+d 49+6 1+1 1+2b 3 1+1 1+2 1 2+1 18+5 1+1 1+24 1+1 1+3 1 17+2b 104+16 9+10 1+28",
   "3+2 6f 4f+399 66+6e 11+c3 a4c+60 f+42f 11+5 19+f9a 5+246 1ab9+2e 6d1+238 7+1e 11+4e 11+1d",
   "12+2f 10+3 1f+14 5+12 1b0+2c d3+3f 20+18 2+18 2c+4a 4+38 7+10 40+1 1 c+6 9+1cd5 29+1f 61+72",
   "21fd+3 1+6 1+1 1+122 f 1d+2 2 e+3 8+18b 904+6a 5+c 3+8 7+9 4 1761+54 1+46 1+1 2 2+1 2+3 1+b",
   "1 1+6 1+40 1+3 2+7 1+6 1+1b 1+3 1+4 1 3+6 1+153 2+18 1+18 1+1e 1+18 1+1e 1+18 1+1e 1+18",
   "1+1e 1+18 1+7 734+1e 6+5 d5+6 1+10 2+6 1+1 1+4 5+3d 21 70+2c a+6 10 141+1d 12+2b 1e4+1b",
   "e4+1d 2 cf+1e 1+15 8+1 e0+6 1+3 1+1 1+e 1+c4 3b+43 3 3 4b4+3 1+1a 1+1 1 2 1+9 1+3 1 1 6 4 1",
   "1 1+2 1+1 1 2 1 1 1 1 1+1 1 2+3 1+6 1+3 1+3 1 1+9 1+10 5+2 1+4 1+10 274+19 6+19 6+19",
   "e76+a6df 20+111d 2+168d 2+1d30 f+26d 9a2+21d 5e2+134a 5+2129"]

/-- The runs of the numbers that are not alphabetic, packed. -/
def numbers : List String :=
  ["30+9 78+1 5 2+2 5a1+9 86+9 c6+9 19c+9 76+9 4+5 6c+9 76+9 76+9 2+5 6e+c 73+9 8+6 67+9 68+6",
   "7+12 6d+9 60+9 76+9 46+13 10c+9 46+9 2cf+13 371+2 ef+9 6+9 16+9 12c+9 80+a a5+9 6+9 b6+9",
   "56+9 86+9 6+9 416 3+5 6+9 c6+32 2+4 2d6+3b 4e+15 276+1d 569 309 19+8 e+2 157+3 8a+9 1e+7",
   "1+e 20+9 27+e 7360+9 bc+9 140+5 9a+9 26+9 c6+9 16+9 56+9 196+9 5316+9 1ed+2c c+38 11+1",
   "155+1a 24+3 1d 8 86+4 ca+9 3ae+7 19+6 27+8 4b+4 16+5 a0+1 2+f 2+2d 40+8 34+1 1e+2 4b+4 68+7",
   "18+7 29+6 14a+5 30+9 6+9 116+1e 9e+9 2a+3 70+6 86+1d 80+9 3c+9 90+9 7+13 fb+9 156+9 76+9",
   "176+9 66+9 6+13 4c+b 1a4+12 5d+9 296+9 56+1c e3+9 46+9 36+9 166+9 66+14 42b+6e 3cc1+9 926+9",
   "56+9 86+9 1+6 20e+9 106+16 15d+2 5cf9+9 5c6+13 c+13 6c+18 455+31 940+9 1a6+9 1f6+9 f7+9",
   "2cc+8 80+9 317+3a 1+2 1+3 4c+2c 1+e 3c2+c ae3+9"]

/-- A character with the property Alphabetic. -/
def isAlphabetic (c : Char) : Bool := (Runs.unpack alphabetic).has c

/-- An alphabetic character or one with a category of numbers. -/
def isAlphanumeric (c : Char) : Bool := isAlphabetic c || (Runs.unpack numbers).has c

end Letter

end KeyTrace
