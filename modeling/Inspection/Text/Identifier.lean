import Inspection.Text.Runs

/-!
# Characters of identifiers and words

Which characters may start or continue an identifier, and which belong to a word. Code points below
128 are decided by rule; the others by the Unicode properties `XID_Start`, `XID_Continue` and
`Alphabetic` or `Numeric` (version 14), kept as runs.
-/

namespace Inspection.Text

/-- The code points from 128 on that may start an identifier. -/
def identifierStarts : List Nat := numbers36
  ["4q 1 a 1 4 1 5 n 1 v 1 cq 4 c e 5 7 1 1 1 3l 5 1 2 3 3 1 1 6 1 1 3 1 1 1 k 1 2b 1 3v 8 4m 1",
    "12 2 1 6 15 1z r 4 4 19 17 z 2 1 2r 1 1 f 2 7 2 a 3 2 1 g 1 1 u t 2h b 1 o x 9 2 4 1 5 m 4 1",
    "9 1 3 1 n p 7 b 5 o 1 6 h 16 1m 1i 3 1 i 1 7 a f g 4 8 2 2 2 m 1 7 1 1 3 4 3 1 g 1 d 2 1 3 e",
    "2 a 1 8 6 4 2 2 m 1 7 1 2 1 2 1 2 v 4 1 1 j 3 g 9 1 3 1 m 1 7 1 2 1 5 3 1 i 1 f 2 n 1 b 8 2",
    "2 2 m 1 7 1 2 1 5 3 1 u 2 1 3 f 1 h 1 1 6 3 3 1 4 3 2 1 1 1 2 3 2 3 3 3 c m 1 1g 8 1 3 1 n 1",
    "g 3 1 q 3 2 1 2 2 u 1 4 8 1 3 1 n 1 a 1 5 3 1 v 2 1 2 f 2 h 9 1 3 1 15 2 1 g 1 5 3 8 3 o 6 5",
    "i 3 o 1 9 1 1 2 7 1m 1c 1 1 d 7 1m 2 1 1 1 5 1 o 1 1 1 a 1 1 a 1 2 5 1 1 l 4 w 1 1r 8 1 10 r",
    "5 37 17 k 1 g 6 4 4 3 1 3 2 7 3 4 d c 1 h 12 1 1 5 1 2 17 1 99 1 4 2 7 1 1 1 4 2 15 1 4 2 x",
    "1 4 2 7 1 1 1 4 2 f 1 1l 1 4 2 1v 11 g g 2e 2 6 3 h8 2 h 1 q 5 23 3 b 7 i d j e i e d 1 3 f",
    "1g z 1 4 1 1v 2h 7 15 1 1 5 1y a v 1d u 2 5 b 18 4 q 1i n 9 1h 2a 1 2l 1b h 8 1i u d 2 a 18",
    "q 10 15 3 a 10 2 9 7 17 2 3 15 4 1 6 1 2 3 1 5 5c 1s 7q 2 6 2 12 2 6 2 8 1 1 1 1 1 1 1 v 2",
    "1h 1 7 1 1 3 3 1 7 3 4 2 6 4 d 5 3 1 7 38 1 d 1 g d 2t 1 4 1 2 a 1 1 2 6 6 1 1 1 1 1 1 g 2 4",
    "5 5 4 1 h 15 22f 6d 6 4 3 2 c 12 1 1 5 1 2 1k 7 1 g n 9 7 1 7 1 7 1 7 1 7 1 7 1 7 1 7 fa 3 p",
    "9 7 5 2 5 4 2e 6 3 1 2i 1 4 5 17 1 2m h w 1c g e8 534 1s h3h 1v 1a 2 7h 3 g a 2 k 1b g v 2",
    "28 13 9 2 2v 2 1s 5 2 1 1 1 5 o g 1 3 1 4 1 n t 1g e 1e 1q 6 3 1 1 2 b s a n p t 7 1b s 1 g",
    "5 1 a a 5 1 15 n 3 1 8 k n 3 1 3 1e 1 1 3 2 2 5 2 1 1 1 o 3 2 b 7 3 c 6 2 6 2 6 9 7 1 7 1 17",
    "1 e 6 37 t 8mc c n 4 1d 6is a6 2 2y 12 7 c 5 5 1 1 a 1 d 1 5 1 1 1 2 1 2 1 30 x 3v 6 62 i 1s",
    "2 1i 14 a 3b 1 1 1 3 1 1 1 1 1 1 1 1 3i 10 q 6 q b 1k 2 v 3 6 2 6 2 6 2 3 z c 1 q 1 j 1 2 1",
    "f 2 e y 3f 1x 1h 7f t 3 1d 1b w d u 5 12 a u 2 10 4 8 1 5 16 4e i 10 4 10 4 14 8 1g c b 1 f",
    "1 7 1 2 1 b 1 f 1 7 1 2 1v 8n 9 m a 8 o 6 1 16 1 9 1x 6 2 1 1 18 1 2 3 1 2 n a n 9 v 1t j 1",
    "2 a m a q 1y 1k 6 2 1s 1 f 4 1 3 1 t 16 t 3 t z 8 1 s r 1i a m a j d i 32 21 1j 1f d 1f d 10",
    "9o 16 6 2 26 t a 1 8 m 16 i 1a l r n c 1h 1l 2 2 1 d 19 w p q 10 t 1 2 1 8 z 3 1 c 1c e 4 l",
    "1 1 1 z i 1 p 2c 7 1 1 1 4 1 f 1 a 7 1b 12 8 2 2 2 m 1 7 1 2 1 5 3 1 i 1 c 5 4e 1h i 4 k 3 u",
    "1c k 2 1 1 54 1b 15 4 10 1c k 1 1n 17 d 1 1z r 11 7 55 18 38 1s v 8 2 1 2 8 1 2 1 o f 1 1 1",
    "2m 8 2 13 g 1 1 1 s 1 a 14 7 1 l 1 b 1a j 1 i 21 7b 9 1 11 h 1 1d u 34 7 1 2 1 12 l 1 p 6 1",
    "2 1 w e 1 93 j 59 1 27 pm 2u 33 h 5g 218 2p f tr 34h g7 6nt ft 7 v h 27 h u i 1c g 4 v l 5 j",
    "j4 1s 3k 23 5 1 1u d 1s 2 1 1 s 4qg 8 ye 16 9 6w7 4 1 7 1 2 1 83 19 3 h 4 8 b0 1s4 2z 5 d 3",
    "9 7 a 4me 2d 1 1z 1 2 2 1 2 2 2 4 1 c 1 1 1 7 1 1t 1 4 2 8 1 7 1 s 1 4 1 5 1 1 3 7 1 9g 2 p",
    "1 p 1 v 1 p 1 v 1 p 1 v 1 p 1 v 1 p 1 8 1f8 v dd 19 a 7 g 1 8x u i 18 z8 7 1 4 1 2 1 f 1 5h",
    "1n 1w 7 1 xg 4 1 r 1 2 1 1 2 1 1 a 1 4 1 1 1 1 6 1 4 1 1 1 1 1 1 3 1 2 1 1 2 1 1 1 1 1 1 1 1",
    "1 1 2 1 1 2 4 1 7 1 4 1 4 1 1 1 a 1 h 5 3 1 5 1 h 3es wyo w 37d 7 66 2 4g2 e 5rl 2e7 f2 15u",
    "3t7"]

/-- The code points from 128 on that may continue an identifier. -/
def identifierParts : List Nat := numbers36
  ["4q 1 a 1 1 1 2 1 5 n 1 v 1 cq 4 c e 5 7 1 1 1 h 39 1 2 3 3 1 1 6 5 1 1 1 k 1 2b 1 3v 1 5 2",
    "4m 1 12 2 1 6 15 8 19 1 1 1 2 1 2 1 1 8 r 4 4 t b 5 22 4 2u 1 8 2 a 1 j 2 1 g 1n 2 2t e 1i 4",
    "1 2 1 2 1a i s 4 b 5 o 1 6 9 22 1 3l 2 a 1 j 1 8 2 2 2 m 1 7 1 1 3 4 2 9 2 2 2 4 8 1 4 2 1 5",
    "2 c a 1 1 1 2 3 1 6 4 2 2 m 1 7 1 2 1 2 1 2 2 1 1 5 4 2 2 3 3 1 7 4 1 1 7 g b 3 1 9 1 3 1 m",
    "1 7 1 2 1 5 2 a 1 3 1 3 2 1 f 4 2 a 9 7 1 3 1 8 2 2 2 m 1 7 1 2 1 5 2 9 2 2 2 3 7 3 4 2 1 5",
    "2 a 1 1 g 2 1 6 3 3 1 4 3 2 1 1 1 2 3 2 3 3 3 c 4 5 3 3 1 4 2 1 6 1 e a g d 1 3 1 n 1 g 2 9",
    "1 3 1 4 7 2 1 3 2 1 2 4 2 a g 4 1 8 1 3 1 n 1 a 1 5 2 9 1 3 1 4 7 2 6 2 1 4 2 a 1 2 d d 1 3",
    "1 1f 1 3 1 5 5 4 7 5 2 a a 6 1 3 1 i 3 o 1 9 1 1 2 7 3 1 4 6 1 1 1 8 6 a 2 2 d 1m 5 f 1 a 13",
    "2 1 1 1 5 1 o 1 1 1 n 2 5 1 1 1 6 2 a 2 4 w 1 n 2 6 a b 1 1 1 1 1 4 a 1 10 4 k 1 i 1 10 9 1",
    "1l 22 6 26 2 12 1 1 5 1 2 17 1 99 1 4 2 7 1 1 1 4 2 15 1 4 2 x 1 4 2 7 1 1 1 4 2 f 1 1l 1 4",
    "2 1v 2 3 9 9 e g g 2e 2 6 3 h8 2 h 1 q 5 23 3 b 7 m 9 m b k c d 1 3 1 2 c 2c 3 1 4 2 2 a x 3",
    "1 b 6 2h 7 17 5 1y a v 1 c 4 c a 14 2 5 b 18 4 q 6 b 11 s 4 1r 1 t 2 b 6 a d 1 8 e 1 g 1d 25",
    "3 a h 9 c 38 c 1k 8 a 3 1d 2 9 7 17 2 3 g 3 1 13 5 eu 2 6 2 12 2 6 2 8 1 1 1 1 1 1 1 v 2 1h",
    "1 7 1 1 3 3 1 7 3 4 2 6 4 d 5 3 1 7 1u 2 j 1 s 1 d 1 g d 1f d 4 1 3 c h 1 4 1 2 a 1 1 2 6 6",
    "1 1 1 1 1 1 g 2 4 5 5 4 1 h 15 22f 6d 6 9 c 12 1 1 5 1 2 1k 7 1 f o 9 7 1 7 1 7 1 7 1 7 1 7",
    "1 7 1 7 1 w ed 3 p f 1 5 2 5 4 2e 2 2 2 3 1 2i 1 4 5 17 1 2m h w 1c g e8 534 1s h3h 1v 1a 2",
    "7h 3 s k 1c 4 a 1 37 11 9 2 2v 2 1s 5 2 1 1 1 5 o 1i 4 1 j 1g c 1y a a 6 o 3 1 1 1d 2 10 c t",
    "3 1t e b 6 v 1 1j 9 e 2 a 6 n 3 21 o 3 2 g 2 5 a 6 2 6 2 6 9 7 1 7 1 17 1 e 6 3f 1 2 2 a 6",
    "8mc c n 4 1d 6is a6 2 2y 12 7 c 5 5 c 1 d 1 5 1 1 1 2 1 2 1 30 x 3v 6 62 i 1s 2 1i 14 a 6 g",
    "g g 3 2 o 3 x 1 1 1 3 1 1 1 1 1 1 1 1 3i j a 7 q 4 1 1 q b 2h 3 6 2 6 2 6 2 3 z c 1 q 1 j 1",
    "2 1 f 2 e y 3f 1x 1h 3s 1 3m t 3 1d f 1 v w d u 5 17 5 u 2 10 4 8 1 5 16 4e 2 a 6 10 4 10 4",
    "14 8 1g c b 1 f 1 7 1 2 1 b 1 f 1 7 1 2 1v 8n 9 m a 8 o 6 1 16 1 9 1x 6 2 1 1 18 1 2 3 1 2 n",
    "a n 9 v 1t j 1 2 a m a q 1y 1k 6 2 1s 4 1 2 5 8 1 3 1 t 2 3 4 1 w t 3 t z 8 1 u p 1i a m a j",
    "d i 32 21 1j 1f d 1f d 14 8 a 92 16 1 2 3 2 26 t a 1 8 x v m 16 l r n 9 1z v g 9 1o 7 1 d p",
    "7 a 6 1h 1 a 4 4 8 10 2 1 9 1x 4 4 1 d 1 1 z i 1 11 6 1 1t 7 1 1 1 4 1 f 1 a 7 1n 5 a 6 4 1",
    "8 2 2 2 m 1 7 1 2 1 5 1 a 2 2 2 3 2 1 6 1 5 7 2 7 3 5 3v 23 5 a 4 4 u 1y 1 1 8 a 4m 1i 2 9 n",
    "6 y 1t 3 1 b a 12 1l 7 a 1i r 2 f 4 a 6 7 55 1n 2t 22 l 8 2 1 2 8 1 2 1 u 1 2 2 9 c a 1y 8 2",
    "1a 2 8 1 2 r 1r 8 1 8 22 3 1 i 21 7b 9 1 19 1 9 f a o u 2 m 1 e 21 7 1 2 1 18 3 1 1 2 1 9 8",
    "a 6 6 1 2 1 11 1 2 1 6 7 a 8m n 55 1 27 pm 2u 33 h 5g 218 2p f tr 34h g7 6nt ft 7 v 1 a 6 27",
    "1 a 6 u 2 5 b 1j 9 4 c a 9 l 5 j j4 1s 3k 23 4 1l 7 h 1s 2 1 2 b 2 e 4qg 8 ye 16 9 6w7 4 1 7",
    "1 2 1 83 19 3 h 4 8 b0 1s4 2z 5 d 3 9 7 a 3 2 3mp 1a 2 n f2 5 3 6 8 8 2 7 u 4 44 3 cb 2d 1",
    "1z 1 2 2 1 2 2 2 4 1 c 1 1 1 7 1 1t 1 4 2 8 1 7 1 s 1 4 1 5 1 1 3 7 1 9g 2 p 1 p 1 v 1 p 1 v",
    "1 p 1 v 1 p 1 v 1 p 1 8 2 1e e8 1j 4 1e 8 1 e 1 m 5 1 f uo v 69 7 1 h 2 7 1 2 1 5 5x 19 3 e",
    "2 a 4 1 8x v h 1m yu 7 1 4 1 2 1 f 1 5h b 7 15 24 4 a x2 4 1 r 1 2 1 1 2 1 1 a 1 4 1 1 1 1 6",
    "1 4 1 1 1 1 1 1 3 1 2 1 1 2 1 1 1 1 1 1 1 1 1 1 2 1 1 2 4 1 7 1 4 1 4 1 1 1 a 1 h 5 3 1 5 1",
    "h 2lw a sm wyo w 37d 7 66 2 4g2 e 5rl 2e7 f2 15u 3t7 fcmt 6o"]

/-- The code points from 128 on that are letters or numerals. -/
def wordParts : List Nat := numbers36
  ["4q 1 7 2 1 1 3 2 1 3 1 n 1 v 1 cq 4 c e 5 7 1 1 1 3l 5 1 2 2 4 1 1 6 1 1 3 1 1 1 k 1 2b 1 3v",
    "8 4m 1 12 2 1 6 15 1z r 4 4 19 17 l a 4 2 1 2r 1 1 f 2 7 f 2 1 g 1 1 u t 2h b 1 e 17 9 2 4 1",
    "5 m 4 1 9 1 3 1 n p 7 b 5 o 1 6 h 16 1m 1i 3 1 i 1 7 a 4 a 1 g 4 8 2 2 2 m 1 7 1 1 3 4 3 1 g",
    "1 d 2 1 3 4 c 2 6 2 1 8 6 4 2 2 m 1 7 1 2 1 2 1 2 v 4 1 1 7 a 2 3 g 9 1 3 1 m 1 7 1 2 1 5 3",
    "1 i 1 f 2 4 a 9 1 b 8 2 2 2 m 1 7 1 2 1 5 3 1 u 2 1 3 4 a 1 7 b 1 1 6 3 3 1 4 3 2 1 1 1 2 3",
    "2 3 3 3 c m 1 l d i 8 1 3 1 n 1 g 3 1 q 3 2 1 2 2 4 a 8 7 1 1 4 8 1 3 1 n 1 a 1 5 3 1 v 2 1",
    "2 4 a 1 2 h 9 1 3 1 15 2 1 g 1 5 3 1 a 4 j 1 6 5 i 3 o 1 9 1 1 2 7 v a h 1c 1 2 c 7 9 a 13 2",
    "1 1 1 5 1 o 1 1 1 a 1 2 9 1 2 5 1 1 9 a 2 4 w 1 v k c 8 1 10 r 5 37 17 k b 6 6 4 4 3 1 3 2 7",
    "3 4 d c 1 1 a 6 12 1 1 5 1 2 17 1 99 1 4 2 7 1 1 1 4 2 15 1 4 2 x 1 4 2 7 1 1 1 4 2 f 1 1l 1",
    "4 2 1v e k 3 g g 2e 2 6 3 h8 2 h 1 q 5 23 3 b 7 i d j e i e d 1 3 f 1g z 1 4 1 3 a 6 a m a 6",
    "2h 7 5 2 y 1 1 5 1y a v 13 14 2 5 b 18 4 q 6 b 11 n 9 1h 17 a 6 a d 1 2l 1b h 8 3 a 15 u d",
    "1k q 10 s a 3 1d 2 9 7 17 2 3 15 4 1 6 1 2 3 1 5 5c 1s 7q 2 6 2 12 2 6 2 8 1 1 1 1 1 1 1 v 2",
    "1h 1 7 1 1 3 3 1 7 3 4 2 6 4 d 5 3 1 7 37 2 2 6 5 b 6 d 2t 1 4 1 2 a 1 1 3 5 6 1 1 1 1 1 1 4",
    "1 b 2 4 5 5 4 1 1 1m k6 1o 26 m hi u vg 6d 6 4 3 2 9 1 2 12 1 1 5 1 2 1k 7 1 g n 9 7 1 7 1 7",
    "1 7 1 7 1 7 1 7 1 7 28 1 d1 3 p 9 7 5 2 5 4 2e 6 3 1 2i 1 4 5 17 1 2m 3 4 a w 1c g w a u 8 1",
    "f w a 13 f 8w 534 1s h3h 1v 1a 2 7h 3 s k 1b g v 2 28 13 9 2 2v 2 1s 5 2 1 1 1 5 o g 1 3 1 4",
    "1 n d 6 a 1g e 1e s a o 6 3 1 1 2 1 12 a n p t 7 1b s b 6 5 1 p 1 15 n 3 1 8 4 a 6 n 3 1 3",
    "1e 1 1 3 2 2 5 2 1 1 1 o 3 2 b 7 3 c 6 2 6 2 6 9 7 1 7 1 17 1 e 6 37 d a 6 8mc c n 4 1d 6is",
    "a6 2 2y 12 7 c 5 5 1 1 a 1 d 1 5 1 1 1 2 1 2 1 30 x a3 i 1s 2 1i 14 c 38 5 1 3r j a 7 q 6 q",
    "b 2h 3 6 2 6 2 6 2 3 z c 1 q 1 j 1 2 1 f 2 e y 3f c 19 c 1l h 2 6s t 3 1d g r 4 10 9 u 5 12",
    "a u 2 10 4 8 1 5 16 4e 2 a 6 10 4 10 4 14 8 1g c b 1 f 1 7 1 2 1 b 1 f 1 7 1 2 1v 8n 9 m a 8",
    "o 6 1 16 1 9 1x 6 2 1 1 18 1 2 3 1 2 n 2 v 2 12 8 9 1c j 1 2 5 x 4 q 1y 1k 4 k 2 1b f 4 1 3",
    "1 t a 9 n v 1 w w 8 1 s 6 5 g 1i a m 2 r 5 q n 7 28 21 1j 1f d 1f 7 16 c a 86 v 1 16 6 2 26",
    "14 8 m b 4 r i 1a s k n c 1h q u 1 2 2 1 d 19 w p 7 a 9 10 f a 4 1 2 1 8 z 3 1 c 1c e 4 b b",
    "1 1 4 k b i 1 p 2c 7 1 1 1 4 1 f 1 a 7 1b h a b 8 2 2 2 m 1 7 1 2 1 5 3 1 i 1 c 5 4e 1h i 4",
    "5 a 5 3 u 1c k 2 1 1 8 a 4m 1b 15 4 10 1c k 1 b a 12 17 d 1 7 a 1i r l c 4 7 55 18 38 2b c 8",
    "2 1 2 8 1 2 1 o f 1 1 1 e a 1y 8 2 13 g 1 1 1 s 1 a 14 7 1 l 1 b 1a j 1 i 21 7b 9 1 11 h 1 f",
    "t 5 u 34 7 1 2 1 12 l 1 9 a 6 6 1 2 1 w e 1 7 a 8m j 59 1 f l 17 pm 2u 33 h 5g 218 2p f tr",
    "34h g7 6nt ft 7 v 1 a 6 27 1 a 6 u i 1c g 4 c a 1 7 1 l 5 j j4 2f 2x 23 5 1 1u d 1s 2 1 1 s",
    "4qg 8 ye 16 9 6w7 4 1 7 1 2 1 83 19 3 h 4 8 b0 1s4 2z 5 d 3 9 7 a 4ee k 30 p 3r 2d 1 1z 1 2",
    "2 1 2 2 2 4 1 c 1 1 1 7 1 1t 1 4 2 8 1 7 1 s 1 4 1 5 1 1 3 7 1 9g 2 p 1 p 1 v 1 p 1 v 1 p 1",
    "v 1 p 1 v 1 p 1 8 2 1e 1ds v dd 19 a 7 2 a 4 1 8x u i 18 4 a yu 7 1 4 1 2 1 f 1 5h 2 9 1c 1w",
    "7 1 4 a lz 1n 1 3 1 4 24 19 1 f 5e 4 1 r 1 2 1 1 2 1 1 a 1 4 1 1 1 1 6 1 4 1 1 1 1 1 1 3 1 2",
    "1 1 2 1 1 1 1 1 1 1 1 1 1 2 1 1 2 4 1 7 1 4 1 4 1 1 1 a 1 h 5 3 1 5 1 h g4 d 25f a sm wyo w",
    "37d 7 66 2 4g2 e 5rl 2e7 f2 15u 3t7"]

/-- An ASCII letter or the underscore. -/
def isAsciiStart (c : Char) : Bool := c.isAlpha || c == '_'

/-- An ASCII letter, digit or the underscore. -/
def isAsciiPart (c : Char) : Bool := c.isAlphanum || c == '_'

/-- Whether an identifier may start with the character. -/
def isIdentifierStart (c : Char) : Bool :=
  if c.toNat < 128 then isAsciiStart c else inRuns identifierStarts c.toNat

/-- Whether an identifier may go on with the character. -/
def isIdentifierPart (c : Char) : Bool :=
  if c.toNat < 128 then isAsciiPart c else inRuns identifierParts c.toNat

/-- Whether the character belongs to a word, so that no word ends or starts beside it. -/
def isWordPart (c : Char) : Bool :=
  if c.toNat < 128 then isAsciiPart c else inRuns wordParts c.toNat

/-- Whether the characters form an identifier. -/
def isIdentifier : List Char → Bool
  | [] => false
  | c :: cs => isIdentifierStart c && cs.all isIdentifierPart

theorem isIdentifierStart_of_ascii {c : Char} (h : c.toNat < 128) :
    isIdentifierStart c = isAsciiStart c := by
  simp [isIdentifierStart, h]

theorem isIdentifierPart_of_ascii {c : Char} (h : c.toNat < 128) :
    isIdentifierPart c = isAsciiPart c := by
  simp [isIdentifierPart, h]

theorem isWordPart_of_ascii {c : Char} (h : c.toNat < 128) : isWordPart c = isAsciiPart c := by
  simp [isWordPart, h]

end Inspection.Text
