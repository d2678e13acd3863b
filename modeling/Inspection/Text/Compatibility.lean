import Inspection.Text.Runs

/-!
# Compatibility composition

The Unicode normal form NFKC (version 14) of identifiers: every character is taken apart into its
compatibility parts, marks are put into canonical order, and pairs that have a composed character
are put together again. ASCII text is its own normal form.
-/

namespace Inspection.Text

/-- A run of characters that come apart: the `length` code points from `first` on. A run with one
part maps its members to consecutive code points from that part on; a longer one has one member. -/
structure Parts where
  first : Nat
  length : Nat
  parts : List Nat

/-- Reads runs written as the distance to the run before, the length, and the counted parts. -/
def readParts : Nat → Nat → List Nat → List Parts
  | fuel + 1, from', distance :: length :: count :: rest =>
    { first := from' + distance, length, parts := rest.take count } ::
      readParts fuel (from' + distance) (rest.drop count)
  | _, _, _ => []

/-- The characters of identifiers that come apart. -/
def partTable : List Parts :=
  let numbers := numbers36
    ["4q 1 1 2p b 1 1 qk 5 1 1 33 6 1 2 1t lc 1 1 2 1t ld 1 1 2 1t le 1 1 2 1t lf 1 1 2 1t lk 1 1",
    "2 1t lm 2 1 2 1v mf 1 1 2 1x lc 1 1 2 1x ld 1 1 2 1x le 1 1 2 1x lk 1 1 2 21 lc 1 1 2 21 ld",
    "1 1 2 21 le 1 1 2 21 lk 2 1 2 26 lf 1 1 2 27 lc 1 1 2 27 ld 1 1 2 27 le 1 1 2 27 lf 1 1 2 27",
    "lk 3 1 2 2d lc 1 1 2 2d ld 1 1 2 2d le 1 1 2 2d lk 1 1 2 2h ld 3 1 2 2p lc 1 1 2 2p ld 1 1 2",
    "2p le 1 1 2 2p lf 1 1 2 2p lk 1 1 2 2p lm 2 1 2 2r mf 1 1 2 2t lc 1 1 2 2t ld 1 1 2 2t le 1",
    "1 2 2t lk 1 1 2 2x lc 1 1 2 2x ld 1 1 2 2x le 1 1 2 2x lk 2 1 2 32 lf 1 1 2 33 lc 1 1 2 33",
    "ld 1 1 2 33 le 1 1 2 33 lf 1 1 2 33 lk 3 1 2 39 lc 1 1 2 39 ld 1 1 2 39 le 1 1 2 39 lk 1 1 2",
    "3d ld 2 1 2 3d lk 1 1 2 1t lg 1 1 2 2p lg 1 1 2 1t li 1 1 2 2p li 1 1 2 1t mg 1 1 2 2p mg 1",
    "1 2 1v ld 1 1 2 2r ld 1 1 2 1v le 1 1 2 2r le 1 1 2 1v lj 1 1 2 2r lj 1 1 2 1v lo 1 1 2 2r",
    "lo 1 1 2 1w lo 1 1 2 2s lo 3 1 2 1x lg 1 1 2 2t lg 1 1 2 1x li 1 1 2 2t li 1 1 2 1x lj 1 1 2",
    "2t lj 1 1 2 1x mg 1 1 2 2t mg 1 1 2 1x lo 1 1 2 2t lo 1 1 2 1z le 1 1 2 2v le 1 1 2 1z li 1",
    "1 2 2v li 1 1 2 1z lj 1 1 2 2v lj 1 1 2 1z mf 1 1 2 2v mf 1 1 2 20 le 1 1 2 2w le 3 1 2 21",
    "lf 1 1 2 2x lf 1 1 2 21 lg 1 1 2 2x lg 1 1 2 21 li 1 1 2 2x li 1 1 2 21 mg 1 1 2 2x mg 1 1 2",
    "21 lj 2 1 2 21 22 1 1 2 2x 2y 1 1 2 22 le 1 1 2 2y le 1 1 2 23 mf 1 1 2 2z mf 2 1 2 24 ld 1",
    "1 2 30 ld 1 1 2 24 mf 1 1 2 30 mf 1 1 2 24 lo 1 1 2 30 lo 1 1 2 24 53 1 1 2 30 53 3 1 2 26",
    "ld 1 1 2 32 ld 1 1 2 26 mf 1 1 2 32 mf 1 1 2 26 lo 1 1 2 32 lo 1 1 2 jg 32 3 1 2 27 lg 1 1 2",
    "33 lg 1 1 2 27 li 1 1 2 33 li 1 1 2 27 ln 1 1 2 33 ln 3 1 2 2a ld 1 1 2 36 ld 1 1 2 2a mf 1",
    "1 2 36 mf 1 1 2 2a lo 1 1 2 36 lo 1 1 2 2b ld 1 1 2 37 ld 1 1 2 2b le 1 1 2 37 le 1 1 2 2b",
    "mf 1 1 2 37 mf 1 1 2 2b lo 1 1 2 37 lo 1 1 2 2c mf 1 1 2 38 mf 1 1 2 2c lo 1 1 2 38 lo 3 1 2",
    "2d lf 1 1 2 39 lf 1 1 2 2d lg 1 1 2 39 lg 1 1 2 2d li 1 1 2 39 li 1 1 2 2d lm 1 1 2 39 lm 1",
    "1 2 2d ln 1 1 2 39 ln 1 1 2 2d mg 1 1 2 39 mg 1 1 2 2f le 1 1 2 3b le 1 1 2 2h le 1 1 2 3d",
    "le 1 1 2 2h lk 1 1 2 2i ld 1 1 2 3e ld 1 1 2 2i lj 1 1 2 3e lj 1 1 2 2i lo 1 1 2 3e lo 1 1 1",
    "37 x 1 2 27 m3 1 1 2 33 m3 e 1 2 2d m3 1 1 2 39 m3 k 1 3 1w 2i lo 1 1 3 1w 3e lo 1 1 3 2s 3e",
    "lo 1 1 2 24 22 1 1 2 24 2y 1 1 2 30 2y 1 1 2 26 22 1 1 2 26 2y 1 1 2 32 2y 1 1 2 1t lo 1 1 2",
    "2p lo 1 1 2 21 lo 1 1 2 2x lo 1 1 2 27 lo 1 1 2 33 lo 1 1 2 2d lo 1 1 2 39 lo 1 1 3 2d lk lg",
    "1 1 3 39 lk lg 1 1 3 2d lk ld 1 1 3 39 lk ld 1 1 3 2d lk lo 1 1 3 39 lk lo 1 1 3 2d lk lc 1",
    "1 3 39 lk lc 2 1 3 1t lk lg 1 1 3 2p lk lg 1 1 3 1t lj lg 1 1 3 2p lj lg 1 1 2 5i lg 1 1 2",
    "6e lg 3 1 2 1z lo 1 1 2 2v lo 1 1 2 23 lo 1 1 2 2z lo 1 1 2 27 mg 1 1 2 33 mg 1 1 3 27 mg lg",
    "1 1 3 33 mg lg 1 1 2 c7 lo 1 1 2 ia lo 1 1 2 2y lo 1 1 2 1w 2i 1 1 2 1w 3e 1 1 2 2s 3e 1 1 2",
    "1z ld 1 1 2 2v ld 3 1 2 26 lc 1 1 2 32 lc 1 1 3 1t lm ld 1 1 3 2p lm ld 1 1 2 5i ld 1 1 2 6e",
    "ld 1 1 2 60 ld 1 1 2 6w ld 1 1 2 1t lr 1 1 2 2p lr 1 1 2 1t lt 1 1 2 2p lt 1 1 2 1x lr 1 1 2",
    "2t lr 1 1 2 1x lt 1 1 2 2t lt 1 1 2 21 lr 1 1 2 2x lr 1 1 2 21 lt 1 1 2 2x lt 1 1 2 27 lr 1",
    "1 2 33 lr 1 1 2 27 lt 1 1 2 33 lt 1 1 2 2a lr 1 1 2 36 lr 1 1 2 2a lt 1 1 2 36 lt 1 1 2 2d",
    "lr 1 1 2 39 lr 1 1 2 2d lt 1 1 2 39 lt 1 1 2 2b me 1 1 2 37 me 1 1 2 2c me 1 1 2 38 me 3 1 2",
    "20 lo 1 1 2 2w lo 7 1 2 1t lj 1 1 2 2p lj 1 1 2 1x mf 1 1 2 2t mf 1 1 3 27 lk lg 1 1 3 33 lk",
    "lg 1 1 3 27 lf lg 1 1 3 33 lf lg 1 1 2 27 lj 1 1 2 33 lj 1 1 3 27 lj lg 1 1 3 33 lj lg 1 1 2",
    "2h lg 1 1 2 3d lg 3h 1 1 2w 1 1 1 h2 1 1 1 2y 1 1 1 36 1 1 1 hl 1 1 1 hn 1 1 1 ht 1 1 1 3b 1",
    "1 1 3d 14 1 1 gz 1 1 1 30 1 1 1 37 1 1 1 3c 1 1 1 id 2k 2 1 lc 3 1 1 lv 1 1 2 lk ld 1c 1 1",
    "jd i 1 2 pd ld 1 1 1 53 1 1 2 ph ld 1 1 2 pj ld 1 1 2 pl ld 2 1 2 pr ld 2 1 2 px ld 1 1 2 q1",
    "ld 1 1 3 qh lk ld q 1 2 pl lk 1 1 2 px lk 1 1 2 q9 ld 1 1 2 qd ld 1 1 2 qf ld 1 1 2 qh ld 1",
    "1 3 qt lk ld q 1 2 qh lk 1 1 2 qt lk 1 1 2 qn ld 1 1 2 qt ld 1 1 2 qx ld 2 1 1 qa 1 1 1 qg 1",
    "1 1 px 1 1 2 px ld 1 1 2 px lk 1 1 1 qu 1 1 1 qo q 1 1 qi 1 2 1 qp 3 1 1 pk 1 1 1 qd 4 1 1",
    "pv 7 1 2 t1 lc 1 1 2 t1 lk 2 1 2 sz ld 4 1 2 sm lk 5 1 2 t6 ld 1 1 2 t4 lc 1 1 2 tf li b 1 2",
    "t4 li w 1 2 u0 li n 1 2 tx lc 1 1 2 tx lk 2 1 2 tv ld 4 1 2 uu lk 5 1 2 u2 ld 1 1 2 u0 lc 1",
    "1 2 ub li o 1 2 vo lr 1 1 2 vp lr 22 1 2 t2 li 1 1 2 ty li e 1 2 sw li 1 1 2 ts li 1 1 2 sw",
    "lk 1 1 2 ts lk 3 1 2 t1 li 1 1 2 tx li 3 1 2 yg lk 1 1 2 yh lk 1 1 2 t2 lk 1 1 2 ty lk 1 1 2",
    "t3 lk 1 1 2 tz lk 3 1 2 t4 lg 1 1 2 u0 lg 1 1 2 t4 lk 1 1 2 u0 lk 1 1 2 ta lk 1 1 2 u6 lk 3",
    "1 2 yw lk 1 1 2 yx lk 1 1 2 tp lk 1 1 2 ul lk 1 1 2 tf lg 1 1 2 ub lg 1 1 2 tf lk 1 1 2 ub",
    "lk 1 1 2 tf ln 1 1 2 ub ln 1 1 2 tj lk 1 1 2 uf lk 3 1 2 tn lk 1 1 2 uj lk 3y 1 2 12d 136 4b",
    "1 2 17r 18z 1 1 2 17r 190 1 1 2 18o 190 1 1 2 17r 191 1 1 2 18q 190 27 1 2 17r 19w 1 1 2 18o",
    "19w 1 1 2 1c7 19w 1 1 2 18q 19w 20 1 2 1cl 190 2 1 2 1c1 190 h 1 2 1ci 190 gm 1 2 1t4 1to 8",
    "1 2 1tc 1to 3 1 2 1tf 1to 10 1 2 1sl 1to 1 1 2 1sm 1to 1 1 2 1sn 1to 1 1 2 1ss 1to 1 1 2 1sx",
    "1to 1 1 2 1sy 1to 1 1 2 1t7 1to 1 1 2 1tb 1to 30 1 2 1xj 1xa 1 1 2 1xj 1xz g 1 2 1wh 1x8 1 1",
    "2 1wi 1x8 2 1 2 1wv 1x8 2c 1 2 20i 20s 3 1 2 20o 20s z 1 2 1zq 20s 1 1 2 1zr 20s 1 1 2 1zw",
    "20s 3 1 2 20b 20s 6i 1 2 287 28m 3 1 2 287 27y 1 1 2 287 28n g 1 2 275 27w 1 1 2 276 27w 1j",
    "1 2 2aa 2c7 1i 1 2 2bq 2bi 1 1 2 2br 2bi 1 1 2 2bq 2c7 3g 1 2 2fa 2fq 3c 1 2 2in 2j9 7 1 2",
    "2iu 2j9 1 1 2 2iu 2ja 2 1 2 2iu 2iq 1 1 3 2iu 2iq 2j9 3j 1 2 2me 2m6 1 1 2 2mf 2m6 1 1 2 2me",
    "2mv 3y 1 2 2qh 2q2 2 1 2 2qh 2q7 1 1 3 2qh 2q7 2q2 1 1 2 2qh 2qn 2d 1 2 2tp 2sy 3k 1 2 2x9",
    "2wi 15 1 2 2wb 2vt 1 1 2 2wb 2w1 2u 1 2 30i 33r a 1 2 30s 33r 5 1 2 30x 33r 5 1 2 312 33r 5",
    "1 2 317 33r d 1 2 30g 33p a 1 2 31t 31u 2 1 2 31t 31w 1 1 2 33m 328 1 1 3 33m 31t 328 1 1 2",
    "33n 328 1 1 3 33n 31t 328 8 1 2 31t 328 i 1 2 32q 33r a 1 2 330 33r 5 1 2 335 33r 5 1 2 33a",
    "33r 5 1 2 33f 33r d 1 2 32o 33p 31 1 2 36t 372 5y 1 1 3bw 1ze 1 2 5c5 5dh 2 1 2 5c7 5dh 2 1",
    "2 5c9 5dh 2 1 2 5cb 5dh 2 1 2 5cd 5dh 4 1 2 5ch 5dh 15 1 2 5dm 5dh 2 1 2 5do 5dh 3 1 2 5dq",
    "5dh 1 1 2 5dr 5dh 2 1 2 5du 5dh dl 1 1 1t 1 1 1 5i 1 1 1 1u 2 2 1 1w 2 1 1 b2 1 8 1 1z 9 1 1",
    "27 1 1 1 f6 1 1 1 28 1 1 1 2a 1 2 1 2c 2 1 1 2f 1 1 1 2p 1 2 1 gg 2 1 1 5qa 1 1 1 2q 1 2 1",
    "2s 2 1 1 gp 1 2 1 gr 2 1 1 2v 2 1 1 2z 1 1 1 31 1 1 1 97 1 1 1 33 1 1 1 gk 1 2 1 5qu 2 1 1",
    "34 1 2 1 38 2 1 1 5r1 1 1 1 hb 1 1 1 3a 1 1 1 5r9 1 3 1 qa 3 2 1 qu 2 1 1 2x 1 1 1 36 1 2 1",
    "39 2 2 1 qa 2 1 1 qp 1 2 1 qu f 1 1 u5 z 1 1 gi 1 1 1 2r 1 1 1 gl 1 1 1 6o 1 1 1 gs 1 1 1 2u",
    "1 1 1 gv 1 1 1 gx 1 1 1 h1 1 3 1 h4 3 1 1 5tn 1 1 1 il 1 1 1 h9 1 1 1 5tx 1 1 1 in 1 1 1 hd",
    "1 1 1 hc 1 4 1 he 4 1 1 hk 1 2 1 hu 2 1 1 bv 1 2 1 i1 2 1 1 5r0 1 2 1 i3 2 1 1 3e 1 3 1 i8 3",
    "1 1 qg 1t 1 2 1t md 1 1 2 2p md 1 1 2 1u lj 1 1 2 2q lj 1 1 2 1u mb 1 1 2 2q mb 1 1 2 1u mp",
    "1 1 2 2q mp 1 1 3 1v mf ld 1 1 3 2r mf ld 1 1 2 1w lj 1 1 2 2s lj 1 1 2 1w mb 1 1 2 2s mb 1",
    "1 2 1w mp 1 1 2 2s mp 1 1 2 1w mf 1 1 2 2s mf 1 1 2 1w ml 1 1 2 2s ml 1 1 3 1x lg lc 1 1 3",
    "2t lg lc 1 1 3 1x lg ld 1 1 3 2t lg ld 1 1 2 1x ml 1 1 2 2t ml 1 1 2 1x mo 1 1 2 2t mo 1 1 3",
    "1x mf li 1 1 3 2t mf li 1 1 2 1y lj 1 1 2 2u lj 1 1 2 1z lg 1 1 2 2v lg 1 1 2 20 lj 1 1 2 2w",
    "lj 1 1 2 20 mb 1 1 2 2w mb 1 1 2 20 lk 1 1 2 2w lk 1 1 2 20 mf 1 1 2 2w mf 1 1 2 20 mm 1 1 2",
    "2w mm 1 1 2 21 mo 1 1 2 2x mo 1 1 3 21 lk ld 1 1 3 2x lk ld 1 1 2 23 ld 1 1 2 2z ld 1 1 2 23",
    "mb 1 1 2 2z mb 1 1 2 23 mp 1 1 2 2z mp 1 1 2 24 mb 1 1 2 30 mb 1 1 3 24 mb lg 1 1 3 30 mb lg",
    "1 1 2 24 mp 1 1 2 30 mp 1 1 2 24 ml 1 1 2 30 ml 1 1 2 25 ld 1 1 2 31 ld 1 1 2 25 lj 1 1 2 31",
    "lj 1 1 2 25 mb 1 1 2 31 mb 1 1 2 26 lj 1 1 2 32 lj 1 1 2 26 mb 1 1 2 32 mb 1 1 2 26 mp 1 1 2",
    "32 mp 1 1 2 26 ml 1 1 2 32 ml 1 1 3 27 lf ld 1 1 3 33 lf ld 1 1 3 27 lf lk 1 1 3 33 lf lk 1",
    "1 3 27 lg lc 1 1 3 33 lg lc 1 1 3 27 lg ld 1 1 3 33 lg ld 1 1 2 28 ld 1 1 2 34 ld 1 1 2 28",
    "lj 1 1 2 34 lj 1 1 2 2a lj 1 1 2 36 lj 1 1 2 2a mb 1 1 2 36 mb 1 1 3 2a mb lg 1 1 3 36 mb lg",
    "1 1 2 2a mp 1 1 2 36 mp 1 1 2 2b lj 1 1 2 37 lj 1 1 2 2b mb 1 1 2 37 mb 1 1 3 2b ld lj 1 1 3",
    "37 ld lj 1 1 3 2b lo lj 1 1 3 37 lo lj 1 1 3 2b mb lj 1 1 3 37 mb lj 1 1 2 2c lj 1 1 2 38 lj",
    "1 1 2 2c mb 1 1 2 38 mb 1 1 2 2c mp 1 1 2 38 mp 1 1 2 2c ml 1 1 2 38 ml 1 1 2 2d mc 1 1 2 39",
    "mc 1 1 2 2d mo 1 1 2 39 mo 1 1 2 2d ml 1 1 2 39 ml 1 1 3 2d lf ld 1 1 3 39 lf ld 1 1 3 2d lg",
    "lk 1 1 3 39 lg lk 1 1 2 2e lf 1 1 2 3a lf 1 1 2 2e mb 1 1 2 3a mb 1 1 2 2f lc 1 1 2 3b lc 1",
    "1 2 2f ld 1 1 2 3b ld 1 1 2 2f lk 1 1 2 3b lk 1 1 2 2f lj 1 1 2 3b lj 1 1 2 2f mb 1 1 2 3b",
    "mb 1 1 2 2g lj 1 1 2 3c lj 1 1 2 2g lk 1 1 2 3c lk 1 1 2 2h lj 1 1 2 3d lj 1 1 2 2i le 1 1 2",
    "3e le 1 1 2 2i mb 1 1 2 3e mb 1 1 2 2i mp 1 1 2 3e mp 1 1 2 2w mp 1 1 2 38 lk 1 1 2 3b lm 1",
    "1 2 3d lm 1 1 2 2p ji 1 1 2 37 lj 5 1 2 1t mb 1 1 2 2p mb 1 1 2 1t ll 1 1 2 2p ll 1 1 3 1t",
    "le ld 1 1 3 2p le ld 1 1 3 1t le lc 1 1 3 2p le lc 1 1 3 1t le ll 1 1 3 2p le ll 1 1 3 1t le",
    "lf 1 1 3 2p le lf 1 1 3 1t mb le 1 1 3 2p mb le 1 1 3 1t li ld 1 1 3 2p li ld 1 1 3 1t li lc",
    "1 1 3 2p li lc 1 1 3 1t li ll 1 1 3 2p li ll 1 1 3 1t li lf 1 1 3 2p li lf 1 1 3 1t mb li 1",
    "1 3 2p mb li 1 1 2 1x mb 1 1 2 2t mb 1 1 2 1x ll 1 1 2 2t ll 1 1 2 1x lf 1 1 2 2t lf 1 1 3",
    "1x le ld 1 1 3 2t le ld 1 1 3 1x le lc 1 1 3 2t le lc 1 1 3 1x le ll 1 1 3 2t le ll 1 1 3 1x",
    "le lf 1 1 3 2t le lf 1 1 3 1x mb le 1 1 3 2t mb le 1 1 2 21 ll 1 1 2 2x ll 1 1 2 21 mb 1 1 2",
    "2x mb 1 1 2 27 mb 1 1 2 33 mb 1 1 2 27 ll 1 1 2 33 ll 1 1 3 27 le ld 1 1 3 33 le ld 1 1 3 27",
    "le lc 1 1 3 33 le lc 1 1 3 27 le ll 1 1 3 33 le ll 1 1 3 27 le lf 1 1 3 33 le lf 1 1 3 27 mb",
    "le 1 1 3 33 mb le 1 1 3 27 m3 ld 1 1 3 33 m3 ld 1 1 3 27 m3 lc 1 1 3 33 m3 lc 1 1 3 27 m3 ll",
    "1 1 3 33 m3 ll 1 1 3 27 m3 lf 1 1 3 33 m3 lf 1 1 3 27 m3 mb 1 1 3 33 m3 mb 1 1 2 2d mb 1 1 2",
    "39 mb 1 1 2 2d ll 1 1 2 39 ll 1 1 3 2d m3 ld 1 1 3 39 m3 ld 1 1 3 2d m3 lc 1 1 3 39 m3 lc 1",
    "1 3 2d m3 ll 1 1 3 39 m3 ll 1 1 3 2d m3 lf 1 1 3 39 m3 lf 1 1 3 2d m3 mb 1 1 3 39 m3 mb 1 1",
    "2 2h lc 1 1 2 3d lc 1 1 2 2h mb 1 1 2 3d mb 1 1 2 2h ll 1 1 2 3d ll 1 1 2 2h lf 1 1 2 3d lf",
    "7 1 2 q9 lv 1 1 2 q9 lw 1 1 3 q9 lv lc 1 1 3 q9 lw lc 1 1 3 q9 lv ld 1 1 3 q9 lw ld 1 1 3 q9",
    "lv n6 1 1 3 q9 lw n6 1 1 2 pd lv 1 1 2 pd lw 1 1 3 pd lv lc 1 1 3 pd lw lc 1 1 3 pd lv ld 1",
    "1 3 pd lw ld 1 1 3 pd lv n6 1 1 3 pd lw n6 1 1 2 qd lv 1 1 2 qd lw 1 1 3 qd lv lc 1 1 3 qd",
    "lw lc 1 1 3 qd lv ld 1 1 3 qd lw ld 3 1 2 ph lv 1 1 2 ph lw 1 1 3 ph lv lc 1 1 3 ph lw lc 1",
    "1 3 ph lv ld 1 1 3 ph lw ld 3 1 2 qf lv 1 1 2 qf lw 1 1 3 qf lv lc 1 1 3 qf lw lc 1 1 3 qf",
    "lv ld 1 1 3 qf lw ld 1 1 3 qf lv n6 1 1 3 qf lw n6 1 1 2 pj lv 1 1 2 pj lw 1 1 3 pj lv lc 1",
    "1 3 pj lw lc 1 1 3 pj lv ld 1 1 3 pj lw ld 1 1 3 pj lv n6 1 1 3 pj lw n6 1 1 2 qh lv 1 1 2",
    "qh lw 1 1 3 qh lv lc 1 1 3 qh lw lc 1 1 3 qh lv ld 1 1 3 qh lw ld 1 1 3 qh lv n6 1 1 3 qh lw",
    "n6 1 1 2 pl lv 1 1 2 pl lw 1 1 3 pl lv lc 1 1 3 pl lw lc 1 1 3 pl lv ld 1 1 3 pl lw ld 1 1 3",
    "pl lv n6 1 1 3 pl lw n6 1 1 2 qn lv 1 1 2 qn lw 1 1 3 qn lv lc 1 1 3 qn lw lc 1 1 3 qn lv ld",
    "1 1 3 qn lw ld 3 1 2 pr lv 1 1 2 pr lw 1 1 3 pr lv lc 1 1 3 pr lw lc 1 1 3 pr lv ld 1 1 3 pr",
    "lw ld 3 1 2 qt lv 1 1 2 qt lw 1 1 3 qt lv lc 1 1 3 qt lw lc 1 1 3 qt lv ld 1 1 3 qt lw ld 1",
    "1 3 qt lv n6 1 1 3 qt lw n6 2 1 2 px lw 2 1 3 px lw lc 2 1 3 px lw ld 2 1 3 px lw n6 1 1 2",
    "qx lv 1 1 2 qx lw 1 1 3 qx lv lc 1 1 3 qx lw lc 1 1 3 qx lv ld 1 1 3 qx lw ld 1 1 3 qx lv n6",
    "1 1 3 qx lw n6 1 1 2 q1 lv 1 1 2 q1 lw 1 1 3 q1 lv lc 1 1 3 q1 lw lc 1 1 3 q1 lv ld 1 1 3 q1",
    "lw ld 1 1 3 q1 lv n6 1 1 3 q1 lw n6 1 1 2 q9 lc 1 1 2 q9 ld 1 1 2 qd lc 1 1 2 qd ld 1 1 2 qf",
    "lc 1 1 2 qf ld 1 1 2 qh lc 1 1 2 qh ld 1 1 2 qn lc 1 1 2 qn ld 1 1 2 qt lc 1 1 2 qt ld 1 1 2",
    "qx lc 1 1 2 qx ld 3 1 3 q9 lv n9 1 1 3 q9 lw n9 1 1 4 q9 lv lc n9 1 1 4 q9 lw lc n9 1 1 4 q9",
    "lv ld n9 1 1 4 q9 lw ld n9 1 1 4 q9 lv n6 n9 1 1 4 q9 lw n6 n9 1 1 3 pd lv n9 1 1 3 pd lw n9",
    "1 1 4 pd lv lc n9 1 1 4 pd lw lc n9 1 1 4 pd lv ld n9 1 1 4 pd lw ld n9 1 1 4 pd lv n6 n9 1",
    "1 4 pd lw n6 n9 1 1 3 qf lv n9 1 1 3 qf lw n9 1 1 4 qf lv lc n9 1 1 4 qf lw lc n9 1 1 4 qf",
    "lv ld n9 1 1 4 qf lw ld n9 1 1 4 qf lv n6 n9 1 1 4 qf lw n6 n9 1 1 3 pj lv n9 1 1 3 pj lw n9",
    "1 1 4 pj lv lc n9 1 1 4 pj lw lc n9 1 1 4 pj lv ld n9 1 1 4 pj lw ld n9 1 1 4 pj lv n6 n9 1",
    "1 4 pj lw n6 n9 1 1 3 qx lv n9 1 1 3 qx lw n9 1 1 4 qx lv lc n9 1 1 4 qx lw lc n9 1 1 4 qx",
    "lv ld n9 1 1 4 qx lw ld n9 1 1 4 qx lv n6 n9 1 1 4 qx lw n6 n9 1 1 3 q1 lv n9 1 1 3 q1 lw n9",
    "1 1 4 q1 lv lc n9 1 1 4 q1 lw lc n9 1 1 4 q1 lv ld n9 1 1 4 q1 lw ld n9 1 1 4 q1 lv n6 n9 1",
    "1 4 q1 lw n6 n9 1 1 2 q9 li 1 1 2 q9 lg 1 1 3 q9 lc n9 1 1 2 q9 n9 1 1 3 q9 ld n9 2 1 2 q9",
    "n6 1 1 3 q9 n6 n9 1 1 2 pd li 1 1 2 pd lg 1 1 2 pd lc 1 1 2 pd ld 1 1 2 pd n9 2 1 1 qh 4 1 3",
    "qf lc n9 1 1 2 qf n9 1 1 3 qf ld n9 2 1 2 qf n6 1 1 3 qf n6 n9 1 1 2 ph lc 1 1 2 ph ld 1 1 2",
    "pj lc 1 1 2 pj ld 1 1 2 pj n9 4 1 2 qh li 1 1 2 qh lg 1 1 3 qh lk lc 1 1 3 qh lk ld 3 1 2 qh",
    "n6 1 1 3 qh lk n6 1 1 2 pl li 1 1 2 pl lg 1 1 2 pl lc 1 1 2 pl ld 5 1 2 qt li 1 1 2 qt lg 1",
    "1 3 qt lk lc 1 1 3 qt lk ld 1 1 2 qp lv 1 1 2 qp lw 1 1 2 qt n6 1 1 3 qt lk n6 1 1 2 px li 1",
    "1 2 px lg 1 1 2 px lc 1 1 2 px ld 1 1 2 pt lw 6 1 3 qx lc n9 1 1 2 qx n9 1 1 3 qx ld n9 2 1",
    "2 qx n6 1 1 3 qx n6 n9 1 1 2 pr lc 1 1 2 pr ld 1 1 2 q1 lc 1 1 2 q1 ld 1 1 2 q1 n9 39 1 1 2x",
    "e 1 1 32 h 1 1 2p 1 1 1 2t 1 1 1 33 1 1 1 3c 1 1 1 gp 1 1 1 2w 1 4 1 2z 4 1 1 34 1 2 1 37 2v",
    "1 1 1v 5 1 1 b4 3 1 1 2v 1 1 1 20 1 1 1 20 1 1 1 20 1 1 1 2w 1 1 1 87 1 1 1 21 1 1 1 21 1 1",
    "1 24 1 1 1 30 2 1 1 26 4 3 1 28 3 1 1 2a 1 1 1 2a 7 1 1 2i 2 1 1 q1 2 1 1 2i 2 1 1 23 1 1 2",
    "1t lm 1 2 1 1u 3 1 1 2t 1 2 1 1x 3 1 1 25 1 1 1 33 1 4 1 15c 4 1 1 2x 3 1 1 qo 1 1 1 qb 1 1",
    "1 pf 1 1 1 ps 6 1 1 1w 1 2 1 2s 2 2 1 2x o 1 1 21 1 1 2 21 21 1 1 3 21 21 21 1 1 2 21 2e 1 1",
    "1 2e 1 1 2 2e 21 1 1 3 2e 21 21 1 1 4 2e 21 21 21 1 1 2 21 2g 1 1 1 2g 1 1 2 2g 21 1 1 3 2g",
    "21 21 1 1 1 24 1 2 1 1v 2 1 1 25 1 1 1 2x 1 1 2 2x 2x 1 1 3 2x 2x 2x 1 1 2 2x 3a 1 1 1 3a 1",
    "1 2 3a 2x 1 1 3 3a 2x 2x 1 1 4 3a 2x 2x 2x 1 1 2 2x 3c 1 1 1 3c 1 1 2 3c 2x 1 1 3 3c 2x 2x 1",
    "1 1 30 1 2 1 2r 2 1 1 31 265 1 1 2y 1 1 1 2e 6q 1 1 8yp jt 1 1 gg1 1 2 1 gg4 j 1 2 9jf 9ll 2",
    "1 2 9jh 9ll 2 1 2 9jj 9ll 2 1 2 9jl 9ll 2 1 2 9jn 9ll 2 1 2 9jp 9ll 2 1 2 9jr 9ll 2 1 2 9jt",
    "9ll 2 1 2 9jv 9ll 2 1 2 9jx 9ll 2 1 2 9jz 9ll 2 1 2 9k1 9ll 3 1 2 9k4 9ll 2 1 2 9k6 9ll 2 1",
    "2 9k8 9ll 7 1 2 9kf 9ll 1 1 2 9kf 9lm 2 1 2 9ki 9ll 1 1 2 9ki 9lm 2 1 2 9kl 9ll 1 1 2 9kl",
    "9lm 2 1 2 9ko 9ll 1 1 2 9ko 9lm 2 1 2 9kr 9ll 1 1 2 9kr 9lm n 1 2 9ja 9ll a 1 2 9lp 9ll 1 1",
    "2 9l4 9l6 d 1 2 9m3 9ll 2 1 2 9m5 9ll 2 1 2 9m7 9ll 2 1 2 9m9 9ll 2 1 2 9mb 9ll 2 1 2 9md",
    "9ll 2 1 2 9mf 9ll 2 1 2 9mh 9ll 2 1 2 9mj 9ll 2 1 2 9ml 9ll 2 1 2 9mn 9ll 2 1 2 9mp 9ll 3 1",
    "2 9ms 9ll 2 1 2 9mu 9ll 2 1 2 9mw 9ll 7 1 2 9n3 9ll 1 1 2 9n3 9lm 2 1 2 9n6 9ll 1 1 2 9n6",
    "9lm 2 1 2 9n9 9ll 1 1 2 9n9 9lm 2 1 2 9nc 9ll 1 1 2 9nc 9lm 2 1 2 9nf 9ll 1 1 2 9nf 9lm n 1",
    "2 9ly 9ll 3 1 2 9nz 9ll 1 1 2 9o0 9ll 1 1 2 9o1 9ll 1 1 2 9o2 9ll 4 1 2 9od 9ll 1 1 2 9mb",
    "9mw 1e 2 1 3cw 2 1 1 3hm 1 1 1 3cy 1 2 1 3ho 2 3 1 3cz 3 6 1 3hs 6 1 1 3dm 1 3 1 3d2 3 1 1",
    "3dt 1 a 1 3d5 a l 1 3fl l 1 1 3fk 1 2 1 3dg 2 2 1 3if 2 1 1 3ik 1 1 1 3im 1 1 1 3ir 1 1 1",
    "3iv 1 1 1 3ix 1 1 1 3do 1 1 1 3j1 1 1 1 3j3 1 2 1 3dp 2 1 1 3ds 1 2 1 3du 2 1 1 3dz 1 1 1",
    "3e1 1 5 1 3e3 5 1 1 3ea 1 1 1 3ee 1 1 1 3eo 1 1 1 3ev 1 1 1 3f0 1 2 1 3jl 2 3 1 3fb 3 2 1",
    "3gk 2 1 1 3go 1 2 1 3gx 2 1 1 3h0 1 1 1 3ha 1 1 1 3hd n4e 1 1 ui 1 1 1 uk 5v 1 1 x2n 3m 1 1",
    "1v 1 1 1 1y 1 1 1 29 4 1 1 86 1 1 1 9f o3 1 1 x0n 1 1 1 xtj 1 1 1 h7 1 1 1 xua a 1 1 i5 fbr",
    "1 1 rpk 1 1 1 kc4 1 1 1 s7e 1 1 1 rt4 1 1 1 lw1 1 1 1 fg2 1 1 1 gkl 1 1 1 vj0 1 1 1 vj0 1 1",
    "1 hn5 1 1 1 ssx 1 1 1 gw7 1 1 1 hmw 1 1 1 jcm 1 1 1 ne1 1 1 1 p6t 1 1 1 qin 1 1 1 qt6 1 1 1",
    "r20 1 1 1 sjz 1 1 1 kxu 1 1 1 ljv 1 1 1 mah 1 1 1 mvy 1 1 1 q4d 1 1 1 sq2 1 1 1 uep 1 1 1",
    "fia 1 1 1 ghh 1 1 1 l50 1 1 1 mjf 1 1 1 qi5 1 1 1 v8e 1 1 1 ifk 1 1 1 m3v 1 1 1 qfh 1 1 1",
    "r50 1 1 1 jih 1 1 1 pnc 1 1 1 qvz 1 1 1 iq2 1 1 1 kd3 1 1 1 lm2 1 1 1 mpo 1 1 1 slq 1 1 1",
    "fpi 1 1 1 g53 1 1 1 gda 1 1 1 jwk 1 1 1 l3n 1 1 1 mj4 1 1 1 nhj 1 1 1 pa9 1 1 1 qh2 1 1 1",
    "qjg 1 1 1 s1b 1 1 1 tv6 1 1 1 upb 1 1 1 v7e 1 1 1 nt8 1 1 1 nzz 1 1 1 otc 1 1 1 q15 1 1 1",
    "t1g 1 1 1 vb3 1 1 1 rfa 1 1 1 hjz 1 1 1 iro 1 1 1 okg 1 1 1 pdq 1 1 1 mle 1 1 1 nuy 1 1 1",
    "rsy 1 1 1 ttj 1 1 1 hjs 1 1 1 i8y 1 1 1 kyb 1 1 1 lp6 1 1 1 lxr 1 1 1 oq7 1 1 1 oxj 1 1 1",
    "tor 1 1 1 gcy 1 1 1 pe3 1 1 1 g64 1 1 1 g5o 1 1 1 o4c 1 1 1 ou6 1 1 1 q29 1 1 1 tpx 1 1 1",
    "rk0 1 1 1 jin 1 1 1 kxu 1 1 1 rge 1 1 1 fg9 1 1 1 i5j 1 1 1 iz6 1 1 1 mtj 1 1 1 n74 1 1 1",
    "gev 1 1 1 nwb 1 1 1 fr3 1 1 1 iw9 1 1 1 ff1 1 1 1 lho 1 1 1 k1k 1 1 1 opu 1 1 1 gjn 1 1 1",
    "hge 1 1 1 ni9 1 1 1 q4p 1 1 1 re2 1 1 1 la2 1 1 1 sds 1 1 1 lfs 1 1 1 jjy 1 1 1 put 1 1 1",
    "jog 1 1 1 n6t 1 1 1 fji 1 1 1 g2x 1 1 1 g5l 1 1 1 kn5 1 1 1 oo7 1 1 1 prj 1 1 1 rf6 1 1 1",
    "ssv 1 1 1 gdx 1 1 1 gn6 1 1 1 ho3 1 1 1 ir0 1 1 1 k3p 1 1 1 m4e 1 1 1 nxm 1 1 1 tkd 1 1 1",
    "ui2 1 1 1 vbr 1 1 1 vda 1 1 1 gbf 1 1 1 kau 1 1 1 l87 1 1 1 sbm 1 1 1 ino 1 1 1 j9s 1 1 1",
    "jcw 1 1 1 jve 1 1 1 lyb 1 1 1 mdl 1 1 1 n0p 1 1 1 o22 1 1 1 ovo 1 1 1 pdb 1 1 1 s9y 1 1 1",
    "q9a 1 1 1 sgz 1 1 1 t3e 1 1 1 g7r 1 1 1 gbn 1 1 1 gql 1 1 1 ma0 1 1 1 r0i 1 1 1 re2 1 1 1",
    "iq1 1 1 1 iyd 1 1 1 jnf 1 1 1 l9q 1 1 1 oji 1 1 1 mt1 1 1 1 fl0 1 1 1 h6h 1 1 1 i5j 1 1 1",
    "iii 1 1 1 izg 1 1 1 muq 1 1 1 mzt 1 1 1 p7e 1 1 1 pc6 1 1 1 svo 1 1 1 tti 1 1 1 tvs 1 1 1",
    "u1k 1 1 1 fpn 1 1 1 o1a 1 1 1 ss4 1 1 1 trs 1 1 1 j4x 1 1 1 fie 1 1 1 fyy 1 1 1 i5q 1 1 1",
    "i7z 1 1 1 k2h 1 1 1 kxu 1 1 1 mha 1 1 1 ncy 1 1 1 q9o 1 1 1 sjg 1 1 1 vil 1 1 1 k94 1 1 1",
    "tny 1 1 1 gax 1 1 1 kfv 1 1 1 kj7 1 1 1 lkx 1 1 1 luk 1 1 1 mx5 1 1 1 n6h 1 1 1 nsb 1 1 1",
    "opc 1 1 1 u3i 1 1 1 g31 1 1 1 je6 1 1 1 tq0 1 1 1 fu3 1 1 1 ie1 1 1 1 lpm 1 1 1 sa2 1 1 1",
    "ivf 1 1 1 j7o 1 1 1 kk7 1 1 1 mtj 1 1 1 tqe 1 1 1 g89 1 1 1 glr 1 1 1 i91 1 1 1 k5v 1 1 1",
    "kem 1 1 1 ko8 1 1 1 lid 1 1 1 mx2 1 1 1 naa 1 1 1 p6h 1 1 1 r0v 1 1 1 r1d 1 1 1 sss 1 1 1",
    "tsy 1 1 1 gfz 1 1 1 lve 1 1 1 gm5 1 1 1 mhc 1 1 1 n14 1 1 1 qgq 1 1 1 tr7 1 1 1 uvr 1 1 1",
    "vbz 1 1 1 kgn 1 1 1 lor 1 1 1 pns 1 1 1 o97 1 1 1 obk 1 1 1 olu 1 1 1 mo0 1 1 1 m8p 1 1 1",
    "riw 1 1 1 fk0 1 1 1 px2 1 1 1 g8q 1 1 1 g7b 1 1 1 ip2 1 1 1 jir 1 1 1 onq 1 1 1 i2t 1 1 1",
    "ljy 1 1 1 kac 1 1 1 saj 1 1 1 qx8 1 1 1 tot 1 1 1 r63 1 1 1 iqb 1 1 1 g1s 1 1 1 gxs 3 1 1",
    "hga 2 1 1 k8k 3 1 1 g66 1 1 1 mqy 1 1 1 ngq 1 1 1 ny4 1 1 1 nz2 1 1 1 nz9 1 1 1 o0f 1 1 1",
    "tw6 1 1 1 on2 1 1 1 p8d 2 1 1 qhe 2 1 1 rg8 3 1 1 shk 1 1 1 sn1 4 1 1 u7j 1 1 1 u7w 1 1 1",
    "u94 1 1 1 v5g 1 1 1 sm6 1 1 1 trr 1 1 1 fqm 1 1 1 fzb 1 1 1 g25 1 1 1 gcp 1 1 1 gdg 1 1 1",
    "ggh 1 1 1 gwt 1 1 1 gzq 1 1 1 h2g 1 1 1 hfk 1 1 1 hig 1 1 1 i90 1 1 1 i9a 1 1 1 j2s 1 1 1",
    "j8o 1 1 1 j9q 1 1 1 jci 1 1 1 k0f 1 1 1 k4i 1 1 1 k9d 1 1 1 kn9 1 1 1 lmf 1 1 1 lqy 1 1 1",
    "lya 1 1 1 mem 1 1 1 mjv 1 1 1 mxu 1 1 1 ntd 1 1 1 ny6 1 1 1 nyh 1 1 1 nyg 1 1 1 nyo 1 1 1",
    "nyu 1 1 1 nz1 1 2 1 o0d 2 1 1 o5c 1 1 1 o75 1 1 1 og0 1 1 1 ovo 1 1 1 ow9 1 1 1 oxt 1 1 1",
    "p6a 1 1 1 pad 1 1 1 pnx 1 1 1 prt 1 1 1 prt 1 1 1 q53 1 1 1 r2o 1 1 1 r6e 1 1 1 rgh 1 1 1",
    "ri1 1 1 1 rtf 1 1 1 ruw 1 1 1 sdy 1 1 1 shk 1 1 1 tsz 1 1 1 u0v 1 1 1 u2j 1 1 1 j1x 1 1 1",
    "36cu 1 1 1 pp4 3 1 1 ffq 1 1 1 g51 1 1 1 g2w 1 1 1 fpc 1 1 1 g1x 1 1 1 g3k 1 1 1 gcn 1 1 1",
    "ge2 1 1 1 gwt 1 1 1 gut 1 1 1 gwp 1 1 1 gyq 1 1 1 hga 1 1 1 hir 1 1 1 hms 1 1 1 hn8 1 1 1",
    "huq 1 1 1 i08 1 1 1 iqa 1 1 1 iqh 1 1 1 iuh 1 1 1 iwd 1 1 1 j4o 1 1 1 j7y 1 1 1 j60 1 1 1",
    "j9q 1 1 1 j8g 1 1 1 jci 1 1 1 jec 1 1 1 jpg 1 1 1 jrw 1 1 1 jte 1 1 1 k0m 1 1 1 k8k 1 1 1",
    "kd3 1 1 1 kd7 1 1 1 keu 1 1 1 l89 1 1 1 la2 1 1 1 lkx 1 1 1 lwb 1 1 1 lvv 1 1 1 lya 1 1 1",
    "m5a 1 1 1 mem 1 1 1 nmv 1 1 1 mk5 1 1 1 mnj 1 1 1 mqy 1 1 1 n01 1 1 1 n46 1 1 1 n5n 1 1 1",
    "nbx 1 1 1 nbz 1 1 1 ngq 1 1 1 nh7 1 1 1 nhw 1 1 1 nka 1 1 1 nk0 1 1 1 nv0 1 1 1 o8h 1 1 1",
    "og0 1 1 1 ol7 1 1 1 orf 1 1 1 ovo 1 1 1 p4u 1 1 1 pad 1 1 1 pxu 1 1 1 q27 1 1 1 qrd 1 1 1",
    "r41 1 1 1 r5y 1 1 1 r6e 1 1 1 ren 1 1 1 rg8 1 1 1 rez 1 1 1 rgh 1 1 1 rge 1 1 1 rfx 1 1 1",
    "ri1 1 1 1 rka 1 1 1 ruw 1 1 1 sag 1 1 1 sj6 1 1 1 srd 1 1 1 sxi 1 1 1 tq4 1 1 1 tsz 1 1 1",
    "tw6 1 1 1 tzv 1 1 1 u0v 1 1 1 u17 1 1 1 u2j 1 1 1 umq 1 1 1 vj0 1 1 1 313e 1 1 1 3138 1 1 1",
    "33dh 1 1 1 brx 1 1 1 cns 1 1 1 cop 1 1 1 39e1 1 1 1 3bgw 1 1 1 3i6r 1 1 1 vgj 1 1 1 vim 13 1",
    "2 2u 2u 1 1 2 2u 2x 1 1 2 2u 30 1 1 3 2u 2u 2x 1 1 3 2u 2u 30 1 1 2 37 38 1 1 2 37 38 d 1 2",
    "12s 12u 1 1 2 12s 12d 1 1 2 12s 12j 1 1 2 132 12u 1 1 2 12s 12l 6 1 2 15l 14k 2 1 2 16a 14n",
    "1 1 1 15u 1 1 1 15c 1 2 1 15f 2 3 1 15n 3 1 1 160 1 1 1 162 2 1 2 161 14x 1 1 2 161 14y 1 1",
    "3 161 14s 14x 1 1 3 161 14s 14y 1 1 2 15c 14n 1 1 2 15c 14o 1 1 2 15c 14s 1 1 2 15d 14s 1 1",
    "2 15e 14s 1 1 2 15f 14s 1 1 2 15g 14s 1 1 2 15h 14s 1 1 2 15i 14s 2 1 2 15k 14s 1 1 2 15l",
    "14s 1 1 2 15m 14s 1 1 2 15n 14s 1 1 2 15o 14s 2 1 2 15q 14s 2 1 2 15s 14s 1 1 2 15t 14s 2 1",
    "2 15v 14s 1 1 2 15w 14s 2 1 2 15y 14s 1 1 2 15z 14s 1 1 2 160 14s 1 1 2 161 14s 1 1 2 162",
    "14s 1 1 2 15h 14p 1 1 2 15d 14v 1 1 2 15n 14v 1 1 2 15w 14v 1 1 2 15c 15o 1 1 1 19t 1 1 1",
    "19t 1 1 1 1a3 1 1 1 1a3 1 1 1 1a3 1 1 1 1a3 1 1 1 1a6 1 1 1 1a6 1 1 1 1a6 1 1 1 1a6 1 1 1",
    "1a8 1 1 1 1a8 1 1 1 1a8 1 1 1 1a8 1 1 1 1a2 1 1 1 1a2 1 1 1 1a2 1 1 1 1a2 1 1 1 1a7 1 1 1",
    "1a7 1 1 1 1a7 1 1 1 1a7 1 1 1 1a1 1 1 1 1a1 1 1 1 1a1 1 1 1 1a1 1 1 1 1b8 1 1 1 1b8 1 1 1",
    "1b8 1 1 1 1b8 1 1 1 1ba 1 1 1 1ba 1 1 1 1ba 1 1 1 1ba 1 1 1 1ac 1 1 1 1ac 1 1 1 1ac 1 1 1",
    "1ac 1 1 1 1ab 1 1 1 1ab 1 1 1 1ab 1 1 1 1ab 1 1 1 1ae 1 1 1 1ae 1 1 1 1ae 1 2 1 1ae 2 1 1",
    "1af 1 1 1 1af 1 1 1 1af 1 1 1 1al 1 1 1 1al 1 1 1 1ak 1 1 1 1ak 1 1 1 1am 1 1 1 1am 1 1 1",
    "1ag 1 1 1 1ag 1 1 1 1aw 1 1 1 1aw 1 1 1 1ap 1 1 1 1ap 1 1 1 1bd 1 1 1 1bd 1 1 1 1bd 1 1 1",
    "1bd 1 1 1 1bj 1 1 1 1bj 1 1 1 1bj 1 1 1 1bj 1 1 1 1bn 1 1 1 1bn 1 1 1 1bn 1 1 1 1bn 1 1 1",
    "1bl 1 1 1 1bl 1 1 1 1bl 1 1 1 1bl 1 1 1 1bu 1 2 1 1bu 2 1 1 1bv 1 1 1 1bv 1 1 1 1bv 1 1 2",
    "1cl 190 1 1 2 1cl 190 1 1 1 1c1 1 1 1 1c1 1 1 1 1c1 1 1 1 1c1 1 1 1 1by 1 1 1 1by 1 1 1 1by",
    "1 1 1 1by 1 1 1 1ci 1 1 1 1ci 1 1 2 1ci 190 1 1 2 1ci 190 y 1 1 1bh 1 1 1 1bh 1 1 1 1bh 1 1",
    "1 1bh 1 1 1 1c7 1 1 1 1c7 1 1 1 1c6 1 1 1 1c6 1 1 1 1c8 1 1 1 1c8 1 1 2 1c7 19w 1 1 1 1cb 1",
    "1 1 1cb 1 1 1 1c5 1 1 1 1c5 1 1 1 1c9 1 1 1 1c9 1 1 1 1cg 1 1 1 1cg 1 1 1 1cg 1 1 1 1cg 1 1",
    "1 18p 1 1 1 18p 1 1 3 18q 190 17r 1 1 3 18q 190 17r 1 1 3 18q 190 1cl 1 1 3 18q 190 1cl 1 1",
    "3 18q 190 18o 1 1 3 18q 190 18o 1 1 3 18q 190 1c7 1 1 3 18q 190 1c7 1 1 3 18q 190 1c6 1 1 3",
    "18q 190 1c6 1 1 3 18q 190 1c8 1 1 3 18q 190 1c8 1 1 3 18q 190 1cg 1 1 3 18q 190 1cg 1 1 3",
    "18q 190 1cg 1 1 3 18q 190 18p 1 1 3 18q 190 18p 1 1 3 18q 190 18p 1 1 1 1cc 1 1 1 1cc 1 1 1",
    "1cc 1 1 1 1cc 1 1 3 18q 190 17w 1 1 3 18q 190 17x 1 1 3 18q 190 18l 1 1 3 18q 190 18p 1 1 3",
    "18q 190 18q 1 1 2 17s 17w 1 1 2 17s 17x 1 1 2 17s 17y 1 1 2 17s 18l 1 1 2 17s 18p 1 1 2 17s",
    "18q 1 1 2 17u 17w 1 1 2 17u 17x 1 1 2 17u 17y 1 1 2 17u 18l 1 1 2 17u 18p 1 1 2 17u 18q 1 1",
    "2 17v 17w 1 1 2 17v 18l 1 1 2 17v 18p 1 1 2 17v 18q 1 1 2 17w 17x 1 1 2 17w 18l 1 1 2 17x",
    "17w 1 1 2 17x 18l 1 1 2 17y 17w 1 1 2 17y 17x 1 1 2 17y 18l 1 1 2 183 17w 1 1 2 183 17x 1 1",
    "2 183 17y 1 1 2 183 18l 1 1 2 185 17x 1 1 2 185 18l 1 1 2 186 17w 1 1 2 186 17x 1 1 2 186",
    "17y 1 1 2 186 18l 1 1 2 187 17x 1 1 2 187 18l 1 1 2 188 18l 1 1 2 189 17w 1 1 2 189 18l 1 1",
    "2 18a 17w 1 1 2 18a 18l 1 1 2 18h 17w 1 1 2 18h 17x 1 1 2 18h 17y 1 1 2 18h 18l 1 1 2 18h",
    "18p 1 1 2 18h 18q 1 1 2 18i 17x 1 1 2 18i 18l 1 1 2 18i 18p 1 1 2 18i 18q 1 1 2 18j 17r 1 1",
    "2 18j 17w 1 1 2 18j 17x 1 1 2 18j 17y 1 1 2 18j 18k 1 1 2 18j 18l 1 1 2 18j 18p 1 1 2 18j",
    "18q 1 1 2 18k 17w 1 1 2 18k 17x 1 1 2 18k 17y 1 1 2 18k 18l 1 1 2 18k 18p 1 1 2 18k 18q 1 1",
    "2 18l 17w 1 1 2 18l 17x 1 1 2 18l 17y 1 1 2 18l 18l 1 1 2 18l 18p 1 1 2 18l 18q 1 1 2 18m",
    "17w 1 1 2 18m 17x 1 1 2 18m 17y 1 1 2 18m 18l 1 1 2 18m 18p 1 1 2 18m 18q 1 1 2 18n 17w 1 1",
    "2 18n 18l 1 1 2 18n 18p 1 1 2 18n 18q 1 1 2 18q 17w 1 1 2 18q 17x 1 1 2 18q 17y 1 1 2 18q",
    "18l 1 1 2 18q 18p 1 1 2 18q 18q 1 1 2 180 19s 1 1 2 181 19s 1 1 2 18p 19s 7 1 3 18q 190 181",
    "1 1 3 18q 190 182 1 1 3 18q 190 18l 1 1 3 18q 190 18m 1 1 3 18q 190 18p 1 1 3 18q 190 18q 1",
    "1 2 17s 181 1 1 2 17s 182 1 1 2 17s 18l 1 1 2 17s 18m 1 1 2 17s 18p 1 1 2 17s 18q 1 1 2 17u",
    "181 1 1 2 17u 182 1 1 2 17u 18l 1 1 2 17u 18m 1 1 2 17u 18p 1 1 2 17u 18q 1 1 2 17v 181 1 1",
    "2 17v 182 1 1 2 17v 18l 1 1 2 17v 18m 1 1 2 17v 18p 1 1 2 17v 18q 1 1 2 18h 18p 1 1 2 18h",
    "18q 1 1 2 18i 18p 1 1 2 18i 18q 1 1 2 18j 17r 1 1 2 18j 18k 1 1 2 18j 18l 1 1 2 18j 18p 1 1",
    "2 18j 18q 1 1 2 18k 18l 1 1 2 18k 18p 1 1 2 18k 18q 1 1 2 18l 17r 1 1 2 18l 18l 1 1 2 18m",
    "181 1 1 2 18m 182 1 1 2 18m 18l 1 1 2 18m 18m 1 1 2 18m 18p 1 1 2 18m 18q 1 1 2 18p 19s 1 1",
    "2 18q 181 1 1 2 18q 182 1 1 2 18q 18l 1 1 2 18q 18m 1 1 2 18q 18p 1 1 2 18q 18q 1 1 3 18q",
    "190 17w 1 1 3 18q 190 17x 1 1 3 18q 190 17y 1 1 3 18q 190 18l 1 1 3 18q 190 18n 1 1 2 17s",
    "17w 1 1 2 17s 17x 1 1 2 17s 17y 1 1 2 17s 18l 1 1 2 17s 18n 1 1 2 17u 17w 1 1 2 17u 17x 1 1",
    "2 17u 17y 1 1 2 17u 18l 1 1 2 17u 18n 1 1 2 17v 18l 1 1 2 17w 17x 1 1 2 17w 18l 1 1 2 17x",
    "17w 1 1 2 17x 18l 1 1 2 17y 17w 1 1 2 17y 18l 1 1 2 183 17w 1 1 2 183 17x 1 1 2 183 17y 1 1",
    "2 183 18l 1 1 2 185 17x 1 1 2 185 17y 1 1 2 185 18l 1 1 2 186 17w 1 1 2 186 17x 1 1 2 186",
    "17y 1 1 2 186 18l 1 1 2 187 17x 1 1 2 188 18l 1 1 2 189 17w 1 1 2 189 18l 1 1 2 18a 17w 1 1",
    "2 18a 18l 1 1 2 18h 17w 1 1 2 18h 17x 1 1 2 18h 17y 1 1 2 18h 18l 1 1 2 18i 17x 1 1 2 18i",
    "18l 1 1 2 18j 17w 1 1 2 18j 17x 1 1 2 18j 17y 1 1 2 18j 18k 1 1 2 18j 18l 1 1 2 18k 17w 1 1",
    "2 18k 17x 1 1 2 18k 17y 1 1 2 18k 18l 1 1 2 18k 18n 1 1 2 18l 17w 1 1 2 18l 17x 1 1 2 18l",
    "17y 1 1 2 18l 18l 1 1 2 18m 17w 1 1 2 18m 17x 1 1 2 18m 17y 1 1 2 18m 18l 1 1 2 18m 18n 1 1",
    "2 18n 17w 1 1 2 18n 18l 1 1 2 18n 19s 1 1 2 18q 17w 1 1 2 18q 17x 1 1 2 18q 17y 1 1 2 18q",
    "18l 1 1 2 18q 18n 1 1 3 18q 190 18l 1 1 3 18q 190 18n 1 1 2 17s 18l 1 1 2 17s 18n 1 1 2 17u",
    "18l 1 1 2 17u 18n 1 1 2 17v 18l 1 1 2 17v 18n 1 1 2 183 18l 1 1 2 183 18n 1 1 2 184 18l 1 1",
    "2 184 18n 1 1 2 18j 18k 1 1 2 18j 18l 1 1 2 18k 18l 1 1 2 18m 18l 1 1 2 18m 18n 1 1 2 18q",
    "18l 1 1 2 18q 18n 1 1 3 18g 18u 18x 1 1 3 18g 18v 18x 1 1 3 18g 18w 18x 1 1 2 187 18p 1 1 2",
    "187 18q 1 1 2 189 18p 1 1 2 189 18q 1 1 2 18a 18p 1 1 2 18a 18q 1 1 2 183 18p 1 1 2 183 18q",
    "1 1 2 184 18p 1 1 2 184 18q 1 1 2 17x 18p 1 1 2 17x 18q 1 1 2 17w 18p 1 1 2 17w 18q 1 1 2",
    "17y 18p 1 1 2 17y 18q 1 1 2 185 18p 1 1 2 185 18q 1 1 2 186 18p 1 1 2 186 18q 1 1 2 184 17w",
    "1 1 2 184 17x 1 1 2 184 17y 1 1 2 184 18l 1 1 2 184 181 1 1 2 183 181 1 1 2 185 181 1 1 2",
    "186 181 1 1 2 187 18p 1 1 2 187 18q 1 1 2 189 18p 1 1 2 189 18q 1 1 2 18a 18p 1 1 2 18a 18q",
    "1 1 2 183 18p 1 1 2 183 18q 1 1 2 184 18p 1 1 2 184 18q 1 1 2 17x 18p 1 1 2 17x 18q 1 1 2",
    "17w 18p 1 1 2 17w 18q 1 1 2 17y 18p 1 1 2 17y 18q 1 1 2 185 18p 1 1 2 185 18q 1 1 2 186 18p",
    "1 1 2 186 18q 1 1 2 184 17w 1 1 2 184 17x 1 1 2 184 17y 1 1 2 184 18l 1 1 2 184 181 1 1 2",
    "183 181 1 1 2 185 181 1 1 2 186 181 1 1 2 184 17w 1 1 2 184 17x 1 1 2 184 17y 1 1 2 184 18l",
    "1 1 2 183 18n 1 1 2 184 18n 1 1 2 187 18l 1 1 2 183 17w 1 1 2 183 17x 1 1 2 183 17y 1 1 2",
    "184 17w 1 1 2 184 17x 1 1 2 184 17y 1 1 2 187 18l 1 1 2 188 18l 1 1 2 17r 18r 1 1 2 17r 18r",
    "j 1 3 17u 17w 18l 1 1 3 17u 17x 17w 1 1 3 17u 17x 17w 1 1 3 17u 17x 18l 1 1 3 17u 17y 18l 1",
    "1 3 17u 18l 17w 1 1 3 17u 18l 17x 1 1 3 17u 18l 17y 1 1 3 17w 18l 17x 1 1 3 17w 18l 17x 1 1",
    "3 17x 18l 18q 1 1 3 17x 18l 18p 1 1 3 183 17x 17w 1 1 3 183 17w 17x 1 1 3 183 17w 18p 1 1 3",
    "183 18l 17x 1 1 3 183 18l 17x 1 1 3 183 18l 17w 1 1 3 183 18l 18l 1 1 3 183 18l 18l 1 1 3",
    "185 17x 17x 1 1 3 185 17x 17x 1 1 3 185 18l 18l 1 1 3 184 17x 18l 1 1 3 184 17x 18l 1 1 3",
    "184 17w 18q 1 1 3 184 18l 17y 1 1 3 184 18l 17y 1 1 3 184 18l 18l 1 1 3 184 18l 18l 1 1 3",
    "186 17x 18p 1 1 3 186 17y 18l 1 1 3 186 17y 18l 1 1 3 187 18l 17x 1 1 3 187 18l 17x 1 1 3",
    "187 18l 18l 1 1 3 187 18l 18q 1 1 3 189 17w 18l 1 1 3 189 18l 18l 1 1 3 189 18l 18l 1 1 3",
    "189 18l 18p 1 1 3 18a 18l 18l 1 1 3 18a 18l 18q 1 1 3 18a 18l 18p 1 1 3 18h 17y 18l 1 1 3",
    "18h 17y 18l 1 1 3 18i 18l 17x 1 1 3 18i 18l 18l 1 1 3 18k 17x 18l 1 1 3 18k 17x 18q 1 1 3",
    "18k 17x 18p 1 1 3 18k 17w 17w 1 1 3 18k 17w 17w 1 1 3 18k 17y 18l 1 1 3 18k 17y 18l 1 1 3",
    "18k 18l 17x 1 1 3 18k 18l 17x 1 1 3 18l 17x 17w 1 1 3 18l 17x 18l 1 1 3 18l 17x 18q 1 1 3",
    "18l 17w 17x 1 1 3 18l 17w 18l 1 1 3 18l 17y 17w 1 1 3 18l 17y 18l 3 1 3 18l 17w 17y 1 1 3",
    "18n 18l 17w 1 1 3 18n 18l 18l 1 1 3 18m 17x 18l 1 1 3 18m 17x 18p 1 1 3 18m 17w 18l 1 1 3",
    "18m 17w 18l 1 1 3 18m 17w 18p 1 1 3 18m 18l 18q 1 1 3 18m 18l 18p 1 1 3 18q 18l 18l 1 1 3",
    "18q 18l 18l 1 1 3 17s 17y 18q 1 1 3 17u 17w 18q 1 1 3 17u 17w 18p 1 1 3 17u 17y 18q 1 1 3",
    "17u 17y 18p 1 1 3 17u 18l 18q 1 1 3 17u 18l 18p 1 1 3 17w 18l 18q 1 1 3 17w 17x 18p 1 1 3",
    "17w 18l 18p 1 1 3 183 17y 18p 1 1 3 185 17x 18q 1 1 3 184 17x 18q 1 1 3 186 17x 18q 1 1 3",
    "18k 17w 18q 1 1 3 18k 18l 18q 1 1 3 18q 17x 18q 1 1 3 18q 17w 18q 1 1 3 18q 18l 18q 1 1 3",
    "18l 18l 18q 1 1 3 18i 18l 18q 1 1 3 18m 17x 18q 1 1 3 18i 18l 17x 1 1 3 18k 17x 18l 1 1 3",
    "189 18l 18q 1 1 3 18j 18l 18q 1 1 3 18m 17w 17x 1 1 3 18l 17y 18q 1 1 3 18k 17w 18l 1 1 3",
    "18j 18l 18l 1 1 3 18k 17w 18l 1 1 3 18m 17w 17x 1 1 3 17w 17x 18q 1 1 3 17x 17w 18q 1 1 3",
    "18l 17w 18q 1 1 3 18h 18l 18q 1 1 3 17s 17x 18q 1 1 3 18j 18l 18l 1 1 3 189 17w 18l 1 1 3",
    "185 18l 18l 1 1 3 183 17y 18q 1 1 3 18m 17w 18q 15 1 3 185 18k 1ci 1 1 3 18i 18k 1ci 1 1 4",
    "17r 18k 18k 18n 1 1 4 17r 18j 17s 181 1 1 4 18l 17x 18l 17z 1 1 4 185 18k 189 18l 1 1 4 181",
    "183 18o 18k 1 1 4 189 18k 18q 18n 1 1 4 18o 183 18k 18l 1 1 3 185 18k 18p 1m 1 1 2n 1 1 1 2n",
    "p 1 1 2n 1 1 1 2n 1 1 1 2n y 1 2 18g 18r 6 1 2 18g 18u 2 1 2 18g 18v 2 1 2 18g 18w 2 1 2 18g",
    "18x 2 1 2 18g 18y 1 1 1 17l 1 1 2 17r 18z 1 1 2 17r 18z 1 1 2 17r 190 1 1 2 17r 190 1 1 2",
    "18o 190 1 1 2 18o 190 1 1 2 17r 191 1 1 2 17r 191 1 1 2 18q 190 1 1 2 18q 190 1 1 2 18q 190",
    "1 1 2 18q 190 1 1 1 17r 1 2 1 17r 2 1 1 17s 1 1 1 17s 1 2 1 17s 2 2 1 17t 2 1 1 17u 1 1 1",
    "17u 1 2 1 17u 2 1 1 17v 1 1 1 17v 1 2 1 17v 2 1 1 17w 1 1 1 17w 1 2 1 17w 2 1 1 17x 1 1 1",
    "17x 1 2 1 17x 2 1 1 17y 1 1 1 17y 1 2 1 17y 2 2 1 17z 2 2 1 180 2 2 1 181 2 2 1 182 2 1 1",
    "183 1 1 1 183 1 2 1 183 2 1 1 184 1 1 1 184 1 2 1 184 2 1 1 185 1 1 1 185 1 2 1 185 2 1 1",
    "186 1 1 1 186 1 2 1 186 2 1 1 187 1 1 1 187 1 2 1 187 2 1 1 188 1 1 1 188 1 2 1 188 2 1 1",
    "189 1 1 1 189 1 2 1 189 2 1 1 18a 1 1 1 18a 1 1 1 18a 1 1 1 18h 1 1 1 18h 1 1 1 18h 1 2 1",
    "18h 2 1 1 18i 1 1 1 18i 1 2 1 18i 2 1 1 18j 1 1 1 18j 1 2 1 18j 2 1 1 18k 1 1 1 18k 1 2 1",
    "18k 2 1 1 18l 1 1 1 18l 1 2 1 18l 2 1 1 18m 1 1 1 18m 1 2 1 18m 2 1 1 18n 1 1 1 18n 1 2 1",
    "18n 2 2 1 18o 2 2 1 18p 2 1 1 18q 1 1 1 18q 1 1 1 18q 1 1 3 18k 17r 18z 1 1 3 18k 17r 18z 1",
    "1 3 18k 17r 190 1 1 3 18k 17r 190 1 1 3 18k 17r 191 1 1 3 18k 17r 191 1 1 2 18k 17r 1 1 2",
    "18k 17r k a 1 1c h q 1 1t u 1 1 2n 2 q 1 2p 11 1 1 9o2 1 1 1 9lt 1 1 1 9lv 1 1 1 9lx 1 1 1",
    "9lz 1 1 1 9m1 1 1 1 9nn 1 1 1 9np 1 1 1 9nr 1 1 1 9mr 1 1 1 9oc 1 1 1 9lu 1 1 1 9lw 1 1 1",
    "9ly 1 1 1 9m0 1 2 1 9m2 2 1 1 9m5 1 1 1 9m7 1 1 1 9m9 1 1 1 9mb 1 1 1 9md 1 1 1 9mf 1 1 1",
    "9mh 1 1 1 9mj 1 1 1 9ml 1 1 1 9mn 1 1 1 9mp 1 1 1 9ms 1 1 1 9mu 1 1 1 9mw 1 6 1 9my 6 1 1",
    "9n6 1 1 1 9n9 1 1 1 9nc 1 1 1 9nf 1 5 1 9ni 5 1 1 9no 1 1 1 9nq 1 6 1 9ns 6 1 1 9nz 1 1 1",
    "9o3 1 2 1 9ll 2 1 1 3fk 1 2 1 3cw 2 1 1 3hm 1 1 1 3cy 1 2 1 3ho 2 3 1 3cz 3 6 1 3hs 6 1 1",
    "3dm 1 3 1 3d2 3 1 1 3dt 1 a 1 3d5 d 6 1 3fl 8 6 1 3fr 8 6 1 3fx 8 3 1 3g3 1if 2 1 k0 2 1 1",
    "6e 1 1 1 ih 1 1 1 gj 2 1 1 ir 1 1 1 xuu 1 1 1 it 1 1 1 is 1 2 1 gm 2 1 1 5u9 1 1 1 go 1 1 1",
    "gu 1 1 1 ix 1 1 1 h0 1 1 1 gy 1 1 1 gw 1 1 1 ij 1 1 1 87 1 1 1 ik 1 1 1 h3 1 1 1 hw 1 2 1 iy",
    "2 1 1 h8 1 1 1 2mmc 1 1 1 x3i 1 1 1 ha 1 1 1 2mmd 1 1 1 i6 1 1 1 2mme 1 1 1 6w 1 2 1 hi 2 1",
    "1 35 1 1 1 hm 1 1 1 2mmg 1 2 1 hp 2 1 1 hs 1 1 1 iw 1 1 1 iu 1 1 1 xuv 1 1 1 iv 1 1 1 i0 1 1",
    "1 8s1 2 1 1 i7 1 2 1 ip 2 1 1 ig 1 3 1 cg 3 1 1 2mmi 1 1 1 2mn2 1r4 1 2 1huh 1hve 2 1 2 1huj",
    "1hve f 1 2 1hut 1hve 3n 1 2 1hyp 1hyf 1 1 2 1hyq 1hyf f0 1 2 1idj 1ida 1 1 2 1idj 1idz a7 1",
    "2 1int 1inu 1 1 2 1int 1ink 2 1 2 1int 1inx 70 1 2 1iuw 1iun 1 1 2 1iux 1iun ot 1 2 1jjp",
    "1jjk 10w8 q 1 1t q q 1 2p q q 1 1t q 7 1 2p 8 i 1 2x i q 1 1t q q 1 2p q 1 1 1t 2 2 1 1v 4 1",
    "1 1z 3 2 1 22 4 4 1 26 5 8 1 2b 8 4 1 2p 5 1 1 2u 2 7 1 2w 8 b 1 34 b q 1 1t q q 1 2p q 2 1",
    "1t 3 4 1 1w 6 8 1 22 9 7 1 2b 8 q 1 2p q 2 1 1t 3 4 1 1w 5 5 1 21 6 1 1 27 4 7 1 2b 8 q 1 2p",
    "q q 1 1t q q 1 2p q q 1 1t q q 1 2p q q 1 1t q q 1 2p q q 1 1t q q 1 2p q q 1 1t q q 1 2p q",
    "q 1 1t q q 1 2p q 1 1 8h 1 1 1 fr 3 h 1 pd h 1 1 pk 1 7 1 pv 8 p 1 q9 q 1 1 qd 1 1 1 qg 1 1",
    "1 qi 1 1 1 qu 1 1 1 qp 1 1 1 qo 1 h 1 pd h 1 1 pk 1 7 1 pv 8 p 1 q9 q 1 1 qd 1 1 1 qg 1 1 1",
    "qi 1 1 1 qu 1 1 1 qp 1 1 1 qo 1 h 1 pd h 1 1 pk 1 7 1 pv 8 p 1 q9 q 1 1 qd 1 1 1 qg 1 1 1 qi",
    "1 1 1 qu 1 1 1 qp 1 1 1 qo 1 h 1 pd h 1 1 pk 1 7 1 pv 8 p 1 q9 q 1 1 qd 1 1 1 qg 1 1 1 qi 1",
    "1 1 qu 1 1 1 qp 1 1 1 qo 1 h 1 pd h 1 1 pk 1 7 1 pv 8 p 1 q9 q 1 1 qd 1 1 1 qg 1 1 1 qi 1 1",
    "1 qu 1 1 1 qp 1 1 1 qo 1 2 1 rg 4 a 1 1c a a 1 1c a a 1 1c a a 1 1c a a 1 1c 4cq 2 1 17r 2 1",
    "1 17w 1 1 1 17z 2 1 1 18o 1 1 1 182 1 1 1 17x 1 1 1 187 1 1 1 18q 1 4 1 18j 4 1 1 183 1 1 1",
    "189 1 1 1 18h 1 1 1 185 1 1 1 18i 1 1 1 181 1 1 1 184 1 2 1 17u 2 1 1 17y 1 1 1 180 1 1 1",
    "186 1 1 1 188 1 1 1 18a 1 1 1 19q 1 1 1 1bu 1 1 1 1b5 1 1 1 19r 2 1 1 17s 1 1 1 17w 2 1 1",
    "18n 3 1 1 17x 2 1 1 18q 1 4 1 18j 4 1 1 183 1 1 1 189 1 1 1 18h 1 1 1 185 1 1 1 18i 2 1 1",
    "184 1 2 1 17u 2 1 1 17y 2 1 1 186 2 1 1 18a 7 1 1 17w 5 1 1 17x 2 1 1 18q 2 1 1 18k 2 1 1",
    "18m 1 1 1 183 1 1 1 189 2 1 1 185 1 1 1 18i 2 1 1 184 3 1 1 17y 2 1 1 186 2 1 1 18a 2 1 1",
    "1bu 2 1 1 19r 2 1 1 17s 1 1 1 17w 2 1 1 18n 3 1 1 17x 1 1 1 187 1 1 1 18q 1 1 1 18j 2 2 1",
    "18l 2 1 1 183 1 1 1 189 1 1 1 18h 1 1 1 185 1 1 1 18i 2 1 1 184 1 2 1 17u 2 1 1 17y 2 1 1",
    "186 1 1 1 188 1 1 1 18a 1 1 1 19q 2 1 1 1b5 2 2 1 17r 2 1 1 17w 1 1 1 17z 1 2 1 18n 2 1 1",
    "182 1 1 1 17x 1 1 1 187 1 1 1 18q 2 3 1 18k 3 1 1 183 1 1 1 189 1 1 1 18h 1 1 1 185 1 1 1",
    "18i 1 1 1 181 1 1 1 184 1 2 1 17u 2 1 1 17y 1 1 1 180 1 1 1 186 1 1 1 188 1 1 1 18a 6 1 1",
    "17s 1 1 1 17w 1 1 1 17z 2 1 1 18o 1 1 1 182 1 1 1 17x 1 1 1 187 1 1 1 18q 2 3 1 18k 3 1 1",
    "183 1 1 1 189 1 1 1 18h 1 1 1 185 1 1 1 18i 1 1 1 181 1 1 1 184 1 2 1 17u 2 1 1 17y 1 1 1",
    "180 1 1 1 186 1 1 1 188 1 1 1 18a 2lx a 1 1c 1dsg 1 1 fgd 1 1 1 fg8 1 1 1 fgh 1 1 1 2tcy 1 1",
    "1 fog 1 1 1 fqm 1 1 1 fqz 1 1 1 fsy 1 1 1 fwa 1 1 1 fx5 1 1 1 fzb 1 1 1 fyn 1 1 1 ae6 1 1 1",
    "2ud6 1 1 1 g25 1 1 1 g2c 1 1 1 g2s 1 1 1 g3b 1 1 1 2u58 1 1 1 aex 1 1 1 g2v 1 1 1 g3x 1 1 1",
    "2u6j 1 1 1 g47 1 1 1 g4k 1 1 1 fkc 1 1 1 g4s 1 1 1 g51 1 1 1 3ly7 1 1 1 g6t 1 1 1 g77 1 1 1",
    "afz 1 1 1 g8r 1 1 1 g92 1 1 1 gaa 1 1 1 gaf 1 1 1 ahh 1 1 1 gcn 1 1 1 gcp 1 1 1 gdg 1 1 1",
    "ge2 1 2 1 ged 2 1 1 gev 1 1 1 gg9 1 1 1 ggh 1 1 1 ggq 1 1 1 ghf 1 1 1 ghp 1 1 1 ghr 1 1 1",
    "ghr 1 1 1 ghr 1 1 1 2v58 1 1 1 m7k 1 1 1 gju 1 1 1 gkf 1 1 1 2vdv 1 1 1 gkr 1 1 1 gkx 1 1 1",
    "gli 1 1 1 gpq 1 1 1 gmw 1 1 1 gnc 1 1 1 go8 1 1 1 gpu 1 1 1 gs6 1 1 1 gsw 1 1 1 gur 1 1 1",
    "gv7 1 1 1 gw4 1 1 1 gw4 1 1 1 gwp 1 1 1 gx7 1 1 1 gxf 1 1 1 gxu 1 1 1 h7a 1 1 1 gzq 1 1 1",
    "h7b 1 1 1 h1t 1 1 1 h2s 1 1 1 g7b 1 1 1 hke 1 1 1 hce 1 1 1 hdg 1 1 1 he5 1 1 1 haj 1 1 1",
    "hf6 1 1 1 hf5 1 1 1 hik 1 1 1 2x9g 1 1 1 hki 1 1 1 hkn 1 1 1 hl2 1 1 1 hlm 1 1 1 hlu 1 1 1",
    "hnm 1 1 1 2xm0 1 1 1 2xnu 1 1 1 hrg 1 1 1 hsr 1 1 1 ht3 1 1 1 hqw 1 1 1 huu 1 1 1 aum 1 1 1",
    "av0 1 1 1 hzc 1 1 1 i0u 1 1 1 i0u 1 1 1 2y88 1 1 1 i4j 1 1 1 i54 1 1 1 i5j 1 1 1 i5v 1 1 1",
    "2yhk 1 1 1 i67 1 1 1 i6e 1 1 1 itv 1 1 1 i76 1 1 1 ayp 1 1 1 i8w 1 1 1 i9a 1 1 1 ibk 1 1 1",
    "ia5 1 1 1 2z1g 1 1 1 if7 1 1 1 2z1i 1 1 1 ige 1 1 1 igb 1 1 1 igs 1 2 1 ijl 2 1 1 b3j 1 1 1",
    "ikd 1 1 1 ilk 1 1 1 im5 1 1 1 ind 1 1 1 b4y 1 1 1 2zr7 1 1 1 b5o 1 1 1 ipc 1 1 1 ipf 1 1 1",
    "ipi 1 1 1 iq2 1 1 1 3pg2 1 1 1 iri 1 1 1 3035 1 1 1 3035 1 1 1 poh 1 1 1 isi 1 1 1 isi 1 1 1",
    "b7r 1 1 1 335k 1 1 1 3cgq 1 1 1 iua 1 1 1 iuj 1 1 1 b8j 1 1 1 ivu 1 1 1 ix9 1 1 1 ixj 1 1 1",
    "iyh 1 1 1 j29 1 1 1 bay 1 1 1 ba4 1 1 1 j2s 1 1 1 30t0 1 1 1 j47 1 1 1 j7s 1 1 1 j7w 1 1 1",
    "j7y 1 1 1 j7w 1 1 1 j96 1 1 1 j9q 1 1 1 jaq 1 1 1 jac 1 1 1 jan 1 1 1 jby 1 1 1 jci 1 1 1",
    "jcm 1 1 1 jdc 1 1 1 jdn 1 1 1 jfh 1 1 1 jht 1 1 1 jis 1 1 1 jm8 1 1 1 31n0 1 1 1 jlp 1 1 1",
    "jjw 1 1 1 jmw 1 1 1 jnn 1 1 1 jqc 1 1 1 31td 1 1 1 js2 1 1 1 jph 1 1 1 jop 1 1 1 bhq 1 1 1",
    "ju1 1 1 1 jum 1 1 1 jvh 1 1 1 juf 1 1 1 bjg 1 1 1 k0f 1 1 1 k18 1 1 1 32mi 1 1 1 k4j 1 1 1",
    "kc8 1 1 1 k7d 1 1 1 bo9 1 1 1 k9d 1 1 1 bns 1 1 1 bms 1 1 1 g42 1 1 1 g45 1 1 1 kcg 1 1 1",
    "k9o 1 1 1 pf1 1 1 1 deh 1 1 1 kd3 1 1 1 kd7 1 1 1 kdd 1 1 1 kf2 1 1 1 ker 1 1 1 33cz 1 1 1",
    "bpl 1 1 1 kje 1 1 1 kg5 1 1 1 klu 1 1 1 kn9 1 1 1 33hp 1 1 1 kni 1 1 1 kkf 1 1 1 kr8 1 1 1",
    "brx 1 1 1 ksi 1 1 1 kv7 1 1 1 kx6 1 1 1 l2g 1 1 1 33xf 1 1 1 l3v 1 1 1 bvc 1 1 1 l5t 1 1 1",
    "34br 1 1 1 l78 1 1 1 bwu 1 1 1 l82 1 1 1 l9b 1 2 1 la2 2 1 1 34p9 1 1 1 2yvf 1 1 1 34sa 1 1",
    "1 le6 1 1 1 354s 1 1 1 lhb 1 1 1 lhp 1 1 1 lev 1 1 1 ljq 1 1 1 lku 1 1 1 lmf 1 1 1 lkx 1 1 1",
    "lm1 1 1 1 lmg 1 1 1 lmt 1 1 1 357i 1 1 1 lkk 1 1 1 lrj 1 1 1 lta 1 1 1 c37 1 1 1 lvv 1 1 1",
    "lvr 1 1 1 35jl 1 1 1 lq1 1 1 1 m0e 1 1 1 35ni 1 1 1 35ou 1 1 1 m2u 1 1 1 m61 1 1 1 m5a 1 1 1",
    "m57 1 1 1 c5y 1 1 1 m6i 1 1 1 m7x 1 1 1 m7r 1 1 1 m99 1 1 1 2u5h 1 1 1 mdh 1 1 1 368z 1 1 1",
    "mfw 1 1 1 36i3 1 1 1 mjs 1 1 1 mk5 1 1 1 mkw 1 1 1 36yw 1 1 1 mm8 1 1 1 mmt 1 1 1 3779 1 1 1",
    "37dg 1 1 1 mt6 1 1 1 mtn 1 1 1 cdo 1 1 1 mud 1 1 1 ce0 1 1 1 ce0 1 1 1 myv 1 1 1 mzg 1 1 1",
    "n01 1 1 1 n0l 1 1 1 n2i 1 1 1 cgr 1 1 1 n50 1 1 1 386u 1 1 1 n5q 1 1 1 389e 1 1 1 n74 1 1 1",
    "2zrz 1 1 1 nbk 1 1 1 38v5 1 1 1 38vs 1 1 1 38zo 1 1 1 cn0 1 1 1 cnc 1 1 1 nhw 1 1 1 394j 1 1",
    "1 394i 1 1 1 395l 1 1 1 396b 1 2 1 nj2 2 1 1 nj3 1 1 1 nka 1 1 1 cop 1 1 1 nm3 1 1 1 cp2 1 1",
    "1 cra 1 1 1 39r1 1 1 1 nri 1 1 1 nt8 1 1 1 nv0 1 1 1 ctf 1 1 1 3a5i 1 1 1 nyu 1 1 1 3a8q 1 1",
    "1 3a9x 1 1 1 o0f 1 1 1 o2z 1 1 1 cvj 1 1 1 o5c 1 1 1 o5m 1 1 1 o5r 1 1 1 3at8 1 1 1 3b1j 1 1",
    "1 3b1j 1 1 1 oa6 1 1 1 d1e 1 1 1 3b8r 1 1 1 og6 1 1 1 og9 1 1 1 d2f 1 1 1 3beo 1 1 1 onm 1 1",
    "1 d5s 1 1 1 oo8 1 1 1 oo3 1 1 1 oow 1 1 1 3c06 1 1 1 orn 1 1 1 d8h 1 1 1 ouf 1 1 1 ow2 1 1 1",
    "oxx 1 1 1 d9w 1 1 1 3ciw 1 1 1 3cjr 1 1 1 dax 1 1 1 3cnt 1 1 1 p6i 1 1 1 3cqm 1 1 1 p79 1 1",
    "1 pa2 1 1 1 pad 1 1 1 3d22 1 1 1 3d43 1 1 1 pcw 1 1 1 3d7s 1 1 1 pdc 1 1 1 33a7 1 1 1 ded 1",
    "1 1 pf6 1 1 1 phf 1 1 1 dfv 1 1 1 pj2 1 1 1 hx1 1 1 1 3dlz 1 1 1 3dmd 1 1 1 33bn 1 1 1 33bw",
    "1 1 1 poh 1 1 1 pok 1 1 1 sda 1 1 1 dij 1 1 1 psh 1 1 1 psb 1 1 1 pst 1 1 1 gc3 1 1 1 ptd 1",
    "1 1 ptf 1 1 1 ptp 1 1 1 puu 1 1 1 3ebg 1 1 1 put 1 1 1 pwd 1 1 1 pyb 1 1 1 q0d 1 1 1 pwj 1 1",
    "1 q0t 1 1 1 q1z 1 1 1 q53 1 1 1 pxv 1 1 1 q16 1 1 1 q18 1 1 1 q1o 1 1 1 3eie 1 1 1 3eqz 1 1",
    "1 3emt 1 1 1 dnv 1 1 1 q9d 1 1 1 q9f 1 1 1 qae 1 1 1 3g0a 1 1 1 qck 1 1 1 3f3g 1 1 1 dp9 1 1",
    "1 dpd 1 1 1 3f75 1 1 1 3ff6 1 1 1 dpn 1 1 1 qj4 1 1 1 qjg 1 1 1 qjr 1 1 1 qjt 1 1 1 qll 1 1",
    "1 qko 1 1 1 qoe 1 1 1 qn6 1 1 1 qrd 1 1 1 qp4 1 1 1 qqz 1 1 1 qrq 1 1 1 dsn 1 1 1 qu9 1 1 1",
    "qv5 1 1 1 dtl 1 1 1 qxs 1 1 1 qxv 1 1 1 3giv 1 1 1 r13 1 1 1 r1a 1 1 1 dv9 1 1 1 r22 1 1 1",
    "aez 1 1 1 3gz2 1 1 1 3h46 1 1 1 dz2 1 1 1 dzb 1 1 1 rds 1 1 1 rfx 1 1 1 rka 1 1 1 rpx 1 1 1",
    "3hrc 1 1 1 rsb 1 1 1 rsx 1 1 1 rvf 1 1 1 rxz 1 1 1 3i9b 1 1 1 2upw 1 1 1 s0b 1 1 1 rzw 1 1 1",
    "s1c 1 1 1 2uvy 1 1 1 s7o 1 1 1 sag 1 1 1 3jki 1 1 1 3jl9 1 1 1 sk4 1 1 1 smp 1 1 1 snl 1 1 1",
    "3ju6 1 1 1 snv 1 1 1 svs 1 2 1 t07 2 1 1 sxo 1 1 1 t89 1 1 1 t91 1 1 1 3ksa 1 1 1 tjf 1 1 1",
    "ej9 1 1 1 tkn 1 1 1 3l2v 1 1 1 eli 1 1 1 ts3 1 1 1 iia 1 1 1 tur 1 1 1 3ltx 1 1 1 3lzu 1 1 1",
    "epa 1 1 1 epi 1 1 1 u00 1 1 1 3mdm 1 1 1 er6 1 1 1 3mhi 1 1 1 u17 1 1 1 u17 1 1 1 u21 1 1 1",
    "3mpi 1 1 1 u76 1 1 1 eur 1 1 1 u95 1 1 1 ucn 1 1 1 ude 1 1 1 uf2 1 1 1 ez2 1 1 1 3nsg 1 1 1",
    "umq 1 1 1 uv4 1 1 1 v0d 1 1 1 f66 1 1 1 f71 1 1 1 v3b 1 1 1 3owe 1 1 1 f7c 1 1 1 3oxx 1 1 1",
    "3p5a 1 1 1 3p8x 1 1 1 vcr 1 1 1 f9y 1 1 1 veh 1 1 1 vem 1 1 1 vet 1 1 1 vf3 1 1 1 vfa 1 1 1",
    "vgb 1 1 1 3pxc"]
  readParts numbers.length 0 numbers

/-- Reads runs written as the distance to the run before, the length, and the class. -/
def readClasses : Nat → List Nat → List (Nat × Nat × Nat)
  | from', distance :: length :: cls :: rest =>
    (from' + distance, length, cls) :: readClasses (from' + distance) rest
  | _, _ => []

/-- The runs of marks that have a combining class. -/
def classTable : List (Nat × Nat × Nat) :=
  readClasses 0 <| numbers36
    ["lc l 6e l 1 6g 1 4 64 4 1 6g 1 1 60 1 5 64 5 2 5m 2 4 64 4 2 5m 2 b 64 b 5 1 5 4 64 4 8 6e 8",
    "1 6o 1 1 6e 1 3 64 3 3 6e 3 2 64 3 3 6e 3 4 64 4 1 6e 1 1 6g 1 2 64 2 1 6e 1 1 6h 1 2 6i 2 1",
    "6h 1 2 6i 2 1 6h 1 d 6e 80 5 6e 7i 1 64 1 4 6e 4 1 64 1 3 6e 3 1 66 1 1 64 1 6 6e 6 6 64 6 2",
    "6e 2 1 64 1 2 6e 2 1 66 1 1 6c 1 1 6e 1 1 a 1 1 b 1 1 c 1 1 d 1 1 e 1 1 f 1 1 g 1 1 h 1 1 i",
    "1 2 j 2 1 k 1 1 l 1 1 m 2 1 n 2 1 o 1 1 p 2 1 6e 1 1 64 2 1 i 21 8 6e 8 1 u 1 1 v 1 1 w 1d 1",
    "r 1 1 s 1 1 t 1 1 u 1 1 v 1 1 w 1 1 x 1 1 y 1 2 6e 2 2 64 2 5 6e 5 1 64 1 2 6e 2 1 64 h 1 z",
    "2u 7 6e 9 4 6e 4 1 64 1 1 6e 3 2 6e 3 1 64 1 2 6e 2 1 64 10 1 10 v 1 6e 1 1 64 1 2 6e 2 1 64",
    "1 2 6e 2 3 64 3 1 6e 1 2 64 2 1 6e 1 1 64 1 3 6e 3 1 64 1 1 6e 1 1 64 1 1 6e 1 1 64 1 1 6e 1",
    "1 64 1 2 6e 4i 7 6e 7 1 64 1 1 6e a 1 64 p 4 6e 5 9 6e a 3 6e 4 5 6e 1c 3 64 1r 1 6e 1 3 64",
    "3 4 6e 1a 5 6e 5 5 64 5 e 6e f 1 64 1 2 6e 2 1 64 1 2 6e 2 1 64 1 3 6e 3 3 64 3 1 r 1 1 s 1",
    "1 t 1 3 6e 3 1 64 1 2 6e 2 2 64 2 5 6e 1t 1 7 h 1 9 4 1 6e 1 1 64 1 2 6e 2x 1 7 h 1 9 1d 1",
    "6e 1q 1 7 h 1 9 33 1 7 h 1 9 33 1 7 h 1 9 3k 1 9 33 1 7 h 1 9 8 1 2c 1 1 2j 2u 1 7 h 1 9 32",
    "2 9 i 1 9 3h 1 9 32 2 2v 2 1 9 e 4 2z 34 2 3a 2 1 9 e 4 3e 28 2 64 t 1 64 2 1 64 2 1 60 1k 1",
    "3l 1 1 3m 2 1 3o 6 4 3m 6 1 3m 2 2 6e 2 1 9 2 2 6e 1s 1 64 35 1 7 2 2 9 2c 1 64 k0 3 6e qf 2",
    "9 w 1 9 4e 1 9 b 1 6e 5o 1 6c 40 1 66 1 1 6e 1 1 64 64 1 6e 1 1 64 20 1 9 l 8 6e a 1 64 1d 5",
    "6e 5 6 64 6 2 6e 2 1 64 2 2 64 2 2 6e 2 2 64 2 5 6e 5 1 64 1 4 6e 2x 1 7 g 1 9 13 1 6e 1 1",
    "64 1 7 6e 1p 2 9 1o 1 7 c 2 9 1x 1 7 49 3 6e 4 1 1 1 5 64 5 2 6e 2 4 64 4 1 6e 2 7 1 b 1 64",
    "7 1 6e 4 2 6e 5k 2 6e 2 1 64 1 7 6e 7 1 64 1 2 6e 2 1 6i 1 1 5y 1 1 64 1 1 5m 1 11 6e 11 1",
    "6g 1 2 6c 2 1 64 1 1 62 1 1 6e 1 1 6h 1 1 64 1 1 6e 1 1 64 k1 2 6e 2 2 1 2 4 6e 4 3 1 3 2 6e",
    "6 1 6e 4 2 1 2 1 6e 1 1 64 1 1 6e 1 2 1 2 4 64 4 1 6e 2db 3 6e 40 1 9 2p w 6e ga 1 62 1 1 6c",
    "1 1 6g 1 1 66 1 2 68 2z 2 8 n9y 1 6e 5 a 6e 16 2 6e 2a 2 6e 7q 1 9 12 1 9 48 1 9 s i 6e 23 3",
    "64 14 1 9 2o 1 7 d 1 9 6o 1 6e 2 2 6e 2 1 64 3 2 6e 7 2 6e 3 1 6e 1h 1 9 6v 1 9 fn5 1 q le 7",
    "6e 7 7 64 7 2 6e r3 1 64 6b 1 64 46 5 6e 1av 1 64 2 1 6e 15 1 6e 1 1 1 1 1 64 5 1 9 4m 1 6e",
    "1 1 64 fy 4 6e av 2 6e 4b 2 64 2 3 6e 3 1 64 1 1 6e 1 4 64 1h 1 6e 1 1 64 1 1 6e 1 1 64 5d 1",
    "9 16 1 9 f 1 9 1m 1 9 1 1 7 1y 3 6e 1f 2 9 1s 1 7 25 1 9 a 1 7 2z 1 9 1 1 7 4z 1 7 1 1 9 29",
    "2 7 i 1 9 p 7 6e a 5 6e 5u 1 9 4 1 7 o 1 6e 2s 1 9 1 1 7 70 1 9 1 1 7 3j 1 9 3b 1 9 1 1 7 38",
    "1 9 7i 1 9 1 1 7 77 2 9 6 1 7 4d 1 9 2c 1 9 j 1 9 2a 1 9 bq 1 9 77 1 7 2 2 9 2b 1 9 fa1 5 1",
    "1s 7 6e xs 2 6 f5a 1 1 43r 2 60 2 3 1 6 1 6a 1 5 60 d 8 64 a 5 6e 5 2 64 w 4 6e 48 3 6e 2pq",
    "7 6e 8 h 6e j 7 6e 8 2 6e 3 5 6e 7e 7 6e am 1 6e 1q 4 6e 15w 7 64 38 6 6e 6 1 7"]

/-- Reads pairs, each with the character it is composed to. -/
def readPairs : List Nat → List (Nat × Nat × Nat)
  | a :: b :: c :: rest => (a, b, c) :: readPairs rest
  | _ => []

/-- The pairs that compose to one character, syllables of Hangul apart. -/
def pairTable : List (Nat × Nat × Nat) :=
  readPairs <| numbers36
    ["1t lc 5c 1t ld 5d 1t le 5e 1t lf 5f 1t lk 5g 1t lm 5h 1v mf 5j 1x lc 5k 1x ld 5l 1x le 5m 1x",
    "lk 5n 21 lc 5o 21 ld 5p 21 le 5q 21 lk 5r 26 lf 5t 27 lc 5u 27 ld 5v 27 le 5w 27 lf 5x 27 lk",
    "5y 2d lc 61 2d ld 62 2d le 63 2d lk 64 2h ld 65 2p lc 68 2p ld 69 2p le 6a 2p lf 6b 2p lk 6c",
    "2p lm 6d 2r mf 6f 2t lc 6g 2t ld 6h 2t le 6i 2t lk 6j 2x lc 6k 2x ld 6l 2x le 6m 2x lk 6n 32",
    "lf 6p 33 lc 6q 33 ld 6r 33 le 6s 33 lf 6t 33 lk 6u 39 lc 6x 39 ld 6y 39 le 6z 39 lk 70 3d ld",
    "71 3d lk 73 1t lg 74 2p lg 75 1t li 76 2p li 77 1t mg 78 2p mg 79 1v ld 7a 2r ld 7b 1v le 7c",
    "2r le 7d 1v lj 7e 2r lj 7f 1v lo 7g 2r lo 7h 1w lo 7i 2s lo 7j 1x lg 7m 2t lg 7n 1x li 7o 2t",
    "li 7p 1x lj 7q 2t lj 7r 1x mg 7s 2t mg 7t 1x lo 7u 2t lo 7v 1z le 7w 2v le 7x 1z li 7y 2v li",
    "7z 1z lj 80 2v lj 81 1z mf 82 2v mf 83 20 le 84 2w le 85 21 lf 88 2x lf 89 21 lg 8a 2x lg 8b",
    "21 li 8c 2x li 8d 21 mg 8e 2x mg 8f 21 lj 8g 22 le 8k 2y le 8l 23 mf 8m 2z mf 8n 24 ld 8p 30",
    "ld 8q 24 mf 8r 30 mf 8s 24 lo 8t 30 lo 8u 26 ld 8z 32 ld 90 26 mf 91 32 mf 92 26 lo 93 32 lo",
    "94 27 lg 98 33 lg 99 27 li 9a 33 li 9b 27 ln 9c 33 ln 9d 2a ld 9g 36 ld 9h 2a mf 9i 36 mf 9j",
    "2a lo 9k 36 lo 9l 2b ld 9m 37 ld 9n 2b le 9o 37 le 9p 2b mf 9q 37 mf 9r 2b lo 9s 37 lo 9t 2c",
    "mf 9u 38 mf 9v 2c lo 9w 38 lo 9x 2d lf a0 39 lf a1 2d lg a2 39 lg a3 2d li a4 39 li a5 2d lm",
    "a6 39 lm a7 2d ln a8 39 ln a9 2d mg aa 39 mg ab 2f le ac 3b le ad 2h le ae 3d le af 2h lk ag",
    "2i ld ah 3e ld ai 2i lj aj 3e lj ak 2i lo al 3e lo am 27 m3 bk 33 m3 bl 2d m3 bz 39 m3 c0 1t",
    "lo ct 2p lo cu 21 lo cv 2x lo cw 27 lo cx 33 lo cy 2d lo cz 39 lo d0 64 lg d1 70 lg d2 64 ld",
    "d3 70 ld d4 64 lo d5 70 lo d6 64 lc d7 70 lc d8 5g lg da 6c lg db fa lg dc fb lg dd 5i lg de",
    "6e lg df 1z lo di 2v lo dj 23 lo dk 2z lo dl 27 mg dm 33 mg dn dm lg do dn lg dp c7 lo dq ia",
    "lo dr 2y lo ds 1z ld dw 2v ld dx 26 lc e0 32 lc e1 5h ld e2 6d ld e3 5i ld e4 6e ld e5 60 ld",
    "e6 6w ld e7 1t lr e8 2p lr e9 1t lt ea 2p lt eb 1x lr ec 2t lr ed 1x lt ee 2t lt ef 21 lr eg",
    "2x lr eh 21 lt ei 2x lt ej 27 lr ek 33 lr el 27 lt em 33 lt en 2a lr eo 36 lr ep 2a lt eq 36",
    "lt er 2d lr es 39 lr et 2d lt eu 39 lt ev 2b me ew 37 me ex 2c me ey 38 me ez 20 lo f2 2w lo",
    "f3 1t lj fa 2p lj fb 1x mf fc 2t mf fd 5y lg fe 6u lg ff 5x lg fg 6t lg fh 27 lj fi 33 lj fj",
    "fi lg fk fj lg fl 2h lg fm 3d lg fn 4o ld p1 pd ld p2 ph ld p4 pj ld p5 pl ld p6 pr ld p8 px",
    "ld pa q1 ld pb qy ld pc pl lk q2 px lk q3 q9 ld q4 qd ld q5 qf ld q6 qh ld q7 qz ld q8 qh lk",
    "qy qt lk qz qn ld r0 qt ld r1 qx ld r2 r6 ld r7 r6 lk r8 t1 lc sg t1 lk sh sz ld sj sm lk sn",
    "t6 ld ss t4 lc st tf li su t4 li t5 u0 li u1 tx lc uo tx lk up tv ld ur uu lk uv u2 ld v0 u0",
    "lc v1 ub li v2 vo lr vq vp lr vr t2 li xt ty li xu sw li y8 ts li y9 sw lk ya ts lk yb t1 li",
    "ye tx li yf yg lk yi yh lk yj t2 lk yk ty lk yl t3 lk ym tz lk yn t4 lg yq u0 lg yr t4 lk ys",
    "u0 lk yt ta lk yu u6 lk yv yw lk yy yx lk yz tp lk z0 ul lk z1 tf lg z2 ub lg z3 tf lk z4 ub",
    "lk z5 tf ln z6 ub ln z7 tj lk z8 uf lk z9 tn lk zc uj lk zd 17r 18z 17m 17r 190 17n 18o 190",
    "17o 17r 191 17p 18q 190 17q 1cl 190 1c0 1c1 190 1c2 1ci 190 1cj 1t4 1to 1t5 1tc 1to 1td 1tf",
    "1to 1tg 1xj 1xa 1xn 1xj 1xz 1xo 287 28m 288 287 27y 28b 287 28n 28c 2aa 2c7 2ac 2bq 2bi 2bu",
    "2br 2bi 2bv 2bq 2c7 2bw 2fa 2fq 2fc 2in 2j9 2io 2iu 2j9 2iv 2iu 2ja 2iw 2iu 2iq 2iy 2iy 2j9",
    "2iz 2me 2m6 2mi 2mf 2m6 2mj 2me 2mv 2mk 2qh 2q2 2qi 2qh 2q7 2qk 2qk 2q2 2ql 2qh 2qn 2qm 36t",
    "372 36u 5c5 5dh 5c6 5c7 5dh 5c8 5c9 5dh 5ca 5cb 5dh 5cc 5cd 5dh 5ce 5ch 5dh 5ci 5dm 5dh 5dn",
    "5do 5dh 5dp 5dq 5dh 5ds 5dr 5dh 5dt 5du 5dh 5dv 1t md 5xc 2p md 5xd 1u lj 5xe 2q lj 5xf 1u",
    "mb 5xg 2q mb 5xh 1u mp 5xi 2q mp 5xj 5j ld 5xk 6f ld 5xl 1w lj 5xm 2s lj 5xn 1w mb 5xo 2s mb",
    "5xp 1w mp 5xq 2s mp 5xr 1w mf 5xs 2s mf 5xt 1w ml 5xu 2s ml 5xv 7m lc 5xw 7n lc 5xx 7m ld",
    "5xy 7n ld 5xz 1x ml 5y0 2t ml 5y1 1x mo 5y2 2t mo 5y3 fc li 5y4 fd li 5y5 1y lj 5y6 2u lj",
    "5y7 1z lg 5y8 2v lg 5y9 20 lj 5ya 2w lj 5yb 20 mb 5yc 2w mb 5yd 20 lk 5ye 2w lk 5yf 20 mf",
    "5yg 2w mf 5yh 20 mm 5yi 2w mm 5yj 21 mo 5yk 2x mo 5yl 5r ld 5ym 6n ld 5yn 23 ld 5yo 2z ld",
    "5yp 23 mb 5yq 2z mb 5yr 23 mp 5ys 2z mp 5yt 24 mb 5yu 30 mb 5yv 5yu lg 5yw 5yv lg 5yx 24 mp",
    "5yy 30 mp 5yz 24 ml 5z0 30 ml 5z1 25 ld 5z2 31 ld 5z3 25 lj 5z4 31 lj 5z5 25 mb 5z6 31 mb",
    "5z7 26 lj 5z8 32 lj 5z9 26 mb 5za 32 mb 5zb 26 mp 5zc 32 mp 5zd 26 ml 5ze 32 ml 5zf 5x ld",
    "5zg 6t ld 5zh 5x lk 5zi 6t lk 5zj 98 lc 5zk 99 lc 5zl 98 ld 5zm 99 ld 5zn 28 ld 5zo 34 ld",
    "5zp 28 lj 5zq 34 lj 5zr 2a lj 5zs 36 lj 5zt 2a mb 5zu 36 mb 5zv 5zu lg 5zw 5zv lg 5zx 2a mp",
    "5zy 36 mp 5zz 2b lj 600 37 lj 601 2b mb 602 37 mb 603 9m lj 604 9n lj 605 9s lj 606 9t lj",
    "607 602 lj 608 603 lj 609 2c lj 60a 38 lj 60b 2c mb 60c 38 mb 60d 2c mp 60e 38 mp 60f 2c ml",
    "60g 38 ml 60h 2d mc 60i 39 mc 60j 2d mo 60k 39 mo 60l 2d ml 60m 39 ml 60n a0 ld 60o a1 ld",
    "60p a2 lk 60q a3 lk 60r 2e lf 60s 3a lf 60t 2e mb 60u 3a mb 60v 2f lc 60w 3b lc 60x 2f ld",
    "60y 3b ld 60z 2f lk 610 3b lk 611 2f lj 612 3b lj 613 2f mb 614 3b mb 615 2g lj 616 3c lj",
    "617 2g lk 618 3c lk 619 2h lj 61a 3d lj 61b 2i le 61c 3e le 61d 2i mb 61e 3e mb 61f 2i mp",
    "61g 3e mp 61h 2w mp 61i 38 lk 61j 3b lm 61k 3d lm 61l an lj 61n 1t mb 61s 2p mb 61t 1t ll",
    "61u 2p ll 61v 5e ld 61w 6a ld 61x 5e lc 61y 6a lc 61z 5e ll 620 6a ll 621 5e lf 622 6a lf",
    "623 61s le 624 61t le 625 76 ld 626 77 ld 627 76 lc 628 77 lc 629 76 ll 62a 77 ll 62b 76 lf",
    "62c 77 lf 62d 61s li 62e 61t li 62f 1x mb 62g 2t mb 62h 1x ll 62i 2t ll 62j 1x lf 62k 2t lf",
    "62l 5m ld 62m 6i ld 62n 5m lc 62o 6i lc 62p 5m ll 62q 6i ll 62r 5m lf 62s 6i lf 62t 62g le",
    "62u 62h le 62v 21 ll 62w 2x ll 62x 21 mb 62y 2x mb 62z 27 mb 630 33 mb 631 27 ll 632 33 ll",
    "633 5w ld 634 6s ld 635 5w lc 636 6s lc 637 5w ll 638 6s ll 639 5w lf 63a 6s lf 63b 630 le",
    "63c 631 le 63d bk ld 63e bl ld 63f bk lc 63g bl lc 63h bk ll 63i bl ll 63j bk lf 63k bl lf",
    "63l bk mb 63m bl mb 63n 2d mb 63o 39 mb 63p 2d ll 63q 39 ll 63r bz ld 63s c0 ld 63t bz lc",
    "63u c0 lc 63v bz ll 63w c0 ll 63x bz lf 63y c0 lf 63z bz mb 640 c0 mb 641 2h lc 642 3d lc",
    "643 2h mb 644 3d mb 645 2h ll 646 3d ll 647 2h lf 648 3d lf 649 q9 lv 64g q9 lw 64h 64g lc",
    "64i 64h lc 64j 64g ld 64k 64h ld 64l 64g n6 64m 64h n6 64n pd lv 64o pd lw 64p 64o lc 64q",
    "64p lc 64r 64o ld 64s 64p ld 64t 64o n6 64u 64p n6 64v qd lv 64w qd lw 64x 64w lc 64y 64x lc",
    "64z 64w ld 650 64x ld 651 ph lv 654 ph lw 655 654 lc 656 655 lc 657 654 ld 658 655 ld 659 qf",
    "lv 65c qf lw 65d 65c lc 65e 65d lc 65f 65c ld 65g 65d ld 65h 65c n6 65i 65d n6 65j pj lv 65k",
    "pj lw 65l 65k lc 65m 65l lc 65n 65k ld 65o 65l ld 65p 65k n6 65q 65l n6 65r qh lv 65s qh lw",
    "65t 65s lc 65u 65t lc 65v 65s ld 65w 65t ld 65x 65s n6 65y 65t n6 65z pl lv 660 pl lw 661",
    "660 lc 662 661 lc 663 660 ld 664 661 ld 665 660 n6 666 661 n6 667 qn lv 668 qn lw 669 668 lc",
    "66a 669 lc 66b 668 ld 66c 669 ld 66d pr lv 66g pr lw 66h 66g lc 66i 66h lc 66j 66g ld 66k",
    "66h ld 66l qt lv 66o qt lw 66p 66o lc 66q 66p lc 66r 66o ld 66s 66p ld 66t 66o n6 66u 66p n6",
    "66v px lw 66x 66x lc 66z 66x ld 671 66x n6 673 qx lv 674 qx lw 675 674 lc 676 675 lc 677 674",
    "ld 678 675 ld 679 674 n6 67a 675 n6 67b q1 lv 67c q1 lw 67d 67c lc 67e 67d lc 67f 67c ld 67g",
    "67d ld 67h 67c n6 67i 67d n6 67j q9 lc 67k qd lc 67m qf lc 67o qh lc 67q qn lc 67s qt lc 67u",
    "qx lc 67w 64g n9 680 64h n9 681 64i n9 682 64j n9 683 64k n9 684 64l n9 685 64m n9 686 64n",
    "n9 687 64o n9 688 64p n9 689 64q n9 68a 64r n9 68b 64s n9 68c 64t n9 68d 64u n9 68e 64v n9",
    "68f 65c n9 68g 65d n9 68h 65e n9 68i 65f n9 68j 65g n9 68k 65h n9 68l 65i n9 68m 65j n9 68n",
    "65k n9 68o 65l n9 68p 65m n9 68q 65n n9 68r 65o n9 68s 65p n9 68t 65q n9 68u 65r n9 68v 674",
    "n9 68w 675 n9 68x 676 n9 68y 677 n9 68z 678 n9 690 679 n9 691 67a n9 692 67b n9 693 67c n9",
    "694 67d n9 695 67e n9 696 67f n9 697 67g n9 698 67h n9 699 67i n9 69a 67j n9 69b q9 li 69c",
    "q9 lg 69d 67k n9 69e q9 n9 69f q4 n9 69g q9 n6 69i 69i n9 69j pd li 69k pd lg 69l pd lc 69m",
    "pd n9 69o 4o n6 69t 67o n9 69u qf n9 69v q6 n9 69w qf n6 69y 69y n9 69z ph lc 6a0 pj lc 6a2",
    "pj n9 6a4 69r lc 6a5 69r ld 6a6 69r n6 6a7 qh li 6a8 qh lg 6a9 qy lc 6aa qh n6 6ae qy n6 6af",
    "pl li 6ag pl lg 6ah pl lc 6ai 6bi lc 6al 6bi ld 6am 6bi n6 6an qt li 6ao qt lg 6ap qz lc 6aq",
    "qp lv 6as qp lw 6at qt n6 6au qz n6 6av px li 6aw px lg 6ax px lc 6ay pt lw 6b0 4o lc 6b1",
    "67w n9 6b6 qx n9 6b7 r2 n9 6b8 qx n6 6ba 6ba n9 6bb pr lc 6bc q1 lc 6be q1 n9 6bg 6mo mw 6my",
    "6mq mw 6mz 6ms mw 6ni 6og mw 6od 6ok mw 6oe 6oi mw 6of 6pv mw 6pw 6q0 mw 6q1 6q3 mw 6q4 6qr",
    "mw 6qs 6qt mw 6qu 6rg mw 6rl 6rn mw 6ro 6rp mw 6rr 6rs mw 6rt 1p mw 6sg 6sh mw 6si 6rx mw",
    "6st 1o mw 6su 1q mw 6sv 6sk mw 6sw 6sl mw 6sx 6sy mw 6t0 6sz mw 6t1 6t2 mw 6t4 6t3 mw 6t5",
    "6t6 mw 6tc 6t7 mw 6td 6te mw 6tg 6tf mw 6th 6ti mw 6tk 6tj mw 6tl 6ua mw 6uk 6ug mw 6ul 6uh",
    "mw 6um 6uj mw 6un 6t8 mw 6w0 6t9 mw 6w1 6tt mw 6w2 6tu mw 6w3 6uq mw 6wa 6ur mw 6wb 6us mw",
    "6wc 6ut mw 6wd 9jf 9ll 9jg 9jh 9ll 9ji 9jj 9ll 9jk 9jl 9ll 9jm 9jn 9ll 9jo 9jp 9ll 9jq 9jr",
    "9ll 9js 9jt 9ll 9ju 9jv 9ll 9jw 9jx 9ll 9jy 9jz 9ll 9k0 9k1 9ll 9k2 9k4 9ll 9k5 9k6 9ll 9k7",
    "9k8 9ll 9k9 9kf 9ll 9kg 9kf 9lm 9kh 9ki 9ll 9kj 9ki 9lm 9kk 9kl 9ll 9km 9kl 9lm 9kn 9ko 9ll",
    "9kp 9ko 9lm 9kq 9kr 9ll 9ks 9kr 9lm 9kt 9ja 9ll 9lg 9lp 9ll 9lq 9m3 9ll 9m4 9m5 9ll 9m6 9m7",
    "9ll 9m8 9m9 9ll 9ma 9mb 9ll 9mc 9md 9ll 9me 9mf 9ll 9mg 9mh 9ll 9mi 9mj 9ll 9mk 9ml 9ll 9mm",
    "9mn 9ll 9mo 9mp 9ll 9mq 9ms 9ll 9mt 9mu 9ll 9mv 9mw 9ll 9mx 9n3 9ll 9n4 9n3 9lm 9n5 9n6 9ll",
    "9n7 9n6 9lm 9n8 9n9 9ll 9na 9n9 9lm 9nb 9nc 9ll 9nd 9nc 9lm 9ne 9nf 9ll 9ng 9nf 9lm 9nh 9ly",
    "9ll 9o4 9nz 9ll 9o7 9o0 9ll 9o8 9o1 9ll 9o9 9o2 9ll 9oa 9od 9ll 9oe 1huh 1hve 1hui 1huj 1hve",
    "1huk 1hut 1hve 1huz 1hyp 1hyf 1hym 1hyq 1hyf 1hyn 1idj 1ida 1idn 1idj 1idz 1ido 1int 1inu",
    "1inv 1int 1ink 1inw 1int 1inx 1iny 1iuw 1iun 1iuy 1iux 1iun 1iuz 1jjp 1jjk 1jjs"]

/-- The parts of a code point: syllables of Hangul come apart by rule, others by the table. -/
def parts (n : Nat) : List Nat :=
  if 0xac00 ≤ n ∧ n < 0xac00 + 11172 then
    let s := n - 0xac00
    let tail := s % 28
    [0x1100 + s / 588, 0x1161 + s % 588 / 28] ++ if tail = 0 then [] else [0x11a7 + tail]
  else
    match partTable.find? fun p => p.first ≤ n && n < p.first + p.length with
    | some { first, length := 1, parts := ps } => if n = first then ps else [n]
    | some { first, parts := p :: _, .. } => [p + (n - first)]
    | _ => [n]

/-- The combining class; zero for a character that starts a new group. -/
def combiningClass (n : Nat) : Nat :=
  match classTable.find? fun (first, length, _) => first ≤ n && n < first + length with
  | some (_, _, cls) => cls
  | none => 0

/-- Moves a mark before the marks of a higher class that directly precede it. `done` holds the text
so far, last character first. -/
def placeMark (mark cls : Nat) : List (Nat × Nat) → List (Nat × Nat)
  | (n, c) :: rest => if c > cls then (n, c) :: placeMark mark cls rest else (mark, cls) :: (n, c) :: rest
  | [] => [(mark, cls)]

/-- The code points with marks in canonical order, each with its class. -/
def canonicalOrder (ns : List Nat) : List (Nat × Nat) :=
  (ns.foldl (fun done n =>
    let cls := combiningClass n
    if cls = 0 then (n, 0) :: done else placeMark n cls done) []).reverse

/-- The character that two code points compose to, if there is one. -/
def compose? (a b : Nat) : Option Nat :=
  if 0x1100 ≤ a ∧ a < 0x1113 ∧ 0x1161 ≤ b ∧ b < 0x1176 then
    some (0xac00 + ((a - 0x1100) * 21 + (b - 0x1161)) * 28)
  else if 0xac00 ≤ a ∧ a < 0xac00 + 11172 ∧ (a - 0xac00) % 28 = 0 ∧ 0x11a7 < b ∧ b < 0x11c3 then
    some (a + (b - 0x11a7))
  else
    (pairTable.find? fun (x, y, _) => x == a && y == b).map fun (_, _, c) => c

/-- The state of composing: what is final, the starter that may still grow, the marks kept after
it, and the class of the last of these. -/
structure Composing where
  final : List Nat
  starter : Option Nat
  kept : List Nat
  lastClass : Nat

/-- Closes the group of the current starter. -/
def Composing.close (s : Composing) : List Nat :=
  s.kept ++ s.starter.toList ++ s.final

/-- Takes one more code point with its class. -/
def Composing.step (s : Composing) : Nat × Nat → Composing
  | (n, cls) =>
    let blocked := !s.kept.isEmpty && (s.lastClass == 0 || s.lastClass >= cls)
    match s.starter.bind fun a => if blocked then none else compose? a n with
    | some c => { s with starter := some c }
    | none =>
      if cls = 0 then { final := s.close, starter := some n, kept := [], lastClass := 0 }
      else { s with kept := n :: s.kept, lastClass := cls }

/-- Puts pairs together wherever no mark of the same or a higher class stands between them. -/
def composeAll (ns : List (Nat × Nat)) : List Nat :=
  (ns.foldl Composing.step { final := [], starter := none, kept := [], lastClass := 0 }).close.reverse

/-- The normal form of an identifier's characters. -/
def compatible (cs : List Char) : List Char :=
  if cs.all fun c => c.toNat < 128 then cs
  else (composeAll (canonicalOrder (cs.flatMap fun c => parts c.toNat))).map Char.ofNat

/-- ASCII text is its own normal form. -/
theorem compatible_of_ascii {cs : List Char} (h : ∀ c ∈ cs, c.toNat < 128) : compatible cs = cs := by
  rw [compatible, if_pos (by simpa using h)]

end Inspection.Text
