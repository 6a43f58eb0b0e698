/-! The states of the Ruby parser, core by core. A state is a core with the terminals that may
follow each of its items. -/
namespace Outline.Ruby

/-- For each core its states, one a word: two digits for the token set looked for, then two for the
set that follows the first items. Where sets differ one digit counts the items with the first set,
and the next set comes after it. -/
def stateTexts : List String := [
  "00",
  "016T",
  "4C7m",
  "3f4g 3R4i 3h4h 3G4I 2x7v 0B47 0648 0B49 064B 054A 094C 074D 0246 034H 044E 0A4F 084G",
  "4I6T",
  "014n",
  "2U2b 2U2e 2U2a",
  "014n",
  "3W2b 3W2U 3W2H 3W2B 3W26 3W2C 3W2V 3W27 3W1p 3W0e 3W0g 3W0d 3W0Z 3W2N 3W1o 3W1t 3W1q 3W0O 3W1d
   3W0R 3W0M 3W2W 3W2X 3W28 3W2A 3W2D 3W29 3W2E 3W2F 3W2G 3W2O 3W1u 3W1v 3W1r 3W0P 3W1P 3W1O 3W1Y
   3W0f 3W1Q 3W1a 3W1W 3W1s 3W0Q 3W1c 3W1S 3W1R 3W1Z 3W1T 3W1b 3W1X 3W1U 3W1V 3W20 3W1- 3W1y 3W0i
   3W0h 3W0c 3W0y 3W0x 3W21 3W0j 3W0z 3W2P 3W1w 3W1n 3W24 3W0m 3W10 3W22 3W0k 3W0+ 3W1x 3W0Y 3W0o
   3W25 3W0n 3W11 3W23 3W0l 3W0-",
  "0c2e23z 0c2b26d 0c2a25W",
  "3S3a 3S3s 3S7i 3S3b 3S3c",
  "016E 0c6F 165p 0a6J 176I 0n6H 186G",
  "2U2Z 2U2K 2U2J 2U2Q 2U1l 2U1z 2U1M 2U2Y 2U1k 2U2U 2U1p 2U2H 2U0e 2U26 2U0d 2U2W 2U2O 2U2X 2U00
   2U2R 2U2L 2U1H 2U2V 2U1q 2U27 2U0O 2U1e 2U1f 2U2B 2U2C 2U1+ 2U2I 2U28 2U2A 2U0a 2U0b 2U0g 2U0Z
   2U1N 2U2P 2U1L 2U0N 2U0S 2U0X 2U04 2U05 2U2N 2U1o 2U1t 2U1d 2U0R 2U0M 2U2M 2U29 2U1g 2U2D 2U1h
   2U2E 2U0T 2U0U 2U1u 2U1v 2U1i 2U2F 2U0V 2U1w 2U1j 2U2G 2U0W 2U1n 2U2S 2U1r 2U0q 2U0p 2U20 2U1-
   2U2T 2U0s 2U1s 2U1y 2U0v 2U24 2U0r 2U21 2U0t 2U22 2U0E 2U1x 2U0w 2U25 2U0u 2U23 2U1I 2U0P 2U13
   2U07 2U12 2U06 2U1P 2U0i 2U1O 2U0h 2U1D 2U1Y 2U1m 2U0f 2U0B 2U0m 2U14 2U1Q 2U08 2U0j 2U1F 2U1a
   2U1B 2U1W 2U1J 2U0Q 2U19 2U1U 2U09 2U0k 2U02 2U0Y 2U0C 2U0n 2U0A 2U0l 2U15 2U17 2U16 2U1E 2U18
   2U1G 2U1C 2U1A 2U1c 2U1S 2U1R 2U1Z 2U1T 2U1b 2U1X 2U1V 2U0D 2U0G 2U0F 2U0K 2U0H 2U0I 2U03 2U0L
   2U0J 2U0c 2U0y 2U0x 2U10 2U0z 2U0+ 2U0o 2U11 2U0-",
  "2w5W 2x5a",
  "2M2b 2M2e 2M2a",
  "2M2b 2M2e 2M2a",
  "0V3311o 0Q3411t 0P2k10R 0H2j10M 0V3511u 0Q3611v 0P3913E 0P2o10i 0O2n10h 0H3Q10c 0T2p10j
   0L3110n 0M2z10l 0K2v10Y 0R2t10k 0K2w10Y 0H3A13Y 0H2r10y 0F2q10x 0J2s10z 0D32111 0E2+10-
   0C2x10o 0G2u10+ 0C2y10o 0U3711w 0N3811n 0S3B13F 0I3C13Z 0S2-10m 0I30110",
  "0V3311o 0Q3411t 0P2k10R 0H2j10M 0V3511u 0Q3611v 0P3913E 0P2o10i 0O2n10h 0H3Q10c 0T2p10j
   0L3110n 0M2z10l 0K2v10Y 0R2t10k 0K2w10Y 0H3A13Y 0H2r10y 0F2q10x 0J2s10z 0D32111 0E2+10-
   0C2x10o 0G2u10+ 0C2y10o 0U3711w 0N3811n 0S3B13F 0I3C13Z 0S2-10m 0I30110",
  "0V3311o 0Q3411t 0P2k10R 0H2j10M 0V3511u 0Q3611v 0P3913E 0P2o10i 0O2n10h 0H3Q10c 0T2p10j
   0L3110n 0M2z10l 0K2v10Y 0R2t10k 0K2w10Y 0H3A13Y 0H2r10y 0F2q10x 0J2s10z 0D32111 0E2+10-
   0C2x10o 0G2u10+ 0C2y10o 0U3711w 0N3811n 0S3B13F 0I3C13Z 0S2-10m 0I30110",
  "0V3311o 0Q3411t 0P2k10R 0H2j10M 0V3511u 0Q3611v 0P3913E 0P2o10i 0O2n10h 0H3Q10c 0T2p10j
   0L3110n 0M2z10l 0K2v10Y 0R2t10k 0K2w10Y 0H3A13Y 0H2r10y 0F2q10x 0J2s10z 0D32111 0E2+10-
   0C2x10o 0G2u10+ 0C2y10o 0U3711w 0N3811n 0S3B13F 0I3C13Z 0S2-10m 0I30110",
  "3h2b 3X2e 3S2a",
  "3h2b 3X2e 3S2a",
  "0c2b 0c2e 0c2a",
  "0c2b 0c2e 0c2a",
  "0c2b 0c2e 0c2a",
  "0c2b 0c2e 0c2a",
  "2M2b 2M2e 2M2a",
  "0n2b 0n2e 0n2a",
  "2U2b 2U2e 2U2a",
  "0a2b 0a2e 0a2a",
  "2U1M13t12O 2U1N13q12P 2U1L13p12N 2U0N13311o 2U0S13411t 2U0T13511u 2U0U13611v 2U0X13R11d
   2U2h13S13l 2U0q13H120 2U0p13G11- 2U0s13J11y 2U0r13I121 2U0w13P125 2U0u13N123 2U2c13S13E
   2U0t13K122 2U0V13711w 2U0W13811n 2U2i13T13m 2U0v13O124 2U2d13T13F 2U0E13L11x 2U0E13M11x
   2U3D13R13y 2U0412k10R 2U0512j10M 2U0713H10i 2U2c13913E 2U2f13A13Y 2U0712o10i 2U2d13B13F
   2U2g13C13Z 2U0613G10h 2U0612n10h 2U0B13O10m 2U0B12-10m 2U0D13J10c 2U0D13Q10c 2U0F12q10x
   2U0G12r10y 2U0K130110 2U0813I10j 2U0812p10j 2U0H12s10z 2U0C13P10n 2U0C13110n 2U0L132111
   2U0A13N10l 2U0A12z10l 2U0J12+10- 2U0913K10k 2U0912t10k 2U0I12u10+ 2U0213L10Y 2U0212v10Y
   2U0312x10o 2U0213M10Y 2U0212w10Y 2U0312y10o",
  "2U1M13t12O 2U1N13q12P 2U1L13p12N 2U0N13311o 2U0S13411t 2U0T13511u 2U0U13611v 2U0X13R11d
   2U2h13S13l 2U0q13H120 2U0p13G11- 2U0s13J11y 2U0r13I121 2U0w13P125 2U0u13N123 2U2c13S13E
   2U0t13K122 2U0V13711w 2U0W13811n 2U2i13T13m 2U0v13O124 2U2d13T13F 2U0E13L11x 2U0E13M11x
   2U3D13R13y 2U0412k10R 2U0512j10M 2U0713H10i 2U2c13913E 2U2f13A13Y 2U0712o10i 2U2d13B13F
   2U2g13C13Z 2U0613G10h 2U0612n10h 2U0B13O10m 2U0B12-10m 2U0D13J10c 2U0D13Q10c 2U0G12r10y
   2U0F12q10x 2U0K130110 2U0813I10j 2U0812p10j 2U0H12s10z 2U0C13P10n 2U0C13110n 2U0L132111
   2U0A13N10l 2U0A12z10l 2U0J12+10- 2U0913K10k 2U0912t10k 2U0I12u10+ 2U0213L10Y 2U0212v10Y
   2U0312x10o 2U0213M10Y 2U0212w10Y 2U0312y10o",
  "2U1M13t12O 2U1N13q12P 2U1L13p12N 2U0N13311o 2U0S13411t 2U0T13511u 2U0U13611v 2U0X13R11d
   2U2h13S13l 2U0q13H120 2U0p13G11- 2U0s13J11y 2U0r13I121 2U0w13P125 2U0u13N123 2U2c13S13E
   2U0t13K122 2U0V13711w 2U0W13811n 2U2i13T13m 2U0v13O124 2U2d13T13F 2U0E13L11x 2U0E13M11x
   2U3D13R13y 2U0412k10R 2U0512j10M 2U0713H10i 2U2c13913E 2U2f13A13Y 2U0712o10i 2U2d13B13F
   2U2g13C13Z 2U0613G10h 2U0612n10h 2U0B13O10m 2U0B12-10m 2U0D13J10c 2U0D13Q10c 2U0G12r10y
   2U0F12q10x 2U0K130110 2U0813I10j 2U0812p10j 2U0H12s10z 2U0C13P10n 2U0C13110n 2U0L132111
   2U0A13N10l 2U0A12z10l 2U0J12+10- 2U0913K10k 2U0912t10k 2U0I12u10+ 2U0213L10Y 2U0212v10Y
   2U0312x10o 2U0213M10Y 2U0212w10Y 2U0312y10o",
  "2U1M13t 2U1N13q 2U1L13p 2U0N133 2U0S134 2U0T135 2U0U136 2U0X13R 2U2h13S 2U0q13H 2U0p13G
   2U0s13J 2U0r13I 2U0w13P 2U0u13N 2U2c13S 2U0t13K 2U0V137 2U0W138 2U2i13T 2U0v13O 2U2d13T
   2U0E13L 2U0E13M 2U3D13R 2U0412k 2U0512j 2U0713H 2U2c139 2U2f13A 2U0712o 2U2d13B 2U2g13C
   2U0613G 2U0612n 2U0B13O 2U0B12- 2U0D13J 2U0D13Q 2U0G12r 2U0F12q 2U0K130 2U0813I 2U0812p
   2U0H12s 2U0C13P 2U0C131 2U0L132 2U0A13N 2U0A12z 2U0J12+ 2U0913K 2U0912t 2U0I12u 2U0213L
   2U0212v 2U0312x 2U0213M 2U0212w 2U0312y",
  "3Z4n",
  "3Z4n",
  "3n7f26P17f 3v7a26P17a 3e2l26P12l 3w5-26P15- 4D2b26P12b 3a8G26P18G 3Y2e26P12e 3b1n26P11n
   3T2a26P12a",
  "3f3a 3R3s 3h3b 3G3c",
  "3Z5d 3Q3d 3iAA 3f4g 3Q3r 3R4i 0B47 0648 3h4h 3G4I 0B49 064B 054A 094C 074D 0246 034H 044E 0A4F
   084G 4C6B 4C4W 484Y",
  "3h2b 3X2e 3S2a",
  "3k2b 3k3d 3k3r 3k2m 3k2e 3k2l 3k2a",
  "3Q2m 3Q2l 3h2b 3X2e 3S2a",
  "4C6S 4C7b 4C7k 4C7g 4C7l 4C6X",
  "4C5Z 4C2b 4C5d 4C2m 4C2e 4C2l 4C2a",
  "4C2b 4C2m 4C2e 4C2l 4C2a",
  "4C2b 4C2m 4C2e 4C2l 4C2a",
  "482b 482m 482e 482l 482a",
  "482b 482m 482e 482l 482a",
  "2U1L13p 2U0N133 2U0S134 2U0X13R 2U1M13t 2U0T135 2U0U136 2U2h13S 2U0q13H 2U0p13G 2U0s13J
   2U0r13I 2U0w13P 2U0u13N 2U0E13L 2U2c13S 2U1N13q 2U0t13K 2U0E13M 2U0V137 2U0W138 2U2i13T
   2U0v13O 2U2d13T 2U3D13R 2U0412k 2U0512j 2U0713H 2U0D13J 2U0813I 2U0C13P 2U0A13N 2U2c139
   2U0712o 2U0D13Q 2U0812p 2U0C131 2U0A12z 2U2f13A 2U0G12r 2U0H12s 2U0L132 2U0J12+ 2U0213L
   2U0212v 2U0312x 2U0913K 2U0912t 2U0I12u 2U0213M 2U0212w 2U0312y 2U2d13B 2U2g13C 2U0613G
   2U0612n 2U0F12q 2U0B13O 2U0B12- 2U0K130",
  "012Z12U 012J12W 012Q11p 012Y12X 012U 011p 012W 012X 011M12O 012O 012K189 011l10e 017r18J
   011+128 012I12A 0128 012A 011N12P 012P 012M129 0129 011g18H 012D 010T11u 011u 011e187 010a188
   011i18V 012F 010V11w 011w 011z126 011h18M 010U11v 011k10d 011j18X 010W11n 011f18A 010b18B
   010012V 012R11q 012L127 011H10O 011L12N 010N11o 010X11d 010410R 010S11t 010510M 012H 010e 012V
   011q 012B 010g 0126 012E 011v 012G 011n 010d 012C 010Z 012N 011d 011o 010R 011t 010M 0127 010O
   012S11r 011r 011I10P 011318K 011218I 011D18W 011m10f 011418L 011F18Z 011B18T 012T11s 011s
   011J10Q 011518N 011718P 011618O 011E18Y 011818Q 011G18a 011C18U 010P 010f 011P 011O 011Y
   011918R 011A18S 011Q 011a 011W 010Q 011c 011S 011R 011Z 011T 011b 011X 011U 011V 010q120
   010p11- 0120 011- 010s11y 010710i 010610h 011y 010i 010h 010D10c 010G10y 010F10x 010c 010y
   010x 010v124 0124 010B10m 010K110 010m 0110 010r121 0121 010810j 010H10z 010j 010z 010t122
   010910k 010I10+ 0122 010k 010+ 010E11x 011x 010210Y 010310o 010Y 010o 010w125 0125 010C10n
   010L111 010n 0111 010u123 010A10l 0123 010J10- 010l 010-",
  "2G4+ 2850 1g4- 1Q51 2G52 1f53 1g54 1w55 1O5M 1S5G 1T5C 1W5A 195D 2856 1Q58 1P57 1k59 1A5N 1D5H
   1E5E 1F5B 0z5F 2B5I 1v5J 1+5K 1h5L 3f4g 3X9t 0Q6Y 0B47 0H7M 3R4i 0648 3h4h 3S9z 0Q7N 0B49 0H7P
   064B 0F7O 054A 0J7Q 094C 0G7R 074D 0C6N 0246 0D7V 034H 0E7S 044E 0N7T 0A4F 0I7U 084G 3G4I",
  "2G4+ 2850 1g4- 1Q51 2G52 1f53 1g54 1w55 1O5M 1S5G 1T5C 1W5A 195D 2856 1Q58 1P57 1k59 1A5N 1D5H
   1E5E 1F5B 0z5F 2B5I 1v5J 1+5K 1h5L 3f4g 3X9t 0Q6Y 0B47 0H7M 3R4i 0648 3h4h 3S9z 0Q7N 0B49 0H7P
   064B 0F7O 054A 0J7Q 094C 0G7R 074D 0C6N 0246 0D7V 034H 0E7S 044E 0N7T 0A4F 0I7U 084G 3G4I",
  "016T",
  "3Q6T",
  "3Q4n",
  "3Q7n14q56E 3Q7o14r56F 3Q4S14s55p 3Q3v14w56J 3Q4Z14v56I 3Q4L14u56H 3Q4O14t56G",
  "3Q2j 3Q3n",
  "3Q2j 3Q3n",
  "3Q2j 3Q3n",
  "3Q2j 3Q3n",
  "3Q4r13H 3Q4q13G 3Q4J13O 3Q4M13J 3Q4s13I 3Q4w13P 3Q4v13N 3Q4u13L 3Q4t13K 3Q4k13M",
  "3Q2j 3Q3n",
  "3U3t31M 3U3q31N 3U3530T 3U3630U 3U3730V 3U3830W 3U3S32h 3U3932c 3U3A32f 3U3T32i 3U3B32d
   3U3C32g 3U3p31L 3U3330N 3U3430S 3U3R30X 3U3H30q 3U2o307 3U3G30p 3U2n306 3U3O30v 3U2-30B
   3U3J30s 3U3Q30D 3U2q30F 3U2r30G 3U3030K 3U3I30r 3U3P30w 3U3N30u 3U3L30E 3U2p308 3U3130C
   3U2s30H 3U3230L 3U2z30A 3U2+30J 3U2v302 3U2x303 3U3K30t 3U3M30E 3U2t309 3U2u30I 3U2w302
   3U2y303 3U2k304 3U2j305",
  "3U4P 3U4Q 3X2e 3S2a",
  "3X4N14l74iC4N 3S4K14m74IC4K 3S0c14V75uC0c 3S0M14R75OC0M 3S2a13c74IC2a 3S0N16L747C1o
   3S0S161747C1t 3S0416M748C0R 3S0514R748C0M 3S0T15q749C1u 3S0715s74BC0i 3S0615r74AC0h
   3S0D14V75fC0c 3S0815t74CC0j 3S0915v74DC0k 3S0215Y746C0Y 3S0C15z74HC0n 3S0A15w74EC0l
   3S0U162749C1v 3S0G16474BC0y 3S0F16374AC0x 3S0H16574CC0z 3S0I16674DC0+ 3S0315e746C0o
   3S0L16A74HC11 3S0J16774EC0- 3S0V15x74FC1w 3S0B15y74GC0m 3S0W16874FC1n 3S0K16974GC10",
  "0B6j23t12O55q 0A7A23q12P55x 066k23S13l57s 087B23T13m57t 0B6l23511u55q 066m23913E57s
   0A7C23711w55x 087D23B13F57t 0B6t23611v562 066u23A13Y59+ 0A7G23811n568 087H23C13Z59-
   0B6f23p12N59r 0B6h23311o56L 0B6i23411t561 066g23R11d59s 066o23H12055s 056n23G11-55r
   056q22n10h55r 087E23O12455y 096p23I12155t 037J23P12555z 047723N12355w 027123L11x55Y
   076+23K12255v 027323M11x55Y 087F22-10m55y 096s22p10j55t 037K23110n55z 047822z10l55w
   027222v10Y55Y 076-22t10k55v 027422w10Y55Y 066v23J11y54V 066C22k10R56M 066r22o10i55s
   065b22j10M54R 066w23Q10c54V 066y22r10y564 056x22q10x563 087I230110569 096z22s10z565
   037L23211156A 047922+10-567 027522x10o55e 077022u10+566 027622y10o55e",
  "2G33 2834 1g2k 1Q2j 2G35 2836 1g39 1g2o 1f2n 1Q3Q 1w2p 1O31 1S2z 1T2v 1W2t 192w 1Q3A 1Q2r 1P2q
   1k2s 1A32 1D2+ 1E2x 1F2u 0z2y 2B37 1+38 1v3B 1h3C 1v2- 1h30",
  "3h3314+ 3h34150 3h2k14- 3h2j151 3h35152 3h2o154 3h2n153 3h2p155 3h3115M 3h2z15G 3h2v15C
   3h2t15A 3h2w15D 3h36156 3h2r158 3h2q157 3h2s159 3h3215N 3h2+15H 3h2x15E 3h2u15B 3h2y15F
   3h3715I 3h2-15J 3h3815K 3h3015L",
  "3Q2j 3Q3n",
  "3U4P 3U4Q 3X2e 3S2a",
  "3Q2j 3Q3n",
  "3Q2j 3Q3n",
  "3Q2j 3Q3n",
  "3Q2j 3Q3n",
  "3h2b 3X2e 3S2a",
  "3Q2m 3Q2l 3h2b 3X2e 3S2a",
  "3Q2m 3Q2l 3h2b 3X2e 3S2a",
  "0b1M43t 0b0T435 0b0U436 0b1L43p 0b0N433 0b0S434 0b2h43S 0b2c43S 0b1N43q 0b0V437 0b0W438
   0b0X43R 0b0q43H 0b0p43G 0b0s43J 0b0r43I 0b0w43P 0b0u43N 0b0E43L 0b0t43K 0b0E43M 0b3D43R
   0b0743H 0b0442k 0b0542j 0b2i43T 0b0v43O 0b2d43T 0b0B43O 0b0D43J 0b0843I 0b0C43P 0b0A43N
   0b2c439 0b0742o 0b0D43Q 0b0842p 0b0C431 0b0A42z 0b2f43A 0b0G42r 0b0H42s 0b0L432 0b0J42+
   0b0243L 0b0242v 0b0342x 0b0943K 0b0942t 0b0I42u 0b0243M 0b0242w 0b0342y 0b2d43B 0b0B42-
   0b2g43C 0b0K430 0b0643G 0b0642n 0b0F42q",
  "3fA3",
  "0b5g 3Q4y",
  "0Q6j23t12O 0N7A23q12P 0Q6l23511u 0N7C23711w 0Q6t23611v 0N7G23811n 0H6k23S13l 0H6m23913E
   0H6u23A13Y 0I7B23T13m 0I7D23B13F 0I7H23C13Z 0Q6f23p12N 0Q6h23311o 0Q6i23411t 0H6g23R11d
   0H6o23H120 0F6n23G11- 0F6q22n10h 0I7E23O124 0I7F22-10m 0J6p23I121 0D7J23P125 0E7723N123
   0C7123L11x 0G6+23K122 0C7323M11x 0J6s22p10j 0D7K23110n 0E7822z10l 0C7222v10Y 0G6-22t10k
   0C7422w10Y 0H6C22k10R 0H6r22o10i 0H5b22j10M 0H6v23J11y 0H6w23Q10c 0H6y22r10y 0F6x22q10x
   0I7I230110 0J6z22s10z 0D7L232111 0E7922+10- 0C7522x10o 0G7022u10+ 0C7622y10o",
  "3h2b 3X2e 3S2a",
  "3G2O11M43t21MQ3tQ1K 3G3l12h43S22hQ3SQ1K 3G2P11N43q21NQ3qQ1K 3G3m12i43T22iQ3TQ1K
   3G3E12c43S22cQ3SQ1K 3G3F12d43T22dQ3TQ1K 3G1u10T43520TQ35Q1K 3G1v10U43620UQ36Q1K
   3G1w10V43720VQ37Q1K 3G1n10W43820WQ38Q1K 3G3E12c43922cQ39Q1K 3G3Y12f43A22fQ3AQ1K
   3G3F12d43B22dQ3BQ1K 3G3Z12g43C22gQ3CQ1K 3G2N11L43p21LQ3pQ1K 3G1o10N43320NQ33Q1K
   3G1t10S43420SQ34Q1K 3G1d10X43R20XQ3RQ1K 3G2010q43H20qQ3HQ5g 3G1-10p43G20pQ3GQ1K
   3G0h10643G206Q3GQ1K 3G0h10642n206Q2nQ1K 3G2410v43O20vQ3OQ1K 3G1y10s43J20sQ3JQ1K
   3G2110r43I20rQ3IQ1K 3G2510w43P20wQ3PQ1K 3G2310u43N20uQ3NQ1K 3G1x10E43L20EQ3LQ1K
   3G2210t43K20tQ3KQ1K 3G1x10E43M20EQ3MQ1K 3G0c10D43J20DQ3JQ1K 3G0c10D43Q20DQ3QQ1K
   3G0j10843I208Q3IQ1K 3G0n10C43P20CQ3PQ1K 3G0l10A43N20AQ3NQ1K 3G0Y10243L202Q3LQ1K
   3G0k10943K209Q3KQ1K 3G0Y10243M202Q3MQ1K 3G0j10842p208Q2pQ1K 3G0n10C43120CQ31Q1K
   3G0l10A42z20AQ2zQ1K 3G0Y10242v202Q2vQ1K 3G0k10942t209Q2tQ1K 3G0Y10242w202Q2wQ1K
   3G0m10B43O20BQ3OQ1K 3G0m10B42-20BQ2-Q1K 3G3y13D43R23DQ3RQ1K 3G0i10743H207Q3HQ1K
   3G0i10742o207Q2oQ1K 3G0R10442k204Q2kQ1K 3G0M10542j205Q2jQ1K 3G0y10G42r20GQ2rQ1K
   3G0x10F42q20FQ2qQ1K 3G1010K43020KQ30Q1K 3G0z10H42s20HQ2sQ1K 3G1110L43220LQ32Q1K
   3G0-10J42+20JQ2+Q1K 3G0o10342x203Q2xQ1K 3G0+10I42u20IQ2uQ1K 3G0o10342y203Q2yQ1K",
  "0B6j23t12O55q 0A7A23q12P55x 066k23S13l57s 087B23T13m57t 0B6l23511u55q 066m23913E57s
   0A7C23711w55x 087D23B13F57t 0B6t23611v562 066u23A13Y59+ 0A7G23811n568 087H23C13Z59-
   0B6f23p12N59r 0B6h23311o56L 0B6i23411t561 066g23R11d59s 066o23H12055s 056n23G11-55r
   056q22n10h55r 087E23O12455y 096p23I12155t 037J23P12555z 047723N12355w 027123L11x55Y
   076+23K12255v 027323M11x55Y 087F22-10m55y 096s22p10j55t 037K23110n55z 047822z10l55w
   027222v10Y55Y 076-22t10k55v 027422w10Y55Y 066v23J11y54V 066C22k10R56M 066r22o10i55s
   065b22j10M54R 066w23Q10c54V 066y22r10y564 056x22q10x563 087I230110569 096z22s10z565
   037L23211156A 047922+10-567 027522x10o55e 077022u10+566 027622y10o55e",
  "3Q2m 3Q2l 3h2b 3X2e 3S2a",
  "3d2b 3d2m 3d2e 3d2l 3d2a",
  "3h2b 3S8C 3S2a 3X0O",
  "016E 0c6F 165p 0a6J 176I 0n6H 186G",
  "017n26E 0c7o26F 164S25p 0a3v26J 174Z26I 0n4L26H 184O26G",
  "0c6B 0c4W 0c4Y",
  "4C6B",
  "4J7m",
  "016B 014W 014Y",
  "4C7m16B",
  "016T",
  "0c4n",
  "0B4714a 0B47133 064812k 0B49135 0A4F137 0B47134 064812j 0B49136 0A4F138 3VAe13u 06Ai13u
   064B12o 054A12n 084G12- 094C12p 034H131 044E12z 024612v 074D12t 024612w 065f13Q 064B12r
   054A12q 084G130 094C12s 034H132 044E12+ 024612x 074D12u 024612y",
  "3h2b 3S2a 3X2e",
  "3h2b 3X2e 3S2a",
  "3h2b 3X2e 3S2a",
  "3h2b 3X2e 3S2a",
  "3h2b 3X2e 3S2a",
  "2U2Z12U 2U2J12W 2U2K189 2U7r18J 2U2Y12X 2U2Q11p 2U1l10e 2U2W 2U2X 2U2U 2U1p 2U0012V 2U2R11q
   2U2L127 2U1H10O 2U2V 2U1q 2U27 2U0O 2U1M12O 2U1+128 2U2I12A 2U1z126 2U2O 2U28 2U2A 2U2H 2U0e
   2U1N12P 2U1e187 2U1f18A 2U1g18H 2U0a188 2U2M129 2U1h18M 2U2P 2U29 2U1k10d 2U0b18B 2U2B 2U0g
   2U26 2U2C 2U0d 2U0Z 2U0T11u 2U0U11v 2U2D 2U2E 2U1u 2U1v 2U1i18V 2U1j18X 2U0V11w 2U0W11n 2U2F
   2U1w 2U2G 2U1n 2U2S11r 2U2T11s 2U1r 2U1s 2U1I10P 2U1318K 2U1218I 2U1D18W 2U1m10f 2U1418L
   2U1F18Z 2U0P 2U0f 2U1P 2U1O 2U1Y 2U1B18T 2U1J10Q 2U1Q 2U1a 2U0Q 2U1918R 2U1W 2U1U 2U1L12N
   2U0N11o 2U0S11t 2U0X11d 2U0q120 2U0p11- 2U0s11y 2U0410R 2U0510M 2U2N 2U1o 2U1t 2U1d 2U0R 2U0M
   2U20 2U1- 2U1y 2U0v124 2U0710i 2U0610h 2U0i 2U0h 2U24 2U0B10m 2U0m 2U0r121 2U21 2U0t122
   2U0E11x 2U0w125 2U0u123 2U22 2U1x 2U25 2U23 2U0810j 2U0j 2U0910k 2U0210Y 2U0C10n 2U0A10l 2U0k
   2U0Y 2U0n 2U0l 2U1518N 2U1718P 2U1618O 2U1E18Y 2U1818Q 2U1G18a 2U1C18U 2U1A18S 2U0D10c 2U0G10y
   2U0F10x 2U0K110 2U0H10z 2U0I10+ 2U0310o 2U0L111 2U0J10- 2U1c 2U1S 2U1R 2U1Z 2U1T 2U1b 2U1X
   2U1V 2U0c 2U0y 2U0x 2U10 2U0z 2U0+ 2U0o 2U11 2U0-",
  "2U2Z12U 2U2J12W 2U2K12H 2U2Y12X 2U2Q11p 2U1l10e 2U2W 2U1e12B 2U2X 2U1z126 2U1f12C 2U0a10g
   2U1k10d 2U0b10Z 2U2U 2U1p 2U2H 2U0e 2U2S11r 2U2B 2U0g 2U26 2U0d 2U2C 2U0Z 2U1r 2U2T11s 2U1s
   2U0012V 2U2R11q 2U2L127 2U1H10O 2U2V 2U1q 2U27 2U0O 2U1M12O 2U2O 2U1+128 2U2I12A 2U28 2U2A
   2U1I10P 2U1m10f 2U0P 2U0f 2U1L12N 2U0N11o 2U0S11t 2U0X11d 2U0q120 2U0p11- 2U0s11y 2U0410R
   2U0510M 2U0r121 2U2N 2U1o 2U1t 2U1d 2U0R 2U0M 2U20 2U1- 2U1y 2U21 2U0t122 2U0E11x 2U0w125
   2U0u123 2U22 2U1x 2U25 2U23 2U1N12P 2U0v124 2U2P 2U24 2U1g12D 2U1311P 2U1211O 2U2D 2U1411Q
   2U1F11a 2U1B11W 2U1P 2U1O 2U1911U 2U1Q 2U1a 2U1W 2U1U 2U2M129 2U1h12E 2U29 2U2E 2U1J10Q 2U0Q
   2U0T11u 2U1u 2U0710i 2U0610h 2U0810j 2U0i 2U0h 2U0j 2U0910k 2U0210Y 2U0C10n 2U0A10l 2U0k 2U0Y
   2U0n 2U0l 2U0U11v 2U1v 2U1i12F 2U1D11Y 2U2F 2U1Y 2U1j12G 2U2G 2U0V11w 2U1w 2U0B10m 2U0m
   2U0W11n 2U1n 2U1511c 2U1711S 2U1611R 2U1E11Z 2U1811T 2U1G11b 2U1C11X 2U1A11V 2U0D10c 2U0G10y
   2U0F10x 2U0K110 2U0H10z 2U0I10+ 2U0310o 2U0L111 2U0J10- 2U1c 2U1S 2U1R 2U1Z 2U1T 2U1b 2U1X
   2U1V 2U0c 2U0y 2U0x 2U10 2U0z 2U0+ 2U0o 2U11 2U0-",
  "2U2Z12U 2U2J12W 2U2K12H 2U2Y12X 2U2Q11p 2U1l10e 2U2W 2U1e12B 2U2X 2U1z126 2U1f12C 2U0a10g
   2U1k10d 2U0b10Z 2U2U 2U1p 2U2H 2U0e 2U2S11r 2U2B 2U0g 2U26 2U0d 2U2C 2U0Z 2U1r 2U2T11s 2U1s
   2U0012V 2U2R11q 2U2L127 2U1H10O 2U2V 2U1q 2U27 2U0O 2U1M12O 2U2O 2U1+128 2U2I12A 2U28 2U2A
   2U1I10P 2U1m10f 2U0P 2U0f 2U1L12N 2U0N11o 2U0S11t 2U0X11d 2U0q120 2U0p11- 2U0s11y 2U0410R
   2U0510M 2U0r121 2U2N 2U1o 2U1t 2U1d 2U0R 2U0M 2U20 2U1- 2U1y 2U21 2U0t122 2U0E11x 2U0w125
   2U0u123 2U22 2U1x 2U25 2U23 2U1N12P 2U0v124 2U2P 2U24 2U1g12D 2U1311P 2U1211O 2U2D 2U1411Q
   2U1F11a 2U1B11W 2U1P 2U1O 2U1911U 2U1Q 2U1a 2U1W 2U1U 2U2M129 2U1h12E 2U29 2U2E 2U1J10Q 2U0Q
   2U0T11u 2U1u 2U0710i 2U0610h 2U0810j 2U0i 2U0h 2U0j 2U0910k 2U0210Y 2U0C10n 2U0A10l 2U0k 2U0Y
   2U0n 2U0l 2U0U11v 2U1v 2U1i12F 2U1D11Y 2U2F 2U1Y 2U1j12G 2U2G 2U0V11w 2U1w 2U0B10m 2U0m
   2U0W11n 2U1n 2U1511c 2U1711S 2U1611R 2U1E11Z 2U1811T 2U1G11b 2U1C11X 2U1A11V 2U0D10c 2U0G10y
   2U0F10x 2U0K110 2U0H10z 2U0I10+ 2U0310o 2U0L111 2U0J10- 2U1c 2U1S 2U1R 2U1Z 2U1T 2U1b 2U1X
   2U1V 2U0c 2U0y 2U0x 2U10 2U0z 2U0+ 2U0o 2U11 2U0-",
  "2U2Z 2U2J 2U2K 2U2Y 2U2Q 2U1l 2U2W 2U1e 2U2X 2U1z 2U1f 2U0a 2U1k 2U0b 2U2U 2U1p 2U2H 2U0e 2U2S
   2U2B 2U0g 2U26 2U0d 2U2C 2U0Z 2U1r 2U2T 2U1s 2U00 2U2R 2U2L 2U1H 2U2V 2U1q 2U27 2U0O 2U1M 2U2O
   2U1+ 2U2I 2U28 2U2A 2U1I 2U1m 2U0P 2U0f 2U1L 2U0N 2U0S 2U0X 2U0q 2U0p 2U0s 2U04 2U05 2U0r 2U2N
   2U1o 2U1t 2U1d 2U0R 2U0M 2U20 2U1- 2U1y 2U21 2U0t 2U0E 2U0w 2U0u 2U22 2U1x 2U25 2U23 2U1N 2U0v
   2U2P 2U24 2U1g 2U13 2U12 2U2D 2U14 2U1F 2U1B 2U1P 2U1O 2U19 2U1Q 2U1a 2U1W 2U1U 2U2M 2U1h 2U29
   2U2E 2U1J 2U0Q 2U0T 2U1u 2U07 2U06 2U08 2U0i 2U0h 2U0j 2U09 2U02 2U0C 2U0A 2U0k 2U0Y 2U0n 2U0l
   2U0U 2U1v 2U1i 2U1D 2U2F 2U1Y 2U1j 2U2G 2U0V 2U1w 2U0B 2U0m 2U0W 2U1n 2U15 2U17 2U16 2U1E 2U18
   2U1G 2U1C 2U1A 2U0D 2U0G 2U0F 2U0K 2U0H 2U0I 2U03 2U0L 2U0J 2U1c 2U1S 2U1R 2U1Z 2U1T 2U1b 2U1X
   2U1V 2U0c 2U0y 2U0x 2U10 2U0z 2U0+ 2U0o 2U11 2U0-",
  "2U2Z 2U2J 2U2K 2U2Y 2U2Q 2U1l 2U2W 2U2X 2U2U 2U1p 2U00 2U2R 2U2L 2U1H 2U2V 2U1q 2U27 2U0O 2U1M
   2U1+ 2U2I 2U1z 2U2O 2U28 2U2A 2U2H 2U0e 2U1N 2U1e 2U1f 2U1g 2U0a 2U2M 2U1h 2U2P 2U29 2U1k 2U0b
   2U2B 2U0g 2U26 2U2C 2U0d 2U0Z 2U0T 2U0U 2U2D 2U2E 2U1u 2U1v 2U1i 2U1j 2U0V 2U0W 2U2F 2U1w 2U2G
   2U1n 2U2S 2U2T 2U1r 2U1s 2U1I 2U13 2U12 2U1D 2U1m 2U14 2U1F 2U0P 2U0f 2U1P 2U1O 2U1Y 2U1B 2U1J
   2U1Q 2U1a 2U0Q 2U19 2U1W 2U1U 2U1L 2U0N 2U0S 2U0X 2U0q 2U0p 2U0s 2U04 2U05 2U2N 2U1o 2U1t 2U1d
   2U0R 2U0M 2U20 2U1- 2U1y 2U0v 2U07 2U06 2U0i 2U0h 2U24 2U0B 2U0m 2U0r 2U21 2U0t 2U0E 2U0w 2U0u
   2U22 2U1x 2U25 2U23 2U08 2U0j 2U09 2U02 2U0C 2U0A 2U0k 2U0Y 2U0n 2U0l 2U15 2U17 2U16 2U1E 2U18
   2U1G 2U1C 2U1A 2U0D 2U0G 2U0F 2U0K 2U0H 2U0I 2U03 2U0L 2U0J 2U1c 2U1S 2U1R 2U1Z 2U1T 2U1b 2U1X
   2U1V 2U0c 2U0y 2U0x 2U10 2U0z 2U0+ 2U0o 2U11 2U0-",
  "3W4f 3W33 3W34 3W35 3W2o 3W2n 3W2p 3W31 3W36 3W2z 3W2k 3W2j 3W2v 3W37 3W2- 3W38 3W2t 3W2w 3W3Q
   3W2r 3W2q 3W30 3W2s 3W32 3W2+ 3W2x 3W2u 3W2y",
  "0Q6Y14a 0Q6Y133 0H7M12k 0Q7N135 0N7T137 0Q6Y134 0H7M12j 0Q7N136 0N7T138 3S9p13u 0HA013u
   0H7P12o 0F7O12n 0I7U12- 0J7Q12p 0D7V131 0E7S12z 0C6N12v 0G7R12t 0C6N12w 0HA113Q 0H7P12r
   0F7O12q 0I7U130 0J7Q12s 0D7V132 0E7S12+ 0C6N12x 0G7R12u 0C6N12y",
  "0Q6Y14a 0Q6Y133 0H7M12k 0Q7N135 0N7T137 0Q6Y134 0H7M12j 0Q7N136 0N7T138 3S9p13u 0HA013u
   0H7P12o 0F7O12n 0I7U12- 0J7Q12p 0D7V131 0E7S12z 0C6N12v 0G7R12t 0C6N12w 0HA113Q 0H7P12r
   0F7O12q 0I7U130 0J7Q12s 0D7V132 0E7S12+ 0C6N12x 0G7R12u 0C6N12y",
  "2G35 2836 2B37 1+38 2U4f 1g2o 1f2n 1v2- 1w2p 1O31 1S2z 1T2v 1W2t 192w 1Q3Q 2G33 2834 1g2k 1Q2j
   1Q2r 1P2q 1h30 1k2s 1A32 1D2+ 1E2x 1F2u 0z2y",
  "2y4bS3u",
  "3f2b53a 3R4N54l 3G0M54R 3h2b53b 3G4K54m 3G2a53c",
  "012b 012e 012a",
  "0b2Z 0b2J 0b2Y 0b2S 0b1M 0b2T 0b1N 0b2W 0b2O 0b2X 0b2P 0b2K 0b1+ 0b2I 0b1I 0b1m 0b1g 0b13 0b12
   0b14 0b1F 0b0T 0b1B 0b2M 0b1J 0b19 0b1i 0b1D 0b0V 0b28 0b2A 0b2D 0b1u 0b29 0b2F 0b1w 0b2Q 0b1l
   0b1e 0b1z 0b1h 0b0U 0b1j 0b0W 0b1f 0b0a 0b1k 0b0b 0b1L 0b0N 0b0S 0b2U 0b1p 0b1r 0b1s 0b0P 0b0f
   0b1P 0b1O 0b1Y 0b1Q 0b1a 0b1W 0b0Q 0b1U 0b2H 0b0e 0b0X 0b0q 0b0p 0b0v 0b0s 0b0r 0b0t 0b0E 0b0w
   0b0u 0b04 0b07 0b06 0b0B 0b08 0b09 0b02 0b0C 0b0A 0b05 0b2B 0b0g 0b26 0b2E 0b1v 0b2G 0b1n 0b0d
   0b2C 0b0Z 0b2N 0b1o 0b1t 0b1d 0b20 0b1- 0b24 0b1y 0b21 0b22 0b1x 0b25 0b23 0b0R 0b0i 0b0h 0b0m
   0b0j 0b0k 0b0Y 0b0n 0b0l 0b0M 0b00 0b2R 0b2L 0b1H 0b2V 0b1q 0b27 0b0O 0b15 0b17 0b16 0b1E 0b18
   0b1G 0b1C 0b1A 0b0D 0b0G 0b0F 0b0K 0b0H 0b0I 0b03 0b0L 0b0J 0b1c 0b1S 0b1R 0b1Z 0b1T 0b1b 0b1X
   0b1V 0b0c 0b0y 0b0x 0b10 0b0z 0b0+ 0b0o 0b11 0b0-",
  "3h2b 3X4N 3S4K 3S0M 3S2a",
  "3G2U12ZU1K 3G2H12KU1K 3G2N11LU1K 3G2B11eU1K 3G1o10NU1K 3G0g10aU1K 3G2BV1K 3G1p12QU1K
   3G0e11lU1K 3G1d10XU1K 3G0R104U1K 3G2W12JU1K 3G2O11MU1K 3G2P11NU1K 3G2X12YU1K 3G1r12SU1K
   3G2010qU1K 3G1-10pU1K 3G2410vU1K 3G2110rU1K 3G2210tU1K 3G1x10EU1K 3G2510wU1K 3G2310uU1K
   3G1s12TU1K 3G1y10sU1K 3G2UV1K 3G2NV1K 3G1oV1K 3G2HV1K 3G1pV1K 3G1dV1K 3G0eV1K 3G0gV1K 3G0RV1K
   3G2611zU1K 3G2C11fU1K 3G1t10SU1K 3G0d11kU1K 3G0Z10bU1K 3G0M105U1K 3G2811+U1K 3G2A12IU1K
   3G2D11gU1K 3G1u10TU1K 3G2F11iU1K 3G1w10VU1K 3G0P11IU1K 3G1P113U1K 3G0i107U1K 3G1O112U1K
   3G0h106U1K 3G1Y11DU1K 3G1Q114U1K 3G1a11FU1K 3G0j108U1K 3G0k109U1K 3G0n10CU1K 3G1W11BU1K
   3G0l10AU1K 3G1U119U1K 3G0Y102U1K 3G0f11mU1K 3G0m10BU1K 3G2912MU1K 3G2E11hU1K 3G1v10UU1K
   3G2G11jU1K 3G1n10WU1K 3G0Q11JU1K 3G1c115U1K 3G1S117U1K 3G1R116U1K 3G1Z11EU1K 3G1T118U1K
   3G1b11GU1K 3G1X11CU1K 3G1V11AU1K 3G0c10DU1K 3G0y10GU1K 3G0x10FU1K 3G1010KU1K 3G0z10HU1K
   3G0+10IU1K 3G0o103U1K 3G1110LU1K 3G0-10JU1K 3G2WV1K 3G2OV1K 3G2PV1K 3G1rV1K 3G20V1K 3G1-V1K
   3G24V1K 3G21V1K 3G22V1K 3G1xV1K 3G25V1K 3G23V1K 3G2XV1K 3G1sV1K 3G1yV1K 3G26V1K 3G2CV1K
   3G1tV1K 3G0dV1K 3G0ZV1K 3G0MV1K 3G28V1K 3G2AV1K 3G2DV1K 3G1uV1K 3G2FV1K 3G1wV1K 3G0PV1K
   3G1PV1K 3G0iV1K 3G1OV1K 3G0hV1K 3G1YV1K 3G1QV1K 3G0jV1K 3G0kV1K 3G1aV1K 3G0nV1K 3G1WV1K
   3G0lV1K 3G1UV1K 3G0YV1K 3G0fV1K 3G0mV1K 3G29V1K 3G2EV1K 3G1vV1K 3G2GV1K 3G1nV1K 3G0QV1K
   3G1cV1K 3G1SV1K 3G1RV1K 3G1ZV1K 3G1TV1K 3G1bV1K 3G1XV1K 3G1VV1K 3G0cV1K 3G0yV1K 3G0xV1K
   3G10V1K 3G0zV1K 3G0+V1K 3G0oV1K 3G11V1K 3G0-V1K 3R2V100U1K 3R1q12RU1K 3R2VV1K 3R1qV1K
   3R2712LU1K 3R0O11HU1K 3R27V1K 3R0OV1K",
  "3f2b53a 3R4N54l 3G0M54R 3h2b53b 3G4K54m 3G2a53c",
  "3S1o24f 3S9u23u 3S1o233 3S1t234 3S0R22k 3S0M22j 3S1u235 3S0i22o 3S0h22n 3S0j22p 3S0n231
   3S0l22z 3S0Y22v 3S0k22t 3S0Y22w 3S0c23Q 3S1v236 3S0y22r 3S0x22q 3S0z22s 3S11232 3S0-22+
   3S0o22x 3S0+22u 3S0o22y 3S1w237 3S0m22- 3S1n238 3S10230",
  "0c4n",
  "457v15Z",
  "2U2b 2U2U 2U2H 2U2V 2U1p 2U0e 2U2B 2U26 2U2C 2U2N 2U1o 2U1t 2U1q 2U0g 2U0d 2U0Z 2U27 2U0O 2U1d
   2U0R 2U0M 2U2W 2U2X 2U28 2U2A 2U2D 2U29 2U2E 2U2F 2U2G 2U2O 2U1u 2U1v 2U1r 2U1- 2U0P 2U1O 2U0h
   2U1P 2U1Y 2U0f 2U1Q 2U1a 2U1W 2U1s 2U1y 2U0Q 2U1c 2U0c 2U1R 2U0x 2U1S 2U1Z 2U1T 2U1b 2U1X 2U1U
   2U1V 2U20 2U0i 2U0y 2U21 2U0j 2U0z 2U2P 2U1w 2U1n 2U24 2U0m 2U10 2U22 2U0k 2U0+ 2U1x 2U0Y 2U0o
   2U25 2U0n 2U11 2U23 2U0l 2U0-",
  "2G4+ 2850 1g4- 1Q51 2G52 1f53 1g54 1w55 1O5M 1S5G 1T5C 1W5A 195D 2856 1Q58 1P57 1k59 1A5N 1D5H
   1E5E 1F5B 0z5F 2B5I 1v5J 1+5K 1h5L 3Z5d 3Q5n 3f4g 0B47 0B49 054A 064B 094C 074D 0246 034H 044E
   3R4i 0648 3h4h 0A4F 084G 3G4I 3i5Z",
  "3i7v15Z",
  "3Z5d 3Q5n 3i5Z",
  "3Z5d 3Q5n 3i5Z",
  "3Z5d 3Q5n 3i5Z",
  "3h2b 3X2e 3S2a",
  "2x2b 2x2U 2x2H 2x2V 2x1p 2x0e 2x2B 2x26 2x2C 2x2N 2x1o 2x1t 2x1q 2x0g 2x0d 2x0Z 2x27 2x0O 2x1d
   2x0R 2x0M 2x2W 2x2X 2x28 2x2A 2x2D 2x29 2x2E 2x2F 2x2G 2x2O 2x1u 2x1v 2x1r 2x1- 2x0P 2x1O 2x0h
   2x1P 2x1Y 2x0f 2x1Q 2x1a 2x1W 2x1s 2x1y 2x0Q 2x1c 2x0c 2x1R 2x0x 2x1S 2x1Z 2x1T 2x1b 2x1X 2x1U
   2x1V 2x20 2x0i 2x0y 2x21 2x0j 2x0z 2x2P 2x1w 2x1n 2x24 2x0m 2x10 2x22 2x0k 2x0+ 2x1x 2x0Y 2x0o
   2x25 2x0n 2x11 2x23 2x0l 2x0-",
  "3i2b 3i2U 3i2H 3i2B 3i26 3i2C 3i0g 3i2V 3i27 3i0d 3i0Z 3i1p 3i0e 3i2N 3i1o 3i1t 3i1q 3i0O 3i1d
   3i0R 3i0M 3i2W 3i2X 3i28 3i2A 3i2D 3i29 3i2E 3i2F 3i2G 3i2O 3i1u 3i1v 3i1r 3i1- 3i0P 3i1O 3i0h
   3i1P 3i1Y 3i0f 3i1Q 3i1a 3i1W 3i1s 3i1y 3i0Q 3i1U 3i20 3i0i 3i1c 3i1R 3i1S 3i1Z 3i1T 3i1b 3i1X
   3i1V 3i0c 3i0x 3i0y 3i21 3i0j 3i0z 3i2P 3i1w 3i1n 3i24 3i0m 3i10 3i22 3i0k 3i0+ 3i1x 3i0Y 3i0o
   3i25 3i0n 3i11 3i23 3i0l 3i0-",
  "3h2b 3X2e 3S2a",
  "012b 012e 012a",
  "0b1K16d",
  "0Z7i 3f3a 3R3s 3h3b 3G3c",
  "3U1e 3S2B 3U0a 3S0g 3U1z 3S26 3U1f 3S2C 3U1k 3S0d 3U0b 3S0Z 2y2Z 3S2U 2y2K 3S2H 3U1L 3S2N 3U0N
   3S1o 3U0S 3S1t 3U2Q 3S1p 3U1l 3S0e 3U0X 3S1d 3U04 3S0R 3U05 3S0M 2y2J 3S2W 3U1M 3S2O 3U1N 3S2P
   3U2Y 3S2X 2y1+ 3S28 3U2I 3S2A 3U1g 3S2D 3U0T 3S1u 3U1i 3S2F 3U0V 3S1w 3U2M 3S29 3U1h 3S2E 3U0U
   3S1v 3U1j 3S2G 3U0W 3S1n 3U2S 3U0p 3U0q 3U0v 3U0r 3U0t 3U0E 3U0w 3U0u 3S1r 3S1- 3S20 3S24 3S21
   3S22 3S1x 3S25 3S23 3U1I 3U12 3U06 3U13 3U07 3U1D 3U14 3U08 3U09 3U1F 3U0C 3U1B 3U0A 3U19 3U02
   3S0P 3S1O 3S0h 3S1P 3S0i 3S1Y 3S1Q 3S0j 3S0k 3S1a 3S0n 3S1W 3S0l 3S1U 3S0Y 3U1m 3U0B 3S0f 3S0m
   3U2T 3U0s 3S1s 3S1y 3U1J 3U15 3U16 3U17 3U1E 3U18 3U1G 3U1C 3U1A 3U0D 3U0F 3U0G 3U0K 3U0H 3U0I
   3U03 3U0L 3U0J 3S0Q 3S1c 3S1R 3S1S 3S1Z 3S1T 3S1b 3S1X 3S1V 3S0c 3S0x 3S0y 3S10 3S0z 3S0+ 3S0o
   3S11 3S0- 3U00 3T2V 3U2R 3X1q 3U2L 3T27 3U1H 3X0O",
  "0c2b",
  "012b 017f 017a 012l 015-",
  "012b",
  "012b",
  "012b 017f 017a 012l 015-",
  "3h3a74gC2b 3h2b67i14oC2b 3h3b74hC2b",
  "3f2b16d",
  "0Y2b64o 0Y2a64o 0Y2e64o",
  "2U2b 2U2a 2U2e",
  "0Z2b 0Z2a62b 0Z2e62b",
  "0Y2b44o 0Y2a44o 0Y2e44o",
  "0Z2b 0Z2a42b 0Z2e42b",
  "2G3510T 283610U 2B3710V 1+3810W 2U4a10N 1g2o107 1f2n106 1v2-10B 1w2p108 1O3110C 1S2z10A
   1T2v102 1W2t109 192w102 1Q3Q10D 1Q2r10G 1P2q10F 1h3010K 1k2s10H 1A3210L 1D2+10J 1E2x103
   1F2u10I 0z2y103 2G3310N 283410S 1g2k104 1Q2j105",
  "2U7h 2U2e 2U2a",
  "2G35 2836 2B37 1+38 2U4a 1g2o 1f2n 1v2- 1w2p 1O31 1S2z 1T2v 1W2t 192w 1Q3Q 2G33 2834 1g2k 1Q2j
   1Q2r 1P2q 1h30 1k2s 1A32 1D2+ 1E2x 1F2u 0z2y",
  "2M1+ 1s28 2T2M 2F29 2I1I 1Y0P 2S1J 260Q 2T1z 2F26 2S1k 260d 2M2L 1s27 2I1H 1Y0O 2W6V 2Q2I 242A
   2O1m 1p0f 2G35 2R1g 252D 2H0T 1b1u 2836 2N1h 1t2E 290U 1L1v 2B37 2P1i 1u2F 2E0V 1M1w 1+38 2L1j
   1d2G 230W 151n 2U4a 2M2K 1s2H 2I1l 1Y0e 1g2o 2A13 1I1P 1f2n 2712 1H1O 1v2- 2J1D 1Z1Y 1w2p 2K14
   1c1Q 1O31 1-1F 111a 1S2z 211B 131W 1T2v 2219 141U 1W2t 192w 1Q3Q 1z15 101c 2G33 2R1e 252B 2H0N
   1b1o 2834 2N1f 1t2C 290S 1L1t 1g2k 2A0a 1I0g 1l04 0r0R 1l07 0r0i 1j06 0p0h 1x0B 0+0m 1e0D 0m0c
   2008 120j 1r09 0w0k 1U02 0i0Y 1V0C 0j0n 1X0A 0k0l 1Q2j 1z0b 100Z 1e05 0m0M 1Q2r 1z17 101S 1e0G
   0m0y 1P2q 1y16 0-1R 1R0F 0h0x 1h30 2C1E 1J1Z 1i0K 0q10 1k2s 2D18 1K1T 1m0H 0s0z 1A32 1n1G 0t1b
   1D2+ 1o1C 0u1X 1E2x 1q1A 0v1V 1F2u 1a0I 0l0+ 1C0L 0e11 1G0J 0f0- 0z2y 1B03 0d0o",
  "3Q4a133 3Q2j 3Q3n",
  "3U7p34eS3u 3U3330NS4a 3U3530TS35 3U3630US36 3U3932cS39 3U2n306S2n 3U2o307S2o 3U2p308S2p
   3U3130CS31 3U2z30AS2z 3U2v302S2v 3U2t309S2t 3U2w302S2w 3U3Q30DS3Q 3U3A32fS3A 3U3730VS37
   3U3830WS38 3U3B32dS3B 3U2-30BS2- 3U3C32gS3C 3U3330NS33 3U3430SS34 3U2k304S2k 3U2j305S2j
   3U2r30GS2r 3U2q30FS2q 3U3030KS30 3U2s30HS2s 3U3230LS32 3U2+30JS2+ 3U2x303S2x 3U2u30IS2u
   3U2y303S2y",
  "3Q3n 3Q2j",
  "3h2b 3S2a 3X2e",
  "3Q33 3Q34 3Q2k 3Q2j 3Q35 3Q36 3Q39 3Q2n 3Q2o 3Q3Q 3Q2p 3Q31 3Q2z 3Q2v 3Q2t 3Q2w 3Q3A 3Q2r 3Q2q
   3Q2s 3Q32 3Q2+ 3Q2x 3Q2u 3Q2y 3Q37 3Q38 3Q3B 3Q2- 3Q3C 3Q30",
  "3Q2j 3Q3n",
  "3Q3n 3Q2j",
  "3h2b 3S2a 3X2e",
  "3Q3n 3Q2j",
  "3h2b 3S2a 3X2e",
  "3Q3n 3Q2j",
  "3h2b 3S2a 3X2e",
  "3h2b 3S2a 3X2e",
  "3h2b 3S2a 3X2e",
  "3Q4J52b 3Q4J52a 3Q4J52e",
  "3Q4J52b 3Q4J52a 3Q4J52e",
  "3Q4M52b 3Q4M52a 3Q4M52e",
  "3Q4M52b 3Q4M52a 3Q4M52e",
  "3Q2b 3Q2a 3Q2e",
  "3h2b24y 3h2a12b14y 3h2e12b14y",
  "3h2b 3S2a 3X2e",
  "016E 0c6F 165p 0a9k 0oAc 176I 0gAb 186G 0yAZ 3QA5 0n6H 0xAa",
  "2U4L",
  "164S 0a3v",
  "3Q4k52b 3Q4k52a 3Q4k52e",
  "3Q4L",
  "3Q2b 3Q2a 3Q2e",
  "3Q2b 3Q2a 3Q2e",
  "3Q2b24L 3Q2a24L 3Q2e24L",
  "3h2b 3S2a 3X2e",
  "012b 012e 012a",
  "014j",
  "3h2b 3S2a 3X2e",
  "2W3v",
  "165p 0a6J19k",
  "0a3v",
  "3Q4S",
  "3Q3v",
  "3Q2b 3Q2a 3Q2e",
  "0a2b 0a2a 0a2e",
  "3Q4S13v",
  "3Q2j 3Q3n",
  "3U3t31M 3U3530T 3U3630U 3U3q31N 3U3730V 3U3830W 3U3S32h 3U3G30p 3U3J30s 3U3I30r 3U3P30w
   3U3N30u 3U3L30E 3U3K30t 3U3M30E 3U3932c 3U2n306 3U2p308 3U3130C 3U2z30A 3U2v302 3U2t309
   3U2w302 3U3Q30D 3U3A32f 3U2q30F 3U2s30H 3U3230L 3U2+30J 3U2x303 3U2u30I 3U2y303 3U3T32i
   3U3O30v 3U3B32d 3U2-30B 3U3C32g 3U3030K 3U3p31L 3U3330N 3U3430S 3U3R30X 3U3H30q 3U2k304
   3U2o307 3U2r30G 3U2j305",
  "3X2e 3S2a",
  "3Q2j 3Q3n",
  "3U3t31M 3U3530T 3U3630U 3U3q31N 3U3730V 3U3830W 3U3S32h 3U3G30p 3U3J30s 3U3I30r 3U3P30w
   3U3N30u 3U3L30E 3U3K30t 3U3M30E 3U3932c 3U2n306 3U2p308 3U3130C 3U2z30A 3U2v302 3U2t309
   3U2w302 3U3Q30D 3U3A32f 3U2q30F 3U2s30H 3U3230L 3U2+30J 3U2x303 3U2u30I 3U2y303 3U3T32i
   3U3O30v 3U3B32d 3U2-30B 3U3C32g 3U3030K 3U3p31L 3U3330N 3U3430S 3U3R30X 3U3H30q 3U2k304
   3U2o307 3U2r30G 3U2j305",
  "3X2e 3S2a",
  "3Q2j 3Q3n",
  "3U3t31M 3U3530T 3U3630U 3U3q31N 3U3730V 3U3830W 3U3S32h 3U3G30p 3U3J30s 3U3I30r 3U3P30w
   3U3N30u 3U3L30E 3U3K30t 3U3M30E 3U3932c 3U2n306 3U2p308 3U3130C 3U2z30A 3U2v302 3U2t309
   3U2w302 3U3Q30D 3U3A32f 3U2q30F 3U2s30H 3U3230L 3U2+30J 3U2x303 3U2u30I 3U2y303 3U3T32i
   3U3O30v 3U3B32d 3U2-30B 3U3C32g 3U3030K 3U3p31L 3U3330N 3U3430S 3U3R30X 3U3H30q 3U2k304
   3U2o307 3U2r30G 3U2j305",
  "3X2e 3S2a",
  "3Q2j 3Q3n",
  "3U3330N 3U3430S 3U2k304 3U2j305 3U3530T 3U3630U 3U3932c 3U2n306 3U2o307 3U2p308 3U3130C
   3U2z30A 3U2v302 3U2t309 3U2w302 3U3A32f 3U2r30G 3U2q30F 3U2s30H 3U3230L 3U2+30J 3U2x303
   3U2u30I 3U2y303 3U3730V 3U3830W 3U3B32d 3U2-30B 3U3C32g 3U3030K",
  "3c5d 3j5n 455Z",
  "3Q4n",
  "3Z4n",
  "3Q2l 3Q2m 3h2b 3S2a 3X2e",
  "3Q2l 3Q2m 3h2b 3S2a 3X2e",
  "4G4z 4G4X 4G5T 4G5V",
  "0c3a 0c3x 0c3w 0c2l 0c2m 0c2e 0c3s 0c3b 0c2a 0c3c",
  "3l5i 3l6R",
  "3Q5j 014X",
  "3d8j 4F33 4A2k 3k4z 3v34 3w2j 3d4X 4E5X 4F35 3v36 4A39 412n 422o 442p 3x31 3z2z 3-2v 402t 3t2w
   3w3A 3s2r 3u2q 3+2s 3o32 3p2+ 3q2x 3r2u 3m2y 4B37 4738 493B 432- 463C 3y30",
  "3d7w 4E4U 4F33 4A2k 3k4z 3v34 3w2j 3d4X 4F35 3v36 4A39 412n 422o 442p 3x31 3z2z 3-2v 402t 3t2w
   3w3A 3s2r 3u2q 3+2s 3o32 3p2+ 3q2x 3r2u 3m2y 4B37 4738 493B 432- 463C 3y30",
  "3d8h 3k4z 3d4X",
  "0a3a 0a3x 0a3w 0a2l 0a2m 0a2e 0a3s 0a3b 0a2a 0a3c",
  "3Q2b 3Q3d 3Q2l 3Q2a 3Q3r 3Q2m 3Q2e",
  "3Q5i 017c",
  "3Q5j 014X",
  "3Q2l 3Q2m 3h2b 3S2a 3X2e",
  "4C4W 484Y",
  "3g7g 3g7b 3h6S 3S7l 3S7k 3X6X",
  "4C6S14W 4C7g14W 4C7l14W 4C6X14W 4C7b14W 4C7k14W",
  "3Z5d 3Q2l 3Q2m 3i5Z 3h2b 3S2a 3X2e",
  "4C5Z14W 4C2b14W 4C2l14W 4C2a14W 4C5d14W 4C2m14W 4C2e14W",
  "3Q2l 3Q2m 3h2b 3S2a 3X2e",
  "4C2b14W 4C2l14W 4C2a14W 4C2m14W 4C2e14W",
  "3Q2l 3Q2m 3h2b 3S2a 3X2e",
  "4C2b14W 4C2l14W 4C2a14W 4C2m14W 4C2e14W",
  "482b 482l 482a 482m 482e",
  "3Q2l 3Q2m 3h2b 3S2a 3X2e",
  "482b44Y 482l44Y 482a44Y 482m44Y 482e44Y",
  "482b 482l 482a 482m 482e",
  "3Q2l 3Q2m 3h2b 3S2a 3X2e",
  "482b44Y 482l44Y 482a44Y 482m44Y 482e44Y",
  "3Q2j 3Q3n",
  "3U3t31M 3U3530T 3U3630U 3U3q31N 3U3730V 3U3830W 3U3S32h 3U3G30p 3U3J30s 3U3I30r 3U3P30w
   3U3N30u 3U3L30E 3U3K30t 3U3M30E 3U3932c 3U2n306 3U2p308 3U3130C 3U2z30A 3U2v302 3U2t309
   3U2w302 3U3Q30D 3U3A32f 3U2q30F 3U2s30H 3U3230L 3U2+30J 3U2x303 3U2u30I 3U2y303 3U3T32i
   3U3O30v 3U3B32d 3U2-30B 3U3C32g 3U3030K 3U3p31L 3U3330N 3U3430S 3U3R30X 3U3H30q 3U2k304
   3U2o307 3U2r30G 3U2j305",
  "3U4P 3U4Q 3X2e 3S2a",
  "3S7r18J 3S1e187 3S0a188 3S2B 3S0g 3S1z126 3S1f18A 3S1k10d 3S0b18B 3S26 3S2C 3S0d 3S0Z 3S2Z12U
   3S2K189 3S1L12N 3S0N11o 3S0S11t 3S2Q11p 3S1l10e 3S0X11d 3S0410R 3S0510M 3S2J12W 3S1M12O
   3S1N12P 3S2Y12X 3S1+128 3S1g18H 3S0T11u 3S1i18V 3S2I12A 3S0V11w 3S2M129 3S1h18M 3S0U11v
   3S1j18X 3S0W11n 3S2S11r 3S0p11- 3S0q120 3S0v124 3S0r121 3S0t122 3S0E11x 3S0w125 3S0u123
   3S1I10P 3S1218I 3S0610h 3S1318K 3S0710i 3S1D18W 3S1418L 3S1F18Z 3S1B18T 3S1918R 3S0810j
   3S0910k 3S0210Y 3S0C10n 3S0A10l 3S1m10f 3S0B10m 3S2T11s 3S0s11y 3S1J10Q 3S1518N 3S1618O
   3S1718P 3S1E18Y 3S1818Q 3S1G18a 3S1C18U 3S1A18S 3S0D10c 3S0F10x 3S0G10y 3S0K110 3S0H10z
   3S0I10+ 3S0310o 3S0L111 3S0J10- 3S2W 3S2O 3S2P 3S2X 3S28 3S2A 3S2D 3S1u 3S2F 3S1w 3S29 3S2E
   3S1v 3S2G 3S1n 3S1r 3S1- 3S24 3S21 3S22 3S1x 3S25 3S23 3S1s 3S1y 3S0P 3S1O 3S0h 3S1P 3S1Y 3S1Q
   3S0j 3S0k 3S1a 3S0n 3S1W 3S0l 3S1U 3S0Y 3S0f 3S0m 3S0Q 3S1c 3S1R 3S1S 3S1Z 3S1T 3S1b 3S1X 3S1V
   3S0c 3S0x 3S10 3S0z 3S0+ 3S0o 3S11 3S0- 3S2U 3S2H 3S2N 3S1o 3S1t 3S1p 3S0e 3S1d 3S20 3S0i 3S0y
   3S0R 3S0M 3T0012V 3X2R11q 3T2L127 3X1H10O 3T2V 3X1q 3T27 3X0O",
  "4I6T",
  "2U4r 2U4q 2U4J 2U4M 2U4s 2U4w 2U4u 2U4v 2U4t 2U4k",
  "2U4r 2U4q 2U4J 2U4M 2U4s 2U4w 2U4u 2U4v 2U4t 2U4k",
  "2U4r 2U4q 2U4J 2U4M 2U4s 2U4w 2U4u 2U4v 2U4t 2U4k",
  "2U4r 2U4q 2U4J 2U4M 2U4s 2U4w 2U4u 2U4v 2U4t 2U4k",
  "2U4r 2U4q 2U4J 2U4M 2U4s 2U4w 2U4u 2U4v 2U4t 2U4k",
  "016E 0c6F 165p 0a6J 176I 0n6H 186G",
  "2U3t 2U3G 2U3J 2U3I 2U3P 2U3N 2U3q 2U3O 2U3K 2U3p 2U3H 2U33 2U3L 2U3M",
  "2U2Z 2U2J 2U2Q 2U2K 2U1l 2U2Y 2U2W 2U2U 2U1p 2U2X 2U00 2U2L 2U2R 2U2V 2U1q 2U27 2U1M 2U2O 2U1e
   2U1+ 2U2I 2U28 2U2A 2U1z 2U1f 2U2H 2U0e 2U1L 2U0N 2U0S 2U0X 2U2N 2U1d 2U1N 2U2P 2U1H 2U0O 2U2M
   2U29 2U1k 2U2B 2U1o 2U26 2U2C 2U1t 2U0d 2U0a 2U04 2U0b 2U05 2U0g 2U0R 2U0Z 2U0M 2U1g 2U2D 2U1h
   2U2E 2U0T 2U0U 2U1u 2U1v 2U1i 2U2F 2U0V 2U1w 2U1j 2U2G 2U0W 2U1n 2U2S 2U0q 2U0p 2U2T 2U0s 2U0v
   2U0r 2U1r 2U20 2U1- 2U1s 2U1y 2U24 2U21 2U0t 2U0E 2U0w 2U0u 2U1I 2U13 2U07 2U12 2U06 2U1D 2U22
   2U1x 2U25 2U23 2U1m 2U0B 2U14 2U08 2U1F 2U0P 2U0f 2U1P 2U0i 2U1O 2U0h 2U1Y 2U0m 2U1B 2U1J 2U19
   2U1Q 2U0j 2U1a 2U0Q 2U09 2U02 2U0C 2U0A 2U1W 2U1U 2U0k 2U0Y 2U0n 2U0l 2U15 2U17 2U16 2U1E 2U18
   2U1G 2U1C 2U1A 2U0D 2U0G 2U0F 2U0K 2U0H 2U0I 2U03 2U0L 2U0J 2U1c 2U1S 2U1R 2U1Z 2U1T 2U1b 2U1X
   2U1V 2U0c 2U0y 2U0x 2U10 2U0z 2U0+ 2U0o 2U11 2U0-",
  "2M2Z 1s2U 2M2K 1s2H 2R1e 252B 2A0a 1I0g 2H1L 1b2N 2H0N 1b1o 2I2Q 2I1l 1Y1p 1Y0e 1l0X 0r1d 1l04
   0r0R 2M2J 2H1M 2E1N 1s2W 1b2O 1M2P 2T2Y 2F2X 2M1+ 1s28 2Q2I 242A 2R1g 252D 2H0T 1b1u 2P1i 1u2F
   2E0V 1M1w 2T2M 2F29 2I2S 1l0q 1j0p 1x0v 200r 1r0t 1U0E 1V0w 1X0u 1Y1r 0r20 0p1- 0+24 1221 0w22
   0i1x 0j25 0k23 2I1I 2A13 1l07 2712 1j06 1Y0P 1I1P 0r0i 1H1O 0p0h 2J1D 1Z1Y 2K14 1c1Q 1-1F 111a
   211B 131W 2219 141U 2008 120j 1r09 0w0k 1U02 0i0Y 1V0C 0j0n 1X0A 0k0l 2O1m 1p0f 1x0B 0+0m 2S2T
   1e0s 261s 0m1y 2S1J 260Q 1z15 101c 1e0D 0m0c 2T1z 2N1f 290S 2N1h 290U 2L1j 230W 2F26 1t2C 1L1t
   1t2E 1L1v 1d2G 151n 2S1k 1z17 1e0G 1y16 1R0F 2C1E 1i0K 2D18 1m0H 1a0I 1n1G 1C0L 1o1C 1G0J 1q1A
   1B03 1z0b 1e05 260d 101S 0m0y 0-1R 0h0x 1J1Z 0q10 1K1T 0s0z 0l0+ 0t1b 0e11 0u1X 0f0- 0v1V 0d0o
   100Z 0m0M 2M00 1s2V 2M2L 1s27 2I2R 1Y1q 2I1H 1Y0O",
  "2U2Z 2U2J 2U2Q 2U2K 2U1l 2U2Y 2U2W 2U2U 2U1p 2U2X 2U00 2U2L 2U2R 2U2V 2U1q 2U27 2U1M 2U2O 2U1e
   2U1+ 2U2I 2U28 2U2A 2U1z 2U1f 2U2H 2U0e 2U1L 2U0N 2U0S 2U0X 2U2N 2U1d 2U1N 2U2P 2U1H 2U0O 2U2M
   2U29 2U1k 2U2B 2U1o 2U26 2U2C 2U1t 2U0d 2U0a 2U04 2U0b 2U05 2U0g 2U0R 2U0Z 2U0M 2U1g 2U2D 2U1h
   2U2E 2U0T 2U0U 2U1u 2U1v 2U1i 2U2F 2U0V 2U1w 2U1j 2U2G 2U0W 2U1n 2U2S 2U0q 2U0p 2U2T 2U0s 2U0v
   2U0r 2U1r 2U20 2U1- 2U1s 2U1y 2U24 2U21 2U0t 2U0E 2U0w 2U0u 2U1I 2U13 2U07 2U12 2U06 2U1D 2U22
   2U1x 2U25 2U23 2U1m 2U0B 2U14 2U08 2U1F 2U0P 2U0f 2U1P 2U0i 2U1O 2U0h 2U1Y 2U0m 2U1B 2U1J 2U19
   2U1Q 2U0j 2U1a 2U0Q 2U09 2U02 2U0C 2U0A 2U1W 2U1U 2U0k 2U0Y 2U0n 2U0l 2U15 2U17 2U16 2U1E 2U18
   2U1G 2U1C 2U1A 2U0D 2U0G 2U0F 2U0K 2U0H 2U0I 2U03 2U0L 2U0J 2U1c 2U1S 2U1R 2U1Z 2U1T 2U1b 2U1X
   2U1V 2U0c 2U0y 2U0x 2U10 2U0z 2U0+ 2U0o 2U11 2U0-",
  "2U2Z 2U2J 2U2Q 2U2K 2U1l 2U2Y 2U2W 2U2U 2U1p 2U2X 2U00 2U2L 2U2R 2U2V 2U1q 2U27 2U1M 2U2O 2U1e
   2U1+ 2U2I 2U28 2U2A 2U1z 2U1f 2U2H 2U0e 2U1L 2U0N 2U0S 2U0X 2U2N 2U1d 2U1N 2U2P 2U1H 2U0O 2U2M
   2U29 2U1k 2U2B 2U1o 2U26 2U2C 2U1t 2U0d 2U0a 2U04 2U0b 2U05 2U0g 2U0R 2U0Z 2U0M 2U1g 2U2D 2U1h
   2U2E 2U0T 2U0U 2U1u 2U1v 2U1i 2U2F 2U0V 2U1w 2U1j 2U2G 2U0W 2U1n 2U2S 2U0q 2U0p 2U2T 2U0s 2U0v
   2U0r 2U1r 2U20 2U1- 2U1s 2U1y 2U24 2U21 2U0t 2U0E 2U0w 2U0u 2U1I 2U13 2U07 2U12 2U06 2U1D 2U22
   2U1x 2U25 2U23 2U1m 2U0B 2U14 2U08 2U1F 2U0P 2U0f 2U1P 2U0i 2U1O 2U0h 2U1Y 2U0m 2U1B 2U1J 2U19
   2U1Q 2U0j 2U1a 2U0Q 2U09 2U02 2U0C 2U0A 2U1W 2U1U 2U0k 2U0Y 2U0n 2U0l 2U15 2U17 2U16 2U1E 2U18
   2U1G 2U1C 2U1A 2U0D 2U0G 2U0F 2U0K 2U0H 2U0I 2U03 2U0L 2U0J 2U1c 2U1S 2U1R 2U1Z 2U1T 2U1b 2U1X
   2U1V 2U0c 2U0y 2U0x 2U10 2U0z 2U0+ 2U0o 2U11 2U0-",
  "3E33 3E34 3E35 3E2k 3E36 3E2j 3E39 3E2n 3E2o 3E2p 3E31 3E2z 3E2v 3E37 3E2t 3E2w 3E3A 3E2r 3E2q
   3E2s 3E32 3E2+ 3E2x 3E38 3E2u 3E2y 3E3B 3E2- 3E3C 3E30",
  "3E33 3E35 3E34 3E2k 3E2j 3E36 3E39 3E2n 3E2o 3E2p 3E31 3E2z 3E2v 3E37 3E2t 3E2w 3E3A 3E2r 3E2q
   3E2s 3E32 3E2+ 3E2x 3E38 3E3B 3E2- 3E2u 3E2y 3E3C 3E30",
  "2U2Z 2U2K 2U2J 2U00 2U2Q 2U1l 2U1M 2U2Y 2U1e 2U1z 2U1f 2U1+ 2U2I 2U1L 2U0N 2U0S 2U2R 2U1g 2U0T
   2U1N 2U0a 2U1k 2U0b 2U2L 2U1H 2U2U 2U1p 2U2M 2U1h 2U0U 2U0X 2U04 2U05 2U2H 2U0e 2U2W 2U1i 2U0V
   2U1j 2U0W 2U2V 2U1q 2U2O 2U2X 2U2B 2U0g 2U26 2U0d 2U2C 2U0Z 2U28 2U2A 2U2N 2U1o 2U1t 2U1d 2U0R
   2U0M 2U2D 2U1u 2U2P 2U27 2U0O 2U29 2U2E 2U1v 2U2F 2U1w 2U2G 2U1n 2U2S 2U0q 2U0p 2U0v 2U0r 2U1I
   2U13 2U07 2U12 2U06 2U1D 2U1m 2U0B 2U14 2U08 2U1F 2U1r 2U20 2U1- 2U24 2U1B 2U2T 2U0s 2U1J 2U15
   2U0D 2U17 2U0G 2U16 2U0F 2U1E 2U0K 2U18 2U0H 2U1G 2U1C 2U21 2U0t 2U0E 2U0w 2U0u 2U1s 2U1y 2U19
   2U1A 2U09 2U02 2U0C 2U0A 2U0I 2U03 2U0L 2U0J 2U0P 2U0f 2U1P 2U0i 2U1O 2U0h 2U1Y 2U0m 2U1Q 2U0j
   2U1a 2U1W 2U0Q 2U1c 2U0c 2U1S 2U0y 2U1R 2U0x 2U1Z 2U10 2U1T 2U0z 2U1b 2U1X 2U22 2U1x 2U25 2U23
   2U1U 2U1V 2U0k 2U0Y 2U0n 2U0l 2U0+ 2U0o 2U11 2U0-",
  "2U2Z 2U2J 2U2Q 2U2K 2U1l 2U2Y 2U2W 2U2U 2U1p 2U2X 2U00 2U2L 2U2R 2U2V 2U1q 2U27 2U1M 2U2O 2U1e
   2U1+ 2U2I 2U28 2U2A 2U1z 2U1f 2U2H 2U0e 2U1L 2U0N 2U0S 2U0X 2U2N 2U1d 2U1N 2U2P 2U1H 2U0O 2U2M
   2U29 2U1k 2U2B 2U1o 2U26 2U2C 2U1t 2U0d 2U0a 2U04 2U0b 2U05 2U0g 2U0R 2U0Z 2U0M 2U1g 2U2D 2U1h
   2U2E 2U0T 2U0U 2U1u 2U1v 2U1i 2U2F 2U0V 2U1w 2U1j 2U2G 2U0W 2U1n 2U2S 2U0q 2U0p 2U2T 2U0s 2U0v
   2U0r 2U1r 2U20 2U1- 2U1s 2U1y 2U24 2U21 2U0t 2U0E 2U0w 2U0u 2U1I 2U13 2U07 2U12 2U06 2U1D 2U22
   2U1x 2U25 2U23 2U1m 2U0B 2U14 2U08 2U1F 2U0P 2U0f 2U1P 2U0i 2U1O 2U0h 2U1Y 2U0m 2U1B 2U1J 2U19
   2U1Q 2U0j 2U1a 2U0Q 2U09 2U02 2U0C 2U0A 2U1W 2U1U 2U0k 2U0Y 2U0n 2U0l 2U15 2U17 2U16 2U1E 2U18
   2U1G 2U1C 2U1A 2U0D 2U0G 2U0F 2U0K 2U0H 2U0I 2U03 2U0L 2U0J 2U1c 2U1S 2U1R 2U1Z 2U1T 2U1b 2U1X
   2U1V 2U0c 2U0y 2U0x 2U10 2U0z 2U0+ 2U0o 2U11 2U0-",
  "2U2Z 2U2J 2U2Q 2U2K 2U1l 2U2Y 2U2W 2U2U 2U1p 2U2X 2U00 2U2L 2U2R 2U2V 2U1q 2U27 2U1M 2U2O 2U1e
   2U1+ 2U2I 2U28 2U2A 2U1z 2U1f 2U2H 2U0e 2U1L 2U0N 2U0S 2U0X 2U2N 2U1d 2U1N 2U2P 2U1H 2U0O 2U2M
   2U29 2U1k 2U2B 2U1o 2U26 2U2C 2U1t 2U0d 2U0a 2U04 2U0b 2U05 2U0g 2U0R 2U0Z 2U0M 2U1g 2U2D 2U1h
   2U2E 2U0T 2U0U 2U1u 2U1v 2U1i 2U2F 2U0V 2U1w 2U1j 2U2G 2U0W 2U1n 2U2S 2U0q 2U0p 2U2T 2U0s 2U0v
   2U0r 2U1r 2U20 2U1- 2U1s 2U1y 2U24 2U21 2U0t 2U0E 2U0w 2U0u 2U1I 2U13 2U07 2U12 2U06 2U1D 2U22
   2U1x 2U25 2U23 2U1m 2U0B 2U14 2U08 2U1F 2U0P 2U0f 2U1P 2U0i 2U1O 2U0h 2U1Y 2U0m 2U1B 2U1J 2U19
   2U1Q 2U0j 2U1a 2U0Q 2U09 2U02 2U0C 2U0A 2U1W 2U1U 2U0k 2U0Y 2U0n 2U0l 2U15 2U17 2U16 2U1E 2U18
   2U1G 2U1C 2U1A 2U0D 2U0G 2U0F 2U0K 2U0H 2U0I 2U03 2U0L 2U0J 2U1c 2U1S 2U1R 2U1Z 2U1T 2U1b 2U1X
   2U1V 2U0c 2U0y 2U0x 2U10 2U0z 2U0+ 2U0o 2U11 2U0-",
  "2U2Z 2U2J 2U2Q 2U2K 2U1l 2U2Y 2U2W 2U2U 2U1p 2U2X 2U00 2U2L 2U2R 2U2V 2U1q 2U27 2U1M 2U2O 2U1e
   2U1+ 2U2I 2U28 2U2A 2U1z 2U1f 2U2H 2U0e 2U1L 2U0N 2U0S 2U0X 2U2N 2U1d 2U1N 2U2P 2U1H 2U0O 2U2M
   2U29 2U1k 2U2B 2U1o 2U26 2U2C 2U1t 2U0d 2U0a 2U04 2U0b 2U05 2U0g 2U0R 2U0Z 2U0M 2U1g 2U2D 2U1h
   2U2E 2U0T 2U0U 2U1u 2U1v 2U1i 2U2F 2U0V 2U1w 2U1j 2U2G 2U0W 2U1n 2U2S 2U0q 2U0p 2U2T 2U0s 2U0v
   2U0r 2U1r 2U20 2U1- 2U1s 2U1y 2U24 2U21 2U0t 2U0E 2U0w 2U0u 2U1I 2U13 2U07 2U12 2U06 2U1D 2U22
   2U1x 2U25 2U23 2U1m 2U0B 2U14 2U08 2U1F 2U0P 2U0f 2U1P 2U0i 2U1O 2U0h 2U1Y 2U0m 2U1B 2U1J 2U19
   2U1Q 2U0j 2U1a 2U0Q 2U09 2U02 2U0C 2U0A 2U1W 2U1U 2U0k 2U0Y 2U0n 2U0l 2U15 2U17 2U16 2U1E 2U18
   2U1G 2U1C 2U1A 2U0D 2U0G 2U0F 2U0K 2U0H 2U0I 2U03 2U0L 2U0J 2U1c 2U1S 2U1R 2U1Z 2U1T 2U1b 2U1X
   2U1V 2U0c 2U0y 2U0x 2U10 2U0z 2U0+ 2U0o 2U11 2U0-",
  "2U2Z 2U2J 2U2Q 2U2K 2U1l 2U2Y 2U2W 2U2U 2U1p 2U2X 2U00 2U2L 2U2R 2U2V 2U1q 2U27 2U1M 2U2O 2U1e
   2U1+ 2U2I 2U28 2U2A 2U1z 2U1f 2U2H 2U0e 2U1L 2U0N 2U0S 2U0X 2U2N 2U1d 2U1N 2U2P 2U1H 2U0O 2U2M
   2U29 2U1k 2U2B 2U1o 2U26 2U2C 2U1t 2U0d 2U0a 2U04 2U0b 2U05 2U0g 2U0R 2U0Z 2U0M 2U1g 2U2D 2U1h
   2U2E 2U0T 2U0U 2U1u 2U1v 2U1i 2U2F 2U0V 2U1w 2U1j 2U2G 2U0W 2U1n 2U2S 2U0q 2U0p 2U2T 2U0s 2U0v
   2U0r 2U1r 2U20 2U1- 2U1s 2U1y 2U24 2U21 2U0t 2U0E 2U0w 2U0u 2U1I 2U13 2U07 2U12 2U06 2U1D 2U22
   2U1x 2U25 2U23 2U1m 2U0B 2U14 2U08 2U1F 2U0P 2U0f 2U1P 2U0i 2U1O 2U0h 2U1Y 2U0m 2U1B 2U1J 2U19
   2U1Q 2U0j 2U1a 2U0Q 2U09 2U02 2U0C 2U0A 2U1W 2U1U 2U0k 2U0Y 2U0n 2U0l 2U15 2U17 2U16 2U1E 2U18
   2U1G 2U1C 2U1A 2U0D 2U0G 2U0F 2U0K 2U0H 2U0I 2U03 2U0L 2U0J 2U1c 2U1S 2U1R 2U1Z 2U1T 2U1b 2U1X
   2U1V 2U0c 2U0y 2U0x 2U10 2U0z 2U0+ 2U0o 2U11 2U0-",
  "2U2Z 2U2J 2U2Q 2U2K 2U1l 2U2Y 2U2W 2U2U 2U1p 2U2X 2U00 2U2L 2U2R 2U2V 2U1q 2U27 2U1M 2U2O 2U1e
   2U1+ 2U2I 2U28 2U2A 2U1z 2U1f 2U2H 2U0e 2U1L 2U0N 2U0S 2U0X 2U2N 2U1d 2U1N 2U2P 2U1H 2U0O 2U2M
   2U29 2U1k 2U2B 2U1o 2U26 2U2C 2U1t 2U0d 2U0a 2U04 2U0b 2U05 2U0g 2U0R 2U0Z 2U0M 2U1g 2U2D 2U1h
   2U2E 2U0T 2U0U 2U1u 2U1v 2U1i 2U2F 2U0V 2U1w 2U1j 2U2G 2U0W 2U1n 2U2S 2U0q 2U0p 2U2T 2U0s 2U0v
   2U0r 2U1r 2U20 2U1- 2U1s 2U1y 2U24 2U21 2U0t 2U0E 2U0w 2U0u 2U1I 2U13 2U07 2U12 2U06 2U1D 2U22
   2U1x 2U25 2U23 2U1m 2U0B 2U14 2U08 2U1F 2U0P 2U0f 2U1P 2U0i 2U1O 2U0h 2U1Y 2U0m 2U1B 2U1J 2U19
   2U1Q 2U0j 2U1a 2U0Q 2U09 2U02 2U0C 2U0A 2U1W 2U1U 2U0k 2U0Y 2U0n 2U0l 2U15 2U17 2U16 2U1E 2U18
   2U1G 2U1C 2U1A 2U0D 2U0G 2U0F 2U0K 2U0H 2U0I 2U03 2U0L 2U0J 2U1c 2U1S 2U1R 2U1Z 2U1T 2U1b 2U1X
   2U1V 2U0c 2U0y 2U0x 2U10 2U0z 2U0+ 2U0o 2U11 2U0-",
  "2U2Z 2U2J 2U2Q 2U2K 2U1l 2U2Y 2U2W 2U2U 2U1p 2U2X 2U00 2U2L 2U2R 2U2V 2U1q 2U27 2U1M 2U2O 2U1e
   2U1+ 2U2I 2U28 2U2A 2U1z 2U1f 2U2H 2U0e 2U1L 2U0N 2U0S 2U0X 2U2N 2U1d 2U1N 2U2P 2U1H 2U0O 2U2M
   2U29 2U1k 2U2B 2U1o 2U26 2U2C 2U1t 2U0d 2U0a 2U04 2U0b 2U05 2U0g 2U0R 2U0Z 2U0M 2U1g 2U2D 2U1h
   2U2E 2U0T 2U0U 2U1u 2U1v 2U1i 2U2F 2U0V 2U1w 2U1j 2U2G 2U0W 2U1n 2U2S 2U0q 2U0p 2U2T 2U0s 2U0v
   2U0r 2U1r 2U20 2U1- 2U1s 2U1y 2U24 2U21 2U0t 2U0E 2U0w 2U0u 2U1I 2U13 2U07 2U12 2U06 2U1D 2U22
   2U1x 2U25 2U23 2U1m 2U0B 2U14 2U08 2U1F 2U0P 2U0f 2U1P 2U0i 2U1O 2U0h 2U1Y 2U0m 2U1B 2U1J 2U19
   2U1Q 2U0j 2U1a 2U0Q 2U09 2U02 2U0C 2U0A 2U1W 2U1U 2U0k 2U0Y 2U0n 2U0l 2U15 2U17 2U16 2U1E 2U18
   2U1G 2U1C 2U1A 2U0D 2U0G 2U0F 2U0K 2U0H 2U0I 2U03 2U0L 2U0J 2U1c 2U1S 2U1R 2U1Z 2U1T 2U1b 2U1X
   2U1V 2U0c 2U0y 2U0x 2U10 2U0z 2U0+ 2U0o 2U11 2U0-",
  "2U2Z 2U2J 2U2Q 2U2K 2U1l 2U2Y 2U2W 2U2U 2U1p 2U2X 2U00 2U2L 2U2R 2U2V 2U1q 2U27 2U1M 2U2O 2U1e
   2U1+ 2U2I 2U28 2U2A 2U1z 2U1f 2U2H 2U0e 2U1L 2U0N 2U0S 2U0X 2U2N 2U1d 2U1N 2U2P 2U1H 2U0O 2U2M
   2U29 2U1k 2U2B 2U1o 2U26 2U2C 2U1t 2U0d 2U0a 2U04 2U0b 2U05 2U0g 2U0R 2U0Z 2U0M 2U1g 2U2D 2U1h
   2U2E 2U0T 2U0U 2U1u 2U1v 2U1i 2U2F 2U0V 2U1w 2U1j 2U2G 2U0W 2U1n 2U2S 2U0q 2U0p 2U2T 2U0s 2U0v
   2U0r 2U1r 2U20 2U1- 2U1s 2U1y 2U24 2U21 2U0t 2U0E 2U0w 2U0u 2U1I 2U13 2U07 2U12 2U06 2U1D 2U22
   2U1x 2U25 2U23 2U1m 2U0B 2U14 2U08 2U1F 2U0P 2U0f 2U1P 2U0i 2U1O 2U0h 2U1Y 2U0m 2U1B 2U1J 2U19
   2U1Q 2U0j 2U1a 2U0Q 2U09 2U02 2U0C 2U0A 2U1W 2U1U 2U0k 2U0Y 2U0n 2U0l 2U15 2U17 2U16 2U1E 2U18
   2U1G 2U1C 2U1A 2U0D 2U0G 2U0F 2U0K 2U0H 2U0I 2U03 2U0L 2U0J 2U1c 2U1S 2U1R 2U1Z 2U1T 2U1b 2U1X
   2U1V 2U0c 2U0y 2U0x 2U10 2U0z 2U0+ 2U0o 2U11 2U0-",
  "2U2Z 2U2J 2U2Q 2U2K 2U1l 2U2Y 2U2W 2U2U 2U1p 2U2X 2U00 2U2L 2U2R 2U2V 2U1q 2U27 2U1M 2U2O 2U1e
   2U1+ 2U2I 2U28 2U2A 2U1z 2U1f 2U2H 2U0e 2U1L 2U0N 2U0S 2U0X 2U2N 2U1d 2U1N 2U2P 2U1H 2U0O 2U2M
   2U29 2U1k 2U2B 2U1o 2U26 2U2C 2U1t 2U0d 2U0a 2U04 2U0b 2U05 2U0g 2U0R 2U0Z 2U0M 2U1g 2U2D 2U1h
   2U2E 2U0T 2U0U 2U1u 2U1v 2U1i 2U2F 2U0V 2U1w 2U1j 2U2G 2U0W 2U1n 2U2S 2U0q 2U0p 2U2T 2U0s 2U0v
   2U0r 2U1r 2U20 2U1- 2U1s 2U1y 2U24 2U21 2U0t 2U0E 2U0w 2U0u 2U1I 2U13 2U07 2U12 2U06 2U1D 2U22
   2U1x 2U25 2U23 2U1m 2U0B 2U14 2U08 2U1F 2U0P 2U0f 2U1P 2U0i 2U1O 2U0h 2U1Y 2U0m 2U1B 2U1J 2U19
   2U1Q 2U0j 2U1a 2U0Q 2U09 2U02 2U0C 2U0A 2U1W 2U1U 2U0k 2U0Y 2U0n 2U0l 2U15 2U17 2U16 2U1E 2U18
   2U1G 2U1C 2U1A 2U0D 2U0G 2U0F 2U0K 2U0H 2U0I 2U03 2U0L 2U0J 2U1c 2U1S 2U1R 2U1Z 2U1T 2U1b 2U1X
   2U1V 2U0c 2U0y 2U0x 2U10 2U0z 2U0+ 2U0o 2U11 2U0-",
  "2U2Z 2U2J 2U2Q 2U2K 2U1l 2U2Y 2U2W 2U2U 2U1p 2U2X 2U00 2U2L 2U2R 2U2V 2U1q 2U27 2U1M 2U2O 2U1e
   2U1+ 2U2I 2U28 2U2A 2U1z 2U1f 2U2H 2U0e 2U1L 2U0N 2U0S 2U0X 2U2N 2U1d 2U1N 2U2P 2U1H 2U0O 2U2M
   2U29 2U1k 2U2B 2U1o 2U26 2U2C 2U1t 2U0d 2U0a 2U04 2U0b 2U05 2U0g 2U0R 2U0Z 2U0M 2U1g 2U2D 2U1h
   2U2E 2U0T 2U0U 2U1u 2U1v 2U1i 2U2F 2U0V 2U1w 2U1j 2U2G 2U0W 2U1n 2U2S 2U0q 2U0p 2U2T 2U0s 2U0v
   2U0r 2U1r 2U20 2U1- 2U1s 2U1y 2U24 2U21 2U0t 2U0E 2U0w 2U0u 2U1I 2U13 2U07 2U12 2U06 2U1D 2U22
   2U1x 2U25 2U23 2U1m 2U0B 2U14 2U08 2U1F 2U0P 2U0f 2U1P 2U0i 2U1O 2U0h 2U1Y 2U0m 2U1B 2U1J 2U19
   2U1Q 2U0j 2U1a 2U0Q 2U09 2U02 2U0C 2U0A 2U1W 2U1U 2U0k 2U0Y 2U0n 2U0l 2U15 2U17 2U16 2U1E 2U18
   2U1G 2U1C 2U1A 2U0D 2U0G 2U0F 2U0K 2U0H 2U0I 2U03 2U0L 2U0J 2U1c 2U1S 2U1R 2U1Z 2U1T 2U1b 2U1X
   2U1V 2U0c 2U0y 2U0x 2U10 2U0z 2U0+ 2U0o 2U11 2U0-",
  "3d4g42b 3d4i44N 3d4741o 3d4741t 3d4941u 3d4A40h 3d4B40i 3d4C40j 3d5O40M 3d4840R 3d4h42b
   3d4I44K 3d4I42a 3d4941v 3d4B40y 3d4A40x 3d4C40z 3d4840M 3d4F41w 3d4G40m 3d4D40k 3d4640Y
   3d4H40n 3d4E40l 3d4F41n 3d4G410 3d4D40+ 3d4640o 3d4H411 3d4E40-",
  "3d3a14g42b 3d4l14i44N 3d7i14o42b 3d6L14741o 3d6114741t 3d5q14941u 3d5r14A40h 3d5s14B40i
   3d5t14C40j 3d4R15O40M 3d6M14840R 3d3b14h42b 3d4m14I44K 3d3c14I42a 3d6214941v 3d6414B40y
   3d6314A40x 3d6514C40z 3d4R14840M 3d5x14F41w 3d5y14G40m 3d5v14D40k 3d5Y14640Y 3d5z14H40n
   3d5w14E40l 3d6814F41n 3d6914G410 3d6614D40+ 3d5e14640o 3d6A14H411 3d6714E40-",
  "2U3a 2U4l 2U4R 2U3b 2U4m 2U4V 2U3c",
  "0c1d46K 0c7j42a 0c4K42a 0c1y45P 0c0R40M 0c0c45P 0c2a 0c0M",
  "3Q6C22k 3Q7q29j 3Q6W23n 3Q5b22j",
  "3h2b 3X4N 3S4K 3S2a 3S0M",
  "3h2b 3X2e 3S2a",
  "3h2b 3X2e 3S2a",
  "3Q3n 3Q2j",
  "3d4+ 3d50 3d52 3d53 3d54 3d55 3d5M 3d5G 3d4- 3d56 3d58 3d57 3d59 3d5N 3d5H 3d5C 3d51 3d5E 3d5I
   3d5J 3d5A 3d5D 3d5K 3d5L 3d5B 3d5F",
  "2U1M43t 2U1N43q 2U0T435 2U0V437 2U0U436 2U0W438 2U1L43p 2U0N433 2U0S434 2U2h43S 2U0p43G
   2U0s43J 2U0r43I 2U0w43P 2U0u43N 2U0t43K 2U2i43T 2U0v43O 2U0E43L 2U0E43M 2U2c43S 2U2d43T
   2U0X43R 2U0q43H 2U3D43R 2U0743H 2U0442k 2U0542j 2U0643G 2U0B43O 2U0D43J 2U0843I 2U0C43P
   2U0A43N 2U0943K 2U0243L 2U0243M 2U2c439 2U0642n 2U0742o 2U0D43Q 2U0842p 2U0C431 2U0A42z
   2U0942t 2U0242v 2U0242w 2U2f43A 2U0F42q 2U0G42r 2U0H42s 2U0L432 2U0342x 2U0J42+ 2U0I42u
   2U0342y 2U2d43B 2U0B42- 2U2g43C 2U0K430",
  "2w5g15W 2x4y15a",
  "0b5g25W 3Q4y25a",
  "3Q6C22k 3Q7q29j 3Q6W23n 3Q5b22j",
  "3h2b 3X4N 3S4K 3S2a 3S0M",
  "3h2b 3X2e 3S2a",
  "3h2b 3X2e 3S2a",
  "2U1M23t 2U1N23q 2U0T235 2U0V237 2U0U236 2U0W238 2U1L23p 2U0N233 2U0S234 2U2h23S 2U0p23G
   2U0s23J 2U0r23I 2U0w23P 2U0u23N 2U0t23K 2U0E23L 2U0E23M 2U2c23S 2U2i23T 2U0v23O 2U2d23T
   2U0X23R 2U0q23H 2U3D23R 2U0723H 2U0422k 2U0522j 2U0623G 2U0B23O 2U0D23J 2U0823I 2U0C23P
   2U0A23N 2U0923K 2U0223L 2U0223M 2U2c239 2U0622n 2U0722o 2U0D23Q 2U0822p 2U0C231 2U0A22z
   2U0922t 2U0222v 2U0222w 2U2f23A 2U0F22q 2U0G22r 2U0H22s 2U0L232 2U0322x 2U0J22+ 2U0I22u
   2U0322y 2U2d23B 2U0B22- 2U2g23C 2U0K230",
  "3Q2l 3Q2m 3h2b 3S2a 3X2e",
  "3h6S 3XAh 3S7u",
  "3h2b16S 3S8C18e 3S2a17u 3X0O16X",
  "3Q7n14q56E 3Q7o14r56F 3Q4S14s55p 3Q3v14w56J 3Q4Z14v56I 3Q4L14u56H 3Q4O14t56G",
  "016E 0c6F 165p 0a6J 176I 0n6H 186G",
  "4C6B 4C4W 484Y",
  "016B 014W 014Y",
  "4J7m",
  "4C6B",
  "3Q4n",
  "014n",
  "2G35 1f2n 1w2p 1O31 1S2z 1T2v 1W2t 192w 1Q3Q 2836 1P2q 1k2s 1A32 1D2+ 1E2x 1F2u 0z2y 2B37 1v2-
   1+38 1h30 2U4f 1g2o 1Q2r 2G33 2834 1g2k 1Q2j",
  "3U1e 3S2B 3U0a 3S0g 3U1z 3U1f 3S26 3S2C 3U1k 3U0b 3S0d 3S0Z 2y2Z 3S2U 2y2K 3S2H 3U1L 3S2N 3U0N
   3S1o 3U0S 3S1t 3U2Q 3S1p 3U1l 3S0e 3U0X 3S1d 3U04 3S0R 3U05 3S0M 2y2J 3S2W 3U1M 3S2O 3U1N 3S2P
   3U2Y 3S2X 2y1+ 3S28 3U2I 3S2A 3U1g 3S2D 3U0T 3S1u 3U1i 3S2F 3U0V 3S1w 3U2M 3S29 3U1h 3S2E 3U0U
   3S1v 3U1j 3S2G 3U0W 3S1n 3U2S 3U0p 3U0q 3U0v 3U0r 3U0t 3U0E 3U0w 3U0u 3S1r 3S1- 3S20 3S24 3S21
   3S22 3S1x 3S25 3S23 3U2T 3U0s 3S1s 3S1y 3U1I 3U12 3U06 3U13 3U07 3U1D 3U14 3U1F 3U08 3U09 3U0C
   3U1B 3U0A 3U19 3U02 3S0P 3S1O 3S0h 3S1P 3S0i 3S1Y 3S1Q 3S0j 3S0k 3S1a 3S0n 3S1W 3S0l 3S1U 3S0Y
   3U1m 3U0B 3S0f 3S0m 3U1J 3U15 3U16 3U17 3U0D 3U0F 3U0G 3U1E 3U0K 3U18 3U1G 3U0H 3U0I 3U0L 3U1C
   3U0J 3U1A 3U03 3S0Q 3S1c 3S1R 3S1S 3S1Z 3S1T 3S1b 3S1X 3S1V 3S0c 3S0x 3S0y 3S10 3S0z 3S0+ 3S0o
   3S11 3S0- 3U00 3T2V 3U2R 3X1q 3U2L 3T27 3U1H 3X0O",
  "3U1e 3S2B 3U0a 3S0g 3U1z 3U1f 3S26 3S2C 3U1k 3S0d 3U0b 3S0Z 2y2Z 3S2U 2y2K 3S2H 3U1L 3S2N 3U0N
   3S1o 3U0S 3S1t 3U2Q 3S1p 3U1l 3S0e 3U0X 3S1d 3U04 3S0R 3U05 3S0M 2y2J 3S2W 3U1M 3S2O 3U1N 3S2P
   3U2Y 3S2X 2y1+ 3S28 3U2I 3S2A 3U1g 3S2D 3U0T 3S1u 3U1i 3S2F 3U0V 3S1w 3U2M 3S29 3U1h 3S2E 3U0U
   3S1v 3U1j 3S2G 3U0W 3S1n 3U2S 3U0p 3U0q 3U0v 3U0r 3U0t 3U0E 3U0w 3U0u 3S1r 3S1- 3S20 3S24 3S21
   3S22 3S1x 3S25 3S23 3U1I 3U12 3U06 3U13 3U07 3U1D 3U14 3U1F 3U08 3U09 3U0C 3U1B 3U0A 3U19 3U02
   3S0P 3S1O 3S0h 3S1P 3S0i 3S1Y 3S1Q 3S0j 3S0k 3S1a 3S0n 3S1W 3S0l 3S1U 3S0Y 3U1m 3U0B 3S0f 3S0m
   3U2T 3U0s 3S1s 3S1y 3U1J 3U15 3U16 3U17 3U1E 3U18 3U1G 3U1C 3U1A 3U0D 3U0G 3U0F 3U0K 3U0H 3U0I
   3U03 3U0L 3U0J 3S0Q 3S1c 3S1R 3S1S 3S1Z 3S1T 3S1b 3S1X 3S1V 3S0c 3S0x 3S0y 3S10 3S0z 3S0+ 3S0o
   3S11 3S0- 3U00 3T2V 3U2R 3X1q 3U2L 3T27 3U1H 3X0O",
  "3U1e 3S2B 3U0a 3S0g 3U1z 3U1f 3S26 3S2C 3U1k 3S0d 3U0b 3S0Z 2y2Z 3S2U 2y2K 3S2H 3U1L 3S2N 3U0N
   3S1o 3U0S 3S1t 3U2Q 3S1p 3U1l 3S0e 3U0X 3S1d 3U04 3S0R 3U05 3S0M 2y2J 3S2W 3U1M 3S2O 3U1N 3S2P
   3U2Y 3S2X 2y1+ 3S28 3U2I 3S2A 3U1g 3S2D 3U0T 3S1u 3U1i 3S2F 3U0V 3S1w 3U2M 3S29 3U1h 3S2E 3U0U
   3S1v 3U1j 3S2G 3U0W 3S1n 3U2S 3U0p 3U0q 3U0v 3U0r 3U0t 3U0E 3U0w 3U0u 3S1r 3S1- 3S20 3S24 3S21
   3S22 3S1x 3S25 3S23 3U1I 3U12 3U06 3U13 3U07 3U1D 3U14 3U1F 3U08 3U09 3U0C 3U1B 3U0A 3U19 3U02
   3S0P 3S1O 3S0h 3S1P 3S0i 3S1Y 3S1Q 3S0j 3S0k 3S1a 3S0n 3S1W 3S0l 3S1U 3S0Y 3U1m 3U0B 3S0f 3S0m
   3U2T 3U0s 3S1s 3S1y 3U1J 3U15 3U16 3U17 3U1E 3U18 3U1G 3U1C 3U1A 3U0D 3U0G 3U0F 3U0K 3U0H 3U0I
   3U03 3U0L 3U0J 3S0Q 3S1c 3S1R 3S1S 3S1Z 3S1T 3S1b 3S1X 3S1V 3S0c 3S0x 3S0y 3S10 3S0z 3S0+ 3S0o
   3S11 3S0- 3U00 3T2V 3U2R 3X1q 3U2L 3T27 3U1H 3X0O",
  "3U4P 3U4Q 3X2e 3S2a",
  "3U1e 3S2B 3U0a 3S0g 3U1z 3U1f 3S26 3S2C 3U1k 3U0b 3S0d 3S0Z 2y2Z 3S2U 2y2K 3S2H 3U1L 3S2N 3U0N
   3S1o 3U0S 3S1t 3U2Q 3S1p 3U1l 3S0e 3U0X 3S1d 3U04 3S0R 3U05 3S0M 2y2J 3S2W 3U1M 3S2O 3U1N 3S2P
   3U2Y 3S2X 2y1+ 3S28 3U2I 3S2A 3U1g 3S2D 3U0T 3S1u 3U1i 3S2F 3U0V 3S1w 3U2M 3S29 3U1h 3S2E 3U0U
   3S1v 3U1j 3S2G 3U0W 3S1n 3U2S 3U0p 3U0q 3U0v 3U0r 3U0t 3U0E 3U0w 3U0u 3S1r 3S1- 3S20 3S24 3S21
   3S22 3S1x 3S25 3S23 3U2T 3U0s 3S1s 3S1y 3U1I 3U12 3U06 3U13 3U07 3U1D 3U14 3U1F 3U08 3U09 3U0C
   3U1B 3U0A 3U19 3U02 3S0P 3S1O 3S0h 3S1P 3S0i 3S1Y 3S1Q 3S0j 3S0k 3S1a 3S0n 3S1W 3S0l 3S1U 3S0Y
   3U1m 3U0B 3S0f 3S0m 3U1J 3U15 3U16 3U17 3U0D 3U0F 3U0G 3U1E 3U0K 3U18 3U1G 3U0H 3U0I 3U0L 3U1C
   3U0J 3U1A 3U03 3S0Q 3S1c 3S1R 3S1S 3S1Z 3S1T 3S1b 3S1X 3S1V 3S0c 3S0x 3S0y 3S10 3S0z 3S0+ 3S0o
   3S11 3S0- 3U00 3T2V 3U2R 3X1q 3U2L 3T27 3U1H 3X0O",
  "2G35 1f2n 1w2p 1O31 1S2z 1T2v 1W2t 192w 1Q3Q 2836 1P2q 1k2s 1A32 1D2+ 1E2x 1F2u 0z2y 2B37 1v2-
   1+38 1h30 2U4f 1g2o 1Q2r 2G33 2834 1g2k 1Q2j",
  "3U3511g 3U2n112 3U2o113 3U2p114 3U3111F 3U2z11B 3U2v119 3U2t13U 3U2w13W 3U3Q115 3U3611h
   3U2q116 3U2r117 3U2s118 3U3211G 3U2+11C 3U2x11A 3U2u13V 3U2y13X 3U3711i 3U2-11D 3U3811j
   3U3011E 3U3311e 3U3411f 3U2k10a 3U2j10b 2y4f13i",
  "2U3u",
  "3h2b 3S2a 3X2e",
  "2U2b13u 2U2a13u 2U2e13u",
  "012b23u 012a23u 012e23u",
  "2U2Z 2U2K 2U2J 2U2Q 2U1l 2U1e 2U1z 2U1f 2U0a 2U1k 2U0b 2U1L 2U0N 2U0S 2U2Y 2U2U 2U1p 2U2H 2U0e
   2U1+ 2U2I 2U0X 2U04 2U05 2U2S 2U1I 2U1M 2U0p 2U0q 2U0r 2U2B 2U0g 2U26 2U0d 2U2C 2U0Z 2U2N 2U1o
   2U1t 2U1d 2U0R 2U0M 2U1m 2U1g 2U12 2U13 2U14 2U1F 2U0T 2U06 2U07 2U08 2U1B 2U2T 2U0s 2U2M 2U1h
   2U0U 2U1J 2U19 2U1N 2U0v 2U0t 2U0E 2U0w 2U0u 2U2W 2U1r 2U1i 2U1D 2U0V 2U0B 2U1j 2U0W 2U09 2U02
   2U0C 2U0A 2U2O 2U1- 2U20 2U21 2U2X 2U1s 2U1y 2U22 2U1x 2U25 2U23 2U28 2U0P 2U2A 2U0f 2U2D 2U1O
   2U1P 2U1Q 2U1a 2U1W 2U1u 2U0h 2U0i 2U0j 2U1U 2U0k 2U0Y 2U0n 2U0l 2U2P 2U24 2U29 2U0Q 2U2E 2U1v
   2U2F 2U1Y 2U1w 2U0m 2U2G 2U1n 2U00 2U2R 2U2L 2U1H 2U2V 2U1q 2U27 2U0O 2U15 2U16 2U17 2U1E 2U18
   2U1G 2U1C 2U1A 2U0D 2U0F 2U0G 2U0K 2U0H 2U0I 2U03 2U0L 2U0J 2U1c 2U1R 2U1S 2U1Z 2U1T 2U1b 2U1X
   2U1V 2U0c 2U0x 2U0y 2U10 2U0z 2U0+ 2U0o 2U11 2U0-",
  "2U2Z 2U2K 2U2J 2U1e 2U2U 2U2H 2U2Y 2U2B 2U1+ 2U2I 2U2S 2U1I 2U1M 2U0p 2U0r 2U1m 2U1g 2U12 2U13
   2U14 2U1F 2U0T 2U06 2U08 2U1B 2U2T 2U0s 2U2M 2U1J 2U19 2U1N 2U0v 2U0t 2U0E 2U0w 2U0u 2U2W 2U1r
   2U1i 2U1D 2U0V 2U0B 2U09 2U02 2U0C 2U0A 2U2O 2U1- 2U21 2U2X 2U1s 2U1y 2U22 2U1x 2U25 2U23 2U28
   2U0P 2U2A 2U0f 2U2D 2U1O 2U1P 2U1Q 2U1a 2U1W 2U1u 2U0h 2U0j 2U1U 2U0k 2U0Y 2U0n 2U0l 2U2P 2U24
   2U29 2U0Q 2U2F 2U1Y 2U1w 2U0m 2U00 2U2L 2U2V 2U27 2U2Q 2U1l 2U1p 2U0e 2U0a 2U0g 2U1z 2U1f 2U26
   2U2C 2U1h 2U0U 2U1j 2U0W 2U2E 2U1v 2U2G 2U1n 2U2R 2U1H 2U1q 2U0O 2U1L 2U0N 2U2N 2U1o 2U0S 2U1t
   2U0X 2U0q 2U07 2U1d 2U20 2U0i 2U04 2U0R 2U1k 2U0d 2U0b 2U0Z 2U05 2U0M 2U15 2U16 2U17 2U1E 2U18
   2U1G 2U1C 2U1A 2U0D 2U0F 2U0G 2U0K 2U0H 2U0I 2U03 2U0L 2U0J 2U1c 2U1R 2U1S 2U1Z 2U1T 2U1b 2U1X
   2U1V 2U0c 2U0x 2U0y 2U10 2U0z 2U0+ 2U0o 2U11 2U0-",
  "3Q4n",
  "014n",
  "3Z5d 3Q5n 3i5Z",
  "2y2b201 2y2U201 2y2H201 2y2V201 2y1p201 2y0e201 2y2B201 2y26201 2y2C201 2y2N201 2y1o201
   2y1t201 2y1q201 2y0g201 2y0d201 2y0Z201 2y27201 2y0O201 2y1d201 2y0R201 2y0M201 2y2W201
   2y2X201 2y28201 2y2A201 2y2D201 2y29201 2y2E201 2y2F201 2y2G201 2y2O201 2y1u201 2y1v201
   2y1r201 2y1-201 2y0P201 2y1O201 2y0h201 2y1P201 2y1Y201 2y0f201 2y1Q201 2y1a201 2y1W201
   2y1s201 2y1y201 2y0Q201 2y1c201 2y0c201 2y1R201 2y0x201 2y1S201 2y1Z201 2y1T201 2y1b201
   2y1X201 2y1U201 2y1V201 2y20201 2y0i201 2y0y201 2y21201 2y0j201 2y0z201 2y2P201 2y1w201
   2y1n201 2y24201 2y0m201 2y10201 2y22201 2y0k201 2y0+201 2y1x201 2y0Y201 2y0o201 2y25201
   2y0n201 2y11201 2y23201 2y0l201 2y0-201",
  "3Z2b 3Z2U 3Z2H 3Z2B 3Z26 3Z2C 3Z0g 3Z2V 3Z27 3Z0d 3Z0Z 3Z1p 3Z0e 3Z2N 3Z1o 3Z1t 3Z1q 3Z0O 3Z1d
   3Z0R 3Z0M 3Z2W 3Z2X 3Z28 3Z2A 3Z2D 3Z29 3Z2E 3Z2F 3Z2G 3Z2O 3Z1u 3Z1v 3Z1r 3Z1- 3Z0P 3Z1O 3Z0h
   3Z1P 3Z1Y 3Z0f 3Z1Q 3Z1a 3Z1W 3Z1s 3Z1y 3Z0Q 3Z1U 3Z20 3Z0i 3Z1c 3Z1R 3Z1S 3Z1Z 3Z1T 3Z1b 3Z1X
   3Z1V 3Z0c 3Z0x 3Z0y 3Z21 3Z0j 3Z0z 3Z2P 3Z1w 3Z1n 3Z24 3Z0m 3Z10 3Z22 3Z0k 3Z0+ 3Z1x 3Z0Y 3Z0o
   3Z25 3Z0n 3Z11 3Z23 3Z0l 3Z0-",
  "2U2b 2U2U 2U2H 2U2B 2U26 2U2C 2U0g 2U2V 2U27 2U0d 2U0Z 2U1p 2U0e 2U2N 2U1o 2U1t 2U1q 2U0O 2U2W
   2U2X 2U1d 2U0R 2U0M 2U2O 2U1r 2U1- 2U20 2U1s 2U1y 2U21 2U2P 2U24 2U28 2U2A 2U22 2U1x 2U25 2U23
   2U0P 2U0f 2U29 2U0Q 2U2D 2U1O 2U1P 2U1u 2U0h 2U0i 2U2E 2U1v 2U1Q 2U0j 2U1a 2U1W 2U1U 2U0k 2U0Y
   2U0n 2U0l 2U2F 2U1Y 2U1w 2U0m 2U2G 2U1n 2U1c 2U1R 2U1S 2U1Z 2U1T 2U1b 2U1X 2U1V 2U0c 2U0x 2U0y
   2U10 2U0z 2U0+ 2U0o 2U11 2U0-",
  "3h2b 3X2e 3S2a",
  "0b2b 0b2U 0b2H 0b2B 0b26 0b2C 0b0g 0b2V 0b27 0b0d 0b0Z 0b1p 0b0e 0b2N 0b1o 0b1t 0b1q 0b0O 0b2W
   0b2X 0b1d 0b0R 0b0M 0b2O 0b1r 0b1- 0b20 0b1s 0b1y 0b21 0b2P 0b24 0b28 0b2A 0b22 0b1x 0b25 0b23
   0b0P 0b0f 0b29 0b0Q 0b2D 0b1O 0b1P 0b1u 0b0h 0b0i 0b2E 0b1v 0b1Q 0b0j 0b1a 0b1W 0b1U 0b0k 0b0Y
   0b0n 0b0l 0b2F 0b1Y 0b1w 0b0m 0b2G 0b1n 0b1c 0b1R 0b1S 0b1Z 0b1T 0b1b 0b1X 0b1V 0b0c 0b0x 0b0y
   0b10 0b0z 0b0+ 0b0o 0b11 0b0-",
  "012b 012e 012a",
  "0a2b 0a2e 0a2a",
  "3h2b 3S2a 3X2e",
  "3f6d",
  "3Q2l 3Q2m 3h2b",
  "3h2b",
  "3h2b",
  "3Q2l 3Q2m 3h2b",
  "3h2b 3S2a 3X2e",
  "2U7c",
  "012b 012a 012e",
  "3Q2b 3Q2a 3Q2e",
  "3Q4S",
  "0a2b 0a2a 0a2e",
  "2y2b22J 2y2a22J 2y2e22J",
  "3h2b 3S2a 3X2e",
  "3Q2b 3Q2a 3Q2e",
  "0a2b 0a2a 0a2e",
  "3h7h 3S2a 3X2e",
  "017h 012a 012e",
  "3U3511g 3U2n112 3U2o113 3U2p114 3U3111F 3U2z11B 3U2v119 3U2t13U 3U2w13W 3U3Q115 3U3611h
   3U2q116 3U2r117 3U2s118 3U3211G 3U2+11C 3U2x11A 3U2u13V 3U2y13X 3U3711i 3U2-11D 3U3811j
   3U3011E 2y4a14c 3U3311e 3U3411f 3U2k10a 3U2j10b",
  "2y2K 3S2H 3U1l 3S0e 3U1e 3S2B 3U0N 3S1o 3U0a 3S0g 3U04 3S0R 2y1+ 3S28 3U2I 3S2A 3U1g 3S2D 3U0T
   3S1u 3U1i 3S2F 3U0V 3S1w 3U2M 3S29 3U1I 3U12 3U06 3U13 3U07 3U1D 3U14 3U1F 3U1B 3U08 3U09 3U0C
   3U0A 3U19 3U02 3S0P 3S1O 3S0h 3S1P 3S0i 3S1Y 3S1Q 3S0j 3S0k 3S1a 3S0n 3S1W 3S0l 3S1U 3S0Y 3U1m
   3U0B 3S0f 3S0m 3U1J 3U15 3U0D 3S0Q 3S1c 3S0c 3U1z 3U1f 3U0S 3U1h 3U0U 3U1j 3U0W 3S26 3S2C 3S1t
   3S2E 3S1v 3S2G 3S1n 3U1k 3U16 3U0F 3U17 3U0G 3U1E 3U0K 3U18 3U1G 3U1C 3U1A 3U0H 3U0I 3U03 3U0L
   3U0J 3U0b 3U05 3S0d 3S1R 3S0x 3S1S 3S0y 3S1Z 3S10 3S1T 3S0z 3S0+ 3S1b 3S11 3S1X 3S0- 3S1V 3S0o
   3S0Z 3S0M 3U2L 3T27 3U1H 3X0O",
  "1N3314a 1N7p13u 1N35 1N33 1N2k 1N36 1N34 1N2j 1N37 1N38 1N39 1N2n 1N2o 1N2p 1N31 1N2z 1N2v
   1N3A 1N2t 1N2w 1N3B 1N2- 1N3C 1N3Q 1N2q 1N2r 1N30 1N2s 1N32 1N2+ 1N2x 1N2u 1N2y",
  "2U4a 2U33 2U34 2U35 2U36 2U2k 2U2j 2U39 2U2n 2U2o 2U3Q 2U2p 2U31 2U2z 2U2v 2U37 2U38 2U2t 2U2w
   2U3B 2U2- 2U3A 2U2q 2U2r 2U2s 2U32 2U2+ 2U2x 2U2u 2U2y 2U3C 2U30",
  "3Q33 3Q34 3Q2k 3Q2j 3Q35 3Q36 3Q39 3Q2n 3Q2o 3Q3Q 3Q2p 3Q31 3Q2z 3Q2v 3Q2t 3Q2w 3Q3A 3Q2q 3Q2r
   3Q2s 3Q32 3Q2+ 3Q2x 3Q2u 3Q2y 3Q37 3Q38 3Q3B 3Q2- 3Q3C 3Q30",
  "0a3v 174Z 0n4L 184O",
  "3Q2b 3Q2a 3Q2e",
  "0g2b34Z 0g2a34Z 0g2e34Z",
  "3Q2b 3Q2a 3Q2e",
  "0g2b34Z 0g2a34Z 0g2e34Z",
  "162b 162a 162e",
  "3h2b 3S2a 3X2e",
  "3h2b 3S2a 3X2e",
  "2U8s",
  "3Q2b 3Q2a 3Q2e",
  "3Q4L",
  "3U6b14d",
  "3Q6b",
  "3Q3v",
  "164S 0a3v",
  "3h2b 3S2a 3X2e",
  "3E4O",
  "3Q4O",
  "3Q2b 3Q2a 3Q2e",
  "3Q2b 3Q2a 3Q2e",
  "3Q2b24L 3Q2a24L 3Q2e24L",
  "3Q2b24O 3Q2a24O 3Q2e24O",
  "3h2b 3S2a 3X2e",
  "3Q2b 3Q2a 3Q2e",
  "3Q2b24L 3Q2a24L 3Q2e24L",
  "3Q4L",
  "3h2b 3S2a 3X2e",
  "2U4j14a",
  "014j24a",
  "2M6a",
  "3Q3v",
  "3Q3v",
  "3Q3v",
  "3U7d22I",
  "3Q7d",
  "0o3v",
  "3Q3v",
  "3Q4S13v",
  "3h2b 3S2a 3X2e",
  "3Q2b 3Q2a 3Q2e",
  "3Q3v",
  "3Z5n",
  "3Q4n15n",
  "3Q4n",
  "2U4z 2U4X 2U5V 2U5T",
  "2U4X 2U5T 2X4z 2U5V",
  "3h3x 3Q2l 3h3w 3Q2m 3X2e 3f3a 3R3s 3h3b 3S2a 3G3c",
  "3l3j 3l3k",
  "013a 013x 013w 012l 012m 012e 013s 013b 012a 013c",
  "01A2",
  "0c3a 0c3x 0c3w 0c2l 0c2m 0c2e 0c3s 0c3b 0c2a 0c3c",
  "3l5j 3l4X",
  "0b6R 3Q5i",
  "015i 016R",
  "3Q5j 014X",
  "3QA6 3Q3n",
  "3Q8m 3Q3n",
  "3Q8m 3Q3n",
  "3Q5j 014X",
  "3h3x 3Q2l 3h3w 3Q2m 3X2e 3f3a 3R3s 3h3b 3S2a 3G3c",
  "0a3a 0a3x 0a3w 0a2l 0a2m 0a2e 0a3s 0a3b 0a2a 0a3c",
  "3Q3a 3Q3x 3Q3w 3Q2l 3Q2m 3Q2e 3Q3s 3Q3b 3Q2a 3Q3c",
  "0a3a 0a3x 0a3w 0a2l 0a2m 0a2e 0a3s 0a3b 0a2a 0a3c",
  "3Q2l 3Q2m 3h2b 3S2a 3X2e",
  "3l4z 3l4X 3l5V 3l5T",
  "3Q5i14z 017c14X",
  "3g7g 3g7b 3h6S 3S7l 3S7k 3X6X",
  "4C4W 484Y",
  "3Z5d 3Q2l 3Q2m 3i5Z 3h2b 3S2a 3X2e",
  "3Q2l 3Q2m 3h2b 3S2a 3X2e",
  "3Q2l 3Q2m 3h2b 3S2a 3X2e",
  "012b 012l 012a 012m 012e",
  "3Q2l 3Q2m 3h2b 3S2a 3X2e",
  "482b44Y 482l44Y 482a44Y 482m44Y 482e44Y",
  "4C2b13o 4C2l13o 4C2a13o 4C2m13o 4C2e13o",
  "3Q2l 3Q2m 3h2b 3S2a 3X2e",
  "4H2b23o 4H2l23o 4H2a23o 4H2m23o 4H2e23o",
  "012b 012l 012a 012m 012e",
  "3Q2l 3Q2m 3h2b 3S2a 3X2e",
  "482b44Y 482l44Y 482a44Y 482m44Y 482e44Y",
  "4C2b13o 4C2l13o 4C2a13o 4C2m13o 4C2e13o",
  "3Q2l 3Q2m 3h2b 3S2a 3X2e",
  "4H2b23o 4H2l23o 4H2a23o 4H2m23o 4H2e23o",
  "2U2Z 2U2J 2U2Q 2U2K 2U1l 2U2Y 2U2W 2U2U 2U1p 2U2X 2U00 2U2L 2U2R 2U2V 2U1q 2U27 2U1M 2U2O 2U1e
   2U1+ 2U2I 2U28 2U2A 2U1z 2U1f 2U2H 2U0e 2U1L 2U0N 2U0S 2U0X 2U2N 2U1d 2U1N 2U2P 2U1H 2U0O 2U2M
   2U29 2U1k 2U2B 2U1o 2U26 2U2C 2U1t 2U0d 2U0a 2U04 2U0b 2U05 2U0g 2U0R 2U0Z 2U0M 2U1g 2U2D 2U1h
   2U2E 2U0T 2U0U 2U1u 2U1v 2U1i 2U2F 2U0V 2U1w 2U1j 2U2G 2U0W 2U1n 2U2S 2U0p 2U0q 2U2T 2U0s 2U0v
   2U0r 2U1r 2U1- 2U20 2U1s 2U1y 2U24 2U21 2U0t 2U0E 2U0w 2U0u 2U1I 2U12 2U06 2U13 2U07 2U1D 2U22
   2U1x 2U25 2U23 2U1m 2U0B 2U14 2U08 2U1F 2U0P 2U1O 2U0h 2U0f 2U1P 2U0i 2U1Y 2U0m 2U1B 2U1J 2U19
   2U1Q 2U0j 2U1a 2U0Q 2U09 2U02 2U0C 2U0A 2U1W 2U1U 2U0k 2U0Y 2U0n 2U0l 2U15 2U16 2U17 2U1E 2U18
   2U1G 2U1C 2U1A 2U0D 2U0F 2U0G 2U0K 2U0H 2U0I 2U03 2U0L 2U0J 2U1c 2U1R 2U1S 2U1Z 2U1T 2U1b 2U1X
   2U1V 2U0c 2U0x 2U0y 2U10 2U0z 2U0+ 2U0o 2U11 2U0-",
  "016T",
  "3Q4q13G 3Q4r13H 3Q4J13O 3Q4M13J 3Q4s13I 3Q4w13P 3Q4u13L 3Q4v13N 3Q4t13K 3Q4k13M",
  "3Q4q13G 3Q4r13H 3Q4J13O 3Q4M13J 3Q4s13I 3Q4w13P 3Q4u13L 3Q4v13N 3Q4t13K 3Q4k13M",
  "3Q4q13G 3Q4r13H 3Q4J13O 3Q4M13J 3Q4s13I 3Q4w13P 3Q4u13L 3Q4v13N 3Q4t13K 3Q4k13M",
  "3Q4q13G 3Q4r13H 3Q4J13O 3Q4M13J 3Q4s13I 3Q4w13P 3Q4u13L 3Q4v13N 3Q4t13K 3Q4k13M",
  "3Q4q13G 3Q4r13H 3Q4J13O 3Q4M13J 3Q4s13I 3Q4w13P 3Q4u13L 3Q4v13N 3Q4t13K 3Q4k13M",
  "3Q2j 3Q3n",
  "3U1e 3S2B 3U0a 3S0g 3U1z 3U1f 3S26 3S2C 3U1k 3S0d 3U0b 3S0Z 2y2Z 3S2U 2y2K 3S2H 3U1L 3S2N 3U0N
   3S1o 3U0S 3S1t 3U2Q 3U1l 3S1p 3S0e 3U0X 3S1d 3U04 3S0R 3U05 3S0M 2y2J 3S2W 3U1M 3S2O 3U1N 3S2P
   3U2Y 3S2X 2y1+ 3S28 3U2I 3S2A 3U1g 3S2D 3U0T 3S1u 3U1i 3S2F 3U0V 3S1w 3U2M 3S29 3U1h 3S2E 3U0U
   3S1v 3U1j 3S2G 3U0W 3S1n 3U2S 3U0p 3U0q 3U0v 3U0r 3U0t 3U0E 3U0w 3U0u 3S1r 3S1- 3S20 3S24 3S21
   3S22 3S1x 3S25 3S23 3U2T 3U0s 3S1s 3S1y 3U1I 3U12 3U06 3U13 3U07 3U1D 3U14 3U08 3U09 3U1F 3U0C
   3U1B 3U0A 3U19 3U02 3S0P 3S1O 3S0h 3S1P 3S0i 3S1Y 3S1Q 3S0j 3S0k 3S1a 3S0n 3S1W 3S0l 3S1U 3S0Y
   3U1m 3U0B 3S0f 3S0m 3U1J 3U15 3U16 3U17 3U1E 3U18 3U1G 3U1C 3U1A 3U0D 3U0F 3U0G 3U0K 3U0H 3U0I
   3U03 3U0L 3U0J 3S0Q 3S1c 3S1R 3S1S 3S1Z 3S1T 3S1b 3S1X 3S1V 3S0c 3S0x 3S0y 3S10 3S0z 3S0+ 3S0o
   3S11 3S0- 3U00 3T2V 3U2L 3T27 3U2R 3X1q 3U1H 3X0O",
  "3U1e 3S2B 3U0a 3S0g 3U1z 3U1f 3S26 3S2C 3U1k 3U0b 3S0d 3S0Z 2y2Z 3S2U 2y2K 3S2H 3U1L 3S2N 3U0N
   3S1o 3U0S 3S1t 3U2Q 3U1l 3S1p 3S0e 3U0X 3S1d 3U04 3S0R 3U05 3S0M 2y2J 3U1M 3U1N 3S2W 3S2O 3S2P
   3U2Y 3S2X 2y1+ 3S28 3U2I 3S2A 3U1g 3S2D 3U0T 3S1u 3U1i 3S2F 3U0V 3S1w 3U2M 3S29 3U1h 3S2E 3U0U
   3S1v 3U1j 3S2G 3U0W 3S1n 3U2S 3U0p 3U0q 3U0v 3U0r 3U0t 3U0E 3U0w 3U0u 3S1r 3S1- 3S20 3S24 3S21
   3S22 3S1x 3S25 3S23 3U1I 3U12 3U06 3U13 3U07 3U1D 3U14 3U1F 3U1B 3U19 3U08 3U09 3U02 3U0C 3U0A
   3S0P 3S1O 3S0h 3S1P 3S0i 3S1Y 3S1Q 3S1a 3S1W 3S1U 3S0j 3S0k 3S0Y 3S0n 3S0l 3U1m 3U0B 3S0f 3S0m
   3U2T 3U0s 3S1s 3S1y 3U1J 3U15 3U16 3U17 3U1E 3U18 3U1G 3U1C 3U1A 3U0D 3U0F 3U0G 3U0K 3U0H 3U0I
   3U03 3U0L 3U0J 3S0Q 3S1c 3S1R 3S1S 3S1Z 3S1T 3S1b 3S1X 3S1V 3S0c 3S0x 3S0y 3S10 3S0z 3S0+ 3S0o
   3S11 3S0- 3U00 3T2V 3U2L 3T27 3U2R 3X1q 3U1H 3X0O",
  "3U1e 3S2B 3U0a 3S0g 3U1z 3U1f 3S26 3S2C 3U1k 3S0d 3U0b 3S0Z 2y2Z 3S2U 2y2K 3S2H 3U1L 3S2N 3U0N
   3S1o 3U0S 3S1t 3U2Q 3U1l 3S1p 3S0e 3U0X 3S1d 3U04 3S0R 3U05 3S0M 2y2J 3S2W 3U1M 3S2O 3U1N 3S2P
   3U2Y 3S2X 2y1+ 3S28 3U2I 3S2A 3U1g 3S2D 3U0T 3S1u 3U1i 3S2F 3U0V 3S1w 3U2M 3S29 3U1h 3S2E 3U0U
   3S1v 3U1j 3S2G 3U0W 3S1n 3U2S 3U0p 3U0q 3U0v 3U0r 3U0t 3U0E 3U0w 3U0u 3S1r 3S1- 3S20 3S24 3S21
   3S22 3S1x 3S25 3S23 3U2T 3U0s 3S1s 3S1y 3U1I 3U12 3U06 3U13 3U07 3U1D 3U14 3U08 3U09 3U1F 3U0C
   3U1B 3U0A 3U19 3U02 3S0P 3S1O 3S0h 3S1P 3S0i 3S1Y 3S1Q 3S0j 3S0k 3S1a 3S0n 3S1W 3S0l 3S1U 3S0Y
   3U1m 3U0B 3S0f 3S0m 3U1J 3U15 3U16 3U17 3U1E 3U18 3U1G 3U1C 3U1A 3U0D 3U0F 3U0G 3U0K 3U0H 3U0I
   3U03 3U0L 3U0J 3S0Q 3S1c 3S1R 3S1S 3S1Z 3S1T 3S1b 3S1X 3S1V 3S0c 3S0x 3S0y 3S10 3S0z 3S0+ 3S0o
   3S11 3S0- 3U00 3T2V 3U2L 3T27 3U2R 3X1q 3U1H 3X0O",
  "3U1e 3S2B 3U0a 3S0g 3U1z 3U1f 3S26 3S2C 3U1k 3S0d 3U0b 3S0Z 2y2Z 3S2U 2y2K 3S2H 3U1L 3S2N 3U0N
   3S1o 3U0S 3S1t 3U2Q 3U1l 3S1p 3S0e 3U0X 3S1d 3U04 3S0R 3U05 3S0M 2y2J 3S2W 3U1M 3S2O 3U1N 3S2P
   3U2Y 3S2X 2y1+ 3S28 3U2I 3S2A 3U1g 3S2D 3U0T 3S1u 3U1i 3S2F 3U0V 3S1w 3U2M 3S29 3U1h 3S2E 3U0U
   3S1v 3U1j 3S2G 3U0W 3S1n 3U2S 3U0p 3U0q 3U0v 3U0r 3U0t 3U0E 3U0w 3U0u 3S1r 3S1- 3S20 3S24 3S21
   3S22 3S1x 3S25 3S23 3U2T 3U0s 3S1s 3S1y 3U1I 3U12 3U06 3U13 3U07 3U1D 3U14 3U08 3U09 3U1F 3U0C
   3U1B 3U0A 3U19 3U02 3S0P 3S1O 3S0h 3S1P 3S0i 3S1Y 3S1Q 3S0j 3S0k 3S1a 3S0n 3S1W 3S0l 3S1U 3S0Y
   3U1m 3U0B 3S0f 3S0m 3U1J 3U15 3U16 3U17 3U1E 3U18 3U1G 3U1C 3U1A 3U0D 3U0F 3U0G 3U0K 3U0H 3U0I
   3U03 3U0L 3U0J 3S0Q 3S1c 3S1R 3S1S 3S1Z 3S1T 3S1b 3S1X 3S1V 3S0c 3S0x 3S0y 3S10 3S0z 3S0+ 3S0o
   3S11 3S0- 3U00 3T2V 3U2L 3T27 3U2R 3X1q 3U1H 3X0O",
  "3Q3r 3Q3d",
  "1N3r 1N3d",
  "3E3r 3E3d",
  "3S6Z 3S6D",
  "3Q5m 3Q5o 3Q3d 3Q4p",
  "3P3r 3P3d",
  "3Q2m 3Q2l",
  "3l3r 3l3d",
  "3Q6Z 3Q6D",
  "3Q2m 3Q2l",
  "3W5X 3W4f 3W33 3W34 3W35 3W2k 3W36 3W2j 3W39 3W2n 3W2o 3W2p 3W31 3W2z 3W2v 3W37 3W2t 3W2w 3W3A
   3W2r 3W2q 3W2s 3W32 3W2+ 3W2x 3W38 3W2u 3W2y 3W3B 3W2- 3W3C 3W30",
  "3Q4U 3Q35 3Q36 3Q37 3Q38 3Q39 3Q2n 3Q2p 3Q31 3Q2z 3Q2v 3Q2t 3Q2w 3Q3A 3Q3B 3Q2- 3Q3C 014j 3Q2o
   3Q2r 3Q2q 3Q30 3Q2s 3Q32 3Q2+ 3Q2x 3Q2u 3Q2y 3Q33 3Q34 3Q2k 3Q2j",
  "3Q6U 3Q3n",
  "3Q3n 3Q2j",
  "3Q3n 3Q2j",
  "3Q4U48t 3Q3348n 3Q3448p 3Q2k48o 3Q2j46e 3Q3548v 3Q3648+ 3Q3948w 3Q2n48x 3Q2o48y 3Q2p48z
   3Q3149f 3Q2z49P 3Q2v49F 3Q2t49D 3Q2w49G 3Q3A48- 3Q2r491 3Q2q490 3Q2s492 3Q3249g 3Q2+49Q
   3Q2x49H 3Q2u49E 3Q2y49I 3Q3749T 3Q3849W 3Q3B49U 3Q2-49V 3Q3C49X 3Q3049Y",
  "3Q7Y 3Q6Q",
  "3Q7Y 3Q6Q",
  "3Q3n 3Q2j",
  "3Q3n 3Q2j",
  "3Q4U 3Q35 3Q36 3Q39 3Q2n 3Q2p 3Q31 3Q2z 3Q2v 3Q2t 3Q2w 3Q3A 3Q37 3Q38 3Q3B 3Q2- 3Q3C 015c 3Q2o
   3Q2r 3Q2q 3Q30 3Q2s 3Q32 3Q2+ 3Q2x 3Q2u 3Q2y 3Q33 3Q34 3Q2k 3Q2j",
  "3Q6U 3Q3n",
  "3Q82 3Q7z 3Q6Q 3Q6e",
  "3Q3r 3Q3d",
  "3Q5o 3Q5m 3Q3d 3Q4p",
  "3Q2m 3Q2l",
  "3Q3r 3Q3d",
  "3Q3r96Z 3Q3d96D",
  "3Q6Z 3Q6D",
  "3g5X2AB 3g35293 3g36298 3g39294 3g2n295 3g2p297 3g3129h 3g2z29R 3g2v29L 3g2t29J 3g2w29M
   3g3A299 3g2q29A 3g2s29C 3g3229i 3g2+29S 3g2x29N 3g2u29K 3g2y29O 3g3729Z 3g3829c 3g3B29a
   3g2-29b 3g3C29d 3g3029e 3e4a2A4 3g2o296 3g2r29B 3g33280 3g3428r 3g2k28q 3g2j25-",
  "3Q2m 3Q2l",
  "3Q3n 3Q2j",
  "3U0012Z100 3U0012K100 3U0012J100 3U0012Q100 3U0011l100 3U0011M100 3U0012Y100 3U0011e100
   3U0011z100 3U0011f100 3U0011+100 3U0012I100 3U0011L100 3U0010N100 3U0010S100 3U0011g100
   3U0010T100 3U0011N100 3U0010a100 3U0011k100 3U0010b100 3U0012U100 3U0011p100 3U0012M100
   3U0011h100 3U0010U100 3U0010X100 3U00104100 3U00105100 3U0012H100 3U0010e100 3U0012W100
   3U0011i100 3U0010V100 3U0011j100 3U0010W100 3U0012O100 3U0012X100 3U0012B100 3U0010g100
   3U00126100 3U0010d100 3U0012C100 3U0010Z100 3U00128100 3U0012A100 3U0012N100 3U0011o100
   3U0011t100 3U0011d100 3U0010R100 3U0010M100 3U0012D100 3U0011u100 3U0012P100 3U00129100
   3U0012E100 3U0011v100 3U0012F100 3U0011w100 3U0012G100 3U0011n100 3U00 3U0012R100 3U0012L100
   3U0012V100 3U0011q100 3U00127100 3U0011H100 3U0010O100 3U0012S100 3U0010p100 3U0010q100
   3U0010v100 3U0010r100 3U0011I100 3U00112100 3U00106100 3U00113100 3U00107100 3U0011D100
   3U0011m100 3U0010B100 3U00114100 3U00108100 3U0011F100 3U0011r100 3U0011-100 3U00120100
   3U00124100 3U0011B100 3U0012T100 3U0010s100 3U0011J100 3U00121100 3U0010t100 3U0010E100
   3U0010w100 3U0010u100 3U0011s100 3U0011y100 3U00119100 3U00109100 3U00102100 3U0010C100
   3U0010A100 3U0010P100 3U0011O100 3U0010h100 3U0010f100 3U0011P100 3U0010i100 3U0011Y100
   3U0010m100 3U0011Q100 3U0010j100 3U0011a100 3U0011W100 3U0010Q100 3U00122100 3U0011x100
   3U00125100 3U00123100 3U0011U100 3U0010k100 3U0010Y100 3U0010n100 3U0010l100 3U00115100
   3U00116100 3U00117100 3U0011E100 3U00118100 3U0011G100 3U0011C100 3U0011A100 3U0010D100
   3U0010F100 3U0010G100 3U0010K100 3U0010H100 3U0010I100 3U00103100 3U0010L100 3U0010J100
   3U0011c100 3U0011R100 3U0011S100 3U0011Z100 3U0011T100 3U0011b100 3U0011X100 3U0011V100
   3U0010c100 3U0010x100 3U0010y100 3U00110100 3U0010z100 3U0010+100 3U0010o100 3U00111100
   3U0010-100",
  "3U1e 3S2B 3U0a 3S0g 3U1z 3U1f 3S26 3S2C 3U1k 3S0d 3U0b 3S0Z 2y2Z 3S2U 2y2K 3S2H 3U1L 3S2N 3U0N
   3S1o 3U0S 3S1t 3U2Q 3U1l 3S1p 3S0e 3U0X 3S1d 3U04 3S0R 3U05 3S0M 2y2J 3S2W 3U1M 3S2O 3U1N 3S2P
   3U2Y 3S2X 2y1+ 3S28 3U2I 3S2A 3U1g 3S2D 3U0T 3S1u 3U1i 3S2F 3U0V 3S1w 3U2M 3S29 3U1h 3S2E 3U0U
   3S1v 3U1j 3S2G 3U0W 3S1n 3U2S 3U0p 3U0q 3U0v 3U0r 3U0t 3U0E 3U0w 3U0u 3S1r 3S1- 3S20 3S24 3S21
   3S22 3S1x 3S25 3S23 3U2T 3U0s 3S1s 3S1y 3U1I 3U12 3U06 3U13 3U07 3U1D 3U14 3U08 3U09 3U1F 3U0C
   3U1B 3U0A 3U19 3U02 3S0P 3S1O 3S0h 3S1P 3S0i 3S1Y 3S1Q 3S0j 3S0k 3S1a 3S0n 3S1W 3S0l 3S1U 3S0Y
   3U1m 3U0B 3S0f 3S0m 3U1J 3U15 3U16 3U17 3U1E 3U18 3U1G 3U1C 3U1A 3U0D 3U0F 3U0G 3U0K 3U0H 3U0I
   3U03 3U0L 3U0J 3S0Q 3S1c 3S1R 3S1S 3S1Z 3S1T 3S1b 3S1X 3S1V 3S0c 3S0x 3S0y 3S10 3S0z 3S0+ 3S0o
   3S11 3S0- 3U00 3T2V 3U2L 3T27 3U2R 3X1q 3U1H 3X0O",
  "3U1e 3S2B 3U0a 3S0g 3U1z 3U1f 3S26 3S2C 3U1k 3S0d 3U0b 3S0Z 2y2Z 3S2U 2y2K 3S2H 3U1L 3S2N 3U0N
   3S1o 3U0S 3S1t 3U2Q 3U1l 3S1p 3S0e 3U0X 3S1d 3U04 3S0R 3U05 3S0M 2y2J 3S2W 3U1M 3S2O 3U1N 3S2P
   3U2Y 3S2X 2y1+ 3S28 3U2I 3S2A 3U1g 3S2D 3U0T 3S1u 3U1i 3S2F 3U0V 3S1w 3U2M 3S29 3U1h 3S2E 3U0U
   3S1v 3U1j 3S2G 3U0W 3S1n 3U2S 3U0p 3U0q 3U0v 3U0r 3U0t 3U0E 3U0w 3U0u 3S1r 3S1- 3S20 3S24 3S21
   3S22 3S1x 3S25 3S23 3U2T 3U0s 3S1s 3S1y 3U1I 3U12 3U06 3U13 3U07 3U1D 3U14 3U08 3U09 3U1F 3U0C
   3U1B 3U0A 3U19 3U02 3S0P 3S1O 3S0h 3S1P 3S0i 3S1Y 3S1Q 3S0j 3S0k 3S1a 3S0n 3S1W 3S0l 3S1U 3S0Y
   3U1m 3U0B 3S0f 3S0m 3U1J 3U15 3U16 3U17 3U1E 3U18 3U1G 3U1C 3U1A 3U0D 3U0F 3U0G 3U0K 3U0H 3U0I
   3U03 3U0L 3U0J 3S0Q 3S1c 3S1R 3S1S 3S1Z 3S1T 3S1b 3S1X 3S1V 3S0c 3S0x 3S0y 3S10 3S0z 3S0+ 3S0o
   3S11 3S0- 3U00 3T2V 3U2L 3T27 3U2R 3X1q 3U1H 3X0O",
  "3U1e 3S2B 3U0a 3S0g 3U1z 3U1f 3S26 3S2C 3U1k 3S0d 3U0b 3S0Z 2y2Z 3S2U 2y2K 3S2H 3U1L 3S2N 3U0N
   3S1o 3U0S 3S1t 3U2Q 3U1l 3S1p 3S0e 3U0X 3S1d 3U04 3S0R 3U05 3S0M 2y2J 3S2W 3U1M 3S2O 3U1N 3S2P
   3U2Y 3S2X 2y1+ 3S28 3U2I 3S2A 3U1g 3S2D 3U0T 3S1u 3U1i 3S2F 3U0V 3S1w 3U2M 3S29 3U1h 3S2E 3U0U
   3S1v 3U1j 3S2G 3U0W 3S1n 3U2S 3U0p 3U0q 3U0v 3U0r 3U0t 3U0E 3U0w 3U0u 3S1r 3S1- 3S20 3S24 3S21
   3S22 3S1x 3S25 3S23 3U2T 3U0s 3S1s 3S1y 3U1I 3U12 3U06 3U13 3U07 3U1D 3U14 3U08 3U09 3U1F 3U0C
   3U1B 3U0A 3U19 3U02 3S0P 3S1O 3S0h 3S1P 3S0i 3S1Y 3S1Q 3S0j 3S0k 3S1a 3S0n 3S1W 3S0l 3S1U 3S0Y
   3U1m 3U0B 3S0f 3S0m 3U1J 3U15 3U16 3U17 3U1E 3U18 3U1G 3U1C 3U1A 3U0D 3U0F 3U0G 3U0K 3U0H 3U0I
   3U03 3U0L 3U0J 3S0Q 3S1c 3S1R 3S1S 3S1Z 3S1T 3S1b 3S1X 3S1V 3S0c 3S0x 3S0y 3S10 3S0z 3S0+ 3S0o
   3S11 3S0- 3U00 3T2V 3U2L 3T27 3U2R 3X1q 3U1H 3X0O",
  "3U1e 3S2B 3U0a 3S0g 3U1z 3U1f 3S26 3S2C 3U1k 3S0d 3U0b 3S0Z 2y2Z 3S2U 2y2K 3S2H 3U1L 3S2N 3U0N
   3S1o 3U0S 3S1t 3U2Q 3U1l 3S1p 3S0e 3U0X 3S1d 3U04 3S0R 3U05 3S0M 2y2J 3S2W 3U1M 3S2O 3U1N 3S2P
   3U2Y 3S2X 2y1+ 3S28 3U2I 3S2A 3U1g 3S2D 3U0T 3S1u 3U1i 3S2F 3U0V 3S1w 3U2M 3S29 3U1h 3S2E 3U0U
   3S1v 3U1j 3S2G 3U0W 3S1n 3U2S 3U0p 3U0q 3U0v 3U0r 3U0t 3U0E 3U0w 3U0u 3S1r 3S1- 3S20 3S24 3S21
   3S22 3S1x 3S25 3S23 3U2T 3U0s 3S1s 3S1y 3U1I 3U12 3U06 3U13 3U07 3U1D 3U14 3U08 3U09 3U1F 3U0C
   3U1B 3U0A 3U19 3U02 3S0P 3S1O 3S0h 3S1P 3S0i 3S1Y 3S1Q 3S0j 3S0k 3S1a 3S0n 3S1W 3S0l 3S1U 3S0Y
   3U1m 3U0B 3S0f 3S0m 3U1J 3U15 3U16 3U17 3U1E 3U18 3U1G 3U1C 3U1A 3U0D 3U0F 3U0G 3U0K 3U0H 3U0I
   3U03 3U0L 3U0J 3S0Q 3S1c 3S1R 3S1S 3S1Z 3S1T 3S1b 3S1X 3S1V 3S0c 3S0x 3S0y 3S10 3S0z 3S0+ 3S0o
   3S11 3S0- 3U00 3T2V 3U2L 3T27 3U2R 3X1q 3U1H 3X0O",
  "3U1e 3S2B 3U0a 3S0g 3U1z 3U1f 3S26 3S2C 3U1k 3S0d 3U0b 3S0Z 2y2Z 3S2U 2y2K 3S2H 3U1L 3S2N 3U0N
   3S1o 3U0S 3S1t 3U2Q 3U1l 3S1p 3S0e 3U0X 3S1d 3U04 3S0R 3U05 3S0M 2y2J 3S2W 3U1M 3S2O 3U1N 3S2P
   3U2Y 3S2X 2y1+ 3S28 3U2I 3S2A 3U1g 3S2D 3U0T 3S1u 3U1i 3S2F 3U0V 3S1w 3U2M 3S29 3U1h 3S2E 3U0U
   3S1v 3U1j 3S2G 3U0W 3S1n 3U2S 3U0p 3U0q 3U0v 3U0r 3U0t 3U0E 3U0w 3U0u 3S1r 3S1- 3S20 3S24 3S21
   3S22 3S1x 3S25 3S23 3U2T 3U0s 3S1s 3S1y 3U1I 3U12 3U06 3U13 3U07 3U1D 3U14 3U08 3U09 3U1F 3U0C
   3U1B 3U0A 3U19 3U02 3S0P 3S1O 3S0h 3S1P 3S0i 3S1Y 3S1Q 3S0j 3S0k 3S1a 3S0n 3S1W 3S0l 3S1U 3S0Y
   3U1m 3U0B 3S0f 3S0m 3U1J 3U15 3U16 3U17 3U1E 3U18 3U1G 3U1C 3U1A 3U0D 3U0F 3U0G 3U0K 3U0H 3U0I
   3U03 3U0L 3U0J 3S0Q 3S1c 3S1R 3S1S 3S1Z 3S1T 3S1b 3S1X 3S1V 3S0c 3S0x 3S0y 3S10 3S0z 3S0+ 3S0o
   3S11 3S0- 3U00 3T2V 3U2L 3T27 3U2R 3X1q 3U1H 3X0O",
  "3U1e 3S2B 3U0a 3S0g 3U1z 3U1f 3S26 3S2C 3U1k 3S0d 3U0b 3S0Z 2y2Z 3S2U 2y2K 3S2H 3U1L 3S2N 3U0N
   3S1o 3U0S 3S1t 3U2Q 3U1l 3S1p 3S0e 3U0X 3S1d 3U04 3S0R 3U05 3S0M 2y2J 3S2W 3U1M 3S2O 3U1N 3S2P
   3U2Y 3S2X 2y1+ 3S28 3U2I 3S2A 3U1g 3S2D 3U0T 3S1u 3U1i 3S2F 3U0V 3S1w 3U2M 3S29 3U1h 3S2E 3U0U
   3S1v 3U1j 3S2G 3U0W 3S1n 3U2S 3U0p 3U0q 3U0v 3U0r 3U0t 3U0E 3U0w 3U0u 3S1r 3S1- 3S20 3S24 3S21
   3S22 3S1x 3S25 3S23 3U2T 3U0s 3S1s 3S1y 3U1I 3U12 3U06 3U13 3U07 3U1D 3U14 3U08 3U09 3U1F 3U0C
   3U1B 3U0A 3U19 3U02 3S0P 3S1O 3S0h 3S1P 3S0i 3S1Y 3S1Q 3S0j 3S0k 3S1a 3S0n 3S1W 3S0l 3S1U 3S0Y
   3U1m 3U0B 3S0f 3S0m 3U1J 3U15 3U16 3U17 3U1E 3U18 3U1G 3U1C 3U1A 3U0D 3U0F 3U0G 3U0K 3U0H 3U0I
   3U03 3U0L 3U0J 3S0Q 3S1c 3S1R 3S1S 3S1Z 3S1T 3S1b 3S1X 3S1V 3S0c 3S0x 3S0y 3S10 3S0z 3S0+ 3S0o
   3S11 3S0- 3U00 3T2V 3U2L 3T27 3U2R 3X1q 3U1H 3X0O",
  "3U1e 3S2B 3U0a 3S0g 3U1z 3U1f 3S26 3S2C 3U1k 3S0d 3U0b 3S0Z 2y2Z 3S2U 2y2K 3S2H 3U1L 3S2N 3U0N
   3S1o 3U0S 3S1t 3U2Q 3U1l 3S1p 3S0e 3U0X 3S1d 3U04 3S0R 3U05 3S0M 2y2J 3S2W 3U1M 3S2O 3U1N 3S2P
   3U2Y 3S2X 2y1+ 3S28 3U2I 3S2A 3U1g 3S2D 3U0T 3S1u 3U1i 3S2F 3U0V 3S1w 3U2M 3S29 3U1h 3S2E 3U0U
   3S1v 3U1j 3S2G 3U0W 3S1n 3U2S 3U0p 3U0q 3U0v 3U0r 3U0t 3U0E 3U0w 3U0u 3S1r 3S1- 3S20 3S24 3S21
   3S22 3S1x 3S25 3S23 3U2T 3U0s 3S1s 3S1y 3U1I 3U12 3U06 3U13 3U07 3U1D 3U14 3U08 3U09 3U1F 3U0C
   3U1B 3U0A 3U19 3U02 3S0P 3S1O 3S0h 3S1P 3S0i 3S1Y 3S1Q 3S0j 3S0k 3S1a 3S0n 3S1W 3S0l 3S1U 3S0Y
   3U1m 3U0B 3S0f 3S0m 3U1J 3U15 3U16 3U17 3U1E 3U18 3U1G 3U1C 3U1A 3U0D 3U0F 3U0G 3U0K 3U0H 3U0I
   3U03 3U0L 3U0J 3S0Q 3S1c 3S1R 3S1S 3S1Z 3S1T 3S1b 3S1X 3S1V 3S0c 3S0x 3S0y 3S10 3S0z 3S0+ 3S0o
   3S11 3S0- 3U00 3T2V 3U2L 3T27 3U2R 3X1q 3U1H 3X0O",
  "3U1e 3S2B 3U0a 3S0g 3U1z 3U1f 3S26 3S2C 3U1k 3S0d 3U0b 3S0Z 2y2Z 3S2U 2y2K 3S2H 3U1L 3S2N 3U0N
   3S1o 3U0S 3S1t 3U2Q 3U1l 3S1p 3S0e 3U0X 3S1d 3U04 3S0R 3U05 3S0M 2y2J 3S2W 3U1M 3S2O 3U1N 3S2P
   3U2Y 3S2X 2y1+ 3S28 3U2I 3S2A 3U1g 3S2D 3U0T 3S1u 3U1i 3S2F 3U0V 3S1w 3U2M 3S29 3U1h 3S2E 3U0U
   3S1v 3U1j 3S2G 3U0W 3S1n 3U2S 3U0p 3U0q 3U0v 3U0r 3U0t 3U0E 3U0w 3U0u 3S1r 3S1- 3S20 3S24 3S21
   3S22 3S1x 3S25 3S23 3U2T 3U0s 3S1s 3S1y 3U1I 3U12 3U06 3U13 3U07 3U1D 3U14 3U08 3U09 3U1F 3U0C
   3U1B 3U0A 3U19 3U02 3S0P 3S1O 3S0h 3S1P 3S0i 3S1Y 3S1Q 3S0j 3S0k 3S1a 3S0n 3S1W 3S0l 3S1U 3S0Y
   3U1m 3U0B 3S0f 3S0m 3U1J 3U15 3U16 3U17 3U1E 3U18 3U1G 3U1C 3U1A 3U0D 3U0F 3U0G 3U0K 3U0H 3U0I
   3U03 3U0L 3U0J 3S0Q 3S1c 3S1R 3S1S 3S1Z 3S1T 3S1b 3S1X 3S1V 3S0c 3S0x 3S0y 3S10 3S0z 3S0+ 3S0o
   3S11 3S0- 3U00 3T2V 3U2L 3T27 3U2R 3X1q 3U1H 3X0O",
  "3U1e 3S2B 3U0a 3S0g 3U1z 3U1f 3S26 3S2C 3U1k 3S0d 3U0b 3S0Z 2y2Z 3S2U 2y2K 3S2H 3U1L 3S2N 3U0N
   3S1o 3U0S 3S1t 3U2Q 3U1l 3S1p 3S0e 3U0X 3S1d 3U04 3S0R 3U05 3S0M 2y2J 3S2W 3U1M 3S2O 3U1N 3S2P
   3U2Y 3S2X 2y1+ 3S28 3U2I 3S2A 3U1g 3S2D 3U0T 3S1u 3U1i 3S2F 3U0V 3S1w 3U2M 3S29 3U1h 3S2E 3U0U
   3S1v 3U1j 3S2G 3U0W 3S1n 3U2S 3U0p 3U0q 3U0v 3U0r 3U0t 3U0E 3U0w 3U0u 3S1r 3S1- 3S20 3S24 3S21
   3S22 3S1x 3S25 3S23 3U2T 3U0s 3S1s 3S1y 3U1I 3U12 3U06 3U13 3U07 3U1D 3U14 3U08 3U09 3U1F 3U0C
   3U1B 3U0A 3U19 3U02 3S0P 3S1O 3S0h 3S1P 3S0i 3S1Y 3S1Q 3S0j 3S0k 3S1a 3S0n 3S1W 3S0l 3S1U 3S0Y
   3U1m 3U0B 3S0f 3S0m 3U1J 3U15 3U16 3U17 3U1E 3U18 3U1G 3U1C 3U1A 3U0D 3U0F 3U0G 3U0K 3U0H 3U0I
   3U03 3U0L 3U0J 3S0Q 3S1c 3S1R 3S1S 3S1Z 3S1T 3S1b 3S1X 3S1V 3S0c 3S0x 3S0y 3S10 3S0z 3S0+ 3S0o
   3S11 3S0- 3U00 3T2V 3U2L 3T27 3U2R 3X1q 3U1H 3X0O",
  "3f4g 0B47 0B49 054A 064B 094C 074D 0246 034H 044E 3R4i 0648 3h4h 0A4F 084G 3G4I",
  "3h2b 3S4K 3S2a 3X4N 3S0M",
  "0B62149 056314A 096514C 076614D 025e146 036A14H 046714E 0Y7i14o 3f3a14g 066414B 0B61147
   3R3s14i 064R148 3h3b14h 0A6814F 086914G 3G3c14I",
  "3G4V 3f3a 3R4l 3G4R 3h3b 3G4m 3G3c",
  "013a 014l 014V 014R 013b 014m 013c",
  "3S1y15P 3S0c15P 3S1d16K 3S7j12a 3S4K12a 3S2a 3S0R10M 3S0M",
  "3h6W 3h5b",
  "3h6W 3h5b",
  "3h2b 3S2a 3X2e",
  "3h2b 3S2a 3X2e",
  "2G4+ 2850 1g4- 1Q51 2G52 1f53 1g54 1w55 1O5M 1S5G 1T5C 1W5A 195D 2856 1Q58 1P57 1k59 1A5N 1D5H
   1E5E 1F5B 0z5F 2B5I 1v5J 1+5K 1h5L",
  "3U4P 3U4Q 3X2e 3S2a",
  "3Q2j 3Q3n",
  "3Q3t23S 3Q35239 3Q3623A 3Q3q23T 3Q3723B 3Q3823C 3Q3S 3Q3G 3Q3J 3Q3I 3Q3P 3Q3N 3Q3L 3Q3K 3Q3M
   3Q39 3Q2n 3Q3Q 3Q2p 3Q31 3Q2z 3Q2v 3Q2t 3Q2w 3Q3A 3Q2q 3Q2s 3Q32 3Q2+ 3Q2x 3Q2u 3Q2y 3Q3T 3Q3O
   3Q3B 3Q2- 3Q3C 3Q30 3Q3p23R 3Q3322k 3Q3422j 3Q3R 3Q3H 3Q2o 3Q2r 3Q2k 3Q2j",
  "3U1M13S31M12cS1M 3U1N13T31N12dS1N 3U0T13930T12cS0T 3U0U13A30U12fS0U 3U0V13B30V12dS0V
   3U0W13C30W12gS0W 3U2h13S32h12cS2h 3U0p13G30p106S0p 3U0s13J30s10DS0s 3U0r13I30r108S0r
   3U0w13P30w10CS0w 3U0u13N30u10AS0u 3U0E13L30E102S0E 3U0t13K30t109S0t 3U0E13M30E102S0E
   3U2i13T32i12dS2i 3U0v13O30v10BS0v 3U2c13932c 3U0612n306 3U0812p308 3U0C13130C 3U0A12z30A
   3U0212v302 3U0912t309 3U0212w302 3U0D13Q30D 3U2f13A32f 3U0F12q30F 3U0H12s30H 3U0L13230L
   3U0J12+30J 3U0312x303 3U0I12u30I 3U0312y303 3U2d13B32d 3U0B12-30B 3U2g13C32g 3U0K13030K
   3U1L13R31L13DS1L 3U0N12k30N104S0N 3U0S12j30S105S0S 3U0X13R30X13DS0X 3U0q13H30q107S0q
   3U0412k304 3U0712o307 3U0G12r30G 3U0512j305",
  "3U1e 3S2B 3U0a 3S0g 2y2Z 3S2U 3U1L 3S2N 3U0N 3S1o 2y2K 3S2H 3U2Q 3S1p 3U1l 3S0e 3U0X 3S1d 3U04
   3S0R 2y2J 3S2W 3U1M 3S2O 3U1N 3S2P 3U2Y 3S2X 3U2S 3U0q 3U0p 3U0v 3U0r 3U0t 3U0E 3U0w 3U0u 3S1r
   3S1- 3S20 3S24 3S21 3S22 3S1x 3S25 3S23 3U2T 3U0s 3S1s 3S1y 2y1+ 3S28 3U2I 3S2A 3U1g 3S2D 3U0T
   3S1u 3U1i 3S2F 3U0V 3S1w 3U2M 3S29 3U1I 3U12 3U13 3U07 3U06 3U1D 3U14 3U08 3U09 3U1F 3U0C 3U1B
   3U0A 3U19 3U02 3S0P 3S1O 3S0h 3S1P 3S0i 3S1Y 3S1Q 3S0j 3S0k 3S1a 3S0n 3S1W 3S0l 3S1U 3S0Y 3U1m
   3U0B 3S0f 3S0m 3U1J 3U15 3U0D 3S0Q 3S1c 3S0c 3U1z 3U1f 3U0S 3U1h 3U0U 3U1j 3U0W 3S26 3S2C 3S1t
   3S2E 3S1v 3S2G 3S1n 3U1k 3U16 3U17 3U0G 3U0F 3U1E 3U0K 3U18 3U0H 3U0I 3U1G 3U0L 3U1C 3U0J 3U1A
   3U03 3U0b 3U05 3S0d 3S1R 3S0x 3S1S 3S0y 3S1Z 3S10 3S1T 3S0z 3S0+ 3S1b 3S11 3S1X 3S0- 3S1V 3S0o
   3S0Z 3S0M 3U00 3T2V 3U2R 3X1q 3U2L 3T27 3U1H 3X0O",
  "3U4P 3U4Q 3X2e 3S2a",
  "3f6d",
  "3f2b16d",
  "2w5g15W 2x4y15a",
  "0b5W 3Q5a",
  "3h6W 3h5b",
  "3h6W 3h5b",
  "3h2b 3S2a 3X2e",
  "3h2b 3S2a 3X2e",
  "3U4P 3U4Q 3X2e 3S2a",
  "3Q2j 3Q3n",
  "3Q3t23S 3Q35239 3Q3623A 3Q3q23T 3Q3723B 3Q3823C 3Q3S 3Q3G 3Q3J 3Q3I 3Q3P 3Q3N 3Q3L 3Q3K 3Q3M
   3Q39 3Q2n 3Q3Q 3Q2p 3Q31 3Q2z 3Q2v 3Q2t 3Q2w 3Q3A 3Q2q 3Q2s 3Q32 3Q2+ 3Q2x 3Q2u 3Q2y 3Q3T 3Q3O
   3Q3B 3Q2- 3Q3C 3Q30 3Q3p23R 3Q3322k 3Q3422j 3Q3R 3Q3H 3Q2o 3Q2r 3Q2k 3Q2j",
  "3U1M13S31M12h 3U1N13T31N12i 3U0T13930T12c 3U0U13A30U12f 3U0V13B30V12d 3U0W13C30W12g 3U2h13S32h
   3U0p13G30p 3U0s13J30s 3U0r13I30r 3U0w13P30w 3U0u13N30u 3U0E13L30E 3U0t13K30t 3U0E13M30E
   3U2c13932c 3U0612n306 3U0812p308 3U0C13130C 3U0A12z30A 3U0212v302 3U0912t309 3U0212w302
   3U0D13Q30D 3U2f13A32f 3U0F12q30F 3U0H12s30H 3U0L13230L 3U0J12+30J 3U0312x303 3U0I12u30I
   3U0312y303 3U2i13T32i 3U0v13O30v 3U2d13B32d 3U0B12-30B 3U2g13C32g 3U0K13030K 3U1L13R31L10X
   3U0N12k30N104 3U0S12j30S105 3U0X13R30X 3U0q13H30q 3U0412k304 3U0712o307 3U0G12r30G 3U0512j305",
  "3h6S 3S7u 3S8e 3X6X",
  "3Q4T56E 3Q4T56F 3Q4T55p 3Q4T56J 3Q4T56I 3Q4T56H 3Q4T56G",
  "4C6B 4C4W 484Y",
  "3Q4n",
  "3Q3n 3Q6U",
  "3U1gS35 3U12S2n 3U13S2o 3U14S2p 3U1FS31 3U1BS2z 3U19S2v 3U3US2t 3U3WS2w 3U15S3Q 3U1hS36
   3U16S2q 3U17S2r 3U18S2s 3U1GS32 3U1CS2+ 3U1AS2x 3U3VS2u 3U3XS2y 3U1iS37 3U1DS2- 3U1jS38
   3U1ES30 3U1eS33 3U1fS34 3U0aS2k 3U0bS2j 2y3iS4f",
  "3Q6U 3Q3n",
  "3U1gS35 3U1hS36 3U1iS37 3U1jS38 2y3iS4f 3U13S2o 3U12S2n 3U1DS2- 3U14S2p 3U1FS31 3U1BS2z
   3U19S2v 3U3US2t 3U3WS2w 3U15S3Q 3U17S2r 3U16S2q 3U1ES30 3U18S2s 3U1GS32 3U1CS2+ 3U1AS2x
   3U3VS2u 3U3XS2y 3U1eS33 3U1fS34 3U0aS2k 3U0bS2j",
  "3h2b 3S2a 3X2e",
  "013u",
  "2U2b13u 2U2a13u 2U2e13u",
  "013u",
  "3U1e20aS1e 3S2B20gS2B 3U0a 3S0g 3U2Z240S2Z 3S2U245S2U 3U2K21lS2K 3S2H20eS2H 3U1L23DS1L
   3S2N23yS2N 3U0N204S0N 3S1o20RS1o 3U2J21IS2J 3U1M22cS1M 3U1N22dS1N 3S2W20PS2W 3S2O23ES2O
   3S2P23FS2P 3U2Y21JS2Y 3S2X20QS2X 3U2S21IS2S 3U0p206S0p 3U0v20BS0v 3U0r208S0r 3U0t209S0t
   3U0E202S0E 3U0w20CS0w 3U0u20AS0u 3S1r20PS1r 3S1-20hS1- 3S2420mS24 3S2120jS21 3S2220kS22
   3S1x20YS1x 3S2520nS25 3S2320lS23 3U2T21JS2T 3U0s20DS0s 3S1s20QS1s 3S1y20cS1y 3U2Q240S2Q
   3S1p245S1p 3U1l 3S0e 3U0X23DS0X 3U0q207S0q 3S1d23yS1d 3S2020iS20 3U04 3S0R 3U1+21IS1+
   3S2820PS28 3U2I21mS2I 3S2A20fS2A 3U1g241S1g 3S2D23eS2D 3U0T22cS0T 3S1u23ES1u 3U1i243S1i
   3S2F23gS2F 3U0V22dS0V 3S1w23FS1w 3U2M21JS2M 3S2920QS29 3U1z21kS1z 3U1f20bS1f 3U0S205S0S
   3U1h242S1h 3U0U22fS0U 3U1j244S1j 3U0W22gS0W 3S2620dS26 3S2C20ZS2C 3S1t20MS1t 3S2E23fS2E
   3S1v23YS1v 3S2G23hS2G 3S1n23ZS1n 3U1k 3U0b 3U05 3S0d 3S0Z 3S0M 3U1I 3U12 3U06 3U13 3U07 3U1D
   3U14 3U1F 3U08 3U09 3U0C 3U1B 3U0A 3U19 3U02 3S0P 3S1O 3S0h 3S1P 3S0i 3S1Y 3S1Q 3S0j 3S0k 3S1a
   3S0n 3S1W 3S0l 3S1U 3S0Y 3U1m 3U0B 3S0f 3S0m 3U1J 3U15 3U16 3U17 3U1E 3U18 3U1G 3U1C 3U1A 3U0D
   3U0G 3U0F 3U0K 3U0H 3U0I 3U03 3U0L 3U0J 3S0Q 3S1c 3S1R 3S1S 3S1Z 3S1T 3S1b 3S1X 3S1V 3S0c 3S0x
   3S0y 3S10 3S0z 3S0+ 3S0o 3S11 3S0- 3U0021HS00 3X2V20OS2V 3U2L21HS2L 3X2720OS27 3U2R21HS2R
   3X1q20OS1q 3U1H 3X0O",
  "3U1e20a 3S2B20g 3U0a 3S0g 3U1z21k 3U1f20b 3S2620d 3S2C20Z 3U1k 3S0d 3U0b 3S0Z 3U2Z22Q 3S2U21p
   3U2K21l 3S2H20e 3U1L20X 3S2N21d 3U0N204 3S1o20R 3U0S205 3S1t20M 3U2J22S 3U1M22h 3U1N22i
   3S2W21r 3S2O23l 3S2P23m 3U2Y22T 3S2X21s 3U1+21I 3S2820P 3U2I21m 3S2A20f 3U1g241 3S2D23e
   3U0T22c 3S1u23E 3U1i243 3S2F23g 3U0V22d 3S1w23F 3U2M21J 3S2920Q 3U1h242 3S2E23f 3U0U22f
   3S1v23Y 3U1j244 3S2G23h 3U0W22g 3S1n23Z 3U2Q 3S1p 3U1l 3S0e 3U0X 3S1d 3U04 3S0R 3U05 3S0M 3U2S
   3U0p 3U0q 3U0v 3U0r 3U0t 3U0E 3U0w 3U0u 3S1r 3S1- 3S20 3S24 3S21 3S22 3S1x 3S25 3S23 3U1I 3U12
   3U06 3U13 3U07 3U1D 3U14 3U1F 3U08 3U09 3U0C 3U1B 3U0A 3U19 3U02 3S0P 3S1O 3S0h 3S1P 3S0i 3S1Y
   3S1Q 3S0j 3S0k 3S1a 3S0n 3S1W 3S0l 3S1U 3S0Y 3U1m 3U0B 3S0f 3S0m 3U2T 3U0s 3S1s 3S1y 3U1J 3U15
   3U16 3U17 3U1E 3U18 3U1G 3U1C 3U1A 3U0D 3U0G 3U0F 3U0K 3U0H 3U0I 3U03 3U0L 3U0J 3S0Q 3S1c 3S1R
   3S1S 3S1Z 3S1T 3S1b 3S1X 3S1V 3S0c 3S0x 3S0y 3S10 3S0z 3S0+ 3S0o 3S11 3S0- 3U0022R 3X2V21q
   3U2L21H 3X2720O 3U2R 3X1q 3U1H 3X0O",
  "3Q4n",
  "2x2b 2x2U 2x2H 2x2V 2x1p 2x0e 2x2B 2x26 2x2C 2x2N 2x1o 2x1t 2x1q 2x0g 2x0d 2x0Z 2x27 2x0O 2x1d
   2x0R 2x0M 2x2W 2x2X 2x28 2x2A 2x2D 2x29 2x2E 2x2F 2x2G 2x2O 2x1u 2x1v 2x1r 2x1- 2x0P 2x1O 2x0h
   2x1P 2x1Y 2x0f 2x1Q 2x1a 2x1W 2x1s 2x1y 2x0Q 2x1c 2x0c 2x1R 2x0x 2x1S 2x1Z 2x1T 2x1b 2x1X 2x1U
   2x1V 2x20 2x0i 2x0y 2x21 2x0j 2x0z 2x2P 2x1w 2x1n 2x24 2x0m 2x10 2x22 2x0k 2x0+ 2x1x 2x0Y 2x0o
   2x25 2x0n 2x11 2x23 2x0l 2x0-",
  "3h2b 3X2e 3S2a",
  "3h2b 3X2e 3S2a",
  "3S2U21p 3S2H20e 3S2B20g 3S2N21d 3S1o20R 3S0g 3S2620d 3S2C20Z 3S1t20M 3S0d 3S0Z 3S1p 3S0e 3S1d
   3S0R 3S0M 3S2W21r 3S2O23l 3S2P23m 3S2X21s 3S2820P 3S2A20f 3S2D23e 3S1u23E 3S2F23g 3S1w23F
   3S2920Q 3S2E23f 3S1v23Y 3S2G23h 3S1n23Z 3S1r 3S1- 3S20 3S24 3S21 3S22 3S1x 3S25 3S23 3S0P 3S1O
   3S0h 3S1P 3S0i 3S1Y 3S1Q 3S0j 3S0k 3S1a 3S0n 3S1W 3S0l 3S1U 3S0Y 3S0f 3S0m 3S1s 3S1y 3S0Q 3S1c
   3S1R 3S1S 3S1Z 3S1T 3S1b 3S1X 3S1V 3S0c 3S0x 3S0y 3S10 3S0z 3S0+ 3S0o 3S11 3S0- 3X2V21q
   3X2720O 3X1q 3X0O",
  "3h2b 3X2e 3S2a",
  "3h2b 3X2e 3S2a",
  "3Q2b 3Q2e 3Q2a",
  "0a2b 0a2e 0a2a",
  "3h2b 3S2a 3X2e",
  "3Q2b 3Q2a 3Q2e",
  "3Q7c13t",
  "0a2b 0a2a 0a2e",
  "3h2b 3S2a 3X2e",
  "3h2b 3S2a 3X2e",
  "3Q2b 3Q2a 3Q2e",
  "0a2b 0a2a 0a2e",
  "3h2b 3S2a 3X2e",
  "3h2b 3S2a 3X2e",
  "3Q2b 3Q2a 3Q2e",
  "3h7h 3S2a 3X2e",
  "065+18g 3G6O186 3G60185 3G3d18d 3G4p18F",
  "2V6O25U 2V5+25R 2V5l25Q 2V4p20Z 2V6024x 2V3d25S",
  "0W3r19q23z 0W6014x23z 0W3d15S23z 0W5+15R25W",
  "3S7+184 3S7x18b 3S7y18E 3S7-18D 3S81183 3S6D18c",
  "0X6O13i 0X5+1Ad 0X5l19l 0XA711e 0X6017r 0XAC11g 0XA810a 0XA911f 0XAG11h 0X4p10b 0XAE113
   0XAD112 0XAT11i 0XAV11j 0XAU11D 0XAF114 0XAX11F 0XAR11B 0XAN119 0XAL13U 0XAO13W 0XAH115
   0XAJ117 0XAI116 0XAW11E 0XAK118 0XAY11G 0XAS11C 0XAP11A 0XAM13V 0XAQ13X",
  "2v3523z 2n2o23z 2m2n23z 2r2p23z 2i3123z 2j2z23z 2k2v23z 2l2t23z 2b2w23z 2t3623z 2h2r23z
   2g2q23z 2p2s23z 2c3223z 2d2+23z 2e2x23z 2f2u23z 2a2y23z 2u3723z 2q2-23z 2s3823z 2o3023z
   2w5k23z 2v3323z 2t3423z 2n2k23z 2h2j23z",
  "0X6O35U 0X5+35R 0X5l35Q 0X4p30Z 0X6034x 0X3d35S",
  "3G5+1Ag 067W18g 3G7Z186 3G7e185 3G2l18d 3G5-18F 3G5l1Af 0B7X18f",
  "3G7W18b 3G7Z184 3G7e183 3G2l18c 3G5-18D 3G7X18E",
  "2Y7x18g 3G7+186 3G81185 3G6D18d 3G7-18F",
  "3S7W15R 3S7Z15U 3S7e14x 3S2l15S 3S5-10Z 3S7X15Q",
  "3S8u27e14x 3S3328019o 3S3328012B 3S3428r12C 3S2k28q10g 3S2j25-10Z 3S3529312D 3S3629812E
   3S3929413e 3S2n29511O 3S2o29611P 3S2p29711Q 3S3129h11a 3S2z29R11W 3S2v29L11U 3S2t29J19v
   3S2w29M19x 3S3A29913f 3S2r29B11S 3S2q29A11R 3S2s29C11T 3S3229i11b 3S2+29S11X 3S2x29N11V
   3S2u29K19w 3S2y29O19y 3S3729Z12F 3S3829c12G 3S3B29a13g 3S2-29b11Y 3S3C29d13h 3S3029e11Z",
  "3S7W15R 3S7Z15U 3S7e14x 3S2l15S 3S5-10Z 3S7X15Q",
  "3Q3n 3Q2j",
  "3Q35 3Q36 3Q39 3Q2n 3Q2o 3Q3Q 3Q2p 3Q31 3Q2z 3Q2v 3Q2t 3Q2w 3Q3A 3Q2q 3Q2r 3Q2s 3Q32 3Q2+ 3Q2x
   3Q2u 3Q2y 3Q37 3Q38 3Q3B 3Q2- 3Q3C 3Q30 014a 3Q33 3Q34 3Q2k 3Q2j",
  "3Q8l",
  "3h2b 3S2a 3X2e",
  "0c4S",
  "3Q2b 3Q2a 3Q2e",
  "3h2b 3S2a 3X2e",
  "0a3v 174Z 0n4L 184O",
  "3Q2b 3Q2a 3Q2e",
  "3h2b 3S2a 3X2e",
  "3Q2b 3Q2a 3Q2e",
  "3h2b 3S2a 3X2e",
  "3Q2b 3Q2a 3Q2e",
  "3h2b 3S2a 3X2e",
  "3Q2b 3Q2a 3Q2e",
  "3U8s12Y",
  "3h2b 3S2a 3X2e",
  "2U6b",
  "3Q4L",
  "0x4L",
  "3Q4L26b",
  "3Q3v",
  "3Q4O",
  "3h2b 3S2a 3X2e",
  "3Q2b 3Q2a 3Q2e",
  "3Q2b24L 3Q2a24L 3Q2e24L",
  "3Q2b24O 3Q2a24O 3Q2e24O",
  "3h2b 3S2a 3X2e",
  "3Q2b 3Q2a 3Q2e",
  "3Q4O",
  "3h2b 3S2a 3X2e",
  "3Q2b 3Q2a 3Q2e",
  "2U4j14a",
  "3h6a12b",
  "3Q3v",
  "3Q3v",
  "0o3v",
  "3Q3v",
  "0o3v",
  "2U6V 2U2K 2U1l 2U1+ 2U2I 2U1e 2U0N 2U2M 2U1z 2U1f 2U0S 2U0a 2U04 2U1g 2U0T 2U2H 2U0e 2U1h 2U0U
   2U1k 2U0b 2U05 2U28 2U2B 2U1o 2U0g 2U0R 2U2A 2U1i 2U0V 2U26 2U2C 2U1t 2U0d 2U0Z 2U0M 2U1j 2U0W
   2U29 2U2D 2U1u 2U2E 2U1v 2U2F 2U1w 2U2G 2U1n 2U1I 2U12 2U13 2U07 2U06 2U1D 2U1m 2U0B 2U14 2U08
   2U1F 2U0P 2U1O 2U0h 2U1B 2U1J 2U0f 2U09 2U0C 2U0A 2U1P 2U0i 2U1Y 2U0m 2U0Q 2U19 2U02 2U1Q 2U0j
   2U1a 2U1W 2U0k 2U0n 2U0l 2U1U 2U0Y 2U2L 2U27 2U1H 2U0O 2U15 2U0D 2U16 2U0F 2U17 2U1E 2U0K 2U18
   2U0H 2U1G 2U1C 2U1A 2U0I 2U03 2U0L 2U0J 2U0G 2U1c 2U0c 2U1R 2U0x 2U1S 2U1Z 2U10 2U1T 2U0z 2U1b
   2U1X 2U1V 2U0+ 2U0o 2U11 2U0- 2U0y",
  "3Q7d16V",
  "3h2b 3S2a 3X2e",
  "3Q5n",
  "3Q5n",
  "3U4z11z 2y4X11+ 2y5T13- 2y5V13+",
  "3U4z11z 2y4X11+ 2y5T13- 2y5V13+",
  "013j 013k",
  "0a3k 0c3j",
  "3d3j 3d3k",
  "013j 013k",
  "3h3x 3Q2l 3h3w 3Q2m 3X2e 3f3a 3R3s 3h3b 3S2a 3G3c",
  "3h3x 3Q2l 3h3w 3Q2m 3X2e 3f3a 3R3s 3h3b 3S2a 3G3c",
  "013a 013x 013w 012l 012m 012e 013s 013b 012a 013c",
  "015j 014X",
  "0b6R 3Q5i",
  "015i15V 016R15V",
  "3h3x 3Q2l 3h3w 3Q2m 3X2e 3f3a 3R3s 3h3b 3S2a 3G3c",
  "3Q3a 3Q3x 3Q3w 3Q2l 3Q2m 3Q2e 3Q3s 3Q3b 3Q2a 3Q3c",
  "0a3a 0a3x 0a3w 0a2l 0a2m 0a2e 0a3s 0a3b 0a2a 0a3c",
  "3h3x 3Q2l 3h3w 3Q2m 3X2e 3f3a 3R3s 3h3b 3S2a 3G3c",
  "3h3x 3Q2l 3h3w 3Q2m 3X2e 3f3a 3R3s 3h3b 3S2a 3G3c",
  "0a3a 0a3x 0a3w 0a2l 0a2m 0a2e 0a3s 0a3b 0a2a 0a3c",
  "3Q3a 3Q3x 3Q3w 3Q2l 3Q2m 3Q2e 3Q3s 3Q3b 3Q2a 3Q3c",
  "3Q5j 014X",
  "3Q4z 014X 015T 015V",
  "3Q2l 3Q2m 3h2b 3S2a 3X2e",
  "4C2b13o 4C2l13o 4C2a13o 4C2m13o 4C2e13o",
  "3Q2l 3Q2m 3h2b 3S2a 3X2e",
  "4H2b23o 4H2l23o 4H2a23o 4H2m23o 4H2e23o",
  "3Q2l 3Q2m 3h2b 3S2a 3X2e",
  "484Y13o",
  "4C2b13o 4C2l13o 4C2a13o 4C2m13o 4C2e13o",
  "4H3o",
  "3Q2l 3Q2m 3h2b 3S2a 3X2e",
  "4C2b13o 4C2l13o 4C2a13o 4C2m13o 4C2e13o",
  "3Q2l 3Q2m 3h2b 3S2a 3X2e",
  "4H2b23o 4H2l23o 4H2a23o 4H2m23o 4H2e23o",
  "3Q2l 3Q2m 3h2b 3S2a 3X2e",
  "484Y13o",
  "4C2b13o 4C2l13o 4C2a13o 4C2m13o 4C2e13o",
  "4H3o",
  "3U1e 3S2B 3U0a 3S0g 3U1z 3U1f 3S26 3S2C 3U1k 3S0d 3U0b 3S0Z 2y2Z 3S2U 2y2K 3S2H 3U1L 3S2N 3U0N
   3S1o 3U0S 3S1t 3U2Q 3U1l 3S1p 3S0e 3U0X 3S1d 3U04 3S0R 3U05 3S0M 2y2J 3S2W 3U1M 3S2O 3U1N 3S2P
   3U2Y 3S2X 2y1+ 3S28 3U2I 3S2A 3U1g 3S2D 3U0T 3S1u 3U1i 3S2F 3U0V 3S1w 3U2M 3S29 3U1h 3S2E 3U0U
   3S1v 3U1j 3S2G 3U0W 3S1n 3U2S 3U0p 3U0q 3U0v 3U0r 3U0t 3U0E 3U0w 3U0u 3S1r 3S1- 3S20 3S24 3S21
   3S22 3S1x 3S25 3S23 3U2T 3U0s 3S1s 3S1y 3U1I 3U12 3U06 3U13 3U07 3U1D 3U14 3U08 3U09 3U1F 3U0C
   3U1B 3U0A 3U19 3U02 3S0P 3S1O 3S0h 3S1P 3S0i 3S1Y 3S1Q 3S0j 3S0k 3S1a 3S0n 3S1W 3S0l 3S1U 3S0Y
   3U1m 3U0B 3S0f 3S0m 3U1J 3U15 3U16 3U17 3U1E 3U18 3U1G 3U1C 3U1A 3U0D 3U0F 3U0G 3U0K 3U0H 3U0I
   3U03 3U0L 3U0J 3S0Q 3S1c 3S1R 3S1S 3S1Z 3S1T 3S1b 3S1X 3S1V 3S0c 3S0x 3S0y 3S10 3S0z 3S0+ 3S0o
   3S11 3S0- 3U00 3T2V 3U2L 3T27 3U2R 3X1q 3U1H 3X0O",
  "3Q3d 3Q3r",
  "013r 013d",
  "018i13r 018i13d",
  "3Q6D 3Q6Z",
  "3Q3r 3Q3d",
  "3Q3d 3Q3r",
  "014j",
  "014j38k14j",
  "013r 013d",
  "013r 013d",
  "3Q3d 3Q3r",
  "2U3d 2U3r",
  "3N5X 3O35 3K36 3L39 382n 392o 3D2p 3331 352z 362v 372t 2z2w 3H3A 322r 342q 3B2s 2+32 2-2+ 302x
   312u 2y2y 3M37 3I38 3J3B 3C2- 3F3C 3A30 3E4f 3O33 3K34 3L2k 3H2j",
  "3E34 3E6c 3E3n 3E2j",
  "3Q4U25X 3Q35 3Q36 3Q39 3Q2n 3Q2o 3Q2p 3Q31 3Q2z 3Q2v 3Q2t 3Q2w 3Q3A 3Q2r 3Q2q 3Q2s 3Q32 3Q2+
   3Q2x 3Q2u 3Q2y 3Q37 3Q38 3Q3B 3Q2- 3Q3C 3Q30 014j24a 3Q33 3Q34 3Q2k 3Q2j",
  "3N4U 3O35 3K36 3L39 382n 392o 3D2p 3331 352z 362v 372t 2z2w 3H3A 322r 342q 3B2s 2+32 2-2+ 302x
   312u 2y2y 3M37 3I38 3J3B 3C2- 3F3C 3A30 3P4j 3O33 3K34 3L2k 3H2j",
  "3d7Y 3d6Q",
  "3Q33 3Q34 3Q2k 3Q2j 3Q4U25X 3Q35 3Q36 3Q39 3Q2n 3Q2o 3Q2p 3Q31 3Q2z 3Q2v 3Q2t 3Q2w 3Q3A 3Q2r
   3Q2q 3Q2s 3Q32 3Q2+ 3Q2x 3Q2u 3Q2y 3Q37 3Q38 3Q3B 3Q2- 3Q3C 3Q30 1N5c24f",
  "3Q4U35X 3Q33 3Q34 3Q2k 3Q2j 3Q35 3Q36 3Q39 3Q2n 3Q2o 3Q2p 3Q31 3Q2z 3Q2v 3Q2t 3Q2w 3Q3A 3Q2r
   3Q2q 3Q2s 3Q32 3Q2+ 3Q2x 3Q2u 3Q2y 3Q37 3Q38 3Q3B 3Q2- 3Q3C 3Q30 015c34f",
  "3E5m 3E5o 3E3d 3E4p",
  "3Q8215o 3Q6Q13d 3Q7z15m 3Q6e14p",
  "3Q5o 3Q3d 3Q5m 3Q4p",
  "3S6D 3S6Z",
  "3E3d 3E3r",
  "3E3d 3E3r",
  "2U2Z 2U2J 2U2Q 2U2K 2U1l 2U1M 2U2Y 2U1e 2U1+ 2U2I 2U1z 2U1f 2U1L 2U0N 2U0S 2U1g 2U0T 2U0a 2U2U
   2U1p 2U1N 2U2M 2U1h 2U0U 2U2H 2U0e 2U1k 2U0b 2U2W 2U2B 2U0g 2U1i 2U0V 2U26 2U2C 2U0d 2U0Z 2U1j
   2U0W 2U0X 2U04 2U05 2U2N 2U1o 2U1t 2U2O 2U1d 2U0R 2U0M 2U2X 2U28 2U2A 2U2D 2U1u 2U2P 2U29 2U2E
   2U1v 2U2F 2U1w 2U2G 2U1n 2U2S 2U0p 2U0q 2U0v 2U0r 2U1I 2U12 2U06 2U13 2U07 2U1D 2U1m 2U0B 2U14
   2U08 2U1F 2U1r 2U1- 2U20 2U24 2U1B 2U2T 2U0s 2U1J 2U21 2U0t 2U0E 2U0w 2U0u 2U1s 2U1y 2U19 2U09
   2U02 2U0C 2U0A 2U0P 2U1O 2U0h 2U0f 2U1P 2U0i 2U1Y 2U0m 2U1Q 2U0j 2U1a 2U1W 2U0Q 2U22 2U1x 2U25
   2U23 2U1U 2U0k 2U0Y 2U0n 2U0l 2U00 2U2R 2U2L 2U2V 2U1q 2U27 2U1H 2U0O 2U15 2U16 2U17 2U1E 2U18
   2U1G 2U1C 2U1A 2U0D 2U0F 2U0G 2U0K 2U0H 2U0I 2U03 2U0L 2U0J 2U1c 2U1R 2U1S 2U1Z 2U1T 2U1b 2U1X
   2U1V 2U0c 2U0x 2U0y 2U10 2U0z 2U0+ 2U0o 2U11 2U0-",
  "3h2b 3S2a 3X2e",
  "3h2b 3S2a 3X2e",
  "3f3a 3R3s 3h3b 3G3c",
  "3G4V 3f3a 3R4l 3G4R 3h3b 3G4m 3G3c",
  "2U3t 2U3S 2U3G 2U3J 2U3I 2U3P 2U3N 2U3q 2U3K 2U3T 2U3O 2U3p 2U33 2U34 2U35 2U36 2U3R 2U3H 2U2k
   2U2j 2U39 2U3A 2U2n 2U2o 2U3Q 2U2q 2U2r 2U2p 2U2s 2U31 2U32 2U2z 2U2+ 2U37 2U38 2U2t 2U2u 2U3B
   2U3C 2U2- 2U30 2U3L 2U3M 2U2v 2U2x 2U2w 2U2y",
  "2U2Z 2U2J 2U2Q 2U2K 2U1l 2U2W 2U2U 2U1M 2U1p 2U2Y 2U2H 2U0e 2U1+ 2U2I 2U1e 2U2O 2U0a 2U1z 2U1f
   2U2X 2U28 2U2A 2U1k 2U0b 2U2B 2U1g 2U0T 2U26 2U2C 2U0g 2U1L 2U0N 2U0S 2U2N 2U1o 2U1t 2U1N 2U0d
   2U0Z 2U2D 2U1u 2U0X 2U04 2U05 2U1d 2U0R 2U0M 2U2M 2U1h 2U0U 2U2P 2U29 2U2E 2U1v 2U1i 2U0V 2U1j
   2U0W 2U2F 2U1w 2U2G 2U1n 2U2S 2U0q 2U0p 2U0v 2U0r 2U1I 2U12 2U13 2U07 2U06 2U1D 2U1m 2U0B 2U14
   2U08 2U1F 2U1r 2U1- 2U20 2U24 2U21 2U0P 2U1O 2U0h 2U1P 2U0i 2U1Y 2U1B 2U2T 2U0s 2U1J 2U0f 2U0m
   2U1Q 2U0j 2U1a 2U0t 2U0E 2U0w 2U0u 2U1W 2U1s 2U1y 2U0Q 2U19 2U22 2U1x 2U25 2U23 2U09 2U02 2U0C
   2U0A 2U1U 2U0k 2U0Y 2U0n 2U0l 2U00 2U2R 2U2V 2U1q 2U2L 2U27 2U1H 2U0O 2U15 2U16 2U17 2U1E 2U18
   2U1G 2U1C 2U1A 2U0D 2U0G 2U0F 2U0K 2U0H 2U0I 2U03 2U0L 2U0J 2U1c 2U1R 2U1S 2U1Z 2U1T 2U1b 2U1X
   2U1V 2U0c 2U0x 2U0y 2U10 2U0z 2U0+ 2U0o 2U11 2U0-",
  "2y2K 3S2H 3U1l 3S0e 3U1e 3S2B 3U0N 3S1o 3U0a 3S0g 3U04 3S0R 2y1+ 3S28 3U2I 3S2A 3U1g 3S2D 3U0T
   3S1u 3U1i 3S2F 3U0V 3S1w 3U2M 3S29 3U1I 3U12 3U13 3U07 3U06 3U1D 3U14 3U08 3U09 3U1F 3U0C 3U1B
   3U0A 3U19 3U02 3S0P 3S1O 3S0h 3S1P 3S0i 3S1Y 3S1Q 3S0j 3S0k 3S1a 3S0n 3S1W 3S0l 3S1U 3S0Y 3U1m
   3U0B 3S0f 3S0m 3U1J 3U15 3U0D 3S0Q 3S1c 3S0c 3U1z 3U1f 3U0S 3U1h 3U0U 3U1j 3U0W 3S26 3S2C 3S1t
   3S2E 3S1v 3S2G 3S1n 3U1k 3U16 3U17 3U0G 3U0F 3U1E 3U0K 3U18 3U0H 3U0I 3U1G 3U0L 3U1C 3U0J 3U1A
   3U03 3U0b 3U05 3S0d 3S1R 3S0x 3S1S 3S0y 3S1Z 3S10 3S1T 3S0z 3S0+ 3S1b 3S11 3S1X 3S0- 3S1V 3S0o
   3S0Z 3S0M 3U2L 3T27 3U1H 3X0O",
  "2M5W 2M5a",
  "3h2b 3S2a 3X2e",
  "2U3u",
  "3Z2b 3Z2U 3Z2H 3Z2B 3Z26 3Z2C 3Z0g 3Z2V 3Z27 3Z0d 3Z0Z 3Z1p 3Z0e 3Z2N 3Z1o 3Z1t 3Z1q 3Z0O 3Z1d
   3Z0R 3Z0M 3Z2W 3Z2X 3Z28 3Z2A 3Z2D 3Z29 3Z2E 3Z2F 3Z2G 3Z2O 3Z1u 3Z1v 3Z1r 3Z1- 3Z0P 3Z1O 3Z0h
   3Z1P 3Z1Y 3Z0f 3Z1Q 3Z1a 3Z1W 3Z1s 3Z1y 3Z0Q 3Z1U 3Z20 3Z0i 3Z1c 3Z1R 3Z1S 3Z1Z 3Z1T 3Z1b 3Z1X
   3Z1V 3Z0c 3Z0x 3Z0y 3Z21 3Z0j 3Z0z 3Z2P 3Z1w 3Z1n 3Z24 3Z0m 3Z10 3Z22 3Z0k 3Z0+ 3Z1x 3Z0Y 3Z0o
   3Z25 3Z0n 3Z11 3Z23 3Z0l 3Z0-",
  "3h2b 3S2a 3X2e",
  "3h2b 3S2a 3X2e",
  "3Q2b 3Q2a 3Q2e",
  "3h2b 3S2a 3X2e",
  "3h2b 3S2a 3X2e",
  "3Q2b 3Q2a 3Q2e",
  "3h2b 3S2a 3X2e",
  "3h2b 3S2a 3X2e",
  "3Q2b 3Q2a 3Q2e",
  "3h2b 3S2a 3X2e",
  "3S5+15R 3S6014x 3S3d15S 3S4p10Z 3S6O15U 3S5l15Q",
  "3W3u",
  "3S3u29n23u",
  "3S7W15R 3S6014x 3S3d15S 3S4p10Z 3S7Z15U 3S5l15Q",
  "3G7x18b 3G81183 3G6D18c 3G7-18D 3G7+184 3G7y18E",
  "3f3n19m 3f2j19m",
  "0B5l18f15k",
  "0X5l15k19l",
  "3S5+15R 3S6014x 3S3d15S 3S4p10Z 3S6O15U 3S5l15Q",
  "2Z7y18f15k",
  "3S7X15Q25k",
  "3Q4J54S",
  "3h2b 3S2a 3X2e",
  "3Q8l",
  "3h2b 3S2a 3X2e",
  "3h2b 3S2a 3X2e",
  "3h2b 3S2a 3X2e",
  "3h2b 3S2a 3X2e",
  "3Q6b",
  "3Q4L",
  "0x4L",
  "3Q6b",
  "2U6a",
  "2U6a",
  "3Q4O",
  "3Q6a",
  "3Q4O",
  "0y4O",
  "3h2b 3S2a 3X2e",
  "3Q2b 3Q2a 3Q2e",
  "3h2b 3S2a 3X2e",
  "3Q2b 3Q2a 3Q2e",
  "3h2b 3S2a 3X2e",
  "3h2b 3S2a 3X2e",
  "3Q3v",
  "0o3v",
  "2y2K 3S2H 3U1l 3S0e 3U1e 3S2B 3U0N 3S1o 3U0a 3S0g 3U04 3S0R 2y1+ 3S28 3U2I 3S2A 3U1g 3S2D 3U0T
   3S1u 3U1i 3S2F 3U0V 3S1w 3U2M 3S29 3U1I 3U12 3U06 3U13 3U07 3U1D 3U14 3U08 3U09 3U1F 3U0C 3U1B
   3U0A 3U19 3U02 3S0P 3S1O 3S0h 3S1P 3S0i 3S1Y 3S1Q 3S0j 3S0k 3S1a 3S0n 3S1W 3S0l 3S1U 3S0Y 3U1m
   3U0B 3S0f 3S0m 3U1J 3U15 3U0D 3S0Q 3S1c 3S0c 3U1z 3U1f 3U0S 3S26 3S2C 3S1t 3U1h 3S2E 3U0U 3S1v
   3U1j 3S2G 3U0W 3S1n 3U1k 3U16 3U0F 3U17 3U0G 3U1E 3U0K 3U18 3U0H 3U0I 3U1G 3U0L 3U1C 3U0J 3U1A
   3U03 3U0b 3U05 3S0d 3S1R 3S0x 3S1S 3S0y 3S1Z 3S10 3S1T 3S0z 3S0+ 3S1b 3S11 3S1X 3S0- 3S1V 3S0o
   3S0Z 3S0M 3U2L 3T27 3U1H 3X0O",
  "3U4P 3X2e 3Q6V 3U4Q 3S2a",
  "2y2K 3S2H 3U1l 3S0e 3U1e 3S2B 3U0N 3S1o 3U0a 3S0g 3U04 3S0R 2y1+ 3S28 3U1g 3S2D 3U0T 3S1u 3U1i
   3S2F 3U2M 3S29 3U1I 3U12 3U06 3U13 3U07 3U1D 3U14 3U08 3U09 3U1F 3U0C 3U1B 3U0A 3U19 3U02 3S0P
   3S1O 3S0h 3S1P 3S0i 3S1Y 3S1Q 3S0j 3S0k 3S1a 3S0n 3S1W 3S0l 3S1U 3S0Y 3U1J 3U15 3U0D 3S0Q 3S1c
   3S0c 3U1z 3U1f 3U0S 3U1h 3U0U 3U1j 3S26 3S2C 3S1t 3S2E 3S1v 3S2G 3U1k 3U16 3U0F 3U17 3U0G 3U1E
   3U18 3U0H 3U0I 3U1G 3U0L 3U1C 3U0J 3U1A 3U03 3U0b 3U05 3S0d 3S1R 3S0x 3S1S 3S0y 3S1Z 3S1T 3S0z
   3S0+ 3S1b 3S11 3S1X 3S0- 3S1V 3S0o 3S0Z 3S0M 3U2L 3T27 3U1H 3X0O 3Q6V 3U2I 3S2A 3U0V 3S1w 3U0W
   3S1n 3U1m 3U0B 3U0K 3S0f 3S0m 3S10",
  "0a3k 0c3j",
  "3d3j 3d3k",
  "013j 013k",
  "3l3j35T 3l3k35T",
  "013j65T 013k65T",
  "3h3x 3Q2l 3h3w 3Q2m 3X2e 3f3a 3R3s 3h3b 3S2a 3G3c",
  "3Q5j 014X",
  "015j15V 014X15V",
  "0b6R 3Q5i",
  "3h3x 3Q2l 3h3w 3Q2m 3X2e 3f3a 3R3s 3h3b 3S2a 3G3c",
  "3h3x 3Q2l 3h3w 3Q2m 3X2e 3f3a 3R3s 3h3b 3S2a 3G3c",
  "3Q3a 3Q3x 3Q3w 3Q2l 3Q2m 3Q2e 3Q3s 3Q3b 3Q2a 3Q3c",
  "3h3x 3Q2l 3h3w 3Q2m 3X2e 3f3a 3R3s 3h3b 3S2a 3G3c",
  "3Q3a 3Q3x 3Q3w 3Q2l 3Q2m 3Q2e 3Q3s 3Q3b 3Q2a 3Q3c",
  "0a3a 0a3x 0a3w 0a2l 0a2m 0a2e 0a3s 0a3b 0a2a 0a3c",
  "3h3x 3Q2l 3h3w 3Q2m 3X2e 3f3a 3R3s 3h3b 3S2a 3G3c",
  "3Q2l 3Q2m 3h2b 3S2a 3X2e",
  "4C2b13o 4C2l13o 4C2a13o 4C2m13o 4C2e13o",
  "3Q2l 3Q2m 3h2b 3S2a 3X2e",
  "4C3o",
  "3Q2l 3Q2m 3h2b 3S2a 3X2e",
  "4C2b13o 4C2l13o 4C2a13o 4C2m13o 4C2e13o",
  "3Q2l 3Q2m 3h2b 3S2a 3X2e",
  "4C3o",
  "3Q3d 3Q3r",
  "3Q3d 3Q3r",
  "3Q3d 3Q3r",
  "3Q3d 3Q3r",
  "3Q3d13p 3Q3r13p",
  "3Q7Y16U 3Q6Q13n",
  "3Q6Q13n 3Q6e12j",
  "3P4j14a 3P33 3P34 3P2k 3P4U15X 3P2j 3P35 3P36 3P39 3P2n 3P2o 3P2p 3P31 3P2z 3P2v 3P37 3P2t
   3P2w 3P3A 3P2r 3P2q 3P2s 3P32 3P2+ 3P2x 3P38 3P2u 3P2y 3P3B 3P2- 3P3C 3P30",
  "3Q6c 3Q3n 3Q34 3Q2j",
  "3Q6c 3Q3n 3Q34 3Q2j",
  "3Q3n 3Q2j",
  "3Q4U48t 3Q3548v 3Q3648+ 3Q3948w 3Q2n48x 3Q2o48y 3Q2p48z 3Q3149f 3Q2z49P 3Q2v49F 3Q2t49D
   3Q2w49G 3Q3A48- 3Q2r491 3Q2q490 3Q2s492 3Q3249g 3Q2+49Q 3Q2x49H 3Q2u49E 3Q2y49I 3Q3749T
   3Q3849W 3Q3B49U 3Q2-49V 3Q3C49X 3Q3049Y 014j48k 3Q3348n 3Q3448p 3Q2k48o 3Q2j46e",
  "3Q6Q 3Q7Y",
  "3Q3n 3Q6U",
  "3Q3n 3Q6U",
  "3Q33 3Q34 3Q2k 3Q2j 3Q4U25X 3Q35 3Q36 3Q39 3Q2n 3Q2o 3Q2p 3Q31 3Q2z 3Q2v 3Q2t 3Q2w 3Q3A 3Q2r
   3Q2q 3Q2s 3Q32 3Q2+ 3Q2x 3Q2u 3Q2y 3Q37 3Q38 3Q3B 3Q2- 3Q3C 3Q30 1N5c24f",
  "3Q5X 3Q33 3Q34 3Q2k 3Q2j 3Q35 3Q36 3Q39 3Q2n 3Q2o 3Q2p 3Q31 3Q2z 3Q2v 3Q2t 3Q2w 3Q3A 3Q2r 3Q2q
   3Q2s 3Q32 3Q2+ 3Q2x 3Q2u 3Q2y 3Q37 3Q38 3Q3B 3Q2- 3Q3C 3Q30 014f",
  "3Q3d 3Q3r",
  "3Q5o 3Q3d 3Q5m 3Q4p",
  "3Q3d 3Q3r",
  "3Q6D 3Q6Z",
  "3Q3d 3Q3r",
  "013d 013r",
  "013d 013r",
  "013d 013r",
  "013d 013r",
  "013d 013r",
  "013d 013r",
  "3U1e 3S2B 3U0a 3S0g 3U1z 3U1f 3S26 3S2C 3U1k 3U0b 3S0d 3S0Z 2y2Z 3S2U 2y2K 3S2H 3U1L 3S2N 3U0N
   3S1o 3U0S 3S1t 3U2Q 3U1l 3S1p 3S0e 3U0X 3S1d 3U04 3S0R 3U05 3S0M 2y2J 3U1M 3U1N 3S2W 3S2O 3S2P
   3U2Y 3S2X 2y1+ 3S28 3U2I 3S2A 3U1g 3S2D 3U0T 3S1u 3U1i 3S2F 3U0V 3S1w 3U2M 3S29 3U1h 3S2E 3U0U
   3S1v 3U1j 3S2G 3U0W 3S1n 3U2S 3U0p 3U0q 3U0v 3U0r 3U0t 3U0E 3U0w 3U0u 3S1r 3S1- 3S20 3S24 3S21
   3S22 3S1x 3S25 3S23 3U1I 3U12 3U06 3U13 3U07 3U1D 3U14 3U1F 3U1B 3U19 3U08 3U09 3U02 3U0C 3U0A
   3S0P 3S1O 3S0h 3S1P 3S0i 3S1Y 3S1Q 3S1a 3S1W 3S1U 3S0j 3S0k 3S0Y 3S0n 3S0l 3U1m 3U0B 3S0f 3S0m
   3U2T 3U0s 3S1s 3S1y 3U1J 3U15 3U16 3U17 3U1E 3U18 3U1G 3U1C 3U1A 3U0D 3U0F 3U0G 3U0K 3U0H 3U0I
   3U03 3U0L 3U0J 3S0Q 3S1c 3S1R 3S1S 3S1Z 3S1T 3S1b 3S1X 3S1V 3S0c 3S0x 3S0y 3S10 3S0z 3S0+ 3S0o
   3S11 3S0- 3U00 3T2V 3U2L 3T27 3U2R 3X1q 3U1H 3X0O",
  "3f3a 3R3s 3h3b 3G3c",
  "3Q2j 3Q3n",
  "3U1e 3S2B 3U0a 3S0g 3U1z 3U1f 3S26 3S2C 3U1k 3U0b 3S0d 3S0Z 2y2Z 3S2U 2y2K 3S2H 3U1L 3S2N 3U0N
   3S1o 3U0S 3S1t 3U2Q 3U1l 3S1p 3S0e 3U0X 3S1d 3U04 3S0R 3U05 3S0M 2y2J 3S2W 3U1M 3S2O 3U1N 3S2P
   3U2Y 3S2X 2y1+ 3S28 3U2I 3S2A 3U1g 3S2D 3U0T 3S1u 3U1i 3S2F 3U0V 3S1w 3U2M 3S29 3U1h 3S2E 3U0U
   3S1v 3U1j 3S2G 3U0W 3S1n 3U2S 3U0p 3U0q 3U0v 3U0r 3U0t 3U0E 3U0w 3U0u 3S1r 3S1- 3S20 3S24 3S21
   3S22 3S1x 3S25 3S23 3U1I 3U12 3U06 3U13 3U07 3U1D 3U14 3U1F 3U08 3U09 3U0C 3U1B 3U0A 3U19 3U02
   3S0P 3S1O 3S0h 3S1P 3S0i 3S1Y 3S1Q 3S0j 3S0k 3S1a 3S0n 3S1W 3S0l 3S1U 3S0Y 3U1m 3U0B 3S0f 3S0m
   3U2T 3U0s 3S1s 3S1y 3U1J 3U15 3U16 3U17 3U1E 3U18 3U1G 3U1C 3U1A 3U0D 3U0F 3U0G 3U0K 3U0H 3U0I
   3U03 3U0L 3U0J 3S0Q 3S1c 3S1R 3S1S 3S1Z 3S1T 3S1b 3S1X 3S1V 3S0c 3S0x 3S0y 3S10 3S0z 3S0+ 3S0o
   3S11 3S0- 3U00 3T2V 3U2L 3T27 3U2R 3X1q 3U1H 3X0O",
  "3h2b 3X2e 3S2a",
  "3h2b 3S2a 3X2e",
  "3h2b 3S2a 3X2e",
  "3h2b 3S2a 3X2e",
  "0X3u",
  "3Q4S",
  "0g4S34Z",
  "3Q6a13q",
  "3Q6a13q",
  "3Q4O",
  "0y4O",
  "3h2b 3S2a 3X2e",
  "3h2b 3S2a 3X2e",
  "013j 013k",
  "3d5h",
  "0a3k 0c3j",
  "013j15h 013k15h",
  "0a3k 0c3j",
  "3d3j 3d3k",
  "3l3j35T 3l3k35T",
  "3Q5j 014X",
  "3h3x 3Q2l 3h3w 3Q2m 3X2e 3f3a 3R3s 3h3b 3S2a 3G3c",
  "3h3x 3Q2l 3h3w 3Q2m 3X2e 3f3a 3R3s 3h3b 3S2a 3G3c",
  "3h3x 3Q2l 3h3w 3Q2m 3X2e 3f3a 3R3s 3h3b 3S2a 3G3c",
  "3Q3a 3Q3x 3Q3w 3Q2l 3Q2m 3Q2e 3Q3s 3Q3b 3Q2a 3Q3c",
  "3Q2l 3Q2m 3h2b 3S2a 3X2e",
  "3Q2l 3Q2m 3h2b 3S2a 3X2e",
  "3Q3d 3Q3r",
  "3Q3n 3Q2j",
  "3Q6c 3Q3n 3Q34 3Q2j",
  "3Q3n 3Q6U",
  "015X 0133 014f 0134 0135 012k 0136 012j 0139 012n 012o 012p 0131 012z 012v 0137 012t 012w 013A
   012r 012q 012s 0132 012+ 012x 0138 012u 012y 013B 012- 013C 0130",
  "3Q3d 3Q3r",
  "3Q3d 3Q3r",
  "3Q3d 3Q3r",
  "3Q4S",
  "3Q4S",
  "0a3k 0c3j",
  "013j15h 013k15h",
  "015h",
  "0a3k 0c3j",
  "015h",
  "013j 013k",
  "0a3k 0c3j",
  "3d3j 3d3k",
  "3h3x 3Q2l 3h3w 3Q2m 3X2e 3f3a 3R3s 3h3b 3S2a 3G3c",
  "0a3k 0c3j",
  "0a3k 0c3j",
  "013j15h 013k15h",
  "013j 013k",
  "0a3k 0c3j",
  "0a3k 0c3j",
  "013j15h 013k15h",
  "0a3k 0c3j"]

end Outline.Ruby
