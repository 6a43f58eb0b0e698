/-! The sets of tokens that the Ruby parser looks for together. Tokens that cannot be mistaken for
each other are looked for in one set even where only some of them are expected. -/
namespace Outline.Ruby

/-- Sets of terminals, one a word, six members a digit with the lowest first. -/
def modeText : String :=
  "tx-l5mRz-xr----lVc3V+ tRn70m3E10000G0e1W3VU4 Ye-d5mRNHn--x--l1W3VU4 Ye-d5mRMHv--x--l1W3VU4
   Ye-d5mRMnn--x--l1W3VU4 dezd5mRMHm--x--l1W3VU4 Yvzd5mRUHm--x--l1W3VU4 Ye-d5mRMHn--x--l1W3VU4
   Yezd5mRMHo--x--l1W3VU4 Ye-d5mRMHm--x--l1W3VU4 Yevd5mRMHo--x--l1W3VU4 Yuvd5mRUHm--x--l1W3VU4
   Yetd5mRNHn00w--l1W3VU4 Yetd5mRMHv00w--l1W3VU4 Yetd5mRMnn00w--l1W3VU4 derd5mRMHm00w--l1W3VU4
   Yetd5mRMHn00w--l1W3VU4 Yvrd5mRUHm00w--l1W3VU4 Yerd5mRMHo00w--l1W3VU4 Yetd5mRMHm00w--l1W3VU4
   Yetd4mBNHn00w--l1W3VU4 Yetd4mBMHv00w--l1W3VU4 Yetd4mBMnn00w--l1W3VU4 Yend5mRMHo00w--l1W3VU4
   derd4mBMHm00w--l1W3VU4 Yvrd4mBUHm00w--l1W3VU4 Yund5mRUHm00w--l1W3VU4 Yetd4mBMHn00w--l1W3VU4
   Yerd4mBMHo00w--l1W3VU4 Yetd4mBMHm00w--l1W3VU4 Yend4mBMHo00w--l1W3VU4 Yund4mBUHm00w--l1W3VU4
   oQ170m34V0000G0e1W3VU4 Y9H60m3CV0000G0e1W3VU4 og774mJK1v000G0e1W3VU4 og774m341v000G0e1W3VU4
   oAd70m3419000G0e1W3VU4 oQV70m3419000G0e1W3VU4 oRX70m3410000G0e1W3VU4 Yetd4mR7Hn00w--l1W3VU4
   Yetd4mR6Hv00w--l1W3VU4 Yetd4mR6nn00w--l1W3VU4 oA370m34X3000G0e1W3VU4 derd4mR6Hm00w--l1W3VU4
   Yetd4mB7Hn00w--l1W3VU4 Yetd4mB6Hv00w--l1W3VU4 Yetd4mB6nn00w--l1W3VU4 Yetd4mR6Hn00w--l1W3VU4
   Yvrd4mREHm00w--l1W3VU4 oA370m3511000G0e1W3VU4 oA770m341B000G0e1W3VU4 derd4mB6Hm00w--l1W3VU4
   Yerd4mR6Ho00w--l1W3VU4 Yvrd4mBEHm00w--l1W3VU4 Yetd4mR6Hm00w--l1W3VU4 Yetd4mJ4Hv00w--l1W3VU4
   Yetd4mJ4nn00w--l1W3VU4 Yetd4mJ5Hn00w--l1W3VU4 Yetd4mB6Hn00w--l1W3VU4 oA370m3513000G0e1W3VU4
   oA370mB413000G0e1W3VU4 Y8N70mR511000G0k1W3VU4 Yerd4mB6Ho00w--l1W3VU4 derd4mJ4Hm00w--l1W3VU4
   Yvrd4mJCHm00w--l1W3VU4 Yetd4m34Hv00w--l1W3VU4 Yetd4mB6Hm00w--l1W3VU4 Yetd4m34nn00w--l1W3VU4
   Yetd4m35Hn00w--l1W3VU4 Yend4mR6Ho00w--l1W3VU4 oA370m3410000G0e1W3VU4 oA370m34X1000G0e1W3VU4
   oA370mB411000G0e1W3VU4 Y8N70mB511000G0k1W3VU4 Y8N70mJ419000G0k1W3VU4 Y8td4mR7H100w--l1W3VU4
   Y8td4mR6H900w--l1W3VU4 Y8N70mJ4X1000G0k1W3VU4 Y8N70mJ511000G0k1W3VU4 Y8N70mR411000G0k1W3VU4
   Y8td4mR6n100w--l1W3VU4 derd4m34Hm00w--l1W3VU4 Yvrd4m3CHm00w--l1W3VU4 Yerd4mJ4Ho00w--l1W3VU4
   Yetd4mJ4Hm00w--l1W3VU4 Yund4mREHm00w--l1W3VU4 Yend4mB6Ho00w--l1W3VU4 YP1E0m3CV0000G0e1W3VU4
   Y8N70m3419000G0k1W3VU4 d8L70mJ410000G0k1W3VU4 YPL70mJC10000G0k1W3VU4 d8rd4mR6H000w--l1W3VU4
   Y8N70m34X1000G0k1W3VU4 Y8N70m3511000G0k1W3VU4 Y8td4mB7H100w--l1W3VU4 Y8td4mB6H900w--l1W3VU4
   Y8N70mB411000G0k1W3VU4 Y8td4mB6n100w--l1W3VU4 Yvrd4m3EHm00+--f1W3VU4 Yerd4m34Ho00w--l1W3VU4
   Y8td4mR6H100w--l1W3VU4 Yund4mBEHm00w--l1W3VU4 Yetd4m34Hm00w--l1W3VU4 Yend4mJ4Ho00w--l1W3VU4
   YPrd4mREH000w--l1W3VU4 d8L70m3410000G0k1W3VU4 YPL70m3C10000G0k1W3VU4 Y8L70mJ412000G0k1W3VU4
   Y8rd4mR6H200w--l1W3VU4 d8rd4mB6H000w--l1W3VU4 Y8N70mJ410000G0k1W3VU4 YPrd4mBEH000w--l1W3VU4
   Y8td4mR6H000w--l1W3VU4 Y8td4mJ4H900w--l1W3VU4 Y8td4mJ4n100w--l1W3VU4 Yerd4m36Ho00w--f1W3VU4
   Y8td4mJ5H100w--l1W3VU4 Y8td4mB6H100w--l1W3VU4 Yvnd4m3EHm00+--f1W3VU4 Yund4mJCHm00w--l1W3VU4
   Yend4m34Ho00w--l1W3VU4 Y8L70m3412000G0k1W3VU4 Y8N70m3410000G0k1W3VU4 Y8rd4mB6H200w--l1W3VU4
   d8rd4mJ4H000w--l1W3VU4 YPrd4mJCH000w--l1W3VU4 Y8H70mJ412000G0k1W3VU4 Y8td4m34H900w--l1W3VU4
   Y8td4mB6H000w--l1W3VU4 Y8td4m34n100w--l1W3VU4 Y8td4m35H100w--l1W3VU4 Y8nd4mR6H200w--l1W3VU4
   Yend4m36Ho00w--f1W3VU4 Yund4m3CHm00w--l1W3VU4 Yerd4mJ4Hm00w--f1W3VU4 d8rd4m34H000w--l1W3VU4
   YOH70mJC10000G0k1W3VU4 YOnd4mREH000w--l1W3VU4 YPrd4m3CH000w--l1W3VU4 Y8H70m3412000G0k1W3VU4
   Y8rd4mJ4H200w--l1W3VU4 Y8td4mJ4H000w--l1W3VU4 Y8nd4mB6H200w--l1W3VU4 Yend4mJ4Hm00w--f1W3VU4
   YOH70m3C10000G0k1W3VU4 YOnd4mBEH000w--l1W3VU4 YPrd4m3EH000+--f1W3VU4 Y8rd4m34H200w--l1W3VU4
   Y8td4m34H000w--l1W3VU4 Y8nd4mJ4H200w--l1W3VU4 YPnd4m3EH000+--f1W3VU4 YOnd4mJCH000w--l1W3VU4
   Y8rd4m36H200w--f1W3VU4 Y8nd4m34H200w--l1W3VU4 Y8nd4m36H200w--f1W3VU4 YOnd4m3CH000w--l1W3VU4
   Y8rd4mJ4H000w--f1W3VU4 Y8nd4mJ4H000w--f1W3VU4 YPn70m3C10000G0e1W3VU4 Y91E0m3410000G0e1W3VU4
   Y8H70m3612000G0e1W3VU4 Y8H60mJ410000G0e1W3VU4 Yuzd4mRsHm--x--l1W3VU4 Yevc5mR+Hm--x--l1W3VU4
   Y8V10mR501000G0E0W3VU4 Y8V10mB501000G0E0W3VU4 Y8V10mJ409000G0E0W3VU4 Y8V10mJ4W1000G0E0W3VU4
   Y8V10mJ501000G0E0W3VU4 Y8V10mR401000G0E0W3VU4 d8T10mJ400000G0E0W3VU4 YPT10mJC00000G0E0W3VU4
   Y8V10m3409000G0E0W3VU4 Y8V10m34W1000G0E0W3VU4 Y8V10m3501000G0E0W3VU4 Y8V10mB401000G0E0W3VU4
   d8T10m3400000G0E0W3VU4 YPT10m3C00000G0E0W3VU4 Y8T10mJ402000G0E0W3VU4 Y8V10mJ400000G0E0W3VU4
   Y8T10m3402000G0E0W3VU4 Y8V10m3400000G0E0W3VU4 Y8P10mJ402000G0E0W3VU4 YOP10mJC00000G0E0W3VU4
   Y8P10m3402000G0E0W3VU4 YOP10m3C00000G0E0W3VU4 YOP40m3C00000G080W3VU4 YeH40mB400000G080W3VU4
   YPtd4mRFV100w--70W3V04 Y8N70mB5V1000G060W3V04 Y8N70mJ4V9000G060W3V04 Y8N70mJ4-1000G060W3V04
   Y8N70mJ5V1000G060W3V04 Y8N70mR4V1000G060W3V04 YPL70mJ4V0000G060W3V04 Y8N70m34V9000G060W3V04
   d8L70mJ4V0000G060W3V04 Y8N70m34-1000G060W3V04 Y8N70m35V1000G060W3V04 Y8N70mB4V1000G060W3V04
   d8L70m34V0000G060W3V04 YPL70m34V0000G060W3V04 Y8L70mJ4V2000G060W3V04 Y8N70mJ4V0000G060W3V04
   Y8L70m34V2000G060W3V04 Y8N70m34V0000G060W3V04 YPHE000CV0000G000W3V04 Y8L700G4V2000G060W3V04
   bn-Z4mRxnx--x--70W YOL700GCV0000G060W3V04 Y8H700G4V2000G060W3V04 Y8L70004V2000G060W3V04
   YOH700GCV0000G060W3V04 YOL7000CV0000G060W3V04 Y8H70004V2000G060W3V04 Y8H70m04V2000G000W3V04
   YOH7000CV0000G060W3V04 YO16000CV0000G000W3V04 bHtB0mRxlB000G060W3F04 WnyZ40OQHm-----70W
   bnsZ5mRRnx00w--70W0G dnsZ4mR3nx00+--70W bHsZ4mRBnB00+--70W WWuY50GIHm--x--10W
   28Wi5000H000W--X-Z0nF WnqZ40OQHm00+--70W YnqZ40OAHm00+--70W 20Wi4000H000W--X-Z0mF
   YnmZ40OAHm00+--70W YWmZ40O2Ho00w--70W 20Wi4000H000W--X-d0mF 2Hmj400OH000W--X-Z0G
   dHs31mRBXB0000060W bnU10mRPWx0000060W bHs31mRBXB0000060W bns10mRRWx0000060W 2e9l0000000000000W
   5HM10mR1WB0000000a Y8Gk00G0000000000W 2Oml0000000000000W00E Y0M10mR1010000060W
   Y0m30mG2120000060W Y0M10mJ0090000060W Y0M10mJ0W10000060W Y0M10mJ1010000060W Y0M10mR0010000060W
   YHK10mJ0000000060W 20M10mB1010000060W d0K10mJ0000000060W YHm300GA100000060W YGq300GA100000060W
   20M10m30090000060W Y0K10mJ0020000060W 20M10m30W10000060W Y0M10mJ0000000060W 20M10m31010000060W
   20M10mB0010000060W 70K10m30000000060W 2HK10m30000000060W 20K10m30020000060W 20M10m30000000060W
   2e9l0000000000000a Y0K100G0020000060W Y0G100G0020000060W 00000000000000000W00W3
   20K10000020000060W 2GK10008000000060W 20G10000020000060W 00000000000000000W00W2
   2W0000000m0000000W 20G10m00020000000W 2GG10008000000060W WGu110G0000000000W
   00000000000000000W0001 80000000000000000W"

end Outline.Ruby
