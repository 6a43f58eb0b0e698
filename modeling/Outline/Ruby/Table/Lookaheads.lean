/-! The lookahead sets that tell the states of the Ruby parser apart. -/
namespace Outline.Ruby

/-- Sets of terminals, one a word, six members a digit with the lowest first. -/
def lookaheadText : String :=
  "00WY4000H000+--100000000mW 0GWY4000H000w--100000000mW 00sZ4mB3H100w--700000800mW
   W0sZ4mR3H100w--700000800mW 0GqY408AH000w--700000000mW WGqY40OAH000w--700000000mW
   50qZ4mB2H000w--700000800mW 0HqZ4mB2H000w--700000800mW 00sZ4mB2H000w--700000800mW
   00sZ4mB2H100w--700000800mW 00sZ4mB2n100w--700000800mW 00qZ4mB2H200w--700000800mW
   00sZ4mB2H900w--700000800mW 00qZ4mR2H000w--700000800mW 00cZ4mB3H100w--700000800mW
   b0qZ4mR2H000w--700000800mW WHqZ4mR2H000w--700000800mW W0sZ4mR2H000w--700000800mW
   W0sZ4mR2H100w--700000800mW W0sZ4mR2n100w--700000800mW W0qZ4mR2H200w--700000800mW
   W0sZ4mR2H900w--700000800mW WmqY40OAHm00w--700000000mW1 0GmY408AH000w--700000000mW
   0WqY4000Hm00+--100000000mW1 0WqZ4000Hm00w--100000800mW1 0WqZ40G0Hm00w--100000800mW1
   0mqY408AHm00w--700000000mW1 WGmY40OAH000w--700000000mW 00mZ4082H000w--700000800mW
   W0mZ40O2H000w--700000800mW 00mZ4082H200w--700000800mW W0mZ40O2H200w--700000800mW
   0GaY4082H000w--700000000mW 0WsZ4mB3Hn00w--700000800mW1 WmqY40G8Hm00w--700000000mW1
   0GqY4008H000w--700000000mW WGqY40G8H000w--700000000mW 0WqZ4mR2Hm00w--700000800mW1
   WWqY40G0Hm00w--100000000mW1 0nqZ400AHm00w--100000000mW1 0WqZ4002Ho00w--100000800mW1
   0mqY4008Hm00w--700000000mW1 5WqZ4mB2Hm00w--700000800mW1 0nqZ4mB2Hm00w--700000800mW1
   0WsZ4mB2Hm00w--700000800mW1 0WsZ4mB2Hn00w--700000800mW1 0WsZ4mB2nn00w--700000800mW1
   0WqZ4mB2Ho00w--700000800mW1 0WsZ4mB2Hv00w--700000800mW1 WWsZ4mR3Hn00w--700000800mW1
   50aZ4mB2H000w--700000800mW 0HaZ4mB2H000w--700000800mW 00cZ4mB2H000w--700000800mW
   00aZ4mR2H000w--700000800mW 00cZ4mB2H100w--700000800mW 00cZ4mB2n100w--700000800mW
   00aZ4mB2H200w--700000800mW 00cZ4mB2H900w--700000800mW bWqZ4mR2Hm00w--700000800mW1
   WnqZ4mR2Hm00w--700000800mW1 WWsZ4mR2Hm00w--700000800mW1 WWsZ4mR2Hn00w--700000800mW1
   WWsZ4mR2nn00w--700000800mW1 WWqZ4mR2Ho00w--700000800mW1 WWsZ4mR2Hv00w--700000800mW1
   50qZ4m30H000w--700000800mW 0HqZ4m30H000w--700000800mW 00sZ4m30H000w--700000800mW
   00qZ4mJ0H000w--700000800mW b0qZ4mJ0H000w--700000800mW WHqZ4mJ0H000w--700000800mW
   W0sZ4mJ0H000w--700000800mW 00sZ4m31H100w--700000800mW W0sZ4mJ1H100w--700000800mW
   00sZ4m30n100w--700000800mW W0sZ4mJ0n100w--700000800mW 00qZ4m30H200w--700000800mW
   W0qZ4mJ0H200w--700000800mW 00sZ4m30H900w--700000800mW W0sZ4mJ0H900w--700000800mW
   00qY4000H000+--100000000mW 00qZ4000H000w--100000800mW 00qZ40G0H000w--100000800mW 008
   0GWY4082H000w--700000000mW 00WZ4082H000w--700000800mW 00WZ4082H200w--700000800mW
   5WqZ4m30Hm00w--700000800mW1 0nqZ4m30Hm00w--700000800mW1 0WsZ4m30Hm00w--700000800mW1
   bWqZ4mJ0Hm00w--700000800mW1 WnqZ4mJ0Hm00w--700000800mW1 WWsZ4mJ0Hm00w--700000800mW1
   0WsZ4m31Hn00w--700000800mW1 WWsZ4mJ1Hn00w--700000800mW1 0WsZ4m30nn00w--700000800mW1
   WWsZ4mJ0nn00w--700000800mW1 0WqZ4m30Ho00w--700000800mW1 WWqZ4mJ0Ho00w--700000800mW1
   0WsZ4m30Hv00w--700000800mW1 WWsZ4mJ0Hv00w--700000800mW1 0WqZ4mJ0Hm00w--700000800mW1
   0maY4082Hm00w--700000000mW1 0GmY4008H000w--700000000mW WGmY40G8H000w--700000000mW
   00mZ4000H000w--700000800mW W0mZ40G0H000w--700000800mW 00mZ4000H200w--700000800mW
   W0mZ40G0H200w--700000800mW W0qY40G0H000w--100000000mW 0HqZ400AH000w--100000000mW
   00qZ4002H200w--100000800mW WWmZ40O2Ho00w--700000800mW1 0mmY408AHm00w--700000000mW1
   0maY4002Hm00w--100000000mW1 0WaY4000Hm00+--100000000mW1 0WaZ4000Hm00w--100000800mW1
   0WaZ40G0Hm00w--100000800mW1 WmmY40OAHm00w--700000000mW1 0WmZ4082Hm00w--700000800mW1
   WWmZ40O2Hm00w--700000800mW1 0WmZ4082Ho00w--700000800mW1 0WcZ4mB3Hn00w--700000800mW1
   0WaZ4mR2Hm00w--700000800mW1 W0mY40G0H000w--100000000mW 00mZ4000H000w--100000800mW
   5WaZ4mB2Hm00w--700000800mW1 0naZ4mB2Hm00w--700000800mW1 0WcZ4mB2Hm00w--700000800mW1
   0WcZ4mB2Hn00w--700000800mW1 0WcZ4mB2nn00w--700000800mW1 0WaZ4mB2Ho00w--700000800mW1
   0WcZ4mB2Hv00w--700000800mW1 WWmY40G0Hm00w--100000000mW1 0WmY4000Hm00+--100000000mW1
   0WmZ4000Hm00w--100000800mW1 0WmZ40G0Hm00w--100000800mW1 0WmZ4002Ho00w--100000800mW1
   0mmY4008Hm00w--700000000mW1 WmmY40G8Hm00w--700000000mW1 0WmZ4000Hm00w--700000800mW1
   WWmZ40G0Hm00w--700000800mW1 0WmZ4000Ho00w--700000800mW1 WWmZ40G0Ho00w--700000800mW1
   0nmZ400AHm00w--100000000mW1 00mZ4002H200w--100000800mW 00WZ4000H000w--100000800mW
   0HmZ400AH000w--100000000mW 00mY4000H000+--100000000mW 00mZ40G0H000w--100000800mW
   0mWY4082Hm00w--700000000mW1 0WWZ4082Hm00w--700000800mW1 0WWZ4082Ho00w--700000800mW1
   0GaY4002H000w--100000000mW 00aY4000H000+--100000000mW 00aZ4000H000w--100000800mW
   00aZ40G0H000w--100000800mW 0mWY4002Hm00w--100000000mW1 0WWY4000Hm00+--100000000mW1
   0WWZ4000Hm00w--100000800mW1 0WWZ40G0Hm00w--100000800mW1 00WZ40G0H000w--100000800mW
   0GWY4002H000w--100000000mW bnsZ4mR3nx00w--700000800mW1 0W0000000m00000000000000001
   00qZ4082H000w--700000800mW 00qZ4082H200w--700000800mW WnqZ40OAHm00+--700000000mW1
   W0qZ40O2H000w--700000800mW W0qZ40O2H200w--700000800mW 00aZ4082H000w--700000800mW
   00aZ4082H200w--700000800mW WGK000G800000006 0GK0000800000006 bHs30mR3XB000006000008
   WHq200GA10000006 50K10m3000000006000008 0HK10m3000000006000008 00M10m3000000006000008
   b0K10mJ000000006000008 WHK10mJ000000006000008 W0M10mJ000000006000008 00M10mB001000006000008
   W0M10mR001000006000008 00M10m3101000006000008 00M10mB101000006000008 W0M10mJ101000006000008
   W0M10mR101000006000008 00M10m30W1000006000008 W0M10mJ0W1000006000008 00K10m3002000006000008
   W0K10mJ002000006000008 00M10m3009000006000008 W0M10mJ009000006000008 0GG0000800000006
   WGG000G800000006 00G1000000000006000008 W0G100G000000006000008 00G1000002000006000008
   W0G100G002000006000008 00K1000000000006000008 W0K100G000000006000008 00K1000002000006000008
   W0K100G002000006000008 0GqY4082H000w--700000000mW 0WqZ4082Hm00w--700000800mW1
   0WqZ4082Ho00w--700000800mW1 50410m3000000006000008 0H410m3000000006000008
   00610m3000000006000008 00410mJ000000006000008 00610mB001000006000008 00610m3101000006000008
   00610mB101000006000008 00610m30W1000006000008 00410m3002000006000008 00610m3009000006000008
   00K10mJ000000006000008 0G40000000000006 0041000000000006000008 0041000002000006000008
   00sZ4mB0H100w--700000800mW W0sZ4mR0H100w--700000800mW 00sZ4mB1H100w--700000800mW
   W0sZ4mR1H100w--700000800mW WWqZ40O2Hm00w--700000800mW1 WWqZ40O2Ho00w--700000800mW1
   0mO000800m00000000000000001 0W0100000o00000000000800001 bn+Z4mR3nx--x--700000800mW1
   bHs10mR3WB000006000008 0WqZ4000Hm00w--700000800mW1 WWqZ40G0Hm00w--700000800mW1
   0WqZ4000Ho00w--700000800mW1 WWqZ40G0Ho00w--700000800mW1 0HmY4008H000w--100000000mW
   oF17w-d414000G0u1OZVUa-WCC oE77w-d41D000G0u1OZVUi-WCC 0WaZ4082Hm00w--700000800mW1
   0WaZ4082Ho00w--700000800mW1 bHM10mR1WB000006000008 000000000000000000000108 0G00000000000006
   0001000002000006000008 WHq000GA00000006 WnyZ40OAHm-----700000000mW1 0001000000000006000008 01G
   0060000009 Wnq000GA0m000006 bns10mR3Wx000006000008 0mqY4082Hm00w--700000000mW1 00O
   0GmY4000H000w--100000000mW 00mZ4000H000w--100000000mW 0GqY4002H000w--100000000mW
   00qZ4000H000w--700000800mW W0qZ40G0H000w--700000800mW 00qZ4000H200w--700000800mW
   W0qZ40G0H200w--700000800mW 0mqY4002Hm00w--100000000mW1 Yi-d+--NHr--x---10ZVUi-W-+1
   Yyvc+--UHq--x---10ZVUa-W-+1 Yyzc+--UHq--x---10ZVUa-W-+1 Yivd+--MHq--x---10ZVUi-W-+1
   dizd+--MHq--x---10ZVUi-W-+1 Yzzd+--MHq--x---10ZVUi-W-+1 Yi-d+--MHq--x---10ZVUi-W-+1
   Yi-d+--MHr--x---10ZVUi-W-+1 Yi-d+--Mnr--x---10ZVUi-W-+1 Yivd+--MHs--x---10ZVUi-W-+1
   Yizd+--MHs--x---10ZVUi-W-+1 Yi-d+--MHz--x---10ZVUi-W-+1 bn+Z4mRJnx--x--700000800mW1
   00410m3002000000000008 5nsZ4mB3nx00w--700000800mW1 0020000101 00410mJ000000000000008
   0nqZ408AHm00+--700000000mW1 0020008001 WHqZ40OAH000+--700000000mW bHsZ4mR3nB00w--700000800mW
   WmyY40OAHm--x--700000000mW1 002 00410m3000000000000008 00010m0002000000000008
   0WyZ4mR2Hm--x--700000800mW1 00000000000000000000W20A002 00G1000000000000000008
   00000000000000000000W30A002 00200000W1 0GG00008 00WY4002H000w--100000000mW
   0GmY4008H000w--100000000mW 00mZ4000H200w--100000800mW 01aZ4mB2H000w--700000800mW 0HG00008
   WmO000OG0m00000000000000001 WW0100GG0o00000000000800001 WnyZ40OQHm-----700000000mW1 0G000008
   00610mB101000000000008 0nyZ408AHm-----700000000mW1 5n+Z4mB3nx--x--700000800mW1
   5H610mR1WB000000000008 WW0000GG0m00000000000000001 WGq000GA00000006 50410m3000000000000008
   0H410m3000000000000008 00610m3000000000000008 00610mB001000000000008 00610m3101000000000008
   00610m30W1000000000008 00610m3009000000000008 0XmY4000Hm00w--100000000mW1 0000008 W0G000G
   YSH6w-dC14000G0+10ZVUa-WFU YSL6w-dC14000G0+10ZVUa-WFU YSH6w-tC14000G0+10ZVUa-WFU
   YSL6w-tC14000G0+10ZVUa-WFU YCH7w-d414000G0+10ZVUi-WFU dCL7w-d414000G0+10ZVUi-WFU
   YTL7w-d414000G0+10ZVUi-WFU YCN7w-d414000G0+10ZVUi-WFU YCH7w-t414000G0+10ZVUi-WFU
   dCL7w-t414000G0+10ZVUi-WFU YTL7w-t414000G0+10ZVUi-WFU YCN7w-t414000G0+10ZVUi-WFU
   YCN7w-l415000G0+10ZVUi-WFU YCN7w--415000G0+10ZVUi-WFU YCN7w-d515000G0+10ZVUi-WFU
   YCN7w-l515000G0+10ZVUi-WFU YCN7w-t515000G0+10ZVUi-WFU YCN7w--515000G0+10ZVUi-WFU
   YCN7w-d4X5000G0+10ZVUi-WFU YCN7w-t4X5000G0+10ZVUi-WFU YCH7w-d416000G0+10ZVUi-WFU
   YCL7w-d416000G0+10ZVUi-WFU YCH7w-t416000G0+10ZVUi-WFU YCL7w-t416000G0+10ZVUi-WFU
   YCN7w-d41D000G0+10ZVUi-WFU YCN7w-t41D000G0+10ZVUi-WFU WmyY40OQHm--x--700000000mW1
   WWqZ4mR2Hm00w--700000800mW1 0WmY408AHm00w--700000000mW1 0maZ4mB2Hm00w--700000800mW1
   bnsZ4mR1nx00w--700000800mW1 00m1 0nmY4008Hm00w--100000000mW1 0GG 0GO 00G10m0002000000000008
   0W+Z4mB3Hn--x--700000800mW1 288l000000000000000008 00G0008 WmK000G80m000006 0H000008
   20Wi4000H000W--X-30mFW2 WW+Z4mR3Hn--x--700000800mW1 Yizd+--MHq--x---10ZVUi-W-+1 0G8 00m
   W00000G WGm100G 00G00008 00m0000A WHm000GA00000006 5HM10mR1WB000000000008
   W0m10mG202000006000008 oE37w-d414000G0u1OZVUa-WCC 0WuZ4082Hm--x--700000800mW1
   5WyZ4mB2Hm--x--700000800mW1 0nyZ4mB2Hm--x--700000800mW1 0W+Z4mB2Hm--x--700000800mW1
   WWyZ4mRIHm--x--700000800mW1 0W+Z4mB2Hn--x--700000800mW1 0W+Z4mB2nn--x--700000800mW1
   0WuZ4082Ho--x--700000800mW1 0WyZ4mB2Ho--x--700000800mW1 0W+Z4mB2Hv--x--700000800mW1 0GW00002
   WGq200GA10000006 01q10m3200000006000008 WmuY40OAHm--x--700000000mW1
   WWuZ40O2Hm--x--700000800mW1 bWyZ4mR2Hm--x--700000800mW1 WnyZ4mR2Hm--x--700000800mW1
   WW+Z4mR2Hm--x--700000800mW1 WW+Z4mR2Hn--x--700000800mW1 WW+Z4mR2nn--x--700000800mW1
   WWuZ40O2Ho--x--700000800mW1 WWyZ4mR2Ho--x--700000800mW1 WW+Z4mR2Hv--x--700000800mW1
   00000000000000000000W20K002 0mK000080m000006 bHt10mRpWB000006000008 tE17w-d414000G0u1OZVUa-WCC
   oV17w-d414000G0u1OZVUa-WCC oE37w-l415000G0u1OZVUa-WCC oE37w-d515000G0u1OZVUa-WCC
   oE37w-d4X5000G0u1OZVUa-WCC oE77w-d41D000G0u1OZVUa-WCC WmqY40O2Hm00w--700000000mW1
   0muY408AHm--x--700000000mW1 0myY408AHm--x--700000000mW1 Yitd+--NHr00w---10ZVUi-W-+1
   0Hm0000A00000006 0000000000000000008 bHM10mR3WB000006000008 oEF7w-d41D000G0u1OZVUi-WCC
   0W0000000m00000000000010001 1 WHK000G800000006 00G1000202000000000008 bnM10mR1Wx000006000008
   0WqY4000Hm00+--100000010mW1 Yync+--UHq00w---10ZVUa-W-+1 WHr000Gw00000006
   0001000002000000000008 00G1000002000000000008 W0G10mG002000006000008 0GO0008 WGK000GA00000006
   0m0000000m000006 0m4000000m000006 0mG000080m000006 WmG000G80m000006 0W0100000m000006000008
   0W4100000m000006000008 0WG100000m000006000008 0WK100000m000006000008 5W410m300m000006000008
   0n410m300m000006000008 0W610m300m000006000008 5WK10m300m000006000008 0nK10m300m000006000008
   0WM10m300m000006000008 WWG100G00m000006000008 WWK100G00m000006000008 0W410mJ00m000006000008
   0WK10mJ00m000006000008 bWK10mJ00m000006000008 WnK10mJ00m000006000008 WWM10mJ00m000006000008
   0W610mB00n000006000008 0WM10mB00n000006000008 WWM10mR00n000006000008 0W610m310n000006000008
   0WM10m310n000006000008 0W610mB10n000006000008 0WM10mB10n000006000008 WWM10mJ10n000006000008
   WWM10mR10n000006000008 0W610m30Wn000006000008 0WM10m30Wn000006000008 WWM10mJ0Wn000006000008
   0W0100000o000006000008 0W4100000o000006000008 0WG100000o000006000008 0WK100000o000006000008
   0W410m300o000006000008 0WK10m300o000006000008 WWG100G00o000006000008 WWK100G00o000006000008
   WWK10mJ00o000006000008 0W610m300v000006000008 0WM10m300v000006000008 WWM10mJ00v000006000008
   Yyrc+--UHq00w---10ZVUa-W-+1 Yind+--MHq00w---10ZVUi-W-+1 dird+--MHq00w---10ZVUi-W-+1
   Yzrd+--MHq00w---10ZVUi-W-+1 Yitd+--MHq00w---10ZVUi-W-+1 Yitd+--MHr00w---10ZVUi-W-+1
   Yitd+--Mnr00w---10ZVUi-W-+1 Yind+--MHs00w---10ZVUi-W-+1 Yird+--MHs00w---10ZVUi-W-+1
   Yitd+--MHz00w---10ZVUi-W-+1 0GW200021 00m2000A1 WHK000GA00000006 0Hm2000A10000006
   WHm200GA10000006 WHq210GA10000006 0001000000000000000008 0001000202000000000008
   01q30m3210000006000008 W0m30mG212000006000008 bHs31mR3XB000006000008
   WW0000G00m00000000000000001 ok77+-d41z000G0u1OZVUi-WCC1 5ncZ4mB3nx00w--700000800mW1
   WnqZ50OAHm00w--700000010mW1 bnsZ5mR3nx00w--700000810mW1 000000000000000000000000004 5 0H
   01410m3000000006000008 5nM10mB1Wx000006000008 01mY4000H000w--100000000mW
   0WyZ4082Hm--x--700000800mW1 0WyZ4082Ho--x--700000800mW1 bnsZ4mR3nx00w--700000810mW1 0W1
   0Hm10008 0GX0000o 00n0000w WHG000GA00000006 0Hn0000w00000006 WGr000Gw00000006 0Gm2000A10000006
   01r10m3o00000006000008 W0G10mG202000006000008 0XuY4000Hm--x--100000000mW1
   0nuY4008Hm--x--100000000mW1 WXuY40GGHm--x--100000000mW1 WnuY40GOHm--x--100000000mW1
   0mmY400AHm00w--700000000mW1 0mqY400AHm00w--700000000mW1 0nmZ400AHm00w--700000000mW1
   WmmY40GAHm00w--700000000mW1 WmqY40GAHm00w--700000000mW1 WnqZ40OAHm00w--700000000mW1
   WmyY40G8Hm--x--700000000mW1 0WuY408AHm--x--700000000mW1 WmyY40GOHm--x--700000000mW1
   WnmZ40OAHm00+--700000000mW1 0WmZ4002Hm00w--700000800mW1 5WqZ4m32Hm00w--700000800mW1
   0XqZ4m32Hm00w--700000800mW1 0nqZ4m32Hm00w--700000800mW1 0WsZ4m32Hm00w--700000800mW1
   WWmZ40G2Hm00w--700000800mW1 0WqZ4mJ2Hm00w--700000800mW1 bWqZ4mJ2Hm00w--700000800mW1
   WnqZ4mJ2Hm00w--700000800mW1 WWsZ4mJ2Hm00w--700000800mW1 0WsZ4m33Hn00w--700000800mW1
   WWsZ4mJ3Hn00w--700000800mW1 0WsZ4m32nn00w--700000800mW1 WWsZ4mJ2nn00w--700000800mW1
   0WmZ4002Ho00w--700000800mW1 0WqZ4m32Ho00w--700000800mW1 WWmZ40G2Ho00w--700000800mW1
   WWqZ4mJ2Ho00w--700000800mW1 0WsZ4m32Hv00w--700000800mW1 WWsZ4mJ2Hv00w--700000800mW1
   0myZ4mB2Hm--x--700000800mW1 bn+Z4mR1nx--x--700000800mW1 bn+Z4mRHnx--x--700000800mW1
   WnqZ40OAHm00w--700000010mW1 Yivc+--UHq--x---10ZVUa-W-+1 Yyzd+--MHq--x---10ZVUi-W-+1 0Gm1
   0G000002 0Gm10008 0GG0000A 00600081W9 WHq100G800000006 0GG0000A00000006 0GK0000A00000006
   WGG000GA00000006 0Gq2000A10000006 WGm200GA10000006 000100G000000000000008
   00G10m0202000000000008 01K10m3000000006000008 00G1000200000006000008 00K1000200000006000008
   50K10m3200000006000008 0HK10m3200000006000008 00M10m3200000006000008 W0G100G200000006000008
   W0K100G200000006000008 b0K10mJ200000006000008 WHK10mJ200000006000008 W0M10mJ200000006000008
   00m3000210000006000008 00q3000210000006000008 50q30m3210000006000008 0Hq30m3210000006000008
   00s30m3210000006000008 W0m300G210000006000008 W0q300G210000006000008 b0q30mJ210000006000008
   WHq30mJ210000006000008 W0s30mJ210000006000008 00M10mB201000006000008 W0M10mR201000006000008
   00M10m3301000006000008 00M10mB301000006000008 W0M10mJ301000006000008 W0M10mR301000006000008
   00s30mB211000006000008 W0s30mR211000006000008 00s30m3311000006000008 00s30mB311000006000008
   W0s30mJ311000006000008 W0s30mR311000006000008 00M10m32W1000006000008 W0M10mJ2W1000006000008
   00s30m32X1000006000008 W0s30mJ2X1000006000008 00G1000202000006000008 00K1000202000006000008
   00K10m3202000006000008 W0G100G202000006000008 W0K100G202000006000008 W0K10mJ202000006000008
   00m3000212000006000008 00q3000212000006000008 00q30m3212000006000008 W0m300G212000006000008
   W0q300G212000006000008 W0q30mJ212000006000008 00M10m3209000006000008 W0M10mJ209000006000008
   00s30m3219000006000008 W0s30mJ219000006000008 5HM10mB1WB000006000008
   oEd7w-d41D000G0u1OZVUa-WCC 00mY408AH000w--700000000mW WWO000GG0m00000000000000001
   0WWY4002Hm00w--100000000mW1 0mmY4008Hm00w--100000000mW1 WWWY40GIHm00w--100000000mW1
   WnqY40OAHm00w--700000000mW1 0muY4082Hm--x--700000000mW1 0myY4082Hm--x--700000000mW1
   WnqZ40OQHm00+--700000000mW1 0XaZ4mB2Hm00w--700000800mW1 0WsZ4mB0Hn00w--700000800mW1
   WWsZ4mR0Hn00w--700000800mW1 0WsZ4mB1Hn00w--700000800mW1 WWsZ4mR1Hn00w--700000800mW1
   bnsZ4mRJnx00w--700000800mW1 WWyZ40O2Hm--x--700000800mW1 WWyZ40O2Ho--x--700000800mW1
   Yjbd+--MHq00w---10ZVUi-W-+1 Yird+--MHq00w---10ZVUi-W-+1 01 0080008 0Gm2000A1 0020008101
   WGq100G800000006 0Gm0000A00000006 0Gq0000A00000006 WGm000GA00000006 2e9l000000000000000008
   00m30m0212000000000008 00m1000200000006000008 50q10m3200000006000008 0Hq10m3200000006000008
   00s10m3200000006000008 W0m100G200000006000008 00q10mJ200000006000008 b0q10mJ200000006000008
   WHq10mJ200000006000008 W0s10mJ200000006000008 00s10mB201000006000008 W0s10mR201000006000008
   00s10m3301000006000008 00s10mB301000006000008 W0s10mJ301000006000008 W0s10mR301000006000008
   00s10m32W1000006000008 W0s10mJ2W1000006000008 00m1000202000006000008 00q10m3202000006000008
   W0m100G202000006000008 W0q10mJ202000006000008 00s10m3209000006000008 W0s10mJ209000006000008
   oE37w-l417000G0u1OZVUa-WCC oE37w-d517000G0u1OZVUa-WCC oE37w-d4X7000G0u1OZVUa-WCC
   oE77w-d41F000G0u1OZVUa-WCC 0GaZ4mB2H000w--700000800mW WWuY40GIHm--x--100000000mW1
   WWuY40OQHm--x--700000000mW1 WmyZ4mRIHm--x--700000800mW1 WnqZ40OAHm00+--700000010mW1
   Yjzd+--MHq--x---10ZVUi-W-+1"

end Outline.Ruby
