/-! # Breaks

Tables that tell how characters take part in the division of a text into clusters, words and sentences. In each
of them a class begins at a number, and it goes on over the extending characters, which are told apart by
their other properties. -/

namespace XmlDiagnostics.CharTable

/-- The classes for clusters. The syllables of Hangul make one class here. -/
def clusterRows : List String := [
  "0CN aLF bCN dCR eCN 20XX 7fCN a0XX adCN aeXX 600PP 606XX 61cCN 61dXX 6ddPP 6deXX 70fPP 710XX 890PP",
  "892XX 8e2PP 903SM 904XX 93bSM 93dXX 93eSM 950XX 982SM 984XX 9bfSM 9c5XX 9c7SM 9c9XX 9cbSM 9ceXX a03SM",
  "a04XX a3eSM a43XX a83SM a84XX abeSM ac6XX ac9SM acaXX acbSM aceXX b02SM b04XX b40SM b45XX b47SM b49XX",
  "b4bSM b4eXX bbfSM bc3XX bc6SM bc9XX bcaSM bceXX c01SM c05XX c41SM c45XX c82SM c84XX cbeSM cc5XX cf3SM",
  "cf4XX d02SM d04XX d3fSM d45XX d46SM d49XX d4aSM d4ePP d4fXX d82SM d84XX dd0SM dd5XX dd8SM de0XX df2SM",
  "df4XX e33SM e3bXX eb3SM ebdXX f3eSM f40XX f7fSM f85XX 1031SM 1038XX 103bSM 103fXX 1056SM 105aXX 1084SM",
  "1087XX 1100L 1160V 11a8T 1200XX 17b6SM 17d4XX 180eCN 1810XX 1923SM 192cXX 1930SM 193cXX 1a19SM 1a1cXX",
  "1a55SM 1a5fXX 1a6dSM 1a7dXX 1b04SM 1b05XX 1b3eSM 1b45XX 1b82SM 1b83XX 1ba1SM 1baeXX 1be7SM 1bf4XX",
  "1c24SM 1c38XX 1ce1SM 1ce9XX 1cf7SM 1cfaXX 200bCN 200dZWJ 200eCN 2010XX 2028CN 202fXX 2060CN 2070XX",
  "a823SM a828XX a880SM a882XX a8b4SM a8c6XX a952SM a954XX a960L a97dXX a983SM a984XX a9b4SM a9c1XX",
  "aa2fSM aa37XX aa4dSM aa4eXX aaebSM aaf0XX aaf5SM aaf7XX abe3SM abebXX abecSM abeeXX ac00LV d7a4XX",
  "d7b0V d7c7XX d7cbT d7fcXX feffCN ff00XX fff0CN fffcXX 11000SM 11003XX 11082SM 11083XX 110b0SM 110bbXX",
  "110bdPP 110beXX 110cdPP 110ceXX 1112cSM 11135XX 11145SM 11147XX 11182SM 11183XX 111b3SM 111c1XX",
  "111c2PP 111c4XX 111ceSM 111d0XX 1122cSM 11238XX 112e0SM 112ebXX 11302SM 11304XX 1133fSM 11345XX",
  "11347SM 11349XX 1134bSM 1134eXX 11362SM 11364XX 113b9SM 113c1XX 113caSM 113cbXX 113ccSM 113d1PP",
  "113d3XX 11435SM 11447XX 114b1SM 114c4XX 115b0SM 115b6XX 115b8SM 115c1XX 11630SM 11641XX 116acSM",
  "116b8XX 1171eSM 11720XX 11726SM 1172cXX 1182cSM 1183bXX 11931SM 11936XX 11937SM 11939XX 1193fPP",
  "11940SM 11941PP 11942SM 11944XX 119d1SM 119d8XX 119dcSM 119e1XX 119e4SM 119e5XX 11a39SM 11a3aPP",
  "11a3fXX 11a57SM 11a5cXX 11a84PP 11a97SM 11a9aXX 11c2fSM 11c37XX 11c3eSM 11c40XX 11ca9SM 11cb7XX",
  "11d46PP 11d48XX 11d8aSM 11d8fXX 11d93SM 11d98XX 11ef5SM 11ef7XX 11f02PP 11f03SM 11f04XX 11f34SM",
  "11f3bXX 11f3eSM 11f43XX 13430CN 13441XX 1612aSM 16130XX 16d63V 16d64XX 16d67V 16d6bXX 16f51SM 16f88XX",
  "1bca0CN 1bca4XX 1d173CN 1d183XX 1f1e6RI 1f200XX e0000CN e1000XX"]

/-- The classes for words, as far as there are characters. -/
def wordRows : List String := [
  "0XX aLF bNL dCR eXX 20WS 21XX 22DQ 23XX 27SQ 28XX 2cMN 2dXX 2eMB 2fXX 30NU 3aML 3bMN 3cXX 41LE 5bXX",
  "5fEX 60XX 61LE 7bXX 85NL 86XX aaLE abXX adFO aeXX b5LE b6XX b7ML b8XX baLE bbXX c0LE d7XX d8LE f7XX",
  "f8LE 2d8XX 2deLE 375XX 376LE 37eMN 37fLE 384XX 386LE 387ML 388LE 3f6XX 3f7LE 482XX 48aLE 55dXX 55eLE",
  "55fML 560LE 589MN 58aLE 58dXX 5d0HL 5f3LE 5f4ML 600NU 606XX 60cMN 60eXX 61cFO 61dXX 620LE 660NU 66aXX",
  "66bNU 66cMN 66dXX 66eLE 6d4XX 6d5LE 6ddNU 6deXX 6e5LE 6e9XX 6eeLE 6f0NU 6faLE 6fdXX 6ffLE 700XX 70fLE",
  "7c0NU 7caLE 7f6XX 7f8MN 7f9XX 7faLE 7feXX 800LE 830XX 840LE 85eXX 860LE 888XX 889LE 890NU 8a0LE 8e2NU",
  "904LE 964XX 966NU 970XX 971LE 9e6NU 9f0LE 9f2XX 9fcLE 9fdXX a05LE a66NU a72LE a76XX a85LE ae6NU af0XX",
  "af9LE b66NU b70XX b71LE b72XX b83LE be6NU bf0XX c05LE c66NU c77XX c80LE c84XX c85LE ce6NU cf1LE d4fXX",
  "d54LE d58XX d5fLE d66NU d70XX d7aLE de6NU df4XX e50NU e5aXX ed0NU edcXX f00LE f01XX f20NU f2aXX f40LE",
  "f85XX f88LE fbeXX 1040NU 104aXX 1090NU 109eXX 10a0LE 10fbXX 10fcLE 1360XX 1380LE 1390XX 13a0LE 1400XX",
  "1401LE 166dXX 166fLE 1680WS 1681LE 169bXX 16a0LE 16ebXX 16eeLE 1735XX 1740LE 1780XX 17e0NU 17f0XX",
  "180eFO 1810NU 1820LE 1940XX 1946NU 1950XX 19d0NU 19daXX 1a00LE 1a1eXX 1a80NU 1aa0XX 1b05LE 1b4eXX",
  "1b50NU 1b5aXX 1b83LE 1bb0NU 1bbaLE 1bfcXX 1c00LE 1c3bXX 1c40NU 1c4dLE 1c50NU 1c5aLE 1c7eXX 1c80LE",
  "1cc0XX 1ce9LE 1fbdXX 1fbeLE 1fbfXX 1fc2LE 1fcdXX 1fd0LE 1fddXX 1fe0LE 1fedXX 1ff2LE 1ffdXX 2000WS",
  "2007XX 2008WS 200bXX 200dZWJ 200eFO 2010XX 2018MB 201aXX 2024MB 2025XX 2027ML 2028NL 202aFO 202fEX",
  "2030XX 203fEX 2041XX 2044MN 2045XX 2054EX 2055XX 205fWS 2060FO 2070XX 2071LE 2074XX 207fLE 2080XX",
  "2090LE 20a0XX 2102LE 2103XX 2107LE 2108XX 210aLE 2114XX 2115LE 2116XX 2119LE 211eXX 2124LE 2125XX",
  "2126LE 2127XX 2128LE 2129XX 212aLE 212eXX 212fLE 213aXX 213cLE 2140XX 2145LE 214aXX 214eLE 214fXX",
  "2160LE 2189XX 24b6LE 24eaXX 2c00LE 2ce5XX 2cebLE 2cf9XX 2d00LE 2d70XX 2d80LE 2e00XX 2e2fLE 2e30XX",
  "3000WS 3001XX 3005LE 3006XX 3031KA 3036XX 303bLE 303dXX 309bKA 309dXX 30a0KA 30fbXX 30fcKA 3105LE",
  "3190XX 31a0LE 31c0XX 31f0KA 3200XX 32d0KA 32ffXX 3300KA 3358XX a000LE a490XX a4d0LE a4feXX a500LE",
  "a60dXX a610LE a620NU a62aLE a673XX a67fLE a6f2XX a708LE a828XX a840LE a874XX a882LE a8ceXX a8d0NU",
  "a8f2LE a8f8XX a8fbLE a8fcXX a8fdLE a900NU a90aLE a92eXX a930LE a95fXX a960LE a9c1XX a9cfLE a9d0NU",
  "a9deXX a9f0NU a9faXX aa00LE aa50NU aa5cXX aae0LE aaf0XX aaf2LE ab6aXX ab70LE abebXX abf0NU ac00LE",
  "d800XX fb00LE fb1dHL fb29XX fb2aHL fb50LE fbb2XX fbd3LE fd3eXX fd50LE fdcfXX fdf0LE fdfcXX fe10MN",
  "fe11XX fe13ML fe14MN fe15XX fe33EX fe35XX fe4dEX fe50MN fe51XX fe52MB fe54MN fe55ML fe56XX fe70LE",
  "feffFO ff01XX ff07MB ff08XX ff0cMN ff0dXX ff0eMB ff0fXX ff10NU ff1aML ff1bMN ff1cXX ff21LE ff3bXX",
  "ff3fEX ff40XX ff41LE ff5bXX ff66KA ffa0LE ffe0XX fff9FO fffcXX 10000LE 10100XX 10140LE 10175XX 10280LE",
  "102e1XX 10300LE 10320XX 1032dLE 1039fXX 103a0LE 103d0XX 103d1LE 104a0NU 104b0LE 1056fXX 10570LE",
  "10857XX 10860LE 10877XX 10880LE 108a7XX 108e0LE 108fbXX 10900LE 10916XX 10920LE 1093fXX 10980LE",
  "109bcXX 109beLE 109c0XX 10a00LE 10a40XX 10a60LE 10a7dXX 10a80LE 10a9dXX 10ac0LE 10ac8XX 10ac9LE",
  "10aebXX 10b00LE 10b39XX 10b40LE 10b58XX 10b60LE 10b78XX 10b80LE 10b99XX 10c00LE 10cfaXX 10d00LE",
  "10d30NU 10d4aLE 10d6eXX 10d6fLE 10d8eXX 10e80LE 10eadXX 10eb0LE 10f1dXX 10f27LE 10f51XX 10f70LE",
  "10f86XX 10fb0LE 10fc5XX 10fe0LE 11047XX 11066NU 11071LE 110bbXX 110bdNU 110beXX 110cdNU 110d0LE",
  "110f0NU 11103LE 11136NU 11140XX 11144LE 11174XX 11176LE 111c5XX 111d0NU 111daLE 111dbXX 111dcLE",
  "111ddXX 11200LE 11238XX 1123fLE 112a9XX 112b0LE 112f0NU 11305LE 113d4XX 11400LE 1144bXX 11450NU",
  "1145aXX 1145fLE 114c6XX 114c7LE 114d0NU 11580LE 115c1XX 115d8LE 11641XX 11644LE 11650NU 11660XX",
  "11680LE 116b9XX 116c0NU 11700XX 11730NU 1173aXX 11800LE 1183bXX 118a0LE 118e0NU 118eaXX 118ffLE",
  "11944XX 11950NU 119a0LE 119e2XX 119e3LE 11a3fXX 11a50LE 11a9aXX 11a9dLE 11a9eXX 11ab0LE 11b00XX",
  "11bc0LE 11be1XX 11bf0NU 11c00LE 11c41XX 11c50NU 11c5aXX 11c72LE 11d50NU 11d60LE 11da0NU 11ee0LE",
  "11ef7XX 11f02LE 11f43XX 11f50NU 11fb0LE 11fc0XX 12000LE 12470XX 12480LE 12ff1XX 13000LE 13430FO",
  "13441LE 16130NU 16800LE 16a60NU 16a6eXX 16a70LE 16ac0NU 16ad0LE 16af5XX 16b00LE 16b37XX 16b40LE",
  "16b44XX 16b50NU 16b5bXX 16b63LE 16d6dXX 16d70NU 16e40LE 16e80XX 16f00LE 16fe2XX 16fe3LE 17000XX",
  "1aff0KA 1b001XX 1b120KA 1b132XX 1b155KA 1b170XX 1bc00LE 1bc9cXX 1bca0FO 1cc00XX 1ccf0NU 1cd00XX",
  "1d173FO 1d183XX 1d400LE 1d6c1XX 1d6c2LE 1d6dbXX 1d6dcLE 1d6fbXX 1d6fcLE 1d715XX 1d716LE 1d735XX",
  "1d736LE 1d74fXX 1d750LE 1d76fXX 1d770LE 1d789XX 1d78aLE 1d7a9XX 1d7aaLE 1d7c3XX 1d7c4LE 1d7ceNU",
  "1d800XX 1df00LE 1e140NU 1e14eLE 1e14fXX 1e290LE 1e2f0NU 1e2ffXX 1e4d0LE 1e4f0NU 1e5d0LE 1e5f1NU",
  "1e5ffXX 1e7e0LE 1e8c7XX 1e900LE 1e950NU 1e95eXX 1ee00LE 1eef0XX 1f130LE 1f14aXX 1f150LE 1f16aXX",
  "1f170LE 1f18aXX 1f1e6RI 1f200XX 1fbf0NU 20000XX e0001FO f0000XX"]

/-- The classes for sentences, as far as there are characters. Two classes after a number take turns. -/
def sentenceRows : List String := [
  "0XX 9SP aLF bSP dCR eXX 20SP 21ST 22CL 23XX 27CL 2aXX 2cSC 2eAT 2fXX 30NU 3aSC 3bXX 3fST 40XX 41UP",
  "5bCL 5cXX 5dCL 5eXX 61LO 7bCL 7cXX 7dCL 7eXX 85SE 86XX a0SP a1XX aaLO abCL acXX adFO aeXX b5LO b6XX",
  "baLO bbCL bcXX c0UP d7XX d8UP dfLO f7XX f8LO 100UP/LO 137LO 139UP/LO 148LO 14aUP/LO 178UP 17aLO/UP",
  "17eLO 181UP 183LO 184UP 185LO 186UP 188LO 189UP 18cLO 18eUP 192LO 193UP 195LO 196UP 199LO 19cUP 19eLO",
  "19fUP 1a1LO/UP 1a6UP 1a8LO 1a9UP 1aaLO 1acUP 1adLO 1aeUP 1b0LO 1b1UP 1b4LO 1b5UP 1b6LO 1b7UP 1b9LO",
  "1bbLE 1bcUP 1bdLO 1c0LE 1c4UP 1c6LO 1c7UP 1c9LO 1caUP 1ccLO/UP 1dcLO 1deUP/LO 1efLO 1f1UP 1f3LO 1f4UP",
  "1f5LO 1f6UP 1f9LO/UP 233LO 23aUP 23cLO 23dUP 23fLO 241UP 242LO 243UP 247LO/UP 24fLO 294LE 295LO 2b9LE",
  "2c0LO 2c2XX 2c6LE 2d2XX 2e0LO 2e5XX 2ecLE 2edXX 2eeLE 2efXX 370UP/LO 374LE 375XX 376UP 377LO 37eXX",
  "37fUP 384XX 386UP 387XX 388UP 390LO 391UP 3acLO 3cfUP 3d0LO 3d2UP 3d5LO 3d8UP/LO 3efLO 3f4UP 3f5LO",
  "3f6XX 3f7UP 3f8LO 3f9UP 3fbLO 3fdUP 430LO 460UP/LO 482XX 48aUP/LO 4c0UP 4c2LO/UP 4ceLO 4d0UP/LO 52fLO",
  "531UP 559LE 55aXX 55dSC 55eXX 560LO 589ST 58aXX 5d0LE 5f4XX 600NU 606XX 60cSC 60eXX 61cFO 61dST 620LE",
  "660NU 66aXX 66bNU 66dXX 66eLE 6d4ST 6d5LE 6ddNU 6deXX 6e5LE 6e9XX 6eeLE 6f0NU 6faLE 6fdXX 6ffLE 700ST",
  "703XX 70fLE 7c0NU 7caLE 7f6XX 7f8SC 7f9ST 7faLE 7feXX 800LE 830XX 837ST 838XX 839ST 83aXX 83dST 840LE",
  "85eXX 860LE 888XX 889LE 890NU 8a0LE 8e2NU 904LE 964ST 966NU 970XX 971LE 9e6NU 9f0LE 9f2XX 9fcLE 9fdXX",
  "a05LE a66NU a72LE a76XX a85LE ae6NU af0XX af9LE b66NU b70XX b71LE b72XX b83LE be6NU bf0XX c05LE c66NU",
  "c77XX c80LE c84XX c85LE ce6NU cf1LE d4fXX d54LE d58XX d5fLE d66NU d70XX d7aLE de6NU df4XX e01LE e3fXX",
  "e40LE e4fXX e50NU e5aXX e81LE ed0NU edcLE f01XX f20NU f2aXX f3aCL f40LE f85XX f88LE fbeXX 1000LE",
  "1040NU 104aST 104cXX 1050LE 1090NU 109eXX 10a0UP 10d0LE 10fbXX 10fcLO 10fdLE 1360XX 1362ST 1363XX",
  "1367ST 1369XX 1380LE 1390XX 13a0UP 13f8LO 1400XX 1401LE 166dXX 166eST 166fLE 1680SP 1681LE 169bCL",
  "16a0LE 16ebXX 16eeLE 1735ST 1740LE 17d4ST 17d6XX 17d7LE 17d8XX 17dcLE 17e0NU 17f0XX 1802SC 1803ST",
  "1804XX 1808SC 1809ST 180aXX 180eFO 1810NU 1820LE 1940XX 1944ST 1946NU 1950LE 19d0NU 19daXX 1a00LE",
  "1a1eXX 1a20LE 1a80NU 1aa0XX 1aa7LE 1aa8ST 1aacXX 1b05LE 1b4eST 1b50NU 1b5aST 1b5cXX 1b5eST 1b60XX",
  "1b7dST 1b83LE 1bb0NU 1bbaLE 1bfcXX 1c00LE 1c3bST 1c3dXX 1c40NU 1c4dLE 1c50NU 1c5aLE 1c7eST 1c80LO",
  "1c89UP 1c8aLO 1c90LE 1cc0XX 1ce9LE 1d00LO 1e00UP/LO 1e95LO 1e9eUP/LO 1effLO 1f08UP 1f10LO 1f18UP",
  "1f20LO 1f28UP 1f30LO 1f38UP 1f40LO 1f48UP 1f50LO 1f59UP 1f60LO 1f68UP 1f70LO 1f88UP 1f90LO 1f98UP",
  "1fa0LO 1fa8UP 1fb0LO 1fb8UP 1fbdXX 1fbeLO 1fbfXX 1fc2LO 1fc8UP 1fcdXX 1fd0LO 1fd8UP 1fddXX 1fe0LO",
  "1fe8UP 1fedXX 1ff2LO 1ff8UP 1ffdXX 2000SP 200bFO 200dEX 200eFO 2010XX 2013SC 2015XX 2018CL 2020XX",
  "2024AT 2025XX 2028SE 202aFO 202fSP 2030XX 2039CL 203bXX 203cST 203eXX 2045CL 2047ST 204aXX 205fSP",
  "2060FO 2070XX 2071LO 2074XX 207dCL 207fLO 2080XX 208dCL 2090LO 20a0XX 2102UP 2103XX 2107UP 2108XX",
  "210aLO 210bUP 210eLO 2110UP 2113LO 2114XX 2115UP 2116XX 2119UP 211eXX 2124UP 2125XX 2126UP 2127XX",
  "2128UP 2129XX 212aUP 212eXX 212fLO 2130UP 2134LO 2135LE 2139LO 213aXX 213cLO 213eUP 2140XX 2145UP",
  "2146LO 214aXX 214eLO 214fXX 2160UP 2170LO 2180LE 2183UP 2184LO 2185LE 2189XX 2308CL 230cXX 2329CL",
  "232bXX 24b6UP 24d0LO 24eaXX 275bCL 2761XX 2768CL 2776XX 27c5CL 27c7XX 27e6CL 27f0XX 2983CL 2999XX",
  "29d8CL 29dcXX 29fcCL 29feXX 2c00UP 2c30LO 2c60UP 2c61LO 2c62UP 2c65LO 2c67UP/LO 2c6dUP 2c71LO 2c72UP",
  "2c73LO 2c75UP 2c76LO 2c7eUP 2c81LO/UP 2ce3LO 2ce5XX 2cebUP 2cecLO 2cedUP 2ceeLO 2cf2UP 2cf3LO 2cf9ST",
  "2cfcXX 2d00LO 2d30LE 2d70XX 2d80LE 2e00CL 2e0eXX 2e1cCL 2e1eXX 2e20CL 2e2aXX 2e2eST 2e2fLE 2e30XX",
  "2e3cST 2e3dXX 2e42CL 2e43XX 2e53ST 2e55CL 2e5dXX 3000SP 3001SC 3002ST 3003XX 3005LE 3008CL 3012XX",
  "3014CL 301cXX 301dCL 3020XX 3021LE 3030XX 3031LE 3036XX 3038LE 303dXX 3041LE 309bXX 309dLE 30a0XX",
  "30a1LE 30fbXX 30fcLE 3190XX 31a0LE 31c0XX 31f0LE 3200XX 3400LE 4dc0XX 4e00LE a490XX a4d0LE a4feXX",
  "a4ffST a500LE a60dXX a60eST a610LE a620NU a62aLE a640UP/LO a66eLE a673XX a67fLE a680UP/LO a69bLO",
  "a6a0LE a6f2XX a6f3ST a6f4XX a6f7ST a700XX a717LE a720XX a722UP/LO a72fLO a732UP/LO a76fLO a779UP/LO",
  "a77dUP a77fLO/UP a788LE a789XX a78bUP/LO a78fLE a790UP a791LO a792UP a793LO a796UP/LO a7aaUP a7afLO",
  "a7b0UP a7b5LO/UP a7c4UP a7c8LO a7c9UP a7caLO a7cbUP a7cdLO a7d0UP a7d1LO a7d6UP/LO a7dcUP a7f2LO",
  "a7f5UP a7f6LO a7f7LE a7f8LO a7fbLE a828XX a840LE a874XX a876ST a882LE a8ceST a8d0NU a8f2LE a8f8XX",
  "a8fbLE a8fcXX a8fdLE a900NU a90aLE a92eXX a92fST a930LE a95fXX a960LE a9c1XX a9c8ST a9caXX a9cfLE",
  "a9d0NU a9deXX a9e0LE a9f0NU a9faLE aa50NU aa5cXX aa5dST aa60LE aa77XX aa7aLE aadeXX aae0LE aaf0ST",
  "aaf2LE ab30LO ab5bXX ab5cLO ab6aXX ab70LO abc0LE abebST abf0NU ac00LE d800XX f900LE fb00LO fb1dLE",
  "fb29XX fb2aLE fbb2XX fbd3LE fd3eCL fd40XX fd50LE fdcfXX fdf0LE fdfcXX fe10SC fe12ST fe13SC fe14XX",
  "fe15ST fe17CL fe19XX fe31SC fe33XX fe35CL fe45XX fe47CL fe49XX fe50SC fe52AT fe54XX fe55SC fe56ST",
  "fe58SC fe59CL fe5fXX fe63SC fe64XX fe70LE feffFO ff01ST ff02XX ff08CL ff0aXX ff0cSC ff0eAT ff0fXX",
  "ff10NU ff1aSC ff1bXX ff1fST ff20XX ff21UP ff3bCL ff3cXX ff3dCL ff3eXX ff41LO ff5bCL ff5cXX ff5dCL",
  "ff5eXX ff5fCL ff61ST ff62CL ff64SC ff65XX ff66LE ffe0XX fff9FO fffcXX 10000LE 10100XX 10140LE 10175XX",
  "10280LE 102e1XX 10300LE 10320XX 1032dLE 1039fXX 103a0LE 103d0XX 103d1LE 10400UP 10428LO 10450LE",
  "104a0NU 104b0UP 104d8LO 10500LE 1056fXX 10570UP 10597LO 105c0LE 10780LO 10781LE 10783LO 10800LE",
  "10857XX 10860LE 10877XX 10880LE 108a7XX 108e0LE 108fbXX 10900LE 10916XX 10920LE 1093fXX 10980LE",
  "109bcXX 109beLE 109c0XX 10a00LE 10a40XX 10a56ST 10a58XX 10a60LE 10a7dXX 10a80LE 10a9dXX 10ac0LE",
  "10ac8XX 10ac9LE 10aebXX 10b00LE 10b39XX 10b40LE 10b58XX 10b60LE 10b78XX 10b80LE 10b99XX 10c00LE",
  "10c80UP 10cc0LO 10cfaXX 10d00LE 10d30NU 10d4aLE 10d50UP 10d6eXX 10d6fLE 10d70LO 10d8eXX 10e80LE",
  "10eadXX 10eb0LE 10f1dXX 10f27LE 10f51XX 10f55ST 10f70LE 10f86ST 10fb0LE 10fc5XX 10fe0LE 11047ST",
  "11049XX 11066NU 11071LE 110bbXX 110bdNU 110beST 110cdNU 110d0LE 110f0NU 11103LE 11136NU 11140XX",
  "11141ST 11144LE 11174XX 11176LE 111c5ST 111c7XX 111cdST 111d0NU 111daLE 111dbXX 111dcLE 111ddXX",
  "111deST 111e1XX 11200LE 11238ST 1123aXX 1123bST 1123dXX 1123fLE 112a9ST 112b0LE 112f0NU 11305LE",
  "113d4ST 113d7XX 11400LE 1144bST 1144dXX 11450NU 1145aXX 1145fLE 114c6XX 114c7LE 114d0NU 11580LE",
  "115c1XX 115c2ST 115c4XX 115c9ST 115d8LE 11641ST 11643XX 11644LE 11650NU 11660XX 11680LE 116b9XX",
  "116c0NU 11700LE 11730NU 1173aXX 1173cST 1173fXX 11740LE 1183bXX 118a0UP 118c0LO 118e0NU 118eaXX",
  "118ffLE 11944ST 11945XX 11946ST 11950NU 119a0LE 119e2XX 119e3LE 11a3fXX 11a42ST 11a44XX 11a50LE",
  "11a9aXX 11a9bST 11a9dLE 11a9eXX 11ab0LE 11b00XX 11bc0LE 11be1XX 11bf0NU 11c00LE 11c41ST 11c43XX",
  "11c50NU 11c5aXX 11c72LE 11d50NU 11d60LE 11da0NU 11ee0LE 11ef7ST 11f02LE 11f43ST 11f45XX 11f50NU",
  "11fb0LE 11fc0XX 12000LE 12470XX 12480LE 12ff1XX 13000LE 13430FO 13441LE 16130NU 16800LE 16a60NU",
  "16a6eST 16a70LE 16ac0NU 16ad0LE 16af5ST 16b00LE 16b37ST 16b39XX 16b40LE 16b44ST 16b45XX 16b50NU",
  "16b5bXX 16b63LE 16d6dXX 16d6eST 16d70NU 16e40UP 16e60LO 16e80XX 16e98ST 16e99XX 16f00LE 16fe2XX",
  "16fe3LE 1bc9cXX 1bc9fST 1bca0FO 1cc00XX 1ccf0NU 1cd00XX 1d173FO 1d183XX 1d400UP 1d41aLO 1d434UP",
  "1d44eLO 1d468UP 1d482LO 1d49cUP 1d4b6LO 1d4d0UP 1d4eaLO 1d504UP 1d51eLO 1d538UP 1d552LO 1d56cUP",
  "1d586LO 1d5a0UP 1d5baLO 1d5d4UP 1d5eeLO 1d608UP 1d622LO 1d63cUP 1d656LO 1d670UP 1d68aLO 1d6a8UP",
  "1d6c1XX 1d6c2LO 1d6dbXX 1d6dcLO 1d6e2UP 1d6fbXX 1d6fcLO 1d715XX 1d716LO 1d71cUP 1d735XX 1d736LO",
  "1d74fXX 1d750LO 1d756UP 1d76fXX 1d770LO 1d789XX 1d78aLO 1d790UP 1d7a9XX 1d7aaLO 1d7c3XX 1d7c4LO",
  "1d7caUP 1d7cbLO 1d7ceNU 1d800XX 1da88ST 1da89XX 1df00LO 1df0aLE 1df0bLO 1e100LE 1e140NU 1e14eLE",
  "1e14fXX 1e290LE 1e2f0NU 1e2ffXX 1e4d0LE 1e4f0NU 1e5d0LE 1e5f1NU 1e5ffXX 1e7e0LE 1e8c7XX 1e900UP",
  "1e922LO 1e94bLE 1e950NU 1e95eXX 1ee00LE 1eef0XX 1f130UP 1f14aXX 1f150UP 1f16aXX 1f170UP 1f18aXX",
  "1f676CL 1f679XX 1fbf0NU 20000LE e0001FO f0000XX"]

end XmlDiagnostics.CharTable
