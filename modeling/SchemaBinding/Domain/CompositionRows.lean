namespace SchemaBinding.Domain

/-- Behind the arrow the two parts of the first character and of those after it. A character whose
first part has parts itself stands before that one. -/
def pairRows : List String :=
  ["1d6>fc.304 1d8>fc.301 1da>fc.30c 1dc>fc.300 1df>e4.304 1e1>227.304 1ed>1eb.304",
    "1fb>e5.301 22b>f6.304 22d>f5.304 231>22f.304 390>3ca.301 3b0>3cb.301 ccb>cca.cd5",
    "ddd>ddc.dca 1e09>e7.301 1e15>113.300 1e17>113.301 1e1d>229.306 1e2f>ef.301 1e39>1e37.304",
    "1e4d>f5.301 1e4f>f5.308 1e51>14d.300 1e53>14d.301 1e5d>1e5b.304 1e65>15b.307",
    "1e67>161.307 1e69>1e63.307 1e79>169.301 1e7b>16b.308 1ea5>e2.301 1ea7>e2.300 1ea9>e2.309",
    "1eab>e2.303 1ead>1ea1.302 1eaf>103.301 1eb1>103.300 1eb3>103.309 1eb5>103.303",
    "1eb7>1ea1.306 1ebf>ea.301 1ec1>ea.300 1ec3>ea.309 1ec5>ea.303 1ec7>1eb9.302 1ed1>f4.301",
    "1ed3>f4.300 1ed5>f4.309 1ed7>f4.303 1ed9>1ecd.302 1edb>1a1.301 1edd>1a1.300 1edf>1a1.309",
    "1ee1>1a1.303 1ee3>1a1.323 1ee9>1b0.301 1eeb>1b0.300 1eed>1b0.309 1eef>1b0.303",
    "1ef1>1b0.323 1f02>1f00.300,1f01.300,1f00.301,1f01.301,1f00.342,1f01.342",
    "1f12>1f10.300,1f11.300,1f10.301,1f11.301",
    "1f22>1f20.300,1f21.300,1f20.301,1f21.301,1f20.342,1f21.342",
    "1f32>1f30.300,1f31.300,1f30.301,1f31.301,1f30.342,1f31.342",
    "1f42>1f40.300,1f41.300,1f40.301,1f41.301",
    "1f52>1f50.300,1f51.300,1f50.301,1f51.301,1f50.342,1f51.342",
    "1f62>1f60.300,1f61.300,1f60.301,1f61.301,1f60.342,1f61.342 1fd2>3ca.300 1fd7>3ca.342",
    "1fe2>3cb.300 1fe7>3cb.342 16126>16121.1611f,16122.1611f,16121.16120 16d6a>16d69.16d67",
    "e0>61.300,61.301,61.302,61.303,61.308,61.30a",
    "e7>63.327,65.300,65.301,65.302,65.308,69.300,69.301,69.302,69.308",
    "f1>6e.303,6f.300,6f.301,6f.302,6f.303,6f.308 f9>75.300,75.301,75.302,75.308,79.301",
    "ff>79.308 101>61.304 103>61.306 105>61.328 107>63.301 109>63.302 10b>63.307 10d>63.30c",
    "10f>64.30c 113>65.304 115>65.306 117>65.307 119>65.328 11b>65.30c 11d>67.302 11f>67.306",
    "121>67.307 123>67.327 125>68.302 129>69.303 12b>69.304 12d>69.306 12f>69.328 135>6a.302",
    "137>6b.327 13a>6c.301 13c>6c.327 13e>6c.30c 144>6e.301 146>6e.327 148>6e.30c 14d>6f.304",
    "14f>6f.306 151>6f.30b 155>72.301 157>72.327 159>72.30c 15b>73.301 15d>73.302 15f>73.327",
    "161>73.30c 163>74.327 165>74.30c 169>75.303 16b>75.304 16d>75.306 16f>75.30a 171>75.30b",
    "173>75.328 175>77.302 177>79.302 17a>7a.301 17c>7a.307 17e>7a.30c 1a1>6f.31b 1b0>75.31b",
    "1ce>61.30c 1d0>69.30c 1d2>6f.30c 1d4>75.30c 1e3>e6.304 1e7>67.30c 1e9>6b.30c 1eb>6f.328",
    "1ef>292.30c,6a.30c 1f5>67.301 1f9>6e.300 1fd>e6.301 1ff>f8.301 201>61.30f 203>61.311",
    "205>65.30f 207>65.311 209>69.30f 20b>69.311 20d>6f.30f 20f>6f.311 211>72.30f 213>72.311",
    "215>75.30f 217>75.311 219>73.326 21b>74.326 21f>68.30c 227>61.307 229>65.327 22f>6f.307",
    "233>79.304 3ac>3b1.301,3b5.301,3b7.301,3b9.301",
    "3ca>3b9.308,3c5.308,3bf.301,3c5.301,3c9.301 439>438.306 450>435.300,435.308 453>433.301",
    "457>456.308 45c>43a.301,438.300,443.306 477>475.30f 4c2>436.306 4d1>430.306 4d3>430.308",
    "4d7>435.306 4db>4d9.308 4dd>436.308 4df>437.308 4e3>438.304 4e5>438.308 4e7>43e.308",
    "4eb>4e9.308 4ed>44d.308 4ef>443.304 4f1>443.308 4f3>443.30b 4f5>447.308 4f9>44b.308",
    "622>627.653,627.654,648.654,627.655,64a.654 6c0>6d5.654 6c2>6c1.654 6d3>6d2.654",
    "929>928.93c 931>930.93c 934>933.93c 9cb>9c7.9be,9c7.9d7 b48>b47.b56 b4b>b47.b3e,b47.b57",
    "b94>b92.bd7 bca>bc6.bbe,bc7.bbe,bc6.bd7 c48>c46.c56 cc0>cbf.cd5 cc7>cc6.cd5,cc6.cd6",
    "cca>cc6.cc2 d4a>d46.d3e,d47.d3e,d46.d57 dda>dd9.dca ddc>dd9.dcf dde>dd9.ddf",
    "1026>1025.102e 1b06>1b05.1b35 1b08>1b07.1b35 1b0a>1b09.1b35 1b0c>1b0b.1b35",
    "1b0e>1b0d.1b35 1b12>1b11.1b35 1b3b>1b3a.1b35 1b3d>1b3c.1b35 1b40>1b3e.1b35,1b3f.1b35",
    "1b43>1b42.1b35 1e01>61.325 1e03>62.307 1e05>62.323 1e07>62.331 1e0b>64.307 1e0d>64.323",
    "1e0f>64.331 1e11>64.327 1e13>64.32d 1e19>65.32d 1e1b>65.330 1e1f>66.307 1e21>67.304",
    "1e23>68.307 1e25>68.323 1e27>68.308 1e29>68.327 1e2b>68.32e 1e2d>69.330 1e31>6b.301",
    "1e33>6b.323 1e35>6b.331 1e37>6c.323 1e3b>6c.331 1e3d>6c.32d 1e3f>6d.301 1e41>6d.307",
    "1e43>6d.323 1e45>6e.307 1e47>6e.323 1e49>6e.331 1e4b>6e.32d 1e55>70.301 1e57>70.307",
    "1e59>72.307 1e5b>72.323 1e5f>72.331 1e61>73.307 1e63>73.323 1e6b>74.307 1e6d>74.323",
    "1e6f>74.331 1e71>74.32d 1e73>75.324 1e75>75.330 1e77>75.32d 1e7d>76.303 1e7f>76.323",
    "1e81>77.300 1e83>77.301 1e85>77.308 1e87>77.307 1e89>77.323 1e8b>78.307 1e8d>78.308",
    "1e8f>79.307 1e91>7a.302 1e93>7a.323 1e95>7a.331,68.331,74.308,77.30a,79.30a 1ea1>61.323",
    "1ea3>61.309 1eb9>65.323 1ebb>65.309 1ebd>65.303 1ec9>69.309 1ecb>69.323 1ecd>6f.323",
    "1ecf>6f.309 1ee5>75.323 1ee7>75.309 1ef3>79.300 1ef5>79.323 1ef7>79.309 1ef9>79.303",
    "1f00>3b1.313,3b1.314 1f10>3b5.313,3b5.314 1f20>3b7.313,3b7.314 1f30>3b9.313,3b9.314",
    "1f40>3bf.313,3bf.314 1f50>3c5.313,3c5.314 1f60>3c9.313,3c9.314 1f70>3b1.300 1f72>3b5.300",
    "1f74>3b7.300 1f76>3b9.300 1f78>3bf.300 1f7a>3c5.300 1f7c>3c9.300 1fb0>3b1.306,3b1.304",
    "1fb6>3b1.342 1fc6>3b7.342 1fd0>3b9.306,3b9.304 1fd6>3b9.342 1fe0>3c5.306,3c5.304",
    "1fe4>3c1.313,3c1.314,3c5.342 1ff6>3c9.342 219a>2190.338,2192.338 21ae>2194.338",
    "21cd>21d0.338,21d4.338,21d2.338 2204>2203.338 2209>2208.338 220c>220b.338 2224>2223.338",
    "2226>2225.338 2241>223c.338 2244>2243.338 2247>2245.338 2249>2248.338 2260>3d.338",
    "2262>2261.338 226d>224d.338,3c.338,3e.338,2264.338,2265.338 2274>2272.338,2273.338",
    "2278>2276.338,2277.338 2280>227a.338,227b.338 2284>2282.338,2283.338",
    "2288>2286.338,2287.338 22ac>22a2.338,22a8.338,22a9.338,22ab.338",
    "22e0>227c.338,227d.338,2291.338,2292.338 22ea>22b2.338,22b3.338,22b4.338,22b5.338",
    "304c>304b.3099 304e>304d.3099 3050>304f.3099 3052>3051.3099 3054>3053.3099",
    "3056>3055.3099 3058>3057.3099 305a>3059.3099 305c>305b.3099 305e>305d.3099",
    "3060>305f.3099 3062>3061.3099 3065>3064.3099 3067>3066.3099 3069>3068.3099",
    "3070>306f.3099,306f.309a 3073>3072.3099,3072.309a 3076>3075.3099,3075.309a",
    "3079>3078.3099,3078.309a 307c>307b.3099,307b.309a 3094>3046.3099 309e>309d.3099",
    "30ac>30ab.3099 30ae>30ad.3099 30b0>30af.3099 30b2>30b1.3099 30b4>30b3.3099",
    "30b6>30b5.3099 30b8>30b7.3099 30ba>30b9.3099 30bc>30bb.3099 30be>30bd.3099",
    "30c0>30bf.3099 30c2>30c1.3099 30c5>30c4.3099 30c7>30c6.3099 30c9>30c8.3099",
    "30d0>30cf.3099,30cf.309a 30d3>30d2.3099,30d2.309a 30d6>30d5.3099,30d5.309a",
    "30d9>30d8.3099,30d8.309a 30dc>30db.3099,30db.309a 30f4>30a6.3099",
    "30f7>30ef.3099,30f0.3099,30f1.3099,30f2.3099 30fe>30fd.3099 105c9>105d2.307",
    "105e4>105da.307 1109a>11099.110ba 1109c>1109b.110ba 110ab>110a5.110ba",
    "1112e>11131.11127,11132.11127 1134b>11347.1133e,11347.11357 11383>11382.113c9",
    "11385>11384.113bb 1138e>1138b.113c2 11391>11390.113c9 113c5>113c2.113c2",
    "113c7>113c2.113b8,113c2.113c9 114bb>114b9.114ba,114b9.114b0 114be>114b9.114bd",
    "115ba>115b8.115af,115b9.115af 11938>11935.11930",
    "16121>1611e.1611e,1611e.16129,1611e.1611f,16129.1611f,1611e.16120",
    "16d68>16d67.16d67,16d63.16d67"]

/-- Ranges of marks with the class that they are ordered by. -/
def classRows : List String :=
  ["334-338>1 1cd4>1 1ce2-1ce8>1 20d2-20d3>1 20d8-20da>1 20e5-20e6>1 20ea-20eb>1 10a39>1",
    "16af0-16af4>1 1bc9e>1 1d167-1d169>1 16ff0-16ff1>6 93c>7 9bc>7 a3c>7 abc>7 b3c>7 c3c>7",
    "cbc>7 1037>7 1b34>7 1be6>7 1c37>7 a9b3>7 110ba>7 11173>7 111ca>7 11236>7 112e9>7",
    "1133b-1133c>7 11446>7 114c3>7 115c0>7 116b7>7 1183a>7 11943>7 11d42>7 1e94a>7",
    "3099-309a>8 94d>9 9cd>9 a4d>9 acd>9 b4d>9 bcd>9 c4d>9 ccd>9 d3b-d3c>9 d4d>9 dca>9 e3a>9",
    "eba>9 f84>9 1039-103a>9 1714-1715>9 1734>9 17d2>9 1a60>9 1b44>9 1baa-1bab>9 1bf2-1bf3>9",
    "2d7f>9 a806>9 a82c>9 a8c4>9 a953>9 a9c0>9 aaf6>9 abed>9 10a3f>9 11046>9 11070>9 1107f>9",
    "110b9>9 11133-11134>9 111c0>9 11235>9 112ea>9 1134d>9 113ce-113d0>9 11442>9 114c2>9",
    "115bf>9 1163f>9 116b6>9 1172b>9 11839>9 1193d-1193e>9 119e0>9 11a34>9 11a47>9 11a99>9",
    "11c3f>9 11d44-11d45>9 11d97>9 11f41-11f42>9 1612f>9 5b0>a 5b1>b 5b2>c 5b3>d 5b4>e 5b5>f",
    "5b6>10 5b7>11 5b8>12 5c7>12 5b9-5ba>13 5bb>14 5bc>15 5bd>16 5bf>17 5c1>18 5c2>19 fb1e>1a",
    "64b>1b 8f0>1b 64c>1c 8f1>1c 64d>1d 8f2>1d 618>1e 64e>1e 619>1f 64f>1f 61a>20 650>20",
    "651>21 652>22 670>23 711>24 c55>54 c56>5b e38-e39>67 e48-e4b>6b eb8-eb9>76 ec8-ecb>7a",
    "f71>81 f72>82 f7a-f7d>82 f80>82 f74>84 321-322>ca 327-328>ca 1dd0>ca 1dce>d6 31b>d8",
    "f39>d8 1d165-1d166>d8 1d16e-1d172>d8 1dfa>da 302a>da 316-319>dc 31c-320>dc 323-326>dc",
    "329-333>dc 339-33c>dc 347-349>dc 34d-34e>dc 353-356>dc 359-35a>dc 591>dc 596>dc 59b>dc",
    "5a2-5a7>dc 5aa>dc 5c5>dc 655-656>dc 65c>dc 65f>dc 6e3>dc 6ea>dc 6ed>dc 731>dc 734>dc",
    "737-739>dc 73b-73c>dc 73e>dc 742>dc 744>dc 746>dc 748>dc 7f2>dc 7fd>dc 859-85b>dc",
    "899-89b>dc 8cf-8d3>dc 8e3>dc 8e6>dc 8e9>dc 8ed-8ef>dc 8f6>dc 8f9-8fa>dc 952>dc",
    "f18-f19>dc f35>dc f37>dc fc6>dc 108d>dc 193b>dc 1a18>dc 1a7f>dc 1ab5-1aba>dc 1abd>dc",
    "1abf-1ac0>dc 1ac3-1ac4>dc 1aca>dc 1add>dc 1ae6>dc 1b6c>dc 1cd5-1cd9>dc 1cdc-1cdf>dc",
    "1ced>dc 1dc2>dc 1dca>dc 1dcf>dc 1df9>dc 1dfd>dc 1dff>dc 20e8>dc 20ec-20ef>dc",
    "a92b-a92d>dc aab4>dc fe27-fe2d>dc 101fd>dc 102e0>dc 10a0d>dc 10a3a>dc 10ae6>dc",
    "10efa-10efb>dc 10efd-10eff>dc 10f46-10f47>dc 10f4b>dc 10f4d-10f50>dc 10f83>dc 10f85>dc",
    "1d17b-1d182>dc 1d18a-1d18b>dc 1e4ee>dc 1e5ef>dc 1e8d0-1e8d6>dc 59a>de 5ad>de 1939>de",
    "302d>de 302e-302f>e0 1d16d>e2 5ae>e4 18a9>e4 1df7-1df8>e4 302b>e4 300-314>e6 33d-346>e6",
    "34a-34c>e6 350-352>e6 357>e6 35b>e6 363-36f>e6 483-487>e6 592-595>e6 597-599>e6",
    "59c-5a1>e6 5a8-5a9>e6 5ab-5ac>e6 5af>e6 5c4>e6 5c8>e6 610-617>e6 653-654>e6 657-65b>e6",
    "65d-65e>e6 6d6-6dc>e6 6df-6e2>e6 6e4>e6 6e7-6e8>e6 6eb-6ec>e6 730>e6 732-733>e6",
    "735-736>e6 73a>e6 73d>e6 73f-741>e6 743>e6 745>e6 747>e6 749-74a>e6 7eb-7f1>e6 7f3>e6",
    "816-819>e6 81b-823>e6 825-827>e6 829-82d>e6 897-898>e6 89c-89f>e6 8ca-8ce>e6 8d4-8e1>e6",
    "8e4-8e5>e6 8e7-8e8>e6 8ea-8ec>e6 8f3-8f5>e6 8f7-8f8>e6 8fb-8ff>e6 951>e6 953-954>e6",
    "9fe>e6 f82-f83>e6 f86-f87>e6 135d-135f>e6 17dd>e6 193a>e6 1a17>e6 1a75-1a7c>e6",
    "1ab0-1ab4>e6 1abb-1abc>e6 1ac1-1ac2>e6 1ac5-1ac9>e6 1acb-1adc>e6 1ade-1ae5>e6",
    "1ae7-1aea>e6 1aec-1af0>e6 1b6b>e6 1b6d-1b73>e6 1cd0-1cd2>e6 1cda-1cdb>e6 1ce0>e6 1cf4>e6",
    "1cf8-1cf9>e6 1dc0-1dc1>e6 1dc3-1dc9>e6 1dcb-1dcc>e6 1dd1-1df5>e6 1dfb>e6 1dfe>e6",
    "20d0-20d1>e6 20d4-20d7>e6 20db-20dc>e6 20e1>e6 20e7>e6 20e9>e6 20f0>e6 2cef-2cf1>e6",
    "2de0-2dff>e6 a66f>e6 a674-a67d>e6 a69e-a69f>e6 a6f0-a6f1>e6 a8e0-a8f1>e6 aab0>e6",
    "aab2-aab3>e6 aab7-aab8>e6 aabe-aabf>e6 aac1>e6 fe20-fe26>e6 fe2e-fe2f>e6 10376-1037a>e6",
    "10a0f>e6 10a38>e6 10ae5>e6 10d24-10d27>e6 10d69-10d6d>e6 10eab-10eac>e6 10ecb-10ecf>e6",
    "10ef0-10ef9>e6 10f48-10f4a>e6 10f4c>e6 10f82>e6 10f84>e6 11100-11102>e6 11366-11374>e6",
    "1145e>e6 16b30-16b36>e6 1d127-1d128>e6 1d185-1d189>e6 1d1aa-1d1ad>e6 1d242-1d244>e6",
    "1d250>e6 1e000-1e08f>e6 1e130-1e136>e6 1e2ae>e6 1e2ec-1e2ef>e6 1e4ef>e6 1e5ee>e6",
    "1e6e3>e6 1e6e6>e6 1e6ee-1e6ef>e6 1e6f5>e6 1e944-1e949>e6 315>e8 31a>e8 358>e8 1df6>e8",
    "302c>e8 1e4ec-1e4ed>e8 35c>e9 35f>e9 362>e9 1dfc>e9 35d-35e>ea 360-361>ea 1aeb>ea",
    "1dcd>ea"]

end SchemaBinding.Domain
