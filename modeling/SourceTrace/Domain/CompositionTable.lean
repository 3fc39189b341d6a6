/-!
# How characters of domain names combine

Rows of hexadecimal numbers in the notation of `SourceTrace.Domain.Table`, for the characters that a
domain name may hold. What lies between them does not matter, so ranges may run across it.
-/
namespace SourceTrace.Domain.Composition

/-- Two code points that combine, and the code point of both. -/
def pairText : List String :=
  ["3c.338.226e 3d.338.2260 3e.338.226f 61.300.e0 61.301.e1 61.302.e2 61.303.e3 61.304.101",
   "61.306.103 61.307.227 61.308.e4 61.309.1ea3 61.30a.e5 61.30c.1ce 61.30f.201 61.311.203",
   "61.323.1ea1 61.325.1e01 61.328.105 62.307.1e03 62.323.1e05 62.331.1e07 63.301.107 63.302.109",
   "63.307.10b 63.30c.10d 63.327.e7 64.307.1e0b 64.30c.10f 64.323.1e0d 64.327.1e11 64.32d.1e13",
   "64.331.1e0f 65.300.e8 65.301.e9 65.302.ea 65.303.1ebd 65.304.113 65.306.115 65.307.117",
   "65.308.eb 65.309.1ebb 65.30c.11b 65.30f.205 65.311.207 65.323.1eb9 65.327.229 65.328.119",
   "65.32d.1e19 65.330.1e1b 66.307.1e1f 67.301.1f5 67.302.11d 67.304.1e21 67.306.11f 67.307.121",
   "67.30c.1e7 67.327.123 68.302.125 68.307.1e23 68.308.1e27 68.30c.21f 68.323.1e25 68.327.1e29",
   "68.32e.1e2b 68.331.1e96 69.300.ec 69.301.ed 69.302.ee 69.303.129 69.304.12b 69.306.12d",
   "69.308.ef 69.309.1ec9 69.30c.1d0 69.30f.209 69.311.20b 69.323.1ecb 69.328.12f 69.330.1e2d",
   "6a.302.135 6a.30c.1f0 6b.301.1e31 6b.30c.1e9 6b.323.1e33 6b.327.137 6b.331.1e35 6c.301.13a",
   "6c.30c.13e 6c.323.1e37 6c.327.13c 6c.32d.1e3d 6c.331.1e3b 6d.301.1e3f 6d.307.1e41 6d.323.1e43",
   "6e.300.1f9 6e.301.144 6e.303.f1 6e.307.1e45 6e.30c.148 6e.323.1e47 6e.327.146 6e.32d.1e4b",
   "6e.331.1e49 6f.300.f2 6f.301.f3 6f.302.f4 6f.303.f5 6f.304.14d 6f.306.14f 6f.307.22f",
   "6f.308.f6 6f.309.1ecf 6f.30b.151 6f.30c.1d2 6f.30f.20d 6f.311.20f 6f.31b.1a1 6f.323.1ecd",
   "6f.328.1eb 70.301.1e55 70.307.1e57 72.301.155 72.307.1e59 72.30c.159 72.30f.211 72.311.213",
   "72.323.1e5b 72.327.157 72.331.1e5f 73.301.15b 73.302.15d 73.307.1e61 73.30c.161 73.323.1e63",
   "73.326.219 73.327.15f 74.307.1e6b 74.308.1e97 74.30c.165 74.323.1e6d 74.326.21b 74.327.163",
   "74.32d.1e71 74.331.1e6f 75.300.f9 75.301.fa 75.302.fb 75.303.169 75.304.16b 75.306.16d",
   "75.308.fc 75.309.1ee7 75.30a.16f 75.30b.171 75.30c.1d4 75.30f.215 75.311.217 75.31b.1b0",
   "75.323.1ee5 75.324.1e73 75.328.173 75.32d.1e77 75.330.1e75 76.303.1e7d 76.323.1e7f",
   "77.300.1e81 77.301.1e83 77.302.175 77.307.1e87 77.308.1e85 77.30a.1e98 77.323.1e89",
   "78.307.1e8b 78.308.1e8d 79.300.1ef3 79.301.fd 79.302.177 79.303.1ef9 79.304.233 79.307.1e8f",
   "79.308.ff 79.309.1ef7 79.30a.1e99 79.323.1ef5 7a.301.17a 7a.302.1e91 7a.307.17c 7a.30c.17e",
   "7a.323.1e93 7a.331.1e95 e2.300.1ea7 e2.301.1ea5 e2.303.1eab e2.309.1ea9 e4.304.1df e5.301.1fb",
   "e6.301.1fd e6.304.1e3 e7.301.1e09 ea.300.1ec1 ea.301.1ebf ea.303.1ec5 ea.309.1ec3 ef.301.1e2f",
   "f4.300.1ed3 f4.301.1ed1 f4.303.1ed7 f4.309.1ed5 f5.301.1e4d f5.304.22d f5.308.1e4f f6.304.22b",
   "f8.301.1ff fc.300.1dc fc.301.1d8 fc.304.1d6 fc.30c.1da 103.300.1eb1 103.301.1eaf 103.303.1eb5",
   "103.309.1eb3 113.300.1e15 113.301.1e17 14d.300.1e51 14d.301.1e53 15b.307.1e65 161.307.1e67",
   "169.301.1e79 16b.308.1e7b 1a1.300.1edd 1a1.301.1edb 1a1.303.1ee1 1a1.309.1edf 1a1.323.1ee3",
   "1b0.300.1eeb 1b0.301.1ee9 1b0.303.1eef 1b0.309.1eed 1b0.323.1ef1 1eb.304.1ed 227.304.1e1",
   "229.306.1e1d 22f.304.231 292.30c.1ef 3b1.300.1f70 3b1.301.3ac 3b1.304.1fb1 3b1.306.1fb0",
   "3b1.313.1f00 3b1.314.1f01 3b1.342.1fb6 3b5.300.1f72 3b5.301.3ad 3b5.313.1f10 3b5.314.1f11",
   "3b7.300.1f74 3b7.301.3ae 3b7.313.1f20 3b7.314.1f21 3b7.342.1fc6 3b9.300.1f76 3b9.301.3af",
   "3b9.304.1fd1 3b9.306.1fd0 3b9.308.3ca 3b9.313.1f30 3b9.314.1f31 3b9.342.1fd6 3bf.300.1f78",
   "3bf.301.3cc 3bf.313.1f40 3bf.314.1f41 3c1.313.1fe4 3c1.314.1fe5 3c5.300.1f7a 3c5.301.3cd",
   "3c5.304.1fe1 3c5.306.1fe0 3c5.308.3cb 3c5.313.1f50 3c5.314.1f51 3c5.342.1fe6 3c9.300.1f7c",
   "3c9.301.3ce 3c9.313.1f60 3c9.314.1f61 3c9.342.1ff6 3ca.300.1fd2 3ca.301.390 3ca.342.1fd7",
   "3cb.300.1fe2 3cb.301.3b0 3cb.342.1fe7 430.306.4d1 430.308.4d3 433.301.453 435.300.450",
   "435.306.4d7 435.308.451 436.306.4c2 436.308.4dd 437.308.4df 438.300.45d 438.304.4e3",
   "438.306.439 438.308.4e5 43a.301.45c 43e.308.4e7 443.304.4ef 443.306.45e 443.308.4f1",
   "443.30b.4f3 447.308.4f5 44b.308.4f9 44d.308.4ed 456.308.457 475.30f.477 4d9.308.4db",
   "4e9.308.4eb 627.653.622 627.654.623 627.655.625 648.654.624 64a.654.626 6c1.654.6c2",
   "6d2.654.6d3 6d5.654.6c0 928.93c.929 930.93c.931 933.93c.934 9c7.9be.9cb 9c7.9d7.9cc",
   "b47.b3e.b4b b47.b56.b48 b47.b57.b4c b92.bd7.b94 bc6.bbe.bca bc6.bd7.bcc bc7.bbe.bcb",
   "c46.c56.c48 cbf.cd5.cc0 cc6.cc2.cca cc6.cd5.cc7 cc6.cd6.cc8 cca.cd5.ccb d46.d3e.d4a",
   "d46.d57.d4c d47.d3e.d4b dd9.dca.dda dd9.dcf.ddc dd9.ddf.dde ddc.dca.ddd 1025.102e.1026",
   "1b05.1b35.1b06 1b07.1b35.1b08 1b09.1b35.1b0a 1b0b.1b35.1b0c 1b0d.1b35.1b0e 1b11.1b35.1b12",
   "1b3a.1b35.1b3b 1b3c.1b35.1b3d 1b3e.1b35.1b40 1b3f.1b35.1b41 1b42.1b35.1b43 1e37.304.1e39",
   "1e5b.304.1e5d 1e63.307.1e69 1ea1.302.1ead 1ea1.306.1eb7 1eb9.302.1ec7 1ecd.302.1ed9",
   "1f00.300.1f02 1f00.301.1f04 1f00.342.1f06 1f01.300.1f03 1f01.301.1f05 1f01.342.1f07",
   "1f10.300.1f12 1f10.301.1f14 1f11.300.1f13 1f11.301.1f15 1f20.300.1f22 1f20.301.1f24",
   "1f20.342.1f26 1f21.300.1f23 1f21.301.1f25 1f21.342.1f27 1f30.300.1f32 1f30.301.1f34",
   "1f30.342.1f36 1f31.300.1f33 1f31.301.1f35 1f31.342.1f37 1f40.300.1f42 1f40.301.1f44",
   "1f41.300.1f43 1f41.301.1f45 1f50.300.1f52 1f50.301.1f54 1f50.342.1f56 1f51.300.1f53",
   "1f51.301.1f55 1f51.342.1f57 1f60.300.1f62 1f60.301.1f64 1f60.342.1f66 1f61.300.1f63",
   "1f61.301.1f65 1f61.342.1f67 2190.338.219a 2192.338.219b 2194.338.21ae 21d0.338.21cd",
   "21d2.338.21cf 21d4.338.21ce 2203.338.2204 2208.338.2209 220b.338.220c 2223.338.2224",
   "2225.338.2226 223c.338.2241 2243.338.2244 2245.338.2247 2248.338.2249 224d.338.226d",
   "2261.338.2262 2264.338.2270 2265.338.2271 2272.338.2274 2273.338.2275 2276.338.2278",
   "2277.338.2279 227a.338.2280 227b.338.2281 227c.338.22e0 227d.338.22e1 2282.338.2284",
   "2283.338.2285 2286.338.2288 2287.338.2289 2291.338.22e2 2292.338.22e3 22a2.338.22ac",
   "22a8.338.22ad 22a9.338.22ae 22ab.338.22af 22b2.338.22ea 22b3.338.22eb 22b4.338.22ec",
   "22b5.338.22ed 3046.3099.3094 304b.3099.304c 304d.3099.304e 304f.3099.3050 3051.3099.3052",
   "3053.3099.3054 3055.3099.3056 3057.3099.3058 3059.3099.305a 305b.3099.305c 305d.3099.305e",
   "305f.3099.3060 3061.3099.3062 3064.3099.3065 3066.3099.3067 3068.3099.3069 306f.3099.3070",
   "306f.309a.3071 3072.3099.3073 3072.309a.3074 3075.3099.3076 3075.309a.3077 3078.3099.3079",
   "3078.309a.307a 307b.3099.307c 307b.309a.307d 309d.3099.309e 30a6.3099.30f4 30ab.3099.30ac",
   "30ad.3099.30ae 30af.3099.30b0 30b1.3099.30b2 30b3.3099.30b4 30b5.3099.30b6 30b7.3099.30b8",
   "30b9.3099.30ba 30bb.3099.30bc 30bd.3099.30be 30bf.3099.30c0 30c1.3099.30c2 30c4.3099.30c5",
   "30c6.3099.30c7 30c8.3099.30c9 30cf.3099.30d0 30cf.309a.30d1 30d2.3099.30d3 30d2.309a.30d4",
   "30d5.3099.30d6 30d5.309a.30d7 30d8.3099.30d9 30d8.309a.30da 30db.3099.30dc 30db.309a.30dd",
   "30ef.3099.30f7 30f0.3099.30f8 30f1.3099.30f9 30f2.3099.30fa 30fd.3099.30fe 105d2.307.105c9",
   "105da.307.105e4 11099.110ba.1109a 1109b.110ba.1109c 110a5.110ba.110ab 11131.11127.1112e",
   "11132.11127.1112f 11347.1133e.1134b 11347.11357.1134c 11382.113c9.11383 11384.113bb.11385",
   "1138b.113c2.1138e 11390.113c9.11391 113c2.113b8.113c7 113c2.113c2.113c5 113c2.113c9.113c8",
   "114b9.114b0.114bc 114b9.114ba.114bb 114b9.114bd.114be 115b8.115af.115ba 115b9.115af.115bb",
   "11935.11930.11938 1611e.1611e.16121 1611e.1611f.16123 1611e.16120.16125 1611e.16129.16122",
   "16121.1611f.16126 16121.16120.16128 16122.1611f.16127 16129.1611f.16124 16d63.16d67.16d69",
   "16d67.16d67.16d68 16d69.16d67.16d6a"]

/-- Combining classes other than zero: a class, and a range of code points that have it. -/
def classText : List String :=
  ["e6.300.314 e8.315 dc.316.319 e8.31a d8.31b dc.31c.320 ca.321.322 dc.323.326 ca.327.328",
   "dc.329.333 1.334.338 dc.339.33c e6.33d.346 dc.347.349 e6.34a.34c dc.34d.34e e6.350.352",
   "dc.353.356 e6.357 e8.358 dc.359.35a e6.35b e9.35c ea.35d.35e e9.35f ea.360.361 e9.362",
   "e6.363.36f e6.483.487 dc.591 e6.592.595 dc.596 e6.597.599 de.59a dc.59b e6.59c.5a1 dc.5a2.5a7",
   "e6.5a8.5a9 dc.5aa e6.5ab.5ac de.5ad e4.5ae e6.5af a.5b0 b.5b1 c.5b2 d.5b3 e.5b4 f.5b5 10.5b6",
   "11.5b7 12.5b8 13.5b9.5ba 14.5bb 15.5bc 16.5bd 17.5bf 18.5c1 19.5c2 e6.5c4 dc.5c5 12.5c7",
   "e6.610.617 1e.618 1f.619 20.61a 1b.64b 1c.64c 1d.64d 1e.64e 1f.64f 20.650 21.651 22.652",
   "e6.653.654 dc.655.656 e6.657.65b dc.65c e6.65d.65e dc.65f 23.670 e6.6d6.6dc e6.6df.6e2 dc.6e3",
   "e6.6e4 e6.6e7.6e8 dc.6ea e6.6eb.6ec dc.6ed 24.711 e6.730 dc.731 e6.732.733 dc.734 e6.735.736",
   "dc.737.739 e6.73a dc.73b.73c e6.73d dc.73e e6.73f.741 dc.742 e6.743 dc.744 e6.745 dc.746",
   "e6.747 dc.748 e6.749.74a e6.7eb.7f1 dc.7f2 e6.7f3 dc.7fd e6.816.819 e6.81b.823 e6.825.827",
   "e6.829.82d dc.859.85b e6.897.898 dc.899.89b e6.89c.89f e6.8ca.8ce dc.8cf.8d3 e6.8d4.8e1",
   "dc.8e3 e6.8e4.8e5 dc.8e6 e6.8e7.8e8 dc.8e9 e6.8ea.8ec dc.8ed.8ef 1b.8f0 1c.8f1 1d.8f2",
   "e6.8f3.8f5 dc.8f6 e6.8f7.8f8 dc.8f9.8fa e6.8fb.8ff 7.93c 9.94d e6.951 dc.952 e6.953.954 7.9bc",
   "9.9cd e6.9fe 7.a3c 9.a4d 7.abc 9.acd 7.b3c 9.b4d 9.bcd 7.c3c 9.c4d 54.c55 5b.c56 7.cbc 9.ccd",
   "9.d3b.d3c 9.d4d 9.dca 67.e38.e39 9.e3a 6b.e48.e4b 76.eb8.eb9 9.eba 7a.ec8.ecb dc.f18.f19",
   "dc.f35 dc.f37 d8.f39 81.f71 82.f72 84.f74 82.f7a.f7d 82.f80 e6.f82.f83 9.f84 e6.f86.f87",
   "dc.fc6 7.1037 9.1039.103a dc.108d e6.135d.135f 9.1714.1715 9.1734 9.17d2 e6.17dd e4.18a9",
   "de.1939 e6.193a dc.193b e6.1a17 dc.1a18 9.1a60 e6.1a75.1a7c dc.1a7f e6.1ab0.1ab4 dc.1ab5.1aba",
   "e6.1abb.1abc dc.1abd dc.1abf.1ac0 e6.1ac1.1ac2 dc.1ac3.1ac4 e6.1ac5.1ac9 dc.1aca e6.1acb.1adc",
   "dc.1add e6.1ae0.1ae5 dc.1ae6 e6.1ae7.1aea ea.1aeb 7.1b34 9.1b44 e6.1b6b dc.1b6c e6.1b6d.1b73",
   "9.1baa.1bab 7.1be6 9.1bf2.1bf3 7.1c37 e6.1cd0.1cd2 1.1cd4 dc.1cd5.1cd9 e6.1cda.1cdb",
   "dc.1cdc.1cdf e6.1ce0 1.1ce2.1ce8 dc.1ced e6.1cf4 e6.1cf8.1cf9 e6.1dc0.1dc1 dc.1dc2",
   "e6.1dc3.1dc9 dc.1dca e6.1dcb.1dcc ea.1dcd d6.1dce dc.1dcf ca.1dd0 e6.1dd1.1df5 e8.1df6",
   "e4.1df7.1df8 dc.1df9 da.1dfa e6.1dfb e9.1dfc dc.1dfd e6.1dfe dc.1dff e6.20d0.20d1 1.20d2.20d3",
   "e6.20d4.20d7 1.20d8.20da e6.20db.20dc e6.20e1 1.20e5.20e6 e6.20e7 dc.20e8 e6.20e9 1.20ea.20eb",
   "dc.20ec.20ef e6.20f0 e6.2cef.2cf1 9.2d7f e6.2de0.2dff da.302a e4.302b e8.302c de.302d",
   "e0.302e.302f 8.3099.309a e6.a66f e6.a674.a67d e6.a69e.a69f e6.a6f0.a6f1 9.a806 9.a82c 9.a8c4",
   "e6.a8e0.a8f1 dc.a92b.a92d 9.a953 7.a9b3 9.a9c0 e6.aab0 e6.aab2.aab3 dc.aab4 e6.aab7.aab8",
   "e6.aabe.aabf e6.aac1 9.aaf6 9.abed 1a.fb1e e6.fe20.fe26 dc.fe27.fe2d e6.fe2e.fe2f dc.101fd",
   "dc.102e0 e6.10376.1037a dc.10a0d e6.10a0f e6.10a38 1.10a39 dc.10a3a 9.10a3f e6.10ae5 dc.10ae6",
   "e6.10d24.10d27 e6.10d69.10d6d e6.10eab.10eac dc.10efa.10efb dc.10efd.10eff dc.10f46.10f47",
   "e6.10f48.10f4a dc.10f4b e6.10f4c dc.10f4d.10f50 e6.10f82 dc.10f83 e6.10f84 dc.10f85 9.11046",
   "9.11070 9.1107f 9.110b9 7.110ba e6.11100.11102 9.11133.11134 7.11173 9.111c0 7.111ca 9.11235",
   "7.11236 7.112e9 9.112ea 7.1133b.1133c 9.1134d e6.11366.11374 9.113ce.113d0 9.11442 7.11446",
   "e6.1145e 9.114c2 7.114c3 9.115bf 7.115c0 9.1163f 9.116b6 7.116b7 9.1172b 9.11839 7.1183a",
   "9.1193d.1193e 7.11943 9.119e0 9.11a34 9.11a47 9.11a99 9.11c3f 7.11d42 9.11d44.11d45 9.11d97",
   "9.11f41.11f42 9.1612f 1.16af0.16af4 e6.16b30.16b36 6.16ff0.16ff1 1.1bc9e d8.1d165.1d166",
   "1.1d167.1d169 e2.1d16d d8.1d16e.1d172 dc.1d17b.1d182 e6.1d185.1d189 dc.1d18a.1d18b",
   "e6.1d1aa.1d1ad e6.1d242.1d244 e6.1e000.1e08f e6.1e130.1e136 e6.1e2ae e6.1e2ec.1e2ef",
   "e8.1e4ec.1e4ed dc.1e4ee e6.1e4ef e6.1e5ee dc.1e5ef e6.1e6e3 e6.1e6e6 e6.1e6ee.1e6ef e6.1e6f5",
   "dc.1e8d0.1e8d6 e6.1e944.1e949 7.1e94a"]

/-- Combining marks of any class, as ranges. -/
def markText : List String :=
  ["300.36f 483.489 591.5bd 5bf 5c1.5c2 5c4.5c5 5c7 610.61a 64b.65f 670 6d6.6dc 6df.6e4 6e7.6e8",
   "6ea.6ed 711 730.74a 7a6.7b0 7eb.7f3 7fd 816.819 81b.823 825.827 829.82d 859.85b 897.89f",
   "8ca.903 93a.93c 93e.94f 951.957 962.963 981.983 9bc 9be.9cd 9d7 9e2.9e3 9fe.a03 a3c.a51",
   "a70.a71 a75 a81.a83 abc abe.acd ae2.ae3 afa.b03 b3c b3e.b57 b62.b63 b82 bbe.bcd bd7 c00.c04",
   "c3c c3e.c56 c62.c63 c81.c83 cbc cbe.cd6 ce2.ce3 cf3.d03 d3b.d3c d3e.d4d d57 d62.d63 d81.d83",
   "dca.ddf df2.df3 e31 e34.e3a e47.e4e eb1 eb4.ebc ec8.ece f18.f19 f35 f37 f39 f3e.f3f f71.f84",
   "f86.f87 f8d.fbc fc6 102b.103e 1056.1059 105e.1060 1062.1064 1067.106d 1071.1074 1082.108d",
   "108f 109a.109d 135d.135f 1712.1715 1732.1734 1752.1753 1772.1773 17b6.17d3 17dd 1885.1886",
   "18a9 1920.193b 1a17.1a1b 1a55.1a7f 1ab0.1b04 1b34.1b44 1b6b.1b73 1b80.1b82 1ba1.1bad",
   "1be6.1bf3 1c24.1c37 1cd0.1cd2 1cd4.1ce8 1ced 1cf4 1cf7.1cf9 1dc0.1dff 20d0.20f0 2cef.2cf1",
   "2d7f 2de0.2dff 302a.302f 3099.309a a66f.a672 a674.a67d a69e.a69f a6f0.a6f1 a802 a806 a80b",
   "a823.a827 a82c a880.a881 a8b4.a8c5 a8e0.a8f1 a8ff a926.a92d a947.a953 a980.a983 a9b3.a9c0",
   "a9e5 aa29.aa36 aa43 aa4c.aa4d aa7b.aa7d aab0 aab2.aab4 aab7.aab8 aabe.aabf aac1 aaeb.aaef",
   "aaf5.aaf6 abe3.abea abec.abed fb1e fe20.fe2f 101fd 102e0 10376.1037a 10a01.10a0f 10a38.10a3f",
   "10ae5.10ae6 10d24.10d27 10d69.10d6d 10eab.10eac 10efa.10eff 10f46.10f50 10f82.10f85",
   "11000.11002 11038.11046 11070 11073.11074 1107f.11082 110b0.110ba 110c2 11100.11102",
   "11127.11134 11145.11146 11173 11180.11182 111b3.111c0 111c9.111cc 111ce.111cf 1122c.11237",
   "1123e 11241 112df.112ea 11300.11303 1133b.1133c 1133e.1134d 11357 11362.11374 113b8.113d0",
   "113d2 113e1.113e2 11435.11446 1145e 114b0.114c3 115af.115c0 115dc.115dd 11630.11640",
   "116ab.116b7 1171d.1172b 1182c.1183a 11930.1193e 11940 11942.11943 119d1.119e0 119e4",
   "11a01.11a0a 11a33.11a39 11a3b.11a3e 11a47 11a51.11a5b 11a8a.11a99 11b60.11b67 11c2f.11c3f",
   "11c92.11cb6 11d31.11d45 11d47 11d8a.11d97 11ef3.11ef6 11f00.11f01 11f03 11f34.11f42 11f5a",
   "13440 13447.13455 1611e.1612f 16af0.16af4 16b30.16b36 16f4f 16f51.16f92 16fe4.16ff1",
   "1bc9d.1bc9e 1cf00.1cf46 1d165.1d169 1d16d.1d182 1d185.1d18b 1d1aa.1d1ad 1d242.1d244",
   "1da00.1da36 1da3b.1da6c 1da75 1da84 1da9b.1daaf 1e000.1e08f 1e130.1e136 1e2ae 1e2ec.1e2ef",
   "1e4ec.1e4ef 1e5ee.1e5ef 1e6e3 1e6e6 1e6ee.1e6ef 1e6f5 1e8d0.1e8d6 1e944.1e94a"]

end SourceTrace.Domain.Composition
