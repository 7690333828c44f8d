import LinkGuard.Unicode.Table

/-!
# The mapping of domain names

Before a domain name is looked at, its characters are mapped: capitals to small letters, wide and
styled forms to plain ones, invisible characters to nothing. Some characters may not appear at all.
The tables are those of UTS #46 for Unicode 17, without the entries that canonical composition
yields anyway. The letters that differ between the standards of 2003 and 2008 stay as they are.
-/

namespace LinkGuard.Unicode.Mapping

/-- Runs of characters with one image each: the first character, how many there are, the distance
between neighbours, and the image of the first. Images keep that distance; a distance of zero stands
for neighbours that share one image. -/
def runLines : List String := [
  "41.1a.1.61 a0.1.1.20 aa.1.1.61 b2.2.1.32 b5.1.1.3bc b9.1.1.31 ba.1.1.6f c0.17.1.e0 d8.7.1.f8",
  "100.18.2.101 134.2.2.135 139.3.2.13a 141.4.2.142 14a.17.2.14b 178.1.1.ff 179.3.2.17a",
  "17f.1.1.73 181.1.1.253 182.2.2.183 186.1.1.254 187.1.1.188 189.2.1.256 18b.1.1.18c",
  "18e.1.1.1dd 18f.1.1.259 190.1.1.25b 191.1.1.192 193.1.1.260 194.1.1.263 196.1.1.269",
  "197.1.1.268 198.1.1.199 19c.1.1.26f 19d.1.1.272 19f.1.1.275 1a0.3.2.1a1 1a6.1.1.280",
  "1a7.1.1.1a8 1a9.1.1.283 1ac.1.1.1ad 1ae.1.1.288 1af.1.1.1b0 1b1.2.1.28a 1b3.2.2.1b4",
  "1b7.1.1.292 1b8.1.1.1b9 1bc.1.1.1bd 1cd.8.2.1ce 1de.9.2.1df 1f4.1.1.1f5 1f6.1.1.195",
  "1f7.1.1.1bf 1f8.14.2.1f9 220.1.1.19e 222.9.2.223 23a.1.1.2c65 23b.1.1.23c 23d.1.1.19a",
  "23e.1.1.2c66 241.1.1.242 243.1.1.180 244.1.1.289 245.1.1.28c 246.5.2.247 2b0.2.2.68",
  "2b1.1.1.266 2b3.1.1.72 2b4.1.1.279 2b5.1.1.27b 2b6.1.1.281 2b7.1.1.77 2b8.1.1.79 2e0.1.1.263",
  "2e1.1.1.6c 2e2.1.1.73 2e3.1.1.78 2e4.1.1.295 345.1.1.3b9 370.2.2.371 376.1.1.377 37f.1.1.3f3",
  "386.1.1.3ac 388.3.1.3ad 38c.1.1.3cc 38e.2.1.3cd 391.11.1.3b1 3a3.9.1.3c3 3cf.1.1.3d7",
  "3d0.1.1.3b2 3d1.1.1.3b8 3d2.1.1.3c5 3d3.1.1.3cd 3d4.1.1.3cb 3d5.1.1.3c6 3d6.1.1.3c0",
  "3d8.c.2.3d9 3f0.1.1.3ba 3f1.1.1.3c1 3f2.1.1.3c3 3f4.1.1.3b8 3f5.1.1.3b5 3f7.1.1.3f8",
  "3f9.1.1.3c3 3fa.1.1.3fb 3fd.3.1.37b 400.10.1.450 410.20.1.430 460.11.2.461 48a.1b.2.48b",
  "4c0.1.1.4cf 4c1.7.2.4c2 4d0.30.2.4d1 531.26.1.561 f0c.1.1.f0b 10a0.26.1.2d00 10c7.1.1.2d27",
  "10cd.1.1.2d2d 10fc.1.1.10dc 13f8.6.1.13f0 1c80.1.1.432 1c81.1.1.434 1c82.1.1.43e",
  "1c83.2.1.441 1c85.1.1.442 1c86.1.1.44a 1c87.1.1.463 1c88.1.1.a64b 1c89.1.1.1c8a",
  "1c90.2b.1.10d0 1cbd.3.1.10fd 1d2c.1.1.61 1d2d.1.1.e6 1d2e.2.2.62 1d31.5.2.65 1d32.1.1.1dd",
  "1d34.4.2.68 1d3c.1.1.6f 1d3d.1.1.223 1d3e.1.1.70 1d3f.1.1.72 1d40.2.1.74 1d42.1.1.77",
  "1d43.1.1.61 1d44.2.1.250 1d46.1.1.1d02 1d47.1.1.62 1d48.2.1.64 1d4a.1.1.259 1d4b.2.1.25b",
  "1d4d.1.1.67 1d4f.1.1.6b 1d50.2.2.6d 1d51.1.1.14b 1d53.1.1.254 1d54.2.1.1d16 1d56.1.1.70",
  "1d57.2.1.74 1d59.1.1.1d1d 1d5a.1.1.26f 1d5b.1.1.76 1d5c.1.1.1d25 1d5d.3.1.3b2 1d60.2.1.3c6",
  "1d62.1.1.69 1d63.1.1.72 1d64.2.1.75 1d66.2.1.3b2 1d68.1.1.3c1 1d69.2.1.3c6 1d78.1.1.43d",
  "1d9b.1.1.252 1d9c.1.1.63 1d9d.1.1.255 1d9e.1.1.f0 1d9f.1.1.25c 1da0.1.1.66 1da1.1.1.25f",
  "1da2.1.1.261 1da3.1.1.265 1da4.3.1.268 1da7.1.1.1d7b 1da8.1.1.29d 1da9.1.1.26d 1daa.1.1.1d85",
  "1dab.1.1.29f 1dac.1.1.271 1dad.1.1.270 1dae.4.1.272 1db2.1.1.278 1db3.2.1.282 1db5.1.1.1ab",
  "1db6.2.1.289 1db8.1.1.1d1c 1db9.2.1.28b 1dbb.1.1.7a 1dbc.3.1.290 1dbf.1.1.3b8 1e00.4b.2.1e01",
  "1e9b.1.1.1e61 1e9e.1.1.df 1ea0.30.2.1ea1 1f08.8.1.1f00 1f18.6.1.1f10 1f28.8.1.1f20",
  "1f38.8.1.1f30 1f48.6.1.1f40 1f59.4.2.1f51 1f68.8.1.1f60 1fb8.2.1.1fb0 1fba.1.1.1f70",
  "1fbb.1.1.3ac 1fc8.2.2.1f72 1fc9.1.1.3ad 1fcb.1.1.3ae 1fd8.2.1.1fd0 1fda.1.1.1f76",
  "1fdb.1.1.3af 1fe8.2.1.1fe0 1fea.1.1.1f7a 1feb.1.1.3cd 1fec.1.1.1fe5 1ff8.1.1.1f78",
  "1ff9.2.2.3cc 1ffa.1.1.1f7c 2000.b.0.20 2011.1.1.2010 202f.1.1.20 205f.1.1.20 2070.1.1.30",
  "2071.1.1.69 2074.6.1.34 207a.1.1.2b 207b.1.1.2212 207c.1.1.3d 207d.2.1.28 207f.1.1.6e",
  "2080.a.1.30 208a.1.1.2b 208b.1.1.2212 208c.1.1.3d 208d.2.1.28 2090.1.1.61 2091.1.1.65",
  "2092.1.1.6f 2093.1.1.78 2094.1.1.259 2095.1.1.68 2096.4.1.6b 209a.1.1.70 209b.2.1.73",
  "2102.1.1.63 2107.1.1.25b 210a.2.1.67 210c.3.0.68 210f.1.1.127 2110.2.0.69 2112.2.0.6c",
  "2115.1.1.6e 2119.3.1.70 211c.2.0.72 2124.1.1.7a 2126.1.1.3c9 2128.1.1.7a 212a.1.1.6b",
  "212b.1.1.e5 212c.2.1.62 212f.2.0.65 2131.1.1.66 2132.1.1.214e 2133.1.1.6d 2134.1.1.6f",
  "2135.4.1.5d0 2139.1.1.69 213c.1.1.3c0 213d.2.0.3b3 213f.1.1.3c0 2140.1.1.2211 2145.2.0.64",
  "2147.1.1.65 2148.2.1.69 2160.1.1.69 2164.1.1.76 2169.1.1.78 216c.1.1.6c 216d.2.1.63",
  "216f.1.1.6d 2170.1.1.69 2174.1.1.76 2179.1.1.78 217c.1.1.6c 217d.2.1.63 217f.1.1.6d",
  "2183.1.1.2184 2460.9.1.31 24b6.1a.1.61 24d0.1a.1.61 24ea.1.1.30 2c00.30.1.2c30 2c60.1.1.2c61",
  "2c62.1.1.26b 2c63.1.1.1d7d 2c64.1.1.27d 2c67.3.2.2c68 2c6d.1.1.251 2c6e.1.1.271 2c6f.1.1.250",
  "2c70.1.1.252 2c72.1.1.2c73 2c75.1.1.2c76 2c7c.1.1.6a 2c7d.1.1.76 2c7e.2.1.23f 2c80.32.2.2c81",
  "2ceb.2.2.2cec 2cf2.1.1.2cf3 2d6f.1.1.2d61 2e9f.1.1.6bcd 2ef3.1.1.9f9f 2f00.1.1.4e00",
  "2f01.1.1.4e28 2f02.1.1.4e36 2f03.1.1.4e3f 2f04.1.1.4e59 2f05.1.1.4e85 2f06.1.1.4e8c",
  "2f07.1.1.4ea0 2f08.1.1.4eba 2f09.1.1.513f 2f0a.1.1.5165 2f0b.1.1.516b 2f0c.1.1.5182",
  "2f0d.1.1.5196 2f0e.1.1.51ab 2f0f.1.1.51e0 2f10.1.1.51f5 2f11.1.1.5200 2f12.1.1.529b",
  "2f13.1.1.52f9 2f14.1.1.5315 2f15.1.1.531a 2f16.1.1.5338 2f17.1.1.5341 2f18.1.1.535c",
  "2f19.1.1.5369 2f1a.1.1.5382 2f1b.1.1.53b6 2f1c.1.1.53c8 2f1d.1.1.53e3 2f1e.1.1.56d7",
  "2f1f.1.1.571f 2f20.1.1.58eb 2f21.1.1.5902 2f22.1.1.590a 2f23.1.1.5915 2f24.1.1.5927",
  "2f25.1.1.5973 2f26.1.1.5b50 2f27.1.1.5b80 2f28.1.1.5bf8 2f29.1.1.5c0f 2f2a.1.1.5c22",
  "2f2b.1.1.5c38 2f2c.1.1.5c6e 2f2d.1.1.5c71 2f2e.1.1.5ddb 2f2f.1.1.5de5 2f30.1.1.5df1",
  "2f31.1.1.5dfe 2f32.1.1.5e72 2f33.1.1.5e7a 2f34.1.1.5e7f 2f35.1.1.5ef4 2f36.1.1.5efe",
  "2f37.1.1.5f0b 2f38.1.1.5f13 2f39.1.1.5f50 2f3a.1.1.5f61 2f3b.1.1.5f73 2f3c.1.1.5fc3",
  "2f3d.1.1.6208 2f3e.1.1.6236 2f3f.1.1.624b 2f40.1.1.652f 2f41.1.1.6534 2f42.1.1.6587",
  "2f43.1.1.6597 2f44.1.1.65a4 2f45.1.1.65b9 2f46.1.1.65e0 2f47.1.1.65e5 2f48.1.1.66f0",
  "2f49.1.1.6708 2f4a.1.1.6728 2f4b.1.1.6b20 2f4c.1.1.6b62 2f4d.1.1.6b79 2f4e.1.1.6bb3",
  "2f4f.1.1.6bcb 2f50.1.1.6bd4 2f51.1.1.6bdb 2f52.1.1.6c0f 2f53.1.1.6c14 2f54.1.1.6c34",
  "2f55.1.1.706b 2f56.1.1.722a 2f57.1.1.7236 2f58.1.1.723b 2f59.1.1.723f 2f5a.1.1.7247",
  "2f5b.1.1.7259 2f5c.1.1.725b 2f5d.1.1.72ac 2f5e.1.1.7384 2f5f.1.1.7389 2f60.1.1.74dc",
  "2f61.1.1.74e6 2f62.1.1.7518 2f63.1.1.751f 2f64.1.1.7528 2f65.1.1.7530 2f66.1.1.758b",
  "2f67.1.1.7592 2f68.1.1.7676 2f69.1.1.767d 2f6a.1.1.76ae 2f6b.1.1.76bf 2f6c.1.1.76ee",
  "2f6d.1.1.77db 2f6e.1.1.77e2 2f6f.1.1.77f3 2f70.1.1.793a 2f71.1.1.79b8 2f72.1.1.79be",
  "2f73.1.1.7a74 2f74.1.1.7acb 2f75.1.1.7af9 2f76.1.1.7c73 2f77.1.1.7cf8 2f78.1.1.7f36",
  "2f79.1.1.7f51 2f7a.1.1.7f8a 2f7b.1.1.7fbd 2f7c.1.1.8001 2f7d.1.1.800c 2f7e.1.1.8012",
  "2f7f.1.1.8033 2f80.1.1.807f 2f81.1.1.8089 2f82.1.1.81e3 2f83.1.1.81ea 2f84.1.1.81f3",
  "2f85.1.1.81fc 2f86.1.1.820c 2f87.1.1.821b 2f88.1.1.821f 2f89.1.1.826e 2f8a.1.1.8272",
  "2f8b.1.1.8278 2f8c.1.1.864d 2f8d.1.1.866b 2f8e.1.1.8840 2f8f.1.1.884c 2f90.1.1.8863",
  "2f91.1.1.897e 2f92.1.1.898b 2f93.1.1.89d2 2f94.1.1.8a00 2f95.1.1.8c37 2f96.1.1.8c46",
  "2f97.1.1.8c55 2f98.1.1.8c78 2f99.1.1.8c9d 2f9a.1.1.8d64 2f9b.1.1.8d70 2f9c.1.1.8db3",
  "2f9d.1.1.8eab 2f9e.1.1.8eca 2f9f.1.1.8f9b 2fa0.1.1.8fb0 2fa1.1.1.8fb5 2fa2.1.1.9091",
  "2fa3.1.1.9149 2fa4.1.1.91c6 2fa5.1.1.91cc 2fa6.1.1.91d1 2fa7.1.1.9577 2fa8.1.1.9580",
  "2fa9.1.1.961c 2faa.1.1.96b6 2fab.1.1.96b9 2fac.1.1.96e8 2fad.1.1.9751 2fae.1.1.975e",
  "2faf.1.1.9762 2fb0.1.1.9769 2fb1.1.1.97cb 2fb2.1.1.97ed 2fb3.1.1.97f3 2fb4.1.1.9801",
  "2fb5.1.1.98a8 2fb6.1.1.98db 2fb7.1.1.98df 2fb8.1.1.9996 2fb9.1.1.9999 2fba.1.1.99ac",
  "2fbb.1.1.9aa8 2fbc.1.1.9ad8 2fbd.1.1.9adf 2fbe.1.1.9b25 2fbf.1.1.9b2f 2fc0.1.1.9b32",
  "2fc1.1.1.9b3c 2fc2.1.1.9b5a 2fc3.1.1.9ce5 2fc4.1.1.9e75 2fc5.1.1.9e7f 2fc6.1.1.9ea5",
  "2fc7.1.1.9ebb 2fc8.1.1.9ec3 2fc9.1.1.9ecd 2fca.1.1.9ed1 2fcb.1.1.9ef9 2fcc.1.1.9efd",
  "2fcd.1.1.9f0e 2fce.1.1.9f13 2fcf.1.1.9f20 2fd0.1.1.9f3b 2fd1.1.1.9f4a 2fd2.1.1.9f52",
  "2fd3.1.1.9f8d 2fd4.1.1.9f9c 2fd5.1.1.9fa0 3000.1.1.20 3002.1.1.2e 3036.1.1.3012",
  "3038.1.1.5341 3039.2.1.5344 3131.2.1.1100 3133.2.2.11aa 3134.1.1.1102 3136.1.1.11ad",
  "3137.3.1.1103 313a.6.1.11b0 3140.1.1.111a 3141.3.1.1106 3144.1.1.1121 3145.a.1.1109",
  "314f.15.1.1161 3165.2.1.1114 3167.2.1.11c7 3169.1.1.11cc 316a.1.1.11ce 316b.1.1.11d3",
  "316c.1.1.11d7 316d.1.1.11d9 316e.1.1.111c 316f.1.1.11dd 3170.1.1.11df 3171.2.1.111d",
  "3173.1.1.1120 3174.2.1.1122 3176.1.1.1127 3177.1.1.1129 3178.5.1.112b 317d.1.1.1132",
  "317e.1.1.1136 317f.1.1.1140 3180.1.1.1147 3181.1.1.114c 3182.2.1.11f1 3184.3.1.1157",
  "3187.2.1.1184 3189.1.1.1188 318a.2.1.1191 318c.1.1.1194 318d.1.1.119e 318e.1.1.11a1",
  "3192.1.1.4e00 3193.1.1.4e8c 3194.1.1.4e09 3195.1.1.56db 3196.1.1.4e0a 3197.1.1.4e2d",
  "3198.1.1.4e0b 3199.1.1.7532 319a.1.1.4e59 319b.1.1.4e19 319c.1.1.4e01 319d.1.1.5929",
  "319e.1.1.5730 319f.1.1.4eba 3244.1.1.554f 3245.1.1.5e7c 3246.1.1.6587 3247.1.1.7b8f",
  "3260.1.1.1100 3261.2.1.1102 3263.3.1.1105 3266.1.1.1109 3267.2.1.110b 3269.5.1.110e",
  "326e.1.1.ac00 326f.1.1.b098 3270.1.1.b2e4 3271.1.1.b77c 3272.1.1.b9c8 3273.1.1.bc14",
  "3274.1.1.c0ac 3275.1.1.c544 3276.1.1.c790 3277.1.1.cc28 3278.1.1.ce74 3279.1.1.d0c0",
  "327a.1.1.d30c 327b.1.1.d558 327e.1.1.c6b0 3280.1.1.4e00 3281.1.1.4e8c 3282.1.1.4e09",
  "3283.1.1.56db 3284.1.1.4e94 3285.1.1.516d 3286.1.1.4e03 3287.1.1.516b 3288.1.1.4e5d",
  "3289.1.1.5341 328a.1.1.6708 328b.1.1.706b 328c.1.1.6c34 328d.1.1.6728 328e.1.1.91d1",
  "328f.1.1.571f 3290.1.1.65e5 3291.1.1.682a 3292.1.1.6709 3293.1.1.793e 3294.1.1.540d",
  "3295.1.1.7279 3296.1.1.8ca1 3297.1.1.795d 3298.1.1.52b4 3299.1.1.79d8 329a.1.1.7537",
  "329b.1.1.5973 329c.1.1.9069 329d.1.1.512a 329e.1.1.5370 329f.1.1.6ce8 32a0.1.1.9805",
  "32a1.1.1.4f11 32a2.1.1.5199 32a3.1.1.6b63 32a4.1.1.4e0a 32a5.1.1.4e2d 32a6.1.1.4e0b",
  "32a7.1.1.5de6 32a8.1.1.53f3 32a9.1.1.533b 32aa.1.1.5b97 32ab.1.1.5b66 32ac.1.1.76e3",
  "32ad.1.1.4f01 32ae.1.1.8cc7 32af.1.1.5354 32b0.1.1.591c 32d0.1.1.30a2 32d1.1.1.30a4",
  "32d2.1.1.30a6 32d3.1.1.30a8 32d4.2.1.30aa 32d6.1.1.30ad 32d7.1.1.30af 32d8.1.1.30b1",
  "32d9.1.1.30b3 32da.1.1.30b5 32db.1.1.30b7 32dc.1.1.30b9 32dd.1.1.30bb 32de.1.1.30bd",
  "32df.1.1.30bf 32e0.1.1.30c1 32e1.1.1.30c4 32e2.1.1.30c6 32e3.1.1.30c8 32e4.6.1.30ca",
  "32ea.1.1.30d2 32eb.1.1.30d5 32ec.1.1.30d8 32ed.1.1.30db 32ee.5.1.30de 32f3.1.1.30e4",
  "32f4.1.1.30e6 32f5.6.1.30e8 32fb.4.1.30ef a640.17.2.a641 a680.e.2.a681 a69c.1.1.44a",
  "a69d.1.1.44c a722.7.2.a723 a732.1f.2.a733 a770.1.1.a76f a779.2.2.a77a a77d.1.1.1d79",
  "a77e.5.2.a77f a78b.1.1.a78c a78d.1.1.265 a790.2.2.a791 a796.a.2.a797 a7aa.1.1.266",
  "a7ab.1.1.25c a7ac.1.1.261 a7ad.1.1.26c a7ae.1.1.26a a7b0.1.1.29e a7b1.1.1.287 a7b2.1.1.29d",
  "a7b3.1.1.ab53 a7b4.8.2.a7b5 a7c4.1.1.a794 a7c5.1.1.282 a7c6.1.1.1d8e a7c7.2.2.a7c8",
  "a7cb.1.1.264 a7cc.8.2.a7cd a7dc.1.1.19b a7f1.1.1.73 a7f2.1.1.63 a7f3.1.1.66 a7f4.1.1.71",
  "a7f5.1.1.a7f6 a7f8.1.1.127 a7f9.1.1.153 ab5c.1.1.a727 ab5d.1.1.ab37 ab5e.1.1.26b",
  "ab5f.1.1.ab52 ab69.1.1.28d ab70.50.1.13a0 fb20.1.1.5e2 fb21.1.1.5d0 fb22.2.1.5d3",
  "fb24.3.1.5db fb27.1.1.5e8 fb28.1.1.5ea fb29.1.1.2b fb50.2.0.671 fb52.4.0.67b fb56.4.0.67e",
  "fb5a.4.0.680 fb5e.4.0.67a fb62.4.0.67f fb66.4.0.679 fb6a.4.0.6a4 fb6e.4.0.6a6 fb72.4.0.684",
  "fb76.4.0.683 fb7a.4.0.686 fb7e.4.0.687 fb82.2.0.68d fb84.2.2.68c fb85.2.2.68c fb88.2.0.688",
  "fb8a.2.0.698 fb8c.2.0.691 fb8e.4.0.6a9 fb92.4.0.6af fb96.4.0.6b3 fb9a.4.0.6b1 fb9e.2.0.6ba",
  "fba0.4.0.6bb fba4.2.0.6c0 fba6.4.0.6c1 fbaa.4.0.6be fbae.2.0.6d2 fbb0.2.0.6d3 fbd3.4.0.6ad",
  "fbd7.2.0.6c7 fbd9.2.2.6c6 fbda.2.2.6c6 fbde.2.0.6cb fbe0.2.0.6c5 fbe2.2.0.6c9 fbe4.4.0.6d0",
  "fbe8.2.0.649 fbfc.4.0.6cc fe10.1.1.2c fe11.1.1.3001 fe13.2.1.3a fe15.1.1.21 fe16.1.1.3f",
  "fe17.2.1.3016 fe31.1.1.2014 fe32.1.1.2013 fe33.2.0.5f fe35.2.1.28 fe37.1.1.7b fe38.1.1.7d",
  "fe39.2.1.3014 fe3b.2.1.3010 fe3d.2.1.300a fe3f.2.1.3008 fe41.4.1.300c fe47.1.1.5b",
  "fe48.1.1.5d fe4d.3.0.5f fe50.1.1.2c fe51.1.1.3001 fe54.1.1.3b fe55.1.1.3a fe56.1.1.3f",
  "fe57.1.1.21 fe58.1.1.2014 fe59.2.1.28 fe5b.1.1.7b fe5c.1.1.7d fe5d.2.1.3014 fe5f.1.1.23",
  "fe60.1.1.26 fe61.2.1.2a fe63.1.1.2d fe64.1.1.3c fe65.1.1.3e fe66.1.1.3d fe68.1.1.5c",
  "fe69.2.1.24 fe6b.1.1.40 fe80.2.1.621 fe82.2.1.622 fe84.2.1.623 fe86.2.1.624 fe88.2.1.625",
  "fe8a.3.0.626 fe8d.2.0.627 fe8f.4.0.628 fe93.2.0.629 fe95.4.0.62a fe99.4.0.62b fe9d.4.0.62c",
  "fea1.4.0.62d fea5.4.0.62e fea9.2.0.62f feab.2.0.630 fead.2.0.631 feaf.2.0.632 feb1.4.0.633",
  "feb5.4.0.634 feb9.4.0.635 febd.4.0.636 fec1.4.0.637 fec5.4.0.638 fec9.4.0.639 fecd.4.0.63a",
  "fed1.4.0.641 fed5.4.0.642 fed9.4.0.643 fedd.4.0.644 fee1.4.0.645 fee5.4.0.646 fee9.4.0.647",
  "feed.2.0.648 feef.2.0.649 fef1.4.0.64a ff01.20.1.21 ff21.1a.1.61 ff3b.24.1.5b ff5f.2.1.2985",
  "ff61.1.1.2e ff62.2.1.300c ff64.1.1.3001 ff65.1.1.30fb ff66.1.1.30f2 ff67.1.1.30a1",
  "ff68.1.1.30a3 ff69.1.1.30a5 ff6a.1.1.30a7 ff6b.1.1.30a9 ff6c.1.1.30e3 ff6d.1.1.30e5",
  "ff6e.1.1.30e7 ff6f.1.1.30c3 ff70.1.1.30fc ff71.1.1.30a2 ff72.1.1.30a4 ff73.1.1.30a6",
  "ff74.1.1.30a8 ff75.2.1.30aa ff77.1.1.30ad ff78.1.1.30af ff79.1.1.30b1 ff7a.1.1.30b3",
  "ff7b.1.1.30b5 ff7c.1.1.30b7 ff7d.1.1.30b9 ff7e.1.1.30bb ff7f.1.1.30bd ff80.1.1.30bf",
  "ff81.1.1.30c1 ff82.1.1.30c4 ff83.1.1.30c6 ff84.1.1.30c8 ff85.6.1.30ca ff8b.1.1.30d2",
  "ff8c.1.1.30d5 ff8d.1.1.30d8 ff8e.1.1.30db ff8f.5.1.30de ff94.1.1.30e4 ff95.1.1.30e6",
  "ff96.6.1.30e8 ff9c.1.1.30ef ff9d.1.1.30f3 ff9e.2.1.3099 ffa1.2.1.1100 ffa3.2.2.11aa",
  "ffa4.1.1.1102 ffa6.1.1.11ad ffa7.3.1.1103 ffaa.6.1.11b0 ffb0.1.1.111a ffb1.3.1.1106",
  "ffb4.1.1.1121 ffb5.a.1.1109 ffc2.6.1.1161 ffca.6.1.1167 ffd2.6.1.116d ffda.3.1.1173",
  "ffe0.2.1.a2 ffe2.1.1.ac ffe4.1.1.a6 ffe5.1.1.a5 ffe6.1.1.20a9 ffe8.1.1.2502 ffe9.4.1.2190",
  "ffed.1.1.25a0 ffee.1.1.25cb 10400.28.1.10428 104b0.24.1.104d8 10570.13.2.10597",
  "10571.5.2.10598 1057d.7.2.105a4 1058d.3.2.105b4 10595.1.1.105bc 10781.2.1.2d0 10783.1.1.e6",
  "10784.1.1.299 10785.1.1.253 10787.2.2.2a3 10788.1.1.ab66 1078a.1.1.2a4 1078b.2.1.256",
  "1078d.1.1.1d91 1078e.1.1.258 1078f.1.1.25e 10790.1.1.2a9 10791.1.1.264 10792.1.1.262",
  "10793.1.1.260 10794.1.1.29b 10795.1.1.127 10796.1.1.29c 10797.1.1.267 10798.1.1.284",
  "10799.2.1.2aa 1079b.1.1.26c 1079c.1.1.1df04 1079d.1.1.a78e 1079e.1.1.26e 1079f.1.1.1df05",
  "107a0.1.1.28e 107a1.1.1.1df06 107a2.1.1.f8 107a3.2.1.276 107a5.1.1.71 107a6.1.1.27a",
  "107a7.1.1.1df08 107a8.2.1.27d 107aa.1.1.280 107ab.1.1.2a8 107ac.1.1.2a6 107ad.1.1.ab67",
  "107ae.1.1.2a7 107af.1.1.288 107b0.1.1.2c71 107b2.1.1.28f 107b3.2.1.2a1 107b5.1.1.298",
  "107b6.3.1.1c0 107b9.1.1.1df0a 107ba.1.1.1df1e 10c80.33.1.10cc0 10d50.16.1.10d70",
  "118a0.20.1.118c0 16e40.20.1.16e60 16ea0.19.1.16ebb 1ccd6.1a.1.61 1ccf0.a.1.30 1d400.1a.1.61",
  "1d41a.1a.1.61 1d434.1a.1.61 1d44e.d.2.61 1d44f.3.2.62 1d457.9.2.6a 1d468.1a.1.61",
  "1d482.1a.1.61 1d49c.2.2.61 1d49f.1.1.64 1d4a2.1.1.67 1d4a5.2.1.6a 1d4a9.4.1.6e 1d4ae.8.1.73",
  "1d4b6.4.1.61 1d4bb.b.2.66 1d4be.3.2.69 1d4c6.5.2.71 1d4d0.1a.1.61 1d4ea.1a.1.61 1d504.2.1.61",
  "1d507.4.1.64 1d50d.8.1.6a 1d516.7.1.73 1d51e.1a.1.61 1d538.2.1.61 1d53b.4.1.64 1d540.5.1.69",
  "1d546.1.1.6f 1d54a.7.1.73 1d552.1a.1.61 1d56c.1a.1.61 1d586.1a.1.61 1d5a0.1a.1.61",
  "1d5ba.1a.1.61 1d5d4.1a.1.61 1d5ee.1a.1.61 1d608.1a.1.61 1d622.1a.1.61 1d63c.1a.1.61",
  "1d656.1a.1.61 1d670.1a.1.61 1d68a.1a.1.61 1d6a4.1.1.131 1d6a5.1.1.237 1d6a8.11.1.3b1",
  "1d6b9.1.1.3b8 1d6ba.7.1.3c3 1d6c1.1.1.2207 1d6c2.11.1.3b1 1d6d3.2.0.3c3 1d6d5.6.1.3c4",
  "1d6db.1.1.2202 1d6dc.1.1.3b5 1d6dd.1.1.3b8 1d6de.1.1.3ba 1d6df.1.1.3c6 1d6e0.1.1.3c1",
  "1d6e1.1.1.3c0 1d6e2.11.1.3b1 1d6f3.1.1.3b8 1d6f4.7.1.3c3 1d6fb.1.1.2207 1d6fc.11.1.3b1",
  "1d70d.2.0.3c3 1d70f.6.1.3c4 1d715.1.1.2202 1d716.1.1.3b5 1d717.1.1.3b8 1d718.1.1.3ba",
  "1d719.1.1.3c6 1d71a.1.1.3c1 1d71b.1.1.3c0 1d71c.11.1.3b1 1d72d.1.1.3b8 1d72e.7.1.3c3",
  "1d735.1.1.2207 1d736.11.1.3b1 1d747.2.0.3c3 1d749.6.1.3c4 1d74f.1.1.2202 1d750.1.1.3b5",
  "1d751.1.1.3b8 1d752.1.1.3ba 1d753.1.1.3c6 1d754.1.1.3c1 1d755.1.1.3c0 1d756.11.1.3b1",
  "1d767.1.1.3b8 1d768.7.1.3c3 1d76f.1.1.2207 1d770.11.1.3b1 1d781.2.0.3c3 1d783.6.1.3c4",
  "1d789.1.1.2202 1d78a.1.1.3b5 1d78b.1.1.3b8 1d78c.1.1.3ba 1d78d.1.1.3c6 1d78e.1.1.3c1",
  "1d78f.1.1.3c0 1d790.11.1.3b1 1d7a1.1.1.3b8 1d7a2.7.1.3c3 1d7a9.1.1.2207 1d7aa.11.1.3b1",
  "1d7bb.2.0.3c3 1d7bd.6.1.3c4 1d7c3.1.1.2202 1d7c4.1.1.3b5 1d7c5.1.1.3b8 1d7c6.1.1.3ba",
  "1d7c7.1.1.3c6 1d7c8.1.1.3c1 1d7c9.1.1.3c0 1d7ca.2.0.3dd 1d7ce.a.1.30 1d7d8.a.1.30",
  "1d7e2.a.1.30 1d7ec.a.1.30 1d7f6.a.1.30 1e030.9.1.430 1e039.3.1.43a 1e03c.b.1.43e",
  "1e047.1.1.44b 1e048.2.1.44d 1e04a.1.1.a689 1e04b.1.1.4d9 1e04c.1.1.456 1e04d.1.1.458",
  "1e04e.1.1.4e9 1e04f.1.1.4af 1e050.1.1.4cf 1e051.9.1.430 1e05a.2.1.43a 1e05c.2.1.43e",
  "1e05e.1.1.441 1e05f.6.1.443 1e065.2.1.44a 1e067.1.1.491 1e068.1.1.456 1e069.1.1.455",
  "1e06a.1.1.45f 1e06b.1.1.4ab 1e06c.1.1.a651 1e06d.1.1.4b1 1e900.22.1.1e922 1ee00.2.1.627",
  "1ee02.1.1.62c 1ee03.1.1.62f 1ee05.1.1.648 1ee06.1.1.632 1ee07.1.1.62d 1ee08.1.1.637",
  "1ee09.1.1.64a 1ee0a.4.1.643 1ee0e.1.1.633 1ee0f.1.1.639 1ee10.1.1.641 1ee11.1.1.635",
  "1ee12.1.1.642 1ee13.1.1.631 1ee14.1.1.634 1ee15.2.1.62a 1ee17.1.1.62e 1ee18.1.1.630",
  "1ee19.1.1.636 1ee1a.1.1.638 1ee1b.1.1.63a 1ee1c.1.1.66e 1ee1d.1.1.6ba 1ee1e.1.1.6a1",
  "1ee1f.1.1.66f 1ee21.1.1.628 1ee22.1.1.62c 1ee24.1.1.647 1ee27.1.1.62d 1ee29.1.1.64a",
  "1ee2a.4.1.643 1ee2e.1.1.633 1ee2f.1.1.639 1ee30.1.1.641 1ee31.1.1.635 1ee32.1.1.642",
  "1ee34.1.1.634 1ee35.2.1.62a 1ee37.1.1.62e 1ee39.1.1.636 1ee3b.1.1.63a 1ee42.1.1.62c",
  "1ee47.1.1.62d 1ee49.1.1.64a 1ee4b.2.2.644 1ee4e.1.1.633 1ee4f.1.1.639 1ee51.1.1.635",
  "1ee52.1.1.642 1ee54.1.1.634 1ee57.1.1.62e 1ee59.1.1.636 1ee5b.1.1.63a 1ee5d.1.1.6ba",
  "1ee5f.1.1.66f 1ee61.1.1.628 1ee62.1.1.62c 1ee64.1.1.647 1ee67.1.1.62d 1ee68.1.1.637",
  "1ee69.1.1.64a 1ee6a.2.2.643 1ee6d.1.1.646 1ee6e.1.1.633 1ee6f.1.1.639 1ee70.1.1.641",
  "1ee71.1.1.635 1ee72.1.1.642 1ee74.1.1.634 1ee75.2.1.62a 1ee77.1.1.62e 1ee79.1.1.636",
  "1ee7a.1.1.638 1ee7b.1.1.63a 1ee7c.1.1.66e 1ee7e.1.1.6a1 1ee80.2.1.627 1ee82.1.1.62c",
  "1ee83.1.1.62f 1ee84.2.1.647 1ee86.1.1.632 1ee87.1.1.62d 1ee88.1.1.637 1ee89.1.1.64a",
  "1ee8b.3.1.644 1ee8e.1.1.633 1ee8f.1.1.639 1ee90.1.1.641 1ee91.1.1.635 1ee92.1.1.642",
  "1ee93.1.1.631 1ee94.1.1.634 1ee95.2.1.62a 1ee97.1.1.62e 1ee98.1.1.630 1ee99.1.1.636",
  "1ee9a.1.1.638 1ee9b.1.1.63a 1eea1.1.1.628 1eea2.1.1.62c 1eea3.1.1.62f 1eea5.1.1.648",
  "1eea6.1.1.632 1eea7.1.1.62d 1eea8.1.1.637 1eea9.1.1.64a 1eeab.3.1.644 1eeae.1.1.633",
  "1eeaf.1.1.639 1eeb0.1.1.641 1eeb1.1.1.635 1eeb2.1.1.642 1eeb3.1.1.631 1eeb4.1.1.634",
  "1eeb5.2.1.62a 1eeb7.1.1.62e 1eeb8.1.1.630 1eeb9.1.1.636 1eeba.1.1.638 1eebb.1.1.63a",
  "1f12b.1.1.63 1f12c.1.1.72 1f130.1a.1.61 1f202.1.1.30b5 1f210.1.1.624b 1f211.1.1.5b57",
  "1f212.1.1.53cc 1f213.1.1.30c7 1f214.1.1.4e8c 1f215.1.1.591a 1f216.1.1.89e3 1f217.1.1.5929",
  "1f218.1.1.4ea4 1f219.1.1.6620 1f21a.1.1.7121 1f21b.1.1.6599 1f21c.1.1.524d 1f21d.1.1.5f8c",
  "1f21e.1.1.518d 1f21f.1.1.65b0 1f220.1.1.521d 1f221.1.1.7d42 1f222.1.1.751f 1f223.1.1.8ca9",
  "1f224.1.1.58f0 1f225.1.1.5439 1f226.1.1.6f14 1f227.1.1.6295 1f228.1.1.6355 1f229.1.1.4e00",
  "1f22a.1.1.4e09 1f22b.1.1.904a 1f22c.1.1.5de6 1f22d.1.1.4e2d 1f22e.1.1.53f3 1f22f.1.1.6307",
  "1f230.1.1.8d70 1f231.1.1.6253 1f232.1.1.7981 1f233.1.1.7a7a 1f234.1.1.5408 1f235.1.1.6e80",
  "1f236.1.1.6709 1f237.1.1.6708 1f238.1.1.7533 1f239.1.1.5272 1f23a.1.1.55b6 1f23b.1.1.914d",
  "1f250.1.1.5f97 1f251.1.1.53ef 1fbf0.a.1.30"]

/-- Characters with an image of several characters. -/
def listLines : List String := [
  "a8.20.308 af.20.304 b4.20.301 b8.20.327 bc.31.2044.34 bd.31.2044.32 be.33.2044.34 130.69.307",
  "132.69.6a 133.69.6a 13f.6c.b7 140.6c.b7 149.2bc.6e 1c4.64.17e 1c5.64.17e 1c6.64.17e",
  "1c7.6c.6a 1c8.6c.6a 1c9.6c.6a 1ca.6e.6a 1cb.6e.6a 1cc.6e.6a 1f1.64.7a 1f2.64.7a 1f3.64.7a",
  "2d8.20.306 2d9.20.307 2da.20.30a 2db.20.328 2dc.20.303 2dd.20.30b 37a.20.3b9 384.20.301",
  "385.20.308.301 587.565.582 675.627.674 676.648.674 677.6c7.674 678.64a.674 e33.e4d.e32",
  "eb3.ecd.eb2 edc.eab.e99 edd.eab.ea1 f77.fb2.f71.f80 f79.fb3.f71.f80 1e9a.61.2be",
  "1f80.1f00.3b9 1f81.1f01.3b9 1f82.1f02.3b9 1f83.1f03.3b9 1f84.1f04.3b9 1f85.1f05.3b9",
  "1f86.1f06.3b9 1f87.1f07.3b9 1f88.1f00.3b9 1f89.1f01.3b9 1f8a.1f02.3b9 1f8b.1f03.3b9",
  "1f8c.1f04.3b9 1f8d.1f05.3b9 1f8e.1f06.3b9 1f8f.1f07.3b9 1f90.1f20.3b9 1f91.1f21.3b9",
  "1f92.1f22.3b9 1f93.1f23.3b9 1f94.1f24.3b9 1f95.1f25.3b9 1f96.1f26.3b9 1f97.1f27.3b9",
  "1f98.1f20.3b9 1f99.1f21.3b9 1f9a.1f22.3b9 1f9b.1f23.3b9 1f9c.1f24.3b9 1f9d.1f25.3b9",
  "1f9e.1f26.3b9 1f9f.1f27.3b9 1fa0.1f60.3b9 1fa1.1f61.3b9 1fa2.1f62.3b9 1fa3.1f63.3b9",
  "1fa4.1f64.3b9 1fa5.1f65.3b9 1fa6.1f66.3b9 1fa7.1f67.3b9 1fa8.1f60.3b9 1fa9.1f61.3b9",
  "1faa.1f62.3b9 1fab.1f63.3b9 1fac.1f64.3b9 1fad.1f65.3b9 1fae.1f66.3b9 1faf.1f67.3b9",
  "1fb2.1f70.3b9 1fb3.3b1.3b9 1fb4.3ac.3b9 1fb7.1fb6.3b9 1fbc.3b1.3b9 1fbd.20.313 1fbf.20.313",
  "1fc0.20.342 1fc1.20.308.342 1fc2.1f74.3b9 1fc3.3b7.3b9 1fc4.3ae.3b9 1fc7.1fc6.3b9",
  "1fcc.3b7.3b9 1fcd.20.313.300 1fce.20.313.301 1fcf.20.313.342 1fdd.20.314.300 1fde.20.314.301",
  "1fdf.20.314.342 1fed.20.308.300 1fee.20.308.301 1ff2.1f7c.3b9 1ff3.3c9.3b9 1ff4.3ce.3b9",
  "1ff7.1ff6.3b9 1ffc.3c9.3b9 1ffd.20.301 1ffe.20.314 2017.20.333 2033.2032.2032",
  "2034.2032.2032.2032 2036.2035.2035 2037.2035.2035.2035 203c.21.21 203e.20.305 2047.3f.3f",
  "2048.3f.21 2049.21.3f 2057.2032.2032.2032.2032 20a8.72.73 2100.61.2f.63 2101.61.2f.73",
  "2103.b0.63 2105.63.2f.6f 2106.63.2f.75 2109.b0.66 2116.6e.6f 2120.73.6d 2121.74.65.6c",
  "2122.74.6d 213b.66.61.78 2150.31.2044.37 2151.31.2044.39 2152.31.2044.31.30 2153.31.2044.33",
  "2154.32.2044.33 2155.31.2044.35 2156.32.2044.35 2157.33.2044.35 2158.34.2044.35",
  "2159.31.2044.36 215a.35.2044.36 215b.31.2044.38 215c.33.2044.38 215d.35.2044.38",
  "215e.37.2044.38 215f.31.2044 2161.69.69 2162.69.69.69 2163.69.76 2165.76.69 2166.76.69.69",
  "2167.76.69.69.69 2168.69.78 216a.78.69 216b.78.69.69 2171.69.69 2172.69.69.69 2173.69.76",
  "2175.76.69 2176.76.69.69 2177.76.69.69.69 2178.69.78 217a.78.69 217b.78.69.69",
  "2189.30.2044.33 222c.222b.222b 222d.222b.222b.222b 222f.222e.222e 2230.222e.222e.222e",
  "2469.31.30 246a.31.31 246b.31.32 246c.31.33 246d.31.34 246e.31.35 246f.31.36 2470.31.37",
  "2471.31.38 2472.31.39 2473.32.30 2474.28.31.29 2475.28.32.29 2476.28.33.29 2477.28.34.29",
  "2478.28.35.29 2479.28.36.29 247a.28.37.29 247b.28.38.29 247c.28.39.29 247d.28.31.30.29",
  "247e.28.31.31.29 247f.28.31.32.29 2480.28.31.33.29 2481.28.31.34.29 2482.28.31.35.29",
  "2483.28.31.36.29 2484.28.31.37.29 2485.28.31.38.29 2486.28.31.39.29 2487.28.32.30.29",
  "249c.28.61.29 249d.28.62.29 249e.28.63.29 249f.28.64.29 24a0.28.65.29 24a1.28.66.29",
  "24a2.28.67.29 24a3.28.68.29 24a4.28.69.29 24a5.28.6a.29 24a6.28.6b.29 24a7.28.6c.29",
  "24a8.28.6d.29 24a9.28.6e.29 24aa.28.6f.29 24ab.28.70.29 24ac.28.71.29 24ad.28.72.29",
  "24ae.28.73.29 24af.28.74.29 24b0.28.75.29 24b1.28.76.29 24b2.28.77.29 24b3.28.78.29",
  "24b4.28.79.29 24b5.28.7a.29 2a0c.222b.222b.222b.222b 2a74.3a.3a.3d 2a75.3d.3d 2a76.3d.3d.3d",
  "309b.20.3099 309c.20.309a 309f.3088.308a 30ff.30b3.30c8 3200.28.1100.29 3201.28.1102.29",
  "3202.28.1103.29 3203.28.1105.29 3204.28.1106.29 3205.28.1107.29 3206.28.1109.29",
  "3207.28.110b.29 3208.28.110c.29 3209.28.110e.29 320a.28.110f.29 320b.28.1110.29",
  "320c.28.1111.29 320d.28.1112.29 320e.28.ac00.29 320f.28.b098.29 3210.28.b2e4.29",
  "3211.28.b77c.29 3212.28.b9c8.29 3213.28.bc14.29 3214.28.c0ac.29 3215.28.c544.29",
  "3216.28.c790.29 3217.28.cc28.29 3218.28.ce74.29 3219.28.d0c0.29 321a.28.d30c.29",
  "321b.28.d558.29 321c.28.c8fc.29 321d.28.c624.c804.29 321e.28.c624.d6c4.29 3220.28.4e00.29",
  "3221.28.4e8c.29 3222.28.4e09.29 3223.28.56db.29 3224.28.4e94.29 3225.28.516d.29",
  "3226.28.4e03.29 3227.28.516b.29 3228.28.4e5d.29 3229.28.5341.29 322a.28.6708.29",
  "322b.28.706b.29 322c.28.6c34.29 322d.28.6728.29 322e.28.91d1.29 322f.28.571f.29",
  "3230.28.65e5.29 3231.28.682a.29 3232.28.6709.29 3233.28.793e.29 3234.28.540d.29",
  "3235.28.7279.29 3236.28.8ca1.29 3237.28.795d.29 3238.28.52b4.29 3239.28.4ee3.29",
  "323a.28.547c.29 323b.28.5b66.29 323c.28.76e3.29 323d.28.4f01.29 323e.28.8cc7.29",
  "323f.28.5354.29 3240.28.796d.29 3241.28.4f11.29 3242.28.81ea.29 3243.28.81f3.29",
  "3250.70.74.65 3251.32.31 3252.32.32 3253.32.33 3254.32.34 3255.32.35 3256.32.36 3257.32.37",
  "3258.32.38 3259.32.39 325a.33.30 325b.33.31 325c.33.32 325d.33.33 325e.33.34 325f.33.35",
  "327c.cc38.ace0 327d.c8fc.c758 32b1.33.36 32b2.33.37 32b3.33.38 32b4.33.39 32b5.34.30",
  "32b6.34.31 32b7.34.32 32b8.34.33 32b9.34.34 32ba.34.35 32bb.34.36 32bc.34.37 32bd.34.38",
  "32be.34.39 32bf.35.30 32c0.31.6708 32c1.32.6708 32c2.33.6708 32c3.34.6708 32c4.35.6708",
  "32c5.36.6708 32c6.37.6708 32c7.38.6708 32c8.39.6708 32c9.31.30.6708 32ca.31.31.6708",
  "32cb.31.32.6708 32cc.68.67 32cd.65.72.67 32ce.65.76 32cf.6c.74.64 32ff.4ee4.548c",
  "3300.30a2.30d1.30fc.30c8 3301.30a2.30eb.30d5.30a1 3302.30a2.30f3.30da.30a2",
  "3303.30a2.30fc.30eb 3304.30a4.30cb.30f3.30b0 3305.30a4.30f3.30c1 3306.30a6.30a9.30f3",
  "3307.30a8.30b9.30af.30fc.30c9 3308.30a8.30fc.30ab.30fc 3309.30aa.30f3.30b9",
  "330a.30aa.30fc.30e0 330b.30ab.30a4.30ea 330c.30ab.30e9.30c3.30c8 330d.30ab.30ed.30ea.30fc",
  "330e.30ac.30ed.30f3 330f.30ac.30f3.30de 3310.30ae.30ac 3311.30ae.30cb.30fc",
  "3312.30ad.30e5.30ea.30fc 3313.30ae.30eb.30c0.30fc 3314.30ad.30ed",
  "3315.30ad.30ed.30b0.30e9.30e0 3316.30ad.30ed.30e1.30fc.30c8.30eb",
  "3317.30ad.30ed.30ef.30c3.30c8 3318.30b0.30e9.30e0 3319.30b0.30e9.30e0.30c8.30f3",
  "331a.30af.30eb.30bc.30a4.30ed 331b.30af.30ed.30fc.30cd 331c.30b1.30fc.30b9",
  "331d.30b3.30eb.30ca 331e.30b3.30fc.30dd 331f.30b5.30a4.30af.30eb",
  "3320.30b5.30f3.30c1.30fc.30e0 3321.30b7.30ea.30f3.30b0 3322.30bb.30f3.30c1",
  "3323.30bb.30f3.30c8 3324.30c0.30fc.30b9 3325.30c7.30b7 3326.30c9.30eb 3327.30c8.30f3",
  "3328.30ca.30ce 3329.30ce.30c3.30c8 332a.30cf.30a4.30c4 332b.30d1.30fc.30bb.30f3.30c8",
  "332c.30d1.30fc.30c4 332d.30d0.30fc.30ec.30eb 332e.30d4.30a2.30b9.30c8.30eb",
  "332f.30d4.30af.30eb 3330.30d4.30b3 3331.30d3.30eb 3332.30d5.30a1.30e9.30c3.30c9",
  "3333.30d5.30a3.30fc.30c8 3334.30d6.30c3.30b7.30a7.30eb 3335.30d5.30e9.30f3",
  "3336.30d8.30af.30bf.30fc.30eb 3337.30da.30bd 3338.30da.30cb.30d2 3339.30d8.30eb.30c4",
  "333a.30da.30f3.30b9 333b.30da.30fc.30b8 333c.30d9.30fc.30bf 333d.30dd.30a4.30f3.30c8",
  "333e.30dc.30eb.30c8 333f.30db.30f3 3340.30dd.30f3.30c9 3341.30db.30fc.30eb",
  "3342.30db.30fc.30f3 3343.30de.30a4.30af.30ed 3344.30de.30a4.30eb 3345.30de.30c3.30cf",
  "3346.30de.30eb.30af 3347.30de.30f3.30b7.30e7.30f3 3348.30df.30af.30ed.30f3 3349.30df.30ea",
  "334a.30df.30ea.30d0.30fc.30eb 334b.30e1.30ac 334c.30e1.30ac.30c8.30f3",
  "334d.30e1.30fc.30c8.30eb 334e.30e4.30fc.30c9 334f.30e4.30fc.30eb 3350.30e6.30a2.30f3",
  "3351.30ea.30c3.30c8.30eb 3352.30ea.30e9 3353.30eb.30d4.30fc 3354.30eb.30fc.30d6.30eb",
  "3355.30ec.30e0 3356.30ec.30f3.30c8.30b2.30f3 3357.30ef.30c3.30c8 3358.30.70b9 3359.31.70b9",
  "335a.32.70b9 335b.33.70b9 335c.34.70b9 335d.35.70b9 335e.36.70b9 335f.37.70b9 3360.38.70b9",
  "3361.39.70b9 3362.31.30.70b9 3363.31.31.70b9 3364.31.32.70b9 3365.31.33.70b9 3366.31.34.70b9",
  "3367.31.35.70b9 3368.31.36.70b9 3369.31.37.70b9 336a.31.38.70b9 336b.31.39.70b9",
  "336c.32.30.70b9 336d.32.31.70b9 336e.32.32.70b9 336f.32.33.70b9 3370.32.34.70b9",
  "3371.68.70.61 3372.64.61 3373.61.75 3374.62.61.72 3375.6f.76 3376.70.63 3377.64.6d",
  "3378.64.6d.32 3379.64.6d.33 337a.69.75 337b.5e73.6210 337c.662d.548c 337d.5927.6b63",
  "337e.660e.6cbb 337f.682a.5f0f.4f1a.793e 3380.70.61 3381.6e.61 3382.3bc.61 3383.6d.61",
  "3384.6b.61 3385.6b.62 3386.6d.62 3387.67.62 3388.63.61.6c 3389.6b.63.61.6c 338a.70.66",
  "338b.6e.66 338c.3bc.66 338d.3bc.67 338e.6d.67 338f.6b.67 3390.68.7a 3391.6b.68.7a",
  "3392.6d.68.7a 3393.67.68.7a 3394.74.68.7a 3395.3bc.6c 3396.6d.6c 3397.64.6c 3398.6b.6c",
  "3399.66.6d 339a.6e.6d 339b.3bc.6d 339c.6d.6d 339d.63.6d 339e.6b.6d 339f.6d.6d.32",
  "33a0.63.6d.32 33a1.6d.32 33a2.6b.6d.32 33a3.6d.6d.33 33a4.63.6d.33 33a5.6d.33 33a6.6b.6d.33",
  "33a7.6d.2215.73 33a8.6d.2215.73.32 33a9.70.61 33aa.6b.70.61 33ab.6d.70.61 33ac.67.70.61",
  "33ad.72.61.64 33ae.72.61.64.2215.73 33af.72.61.64.2215.73.32 33b0.70.73 33b1.6e.73",
  "33b2.3bc.73 33b3.6d.73 33b4.70.76 33b5.6e.76 33b6.3bc.76 33b7.6d.76 33b8.6b.76 33b9.6d.76",
  "33ba.70.77 33bb.6e.77 33bc.3bc.77 33bd.6d.77 33be.6b.77 33bf.6d.77 33c0.6b.3c9 33c1.6d.3c9",
  "33c3.62.71 33c4.63.63 33c5.63.64 33c6.63.2215.6b.67 33c8.64.62 33c9.67.79 33ca.68.61",
  "33cb.68.70 33cc.69.6e 33cd.6b.6b 33ce.6b.6d 33cf.6b.74 33d0.6c.6d 33d1.6c.6e 33d2.6c.6f.67",
  "33d3.6c.78 33d4.6d.62 33d5.6d.69.6c 33d6.6d.6f.6c 33d7.70.68 33d9.70.70.6d 33da.70.72",
  "33db.73.72 33dc.73.76 33dd.77.62 33de.76.2215.6d 33df.61.2215.6d 33e0.31.65e5 33e1.32.65e5",
  "33e2.33.65e5 33e3.34.65e5 33e4.35.65e5 33e5.36.65e5 33e6.37.65e5 33e7.38.65e5 33e8.39.65e5",
  "33e9.31.30.65e5 33ea.31.31.65e5 33eb.31.32.65e5 33ec.31.33.65e5 33ed.31.34.65e5",
  "33ee.31.35.65e5 33ef.31.36.65e5 33f0.31.37.65e5 33f1.31.38.65e5 33f2.31.39.65e5",
  "33f3.32.30.65e5 33f4.32.31.65e5 33f5.32.32.65e5 33f6.32.33.65e5 33f7.32.34.65e5",
  "33f8.32.35.65e5 33f9.32.36.65e5 33fa.32.37.65e5 33fb.32.38.65e5 33fc.32.39.65e5",
  "33fd.33.30.65e5 33fe.33.31.65e5 33ff.67.61.6c fb00.66.66 fb01.66.69 fb02.66.6c fb03.66.66.69",
  "fb04.66.66.6c fb05.73.74 fb06.73.74 fb13.574.576 fb14.574.565 fb15.574.56b fb16.57e.576",
  "fb17.574.56d fb4f.5d0.5dc fbdd.6c7.674 fbea.626.627 fbeb.626.627 fbec.626.6d5 fbed.626.6d5",
  "fbee.626.648 fbef.626.648 fbf0.626.6c7 fbf1.626.6c7 fbf2.626.6c6 fbf3.626.6c6 fbf4.626.6c8",
  "fbf5.626.6c8 fbf6.626.6d0 fbf7.626.6d0 fbf8.626.6d0 fbf9.626.649 fbfa.626.649 fbfb.626.649",
  "fc00.626.62c fc01.626.62d fc02.626.645 fc03.626.649 fc04.626.64a fc05.628.62c fc06.628.62d",
  "fc07.628.62e fc08.628.645 fc09.628.649 fc0a.628.64a fc0b.62a.62c fc0c.62a.62d fc0d.62a.62e",
  "fc0e.62a.645 fc0f.62a.649 fc10.62a.64a fc11.62b.62c fc12.62b.645 fc13.62b.649 fc14.62b.64a",
  "fc15.62c.62d fc16.62c.645 fc17.62d.62c fc18.62d.645 fc19.62e.62c fc1a.62e.62d fc1b.62e.645",
  "fc1c.633.62c fc1d.633.62d fc1e.633.62e fc1f.633.645 fc20.635.62d fc21.635.645 fc22.636.62c",
  "fc23.636.62d fc24.636.62e fc25.636.645 fc26.637.62d fc27.637.645 fc28.638.645 fc29.639.62c",
  "fc2a.639.645 fc2b.63a.62c fc2c.63a.645 fc2d.641.62c fc2e.641.62d fc2f.641.62e fc30.641.645",
  "fc31.641.649 fc32.641.64a fc33.642.62d fc34.642.645 fc35.642.649 fc36.642.64a fc37.643.627",
  "fc38.643.62c fc39.643.62d fc3a.643.62e fc3b.643.644 fc3c.643.645 fc3d.643.649 fc3e.643.64a",
  "fc3f.644.62c fc40.644.62d fc41.644.62e fc42.644.645 fc43.644.649 fc44.644.64a fc45.645.62c",
  "fc46.645.62d fc47.645.62e fc48.645.645 fc49.645.649 fc4a.645.64a fc4b.646.62c fc4c.646.62d",
  "fc4d.646.62e fc4e.646.645 fc4f.646.649 fc50.646.64a fc51.647.62c fc52.647.645 fc53.647.649",
  "fc54.647.64a fc55.64a.62c fc56.64a.62d fc57.64a.62e fc58.64a.645 fc59.64a.649 fc5a.64a.64a",
  "fc5b.630.670 fc5c.631.670 fc5d.649.670 fc5e.20.64c.651 fc5f.20.64d.651 fc60.20.64e.651",
  "fc61.20.64f.651 fc62.20.650.651 fc63.20.651.670 fc64.626.631 fc65.626.632 fc66.626.645",
  "fc67.626.646 fc68.626.649 fc69.626.64a fc6a.628.631 fc6b.628.632 fc6c.628.645 fc6d.628.646",
  "fc6e.628.649 fc6f.628.64a fc70.62a.631 fc71.62a.632 fc72.62a.645 fc73.62a.646 fc74.62a.649",
  "fc75.62a.64a fc76.62b.631 fc77.62b.632 fc78.62b.645 fc79.62b.646 fc7a.62b.649 fc7b.62b.64a",
  "fc7c.641.649 fc7d.641.64a fc7e.642.649 fc7f.642.64a fc80.643.627 fc81.643.644 fc82.643.645",
  "fc83.643.649 fc84.643.64a fc85.644.645 fc86.644.649 fc87.644.64a fc88.645.627 fc89.645.645",
  "fc8a.646.631 fc8b.646.632 fc8c.646.645 fc8d.646.646 fc8e.646.649 fc8f.646.64a fc90.649.670",
  "fc91.64a.631 fc92.64a.632 fc93.64a.645 fc94.64a.646 fc95.64a.649 fc96.64a.64a fc97.626.62c",
  "fc98.626.62d fc99.626.62e fc9a.626.645 fc9b.626.647 fc9c.628.62c fc9d.628.62d fc9e.628.62e",
  "fc9f.628.645 fca0.628.647 fca1.62a.62c fca2.62a.62d fca3.62a.62e fca4.62a.645 fca5.62a.647",
  "fca6.62b.645 fca7.62c.62d fca8.62c.645 fca9.62d.62c fcaa.62d.645 fcab.62e.62c fcac.62e.645",
  "fcad.633.62c fcae.633.62d fcaf.633.62e fcb0.633.645 fcb1.635.62d fcb2.635.62e fcb3.635.645",
  "fcb4.636.62c fcb5.636.62d fcb6.636.62e fcb7.636.645 fcb8.637.62d fcb9.638.645 fcba.639.62c",
  "fcbb.639.645 fcbc.63a.62c fcbd.63a.645 fcbe.641.62c fcbf.641.62d fcc0.641.62e fcc1.641.645",
  "fcc2.642.62d fcc3.642.645 fcc4.643.62c fcc5.643.62d fcc6.643.62e fcc7.643.644 fcc8.643.645",
  "fcc9.644.62c fcca.644.62d fccb.644.62e fccc.644.645 fccd.644.647 fcce.645.62c fccf.645.62d",
  "fcd0.645.62e fcd1.645.645 fcd2.646.62c fcd3.646.62d fcd4.646.62e fcd5.646.645 fcd6.646.647",
  "fcd7.647.62c fcd8.647.645 fcd9.647.670 fcda.64a.62c fcdb.64a.62d fcdc.64a.62e fcdd.64a.645",
  "fcde.64a.647 fcdf.626.645 fce0.626.647 fce1.628.645 fce2.628.647 fce3.62a.645 fce4.62a.647",
  "fce5.62b.645 fce6.62b.647 fce7.633.645 fce8.633.647 fce9.634.645 fcea.634.647 fceb.643.644",
  "fcec.643.645 fced.644.645 fcee.646.645 fcef.646.647 fcf0.64a.645 fcf1.64a.647",
  "fcf2.640.64e.651 fcf3.640.64f.651 fcf4.640.650.651 fcf5.637.649 fcf6.637.64a fcf7.639.649",
  "fcf8.639.64a fcf9.63a.649 fcfa.63a.64a fcfb.633.649 fcfc.633.64a fcfd.634.649 fcfe.634.64a",
  "fcff.62d.649 fd00.62d.64a fd01.62c.649 fd02.62c.64a fd03.62e.649 fd04.62e.64a fd05.635.649",
  "fd06.635.64a fd07.636.649 fd08.636.64a fd09.634.62c fd0a.634.62d fd0b.634.62e fd0c.634.645",
  "fd0d.634.631 fd0e.633.631 fd0f.635.631 fd10.636.631 fd11.637.649 fd12.637.64a fd13.639.649",
  "fd14.639.64a fd15.63a.649 fd16.63a.64a fd17.633.649 fd18.633.64a fd19.634.649 fd1a.634.64a",
  "fd1b.62d.649 fd1c.62d.64a fd1d.62c.649 fd1e.62c.64a fd1f.62e.649 fd20.62e.64a fd21.635.649",
  "fd22.635.64a fd23.636.649 fd24.636.64a fd25.634.62c fd26.634.62d fd27.634.62e fd28.634.645",
  "fd29.634.631 fd2a.633.631 fd2b.635.631 fd2c.636.631 fd2d.634.62c fd2e.634.62d fd2f.634.62e",
  "fd30.634.645 fd31.633.647 fd32.634.647 fd33.637.645 fd34.633.62c fd35.633.62d fd36.633.62e",
  "fd37.634.62c fd38.634.62d fd39.634.62e fd3a.637.645 fd3b.638.645 fd3c.627.64b fd3d.627.64b",
  "fd50.62a.62c.645 fd51.62a.62d.62c fd52.62a.62d.62c fd53.62a.62d.645 fd54.62a.62e.645",
  "fd55.62a.645.62c fd56.62a.645.62d fd57.62a.645.62e fd58.62c.645.62d fd59.62c.645.62d",
  "fd5a.62d.645.64a fd5b.62d.645.649 fd5c.633.62d.62c fd5d.633.62c.62d fd5e.633.62c.649",
  "fd5f.633.645.62d fd60.633.645.62d fd61.633.645.62c fd62.633.645.645 fd63.633.645.645",
  "fd64.635.62d.62d fd65.635.62d.62d fd66.635.645.645 fd67.634.62d.645 fd68.634.62d.645",
  "fd69.634.62c.64a fd6a.634.645.62e fd6b.634.645.62e fd6c.634.645.645 fd6d.634.645.645",
  "fd6e.636.62d.649 fd6f.636.62e.645 fd70.636.62e.645 fd71.637.645.62d fd72.637.645.62d",
  "fd73.637.645.645 fd74.637.645.64a fd75.639.62c.645 fd76.639.645.645 fd77.639.645.645",
  "fd78.639.645.649 fd79.63a.645.645 fd7a.63a.645.64a fd7b.63a.645.649 fd7c.641.62e.645",
  "fd7d.641.62e.645 fd7e.642.645.62d fd7f.642.645.645 fd80.644.62d.645 fd81.644.62d.64a",
  "fd82.644.62d.649 fd83.644.62c.62c fd84.644.62c.62c fd85.644.62e.645 fd86.644.62e.645",
  "fd87.644.645.62d fd88.644.645.62d fd89.645.62d.62c fd8a.645.62d.645 fd8b.645.62d.64a",
  "fd8c.645.62c.62d fd8d.645.62c.645 fd8e.645.62e.62c fd8f.645.62e.645 fd92.645.62c.62e",
  "fd93.647.645.62c fd94.647.645.645 fd95.646.62d.645 fd96.646.62d.649 fd97.646.62c.645",
  "fd98.646.62c.645 fd99.646.62c.649 fd9a.646.645.64a fd9b.646.645.649 fd9c.64a.645.645",
  "fd9d.64a.645.645 fd9e.628.62e.64a fd9f.62a.62c.64a fda0.62a.62c.649 fda1.62a.62e.64a",
  "fda2.62a.62e.649 fda3.62a.645.64a fda4.62a.645.649 fda5.62c.645.64a fda6.62c.62d.649",
  "fda7.62c.645.649 fda8.633.62e.649 fda9.635.62d.64a fdaa.634.62d.64a fdab.636.62d.64a",
  "fdac.644.62c.64a fdad.644.645.64a fdae.64a.62d.64a fdaf.64a.62c.64a fdb0.64a.645.64a",
  "fdb1.645.645.64a fdb2.642.645.64a fdb3.646.62d.64a fdb4.642.645.62d fdb5.644.62d.645",
  "fdb6.639.645.64a fdb7.643.645.64a fdb8.646.62c.62d fdb9.645.62e.64a fdba.644.62c.645",
  "fdbb.643.645.645 fdbc.644.62c.645 fdbd.646.62c.62d fdbe.62c.62d.64a fdbf.62d.62c.64a",
  "fdc0.645.62c.64a fdc1.641.645.64a fdc2.628.62d.64a fdc3.643.645.645 fdc4.639.62c.645",
  "fdc5.635.645.645 fdc6.633.62e.64a fdc7.646.62c.64a fdf0.635.644.6d2 fdf1.642.644.6d2",
  "fdf2.627.644.644.647 fdf3.627.643.628.631 fdf4.645.62d.645.62f fdf5.635.644.639.645",
  "fdf6.631.633.648.644 fdf7.639.644.64a.647 fdf8.648.633.644.645 fdf9.635.644.649",
  "fdfa.635.644.649.20.627.644.644.647.20.639.644.64a.647.20.648.633.644.645",
  "fdfb.62c.644.20.62c.644.627.644.647 fdfc.631.6cc.627.644 fe49.20.305 fe4a.20.305 fe4b.20.305",
  "fe4c.20.305 fe70.20.64b fe71.640.64b fe72.20.64c fe74.20.64d fe76.20.64e fe77.640.64e",
  "fe78.20.64f fe79.640.64f fe7a.20.650 fe7b.640.650 fe7c.20.651 fe7d.640.651 fe7e.20.652",
  "fe7f.640.652 fef5.644.622 fef6.644.622 fef7.644.623 fef8.644.623 fef9.644.625 fefa.644.625",
  "fefb.644.627 fefc.644.627 ffe3.20.304 1f101.30.2c 1f102.31.2c 1f103.32.2c 1f104.33.2c",
  "1f105.34.2c 1f106.35.2c 1f107.36.2c 1f108.37.2c 1f109.38.2c 1f10a.39.2c 1f110.28.61.29",
  "1f111.28.62.29 1f112.28.63.29 1f113.28.64.29 1f114.28.65.29 1f115.28.66.29 1f116.28.67.29",
  "1f117.28.68.29 1f118.28.69.29 1f119.28.6a.29 1f11a.28.6b.29 1f11b.28.6c.29 1f11c.28.6d.29",
  "1f11d.28.6e.29 1f11e.28.6f.29 1f11f.28.70.29 1f120.28.71.29 1f121.28.72.29 1f122.28.73.29",
  "1f123.28.74.29 1f124.28.75.29 1f125.28.76.29 1f126.28.77.29 1f127.28.78.29 1f128.28.79.29",
  "1f129.28.7a.29 1f12a.3014.73.3015 1f12d.63.64 1f12e.77.7a 1f14a.68.76 1f14b.6d.76",
  "1f14c.73.64 1f14d.73.73 1f14e.70.70.76 1f14f.77.63 1f16a.6d.63 1f16b.6d.64 1f16c.6d.72",
  "1f190.64.6a 1f200.307b.304b 1f201.30b3.30b3 1f240.3014.672c.3015 1f241.3014.4e09.3015",
  "1f242.3014.4e8c.3015 1f243.3014.5b89.3015 1f244.3014.70b9.3015 1f245.3014.6253.3015",
  "1f246.3014.76d7.3015 1f247.3014.52dd.3015 1f248.3014.6557.3015"]

/-- Ranges of characters that are dropped. -/
def ignoredLines : List String := [
  "ad.ad 34f.34f 115f.1160 17b4.17b5 180b.180f 200b.200b 2060.2064 206a.206f 3164.3164",
  "fe00.fe0f feff.feff ffa0.ffa0 1bca0.1bca3 1d173.1d17a e0100.e01ef"]

/-- Ranges of characters that may not appear. -/
def refusedLines : List String := [
  "80.9f 378.379 380.383 38b.38b 38d.38d 3a2.3a2 530.530 557.558 58b.58c 590.590 5c8.5cf",
  "5eb.5ee 5f5.605 61c.61c 6dd.6dd 70e.70f 74b.74c 7b2.7bf 7fb.7fc 82e.82f 83f.83f 85c.85d",
  "85f.85f 86b.86f 890.896 8e2.8e2 984.984 98d.98e 991.992 9a9.9a9 9b1.9b1 9b3.9b5 9ba.9bb",
  "9c5.9c6 9c9.9ca 9cf.9d6 9d8.9db 9de.9de 9e4.9e5 9ff.a00 a04.a04 a0b.a0e a11.a12 a29.a29",
  "a31.a31 a34.a34 a37.a37 a3a.a3b a3d.a3d a43.a46 a49.a4a a4e.a50 a52.a58 a5d.a5d a5f.a65",
  "a77.a80 a84.a84 a8e.a8e a92.a92 aa9.aa9 ab1.ab1 ab4.ab4 aba.abb ac6.ac6 aca.aca ace.acf",
  "ad1.adf ae4.ae5 af2.af8 b00.b00 b04.b04 b0d.b0e b11.b12 b29.b29 b31.b31 b34.b34 b3a.b3b",
  "b45.b46 b49.b4a b4e.b54 b58.b5b b5e.b5e b64.b65 b78.b81 b84.b84 b8b.b8d b91.b91 b96.b98",
  "b9b.b9b b9d.b9d ba0.ba2 ba5.ba7 bab.bad bba.bbd bc3.bc5 bc9.bc9 bce.bcf bd1.bd6 bd8.be5",
  "bfb.bff c0d.c0d c11.c11 c29.c29 c3a.c3b c45.c45 c49.c49 c4e.c54 c57.c57 c5b.c5b c5e.c5f",
  "c64.c65 c70.c76 c8d.c8d c91.c91 ca9.ca9 cb4.cb4 cba.cbb cc5.cc5 cc9.cc9 cce.cd4 cd7.cdb",
  "cdf.cdf ce4.ce5 cf0.cf0 cf4.cff d0d.d0d d11.d11 d45.d45 d49.d49 d50.d53 d64.d65 d80.d80",
  "d84.d84 d97.d99 db2.db2 dbc.dbc dbe.dbf dc7.dc9 dcb.dce dd5.dd5 dd7.dd7 de0.de5 df0.df1",
  "df5.e00 e3b.e3e e5c.e80 e83.e83 e85.e85 e8b.e8b ea4.ea4 ea6.ea6 ebe.ebf ec5.ec5 ec7.ec7",
  "ecf.ecf eda.edb ee0.eff f48.f48 f6d.f70 f98.f98 fbd.fbd fcd.fcd fdb.fff 10c6.10c6 10c8.10cc",
  "10ce.10cf 1249.1249 124e.124f 1257.1257 1259.1259 125e.125f 1289.1289 128e.128f 12b1.12b1",
  "12b6.12b7 12bf.12bf 12c1.12c1 12c6.12c7 12d7.12d7 1311.1311 1316.1317 135b.135c 137d.137f",
  "139a.139f 13f6.13f7 13fe.13ff 1680.1680 169d.169f 16f9.16ff 1716.171e 1737.173f 1754.175f",
  "176d.176d 1771.1771 1774.177f 17de.17df 17ea.17ef 17fa.17ff 181a.181f 1879.187f 18ab.18af",
  "18f6.18ff 191f.191f 192c.192f 193c.193f 1941.1943 196e.196f 1975.197f 19ac.19af 19ca.19cf",
  "19db.19dd 1a1c.1a1d 1a5f.1a5f 1a7d.1a7e 1a8a.1a8f 1a9a.1a9f 1aae.1aaf 1ade.1adf 1aec.1aff",
  "1b4d.1b4d 1bf4.1bfb 1c38.1c3a 1c4a.1c4c 1c8b.1c8f 1cbb.1cbc 1cc8.1ccf 1cfb.1cff 1f16.1f17",
  "1f1e.1f1f 1f46.1f47 1f4e.1f4f 1f58.1f58 1f5a.1f5a 1f5c.1f5c 1f5e.1f5e 1f7e.1f7f 1fb5.1fb5",
  "1fc5.1fc5 1fd4.1fd5 1fdc.1fdc 1ff0.1ff1 1ff5.1ff5 1fff.1fff 200e.200f 2024.2026 2028.202e",
  "2065.2069 2072.2073 208f.208f 209d.209f 20c2.20cf 20f1.20ff 218c.218f 242a.243f 244b.245f",
  "2488.249b 2b74.2b75 2cf4.2cf8 2d26.2d26 2d28.2d2c 2d2e.2d2f 2d68.2d6e 2d71.2d7e 2d97.2d9f",
  "2da7.2da7 2daf.2daf 2db7.2db7 2dbf.2dbf 2dc7.2dc7 2dcf.2dcf 2dd7.2dd7 2ddf.2ddf 2e5e.2e7f",
  "2e9a.2e9a 2ef4.2eff 2fd6.2fff 3040.3040 3097.3098 3100.3104 3130.3130 318f.318f 31e6.31ef",
  "321f.321f 33c2.33c2 33c7.33c7 33d8.33d8 a48d.a48f a4c7.a4cf a62c.a63f a6f8.a6ff a7dd.a7f0",
  "a82d.a82f a83a.a83f a878.a87f a8c6.a8cd a8da.a8df a954.a95e a97d.a97f a9ce.a9ce a9da.a9dd",
  "a9ff.a9ff aa37.aa3f aa4e.aa4f aa5a.aa5b aac3.aada aaf7.ab00 ab07.ab08 ab0f.ab10 ab17.ab1f",
  "ab27.ab27 ab2f.ab2f ab6c.ab6f abee.abef abfa.abff d7a4.d7af d7c7.d7ca d7fc.f8ff fa6e.fa6f",
  "fada.faff fb07.fb12 fb18.fb1c fb37.fb37 fb3d.fb3d fb3f.fb3f fb42.fb42 fb45.fb45 fdd0.fdef",
  "fe12.fe12 fe19.fe1f fe30.fe30 fe52.fe53 fe67.fe67 fe6c.fe6f fe75.fe75 fefd.fefe ff00.ff00",
  "ffbf.ffc1 ffc8.ffc9 ffd0.ffd1 ffd8.ffd9 ffdd.ffdf ffe7.ffe7 ffef.ffff 1000c.1000c",
  "10027.10027 1003b.1003b 1003e.1003e 1004e.1004f 1005e.1007f 100fb.100ff 10103.10106",
  "10134.10136 1018f.1018f 1019d.1019f 101a1.101cf 101fe.1027f 1029d.1029f 102d1.102df",
  "102fc.102ff 10324.1032c 1034b.1034f 1037b.1037f 1039e.1039e 103c4.103c7 103d6.103ff",
  "1049e.1049f 104aa.104af 104d4.104d7 104fc.104ff 10528.1052f 10564.1056e 1057b.1057b",
  "1058b.1058b 10593.10593 10596.10596 105a2.105a2 105b2.105b2 105ba.105ba 105bd.105bf",
  "105f4.105ff 10737.1073f 10756.1075f 10768.1077f 10786.10786 107b1.107b1 107bb.107ff",
  "10806.10807 10809.10809 10836.10836 10839.1083b 1083d.1083e 10856.10856 1089f.108a6",
  "108b0.108df 108f3.108f3 108f6.108fa 1091c.1091e 1093a.1093e 1095a.1097f 109b8.109bb",
  "109d0.109d1 10a04.10a04 10a07.10a0b 10a14.10a14 10a18.10a18 10a36.10a37 10a3b.10a3e",
  "10a49.10a4f 10a59.10a5f 10aa0.10abf 10ae7.10aea 10af7.10aff 10b36.10b38 10b56.10b57",
  "10b73.10b77 10b92.10b98 10b9d.10ba8 10bb0.10bff 10c49.10c7f 10cb3.10cbf 10cf3.10cf9",
  "10d28.10d2f 10d3a.10d3f 10d66.10d68 10d86.10d8d 10d90.10e5f 10e7f.10e7f 10eaa.10eaa",
  "10eae.10eaf 10eb2.10ec1 10ec8.10ecf 10ed9.10ef9 10f28.10f2f 10f5a.10f6f 10f8a.10faf",
  "10fcc.10fdf 10ff7.10fff 1104e.11051 11076.1107e 110bd.110bd 110c3.110cf 110e9.110ef",
  "110fa.110ff 11135.11135 11148.1114f 11177.1117f 111e0.111e0 111f5.111ff 11212.11212",
  "11242.1127f 11287.11287 11289.11289 1128e.1128e 1129e.1129e 112aa.112af 112eb.112ef",
  "112fa.112ff 11304.11304 1130d.1130e 11311.11312 11329.11329 11331.11331 11334.11334",
  "1133a.1133a 11345.11346 11349.1134a 1134e.1134f 11351.11356 11358.1135c 11364.11365",
  "1136d.1136f 11375.1137f 1138a.1138a 1138c.1138d 1138f.1138f 113b6.113b6 113c1.113c1",
  "113c3.113c4 113c6.113c6 113cb.113cb 113d6.113d6 113d9.113e0 113e3.113ff 1145c.1145c",
  "11462.1147f 114c8.114cf 114da.1157f 115b6.115b7 115de.115ff 11645.1164f 1165a.1165f",
  "1166d.1167f 116ba.116bf 116ca.116cf 116e4.116ff 1171b.1171c 1172c.1172f 11747.117ff",
  "1183c.1189f 118f3.118fe 11907.11908 1190a.1190b 11914.11914 11917.11917 11936.11936",
  "11939.1193a 11947.1194f 1195a.1199f 119a8.119a9 119d8.119d9 119e5.119ff 11a48.11a4f",
  "11aa3.11aaf 11af9.11aff 11b0a.11b5f 11b68.11bbf 11be2.11bef 11bfa.11bff 11c09.11c09",
  "11c37.11c37 11c46.11c4f 11c6d.11c6f 11c90.11c91 11ca8.11ca8 11cb7.11cff 11d07.11d07",
  "11d0a.11d0a 11d37.11d39 11d3b.11d3b 11d3e.11d3e 11d48.11d4f 11d5a.11d5f 11d66.11d66",
  "11d69.11d69 11d8f.11d8f 11d92.11d92 11d99.11d9f 11daa.11daf 11ddc.11ddf 11dea.11edf",
  "11ef9.11eff 11f11.11f11 11f3b.11f3d 11f5b.11faf 11fb1.11fbf 11ff2.11ffe 1239a.123ff",
  "1246f.1246f 12475.1247f 12544.12f8f 12ff3.12fff 13430.1343f 13456.1345f 143fb.143ff",
  "14647.160ff 1613a.167ff 16a39.16a3f 16a5f.16a5f 16a6a.16a6d 16abf.16abf 16aca.16acf",
  "16aee.16aef 16af6.16aff 16b46.16b4f 16b5a.16b5a 16b62.16b62 16b78.16b7c 16b90.16d3f",
  "16d7a.16e3f 16e9b.16e9f 16eb9.16eba 16ed4.16eff 16f4b.16f4e 16f88.16f8e 16fa0.16fdf",
  "16fe5.16fef 16ff7.16fff 18cd6.18cfe 18d1f.18d7f 18df3.1afef 1aff4.1aff4 1affc.1affc",
  "1afff.1afff 1b123.1b131 1b133.1b14f 1b153.1b154 1b156.1b163 1b168.1b16f 1b2fc.1bbff",
  "1bc6b.1bc6f 1bc7d.1bc7f 1bc89.1bc8f 1bc9a.1bc9b 1bca4.1cbff 1ccfd.1ccff 1ceb4.1ceb9",
  "1ced1.1cedf 1cef1.1ceff 1cf2e.1cf2f 1cf47.1cf4f 1cfc4.1cfff 1d0f6.1d0ff 1d127.1d128",
  "1d1eb.1d1ff 1d246.1d2bf 1d2d4.1d2df 1d2f4.1d2ff 1d357.1d35f 1d379.1d3ff 1d455.1d455",
  "1d49d.1d49d 1d4a0.1d4a1 1d4a3.1d4a4 1d4a7.1d4a8 1d4ad.1d4ad 1d4ba.1d4ba 1d4bc.1d4bc",
  "1d4c4.1d4c4 1d506.1d506 1d50b.1d50c 1d515.1d515 1d51d.1d51d 1d53a.1d53a 1d53f.1d53f",
  "1d545.1d545 1d547.1d549 1d551.1d551 1d6a6.1d6a7 1d7cc.1d7cd 1da8c.1da9a 1daa0.1daa0",
  "1dab0.1deff 1df1f.1df24 1df2b.1dfff 1e007.1e007 1e019.1e01a 1e022.1e022 1e025.1e025",
  "1e02b.1e02f 1e06e.1e08e 1e090.1e0ff 1e12d.1e12f 1e13e.1e13f 1e14a.1e14d 1e150.1e28f",
  "1e2af.1e2bf 1e2fa.1e2fe 1e300.1e4cf 1e4fa.1e5cf 1e5fb.1e5fe 1e600.1e6bf 1e6df.1e6df",
  "1e6f6.1e6fd 1e700.1e7df 1e7e7.1e7e7 1e7ec.1e7ec 1e7ef.1e7ef 1e7ff.1e7ff 1e8c5.1e8c6",
  "1e8d7.1e8ff 1e94c.1e94f 1e95a.1e95d 1e960.1ec70 1ecb5.1ed00 1ed3e.1edff 1ee04.1ee04",
  "1ee20.1ee20 1ee23.1ee23 1ee25.1ee26 1ee28.1ee28 1ee33.1ee33 1ee38.1ee38 1ee3a.1ee3a",
  "1ee3c.1ee41 1ee43.1ee46 1ee48.1ee48 1ee4a.1ee4a 1ee4c.1ee4c 1ee50.1ee50 1ee53.1ee53",
  "1ee55.1ee56 1ee58.1ee58 1ee5a.1ee5a 1ee5c.1ee5c 1ee5e.1ee5e 1ee60.1ee60 1ee63.1ee63",
  "1ee65.1ee66 1ee6b.1ee6b 1ee73.1ee73 1ee78.1ee78 1ee7d.1ee7d 1ee7f.1ee7f 1ee8a.1ee8a",
  "1ee9c.1eea0 1eea4.1eea4 1eeaa.1eeaa 1eebc.1eeef 1eef2.1efff 1f02c.1f02f 1f094.1f09f",
  "1f0af.1f0b0 1f0c0.1f0c0 1f0d0.1f0d0 1f0f6.1f100 1f1ae.1f1e5 1f203.1f20f 1f23c.1f23f",
  "1f249.1f24f 1f252.1f25f 1f266.1f2ff 1f6d9.1f6db 1f6ed.1f6ef 1f6fd.1f6ff 1f7da.1f7df",
  "1f7ec.1f7ef 1f7f1.1f7ff 1f80c.1f80f 1f848.1f84f 1f85a.1f85f 1f888.1f88f 1f8ae.1f8af",
  "1f8bc.1f8bf 1f8c2.1f8cf 1f8d9.1f8ff 1fa58.1fa5f 1fa6e.1fa6f 1fa7d.1fa7f 1fa8b.1fa8d",
  "1fac7.1fac7 1fac9.1facc 1fadd.1fade 1faeb.1faee 1faf9.1faff 1fb93.1fb93 1fbfb.1ffff",
  "2a6e0.2a6ff 2b81e.2b81f 2ceae.2ceaf 2ebe1.2ebef 2ee5e.2f7ff 2fa1e.2ffff 3134b.3134f",
  "3347a.e00ff e01f0.10ffff"]

/-- A run of characters with one image each. -/
structure Run where
  first : Nat
  count : Nat
  distance : Nat
  image : Nat

/-- The runs. -/
def runs : List Run :=
  (readTable runLines).filterMap fun entry =>
    match entry with
    | [first, count, distance, image] => some ⟨first, count, distance, image⟩
    | _ => none

/-- The image of a character in a run. -/
def Run.image? (run : Run) (code : Nat) : Option Nat :=
  let step := max run.distance 1
  if run.first ≤ code ∧ code < run.first + run.count * step ∧ (code - run.first) % step = 0 then
    some (run.image + if run.distance = 0 then 0 else code - run.first)
  else none

/-- The images of several characters, by the character they belong to. -/
def lists : List (Nat × List Nat) :=
  (readTable listLines).filterMap fun entry =>
    match entry with
    | code :: images => some (code, images)
    | [] => none

/-- The ranges of dropped characters. -/
def ignored : List (Nat × Nat × Nat) := readRanges ignoredLines

/-- The ranges of refused characters. -/
def refused : List (Nat × Nat × Nat) := readRanges refusedLines

/-- The image of a character, if it may appear. -/
def image? (character : Char) : Option (List Char) :=
  let code := character.toNat
  match runs.findSome? fun run => run.image? code with
  | some image => some [Char.ofNat image]
  | none =>
    match lists.find? fun entry => entry.1 == code with
    | some (_, images) => some (images.map Char.ofNat)
    | none =>
      if (rangeValue? ignored code).isSome then some []
      else if (rangeValue? refused code).isSome then none
      else some [character]

/-- The image of a text, if all its characters may appear. -/
def image (text : List Char) : Option (List Char) :=
  (text.mapM image?).map List.flatten

end LinkGuard.Unicode.Mapping
