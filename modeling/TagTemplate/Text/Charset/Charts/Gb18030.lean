/-
# GB 18030 — all code points in Chinese text

Rows are first bytes, columns second bytes.
-/
import TagTemplate.Text.Charset.Chart

namespace TagTemplate.Chart

/-- What GB 18030 adds to GBK in two bytes. -/
def gb18030 : Chart := ⟨[
  ⟨0xa2, 0xe3, ["€"]⟩,
  ⟨0xa8, 0xbf, ["ǹ"]⟩,
  ⟨0xa9, 0x89, ["〾⿰⿱⿲⿳⿴⿵⿶⿷⿸⿹⿺⿻"]⟩,
  ⟨0xfe, 0x50, ["⺁"]⟩,
  ⟨0xfe, 0x54, [
   "⺄㑳㑇⺈⺋ 㖞㘚㘎⺌⺗㥮㤘 㧏㧟㩳㧐  㭎㱮㳠⺧  ⺪䁖䅟⺮䌷⺳⺶⺷ 䎱䎬⺻䏝䓖䙡䙌  䜣䜩䝼䞍⻊䥇䥺䥽䦂䦃䦅䦆䦟䦛䦷䦶  䲣䲟䲠䲡䱷䲢䴓䴔䴕䴖䴗䴘䴙䶮"]⟩]⟩

/-- The places that GBK left over, outside of those for users: a row, the first column and how many
columns there are. -/
def gb18030Spare : List (Nat × Nat × Nat) :=
  [(0xa2, 0xab, 6), (0xa2, 0xe3, 2), (0xa2, 0xef, 2), (0xa2, 0xfd, 2), (0xa4, 0xf4, 11),
   (0xa5, 0xf7, 8), (0xa6, 0xb9, 8), (0xa6, 0xd9, 7), (0xa6, 0xec, 2), (0xa6, 0xf3, 1),
   (0xa6, 0xf6, 9), (0xa7, 0xc2, 15), (0xa7, 0xf2, 13), (0xa8, 0x96, 11), (0xa8, 0xbc, 1),
   (0xa8, 0xbf, 1), (0xa8, 0xc1, 4), (0xa8, 0xea, 21), (0xa9, 0x58, 1), (0xa9, 0x5b, 1),
   (0xa9, 0x5d, 3), (0xa9, 0x89, 13), (0xa9, 0x97, 13), (0xa9, 0xf0, 15), (0xd7, 0xfa, 5),
   (0xfe, 0x50, 47), (0xfe, 0x80, 33)]

/-- The runs of code points with four bytes that are in the basic plane: the first of a run and how
many there are. -/
def gb18030Runs : List (Nat × Nat) :=
  [(0x80, 36), (0xa5, 2), (0xa9, 7), (0xb2, 5), (0xb8, 31), (0xd8, 8), (0xe2, 6), (0xeb, 1),
   (0xee, 4), (0xf4, 3), (0xf8, 1), (0xfb, 1), (0xfd, 4), (0x102, 17), (0x114, 7), (0x11c, 15),
   (0x12c, 24), (0x145, 3), (0x149, 4), (0x14e, 29), (0x16c, 98), (0x1cf, 1), (0x1d1, 1),
   (0x1d3, 1), (0x1d5, 1), (0x1d7, 1), (0x1d9, 1), (0x1db, 1), (0x1dd, 28), (0x1fa, 87),
   (0x252, 15), (0x262, 101), (0x2c8, 1), (0x2cc, 13), (0x2da, 183), (0x3a2, 1), (0x3aa, 7),
   (0x3c2, 1), (0x3ca, 55), (0x402, 14), (0x450, 1), (0x452, 7102), (0x2011, 2), (0x2017, 1),
   (0x201a, 2), (0x201e, 7), (0x2027, 9), (0x2031, 1), (0x2034, 1), (0x2036, 5), (0x203c, 112),
   (0x20ad, 86), (0x2104, 1), (0x2106, 3), (0x210a, 12), (0x2117, 10), (0x2122, 62), (0x216c, 4),
   (0x217a, 22), (0x2194, 2), (0x219a, 110), (0x2209, 6), (0x2210, 1), (0x2212, 3), (0x2216, 4),
   (0x221b, 2), (0x2221, 2), (0x2224, 1), (0x2226, 1), (0x222c, 2), (0x222f, 5), (0x2238, 5),
   (0x223e, 10), (0x2249, 3), (0x224d, 5), (0x2253, 13), (0x2262, 2), (0x2268, 6), (0x2270, 37),
   (0x2296, 3), (0x229a, 11), (0x22a6, 25), (0x22c0, 82), (0x2313, 333), (0x246a, 10),
   (0x249c, 100), (0x254c, 4), (0x2574, 13), (0x2590, 3), (0x2596, 10), (0x25a2, 16), (0x25b4, 8),
   (0x25be, 8), (0x25c8, 3), (0x25cc, 2), (0x25d0, 18), (0x25e6, 31), (0x2607, 2), (0x260a, 54),
   (0x2641, 1), (0x2643, 2110), (0x2e82, 2), (0x2e85, 3), (0x2e89, 2), (0x2e8d, 10), (0x2e98, 15),
   (0x2ea8, 2), (0x2eab, 3), (0x2eaf, 4), (0x2eb4, 2), (0x2eb8, 3), (0x2ebc, 14), (0x2ecb, 293),
   (0x2ffc, 4), (0x3004, 1), (0x3018, 5), (0x301f, 2), (0x302a, 20), (0x303f, 2), (0x3094, 7),
   (0x309f, 2), (0x30f7, 5), (0x30ff, 6), (0x312a, 246), (0x322a, 7), (0x3232, 113), (0x32a4, 234),
   (0x3390, 12), (0x339f, 2), (0x33a2, 34), (0x33c5, 9), (0x33cf, 2), (0x33d3, 2), (0x33d6, 113),
   (0x3448, 43), (0x3474, 298), (0x359f, 111), (0x360f, 11), (0x361b, 765), (0x3919, 85),
   (0x396f, 96), (0x39d1, 14), (0x39e0, 147), (0x3a74, 218), (0x3b4f, 287), (0x3c6f, 113),
   (0x3ce1, 885), (0x4057, 264), (0x4160, 471), (0x4338, 116), (0x43ad, 4), (0x43b2, 43),
   (0x43de, 248), (0x44d7, 373), (0x464d, 20), (0x4662, 193), (0x4724, 5), (0x472a, 82),
   (0x477d, 16), (0x478e, 441), (0x4948, 50), (0x497b, 2), (0x497e, 4), (0x4984, 1), (0x4987, 20),
   (0x499c, 3), (0x49a0, 22), (0x49b8, 703), (0x4c78, 39), (0x4ca4, 111), (0x4d1a, 148),
   (0x4daf, 81), (0x9fa6, 14426), (0xe76c, 1), (0xe7c8, 1), (0xe7e7, 13), (0xe815, 1), (0xe819, 5),
   (0xe81f, 7), (0xe827, 4), (0xe82d, 4), (0xe833, 8), (0xe83c, 7), (0xe844, 16), (0xe856, 14),
   (0xe865, 4295), (0xf92d, 76), (0xf97a, 27), (0xf996, 81), (0xf9e8, 9), (0xf9f2, 26),
   (0xfa10, 1), (0xfa12, 1), (0xfa15, 3), (0xfa19, 6), (0xfa22, 1), (0xfa25, 2), (0xfa2a, 1030),
   (0xfe32, 1), (0xfe45, 4), (0xfe53, 1), (0xfe58, 1), (0xfe67, 1), (0xfe6c, 149), (0xff5f, 129),
   (0xffe6, 26)]

end TagTemplate.Chart
