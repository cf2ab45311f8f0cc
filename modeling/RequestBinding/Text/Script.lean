import RequestBinding.Text.CodeTable

/-!
# Scripts

The characters of the more common scripts.
-/

namespace RequestBinding
namespace CodeTable

/-- The script Arabic. -/
def arabicScript : CodeTable := #[
  ⟨0x600, 0x604, 1⟩, ⟨0x606, 0x60b, 1⟩, ⟨0x60d, 0x61a, 1⟩, ⟨0x61c, 0x61e, 1⟩, ⟨0x620, 0x63f, 1⟩,
  ⟨0x641, 0x64a, 1⟩, ⟨0x656, 0x66f, 1⟩, ⟨0x671, 0x6dc, 1⟩, ⟨0x6de, 0x6ff, 1⟩, ⟨0x750, 0x77f, 1⟩,
  ⟨0x870, 0x891, 1⟩, ⟨0x897, 0x8e1, 1⟩, ⟨0x8e3, 0x8ff, 1⟩, ⟨0xfb50, 0xfd3d, 1⟩,
  ⟨0xfd40, 0xfdcf, 1⟩, ⟨0xfdf0, 0xfdff, 1⟩, ⟨0xfe70, 0xfe74, 1⟩, ⟨0xfe76, 0xfefc, 1⟩,
  ⟨0x10e60, 0x10e7e, 1⟩, ⟨0x10ec2, 0x10ec7, 1⟩, ⟨0x10ed0, 0x10ed8, 1⟩, ⟨0x10efa, 0x10eff, 1⟩,
  ⟨0x1ee00, 0x1ee03, 1⟩, ⟨0x1ee05, 0x1ee1f, 1⟩, ⟨0x1ee21, 0x1ee22, 1⟩, ⟨0x1ee24, 0x1ee24, 1⟩,
  ⟨0x1ee27, 0x1ee27, 1⟩, ⟨0x1ee29, 0x1ee32, 1⟩, ⟨0x1ee34, 0x1ee37, 1⟩, ⟨0x1ee39, 0x1ee39, 1⟩,
  ⟨0x1ee3b, 0x1ee3b, 1⟩, ⟨0x1ee42, 0x1ee42, 1⟩, ⟨0x1ee47, 0x1ee4d, 2⟩, ⟨0x1ee4e, 0x1ee4f, 1⟩,
  ⟨0x1ee51, 0x1ee52, 1⟩, ⟨0x1ee54, 0x1ee54, 1⟩, ⟨0x1ee57, 0x1ee61, 2⟩, ⟨0x1ee62, 0x1ee62, 1⟩,
  ⟨0x1ee64, 0x1ee64, 1⟩, ⟨0x1ee67, 0x1ee6a, 1⟩, ⟨0x1ee6c, 0x1ee72, 1⟩, ⟨0x1ee74, 0x1ee77, 1⟩,
  ⟨0x1ee79, 0x1ee7c, 1⟩, ⟨0x1ee7e, 0x1ee7e, 1⟩, ⟨0x1ee80, 0x1ee89, 1⟩, ⟨0x1ee8b, 0x1ee9b, 1⟩,
  ⟨0x1eea1, 0x1eea3, 1⟩, ⟨0x1eea5, 0x1eea9, 1⟩, ⟨0x1eeab, 0x1eebb, 1⟩, ⟨0x1eef0, 0x1eef1, 1⟩]

/-- The script Armenian. -/
def armenianScript : CodeTable := #[
  ⟨0x531, 0x556, 1⟩, ⟨0x559, 0x58a, 1⟩, ⟨0x58d, 0x58f, 1⟩, ⟨0xfb13, 0xfb17, 1⟩]

/-- The script Bengali. -/
def bengaliScript : CodeTable := #[
  ⟨0x980, 0x983, 1⟩, ⟨0x985, 0x98c, 1⟩, ⟨0x98f, 0x990, 1⟩, ⟨0x993, 0x9a8, 1⟩, ⟨0x9aa, 0x9b0, 1⟩,
  ⟨0x9b2, 0x9b2, 1⟩, ⟨0x9b6, 0x9b9, 1⟩, ⟨0x9bc, 0x9c4, 1⟩, ⟨0x9c7, 0x9c8, 1⟩, ⟨0x9cb, 0x9ce, 1⟩,
  ⟨0x9d7, 0x9d7, 1⟩, ⟨0x9dc, 0x9dd, 1⟩, ⟨0x9df, 0x9e3, 1⟩, ⟨0x9e6, 0x9fe, 1⟩]

/-- The script Bopomofo. -/
def bopomofoScript : CodeTable := #[
  ⟨0x2ea, 0x2eb, 1⟩, ⟨0x3105, 0x312f, 1⟩, ⟨0x31a0, 0x31bf, 1⟩]

/-- The script Braille. -/
def brailleScript : CodeTable := #[
  ⟨0x2800, 0x28ff, 1⟩]

/-- The script Cherokee. -/
def cherokeeScript : CodeTable := #[
  ⟨0x13a0, 0x13f5, 1⟩, ⟨0x13f8, 0x13fd, 1⟩, ⟨0xab70, 0xabbf, 1⟩]

/-- The script Common. -/
def commonScript : CodeTable := #[
  ⟨0x0, 0x40, 1⟩, ⟨0x5b, 0x60, 1⟩, ⟨0x7b, 0xa9, 1⟩, ⟨0xab, 0xb9, 1⟩, ⟨0xbb, 0xbf, 1⟩,
  ⟨0xd7, 0xd7, 1⟩, ⟨0xf7, 0xf7, 1⟩, ⟨0x2b9, 0x2df, 1⟩, ⟨0x2e5, 0x2e9, 1⟩, ⟨0x2ec, 0x2ff, 1⟩,
  ⟨0x374, 0x374, 1⟩, ⟨0x37e, 0x37e, 1⟩, ⟨0x385, 0x385, 1⟩, ⟨0x387, 0x387, 1⟩, ⟨0x605, 0x605, 1⟩,
  ⟨0x60c, 0x60c, 1⟩, ⟨0x61b, 0x61b, 1⟩, ⟨0x61f, 0x61f, 1⟩, ⟨0x640, 0x640, 1⟩, ⟨0x6dd, 0x6dd, 1⟩,
  ⟨0x8e2, 0x8e2, 1⟩, ⟨0x964, 0x965, 1⟩, ⟨0xe3f, 0xe3f, 1⟩, ⟨0xfd5, 0xfd8, 1⟩, ⟨0x10fb, 0x10fb, 1⟩,
  ⟨0x16eb, 0x16ed, 1⟩, ⟨0x1735, 0x1736, 1⟩, ⟨0x1802, 0x1803, 1⟩, ⟨0x1805, 0x1805, 1⟩,
  ⟨0x1cd3, 0x1cd3, 1⟩, ⟨0x1ce1, 0x1ce1, 1⟩, ⟨0x1ce9, 0x1cec, 1⟩, ⟨0x1cee, 0x1cf3, 1⟩,
  ⟨0x1cf5, 0x1cf7, 1⟩, ⟨0x1cfa, 0x1cfa, 1⟩, ⟨0x2000, 0x200b, 1⟩, ⟨0x200e, 0x2064, 1⟩,
  ⟨0x2066, 0x2070, 1⟩, ⟨0x2074, 0x207e, 1⟩, ⟨0x2080, 0x208e, 1⟩, ⟨0x20a0, 0x20c1, 1⟩,
  ⟨0x2100, 0x2125, 1⟩, ⟨0x2127, 0x2129, 1⟩, ⟨0x212c, 0x2131, 1⟩, ⟨0x2133, 0x214d, 1⟩,
  ⟨0x214f, 0x215f, 1⟩, ⟨0x2189, 0x218b, 1⟩, ⟨0x2190, 0x2429, 1⟩, ⟨0x2440, 0x244a, 1⟩,
  ⟨0x2460, 0x27ff, 1⟩, ⟨0x2900, 0x2b73, 1⟩, ⟨0x2b76, 0x2bff, 1⟩, ⟨0x2e00, 0x2e5d, 1⟩,
  ⟨0x2ff0, 0x3004, 1⟩, ⟨0x3006, 0x3006, 1⟩, ⟨0x3008, 0x3020, 1⟩, ⟨0x3030, 0x3037, 1⟩,
  ⟨0x303c, 0x303f, 1⟩, ⟨0x309b, 0x309c, 1⟩, ⟨0x30a0, 0x30a0, 1⟩, ⟨0x30fb, 0x30fc, 1⟩,
  ⟨0x3190, 0x319f, 1⟩, ⟨0x31c0, 0x31e5, 1⟩, ⟨0x31ef, 0x31ef, 1⟩, ⟨0x3220, 0x325f, 1⟩,
  ⟨0x327f, 0x32cf, 1⟩, ⟨0x32ff, 0x32ff, 1⟩, ⟨0x3358, 0x33ff, 1⟩, ⟨0x4dc0, 0x4dff, 1⟩,
  ⟨0xa700, 0xa721, 1⟩, ⟨0xa788, 0xa78a, 1⟩, ⟨0xa830, 0xa839, 1⟩, ⟨0xa92e, 0xa92e, 1⟩,
  ⟨0xa9cf, 0xa9cf, 1⟩, ⟨0xab5b, 0xab5b, 1⟩, ⟨0xab6a, 0xab6b, 1⟩, ⟨0xfd3e, 0xfd3f, 1⟩,
  ⟨0xfe10, 0xfe19, 1⟩, ⟨0xfe30, 0xfe52, 1⟩, ⟨0xfe54, 0xfe66, 1⟩, ⟨0xfe68, 0xfe6b, 1⟩,
  ⟨0xfeff, 0xfeff, 1⟩, ⟨0xff01, 0xff20, 1⟩, ⟨0xff3b, 0xff40, 1⟩, ⟨0xff5b, 0xff65, 1⟩,
  ⟨0xff70, 0xff70, 1⟩, ⟨0xff9e, 0xff9f, 1⟩, ⟨0xffe0, 0xffe6, 1⟩, ⟨0xffe8, 0xffee, 1⟩,
  ⟨0xfff9, 0xfffd, 1⟩, ⟨0x10100, 0x10102, 1⟩, ⟨0x10107, 0x10133, 1⟩, ⟨0x10137, 0x1013f, 1⟩,
  ⟨0x10190, 0x1019c, 1⟩, ⟨0x101d0, 0x101fc, 1⟩, ⟨0x102e1, 0x102fb, 1⟩, ⟨0x1bca0, 0x1bca3, 1⟩,
  ⟨0x1cc00, 0x1ccfc, 1⟩, ⟨0x1cd00, 0x1ceb3, 1⟩, ⟨0x1ceba, 0x1ced0, 1⟩, ⟨0x1cee0, 0x1cef0, 1⟩,
  ⟨0x1cf50, 0x1cfc3, 1⟩, ⟨0x1d000, 0x1d0f5, 1⟩, ⟨0x1d100, 0x1d126, 1⟩, ⟨0x1d129, 0x1d166, 1⟩,
  ⟨0x1d16a, 0x1d17a, 1⟩, ⟨0x1d183, 0x1d184, 1⟩, ⟨0x1d18c, 0x1d1a9, 1⟩, ⟨0x1d1ae, 0x1d1ea, 1⟩,
  ⟨0x1d2c0, 0x1d2d3, 1⟩, ⟨0x1d2e0, 0x1d2f3, 1⟩, ⟨0x1d300, 0x1d356, 1⟩, ⟨0x1d360, 0x1d378, 1⟩,
  ⟨0x1d400, 0x1d454, 1⟩, ⟨0x1d456, 0x1d49c, 1⟩, ⟨0x1d49e, 0x1d49f, 1⟩, ⟨0x1d4a2, 0x1d4a2, 1⟩,
  ⟨0x1d4a5, 0x1d4a6, 1⟩, ⟨0x1d4a9, 0x1d4ac, 1⟩, ⟨0x1d4ae, 0x1d4b9, 1⟩, ⟨0x1d4bb, 0x1d4bb, 1⟩,
  ⟨0x1d4bd, 0x1d4c3, 1⟩, ⟨0x1d4c5, 0x1d505, 1⟩, ⟨0x1d507, 0x1d50a, 1⟩, ⟨0x1d50d, 0x1d514, 1⟩,
  ⟨0x1d516, 0x1d51c, 1⟩, ⟨0x1d51e, 0x1d539, 1⟩, ⟨0x1d53b, 0x1d53e, 1⟩, ⟨0x1d540, 0x1d544, 1⟩,
  ⟨0x1d546, 0x1d546, 1⟩, ⟨0x1d54a, 0x1d550, 1⟩, ⟨0x1d552, 0x1d6a5, 1⟩, ⟨0x1d6a8, 0x1d7cb, 1⟩,
  ⟨0x1d7ce, 0x1d7ff, 1⟩, ⟨0x1ec71, 0x1ecb4, 1⟩, ⟨0x1ed01, 0x1ed3d, 1⟩, ⟨0x1f000, 0x1f02b, 1⟩,
  ⟨0x1f030, 0x1f093, 1⟩, ⟨0x1f0a0, 0x1f0ae, 1⟩, ⟨0x1f0b1, 0x1f0bf, 1⟩, ⟨0x1f0c1, 0x1f0cf, 1⟩,
  ⟨0x1f0d1, 0x1f0f5, 1⟩, ⟨0x1f100, 0x1f1ad, 1⟩, ⟨0x1f1e6, 0x1f1ff, 1⟩, ⟨0x1f201, 0x1f202, 1⟩,
  ⟨0x1f210, 0x1f23b, 1⟩, ⟨0x1f240, 0x1f248, 1⟩, ⟨0x1f250, 0x1f251, 1⟩, ⟨0x1f260, 0x1f265, 1⟩,
  ⟨0x1f300, 0x1f6d8, 1⟩, ⟨0x1f6dc, 0x1f6ec, 1⟩, ⟨0x1f6f0, 0x1f6fc, 1⟩, ⟨0x1f700, 0x1f7d9, 1⟩,
  ⟨0x1f7e0, 0x1f7eb, 1⟩, ⟨0x1f7f0, 0x1f7f0, 1⟩, ⟨0x1f800, 0x1f80b, 1⟩, ⟨0x1f810, 0x1f847, 1⟩,
  ⟨0x1f850, 0x1f859, 1⟩, ⟨0x1f860, 0x1f887, 1⟩, ⟨0x1f890, 0x1f8ad, 1⟩, ⟨0x1f8b0, 0x1f8bb, 1⟩,
  ⟨0x1f8c0, 0x1f8c1, 1⟩, ⟨0x1f8d0, 0x1f8d8, 1⟩, ⟨0x1f900, 0x1fa57, 1⟩, ⟨0x1fa60, 0x1fa6d, 1⟩,
  ⟨0x1fa70, 0x1fa7c, 1⟩, ⟨0x1fa80, 0x1fa8a, 1⟩, ⟨0x1fa8e, 0x1fac6, 1⟩, ⟨0x1fac8, 0x1fac8, 1⟩,
  ⟨0x1facd, 0x1fadc, 1⟩, ⟨0x1fadf, 0x1faea, 1⟩, ⟨0x1faef, 0x1faf8, 1⟩, ⟨0x1fb00, 0x1fb92, 1⟩,
  ⟨0x1fb94, 0x1fbfa, 1⟩, ⟨0xe0001, 0xe0001, 1⟩, ⟨0xe0020, 0xe007f, 1⟩]

/-- The script Coptic. -/
def copticScript : CodeTable := #[
  ⟨0x3e2, 0x3ef, 1⟩, ⟨0x2c80, 0x2cf3, 1⟩, ⟨0x2cf9, 0x2cff, 1⟩]

/-- The script Cyrillic. -/
def cyrillicScript : CodeTable := #[
  ⟨0x400, 0x484, 1⟩, ⟨0x487, 0x52f, 1⟩, ⟨0x1c80, 0x1c8a, 1⟩, ⟨0x1d2b, 0x1d2b, 1⟩,
  ⟨0x1d78, 0x1d78, 1⟩, ⟨0x2de0, 0x2dff, 1⟩, ⟨0xa640, 0xa69f, 1⟩, ⟨0xfe2e, 0xfe2f, 1⟩,
  ⟨0x1e030, 0x1e06d, 1⟩, ⟨0x1e08f, 0x1e08f, 1⟩]

/-- The script Devanagari. -/
def devanagariScript : CodeTable := #[
  ⟨0x900, 0x950, 1⟩, ⟨0x955, 0x963, 1⟩, ⟨0x966, 0x97f, 1⟩, ⟨0xa8e0, 0xa8ff, 1⟩,
  ⟨0x11b00, 0x11b09, 1⟩]

/-- The script Ethiopic. -/
def ethiopicScript : CodeTable := #[
  ⟨0x1200, 0x1248, 1⟩, ⟨0x124a, 0x124d, 1⟩, ⟨0x1250, 0x1256, 1⟩, ⟨0x1258, 0x1258, 1⟩,
  ⟨0x125a, 0x125d, 1⟩, ⟨0x1260, 0x1288, 1⟩, ⟨0x128a, 0x128d, 1⟩, ⟨0x1290, 0x12b0, 1⟩,
  ⟨0x12b2, 0x12b5, 1⟩, ⟨0x12b8, 0x12be, 1⟩, ⟨0x12c0, 0x12c0, 1⟩, ⟨0x12c2, 0x12c5, 1⟩,
  ⟨0x12c8, 0x12d6, 1⟩, ⟨0x12d8, 0x1310, 1⟩, ⟨0x1312, 0x1315, 1⟩, ⟨0x1318, 0x135a, 1⟩,
  ⟨0x135d, 0x137c, 1⟩, ⟨0x1380, 0x1399, 1⟩, ⟨0x2d80, 0x2d96, 1⟩, ⟨0x2da0, 0x2da6, 1⟩,
  ⟨0x2da8, 0x2dae, 1⟩, ⟨0x2db0, 0x2db6, 1⟩, ⟨0x2db8, 0x2dbe, 1⟩, ⟨0x2dc0, 0x2dc6, 1⟩,
  ⟨0x2dc8, 0x2dce, 1⟩, ⟨0x2dd0, 0x2dd6, 1⟩, ⟨0x2dd8, 0x2dde, 1⟩, ⟨0xab01, 0xab06, 1⟩,
  ⟨0xab09, 0xab0e, 1⟩, ⟨0xab11, 0xab16, 1⟩, ⟨0xab20, 0xab26, 1⟩, ⟨0xab28, 0xab2e, 1⟩,
  ⟨0x1e7e0, 0x1e7e6, 1⟩, ⟨0x1e7e8, 0x1e7eb, 1⟩, ⟨0x1e7ed, 0x1e7ee, 1⟩, ⟨0x1e7f0, 0x1e7fe, 1⟩]

/-- The script Georgian. -/
def georgianScript : CodeTable := #[
  ⟨0x10a0, 0x10c5, 1⟩, ⟨0x10c7, 0x10c7, 1⟩, ⟨0x10cd, 0x10cd, 1⟩, ⟨0x10d0, 0x10fa, 1⟩,
  ⟨0x10fc, 0x10ff, 1⟩, ⟨0x1c90, 0x1cba, 1⟩, ⟨0x1cbd, 0x1cbf, 1⟩, ⟨0x2d00, 0x2d25, 1⟩,
  ⟨0x2d27, 0x2d27, 1⟩, ⟨0x2d2d, 0x2d2d, 1⟩]

/-- The script Greek. -/
def greekScript : CodeTable := #[
  ⟨0x370, 0x373, 1⟩, ⟨0x375, 0x377, 1⟩, ⟨0x37a, 0x37d, 1⟩, ⟨0x37f, 0x37f, 1⟩, ⟨0x384, 0x388, 2⟩,
  ⟨0x389, 0x38a, 1⟩, ⟨0x38c, 0x38c, 1⟩, ⟨0x38e, 0x3a1, 1⟩, ⟨0x3a3, 0x3e1, 1⟩, ⟨0x3f0, 0x3ff, 1⟩,
  ⟨0x1d26, 0x1d2a, 1⟩, ⟨0x1d5d, 0x1d61, 1⟩, ⟨0x1d66, 0x1d6a, 1⟩, ⟨0x1dbf, 0x1dbf, 1⟩,
  ⟨0x1f00, 0x1f15, 1⟩, ⟨0x1f18, 0x1f1d, 1⟩, ⟨0x1f20, 0x1f45, 1⟩, ⟨0x1f48, 0x1f4d, 1⟩,
  ⟨0x1f50, 0x1f57, 1⟩, ⟨0x1f59, 0x1f5f, 2⟩, ⟨0x1f60, 0x1f7d, 1⟩, ⟨0x1f80, 0x1fb4, 1⟩,
  ⟨0x1fb6, 0x1fc4, 1⟩, ⟨0x1fc6, 0x1fd3, 1⟩, ⟨0x1fd6, 0x1fdb, 1⟩, ⟨0x1fdd, 0x1fef, 1⟩,
  ⟨0x1ff2, 0x1ff4, 1⟩, ⟨0x1ff6, 0x1ffe, 1⟩, ⟨0x2126, 0x2126, 1⟩, ⟨0xab65, 0xab65, 1⟩,
  ⟨0x10140, 0x1018e, 1⟩, ⟨0x101a0, 0x101a0, 1⟩, ⟨0x1d200, 0x1d245, 1⟩]

/-- The script Gujarati. -/
def gujaratiScript : CodeTable := #[
  ⟨0xa81, 0xa83, 1⟩, ⟨0xa85, 0xa8d, 1⟩, ⟨0xa8f, 0xa91, 1⟩, ⟨0xa93, 0xaa8, 1⟩, ⟨0xaaa, 0xab0, 1⟩,
  ⟨0xab2, 0xab3, 1⟩, ⟨0xab5, 0xab9, 1⟩, ⟨0xabc, 0xac5, 1⟩, ⟨0xac7, 0xac9, 1⟩, ⟨0xacb, 0xacd, 1⟩,
  ⟨0xad0, 0xad0, 1⟩, ⟨0xae0, 0xae3, 1⟩, ⟨0xae6, 0xaf1, 1⟩, ⟨0xaf9, 0xaff, 1⟩]

/-- The script Gurmukhi. -/
def gurmukhiScript : CodeTable := #[
  ⟨0xa01, 0xa03, 1⟩, ⟨0xa05, 0xa0a, 1⟩, ⟨0xa0f, 0xa10, 1⟩, ⟨0xa13, 0xa28, 1⟩, ⟨0xa2a, 0xa30, 1⟩,
  ⟨0xa32, 0xa33, 1⟩, ⟨0xa35, 0xa36, 1⟩, ⟨0xa38, 0xa39, 1⟩, ⟨0xa3c, 0xa3c, 1⟩, ⟨0xa3e, 0xa42, 1⟩,
  ⟨0xa47, 0xa48, 1⟩, ⟨0xa4b, 0xa4d, 1⟩, ⟨0xa51, 0xa51, 1⟩, ⟨0xa59, 0xa5c, 1⟩, ⟨0xa5e, 0xa5e, 1⟩,
  ⟨0xa66, 0xa76, 1⟩]

/-- The script Han. -/
def hanScript : CodeTable := #[
  ⟨0x2e80, 0x2e99, 1⟩, ⟨0x2e9b, 0x2ef3, 1⟩, ⟨0x2f00, 0x2fd5, 1⟩, ⟨0x3005, 0x3005, 1⟩,
  ⟨0x3007, 0x3007, 1⟩, ⟨0x3021, 0x3029, 1⟩, ⟨0x3038, 0x303b, 1⟩, ⟨0x3400, 0x4dbf, 1⟩,
  ⟨0x4e00, 0x9fff, 1⟩, ⟨0xf900, 0xfa6d, 1⟩, ⟨0xfa70, 0xfad9, 1⟩, ⟨0x16fe2, 0x16fe3, 1⟩,
  ⟨0x16ff0, 0x16ff6, 1⟩, ⟨0x20000, 0x2a6df, 1⟩, ⟨0x2a700, 0x2b81d, 1⟩, ⟨0x2b820, 0x2cead, 1⟩,
  ⟨0x2ceb0, 0x2ebe0, 1⟩, ⟨0x2ebf0, 0x2ee5d, 1⟩, ⟨0x2f800, 0x2fa1d, 1⟩, ⟨0x30000, 0x3134a, 1⟩,
  ⟨0x31350, 0x33479, 1⟩]

/-- The script Hangul. -/
def hangulScript : CodeTable := #[
  ⟨0x1100, 0x11ff, 1⟩, ⟨0x302e, 0x302f, 1⟩, ⟨0x3131, 0x318e, 1⟩, ⟨0x3200, 0x321e, 1⟩,
  ⟨0x3260, 0x327e, 1⟩, ⟨0xa960, 0xa97c, 1⟩, ⟨0xac00, 0xd7a3, 1⟩, ⟨0xd7b0, 0xd7c6, 1⟩,
  ⟨0xd7cb, 0xd7fb, 1⟩, ⟨0xffa0, 0xffbe, 1⟩, ⟨0xffc2, 0xffc7, 1⟩, ⟨0xffca, 0xffcf, 1⟩,
  ⟨0xffd2, 0xffd7, 1⟩, ⟨0xffda, 0xffdc, 1⟩]

/-- The script Hebrew. -/
def hebrewScript : CodeTable := #[
  ⟨0x591, 0x5c7, 1⟩, ⟨0x5d0, 0x5ea, 1⟩, ⟨0x5ef, 0x5f4, 1⟩, ⟨0xfb1d, 0xfb36, 1⟩,
  ⟨0xfb38, 0xfb3c, 1⟩, ⟨0xfb3e, 0xfb3e, 1⟩, ⟨0xfb40, 0xfb41, 1⟩, ⟨0xfb43, 0xfb44, 1⟩,
  ⟨0xfb46, 0xfb4f, 1⟩]

/-- The script Hiragana. -/
def hiraganaScript : CodeTable := #[
  ⟨0x3041, 0x3096, 1⟩, ⟨0x309d, 0x309f, 1⟩, ⟨0x1b001, 0x1b11f, 1⟩, ⟨0x1b132, 0x1b132, 1⟩,
  ⟨0x1b150, 0x1b152, 1⟩, ⟨0x1f200, 0x1f200, 1⟩]

/-- The script Inherited. -/
def inheritedScript : CodeTable := #[
  ⟨0x300, 0x36f, 1⟩, ⟨0x485, 0x486, 1⟩, ⟨0x64b, 0x655, 1⟩, ⟨0x670, 0x670, 1⟩, ⟨0x951, 0x954, 1⟩,
  ⟨0x1ab0, 0x1add, 1⟩, ⟨0x1ae0, 0x1aeb, 1⟩, ⟨0x1cd0, 0x1cd2, 1⟩, ⟨0x1cd4, 0x1ce0, 1⟩,
  ⟨0x1ce2, 0x1ce8, 1⟩, ⟨0x1ced, 0x1ced, 1⟩, ⟨0x1cf4, 0x1cf4, 1⟩, ⟨0x1cf8, 0x1cf9, 1⟩,
  ⟨0x1dc0, 0x1dff, 1⟩, ⟨0x200c, 0x200d, 1⟩, ⟨0x20d0, 0x20f0, 1⟩, ⟨0x302a, 0x302d, 1⟩,
  ⟨0x3099, 0x309a, 1⟩, ⟨0xfe00, 0xfe0f, 1⟩, ⟨0xfe20, 0xfe2d, 1⟩, ⟨0x101fd, 0x101fd, 1⟩,
  ⟨0x102e0, 0x102e0, 1⟩, ⟨0x1133b, 0x1133b, 1⟩, ⟨0x1cf00, 0x1cf2d, 1⟩, ⟨0x1cf30, 0x1cf46, 1⟩,
  ⟨0x1d167, 0x1d169, 1⟩, ⟨0x1d17b, 0x1d182, 1⟩, ⟨0x1d185, 0x1d18b, 1⟩, ⟨0x1d1aa, 0x1d1ad, 1⟩,
  ⟨0xe0100, 0xe01ef, 1⟩]

/-- The script Kannada. -/
def kannadaScript : CodeTable := #[
  ⟨0xc80, 0xc8c, 1⟩, ⟨0xc8e, 0xc90, 1⟩, ⟨0xc92, 0xca8, 1⟩, ⟨0xcaa, 0xcb3, 1⟩, ⟨0xcb5, 0xcb9, 1⟩,
  ⟨0xcbc, 0xcc4, 1⟩, ⟨0xcc6, 0xcc8, 1⟩, ⟨0xcca, 0xccd, 1⟩, ⟨0xcd5, 0xcd6, 1⟩, ⟨0xcdc, 0xcde, 1⟩,
  ⟨0xce0, 0xce3, 1⟩, ⟨0xce6, 0xcef, 1⟩, ⟨0xcf1, 0xcf3, 1⟩]

/-- The script Katakana. -/
def katakanaScript : CodeTable := #[
  ⟨0x30a1, 0x30fa, 1⟩, ⟨0x30fd, 0x30ff, 1⟩, ⟨0x31f0, 0x31ff, 1⟩, ⟨0x32d0, 0x32fe, 1⟩,
  ⟨0x3300, 0x3357, 1⟩, ⟨0xff66, 0xff6f, 1⟩, ⟨0xff71, 0xff9d, 1⟩, ⟨0x1aff0, 0x1aff3, 1⟩,
  ⟨0x1aff5, 0x1affb, 1⟩, ⟨0x1affd, 0x1affe, 1⟩, ⟨0x1b000, 0x1b000, 1⟩, ⟨0x1b120, 0x1b122, 1⟩,
  ⟨0x1b155, 0x1b155, 1⟩, ⟨0x1b164, 0x1b167, 1⟩]

/-- The script Khmer. -/
def khmerScript : CodeTable := #[
  ⟨0x1780, 0x17dd, 1⟩, ⟨0x17e0, 0x17e9, 1⟩, ⟨0x17f0, 0x17f9, 1⟩, ⟨0x19e0, 0x19ff, 1⟩]

/-- The script Lao. -/
def laoScript : CodeTable := #[
  ⟨0xe81, 0xe82, 1⟩, ⟨0xe84, 0xe84, 1⟩, ⟨0xe86, 0xe8a, 1⟩, ⟨0xe8c, 0xea3, 1⟩, ⟨0xea5, 0xea5, 1⟩,
  ⟨0xea7, 0xebd, 1⟩, ⟨0xec0, 0xec4, 1⟩, ⟨0xec6, 0xec6, 1⟩, ⟨0xec8, 0xece, 1⟩, ⟨0xed0, 0xed9, 1⟩,
  ⟨0xedc, 0xedf, 1⟩]

/-- The script Latin. -/
def latinScript : CodeTable := #[
  ⟨0x41, 0x5a, 1⟩, ⟨0x61, 0x7a, 1⟩, ⟨0xaa, 0xaa, 1⟩, ⟨0xba, 0xba, 1⟩, ⟨0xc0, 0xd6, 1⟩,
  ⟨0xd8, 0xf6, 1⟩, ⟨0xf8, 0x2b8, 1⟩, ⟨0x2e0, 0x2e4, 1⟩, ⟨0x1d00, 0x1d25, 1⟩, ⟨0x1d2c, 0x1d5c, 1⟩,
  ⟨0x1d62, 0x1d65, 1⟩, ⟨0x1d6b, 0x1d77, 1⟩, ⟨0x1d79, 0x1dbe, 1⟩, ⟨0x1e00, 0x1eff, 1⟩,
  ⟨0x2071, 0x2071, 1⟩, ⟨0x207f, 0x207f, 1⟩, ⟨0x2090, 0x209c, 1⟩, ⟨0x212a, 0x212b, 1⟩,
  ⟨0x2132, 0x2132, 1⟩, ⟨0x214e, 0x214e, 1⟩, ⟨0x2160, 0x2188, 1⟩, ⟨0x2c60, 0x2c7f, 1⟩,
  ⟨0xa722, 0xa787, 1⟩, ⟨0xa78b, 0xa7dc, 1⟩, ⟨0xa7f1, 0xa7ff, 1⟩, ⟨0xab30, 0xab5a, 1⟩,
  ⟨0xab5c, 0xab64, 1⟩, ⟨0xab66, 0xab69, 1⟩, ⟨0xfb00, 0xfb06, 1⟩, ⟨0xff21, 0xff3a, 1⟩,
  ⟨0xff41, 0xff5a, 1⟩, ⟨0x10780, 0x10785, 1⟩, ⟨0x10787, 0x107b0, 1⟩, ⟨0x107b2, 0x107ba, 1⟩,
  ⟨0x1df00, 0x1df1e, 1⟩, ⟨0x1df25, 0x1df2a, 1⟩]

/-- The script Malayalam. -/
def malayalamScript : CodeTable := #[
  ⟨0xd00, 0xd0c, 1⟩, ⟨0xd0e, 0xd10, 1⟩, ⟨0xd12, 0xd44, 1⟩, ⟨0xd46, 0xd48, 1⟩, ⟨0xd4a, 0xd4f, 1⟩,
  ⟨0xd54, 0xd63, 1⟩, ⟨0xd66, 0xd7f, 1⟩]

/-- The script Mongolian. -/
def mongolianScript : CodeTable := #[
  ⟨0x1800, 0x1801, 1⟩, ⟨0x1804, 0x1804, 1⟩, ⟨0x1806, 0x1819, 1⟩, ⟨0x1820, 0x1878, 1⟩,
  ⟨0x1880, 0x18aa, 1⟩, ⟨0x11660, 0x1166c, 1⟩]

/-- The script Myanmar. -/
def myanmarScript : CodeTable := #[
  ⟨0x1000, 0x109f, 1⟩, ⟨0xa9e0, 0xa9fe, 1⟩, ⟨0xaa60, 0xaa7f, 1⟩, ⟨0x116d0, 0x116e3, 1⟩]

/-- The script Oriya. -/
def oriyaScript : CodeTable := #[
  ⟨0xb01, 0xb03, 1⟩, ⟨0xb05, 0xb0c, 1⟩, ⟨0xb0f, 0xb10, 1⟩, ⟨0xb13, 0xb28, 1⟩, ⟨0xb2a, 0xb30, 1⟩,
  ⟨0xb32, 0xb33, 1⟩, ⟨0xb35, 0xb39, 1⟩, ⟨0xb3c, 0xb44, 1⟩, ⟨0xb47, 0xb48, 1⟩, ⟨0xb4b, 0xb4d, 1⟩,
  ⟨0xb55, 0xb57, 1⟩, ⟨0xb5c, 0xb5d, 1⟩, ⟨0xb5f, 0xb63, 1⟩, ⟨0xb66, 0xb77, 1⟩]

/-- The script Runic. -/
def runicScript : CodeTable := #[
  ⟨0x16a0, 0x16ea, 1⟩, ⟨0x16ee, 0x16f8, 1⟩]

/-- The script Sinhala. -/
def sinhalaScript : CodeTable := #[
  ⟨0xd81, 0xd83, 1⟩, ⟨0xd85, 0xd96, 1⟩, ⟨0xd9a, 0xdb1, 1⟩, ⟨0xdb3, 0xdbb, 1⟩, ⟨0xdbd, 0xdbd, 1⟩,
  ⟨0xdc0, 0xdc6, 1⟩, ⟨0xdca, 0xdca, 1⟩, ⟨0xdcf, 0xdd4, 1⟩, ⟨0xdd6, 0xdd6, 1⟩, ⟨0xdd8, 0xddf, 1⟩,
  ⟨0xde6, 0xdef, 1⟩, ⟨0xdf2, 0xdf4, 1⟩, ⟨0x111e1, 0x111f4, 1⟩]

/-- The script Syriac. -/
def syriacScript : CodeTable := #[
  ⟨0x700, 0x70d, 1⟩, ⟨0x70f, 0x74a, 1⟩, ⟨0x74d, 0x74f, 1⟩, ⟨0x860, 0x86a, 1⟩]

/-- The script Tamil. -/
def tamilScript : CodeTable := #[
  ⟨0xb82, 0xb83, 1⟩, ⟨0xb85, 0xb8a, 1⟩, ⟨0xb8e, 0xb90, 1⟩, ⟨0xb92, 0xb95, 1⟩, ⟨0xb99, 0xb9a, 1⟩,
  ⟨0xb9c, 0xb9c, 1⟩, ⟨0xb9e, 0xb9f, 1⟩, ⟨0xba3, 0xba4, 1⟩, ⟨0xba8, 0xbaa, 1⟩, ⟨0xbae, 0xbb9, 1⟩,
  ⟨0xbbe, 0xbc2, 1⟩, ⟨0xbc6, 0xbc8, 1⟩, ⟨0xbca, 0xbcd, 1⟩, ⟨0xbd0, 0xbd0, 1⟩, ⟨0xbd7, 0xbd7, 1⟩,
  ⟨0xbe6, 0xbfa, 1⟩, ⟨0x11fc0, 0x11ff1, 1⟩, ⟨0x11fff, 0x11fff, 1⟩]

/-- The script Telugu. -/
def teluguScript : CodeTable := #[
  ⟨0xc00, 0xc0c, 1⟩, ⟨0xc0e, 0xc10, 1⟩, ⟨0xc12, 0xc28, 1⟩, ⟨0xc2a, 0xc39, 1⟩, ⟨0xc3c, 0xc44, 1⟩,
  ⟨0xc46, 0xc48, 1⟩, ⟨0xc4a, 0xc4d, 1⟩, ⟨0xc55, 0xc56, 1⟩, ⟨0xc58, 0xc5a, 1⟩, ⟨0xc5c, 0xc5d, 1⟩,
  ⟨0xc60, 0xc63, 1⟩, ⟨0xc66, 0xc6f, 1⟩, ⟨0xc77, 0xc7f, 1⟩]

/-- The script Thai. -/
def thaiScript : CodeTable := #[
  ⟨0xe01, 0xe3a, 1⟩, ⟨0xe40, 0xe5b, 1⟩]

/-- The script Tibetan. -/
def tibetanScript : CodeTable := #[
  ⟨0xf00, 0xf47, 1⟩, ⟨0xf49, 0xf6c, 1⟩, ⟨0xf71, 0xf97, 1⟩, ⟨0xf99, 0xfbc, 1⟩, ⟨0xfbe, 0xfcc, 1⟩,
  ⟨0xfce, 0xfd4, 1⟩, ⟨0xfd9, 0xfda, 1⟩]

end CodeTable

inductive Script where
  | arabic
  | armenian
  | bengali
  | bopomofo
  | braille
  | cherokee
  | common
  | coptic
  | cyrillic
  | devanagari
  | ethiopic
  | georgian
  | greek
  | gujarati
  | gurmukhi
  | han
  | hangul
  | hebrew
  | hiragana
  | inherited
  | kannada
  | katakana
  | khmer
  | lao
  | latin
  | malayalam
  | mongolian
  | myanmar
  | oriya
  | runic
  | sinhala
  | syriac
  | tamil
  | telugu
  | thai
  | tibetan
deriving DecidableEq, Repr

namespace Script

def all : List Script :=
  [arabic, armenian, bengali, bopomofo, braille, cherokee, common, coptic, cyrillic, devanagari,
    ethiopic, georgian, greek, gujarati, gurmukhi, han, hangul, hebrew, hiragana, inherited,
    kannada, katakana, khmer, lao, latin, malayalam, mongolian, myanmar, oriya, runic, sinhala,
    syriac, tamil, telugu, thai, tibetan]

def table : Script → CodeTable
  | .arabic => .arabicScript
  | .armenian => .armenianScript
  | .bengali => .bengaliScript
  | .bopomofo => .bopomofoScript
  | .braille => .brailleScript
  | .cherokee => .cherokeeScript
  | .common => .commonScript
  | .coptic => .copticScript
  | .cyrillic => .cyrillicScript
  | .devanagari => .devanagariScript
  | .ethiopic => .ethiopicScript
  | .georgian => .georgianScript
  | .greek => .greekScript
  | .gujarati => .gujaratiScript
  | .gurmukhi => .gurmukhiScript
  | .han => .hanScript
  | .hangul => .hangulScript
  | .hebrew => .hebrewScript
  | .hiragana => .hiraganaScript
  | .inherited => .inheritedScript
  | .kannada => .kannadaScript
  | .katakana => .katakanaScript
  | .khmer => .khmerScript
  | .lao => .laoScript
  | .latin => .latinScript
  | .malayalam => .malayalamScript
  | .mongolian => .mongolianScript
  | .myanmar => .myanmarScript
  | .oriya => .oriyaScript
  | .runic => .runicScript
  | .sinhala => .sinhalaScript
  | .syriac => .syriacScript
  | .tamil => .tamilScript
  | .telugu => .teluguScript
  | .thai => .thaiScript
  | .tibetan => .tibetanScript

/-- Short and long name of a script. -/
def names : Script → String × String
  | .arabic => ("Arab", "Arabic")
  | .armenian => ("Armn", "Armenian")
  | .bengali => ("Beng", "Bengali")
  | .bopomofo => ("Bopo", "Bopomofo")
  | .braille => ("Brai", "Braille")
  | .cherokee => ("Cher", "Cherokee")
  | .common => ("Zyyy", "Common")
  | .coptic => ("Copt", "Coptic")
  | .cyrillic => ("Cyrl", "Cyrillic")
  | .devanagari => ("Deva", "Devanagari")
  | .ethiopic => ("Ethi", "Ethiopic")
  | .georgian => ("Geor", "Georgian")
  | .greek => ("Grek", "Greek")
  | .gujarati => ("Gujr", "Gujarati")
  | .gurmukhi => ("Guru", "Gurmukhi")
  | .han => ("Hani", "Han")
  | .hangul => ("Hang", "Hangul")
  | .hebrew => ("Hebr", "Hebrew")
  | .hiragana => ("Hira", "Hiragana")
  | .inherited => ("Zinh", "Inherited")
  | .kannada => ("Knda", "Kannada")
  | .katakana => ("Kana", "Katakana")
  | .khmer => ("Khmr", "Khmer")
  | .lao => ("Laoo", "Lao")
  | .latin => ("Latn", "Latin")
  | .malayalam => ("Mlym", "Malayalam")
  | .mongolian => ("Mong", "Mongolian")
  | .myanmar => ("Mymr", "Myanmar")
  | .oriya => ("Orya", "Oriya")
  | .runic => ("Runr", "Runic")
  | .sinhala => ("Sinh", "Sinhala")
  | .syriac => ("Syrc", "Syriac")
  | .tamil => ("Taml", "Tamil")
  | .telugu => ("Telu", "Telugu")
  | .thai => ("Thai", "Thai")
  | .tibetan => ("Tibt", "Tibetan")

end Script
end RequestBinding
