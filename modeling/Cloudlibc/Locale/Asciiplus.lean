import Cloudlibc.Foundations.PackedTable
import Cloudlibc.Locale.Ctype

/-!
# Supersets of ASCII

The sixteen character sets of `libc/locale/ctype/asciiplus.h` are supersets of ASCII with one byte
a character. Each has a table from bytes to characters for the decoder, and two tables that the
encoder searches for a character. On all of them the decoder undoes the encoder
(`asciiplus_undoes`), since the tables agree (`asciiplusTables_agree`).
-/

set_option autoImplicit false

namespace Cloudlibc.Locale

open Cloudlibc.PackedTable Option

/-! ## Encoder and decoder -/

/-- `struct asciiplus`. -/
structure Asciiplus where
  mbtoc16 : Table
  c16tombC16 : Table
  c16tombB : Table

/-- `asciiplus_mbtoc32()`. -/
def asciiplusMbtoc32 (ap : Asciiplus) (s : List UInt8) (n : ℕ) (ps : Mbstate) :
    Option Mbtoc32Result := do
  if n < 1 then
    return .incomplete ps
  else
    let ch := (← s[0]?).toNat
    if ch < 128 then
      return .character ch 1 .setInit
    else
      let c16 ← ap.mbtoc16.get? (ch - 128)
      if c16 = 0 then
        return .error .EILSEQ
      else
        return .character c16 1 .setInit

/-- `asciiplus_c32tomb()`. -/
def asciiplusC32tomb (ap : Asciiplus) (c32 : ℕ) : Option (Except Errno (List UInt8)) := do
  if c32 < 128 then
    return .ok [.ofNat c32]
  else
    let min ← lastNotAbove ap.c16tombC16.get? 128 c32
    let c16 ← ap.c16tombC16.get? min
    if c32 ≠ c16 then
      return .error .EILSEQ
    else
      let b ← ap.c16tombB.get? min
      return .ok [.ofNat b]

/-! ## Tables -/

/-- `asciiplus_iso_8859_2`. -/
def asciiplusIso8859_2 : Asciiplus where
  mbtoc16 := ⟨16, 16, 8, 128, [[
    0x0080008100820083008400850086008700880089008a008b008c008d008e008f,
    0x0090009100920093009400950096009700980099009a009b009c009d009e009f,
    0x00a0010402d8014100a4013d015a00a700a80160015e0164017900ad017d017b,
    0x00b0010502db014200b4013e015b02c700b80161015f0165017a02dd017e017c,
    0x015400c100c2010200c40139010600c7010c00c9011800cb011a00cd00ce010e,
    0x01100143014700d300d4015000d600d70158016e00da017000dc00dd016200df,
    0x015500e100e2010300e4013a010700e7010d00e9011900eb011b00ed00ee010f,
    0x01110144014800f300f4015100f600f70159016f00fa017100fc00fd016302d9]]⟩
  c16tombC16 := ⟨16, 16, 8, 128, [[
    0x0080008100820083008400850086008700880089008a008b008c008d008e008f,
    0x0090009100920093009400950096009700980099009a009b009c009d009e009f,
    0x00a000a400a700a800ad00b000b400b800c100c200c400c700c900cb00cd00ce,
    0x00d300d400d600d700da00dc00dd00df00e100e200e400e700e900eb00ed00ee,
    0x00f300f400f600f700fa00fc00fd010201030104010501060107010c010d010e,
    0x010f0110011101180119011a011b0139013a013d013e01410142014301440147,
    0x0148015001510154015501580159015a015b015e015f01600161016201630164,
    0x0165016e016f017001710179017a017b017c017d017e02c702d802d902db02dd]]⟩
  c16tombB := ⟨8, 16, 8, 128, [[
    0x808182838485868788898a8b8c8d8e8f,
    0x909192939495969798999a9b9c9d9e9f,
    0xa0a4a7a8adb0b4b8c1c2c4c7c9cbcdce,
    0xd3d4d6d7dadcdddfe1e2e4e7e9ebedee,
    0xf3f4f6f7fafcfdc3e3a1b1c6e6c8e8cf,
    0xefd0f0caeaccecc5e5a5b5a3b3d1f1d2,
    0xf2d5f5c0e0d8f8a6b6aabaa9b9defeab,
    0xbbd9f9dbfbacbcafbfaebeb7a2ffb2bd]]⟩

/-- `asciiplus_iso_8859_5`. -/
def asciiplusIso8859_5 : Asciiplus where
  mbtoc16 := ⟨16, 16, 8, 128, [[
    0x0080008100820083008400850086008700880089008a008b008c008d008e008f,
    0x0090009100920093009400950096009700980099009a009b009c009d009e009f,
    0x00a0040104020403040404050406040704080409040a040b040c00ad040e040f,
    0x0410041104120413041404150416041704180419041a041b041c041d041e041f,
    0x0420042104220423042404250426042704280429042a042b042c042d042e042f,
    0x0430043104320433043404350436043704380439043a043b043c043d043e043f,
    0x0440044104420443044404450446044704480449044a044b044c044d044e044f,
    0x2116045104520453045404550456045704580459045a045b045c00a7045e045f]]⟩
  c16tombC16 := ⟨16, 16, 8, 128, [[
    0x0080008100820083008400850086008700880089008a008b008c008d008e008f,
    0x0090009100920093009400950096009700980099009a009b009c009d009e009f,
    0x00a000a700ad040104020403040404050406040704080409040a040b040c040e,
    0x040f0410041104120413041404150416041704180419041a041b041c041d041e,
    0x041f0420042104220423042404250426042704280429042a042b042c042d042e,
    0x042f0430043104320433043404350436043704380439043a043b043c043d043e,
    0x043f0440044104420443044404450446044704480449044a044b044c044d044e,
    0x044f045104520453045404550456045704580459045a045b045c045e045f2116]]⟩
  c16tombB := ⟨8, 16, 8, 128, [[
    0x808182838485868788898a8b8c8d8e8f,
    0x909192939495969798999a9b9c9d9e9f,
    0xa0fdada1a2a3a4a5a6a7a8a9aaabacae,
    0xafb0b1b2b3b4b5b6b7b8b9babbbcbdbe,
    0xbfc0c1c2c3c4c5c6c7c8c9cacbcccdce,
    0xcfd0d1d2d3d4d5d6d7d8d9dadbdcddde,
    0xdfe0e1e2e3e4e5e6e7e8e9eaebecedee,
    0xeff1f2f3f4f5f6f7f8f9fafbfcfefff0]]⟩

/-- `asciiplus_iso_8859_9`. -/
def asciiplusIso8859_9 : Asciiplus where
  mbtoc16 := ⟨16, 16, 8, 128, [[
    0x0080008100820083008400850086008700880089008a008b008c008d008e008f,
    0x0090009100920093009400950096009700980099009a009b009c009d009e009f,
    0x00a000a100a200a300a400a500a600a700a800a900aa00ab00ac00ad00ae00af,
    0x00b000b100b200b300b400b500b600b700b800b900ba00bb00bc00bd00be00bf,
    0x00c000c100c200c300c400c500c600c700c800c900ca00cb00cc00cd00ce00cf,
    0x011e00d100d200d300d400d500d600d700d800d900da00db00dc0130015e00df,
    0x00e000e100e200e300e400e500e600e700e800e900ea00eb00ec00ed00ee00ef,
    0x011f00f100f200f300f400f500f600f700f800f900fa00fb00fc0131015f00ff]]⟩
  c16tombC16 := ⟨16, 16, 8, 128, [[
    0x0080008100820083008400850086008700880089008a008b008c008d008e008f,
    0x0090009100920093009400950096009700980099009a009b009c009d009e009f,
    0x00a000a100a200a300a400a500a600a700a800a900aa00ab00ac00ad00ae00af,
    0x00b000b100b200b300b400b500b600b700b800b900ba00bb00bc00bd00be00bf,
    0x00c000c100c200c300c400c500c600c700c800c900ca00cb00cc00cd00ce00cf,
    0x00d100d200d300d400d500d600d700d800d900da00db00dc00df00e000e100e2,
    0x00e300e400e500e600e700e800e900ea00eb00ec00ed00ee00ef00f100f200f3,
    0x00f400f500f600f700f800f900fa00fb00fc00ff011e011f01300131015e015f]]⟩
  c16tombB := ⟨8, 16, 8, 128, [[
    0x808182838485868788898a8b8c8d8e8f,
    0x909192939495969798999a9b9c9d9e9f,
    0xa0a1a2a3a4a5a6a7a8a9aaabacadaeaf,
    0xb0b1b2b3b4b5b6b7b8b9babbbcbdbebf,
    0xc0c1c2c3c4c5c6c7c8c9cacbcccdcecf,
    0xd1d2d3d4d5d6d7d8d9dadbdcdfe0e1e2,
    0xe3e4e5e6e7e8e9eaebecedeeeff1f2f3,
    0xf4f5f6f7f8f9fafbfcffd0f0ddfddefe]]⟩

/-- `asciiplus_iso_8859_13`. -/
def asciiplusIso8859_13 : Asciiplus where
  mbtoc16 := ⟨16, 16, 8, 128, [[
    0x0080008100820083008400850086008700880089008a008b008c008d008e008f,
    0x0090009100920093009400950096009700980099009a009b009c009d009e009f,
    0x00a0201d00a200a300a4201e00a600a700d800a9015600ab00ac00ad00ae00c6,
    0x00b000b100b200b3201c00b500b600b700f800b9015700bb00bc00bd00be00e6,
    0x0104012e0100010600c400c501180112010c00c90179011601220136012a013b,
    0x01600143014500d3014c00d500d600d701720141015a016a00dc017b017d00df,
    0x0105012f0101010700e400e501190113010d00e9017a011701230137012b013c,
    0x01610144014600f3014d00f500f600f701730142015b016b00fc017c017e2019]]⟩
  c16tombC16 := ⟨16, 16, 8, 128, [[
    0x0080008100820083008400850086008700880089008a008b008c008d008e008f,
    0x0090009100920093009400950096009700980099009a009b009c009d009e009f,
    0x00a000a200a300a400a600a700a900ab00ac00ad00ae00b000b100b200b300b5,
    0x00b600b700b900bb00bc00bd00be00c400c500c600c900d300d500d600d700d8,
    0x00dc00df00e400e500e600e900f300f500f600f700f800fc0100010101040105,
    0x01060107010c010d01120113011601170118011901220123012a012b012e012f,
    0x01360137013b013c014101420143014401450146014c014d01560157015a015b,
    0x01600161016a016b017201730179017a017b017c017d017e2019201c201d201e]]⟩
  c16tombB := ⟨8, 16, 8, 128, [[
    0x808182838485868788898a8b8c8d8e8f,
    0x909192939495969798999a9b9c9d9e9f,
    0xa0a2a3a4a6a7a9abacadaeb0b1b2b3b5,
    0xb6b7b9bbbcbdbec4c5afc9d3d5d6d7a8,
    0xdcdfe4e5bfe9f3f5f6f7b8fcc2e2c0e0,
    0xc3e3c8e8c7e7cbebc6e6ccecceeec1e1,
    0xcdedcfefd9f9d1f1d2f2d4f4aabadafa,
    0xd0f0dbfbd8f8caeaddfddefeffb4a1a5]]⟩

/-- `asciiplus_koi8_r`. -/
def asciiplusKoi8R : Asciiplus where
  mbtoc16 := ⟨16, 16, 8, 128, [[
    0x25002502250c251025142518251c2524252c2534253c258025842588258c2590,
    0x259125922593232025a02219221a22482264226500a0232100b000b200b700f7,
    0x25502551255204512553255425552556255725582559255a255b255c255d255e,
    0x255f25602561040125622563256425652566256725682569256a256b256c00a9,
    0x044e0430043104460434043504440433044504380439043a043b043c043d043e,
    0x043f044f044004410442044304360432044c044b04370448044d04490447044a,
    0x042e0410041104260414041504240413042504180419041a041b041c041d041e,
    0x041f042f042004210422042304160412042c042b04170428042d04290427042a]]⟩
  c16tombC16 := ⟨16, 16, 8, 128, [[
    0x00a000a900b000b200b700f70401041004110412041304140415041604170418,
    0x0419041a041b041c041d041e041f042004210422042304240425042604270428,
    0x0429042a042b042c042d042e042f043004310432043304340435043604370438,
    0x0439043a043b043c043d043e043f044004410442044304440445044604470448,
    0x0449044a044b044c044d044e044f04512219221a224822642265232023212500,
    0x2502250c251025142518251c2524252c2534253c255025512552255325542555,
    0x2556255725582559255a255b255c255d255e255f256025612562256325642565,
    0x2566256725682569256a256b256c258025842588258c259025912592259325a0]]⟩
  c16tombB := ⟨8, 16, 8, 128, [[
    0x9abf9c9d9e9fb3e1e2f7e7e4e5f6fae9,
    0xeaebecedeeeff0f2f3f4f5e6e8e3fefb,
    0xfdfff9f8fce0f1c1c2d7c7c4c5d6dac9,
    0xcacbcccdcecfd0d2d3d4d5c6c8c3dedb,
    0xdddfd9d8dcc0d1a39596979899939b80,
    0x8182838485868788898aa0a1a2a4a5a6,
    0xa7a8a9aaabacadaeafb0b1b2b4b5b6b7,
    0xb8b9babbbcbdbe8b8c8d8e8f90919294]]⟩

/-- `asciiplus_koi8_u`. -/
def asciiplusKoi8U : Asciiplus where
  mbtoc16 := ⟨16, 16, 8, 128, [[
    0x25002502250c251025142518251c2524252c2534253c258025842588258c2590,
    0x259125922593232025a02219221a22482264226500a0232100b000b200b700f7,
    0x25502551255204510454255404560457255725582559255a255b0491255d255e,
    0x255f25602561040104042563040604072566256725682569256a0490256c00a9,
    0x044e0430043104460434043504440433044504380439043a043b043c043d043e,
    0x043f044f044004410442044304360432044c044b04370448044d04490447044a,
    0x042e0410041104260414041504240413042504180419041a041b041c041d041e,
    0x041f042f042004210422042304160412042c042b04170428042d04290427042a]]⟩
  c16tombC16 := ⟨16, 16, 8, 128, [[
    0x00a000a900b000b200b700f70401040404060407041004110412041304140415,
    0x0416041704180419041a041b041c041d041e041f042004210422042304240425,
    0x0426042704280429042a042b042c042d042e042f043004310432043304340435,
    0x0436043704380439043a043b043c043d043e043f044004410442044304440445,
    0x0446044704480449044a044b044c044d044e044f045104540456045704900491,
    0x2219221a2248226422652320232125002502250c251025142518251c2524252c,
    0x2534253c2550255125522554255725582559255a255b255d255e255f25602561,
    0x25632566256725682569256a256c258025842588258c259025912592259325a0]]⟩
  c16tombB := ⟨8, 16, 8, 128, [[
    0x9abf9c9d9e9fb3b4b6b7e1e2f7e7e4e5,
    0xf6fae9eaebecedeeeff0f2f3f4f5e6e8,
    0xe3fefbfdfff9f8fce0f1c1c2d7c7c4c5,
    0xd6dac9cacbcccdcecfd0d2d3d4d5c6c8,
    0xc3dedbdddfd9d8dcc0d1a3a4a6a7bdad,
    0x9596979899939b808182838485868788,
    0x898aa0a1a2a5a8a9aaabacaeafb0b1b2,
    0xb5b8b9babbbcbe8b8c8d8e8f90919294]]⟩

/-- `asciiplus_windows_874`. -/
def asciiplusWindows874 : Asciiplus where
  mbtoc16 := ⟨16, 16, 8, 128, [[
    0x20ac000000000000000020260000000000000000000000000000000000000000,
    0x000020182019201c201d20222013201400000000000000000000000000000000,
    0x00a00e010e020e030e040e050e060e070e080e090e0a0e0b0e0c0e0d0e0e0e0f,
    0x0e100e110e120e130e140e150e160e170e180e190e1a0e1b0e1c0e1d0e1e0e1f,
    0x0e200e210e220e230e240e250e260e270e280e290e2a0e2b0e2c0e2d0e2e0e2f,
    0x0e300e310e320e330e340e350e360e370e380e390e3a00000000000000000e3f,
    0x0e400e410e420e430e440e450e460e470e480e490e4a0e4b0e4c0e4d0e4e0e4f,
    0x0e500e510e520e530e540e550e560e570e580e590e5a0e5b0000000000000000]]⟩
  c16tombC16 := ⟨16, 16, 8, 128, [[
    0x0000000000000000000000000000000000000000000000000000000000000000,
    0x00000000000000000000000000000000000000000000000000000000000000a0,
    0x0e010e020e030e040e050e060e070e080e090e0a0e0b0e0c0e0d0e0e0e0f0e10,
    0x0e110e120e130e140e150e160e170e180e190e1a0e1b0e1c0e1d0e1e0e1f0e20,
    0x0e210e220e230e240e250e260e270e280e290e2a0e2b0e2c0e2d0e2e0e2f0e30,
    0x0e310e320e330e340e350e360e370e380e390e3a0e3f0e400e410e420e430e44,
    0x0e450e460e470e480e490e4a0e4b0e4c0e4d0e4e0e4f0e500e510e520e530e54,
    0x0e550e560e570e580e590e5a0e5b2013201420182019201c201d2022202620ac]]⟩
  c16tombB := ⟨8, 16, 8, 128, [[
    0x81828384868788898a8b8c8d8e8f9098,
    0x999a9b9c9d9e9fdbdcdddefcfdfeffa0,
    0xa1a2a3a4a5a6a7a8a9aaabacadaeafb0,
    0xb1b2b3b4b5b6b7b8b9babbbcbdbebfc0,
    0xc1c2c3c4c5c6c7c8c9cacbcccdcecfd0,
    0xd1d2d3d4d5d6d7d8d9dadfe0e1e2e3e4,
    0xe5e6e7e8e9eaebecedeeeff0f1f2f3f4,
    0xf5f6f7f8f9fafb969791929394958580]]⟩

/-- `asciiplus_windows_1250`. -/
def asciiplusWindows1250 : Asciiplus where
  mbtoc16 := ⟨16, 16, 8, 128, [[
    0x20ac0000201a0000201e2026202020210000203001602039015a0164017d0179,
    0x000020182019201c201d202220132014000021220161203a015b0165017e017a,
    0x00a002c702d8014100a4010400a600a700a800a9015e00ab00ac00ad00ae017b,
    0x00b000b102db014200b400b500b600b700b80105015f00bb013d02dd013e017c,
    0x015400c100c2010200c40139010600c7010c00c9011800cb011a00cd00ce010e,
    0x01100143014700d300d4015000d600d70158016e00da017000dc00dd016200df,
    0x015500e100e2010300e4013a010700e7010d00e9011900eb011b00ed00ee010f,
    0x01110144014800f300f4015100f600f70159016f00fa017100fc00fd016302d9]]⟩
  c16tombC16 := ⟨16, 16, 8, 128, [[
    0x0000000000000000000000a000a400a600a700a800a900ab00ac00ad00ae00b0,
    0x00b100b400b500b600b700b800bb00c100c200c400c700c900cb00cd00ce00d3,
    0x00d400d600d700da00dc00dd00df00e100e200e400e700e900eb00ed00ee00f3,
    0x00f400f600f700fa00fc00fd010201030104010501060107010c010d010e010f,
    0x0110011101180119011a011b0139013a013d013e014101420143014401470148,
    0x015001510154015501580159015a015b015e015f016001610162016301640165,
    0x016e016f017001710179017a017b017c017d017e02c702d802d902db02dd2013,
    0x201420182019201a201c201d201e202020212022202620302039203a20ac2122]]⟩
  c16tombB := ⟨8, 16, 8, 128, [[
    0x8183889098a0a4a6a7a8a9abacadaeb0,
    0xb1b4b5b6b7b8bbc1c2c4c7c9cbcdced3,
    0xd4d6d7dadcdddfe1e2e4e7e9ebedeef3,
    0xf4f6f7fafcfdc3e3a5b9c6e6c8e8cfef,
    0xd0f0caeaccecc5e5bcbea3b3d1f1d2f2,
    0xd5f5c0e0d8f88c9caaba8a9adefe8d9d,
    0xd9f9dbfb8f9fafbf8e9ea1a2ffb2bd96,
    0x9791928293948486879585898b9b8099]]⟩

/-- `asciiplus_windows_1251`. -/
def asciiplusWindows1251 : Asciiplus where
  mbtoc16 := ⟨16, 16, 8, 128, [[
    0x04020403201a0453201e20262020202120ac203004092039040a040c040b040f,
    0x045220182019201c201d202220132014000021220459203a045a045c045b045f,
    0x00a0040e045e040800a4049000a600a7040100a9040400ab00ac00ad00ae0407,
    0x00b000b104060456049100b500b600b704512116045400bb0458040504550457,
    0x0410041104120413041404150416041704180419041a041b041c041d041e041f,
    0x0420042104220423042404250426042704280429042a042b042c042d042e042f,
    0x0430043104320433043404350436043704380439043a043b043c043d043e043f,
    0x0440044104420443044404450446044704480449044a044b044c044d044e044f]]⟩
  c16tombC16 := ⟨16, 16, 8, 128, [[
    0x000000a000a400a600a700a900ab00ac00ad00ae00b000b100b500b600b700bb,
    0x040104020403040404050406040704080409040a040b040c040e040f04100411,
    0x04120413041404150416041704180419041a041b041c041d041e041f04200421,
    0x04220423042404250426042704280429042a042b042c042d042e042f04300431,
    0x04320433043404350436043704380439043a043b043c043d043e043f04400441,
    0x04420443044404450446044704480449044a044b044c044d044e044f04510452,
    0x0453045404550456045704580459045a045b045c045e045f0490049120132014,
    0x20182019201a201c201d201e202020212022202620302039203a20ac21162122]]⟩
  c16tombB := ⟨8, 16, 8, 128, [[
    0x98a0a4a6a7a9abacadaeb0b1b5b6b7bb,
    0xa88081aabdb2afa38a8c8e8da18fc0c1,
    0xc2c3c4c5c6c7c8c9cacbcccdcecfd0d1,
    0xd2d3d4d5d6d7d8d9dadbdcdddedfe0e1,
    0xe2e3e4e5e6e7e8e9eaebecedeeeff0f1,
    0xf2f3f4f5f6f7f8f9fafbfcfdfeffb890,
    0x83babeb3bfbc9a9c9e9da29fa5b49697,
    0x91928293948486879585898b9b88b999]]⟩

/-- `asciiplus_windows_1252`. -/
def asciiplusWindows1252 : Asciiplus where
  mbtoc16 := ⟨16, 16, 8, 128, [[
    0x20ac0000201a0192201e20262020202102c620300160203901520000017d0000,
    0x000020182019201c201d20222013201402dc21220161203a01530000017e0178,
    0x00a000a100a200a300a400a500a600a700a800a900aa00ab00ac00ad00ae00af,
    0x00b000b100b200b300b400b500b600b700b800b900ba00bb00bc00bd00be00bf,
    0x00c000c100c200c300c400c500c600c700c800c900ca00cb00cc00cd00ce00cf,
    0x00d000d100d200d300d400d500d600d700d800d900da00db00dc00dd00de00df,
    0x00e000e100e200e300e400e500e600e700e800e900ea00eb00ec00ed00ee00ef,
    0x00f000f100f200f300f400f500f600f700f800f900fa00fb00fc00fd00fe00ff]]⟩
  c16tombC16 := ⟨16, 16, 8, 128, [[
    0x0000000000000000000000a000a100a200a300a400a500a600a700a800a900aa,
    0x00ab00ac00ad00ae00af00b000b100b200b300b400b500b600b700b800b900ba,
    0x00bb00bc00bd00be00bf00c000c100c200c300c400c500c600c700c800c900ca,
    0x00cb00cc00cd00ce00cf00d000d100d200d300d400d500d600d700d800d900da,
    0x00db00dc00dd00de00df00e000e100e200e300e400e500e600e700e800e900ea,
    0x00eb00ec00ed00ee00ef00f000f100f200f300f400f500f600f700f800f900fa,
    0x00fb00fc00fd00fe00ff01520153016001610178017d017e019202c602dc2013,
    0x201420182019201a201c201d201e202020212022202620302039203a20ac2122]]⟩
  c16tombB := ⟨8, 16, 8, 128, [[
    0x818d8f909da0a1a2a3a4a5a6a7a8a9aa,
    0xabacadaeafb0b1b2b3b4b5b6b7b8b9ba,
    0xbbbcbdbebfc0c1c2c3c4c5c6c7c8c9ca,
    0xcbcccdcecfd0d1d2d3d4d5d6d7d8d9da,
    0xdbdcdddedfe0e1e2e3e4e5e6e7e8e9ea,
    0xebecedeeeff0f1f2f3f4f5f6f7f8f9fa,
    0xfbfcfdfeff8c9c8a9a9f8e9e83889896,
    0x9791928293948486879585898b9b8099]]⟩

/-- `asciiplus_windows_1253`. -/
def asciiplusWindows1253 : Asciiplus where
  mbtoc16 := ⟨16, 16, 8, 128, [[
    0x20ac0000201a0192201e20262020202100002030000020390000000000000000,
    0x000020182019201c201d202220132014000021220000203a0000000000000000,
    0x00a00385038600a300a400a500a600a700a800a9000000ab00ac00ad00ae2015,
    0x00b000b100b200b3038400b500b600b703880389038a00bb038c00bd038e038f,
    0x0390039103920393039403950396039703980399039a039b039c039d039e039f,
    0x03a003a1000003a303a403a503a603a703a803a903aa03ab03ac03ad03ae03af,
    0x03b003b103b203b303b403b503b603b703b803b903ba03bb03bc03bd03be03bf,
    0x03c003c103c203c303c403c503c603c703c803c903ca03cb03cc03cd03ce0000]]⟩
  c16tombC16 := ⟨16, 16, 8, 128, [[
    0x0000000000000000000000000000000000000000000000000000000000000000,
    0x000000a000a300a400a500a600a700a800a900ab00ac00ad00ae00b000b100b2,
    0x00b300b500b600b700bb00bd019203840385038603880389038a038c038e038f,
    0x0390039103920393039403950396039703980399039a039b039c039d039e039f,
    0x03a003a103a303a403a503a603a703a803a903aa03ab03ac03ad03ae03af03b0,
    0x03b103b203b303b403b503b603b703b803b903ba03bb03bc03bd03be03bf03c0,
    0x03c103c203c303c403c503c603c703c803c903ca03cb03cc03cd03ce20132014,
    0x201520182019201a201c201d201e202020212022202620302039203a20ac2122]]⟩
  c16tombB := ⟨8, 16, 8, 128, [[
    0x81888a8c8d8e8f90989a9c9d9e9faad2,
    0xffa0a3a4a5a6a7a8a9abacadaeb0b1b2,
    0xb3b5b6b7bbbd83b4a1a2b8b9babcbebf,
    0xc0c1c2c3c4c5c6c7c8c9cacbcccdcecf,
    0xd0d1d3d4d5d6d7d8d9dadbdcdddedfe0,
    0xe1e2e3e4e5e6e7e8e9eaebecedeeeff0,
    0xf1f2f3f4f5f6f7f8f9fafbfcfdfe9697,
    0xaf91928293948486879585898b9b8099]]⟩

/-- `asciiplus_windows_1254`. -/
def asciiplusWindows1254 : Asciiplus where
  mbtoc16 := ⟨16, 16, 8, 128, [[
    0x20ac0000201a0192201e20262020202102c62030016020390152000000000000,
    0x000020182019201c201d20222013201402dc21220161203a0153000000000178,
    0x00a000a100a200a300a400a500a600a700a800a900aa00ab00ac00ad00ae00af,
    0x00b000b100b200b300b400b500b600b700b800b900ba00bb00bc00bd00be00bf,
    0x00c000c100c200c300c400c500c600c700c800c900ca00cb00cc00cd00ce00cf,
    0x011e00d100d200d300d400d500d600d700d800d900da00db00dc0130015e00df,
    0x00e000e100e200e300e400e500e600e700e800e900ea00eb00ec00ed00ee00ef,
    0x011f00f100f200f300f400f500f600f700f800f900fa00fb00fc0131015f00ff]]⟩
  c16tombC16 := ⟨16, 16, 8, 128, [[
    0x000000000000000000000000000000a000a100a200a300a400a500a600a700a8,
    0x00a900aa00ab00ac00ad00ae00af00b000b100b200b300b400b500b600b700b8,
    0x00b900ba00bb00bc00bd00be00bf00c000c100c200c300c400c500c600c700c8,
    0x00c900ca00cb00cc00cd00ce00cf00d100d200d300d400d500d600d700d800d9,
    0x00da00db00dc00df00e000e100e200e300e400e500e600e700e800e900ea00eb,
    0x00ec00ed00ee00ef00f100f200f300f400f500f600f700f800f900fa00fb00fc,
    0x00ff011e011f0130013101520153015e015f016001610178019202c602dc2013,
    0x201420182019201a201c201d201e202020212022202620302039203a20ac2122]]⟩
  c16tombB := ⟨8, 16, 8, 128, [[
    0x818d8e8f909d9ea0a1a2a3a4a5a6a7a8,
    0xa9aaabacadaeafb0b1b2b3b4b5b6b7b8,
    0xb9babbbcbdbebfc0c1c2c3c4c5c6c7c8,
    0xc9cacbcccdcecfd1d2d3d4d5d6d7d8d9,
    0xdadbdcdfe0e1e2e3e4e5e6e7e8e9eaeb,
    0xecedeeeff1f2f3f4f5f6f7f8f9fafbfc,
    0xffd0f0ddfd8c9cdefe8a9a9f83889896,
    0x9791928293948486879585898b9b8099]]⟩

/-- `asciiplus_windows_1255`. -/
def asciiplusWindows1255 : Asciiplus where
  mbtoc16 := ⟨16, 16, 8, 128, [[
    0x20ac0000201a0192201e20262020202102c62030000020390000000000000000,
    0x000020182019201c201d20222013201402dc21220000203a0000000000000000,
    0x00a000a100a200a320aa00a500a600a700a800a900d700ab00ac00ad00ae00af,
    0x00b000b100b200b300b400b500b600b700b800b900f700bb00bc00bd00be00bf,
    0x05b005b105b205b305b405b505b605b705b805b9000005bb05bc05bd05be05bf,
    0x05c005c105c205c305f005f105f205f305f40000000000000000000000000000,
    0x05d005d105d205d305d405d505d605d705d805d905da05db05dc05dd05de05df,
    0x05e005e105e205e305e405e505e605e705e805e905ea00000000200e200f0000]]⟩
  c16tombC16 := ⟨16, 16, 8, 128, [[
    0x0000000000000000000000000000000000000000000000000000000000000000,
    0x000000000000000000000000000000a000a100a200a300a500a600a700a800a9,
    0x00ab00ac00ad00ae00af00b000b100b200b300b400b500b600b700b800b900bb,
    0x00bc00bd00be00bf00d700f7019202c602dc05b005b105b205b305b405b505b6,
    0x05b705b805b905bb05bc05bd05be05bf05c005c105c205c305d005d105d205d3,
    0x05d405d505d605d705d805d905da05db05dc05dd05de05df05e005e105e205e3,
    0x05e405e505e605e705e805e905ea05f005f105f205f305f4200e200f20132014,
    0x20182019201a201c201d201e202020212022202620302039203a20aa20ac2122]]⟩
  c16tombB := ⟨8, 16, 8, 128, [[
    0x818a8c8d8e8f909a9c9d9e9fcad9dadb,
    0xdcdddedffbfcffa0a1a2a3a5a6a7a8a9,
    0xabacadaeafb0b1b2b3b4b5b6b7b8b9bb,
    0xbcbdbebfaaba838898c0c1c2c3c4c5c6,
    0xc7c8c9cbcccdcecfd0d1d2d3e0e1e2e3,
    0xe4e5e6e7e8e9eaebecedeeeff0f1f2f3,
    0xf4f5f6f7f8f9fad4d5d6d7d8fdfe9697,
    0x91928293948486879585898b9ba48099]]⟩

/-- `asciiplus_windows_1256`. -/
def asciiplusWindows1256 : Asciiplus where
  mbtoc16 := ⟨16, 16, 8, 128, [[
    0x20ac067e201a0192201e20262020202102c62030067920390152068606980688,
    0x06af20182019201c201d20222013201406a921220691203a0153200c200d06ba,
    0x00a0060c00a200a300a400a500a600a700a800a906be00ab00ac00ad00ae00af,
    0x00b000b100b200b300b400b500b600b700b800b9061b00bb00bc00bd00be061f,
    0x06c1062106220623062406250626062706280629062a062b062c062d062e062f,
    0x063006310632063306340635063600d7063706380639063a0640064106420643,
    0x00e0064400e2064506460647064800e700e800e900ea00eb0649064a00ee00ef,
    0x064b064c064d064e00f4064f065000f7065100f9065200fb00fc200e200f06d2]]⟩
  c16tombC16 := ⟨16, 16, 8, 128, [[
    0x00a000a200a300a400a500a600a700a800a900ab00ac00ad00ae00af00b000b1,
    0x00b200b300b400b500b600b700b800b900bb00bc00bd00be00d700e000e200e7,
    0x00e800e900ea00eb00ee00ef00f400f700f900fb00fc01520153019202c6060c,
    0x061b061f062106220623062406250626062706280629062a062b062c062d062e,
    0x062f0630063106320633063406350636063706380639063a0640064106420643,
    0x064406450646064706480649064a064b064c064d064e064f0650065106520679,
    0x067e068606880691069806a906af06ba06be06c106d2200c200d200e200f2013,
    0x201420182019201a201c201d201e202020212022202620302039203a20ac2122]]⟩
  c16tombB := ⟨8, 16, 8, 128, [[
    0xa0a2a3a4a5a6a7a8a9abacadaeafb0b1,
    0xb2b3b4b5b6b7b8b9bbbcbdbed7e0e2e7,
    0xe8e9eaebeeeff4f7f9fbfc8c9c8388a1,
    0xbabfc1c2c3c4c5c6c7c8c9cacbcccdce,
    0xcfd0d1d2d3d4d5d6d8d9dadbdcdddedf,
    0xe1e3e4e5e6ecedf0f1f2f3f5f6f8fa8a,
    0x818d8f9a8e98909faac0ff9d9efdfe96,
    0x9791928293948486879585898b9b8099]]⟩

/-- `asciiplus_windows_1257`. -/
def asciiplusWindows1257 : Asciiplus where
  mbtoc16 := ⟨16, 16, 8, 128, [[
    0x20ac0000201a0000201e2026202020210000203000002039000000a802c700b8,
    0x000020182019201c201d202220132014000021220000203a000000af02db0000,
    0x00a0000000a200a300a4000000a600a700d800a9015600ab00ac00ad00ae00c6,
    0x00b000b100b200b300b400b500b600b700f800b9015700bb00bc00bd00be00e6,
    0x0104012e0100010600c400c501180112010c00c90179011601220136012a013b,
    0x01600143014500d3014c00d500d600d701720141015a016a00dc017b017d00df,
    0x0105012f0101010700e400e501190113010d00e9017a011701230137012b013c,
    0x01610144014600f3014d00f500f600f701730142015b016b00fc017c017e02d9]]⟩
  c16tombC16 := ⟨16, 16, 8, 128, [[
    0x00000000000000000000000000000000000000000000000000a000a200a300a4,
    0x00a600a700a800a900ab00ac00ad00ae00af00b000b100b200b300b400b500b6,
    0x00b700b800b900bb00bc00bd00be00c400c500c600c900d300d500d600d700d8,
    0x00dc00df00e400e500e600e900f300f500f600f700f800fc0100010101040105,
    0x01060107010c010d01120113011601170118011901220123012a012b012e012f,
    0x01360137013b013c014101420143014401450146014c014d01560157015a015b,
    0x01600161016a016b017201730179017a017b017c017d017e02c702d902db2013,
    0x201420182019201a201c201d201e202020212022202620302039203a20ac2122]]⟩
  c16tombB := ⟨8, 16, 8, 128, [[
    0x8183888a8c90989a9c9fa1a5a0a2a3a4,
    0xa6a78da9abacadae9db0b1b2b3b4b5b6,
    0xb78fb9bbbcbdbec4c5afc9d3d5d6d7a8,
    0xdcdfe4e5bfe9f3f5f6f7b8fcc2e2c0e0,
    0xc3e3c8e8c7e7cbebc6e6ccecceeec1e1,
    0xcdedcfefd9f9d1f1d2f2d4f4aabadafa,
    0xd0f0dbfbd8f8caeaddfddefe8eff9e96,
    0x9791928293948486879585898b9b8099]]⟩

/-- `asciiplus_windows_1258`. -/
def asciiplusWindows1258 : Asciiplus where
  mbtoc16 := ⟨16, 16, 8, 128, [[
    0x20ac0000201a0192201e20262020202102c62030000020390152000000000000,
    0x000020182019201c201d20222013201402dc21220000203a0153000000000178,
    0x00a000a100a200a300a400a500a600a700a800a900aa00ab00ac00ad00ae00af,
    0x00b000b100b200b300b400b500b600b700b800b900ba00bb00bc00bd00be00bf,
    0x00c000c100c2010200c400c500c600c700c800c900ca00cb030000cd00ce00cf,
    0x011000d1030900d300d401a000d600d700d800d900da00db00dc01af030300df,
    0x00e000e100e2010300e400e500e600e700e800e900ea00eb030100ed00ee00ef,
    0x011100f1032300f300f401a100f600f700f800f900fa00fb00fc01b020ab00ff]]⟩
  c16tombC16 := ⟨16, 16, 8, 128, [[
    0x00000000000000000000000000000000000000a000a100a200a300a400a500a6,
    0x00a700a800a900aa00ab00ac00ad00ae00af00b000b100b200b300b400b500b6,
    0x00b700b800b900ba00bb00bc00bd00be00bf00c000c100c200c400c500c600c7,
    0x00c800c900ca00cb00cd00ce00cf00d100d300d400d600d700d800d900da00db,
    0x00dc00df00e000e100e200e400e500e600e700e800e900ea00eb00ed00ee00ef,
    0x00f100f300f400f600f700f800f900fa00fb00fc00ff01020103011001110152,
    0x01530178019201a001a101af01b002c602dc0300030103030309032320132014,
    0x20182019201a201c201d201e202020212022202620302039203a20ab20ac2122]]⟩
  c16tombB := ⟨8, 16, 8, 128, [[
    0x818a8d8e8f909a9d9ea0a1a2a3a4a5a6,
    0xa7a8a9aaabacadaeafb0b1b2b3b4b5b6,
    0xb7b8b9babbbcbdbebfc0c1c2c4c5c6c7,
    0xc8c9cacbcdcecfd1d3d4d6d7d8d9dadb,
    0xdcdfe0e1e2e4e5e6e7e8e9eaebedeeef,
    0xf1f3f4f6f7f8f9fafbfcffc3e3d0f08c,
    0x9c9f83d5f5ddfd8898ccecded2f29697,
    0x91928293948486879585898b9bfe8099]]⟩

/-- The character sets of `asciiplus.h`. -/
inductive AsciiplusSet
  | iso8859_2
  | iso8859_5
  | iso8859_9
  | iso8859_13
  | koi8R
  | koi8U
  | windows874
  | windows1250
  | windows1251
  | windows1252
  | windows1253
  | windows1254
  | windows1255
  | windows1256
  | windows1257
  | windows1258
  deriving DecidableEq, Repr

/-- The tables of a character set. -/
def AsciiplusSet.tables : AsciiplusSet → Asciiplus
  | .iso8859_2 => asciiplusIso8859_2
  | .iso8859_5 => asciiplusIso8859_5
  | .iso8859_9 => asciiplusIso8859_9
  | .iso8859_13 => asciiplusIso8859_13
  | .koi8R => asciiplusKoi8R
  | .koi8U => asciiplusKoi8U
  | .windows874 => asciiplusWindows874
  | .windows1250 => asciiplusWindows1250
  | .windows1251 => asciiplusWindows1251
  | .windows1252 => asciiplusWindows1252
  | .windows1253 => asciiplusWindows1253
  | .windows1254 => asciiplusWindows1254
  | .windows1255 => asciiplusWindows1255
  | .windows1256 => asciiplusWindows1256
  | .windows1257 => asciiplusWindows1257
  | .windows1258 => asciiplusWindows1258

/-- The name of a character set. -/
def AsciiplusSet.codeset : AsciiplusSet → String
  | .iso8859_2 => "ISO-8859-2"
  | .iso8859_5 => "ISO-8859-5"
  | .iso8859_9 => "ISO-8859-9"
  | .iso8859_13 => "ISO-8859-13"
  | .koi8R => "KOI8-R"
  | .koi8U => "KOI8-U"
  | .windows874 => "Windows-874"
  | .windows1250 => "Windows-1250"
  | .windows1251 => "Windows-1251"
  | .windows1252 => "Windows-1252"
  | .windows1253 => "Windows-1253"
  | .windows1254 => "Windows-1254"
  | .windows1255 => "Windows-1255"
  | .windows1256 => "Windows-1256"
  | .windows1257 => "Windows-1257"
  | .windows1258 => "Windows-1258"

/-- The `lc_ctype` that `GENERATE_ASCIIPLUS_CTYPE` makes. -/
def ctypeAsciiplus (set : AsciiplusSet) : LcCtype where
  codeset := set.codeset
  mbtoc32 := asciiplusMbtoc32 set.tables
  c32tombMax := 1
  c32tomb := asciiplusC32tomb set.tables

/-! ## Round trip -/

/-- The table of the decoder has a character at the byte that the table of the encoder has for
it. Entries of the encoder below 128 are unused. -/
@[reducible]
def Asciiplus.Agree (ap : Asciiplus) : Prop :=
  ∀ i < 128, (ap.c16tombC16.get? i).all (· < 128) = true ∨
    ((ap.c16tombB.get? i).bind fun b => if b < 128 then none else ap.mbtoc16.get? (b - 128)) =
      ap.c16tombC16.get? i

theorem asciiplusTables_agree (set : AsciiplusSet) : set.tables.Agree := by
  cases set <;> decide +kernel

theorem asciiplusMbtoc32_high {ap : Asciiplus} {b c16 : ℕ} (high : 128 ≤ b) (byte : b < 256)
    (mapped : ap.mbtoc16.get? (b - 128) = some c16) (nonnull : c16 ≠ 0) (rest : List UInt8) :
    asciiplusMbtoc32 ap (.ofNat b :: rest) (rest.length + 1) .setInit =
      some (.character c16 1 .setInit) := by
  simp [asciiplusMbtoc32, toNat_ofNat_byte byte, not_lt.mpr high, mapped, nonnull]

theorem asciiplusMbtoc32_low (ap : Asciiplus) {b : ℕ} (low : b < 128) (rest : List UInt8) :
    asciiplusMbtoc32 ap (.ofNat b :: rest) (rest.length + 1) .setInit =
      some (.character b 1 .setInit) := by
  simp [asciiplusMbtoc32, toNat_ofNat_byte (show b < 256 by omega), low]

/-- **The decoders undo the encoders.** -/
theorem asciiplus_undoes (set : AsciiplusSet) (c32 : ℕ) : Undoes (ctypeAsciiplus set) c32 := by
  intro buf rest encoded
  have sizes : set.tables.c16tombC16.size = 128 ∧ set.tables.c16tombB.width = 8 := by
    cases set <;> exact ⟨rfl, rfl⟩
  simp only [ctypeAsciiplus, asciiplusC32tomb] at encoded ⊢
  by_cases low : c32 < 128
  · rw [if_pos low] at encoded
    obtain rfl := Except.ok.inj (some.inj encoded)
    exact asciiplusMbtoc32_low _ low rest
  · rw [if_neg low] at encoded
    obtain ⟨min, -, encoded⟩ := bind_eq_some_iff.mp encoded
    obtain ⟨c16, searched, encoded⟩ := bind_eq_some_iff.mp encoded
    by_cases found : c32 = c16
    · rw [if_neg (not_not.mpr found)] at encoded
      obtain ⟨b, byte, encoded⟩ := bind_eq_some_iff.mp encoded
      obtain rfl := Except.ok.inj (some.inj encoded)
      have inside := (Table.get?_bounds searched).1
      have small := (Table.get?_bounds byte).2
      rw [sizes.1] at inside
      rw [sizes.2] at small
      have agree := asciiplusTables_agree set min inside
      rw [byte, searched, bind_some, all_some, decide_eq_true_eq, ← found] at agree
      have mapped := agree.resolve_left low
      split_ifs at mapped with high
      exact asciiplusMbtoc32_high (not_lt.mp high) small mapped (by omega) rest
    · rw [if_pos found] at encoded
      cases encoded

end Cloudlibc.Locale
