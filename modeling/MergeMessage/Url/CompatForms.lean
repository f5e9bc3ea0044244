import MergeMessage.Text.Basic

/-!
# Compatibility forms

Many characters are other writings of characters or of short texts: ligatures, letters in
circles, letters of a mathematical alphabet, full width letters.  In a host name they stand for
what they are writings of.  Letters that stand for their small letters are not listed here.

## Main definitions

* `Url.CompatBlock` — what the characters of a block stand for.
* `Url.compatBlocks` — the blocks.
* `Url.compatForm?` — what a character stands for.
-/

namespace MergeMessage.Url

/-- A block of neighbouring code points, each of which stands for a text. -/
structure CompatBlock where
  /-- The first code point. -/
  first : Nat
  /-- The last code point. -/
  last : Nat
  /-- What they stand for, in order, with blanks in between; a character that stands for no other
  is given as itself. -/
  images : List String

/-- What a code point of the block stands for. -/
def CompatBlock.image? (b : CompatBlock) (n : Nat) : Option Text :=
  if n < b.first || b.last < n then none
  else (b.images.flatMap fun line => Text.pieces ' ' line.toList)[n - b.first]?

/-- The blocks, in increasing order. -/
def compatBlocks : List CompatBlock :=
  [⟨0xAA, 0xAA, ["a"]⟩, ⟨0xB2, 0xB3, ["2 3"]⟩, ⟨0xB5, 0xB5, ["μ"]⟩,
  ⟨0xB9, 0xBE, ["1 o » 1⁄4 1⁄2 3⁄4"]⟩, ⟨0x132, 0x133, ["ij ij"]⟩, ⟨0x13F, 0x140, ["l· l·"]⟩,
  ⟨0x149, 0x149, ["ʼn"]⟩, ⟨0x17F, 0x17F, ["s"]⟩, ⟨0x1C4, 0x1CC, ["dž dž dž lj lj lj nj nj nj"]⟩,
  ⟨0x1F1, 0x1F3, ["dz dz dz"]⟩, ⟨0x2B0, 0x2B8, ["h ɦ j r ɹ ɻ ʁ w y"]⟩,
  ⟨0x2E0, 0x2E4, ["ɣ l s x ʕ"]⟩, ⟨0x340, 0x345, ["\u0300 \u0301 \u0342 \u0313 \u0308\u0301 ι"]⟩,
  ⟨0x374, 0x374, ["ʹ"]⟩, ⟨0x37E, 0x37E, [";"]⟩, ⟨0x387, 0x387, ["·"]⟩,
  ⟨0x3D0, 0x3D6, ["β θ υ ύ ϋ φ π"]⟩, ⟨0x3F0, 0x3F9, ["κ ρ σ ϳ θ ε ϶ ϸ ϸ σ"]⟩,
  ⟨0x587, 0x587, ["եւ"]⟩, ⟨0x675, 0x678, ["\u0627\u0674 \u0648\u0674 \u06C7\u0674 \u064A\u0674"]⟩,
  ⟨0x958, 0x95F, ["क\u093C ख\u093C ग\u093C ज\u093C ड\u093C ढ\u093C फ\u093C य\u093C"]⟩,
  ⟨0x9DC, 0x9DD, ["ড\u09BC ঢ\u09BC"]⟩, ⟨0x9DF, 0x9DF, ["য\u09BC"]⟩, ⟨0xA33, 0xA33, ["ਲ\u0A3C"]⟩,
  ⟨0xA36, 0xA36, ["ਸ\u0A3C"]⟩, ⟨0xA59, 0xA5B, ["ਖ\u0A3C ਗ\u0A3C ਜ\u0A3C"]⟩,
  ⟨0xA5E, 0xA5E, ["ਫ\u0A3C"]⟩, ⟨0xB5C, 0xB5D, ["ଡ\u0B3C ଢ\u0B3C"]⟩, ⟨0xE33, 0xE33, ["\u0E4Dา"]⟩,
  ⟨0xEB3, 0xEB3, ["\u0ECDາ"]⟩, ⟨0xEDC, 0xEDD, ["ຫນ ຫມ"]⟩, ⟨0xF0C, 0xF0C, ["་"]⟩,
  ⟨0xF43, 0xF43, ["ག\u0FB7"]⟩, ⟨0xF4D, 0xF4D, ["ཌ\u0FB7"]⟩, ⟨0xF52, 0xF52, ["ད\u0FB7"]⟩,
  ⟨0xF57, 0xF57, ["བ\u0FB7"]⟩, ⟨0xF5C, 0xF5C, ["ཛ\u0FB7"]⟩, ⟨0xF69, 0xF69, ["ཀ\u0FB5"]⟩,
  ⟨0xF73, 0xF79, [
    "\u0F71\u0F72 \u0F74 \u0F71\u0F74 \u0FB2\u0F80 \u0FB2\u0F71\u0F80 \u0FB3\u0F80",
    "\u0FB3\u0F71\u0F80"]⟩,
  ⟨0xF81, 0xF81, ["\u0F71\u0F80"]⟩, ⟨0xF93, 0xF93, ["\u0F92\u0FB7"]⟩,
  ⟨0xF9D, 0xF9D, ["\u0F9C\u0FB7"]⟩, ⟨0xFA2, 0xFA2, ["\u0FA1\u0FB7"]⟩,
  ⟨0xFA7, 0xFA7, ["\u0FA6\u0FB7"]⟩, ⟨0xFAC, 0xFAC, ["\u0FAB\u0FB7"]⟩,
  ⟨0xFB9, 0xFB9, ["\u0F90\u0FB5"]⟩, ⟨0x10FC, 0x10FC, ["ნ"]⟩, ⟨0x13F8, 0x13FD, ["Ᏸ Ᏹ Ᏺ Ᏻ Ᏼ Ᏽ"]⟩,
  ⟨0x1C80, 0x1C88, ["в д о с т т ъ ѣ ꙋ"]⟩,
  ⟨0x1D2C, 0x1D6A, [
    "a æ b ᴯ d e ǝ g h i j k l m n ᴻ o ȣ p r t u w a ɐ ɑ ᴂ b d e ə ɛ ɜ g ᵎ k m ŋ o ɔ ᴖ ᴗ p t u",
    "ᴝ ɯ v ᴥ β γ δ φ χ i r u v β γ ρ φ χ"]⟩,
  ⟨0x1D78, 0x1D78, ["н"]⟩,
  ⟨0x1D9B, 0x1DBF, [
    "ɒ c ɕ ð ɜ f ɟ ɡ ɥ ɨ ɩ ɪ ᵻ ʝ ɭ ᶅ ʟ ɱ ɰ ɲ ɳ ɴ ɵ ɸ ʂ ʃ ƫ ʉ ʊ ᴜ ʋ ʌ z ʐ ʑ ʒ θ"]⟩,
  ⟨0x1E9A, 0x1E9B, ["aʾ ṡ"]⟩, ⟨0x1F71, 0x1F7D, ["ά ὲ έ ὴ ή ὶ ί ὸ ό ὺ ύ ὼ ώ"]⟩,
  ⟨0x1F80, 0x1FB4, [
    "ἀι ἁι ἂι ἃι ἄι ἅι ἆι ἇι ἀι ἁι ἂι ἃι ἄι ἅι ἆι ἇι ἠι ἡι ἢι ἣι ἤι ἥι ἦι ἧι ἠι ἡι ἢι ἣι ἤι ἥι",
    "ἦι ἧι ὠι ὡι ὢι ὣι ὤι ὥι ὦι ὧι ὠι ὡι ὢι ὣι ὤι ὥι ὦι ὧι ᾰ ᾱ ὰι αι άι"]⟩,
  ⟨0x1FB7, 0x1FBC, ["ᾶι ᾰ ᾱ ὰ ά αι"]⟩, ⟨0x1FBE, 0x1FBE, ["ι"]⟩, ⟨0x1FC2, 0x1FC4, ["ὴι ηι ήι"]⟩,
  ⟨0x1FC7, 0x1FCC, ["ῆι ὲ έ ὴ ή ηι"]⟩, ⟨0x1FD3, 0x1FD3, ["ΐ"]⟩, ⟨0x1FDB, 0x1FDB, ["ί"]⟩,
  ⟨0x1FE3, 0x1FE3, ["ΰ"]⟩, ⟨0x1FEB, 0x1FEB, ["ύ"]⟩, ⟨0x1FEF, 0x1FEF, ["`"]⟩,
  ⟨0x1FF2, 0x1FF4, ["ὼι ωι ώι"]⟩, ⟨0x1FF7, 0x1FFC, ["ῶι ὸ ό ὼ ώ ωι"]⟩, ⟨0x2011, 0x2011, ["‐"]⟩,
  ⟨0x2033, 0x2037, ["′′ ′′′ ‵ ‵‵ ‵‵‵"]⟩, ⟨0x203C, 0x203C, ["!!"]⟩, ⟨0x2057, 0x2057, ["′′′′"]⟩,
  ⟨0x2070, 0x2071, ["0 i"]⟩,
  ⟨0x2074, 0x208E, ["4 5 6 7 8 9 + − = ( ) n 0 1 2 3 4 5 6 7 8 9 + − = ( )"]⟩,
  ⟨0x2090, 0x209F, ["a e o x ə h k l m n p s t w y z"]⟩, ⟨0x20A8, 0x20A8, ["rs"]⟩,
  ⟨0x2102, 0x2103, ["c °c"]⟩,
  ⟨0x2107, 0x2140, [
    "ɛ ℈ °f g h h h h ħ i i l l ℔ n no ℗ ℘ p q r r r ℞ ℟ sm tel tm ℣ z ℥ ω ℧ z ℩ k å b c ℮ e e",
    "f ⅎ m o \u05D0 \u05D1 \u05D2 \u05D3 i ℺ fax π γ γ π ∑"]⟩,
  ⟨0x2145, 0x2149, ["d d e i j"]⟩,
  ⟨0x2150, 0x217F, [
    "1⁄7 1⁄9 1⁄10 1⁄3 2⁄3 1⁄5 2⁄5 3⁄5 4⁄5 1⁄6 5⁄6 1⁄8 3⁄8 5⁄8 7⁄8 1⁄ i ii iii iv v vi vii viii",
    "ix x xi xii l c d m i ii iii iv v vi vii viii ix x xi xii l c d m"]⟩,
  ⟨0x2189, 0x2189, ["0⁄3"]⟩, ⟨0x222C, 0x2230, ["∫∫ ∫∫∫ ∮ ∮∮ ∮∮∮"]⟩, ⟨0x2329, 0x232A, ["〈 〉"]⟩,
  ⟨0x2460, 0x2487, [
    "1 2 3 4 5 6 7 8 9 10 11 12 13 14 15 16 17 18 19 20 (1) (2) (3) (4) (5) (6) (7) (8) (9)",
    "(10) (11) (12) (13) (14) (15) (16) (17) (18) (19) (20)"]⟩,
  ⟨0x249C, 0x24EA, [
    "(a) (b) (c) (d) (e) (f) (g) (h) (i) (j) (k) (l) (m) (n) (o) (p) (q) (r) (s) (t) (u) (v)",
    "(w) (x) (y) (z) a b c d e f g h i j k l m n o p q r s t u v w x y z a b c d e f g h i j k",
    "l m n o p q r s t u v w x y z 0"]⟩,
  ⟨0x2A0C, 0x2A0C, ["∫∫∫∫"]⟩, ⟨0x2A75, 0x2A76, ["== ==="]⟩, ⟨0x2ADC, 0x2ADC, ["⫝\u0338"]⟩,
  ⟨0x2C7C, 0x2C7D, ["j v"]⟩, ⟨0x2D6F, 0x2D6F, ["ⵡ"]⟩, ⟨0x2E9F, 0x2E9F, ["母"]⟩,
  ⟨0x2EF3, 0x2EF3, ["龟"]⟩,
  ⟨0x2F00, 0x2FD5, [
    "一 丨 丶 丿 乙 亅 二 亠 人 儿 入 八 冂 冖 冫 几 凵 刀 力 勹 匕 匚 匸 十 卜 卩 厂 厶 又 口 囗 土 士 夂 夊 夕 大 女 子 宀 寸 小 尢 尸 屮",
    "山 巛 工 己 巾 干 幺 广 廴 廾 弋 弓 彐 彡 彳 心 戈 戶 手 支 攴 文 斗 斤 方 无 日 曰 月 木 欠 止 歹 殳 毋 比 毛 氏 气 水 火 爪 父 爻 爿",
    "片 牙 牛 犬 玄 玉 瓜 瓦 甘 生 用 田 疋 疒 癶 白 皮 皿 目 矛 矢 石 示 禸 禾 穴 立 竹 米 糸 缶 网 羊 羽 老 而 耒 耳 聿 肉 臣 自 至 臼 舌",
    "舛 舟 艮 色 艸 虍 虫 血 行 衣 襾 見 角 言 谷 豆 豕 豸 貝 赤 走 足 身 車 辛 辰 辵 邑 酉 釆 里 金 長 門 阜 隶 隹 雨 靑 非 面 革 韋 韭 音",
    "頁 風 飛 食 首 香 馬 骨 高 髟 鬥 鬯 鬲 鬼 魚 鳥 鹵 鹿 麥 麻 黃 黍 黑 黹 黽 鼎 鼓 鼠 鼻 齊 齒 龍 龜 龠"]⟩,
  ⟨0x3002, 0x3002, ["."]⟩, ⟨0x3036, 0x303A, ["〒 〷 十 卄 卅"]⟩, ⟨0x309F, 0x309F, ["より"]⟩,
  ⟨0x30FF, 0x30FF, ["コト"]⟩,
  ⟨0x3131, 0x3163, [
    "\u1100 \u1101 \u11AA \u1102 \u11AC \u11AD \u1103 \u1104 \u1105 \u11B0 \u11B1 \u11B2 \u11B3",
    "\u11B4 \u11B5 \u111A \u1106 \u1107 \u1108 \u1121 \u1109 \u110A \u110B \u110C \u110D \u110E",
    "\u110F \u1110 \u1111 \u1112 \u1161 \u1162 \u1163 \u1164 \u1165 \u1166 \u1167 \u1168 \u1169",
    "\u116A \u116B \u116C \u116D \u116E \u116F \u1170 \u1171 \u1172 \u1173 \u1174 \u1175"]⟩,
  ⟨0x3165, 0x318E, [
    "\u1114 \u1115 \u11C7 \u11C8 \u11CC \u11CE \u11D3 \u11D7 \u11D9 \u111C \u11DD \u11DF \u111D",
    "\u111E \u1120 \u1122 \u1123 \u1127 \u1129 \u112B \u112C \u112D \u112E \u112F \u1132 \u1136",
    "\u1140 \u1147 \u114C \u11F1 \u11F2 \u1157 \u1158 \u1159 \u1184 \u1185 \u1188 \u1191 \u1192",
    "\u1194 \u119E \u11A1"]⟩,
  ⟨0x3192, 0x319F, ["一 二 三 四 上 中 下 甲 乙 丙 丁 天 地 人"]⟩,
  ⟨0x3200, 0x321E, [
    "(\u1100) (\u1102) (\u1103) (\u1105) (\u1106) (\u1107) (\u1109) (\u110B) (\u110C) (\u110E)",
    "(\u110F) (\u1110) (\u1111) (\u1112) (가) (나) (다) (라) (마) (바) (사) (아) (자) (차) (카) (타) (파)",
    "(하) (주) (오전) (오후)"]⟩,
  ⟨0x3220, 0x3247, [
    "(一) (二) (三) (四) (五) (六) (七) (八) (九) (十) (月) (火) (水) (木) (金) (土) (日) (株) (有) (社) (名) (特)",
    "(財) (祝) (労) (代) (呼) (学) (監) (企) (資) (協) (祭) (休) (自) (至) 問 幼 文 箏"]⟩,
  ⟨0x3250, 0x33C1, [
    "pte 21 22 23 24 25 26 27 28 29 30 31 32 33 34 35 \u1100 \u1102 \u1103 \u1105 \u1106 \u1107",
    "\u1109 \u110B \u110C \u110E \u110F \u1110 \u1111 \u1112 가 나 다 라 마 바 사 아 자 차 카 타 파 하 참고 주의",
    "우 ㉿ 一 二 三 四 五 六 七 八 九 十 月 火 水 木 金 土 日 株 有 社 名 特 財 祝 労 秘 男 女 適 優 印 注 項 休 写 正 上 中 下 左 右 医 宗",
    "学 監 企 資 協 夜 36 37 38 39 40 41 42 43 44 45 46 47 48 49 50 1月 2月 3月 4月 5月 6月 7月 8月 9月 10月",
    "11月 12月 hg erg ev ltd ア イ ウ エ オ カ キ ク ケ コ サ シ ス セ ソ タ チ ツ テ ト ナ ニ ヌ ネ ノ ハ ヒ フ ヘ ホ マ ミ ム メ",
    "モ ヤ ユ ヨ ラ リ ル レ ロ ワ ヰ ヱ ヲ 令和 アパート アルファ アンペア アール イニング インチ ウォン エスクード エーカー オンス オーム カイリ カラット",
    "カロリー ガロン ガンマ ギガ ギニー キュリー ギルダー キロ キログラム キロメートル キロワット グラム グラムトン クルゼイロ クローネ ケース コルナ コーポ サイクル",
    "サンチーム シリング センチ セント ダース デシ ドル トン ナノ ノット ハイツ パーセント パーツ バーレル ピアストル ピクル ピコ ビル ファラッド フィート ブッシェル",
    "フラン ヘクタール ペソ ペニヒ ヘルツ ペンス ページ ベータ ポイント ボルト ホン ポンド ホール ホーン マイクロ マイル マッハ マルク マンション ミクロン ミリ",
    "ミリバール メガ メガトン メートル ヤード ヤール ユアン リットル リラ ルピー ルーブル レム レントゲン ワット 0点 1点 2点 3点 4点 5点 6点 7点 8点 9点",
    "10点 11点 12点 13点 14点 15点 16点 17点 18点 19点 20点 21点 22点 23点 24点 hpa da au bar ov pc dm dm2 dm3",
    "iu 平成 昭和 大正 明治 株式会社 pa na μa ma ka kb mb gb cal kcal pf nf μf μg mg kg hz khz mhz ghz thz",
    "μl ml dl kl fm nm μm mm cm km mm2 cm2 m2 km2 mm3 cm3 m3 km3 m∕s m∕s2 pa kpa mpa gpa rad",
    "rad∕s rad∕s2 ps ns μs ms pv nv μv mv kv mv pw nw μw mw kw mw kω mω"]⟩,
  ⟨0x33C3, 0x33C6, ["bq cc cd c∕kg"]⟩,
  ⟨0x33C8, 0x33D7, ["db gy ha hp in kk km kt lm ln log lx mb mil mol ph"]⟩,
  ⟨0x33D9, 0x33FF, [
    "ppm pr sr sv wb v∕m a∕m 1日 2日 3日 4日 5日 6日 7日 8日 9日 10日 11日 12日 13日 14日 15日 16日 17日 18日 19日",
    "20日 21日 22日 23日 24日 25日 26日 27日 28日 29日 30日 31日 gal"]⟩,
  ⟨0xA69C, 0xA69D, ["ъ ь"]⟩, ⟨0xA770, 0xA770, ["ꝯ"]⟩, ⟨0xA7F1, 0xA7F9, ["s c f q ꟶ ꟶ ꟷ ħ œ"]⟩,
  ⟨0xAB5C, 0xAB5F, ["ꜧ ꬷ ɫ ꭒ"]⟩, ⟨0xAB69, 0xAB69, ["ʍ"]⟩,
  ⟨0xAB70, 0xABBF, [
    "Ꭰ Ꭱ Ꭲ Ꭳ Ꭴ Ꭵ Ꭶ Ꭷ Ꭸ Ꭹ Ꭺ Ꭻ Ꭼ Ꭽ Ꭾ Ꭿ Ꮀ Ꮁ Ꮂ Ꮃ Ꮄ Ꮅ Ꮆ Ꮇ Ꮈ Ꮉ Ꮊ Ꮋ Ꮌ Ꮍ Ꮎ Ꮏ Ꮐ Ꮑ Ꮒ Ꮓ Ꮔ Ꮕ Ꮖ Ꮗ Ꮘ Ꮙ Ꮚ Ꮛ Ꮜ",
    "Ꮝ Ꮞ Ꮟ Ꮠ Ꮡ Ꮢ Ꮣ Ꮤ Ꮥ Ꮦ Ꮧ Ꮨ Ꮩ Ꮪ Ꮫ Ꮬ Ꮭ Ꮮ Ꮯ Ꮰ Ꮱ Ꮲ Ꮳ Ꮴ Ꮵ Ꮶ Ꮷ Ꮸ Ꮹ Ꮺ Ꮻ Ꮼ Ꮽ Ꮾ Ꮿ"]⟩,
  ⟨0xF900, 0xFA6D, [
    "豈 更 車 賈 滑 串 句 龜 龜 契 金 喇 奈 懶 癩 羅 蘿 螺 裸 邏 樂 洛 烙 珞 落 酪 駱 亂 卵 欄 爛 蘭 鸞 嵐 濫 藍 襤 拉 臘 蠟 廊 朗 浪 狼 郎",
    "來 冷 勞 擄 櫓 爐 盧 老 蘆 虜 路 露 魯 鷺 碌 祿 綠 菉 錄 鹿 論 壟 弄 籠 聾 牢 磊 賂 雷 壘 屢 樓 淚 漏 累 縷 陋 勒 肋 凜 凌 稜 綾 菱 陵",
    "讀 拏 樂 諾 丹 寧 怒 率 異 北 磻 便 復 不 泌 數 索 參 塞 省 葉 說 殺 辰 沈 拾 若 掠 略 亮 兩 凉 梁 糧 良 諒 量 勵 呂 女 廬 旅 濾 礪 閭",
    "驪 麗 黎 力 曆 歷 轢 年 憐 戀 撚 漣 煉 璉 秊 練 聯 輦 蓮 連 鍊 列 劣 咽 烈 裂 說 廉 念 捻 殮 簾 獵 令 囹 寧 嶺 怜 玲 瑩 羚 聆 鈴 零 靈",
    "領 例 禮 醴 隸 惡 了 僚 寮 尿 料 樂 燎 療 蓼 遼 龍 暈 阮 劉 杻 柳 流 溜 琉 留 硫 紐 類 六 戮 陸 倫 崙 淪 輪 律 慄 栗 率 隆 利 吏 履 易",
    "李 梨 泥 理 痢 罹 裏 裡 里 離 匿 溺 吝 燐 璘 藺 隣 鱗 麟 林 淋 臨 立 笠 粒 狀 炙 識 什 茶 刺 切 度 拓 糖 宅 洞 暴 輻 行 降 見 廓 兀 嗀",
    "﨎 﨏 塚 﨑 晴 﨓 﨔 凞 猪 益 礼 神 祥 福 靖 精 羽 﨟 蘒 﨡 諸 﨣 﨤 逸 都 﨧 﨨 﨩 飯 飼 館 鶴 郞 隷 侮 僧 免 勉 勤 卑 喝 嘆 器 塀 墨",
    "層 屮 悔 慨 憎 懲 敏 既 暑 梅 海 渚 漢 煮 爫 琢 碑 社 祉 祈 祐 祖 祝 禍 禎 穀 突 節 練 縉 繁 署 者 臭 艹 艹 著 褐 視 謁 謹 賓 贈 辶 逸",
    "難 響 頻 恵 𤋮 舘"]⟩,
  ⟨0xFA70, 0xFAD9, [
    "並 况 全 侀 充 冀 勇 勺 喝 啕 喙 嗢 塚 墳 奄 奔 婢 嬨 廒 廙 彩 徭 惘 慎 愈 憎 慠 懲 戴 揄 搜 摒 敖 晴 朗 望 杖 歹 殺 流 滛 滋 漢 瀞 煮",
    "瞧 爵 犯 猪 瑱 甆 画 瘝 瘟 益 盛 直 睊 着 磌 窱 節 类 絛 練 缾 者 荒 華 蝹 襁 覆 視 調 諸 請 謁 諾 諭 謹 變 贈 輸 遲 醙 鉶 陼 難 靖 韛",
    "響 頋 頻 鬒 龜 𢡊 𢡄 𣏕 㮝 䀘 䀹 𥉉 𥳐 𧻓 齃 龎"]⟩,
  ⟨0xFB00, 0xFB06, ["ff fi fl ffi ffl st st"]⟩, ⟨0xFB13, 0xFB17, ["մն մե մի վն մխ"]⟩,
  ⟨0xFB1D, 0xFB36, [
    "\u05D9\u05B4 \uFB1E \u05F2\u05B7 \u05E2 \u05D0 \u05D3 \u05D4 \u05DB \u05DC \u05DD \u05E8",
    "\u05EA + \u05E9\u05C1 \u05E9\u05C2 \u05E9\u05BC\u05C1 \u05E9\u05BC\u05C2 \u05D0\u05B7",
    "\u05D0\u05B8 \u05D0\u05BC \u05D1\u05BC \u05D2\u05BC \u05D3\u05BC \u05D4\u05BC \u05D5\u05BC",
    "\u05D6\u05BC"]⟩,
  ⟨0xFB38, 0xFB3C, ["\u05D8\u05BC \u05D9\u05BC \u05DA\u05BC \u05DB\u05BC \u05DC\u05BC"]⟩,
  ⟨0xFB3E, 0xFB3E, ["\u05DE\u05BC"]⟩, ⟨0xFB40, 0xFB41, ["\u05E0\u05BC \u05E1\u05BC"]⟩,
  ⟨0xFB43, 0xFB44, ["\u05E3\u05BC \u05E4\u05BC"]⟩,
  ⟨0xFB46, 0xFBB1, [
    "\u05E6\u05BC \u05E7\u05BC \u05E8\u05BC \u05E9\u05BC \u05EA\u05BC \u05D5\u05B9 \u05D1\u05BF",
    "\u05DB\u05BF \u05E4\u05BF \u05D0\u05DC \u0671 \u0671 \u067B \u067B \u067B \u067B \u067E",
    "\u067E \u067E \u067E \u0680 \u0680 \u0680 \u0680 \u067A \u067A \u067A \u067A \u067F \u067F",
    "\u067F \u067F \u0679 \u0679 \u0679 \u0679 \u06A4 \u06A4 \u06A4 \u06A4 \u06A6 \u06A6 \u06A6",
    "\u06A6 \u0684 \u0684 \u0684 \u0684 \u0683 \u0683 \u0683 \u0683 \u0686 \u0686 \u0686 \u0686",
    "\u0687 \u0687 \u0687 \u0687 \u068D \u068D \u068C \u068C \u068E \u068E \u0688 \u0688 \u0698",
    "\u0698 \u0691 \u0691 \u06A9 \u06A9 \u06A9 \u06A9 \u06AF \u06AF \u06AF \u06AF \u06B3 \u06B3",
    "\u06B3 \u06B3 \u06B1 \u06B1 \u06B1 \u06B1 \u06BA \u06BA \u06BB \u06BB \u06BB \u06BB \u06C0",
    "\u06C0 \u06C1 \u06C1 \u06C1 \u06C1 \u06BE \u06BE \u06BE \u06BE \u06D2 \u06D2 \u06D3 \u06D3"]⟩,
  ⟨0xFBD3, 0xFC5D, [
    "\u06AD \u06AD \u06AD \u06AD \u06C7 \u06C7 \u06C6 \u06C6 \u06C8 \u06C8 \u06C7\u0674 \u06CB",
    "\u06CB \u06C5 \u06C5 \u06C9 \u06C9 \u06D0 \u06D0 \u06D0 \u06D0 \u0649 \u0649 \u0626\u0627",
    "\u0626\u0627 \u0626\u06D5 \u0626\u06D5 \u0626\u0648 \u0626\u0648 \u0626\u06C7 \u0626\u06C7",
    "\u0626\u06C6 \u0626\u06C6 \u0626\u06C8 \u0626\u06C8 \u0626\u06D0 \u0626\u06D0 \u0626\u06D0",
    "\u0626\u0649 \u0626\u0649 \u0626\u0649 \u06CC \u06CC \u06CC \u06CC \u0626\u062C",
    "\u0626\u062D \u0626\u0645 \u0626\u0649 \u0626\u064A \u0628\u062C \u0628\u062D \u0628\u062E",
    "\u0628\u0645 \u0628\u0649 \u0628\u064A \u062A\u062C \u062A\u062D \u062A\u062E \u062A\u0645",
    "\u062A\u0649 \u062A\u064A \u062B\u062C \u062B\u0645 \u062B\u0649 \u062B\u064A \u062C\u062D",
    "\u062C\u0645 \u062D\u062C \u062D\u0645 \u062E\u062C \u062E\u062D \u062E\u0645 \u0633\u062C",
    "\u0633\u062D \u0633\u062E \u0633\u0645 \u0635\u062D \u0635\u0645 \u0636\u062C \u0636\u062D",
    "\u0636\u062E \u0636\u0645 \u0637\u062D \u0637\u0645 \u0638\u0645 \u0639\u062C \u0639\u0645",
    "\u063A\u062C \u063A\u0645 \u0641\u062C \u0641\u062D \u0641\u062E \u0641\u0645 \u0641\u0649",
    "\u0641\u064A \u0642\u062D \u0642\u0645 \u0642\u0649 \u0642\u064A \u0643\u0627 \u0643\u062C",
    "\u0643\u062D \u0643\u062E \u0643\u0644 \u0643\u0645 \u0643\u0649 \u0643\u064A \u0644\u062C",
    "\u0644\u062D \u0644\u062E \u0644\u0645 \u0644\u0649 \u0644\u064A \u0645\u062C \u0645\u062D",
    "\u0645\u062E \u0645\u0645 \u0645\u0649 \u0645\u064A \u0646\u062C \u0646\u062D \u0646\u062E",
    "\u0646\u0645 \u0646\u0649 \u0646\u064A \u0647\u062C \u0647\u0645 \u0647\u0649 \u0647\u064A",
    "\u064A\u062C \u064A\u062D \u064A\u062E \u064A\u0645 \u064A\u0649 \u064A\u064A \u0630\u0670",
    "\u0631\u0670 \u0649\u0670"]⟩,
  ⟨0xFC64, 0xFD3D, [
    "\u0626\u0631 \u0626\u0632 \u0626\u0645 \u0626\u0646 \u0626\u0649 \u0626\u064A \u0628\u0631",
    "\u0628\u0632 \u0628\u0645 \u0628\u0646 \u0628\u0649 \u0628\u064A \u062A\u0631 \u062A\u0632",
    "\u062A\u0645 \u062A\u0646 \u062A\u0649 \u062A\u064A \u062B\u0631 \u062B\u0632 \u062B\u0645",
    "\u062B\u0646 \u062B\u0649 \u062B\u064A \u0641\u0649 \u0641\u064A \u0642\u0649 \u0642\u064A",
    "\u0643\u0627 \u0643\u0644 \u0643\u0645 \u0643\u0649 \u0643\u064A \u0644\u0645 \u0644\u0649",
    "\u0644\u064A \u0645\u0627 \u0645\u0645 \u0646\u0631 \u0646\u0632 \u0646\u0645 \u0646\u0646",
    "\u0646\u0649 \u0646\u064A \u0649\u0670 \u064A\u0631 \u064A\u0632 \u064A\u0645 \u064A\u0646",
    "\u064A\u0649 \u064A\u064A \u0626\u062C \u0626\u062D \u0626\u062E \u0626\u0645 \u0626\u0647",
    "\u0628\u062C \u0628\u062D \u0628\u062E \u0628\u0645 \u0628\u0647 \u062A\u062C \u062A\u062D",
    "\u062A\u062E \u062A\u0645 \u062A\u0647 \u062B\u0645 \u062C\u062D \u062C\u0645 \u062D\u062C",
    "\u062D\u0645 \u062E\u062C \u062E\u0645 \u0633\u062C \u0633\u062D \u0633\u062E \u0633\u0645",
    "\u0635\u062D \u0635\u062E \u0635\u0645 \u0636\u062C \u0636\u062D \u0636\u062E \u0636\u0645",
    "\u0637\u062D \u0638\u0645 \u0639\u062C \u0639\u0645 \u063A\u062C \u063A\u0645 \u0641\u062C",
    "\u0641\u062D \u0641\u062E \u0641\u0645 \u0642\u062D \u0642\u0645 \u0643\u062C \u0643\u062D",
    "\u0643\u062E \u0643\u0644 \u0643\u0645 \u0644\u062C \u0644\u062D \u0644\u062E \u0644\u0645",
    "\u0644\u0647 \u0645\u062C \u0645\u062D \u0645\u062E \u0645\u0645 \u0646\u062C \u0646\u062D",
    "\u0646\u062E \u0646\u0645 \u0646\u0647 \u0647\u062C \u0647\u0645 \u0647\u0670 \u064A\u062C",
    "\u064A\u062D \u064A\u062E \u064A\u0645 \u064A\u0647 \u0626\u0645 \u0626\u0647 \u0628\u0645",
    "\u0628\u0647 \u062A\u0645 \u062A\u0647 \u062B\u0645 \u062B\u0647 \u0633\u0645 \u0633\u0647",
    "\u0634\u0645 \u0634\u0647 \u0643\u0644 \u0643\u0645 \u0644\u0645 \u0646\u0645 \u0646\u0647",
    "\u064A\u0645 \u064A\u0647 \u0640\u064E\u0651 \u0640\u064F\u0651 \u0640\u0650\u0651",
    "\u0637\u0649 \u0637\u064A \u0639\u0649 \u0639\u064A \u063A\u0649 \u063A\u064A \u0633\u0649",
    "\u0633\u064A \u0634\u0649 \u0634\u064A \u062D\u0649 \u062D\u064A \u062C\u0649 \u062C\u064A",
    "\u062E\u0649 \u062E\u064A \u0635\u0649 \u0635\u064A \u0636\u0649 \u0636\u064A \u0634\u062C",
    "\u0634\u062D \u0634\u062E \u0634\u0645 \u0634\u0631 \u0633\u0631 \u0635\u0631 \u0636\u0631",
    "\u0637\u0649 \u0637\u064A \u0639\u0649 \u0639\u064A \u063A\u0649 \u063A\u064A \u0633\u0649",
    "\u0633\u064A \u0634\u0649 \u0634\u064A \u062D\u0649 \u062D\u064A \u062C\u0649 \u062C\u064A",
    "\u062E\u0649 \u062E\u064A \u0635\u0649 \u0635\u064A \u0636\u0649 \u0636\u064A \u0634\u062C",
    "\u0634\u062D \u0634\u062E \u0634\u0645 \u0634\u0631 \u0633\u0631 \u0635\u0631 \u0636\u0631",
    "\u0634\u062C \u0634\u062D \u0634\u062E \u0634\u0645 \u0633\u0647 \u0634\u0647 \u0637\u0645",
    "\u0633\u062C \u0633\u062D \u0633\u062E \u0634\u062C \u0634\u062D \u0634\u062E \u0637\u0645",
    "\u0638\u0645 \u0627\u064B \u0627\u064B"]⟩,
  ⟨0xFD50, 0xFDC7, [
    "\u062A\u062C\u0645 \u062A\u062D\u062C \u062A\u062D\u062C \u062A\u062D\u0645",
    "\u062A\u062E\u0645 \u062A\u0645\u062C \u062A\u0645\u062D \u062A\u0645\u062E",
    "\u062C\u0645\u062D \u062C\u0645\u062D \u062D\u0645\u064A \u062D\u0645\u0649",
    "\u0633\u062D\u062C \u0633\u062C\u062D \u0633\u062C\u0649 \u0633\u0645\u062D",
    "\u0633\u0645\u062D \u0633\u0645\u062C \u0633\u0645\u0645 \u0633\u0645\u0645",
    "\u0635\u062D\u062D \u0635\u062D\u062D \u0635\u0645\u0645 \u0634\u062D\u0645",
    "\u0634\u062D\u0645 \u0634\u062C\u064A \u0634\u0645\u062E \u0634\u0645\u062E",
    "\u0634\u0645\u0645 \u0634\u0645\u0645 \u0636\u062D\u0649 \u0636\u062E\u0645",
    "\u0636\u062E\u0645 \u0637\u0645\u062D \u0637\u0645\u062D \u0637\u0645\u0645",
    "\u0637\u0645\u064A \u0639\u062C\u0645 \u0639\u0645\u0645 \u0639\u0645\u0645",
    "\u0639\u0645\u0649 \u063A\u0645\u0645 \u063A\u0645\u064A \u063A\u0645\u0649",
    "\u0641\u062E\u0645 \u0641\u062E\u0645 \u0642\u0645\u062D \u0642\u0645\u0645",
    "\u0644\u062D\u0645 \u0644\u062D\u064A \u0644\u062D\u0649 \u0644\u062C\u062C",
    "\u0644\u062C\u062C \u0644\u062E\u0645 \u0644\u062E\u0645 \u0644\u0645\u062D",
    "\u0644\u0645\u062D \u0645\u062D\u062C \u0645\u062D\u0645 \u0645\u062D\u064A",
    "\u0645\u062C\u062D \u0645\u062C\u0645 \u0645\u062E\u062C \u0645\u062E\u0645 ﶐ ﶑",
    "\u0645\u062C\u062E \u0647\u0645\u062C \u0647\u0645\u0645 \u0646\u062D\u0645",
    "\u0646\u062D\u0649 \u0646\u062C\u0645 \u0646\u062C\u0645 \u0646\u062C\u0649",
    "\u0646\u0645\u064A \u0646\u0645\u0649 \u064A\u0645\u0645 \u064A\u0645\u0645",
    "\u0628\u062E\u064A \u062A\u062C\u064A \u062A\u062C\u0649 \u062A\u062E\u064A",
    "\u062A\u062E\u0649 \u062A\u0645\u064A \u062A\u0645\u0649 \u062C\u0645\u064A",
    "\u062C\u062D\u0649 \u062C\u0645\u0649 \u0633\u062E\u0649 \u0635\u062D\u064A",
    "\u0634\u062D\u064A \u0636\u062D\u064A \u0644\u062C\u064A \u0644\u0645\u064A",
    "\u064A\u062D\u064A \u064A\u062C\u064A \u064A\u0645\u064A \u0645\u0645\u064A",
    "\u0642\u0645\u064A \u0646\u062D\u064A \u0642\u0645\u062D \u0644\u062D\u0645",
    "\u0639\u0645\u064A \u0643\u0645\u064A \u0646\u062C\u062D \u0645\u062E\u064A",
    "\u0644\u062C\u0645 \u0643\u0645\u0645 \u0644\u062C\u0645 \u0646\u062C\u062D",
    "\u062C\u062D\u064A \u062D\u062C\u064A \u0645\u062C\u064A \u0641\u0645\u064A",
    "\u0628\u062D\u064A \u0643\u0645\u0645 \u0639\u062C\u0645 \u0635\u0645\u0645",
    "\u0633\u062E\u064A \u0646\u062C\u064A"]⟩,
  ⟨0xFDF0, 0xFDF9, [
    "\u0635\u0644\u06D2 \u0642\u0644\u06D2 \u0627\u0644\u0644\u0647 \u0627\u0643\u0628\u0631",
    "\u0645\u062D\u0645\u062F \u0635\u0644\u0639\u0645 \u0631\u0633\u0648\u0644",
    "\u0639\u0644\u064A\u0647 \u0648\u0633\u0644\u0645 \u0635\u0644\u0649"]⟩,
  ⟨0xFDFC, 0xFDFC, ["\u0631\u06CC\u0627\u0644"]⟩, ⟨0xFE10, 0xFE11, [", 、"]⟩,
  ⟨0xFE14, 0xFE15, ["; !"]⟩, ⟨0xFE17, 0xFE18, ["〖 〗"]⟩,
  ⟨0xFE31, 0xFE44, ["— – _ _ ( ) \x7b \x7d 〔 〕 【 】 《 》 〈 〉 「 」 『 』"]⟩,
  ⟨0xFE4D, 0xFE51, ["_ _ _ , 、"]⟩, ⟨0xFE54, 0xFE54, [";"]⟩,
  ⟨0xFE57, 0xFE5E, ["! — ( ) \x7b \x7d 〔 〕"]⟩, ⟨0xFE60, 0xFE63, ["& * + -"]⟩,
  ⟨0xFE66, 0xFE66, ["="]⟩, ⟨0xFE69, 0xFE69, ["$"]⟩, ⟨0xFE71, 0xFE71, ["\u0640\u064B"]⟩,
  ⟨0xFE77, 0xFE77, ["\u0640\u064E"]⟩, ⟨0xFE79, 0xFE79, ["\u0640\u064F"]⟩,
  ⟨0xFE7B, 0xFE7B, ["\u0640\u0650"]⟩, ⟨0xFE7D, 0xFE7D, ["\u0640\u0651"]⟩,
  ⟨0xFE7F, 0xFEFC, [
    "\u0640\u0652 \u0621 \u0622 \u0622 \u0623 \u0623 \u0624 \u0624 \u0625 \u0625 \u0626 \u0626",
    "\u0626 \u0626 \u0627 \u0627 \u0628 \u0628 \u0628 \u0628 \u0629 \u0629 \u062A \u062A \u062A",
    "\u062A \u062B \u062B \u062B \u062B \u062C \u062C \u062C \u062C \u062D \u062D \u062D \u062D",
    "\u062E \u062E \u062E \u062E \u062F \u062F \u0630 \u0630 \u0631 \u0631 \u0632 \u0632 \u0633",
    "\u0633 \u0633 \u0633 \u0634 \u0634 \u0634 \u0634 \u0635 \u0635 \u0635 \u0635 \u0636 \u0636",
    "\u0636 \u0636 \u0637 \u0637 \u0637 \u0637 \u0638 \u0638 \u0638 \u0638 \u0639 \u0639 \u0639",
    "\u0639 \u063A \u063A \u063A \u063A \u0641 \u0641 \u0641 \u0641 \u0642 \u0642 \u0642 \u0642",
    "\u0643 \u0643 \u0643 \u0643 \u0644 \u0644 \u0644 \u0644 \u0645 \u0645 \u0645 \u0645 \u0646",
    "\u0646 \u0646 \u0646 \u0647 \u0647 \u0647 \u0647 \u0648 \u0648 \u0649 \u0649 \u064A \u064A",
    "\u064A \u064A \u0644\u0622 \u0644\u0622 \u0644\u0623 \u0644\u0623 \u0644\u0625",
    "\u0644\u0625 \u0644\u0627 \u0644\u0627"]⟩,
  ⟨0xFF01, 0xFF02, ["! \""]⟩, ⟨0xFF04, 0xFF04, ["$"]⟩, ⟨0xFF06, 0xFF0E, ["& ' ( ) * + , - ."]⟩,
  ⟨0xFF10, 0xFF19, ["0 1 2 3 4 5 6 7 8 9"]⟩, ⟨0xFF1B, 0xFF1B, [";"]⟩, ⟨0xFF1D, 0xFF1D, ["="]⟩,
  ⟨0xFF21, 0xFF3A, ["a b c d e f g h i j k l m n o p q r s t u v w x y z"]⟩,
  ⟨0xFF3F, 0xFF5B, ["_ ` a b c d e f g h i j k l m n o p q r s t u v w x y z \x7b"]⟩,
  ⟨0xFF5D, 0xFF9F, [
    "\x7d ~ ⦅ ⦆ . 「 」 、 ・ ヲ ァ ィ ゥ ェ ォ ャ ュ ョ ッ ー ア イ ウ エ オ カ キ ク ケ コ サ シ ス セ ソ タ チ ツ テ ト ナ ニ ヌ ネ",
    "ノ ハ ヒ フ ヘ ホ マ ミ ム メ モ ヤ ユ ヨ ラ リ ル レ ロ ワ ン \u3099 \u309A"]⟩,
  ⟨0xFFA1, 0xFFBE, [
    "\u1100 \u1101 \u11AA \u1102 \u11AC \u11AD \u1103 \u1104 \u1105 \u11B0 \u11B1 \u11B2 \u11B3",
    "\u11B4 \u11B5 \u111A \u1106 \u1107 \u1108 \u1121 \u1109 \u110A \u110B \u110C \u110D \u110E",
    "\u110F \u1110 \u1111 \u1112"]⟩,
  ⟨0xFFC2, 0xFFC7, ["\u1161 \u1162 \u1163 \u1164 \u1165 \u1166"]⟩,
  ⟨0xFFCA, 0xFFCF, ["\u1167 \u1168 \u1169 \u116A \u116B \u116C"]⟩,
  ⟨0xFFD2, 0xFFD7, ["\u116D \u116E \u116F \u1170 \u1171 \u1172"]⟩,
  ⟨0xFFDA, 0xFFDC, ["\u1173 \u1174 \u1175"]⟩, ⟨0xFFE0, 0xFFE2, ["¢ £ ¬"]⟩,
  ⟨0xFFE4, 0xFFE6, ["¦ ¥ ₩"]⟩, ⟨0xFFE8, 0xFFEE, ["│ ← ↑ → ↓ ■ ○"]⟩,
  ⟨0x10781, 0x10785, ["ː ˑ æ ʙ ɓ"]⟩,
  ⟨0x10787, 0x107B0, [
    "ʣ ꭦ ʥ ʤ ɖ ɗ ᶑ ɘ ɞ ʩ ɤ ɢ ɠ ʛ ħ ʜ ɧ ʄ ʪ ʫ ɬ 𝼄 ꞎ ɮ 𝼅 ʎ 𝼆 ø ɶ ɷ q ɺ 𝼈 ɽ ɾ ʀ ʨ ʦ ꭧ ʧ ʈ ⱱ"]⟩,
  ⟨0x107B2, 0x107BA, ["ʏ ʡ ʢ ʘ ǀ ǁ ǂ 𝼊 𝼞"]⟩,
  ⟨0x1CCD6, 0x1CCF9, [
    "a b c d e f g h i j k l m n o p q r s t u v w x y z 0 1 2 3 4 5 6 7 8 9"]⟩,
  ⟨0x1D15E, 0x1D164, ["𝅗𝅥 𝅘𝅥 𝅘𝅥𝅮 𝅘𝅥𝅯 𝅘𝅥𝅰 𝅘𝅥𝅱 𝅘𝅥𝅲"]⟩,
  ⟨0x1D1BB, 0x1D1C0, ["𝆹𝅥 𝆺𝅥 𝆹𝅥𝅮 𝆺𝅥𝅮 𝆹𝅥𝅯 𝆺𝅥𝅯"]⟩,
  ⟨0x1D400, 0x1D454, [
    "a b c d e f g h i j k l m n o p q r s t u v w x y z a b c d e f g h i j k l m n o p q r s",
    "t u v w x y z a b c d e f g h i j k l m n o p q r s t u v w x y z a b c d e f g"]⟩,
  ⟨0x1D456, 0x1D49C, [
    "i j k l m n o p q r s t u v w x y z a b c d e f g h i j k l m n o p q r s t u v w x y z a",
    "b c d e f g h i j k l m n o p q r s t u v w x y z a"]⟩,
  ⟨0x1D49E, 0x1D49F, ["c d"]⟩, ⟨0x1D4A2, 0x1D4A2, ["g"]⟩, ⟨0x1D4A5, 0x1D4A6, ["j k"]⟩,
  ⟨0x1D4A9, 0x1D4AC, ["n o p q"]⟩, ⟨0x1D4AE, 0x1D4B9, ["s t u v w x y z a b c d"]⟩,
  ⟨0x1D4BB, 0x1D4BB, ["f"]⟩, ⟨0x1D4BD, 0x1D4C3, ["h i j k l m n"]⟩,
  ⟨0x1D4C5, 0x1D505, [
    "p q r s t u v w x y z a b c d e f g h i j k l m n o p q r s t u v w x y z a b c d e f g h",
    "i j k l m n o p q r s t u v w x y z a b"]⟩,
  ⟨0x1D507, 0x1D50A, ["d e f g"]⟩, ⟨0x1D50D, 0x1D514, ["j k l m n o p q"]⟩,
  ⟨0x1D516, 0x1D51C, ["s t u v w x y"]⟩,
  ⟨0x1D51E, 0x1D539, ["a b c d e f g h i j k l m n o p q r s t u v w x y z a b"]⟩,
  ⟨0x1D53B, 0x1D53E, ["d e f g"]⟩, ⟨0x1D540, 0x1D544, ["i j k l m"]⟩, ⟨0x1D546, 0x1D546, ["o"]⟩,
  ⟨0x1D54A, 0x1D550, ["s t u v w x y"]⟩,
  ⟨0x1D552, 0x1D6A5, [
    "a b c d e f g h i j k l m n o p q r s t u v w x y z a b c d e f g h i j k l m n o p q r s",
    "t u v w x y z a b c d e f g h i j k l m n o p q r s t u v w x y z a b c d e f g h i j k l",
    "m n o p q r s t u v w x y z a b c d e f g h i j k l m n o p q r s t u v w x y z a b c d e",
    "f g h i j k l m n o p q r s t u v w x y z a b c d e f g h i j k l m n o p q r s t u v w x",
    "y z a b c d e f g h i j k l m n o p q r s t u v w x y z a b c d e f g h i j k l m n o p q",
    "r s t u v w x y z a b c d e f g h i j k l m n o p q r s t u v w x y z a b c d e f g h i j",
    "k l m n o p q r s t u v w x y z a b c d e f g h i j k l m n o p q r s t u v w x y z a b c",
    "d e f g h i j k l m n o p q r s t u v w x y z ı ȷ"]⟩,
  ⟨0x1D6A8, 0x1D7CB, [
    "α β γ δ ε ζ η θ ι κ λ μ ν ξ ο π ρ θ σ τ υ φ χ ψ ω ∇ α β γ δ ε ζ η θ ι κ λ μ ν ξ ο π ρ σ σ",
    "τ υ φ χ ψ ω ∂ ε θ κ φ ρ π α β γ δ ε ζ η θ ι κ λ μ ν ξ ο π ρ θ σ τ υ φ χ ψ ω ∇ α β γ δ ε ζ",
    "η θ ι κ λ μ ν ξ ο π ρ σ σ τ υ φ χ ψ ω ∂ ε θ κ φ ρ π α β γ δ ε ζ η θ ι κ λ μ ν ξ ο π ρ θ σ",
    "τ υ φ χ ψ ω ∇ α β γ δ ε ζ η θ ι κ λ μ ν ξ ο π ρ σ σ τ υ φ χ ψ ω ∂ ε θ κ φ ρ π α β γ δ ε ζ",
    "η θ ι κ λ μ ν ξ ο π ρ θ σ τ υ φ χ ψ ω ∇ α β γ δ ε ζ η θ ι κ λ μ ν ξ ο π ρ σ σ τ υ φ χ ψ ω",
    "∂ ε θ κ φ ρ π α β γ δ ε ζ η θ ι κ λ μ ν ξ ο π ρ θ σ τ υ φ χ ψ ω ∇ α β γ δ ε ζ η θ ι κ λ μ",
    "ν ξ ο π ρ σ σ τ υ φ χ ψ ω ∂ ε θ κ φ ρ π ϝ ϝ"]⟩,
  ⟨0x1D7CE, 0x1D7FF, [
    "0 1 2 3 4 5 6 7 8 9 0 1 2 3 4 5 6 7 8 9 0 1 2 3 4 5 6 7 8 9 0 1 2 3 4 5 6 7 8 9 0 1 2 3 4",
    "5 6 7 8 9"]⟩,
  ⟨0x1E030, 0x1E06D, [
    "а б в г д е ж з и к л м о п р с т у ф х ц ч ш ы э ю ꚉ ә і ј ө ү ӏ а б в г д е ж з и к л о",
    "п с у ф х ц ч ш ъ ы ґ і ѕ џ ҫ ꙑ ұ"]⟩,
  ⟨0x1EE00, 0x1EE03, ["\u0627 \u0628 \u062C \u062F"]⟩,
  ⟨0x1EE05, 0x1EE1F, [
    "\u0648 \u0632 \u062D \u0637 \u064A \u0643 \u0644 \u0645 \u0646 \u0633 \u0639 \u0641 \u0635",
    "\u0642 \u0631 \u0634 \u062A \u062B \u062E \u0630 \u0636 \u0638 \u063A \u066E \u06BA \u06A1",
    "\u066F"]⟩,
  ⟨0x1EE21, 0x1EE22, ["\u0628 \u062C"]⟩, ⟨0x1EE24, 0x1EE24, ["\u0647"]⟩,
  ⟨0x1EE27, 0x1EE27, ["\u062D"]⟩,
  ⟨0x1EE29, 0x1EE32, ["\u064A \u0643 \u0644 \u0645 \u0646 \u0633 \u0639 \u0641 \u0635 \u0642"]⟩,
  ⟨0x1EE34, 0x1EE37, ["\u0634 \u062A \u062B \u062E"]⟩, ⟨0x1EE39, 0x1EE39, ["\u0636"]⟩,
  ⟨0x1EE3B, 0x1EE3B, ["\u063A"]⟩, ⟨0x1EE42, 0x1EE42, ["\u062C"]⟩, ⟨0x1EE47, 0x1EE47, ["\u062D"]⟩,
  ⟨0x1EE49, 0x1EE49, ["\u064A"]⟩, ⟨0x1EE4B, 0x1EE4B, ["\u0644"]⟩,
  ⟨0x1EE4D, 0x1EE4F, ["\u0646 \u0633 \u0639"]⟩, ⟨0x1EE51, 0x1EE52, ["\u0635 \u0642"]⟩,
  ⟨0x1EE54, 0x1EE54, ["\u0634"]⟩, ⟨0x1EE57, 0x1EE57, ["\u062E"]⟩, ⟨0x1EE59, 0x1EE59, ["\u0636"]⟩,
  ⟨0x1EE5B, 0x1EE5B, ["\u063A"]⟩, ⟨0x1EE5D, 0x1EE5D, ["\u06BA"]⟩, ⟨0x1EE5F, 0x1EE5F, ["\u066F"]⟩,
  ⟨0x1EE61, 0x1EE62, ["\u0628 \u062C"]⟩, ⟨0x1EE64, 0x1EE64, ["\u0647"]⟩,
  ⟨0x1EE67, 0x1EE6A, ["\u062D \u0637 \u064A \u0643"]⟩,
  ⟨0x1EE6C, 0x1EE72, ["\u0645 \u0646 \u0633 \u0639 \u0641 \u0635 \u0642"]⟩,
  ⟨0x1EE74, 0x1EE77, ["\u0634 \u062A \u062B \u062E"]⟩,
  ⟨0x1EE79, 0x1EE7C, ["\u0636 \u0638 \u063A \u066E"]⟩, ⟨0x1EE7E, 0x1EE7E, ["\u06A1"]⟩,
  ⟨0x1EE80, 0x1EE89, ["\u0627 \u0628 \u062C \u062F \u0647 \u0648 \u0632 \u062D \u0637 \u064A"]⟩,
  ⟨0x1EE8B, 0x1EE9B, [
    "\u0644 \u0645 \u0646 \u0633 \u0639 \u0641 \u0635 \u0642 \u0631 \u0634 \u062A \u062B \u062E",
    "\u0630 \u0636 \u0638 \u063A"]⟩,
  ⟨0x1EEA1, 0x1EEA3, ["\u0628 \u062C \u062F"]⟩,
  ⟨0x1EEA5, 0x1EEA9, ["\u0648 \u0632 \u062D \u0637 \u064A"]⟩,
  ⟨0x1EEAB, 0x1EEBB, [
    "\u0644 \u0645 \u0646 \u0633 \u0639 \u0641 \u0635 \u0642 \u0631 \u0634 \u062A \u062B \u062E",
    "\u0630 \u0636 \u0638 \u063A"]⟩,
  ⟨0x1F101, 0x1F10A, ["0, 1, 2, 3, 4, 5, 6, 7, 8, 9,"]⟩,
  ⟨0x1F110, 0x1F14F, [
    "(a) (b) (c) (d) (e) (f) (g) (h) (i) (j) (k) (l) (m) (n) (o) (p) (q) (r) (s) (t) (u) (v)",
    "(w) (x) (y) (z) 〔s〕 c r cd wz 🄯 a b c d e f g h i j k l m n o p q r s t u v w x y z hv mv",
    "sd ss ppv wc"]⟩,
  ⟨0x1F16A, 0x1F16C, ["mc md mr"]⟩, ⟨0x1F190, 0x1F190, ["dj"]⟩, ⟨0x1F200, 0x1F202, ["ほか ココ サ"]⟩,
  ⟨0x1F210, 0x1F23B, [
    "手 字 双 デ 二 多 解 天 交 映 無 料 前 後 再 新 初 終 生 販 声 吹 演 投 捕 一 三 遊 左 中 右 指 走 打 禁 空 合 満 有 月 申 割 営 配"]⟩,
  ⟨0x1F240, 0x1F248, ["〔本〕 〔三〕 〔二〕 〔安〕 〔点〕 〔打〕 〔盗〕 〔勝〕 〔敗〕"]⟩, ⟨0x1F250, 0x1F251, ["得 可"]⟩,
  ⟨0x1FBF0, 0x1FBF9, ["0 1 2 3 4 5 6 7 8 9"]⟩,
  ⟨0x2F800, 0x2FA1D, [
    "丽 丸 乁 𠄢 你 侮 侻 倂 偺 備 僧 像 㒞 𠘺 免 兔 兤 具 𠔜 㒹 內 再 𠕋 冗 冤 仌 冬 况 𩇟 凵 刃 㓟 刻 剆 割 剷 㔕 勇 勉 勤 勺 包 匆 北 卉",
    "卑 博 即 卽 卿 卿 卿 𠨬 灰 及 叟 𠭣 叫 叱 吆 咞 吸 呈 周 咢 哶 唐 啓 啣 善 善 喙 喫 喳 嗂 圖 嘆 圗 噑 噴 切 壮 城 埴 堍 型 堲 報 墬 𡓤",
    "売 壷 夆 多 夢 奢 𡚨 𡛪 姬 娛 娧 姘 婦 㛮 㛼 嬈 嬾 嬾 𡧈 寃 寘 寧 寳 𡬘 寿 将 当 尢 㞁 屠 屮 峀 岍 𡷤 嵃 𡷦 嵮 嵫 嵼 巡 巢 㠯 巽 帨 帽",
    "幩 㡢 𢆃 㡼 庰 庳 庶 廊 𪎒 廾 𢌱 𢌱 舁 弢 弢 㣇 𣊸 𦇚 形 彫 㣣 徚 忍 志 忹 悁 㤺 㤜 悔 𢛔 惇 慈 慌 慎 慌 慺 憎 憲 憤 憯 懞 懲 懶 成 戛",
    "扝 抱 拔 捐 𢬌 挽 拼 捨 掃 揤 𢯱 搢 揅 掩 㨮 摩 摾 撝 摷 㩬 敏 敬 𣀊 旣 書 晉 㬙 暑 㬈 㫤 冒 冕 最 暜 肭 䏙 朗 望 朡 杞 杓 𣏃 㭉 柺 枅",
    "桒 梅 𣑭 梎 栟 椔 㮝 楂 榣 槪 檨 𣚣 櫛 㰘 次 𣢧 歔 㱎 歲 殟 殺 殻 𣪍 𡴋 𣫺 汎 𣲼 沿 泍 汧 洖 派 海 流 浩 浸 涅 𣴞 洴 港 湮 㴳 滋 滇 𣻑",
    "淹 潮 𣽞 𣾎 濆 瀹 瀞 瀛 㶖 灊 災 灷 炭 𠔥 煅 𤉣 熜 𤎫 爨 爵 牐 𤘈 犀 犕 𤜵 𤠔 獺 王 㺬 玥 㺸 㺸 瑇 瑜 瑱 璅 瓊 㼛 甤 𤰶 甾 𤲒 異 𢆟 瘐",
    "𤾡 𤾸 𥁄 㿼 䀈 直 𥃳 𥃲 𥄙 𥄳 眞 真 真 睊 䀹 瞋 䁆 䂖 𥐝 硎 碌 磌 䃣 𥘦 祖 𥚚 𥛅 福 秫 䄯 穀 穊 穏 𥥼 𥪧 𥪧 竮 䈂 𥮫 篆 築 䈧 𥲀 糒 䊠",
    "糨 糣 紀 𥾆 絣 䌁 緇 縂 繅 䌴 𦈨 𦉇 䍙 𦋙 罺 𦌾 羕 翺 者 𦓚 𦔣 聠 𦖨 聰 𣍟 䏕 育 脃 䐋 脾 媵 𦞧 𦞵 𣎓 𣎜 舁 舄 辞 䑫 芑 芋 芝 劳 花 芳",
    "芽 苦 𦬼 若 茝 荣 莭 茣 莽 菧 著 荓 菊 菌 菜 𦰶 𦵫 𦳕 䔫 蓱 蓳 蔖 𧏊 蕤 𦼬 䕝 䕡 𦾱 𧃒 䕫 虐 虜 虧 虩 蚩 蚈 蜎 蛢 蝹 蜨 蝫 螆 䗗 蟡 蠁",
    "䗹 衠 衣 𧙧 裗 裞 䘵 裺 㒻 𧢮 𧥦 䚾 䛇 誠 諭 變 豕 𧲨 貫 賁 贛 起 𧼯 𠠄 跋 趼 跰 𠣞 軔 輸 𨗒 𨗭 邔 郱 鄑 𨜮 鄛 鈸 鋗 鋘 鉼 鏹 鐕 𨯺 開",
    "䦕 閷 𨵷 䧦 雃 嶲 霣 𩅅 𩈚 䩮 䩶 韠 𩐊 䪲 𩒖 頋 頋 頩 𩖶 飢 䬳 餩 馧 駂 駾 䯎 𩬰 鬒 鱀 鳽 䳎 䳭 鵧 𪃎 䳸 𪄅 𪈎 𪊑 麻 䵖 黹 黾 鼅 鼏 鼖",
    "鼻 𪘀"]⟩]

/-- What a character stands for, if it is in one of the blocks. -/
def compatForm? (c : Char) : Option Text := compatBlocks.findSome? (·.image? c.toNat)

end MergeMessage.Url
