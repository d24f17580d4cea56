import Ebms.Text.Table

/-! # Canonical decomposition

Some characters are the same as a sequence of others: a letter with an accent is
the letter followed by the accent alone.  Most of them are put together again
from their parts; a few are variants whose parts stay apart or make another
character.  Hangul syllables are made of two or three letters by a rule. -/

set_option autoImplicit false

namespace Ebms.Text

/-- Characters that are put together from their parts, with these parts. -/
def compositeBlocks : List (Nat × String) :=
  [
    (0xc0, "À Á Â Ã Ä Å  Ç È É Ê Ë Ì Í Î Ï  Ñ Ò Ó Ô Õ Ö   Ù Ú Û Ü"),
    (0xdd, "Ý   à á â ã ä å  ç è é ê ë ì í î ï  ñ ò ó ô õ ö   ù ú"),
    (0xfb, "û ü ý  ÿ Ā ā Ă ă Ą ą Ć ć Ĉ ĉ Ċ ċ Č č Ď ď   Ē ē Ĕ ĕ Ė"),
    (0x117, "ė Ę ę Ě ě Ĝ ĝ Ğ ğ Ġ ġ Ģ ģ Ĥ ĥ   Ĩ ĩ Ī ī Ĭ ĭ Į į İ"),
    (0x134, "Ĵ ĵ Ķ ķ  Ĺ ĺ Ļ ļ Ľ ľ     Ń ń Ņ ņ Ň ň    Ō ō Ŏ ŏ Ő ő   Ŕ"),
    (0x155, "ŕ Ŗ ŗ Ř ř Ś ś Ŝ ŝ Ş ş Š š Ţ ţ Ť ť   Ũ ũ Ū ū Ŭ ŭ Ů ů"),
    (0x170, "Ű ű Ų ų Ŵ ŵ Ŷ ŷ Ÿ Ź ź Ż ż Ž ž"),
    (0x1a0, "Ơ ơ"),
    (0x1af, "Ư ư"),
    (0x1cd, "Ǎ ǎ Ǐ ǐ Ǒ ǒ Ǔ ǔ Ǖ ǖ Ǘ ǘ Ǚ ǚ Ǜ ǜ  Ǟ ǟ Ǡ ǡ Ǣ ǣ"),
    (0x1e6, "Ǧ ǧ Ǩ ǩ Ǫ ǫ Ǭ ǭ Ǯ ǯ ǰ    Ǵ ǵ   Ǹ ǹ Ǻ ǻ Ǽ ǽ Ǿ ǿ Ȁ ȁ"),
    (0x202, "Ȃ ȃ Ȅ ȅ Ȇ ȇ Ȉ ȉ Ȋ ȋ Ȍ ȍ Ȏ ȏ Ȑ ȑ Ȓ ȓ Ȕ ȕ Ȗ ȗ Ș ș Ț ț"),
    (0x21e, "Ȟ ȟ       Ȧ ȧ Ȩ ȩ Ȫ ȫ Ȭ ȭ Ȯ ȯ Ȱ ȱ Ȳ ȳ"),
    (0x385, "΅ Ά  Έ Ή Ί  Ό  Ύ Ώ ΐ"),
    (0x3aa, "Ϊ Ϋ ά έ ή ί ΰ"),
    (0x3ca, "ϊ ϋ ό ύ ώ     ϓ ϔ"),
    (0x400, "Ѐ Ё  Ѓ    Ї     Ќ Ѝ Ў"),
    (0x419, "Й"),
    (0x439, "й"),
    (0x450, "ѐ ё  ѓ    ї     ќ ѝ ў"),
    (0x476, "Ѷ ѷ"),
    (0x4c1, "Ӂ ӂ"),
    (0x4d0, "Ӑ ӑ Ӓ ӓ   Ӗ ӗ   Ӛ ӛ Ӝ ӝ Ӟ ӟ   Ӣ ӣ Ӥ ӥ Ӧ ӧ   Ӫ ӫ Ӭ ӭ Ӯ"),
    (0x4ef, "ӯ Ӱ ӱ Ӳ ӳ Ӵ ӵ   Ӹ ӹ"),
    (0x622, "آ أ ؤ إ ئ"),
    (0x6c0, "ۀ  ۂ"),
    (0x6d3, "ۓ"),
    (0x929, "ऩ        ऱ   ऴ"),
    (0x9cb, "ো ৌ"),
    (0xb48, "ୈ   ୋ ୌ"),
    (0xb94, "ஔ"),
    (0xbca, "ொ ோ ௌ"),
    (0xc48, "ై"),
    (0xcc0, "ೀ       ೇ ೈ  ೊ ೋ"),
    (0xd4a, "ൊ ോ ൌ"),
    (0xdda, "ේ  ො ෝ ෞ"),
    (0x1026, "ဦ"),
    (0x1b06, "ᬆ  ᬈ  ᬊ  ᬌ  ᬎ    ᬒ"),
    (0x1b3b, "ᬻ  ᬽ   ᭀ ᭁ  ᭃ"),
    (0x1e00, "Ḁ ḁ Ḃ ḃ Ḅ ḅ Ḇ ḇ Ḉ ḉ Ḋ ḋ Ḍ ḍ Ḏ ḏ Ḑ ḑ Ḓ ḓ Ḕ ḕ Ḗ ḗ"),
    (0x1e18, "Ḙ ḙ Ḛ ḛ Ḝ ḝ Ḟ ḟ Ḡ ḡ Ḣ ḣ Ḥ ḥ Ḧ ḧ Ḩ ḩ Ḫ ḫ Ḭ ḭ Ḯ ḯ Ḱ"),
    (0x1e31, "ḱ Ḳ ḳ Ḵ ḵ Ḷ ḷ Ḹ ḹ Ḻ ḻ Ḽ ḽ Ḿ ḿ Ṁ ṁ Ṃ ṃ Ṅ ṅ Ṇ ṇ Ṉ ṉ"),
    (0x1e4a, "Ṋ ṋ Ṍ ṍ Ṏ ṏ Ṑ ṑ Ṓ ṓ Ṕ ṕ Ṗ ṗ Ṙ ṙ Ṛ ṛ Ṝ ṝ Ṟ ṟ Ṡ"),
    (0x1e61, "ṡ Ṣ ṣ Ṥ ṥ Ṧ ṧ Ṩ ṩ Ṫ ṫ Ṭ ṭ Ṯ ṯ Ṱ ṱ Ṳ ṳ Ṵ ṵ Ṷ ṷ Ṹ"),
    (0x1e79, "ṹ Ṻ ṻ Ṽ ṽ Ṿ ṿ Ẁ ẁ Ẃ ẃ Ẅ ẅ Ẇ ẇ Ẉ ẉ Ẋ ẋ Ẍ ẍ Ẏ ẏ Ẑ ẑ"),
    (0x1e92, "Ẓ ẓ Ẕ ẕ ẖ ẗ ẘ ẙ  ẛ     Ạ ạ Ả ả Ấ ấ Ầ ầ Ẩ ẩ Ẫ ẫ"),
    (0x1eac, "Ậ ậ Ắ ắ Ằ ằ Ẳ ẳ Ẵ ẵ Ặ ặ Ẹ ẹ Ẻ ẻ Ẽ ẽ Ế ế Ề"),
    (0x1ec1, "ề Ể ể Ễ ễ Ệ ệ Ỉ ỉ Ị ị Ọ ọ Ỏ ỏ Ố ố Ồ ồ Ổ ổ"),
    (0x1ed6, "Ỗ ỗ Ộ ộ Ớ ớ Ờ ờ Ở ở Ỡ ỡ Ợ ợ Ụ ụ Ủ ủ Ứ ứ"),
    (0x1eea, "Ừ ừ Ử ử Ữ ữ Ự ự Ỳ ỳ Ỵ ỵ Ỷ ỷ Ỹ ỹ       ἀ ἁ ἂ ἃ"),
    (0x1f04, "ἄ ἅ ἆ ἇ Ἀ Ἁ Ἂ Ἃ Ἄ Ἅ Ἆ Ἇ ἐ ἑ ἒ ἓ ἔ ἕ   Ἐ Ἑ"),
    (0x1f1a, "Ἒ Ἓ Ἔ Ἕ   ἠ ἡ ἢ ἣ ἤ ἥ ἦ ἧ Ἠ Ἡ Ἢ Ἣ Ἤ Ἥ Ἦ Ἧ"),
    (0x1f30, "ἰ ἱ ἲ ἳ ἴ ἵ ἶ ἷ Ἰ Ἱ Ἲ Ἳ Ἴ Ἵ Ἶ Ἷ ὀ ὁ ὂ ὃ ὄ"),
    (0x1f45, "ὅ   Ὀ Ὁ Ὂ Ὃ Ὄ Ὅ   ὐ ὑ ὒ ὓ ὔ ὕ ὖ ὗ  Ὑ  Ὓ  Ὕ  Ὗ"),
    (0x1f60, "ὠ ὡ ὢ ὣ ὤ ὥ ὦ ὧ Ὠ Ὡ Ὢ Ὣ Ὤ Ὥ Ὦ Ὧ ὰ  ὲ  ὴ  ὶ  ὸ"),
    (0x1f7a, "ὺ  ὼ    ᾀ ᾁ ᾂ ᾃ ᾄ ᾅ ᾆ ᾇ ᾈ ᾉ ᾊ ᾋ ᾌ ᾍ"),
    (0x1f8e, "ᾎ ᾏ ᾐ ᾑ ᾒ ᾓ ᾔ ᾕ ᾖ ᾗ ᾘ ᾙ ᾚ ᾛ ᾜ ᾝ"),
    (0x1f9e, "ᾞ ᾟ ᾠ ᾡ ᾢ ᾣ ᾤ ᾥ ᾦ ᾧ ᾨ ᾩ ᾪ ᾫ ᾬ ᾭ"),
    (0x1fae, "ᾮ ᾯ ᾰ ᾱ ᾲ ᾳ ᾴ  ᾶ ᾷ Ᾰ Ᾱ Ὰ  ᾼ     ῁ ῂ ῃ ῄ  ῆ ῇ Ὲ"),
    (0x1fca, "Ὴ  ῌ ῍ ῎ ῏ ῐ ῑ ῒ    ῖ ῗ Ῐ Ῑ Ὶ   ῝ ῞ ῟ ῠ ῡ ῢ  ῤ ῥ ῦ"),
    (0x1fe7, "ῧ Ῠ Ῡ Ὺ  Ῥ ῭     ῲ ῳ ῴ  ῶ ῷ Ὸ  Ὼ  ῼ"),
    (0x219a, "↚ ↛"),
    (0x21ae, "↮"),
    (0x21cd, "⇍ ⇎ ⇏"),
    (0x2204, "∄     ∉   ∌"),
    (0x2224, "∤  ∦"),
    (0x2241, "≁   ≄   ≇  ≉"),
    (0x2260, "≠  ≢"),
    (0x226d, "≭ ≮ ≯ ≰ ≱   ≴ ≵   ≸ ≹       ⊀ ⊁   ⊄ ⊅   ⊈ ⊉"),
    (0x22ac, "⊬ ⊭ ⊮ ⊯"),
    (0x22e0, "⋠ ⋡ ⋢ ⋣       ⋪ ⋫ ⋬ ⋭"),
    (0x304c, "が  ぎ  ぐ  げ  ご  ざ  じ  ず  ぜ  ぞ  だ  ぢ   づ  で"),
    (0x3069, "ど       ば ぱ  び ぴ  ぶ ぷ  べ ぺ  ぼ ぽ"),
    (0x3094, "ゔ"),
    (0x309e, "ゞ"),
    (0x30ac, "ガ  ギ  グ  ゲ  ゴ  ザ  ジ  ズ  ゼ  ゾ  ダ  ヂ   ヅ  デ"),
    (0x30c9, "ド       バ パ  ビ ピ  ブ プ  ベ ペ  ボ ポ"),
    (0x30f4, "ヴ   ヷ ヸ ヹ ヺ    ヾ"),
    (0x105c9, "𐗉"),
    (0x105e4, "𐗤"),
    (0x1109a, "𑂚  𑂜"),
    (0x110ab, "𑂫"),
    (0x1112e, "𑄮 𑄯"),
    (0x1134b, "𑍋 𑍌"),
    (0x11383, "𑎃  𑎅"),
    (0x1138e, "𑎎   𑎑"),
    (0x113c5, "𑏅  𑏇 𑏈"),
    (0x114bb, "𑒻 𑒼  𑒾"),
    (0x115ba, "𑖺 𑖻"),
    (0x11938, "𑤸"),
    (0x16121, "𖄡 𖄢 𖄣 𖄤 𖄥 𖄦 𖄧 𖄨"),
    (0x16d68, "𖵨 𖵩 𖵪")]

/-- Characters that are not put together from their parts, with these parts. -/
def variantBlocks : List (Nat × String) :=
  [
    (0x340, "̀ ́  ̓ ̈́"),
    (0x374, "ʹ"),
    (0x37e, ";"),
    (0x387, "·"),
    (0x958, "क़ ख़ ग़ ज़ ड़ ढ़ फ़ य़"),
    (0x9dc, "ড় ঢ়  য়"),
    (0xa33, "ਲ਼   ਸ਼"),
    (0xa59, "ਖ਼ ਗ਼ ਜ਼   ਫ਼"),
    (0xb5c, "ଡ଼ ଢ଼"),
    (0xf43, "གྷ"),
    (0xf4d, "ཌྷ     དྷ     བྷ     ཛྷ"),
    (0xf69, "ཀྵ"),
    (0xf73, "ཱི  ཱུ ྲྀ  ླྀ"),
    (0xf81, "ཱྀ"),
    (0xf93, "ྒྷ"),
    (0xf9d, "ྜྷ     ྡྷ     ྦྷ     ྫྷ"),
    (0xfb9, "ྐྵ"),
    (0x1f71, "ά  έ  ή  ί  ό  ύ  ώ"),
    (0x1fbb, "Ά   ι"),
    (0x1fc9, "Έ  Ή        ΐ        Ί        ΰ        Ύ   ΅ `"),
    (0x1ff9, "Ό  Ώ  ´      "),
    (0x2126, "Ω    K Å"),
    (0x2329, "〈 〉"),
    (0x2adc, "⫝̸"),
    (0xf900, "豈 更 車 賈 滑 串 句 龜 龜 契 金 喇 奈 懶 癩 羅 蘿 螺 裸 邏 樂 洛 烙 珞 落 酪 駱 亂"),
    (0xf91c, "卵 欄 爛 蘭 鸞 嵐 濫 藍 襤 拉 臘 蠟 廊 朗 浪 狼 郎 來 冷 勞 擄 櫓 爐 盧 老 蘆 虜 路"),
    (0xf938, "露 魯 鷺 碌 祿 綠 菉 錄 鹿 論 壟 弄 籠 聾 牢 磊 賂 雷 壘 屢 樓 淚 漏 累 縷 陋 勒 肋"),
    (0xf954, "凜 凌 稜 綾 菱 陵 讀 拏 樂 諾 丹 寧 怒 率 異 北 磻 便 復 不 泌 數 索 參 塞 省 葉 說"),
    (0xf970, "殺 辰 沈 拾 若 掠 略 亮 兩 凉 梁 糧 良 諒 量 勵 呂 女 廬 旅 濾 礪 閭 驪 麗 黎 力 曆"),
    (0xf98c, "歷 轢 年 憐 戀 撚 漣 煉 璉 秊 練 聯 輦 蓮 連 鍊 列 劣 咽 烈 裂 說 廉 念 捻 殮 簾 獵"),
    (0xf9a8, "令 囹 寧 嶺 怜 玲 瑩 羚 聆 鈴 零 靈 領 例 禮 醴 隸 惡 了 僚 寮 尿 料 樂 燎 療 蓼 遼"),
    (0xf9c4, "龍 暈 阮 劉 杻 柳 流 溜 琉 留 硫 紐 類 六 戮 陸 倫 崙 淪 輪 律 慄 栗 率 隆 利 吏 履"),
    (0xf9e0, "易 李 梨 泥 理 痢 罹 裏 裡 里 離 匿 溺 吝 燐 璘 藺 隣 鱗 麟 林 淋 臨 立 笠 粒 狀 炙"),
    (0xf9fc, "識 什 茶 刺 切 度 拓 糖 宅 洞 暴 輻 行 降 見 廓 兀 嗀   塚  晴   凞 猪 益 礼 神 祥"),
    (0xfa1b, "福 靖 精 羽  蘒  諸   逸 都    飯 飼 館 鶴 郞 隷 侮 僧 免 勉 勤 卑 喝 嘆 器 塀 墨 層"),
    (0xfa3c, "屮 悔 慨 憎 懲 敏 既 暑 梅 海 渚 漢 煮 爫 琢 碑 社 祉 祈 祐 祖 祝 禍 禎 穀 突 節 練"),
    (0xfa58, "縉 繁 署 者 臭 艹 艹 著 褐 視 謁 謹 賓 贈 辶 逸 難 響 頻 恵 𤋮 舘   並 况 全 侀 充"),
    (0xfa75, "冀 勇 勺 喝 啕 喙 嗢 塚 墳 奄 奔 婢 嬨 廒 廙 彩 徭 惘 慎 愈 憎 慠 懲 戴 揄 搜 摒 敖"),
    (0xfa91, "晴 朗 望 杖 歹 殺 流 滛 滋 漢 瀞 煮 瞧 爵 犯 猪 瑱 甆 画 瘝 瘟 益 盛 直 睊 着 磌 窱"),
    (0xfaad, "節 类 絛 練 缾 者 荒 華 蝹 襁 覆 視 調 諸 請 謁 諾 諭 謹 變 贈 輸 遲 醙 鉶 陼 難 靖"),
    (0xfac9, "韛 響 頋 頻 鬒 龜 𢡊 𢡄 𣏕 㮝 䀘 䀹 𥉉 𥳐 𧻓 齃 龎"),
    (0xfb1d, "יִ  ײַ"),
    (0xfb2a, "שׁ שׂ שּׁ שּׂ אַ אָ אּ בּ גּ דּ הּ וּ זּ  טּ יּ ךּ כּ לּ  מּ  נּ סּ  ףּ פּ  צּ"),
    (0xfb47, "קּ רּ שּ תּ וֹ בֿ כֿ פֿ"),
    (0x1d15e, "𝅗𝅥 𝅘𝅥 𝅘𝅥𝅮 𝅘𝅥𝅯 𝅘𝅥𝅰 𝅘𝅥𝅱 𝅘𝅥𝅲"),
    (0x1d1bb, "𝆹𝅥 𝆺𝅥 𝆹𝅥𝅮 𝆺𝅥𝅮 𝆹𝅥𝅯 𝆺𝅥𝅯"),
    (0x2f800, "丽 丸 乁 𠄢 你 侮 侻 倂 偺 備 僧 像 㒞 𠘺 免 兔 兤 具 𠔜 㒹 內 再 𠕋 冗 冤 仌 冬 况"),
    (0x2f81c, "𩇟 凵 刃 㓟 刻 剆 割 剷 㔕 勇 勉 勤 勺 包 匆 北 卉 卑 博 即 卽 卿 卿 卿 𠨬 灰 及 叟"),
    (0x2f838, "𠭣 叫 叱 吆 咞 吸 呈 周 咢 哶 唐 啓 啣 善 善 喙 喫 喳 嗂 圖 嘆 圗 噑 噴 切 壮 城 埴"),
    (0x2f854, "堍 型 堲 報 墬 𡓤 売 壷 夆 多 夢 奢 𡚨 𡛪 姬 娛 娧 姘 婦 㛮 㛼 嬈 嬾 嬾 𡧈 寃 寘 寧"),
    (0x2f870, "寳 𡬘 寿 将 当 尢 㞁 屠 屮 峀 岍 𡷤 嵃 𡷦 嵮 嵫 嵼 巡 巢 㠯 巽 帨 帽 幩 㡢 𢆃 㡼 庰"),
    (0x2f88c, "庳 庶 廊 𪎒 廾 𢌱 𢌱 舁 弢 弢 㣇 𣊸 𦇚 形 彫 㣣 徚 忍 志 忹 悁 㤺 㤜 悔 𢛔 惇 慈 慌"),
    (0x2f8a8, "慎 慌 慺 憎 憲 憤 憯 懞 懲 懶 成 戛 扝 抱 拔 捐 𢬌 挽 拼 捨 掃 揤 𢯱 搢 揅 掩 㨮 摩"),
    (0x2f8c4, "摾 撝 摷 㩬 敏 敬 𣀊 旣 書 晉 㬙 暑 㬈 㫤 冒 冕 最 暜 肭 䏙 朗 望 朡 杞 杓 𣏃 㭉 柺"),
    (0x2f8e0, "枅 桒 梅 𣑭 梎 栟 椔 㮝 楂 榣 槪 檨 𣚣 櫛 㰘 次 𣢧 歔 㱎 歲 殟 殺 殻 𣪍 𡴋 𣫺 汎 𣲼"),
    (0x2f8fc, "沿 泍 汧 洖 派 海 流 浩 浸 涅 𣴞 洴 港 湮 㴳 滋 滇 𣻑 淹 潮 𣽞 𣾎 濆 瀹 瀞 瀛 㶖 灊"),
    (0x2f918, "災 灷 炭 𠔥 煅 𤉣 熜 𤎫 爨 爵 牐 𤘈 犀 犕 𤜵 𤠔 獺 王 㺬 玥 㺸 㺸 瑇 瑜 瑱 璅 瓊 㼛"),
    (0x2f934, "甤 𤰶 甾 𤲒 異 𢆟 瘐 𤾡 𤾸 𥁄 㿼 䀈 直 𥃳 𥃲 𥄙 𥄳 眞 真 真 睊 䀹 瞋 䁆 䂖 𥐝 硎 碌"),
    (0x2f950, "磌 䃣 𥘦 祖 𥚚 𥛅 福 秫 䄯 穀 穊 穏 𥥼 𥪧 𥪧 竮 䈂 𥮫 篆 築 䈧 𥲀 糒 䊠 糨 糣 紀 𥾆"),
    (0x2f96c, "絣 䌁 緇 縂 繅 䌴 𦈨 𦉇 䍙 𦋙 罺 𦌾 羕 翺 者 𦓚 𦔣 聠 𦖨 聰 𣍟 䏕 育 脃 䐋 脾 媵 𦞧"),
    (0x2f988, "𦞵 𣎓 𣎜 舁 舄 辞 䑫 芑 芋 芝 劳 花 芳 芽 苦 𦬼 若 茝 荣 莭 茣 莽 菧 著 荓 菊 菌 菜"),
    (0x2f9a4, "𦰶 𦵫 𦳕 䔫 蓱 蓳 蔖 𧏊 蕤 𦼬 䕝 䕡 𦾱 𧃒 䕫 虐 虜 虧 虩 蚩 蚈 蜎 蛢 蝹 蜨 蝫 螆 䗗"),
    (0x2f9c0, "蟡 蠁 䗹 衠 衣 𧙧 裗 裞 䘵 裺 㒻 𧢮 𧥦 䚾 䛇 誠 諭 變 豕 𧲨 貫 賁 贛 起 𧼯 𠠄 跋 趼"),
    (0x2f9dc, "跰 𠣞 軔 輸 𨗒 𨗭 邔 郱 鄑 𨜮 鄛 鈸 鋗 鋘 鉼 鏹 鐕 𨯺 開 䦕 閷 𨵷 䧦 雃 嶲 霣 𩅅 𩈚"),
    (0x2f9f8, "䩮 䩶 韠 𩐊 䪲 𩒖 頋 頋 頩 𩖶 飢 䬳 餩 馧 駂 駾 䯎 𩬰 鬒 鱀 鳽 䳎 䳭 鵧 𪃎 䳸 𪄅 𪈎"),
    (0x2fa14, "𪊑 麻 䵖 黹 黾 鼅 鼏 鼖 鼻 𪘀")]

def partsTable : Std.HashMap Nat (List Char) :=
  Std.HashMap.ofList (blocksEntries compositeBlocks ++ blocksEntries variantBlocks)

def compositeTable : Std.HashMap (List Nat) Nat :=
  Std.HashMap.ofList ((blocksEntries compositeBlocks).map fun (code, parts) =>
    (parts.map Char.toNat, code))

def syllableParts? (c : Char) : Option (List Char) :=
  let index := c.toNat - 0xAC00
  if c.toNat < 0xAC00 ∨ 11172 ≤ index then none
  else
    let lead := Char.ofNat (0x1100 + index / 588)
    let vowel := Char.ofNat (0x1161 + index % 588 / 28)
    some (lead :: vowel :: if index % 28 = 0 then [] else [Char.ofNat (0x11A7 + index % 28)])

def partsOf (c : Char) : List Char :=
  if c.toNat < 0xC0 then [c]
  else ((syllableParts? c).or partsTable[c.toNat]?).getD [c]

/-- The Hangul syllable of a leading letter and a vowel, or of such a syllable and
a letter that closes it. -/
def syllable? (first second : Char) : Option Char :=
  let a := first.toNat
  let b := second.toNat
  if 0x1100 ≤ a ∧ a < 0x1113 ∧ 0x1161 ≤ b ∧ b < 0x1176 then
    some (Char.ofNat (0xAC00 + 588 * (a - 0x1100) + 28 * (b - 0x1161)))
  else if 0xAC00 ≤ a ∧ a < 0xD7A4 ∧ (a - 0xAC00) % 28 = 0 ∧ 0x11A8 ≤ b ∧ b < 0x11C3 then
    some (Char.ofNat (a + (b - 0x11A7)))
  else none

def composite? (first second : Char) : Option Char :=
  if second.toNat < 0x300 then none
  else
    let parts := partsOf first ++ [second]
    (syllable? first second).or (compositeTable[parts.map Char.toNat]?.map Char.ofNat)

end Ebms.Text
