import Cloudlibc.Foundations.PackedTable

/-!
# The tables of GB 2312

The table of the decoder and the table of the encoder in `libc/locale/ctype/gb2312.h`. The table
of the decoder has 81 rows of 94 characters, the rows 1 to 9 and 16 to 87 of GB 2312. The table of
the encoder has, for each of 7445 characters in increasing order, the character and its two bytes.
-/

set_option autoImplicit false

namespace Cloudlibc.Locale.Gb2312

open Cloudlibc.PackedTable

/-- The array `table` in `gb2312_mbtoc32()`. -/
def table : Table := ⟨16, 16, 22, 81 * 94, [
  [0x30003001300230fb02c902c700a8300330052015ff5e2225202620182019201c,
  0x201d3014301530083009300a300b300c300d300e300f301630173010301100b1,
  0x00d700f72236222722282211220f222a222922082237221a22a5222522202312,
  0x2299222b222e2261224c2248223d221d2260226e226f22642265221e22352234,
  0x2642264000b0203220332103ff0400a4ffe0ffe1203000a721162606260525cb,
  0x25cf25ce25c725c625a125a025b325b2203b2192219021912193301300000000,
  0x0000000000000000000000000000000000000000000000000000000024882489,
  0x248a248b248c248d248e248f2490249124922493249424952496249724982499,
  0x249a249b247424752476247724782479247a247b247c247d247e247f24802481,
  0x2482248324842485248624872460246124622463246424652466246724682469,
  0x0000000032203221322232233224322532263227322832290000000021602161,
  0x21622163216421652166216721682169216a216b00000000ff01ff02ff03ffe5,
  0xff05ff06ff07ff08ff09ff0aff0bff0cff0dff0eff0fff10ff11ff12ff13ff14,
  0xff15ff16ff17ff18ff19ff1aff1bff1cff1dff1eff1fff20ff21ff22ff23ff24,
  0xff25ff26ff27ff28ff29ff2aff2bff2cff2dff2eff2fff30ff31ff32ff33ff34,
  0xff35ff36ff37ff38ff39ff3aff3bff3cff3dff3eff3fff40ff41ff42ff43ff44,
  0xff45ff46ff47ff48ff49ff4aff4bff4cff4dff4eff4fff50ff51ff52ff53ff54,
  0xff55ff56ff57ff58ff59ff5aff5bff5cff5dffe3304130423043304430453046,
  0x304730483049304a304b304c304d304e304f3050305130523053305430553056,
  0x305730583059305a305b305c305d305e305f3060306130623063306430653066,
  0x306730683069306a306b306c306d306e306f3070307130723073307430753076,
  0x307730783079307a307b307c307d307e307f3080308130823083308430853086],
  [0x308730883089308a308b308c308d308e308f3090309130923093000000000000,
  0x0000000000000000000000000000000030a130a230a330a430a530a630a730a8,
  0x30a930aa30ab30ac30ad30ae30af30b030b130b230b330b430b530b630b730b8,
  0x30b930ba30bb30bc30bd30be30bf30c030c130c230c330c430c530c630c730c8,
  0x30c930ca30cb30cc30cd30ce30cf30d030d130d230d330d430d530d630d730d8,
  0x30d930da30db30dc30dd30de30df30e030e130e230e330e430e530e630e730e8,
  0x30e930ea30eb30ec30ed30ee30ef30f030f130f230f330f430f530f600000000,
  0x000000000000000000000000039103920393039403950396039703980399039a,
  0x039b039c039d039e039f03a003a103a303a403a503a603a703a803a900000000,
  0x00000000000000000000000003b103b203b303b403b503b603b703b803b903ba,
  0x03bb03bc03bd03be03bf03c003c103c303c403c503c603c703c803c900000000,
  0x0000000000000000000000000000000000000000000000000000000000000000,
  0x0000000000000000000000000000000000000000000000000000000000000000,
  0x000000000000000004100411041204130414041504010416041704180419041a,
  0x041b041c041d041e041f0420042104220423042404250426042704280429042a,
  0x042b042c042d042e042f00000000000000000000000000000000000000000000,
  0x000000000000000004300431043204330434043504510436043704380439043a,
  0x043b043c043d043e043f0440044104420443044404450446044704480449044a,
  0x044b044c044d044e044f00000000000000000000000000000000000000000000,
  0x00000000010100e101ce00e0011300e9011b00e8012b00ed01d000ec014d00f3,
  0x01d200f2016b00fa01d400f901d601d801da01dc00fc00ea0000000000000000,
  0x00000000000000000000000031053106310731083109310a310b310c310d310e],
  [0x310f3110311131123113311431153116311731183119311a311b311c311d311e,
  0x311f312031213122312331243125312631273128312900000000000000000000,
  0x0000000000000000000000000000000000000000000000000000000000000000,
  0x0000000000002500250125022503250425052506250725082509250a250b250c,
  0x250d250e250f2510251125122513251425152516251725182519251a251b251c,
  0x251d251e251f2520252125222523252425252526252725282529252a252b252c,
  0x252d252e252f2530253125322533253425352536253725382539253a253b253c,
  0x253d253e253f2540254125422543254425452546254725482549254a254b0000,
  0x00000000000000000000000000000000000000000000000000000000554a963f,
  0x57c3632854ce550954c07691764c853c77ee827e788d72319698978d6c285b89,
  0x4ffa630966975cb880fa684880ae660276ce51f9655671ac7ff1888450b25965,
  0x61ca6fb382ad634c625253ed54277b06516b75a45df462d48dcb9776628a8019,
  0x575d97387f627238767d67cf767e64464f708d2562dc7a17659173ed642c6273,
  0x822c9881677f7248626e62cc4f3474e3534a529e7eca90a65e2e6886699c8180,
  0x7ed168d278c5868c9551508d8c2482de80de530589125265858496f94fdd5821,
  0x99715b9d62b162a566b48c799c8d7206676f789160b2535153178f8880cc8d1d,
  0x94a1500d72c8590760eb711988ab595482ef672c7b285d297ef7752d6cf58e66,
  0x8ff8903c9f3b6bd491197b145f7c78a784d6853d6bd56bd96bd65e015e8775f9,
  0x95ed655d5f0a5fc58f9f58c181c2907f965b97ad8fb97f168d2c62414fbf53d8,
  0x535e8fa88fa98fab904d68075f6a819888689cd6618b522b762a5f6c658c6fd2,
  0x6ee85bbe6448517551b067c44e1979c9997c70b375c55e7673bb83e064ad62e8,
  0x94b56ce2535a52c3640f94c27b944f2f5e1b82368116818a6e246cca9a736355],
  [0x535c54fa886557e04e0d5e036b657c3f90e8601664e6731c88c16750624d8d22,
  0x776c8e2991c75f6983dc8521991053c286956b8b60ed60e8707f82cd82314ed3,
  0x6ca785cf64cd7cd969fd66f9834953957b564fa7518c6d4b5c428e6d63d253c9,
  0x832c833667e578b4643d5bdf5c945dee8be762c667f48c7a640063ba8749998b,
  0x8c177f2094f24ea7961098a4660c7316573a5c1d5e38957f507f80a05382655e,
  0x7545553150218d856284949e671d56326f6e5de2543570928f66626f64a463a3,
  0x5f7b6f8890f481e38fb05c1866685ff16c8996488d81886c649179f057ce6a59,
  0x621054484e587a0b60e96f848bda627f901e9a8b79e4540375f4630153196c60,
  0x8fdf5f1b9a70803b9f7f4f885c3a8d647fc565a570bd514551b2866b5d075ba0,
  0x62bd916c75748e0c7a2061017b794ec77ef877854e1181ed521d51fa6a7153a8,
  0x8e87950496cf6ec19664695a784050a877d7641089e6590463e35ddd7a7f693d,
  0x4f20823955984e3275ae7a975e625e8a95ef521b5439708a6376952457826625,
  0x693f918755076df37eaf882262337ef075b5832878c196cc8f9e614874f78bcd,
  0x6b64523a8d506b21806a847156f153064ece4e1b51d17c97918b7c074fc38e7f,
  0x7be17a9c64675d1450ac810676017cb96dec7fe067515b585bf878cb64ae6413,
  0x63aa632b9519642d8fbe7b5476296253592754466b7950a362345e266b864ee3,
  0x8d37888b5f85902e6020803d62c54e39535590f863b880c665e66c2e4f4660ee,
  0x6de18bde5f3986cb5f536321515a83616863520063638e4850125c9b79775bfc,
  0x52307a3b60bc905376d75fb75f9776848e6c706f767b7b4977aa51f390935824,
  0x4f4e6ef48fea654c7b1b72c46da47fdf5ae162b55e95573084827b2c5e1d5f1f,
  0x90127f1498a063826ec7789870b95178975b57ab75354f4375385e9760e65960,
  0x6dc06bbf788953fc96d551cb52016389540a94938c038dcc7239789f87768fed],
  [0x8c0d53e04e0176ef53ee948998769f0e952d5b9a8ba24e224e1c51ac846361c2,
  0x52a8680b4f97606b51bb6d1e515c6296659796618c46901775d890fd77636bd2,
  0x728a72ec8bfb583577798d4c675c9540809a5ea66e2159927aef77ed953b6bb5,
  0x65ad7f0e58065151961f5bf958a954288e726566987f56e4949d76fe90416387,
  0x54c6591a593a579b8eb267358dfa8235524160f0581586fe5ce89e454fc4989d,
  0x8bb95a2560765384627c904f9102997f6069800c513f80335c1499756d314e8c,
  0x8d3053d17f5a7b4f4f104e4f96006cd573d085e95e06756a7ffb6a0a77fe9492,
  0x7e4151e170e653cd8fd483038d2972af996d6cdb574a82b365b980aa623f9632,
  0x59a84eff8bbf7eba653e83f2975e556198de80a5532a8bfd542080ba5e9f6cb8,
  0x8d3982ac915a54296c1b52067eb7575f711a6c7e7c89594b4efd5fff61247caa,
  0x4e305c0167ab87025cf0950b98ce75af70fd902251af7f1d8bbd594951e44f5b,
  0x5426592b657780a45b75627662c28f905e456c1f7b264f0f4fd8670d6d6e6daa,
  0x798f88b15f17752b629a8f854fef91dc65a7812f81515e9c81508d74526f8986,
  0x8d4b590d50854ed8961c723681798d1f5bcc8ba3964459877f1a54905676560e,
  0x8be565396982949976d66e895e727518674667d17aff809d8d76611f79c66562,
  0x8d635188521a94a27f38809b7eb25c976e2f67607bd9768b9ad8818f7f947cd5,
  0x641e95507a3f544a54e56b4c640162089e3d80f3759952729769845b683c86e4,
  0x9601969494ec4e2a54047ed968398ddf801566f45e9a7fb957c2803f68975de5,
  0x653b529f606d9f9a4f9b8eac516c5bab5f135de96c5e62f18d21517194a952fe,
  0x6c9f82df72d757a267848d2d591f8f9c83c754957b8d4f306cbd5b6459d19f13,
  0x53e486ca9aa88c3780a16545987e56fa96c7522e74dc52505be1630289024e56,
  0x62d0602a68fa51735b9851a089c27ba199867f5060ef704c8d2f51495e7f901b],
  [0x747089c4572d78455f529f9f95fa8f689b3c8be17678684267dc8dea8d35523d,
  0x8f8a6eda68cd950590ed56fd679c88f98fc754c89ab85b696d776c264ea55bb3,
  0x9a87916361a890af97e9542b6db55bd251fd558a7f557ff064bc634d65f161be,
  0x608d710a6c576c49592f676d822a58d5568e8c6a6beb90dd597d801753f76d69,
  0x5475559d837783cf683879be548c4f55540876d28c8996026cb36db88d6b8910,
  0x9e648d3a563f9ed175d55f8872e0606854fc4ea86a2a886160528f7054c470d8,
  0x86799e3f6d2a5b8f5f187ea255894faf7334543c539a5019540e547c4e4e5ffd,
  0x745a58f6846b80e1877472d07cca6e565f27864e552c62a44e926caa623782b1,
  0x54d7534e733e6ed1753b521253168bdd69d05f8a60006dee574f6b2273af6853,
  0x8fd87f13636260a3552475ea8c6271156da35ba65e7b8352614c9ec478fa8757,
  0x7c27768751f060f6714c66435e4c604d8c0e707063258f895fbd606286d456de,
  0x6bc160946167534960e066668d3f79fd4f1a70e96c478bb38bf27ed88364660f,
  0x5a5a9b426d516df78c416d3b4f19706b83b7621660d1970d8d27797851fb573e,
  0x57fa673a75787a3d79ef7b95808c99658ff96fc08ba59e2159ec7ee97f095409,
  0x678168d88f917c4d96c653ca602575be6c7253735ac97ea7632451e0810a5df1,
  0x84df628051805b634f0e796d524260b86d4e5bc45bc28ba18bb065e25fcc9645,
  0x59937ee77eaa560967b759394f735bb652a0835a988a8d3e753294be50477a3c,
  0x4ef767b69a7e5ac16b7c76d1575a5c167b3a95f4714e517c80a9827059787f04,
  0x832768c067ec78b1787762e363617b804fed526a51cf835069db92748df58d31,
  0x89c1952e7bad4ef6506582305251996f6e106e856da75efa50f559dc5c066d46,
  0x6c5f7586848b686859568bb253209171964d854969127901712680f64ea490ca,
  0x6d479a845a0756bc640594f077eb4fa5811a72e189d2997a7f347ede527f6559],
  [0x91758f7f8f8353eb7a9663ed63a5768679f888579636622a52ab828268546770,
  0x6377776b7aed6d017ed389e359d0621285c982a5754c501f4ecb75a58beb5c4a,
  0x5dfe7b4b65a491d14eca6d25895f7d2795264ec58c288fdb9773664b79818fd1,
  0x70ec6d785c3d52b283465162830e775b66769cb84eac60ca7cbe7cb37ecf4e95,
  0x8b66666f988897595883656c955c5f8475c997567adf7ade51c070af7a9863ea,
  0x7a767ea0739697ed4e4570784e5d915253a9655165e781fc8205548e5c31759a,
  0x97a062d872d975bd5c459a7983ca5c40548077e94e3e6cae805a62d2636e5de8,
  0x51778ddd8e1e952f4ff153e560e770ac526763509e435a1f5026773753777ee2,
  0x6485652b628963985014723589c951b38bc07edd574783cc94a7519b541b5cfb,
  0x4fca7ae36d5a90e19a8f55805496536154af5f0063e9697751ef6168520a582a,
  0x52d8574e780d770b5eb761777ce0625b62974ea27095800362f770e497605777,
  0x82db67ef68f578d5989779d158f354b353ef6e34514b523b5ba28bfe80af5543,
  0x57a660735751542d7a7a60505b5463a762a053e362635bc767af54ed7a9f82e6,
  0x91775e9388e4593857ae630e8de880ef57577b774fa95feb5bbd6b3e53217b50,
  0x72c2684677ff773665f751b54e8f76d45cbf7aa58475594e9b41508099886127,
  0x6e8357646606634656f062ec62695ed39614578362c955878721814a8fa35566,
  0x83b167658d5684dd5a6a680f62e67bee961151706f9c8c3063fd89c861d27f06,
  0x70c26ee57405699472fc5eca90ce67176d6a635e52b3726280014f6c59e5916a,
  0x70d96d9d52d24e5096f7956d857e78ca7d2f5121579264c2808b7c7b6cea68f1,
  0x695e51b7539868a872819ece7bf172f879bb6f137406674e91cc9ca4793c8389,
  0x8354540f68174e3d538952b1783e5386522950884f8b4fd075e27acb7c926ca5,
  0x96b6529b748354e94fe9805483b28fde95705ec9601c6d9f5e18655b813894fe],
  [0x604b70bc7ec37cae51c968817cb1826f4e248f8691cf667e4eae8c0564a9804a,
  0x50da759771ce5be58fbd6f664e86648295635ed66599521788c270c852a3730e,
  0x7433679778f797164e3490bb9cde6dcb51db8d41541d62ce73b283f196f69f84,
  0x94c34f367f9a51cc707596755cad988653e64ee46e9c740969b4786b998f7559,
  0x521876246d4167f3516d9f99804b54997b3c7abf9686578462e29647697c5a04,
  0x64027bd36f0f964b82a6536298855e90708963b35364864f9c819e93788c9732,
  0x8def8d429e7f6f5e79845f559646622e9a74541594dd4fa365c55c655c617f15,
  0x86516c2f5f8b73876ee47eff5ce6631b5b6a6ee653754e7163a0756562a18f6e,
  0x4f264ed16ca67eb68bba841d87ba7f57903b95237ba99aa188f8843d6d1b9a86,
  0x7edc59889ebb739b780186829a6c9a82561b541757cb4e709ea653568fc88109,
  0x7792999286ee6ee1851366fc61626f2b8c298292832b76f26c135fd983bd732b,
  0x8305951a6bdb77db94c6536f830251925e3d8c8c8d384e4873ab679a68859176,
  0x970971646ca177095a9295416bcf7f8e66275bd059b95a9a95e895f74eec840c,
  0x84996aac76df9530731b68a65b5f772f919a97617cdc8ff78c1c5f257c7379d8,
  0x89c56ccc871c5bc65e4268c977207ef55195514d52c95a297f05976282d763cf,
  0x778485d079d26e3a5e9959998511706d6c1162bf76bf654f60af95fd660e879f,
  0x9e2394ed540d547d8c2c6478647986116a21819c78e864699b5462b9672b83ab,
  0x58a89ed86cab6f205bde964c8c0b725f67d062c772614ea959c66bcd589366ae,
  0x5e5552df6155672876ee776672677a4662ff54ea545094a090a35a1c7eb36c16,
  0x4e435976801059485357753796be56ca63208111607c95f96dd6546299815185,
  0x5ae980fd59ae9713502a6ce55c3c62df4f60533f817b90066eba852b62c85e74,
  0x78be64b5637b5ff55a18917f9e1f5c3f634f80425b7d556e954a954d6d8560a8],
  [0x67e072de51dd5b8162e76cde725b626d94ae7ebd81136d53519c5f04597452aa,
  0x6012597366968650759f632a61e67cef8bfa54e66b279e256bb485d554555076,
  0x6ca4556a8db4722c5e156015743662cd6392724c5f986e436d3e65006f5876d8,
  0x78d076fc7554522453db4e535e9e65c1802a80d6629b5486522870ae888d8dd1,
  0x6ce1547880da57f988f48d54966a914d4f696c9b55b776c6783062a870f96f8e,
  0x5f6d84ec68da787c7bf781a8670b9e4f636778b0576f78129739627962ab5288,
  0x74356bd75564813e75b276ae533975de50fb5c418b6c7bc7504f72479a9798d8,
  0x6f0274e27968648777a562fc98918d2b54c180584e52576a82f9840d5e7351ed,
  0x74f68bc45c4f57616cfc98875a4678349b448feb7c955256625194fa4ec68386,
  0x846183e984b257d467345703666e6d668c3166dd7011671f6b3a6816621a59bb,
  0x4e0351c46f0667d26c8f517668cb59476b6775665d0e81109f5065d779487941,
  0x9a918d775c824e5e4f01542f5951780c56686c148fc45f036c7d6ce38bab6390,
  0x60706d3d72756266948e94c553438fc17b7e4edf8c264e7e9ed494b194b3524d,
  0x6f5c90636d458c3458115d4c6b206b4967aa545b81547f8c589985375f3a62a2,
  0x6a47953965726084686577a74e544fa85de7979864ac7fd85ced4fcf7a8d5207,
  0x83044e14602f7a8394a64fb54eb279e6743452e482b964d279bd5bdd6c819752,
  0x8f7b6c22503e537f6e0564ce66746c3060c598778bf75e86743c7a7779cb4e18,
  0x90b174036c4256da914b6cc58d8b533a86c666f28eaf5c489a716e2053d65a36,
  0x9f8b8da353bb570898a76743919b6cc9516875ca62f372ac5238529d7f3a7094,
  0x763853749e4a69b7786e96c088d97fa4713671c3518967d374e458e4651856b7,
  0x8ba9997662707ed560f970ed58ec4ec14eba5fcd97e74efb8ba45203598a7eab,
  0x62544ecd65e5620e833884c98363878d71946eb65bb97ed2519763c967d48089],
  [0x8339881551125b7a59828fb14e736c5d516589258f6f962e854a745e951095f0,
  0x6da682e55f3164926d128428816e9cc3585e8d5b4e0953c14f1e6563685155d3,
  0x4e2764149a9a626b5ac2745f82726da968ee50e7838e7802674052396c997eb1,
  0x50bb5565715e7b5b665273ca82eb67495c715220717d886b95ea965564c58d61,
  0x81b355846c5562477f2e58924f2455468d4f664c4e0a5c1a88f368a2634e7a0d,
  0x70e7828d52fa97f65c1154e890b57ecd59628d4a86c7820c820d8d6664445c04,
  0x61516d89793e8bbe78377533547b4f388eab6df15a207ec5795e6c885ba15a76,
  0x751a80be614e6e1758f0751f7525727253477ef3770176db526980dc57235e08,
  0x593172ee65bd6e7f8bd75c388671534177f362fe65f64ec098df86805b9e8bc6,
  0x53f277e24f7f5c4e9a7659cb5f0f793a58eb4e1667ff4e8b62ed8a93901d52bf,
  0x662f55dc566c90024ed54f8d91ca99706c0f5e0260435ba489c68bd56536624b,
  0x99965b885bff6388552e53d77626517d852c67a268b36b8a62928f9353d48212,
  0x6dd1758f4e668d4e5b70719f85af669166d97f7287009ecd9f205c5e672f8ff0,
  0x6811675f620d7ad658855eb665706f3160555237800d6454887075295e056813,
  0x62f4971c53cc723d8c016c3477617a0e542e77ac987a821c8bf47855671470c1,
  0x65af64955636601d79c153f84e1d6b7b80865bfa55e356db4f3a4f3c99725df3,
  0x677e80386002988290015b8b8bbc8bf5641c825864de55fd82cf91654fd77d20,
  0x901f7c9f50f358516eaf5bbf8bc980839178849c7b97867d968b968f7ee59ad3,
  0x788e5c817a57904296a7795f5b59635f7b0b84d168ad55067f2974107d229501,
  0x6240584c4ed65b8359795854736d631e8e4b8e0f80ce82d462ac53f06cf0915e,
  0x592a60016c70574d644a8d2a762b6ee9575b6a8075f06f6d8c2d8c0857666bef,
  0x889278b363a253f970ad6c645858642a580268e0819b55107cd650188eba6dcc],
  [0x8d9f70eb638f6d9b6ed47ee68404684390036dd896768ba85957727985e4817e,
  0x75bc8a8a68af52548e22951163d098988e44557c4f5366ff568f60d56d955243,
  0x5c4959296dfb586b7530751c606c82148146631167618fe2773a8df38d3494c1,
  0x5e165385542c70c36c405ef7505c4ead5ead633a8247901a6850916e77b3540c,
  0x94dc5f647ae5687663457b527edf75db507762955934900f51f879c37a8156fe,
  0x5f9290146d825c60571f541051546e4d56e263a89893817f8715892a9000541e,
  0x5c6f81c062d6625881319e3596409a6e9a7c692d59a562d3553e631654c786d9,
  0x6d3c5a0374e6889c6b6a59168c4c5f2f6e7e73a9987d4e3870f75b8c7897633d,
  0x665a769660cb5b9b5a494e0781556c6a738b4ea167897f515f8065fa671b5fd8,
  0x59845a015dcd5fae537197e68fdd684556f4552f60df4e3a6f4d7ef482c7840e,
  0x59d44f1f4f2a5c3e7eac672a851a5473754f80c355829b4f4f4d6e2d8c135c09,
  0x6170536b761f6e29868a658795fb7eb9543b7a337d0a95ee55e17fc174ee631d,
  0x87176da17a9d621165a1536763e16c835deb545c94a84e4c6c618bec5c4b65e0,
  0x829c68a7543e54346bcb6b664e9463425348821e4f0d4fae575e620a96fe6664,
  0x726952ff52a1609f8bef661471996790897f785277fd6670563b54389521727a,
  0x7a00606f5e0c6089819d591560dc718470ef6eaa6c5072806a8488ad5e2d4e60,
  0x5ab3559c94e36d177cfb9699620f7ec6778e867e5323971e8f9666875ce14fa0,
  0x72ed4e0b53a6590f54136380952851484ed99c9c7ea454b88d248854823795f2,
  0x6d8e5f265acc663e966973b0732e53bf817a99857fa15baa967796507ebf76f8,
  0x53a2957699997bb189446e584e617fd479658be660f354cd4eab98795df76a61,
  0x50cf54118c618427785d9704524a54ee56a395006d885bb56dc666535c0f5b5d,
  0x6821809655787b11654869544e9b6b47874e978b534f631f643a90aa659c80c1],
  [0x8c10519968b0537887f961c86cc46cfb8c225c5185aa82af950c6b238f9b65b0,
  0x5ffb5fc34fe18845661f8165732960fa51745211578b5f6290a2884c91925e78,
  0x674f602759d3514451f680f853086c7996c4718a4f114fee7f9e673d55c59508,
  0x79c088967ee3589f620c9700865a5618987b5f908bb884c4915753d965ed5e8f,
  0x755c60647d6e5a7f7eea7eed8f6955a75ba360ac65cb73849009766377297eda,
  0x9774859b5b667a7496ea884052cb718f5faa65ec8be25bfb9a6f5de16b896c5b,
  0x8bad8baf900a8fc5538b62bc9e269e2d54404e2b82bd7259869c5d1688596daf,
  0x96c554d14e9a8bb6710954bd960970df6df976d04e25781487125ca95ef68a00,
  0x989c960e708e6cbf594463a9773c884d6f148273583071d5538c781a96c15501,
  0x5f6671305bb48c1a9a8c6b83592e9e2f79e76768626c4f6f75a17f8a6d0b9633,
  0x6c274ef075d2517b68376f3e908081705996747664475c2790657a918c2359da,
  0x54ac8200836f898180006930564e8036723791ce51b64e5f987563964e1a53f6,
  0x66f3814b591c6db24e0058f9533b63d694f14f9d4f0a886398905937905779fb,
  0x4eea80f075916c825b9c59e85f5d69058681501a5df24e5977e34ee5827a6291,
  0x661390915c794ebf5f7981c69038808475ab4ea688d4610f6bc55fc64e4976ca,
  0x6ea28be38bae8c0a8bd15f027ffc7fcc7ece8335836b56e06bb797f3963459fb,
  0x541f94f66deb5bc5996e5c395f159690537082f16a315a749e705e947f2883b9,
  0x84248425836787478fce8d6276c85f719896786c662054df62e54f6381c375c8,
  0x5eb896cd8e0a86f9548f6cf36d8c6c38607f52c775285e7d4f1860a05fe75c24,
  0x753190ae94c072b96cb96e389149670953cb53f34f5191c98bf153c85e7c8fc2,
  0x6de44e8e76c26986865e611a82064f594fde903e9c7c61096e1d6e1496854e88,
  0x5a3196e84e0e5c7f79b95b878bed7fbd738957df828b90c15401904755bb5cea],
  [0x5fa161086b3272f180b28a896d745bd388d598848c6b9a6d9e336e0a51a45143,
  0x57a38881539f63f48f9556ed54585706733f6e907f188fdc82d1613f60289662,
  0x66f07ea68d8a8dc394a55cb37ca4670860a6960580184e9190e7530096685141,
  0x8fd08574915d665597f55b55531d78386742683d54c9707e5bb08f7d518d5728,
  0x54b1651266828d5e8d43810f846c906d7cdf51ff85fb67a365e96fa186a48e81,
  0x566a90207682707671e58d2362e952196cfd8d3c600e589e618e66fe8d60624e,
  0x55b36e23672d8f6794e195f87728680569a8548b4e4d70b88bc86458658b5b85,
  0x7a84503a5be877bb6be18a797c986cbe76cf65a98f975d2d5c55863868085360,
  0x62187ad96e5b7efd6a1f7ae05f706f335f20638c6da867564e085e108d264ed7,
  0x80c07634969c62db662d627e6cbc8d7571677f695146808753ec906e629854f2,
  0x86f08f998005951785178fd96d5973cd659f771f7504782781fb8d1e94884fa6,
  0x679575b98bca9707632f9547963584b8632377415f8172f04e896014657462ef,
  0x6b63653f5e2775c790d18bc1829d679d652f5431871877e580a281026c414e4b,
  0x7ec7804c76f4690d6b966267503c4f84574063076b628dbe53ea65e87eb85fd7,
  0x631a63b781f381f47f6e5e1c5cd95236667a79e97a1a8d28709975d46ede6cbb,
  0x7a924e2d76c55fe0949f88777ec879cd80bf91cd4ef24f17821f54685dde6d32,
  0x8bcc7ca58f7480985e1a549276b15b99663c9aa473e0682a86db6731732a8bf8,
  0x8bdb90107af970db716e62c477a956314e3b845767f152a986c08d2e94f87b51,
  0x4f4f6ce8795d9a7b6293722a62fd4e1378168f6c64b08d5a7bc668695e8488c5,
  0x5986649e58ee72b6690e95258ffd8d5857607f008c0651c6634962d95353684c,
  0x74228301914c55447740707c6d4a517954a88d4459ff6ecb6dc45b5c7d2b4ed4,
  0x7c7d6ed35b5081ea6e0d5b579b0368d58e2a5b977efc603b7eb590b98d70594f],
  [0x63cd79df8db3535265cf79568bc5963b7ec494bb7e825634918967007f6a5c0a,
  0x907566285de64f5067de505a4f5c57505ea7000000000000000000004e8d4e0c,
  0x51404e105eff53454e154e984e1e9b325b6c56694e2879ba4e3f53154e47592d,
  0x723b536e6c1056df80e499976bd3777e9f174e364e9f9f104e5c4e694e938288,
  0x5b5b556c560f4ec4538d539d53a353a553ae97658d5d531a53f55326532e533e,
  0x8d5c5366536352025208520e522d5233523f5240524c525e5261525c84af527d,
  0x528252815290529351827f544ebb4ec34ec94ec24ee84ee14eeb4ede4f1b4ef3,
  0x4f224f644ef54f254f274f094f2b4f5e4f6765384f5a4f5d4f5f4f574f324f3d,
  0x4f764f744f914f894f834f8f4f7e4f7b4faa4f7c4fac4f944fe64fe84fea4fc5,
  0x4fda4fe34fdc4fd14fdf4ff85029504c4ff3502c500f502e502d4ffe501c500c,
  0x50255028507e504350555048504e506c507b50a550a750a950ba50d6510650ed,
  0x50ec50e650ee5107510b4edd6c3d4f584f654fce9fa06c467c74516e5dfd9ec9,
  0x99985181591452f9530d8a07531051eb591951554ea051564eb3886e88a44eb5,
  0x811488d279805b3488037fb851ab51b151bd51bc51c7519651a251a58ba08ba6,
  0x8ba78baa8bb48bb58bb78bc28bc38bcb8bcf8bce8bd28bd38bd48bd68bd88bd9,
  0x8bdc8bdf8be08be48be88be98bee8bf08bf38bf68bf98bfc8bff8c008c028c04,
  0x8c078c0c8c0f8c118c128c148c158c168c198c1b8c188c1d8c1f8c208c218c25,
  0x8c278c2a8c2b8c2e8c2f8c328c338c358c365369537a961d962296219631962a,
  0x963d963c964296499654965f9667966c967296749688968d969796b09097909b,
  0x909d909990ac90a190b490b390b690ba90b890b090cf90c590be90d090c490c7,
  0x90d390e690e290dc90d790db90eb90ef90fe91049122911e91239131912f9139,
  0x91439146520d594252a252ac52ad52be54ff52d052d652f053df71ee77cd5ef4],
  [0x51f551fc9b2f53b65f01755a5def574c57a957a1587e58bc58c558d15729572c,
  0x572a57335739572e572f575c573b574257695785576b5786577c577b5768576d,
  0x5776577357ad57a4578c57b257cf57a757b4579357a057d557d857da57d957d2,
  0x57b857f457ef57f857e457dd580b580d57fd57ed5800581e5819584458205865,
  0x586c58815889589a588099a89f1961ff8279827d827f828f828a82a88284828e,
  0x82918297829982ab82b882be82b082c882ca82e3829882b782ae82cb82cc82c1,
  0x82a982b482a182aa829f82c482ce82a482e1830982f782e4830f830782dc82f4,
  0x82d282d8830c82fb82d38311831a83068314831582e082d5831c8351835b835c,
  0x83088392833c83348331839b835e832f834f83478343835f834083178360832d,
  0x833a8333836683658368831b8369836c836a836d836e83b0837883b383b483a0,
  0x83aa8393839c8385837c83b683a9837d83b8837b8398839e83a883ba83bc83c1,
  0x840183e583d858078418840b83dd83fd83d6841c84388411840683d483df840f,
  0x840383f883f983ea83c583c0842683f083e1845c8451845a8459847384878488,
  0x847a84898478843c844684698476848c848e8431846d84c184cd84d084e684bd,
  0x84d384ca84bf84ba84e084a184b984b4849784e584e3850c750d853884f08539,
  0x851f853a8556853b84ff84fc8559854885688564855e857a77a285438572857b,
  0x85a485a88587858f857985ae859c858585b985b785b085d385c185dc85ff8627,
  0x860586298616863c5efe5f08593c594180375955595a5958530f5c225c255c2c,
  0x5c34624c626a629f62bb62ca62da62d762ee632262f66339634b634363ad63f6,
  0x6371637a638e63b4636d63ac638a636963ae63bc63f263f863e063ff63c463de,
  0x63ce645263c663be64456441640b641b6420640c64266421645e6484646d6496,
  0x647a64b764b8649964ba64c064d064d764e464e265096525652e5f0b5fd27519],
  [0x5f11535f53f153fd53e953e853fb541254165406544b54525453545454565443,
  0x5421545754595423543254825494547754715464549a549b548454765466549d,
  0x54d054ad54c254b454d254a754a654d354d4547254a354d554bb54bf54cc54d9,
  0x54da54dc54a954aa54a454dd54cf54de551b54e7552054fd551454f355225523,
  0x550f55115527552a5567558f55b55549556d55415555553f5550553c55375556,
  0x55755576557755335530555c558b55d2558355b155b955885581559f557e55d6,
  0x5591557b55df55bd55be5594559955ea55f755c9561f55d155eb55ec55d455e6,
  0x55dd55c455ef55e555f255f355cc55cd55e855f555e48f94561e5608560c5601,
  0x5624562355fe56005627562d565856395657562c564d56625659565c564c5654,
  0x568656645671566b567b567c5685569356af56d456d756dd56e156f556eb56f9,
  0x56ff5704570a5709571c5e0f5e195e145e115e315e3b5e3c5e375e445e545e5b,
  0x5e5e5e615c8c5c7a5c8d5c905c965c885c985c995c915c9a5c9c5cb55ca25cbd,
  0x5cac5cab5cb15ca35cc15cb75cc45cd25ce45ccb5ce55d025d035d275d265d2e,
  0x5d245d1e5d065d1b5d585d3e5d345d3d5d6c5d5b5d6f5d5d5d6b5d4b5d4a5d69,
  0x5d745d825d995d9d8c735db75dc55f735f775f825f875f895f8c5f955f995f9c,
  0x5fa85fad5fb55fbc88625f6172ad72b072b472b772b872c372c172ce72cd72d2,
  0x72e872ef72e972f272f472f7730172f3730372fa72fb731773137321730a731e,
  0x731d7315732273397325732c733873317350734d73577360736c736f737e821b,
  0x592598e7592459029963996799689969996a996b996c99749977997d99809984,
  0x9987998a998d999099919993999499955e805e915e8b5e965ea55ea05eb95eb5,
  0x5ebe5eb38d535ed25ed15edb5ee85eea81ba5fc45fc95fd65fcf60035fee6004,
  0x5fe15fe45ffe600560065fea5fed5ff8601960356026601b600f600d6029602b],
  [0x600a603f602160786079607b607a6042606a607d6096609a60ad609d60836092,
  0x608c609b60ec60bb60b160dd60d860c660da60b4612061266115612360f46100,
  0x610e612b614a617561ac619461a761b761d461f55fdd96b395e995eb95f195f3,
  0x95f595f695fc95fe9603960496069608960a960b960c960d960f961296159616,
  0x96179619961a4e2c723f62156c356c546c5c6c4a6ca36c856c906c946c8c6c68,
  0x6c696c746c766c866ca96cd06cd46cad6cf76cf86cf16cd76cb26ce06cd66cfa,
  0x6ceb6cee6cb16cd36cef6cfe6d396d276d0c6d436d486d076d046d196d0e6d2b,
  0x6d4d6d2e6d356d1a6d4f6d526d546d336d916d6f6d9e6da06d5e6d936d946d5c,
  0x6d606d7c6d636e1a6dc76dc56dde6e0e6dbf6de06e116de66ddd6dd96e166dab,
  0x6e0c6dae6e2b6e6e6e4e6e6b6eb26e5f6e866e536e546e326e256e446edf6eb1,
  0x6e986ee06f2d6ee26ea56ea76ebd6ebb6eb76ed76eb46ecf6e8f6ec26e9f6f62,
  0x6f466f476f246f156ef96f2f6f366f4b6f746f2a6f096f296f896f8d6f8c6f78,
  0x6f726f7c6f7a6fd16fc96fa76fb96fb66fc26fe16fee6fde6fe06fef701a7023,
  0x701b70397035704f705e5b805b845b955b935ba55bb8752f9a9e64345be45bee,
  0x89305bf08e478b078fb68fd38fd58fe58fee8fe48fe98fe68ff38fe890059004,
  0x900b90269011900d9016902190359036902d902f904490519052905090689058,
  0x9062905b66b99074907d908290889083908b5f505f575f565f585c3b54ab5c50,
  0x5c595b715c635c667fbc5f2a5f295f2d82745f3c9b3b5c6e59815983598d59a9,
  0x59aa59a3599759ca59ab599e59a459d259b259af59d759be5a055a0659dd5a08,
  0x59e359d859f95a0c5a095a325a345a115a235a135a405a675a4a5a555a3c5a62,
  0x5a7580ec5aaa5a9b5a775a7a5abe5aeb5ab25ad25ad45ab85ae05ae35af15ad6,
  0x5ae65ad85adc5b095b175b165b325b375b405c155c1c5b5a5b655b735b515b53],
  [0x5b629a759a779a789a7a9a7f9a7d9a809a819a859a889a8a9a909a929a939a96,
  0x9a989a9b9a9c9a9d9a9f9aa09aa29aa39aa59aa77e9f7ea17ea37ea57ea87ea9,
  0x7ead7eb07ebe7ec07ec17ec27ec97ecb7ecc7ed07ed47ed77edb7ee07ee17ee8,
  0x7eeb7eee7eef7ef17ef27f0d7ef67efa7efb7efe7f017f027f037f077f087f0b,
  0x7f0c7f0f7f117f127f177f197f1c7f1b7f1f7f217f227f237f247f257f267f27,
  0x7f2a7f2b7f2c7f2d7f2f7f307f317f327f337f355e7a757f5ddb753e9095738e,
  0x739173ae73a2739f73cf73c273d173b773b373c073c973c873e573d9987c740a,
  0x73e973e773de73ba73f2740f742a745b7426742574287430742e742c741b741a,
  0x7441745c7457745574597477746d747e749c748e748074817487748b749e74a8,
  0x74a9749074a774d274ba97ea97eb97ec674c6753675e6748676967a56787676a,
  0x6773679867a7677567a8679e67ad678b6777677c67f0680967d8680a67e967b0,
  0x680c67d967b567da67b367dd680067c367b867e2680e67c167fd683268336860,
  0x6861684e6862684468646883681d68556866684168676840683e684a68496829,
  0x68b5688f687468776893686b68c2696e68fc691f692068f9692468f0690b6901,
  0x695768e369106971693969606942695d6984696b698069986978693469cc6987,
  0x698869ce6989696669636979699b69a769bb69ab69ad69d469b169c169ca69df,
  0x699569e0698d69ff6a2f69ed6a176a186a6569f26a446a3e6aa06a506a5b6a35,
  0x6a8e6a796a3d6a286a586a7c6a916a906aa96a976aab733773526b816b826b87,
  0x6b846b926b936b8d6b9a6b9b6ba16baa8f6b8f6d8f718f728f738f758f768f78,
  0x8f778f798f7a8f7c8f7e8f818f828f848f878f8b8f8d8f8e8f8f8f988f9a8ece,
  0x620b6217621b621f6222622162256224622c81e774ef74f474ff750f75117513,
  0x653465ee65ef65f0660a66196772660366156600708566f7661d663466316636],
  [0x66358006665f66546641664f66566661665766776684668c66a7669d66be66db,
  0x66dc66e666e98d328d338d368d3b8d3d8d408d458d468d488d498d478d4d8d55,
  0x8d5989c789ca89cb89cc89ce89cf89d089d1726e729f725d7266726f727e727f,
  0x7284728b728d728f72926308633263b0643f64d880046bea6bf36bfd6bf56bf9,
  0x6c056c076c066c0d6c156c186c196c1a6c216c296c246c2a6c3265356555656b,
  0x724d72527256723086625216809f809c809380bc670a80bd80b180ab80ad80b4,
  0x80b780e780e880e980ea80db80c280c480d980cd80d7671080dd80eb80f180f4,
  0x80ed810d810e80f280fc671581128c5a8136811e812c811881328148814c8153,
  0x81748159815a817181608169817c817d816d8167584d5ab58188818281916ed5,
  0x81a381aa81cc672681ca81bb81c181a66b246b376b396b436b466b5998d198d2,
  0x98d398d598d998da6bb35f406bc289f365909f51659365bc65c665c465c365cc,
  0x65ce65d265d67080709c7096709d70bb70c070b770ab70b170e870ca71107113,
  0x7116712f71317173715c716871457172714a7178717a719871b371b571a871a0,
  0x71e071d471e771f9721d7228706c7118716671b9623e623d624362486249793b,
  0x794079467949795b795c7953795a796279577960796f7967797a7985798a799a,
  0x79a779b35fd15fd0603c605d605a606760416059606360ab6106610d615d61a9,
  0x619d61cb61d162068080807f6c936cf66dfc77f677f878007809781778187811,
  0x65ab782d781c781d7839783a783b781f783c7825782c78237829784e786d7856,
  0x7857782678507847784c786a789b7893789a7887789c78a178a378b278b978a5,
  0x78d478d978c978ec78f2790578f479137924791e79349f9b9ef99efb9efc76f1,
  0x7704770d76f977077708771a77227719772d7726773577387750775177477743,
  0x775a776877627765777f778d777d7780778c7791779f77a077b077b577bd753a],
  [0x7540754e754b7548755b7572757975837f587f617f5f8a487f687f747f717f79,
  0x7f817f7e76cd76e58832948594869487948b948a948c948d948f949094949497,
  0x9495949a949b949c94a394a494ab94aa94ad94ac94af94b094b294b494b694b7,
  0x94b894b994ba94bc94bd94bf94c494c894c994ca94cb94cc94cd94ce94d094d1,
  0x94d294d594d694d794d994d894db94de94df94e094e294e494e594e794e894ea,
  0x94e994eb94ee94ef94f394f494f594f794f994fc94fd94ff9503950295069507,
  0x9509950a950d950e950f951295139514951595169518951b951d951e951f9522,
  0x952a952b9529952c953195329534953695379538953c953e953f954295359544,
  0x954595469549954c954e954f9552955395549556955795589559955b955e955f,
  0x955d95619562956495659566956795689569956a956b956c956f957195729573,
  0x953a77e777ec96c979d579ed79e379eb7a065d477a037a027a1e7a147a397a37,
  0x7a519ecf99a57a707688768e7693769976a474de74e0752c9e209e229e289e29,
  0x9e2a9e2b9e2c9e329e319e369e389e379e399e3a9e3e9e419e429e449e469e47,
  0x9e489e499e4b9e4c9e4e9e519e559e579e5a9e5b9e5c9e5e9e639e669e679e68,
  0x9e699e6a9e6b9e6c9e719e6d9e7375927594759675a0759d75ac75a375b375b4,
  0x75b875c475b175b075c375c275d675cd75e375e875e675e475eb75e7760375f1,
  0x75fc75ff761076007605760c7617760a7625761876157619761b763c76227620,
  0x7640762d7630763f76357643763e7633764d765e7654765c7656766b766f7fca,
  0x7ae67a787a797a807a867a887a957aa67aa07aac7aa87aad7ab3886488698872,
  0x887d887f888288a288c688b788bc88c988e288ce88e388e588f1891a88fc88e8,
  0x88fe88f0892189198913891b890a8934892b893689418966897b758b80e576b2,
  0x76b477dc801280148016801c80208022802580268027802980288031800b8035],
  [0x80438046804d80528069807189839878988098839889988c988d988f9894989a,
  0x989b989e989f98a198a298a598a6864d8654866c866e867f867a867c867b86a8,
  0x868d868b86ac869d86a786a386aa869386a986b686c486b586ce86b086ba86b1,
  0x86af86c986cf86b486e986f186f286ed86f386d0871386de86f486df86d886d1,
  0x8703870786f88708870a870d87098723873b871e8725872e871a873e87488734,
  0x873187298737873f87828722877d877e877b87608770874c876e878b87538763,
  0x877c876487598765879387af87a887d287c68788878587ad8797878387ab87e5,
  0x87ac87b587b387cb87d387bd87d187c087ca87db87ea87e087ee8816881387fe,
  0x880a881b88218839883c7f367f427f447f4582107afa7afd7b087b037b047b15,
  0x7b0a7b2b7b0f7b477b387b2a7b197b2e7b317b207b257b247b337b3e7b1e7b58,
  0x7b5a7b457b757b4c7b5d7b607b6e7b7b7b627b727b717b907ba67ba77bb87bac,
  0x7b9d7ba87b857baa7b9c7ba27bab7bb47bd17bc17bcc7bdd7bda7be57be67bea,
  0x7c0c7bfe7bfc7c0f7c167c0b7c1f7c2a7c267c387c417c4081fe820182028204,
  0x81ec8844822182228223822d822f8228822b8238823b82338234823e82448249,
  0x824b824f825a825f8268887e8885888888d888df895e7f9d7f9f7fa77faf7fb0,
  0x7fb27c7c65497c917c9d7c9c7c9e7ca27cb27cbc7cbd7cc17cc77ccc7ccd7cc8,
  0x7cc57cd77ce8826e66a87fbf7fce7fd57fe57fe17fe67fe97fee7ff37cf87d77,
  0x7da67dae7e477e9b9eb89eb48d738d848d948d918db18d678d6d8c478c49914a,
  0x9150914e914f91649162916191709169916f917d917e917291749179918c9185,
  0x9190918d919191a291a391aa91ad91ae91af91b591b491ba8c559e7e8db88deb,
  0x8e058e598e698db58dbf8dbc8dba8dc48dd68dd78dda8dde8dce8dcf8ddb8dc6,
  0x8dec8df78df88de38df98dfb8de48e098dfd8e148e1d8e1f8e2c8e2e8e238e2f],
  [0x8e3a8e408e398e358e3d8e318e498e418e428e518e528e4a8e708e768e7c8e6f,
  0x8e748e858e8f8e948e908e9c8e9e8c788c828c8a8c858c988c94659b89d689de,
  0x89da89dc89e589eb89ef8a3e8b26975396e996f396ef970697019708970f970e,
  0x972a972d9730973e9f809f839f859f869f879f889f899f8a9f8c9efe9f0b9f0d,
  0x96b996bc96bd96ce96d277bf96e0928e92ae92c8933e936a93ca938f943e946b,
  0x9c7f9c829c859c869c879c887a239c8b9c8e9c909c919c929c949c959c9a9c9b,
  0x9c9e9c9f9ca09ca19ca29ca39ca59ca69ca79ca89ca99cab9cad9cae9cb09cb1,
  0x9cb29cb39cb49cb59cb69cb79cba9cbb9cbc9cbd9cc49cc59cc69cc79cca9ccb,
  0x9ccc9ccd9cce9ccf9cd09cd39cd49cd59cd79cd89cd99cdc9cdd9cdf9ce2977c,
  0x978597919792979497af97ab97a397b297b49ab19ab09ab79e589ab69aba9abc,
  0x9ac19ac09ac59ac29acb9acc9ad19b459b439b479b499b489b4d9b5198e8990d,
  0x992e995599549adf9ae19ae69aef9aeb9afb9aed9af99b089b0f9b139b1f9b23,
  0x9ebd9ebe7e3b9e829e879e889e8b9e9293d69e9d9e9f9edb9edc9edd9ee09edf,
  0x9ee29ee99ee79ee59eea9eef9f229f2c9f2f9f399f379f3d9f3e9f4400000000]]⟩

/-- The array `pairs` in `gb2312_c32tomb()`: a character, and the two bytes that encode it. -/
def pairs : Table := ⟨32, 8, 31, 7445, [
  [0x00a4a1e800a7a1ec00a8a1a700b0a1e300b1a1c000d7a1c100e0a8a400e1a8a2,
  0x00e8a8a800e9a8a600eaa8ba00eca8ac00eda8aa00f2a8b000f3a8ae00f7a1c2,
  0x00f9a8b400faa8b200fca8b90101a8a10113a8a5011ba8a7012ba8a9014da8ad,
  0x016ba8b101cea8a301d0a8ab01d2a8af01d4a8b301d6a8b501d8a8b601daa8b7,
  0x01dca8b802c7a1a602c9a1a50391a6a10392a6a20393a6a30394a6a40395a6a5,
  0x0396a6a60397a6a70398a6a80399a6a9039aa6aa039ba6ab039ca6ac039da6ad,
  0x039ea6ae039fa6af03a0a6b003a1a6b103a3a6b203a4a6b303a5a6b403a6a6b5,
  0x03a7a6b603a8a6b703a9a6b803b1a6c103b2a6c203b3a6c303b4a6c403b5a6c5,
  0x03b6a6c603b7a6c703b8a6c803b9a6c903baa6ca03bba6cb03bca6cc03bda6cd,
  0x03bea6ce03bfa6cf03c0a6d003c1a6d103c3a6d203c4a6d303c5a6d403c6a6d5,
  0x03c7a6d603c8a6d703c9a6d80401a7a70410a7a10411a7a20412a7a30413a7a4,
  0x0414a7a50415a7a60416a7a80417a7a90418a7aa0419a7ab041aa7ac041ba7ad,
  0x041ca7ae041da7af041ea7b0041fa7b10420a7b20421a7b30422a7b40423a7b5,
  0x0424a7b60425a7b70426a7b80427a7b90428a7ba0429a7bb042aa7bc042ba7bd,
  0x042ca7be042da7bf042ea7c0042fa7c10430a7d10431a7d20432a7d30433a7d4,
  0x0434a7d50435a7d60436a7d80437a7d90438a7da0439a7db043aa7dc043ba7dd,
  0x043ca7de043da7df043ea7e0043fa7e10440a7e20441a7e30442a7e40443a7e5,
  0x0444a7e60445a7e70446a7e80447a7e90448a7ea0449a7eb044aa7ec044ba7ed,
  0x044ca7ee044da7ef044ea7f0044fa7f10451a7d72015a1aa2018a1ae2019a1af,
  0x201ca1b0201da1b12026a1ad2030a1eb2032a1e42033a1e5203ba1f92103a1e6,
  0x2116a1ed2160a2f12161a2f22162a2f32163a2f42164a2f52165a2f62166a2f7,
  0x2167a2f82168a2f92169a2fa216aa2fb216ba2fc2190a1fb2191a1fc2192a1fa,
  0x2193a1fd2208a1ca220fa1c72211a1c6221aa1cc221da1d8221ea1de2220a1cf,
  0x2225a1ac2225a1ce2227a1c42228a1c52229a1c9222aa1c8222ba1d2222ea1d3,
  0x2234a1e02235a1df2236a1c32237a1cb223da1d72248a1d6224ca1d52260a1d9,
  0x2261a1d42264a1dc2265a1dd226ea1da226fa1db2299a1d122a5a1cd2312a1d0,
  0x2460a2d92461a2da2462a2db2463a2dc2464a2dd2465a2de2466a2df2467a2e0,
  0x2468a2e12469a2e22474a2c52475a2c62476a2c72477a2c82478a2c92479a2ca,
  0x247aa2cb247ba2cc247ca2cd247da2ce247ea2cf247fa2d02480a2d12481a2d2,
  0x2482a2d32483a2d42484a2d52485a2d62486a2d72487a2d82488a2b12489a2b2,
  0x248aa2b3248ba2b4248ca2b5248da2b6248ea2b7248fa2b82490a2b92491a2ba],
  [0x2492a2bb2493a2bc2494a2bd2495a2be2496a2bf2497a2c02498a2c12499a2c2,
  0x249aa2c3249ba2c42500a9a42501a9a52502a9a62503a9a72504a9a82505a9a9,
  0x2506a9aa2507a9ab2508a9ac2509a9ad250aa9ae250ba9af250ca9b0250da9b1,
  0x250ea9b2250fa9b32510a9b42511a9b52512a9b62513a9b72514a9b82515a9b9,
  0x2516a9ba2517a9bb2518a9bc2519a9bd251aa9be251ba9bf251ca9c0251da9c1,
  0x251ea9c2251fa9c32520a9c42521a9c52522a9c62523a9c72524a9c82525a9c9,
  0x2526a9ca2527a9cb2528a9cc2529a9cd252aa9ce252ba9cf252ca9d0252da9d1,
  0x252ea9d2252fa9d32530a9d42531a9d52532a9d62533a9d72534a9d82535a9d9,
  0x2536a9da2537a9db2538a9dc2539a9dd253aa9de253ba9df253ca9e0253da9e1,
  0x253ea9e2253fa9e32540a9e42541a9e52542a9e62543a9e72544a9e82545a9e9,
  0x2546a9ea2547a9eb2548a9ec2549a9ed254aa9ee254ba9ef25a0a1f625a1a1f5,
  0x25b2a1f825b3a1f725c6a1f425c7a1f325cba1f025cea1f225cfa1f12605a1ef,
  0x2606a1ee2640a1e22642a1e13000a1a13001a1a23002a1a33003a1a83005a1a9,
  0x3008a1b43009a1b5300aa1b6300ba1b7300ca1b8300da1b9300ea1ba300fa1bb,
  0x3010a1be3011a1bf3013a1fe3014a1b23015a1b33016a1bc3017a1bd3041a4a1,
  0x3042a4a23043a4a33044a4a43045a4a53046a4a63047a4a73048a4a83049a4a9,
  0x304aa4aa304ba4ab304ca4ac304da4ad304ea4ae304fa4af3050a4b03051a4b1,
  0x3052a4b23053a4b33054a4b43055a4b53056a4b63057a4b73058a4b83059a4b9,
  0x305aa4ba305ba4bb305ca4bc305da4bd305ea4be305fa4bf3060a4c03061a4c1,
  0x3062a4c23063a4c33064a4c43065a4c53066a4c63067a4c73068a4c83069a4c9,
  0x306aa4ca306ba4cb306ca4cc306da4cd306ea4ce306fa4cf3070a4d03071a4d1,
  0x3072a4d23073a4d33074a4d43075a4d53076a4d63077a4d73078a4d83079a4d9,
  0x307aa4da307ba4db307ca4dc307da4dd307ea4de307fa4df3080a4e03081a4e1,
  0x3082a4e23083a4e33084a4e43085a4e53086a4e63087a4e73088a4e83089a4e9,
  0x308aa4ea308ba4eb308ca4ec308da4ed308ea4ee308fa4ef3090a4f03091a4f1,
  0x3092a4f23093a4f330a1a5a130a2a5a230a3a5a330a4a5a430a5a5a530a6a5a6,
  0x30a7a5a730a8a5a830a9a5a930aaa5aa30aba5ab30aca5ac30ada5ad30aea5ae,
  0x30afa5af30b0a5b030b1a5b130b2a5b230b3a5b330b4a5b430b5a5b530b6a5b6,
  0x30b7a5b730b8a5b830b9a5b930baa5ba30bba5bb30bca5bc30bda5bd30bea5be,
  0x30bfa5bf30c0a5c030c1a5c130c2a5c230c3a5c330c4a5c430c5a5c530c6a5c6,
  0x30c7a5c730c8a5c830c9a5c930caa5ca30cba5cb30cca5cc30cda5cd30cea5ce],
  [0x30cfa5cf30d0a5d030d1a5d130d2a5d230d3a5d330d4a5d430d5a5d530d6a5d6,
  0x30d7a5d730d8a5d830d9a5d930daa5da30dba5db30dca5dc30dda5dd30dea5de,
  0x30dfa5df30e0a5e030e1a5e130e2a5e230e3a5e330e4a5e430e5a5e530e6a5e6,
  0x30e7a5e730e8a5e830e9a5e930eaa5ea30eba5eb30eca5ec30eda5ed30eea5ee,
  0x30efa5ef30f0a5f030f1a5f130f2a5f230f3a5f330f4a5f430f5a5f530f6a5f6,
  0x30fba1a43105a8c53106a8c63107a8c73108a8c83109a8c9310aa8ca310ba8cb,
  0x310ca8cc310da8cd310ea8ce310fa8cf3110a8d03111a8d13112a8d23113a8d3,
  0x3114a8d43115a8d53116a8d63117a8d73118a8d83119a8d9311aa8da311ba8db,
  0x311ca8dc311da8dd311ea8de311fa8df3120a8e03121a8e13122a8e23123a8e3,
  0x3124a8e43125a8e53126a8e63127a8e73128a8e83129a8e93220a2e53221a2e6,
  0x3222a2e73223a2e83224a2e93225a2ea3226a2eb3227a2ec3228a2ed3229a2ee,
  0x4e00d2bb4e01b6a14e03c6df4e07cdf24e08d5c94e09c8fd4e0ac9cf4e0bcfc2,
  0x4e0cd8a24e0db2bb4e0ed3eb4e10d8a44e11b3f34e13d7a84e14c7d24e15d8a7,
  0x4e16cac04e18c7f04e19b1fb4e1ad2b54e1bb4d44e1cb6ab4e1dcbbf4e1ed8a9,
  0x4e22b6aa4e24c1bd4e25d1cf4e27c9a54e28d8ad4e2ab8f64e2bd1be4e2ce3dc,
  0x4e2dd6d04e30b7e14e32b4ae4e34c1d94e36d8bc4e38cde84e39b5a44e3aceaa,
  0x4e3bd6f74e3dc0f64e3ebed94e3fd8af4e43c4cb4e45bec34e47d8b14e48c3b4,
  0x4e49d2e54e4bd6ae4e4cceda4e4dd5a74e4ebaf54e4fb7a64e50c0d64e52c6b9,
  0x4e53c5d24e54c7c74e56b9d44e58b3cb4e59d2d24e5cd8bf4e5dbec54e5ec6f2,
  0x4e5fd2b24e60cfb04e61cfe74e66cae94e69d8c04e70c2f24e71c2d24e73c8e9,
  0x4e7ec7ac4e86c1cb4e88d3e84e89d5f94e8bcac24e8cb6fe4e8dd8a14e8ed3da,
  0x4e8fbff74e91d4c64e92bba54e93d8c14e94cee54e95beae4e98d8a84e9ad1c7,
  0x4e9bd0a94e9fd8bd4ea0d9ef4ea1cdf64ea2bfba4ea4bdbb4ea5baa54ea6d2e0,
  0x4ea7b2fa4ea8bae04ea9c4b64eabcfed4eacbea94eadcda44eaec1c14eb2c7d7,
  0x4eb3d9f14eb5d9f44ebac8cb4ebbd8e94ebfd2da4ec0cab24ec1c8ca4ec2d8ec,
  0x4ec3d8ea4ec4d8c64ec5bdf64ec6c6cd4ec7b3f04ec9d8eb4ecabdf14ecbbde9,
  0x4ecdc8d44eceb4d34ed1c2d84ed3b2d64ed4d7d04ed5cacb4ed6cbfb4ed7d5cc,
  0x4ed8b8b64ed9cfc94eddd9da4eded8f04edfc7aa4ee1d8ee4ee3b4fa4ee4c1ee,
  0x4ee5d2d44ee8d8ed4eead2c74eebd8ef4eecc3c74ef0d1f64ef2d6d94ef3d8f2,
  0x4ef5d8f54ef6bcfe4ef7bcdb4efbc8ce4efdb7dd4effb7c24f01c6f34f09d8f8,
  0x4f0ad2c14f0dcee94f0ebcbf4f0fb7fc4f10b7a54f11d0dd4f17d6da4f18d3c5],
  [0x4f19bbef4f1abbe14f1bd8f14f1ec9a14f1fceb04f20b4ab4f22d8f34f24c9cb,
  0x4f25d8f64f26c2d74f27d8f74f2aceb14f2bd8f94f2fb2ae4f30b9c04f32d9a3,
  0x4f34b0e94f36c1e64f38c9ec4f3acbc54f3ccbc64f3dd9a44f43b5e84f46b5ab,
  0x4f4dcebb4f4eb5cd4f4fd7a14f50d7f44f51d3d34f53cce54f55bace4f57d9a2,
  0x4f58d9dc4f59d3e04f5ad8fd4f5bb7f04f5cd7f74f5dd8fe4f5ed8fa4f5fd9a1,
  0x4f60c4e34f63d3b64f64d8f44f65d9dd4f67d8fb4f69c5e54f6cc0d04f6fd1f0,
  0x4f70b0db4f73bcd14f74d9a64f76d9a54f7bd9ac4f7cd9ae4f7ed9ab4f7fcab9,
  0x4f83d9a94f84d6b64f88b3de4f89d9a84f8bc0fd4f8dcacc4f8fd9aa4f91d9a7,
  0x4f94d9b04f97b6b14f9bb9a94f9dd2c04fa0cfc04fa3c2c24fa5bdc44fa6d5ec,
  0x4fa7b2e04fa8c7c84fa9bfeb4faad9ad4facd9af4faeceea4fafbaee4fb5c7d6,
  0x4fbfb1e34fc3b4d94fc4b6ed4fc5d9b44fcabfa14fced9de4fcfc7ce4fd0c0fe,
  0x4fd1d9b84fd7cbd74fd8b7fd4fdad9b54fdcd9b74fddb1a34fded3e14fdfd9b9,
  0x4fe1d0c54fe3d9b64fe6d9b14fe8d9b24fe9c1a94fead9b34fedbcf34feed0de,
  0x4fefb8a94ff1bee34ff3d9bd4ff8d9ba4ffab0b34ffed9c2500cd9c4500db1b6,
  0x500fd9bf5012b5b95014bef35018ccc85019baf2501ad2d0501cd9c3501fbde8,
  0x5021b3ab5025d9c55026beeb5028d9c65029d9bb502ac4df502cd9be502dd9c1,
  0x502ed9c0503ad5ae503cd6b5503ec7e35043d9c85047bcd95048d9ca504cd9bc,
  0x504ed9cb504fc6ab5055d9c9505ad7f6505ccda35065bda1506cd9cc5076c5bc,
  0x5077cdb5507bd9cd507ed9c7507fb3a55080bffe5085b8b55088c0fc508db0f8,
  0x50a3b4f650a5d9ce50a7d9cf50a8b4a250a9d9d050acb4df50b2b0c150bad9d1,
  0x50bbc9b550cfcff150d6d9d250dac1c550e6d9d650e7c9ae50ecd9d550edd9d4,
  0x50eed9d750f3cbdb50f5bda950fbc6a75106d9d35107d9d8510bd9d95112c8e5,
  0x5121c0dc513fb6f95140d8a35141d4ca5143d4aa5144d0d65145b3e45146d5d7,
  0x5148cfc85149b9e2514bbfcb514dc3e25151b6d25154cdc35155d9ee5156d9f0,
  0x515ab5b3515cb6b55162bea45165c8eb5168c8ab516bb0cb516cb9ab516dc1f9,
  0x516ed9e25170c0bc5171b9b25173b9d85174d0cb5175b1f85176c6e45177bedf,
  0x5178b5e45179d7c8517bd1f8517cbce6517dcade5180bcbd5181d9e65182d8e7,
  0x5185c4da5188b8d45189c8bd518cb2e1518dd4d95192c3b05195c3e15196daa2,
  0x5197c8df5199d0b4519bbefc519cc5a951a0b9da51a2daa351a4d4a951a5daa4,
  0x51abd9fb51acb6ac51afb7eb51b0b1f951b1d9fc51b2b3e551b3bef651b5bff6,
  0x51b6d2b151b7c0e451bbb6b351bcd9fe51bdd9fd51c0bebb51c4c6e051c6d7bc],
  [0x51c7daa151c9c1b951cbb5f251ccc1e851cfbcf551d1b4d551dbc1dd51ddc4fd,
  0x51e0bcb851e1b7b251e4b7ef51ebd9ec51edc6be51efbfad51f0bbcb51f3b5ca,
  0x51f5dbc951f6d0d751f8cdb951f9b0bc51fab3f651fbbbf751fcdbca51fdbaaf,
  0x51ffd4e45200b5b65201b5f35202d8d65203c8d05206b7d65207c7d05208d8d7,
  0x520abfaf520ddbbb520ed8d85211d0cc5212bbae5216ebbe5217c1d05218c1f5,
  0x5219d4f2521ab8d5521bb4b4521db3f55220c9be5224c5d05228c5d95229c0fb,
  0x522bb1f0522dd8d9522eb9ce5230b5bd5233d8da5236d6c65237cba25238c8af,
  0x5239c9b2523ab4cc523bbfcc523db9f4523fd8db5240d8dc5241b6e75242bcc1,
  0x5243ccea524acff7524cd8dd524dc7b05250b9d05251bda35254ccde5256c6ca,
  0x525cd8e0525ed8de5261d8df5265b0fe5267bee75269caa3526abcf4526fb8b1,
  0x5272b8ee527dd8e2527fbdcb5281d8e45282d8e35288c5fc5290d8e55293d8e6,
  0x529bc1a6529dc8b0529eb0ec529fb9a652a0bcd352a1cef152a2dbbd52a3c1d3,
  0x52a8b6af52a9d6fa52aac5ac52abbdd952acdbbe52addbbf52b1c0f852b2bea2,
  0x52b3c0cd52bedbc052bfcac652c3b2aa52c7d3c252c9c3e352cbd1ab52d0dbc2,
  0x52d2c0d552d6dbc352d8bfb152dfc4bc52e4c7da52f0dbc452f9d9e852fac9d7,
  0x52feb9b452ffcef05300d4c85305b0fc5306b4d25308d0d9530dd9e9530fdecb,
  0x5310d9eb5315d8b05316bbaf5317b1b15319b3d7531ad8ce531dd4d15320bdb3,
  0x5321bfef5323cfbb5326d8d0532ab7cb532ed8d15339c6a5533ac7f8533bd2bd,
  0x533ed8d2533fc4e45341caae5343c7a75345d8a65347c9fd5348cee75349bbdc,
  0x534ab0eb534ebbaa534fd0ad5351b1b05352d7e45353d7bf5355b5a55356c2f4,
  0x5357c4cf535ab2a9535cb2b7535eb1e5535fdfb25360d5bc5361bfa85362c2ac,
  0x5363d8d55364c2b15366d8d45367ced45369dae0536bcec0536ed8b4536fc3ae,
  0x5370d3a15371cea35373bcb45374c8b45375c2d15377beed5378d0b6537adae1,
  0x537fc7e45382b3a75384b6f25385ccfc5386c0fa5389c0f7538bd1b9538cd1e1,
  0x538dd8c75395b2de5398c0e5539abaf1539dd8c8539fd4ad53a2cfe153a3d8c9,
  0x53a5d8ca53a6cfc353a8b3f853a9bec753aed8cb53b6dbcc53bbc8a553bfcfd8,
  0x53c1c8fe53c2b2ce53c8d3d653c9b2e653cabcb053cbd3d153cccbab53cdb7b4,
  0x53d1b7a253d4cae553d6c8a153d7cadc53d8b1e453d9d0f053dbc5d153dfdbc5,
  0x53e0b5fe53e3bfda53e4b9c553e5bee453e6c1ed53e8dfb653e9dfb553ead6bb,
  0x53ebbdd053ecd5d953edb0c853eeb6a353efbfc953f0cca853f1dfb353f2cab7,
  0x53f3d3d253f5d8cf53f6d2b653f7bac553f8cbbe53f9ccbe53fbdfb753fcb5f0],
  [0x53fddfb45401d3f55403b3d45404b8f75406dfba5408bacf5409bcaa540ab5f5,
  0x540ccdac540dc3fb540ebaf3540fc0f45410cdc25411cff25412dfb85413cfc5,
  0x5415c2c05416dfb95417c2f0541bbefd541dc1df541ecdcc541fd2f75420b7cd,
  0x5421dfc15423dfc45426b7f15427b0c95428b6d65429b7d4542bbaac542cccfd,
  0x542dbfd4542ecbb1542fc6f45431d6a85432dfc55434cee25435b3b35438cefc,
  0x5439b4b5543bcec7543cbaf0543ecee15440d1bd5443dfc05446b4f45448b3ca,
  0x544ab8e6544bdfbb5450c4c55452dfbc5453dfbd5454dfbe5455c5bb5456dfbf,
  0x5457dfc25458d4b15459dfc3545bc7ba545cced85462c4d85464dfca5466dfcf,
  0x5468d6dc5471dfc95472dfda5473ceb65475bac75476dfce5477dfc85478c5de,
  0x547bc9eb547cbaf4547dc3fc5480bed75482dfc65484dfcd5486c5d8548bd5a6,
  0x548cbacd548ebecc548fd3bd5490b8c05492d6e45494dfc75495b9be5496bfa7,
  0x5499c1fc549adfcb549bdfcc549ddfd054a3dfdb54a4dfe554a6dfd754a7dfd6,
  0x54a8d7c954a9dfe354aadfe454abe5eb54acd2a754addfd254afbfa954b1d4db,
  0x54b3bfc854b4dfd454b8cfcc54bbdfdd54bdd1ca54bfdfde54c0b0a754c1c6b7,
  0x54c2dfd354c4bae554c6b6df54c7cddb54c8b9fe54c9d4d554ccdfdf54cdcfec,
  0x54ceb0a554cfdfe754d0dfd154d1d1c654d2dfd554d3dfd854d4dfd954d5dfdc,
  0x54d7bba954d9dfe054dadfe154dcdfe254dddfe654dedfe854dfd3b454e5b8e7,
  0x54e6c5b654e7dfea54e8c9da54e9c1a854eac4c454edbfde54eecff854f2d5dc,
  0x54f3dfee54fab2b854fcbadf54fddfec54ffdbc15501d1e45506cbf45507b4bd,
  0x5509b0a6550fdff15510ccc65511dff25514dfed551bdfe95520dfeb5522dfef,
  0x5523dff05524bbbd5527dff3552adff4552cbba3552ecadb552fcea85530e0a7,
  0x5531b3aa5533e0a65537e0a1553cdffe553ecdd9553fdffc5541dffa5543bfd0,
  0x5544d7c45546c9cc5549dff8554ab0a15550dffd5555dffb5556e0a2555ce0a8,
  0x5561b7c85564c6a15565c9b65566c0b25567dff5556ac5be556cd8c4556ddff9,
  0x556ec4f65575e0a35576e0a45577e0a55578d0a5557be0b4557ccce4557ee0b1,
  0x5580bfa65581e0af5582ceb95583e0ab5584c9c65587c0ae5588e0ae5589baed,
  0x558abab0558be0a9558fdff65591e0b35594e0b85598b4ad5599e0b9559ccfb2,
  0x559dbac8559fe0b055a7d0fa55b1e0ac55b3d4fb55b5dff755b7c5e755b9e0ad,
  0x55bbd3f755bde0b655bee0b755c4e0c455c5d0e155c9e0bc55cce0c955cde0ca,
  0x55d1e0be55d2e0aa55d3c9a455d4e0c155d6e0b255dccac855dde0c355dfe0b5,
  0x55e1cecb55e3cbc355e4e0cd55e5e0c655e6e0c255e8e0cb55eae0ba55ebe0bf],
  [0x55ece0c055efe0c555f2e0c755f3e0c855f5e0cc55f7e0bb55fdcbd455fee0d5,
  0x5600e0d65601e0d25608e0d05609bcce560ce0d1560eb8c2560fd8c55618d0ea,
  0x561bc2ef561ee0cf561fe0bd5623e0d45624e0d35627e0d7562ce0dc562de0d8,
  0x5631d6f65632b3b05634d7ec5636cbbb5639e0da563bcefb563fbad9564ce0e1,
  0x564de0dd564ed2ad5654e0e25657e0db5658e0d95659e0df565ce0e05662e0de,
  0x5664e0e45668c6f75669d8ac566ad4eb566be0e6566ccac95671e0e55676b8c1,
  0x567be0e7567ce0e85685e0e95686e0e3568ebabf568fcce75693e0ea56a3cff9,
  0x56afe0eb56b7c8c256bcbdc056cac4d256d4e0ec56d7e0ed56dac7f456dbcbc4,
  0x56dde0ee56debbd856dfd8b656e0d2f256e1e0ef56e2cdc556e4b6da56ebe0f1,
  0x56edd4b056f0c0a756f1b4d156f4cea756f5e0f056f9e0f256fab9cc56fdb9fa,
  0x56fecdbc56ffe0f35703c6d45704e0f45706d4b25708c8a65709e0f6570ae0f5,
  0x571ce0f7571fcdc15723caa55728d4da5729dbd7572adbd9572cdbd8572db9e7,
  0x572edbdc572fdbdd5730b5d85733dbda5739dbdb573ab3a1573bdbdf573ebbf8,
  0x5740d6b75742dbe05747bef9574ab7bb574cdbd0574dccae574ebfb2574fbbb5,
  0x5750d7f85751bfd35757bfe9575abce1575bccb3575cdbde575db0d3575eceeb,
  0x575fb7d85760d7b95761c6c25764c0a45766ccb95768dbe75769dbe1576ac6ba,
  0x576bdbe3576ddbe8576fc5f75773dbea5776dbe95777bfc0577bdbe6577cdbe5,
  0x5782b4b95783c0ac5784c2a25785dbe25786dbe4578bd0cd578cdbed5792c0dd,
  0x5793dbf2579bb6e257a0dbf357a1dbd257a2b9b857a3d4ab57a4dbec57a6bfd1,
  0x57a7dbf057a9dbd157abb5e657addbeb57aebfe557b2dbee57b4dbf157b8dbf9,
  0x57c2b9a157c3b0a357cbc2f157ceb3c757cfdbef57d2dbf857d4c6d257d5dbf4,
  0x57d8dbf557d9dbf757dadbf657dddbfe57dfd3f257e0b2ba57e4dbfd57eddca4,
  0x57efdbfb57f4dbfa57f8dbfc57f9c5e057fabbf957fddca35800dca55802ccc3,
  0x5806b6d15807ddc0580bdca1580ddca25811c7b55815b6e95819dca7581edca6,
  0x5820dca95821b1a45824b5cc582abfb05830d1df5835b6c25844dca8584ccbfa,
  0x584debf35851cbdc5854cbfe5858ccc1585ec8fb5865dcaa586bccee586cdcab,
  0x587edbd35880dcaf5881dcac5883beb35885cafb5889dcad5892c9ca5893c4b9,
  0x5899c7bd589adcae589ed4f6589fd0e658a8c4ab58a9b6d558bcdbd458c1b1da,
  0x58c5dbd558d1dbd658d5babe58e4c8c058ebcabf58ecc8c958eed7b358f0c9f9,
  0x58f3bfc758f6baf858f9d2bc5902e2ba5904b4a65907b1b8590db8b4590fcfc4,
  0x5914d9e75915cfa65916cde25919d9ed591ab6e0591cd2b9591fb9bb5924e2b9],
  [0x5925e2b75927b4f35929ccec592accab592bb7f2592dd8b2592ed1eb592fbabb,
  0x5931caa75934cdb75937d2c45938bfe45939bcd0593ab6e1593cdec55941dec6,
  0x5942dbbc5944d1d95947c6e65948c4ce5949b7ee594bb7dc594ebffc594fd7e0,
  0x5951c6f55954b1bc5955dec85956bdb15957ccd75958deca595adec95960b5ec,
  0x5962c9dd5965b0c25973c5ae5974c5ab5976c4cc5978bce95979cbfd597dbac3,
  0x5981e5f95982c8e75983e5fa5984cdfd5986d7b15987b8be5988c2e8598ac8d1,
  0x598de5fb5992b6ca5993bccb5996d1fd5997e6a15999c3ee599ee6a459a3e5fe,
  0x59a4e6a559a5cdd759a8b7c159a9e5fc59aae5fd59abe6a359aec4dd59afe6a8,
  0x59b2e6a759b9c3c359bbc6de59bee6aa59c6c4b759cae6a259cbcabc59d0bde3,
  0x59d1b9c359d2e6a659d3d0d559d4ceaf59d7e6a959d8e6b059dad2a659dcbdaa,
  0x59dde6ad59e3e6af59e5c0d159e8d2cc59ecbca759f9e6b159fbd2f659ffd7cb,
  0x5a01cdfe5a03cdde5a04c2a65a05e6ab5a06e6ac5a07bdbf5a08e6ae5a09e6b3,
  0x5a0ce6b25a11e6b65a13e6b85a18c4ef5a1cc4c85a1fbeea5a20c9ef5a23e6b7,
  0x5a25b6f05a29c3e45a31d3e95a32e6b45a34e6b55a36c8a25a3ce6bd5a40e6b9,
  0x5a46c6c55a49cdf15a4ae6bb5a55e6bc5a5abbe95a62e6be5a67e6ba5a6ac0b7,
  0x5a74d3a45a75e6bf5a76c9f45a77e6c35a7ae6c45a7fd0f65a92c3bd5a9ac3c4,
  0x5a9be6c25aaae6c15ab2e6c75ab3cfb15ab5ebf45ab8e6ca5abee6c55ac1bcde,
  0x5ac2c9a95ac9bcb55acccfd35ad2e6c85ad4e6c95ad6e6ce5ad8e6d05adce6d1,
  0x5ae0e6cb5ae1b5d55ae3e6cc5ae6e6cf5ae9c4db5aebe6c65af1e6cd5b09e6d2,
  0x5b16e6d45b17e6d35b32e6d55b34d9f85b37e6d65b40e6d75b50d7d35b51e6dd,
  0x5b53e6de5b54bfd75b55d4d05b57d7d65b58b4e65b59cbef5b5ae6da5b5bd8c3,
  0x5b5cd7ce5b5dd0a25b5fc3cf5b62e6df5b63bcbe5b64b9c25b65e6db5b66d1a7,
  0x5b69baa25b6ac2cf5b6cd8ab5b70caeb5b71e5ee5b73e6dc5b75b7f55b7ac8e6,
  0x5b7dc4f55b80e5b25b81c4fe5b83cbfc5b84e5b35b85d5ac5b87d3ee5b88cad8,
  0x5b89b0b25b8bcbce5b8ccdea5b8fbaea5b93e5b55b95e5b45b97d7da5b98b9d9,
  0x5b99d6e65b9ab6a85b9bcdf05b9cd2cb5b9db1a65b9ecab55ba0b3e85ba1c9f3,
  0x5ba2bfcd5ba3d0fb5ba4cad25ba5e5b65ba6bbc25baacfdc5babb9ac5bb0d4d7,
  0x5bb3baa65bb4d1e75bb5cffc5bb6bcd25bb8e5b75bb9c8dd5bbdbfed5bbeb1f6,
  0x5bbfcbde5bc2bcc55bc4bcc45bc5d2fa5bc6c3dc5bc7bfdc5bccb8bb5bd0c3c2,
  0x5bd2baae5bd3d4a25bddc7de5bdec4af5bdfb2ec5be1b9d15be4e5bb5be5c1c8,
  0x5be8d5af5beee5bc5bf0e5be5bf8b4e75bf9b6d45bfacbc25bfbd1b05bfcb5bc],
  [0x5bffcad95c01b7e25c04c9e45c06bdab5c09cebe5c0ad7f05c0fd0a15c11c9d9,
  0x5c14b6fb5c15e6d85c16bce25c18b3be5c1ac9d05c1ce6d95c1db3a25c22decc,
  0x5c24d3c85c25decd5c27d2a25c2cdece5c31becd5c34decf5c38caac5c39d2fc,
  0x5c3ab3df5c3be5ea5c3cc4e15c3dbea15c3eceb25c3fc4f25c40bed65c41c6a8,
  0x5c42b2e35c45bed35c48c7fc5c49cceb5c4abdec5c4bcedd5c4ecaba5c4fc6c1,
  0x5c50e5ec5c51d0bc5c55d5b95c59e5ed5c5ecaf45c60cdc05c61c2c55c63e5ef,
  0x5c65c2c45c66e5f05c6ee5f85c6fcdcd5c71c9bd5c79d2d95c7ae1a85c7fd3ec,
  0x5c81cbea5c82c6f15c88e1ac5c8ce1a75c8de1a95c90e1aa5c91e1af5c94b2ed,
  0x5c96e1ab5c97b8da5c98e1ad5c99e1ae5c9ae1b05c9bb5ba5c9ce1b15ca2e1b3,
  0x5ca3e1b85ca9d1d25cabe1b65cace1b55cadc1eb5cb1e1b75cb3d4c05cb5e1b2,
  0x5cb7e1ba5cb8b0b65cbde1b45cbfbff95cc1e1b95cc4e1bb5ccbe1be5cd2e1bc,
  0x5cd9d6c55ce1cfbf5ce4e1bd5ce5e1bf5ce6c2cd5ce8b6eb5cead3f85cedc7cd,
  0x5cf0b7e55cfbbefe5d02e1c05d03e1c15d06e1c75d07b3e75d0ec6e95d14b4de,
  0x5d16d1c25d1be1c85d1ee1c65d24e1c55d26e1c35d27e1c25d29b1c05d2dd5b8,
  0x5d2ee1c45d34e1cb5d3de1cc5d3ee1ca5d47effa5d4ae1d35d4be1d25d4cc7b6,
  0x5d58e1c95d5be1ce5d5de1d05d69e1d45d6be1d15d6ce1cd5d6fe1cf5d74e1d5,
  0x5d82e1d65d99e1d75d9de1d85db7e1da5dc5e1db5dcdcea15ddbe7dd5dddb4a8,
  0x5dded6dd5de1d1b25de2b3b25de5b9a45de6d7f35de7c7c95de8bede5de9b9ae,
  0x5debced75deeb2ee5defdbcf5df1bcba5df2d2d15df3cbc85df4b0cd5df7cfef,
  0x5dfdd9e35dfebded5e01b1d25e02cad05e03b2bc5e05cba75e06b7ab5e08caa6,
  0x5e0ccfa35e0fe0f85e10d5ca5e11e0fb5e14e0fa5e15c5c15e16ccfb5e18c1b1,
  0x5e19e0f95e1ad6e35e1bb2af5e1cd6c45e1db5db5e26b4f85e27d6a15e2dcfaf,
  0x5e2eb0ef5e31e0fc5e37e1a15e38b3a35e3be0fd5e3ce0fe5e3dc3b15e42c3dd,
  0x5e44e1a25e45b7f95e4cbbcf5e54e1a35e55c4bb5e5be1a45e5ee1a55e61e1a6,
  0x5e62b4b15e72b8c95e73c6bd5e74c4ea5e76b2a25e78d0d25e7ae7db5e7bbbc3,
  0x5e7cd3d75e7dd3c45e7fb9e35e80e2cf5e84d7af5e86c7ec5e87b1d35e8ab4b2,
  0x5e8be2d15e8fd0f25e90c2ae5e91e2d05e93bfe25e94d3a65e95b5d75e96e2d2,
  0x5e97b5ea5e99c3ed5e9ab8fd5e9cb8ae5e9ec5d35e9fb7cf5ea0e2d45ea5e2d3,
  0x5ea6b6c85ea7d7f95eadcda55eb3e2d85eb5e2d65eb6cafc5eb7bfb55eb8d3b9,
  0x5eb9e2d55ebee2d75ec9c1ae5ecac0c85ed1e2db5ed2e2da5ed3c0aa5ed6c1ce,
  0x5edbe2dc5ee8e2dd5eeae2de5ef4dbc85ef6d1d35ef7cda25efabda85efedec3],
  [0x5effd8a55f00bfaa5f01dbcd5f02d2ec5f03c6fa5f04c5aa5f08dec45f0ab1d7,
  0x5f0bdfae5f0fcabd5f11dfb15f13b9ad5f15d2fd5f17b8a55f18baeb5f1bb3da,
  0x5f1fb5dc5f20d5c55f25c3d65f26cfd25f27bba15f29e5f35f2ae5f25f2de5f4,
  0x5f2fcde45f31c8f55f39b5af5f3ac7bf5f3ce5f65f40ecb05f50e5e65f52b9e9,
  0x5f53b5b15f55c2bc5f56e5e85f57e5e75f58e5e95f5dd2cd5f61e1ea5f62d0ce,
  0x5f64cdae5f66d1e55f69b2ca5f6ab1eb5f6cb1f25f6dc5ed5f70d5c35f71d3b0,
  0x5f73e1dc5f77e1dd5f79d2db5f7bb3b95f7cb1cb5f80cdf95f81d5f75f82e1de,
  0x5f84beb65f85b4fd5f87e1df5f88badc5f89e1e05f8abbb25f8bc2c95f8ce1e1,
  0x5f90d0ec5f92cdbd5f95e1e25f97b5c35f98c5c75f99e1e35f9ce1e45fa1d3f9,
  0x5fa8e1e55faad1ad5fade1e65faecea25fb5e1e75fb7b5c25fbce1e85fbdbbd5,
  0x5fc3d0c45fc4e2e05fc5b1d85fc6d2e45fc9e2e15fccbcc95fcdc8cc5fcfe2e3,
  0x5fd0ecfe5fd1ecfd5fd2dfaf5fd6e2e25fd7d6be5fd8cdfc5fd9c3a65fdde3c3,
  0x5fe0d6d25fe1e2e75fe4e2e85fe7d3c75feae2ec5febbfec5fede2ed5feee2e5,
  0x5ff1b3c05ff5c4ee5ff8e2ee5ffbd0c35ffdbaf65ffee2e95fffb7de6000bbb3,
  0x6001ccac6002cbcb6003e2e46004e2e66005e2ea6006e2eb600ae2f7600de2f4,
  0x600ed4f5600fe2f36012c5ad6014d5fa6015c5c26016b2c06019e2ef601be2f2,
  0x601cc1af601dcbbc6020b5a16021e2f96025bcb16026e2f16027d0d46028d4b9,
  0x6029e2f5602ab9d6602be2f6602fc7d36035e2f0603bd7dc603ceda1603fe2f8,
  0x6041eda56042e2fe6043cad1604bc1b5604dbbd06050bfd66052bae36055cba1,
  0x6059eda6605aeda3605deda26062bbd66063eda76064d0f46067eda46068bade,
  0x6069b6f7606ae3a1606bb6b2606cccf1606db9a7606fcfa26070c7a16073bfd2,
  0x6076b6f16078e2fa6079e2fb607ae2fd607be2fc607cc4d5607de3a2607fd3c1,
  0x6083e3a76084c7c46089cfa4608ce3a9608dbab76092e3a86094bbda6096e3a3,
  0x609ae3a4609be3aa609de3a6609fcef260a0d3c660a3bbbc60a6d4c360a8c4fa,
  0x60abeda860acd0fc60ade3a560afc3f560b1e3ad60b2b1af60b4e3b260b8bcc2,
  0x60bbe3ac60bcb5bf60c5c7e960c6e3b060cabeaa60cbcdef60d1bbf360d5cce8,
  0x60d8e3af60dae3b160dccfa760dde3ae60dfcea960e0bbdd60e6b5eb60e7bee5,
  0x60e8b2d260e9b3cd60ebb1b960ece3ab60edb2d160eeb5ac60efb9df60f0b6e8,
  0x60f3cfeb60f4e3b760f6bbcc60f9c8c760fad0ca6100e3b86101b3ee6106eda9,
  0x6108d3fa6109d3e4610dedaa610ee3b9610fd2e26115e3b5611ad3de611fb8d0,
  0x6120e3b36123e3b66124b7df6126e3b46127c0a2612be3ba613fd4b86148b4c8],
  [0x614ae3bb614cbbc5614ec9f76151c9e56155c4bd615dedab6162c2fd6167bbdb,
  0x6168bfae6170cebf6175e3bc6177bfb6618bb1ef618ed4f76194e3be619dedad,
  0x61a7e3bf61a8baa961a9edac61ace3bd61b7e3c061bebab661c2b6ae61c8d0b8,
  0x61cab0c361cbedae61d1edaf61d2c0c161d4e3c161e6c5b361f5e3c261ffdcb2,
  0x6206edb06208b8ea620aceec620beaa7620cd0e7620dcaf9620ec8d6620fcfb7,
  0x6210b3c96211ced26212bde46215e3de6216bbf26217eaa86218d5bd621ac6dd,
  0x621beaa9621feaaa6221eaac6222eaab6224eaae6225eaad622abdd8622ceaaf,
  0x622ec2be6233b4c16234b4f76237bba7623dece6623eece5623fb7bf6240cbf9,
  0x6241b1e26243ece76247c9c86248ece86249ece9624bcad6624cded0624db2c5,
  0x624ed4fa6251c6cb6252b0c76253b4f26254c8d36258cdd0625bbfb86263bfdb,
  0x6266c7a46267d6b46269c0a9626aded1626bc9a8626cd1ef626dc5a4626eb0e7,
  0x626fb3b66270c8c56273b0e26276b7f66279c5fa627cb6f3627ed5d2627fb3d0,
  0x6280bcbc6284b3ad6289bef1628ab0d16291d2d66292cae36293d7a56295cdb6,
  0x6296b6b66297bfb96298d5db629ab8a7629bc5d7629fded262a0bfd962a1c2d5,
  0x62a2c7c062a4bba462a5b1a862a8c5ea62abc5fb62accca762b1b1a762b5b5d6,
  0x62b9c4a862bbded362bcd1ba62bdb3e962bfc3f262c2b7f762c4d6f462c5b5a3,
  0x62c6b2f062c7c4b462c8c4e962c9c0ad62caded462ccb0e862cdc5c462cec1e0,
  0x62d0b9d562d2bedc62d3cdd862d4b0ce62d6cdcf62d7ded662d8bed062d9d7be,
  0x62daded562dbd5d062dcb0dd62dfc4e262e2c2a362e3bcf062e5d3b562e6c0b9,
  0x62e7c5a162e8b2a662e9d4f162ecc0a862edcac362eeded762efd5fc62f1b9b0,
  0x62f3c8ad62f4cba962f6ded962f7bfbd62fcc6b462fdd7a762fecab062ffc4c3,
  0x6301b3d66302b9d26307d6b86308eafc6309b0b4630ebfe66311ccf46316cdda,
  0x631ad6bf631bc2ce631dcece631ecca2631fd0ae6320c4d36321b5b26322ded8,
  0x6323d5f56324bcb76325bbd36328b0a4632ac5b2632bb4ec632fd5f16332eafd,
  0x6339deda633acda6633dcdec6342cee66343dedc6345cdb16346c0a66349d7bd,
  0x634bdedb634cb0c6634dbab4634ec9d3634fc4f36350bee86355b2b6635ec0cc,
  0x635fcbf06361bcf16362bbbb6363b5b76367c5f56369dee6636ddee3636ebedd,
  0x6371dedf6376b4b76377bddd637adee0637bc4ed6380cfc66382b5e06387b6de,
  0x6388cada6389b5f4638adee5638cd5c6638edee1638fcccd6390c6fe6392c5c5,
  0x6396d2b46398bef263a0c2d363a2ccbd63a3b3b863a5bdd363a7bfd863a8cdc6,
  0x63a9d1da63aab4eb63acdee463addedd63aedee763b0eafe63b3c2b063b4dee2],
  [0x63b7d6c063b8b5a763bab2f463bcdee863bedef263c4deed63c6def163c9c8e0,
  0x63cdd7e163cedeef63cfc3e863d0cce163d2b2e563d6d2be63dedeee63e0deeb,
  0x63e1ced563e3b4a763e9bfab63eabebe63edbdd263f2dee963f4d4ae63f6dede,
  0x63f8deea63fdc0bf63ffdeec6400b2f36401b8e96402c2a76405bdc1640bdef5,
  0x640cdef8640fb2ab6410b4a46413b4ea6414c9a6641bdef6641ccbd1641eb8e3,
  0x6420def76421defa6426def9642accc2642cb0e1642db4ee6434e5ba643ad0af,
  0x643db2eb643feba16441def46444c9e36445def36446b0da6447d2a16448b1f7,
  0x644accaf6452def06454cba46458d5aa645edefb6467b4dd6469c4a6646ddefd,
  0x6478c3fe6479c4a1647adfa16482c1cc6484defc6485beef6487c6b26491b3c5,
  0x6492c8f66495cbba6496defe6499dfa4649ed7b264a4b3b764a9c1c364acc7cb,
  0x64adb2a564aeb4e964b0d7ab64b5c4ec64b7dfa264b8dfa364badfa564bcbab3,
  0x64c0dfa664c2c0de64c5c9c364cdb2d964cec7e664d0dfa764d2c7dc64d7dfa8,
  0x64d8eba264decbd364e2dfaa64e4dfa964e6b2c16500c5ca6509dfab6512d4dc,
  0x6518c8c16525dfac652bbef0652edfad652fd6a76534eab76535ebb66536cad5,
  0x6538d8fc6539b8c4653bb9a5653eb7c5653fd5fe6545b9ca6548d0a76549f4cd,
  0x654cb5d0654fc3f46551bec86555ebb76556b0bd6559bdcc655bc1b2655db1d6,
  0x655eb3a86562b8d26563c9a26566b6d8656bebb8656cbeb46570cafd6572c7c3,
  0x6574d5fb6577b7f36587cec4658bd5ab658cb1f36590ecb36591b0df6593ecb5,
  0x6597b6b76599c1cf659bf5fa659cd0b1659fd5e565a1ced365a4bdef65a5b3e2,
  0x65a7b8ab65a9d5b665abedbd65adb6cf65afcbb965b0d0c265b9b7bd65bcecb6,
  0x65bdcaa965c1c5d465c3ecb965c4ecb865c5c2c365c6ecb765cbd0fd65ccecba,
  0x65ceecbb65cfd7e565d2ecbc65d6ecbd65d7c6ec65e0cede65e2bcc865e5c8d5,
  0x65e6b5a965e7bec965e8d6bc65e9d4e765ecd1ae65edd0f165eeeab865efeab9,
  0x65f0eaba65f1bab565f6cab165f7bff565facdfa6600eac06602b0ba6603eabe,
  0x6606c0a5660aeabb660cb2fd660ec3f7660fbbe86613d2d76614cef46615eabf,
  0x6619eabc661deac3661fd0c76620d3b36625b4ba6627c3c16628d7f2662dd5d1,
  0x662fcac76631eac56634eac46635eac76636eac6663cd6e7663ecfd46641eacb,
  0x6643bbce664bbdfa664cc9ce664feacc6652c9b96653cffe6654eaca6655d4ce,
  0x6656eacd6657eacf665acded665feac96661eace6664ceee6666bbde6668b3bf,
  0x666ec6d5666fbeb06670cefa6674c7e76676bea76677ead0667ad6c7667ec1c0,
  0x6682d4dd6684ead16687cfbe668cead26691caee6696c5af6697b0b5669dead4],
  [0x66a7ead366a8f4df66aec4ba66b4b1a966b9e5df66beead566d9caef66dbead6,
  0x66dcead766ddc6d866e6ead866e9ead966f0d4bb66f2c7fa66f3d2b766f4b8fc,
  0x66f7eac266f9b2dc66fcc2fc66fed4f866ffcce66700d7ee6708d4c26709d3d0,
  0x670aebc3670bc5f3670db7fe6710ebd46714cbb76715ebde6717c0ca671bcdfb,
  0x671db3af671fc6da6726ebfc6728c4be672aceb4672bc4a9672cb1be672dd4fd,
  0x672fcaf56731d6ec6734c6d36735b6e4673abbfa673dd0e06740c9b16742d4d3,
  0x6743c8a86746b8cb6748e8be6749c9bc674ce8bb674ec0ee674fd0d36750b2c4,
  0x6751b4e56753e8bc6756d5c8675cb6c5675ee8bd675fcaf86760b8dc6761ccf5,
  0x6765c0b46768d1ee6769e8bf676ae8c2676dbabc676fb1ad6770bddc6772eabd,
  0x6773e8c36775e8c66777e8cb677ce8cc677ecbc9677fb0e56781bcab6784b9b9,
  0x6787e8c16789cdf7678be8ca6790cef66795d5ed6797c1d66798e8c4679ac3b6,
  0x679cb9fb679dd6a6679ee8c867a2cae067a3d4e667a5e8c067a7e8c567a8e8c7,
  0x67aac7b967abb7e367ade8c967afbfdd67b0e8d267b3e8d767b5e8d567b6bcdc,
  0x67b7bccf67b8e8db67c1e8de67c3e8da67c4b1fa67cfb0d867d0c4b367d1b8cc,
  0x67d2c6e267d3c8be67d4c8e167d8e8cf67d9e8d467dae8d667dcb9f167dde8d8,
  0x67ded7f567e0c4fb67e2e8dc67e5b2e967e9e8d167ecbced67efbfc267f0e8cd,
  0x67f1d6f967f3c1f867f4b2f167fde8df67ffcac16800e8d96805d5a46807b1ea,
  0x6808d5bb6809e8ce680ae8d0680bb6b0680ce8d3680ee8dd680fc0b86811caf7,
  0x6813cba86816c6dc6817c0f5681de8e96821d0a36829e8f2682ad6ea6832e8e0,
  0x6833e8e16837d1f96838bacb6839b8f9683cb8f1683dd4d4683ee8ef6840e8ee,
  0x6841e8ec6842b9f06843ccd26844e8e66845cea66846bff26848b0b86849e8f1,
  0x684ae8f0684cd7c0684ee8e46850cda96851c9a36853bbb86854bddb6855e8ea,
  0x6860e8e26861e8e36862e8e56863b5b56864e8e76865c7c56866e8eb6867e8ed,
  0x6868bdb06869d7ae686be8f86874e8f56876cdb06877e8f66881c1ba6883e8e8,
  0x6885c3b76886b0f0688fe8f46893e8f76897b9a368a2c9d268a6c3ce68a7cee0,
  0x68a8c0e668adcbf368afccdd68b0d0b568b3cae168b5e8f368c0bcec68c2e8f9,
  0x68c9c3de68cbc6e568cdb9f768d2b0f468d5d7d868d8bcac68dac5ef68e0ccc4,
  0x68e3e9a668eec9ad68f0e9a268f1c0e268f5bfc368f9e8fe68fab9d768fce8fb,
  0x6901e9a46905d2ce690be9a3690dd6b2690ed7b56910e9a76912bdb7691fe8fc,
  0x6920e8fd6924e9a1692dcdd66930d2ac6934e9b26939e9a9693db4aa693fb4bb,
  0x6942e9ab6954d0a86957e9a5695ab3fe695de9ac695ec0e36960e9aa6963e9b9],
  [0x6966e9b8696be9ae696ee8fa6971e9a86977bfac6978e9b16979e9ba697cc2a5,
  0x6980e9af6982b8c56984e9ad6986d3dc6987e9b46988e9b56989e9b7698de9c7,
  0x6994c0c66995e9c56998e9b0699be9bb699cb0f169a7e9bc69a8d5a569abe9be,
  0x69ade9bf69b1e9c169b4c1f169b7c8b669bbe9bd69c1e9c269cae9c369cce9b3,
  0x69cee9b669d0bbb169d4e9c069dbbcf769dfe9c469e0e9c669ede9ca69f2e9ce,
  0x69fdb2db69ffe9c86a0ab7ae6a17e9cb6a18e9cc6a1fd5c16a21c4a36a28e9d8,
  0x6a2abae16a2fe9c96a31d3a36a35e9d46a3de9d76a3ee9d06a44e9cf6a47c7c1,
  0x6a50e9d26a58e9d96a59b3c86a5be9d36a61cff06a65e9cd6a71b3f76a79e9d6,
  0x6a7ce9da6a80ccb46a84cfad6a8ee9d56a90e9dc6a91e9db6a97e9de6aa0e9d1,
  0x6aa9e9dd6aabe9df6aacc3ca6b20c7b76b21b4ce6b22bbb66b23d0c06b24eca3,
  0x6b27c5b76b32d3fb6b37eca46b39eca56b3ac6db6b3ebfee6b43eca66b46eca7,
  0x6b47d0aa6b49c7b86b4cb8e86b59eca86b62d6b96b63d5fd6b64b4cb6b65b2bd,
  0x6b66cee46b67c6e76b6acde16b79b4f56b7bcbc06b7cbcdf6b81e9e26b82e9e3,
  0x6b83d1ea6b84e9e56b86b4f96b87e9e46b89d1b36b8acae26b8bb2d06b8de9e8,
  0x6b92e9e66b93e9e76b96d6b36b9ae9e96b9be9ea6ba1e9eb6baae9ec6bb3ecaf,
  0x6bb4c5b96bb5b6ce6bb7d2f36bbfb5ee6bc1bbd96bc2ecb16bc5d2e36bcbcee3,
  0x6bcdc4b86bcfc3bf6bd2b6be6bd3d8b96bd4b1c86bd5b1cf6bd6b1d16bd7c5fe,
  0x6bd9b1d06bdbc3ab6be1d5b16beaeba46bebbac16befccba6bf3eba56bf5eba7,
  0x6bf9eba86bfdeba66c05eba96c06ebab6c07ebaa6c0debac6c0fcacf6c10d8b5,
  0x6c11c3f16c13c3a56c14c6f86c15ebad6c16c4ca6c18ebae6c19ebaf6c1aebb0,
  0x6c1bb7d56c1fb7fa6c21ebb16c22c7e26c24ebb36c26baa46c27d1f56c28b0b1,
  0x6c29ebb26c2aebb46c2eb5aa6c2fc2c86c30c7e86c32ebb56c34cbae6c35e3df,
  0x6c38d3c06c3dd9db6c40cda16c41d6ad6c42c7f36c46d9e06c47bbe36c49baba,
  0x6c4ae3e26c50cfab6c54e3e06c55c9c76c57bab96c5bd1b46c5ce3e16c5dc8ea,
  0x6c5eb9af6c5fbdad6c60b3d86c61cedb6c64ccc06c68e3e86c69e3e96c6acdf4,
  0x6c70ccad6c72bcb36c74e3ea6c76e3eb6c79d0da6c7dc6fb6c7eb7da6c81c7df,
  0x6c82d2ca6c83ced66c85e3e46c86e3ec6c88c9f26c89b3c16c8ce3e76c8fc6e3,
  0x6c90e3e56c93edb36c94e3e66c99c9b36c9bc5e66c9fb9b56ca1c3bb6ca3e3e3,
  0x6ca4c5bd6ca5c1a46ca6c2d96ca7b2d76ca9e3ed6caabba66cabc4ad6cade3f0,
  0x6caebeda6cb1e3fb6cb2e3f56cb3bad36cb8b7d06cb9d3cd6cbbd6ce6cbcd5d3,
  0x6cbdb9c16cbed5b46cbfd1d86cc4d0b96cc5c7f66cc9c8aa6ccab2b46cccc3da],
  [0x6cd0e3ee6cd3e3fc6cd4e3ef6cd5b7a86cd6e3f76cd7e3f46cdbb7ba6cdec5a2,
  0x6ce0e3f66ce1c5dd6ce2b2a86ce3c6fc6ce5c4e06ce8d7a26ceac0e16cebe3f9,
  0x6ceee3fa6cefe3fd6cf0cca96cf1e3f36cf3d3be6cf5b1c36cf6edb46cf7e3f1,
  0x6cf8e3f26cfae3f86cfbd0ba6cfcc6c36cfdd4f36cfee3fe6d01bde06d04e4a7,
  0x6d07e4a66d0bd1f36d0ce4a36d0ee4a96d12c8f76d17cfb46d19e4a86d1ae4ae,
  0x6d1bc2e56d1eb6b46d25bdf26d27e4a26d2abae96d2be4aa6d2ee4ac6d31b6fd,
  0x6d32d6de6d33e4b26d35e4ad6d39e4a16d3bbbee6d3ccddd6d3dc7a26d3ec5c9,
  0x6d41c1f76d43e4a46d45c7b36d46bdac6d47bdbd6d48e4a56d4ad7c76d4bb2e2,
  0x6d4de4ab6d4ebcc36d4fe4af6d51bbeb6d52e4b06d53c5a86d54e4b16d59d5e3,
  0x6d5abfa36d5ce4ba6d5ee4b76d60e4bb6d63e4bd6d66c6d66d69bac66d6ac0cb,
  0x6d6eb8a16d6fe4b46d74d4a16d77baa36d78bdfe6d7ce4bc6d82cdbf6d85c4f9,
  0x6d88cffb6d89c9e66d8cd3bf6d8ecfd16d91e4b36d93e4b86d94e4b96d95cce9,
  0x6d9bccce6d9dc0d46d9ee4b56d9fc1b06da0e4b66da1ced06da3bbc16da4b5d3,
  0x6da6c8f36da7bda76da8d5c76da9c9ac6daab8a26dabe4ca6daee4cc6dafd1c4,
  0x6db2d2ba6db5baad6db8bad46dbfe4c36dc0b5ed6dc4d7cd6dc5e4c06dc6cffd,
  0x6dc7e4bf6dcbc1dc6dccccca6dd1cae76dd6c4d76dd8ccd46dd9e4c86ddde4c7,
  0x6ddee4c16de0e4c46de1b5ad6de4d3d96de6e4c66debd2f96decb4e36deebbb4,
  0x6df1c9ee6df3b4be6df7bbec6df9d1cd6dfbcced6dfcedb56e05c7e56e0ad4a8,
  0x6e0ce4cb6e0dd7d56e0ee4c26e10bda56e11e4c56e14d3e66e16e4c96e17c9f8,
  0x6e1ae4be6e1dd3e56e20c7fe6e21b6c96e23d4fc6e24b2b36e25e4d76e29cec2,
  0x6e2be4cd6e2dcebc6e2fb8db6e32e4d66e34bfca6e38d3ce6e3ac3ec6e43c5c8,
  0x6e44e4d86e4dcdc46e4ee4cf6e53e4d46e54e4d56e56bafe6e58cfe66e5bd5bf,
  0x6e5fe4d26e6be4d06e6ee4ce6e7ecde56e7fcaaa6e83c0a36e85bda66e86e4d3,
  0x6e89b8c86e8fe4e76e90d4b46e98e4db6e9cc1ef6e9fe4e96ea2d2e76ea5e4df,
  0x6ea7e4e06eaacfaa6eafcbdd6eb1e4da6eb2e4d16eb4e4e56eb6c8dc6eb7e4e3,
  0x6ebac4e76ebbe4e26ebde4e16ec1b3fc6ec2e4e86ec7b5e16ecbd7cc6ecfe4e6,
  0x6ed1bbac6ed3d7d26ed4cccf6ed5ebf86ed7e4e46edab9f66eded6cd6edfe4d9,
  0x6ee0e4dc6ee1c2fa6ee2e4de6ee4c2cb6ee5c0c46ee6c2d06ee8b1f56ee9ccb2,
  0x6ef4b5ce6ef9e4ef6f02c6af6f06c6e16f09e4f56f0fc2a96f13c0ec6f14d1dd,
  0x6f15e4ee6f20c4ae6f24e4ed6f29e4f66f2ae4f46f2bc2fe6f2de4dd6f2fe4f0,
  0x6f31cafe6f33d5c46f36e4f16f3ed1fa6f46e4eb6f47e4ec6f4be4f26f4dceab],
  [0x6f58c5cb6f5cc7b16f5ec2ba6f62e4ea6f66c1ca6f6dccb66f6eb3b16f72e4fb,
  0x6f74e4f36f78e4fa6f7ae4fd6f7ce4fc6f84b3ce6f88b3ba6f89e4f76f8ce4f9,
  0x6f8de4f86f8ec5ec6f9cc0bd6fa1d4e86fa7e5a26fb3b0c46fb6e5a46fb9e5a3,
  0x6fc0bca46fc2e5a56fc9e5a16fd1e4fe6fd2b1f46fdee5a86fe0e5a96fe1e5a6,
  0x6feee5a76fefe5aa7011c6d9701ae5ab701be5ad7023e5ac7035e5af7039e5ae,
  0x704cb9e0704fe5b0705ee5b1706bbbf0706cece1706dc3f0706fb5c67070bbd2,
  0x7075c1e97076d4ee7078bec4707cd7c6707ed4d6707fb2d37080ecbe7085eac1,
  0x7089c2af708ab4b6708ed1d77092b3b47094c8b27095bfbb7096ecc07099d6cb,
  0x709cecbf709decc170abecc570acbee670adccbf70aec5da70afbebc70b1ecc6,
  0x70b3b1fe70b7ecc470b8d5a870b9b5e370bbecc270bcc1b670bdb3e370c0ecc3,
  0x70c1cbb870c2c0c370c3ccfe70c8c1d270caecc870d8bae670d9c0d370dbd6f2,
  0x70dfd1cc70e4bfbe70e6b7b370e7c9d570e8ecc770e9bbe270ebcccc70ecbdfd,
  0x70edc8c870efcfa970f7cde970f9c5eb70fdb7e97109d1c9710abab87110ecc9,
  0x7113ecca7115bbc07116eccb7118ece27119b1ba711ab7d97126bdb9712feccc,
  0x7130d1e67131eccd7136c8bb7145ecd1714aecd3714cbbcd714ebce5715ceccf,
  0x715ec9b77164c3ba7166ece37167d5d57168ecd0716ed6f37172ecd27173ecce,
  0x7178ecd4717aecd5717dc9bf7184cfa8718ad0dc718fd1ac7194c8db7198ecd6,
  0x7199cef5719fcaec71a0ecda71a8ecd971acb0be71b3ecd771b5ecd871b9ece4,
  0x71c3c8bc71cec1c771d4ecdc71d5d1e071e0ecdb71e5d4ef71e7ecdd71eedbc6,
  0x71f9ecde7206b1ac721decdf7228ece0722ad7a6722cc5c07230ebbc7231b0ae,
  0x7235bef47236b8b87237d2af7238b0d67239b5f9723bd8b3723dcbac723fe3dd,
  0x7247c6ac7248b0e6724cc5c6724debb97252ebba7256ebbb7259d1c0725bc5a3,
  0x725deaf2725fc4b27261c4b57262c0ce7266eaf37267c4c17269ceef726eeaf0,
  0x726feaf47272c9fc7275c7a37279ccd8727acefe727eeaf5727feaf67280cfac,
  0x7281c0e77284eaf7728ab6bf728beaf8728deaf9728feafa7292eafb729feaf1,
  0x72acc8ae72ade1eb72afb7b872b0e1ec72b4e1ed72b6d7b472b7e1ee72b8e1ef,
  0x72b9d3cc72c1e1f172c2bff172c3e1f072c4b5d272c8b1b772cde1f372cee1f2,
  0x72d0bafc72d2e1f472d7b9b772d9bed172dec4fc72e0badd72e1bdc672e8e1f5,
  0x72e9e1f772ecb6c072edcfc172eecaa872efe1f672f0d5f872f1d3fc72f2e1f8,
  0x72f3e1fc72f4e1f972f7e1fa72f8c0ea72fae1fe72fbe2a172fcc0c77301e1fb,
  0x7303e1fd730ae2a5730ec1d47313e2a37315e2a87316b2fe7317e2a2731bc3cd],
  [0x731cb2c2731de2a7731ee2a67321e2a47322e2a97325e2ab7329d0c9732ad6ed,
  0x732bc3a8732ce2ac732ecfd77331e2ae7334baef7337e9e07338e2ad7339e2aa,
  0x733ebbab733fd4b3734de2b07350e2af7352e9e17357e2b17360e2b2736ce2b3,
  0x736dcca1736fe2b4737ee2b57384d0fe7387c2ca7389d3f1738bcdf5738ee7e0,
  0x7391e7e17396bec1739bc2ea739fe7e473a2e7e373a9cde673abc3b573aee7e2,
  0x73afbbb773b0cfd673b2c1e173b3e7e973b7e7e873bae7f473bbb2a373c0e7ea,
  0x73c2e7e673c8e7ec73c9e7eb73cac9ba73cdd5e473cfe7e573d0b7a973d1e7e7,
  0x73d9e7ee73dee7f373e0d6e973e5e7ed73e7e7f273e9e7f173edb0e073f2e7f5,
  0x7403c7f27405c0c57406c0ed7409c1f0740ae7f0740fe7f67410cbf6741ae8a2,
  0x741be8a17422d7c17425e7fa7426e7f97428e7fb742ae7f7742ce7fe742ee7fd,
  0x7430e7fc7433c1d57434c7d97435c5fd7436c5c3743cc7ed7441e8a37455e8a6,
  0x7457e8a57459e8a7745abaf7745be7f8745ce8a4745ec8f0745fc9aa746de8a9,
  0x7470b9e57476d1fe7477e8a8747ee8aa7480e8ad7481e8ae7483c1a77487e8af,
  0x748be8b0748ee8ac7490e8b4749ce8ab749ee8b174a7e8b574a8e8b274a9e8b3,
  0x74bae8b774d2e8b674dcb9cf74def0ac74e0f0ad74e2c6b074e3b0ea74e4c8bf,
  0x74e6cddf74eececd74efeab174f4eab274f6c6bf74f7b4c974ffeab37504d5e7,
  0x750dddf9750feab47511eab57513eab67518b8ca7519dfb0751ac9f5751cccf0,
  0x751fc9fa7525c9fb7528d3c37529cba6752bb8a6752cf0ae752db1c2752fe5b8,
  0x7530ccef7531d3c97532bcd77533c9ea7535b5e77537c4d07538b5e9753aeeae,
  0x753bbbad753ee7de7540eeaf7545b3a97548eeb2754beeb1754cbde7754eeeb0,
  0x754fceb77554c5cf7559c1f4755adbce755beeb3755cd0f37565c2d47566c6e8,
  0x756ab7ac7572eeb47574b3eb7578bbfb7579eeb5757fe7dc7583eeb67586bdae,
  0x758bf1e2758fcae87591d2c97592f0da7594f0db7596f0dc7597c1c67599b8ed,
  0x759abece759df0de759fc5b175a0f0dd75a1d1f175a3f0e075a4b0cc75a5bdea,
  0x75abd2df75acf0df75aeb4af75afb7e875b0f0e675b1f0e575b2c6a375b3f0e1,
  0x75b4f0e275b5b4c375b8f0e375b9d5ee75bcccdb75bdbed275bebcb275c2f0e8,
  0x75c3f0e775c4f0e475c5b2a175c7d6a275c8d3b875c9beb775cac8ac75cdf0ea,
  0x75d2d1f775d4d6cc75d5badb75d6f0e975d8b6bb75dbcdb475dec6a675e2c1a1,
  0x75e3f0eb75e4f0ee75e6f0ed75e7f0f075e8f0ec75eabbbe75ebf0ef75f0ccb5,
  0x75f1f0f275f4b3d575f9b1d475fcf0f375fff0f47600f0f67601b4e17603f0f1,
  0x7605f0f7760af0fa760cf0f87610f0f57615f0fd7617f0f97618f0fc7619f0fe],
  [0x761bf1a1761fcec17620f1a47622f1a37624c1f67625f0fb7626cadd7629b4f1,
  0x762ab1f1762bccb1762df1a67630f1a77633f1ac7634d5ce7635f1a97638c8b3,
  0x763cf1a2763ef1ab763ff1a87640f1a57643f1aa764cb0a9764df1ad7654f1af,
  0x7656f1b1765cf1b0765ef1ae7663d1a2766bf1b2766ff1b37678b9ef767bb5c7,
  0x767db0d7767eb0d97682d4ed7684b5c47686bdd47687bbca7688f0a7768bb8de,
  0x768ef0a87691b0a87693f0a97696cdee7699f0aa76a4f0ab76aec6a476b1d6e5,
  0x76b2f1e476b4f1e576bfc3f376c2d3db76c5d6d176c6c5e876c8d3af76cad2e6,
  0x76cdeec176ceb0bb76cfd5b576d0d1ce76d1bce076d2bad076d4bff876d6b8c7,
  0x76d7b5c176d8c5cc76dbcaa276dfc3cb76e5eec276eec4bf76efb6a276f1edec,
  0x76f2c3a476f4d6b176f8cfe076f9edef76fcc5ce76feb6dc7701caa17704eded,
  0x7707edf07708edf17709c3bc770bbfb4770dedee7719edf4771aedf2771fd5e6,
  0x7720c3df7722edf37726edf67728d5a37729d1a3772dedf5772fc3d07735edf7,
  0x7736bff47737beec7738edf8773accf7773cd1db7740d7c57741d5f67743edfc,
  0x7747edfb7750edf97751edfa775aedfd775bbea67761cbaf7762eea17763b6bd,
  0x7765eea27766c4c07768edfe776bbdde776cb2c77779b6c3777deea5777ed8ba,
  0x777feea37780eea67784c3e97785b3f2778ceea7778deea4778ecfb97791eea8,
  0x7792c2f7779feea977a0eeaa77a2deab77a5c6b377a7c7c677a9d6f577aab5c9,
  0x77accbb277b0eeab77b3cdab77b5eeac77bbd5b077bdeead77bff6c477cddbc7,
  0x77d7b4a377dbc3ac77dcf1e677e2cab877e3d2d377e5d6aa77e7eff277e9bed8,
  0x77ebbdc377eceff377edb6cc77eeb0ab77f3caaf77f6edb677f8edb777fdcef9,
  0x77feb7af77ffbff37800edb87801c2eb7802c9b07809edb9780cc6f6780dbfb3,
  0x7811edbc7812c5f87814d1d07816d7a97817edba7818edbb781ad1e2781cedbf,
  0x781dedc0781fedc47823edc87825edc67826edce7827d5e87829edc9782cedc7,
  0x782dedbe7830c5e97834c6c67837c9e97838d4d27839edc1783aedc2783bedc3,
  0x783cedc5783ec0f97840b4a17845b9e87847edd0784cedd1784eedca7850edcf,
  0x7852cef87855cbb67856edcc7857edcd785dcff5786aedd2786bc1f2786cd3b2,
  0x786dedcb786ec8b77877bcef787cc5f07887edd67889b5ef788cc2b5788db0ad,
  0x788ecbe97891b1ae7893edd47897cdeb7898b5e2789aedd5789bedd3789cedd7,
  0x789fb5fa78a1edd878a3edd978a5eddc78a7b1cc78b0c5f678b1bcee78b2edda,
  0x78b3ccbc78b4b2ea78b9eddb78bec4eb78c1b4c578c5b0f578c9eddf78cac0da,
  0x78cbb4e878d0c5cd78d4eddd78d5bfc478d9edde78e8c4a578ecede078f2ede1],
  [0x78f4ede378f7c1d778fabbc77901bdb87905ede27913ede4791eede67924ede5,
  0x7934ede7793acabe793becea793cc0f1793ec9e77940eceb7941c6ee7946ecec,
  0x7948c6ed7949eced7953ecf07956d7e67957ecf3795aecf1795becee795cecef,
  0x795dd7a3795ec9f1795fcbee7960ecf47962ecf27965cfe97967ecf67968c6b1,
  0x796dbcc0796fecf57977b5bb7978bbf6797aecf77980d9f77981bdfb7984c2bb,
  0x7985ecf8798aecf9798fb8a3799aecfa79a7ecfb79b3ecfc79b9d3ed79bad8ae,
  0x79bbc0eb79bdc7dd79bebacc79c0d0e379c1cbbd79c3cdba79c6b8d179c9b1fc,
  0x79cbc7ef79cdd6d679d1bfc679d2c3eb79d5eff579d8c3d879dfd7e279e3eff7,
  0x79e4b3d379e6c7d879e7d1ed79e9d6c879ebeff879edeff679efbbfd79f0b3c6,
  0x79f8bdd579fbd2c679fdbbe07a00cfa17a02effc7a03effb7a06eff97a0bb3cc,
  0x7a0dc9d47a0ecbb07a14effe7a17b0de7a1ad6c97a1eeffd7a20b3ed7a23f6d5,
  0x7a33cec87a37f0a27a39f0a17a3bb5be7a3cbcda7a3dbbfc7a3fb8e57a46c4c2,
  0x7a51f0a37a57cbeb7a70f0a67a74d1a87a76bebf7a77c7ee7a78f1b67a79f1b7,
  0x7a7abfd57a7fb4a97a80f1b87a81cdbb7a83c7d47a84d5ad7a86f1b97a88f1ba,
  0x7a8dc7cf7a91d2a47a92d6cf7a95f1bb7a96bdd17a97b4b07a98bebd7a9cb4dc,
  0x7a9dced17a9fbfdf7aa0f1bd7aa5bffa7aa6f1bc7aa8f1bf7aacf1be7aadf1c0,
  0x7ab3f1c17abfc1fe7acbc1a27ad6cafa7ad9d5be7adebeba7adfbeb97ae0d5c2,
  0x7ae3bfa27ae5cdaf7ae6f1b57aedbddf7aefb6cb7af9d6f17afaf3c37afdf3c4,
  0x7affb8cd7b03f3c67b04f3c77b06b0ca7b08f3c57b0af3c97b0bcbf17b0ff3cb,
  0x7b11d0a67b14b1ca7b15f3c87b19f3cf7b1bb5d17b1ef3d77b20f3d27b24f3d4,
  0x7b25f3d37b26b7fb7b28b1bf7b2af3ce7b2bf3ca7b2cb5da7b2ef3d07b31f3d1,
  0x7b33f3d57b38f3cd7b3abce37b3cc1fd7b3ef3d67b45f3da7b47f3cc7b49b5c8,
  0x7b4bbdee7b4cf3dc7b4fb7a47b50bff07b51d6fe7b52cdb27b54b4f07b56b2df,
  0x7b58f3d87b5af3d97b5bc9b87b5df3dd7b60f3de7b62f3e17b6ef3df7b71f3e3,
  0x7b72f3e27b75f3db7b77bfea7b79b3ef7b7bf3e07b7ec7a97b80bcf27b85f3eb,
  0x7b8db9bf7b90f3e47b94b2ad7b95bbfe7b97cbe37b9cf3ed7b9df3e97ba1b9dc,
  0x7ba2f3ee7ba6f3e57ba7f3e67ba8f3ea7ba9c2e17baaf3ec7babf3ef7bacf3e8,
  0x7badbcfd7bb1cfe47bb4f3f07bb8f3e77bc1f3f27bc6d7ad7bc7c6aa7bccf3f3,
  0x7bd1f3f17bd3c2a87bd9b8dd7bdaf3f57bddf3f47be1b4db7be5f3f67be6f3f7,
  0x7beaf3f87beec0ba7bf1c0e97bf7c5f17bfcf3fb7bfef3fa7c07b4d87c0bf3fe,
  0x7c0cf3f97c0ff3fc7c16f3fd7c1ff4a17c26f4a37c27bbc97c2af4a27c38f4a4],
  [0x7c3fb2be7c40f4a67c41f4a57c4dbcae7c73c3d77c74d9e17c7bc0e07c7cf4cc,
  0x7c7dd7d17c89b7db7c91f4ce7c92c1a37c95c6c97c97b4d67c98d5b37c9cf4d0,
  0x7c9df4cf7c9ef4d17c9fcbda7ca2f4d27ca4d4c17ca5d6e07caab7e07caec1b8,
  0x7cb1c1bb7cb2f4d37cb3beac7cb9b4e27cbcf4d47cbdf4d57cbebeab7cc1f4d6,
  0x7cc5f4db7cc7f4d77cc8f4da7ccabafd7cccf4d87ccdf4d97cd5b8e27cd6ccc7,
  0x7cd7f4dc7cd9b2da7cdcc3d37cdfd4e37ce0bfb77ce8f4dd7cefc5b47cf8f4e9,
  0x7cfbcfb57d0acec97d20cbd87d22cbf77d27bdf47d2bd7cf7d2fc0db7d6ed0f5,
  0x7d77f4ea7da6f4eb7daef4ec7e3bf7e37e41b7b17e47f4ed7e82d7eb7e9bf4ee,
  0x7e9fe6f97ea0bec07ea1e6fa7ea2baec7ea3e6fb7ea4cfcb7ea5e6fc7ea6d4bc,
  0x7ea7bcb67ea8e6fd7ea9e6fe7eaabccd7eabc8d27eacceb37eade7a17eafb4bf,
  0x7eb0e7a27eb1c9b47eb2b8d97eb3c4c97eb5d7dd7eb6c2da7eb7b7d77eb8d6bd,
  0x7eb9cec67ebab7c47ebdc5a67ebee7a37ebfcfdf7ec0e7a47ec1e7a57ec2e7a6,
  0x7ec3c1b77ec4d7e97ec5c9f07ec6cfb87ec7d6af7ec8d6d57ec9e7a77ecab0ed,
  0x7ecbe7a87ecce7a97ecdc9dc7eced2ef7ecfbead7ed0e7aa7ed1b0f37ed2c8de,
  0x7ed3bde17ed4e7ab7ed5c8c67ed7e7ac7ed8bbe67ed9b8f87edad1a47edbe7ad,
  0x7edcc2e77eddbef87edebdca7edfcdb37ee0e7ae7ee1e7af7ee2beee7ee3d0e5,
  0x7ee5cbe77ee6ccd07ee7bccc7ee8e7b07ee9bca87eead0f77eebe7b17eedd0f8,
  0x7eeee7b27eefe7b37ef0b4c27ef1e7b47ef2e7b57ef3c9fe7ef4ceac7ef5c3e0,
  0x7ef6e7b77ef7b1c17ef8b3f17efae7b87efbe7b97efcd7db7efdd5c07efee7ba,
  0x7effc2cc7f00d7ba7f01e7bb7f02e7bc7f03e7bd7f04bcea7f05c3e57f06c0c2,
  0x7f07e7be7f08e7bf7f09bca97f0be7c07f0ce7c17f0de7b67f0eb6d07f0fe7c2,
  0x7f11e7c37f12e7c47f13bbba7f14b5de7f15c2c67f16b1e07f17e7c57f18d4b5,
  0x7f19e7c67f1ab8bf7f1be7c87f1ce7c77f1db7ec7f1fe7c97f20b2f87f21e7ca,
  0x7f22e7cb7f23e7cc7f24e7cd7f25e7ce7f26e7cf7f27e7d07f28d3a77f29cbf5,
  0x7f2ae7d17f2be7d27f2ce7d37f2de7d47f2ec9c97f2fe7d57f30e7d67f31e7d7,
  0x7f32e7d87f33e7d97f34bdc97f35e7da7f36f3be7f38b8d77f3ac8b17f42f3bf,
  0x7f44f3c07f45f3c17f50b9de7f51cdf87f54d8e87f55bab17f57c2de7f58eeb7,
  0x7f5ab7a37f5feeb97f61eeb87f62b0d57f68eebb7f69d5d67f6ad7ef7f6ed6c3,
  0x7f71eebd7f72caf07f74eebc7f79eebe7f7eeec07f81eebf7f8ad1f27f8cc7bc,
  0x7f8ec3c07f94b8e17f9ac1e77f9df4c67f9ed0df7f9ff4c77fa1cfdb7fa4c8ba,
  0x7fa7f4c87faff4c97fb0f4ca7fb2f4cb7fb8d9fa7fb9b8fe7fbce5f17fbdd3f0],
  [0x7fbff4e07fc1cecc7fc5b3e17fcaf1b47fccd2ee7fcef4e17fd4cfe87fd5f4e2,
  0x7fd8c7cc7fdfb5d47fe0b4e47fe1f4e47fe5f4e37fe6f4e57fe9f4e67feef4e7,
  0x7ff0bab27ff1b0bf7ff3f4e87ffbb7ad7ffcd2ed8000d2ab8001c0cf8003bfbc,
  0x8004eba38005d5df8006eac8800bf1f3800cb6f8800dcba38010c4cd8012f1e7,
  0x8014f1e88015b8fb8016f1e98017bac48018d4c58019b0d2801cf1ea8020f1eb,
  0x8022f1ec8025f1ed8026f1ee8027f1ef8028f1f18029f1f0802ac5d58031f1f2,
  0x8033b6fa8035f1f48036d2ae8037dec78038cbca803bb3dc803db5a2803fb9a2,
  0x8042c4f48043f1f58046f1f6804ac1c4804bc1fb804cd6b0804df1f78052f1f8,
  0x8054c1aa8058c6b8805abedb8069f1f9806ab4cf8071f1fa807fedb28080edb1,
  0x8083cbe08084d2de8086cbc18087d5d88089c8e2808bc0df808cbca18093ebc1,
  0x8096d0a48098d6e2809ab6c7809bb8d8809cebc0809db8ce809febbf80a0b3a6,
  0x80a1b9c980a2d6ab80a4b7f480a5b7ca80a9bce780aab7be80abebc680adebc7,
  0x80aeb0b980afbfcf80b1ebc580b2d3fd80b4ebc880b7ebc980bab7ce80bcebc2,
  0x80bdebc480bec9f680bfd6d780c0d5cd80c1d0b280c2ebcf80c3ceb880c4ebd0,
  0x80c6b5a880ccb1b380cdebd280cecca580d6c5d680d7ebd380d9ebd180dac5df,
  0x80dbebce80dccaa480ddebd580deb0fb80e1bafa80e4d8b780e5f1e380e7ebca,
  0x80e8ebcb80e9ebcc80eaebcd80ebebd680ece6c080edebd980efbfe880f0d2c8,
  0x80f1ebd780f2ebdc80f3b8ec80f4ebd880f6bdba80f8d0d880fab0b780fcebdd,
  0x80fdc4dc8102d6ac8106b4e08109c2f6810abcb9810debda810eebdb810fd4e0,
  0x8110c6ea8111c4d48112ebdf8113c5a78114d9f58116b2b18118ebe4811abdc5,
  0x811eebe2812cebe3812fb8ac8131cdd18132ebe58136ebe18138c1b3813ec6a2,
  0x8146ccf38148ebe6814ac0b0814bd2b8814cebe78150b8af8151b8ad8153ebe8,
  0x8154c7bb8155cdf38159ebea815aebeb8160ebed8165d0c88167ebf28169ebee,
  0x816debf1816ec8f98170d1fc8171ebec8174ebe98179b8b9817acfd9817bc4e5,
  0x817cebef817debf0817eccda817fcdc88180b0f28182ebf68188ebf5818ab2b2,
  0x818fb8e08191ebf78198b1ec819bccc5819cc4a4819dcfa581a3ebf981a6eca2,
  0x81a8c5f281aaebfa81b3c9c581bae2df81bbebfe81c0cdce81c1eca181c2b1db,
  0x81c3d3b781c6d2dc81caebfd81ccebfb81e3b3bc81e7eab081ead7d481ecf4ab,
  0x81edb3f481f3d6c181f4d6c281fbd5e981fcbeca81fef4a78200d2a88201f4a8,
  0x8202f4a98204f4aa8205becb8206d3df820cc9e0820dc9e18210f3c28212cae6,
  0x8214ccf2821be2b6821ccbb4821ecee8821fd6db8221f4ad8222f4ae8223f4af],
  [0x8228f4b2822ababd822bf4b3822cb0e3822df4b0822ff4b18230bda28231b2d5,
  0x8233f4b68234f4b78235b6e68236b2b08237cfcf8238f4b48239b4ac823bf4b5,
  0x823ef4b88244f4b98247cda78249f4ba824bf4bb824ff4bc8258cbd2825af4bd,
  0x825ff4be8268f4bf826ef4de826fc1bc8270bce88272c9ab8273d1de8274e5f5,
  0x8279dcb3827ad2d5827ddcb4827eb0ac827fdcb58282bdda8284dcb98288d8c2,
  0x828adcb7828bd3f3828dc9d6828edcba828fdcb68291dcbb8292c3a28297dcbc,
  0x8298dcc58299dcbd829ccedf829dd6a5829fdccf82a1dccd82a4dcd282a5bde6,
  0x82a6c2ab82a8dcb882a9dccb82aadcce82abdcbe82acb7d282adb0c582aedcc7,
  0x82afd0be82b0dcc182b1bba882b3b7bc82b4dccc82b7dcc682b8dcbf82b9c7db,
  0x82bdd1bf82bedcc082c1dcca82c4dcd082c7cead82c8dcc282cadcc382cbdcc8,
  0x82ccdcc982cdb2d482cedcd182cfcbd582d1d4b782d2dcdb82d3dcdf82d4cca6,
  0x82d5dce682d7c3e782d8dcdc82dbbfc182dcdcd982deb0fa82dfb9b682e0dce5,
  0x82e1dcd382e3dcc482e4dcd682e5c8f482e6bfe082ebc9bb82efb1bd82f1d3a2,
  0x82f4dcda82f7dcd582f9c6bb82fbdcde8301d7c28302c3af8303b7b68304c7d1,
  0x8305c3a98306dce28307dcd88308dceb8309dcd4830cdcdd830ebea5830fdcd7,
  0x8311dce08314dce38315dce48317dcf8831adce1831bdda2831cdce78327bceb,
  0x8328b4c4832bc3a3832cb2e7832ddcfa832fdcf28331dcef8333dcfc8334dcee,
  0x8335d2f08336b2e88338c8d78339c8e3833adcfb833cdced8340dcf78343dcf5,
  0x8346bea38347dcf48349b2dd834fdcf38350bcf68351dce88352bbc48354c0f3,
  0x835abcd4835bdce9835cdcea835edcf1835fdcf68360dcf98361b5b48363c8d9,
  0x8364bbe78365dcfe8366dcfd8367d3ab8368dda18369dda3836adda5836bd2f1,
  0x836cdda4836ddda6836edda7836fd2a98377bac98378dda9837bddb6837cddb1,
  0x837dddb48385ddb08386c6ce8389c0f2838ec9af8392dcec8393ddae8398ddb7,
  0x839bdcf0839cddaf839eddb883a0ddac83a8ddb983a9ddb383aaddad83abc4aa,
  0x83b0dda883b1c0b383b2c1ab83b3ddaa83b4ddab83b6ddb283b7bbf183b8ddb5,
  0x83b9d3a883baddba83bcddbb83bdc3a783c0ddd283c1ddbc83c5ddd183c7b9bd,
  0x83cabed583ccbefa83cfbaca83d4ddca83d6ddc583d8ddbf83dcb2cb83ddddc3,
  0x83dfddcb83e0b2a483e1ddd583e5ddbe83e9c6d083eaddd083f0ddd483f1c1e2,
  0x83f2b7c683f8ddce83f9ddcf83fdddc48401ddbd8403ddcd8404ccd18406ddc9,
  0x840bddc2840cc3c8840dc6bc840eceae840fddcc8411ddc88418ddc1841cddc6,
  0x841dc2dc8424d3a98425d3aa8426ddd38427cff48428c8f88431dde68438ddc7],
  [0x843cdde0843dc2e48446dde18451ddd78457d6f88459ddd9845addd8845bb8f0,
  0x845cddd68461c6cf8463b6ad8469dde2846bbaf9846cd4e1846ddde78471b4d0,
  0x8473ddda8475bffb8476dde38478dddf847adddd8482b5d98487dddb8488dddc,
  0x8489ddde848bbdaf848cdde4848edde58497ddf58499c3c9849ccbe284a1ddf2,
  0x84afd8e184b2c6d184b4ddf484b8d5f484b9ddf384baddf084bdddec84bfddef,
  0x84c1dde884c4d0ee84c9c8d884caddee84cddde984d0ddea84d1cbf284d3dded,
  0x84d6b1cd84ddc0b684dfbcbb84e0ddf184e3ddf784e5ddf684e6ddeb84ecc5ee,
  0x84f0ddfb84fcdea484ffdea3850cddf88511c3ef8513c2fb8517d5e1851aceb5,
  0x851fddfd8521b2cc852bc4e8852ccadf8537c7be8538ddfa8539ddfc853addfe,
  0x853bdea2853cb0aa853db1ce8543deac8548dea68549bdb6854ac8ef8556dea1,
  0x8559dea5855edea98564dea88568dea78572dead8574d4cc8579deb3857adeaa,
  0x857bdeae857ec0d98584b1a18585deb68587deb1858fdeb2859bd1a6859cdeb5,
  0x85a4deaf85a8deb085aad0bd85aedeb485afcaed85b0deb985b7deb885b9deb7,
  0x85c1debb85c9bde585cfb2d885d0c3ea85d3deba85d5c5ba85dcdebc85e4ccd9,
  0x85e9b7aa85fbd4e585ffdebd8605debf8611c4a28616dec18627debe8629dec0,
  0x8638d5ba863cdec2864df2ae864ebba2864fc2b28650c5b08651c2c78654f2af,
  0x865ad0e9865ed3dd8662ebbd866bb3e6866cf2b0866ef2b18671caad8679bae7,
  0x867af2b3867bf2b5867cf2b4867dcbe4867ecfba867ff2b28680cab48681d2cf,
  0x8682c2ec868acec3868bf2b8868cb0f6868df2b78693f2be8695b2cf869cd1c1,
  0x869df2ba86a3f2bc86a4d4e986a7f2bb86a8f2b686a9f2bf86aaf2bd86acf2b9,
  0x86aff2c786b0f2c486b1f2c686b4f2ca86b5f2c286b6f2c086baf2c586c0d6fb,
  0x86c4f2c186c6c7f986c7c9df86c9f2c886cab9c686cbb5b086cef2c386cff2c9,
  0x86d0f2d086d1f2d686d4bbd786d8f2d586d9cddc86dbd6eb86def2d286dff2d4,
  0x86e4b8f286e9f2cb86edf2ce86eec2f986f0d5dd86f1f2cc86f2f2cd86f3f2cf,
  0x86f4f2d386f8f2d986f9d3bc86feb6ea8700caf18702b7e48703f2d78707f2d8,
  0x8708f2da8709f2dd870af2db870df2dc8712d1d18713f2d18715cdc98717cecf,
  0x8718d6a9871af2e3871cc3db871ef2e08721c0af8722f2ec8723f2de8725f2e1,
  0x8729f2e8872ef2e28731f2e78734f2e68737f2e9873bf2df873ef2e4873ff2ea,
  0x8747d3ac8748f2e58749b2f5874cf2f2874ed0ab8753f2f58757bbc88759f2f9,
  0x8760f2f08763f2f68764f2f88765f2fa876ef2f38770f2f18774bafb8776b5fb,
  0x877bf2ef877cf2f7877df2ed877ef2ee8782f2eb8783f3a68785f3a38788f3a2],
  [0x878bf2f4878dc8da8793f2fb8797f3a5879fc3f887a8f2fd87abf3a787acf3a9,
  0x87adf3a487aff2fc87b3f3ab87b5f3aa87bac2dd87bdf3ae87c0f3b087c6f3a1,
  0x87caf3b187cbf3ac87d1f3af87d2f2fe87d3f3ad87dbf3b287e0f3b487e5f3a8,
  0x87eaf3b387eef3b587f9d0b787fef3b88803d9f9880af3b98813f3b78815c8e4,
  0x8816f3b6881bf3ba8821f3bb8822b4c08832eec38839f3bc883cf3bd8840d1aa,
  0x8844f4ac8845d0c6884cd0d0884dd1dc8854cfce8857bdd68859d1c38861bae2,
  0x8862e1e98863d2c28864f1c28865b2b98868b1ed8869f1c3886bc9c0886cb3c4,
  0x886ed9f28870cba58872f1c48877d6d4887df1c5887ef4c0887ff1c68881d4ac,
  0x8882f1c78884b0c08885f4c18888f4c2888bb4fc888dc5db8892ccbb8896d0e4,
  0x889ccde088a2f1c888a4d9f388abb1bb88adcfae88b1b8a488b7f1ca88bcf1cb,
  0x88c1b2c388c2c1d188c5d7b088c6f1c988c9f1cc88cef1ce88d2d9f688d4d2e1,
  0x88d5d4a388d8f4c388d9c8b988dff4c488e2f1cd88e3f1cf88e4bfe388e5f1d0,
  0x88e8f1d488f0f1d688f1f1d188f3c9d188f4c5e188f8c2e388f9b9fc88fcf1d3,
  0x88fef1d58902b9d3890af1db8910bad68912b0fd8913f1d98919f1d8891af1d2,
  0x891bf1da8921f1d78925c8ec892acdca892bf1dd8930e5bd8934f1dc8936f1de,
  0x8941f1df8944cfe5895ef4c5895fbdf38966f1e0897bf1e1897fcef78981d2aa,
  0x8983f1fb8986b8b289c1bcfb89c2b9db89c4b9e689c5c3d989c6cad389c7eae8,
  0x89c8c0c089c9bef589caeae989cbeaea89cceaeb89ceeaec89cfeaed89d0eaee,
  0x89d1eaef89d2bdc789d6f5fb89daf5fd89dcf5fe89def5fc89e3bde289e5f6a1,
  0x89e6b4a589ebf6a289eff6a389f3ecb28a00d1d48a07d9ea8a3ef6a48a48eeba,
  0x8a79d5b28a89d3fe8a8accdc8a93cac48b07e5c08b26f6a58b66beaf8b6cc6a9,
  0x8ba0daa58ba1bcc68ba2b6a98ba3b8bc8ba4c8cf8ba5bca58ba6daa68ba7daa7,
  0x8ba8ccd68ba9c8c38baadaa88babc6fd8badd1b58baed2e98bafd1b68bb0bcc7,
  0x8bb2bdb28bb3bbe48bb4daa98bb5daaa8bb6d1c88bb7daab8bb8d0ed8bb9b6ef,
  0x8bbac2db8bbccbcf8bbdb7ed8bbec9e88bbfb7c38bc0bef78bc1d6a48bc2daac,
  0x8bc3daad8bc4c6c08bc5d7e78bc6cab68bc8d5a98bc9cbdf8bcad5ef8bcbdaae,
  0x8bccd6df8bcdb4ca8bcedab08bcfdaaf8bd1d2eb8bd2dab18bd3dab28bd4dab3,
  0x8bd5cad48bd6dab48bd7caab8bd8dab58bd9dab68bdab3cf8bdbd6ef8bdcdab7,
  0x8bddbbb08bdeb5ae8bdfdab88be0dab98be1b9ee8be2d1af8be3d2e88be4daba,
  0x8be5b8c38be6cfea8be7b2ef8be8dabb8be9dabc8bebbdeb8beccedc8bedd3ef,
  0x8beedabd8befcef38bf0dabe8bf1d3d58bf2bbe58bf3dabf8bf4cbb58bf5cbd0],
  [0x8bf6dac08bf7c7eb8bf8d6ee8bf9dac18bfac5b58bfbb6c18bfcdac28bfdb7cc,
  0x8bfebfce8bffdac38c00dac48c01cbad8c02dac58c03b5f78c04dac68c05c1c2,
  0x8c06d7bb8c07dac78c08ccb88c0ad2ea8c0bc4b18c0cdac88c0db5fd8c0ebbd1,
  0x8c0fdac98c10d0b38c11daca8c12dacb8c13cebd8c14dacc8c15dacd8c16dace,
  0x8c17b2f78c18dad18c19dacf8c1ad1e88c1bdad08c1cc3d58c1ddad28c1fdad3,
  0x8c20dad48c21dad58c22d0bb8c23d2a58c24b0f98c25dad68c26c7ab8c27dad7,
  0x8c28bdf78c29c3a18c2adad88c2bdad98c2cc3fd8c2dccb78c2edada8c2fdadb,
  0x8c30c0be8c31c6d78c32dadc8c33dadd8c34c7b48c35dade8c36dadf8c37b9c8,
  0x8c41bbed8c46b6b98c47f4f88c49f4f98c4ccde38c55f5b98c5aebe08c61cff3,
  0x8c62bbbf8c6abac08c6bd4a58c73e1d98c78f5f48c79b1aa8c7ab2f28c82f5f5,
  0x8c85f5f78c89bad18c8af5f68c8cc3b28c94f5f98c98f5f88d1db1b48d1ed5ea,
  0x8d1fb8ba8d21b9b18d22b2c68d23d4f08d24cfcd8d25b0dc8d26d5cb8d27bbf5,
  0x8d28d6ca8d29b7b78d2accb08d2bc6b68d2cb1e18d2db9ba8d2ed6fc8d2fb9e1,
  0x8d30b7a18d31bcfa8d32eada8d33eadb8d34ccf98d35b9f38d36eadc8d37b4fb,
  0x8d38c3b38d39b7d18d3abad88d3beadd8d3cd4f48d3deade8d3ebcd68d3fbbdf,
  0x8d40eadf8d41c1de8d42c2b88d43d4df8d44d7ca8d45eae08d46eae18d47eae4,
  0x8d48eae28d49eae38d4ac9de8d4bb8b38d4cb6c48d4deae58d4ecaea8d4fc9cd,
  0x8d50b4cd8d53e2d98d54c5e28d55eae68d56c0b58d58d7b88d59eae78d5ad7ac,
  0x8d5bc8fc8d5cd8d38d5dd8cd8d5ed4de8d60d4f98d61c9c48d62d3ae8d63b8d3,
  0x8d64b3e08d66c9e28d67f4f68d6bbad58d6df4f78d70d7df8d73f4f18d74b8b0,
  0x8d75d5d48d76b8cf8d77c6f08d81b3c38d84f4f28d85b3ac8d8ad4bd8d8bc7f7,
  0x8d91f4f48d94f4f38d9fcccb8da3c8a48db1f4f58db3d7e38db4c5bf8db5f5c0,
  0x8db8f5bb8dbaf5c38dbcf5c28dbed6ba8dbff5c18dc3d4be8dc4f5c48dc6f5cc,
  0x8dcbb0cf8dccb5f88dcef5c98dcff5ca8dd1c5dc8dd6f5c58dd7f5c68ddaf5c7,
  0x8ddbf5cb8dddbee08ddef5c88ddfb8fa8de3f5d08de4f5d38de8bfe78deab9f2,
  0x8debf5bc8decf5cd8defc2b78df3ccf88df5bcf98df7f5ce8df8f5cf8df9f5d1,
  0x8dfab6e58dfbf5d28dfdf5d58e05f5bd8e09f5d48e0ad3bb8e0cb3ec8e0fcca4,
  0x8e14f5d68e1df5d78e1ebee18e1ff5d88e22ccdf8e23f5db8e29b2c88e2ad7d9,
  0x8e2cf5d98e2ef5da8e2ff5dc8e31f5e28e35f5e08e39f5df8e3af5dd8e3df5e1,
  0x8e40f5de8e41f5e48e42f5e58e44cce38e47e5bf8e48b5b88e49f5e38e4af5e8,
  0x8e4bcca38e51f5e68e52f5e78e59f5be8e66b1c48e69f5bf8e6cb5c58e6db2e4],
  [0x8e6ff5ec8e70f5e98e72b6d78e74f5ed8e76f5ea8e7cf5eb8e7fb4da8e81d4ea,
  0x8e85f5ee8e87b3f98e8ff5ef8e90f5f18e94f5f08e9cf5f28e9ef5f38eabc9ed,
  0x8eacb9aa8eafc7fb8eb2b6e38ebaccc98eceeaa68f66b3b58f67d4fe8f68b9ec,
  0x8f69d0f98f6be9ed8f6cd7aa8f6de9ee8f6ec2d68f6fc8ed8f70bae48f71e9ef,
  0x8f72e9f08f73e9f18f74d6e18f75e9f28f76e9f38f77e9f58f78e9f48f79e9f6,
  0x8f7ae9f78f7bc7e18f7ce9f88f7dd4d88f7ee9f98f7fbdce8f81e9fa8f82e9fb,
  0x8f83bdcf8f84e9fc8f85b8a88f86c1be8f87e9fd8f88b1b28f89bbd48f8ab9f5,
  0x8f8be9fe8f8deaa18f8eeaa28f8feaa38f90b7f88f91bcad8f93cae48f94e0ce,
  0x8f95d4af8f96cfbd8f97d5b78f98eaa48f99d5de8f9aeaa58f9bd0c18f9cb9bc,
  0x8f9eb4c78f9fb1d98fa3c0b18fa8b1e68fa9b1e78fabb1e88fb0b3bd8fb1c8e8,
  0x8fb6e5c18fb9b1df8fbdc1c98fbeb4ef8fc1c7a88fc2d3d88fc4c6f98fc5d1b8,
  0x8fc7b9fd8fc8c2f58fced3ad8fd0d4cb8fd1bdfc8fd3e5c28fd4b7b58fd5e5c3,
  0x8fd8bbb98fd9d5e28fdbbdf88fdcd4b68fddcea58fdec1ac8fdfb3d98fe2ccf6,
  0x8fe4e5c68fe5e5c48fe6e5c88fe8e5ca8fe9e5c78feab5cf8febc6c88fedb5fc,
  0x8feee5c58ff0caf68ff3e5c98ff7c3d48ff8b1c58ff9bca38ffdd7b79000cdcb,
  0x9001cbcd9002caca9003ccd39004e5cc9005e5cb9006c4e69009d1a1900ad1b7,
  0x900be5cd900de5d0900fcdb89010d6f09011e5cf9012b5dd9014cdbe9016e5d1,
  0x9017b6ba901acda8901bb9e4901dcac5901eb3d1901fcbd99020d4ec9021e5d2,
  0x9022b7ea9026e5ce902de5d5902eb4fe902fe5d69035e5d39036e5d49038d2dd,
  0x903bc2df903cb1c6903ed3e29041b6dd9042cbec9044e5d79047d3f6904db1e9,
  0x904fb6f49050e5da9051e5d89052e5d99053b5c09057d2c59058e5dc905be5de,
  0x9062e5dd9063c7b29065d2a39068e5db906dd4e2906ed5da9074e5e09075d7f1,
  0x907de5e1907fb1dc9080d1fb9082e5e29083e5e49088e5e3908be5e59091d2d8,
  0x9093b5cb9095e7df9097daf59099daf8909bdaf6909ddaf790a1dafa90a2d0cf,
  0x90a3c4c790a6b0ee90aad0b090acdaf990aed3ca90afbaaa90b0dba290b1c7f1,
  0x90b3dafc90b4dafb90b5c9db90b6dafd90b8dba190b9d7de90badafe90bbc1da,
  0x90bedba590c1d3f490c4dba790c5dba490c7dba890cabdbc90cec0c990cfdba3,
  0x90d0dba690d1d6a390d3dba990d7dbad90dbdbae90dcdbac90ddbac290e1bfa4,
  0x90e2dbab90e6dbaa90e7d4c790e8b2bf90ebdbaf90edb9f990efdbb090f4b3bb,
  0x90f8b5a690fdb6bc90fedbb19102b6f59104dbb29119b1c9911edbb49122dbb3,
  0x9123dbb5912fdbb79131dbb69139dbb89143dbb99146dbba9149d3cf914af4fa],
  [0x914bc7f5914cd7c3914dc5e4914ef4fc914ff4fd9150f4fb9152bec69157d0ef,
  0x915ab7d3915dd4cd915eccaa9161f5a29162f5a19163baa89164f4fe9165cbd6,
  0x9169f5a4916ac0d2916cb3ea916ecdaa916ff5a59170f5a39171bdb49172f5a8,
  0x9174f5a99175bdcd9176c3b89177bfe19178cbe19179f5aa917df5a6917ef5a7,
  0x917fc4f09185f5ac9187b4bc9189d7ed918bb4d7918cf5ab918df5ae9190f5ad,
  0x9191f5af9192d0d1919ac3d1919bc8a991a2f5b091a3f5b191aaf5b291adf5b3,
  0x91aef5b491aff5b591b4f5b791b5f5b691baf5b891c7b2c991c9d3d491cacacd,
  0x91ccc0ef91cdd6d891ced2b091cfc1bf91d1bdf091dcb8aa9274bcf8928ef6c6,
  0x92aef6c792c8f6c8933ef6c9936af6ca938ff6cc93caf6cb93d6f7e9943ef6cd,
  0x946bf6ce9485eec49486eec59487eec69488d5eb9489b6a4948aeec8948beec7,
  0x948ceec9948deeca948ec7a5948feecb9490eecc9492b7b09493b5f69494eecd,
  0x9495eecf9497eece9499b8c6949aeed0949beed1949ceed2949db6db949eb3ae,
  0x949fd6d394a0c4c694a1b1b594a2b8d694a3eed394a4eed494a5d4bf94a6c7d5,
  0x94a7befb94a8ced994a9b9b394aaeed694abeed594aceed894adeed794aec5a5,
  0x94afeed994b0eeda94b1c7ae94b2eedb94b3c7af94b4eedc94b5b2a794b6eedd,
  0x94b7eede94b8eedf94b9eee094baeee194bbd7ea94bceee294bdeee394bebcd8,
  0x94bfeee494c0d3cb94c1ccfa94c2b2ac94c3c1e594c4eee594c5c7a694c6c3ad,
  0x94c8eee694c9eee794caeee894cbeee994cceeea94cdeeeb94ceeeec94d0eeed,
  0x94d1eeee94d2eeef94d5eef094d6eef194d7eef294d8eef494d9eef394dbeef5,
  0x94dccdad94ddc2c194deeef694dfeef794e0eef894e1d5a194e2eef994e3cfb3,
  0x94e4eefa94e5eefb94e7eefc94e8eefd94e9efa194eaeefe94ebefa294ecb8f5,
  0x94edc3fa94eeefa394efefa494f0bdc294f1d2bf94f2b2f994f3efa594f4efa6,
  0x94f5efa794f6d2f894f7efa894f8d6fd94f9efa994fac6cc94fcefaa94fdefab,
  0x94fec1b494ffefac9500cffa9501cbf89502efae9503efad9504b3fa9505b9f8,
  0x9506efaf9507efb09508d0e29509efb1950aefb2950bb7e6950cd0bf950defb3,
  0x950eefb4950fefb59510c8f19511cce09512efb69513efb79514efb89515efb9,
  0x9516efba9517d5e09518efbb9519b4ed951ac3aa951befbc951defbd951eefbe,
  0x951fefbf9521cefd9522efc09523c2e09524b4b89525d7b69526bdf59528cfc7,
  0x9529efc3952aefc1952befc2952cefc4952db6a7952ebcfc952fbee29530c3cc,
  0x9531efc59532efc69534efc79535efcf9536efc89537efc99538efca9539c7c2,
  0x953aeff1953bb6cd953cefcb953eefcc953fefcd9540b6c69541c3be9542efce],
  [0x9544efd09545efd19546efd29547d5f29549efd3954ac4f7954cefd4954dc4f8,
  0x954eefd5954fefd69550b8e49551b0f79552efd79553efd89554efd99556efda,
  0x9557efdb9558efdc9559efdd955befde955cbeb5955defe1955eefdf955fefe0,
  0x9561efe29562efe39563c1cd9564efe49565efe59566efe69567efe79568efe8,
  0x9569efe9956aefea956befeb956cefec956dc0d8956fefed9570c1ad9571efee,
  0x9572efef9573eff09576cfe2957fb3a495e8c3c595e9e3c595eac9c195ebe3c6,
  0x95edb1d595eececa95efb4b395f0c8f295f1e3c795f2cfd095f3e3c895f4bce4,
  0x95f5e3c995f6e3ca95f7c3c695f8d5a295f9c4d695fab9eb95fbcec595fce3cb,
  0x95fdc3f695fee3cc9600b7a79601b8f39602bad29603e3cd9604e3ce9605d4c4,
  0x9606e3cf9608e3d09609d1cb960ae3d1960be3d2960ce3d3960de3d4960ed1d6,
  0x960fe3d59610b2fb9611c0bb9612e3d69614c0ab9615e3d79616e3d89617e3d9,
  0x9619e3da961ae3db961cb8b7961ddae2961fb6d39621dae49622dae3962adae6,
  0x962ec8ee9631dae59632b7c09633d1f49634d2f59635d5f39636bdd7963bd7e8,
  0x963cdae8963ddae7963fb0a29640cdd39642dae99644b8bd9645bcca9646c2bd,
  0x9647c2a49648b3c29649daea964bc2aa964cc4b0964dbdb59650cfde9654daeb,
  0x9655c9c2965bb1dd965fdaec9661b6b89662d4ba9664b3fd9667daed9668d4c9,
  0x9669cfd5966ac5e3966cdaee9672daef9674daf09675c1ea9676ccd59677cfdd,
  0x9685d3e79686c2a19688daf1968bcbe5968ddaf2968fcbe69690d2fe9694b8f4,
  0x9697daf39698b0af9699cfb6969cd5cf96a7cbed96b0daf496b3e3c496b6c1a5,
  0x96b9f6bf96bcf6c096bdf6c196bec4d196c0c8b896c1d1e396c4d0db96c5d1c5,
  0x96c6bcaf96c7b9cd96c9eff496ccb4c696cdd3ba96cef6c296cfb3fb96d2f6c3,
  0x96d5b5f196e0f6c596e8d3ea96e9f6a796ead1a996eff6a996f3f6a896f6c1e3,
  0x96f7c0d796f9b1a296feceed9700d0e89701f6ab9704cff69706f6aa9707d5f0,
  0x9708f6ac9709c3b9970dbbf4970ef6ae970ff6ad9713c4de9716c1d8971ccbaa,
  0x971ecfbc972af6af972df6b09730f6b19732c2b69738b0d49739c5f9973ef6b2,
  0x9752c7e09753f6a69756beb89759beb2975bb5e5975eb7c79760bfbf9761c3d2,
  0x9762c3e69765d8cc9769b8ef9773bdf99774d1a59776b0d0977cf7b09785f7b1,
  0x978bd0ac978db0b09791f7b29792f7b39794f7b49798c7ca97a0becf97a3f7b7,
  0x97abf7b697adb1de97aff7b597b2f7b897b4f7b997e6cea497e7c8cd97e9baab,
  0x97eae8b897ebe8b997ece8ba97edbec297f3d2f497f5d4cf97f6c9d89875d2b3,
  0x9876b6a59877c7ea9878f1fc9879cfee987acbb3987bd0eb987ce7ef987dcde7],
  [0x987eb9cb987fb6d99880f1fd9881b0e49882cbcc9883f1fe9884d4a49885c2ad,
  0x9886c1ec9887c6c49888beb19889f2a1988abcd5988cf2a2988df2a3988ff2a4,
  0x9890d2c39891c6b59893cdc79894f2a59896d3b19897bfc59898cce2989af2a6,
  0x989bf2a7989cd1d5989db6ee989ef2a8989ff2a998a0b5df98a1f2aa98a2f2ab,
  0x98a4b2fc98a5f2ac98a6f2ad98a7c8a798ceb7e798d1eca998d2ecaa98d3ecab,
  0x98d5ecac98d8c6ae98d9ecad98daecae98deb7c998dfcab398e7e2b898e8f7cf,
  0x990df7d09910b2cd992ef7d19954f7d39955f7d29963e2bb9965bca29967e2bc,
  0x9968e2bd9969e2be996ae2bf996be2c0996ce2c1996db7b9996ed2fb996fbda4,
  0x9970cace9971b1a59972cbc79974e2c29975b6fc9976c8c49977e2c3997abdc8,
  0x997cb1fd997de2c4997fb6f69980e2c59981c4d99984e2c69985cfda9986b9dd,
  0x9987e2c79988c0a1998ae2c8998bb2f6998de2c9998fc1f39990e2ca9991e2cb,
  0x9992c2f89993e2cc9994e2cd9995e2ce9996cad79997d8b89998d9e59999cfe3,
  0x99a5f0a599a8dcb09a6cc2ed9a6dd4a69a6ecdd49a6fd1b19a70b3db9a71c7fd,
  0x9a73b2b59a74c2bf9a75e6e09a76cabb9a77e6e19a78e6e29a79bed49a7ae6e3,
  0x9a7bd7a49a7ccdd59a7de6e59a7ebcdd9a7fe6e49a80e6e69a81e6e79a82c2ee,
  0x9a84bdbe9a85e6e89a86c2e69a87baa79a88e6e99a8ae6ea9a8bb3d29a8cd1e9,
  0x9a8fbfa59a90e6eb9a91c6ef9a92e6ec9a93e6ed9a96e6ee9a97c6ad9a98e6ef,
  0x9a9ac9a79a9be6f09a9ce6f19a9de6f29a9ee5b99a9fe6f39aa0e6f49aa1c2e2,
  0x9aa2e6f59aa3e6f69aa4d6e89aa5e6f79aa7e6f89aa8b9c79ab0f7bb9ab1f7ba,
  0x9ab6f7be9ab7f7bc9ab8baa19abaf7bf9abcf7c09ac0f7c29ac1f7c19ac2f7c4,
  0x9ac5f7c39acbf7c59accf7c69ad1f7c79ad3cbe89ad8b8df9adff7d49ae1f7d5,
  0x9ae6f7d69aebf7d89aedf7da9aeff7d79af9f7db9afbf7d99b03d7d79b08f7dc,
  0x9b0ff7dd9b13f7de9b1ff7df9b23f7e09b2fdbcb9b32d8aa9b3be5f79b3cb9ed,
  0x9b41bffd9b42bbea9b43f7c99b44c6c79b45f7c89b47f7ca9b48f7cc9b49f7cb,
  0x9b4df7cd9b4fceba9b51f7ce9b54c4a79c7cd3e39c7ff6cf9c81c2b39c82f6d0,
  0x9c85f6d19c86f6d29c87f6d39c88f6d49c8bf6d69c8db1ab9c8ef6d79c90f6d8,
  0x9c91f6d99c92f6da9c94f6db9c95f6dc9c9af6dd9c9bf6de9c9ccfca9c9ef6df,
  0x9c9ff6e09ca0f6e19ca1f6e29ca2f6e39ca3f6e49ca4c0f09ca5f6e59ca6f6e6,
  0x9ca7f6e79ca8f6e89ca9f6e99cabf6ea9cadf6eb9caef6ec9cb0f6ed9cb1f6ee,
  0x9cb2f6ef9cb3f6f09cb4f6f19cb5f6f29cb6f6f39cb7f6f49cb8bea89cbaf6f5,
  0x9cbbf6f69cbcf6f79cbdf6f89cc3c8fa9cc4f6f99cc5f6fa9cc6f6fb9cc7f6fc],
  [0x9ccaf6fd9ccbf6fe9cccf7a19ccdf7a29ccef7a39ccff7a49cd0f7a59cd3f7a6,
  0x9cd4f7a79cd5f7a89cd6b1ee9cd7f7a99cd8f7aa9cd9f7ab9cdcf7ac9cddf7ad,
  0x9cdec1db9cdff7ae9ce2f7af9e1fc4f19e20f0af9e21bca69e22f0b09e23c3f9,
  0x9e25c5b89e26d1bb9e28f0b19e29f0b29e2af0b39e2bf0b49e2cf0b59e2dd1bc,
  0x9e2fd1ec9e31f0b79e32f0b69e33d4a79e35cdd29e36f0b89e37f0ba9e38f0b9,
  0x9e39f0bb9e3af0bc9e3db8eb9e3ef0bd9e3fbae89e41f0be9e42f0bf9e43bee9,
  0x9e44f0c09e45b6ec9e46f0c19e47f0c29e48f0c39e49f0c49e4ac8b59e4bf0c5,
  0x9e4cf0c69e4ef0c79e4fc5f49e51f0c89e55f0c99e57f0ca9e58f7bd9e5af0cb,
  0x9e5bf0cc9e5cf0cd9e5ef0ce9e63f0cf9e64bad79e66f0d09e67f0d19e68f0d2,
  0x9e69f0d39e6af0d49e6bf0d59e6cf0d69e6df0d89e70d3a59e71f0d79e73f0d9,
  0x9e7ef5ba9e7fc2b99e82f7e49e87f7e59e88f7e69e8bf7e79e92f7e89e93c2b4,
  0x9e9df7ea9e9ff7eb9ea6c2f39eb4f4f09eb8f4ef9ebbc2e99ebdf7e19ebef7e2,
  0x9ec4bbc69ec9d9e49ecdcaf29ecec0e89ecff0a49ed1bada9ed4c7ad9ed8c4ac,
  0x9edbf7ec9edcf7ed9eddf7ee9edff7f09ee0f7ef9ee2f7f19ee5f7f49ee7f7f3,
  0x9ee9f7f29eeaf7f59eeff7f69ef9ede99efbedea9efcedeb9efef6bc9f0bf6bd,
  0x9f0df6be9f0eb6a69f10d8be9f13b9c49f17d8bb9f19dcb19f20caf39f22f7f7,
  0x9f2cf7f89f2ff7f99f37f7fb9f39f7fa9f3bb1c79f3df7fc9f3ef7fd9f44f7fe,
  0x9f50c6eb9f51ecb49f7fb3dd9f80f6b39f83f6b49f84c1e49f85f6b59f86f6b6,
  0x9f87f6b79f88f6b89f89f6b99f8af6ba9f8bc8a39f8cf6bb9f99c1fa9f9ab9a8,
  0x9f9bede89f9fb9ea9fa0d9dfff01a3a1ff02a3a2ff03a3a3ff04a1e7ff05a3a5,
  0xff06a3a6ff07a3a7ff08a3a8ff09a3a9ff0aa3aaff0ba3abff0ca3acff0da3ad,
  0xff0ea3aeff0fa3afff10a3b0ff11a3b1ff12a3b2ff13a3b3ff14a3b4ff15a3b5,
  0xff16a3b6ff17a3b7ff18a3b8ff19a3b9ff1aa3baff1ba3bbff1ca3bcff1da3bd,
  0xff1ea3beff1fa3bfff20a3c0ff21a3c1ff22a3c2ff23a3c3ff24a3c4ff25a3c5,
  0xff26a3c6ff27a3c7ff28a3c8ff29a3c9ff2aa3caff2ba3cbff2ca3ccff2da3cd,
  0xff2ea3ceff2fa3cfff30a3d0ff31a3d1ff32a3d2ff33a3d3ff34a3d4ff35a3d5,
  0xff36a3d6ff37a3d7ff38a3d8ff39a3d9ff3aa3daff3ba3dbff3ca3dcff3da3dd,
  0xff3ea3deff3fa3dfff40a3e0ff41a3e1ff42a3e2ff43a3e3ff44a3e4ff45a3e5,
  0xff46a3e6ff47a3e7ff48a3e8ff49a3e9ff4aa3eaff4ba3ebff4ca3ecff4da3ed,
  0xff4ea3eeff4fa3efff50a3f0ff51a3f1ff52a3f2ff53a3f3ff54a3f4ff55a3f5,
  0xff56a3f6ff57a3f7ff58a3f8ff59a3f9ff5aa3faff5ba3fbff5ca3fcff5da3fd],
  [0xff5ea1abffe0a1e9ffe1a1eaffe3a3feffe5a3a4000000000000000000000000]]⟩

end Cloudlibc.Locale.Gb2312
