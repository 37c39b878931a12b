import Docblock.Text.Case
import Docblock.Text.Composed
import Docblock.Text.Packed
import Docblock.Text.Ranges

/-!
# Mapped host names

A host name is brought into one form before it is looked at: capitals become small letters,
compatibility forms become plain characters, and invisible characters are dropped. Some characters
do not stand in any name. What is left is put into composed form.
-/

namespace Docblock.Net

open Text

/-- Characters that do not stand in any name. -/
def disallowed : List (Nat × Nat) := [
  (128, 159), (888, 889), (896, 899), (907, 907), (909, 909), (930, 930), (1216, 1216),
  (1328, 1328), (1367, 1368), (1419, 1420), (1424, 1424), (1480, 1487), (1515, 1518), (1525, 1541),
  (1564, 1564), (1757, 1757), (1806, 1807), (1867, 1868), (1970, 1983), (2043, 2044), (2094, 2095),
  (2111, 2111), (2140, 2141), (2143, 2143), (2155, 2159), (2191, 2199), (2274, 2274), (2436, 2436),
  (2445, 2446), (2449, 2450), (2473, 2473), (2481, 2481), (2483, 2485), (2490, 2491), (2501, 2502),
  (2505, 2506), (2511, 2518), (2520, 2523), (2526, 2526), (2532, 2533), (2559, 2560), (2564, 2564),
  (2571, 2574), (2577, 2578), (2601, 2601), (2609, 2609), (2612, 2612), (2615, 2615), (2618, 2619),
  (2621, 2621), (2627, 2630), (2633, 2634), (2638, 2640), (2642, 2648), (2653, 2653), (2655, 2661),
  (2679, 2688), (2692, 2692), (2702, 2702), (2706, 2706), (2729, 2729), (2737, 2737), (2740, 2740),
  (2746, 2747), (2758, 2758), (2762, 2762), (2766, 2767), (2769, 2783), (2788, 2789), (2802, 2808),
  (2816, 2816), (2820, 2820), (2829, 2830), (2833, 2834), (2857, 2857), (2865, 2865), (2868, 2868),
  (2874, 2875), (2885, 2886), (2889, 2890), (2894, 2900), (2904, 2907), (2910, 2910), (2916, 2917),
  (2936, 2945), (2948, 2948), (2955, 2957), (2961, 2961), (2966, 2968), (2971, 2971), (2973, 2973),
  (2976, 2978), (2981, 2983), (2987, 2989), (3002, 3005), (3011, 3013), (3017, 3017), (3022, 3023),
  (3025, 3030), (3032, 3045), (3067, 3071), (3085, 3085), (3089, 3089), (3113, 3113), (3130, 3131),
  (3141, 3141), (3145, 3145), (3150, 3156), (3159, 3159), (3163, 3164), (3166, 3167), (3172, 3173),
  (3184, 3190), (3213, 3213), (3217, 3217), (3241, 3241), (3252, 3252), (3258, 3259), (3269, 3269),
  (3273, 3273), (3278, 3284), (3287, 3292), (3295, 3295), (3300, 3301), (3312, 3312), (3316, 3327),
  (3341, 3341), (3345, 3345), (3397, 3397), (3401, 3401), (3408, 3411), (3428, 3429), (3456, 3456),
  (3460, 3460), (3479, 3481), (3506, 3506), (3516, 3516), (3518, 3519), (3527, 3529), (3531, 3534),
  (3541, 3541), (3543, 3543), (3552, 3557), (3568, 3569), (3573, 3584), (3643, 3646), (3676, 3712),
  (3715, 3715), (3717, 3717), (3723, 3723), (3748, 3748), (3750, 3750), (3774, 3775), (3781, 3781),
  (3783, 3783), (3791, 3791), (3802, 3803), (3808, 3839), (3912, 3912), (3949, 3952), (3992, 3992),
  (4029, 4029), (4045, 4045), (4059, 4095), (4256, 4294), (4296, 4300), (4302, 4303), (4447, 4448),
  (4681, 4681), (4686, 4687), (4695, 4695), (4697, 4697), (4702, 4703), (4745, 4745), (4750, 4751),
  (4785, 4785), (4790, 4791), (4799, 4799), (4801, 4801), (4806, 4807), (4823, 4823), (4881, 4881),
  (4886, 4887), (4955, 4956), (4989, 4991), (5018, 5023), (5110, 5111), (5118, 5119), (5760, 5760),
  (5789, 5791), (5881, 5887), (5910, 5918), (5943, 5951), (5972, 5983), (5997, 5997), (6001, 6001),
  (6004, 6015), (6068, 6069), (6110, 6111), (6122, 6127), (6138, 6143), (6150, 6150), (6158, 6158),
  (6170, 6175), (6265, 6271), (6315, 6319), (6390, 6399), (6431, 6431), (6444, 6447), (6460, 6463),
  (6465, 6467), (6510, 6511), (6517, 6527), (6572, 6575), (6602, 6607), (6619, 6621), (6684, 6685),
  (6751, 6751), (6781, 6782), (6794, 6799), (6810, 6815), (6830, 6831), (6863, 6911), (6989, 6991),
  (7039, 7039), (7156, 7163), (7224, 7226), (7242, 7244), (7305, 7311), (7355, 7356), (7368, 7375),
  (7419, 7423), (7958, 7959), (7966, 7967), (8006, 8007), (8014, 8015), (8024, 8024), (8026, 8026),
  (8028, 8028), (8030, 8030), (8062, 8063), (8117, 8117), (8133, 8133), (8148, 8149), (8156, 8156),
  (8176, 8177), (8181, 8181), (8191, 8191), (8206, 8207), (8228, 8230), (8232, 8238), (8289, 8291),
  (8293, 8303), (8306, 8307), (8335, 8335), (8349, 8351), (8385, 8399), (8433, 8447), (8498, 8498),
  (8579, 8579), (8588, 8591), (9255, 9279), (9291, 9311), (9352, 9371), (11124, 11125),
  (11158, 11158), (11508, 11512), (11558, 11558), (11560, 11564), (11566, 11567), (11624, 11630),
  (11633, 11646), (11671, 11679), (11687, 11687), (11695, 11695), (11703, 11703), (11711, 11711),
  (11719, 11719), (11727, 11727), (11735, 11735), (11743, 11743), (11870, 11903), (11930, 11930),
  (12020, 12031), (12246, 12287), (12352, 12352), (12439, 12440), (12544, 12548), (12592, 12592),
  (12644, 12644), (12687, 12687), (12772, 12783), (12831, 12831), (13250, 13250), (13255, 13255),
  (13272, 13272), (42125, 42127), (42183, 42191), (42540, 42559), (42744, 42751), (42955, 42959),
  (42962, 42962), (42964, 42964), (42970, 42993), (43053, 43055), (43066, 43071), (43128, 43135),
  (43206, 43213), (43226, 43231), (43348, 43358), (43389, 43391), (43470, 43470), (43482, 43485),
  (43519, 43519), (43575, 43583), (43598, 43599), (43610, 43611), (43715, 43738), (43767, 43776),
  (43783, 43784), (43791, 43792), (43799, 43807), (43815, 43815), (43823, 43823), (43884, 43887),
  (44014, 44015), (44026, 44031), (55204, 55215), (55239, 55242), (55292, 63743), (64110, 64111),
  (64218, 64255), (64263, 64274), (64280, 64284), (64311, 64311), (64317, 64317), (64319, 64319),
  (64322, 64322), (64325, 64325), (64451, 64466), (64912, 64913), (64968, 64974), (64976, 65007),
  (65042, 65042), (65049, 65055), (65072, 65072), (65106, 65107), (65127, 65127), (65132, 65135),
  (65141, 65141), (65277, 65278), (65280, 65280), (65440, 65440), (65471, 65473), (65480, 65481),
  (65488, 65489), (65496, 65497), (65501, 65503), (65511, 65511), (65519, 65535), (65548, 65548),
  (65575, 65575), (65595, 65595), (65598, 65598), (65614, 65615), (65630, 65663), (65787, 65791),
  (65795, 65798), (65844, 65846), (65935, 65935), (65949, 65951), (65953, 65999), (66046, 66175),
  (66205, 66207), (66257, 66271), (66300, 66303), (66340, 66348), (66379, 66383), (66427, 66431),
  (66462, 66462), (66500, 66503), (66518, 66559), (66718, 66719), (66730, 66735), (66772, 66775),
  (66812, 66815), (66856, 66863), (66916, 66926), (66939, 66939), (66955, 66955), (66963, 66963),
  (66966, 66966), (66978, 66978), (66994, 66994), (67002, 67002), (67005, 67071), (67383, 67391),
  (67414, 67423), (67432, 67455), (67462, 67462), (67505, 67505), (67515, 67583), (67590, 67591),
  (67593, 67593), (67638, 67638), (67641, 67643), (67645, 67646), (67670, 67670), (67743, 67750),
  (67760, 67807), (67827, 67827), (67830, 67834), (67868, 67870), (67898, 67902), (67904, 67967),
  (68024, 68027), (68048, 68049), (68100, 68100), (68103, 68107), (68116, 68116), (68120, 68120),
  (68150, 68151), (68155, 68158), (68169, 68175), (68185, 68191), (68256, 68287), (68327, 68330),
  (68343, 68351), (68406, 68408), (68438, 68439), (68467, 68471), (68498, 68504), (68509, 68520),
  (68528, 68607), (68681, 68735), (68787, 68799), (68851, 68857), (68904, 68911), (68922, 69215),
  (69247, 69247), (69290, 69290), (69294, 69295), (69298, 69372), (69416, 69423), (69466, 69487),
  (69514, 69551), (69580, 69599), (69623, 69631), (69710, 69713), (69750, 69758), (69821, 69821),
  (69827, 69839), (69865, 69871), (69882, 69887), (69941, 69941), (69960, 69967), (70007, 70015),
  (70112, 70112), (70133, 70143), (70162, 70162), (70210, 70271), (70279, 70279), (70281, 70281),
  (70286, 70286), (70302, 70302), (70314, 70319), (70379, 70383), (70394, 70399), (70404, 70404),
  (70413, 70414), (70417, 70418), (70441, 70441), (70449, 70449), (70452, 70452), (70458, 70458),
  (70469, 70470), (70473, 70474), (70478, 70479), (70481, 70486), (70488, 70492), (70500, 70501),
  (70509, 70511), (70517, 70655), (70748, 70748), (70754, 70783), (70856, 70863), (70874, 71039),
  (71094, 71095), (71134, 71167), (71237, 71247), (71258, 71263), (71277, 71295), (71354, 71359),
  (71370, 71423), (71451, 71452), (71468, 71471), (71495, 71679), (71740, 71839), (71923, 71934),
  (71943, 71944), (71946, 71947), (71956, 71956), (71959, 71959), (71990, 71990), (71993, 71994),
  (72007, 72015), (72026, 72095), (72104, 72105), (72152, 72153), (72165, 72191), (72264, 72271),
  (72355, 72367), (72441, 72447), (72458, 72703), (72713, 72713), (72759, 72759), (72774, 72783),
  (72813, 72815), (72848, 72849), (72872, 72872), (72887, 72959), (72967, 72967), (72970, 72970),
  (73015, 73017), (73019, 73019), (73022, 73022), (73032, 73039), (73050, 73055), (73062, 73062),
  (73065, 73065), (73103, 73103), (73106, 73106), (73113, 73119), (73130, 73439), (73465, 73471),
  (73489, 73489), (73531, 73533), (73562, 73647), (73649, 73663), (73714, 73726), (74650, 74751),
  (74863, 74863), (74869, 74879), (75076, 77711), (77811, 77823), (78896, 78911), (78934, 82943),
  (83527, 92159), (92729, 92735), (92767, 92767), (92778, 92781), (92863, 92863), (92874, 92879),
  (92910, 92911), (92918, 92927), (92998, 93007), (93018, 93018), (93026, 93026), (93048, 93052),
  (93072, 93759), (93851, 93951), (94027, 94030), (94088, 94094), (94112, 94175), (94181, 94191),
  (94194, 94207), (100344, 100351), (101590, 101631), (101641, 110575), (110580, 110580),
  (110588, 110588), (110591, 110591), (110883, 110897), (110899, 110927), (110931, 110932),
  (110934, 110947), (110952, 110959), (111356, 113663), (113771, 113775), (113789, 113791),
  (113801, 113807), (113818, 113819), (113828, 118527), (118574, 118575), (118599, 118607),
  (118724, 118783), (119030, 119039), (119079, 119080), (119155, 119162), (119275, 119295),
  (119366, 119487), (119508, 119519), (119540, 119551), (119639, 119647), (119673, 119807),
  (119893, 119893), (119965, 119965), (119968, 119969), (119971, 119972), (119975, 119976),
  (119981, 119981), (119994, 119994), (119996, 119996), (120004, 120004), (120070, 120070),
  (120075, 120076), (120085, 120085), (120093, 120093), (120122, 120122), (120127, 120127),
  (120133, 120133), (120135, 120137), (120145, 120145), (120486, 120487), (120780, 120781),
  (121484, 121498), (121504, 121504), (121520, 122623), (122655, 122660), (122667, 122879),
  (122887, 122887), (122905, 122906), (122914, 122914), (122917, 122917), (122923, 122927),
  (122990, 123022), (123024, 123135), (123181, 123183), (123198, 123199), (123210, 123213),
  (123216, 123535), (123567, 123583), (123642, 123646), (123648, 124111), (124154, 124895),
  (124903, 124903), (124908, 124908), (124911, 124911), (124927, 124927), (125125, 125126),
  (125143, 125183), (125260, 125263), (125274, 125277), (125280, 126064), (126133, 126208),
  (126270, 126463), (126468, 126468), (126496, 126496), (126499, 126499), (126501, 126502),
  (126504, 126504), (126515, 126515), (126520, 126520), (126522, 126522), (126524, 126529),
  (126531, 126534), (126536, 126536), (126538, 126538), (126540, 126540), (126544, 126544),
  (126547, 126547), (126549, 126550), (126552, 126552), (126554, 126554), (126556, 126556),
  (126558, 126558), (126560, 126560), (126563, 126563), (126565, 126566), (126571, 126571),
  (126579, 126579), (126584, 126584), (126589, 126589), (126591, 126591), (126602, 126602),
  (126620, 126624), (126628, 126628), (126634, 126634), (126652, 126703), (126706, 126975),
  (127020, 127023), (127124, 127135), (127151, 127152), (127168, 127168), (127184, 127184),
  (127222, 127232), (127406, 127461), (127491, 127503), (127548, 127551), (127561, 127567),
  (127570, 127583), (127590, 127743), (128728, 128731), (128749, 128751), (128765, 128767),
  (128887, 128890), (128986, 128991), (129004, 129007), (129009, 129023), (129036, 129039),
  (129096, 129103), (129114, 129119), (129160, 129167), (129198, 129199), (129202, 129279),
  (129620, 129631), (129646, 129647), (129661, 129663), (129673, 129679), (129726, 129726),
  (129734, 129741), (129756, 129759), (129769, 129775), (129785, 129791), (129939, 129939),
  (129995, 130031), (130042, 131071), (173792, 173823), (177978, 177983), (178206, 178207),
  (183970, 183983), (191457, 191471), (192094, 194559), (194664, 194664), (194676, 194676),
  (194847, 194847), (194911, 194911), (195007, 195007), (195102, 196607), (201547, 201551),
  (205744, 917759), (918000, 1114111)]

/-- Characters that are dropped from a name. -/
def ignored : List (Nat × Nat) := [
  (173, 173), (847, 847), (6155, 6157), (6159, 6159), (8203, 8203), (8288, 8288), (8292, 8292),
  (65024, 65039), (65279, 65279), (113824, 113827), (917760, 917999)]

/-- The packed forms of characters that become neither their small letter nor, where that is the
same, their composed form. -/
def packedForms : List String := [
  "a0:20;a8:20 308;aa:61;af:20 304;b2:32,,20 301,3bc;b8:20 327,31,6f;bc:31 2044 34,31 2044 32",
  "be:33 2044 34;130:69 307;132:69 6a,69 6a;13f:6c b7,6c b7;149:2bc 6e;17f:73;1c4:64 17e,64 17e",
  "1c6:64 17e,6c 6a,6c 6a,6c 6a,6e 6a,6e 6a,6e 6a;1f1:64 7a,64 7a,64 7a;2b0:68,266,6a,72,279,27b",
  "2b6:281,77,79;2d8:20 306,20 307,20 30a,20 328,20 303,20 30b;2e0:263,6c,73,78,295;345:3b9",
  "37a:20 3b9;384:20 301,20 308 301;3d0:3b2,3b8,3c5,3cd,3cb,3c6,3c0;3f0:3ba,3c1,3c3;3f5:3b5",
  "3f9:3c3;587:565 582;675:627 674,648 674,6c7 674,64a 674;e33:e4d e32;eb3:ecd eb2;edc:eab e99",
  "edd:eab ea1;f0c:f0b;f77:fb2 f71 f80;f79:fb3 f71 f80;10fc:10dc;13a0:13a0,,,,,,,,,,,,,,,,,,,,,,,",
  "13b8:13b8,,,,,,,,,,,,,,,,,,,,,,,,,,,,,,,,,,,,,,,,,,,,,,,,,,,,,,,,,,,,,;13f8:13f0,,,,,;1c80:432",
  "1c81:434,43e,441,,442,44a,463,a64b;1d2c:61,e6,62;1d30:64,,1dd,67,,,,,,,;1d3c:6f,223,70,72,74,",
  "1d42:77,61,250,,1d02,62,64,,259,25b,,67;1d4f:6b,6d,14b,6f,254,1d16,,70,74,,1d1d,26f,76,1d25",
  "1d5d:3b2,,,3c6,,69,72,75,,3b2,,3c1,3c6,;1d78:43d;1d9b:252,63,255,f0,25c,66,25f,261,265,268,,",
  "1da7:1d7b,29d,26d,1d85,29f,271,270,272,,,,278,282,,1ab,289,,1d1c,28b,,7a,290,,,3b8;1e9a:61 2be",
  "1e9b:1e61;1f80:1f00 3b9,1f01 3b9,1f02 3b9,1f03 3b9,1f04 3b9,1f05 3b9,1f06 3b9,1f07 3b9",
  "1f88:1f00 3b9,1f01 3b9,1f02 3b9,1f03 3b9,1f04 3b9,1f05 3b9,1f06 3b9,1f07 3b9,1f20 3b9,1f21 3b9",
  "1f92:1f22 3b9,1f23 3b9,1f24 3b9,1f25 3b9,1f26 3b9,1f27 3b9,1f20 3b9,1f21 3b9,1f22 3b9,1f23 3b9",
  "1f9c:1f24 3b9,1f25 3b9,1f26 3b9,1f27 3b9,1f60 3b9,1f61 3b9,1f62 3b9,1f63 3b9,1f64 3b9,1f65 3b9",
  "1fa6:1f66 3b9,1f67 3b9,1f60 3b9,1f61 3b9,1f62 3b9,1f63 3b9,1f64 3b9,1f65 3b9,1f66 3b9,1f67 3b9",
  "1fb2:1f70 3b9,3b1 3b9,3ac 3b9;1fb7:1fb6 3b9;1fbc:3b1 3b9,20 313;1fbf:20 313,20 342,20 308 342",
  "1fc2:1f74 3b9,3b7 3b9,3ae 3b9;1fc7:1fc6 3b9;1fcc:3b7 3b9,20 313 300,20 313 301,20 313 342",
  "1fdd:20 314 300,20 314 301,20 314 342;1fed:20 308 300,20 308 301;1ff2:1f7c 3b9,3c9 3b9,3ce 3b9",
  "1ff7:1ff6 3b9;1ffc:3c9 3b9,20 301,20 314;2000:20,20,20,20,20,20,20,20,20,20,20;2011:2010",
  "2017:20 333;202f:20;2033:2032 2032,2032 2032 2032;2036:2035 2035,2035 2035 2035;203c:21 21",
  "203e:20 305;2047:3f 3f,3f 21,21 3f;2057:2032 2032 2032 2032;205f:20;2070:30,69;2074:34,,,,,,2b",
  "207b:2212,3d,28,,6e,30,,,,,,,,,,2b,2212,3d,28,;2090:61,65,6f,78,259,68,6b,,,,70,73,;20a8:72 73",
  "2100:61 2f 63,61 2f 73,63,b0 63;2105:63 2f 6f,63 2f 75,25b;2109:b0 66,67,,68,68,68,127,69,69",
  "2112:6c,6c;2115:6e,6e 6f;2119:70,,,72,72;2120:73 6d,74 65 6c,74 6d;2124:7a;2128:7a;212c:62,",
  "212f:65,65,;2133:6d,6f,5d0,,,,69;213b:66 61 78,3c0,3b3,3b3,3c0,2211;2145:64,64,,69,",
  "2150:31 2044 37,31 2044 39,31 2044 31 30,31 2044 33,32 2044 33,31 2044 35,32 2044 35",
  "2157:33 2044 35,34 2044 35,31 2044 36,35 2044 36,31 2044 38,33 2044 38,35 2044 38,37 2044 38",
  "215f:31 2044,69,69 69,69 69 69,69 76,76,76 69,76 69 69,76 69 69 69,69 78,78,78 69,78 69 69,6c",
  "216d:63,,6d,69,69 69,69 69 69,69 76,76,76 69,76 69 69,76 69 69 69,69 78,78,78 69,78 69 69,6c",
  "217d:63,,6d;2189:30 2044 33;222c:222b 222b,222b 222b 222b;222f:222e 222e,222e 222e 222e",
  "2460:31,,,,,,,,,31 30,31 31,31 32,31 33,31 34,31 35,31 36,31 37,31 38,31 39,32 30,28 31 29",
  "2475:28 32 29,28 33 29,28 34 29,28 35 29,28 36 29,28 37 29,28 38 29,28 39 29,28 31 30 29",
  "247e:28 31 31 29,28 31 32 29,28 31 33 29,28 31 34 29,28 31 35 29,28 31 36 29,28 31 37 29",
  "2485:28 31 38 29,28 31 39 29,28 32 30 29;249c:28 61 29,28 62 29,28 63 29,28 64 29,28 65 29",
  "24a1:28 66 29,28 67 29,28 68 29,28 69 29,28 6a 29,28 6b 29,28 6c 29,28 6d 29,28 6e 29,28 6f 29",
  "24ab:28 70 29,28 71 29,28 72 29,28 73 29,28 74 29,28 75 29,28 76 29,28 77 29,28 78 29,28 79 29",
  "24b5:28 7a 29,61,,,,,,,,,,,,,,,,,,,,,,,,,,61,,,,,,,,,,,,,,,,,,,,,,,,,,30",
  "2a0c:222b 222b 222b 222b;2a74:3a 3a 3d,3d 3d,3d 3d 3d;2c7c:6a,76;2d6f:2d61;2e9f:6bcd;2ef3:9f9f",
  "2f00:4e00,4e28,4e36,4e3f,4e59,4e85,4e8c,4ea0,4eba,513f,5165,516b,5182,5196,51ab,51e0,51f5,5200",
  "2f12:529b,52f9,5315,531a,5338,5341,535c,5369,5382,53b6,53c8,53e3,56d7,571f,58eb,5902,590a,5915",
  "2f24:5927,5973,5b50,5b80,5bf8,5c0f,5c22,5c38,5c6e,5c71,5ddb,5de5,5df1,5dfe,5e72,5e7a,5e7f,5ef4",
  "2f36:5efe,5f0b,5f13,5f50,5f61,5f73,5fc3,6208,6236,624b,652f,6534,6587,6597,65a4,65b9,65e0,65e5",
  "2f48:66f0,6708,6728,6b20,6b62,6b79,6bb3,6bcb,6bd4,6bdb,6c0f,6c14,6c34,706b,722a,7236,723b,723f",
  "2f5a:7247,7259,725b,72ac,7384,7389,74dc,74e6,7518,751f,7528,7530,758b,7592,7676,767d,76ae,76bf",
  "2f6c:76ee,77db,77e2,77f3,793a,79b8,79be,7a74,7acb,7af9,7c73,7cf8,7f36,7f51,7f8a,7fbd,8001,800c",
  "2f7e:8012,8033,807f,8089,81e3,81ea,81f3,81fc,820c,821b,821f,826e,8272,8278,864d,866b,8840,884c",
  "2f90:8863,897e,898b,89d2,8a00,8c37,8c46,8c55,8c78,8c9d,8d64,8d70,8db3,8eab,8eca,8f9b,8fb0,8fb5",
  "2fa2:9091,9149,91c6,91cc,91d1,9577,9580,961c,96b6,96b9,96e8,9751,975e,9762,9769,97cb,97ed,97f3",
  "2fb4:9801,98a8,98db,98df,9996,9999,99ac,9aa8,9ad8,9adf,9b25,9b2f,9b32,9b3c,9b5a,9ce5,9e75,9e7f",
  "2fc6:9ea5,9ebb,9ec3,9ecd,9ed1,9ef9,9efd,9f0e,9f13,9f20,9f3b,9f4a,9f52,9f8d,9f9c,9fa0;3000:20",
  "3002:2e;3036:3012;3038:5341,5344,;309b:20 3099,20 309a;309f:3088 308a;30ff:30b3 30c8;3131:1100",
  "3132:1101,11aa,1102,11ac,,1103,,,11b0,,,,,,111a,1106,,,1121,1109,,,,,,,,,,1161,,,,,,,,,,,,,,,,",
  "3160:1172,,,;3165:1114,,11c7,,11cc,11ce,11d3,11d7,11d9,111c,11dd,11df,111d,,1120,1122,,1127",
  "3177:1129,112b,,,,,1132,1136,1140,1147,114c,11f1,,1157,,,1184,,1188,1191,,1194,119e,11a1",
  "3192:4e00,4e8c,4e09,56db,4e0a,4e2d,4e0b,7532,4e59,4e19,4e01,5929,5730,4eba;3200:28 1100 29",
  "3201:28 1102 29,28 1103 29,28 1105 29,28 1106 29,28 1107 29,28 1109 29,28 110b 29,28 110c 29",
  "3209:28 110e 29,28 110f 29,28 1110 29,28 1111 29,28 1112 29,28 ac00 29,28 b098 29,28 b2e4 29",
  "3211:28 b77c 29,28 b9c8 29,28 bc14 29,28 c0ac 29,28 c544 29,28 c790 29,28 cc28 29,28 ce74 29",
  "3219:28 d0c0 29,28 d30c 29,28 d558 29,28 c8fc 29,28 c624 c804 29,28 c624 d6c4 29",
  "3220:28 4e00 29,28 4e8c 29,28 4e09 29,28 56db 29,28 4e94 29,28 516d 29,28 4e03 29,28 516b 29",
  "3228:28 4e5d 29,28 5341 29,28 6708 29,28 706b 29,28 6c34 29,28 6728 29,28 91d1 29,28 571f 29",
  "3230:28 65e5 29,28 682a 29,28 6709 29,28 793e 29,28 540d 29,28 7279 29,28 8ca1 29,28 795d 29",
  "3238:28 52b4 29,28 4ee3 29,28 547c 29,28 5b66 29,28 76e3 29,28 4f01 29,28 8cc7 29,28 5354 29",
  "3240:28 796d 29,28 4f11 29,28 81ea 29,28 81f3 29,554f,5e7c,6587,7b8f;3250:70 74 65,32 31,32 32",
  "3253:32 33,32 34,32 35,32 36,32 37,32 38,32 39,33 30,33 31,33 32,33 33,33 34,33 35,1100,1102,",
  "3263:1105,,,1109,110b,,110e,,,,,ac00,b098,b2e4,b77c,b9c8,bc14,c0ac,c544,c790,cc28,ce74,d0c0",
  "327a:d30c,d558,cc38 ace0,c8fc c758,c6b0;3280:4e00,4e8c,4e09,56db,4e94,516d,4e03,516b,4e5d,5341",
  "328a:6708,706b,6c34,6728,91d1,571f,65e5,682a,6709,793e,540d,7279,8ca1,795d,52b4,79d8,7537,5973",
  "329c:9069,512a,5370,6ce8,9805,4f11,5199,6b63,4e0a,4e2d,4e0b,5de6,53f3,533b,5b97,5b66,76e3,4f01",
  "32ae:8cc7,5354,591c,33 36,33 37,33 38,33 39,34 30,34 31,34 32,34 33,34 34,34 35,34 36,34 37",
  "32bd:34 38,34 39,35 30,31 6708,32 6708,33 6708,34 6708,35 6708,36 6708,37 6708,38 6708,39 6708",
  "32c9:31 30 6708,31 31 6708,31 32 6708,68 67,65 72 67,65 76,6c 74 64,30a2,30a4,30a6,30a8,30aa,",
  "32d6:30ad,30af,30b1,30b3,30b5,30b7,30b9,30bb,30bd,30bf,30c1,30c4,30c6,30c8,30ca,,,,,,30d2,30d5",
  "32ec:30d8,30db,30de,,,,,30e4,30e6,30e8,,,,,,30ef,,,,4ee4 548c,30a2 30d1 30fc 30c8",
  "3301:30a2 30eb 30d5 30a1,30a2 30f3 30da 30a2,30a2 30fc 30eb,30a4 30cb 30f3 30b0,30a4 30f3 30c1",
  "3306:30a6 30a9 30f3,30a8 30b9 30af 30fc 30c9,30a8 30fc 30ab 30fc,30aa 30f3 30b9,30aa 30fc 30e0",
  "330b:30ab 30a4 30ea,30ab 30e9 30c3 30c8,30ab 30ed 30ea 30fc,30ac 30ed 30f3,30ac 30f3 30de",
  "3310:30ae 30ac,30ae 30cb 30fc,30ad 30e5 30ea 30fc,30ae 30eb 30c0 30fc,30ad 30ed",
  "3315:30ad 30ed 30b0 30e9 30e0,30ad 30ed 30e1 30fc 30c8 30eb,30ad 30ed 30ef 30c3 30c8",
  "3318:30b0 30e9 30e0,30b0 30e9 30e0 30c8 30f3,30af 30eb 30bc 30a4 30ed,30af 30ed 30fc 30cd",
  "331c:30b1 30fc 30b9,30b3 30eb 30ca,30b3 30fc 30dd,30b5 30a4 30af 30eb,30b5 30f3 30c1 30fc 30e0",
  "3321:30b7 30ea 30f3 30b0,30bb 30f3 30c1,30bb 30f3 30c8,30c0 30fc 30b9,30c7 30b7,30c9 30eb",
  "3327:30c8 30f3,30ca 30ce,30ce 30c3 30c8,30cf 30a4 30c4,30d1 30fc 30bb 30f3 30c8,30d1 30fc 30c4",
  "332d:30d0 30fc 30ec 30eb,30d4 30a2 30b9 30c8 30eb,30d4 30af 30eb,30d4 30b3,30d3 30eb",
  "3332:30d5 30a1 30e9 30c3 30c9,30d5 30a3 30fc 30c8,30d6 30c3 30b7 30a7 30eb,30d5 30e9 30f3",
  "3336:30d8 30af 30bf 30fc 30eb,30da 30bd,30da 30cb 30d2,30d8 30eb 30c4,30da 30f3 30b9",
  "333b:30da 30fc 30b8,30d9 30fc 30bf,30dd 30a4 30f3 30c8,30dc 30eb 30c8,30db 30f3,30dd 30f3 30c9",
  "3341:30db 30fc 30eb,30db 30fc 30f3,30de 30a4 30af 30ed,30de 30a4 30eb,30de 30c3 30cf",
  "3346:30de 30eb 30af,30de 30f3 30b7 30e7 30f3,30df 30af 30ed 30f3,30df 30ea",
  "334a:30df 30ea 30d0 30fc 30eb,30e1 30ac,30e1 30ac 30c8 30f3,30e1 30fc 30c8 30eb,30e4 30fc 30c9",
  "334f:30e4 30fc 30eb,30e6 30a2 30f3,30ea 30c3 30c8 30eb,30ea 30e9,30eb 30d4 30fc",
  "3354:30eb 30fc 30d6 30eb,30ec 30e0,30ec 30f3 30c8 30b2 30f3,30ef 30c3 30c8,30 70b9,31 70b9",
  "335a:32 70b9,33 70b9,34 70b9,35 70b9,36 70b9,37 70b9,38 70b9,39 70b9,31 30 70b9,31 31 70b9",
  "3364:31 32 70b9,31 33 70b9,31 34 70b9,31 35 70b9,31 36 70b9,31 37 70b9,31 38 70b9,31 39 70b9",
  "336c:32 30 70b9,32 31 70b9,32 32 70b9,32 33 70b9,32 34 70b9,68 70 61,64 61,61 75,62 61 72",
  "3375:6f 76,70 63,64 6d,64 6d 32,64 6d 33,69 75,5e73 6210,662d 548c,5927 6b63,660e 6cbb",
  "337f:682a 5f0f 4f1a 793e,70 61,6e 61,3bc 61,6d 61,6b 61,6b 62,6d 62,67 62,63 61 6c,6b 63 61 6c",
  "338a:70 66,6e 66,3bc 66,3bc 67,6d 67,6b 67,68 7a,6b 68 7a,6d 68 7a,67 68 7a,74 68 7a,3bc 6c",
  "3396:6d 6c,64 6c,6b 6c,66 6d,6e 6d,3bc 6d,6d 6d,63 6d,6b 6d,6d 6d 32,63 6d 32,6d 32,6b 6d 32",
  "33a3:6d 6d 33,63 6d 33,6d 33,6b 6d 33,6d 2215 73,6d 2215 73 32,70 61,6b 70 61,6d 70 61",
  "33ac:67 70 61,72 61 64,72 61 64 2215 73,72 61 64 2215 73 32,70 73,6e 73,3bc 73,6d 73,70 76",
  "33b5:6e 76,3bc 76,6d 76,6b 76,6d 76,70 77,6e 77,3bc 77,6d 77,6b 77,6d 77,6b 3c9,6d 3c9",
  "33c3:62 71,63 63,63 64,63 2215 6b 67;33c8:64 62,67 79,68 61,68 70,69 6e,6b 6b,6b 6d,6b 74",
  "33d0:6c 6d,6c 6e,6c 6f 67,6c 78,6d 62,6d 69 6c,6d 6f 6c,70 68;33d9:70 70 6d,70 72,73 72,73 76",
  "33dd:77 62,76 2215 6d,61 2215 6d,31 65e5,32 65e5,33 65e5,34 65e5,35 65e5,36 65e5,37 65e5",
  "33e7:38 65e5,39 65e5,31 30 65e5,31 31 65e5,31 32 65e5,31 33 65e5,31 34 65e5,31 35 65e5",
  "33ef:31 36 65e5,31 37 65e5,31 38 65e5,31 39 65e5,32 30 65e5,32 31 65e5,32 32 65e5,32 33 65e5",
  "33f7:32 34 65e5,32 35 65e5,32 36 65e5,32 37 65e5,32 38 65e5,32 39 65e5,33 30 65e5,33 31 65e5",
  "33ff:67 61 6c;a69c:44a,44c;a770:a76f;a7f2:63,66,71;a7f8:127,153;ab5c:a727,ab37,26b,ab52",
  "ab69:28d;ab70:13a0,,,,,,,,,,,,,,,,,,,,,,,,,,,,,,,,,,,,,,,,,,,,,,,,,,,,,,,,,,,,,,,,,,,,,,,,,,,,",
  "abbd:13ed,,;fb00:66 66,66 69,66 6c,66 66 69,66 66 6c,73 74,73 74;fb13:574 576,574 565,574 56b",
  "fb16:57e 576,574 56d;fb20:5e2,5d0,5d3,,5db,,,5e8,5ea,2b;fb4f:5d0 5dc,671,671,67b,67b,67b,67b",
  "fb56:67e,67e,67e,67e,680,680,680,680,67a,67a,67a,67a,67f,67f,67f,67f,679,679,679,679,6a4,6a4",
  "fb6c:6a4,6a4,6a6,6a6,6a6,6a6,684,684,684,684,683,683,683,683,686,686,686,686,,687,687,687,68d",
  "fb83:68d,68c,68c,68e,68e,688,688,698,698,691,691,6a9,6a9,6a9,6a9,6af,6af,6af,6af,6b3,6b3,6b3",
  "fb99:6b3,6b1,6b1,6b1,6b1,6ba,6ba,,6bb,6bb,6bb,6c0,6c0,,6c1,6c1,6c1,6be,6be,6be,6be,6d2,6d2,",
  "fbb1:6d3;fbd3:6ad,6ad,6ad,6ad,6c7,6c7,6c6,6c6,6c8,6c8,6c7 674,6cb,6cb,6c5,6c5,6c9,6c9,6d0,6d0",
  "fbe6:6d0,6d0,649,649,626 627,626 627,626 6d5,626 6d5,626 648,626 648,626 6c7,626 6c7,626 6c6",
  "fbf3:626 6c6,626 6c8,626 6c8,626 6d0,626 6d0,626 6d0,626 649,626 649,626 649,6cc,6cc,6cc,6cc",
  "fc00:626 62c,626 62d,626 645,626 649,626 64a,628 62c,628 62d,628 62e,628 645,628 649,628 64a",
  "fc0b:62a 62c,62a 62d,62a 62e,62a 645,62a 649,62a 64a,62b 62c,62b 645,62b 649,62b 64a,62c 62d",
  "fc16:62c 645,62d 62c,62d 645,62e 62c,62e 62d,62e 645,633 62c,633 62d,633 62e,633 645,635 62d",
  "fc21:635 645,636 62c,636 62d,636 62e,636 645,637 62d,637 645,638 645,639 62c,639 645,63a 62c",
  "fc2c:63a 645,641 62c,641 62d,641 62e,641 645,641 649,641 64a,642 62d,642 645,642 649,642 64a",
  "fc37:643 627,643 62c,643 62d,643 62e,643 644,643 645,643 649,643 64a,644 62c,644 62d,644 62e",
  "fc42:644 645,644 649,644 64a,645 62c,645 62d,645 62e,645 645,645 649,645 64a,646 62c,646 62d",
  "fc4d:646 62e,646 645,646 649,646 64a,647 62c,647 645,647 649,647 64a,64a 62c,64a 62d,64a 62e",
  "fc58:64a 645,64a 649,64a 64a,630 670,631 670,649 670,20 64c 651,20 64d 651,20 64e 651",
  "fc61:20 64f 651,20 650 651,20 651 670,626 631,626 632,626 645,626 646,626 649,626 64a,628 631",
  "fc6b:628 632,628 645,628 646,628 649,628 64a,62a 631,62a 632,62a 645,62a 646,62a 649,62a 64a",
  "fc76:62b 631,62b 632,62b 645,62b 646,62b 649,62b 64a,641 649,641 64a,642 649,642 64a,643 627",
  "fc81:643 644,643 645,643 649,643 64a,644 645,644 649,644 64a,645 627,645 645,646 631,646 632",
  "fc8c:646 645,646 646,646 649,646 64a,649 670,64a 631,64a 632,64a 645,64a 646,64a 649,64a 64a",
  "fc97:626 62c,626 62d,626 62e,626 645,626 647,628 62c,628 62d,628 62e,628 645,628 647,62a 62c",
  "fca2:62a 62d,62a 62e,62a 645,62a 647,62b 645,62c 62d,62c 645,62d 62c,62d 645,62e 62c,62e 645",
  "fcad:633 62c,633 62d,633 62e,633 645,635 62d,635 62e,635 645,636 62c,636 62d,636 62e,636 645",
  "fcb8:637 62d,638 645,639 62c,639 645,63a 62c,63a 645,641 62c,641 62d,641 62e,641 645,642 62d",
  "fcc3:642 645,643 62c,643 62d,643 62e,643 644,643 645,644 62c,644 62d,644 62e,644 645,644 647",
  "fcce:645 62c,645 62d,645 62e,645 645,646 62c,646 62d,646 62e,646 645,646 647,647 62c,647 645",
  "fcd9:647 670,64a 62c,64a 62d,64a 62e,64a 645,64a 647,626 645,626 647,628 645,628 647,62a 645",
  "fce4:62a 647,62b 645,62b 647,633 645,633 647,634 645,634 647,643 644,643 645,644 645,646 645",
  "fcef:646 647,64a 645,64a 647,640 64e 651,640 64f 651,640 650 651,637 649,637 64a,639 649",
  "fcf8:639 64a,63a 649,63a 64a,633 649,633 64a,634 649,634 64a,62d 649,62d 64a,62c 649,62c 64a",
  "fd03:62e 649,62e 64a,635 649,635 64a,636 649,636 64a,634 62c,634 62d,634 62e,634 645,634 631",
  "fd0e:633 631,635 631,636 631,637 649,637 64a,639 649,639 64a,63a 649,63a 64a,633 649,633 64a",
  "fd19:634 649,634 64a,62d 649,62d 64a,62c 649,62c 64a,62e 649,62e 64a,635 649,635 64a,636 649",
  "fd24:636 64a,634 62c,634 62d,634 62e,634 645,634 631,633 631,635 631,636 631,634 62c,634 62d",
  "fd2f:634 62e,634 645,633 647,634 647,637 645,633 62c,633 62d,633 62e,634 62c,634 62d,634 62e",
  "fd3a:637 645,638 645,627 64b,627 64b;fd50:62a 62c 645,62a 62d 62c,62a 62d 62c,62a 62d 645",
  "fd54:62a 62e 645,62a 645 62c,62a 645 62d,62a 645 62e,62c 645 62d,62c 645 62d,62d 645 64a",
  "fd5b:62d 645 649,633 62d 62c,633 62c 62d,633 62c 649,633 645 62d,633 645 62d,633 645 62c",
  "fd62:633 645 645,633 645 645,635 62d 62d,635 62d 62d,635 645 645,634 62d 645,634 62d 645",
  "fd69:634 62c 64a,634 645 62e,634 645 62e,634 645 645,634 645 645,636 62d 649,636 62e 645",
  "fd70:636 62e 645,637 645 62d,637 645 62d,637 645 645,637 645 64a,639 62c 645,639 645 645",
  "fd77:639 645 645,639 645 649,63a 645 645,63a 645 64a,63a 645 649,641 62e 645,641 62e 645",
  "fd7e:642 645 62d,642 645 645,644 62d 645,644 62d 64a,644 62d 649,644 62c 62c,644 62c 62c",
  "fd85:644 62e 645,644 62e 645,644 645 62d,644 645 62d,645 62d 62c,645 62d 645,645 62d 64a",
  "fd8c:645 62c 62d,645 62c 645,645 62e 62c,645 62e 645;fd92:645 62c 62e,647 645 62c,647 645 645",
  "fd95:646 62d 645,646 62d 649,646 62c 645,646 62c 645,646 62c 649,646 645 64a,646 645 649",
  "fd9c:64a 645 645,64a 645 645,628 62e 64a,62a 62c 64a,62a 62c 649,62a 62e 64a,62a 62e 649",
  "fda3:62a 645 64a,62a 645 649,62c 645 64a,62c 62d 649,62c 645 649,633 62e 649,635 62d 64a",
  "fdaa:634 62d 64a,636 62d 64a,644 62c 64a,644 645 64a,64a 62d 64a,64a 62c 64a,64a 645 64a",
  "fdb1:645 645 64a,642 645 64a,646 62d 64a,642 645 62d,644 62d 645,639 645 64a,643 645 64a",
  "fdb8:646 62c 62d,645 62e 64a,644 62c 645,643 645 645,644 62c 645,646 62c 62d,62c 62d 64a",
  "fdbf:62d 62c 64a,645 62c 64a,641 645 64a,628 62d 64a,643 645 645,639 62c 645,635 645 645",
  "fdc6:633 62e 64a,646 62c 64a;fdf0:635 644 6d2,642 644 6d2,627 644 644 647,627 643 628 631",
  "fdf4:645 62d 645 62f,635 644 639 645,631 633 648 644,639 644 64a 647,648 633 644 645",
  "fdf9:635 644 649,635 644 649 20 627 644 644 647 20 639 644 64a 647 20 648 633 644 645",
  "fdfb:62c 644 20 62c 644 627 644 647,631 6cc 627 644;fe10:2c,3001;fe13:3a,,21,3f,3016,",
  "fe31:2014,2013,5f,5f,28,,7b,7d,3014,,3010,,300a,,3008,,300c,,,;fe47:5b,5d,20 305,20 305,20 305",
  "fe4c:20 305,5f,5f,5f,2c,3001;fe54:3b,3a,3f,21,2014,28,,7b,7d,3014,,23,26,2a,,2d,3c,3e,3d",
  "fe68:5c,24,,40;fe70:20 64b,640 64b,20 64c;fe74:20 64d;fe76:20 64e,640 64e,20 64f,640 64f",
  "fe7a:20 650,640 650,20 651,640 651,20 652,640 652,621,,622,,623,,624,,625,,626,626,626,,627,",
  "fe90:628,628,628,,629,,62a,62a,62a,,62b,62b,62b,,62c,62c,62c,,62d,62d,62d,,62e,62e,62e,,62f,",
  "feac:630,,631,,632,,633,633,633,,634,634,634,,635,635,635,,636,636,636,,637,637,637,,638,638",
  "fec8:638,,639,639,639,,63a,63a,63a,641,641,641,641,,642,642,642,,643,643,643,,644,644,644,,645",
  "fee3:645,645,,646,646,646,,647,647,647,,648,,649,,64a,64a,64a,644 622,644 622,644 623,644 623",
  "fef9:644 625,644 625,644 627,644 627;ff01:21,,,,,,,,,,,,,,,,,,,,,,,,,,,,,,,,61,,,,,,,,,,,,,,,,",
  "ff32:72,,,,,,,,,5b,,,,,,,,,,,,,,,,,,,,,,,,,,,,,,,,,,,,2985,,2e,300c,,3001,30fb,30f2,30a1,30a3",
  "ff69:30a5,30a7,30a9,30e3,30e5,30e7,30c3,30fc,30a2,30a4,30a6,30a8,30aa,,30ad,30af,30b1,30b3",
  "ff7b:30b5,30b7,30b9,30bb,30bd,30bf,30c1,30c4,30c6,30c8,30ca,,,,,,30d2,30d5,30d8,30db,30de,,,,",
  "ff94:30e4,30e6,30e8,,,,,,30ef,30f3,3099,;ffa1:1100,,11aa,1102,11ac,,1103,,,11b0,,,,,,111a,1106",
  "ffb2:1107,,1121,1109,,,,,,,,,;ffc2:1161,,,,,;ffca:1167,,,,,;ffd2:116d,,,,,;ffda:1173,,;ffe0:a2",
  "ffe1:a3,ac,20 304,a6,a5,20a9;ffe8:2502,2190,,,,25a0,25cb;10781:2d0,,e6,299,253;10787:2a3,ab66",
  "10789:2a5,2a4,256,,1d91,258,25e,2a9,264,262,260,29b,127,29c,267,284,2aa,,26c,1df04,a78e,26e",
  "1079f:1df05,28e,1df06,f8,276,,71,27a,1df08,27d,,280,2a8,2a6,ab67,2a7,288,2c71;107b2:28f,2a1,",
  "107b5:298,1c0,,,1df0a,1df1e;1d400:61,,,,,,,,,,,,,,,,,,,,,,,,,,61,,,,,,,,,,,,,,,,,,,,,,,,,,61,,",
  "1d437:64,,,,,,,,,,,,,,,,,,,,,,,61,,,,,,;1d456:69,,,,,,,,,,,,,,,,,,61,,,,,,,,,,,,,,,,,,,,,,,,,",
  "1d482:61,,,,,,,,,,,,,,,,,,,,,,,,,,61;1d49e:63,;1d4a2:67;1d4a5:6a,;1d4a9:6e,,,;1d4ae:73,,,,,,,",
  "1d4b6:61,,,;1d4bb:66;1d4bd:68,,,,,,;1d4c5:70,,,,,,,,,,,61,,,,,,,,,,,,,,,,,,,,,,,,,,61,,,,,,,,,",
  "1d4f4:6b,,,,,,,,,,,,,,,,61,;1d507:64,,,;1d50d:6a,,,,,,,;1d516:73,,,,,,;1d51e:61,,,,,,,,,,,,,,,",
  "1d52e:71,,,,,,,,,,61,;1d53b:64,,,;1d540:69,,,,;1d546:6f;1d54a:73,,,,,,;1d552:61,,,,,,,,,,,,,,,",
  "1d562:71,,,,,,,,,,61,,,,,,,,,,,,,,,,,,,,,,,,,,61,,,,,,,,,,,,,,,,,,,,,,,,,,61,,,,,,,,,,,,,,,,,,",
  "1d5b3:74,,,,,,,61,,,,,,,,,,,,,,,,,,,,,,,,,,61,,,,,,,,,,,,,,,,,,,,,,,,,,61,,,,,,,,,,,,,,,,,,,,,",
  "1d604:77,,,,61,,,,,,,,,,,,,,,,,,,,,,,,,,61,,,,,,,,,,,,,,,,,,,,,,,,,,61,,,,,,,,,,,,,,,,,,,,,,,,",
  "1d655:7a,61,,,,,,,,,,,,,,,,,,,,,,,,,,61,,,,,,,,,,,,,,,,,,,,,,,,,,61,,,,,,,,,,,,,,,,,,,,,,,,,",
  "1d6a4:131,237;1d6a8:3b1,,,,,,,,,,,,,,,,,3b8,3c3,,,,,,,2207,3b1,,,,,,,,,,,,,,,,,3c3,3c3,,,,,,",
  "1d6db:2202,3b5,3b8,3ba,3c6,3c1,3c0,3b1,,,,,,,,,,,,,,,,,3b8,3c3,,,,,,,2207,3b1,,,,,,,,,,,,,,,,",
  "1d70d:3c3,3c3,,,,,,,2202,3b5,3b8,3ba,3c6,3c1,3c0,3b1,,,,,,,,,,,,,,,,,3b8,3c3,,,,,,,2207,3b1,,,",
  "1d73a:3b5,,,,,,,,,,,,,3c3,3c3,,,,,,,2202,3b5,3b8,3ba,3c6,3c1,3c0,3b1,,,,,,,,,,,,,,,,,3b8,3c3,,",
  "1d76b:3c6,,,,2207,3b1,,,,,,,,,,,,,,,,,3c3,3c3,,,,,,,2202,3b5,3b8,3ba,3c6,3c1,3c0,3b1,,,,,,,,,,",
  "1d79b:3bc,,,,,,3b8,3c3,,,,,,,2207,3b1,,,,,,,,,,,,,,,,,3c3,3c3,,,,,,,2202,3b5,3b8,3ba,3c6,3c1",
  "1d7c9:3c0,3dd,3dd;1d7ce:30,,,,,,,,,,30,,,,,,,,,,30,,,,,,,,,,30,,,,,,,,,,30,,,,,,,,,;1e030:430,",
  "1e032:432,,,,,,,43a,,,43e,,,,,,,,,,,44b,44d,,a689,4d9,456,458,4e9,4af,4cf,430,,,,,,,,,43a,,43e",
  "1e05d:43f,441,443,,,,,,44a,,491,456,455,45f,4ab,a651,4b1;1ee00:627,,62c,62f;1ee05:648,632,62d",
  "1ee08:637,64a,643,,,,633,639,641,635,642,631,634,62a,,62e,630,636,638,63a,66e,6ba,6a1,66f",
  "1ee21:628,62c;1ee24:647;1ee27:62d;1ee29:64a,643,,,,633,639,641,635,642;1ee34:634,62a,,62e",
  "1ee39:636;1ee3b:63a;1ee42:62c;1ee47:62d;1ee49:64a;1ee4b:644;1ee4d:646,633,639;1ee51:635,642",
  "1ee54:634;1ee57:62e;1ee59:636;1ee5b:63a;1ee5d:6ba;1ee5f:66f;1ee61:628,62c;1ee64:647;1ee67:62d",
  "1ee68:637,64a,643;1ee6c:645,,633,639,641,635,642;1ee74:634,62a,,62e;1ee79:636,638,63a,66e",
  "1ee7e:6a1;1ee80:627,,62c,62f,647,,632,62d,637,64a;1ee8b:644,,,633,639,641,635,642,631,634,62a,",
  "1ee97:62e,630,636,638,63a;1eea1:628,62c,62f;1eea5:648,632,62d,637,64a;1eeab:644,,,633,639,641",
  "1eeb1:635,642,631,634,62a,,62e,630,636,638,63a;1f101:30 2c,31 2c,32 2c,33 2c,34 2c,35 2c,36 2c",
  "1f108:37 2c,38 2c,39 2c;1f110:28 61 29,28 62 29,28 63 29,28 64 29,28 65 29,28 66 29,28 67 29",
  "1f117:28 68 29,28 69 29,28 6a 29,28 6b 29,28 6c 29,28 6d 29,28 6e 29,28 6f 29,28 70 29",
  "1f120:28 71 29,28 72 29,28 73 29,28 74 29,28 75 29,28 76 29,28 77 29,28 78 29,28 79 29",
  "1f129:28 7a 29,3014 73 3015,63,72,63 64,77 7a;1f130:61,,,,,,,,,,,,,,,,,,,,,,,,,,68 76,6d 76",
  "1f14c:73 64,73 73,70 70 76,77 63;1f16a:6d 63,6d 64,6d 72;1f190:64 6a;1f200:307b 304b,30b3 30b3",
  "1f202:30b5;1f210:624b,5b57,53cc,30c7,4e8c,591a,89e3,5929,4ea4,6620,7121,6599,524d,5f8c,518d",
  "1f21f:65b0,521d,7d42,751f,8ca9,58f0,5439,6f14,6295,6355,4e00,4e09,904a,5de6,4e2d,53f3,6307",
  "1f230:8d70,6253,7981,7a7a,5408,6e80,6709,6708,7533,5272,55b6,914d;1f240:3014 672c 3015",
  "1f241:3014 4e09 3015,3014 4e8c 3015,3014 5b89 3015,3014 70b9 3015,3014 6253 3015",
  "1f246:3014 76d7 3015,3014 52dd 3015,3014 6557 3015;1f250:5f97,53ef;1fbf0:30,,,,,,,,,"]

/-- The forms of characters in a name. -/
def forms : List (Nat × List Nat) := unpack packedForms

/-- The form of a character in a name; none when it does not stand in any. -/
def mapCode? (code : Nat) : Option (List Nat) :=
  if inRanges disallowed code then none
  else if inRanges ignored code then some []
  else some ((forms.lookup code).getD [lowerCode code])

/-- The form of a name; none when it holds a character that no name holds. -/
def mapName? (cs : List Char) : Option (List Char) :=
  (cs.mapM fun c => mapCode? c.toNat).map fun codes => (compose codes.flatten).map Char.ofNat

end Docblock.Net
