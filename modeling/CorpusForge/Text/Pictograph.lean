import CorpusForge.Text.CharSet

/-!
# Pictographs

The pictures among the characters, by version 12 of the emoji data of Unicode. A picture may be a
single character, a character with a variation selector, or a sequence: a keycap, a flag, a person
with a skin tone, or several characters that joiners make one picture of.

* `Pictograph.length?`: the number of characters of the picture at the head of a text.
-/

namespace CorpusForge.Pictograph

/-! ### Single characters -/

/-- Characters that are pictures by themselves. -/
def presented : CharSet :=
  [(0x231A, 0x231B), (0x23E9, 0x23EC), (0x23F0, 0x23F0), (0x23F3, 0x23F3), (0x25FD, 0x25FE),
   (0x2614, 0x2615), (0x2648, 0x2653), (0x267F, 0x267F), (0x2693, 0x2693), (0x26A1, 0x26A1),
   (0x26AA, 0x26AB), (0x26BD, 0x26BE), (0x26C4, 0x26C5), (0x26CE, 0x26CE), (0x26D4, 0x26D4),
   (0x26EA, 0x26EA), (0x26F2, 0x26F3), (0x26F5, 0x26F5), (0x26FA, 0x26FA), (0x26FD, 0x26FD),
   (0x2705, 0x2705), (0x270A, 0x270B), (0x2728, 0x2728), (0x274C, 0x274C), (0x274E, 0x274E),
   (0x2753, 0x2755), (0x2757, 0x2757), (0x2795, 0x2797), (0x27B0, 0x27B0), (0x27BF, 0x27BF),
   (0x2B1B, 0x2B1C), (0x2B50, 0x2B50), (0x2B55, 0x2B55), (0x1F004, 0x1F004), (0x1F0CF, 0x1F0CF),
   (0x1F18E, 0x1F18E), (0x1F191, 0x1F19A), (0x1F1E6, 0x1F1FF), (0x1F201, 0x1F201),
   (0x1F21A, 0x1F21A), (0x1F22F, 0x1F22F), (0x1F232, 0x1F236), (0x1F238, 0x1F23A),
   (0x1F250, 0x1F251), (0x1F300, 0x1F320), (0x1F32D, 0x1F335), (0x1F337, 0x1F37C),
   (0x1F37E, 0x1F393), (0x1F3A0, 0x1F3CA), (0x1F3CF, 0x1F3D3), (0x1F3E0, 0x1F3F0),
   (0x1F3F4, 0x1F3F4), (0x1F3F8, 0x1F43E), (0x1F440, 0x1F440), (0x1F442, 0x1F4FC),
   (0x1F4FF, 0x1F53D), (0x1F54B, 0x1F54E), (0x1F550, 0x1F567), (0x1F57A, 0x1F57A),
   (0x1F595, 0x1F596), (0x1F5A4, 0x1F5A4), (0x1F5FB, 0x1F64F), (0x1F680, 0x1F6C5),
   (0x1F6CC, 0x1F6CC), (0x1F6D0, 0x1F6D2), (0x1F6D5, 0x1F6D5), (0x1F6EB, 0x1F6EC),
   (0x1F6F4, 0x1F6FA), (0x1F7E0, 0x1F7EB), (0x1F90D, 0x1F93A), (0x1F93C, 0x1F945),
   (0x1F947, 0x1F971), (0x1F973, 0x1F976), (0x1F97A, 0x1F9A2), (0x1F9A5, 0x1F9AA),
   (0x1F9AE, 0x1F9CA), (0x1F9CD, 0x1F9FF), (0x1FA70, 0x1FA73), (0x1FA78, 0x1FA7A),
   (0x1FA80, 0x1FA82), (0x1FA90, 0x1FA95)]

/-- Characters that a variation selector makes pictures. -/
def selectable : CharSet :=
  [(0x23, 0x23), (0x2A, 0x2A), (0x30, 0x39), (0xA9, 0xA9), (0xAE, 0xAE), (0x203C, 0x203C),
   (0x2049, 0x2049), (0x2122, 0x2122), (0x2139, 0x2139), (0x2194, 0x2199), (0x21A9, 0x21AA),
   (0x2328, 0x2328), (0x23CF, 0x23CF), (0x23ED, 0x23EF), (0x23F1, 0x23F2), (0x23F8, 0x23FA),
   (0x24C2, 0x24C2), (0x25AA, 0x25AB), (0x25B6, 0x25B6), (0x25C0, 0x25C0), (0x25FB, 0x25FC),
   (0x2600, 0x2604), (0x260E, 0x260E), (0x2611, 0x2611), (0x2618, 0x2618), (0x261D, 0x261D),
   (0x2620, 0x2620), (0x2622, 0x2623), (0x2626, 0x2626), (0x262A, 0x262A), (0x262E, 0x262F),
   (0x2638, 0x263A), (0x2640, 0x2640), (0x2642, 0x2642), (0x265F, 0x2660), (0x2663, 0x2663),
   (0x2665, 0x2666), (0x2668, 0x2668), (0x267B, 0x267B), (0x267E, 0x267E), (0x2692, 0x2692),
   (0x2694, 0x2697), (0x2699, 0x2699), (0x269B, 0x269C), (0x26A0, 0x26A0), (0x26B0, 0x26B1),
   (0x26C8, 0x26C8), (0x26CF, 0x26CF), (0x26D1, 0x26D1), (0x26D3, 0x26D3), (0x26E9, 0x26E9),
   (0x26F0, 0x26F1), (0x26F4, 0x26F4), (0x26F7, 0x26F9), (0x2702, 0x2702), (0x2708, 0x2709),
   (0x270C, 0x270D), (0x270F, 0x270F), (0x2712, 0x2712), (0x2714, 0x2714), (0x2716, 0x2716),
   (0x271D, 0x271D), (0x2721, 0x2721), (0x2733, 0x2734), (0x2744, 0x2744), (0x2747, 0x2747),
   (0x2763, 0x2764), (0x27A1, 0x27A1), (0x2934, 0x2935), (0x2B05, 0x2B07), (0x3030, 0x3030),
   (0x303D, 0x303D), (0x3297, 0x3297), (0x3299, 0x3299), (0x1F170, 0x1F171), (0x1F17E, 0x1F17F),
   (0x1F202, 0x1F202), (0x1F237, 0x1F237), (0x1F321, 0x1F321), (0x1F324, 0x1F32C),
   (0x1F336, 0x1F336), (0x1F37D, 0x1F37D), (0x1F396, 0x1F397), (0x1F399, 0x1F39B),
   (0x1F39E, 0x1F39F), (0x1F3CB, 0x1F3CE), (0x1F3D4, 0x1F3DF), (0x1F3F3, 0x1F3F3),
   (0x1F3F5, 0x1F3F5), (0x1F3F7, 0x1F3F7), (0x1F43F, 0x1F43F), (0x1F441, 0x1F441),
   (0x1F4FD, 0x1F4FD), (0x1F549, 0x1F54A), (0x1F56F, 0x1F570), (0x1F573, 0x1F579),
   (0x1F587, 0x1F587), (0x1F58A, 0x1F58D), (0x1F590, 0x1F590), (0x1F5A5, 0x1F5A5),
   (0x1F5A8, 0x1F5A8), (0x1F5B1, 0x1F5B2), (0x1F5BC, 0x1F5BC), (0x1F5C2, 0x1F5C4),
   (0x1F5D1, 0x1F5D3), (0x1F5DC, 0x1F5DE), (0x1F5E1, 0x1F5E1), (0x1F5E3, 0x1F5E3),
   (0x1F5E8, 0x1F5E8), (0x1F5EF, 0x1F5EF), (0x1F5F3, 0x1F5F3), (0x1F5FA, 0x1F5FA),
   (0x1F6CB, 0x1F6CB), (0x1F6CD, 0x1F6CF), (0x1F6E0, 0x1F6E5), (0x1F6E9, 0x1F6E9),
   (0x1F6F0, 0x1F6F0), (0x1F6F3, 0x1F6F3)]

/-- Selectable characters that are pictures also without a selector: people and hands. -/
def bare : CharSet :=
  [(0x261D, 0x261D), (0x26F9, 0x26F9), (0x270C, 0x270D), (0x1F3CB, 0x1F3CC), (0x1F574, 0x1F575),
   (0x1F590, 0x1F590)]

/-! ### The parts of sequences -/

/-- The variation selector of pictures. -/
def selector : CharSet := .of [0xFE0F]

/-- The joiner of a sequence. -/
def joiner : CharSet := .of [0x200D]

/-- The skin tones, from light to dark. -/
def tones : CharSet := [(0x1F3FB, 0x1F3FF)]

def man : CharSet := .of [0x1F468]

def woman : CharSet := .of [0x1F469]

def adult : CharSet := .of [0x1F9D1]

def boy : CharSet := .of [0x1F466]

def girl : CharSet := .of [0x1F467]

/-- The signs of the sexes. -/
def sexes : CharSet := .of [0x2640, 0x2642]

/-- Pictures of people and of parts of the body that a skin tone may follow. -/
def toned : CharSet :=
  [(0x261D, 0x261D), (0x26F9, 0x26F9), (0x270A, 0x270D), (0x1F385, 0x1F385), (0x1F3C2, 0x1F3C4),
   (0x1F3C7, 0x1F3C7), (0x1F3CA, 0x1F3CC), (0x1F442, 0x1F443), (0x1F446, 0x1F450),
   (0x1F466, 0x1F469), (0x1F46B, 0x1F46E), (0x1F470, 0x1F478), (0x1F47C, 0x1F47C),
   (0x1F481, 0x1F483), (0x1F485, 0x1F487), (0x1F4AA, 0x1F4AA), (0x1F574, 0x1F575),
   (0x1F57A, 0x1F57A), (0x1F590, 0x1F590), (0x1F595, 0x1F596), (0x1F645, 0x1F647),
   (0x1F64B, 0x1F64F), (0x1F6A3, 0x1F6A3), (0x1F6B4, 0x1F6B6), (0x1F6C0, 0x1F6C0),
   (0x1F6CC, 0x1F6CC), (0x1F90F, 0x1F90F), (0x1F918, 0x1F91C), (0x1F91E, 0x1F91F),
   (0x1F926, 0x1F926), (0x1F930, 0x1F939), (0x1F93D, 0x1F93E), (0x1F9B5, 0x1F9B6),
   (0x1F9B8, 0x1F9B9), (0x1F9BB, 0x1F9BB), (0x1F9CD, 0x1F9CF), (0x1F9D1, 0x1F9DD)]

/-- Pictures of people that a sign of the sex may follow, with or without a skin tone. -/
def gendered : CharSet :=
  [(0x1F3C3, 0x1F3C4), (0x1F3CA, 0x1F3CA), (0x1F46E, 0x1F46E), (0x1F471, 0x1F471),
   (0x1F473, 0x1F473), (0x1F477, 0x1F477), (0x1F481, 0x1F482), (0x1F486, 0x1F487),
   (0x1F645, 0x1F647), (0x1F64B, 0x1F64B), (0x1F64D, 0x1F64E), (0x1F6A3, 0x1F6A3),
   (0x1F6B4, 0x1F6B6), (0x1F926, 0x1F926), (0x1F937, 0x1F939), (0x1F93D, 0x1F93E),
   (0x1F9B8, 0x1F9B9), (0x1F9CD, 0x1F9CF), (0x1F9D6, 0x1F9DD)]

/-- Pictures of people that a sign of the sex may follow, but no skin tone. -/
def untoned : CharSet := .of [0x1F46F, 0x1F93C, 0x1F9DE, 0x1F9DF]

/-- Pictures of people that a sign of the sex may follow, behind a selector or a skin tone. -/
def selected : CharSet := .of [0x26F9, 0x1F3CB, 0x1F3CC, 0x1F575]

/-- What a man or a woman may hold or wear. -/
def attributes : CharSet :=
  .of [0x1F33E, 0x1F373, 0x1F393, 0x1F3A4, 0x1F3A8, 0x1F3EB, 0x1F3ED, 0x1F4BB, 0x1F4BC, 0x1F527,
    0x1F52C, 0x1F680, 0x1F692, 0x1F9AF, 0x1F9B0, 0x1F9B1, 0x1F9B2, 0x1F9B3, 0x1F9BC, 0x1F9BD]

/-- The same with a selector behind: the marks of a doctor, a judge and a pilot. -/
def selectedAttributes : CharSet := .of [0x2695, 0x2696, 0x2708]

/-- The flags of regions: the first letter of their codes, and the second ones. -/
def regions : List (Char × String) :=
  [('A', "CDEFGILMOQRSTUWXZ"), ('B', "ABDEFGHIJLMNOQRSTVWYZ"), ('C', "ACDFGHIKLMNOPRUVWXYZ"),
   ('D', "EGJKMOZ"), ('E', "ACEGHRSTU"), ('F', "IJKMOR"), ('G', "ABDEFGHILMNPQRSTUWY"),
   ('H', "KMNRTU"), ('I', "CDELMNOQRST"), ('J', "EMOP"), ('K', "EGHIMNPRWYZ"),
   ('L', "ABCIKRSTUVY"), ('M', "ACDEFGHKLMNOPQRSTUVWXYZ"), ('N', "ACEFGILOPRUZ"), ('O', "M"),
   ('P', "AEFGHKLMNRSTWY"), ('Q', "A"), ('R', "EOSUW"), ('S', "ABCDEGHIJKLMNORSTVXYZ"),
   ('T', "ACDFGHJKLMNORTVWZ"), ('U', "AGMNSYZ"), ('V', "ACEGINU"), ('W', "FS"), ('X', "K"),
   ('Y', "ET"), ('Z', "AMW")]

/-! ### Sequences -/

/-- A sequence: what each of its characters may be. -/
abbrev Pattern := List CharSet

namespace Pattern

/-- The length of the sequence, if a text begins with one. -/
def length? : Pattern → List Char → Option Nat
  | [], _ => some 0
  | _ :: _, [] => none
  | set :: sets, c :: cs => if set.has c then (length? sets cs).map (· + 1) else none

/-- Two sequences with a joiner between them. -/
def join (a b : Pattern) : Pattern := a ++ joiner :: b

end Pattern

def keycap : Pattern := [selectable.filter fun (low, _) => low < 0x40, selector, .of [0x20E3]]

/-- The letter of a flag for a letter of a code. -/
def regional (letter : Char) : Nat := 0x1F1E6 + (letter.toNat - 'A'.toNat)

def flags : List Pattern :=
  regions.map fun (first, seconds) =>
    [.of [regional first], .of (seconds.toList.map regional)]

/-- The flags of parts of a country: a black flag, a code in tags, and the end of the tags. -/
def partFlags : List Pattern :=
  ["gbeng", "gbsct", "gbwls"].map fun code =>
    .of [0x1F3F4] :: (code.toList.map fun c => CharSet.of [0xE0000 + c.toNat]) ++ [.of [0xE007F]]

/-- A heart between two people, or a heart and a kiss. -/
def couples : List Pattern :=
  [([man], [man]), ([woman], [man ++ woman])].flatMap fun (first, second) =>
    let heart : Pattern := [.of [0x2764], selector]
    [.join first (.join heart second), .join first (.join heart (.join [.of [0x1F48B]] second))]

/-- One parent or two, and one child or two. -/
def families : List Pattern :=
  let parents : List Pattern :=
    [[man ++ woman], .join [man] [man ++ woman], .join [woman] [woman]]
  let children : List Pattern :=
    [[boy ++ girl], .join [girl] [boy ++ girl], .join [boy] [boy]]
  parents.flatMap fun parents => children.map fun children => parents.join children

/-- Two people hand in hand. Two adults may have the same skin tone; a man and a woman may have any
    two tones that differ. -/
def handInHand : List Pattern :=
  let hands : Pattern := [.of [0x1F91D]]
  let pair (first second : Pattern) : Pattern := first.join (hands.join second)
  pair [adult] [adult] :: (List.range 5).flatMap fun i =>
    let tone : CharSet := .of [0x1F3FB + i]
    let lighter : CharSet := [(0x1F3FB, 0x1F3FA + i)]
    let darker : CharSet := [(0x1F3FC + i, 0x1F3FF)]
    [pair [adult, tone] [adult, lighter ++ tone],
     pair [woman, tone] [woman, lighter], pair [man, tone] [man, lighter],
     pair [woman, tone] [man, lighter ++ darker]]

/-- People at work, and people with hair of some kind. -/
def workers : List Pattern :=
  [[man ++ woman], [man ++ woman, tones]].flatMap fun person =>
    [.join person [attributes], .join person [selectedAttributes, selector]]

/-- People with a sign of their sex. -/
def sexed : List Pattern :=
  [[gendered ++ untoned], [gendered ++ selected, tones], [selected, selector]].map fun person =>
    Pattern.join person [sexes, selector]

/-- An eye in a bubble, the flags of the rainbow and of pirates, and a service dog. -/
def others : List Pattern :=
  [.join [.of [0x1F441], selector] [.of [0x1F5E8], selector],
   .join [.of [0x1F3F3], selector] [.of [0x1F308]],
   .join [.of [0x1F3F4]] [.of [0x2620], selector],
   .join [.of [0x1F415]] [.of [0x1F9BA]]]

/-- All sequences but those of a selector alone. -/
def sequences : List Pattern :=
  keycap :: [toned, tones] :: flags ++ partFlags ++ couples ++ families ++ handInHand ++ workers
    ++ sexed ++ others

/-- The length of the longest sequence that a text begins with; zero without one. -/
def longest (cs : List Char) : Nat :=
  sequences.foldl (fun best pattern => max best ((pattern.length? cs).getD 0)) 0

/-- The length of the picture that a text begins with. -/
def length? (cs : List Char) : Option Nat :=
  match longest cs, cs with
  | n + 1, _ => some (n + 1)
  | 0, [] => none
  | 0, c :: rest =>
    if presented.has c then some 1
    else if selectable.has c && rest.head?.any selector.has then some 2
    else if bare.has c then some 1
    else none

end CorpusForge.Pictograph
