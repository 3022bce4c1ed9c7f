import SchemaScript.Encoding.CodePage

/-!
# Tables of code pages

The upper halves of the code pages that documents are declared in.  Each one
lists the characters of the bytes from 128 to 255, in the order of the bytes.
-/

namespace SchemaScript

namespace Encoding

namespace CodePage

def ibm866 : CodePage :=
  ⟨"IBM866",
    [.all 0x0410 0x043F, .all 0x2591 0x2593, .one 0x2502, .one 0x2524, .one 0x2561, .one 0x2562,
      .one 0x2556, .one 0x2555, .one 0x2563, .one 0x2551, .one 0x2557, .one 0x255D, .one 0x255C,
      .one 0x255B, .one 0x2510, .one 0x2514, .one 0x2534, .one 0x252C, .one 0x251C, .one 0x2500,
      .one 0x253C, .one 0x255E, .one 0x255F, .one 0x255A, .one 0x2554, .one 0x2569, .one 0x2566,
      .one 0x2560, .one 0x2550, .one 0x256C, .one 0x2567, .one 0x2568, .one 0x2564, .one 0x2565,
      .one 0x2559, .one 0x2558, .one 0x2552, .one 0x2553, .one 0x256B, .one 0x256A, .one 0x2518,
      .one 0x250C, .one 0x2588, .one 0x2584, .one 0x258C, .one 0x2590, .one 0x2580,
      .all 0x0440 0x044F, .one 0x0401, .one 0x0451, .one 0x0404, .one 0x0454, .one 0x0407,
      .one 0x0457, .one 0x040E, .one 0x045E, .one 0x00B0, .one 0x2219, .one 0x00B7, .one 0x221A,
      .one 0x2116, .one 0x00A4, .one 0x25A0, .one 0x00A0]⟩

def iso8859Part10 : CodePage :=
  ⟨"ISO-8859-10",
    [.all 0x0080 0x00A0, .one 0x0104, .one 0x0112, .one 0x0122, .one 0x012A, .one 0x0128,
      .one 0x0136, .one 0x00A7, .one 0x013B, .one 0x0110, .one 0x0160, .one 0x0166, .one 0x017D,
      .one 0x00AD, .one 0x016A, .one 0x014A, .one 0x00B0, .one 0x0105, .one 0x0113, .one 0x0123,
      .one 0x012B, .one 0x0129, .one 0x0137, .one 0x00B7, .one 0x013C, .one 0x0111, .one 0x0161,
      .one 0x0167, .one 0x017E, .one 0x2015, .one 0x016B, .one 0x014B, .one 0x0100,
      .all 0x00C1 0x00C6, .one 0x012E, .one 0x010C, .one 0x00C9, .one 0x0118, .one 0x00CB,
      .one 0x0116, .all 0x00CD 0x00D0, .one 0x0145, .one 0x014C, .all 0x00D3 0x00D6, .one 0x0168,
      .one 0x00D8, .one 0x0172, .all 0x00DA 0x00DF, .one 0x0101, .all 0x00E1 0x00E6, .one 0x012F,
      .one 0x010D, .one 0x00E9, .one 0x0119, .one 0x00EB, .one 0x0117, .all 0x00ED 0x00F0,
      .one 0x0146, .one 0x014D, .all 0x00F3 0x00F6, .one 0x0169, .one 0x00F8, .one 0x0173,
      .all 0x00FA 0x00FE, .one 0x0138]⟩

def iso8859Part13 : CodePage :=
  ⟨"ISO-8859-13",
    [.all 0x0080 0x00A0, .one 0x201D, .all 0x00A2 0x00A4, .one 0x201E, .one 0x00A6, .one 0x00A7,
      .one 0x00D8, .one 0x00A9, .one 0x0156, .all 0x00AB 0x00AE, .one 0x00C6, .all 0x00B0 0x00B3,
      .one 0x201C, .all 0x00B5 0x00B7, .one 0x00F8, .one 0x00B9, .one 0x0157, .all 0x00BB 0x00BE,
      .one 0x00E6, .one 0x0104, .one 0x012E, .one 0x0100, .one 0x0106, .one 0x00C4, .one 0x00C5,
      .one 0x0118, .one 0x0112, .one 0x010C, .one 0x00C9, .one 0x0179, .one 0x0116, .one 0x0122,
      .one 0x0136, .one 0x012A, .one 0x013B, .one 0x0160, .one 0x0143, .one 0x0145, .one 0x00D3,
      .one 0x014C, .all 0x00D5 0x00D7, .one 0x0172, .one 0x0141, .one 0x015A, .one 0x016A,
      .one 0x00DC, .one 0x017B, .one 0x017D, .one 0x00DF, .one 0x0105, .one 0x012F, .one 0x0101,
      .one 0x0107, .one 0x00E4, .one 0x00E5, .one 0x0119, .one 0x0113, .one 0x010D, .one 0x00E9,
      .one 0x017A, .one 0x0117, .one 0x0123, .one 0x0137, .one 0x012B, .one 0x013C, .one 0x0161,
      .one 0x0144, .one 0x0146, .one 0x00F3, .one 0x014D, .all 0x00F5 0x00F7, .one 0x0173,
      .one 0x0142, .one 0x015B, .one 0x016B, .one 0x00FC, .one 0x017C, .one 0x017E, .one 0x2019]⟩

def iso8859Part14 : CodePage :=
  ⟨"ISO-8859-14",
    [.all 0x0080 0x00A0, .one 0x1E02, .one 0x1E03, .one 0x00A3, .one 0x010A, .one 0x010B,
      .one 0x1E0A, .one 0x00A7, .one 0x1E80, .one 0x00A9, .one 0x1E82, .one 0x1E0B, .one 0x1EF2,
      .one 0x00AD, .one 0x00AE, .one 0x0178, .one 0x1E1E, .one 0x1E1F, .one 0x0120, .one 0x0121,
      .one 0x1E40, .one 0x1E41, .one 0x00B6, .one 0x1E56, .one 0x1E81, .one 0x1E57, .one 0x1E83,
      .one 0x1E60, .one 0x1EF3, .one 0x1E84, .one 0x1E85, .one 0x1E61, .all 0x00C0 0x00CF,
      .one 0x0174, .all 0x00D1 0x00D6, .one 0x1E6A, .all 0x00D8 0x00DD, .one 0x0176,
      .all 0x00DF 0x00EF, .one 0x0175, .all 0x00F1 0x00F6, .one 0x1E6B, .all 0x00F8 0x00FD,
      .one 0x0177, .one 0x00FF]⟩

def iso8859Part15 : CodePage :=
  ⟨"ISO-8859-15",
    [.all 0x0080 0x00A3, .one 0x20AC, .one 0x00A5, .one 0x0160, .one 0x00A7, .one 0x0161,
      .all 0x00A9 0x00B3, .one 0x017D, .all 0x00B5 0x00B7, .one 0x017E, .all 0x00B9 0x00BB,
      .one 0x0152, .one 0x0153, .one 0x0178, .all 0x00BF 0x00FF]⟩

def iso8859Part16 : CodePage :=
  ⟨"ISO-8859-16",
    [.all 0x0080 0x00A0, .one 0x0104, .one 0x0105, .one 0x0141, .one 0x20AC, .one 0x201E,
      .one 0x0160, .one 0x00A7, .one 0x0161, .one 0x00A9, .one 0x0218, .one 0x00AB, .one 0x0179,
      .one 0x00AD, .one 0x017A, .one 0x017B, .one 0x00B0, .one 0x00B1, .one 0x010C, .one 0x0142,
      .one 0x017D, .one 0x201D, .one 0x00B6, .one 0x00B7, .one 0x017E, .one 0x010D, .one 0x0219,
      .one 0x00BB, .one 0x0152, .one 0x0153, .one 0x0178, .one 0x017C, .all 0x00C0 0x00C2,
      .one 0x0102, .one 0x00C4, .one 0x0106, .all 0x00C6 0x00CF, .one 0x0110, .one 0x0143,
      .all 0x00D2 0x00D4, .one 0x0150, .one 0x00D6, .one 0x015A, .one 0x0170, .all 0x00D9 0x00DC,
      .one 0x0118, .one 0x021A, .all 0x00DF 0x00E2, .one 0x0103, .one 0x00E4, .one 0x0107,
      .all 0x00E6 0x00EF, .one 0x0111, .one 0x0144, .all 0x00F2 0x00F4, .one 0x0151, .one 0x00F6,
      .one 0x015B, .one 0x0171, .all 0x00F9 0x00FC, .one 0x0119, .one 0x021B, .one 0x00FF]⟩

def iso8859Part2 : CodePage :=
  ⟨"ISO-8859-2",
    [.all 0x0080 0x00A0, .one 0x0104, .one 0x02D8, .one 0x0141, .one 0x00A4, .one 0x013D,
      .one 0x015A, .one 0x00A7, .one 0x00A8, .one 0x0160, .one 0x015E, .one 0x0164, .one 0x0179,
      .one 0x00AD, .one 0x017D, .one 0x017B, .one 0x00B0, .one 0x0105, .one 0x02DB, .one 0x0142,
      .one 0x00B4, .one 0x013E, .one 0x015B, .one 0x02C7, .one 0x00B8, .one 0x0161, .one 0x015F,
      .one 0x0165, .one 0x017A, .one 0x02DD, .one 0x017E, .one 0x017C, .one 0x0154, .one 0x00C1,
      .one 0x00C2, .one 0x0102, .one 0x00C4, .one 0x0139, .one 0x0106, .one 0x00C7, .one 0x010C,
      .one 0x00C9, .one 0x0118, .one 0x00CB, .one 0x011A, .one 0x00CD, .one 0x00CE, .one 0x010E,
      .one 0x0110, .one 0x0143, .one 0x0147, .one 0x00D3, .one 0x00D4, .one 0x0150, .one 0x00D6,
      .one 0x00D7, .one 0x0158, .one 0x016E, .one 0x00DA, .one 0x0170, .one 0x00DC, .one 0x00DD,
      .one 0x0162, .one 0x00DF, .one 0x0155, .one 0x00E1, .one 0x00E2, .one 0x0103, .one 0x00E4,
      .one 0x013A, .one 0x0107, .one 0x00E7, .one 0x010D, .one 0x00E9, .one 0x0119, .one 0x00EB,
      .one 0x011B, .one 0x00ED, .one 0x00EE, .one 0x010F, .one 0x0111, .one 0x0144, .one 0x0148,
      .one 0x00F3, .one 0x00F4, .one 0x0151, .one 0x00F6, .one 0x00F7, .one 0x0159, .one 0x016F,
      .one 0x00FA, .one 0x0171, .one 0x00FC, .one 0x00FD, .one 0x0163, .one 0x02D9]⟩

def iso8859Part3 : CodePage :=
  ⟨"ISO-8859-3",
    [.all 0x0080 0x00A0, .one 0x0126, .one 0x02D8, .one 0x00A3, .one 0x00A4, .gap 1, .one 0x0124,
      .one 0x00A7, .one 0x00A8, .one 0x0130, .one 0x015E, .one 0x011E, .one 0x0134, .one 0x00AD,
      .gap 1, .one 0x017B, .one 0x00B0, .one 0x0127, .all 0x00B2 0x00B5, .one 0x0125, .one 0x00B7,
      .one 0x00B8, .one 0x0131, .one 0x015F, .one 0x011F, .one 0x0135, .one 0x00BD, .gap 1,
      .one 0x017C, .all 0x00C0 0x00C2, .gap 1, .one 0x00C4, .one 0x010A, .one 0x0108,
      .all 0x00C7 0x00CF, .gap 1, .all 0x00D1 0x00D4, .one 0x0120, .one 0x00D6, .one 0x00D7,
      .one 0x011C, .all 0x00D9 0x00DC, .one 0x016C, .one 0x015C, .all 0x00DF 0x00E2, .gap 1,
      .one 0x00E4, .one 0x010B, .one 0x0109, .all 0x00E7 0x00EF, .gap 1, .all 0x00F1 0x00F4,
      .one 0x0121, .one 0x00F6, .one 0x00F7, .one 0x011D, .all 0x00F9 0x00FC, .one 0x016D,
      .one 0x015D, .one 0x02D9]⟩

def iso8859Part4 : CodePage :=
  ⟨"ISO-8859-4",
    [.all 0x0080 0x00A0, .one 0x0104, .one 0x0138, .one 0x0156, .one 0x00A4, .one 0x0128,
      .one 0x013B, .one 0x00A7, .one 0x00A8, .one 0x0160, .one 0x0112, .one 0x0122, .one 0x0166,
      .one 0x00AD, .one 0x017D, .one 0x00AF, .one 0x00B0, .one 0x0105, .one 0x02DB, .one 0x0157,
      .one 0x00B4, .one 0x0129, .one 0x013C, .one 0x02C7, .one 0x00B8, .one 0x0161, .one 0x0113,
      .one 0x0123, .one 0x0167, .one 0x014A, .one 0x017E, .one 0x014B, .one 0x0100,
      .all 0x00C1 0x00C6, .one 0x012E, .one 0x010C, .one 0x00C9, .one 0x0118, .one 0x00CB,
      .one 0x0116, .one 0x00CD, .one 0x00CE, .one 0x012A, .one 0x0110, .one 0x0145, .one 0x014C,
      .one 0x0136, .all 0x00D4 0x00D8, .one 0x0172, .all 0x00DA 0x00DC, .one 0x0168, .one 0x016A,
      .one 0x00DF, .one 0x0101, .all 0x00E1 0x00E6, .one 0x012F, .one 0x010D, .one 0x00E9,
      .one 0x0119, .one 0x00EB, .one 0x0117, .one 0x00ED, .one 0x00EE, .one 0x012B, .one 0x0111,
      .one 0x0146, .one 0x014D, .one 0x0137, .all 0x00F4 0x00F8, .one 0x0173, .all 0x00FA 0x00FC,
      .one 0x0169, .one 0x016B, .one 0x02D9]⟩

def iso8859Part5 : CodePage :=
  ⟨"ISO-8859-5",
    [.all 0x0080 0x00A0, .all 0x0401 0x040C, .one 0x00AD, .all 0x040E 0x044F, .one 0x2116,
      .all 0x0451 0x045C, .one 0x00A7, .one 0x045E, .one 0x045F]⟩

def iso8859Part6 : CodePage :=
  ⟨"ISO-8859-6",
    [.all 0x0080 0x00A0, .gap 3, .one 0x00A4, .gap 7, .one 0x060C, .one 0x00AD, .gap 13,
      .one 0x061B, .gap 3, .one 0x061F, .gap 1, .all 0x0621 0x063A, .gap 5, .all 0x0640 0x0652,
      .gap 13]⟩

def iso8859Part7 : CodePage :=
  ⟨"ISO-8859-7",
    [.all 0x0080 0x00A0, .one 0x2018, .one 0x2019, .one 0x00A3, .one 0x20AC, .one 0x20AF,
      .all 0x00A6 0x00A9, .one 0x037A, .all 0x00AB 0x00AD, .gap 1, .one 0x2015,
      .all 0x00B0 0x00B3, .all 0x0384 0x0386, .one 0x00B7, .all 0x0388 0x038A, .one 0x00BB,
      .one 0x038C, .one 0x00BD, .all 0x038E 0x03A1, .gap 1, .all 0x03A3 0x03CE, .gap 1]⟩

def iso8859Part8 : CodePage :=
  ⟨"ISO-8859-8",
    [.all 0x0080 0x00A0, .gap 1, .all 0x00A2 0x00A9, .one 0x00D7, .all 0x00AB 0x00B9, .one 0x00F7,
      .all 0x00BB 0x00BE, .gap 32, .one 0x2017, .all 0x05D0 0x05EA, .gap 2, .one 0x200E,
      .one 0x200F, .gap 1]⟩

def iso8859Part8Logical : CodePage :=
  ⟨"ISO-8859-8-I", iso8859Part8.runs⟩

def koi8R : CodePage :=
  ⟨"KOI8-R",
    [.one 0x2500, .one 0x2502, .one 0x250C, .one 0x2510, .one 0x2514, .one 0x2518, .one 0x251C,
      .one 0x2524, .one 0x252C, .one 0x2534, .one 0x253C, .one 0x2580, .one 0x2584, .one 0x2588,
      .one 0x258C, .all 0x2590 0x2593, .one 0x2320, .one 0x25A0, .one 0x2219, .one 0x221A,
      .one 0x2248, .one 0x2264, .one 0x2265, .one 0x00A0, .one 0x2321, .one 0x00B0, .one 0x00B2,
      .one 0x00B7, .one 0x00F7, .all 0x2550 0x2552, .one 0x0451, .all 0x2553 0x2561, .one 0x0401,
      .all 0x2562 0x256C, .one 0x00A9, .one 0x044E, .one 0x0430, .one 0x0431, .one 0x0446,
      .one 0x0434, .one 0x0435, .one 0x0444, .one 0x0433, .one 0x0445, .all 0x0438 0x043F,
      .one 0x044F, .all 0x0440 0x0443, .one 0x0436, .one 0x0432, .one 0x044C, .one 0x044B,
      .one 0x0437, .one 0x0448, .one 0x044D, .one 0x0449, .one 0x0447, .one 0x044A, .one 0x042E,
      .one 0x0410, .one 0x0411, .one 0x0426, .one 0x0414, .one 0x0415, .one 0x0424, .one 0x0413,
      .one 0x0425, .all 0x0418 0x041F, .one 0x042F, .all 0x0420 0x0423, .one 0x0416, .one 0x0412,
      .one 0x042C, .one 0x042B, .one 0x0417, .one 0x0428, .one 0x042D, .one 0x0429, .one 0x0427,
      .one 0x042A]⟩

def koi8U : CodePage :=
  ⟨"KOI8-U",
    [.one 0x2500, .one 0x2502, .one 0x250C, .one 0x2510, .one 0x2514, .one 0x2518, .one 0x251C,
      .one 0x2524, .one 0x252C, .one 0x2534, .one 0x253C, .one 0x2580, .one 0x2584, .one 0x2588,
      .one 0x258C, .all 0x2590 0x2593, .one 0x2320, .one 0x25A0, .one 0x2219, .one 0x221A,
      .one 0x2248, .one 0x2264, .one 0x2265, .one 0x00A0, .one 0x2321, .one 0x00B0, .one 0x00B2,
      .one 0x00B7, .one 0x00F7, .all 0x2550 0x2552, .one 0x0451, .one 0x0454, .one 0x2554,
      .one 0x0456, .one 0x0457, .all 0x2557 0x255B, .one 0x0491, .one 0x045E, .all 0x255E 0x2561,
      .one 0x0401, .one 0x0404, .one 0x2563, .one 0x0406, .one 0x0407, .all 0x2566 0x256A,
      .one 0x0490, .one 0x040E, .one 0x00A9, .one 0x044E, .one 0x0430, .one 0x0431, .one 0x0446,
      .one 0x0434, .one 0x0435, .one 0x0444, .one 0x0433, .one 0x0445, .all 0x0438 0x043F,
      .one 0x044F, .all 0x0440 0x0443, .one 0x0436, .one 0x0432, .one 0x044C, .one 0x044B,
      .one 0x0437, .one 0x0448, .one 0x044D, .one 0x0449, .one 0x0447, .one 0x044A, .one 0x042E,
      .one 0x0410, .one 0x0411, .one 0x0426, .one 0x0414, .one 0x0415, .one 0x0424, .one 0x0413,
      .one 0x0425, .all 0x0418 0x041F, .one 0x042F, .all 0x0420 0x0423, .one 0x0416, .one 0x0412,
      .one 0x042C, .one 0x042B, .one 0x0417, .one 0x0428, .one 0x042D, .one 0x0429, .one 0x0427,
      .one 0x042A]⟩

def macintosh : CodePage :=
  ⟨"macintosh",
    [.one 0x00C4, .one 0x00C5, .one 0x00C7, .one 0x00C9, .one 0x00D1, .one 0x00D6, .one 0x00DC,
      .one 0x00E1, .one 0x00E0, .one 0x00E2, .one 0x00E4, .one 0x00E3, .one 0x00E5, .one 0x00E7,
      .one 0x00E9, .one 0x00E8, .one 0x00EA, .one 0x00EB, .one 0x00ED, .one 0x00EC, .one 0x00EE,
      .one 0x00EF, .one 0x00F1, .one 0x00F3, .one 0x00F2, .one 0x00F4, .one 0x00F6, .one 0x00F5,
      .one 0x00FA, .one 0x00F9, .one 0x00FB, .one 0x00FC, .one 0x2020, .one 0x00B0, .one 0x00A2,
      .one 0x00A3, .one 0x00A7, .one 0x2022, .one 0x00B6, .one 0x00DF, .one 0x00AE, .one 0x00A9,
      .one 0x2122, .one 0x00B4, .one 0x00A8, .one 0x2260, .one 0x00C6, .one 0x00D8, .one 0x221E,
      .one 0x00B1, .one 0x2264, .one 0x2265, .one 0x00A5, .one 0x00B5, .one 0x2202, .one 0x2211,
      .one 0x220F, .one 0x03C0, .one 0x222B, .one 0x00AA, .one 0x00BA, .one 0x03A9, .one 0x00E6,
      .one 0x00F8, .one 0x00BF, .one 0x00A1, .one 0x00AC, .one 0x221A, .one 0x0192, .one 0x2248,
      .one 0x2206, .one 0x00AB, .one 0x00BB, .one 0x2026, .one 0x00A0, .one 0x00C0, .one 0x00C3,
      .one 0x00D5, .one 0x0152, .one 0x0153, .one 0x2013, .one 0x2014, .one 0x201C, .one 0x201D,
      .one 0x2018, .one 0x2019, .one 0x00F7, .one 0x25CA, .one 0x00FF, .one 0x0178, .one 0x2044,
      .one 0x20AC, .one 0x2039, .one 0x203A, .one 0xFB01, .one 0xFB02, .one 0x2021, .one 0x00B7,
      .one 0x201A, .one 0x201E, .one 0x2030, .one 0x00C2, .one 0x00CA, .one 0x00C1, .one 0x00CB,
      .one 0x00C8, .all 0x00CD 0x00CF, .one 0x00CC, .one 0x00D3, .one 0x00D4, .one 0xF8FF,
      .one 0x00D2, .one 0x00DA, .one 0x00DB, .one 0x00D9, .one 0x0131, .one 0x02C6, .one 0x02DC,
      .one 0x00AF, .all 0x02D8 0x02DA, .one 0x00B8, .one 0x02DD, .one 0x02DB, .one 0x02C7]⟩

def windows1250 : CodePage :=
  ⟨"windows-1250",
    [.one 0x20AC, .one 0x0081, .one 0x201A, .one 0x0083, .one 0x201E, .one 0x2026, .one 0x2020,
      .one 0x2021, .one 0x0088, .one 0x2030, .one 0x0160, .one 0x2039, .one 0x015A, .one 0x0164,
      .one 0x017D, .one 0x0179, .one 0x0090, .one 0x2018, .one 0x2019, .one 0x201C, .one 0x201D,
      .one 0x2022, .one 0x2013, .one 0x2014, .one 0x0098, .one 0x2122, .one 0x0161, .one 0x203A,
      .one 0x015B, .one 0x0165, .one 0x017E, .one 0x017A, .one 0x00A0, .one 0x02C7, .one 0x02D8,
      .one 0x0141, .one 0x00A4, .one 0x0104, .all 0x00A6 0x00A9, .one 0x015E, .all 0x00AB 0x00AE,
      .one 0x017B, .one 0x00B0, .one 0x00B1, .one 0x02DB, .one 0x0142, .all 0x00B4 0x00B8,
      .one 0x0105, .one 0x015F, .one 0x00BB, .one 0x013D, .one 0x02DD, .one 0x013E, .one 0x017C,
      .one 0x0154, .one 0x00C1, .one 0x00C2, .one 0x0102, .one 0x00C4, .one 0x0139, .one 0x0106,
      .one 0x00C7, .one 0x010C, .one 0x00C9, .one 0x0118, .one 0x00CB, .one 0x011A, .one 0x00CD,
      .one 0x00CE, .one 0x010E, .one 0x0110, .one 0x0143, .one 0x0147, .one 0x00D3, .one 0x00D4,
      .one 0x0150, .one 0x00D6, .one 0x00D7, .one 0x0158, .one 0x016E, .one 0x00DA, .one 0x0170,
      .one 0x00DC, .one 0x00DD, .one 0x0162, .one 0x00DF, .one 0x0155, .one 0x00E1, .one 0x00E2,
      .one 0x0103, .one 0x00E4, .one 0x013A, .one 0x0107, .one 0x00E7, .one 0x010D, .one 0x00E9,
      .one 0x0119, .one 0x00EB, .one 0x011B, .one 0x00ED, .one 0x00EE, .one 0x010F, .one 0x0111,
      .one 0x0144, .one 0x0148, .one 0x00F3, .one 0x00F4, .one 0x0151, .one 0x00F6, .one 0x00F7,
      .one 0x0159, .one 0x016F, .one 0x00FA, .one 0x0171, .one 0x00FC, .one 0x00FD, .one 0x0163,
      .one 0x02D9]⟩

def windows1251 : CodePage :=
  ⟨"windows-1251",
    [.one 0x0402, .one 0x0403, .one 0x201A, .one 0x0453, .one 0x201E, .one 0x2026, .one 0x2020,
      .one 0x2021, .one 0x20AC, .one 0x2030, .one 0x0409, .one 0x2039, .one 0x040A, .one 0x040C,
      .one 0x040B, .one 0x040F, .one 0x0452, .one 0x2018, .one 0x2019, .one 0x201C, .one 0x201D,
      .one 0x2022, .one 0x2013, .one 0x2014, .one 0x0098, .one 0x2122, .one 0x0459, .one 0x203A,
      .one 0x045A, .one 0x045C, .one 0x045B, .one 0x045F, .one 0x00A0, .one 0x040E, .one 0x045E,
      .one 0x0408, .one 0x00A4, .one 0x0490, .one 0x00A6, .one 0x00A7, .one 0x0401, .one 0x00A9,
      .one 0x0404, .all 0x00AB 0x00AE, .one 0x0407, .one 0x00B0, .one 0x00B1, .one 0x0406,
      .one 0x0456, .one 0x0491, .all 0x00B5 0x00B7, .one 0x0451, .one 0x2116, .one 0x0454,
      .one 0x00BB, .one 0x0458, .one 0x0405, .one 0x0455, .one 0x0457, .all 0x0410 0x044F]⟩

def windows1252 : CodePage :=
  ⟨"windows-1252",
    [.one 0x20AC, .one 0x0081, .one 0x201A, .one 0x0192, .one 0x201E, .one 0x2026, .one 0x2020,
      .one 0x2021, .one 0x02C6, .one 0x2030, .one 0x0160, .one 0x2039, .one 0x0152, .one 0x008D,
      .one 0x017D, .one 0x008F, .one 0x0090, .one 0x2018, .one 0x2019, .one 0x201C, .one 0x201D,
      .one 0x2022, .one 0x2013, .one 0x2014, .one 0x02DC, .one 0x2122, .one 0x0161, .one 0x203A,
      .one 0x0153, .one 0x009D, .one 0x017E, .one 0x0178, .all 0x00A0 0x00FF]⟩

def windows1253 : CodePage :=
  ⟨"windows-1253",
    [.one 0x20AC, .one 0x0081, .one 0x201A, .one 0x0192, .one 0x201E, .one 0x2026, .one 0x2020,
      .one 0x2021, .one 0x0088, .one 0x2030, .one 0x008A, .one 0x2039, .all 0x008C 0x0090,
      .one 0x2018, .one 0x2019, .one 0x201C, .one 0x201D, .one 0x2022, .one 0x2013, .one 0x2014,
      .one 0x0098, .one 0x2122, .one 0x009A, .one 0x203A, .all 0x009C 0x00A0, .one 0x0385,
      .one 0x0386, .all 0x00A3 0x00A9, .gap 1, .all 0x00AB 0x00AE, .one 0x2015,
      .all 0x00B0 0x00B3, .one 0x0384, .all 0x00B5 0x00B7, .all 0x0388 0x038A, .one 0x00BB,
      .one 0x038C, .one 0x00BD, .all 0x038E 0x03A1, .gap 1, .all 0x03A3 0x03CE, .gap 1]⟩

def windows1254 : CodePage :=
  ⟨"windows-1254",
    [.one 0x20AC, .one 0x0081, .one 0x201A, .one 0x0192, .one 0x201E, .one 0x2026, .one 0x2020,
      .one 0x2021, .one 0x02C6, .one 0x2030, .one 0x0160, .one 0x2039, .one 0x0152,
      .all 0x008D 0x0090, .one 0x2018, .one 0x2019, .one 0x201C, .one 0x201D, .one 0x2022,
      .one 0x2013, .one 0x2014, .one 0x02DC, .one 0x2122, .one 0x0161, .one 0x203A, .one 0x0153,
      .one 0x009D, .one 0x009E, .one 0x0178, .all 0x00A0 0x00CF, .one 0x011E, .all 0x00D1 0x00DC,
      .one 0x0130, .one 0x015E, .all 0x00DF 0x00EF, .one 0x011F, .all 0x00F1 0x00FC, .one 0x0131,
      .one 0x015F, .one 0x00FF]⟩

def windows1255 : CodePage :=
  ⟨"windows-1255",
    [.one 0x20AC, .one 0x0081, .one 0x201A, .one 0x0192, .one 0x201E, .one 0x2026, .one 0x2020,
      .one 0x2021, .one 0x02C6, .one 0x2030, .one 0x008A, .one 0x2039, .all 0x008C 0x0090,
      .one 0x2018, .one 0x2019, .one 0x201C, .one 0x201D, .one 0x2022, .one 0x2013, .one 0x2014,
      .one 0x02DC, .one 0x2122, .one 0x009A, .one 0x203A, .all 0x009C 0x00A3, .one 0x20AA,
      .all 0x00A5 0x00A9, .one 0x00D7, .all 0x00AB 0x00B9, .one 0x00F7, .all 0x00BB 0x00BF,
      .all 0x05B0 0x05C3, .all 0x05F0 0x05F4, .gap 7, .all 0x05D0 0x05EA, .gap 2, .one 0x200E,
      .one 0x200F, .gap 1]⟩

def windows1256 : CodePage :=
  ⟨"windows-1256",
    [.one 0x20AC, .one 0x067E, .one 0x201A, .one 0x0192, .one 0x201E, .one 0x2026, .one 0x2020,
      .one 0x2021, .one 0x02C6, .one 0x2030, .one 0x0679, .one 0x2039, .one 0x0152, .one 0x0686,
      .one 0x0698, .one 0x0688, .one 0x06AF, .one 0x2018, .one 0x2019, .one 0x201C, .one 0x201D,
      .one 0x2022, .one 0x2013, .one 0x2014, .one 0x06A9, .one 0x2122, .one 0x0691, .one 0x203A,
      .one 0x0153, .one 0x200C, .one 0x200D, .one 0x06BA, .one 0x00A0, .one 0x060C,
      .all 0x00A2 0x00A9, .one 0x06BE, .all 0x00AB 0x00B9, .one 0x061B, .all 0x00BB 0x00BE,
      .one 0x061F, .one 0x06C1, .all 0x0621 0x0636, .one 0x00D7, .all 0x0637 0x063A,
      .all 0x0640 0x0643, .one 0x00E0, .one 0x0644, .one 0x00E2, .all 0x0645 0x0648,
      .all 0x00E7 0x00EB, .one 0x0649, .one 0x064A, .one 0x00EE, .one 0x00EF, .all 0x064B 0x064E,
      .one 0x00F4, .one 0x064F, .one 0x0650, .one 0x00F7, .one 0x0651, .one 0x00F9, .one 0x0652,
      .one 0x00FB, .one 0x00FC, .one 0x200E, .one 0x200F, .one 0x06D2]⟩

def windows1257 : CodePage :=
  ⟨"windows-1257",
    [.one 0x20AC, .one 0x0081, .one 0x201A, .one 0x0083, .one 0x201E, .one 0x2026, .one 0x2020,
      .one 0x2021, .one 0x0088, .one 0x2030, .one 0x008A, .one 0x2039, .one 0x008C, .one 0x00A8,
      .one 0x02C7, .one 0x00B8, .one 0x0090, .one 0x2018, .one 0x2019, .one 0x201C, .one 0x201D,
      .one 0x2022, .one 0x2013, .one 0x2014, .one 0x0098, .one 0x2122, .one 0x009A, .one 0x203A,
      .one 0x009C, .one 0x00AF, .one 0x02DB, .one 0x009F, .one 0x00A0, .gap 1, .all 0x00A2 0x00A4,
      .gap 1, .one 0x00A6, .one 0x00A7, .one 0x00D8, .one 0x00A9, .one 0x0156, .all 0x00AB 0x00AE,
      .one 0x00C6, .all 0x00B0 0x00B7, .one 0x00F8, .one 0x00B9, .one 0x0157, .all 0x00BB 0x00BE,
      .one 0x00E6, .one 0x0104, .one 0x012E, .one 0x0100, .one 0x0106, .one 0x00C4, .one 0x00C5,
      .one 0x0118, .one 0x0112, .one 0x010C, .one 0x00C9, .one 0x0179, .one 0x0116, .one 0x0122,
      .one 0x0136, .one 0x012A, .one 0x013B, .one 0x0160, .one 0x0143, .one 0x0145, .one 0x00D3,
      .one 0x014C, .all 0x00D5 0x00D7, .one 0x0172, .one 0x0141, .one 0x015A, .one 0x016A,
      .one 0x00DC, .one 0x017B, .one 0x017D, .one 0x00DF, .one 0x0105, .one 0x012F, .one 0x0101,
      .one 0x0107, .one 0x00E4, .one 0x00E5, .one 0x0119, .one 0x0113, .one 0x010D, .one 0x00E9,
      .one 0x017A, .one 0x0117, .one 0x0123, .one 0x0137, .one 0x012B, .one 0x013C, .one 0x0161,
      .one 0x0144, .one 0x0146, .one 0x00F3, .one 0x014D, .all 0x00F5 0x00F7, .one 0x0173,
      .one 0x0142, .one 0x015B, .one 0x016B, .one 0x00FC, .one 0x017C, .one 0x017E, .one 0x02D9]⟩

def windows1258 : CodePage :=
  ⟨"windows-1258",
    [.one 0x20AC, .one 0x0081, .one 0x201A, .one 0x0192, .one 0x201E, .one 0x2026, .one 0x2020,
      .one 0x2021, .one 0x02C6, .one 0x2030, .one 0x008A, .one 0x2039, .one 0x0152,
      .all 0x008D 0x0090, .one 0x2018, .one 0x2019, .one 0x201C, .one 0x201D, .one 0x2022,
      .one 0x2013, .one 0x2014, .one 0x02DC, .one 0x2122, .one 0x009A, .one 0x203A, .one 0x0153,
      .one 0x009D, .one 0x009E, .one 0x0178, .all 0x00A0 0x00C2, .one 0x0102, .all 0x00C4 0x00CB,
      .one 0x0300, .all 0x00CD 0x00CF, .one 0x0110, .one 0x00D1, .one 0x0309, .one 0x00D3,
      .one 0x00D4, .one 0x01A0, .all 0x00D6 0x00DC, .one 0x01AF, .one 0x0303, .all 0x00DF 0x00E2,
      .one 0x0103, .all 0x00E4 0x00EB, .one 0x0301, .all 0x00ED 0x00EF, .one 0x0111, .one 0x00F1,
      .one 0x0323, .one 0x00F3, .one 0x00F4, .one 0x01A1, .all 0x00F6 0x00FC, .one 0x01B0,
      .one 0x20AB, .one 0x00FF]⟩

def windows874 : CodePage :=
  ⟨"windows-874",
    [.one 0x20AC, .all 0x0081 0x0084, .one 0x2026, .all 0x0086 0x0090, .one 0x2018, .one 0x2019,
      .one 0x201C, .one 0x201D, .one 0x2022, .one 0x2013, .one 0x2014, .all 0x0098 0x00A0,
      .all 0x0E01 0x0E3A, .gap 4, .all 0x0E3F 0x0E5B, .gap 4]⟩

def macCyrillic : CodePage :=
  ⟨"x-mac-cyrillic",
    [.all 0x0410 0x042F, .one 0x2020, .one 0x00B0, .one 0x0490, .one 0x00A3, .one 0x00A7,
      .one 0x2022, .one 0x00B6, .one 0x0406, .one 0x00AE, .one 0x00A9, .one 0x2122, .one 0x0402,
      .one 0x0452, .one 0x2260, .one 0x0403, .one 0x0453, .one 0x221E, .one 0x00B1, .one 0x2264,
      .one 0x2265, .one 0x0456, .one 0x00B5, .one 0x0491, .one 0x0408, .one 0x0404, .one 0x0454,
      .one 0x0407, .one 0x0457, .one 0x0409, .one 0x0459, .one 0x040A, .one 0x045A, .one 0x0458,
      .one 0x0405, .one 0x00AC, .one 0x221A, .one 0x0192, .one 0x2248, .one 0x2206, .one 0x00AB,
      .one 0x00BB, .one 0x2026, .one 0x00A0, .one 0x040B, .one 0x045B, .one 0x040C, .one 0x045C,
      .one 0x0455, .one 0x2013, .one 0x2014, .one 0x201C, .one 0x201D, .one 0x2018, .one 0x2019,
      .one 0x00F7, .one 0x201E, .one 0x040E, .one 0x045E, .one 0x040F, .one 0x045F, .one 0x2116,
      .one 0x0401, .one 0x0451, .one 0x044F, .all 0x0430 0x044E, .one 0x20AC]⟩

def userDefined : CodePage :=
  ⟨"x-user-defined",
    [.all 0xF780 0xF7FF]⟩

end CodePage

end Encoding

end SchemaScript
