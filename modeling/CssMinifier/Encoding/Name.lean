import CssMinifier.Encoding

/-! Names of encodings. Case does not matter, and everything between letters, digits and dots
counts as one underscore.
-/

namespace CssMinifier.Encoding

/-- What an encoding name stands for. Some names stand for transformations that do not give
text.
-/
inductive Meaning
  | text (codec : Codec)
  | transformation
deriving DecidableEq

namespace Name

/-- Holds for the characters that tell names apart. -/
def isKept (c : Char) : Bool :=
  c.isAlphanum || c = '.'

/-- The runs of kept characters of a name, in lower case, with underscores between them. The
flag tells whether an underscore is due before the next character.
-/
def plainFrom : Bool → Bool → List Char → List Char
  | _, _, [] => []
  | begun, due, c :: rest =>
      if isKept c then
        if begun && due then
          '_' :: c.toLower :: plainFrom true false rest
        else
          c.toLower :: plainFrom true false rest
      else
        plainFrom begun true rest

/-- The plain form of a name. -/
def plain (name : String) : String :=
  String.ofList (plainFrom false false name.toList)

/-- The proper names. -/
def proper : List (String × Meaning) :=
  [("utf_8", .text .utf8), ("utf_8_sig", .text .utf8Marked), ("ascii", .text .ascii),
   ("latin_1", .text .latin1), ("cp1252", .text .western), ("utf_16", .text .utf16),
   ("utf_16_le", .text .utf16Little), ("utf_16_be", .text .utf16Big),
   ("rot_13", .transformation), ("base64_codec", .transformation),
   ("bz2_codec", .transformation), ("hex_codec", .transformation),
   ("quopri_codec", .transformation), ("uu_codec", .transformation),
   ("zlib_codec", .transformation)]

/-- The other names, grouped by what they stand for. -/
def others : List (Meaning × List String) :=
  [(.text .utf8, ["cp65001", "u8", "utf", "utf8", "utf8_ucs2", "utf8_ucs4"]),
   (.text .ascii,
     ["646", "ansi_x3.4_1968", "ansi_x3.4_1986", "ansi_x3_4_1968", "cp367", "csascii", "ibm367",
      "iso646_us", "iso_646.irv_1991", "iso_ir_6", "us", "us_ascii"]),
   (.text .latin1,
     ["8859", "cp819", "csisolatin1", "ibm819", "iso8859", "iso8859_1", "iso_8859_1",
      "iso_8859_1_1987", "iso_ir_100", "l1", "latin", "latin1"]),
   (.text .western, ["1252", "windows_1252"]),
   (.text .utf16, ["u16", "utf16"]),
   (.text .utf16Little, ["unicodelittleunmarked", "utf_16le"]),
   (.text .utf16Big, ["unicodebigunmarked", "utf_16be"]),
   (.transformation,
     ["rot13", "base64", "base_64", "bz2", "hex", "quopri", "quoted_printable",
      "quotedprintable", "uu", "zip", "zlib"])]

/-- What another name stands for. -/
def other? (name : String) : Option Meaning :=
  (others.find? (·.2.contains name)).map (·.1)

/-- The name with its dots as underscores. -/
def undotted (name : String) : String :=
  String.ofList (name.toList.map fun c => if c = '.' then '_' else c)

/-- What a name stands for, if anything. Dots may replace underscores in the other names only.
-/
def meaning? (name : String) : Option Meaning :=
  let key := plain name
  (other? key <|> other? (undotted key)) <|> (proper.find? (·.1 = key)).map (·.2)

end Name

end CssMinifier.Encoding
