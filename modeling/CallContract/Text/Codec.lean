import CallContract.Text.Quoted
import CallContract.Text.Utf8

/-!
# Codecs

A codec turns a text into bytes and bytes into a text. Three of them can be named, each by several
names. What a codec cannot turn is reported with its place, or put right by a remedy, which is named
as well.
-/

namespace CallContract

/-- The codecs that can be named. -/
inductive Codec where
  | utf8
  | ascii
  | latin1
  deriving DecidableEq, Repr, Inhabited

/-- What is done about what a codec cannot turn: nothing, or it is left out, or something is put in
its place: a mark, an escape, or a reference by number. -/
inductive Remedy where
  | strict
  | ignore
  | replace
  | escape
  | reference
  deriving DecidableEq, Repr, Inhabited

/-- A remedy by its name. -/
def Remedy.ofName? (name : String) : Option Remedy :=
  [("strict", strict), ("ignore", ignore), ("replace", replace), ("backslashreplace", escape),
    ("xmlcharrefreplace", reference)].lookup name

/-- Why a codec gives nothing: something cannot be turned, the remedy for it is none, or is not one
for bytes. -/
inductive CodecFault where
  | unfit (reason : String)
  | noRemedy
  | wrongRemedy
  deriving DecidableEq, Repr, Inhabited

namespace Codec

/-- The names of a codec, in lower case and with dashes. -/
def names : Codec → List String
  | utf8 => ["utf-8", "utf8", "u8", "utf"]
  | ascii => ["ascii", "us-ascii", "646"]
  | latin1 => ["latin-1", "latin1", "latin", "iso-8859-1", "iso8859-1", "8859", "cp819", "l1"]

/-- The codec of a name, in any case and with any of three marks as a dash. -/
def ofName? (s : String) : Option Codec :=
  let plain := String.ofList (s.toList.map fun c => if c == '_' || c == ' ' then '-' else c.toLower)
  [utf8, ascii, latin1].find? fun c => c.names.contains plain

/-- The number of characters that a codec with one byte for each of them has. -/
def size : Codec → Nat
  | utf8 => 0x110000
  | ascii => 128
  | latin1 => 256

/-- The beginning of a report on what a codec cannot turn. -/
def complaint (c : Codec) (verb : String) : String :=
  "'" ++ (c.names.headD "") ++ "' codec can't " ++ verb ++ " "

/-- The end of a report on a character or byte that a codec does not have. -/
def rangeText (c : Codec) : String := ": ordinal not in range(" ++ toString c.size ++ ")"

/-- A character as an escape. -/
def escape (c : Char) : String :=
  let n := c.toNat
  String.ofList <|
    if n < 0x100 then '\\' :: 'x' :: hexDigits 2 n
    else if n < 0x10000 then '\\' :: 'u' :: hexDigits 4 n
    else '\\' :: 'U' :: hexDigits 8 n

/-- The report on characters without bytes, which follow `place` others. -/
def encodeReport (c : Codec) (place : Nat) (bad : List Char) : String :=
  match bad with
  | [x] => c.complaint "encode" ++ "character '" ++ escape x ++ "' in position " ++
      toString place ++ c.rangeText
  | bad => c.complaint "encode" ++ "characters in position " ++ toString place ++ "-" ++
      toString (place + bad.length - 1) ++ c.rangeText

/-- The text that a remedy puts in the place of characters without bytes. -/
def substitute (r : Remedy) (bad : List Char) : String :=
  match r with
  | .strict => ""
  | .ignore => ""
  | .replace => String.ofList (bad.map fun _ => '?')
  | .escape => String.join (bad.map escape)
  | .reference => String.join (bad.map fun x => "&#" ++ toString x.toNat ++ ";")

/-- The bytes of a text by a codec with one byte for each character. The name of the remedy matters
only if there is a character without one. The measure bounds the number of characters. -/
def encodeFrom (c : Codec) (remedy : String) (place : Nat) : Nat → List Char →
    Except CodecFault (List UInt8)
  | 0, _ => .ok []
  | fuel + 1, cs => do
    let isIn (x : Char) : Bool := x.toNat < c.size
    let toBytes (cs : List Char) : List UInt8 := cs.map fun x => x.toNat.toUInt8
    let good := cs.takeWhile isIn
    let rest := cs.dropWhile isIn
    let bad := rest.takeWhile fun x => !isIn x
    if bad.isEmpty then return toBytes good
    match Remedy.ofName? remedy with
    | none => throw .noRemedy
    | some .strict => throw (.unfit (c.encodeReport (place + good.length) bad))
    | some r =>
      let after ← encodeFrom c remedy (place + good.length + bad.length) fuel
        (rest.drop bad.length)
      return toBytes good ++ toBytes (substitute r bad).toList ++ after

/-- The bytes of a text. -/
def encode (c : Codec) (remedy s : String) : Except CodecFault (List UInt8) :=
  if c = utf8 then .ok s.toUTF8.toList else encodeFrom c remedy 0 (s.length + 1) s.toList

/-- The first bytes that belong to no character: how many come before them, how many they are, and
the report on them. -/
def firstUnfit? (c : Codec) (bs : List UInt8) : Option (Nat × Nat × (Nat → String)) :=
  match c with
  | utf8 => (portionDefect? bs.length 0 (bs.map UInt8.toNat)).map fun (d, place, rest) =>
      (place, d.count rest, fun before => defectText d (before + place) rest)
  | c =>
    let good := bs.takeWhile fun b => b.toNat < c.size
    (bs[good.length]?).map fun b => (good.length, 1, fun before =>
      c.complaint "decode" ++ "byte 0x" ++ String.ofList (hexDigits 2 b.toNat) ++
        " in position " ++ toString (before + good.length) ++ c.rangeText)

/-- The text of bytes all of which belong to characters. -/
def fitText (c : Codec) (bs : List UInt8) : String :=
  if c = utf8 then (String.fromUTF8? ⟨bs.toArray⟩).getD ""
  else String.ofList (bs.map fun b => Char.ofNat b.toNat)

/-- The text of bytes, of which `place` come before. The measure bounds their number. -/
def decodeFrom (c : Codec) (remedy : String) (place : Nat) : Nat → List UInt8 →
    Except CodecFault String
  | 0, _ => .ok ""
  | fuel + 1, bs =>
    match c.firstUnfit? bs with
    | none => .ok (c.fitText bs)
    | some (good, bad, report) => do
      let text := c.fitText (bs.take good)
      let escapes := ((bs.drop good).take bad).map fun b => escape (Char.ofNat b.toNat)
      let between ← match Remedy.ofName? remedy with
        | none => .error .noRemedy
        | some .strict => .error (.unfit (report place))
        | some .ignore => .ok ""
        | some .replace => .ok "\uFFFD"
        | some .escape => .ok (String.join escapes)
        | some .reference => .error .wrongRemedy
      let after ← decodeFrom c remedy (place + good + bad) fuel (bs.drop (good + bad))
      return text ++ between ++ after

/-- The text of bytes. -/
def decode (c : Codec) (remedy : String) (bs : List UInt8) : Except CodecFault String :=
  decodeFrom c remedy 0 (bs.length + 1) bs

end Codec

end CallContract
