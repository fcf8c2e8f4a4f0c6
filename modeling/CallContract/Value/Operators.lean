import CallContract.Fault
import CallContract.Rule.Scalar
import CallContract.Text.Codec
import CallContract.Value.Equality

/-!
# Operators on values

The operators that function bodies can use, and the calls of basic types and of the functions
that exist from the start. An operator that a value does not support gives the fault
`wrongType`.
-/

namespace CallContract

namespace Value

/-- The result of an operation on numerals that may be too large. -/
def ofSum : Option Numeral → Except Fault Value
  | some n => .ok (ofNumeral n)
  | none => .error .overflow

/-- The most items or characters that there is room for. -/
def roomLimit : Nat := 1000000000

/-- How often `length` items are repeated by a number of times: not at all for a number below one.
The number has to fit into 64 bits; more items than a number of 64 bits can count are the fault
`beyond`. -/
def repetitions (length : Nat) (times : Int) (beyond : Fault) : Except Fault Nat :=
  if !Scalar.fitsWord times then .error .overflow
  else
    let size := length * times.toNat
    if twoTo 63 ≤ size then .error beyond
    else if roomLimit < size then .error .outOfMemory
    else .ok times.toNat

/-- A text repeated. -/
def repeatText (s : String) : Nat → String
  | 0 => ""
  | n + 1 =>
    let half := repeatText s ((n + 1) / 2)
    if (n + 1) % 2 = 0 then half ++ half else half ++ half ++ s
  decreasing_by omega

/-- Items repeated. However often, no items are no items. -/
def repeatItems {α : Type} (xs : List α) (n : Nat) : List α :=
  if xs.isEmpty then [] else (List.replicate n xs).flatten

/-- A sequence times a number. -/
def repeated? (v : Value) (times : Int) : Option (Except Fault Value) :=
  match v with
  | .bytes bs => some ((repetitions bs.length times .overflow).map fun n =>
      .bytes (repeatItems bs n))
  | .list _ xs => some ((repetitions xs.length times .outOfMemory).map fun n =>
      .list .fresh (repeatItems xs n))
  | .tuple _ xs => some ((repetitions xs.length times .outOfMemory).map fun n =>
      .tuple .fresh (repeatItems xs n))
  | v => v.text?.map fun s => (repetitions s.length times .overflow).map fun n =>
      .text (repeatText s n)

/-- The sum of numerals, or two sequences of one sort joined. -/
def add (a b : Value) : Except Fault Value :=
  match a.numeral?, b.numeral? with
  | some m, some n => ofSum (m.add n)
  | _, _ =>
    match a.text?, b.text? with
    | some s, some t => .ok (.text (s ++ t))
    | _, _ =>
      match a, b with
      | .bytes s, .bytes t => .ok (.bytes (s ++ t))
      | .list _ xs, .list _ ys => .ok (.list .fresh (xs ++ ys))
      | .tuple _ xs, .tuple _ ys => .ok (.tuple .fresh (xs ++ ys))
      | _, _ => .error .wrongType

/-- The whole number that a value is as a number of times. -/
def times? (v : Value) : Option Int := v.numeral?.bind Numeral.whole?

/-- The product of numerals, or a sequence repeated. -/
def mul (a b : Value) : Except Fault Value :=
  match a.numeral?, b.numeral? with
  | some m, some n => ofSum (m.mul n)
  | _, _ =>
    match b.times?.bind (repeated? a), a.times?.bind (repeated? b) with
    | some r, _ => r
    | none, some r => r
    | none, none => .error .wrongType

/-- The remainder of whole numbers, which has the sign of the divisor. -/
def mod (a b : Value) : Except Fault Value :=
  match a.times?, b.times? with
  | some m, some n => if n = 0 then .error .divisionByZero else .ok (.int (m.fmod n))
  | _, _ => .error .wrongType

mutual

/-- Whether one value comes before another: numerals by their size, texts and bytes by their
characters, lists and tuples by their first difference, sets if they are part of another. -/
def less : Value → Value → Except Fault Bool
  | .list _ xs, w => match w with
    | .list _ ys => lessItems xs ys
    | _ => .error .wrongType
  | .tuple _ xs, w => match w with
    | .tuple _ ys => lessItems xs ys
    | _ => .error .wrongType
  | .set _ xs, w => match w with
    | .set _ ys => .ok (xs.length < ys.length && itemsAmong xs ys)
    | .frozenset _ ys => .ok (xs.length < ys.length && itemsAmong xs ys)
    | _ => .error .wrongType
  | .frozenset _ xs, w => match w with
    | .set _ ys => .ok (xs.length < ys.length && itemsAmong xs ys)
    | .frozenset _ ys => .ok (xs.length < ys.length && itemsAmong xs ys)
    | _ => .error .wrongType
  | .bytes s, w => match w with
    | .bytes t => .ok (s.map (·.toNat) < t.map (·.toNat))
    | _ => .error .wrongType
  | v, w =>
    match v.numeral?, w.numeral? with
    | some m, some n => .ok (m.less n)
    | _, _ =>
      match v.text?, w.text? with
      | some s, some t => .ok (s < t)
      | _, _ => .error .wrongType

/-- Whether one list of items comes before another. -/
def lessItems : List Value → List Value → Except Fault Bool
  | [], ys => .ok !ys.isEmpty
  | x :: xs, ys => match ys with
    | [] => .ok false
    | y :: ys => if x.same y then lessItems xs ys else less x y

end

/-- The number of items or characters. -/
def len (v : Value) : Except Fault Value :=
  match v with
  | .bytes bs => .ok (.int bs.length)
  | .dict _ es => .ok (.int es.length)
  | v =>
    match v.items?, v.text? with
    | some xs, _ => .ok (.int xs.length)
    | none, some s => .ok (.int s.length)
    | none, none => .error .wrongType

/-- The items that a value gives one after the other. -/
def iterate? : Value → Option (List Value)
  | .dict _ es => some (es.map (·.1))
  | .bytes bs => some (bs.map fun b => .int b.toNat)
  | v =>
    match v.elements? with
    | some xs => some xs
    | none => v.text?.map fun s => s.toList.map fun c => .text (String.ofList [c])

/-- The distance of a numeral from zero. -/
def abs (v : Value) : Except Fault Value :=
  match v.numeral? with
  | some (.real d) => .ok (.float d.abs)
  | some n => .ok (.int ((n.whole?.getD 0).natAbs))
  | none => .error .wrongType

/-- The sum of all items from a start on. Texts and bytes are not summed. -/
def sum (items start : Value) : Except Fault Value :=
  match items.iterate?, start with
  | none, _ => .error .wrongType
  | _, .bytes _ => .error .wrongType
  | some xs, start => if start.text?.isSome then .error .wrongType else xs.foldlM add start

/-- The characters of a value that is a text or bytes, each of which stands for a character. -/
def characters? : Value → Option (List Char)
  | .bytes bs => some (bs.map fun b => Char.ofNat b.toNat)
  | v => v.text?.map String.toList

/-- The whole number in a text in a base. -/
def readWhole (base : Nat) (v : Value) (cs : List Char) : Except Fault Int :=
  (Literal.whole base cs).mapError fun d => .wrongValue (d.message base v.shown)

/-- A whole number from a numeral or a text. -/
def toInt (v : Value) : Except Fault Value :=
  match v with
  | .nan _ => .error (.wrongValue "cannot convert float NaN to integer")
  | .float d => match d.truncate? with
    | some i => .ok (.int i)
    | none => .error .overflow
  | v =>
    match v.times?, v.characters? with
    | some i, _ => .ok (.int i)
    | none, some cs => (readWhole 10 v cs).map .int
    | none, none => .error .wrongType

/-- A whole number from a text in a base. The base is looked at first. -/
def toIntIn (v base : Value) : Except Fault Value :=
  match base.times? with
  | none => .error .wrongType
  | some b =>
    if ¬ (b = 0 ∨ (2 ≤ b ∧ b ≤ 36)) then
      .error (.wrongValue "int() base must be >= 2 and <= 36, or 0")
    else match v.characters? with
      | some cs => (readWhole b.toNat v cs).map .int
      | none => .error .wrongType

/-- The double in a text. -/
def readFraction (v : Value) (cs : List Char) : Except Fault Double :=
  match Literal.fraction? cs with
  | some d => .ok d
  | none => .error (.wrongValue (Literal.fractionMessage v.shown))

/-- A double from a numeral or a text. -/
def toFloat (v : Value) : Except Fault Value :=
  match v with
  | .nan l => .ok (.nan l)
  | v =>
    match v.numeral?, v.characters? with
    | some n, _ => match n.double? with
      | some d => .ok (.ofDouble d)
      | none => .error .overflow
    | none, some cs => (readFraction v cs).map .ofDouble
    | none, none => .error .wrongType

/-- The name of a codec or remedy. It is a text without the character zero. -/
def codecWord (v : Value) : Except Fault String :=
  match v.text? with
  | none => .error .wrongType
  | some s =>
    if s.toList.contains '\x00' then .error (.wrongValue "embedded null character") else .ok s

/-- The fault of a codec that gives nothing. -/
def codecFault (unfit : String → Fault) : CodecFault → Fault
  | .unfit reason => unfit reason
  | .noRemedy => .noCodec
  | .wrongRemedy => .wrongType

/-- The codec of a name. -/
def codecOf (name : Option String) : Except Fault Codec :=
  match name with
  | none => .ok .utf8
  | some s => match Codec.ofName? s with
    | some c => .ok c
    | none => .error .noCodec

/-- The remedy that is taken if none is named. -/
def standardRemedy : String := "strict"

/-- The text of bytes by a codec. No bytes are no text by any codec. -/
def decodeBy (v : Value) (codec remedy : Option String) : Except Fault Value :=
  match v with
  | .bytes [] => .ok (.text "")
  | .bytes bs => do
    let c ← codecOf codec
    let s ← (c.decode (remedy.getD standardRemedy) bs).mapError (codecFault Fault.notText)
    return .text s
  | _ => .error .wrongType

/-- The bytes of a text by a codec. -/
def encodeBy (v : Value) (codec : String) (remedy : Option String) : Except Fault Value :=
  match v.text? with
  | some s => do
    let c ← codecOf (some codec)
    let bs ← (c.encode (remedy.getD standardRemedy) s).mapError (codecFault Fault.notEncodable)
    return .bytes bs
  | none => .error .wrongType

/-- The byte that a value is the number of. -/
def toByte (v : Value) : Except Fault UInt8 :=
  match v.times? with
  | none => .error .wrongType
  | some i =>
    if 0 ≤ i ∧ i < 256 then .ok i.toNat.toUInt8
    else .error (.wrongValue "bytes must be in range(0, 256)")

/-- So many zero bytes. -/
def zeroBytes (n : Int) : Except Fault Value :=
  if !Scalar.fitsWord n then .error .overflow
  else if n < 0 then .error (.wrongValue "negative count")
  else if twoTo 63 - 34 < n.toNat then .error .overflow
  else if roomLimit < n.toNat then .error .outOfMemory
  else .ok (.bytes (List.replicate n.toNat 0))

/-- Bytes from other bytes, from their number, or from the numbers of bytes. -/
def toBytes (v : Value) : Except Fault Value :=
  match v, v.times? with
  | .bytes bs, _ => .ok (.bytes bs)
  | _, some n => zeroBytes n
  | v, none =>
    match v.text?, v.iterate? with
    | none, some xs => do
      let bs ← xs.mapM toByte
      return .bytes bs
    | _, _ => .error .wrongType

/-- The items of a value, all of them hashable. -/
def hashableItems (v : Value) : Except Fault (List Value) :=
  match v.iterate? with
  | some xs => if allHashable xs then .ok (distinct xs) else .error .wrongType
  | none => .error .wrongType

/-- An entry from a sequence of two items, which comes at the given index. The key has to be
hashable. -/
def toEntry (index : Nat) (v : Value) : Except Fault (Value × Value) :=
  match v.iterate? with
  | none => .error .wrongType
  | some [k, x] => if k.isHashable then .ok (k, x) else .error .wrongType
  | some xs =>
    .error (.wrongValue ("dictionary update sequence element #" ++ toString index ++
      " has length " ++ toString xs.length ++ "; 2 is required"))

/-- A dictionary from the entries of another or from pairs, with keywords put into it. -/
def toDict (v : Value) (kw : List (String × Value)) : Except Fault Value := do
  let entries ← match v with
    | .dict _ es => .ok es
    | v => match v.iterate? with
      | none => .error .wrongType
      | some xs => xs.zipIdx.mapM fun (x, i) => x.toEntry i
  let all := entries ++ kw.map fun (n, x) => (.text n, x)
  return .dict .fresh (all.foldl (fun acc (k, x) => putEntry acc k x) [])

end Value

/-- The value of a basic type that is called without arguments, for the types that have one. -/
def BaseType.empty? : BaseType → Option Value
  | .int => some (.int 0)
  | .float => some (.float (.zero false))
  | .text => some (.text "")
  | .bool => some (.bool false)
  | .bytes => some (.bytes [])
  | .object => some (.other "object" "<object object>" "")
  | .null => some .null
  | .list => some (.list .fresh [])
  | .dict => some (.dict .fresh [])
  | .tuple => some (.tuple .fresh [])
  | .set => some (.set .fresh [])
  | .frozenset => some (.frozenset .fresh [])
  | _ => none

/-- The value of a basic type that is made from another value. -/
def BaseType.convert (t : BaseType) (v : Value) : Except Fault Value :=
  match t with
  | .int => v.toInt
  | .float => v.toFloat
  | .text => v.tell.map .text
  | .bool => .ok (.bool v.isTruthy)
  | .dict => v.toDict []
  | .list => (v.iterate?.map fun xs => .ok (.list .fresh xs)).getD (.error .wrongType)
  | .tuple => (v.iterate?.map fun xs => .ok (.tuple .fresh xs)).getD (.error .wrongType)
  | .set => v.hashableItems.map (.set .fresh)
  | .frozenset => v.hashableItems.map (.frozenset .fresh)
  | .bytes => v.toBytes
  | _ => .error .wrongType

/-- What is given for parameters, by position and by name; nothing if something is given twice or
for no parameter. -/
def given? : List String → List Value → List (String × Value) → Option (List (Option Value))
  | [], [], [] => some []
  | [], _, _ => none
  | n :: ns, v :: vs, kw =>
    if (kw.lookup n).isSome then none else (given? ns vs kw).map (some v :: ·)
  | n :: ns, [], kw => (given? ns [] (kw.filter (·.1 != n))).map (kw.lookup n :: ·)

/-- A text from another value, or from bytes by a codec. -/
def callText (source codec remedy : Option Value) : Except Fault Value := do
  let codec ← codec.mapM Value.codecWord
  let remedy ← remedy.mapM Value.codecWord
  match source with
  | none => return .text ""
  | some v =>
    if codec.isNone && remedy.isNone then v.tell.map .text else v.decodeBy codec remedy

/-- Bytes from another value, or from a text by a codec. -/
def callBytes (source codec remedy : Option Value) : Except Fault Value := do
  let codec ← codec.mapM Value.codecWord
  let remedy ← remedy.mapM Value.codecWord
  match source, codec, remedy with
  | none, none, none => return .bytes []
  | some v, some c, r => v.encodeBy c r
  | some v, none, none => v.toBytes
  | _, _, _ => throw .wrongType

/-- The value that a call of a basic type gives. -/
def BaseType.call (t : BaseType) (args : List Value) (kw : List (String × Value)) :
    Except Fault Value :=
  match t, args, kw with
  | .dict, [], kw => Value.toDict (.dict .fresh []) kw
  | .dict, [v], kw => v.toDict kw
  | .text, args, kw => match given? ["object", "encoding", "errors"] args kw with
    | some [v, c, r] => callText v c r
    | _ => .error .wrongType
  | .bytes, args, kw => match given? ["source", "encoding", "errors"] args kw with
    | some [v, c, r] => callBytes v c r
    | _ => .error .wrongType
  | .int, [v, b], [] => v.toIntIn b
  | .int, [v], [("base", b)] => v.toIntIn b
  | t, [], [] => (t.empty?.map .ok).getD (.error .wrongType)
  | t, [v], [] => t.convert v
  | _, _, _ => .error .wrongType

/-- The basic type that makes the values of an annotation, if one does. -/
def Form.base? : Form → Option BaseType
  | .list => some .list
  | .set => some .set
  | .frozenset => some .frozenset
  | .dict => some .dict
  | .variadic => some .tuple
  | .fixed => some .tuple
  | _ => none

end CallContract
