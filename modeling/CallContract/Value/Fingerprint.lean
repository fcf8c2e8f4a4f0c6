import CallContract.Fault
import CallContract.Value.Equality

/-!
# Fingerprints

Values that can be keys are spread by their hashes. What two values have to share for one hash is
the fingerprint: that of a number is its remainder by a prime, that of a text are the bytes in which
it is kept, that of a schema is that of the tuple of its parts. Equal values have one fingerprint,
but so have some others, such as `-1` and `-2`.
-/

namespace CallContract

/-- What the hash of a value is made from. -/
inductive Fingerprint where
  | number (i : Int)
  | data (bs : List UInt8)
  | sequence (parts : List Fingerprint)
  | group (parts : List Fingerprint)
  | alias (f : Form) (parts : List Fingerprint)
  | thing (v : Value)
  deriving Inhabited

namespace Fingerprint

/-- The prime by which numbers are reduced. -/
def modulus : Nat := twoTo 61 - 1

/-- A reduced number with its sign. The number -1 is kept free. -/
def ofResidue (negative : Bool) (r : Nat) : Fingerprint :=
  let i : Int := if negative then -(r : Int) else r
  .number (if i = -1 then -2 else i)

/-- The fingerprint of a whole number. -/
def ofInt (i : Int) : Fingerprint := ofResidue (i < 0) (i.natAbs % modulus)

/-- The fingerprint of an infinity, but for its sign. -/
def infinity : Nat := 314159

/-- The fingerprint of a double: that of a whole number equal to it, since 2⁶¹ leaves 1. -/
def ofDouble : Double → Fingerprint
  | .finite s m e => ofResidue s (m * twoTo (e.emod 61).toNat % modulus)
  | .infinite s => ofResidue s infinity
  | .nan => .number 0

/-- The fingerprint of data. No data count as zero. -/
def ofBytes (bs : List UInt8) : Fingerprint := if bs.isEmpty then .number 0 else .data bs

/-- A number as so many bytes, the lowest first. -/
def lowBytes : Nat → Nat → List UInt8
  | 0, _ => []
  | k + 1, n => (n % 256).toUInt8 :: lowBytes k (n / 256)

/-- The fingerprint of a text: all its characters take as many bytes as the greatest of them. -/
def ofText (s : String) : Fingerprint :=
  let codes := s.toList.map Char.toNat
  let greatest := codes.foldl max 0
  let width := if greatest < 256 then 1 else if greatest < 65536 then 2 else 4
  ofBytes (codes.flatMap (lowBytes width))

mutual

/-- Whether two fingerprints are the same. The parts of a group have no order. -/
def same : Fingerprint → Fingerprint → Bool
  | .number i, q => match q with
    | .number j => i == j
    | _ => false
  | .data bs, q => match q with
    | .data cs => bs == cs
    | _ => false
  | .sequence ps, q => match q with
    | .sequence qs => sameParts ps qs
    | _ => false
  | .group ps, q => match q with
    | .group qs => sameGroup ps qs
    | _ => false
  | .alias f ps, q => match q with
    | .alias g qs => f == g && sameParts ps qs
    | _ => false
  | .thing v, q => match q with
    | .thing w => v.same w
    | _ => false

/-- Whether two lists of fingerprints are the same. -/
def sameParts : List Fingerprint → List Fingerprint → Bool
  | [], qs => qs.isEmpty
  | p :: ps, qs => match qs with
    | [] => false
    | q :: qs => p.same q && sameParts ps qs

/-- Whether two lists of fingerprints are the same but for their order. -/
def sameGroup : List Fingerprint → List Fingerprint → Bool
  | [], qs => qs.isEmpty
  | p :: ps, qs => qs.any (fun q => p.same q) && sameGroup ps (qs.eraseP fun q => p.same q)

end

end Fingerprint

/-- The fingerprint of a bound. -/
def boundFingerprint : Option Numeral → Fingerprint
  | none => .thing .null
  | some n => match n.whole?, n with
    | some i, _ => .ofInt i
    | none, .real d => .ofDouble d
    | none, _ => .number 0

mutual

/-- The fingerprint of a value. -/
def Value.fingerprint : Value → Fingerprint
  | .bool b => .ofInt (if b then 1 else 0)
  | .int i => .ofInt i
  | .float d => .ofDouble d
  | .text s => .ofText s
  | .bytes bs => .ofBytes bs
  | .mode m => .ofText m.word
  | .boundary b => .ofText b.word
  | .tuple _ xs => .sequence (fingerprints xs)
  | .frozenset _ xs => .group (fingerprints xs)
  | .form _ .optional xs => .group (.thing (.type .null) :: fingerprints xs)
  | .form _ .union xs => .group (fingerprints xs)
  | .form _ .literal xs => .group (fingerprints xs)
  | .form _ f xs => .alias f (fingerprints xs)
  | .settings _ m s _ => .sequence [.ofText m.word, .ofInt (if s then 1 else 0)]
  | .schema s => s.fingerprint
  | .contract c => c.fingerprint
  | v => .thing v

/-- The fingerprints of the values of a list. -/
def fingerprints : List Value → List Fingerprint
  | [] => []
  | v :: vs => v.fingerprint :: fingerprints vs

/-- The fingerprint of a schema: that of the tuple of its parts. -/
def Schema.fingerprint : Schema → Fingerprint
  | .bare l fs => .thing (.schema (.bare l fs))
  | .primitive _ t => .sequence [t.fingerprint]
  | .any _ => .sequence []
  | .refined _ b p m => .sequence [b.fingerprint, p.fingerprint, m.fingerprint]
  | .tuple _ ss => .sequence [.sequence (schemaFingerprints ss)]
  | .array _ e n lo hi =>
    .sequence [e.fingerprint, boundFingerprint n, boundFingerprint lo, boundFingerprint hi]
  | .function _ a r => .sequence [a.fingerprint, r.fingerprint]
  | .foreign v => v.fingerprint

/-- The fingerprints of the schemas of a list. -/
def schemaFingerprints : List Schema → List Fingerprint
  | [] => []
  | s :: ss => s.fingerprint :: schemaFingerprints ss

/-- The fingerprint of the mode of a contract. -/
def ModeChoice.fingerprint : ModeChoice → Fingerprint
  | .unset => .thing .null
  | .known m => .ofText m.word
  | .foreign v => v.fingerprint

/-- The fingerprint of a contract: that of the tuple of its parts. -/
def Contract.fingerprint : Contract → Fingerprint
  | ⟨_, a, r, m⟩ => .sequence [a.fingerprint, r.fingerprint, m.fingerprint]

end

/-- Whether two values have the same hash, which only values that may be keys have. -/
def sameHash (a b : Value) : Except Fault Bool :=
  if a.isHashable && b.isHashable then .ok (a.fingerprint.same b.fingerprint)
  else .error .wrongType

end CallContract
