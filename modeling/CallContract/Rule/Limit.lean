import CallContract.Issue
import CallContract.Value.Equality

/-!
# Limits

A limit narrows a rule by what a checked value is compared with: a number by a bound, a text or
bytes by a length, any value by a list of those that will do. `Limit.complaint?` is what a limit
has against a value; a value that cannot be compared meets it.
-/

namespace CallContract

/-- What narrows a rule for single values. -/
inductive Limit where
  | bound (b : Bound) (n : Numeral)
  | multiple (of : Int)
  | shortest (n : Nat)
  | longest (n : Nat)
  | among (values : List Value)
  deriving Inhabited

/-- Whether a number is outside a bound. A number that is none is within all. -/
def Bound.excludes (b : Bound) (limit n : Numeral) : Bool :=
  match b with
  | .atMost => limit.less n
  | .below => limit.less n || limit.same n
  | .atLeast => n.less limit
  | .above => n.less limit || n.same limit

/-- The text of a limit in a message: a double without fraction is written as a whole number. -/
def Numeral.plainText (n : Numeral) : String :=
  match n with
  | .real d => match d.isWhole, d.truncate? with
    | true, some i => toString i
    | _, _ => d.text
  | n => n.text

/-- The texts of some things, the last two with "or" between them. -/
def choiceText (shown : List String) : String :=
  match shown.reverse with
  | [] => ""
  | [s] => s
  | s :: rest => String.intercalate ", " rest.reverse ++ " or " ++ s

namespace Limit

/-- What a length has against a text or bytes. -/
def lengthComplaint? (tooShort : Bool) (n : Nat) : Value → Option Complaint
  | .bytes bs =>
    let wrong := if tooShort then decide (bs.length < n) else decide (n < bs.length)
    if wrong then some (.dataLength tooShort n) else none
  | .text s =>
    let wrong := if tooShort then decide (s.length < n) else decide (n < s.length)
    if wrong then some (.textLength tooShort n) else none
  | _ => none

/-- What a limit has against a value. -/
def complaint? (l : Limit) (v : Value) : Option Complaint :=
  match l with
  | .bound b limit => match v.numeral? with
    | some n => if b.excludes limit n then some (.outOfBound b limit.plainText) else none
    | none => none
  | .multiple d => match v with
    | .int i => if i.emod d = 0 then none else some (.notMultiple d)
    | _ => none
  | .shortest n => lengthComplaint? true n v
  | .longest n => lengthComplaint? false n v
  | .among vs =>
    if vs.any fun w => w.kindName == v.kindName && w.same v then none
    else some (.notAmong (choiceText (vs.map Value.shown)))

end Limit

/-- The first complaint of some limits about a value. -/
def firstComplaint? (ls : List Limit) (v : Value) : Option Complaint :=
  ls.findSome? fun l => l.complaint? v

end CallContract
