import CallContract.Value

/-!
# Equality of values

Two values are the same if they are of one sort and have the same parts; labels count only for the
value that is no number, which is the same as itself only.
Numerals are compared as numbers and texts as texts whatever their sort, a set without regard to
order, and a dictionary without regard to the order of its entries. The choices of a union or a
literal have no order either; those of a literal have to be of one sort to be the same. Functions,
pending results and bare schemas are the same only if they are one object. `Value.isHashable` says
which values may be members of a set or keys: those with no changeable part.
-/

namespace CallContract

/-- Whether two labels name one object. -/
def Label.sameObject (a b : Label) : Bool := a != .fresh && a == b

/-- Whether two functions are one object. -/
def Function.sameObject : Function → Function → Bool
  | .defined i _, .defined j _ => i == j
  | .applied i _ _, .applied j _ _ => i == j
  | .builtin a, .builtin b => a == b
  | .predicate a _ _, .predicate b _ _ => a == b
  | .checked i _ _ _, .checked j _ _ _ => i == j
  | .generic i _, .generic j _ => i == j
  | .factory i _ _ _ _, .factory j _ _ _ _ => i == j
  | _, _ => false

/-- Whether two optional bounds are equal. -/
def sameBound : Option Numeral → Option Numeral → Bool
  | none, none => true
  | some a, some b => a.same b
  | _, _ => false

mutual

/-- Whether two values are equal or one object. -/
def Value.same : Value → Value → Bool
  | .null, w => match w with
    | .null => true
    | _ => false
  | .bool b, w => (w.numeral?.map (Numeral.flag b).same).getD false
  | .int i, w => (w.numeral?.map (Numeral.whole i).same).getD false
  | .float d, w => (w.numeral?.map (Numeral.real d).same).getD false
  | .nan l, w => match w with
    | .nan l' => l.sameObject l'
    | _ => false
  | .text s, w => w.text? == some s
  | .mode m, w => w.text? == some m.word
  | .boundary b, w => w.text? == some b.word
  | .bytes bs, w => match w with
    | .bytes cs => bs == cs
    | _ => false
  | .list _ xs, w => match w with
    | .list _ ys => sameItems xs ys
    | _ => false
  | .tuple _ xs, w => match w with
    | .tuple _ ys => sameItems xs ys
    | _ => false
  | .set _ xs, w => match w with
    | .set _ ys => xs.length == ys.length && itemsAmong xs ys
    | .frozenset _ ys => xs.length == ys.length && itemsAmong xs ys
    | _ => false
  | .frozenset _ xs, w => match w with
    | .set _ ys => xs.length == ys.length && itemsAmong xs ys
    | .frozenset _ ys => xs.length == ys.length && itemsAmong xs ys
    | _ => false
  | .dict _ es, w => match w with
    | .dict _ fs => es.length == fs.length && entriesAmong es fs
    | _ => false
  | .point _ x y _, w => match w with
    | .point _ x' y' _ => x.same x' && y.same y'
    | _ => false
  | .token n _, w => match w with
    | .token n' _ => n == n'
    | _ => false
  | .record _ es, w => match w with
    | .record _ fs => es.length == fs.length && fieldsAmong es fs
    | _ => false
  | .type t, w => match w with
    | .type t' => t == t'
    | _ => false
  | .form _ f xs, w => match w with
    | .form _ f' ys => f == f' && match f with
      | .union => xs.length == ys.length && itemsAmong xs ys
      | .literal => xs.length == ys.length && choicesAmong xs ys
      | _ => sameItems xs ys
    | _ => false
  | .schema s, w => match w with
    | .schema t => s.same t
    | _ => false
  | .contract c, w => match w with
    | .contract d => c.same d
    | _ => false
  | .function f, w => match w with
    | .function g => f.sameObject g
    | _ => false
  | .settings _ m s _, w => match w with
    | .settings _ m' s' _ => m == m' && s == s'
    | _ => false
  | .pending i _, w => match w with
    | .pending j _ => i == j
    | _ => false
  | .other k _ s, w => match w with
    | .other k' _ s' => k == k' && s == s'
    | _ => false

/-- Whether two lists have equal items in the same order. -/
def sameItems : List Value → List Value → Bool
  | [], ys => ys.isEmpty
  | x :: xs, ys => match ys with
    | [] => false
    | y :: ys => x.same y && sameItems xs ys

/-- Whether each item of the first list equals one of the second. -/
def itemsAmong : List Value → List Value → Bool
  | [], _ => true
  | x :: xs, ys => ys.any (fun y => x.same y) && itemsAmong xs ys

/-- Whether each item of the first list equals one of its sort in the second. -/
def choicesAmong : List Value → List Value → Bool
  | [], _ => true
  | x :: xs, ys =>
    ys.any (fun y => x.kindName == y.kindName && x.same y) && choicesAmong xs ys

/-- Whether each entry of the first list equals one of the second, key and value. -/
def entriesAmong : List (Value × Value) → List (Value × Value) → Bool
  | [], _ => true
  | (k, v) :: es, fs => fs.any (fun (k', v') => k.same k' && v.same v') && entriesAmong es fs

/-- Whether each field of the first list equals one of the second, name and value. -/
def fieldsAmong : List (String × Value) → List (String × Value) → Bool
  | [], _ => true
  | (n, v) :: es, fs => fs.any (fun (n', v') => n == n' && v.same v') && fieldsAmong es fs

/-- Whether two schemas are equal: of one sort, with equal parts. -/
def Schema.same : Schema → Schema → Bool
  | .bare l _, t => match t with
    | .bare l' _ => l.sameObject l'
    | _ => false
  | .primitive _ v, t => match t with
    | .primitive _ w => v.same w
    | _ => false
  | .any _, t => match t with
    | .any _ => true
    | _ => false
  | .refined _ b p m, t => match t with
    | .refined _ b' p' m' => b.same b' && p.same p' && m.same m'
    | _ => false
  | .tuple _ ss, t => match t with
    | .tuple _ ts => sameSchemas ss ts
    | _ => false
  | .array l e n lo hi, t => match t with
    | .array l' e' n' lo' hi' =>
      l.sameObject l' || e.same e' && sameBound n n' && sameBound lo lo' && sameBound hi hi'
    | _ => false
  | .function _ a r, t => match t with
    | .function _ a' r' => a.same a' && r.same r'
    | _ => false
  | .foreign v, t => match t with
    | .foreign w => v.same w
    | _ => false

/-- Whether two lists have equal schemas in the same order. -/
def sameSchemas : List Schema → List Schema → Bool
  | [], ts => ts.isEmpty
  | s :: ss, ts => match ts with
    | [] => false
    | t :: ts => s.same t && sameSchemas ss ts

/-- Whether two contracts have the same modes. -/
def ModeChoice.same : ModeChoice → ModeChoice → Bool
  | .unset, n => match n with
    | .unset => true
    | _ => false
  | .known m, n => match n with
    | .known m' => m == m'
    | .foreign v => v.text? == some m.word
    | _ => false
  | .foreign v, n => match n with
    | .foreign w => v.same w
    | .known m => v.text? == some m.word
    | _ => false

/-- Whether two contracts have equal parts. -/
def Contract.same : Contract → Contract → Bool
  | ⟨_, a, r, m⟩, ⟨_, a', r', m'⟩ => a.same a' && r.same r' && m.same m'

end

theorem Value.same_form (l l' : Label) (f f' : Form) (xs ys : List Value) :
    (Value.form l f xs).same (.form l' f' ys) = (f == f' && match f with
      | .union => xs.length == ys.length && itemsAmong xs ys
      | .literal => xs.length == ys.length && choicesAmong xs ys
      | _ => sameItems xs ys) := by
  cases f <;> simp only [Value.same]

/-- What equals an annotation is an annotation of the same form, with equal parts in the same order
unless the form has choices. -/
theorem Value.exists_form_of_same {l : Label} {f : Form} {xs : List Value} {w : Value}
    (same : (Value.form l f xs).same w = true) :
    ∃ l' ys, w = .form l' f ys ∧ (f ≠ .union → f ≠ .literal → sameItems xs ys = true) := by
  cases w with
  | form l' f' ys =>
    rw [Value.same_form, Bool.and_eq_true, beq_iff_eq] at same
    obtain ⟨rfl, same⟩ := same
    exact ⟨l', ys, rfl, fun union literal => by cases f <;> first | exact same | contradiction⟩
  | _ => cases f <;> simp [Value.same] at same

/-- Whether two values are equal. The value that is no number does not even equal itself. -/
def Value.equals (v w : Value) : Bool :=
  match v with
  | .nan _ => false
  | v => v.same w

/-- Whether two values are one object. Values without a label are one object if they are
equal and of one sort, and so are annotations that also allow nothing. -/
def Value.sameObject : Value → Value → Bool
  | .list l _, .list l' _ => l.sameObject l'
  | .tuple l xs, .tuple l' ys => xs.isEmpty && ys.isEmpty || l.sameObject l'
  | .set l _, .set l' _ => l.sameObject l'
  | .frozenset l _, .frozenset l' _ => l.sameObject l'
  | .dict l _, .dict l' _ => l.sameObject l'
  | .point l _ _ _, .point l' _ _ _ => l.sameObject l'
  | .record l _, .record l' _ => l.sameObject l'
  | .form l f xs, .form l' f' ys =>
    f == .optional && f' == .optional && sameItems xs ys || l.sameObject l'
  | .schema s, .schema t => s.label.sameObject t.label
  | .contract c, .contract d => c.label.sameObject d.label
  | .settings l _ _ _, .settings l' _ _ _ => l.sameObject l'
  | v, w => v.kindName == w.kindName && v.same w

mutual

/-- Whether a value may be a member of a set or a key. -/
def Value.isHashable : Value → Bool
  | .list .. => false
  | .set .. => false
  | .dict .. => false
  | .point .. => false
  | .record .. => false
  | .tuple _ xs => allHashable xs
  | .frozenset _ xs => allHashable xs
  | .form _ _ xs => allHashable xs
  | .schema s => s.isHashable
  | .contract c => c.isHashable
  | _ => true

/-- Whether all items may be members of a set. -/
def allHashable : List Value → Bool
  | [] => true
  | x :: xs => x.isHashable && allHashable xs

/-- Whether a schema may be a key: all its parts may. -/
def Schema.isHashable : Schema → Bool
  | .bare .. => true
  | .primitive _ v => v.isHashable
  | .any _ => true
  | .refined _ b p m => b.isHashable && p.isHashable && m.isHashable
  | .tuple _ ss => allHashableSchemas ss
  | .array _ e _ _ _ => e.isHashable
  | .function _ a r => a.isHashable && r.isHashable
  | .foreign v => v.isHashable

/-- Whether all schemas may be keys. -/
def allHashableSchemas : List Schema → Bool
  | [] => true
  | s :: ss => s.isHashable && allHashableSchemas ss

/-- Whether the mode of a contract may be part of a key. -/
def ModeChoice.isHashable : ModeChoice → Bool
  | .foreign v => v.isHashable
  | _ => true

/-- Whether a contract may be a key. -/
def Contract.isHashable : Contract → Bool
  | ⟨_, a, r, m⟩ => a.isHashable && r.isHashable && m.isHashable

end

/-- The items without those that equal an earlier one. -/
def distinct (xs : List Value) : List Value :=
  (xs.foldl (fun seen x => if seen.any (fun y => y.same x) then seen else x :: seen) []).reverse

/-- The value under a key, in a list of entries. -/
def lookupEntry (k : Value) (es : List (Value × Value)) : Option Value :=
  (es.find? fun (k', _) => k'.same k).map (·.2)

/-- Put an entry into a list of entries: an equal key keeps its place and gets the new value, a
new key goes to the end. -/
def putEntry {α : Type} (es : List (Value × α)) (k : Value) (v : α) : List (Value × α) :=
  if es.any fun (k', _) => k'.same k then
    es.map fun (k', v') => if k'.same k then (k', v) else (k', v')
  else es ++ [(k, v)]

end CallContract
