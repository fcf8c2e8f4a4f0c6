import CallContract.Proofs.Choosing
import CallContract.Proofs.Gates
import CallContract.Proofs.Meaning
import CallContract.Proofs.Unlabelled

/-!
# What strict checks leave alone

A strict check makes containers anew and changes nothing else: what comes out of it is the value
that went in, apart from labels (`Passes.unaltered`). So a call whose arguments and result are
accepted by strict gates enters the implementation with the arguments of the caller, and gives the
result of the implementation back (`gates_unaltered`).

This is so for values that a session can hold, in which members of a set and keys of a dictionary
differ. The exceptions are modes and boundaries, which a rule for texts makes texts; doubles, which
may be given as whole numbers; points, which may be given as dictionaries; functions in place of a
type; and annotations by which the engine checks values in a way of its own, if their validators
alter what they accept.
-/

namespace CallContract

/-! ### What is in a value -/

mutual

/-- Whether a value and all that its containers hold have a property. -/
def Value.Each (P : Value → Prop) : Value → Prop
  | .list l xs => P (.list l xs) ∧ EachValue P xs
  | .tuple l xs => P (.tuple l xs) ∧ EachValue P xs
  | .set l xs => P (.set l xs) ∧ EachValue P xs
  | .frozenset l xs => P (.frozenset l xs) ∧ EachValue P xs
  | .dict l es => P (.dict l es) ∧ EachEntry P es
  | v => P v

/-- Whether this is so for all values of a list. -/
def EachValue (P : Value → Prop) : List Value → Prop
  | [] => True
  | x :: xs => x.Each P ∧ EachValue P xs

/-- Whether this is so for all keys and values of a dictionary. -/
def EachEntry (P : Value → Prop) : List (Value × Value) → Prop
  | [] => True
  | (k, x) :: es => (k.Each P ∧ x.Each P) ∧ EachEntry P es

end

/-- Whether a value is neither a mode nor a boundary, and no two members or keys are equal. -/
def Value.IsSound : Value → Prop
  | .mode _ | .boundary _ => False
  | .set _ xs | .frozenset _ xs => Differ xs
  | .dict _ es => Differ (es.map Prod.fst)
  | _ => True

/-- Whether a value is no dictionary. -/
def Value.IsNoDict : Value → Prop
  | .dict .. => False
  | _ => True

theorem Value.Each.head {P : Value → Prop} {v : Value} (h : v.Each P) : P v := by
  cases v <;> first | exact h.1 | exact h

/-- Whether a validator that is strict gives values that have a property as they are, apart from
labels, if it accepts them. -/
def Caller.Returns (apply : Caller) (type : Value) (P : Value → Prop) : Prop :=
  ∀ v w s t, P v → (apply.ask (type.validator true) v).exec s = (.ok w, t) →
    w.unlabelled = v.unlabelled

/-- Whether a rule neither makes doubles nor calls a function in place of a type, and a validator
that it asks alters no value without dictionaries. -/
def Rule.IsExact (apply : Caller) : Rule → Prop
  | .float | .call .. => False
  | .own type => apply.Returns type fun v => v.Each Value.IsSound ∧ v.Each Value.IsNoDict
  | _ => True

/-- Whether a rule is not that for points, and a validator that it asks alters no value with
dictionaries either. -/
def Rule.IsNoModel (apply : Caller) : Rule → Prop
  | .point => False
  | .own type => apply.Returns type fun v => v.Each Value.IsSound
  | _ => True

/-! ### Strict readings -/

/-- A strict reading gives the value that it reads. -/
theorem Rule.reading?_strict {apply : Caller} {r : Rule} {v w : Value}
    (h : r.reading? true v = some (.ok w)) (exact : r.IsExact apply) (sound : v.IsSound) :
    w = v := by
  cases r with
  | null =>
    have read : Scalar.null v = .ok w := Option.some.inj h
    unfold Scalar.null at read
    split at read <;> cases read
    rfl
  | bool =>
    have read : Scalar.bool true v = .ok w := Option.some.inj h
    unfold Scalar.bool at read
    split at read <;> cases read
    rfl
  | int =>
    have read : Scalar.int true v = .ok w := Option.some.inj h
    unfold Scalar.int at read
    split at read <;> cases read
    rfl
  | text =>
    have read : Scalar.text true v = .ok w := Option.some.inj h
    cases v with
    | mode | boundary => exact sound.elim
    | _ => cases read <;> rfl
  | bytes =>
    have read : Scalar.bytes true v = .ok w := Option.some.inj h
    cases v <;> cases read
    rfl
  | callable =>
    have read : Scalar.callable v = .ok w := Option.some.inj h
    unfold Scalar.callable at read
    split at read <;> cases read
    rfl
  | float => exact exact.elim
  | _ => cases h

/-- Where there is no dictionary to make it of, a point is the one that went in. -/
theorem applyPoint_unaltered {b : Bool} {v w : Value} (h : applyPoint b v = .ok w)
    (noDict : v.IsNoDict) : w = v := by
  unfold applyPoint at h
  split at h
  · exact (Except.ok.inj h).symm
  · exact noDict.elim
  · cases h

/-! ### Strict checks -/

theorem listItems_strict {v : Value} {vs : List Value} (h : listItems true v = some vs) :
    ∃ l, v = .list l vs := by
  cases v <;> cases h
  exact ⟨_, rfl⟩

theorem tupleItems_strict {v : Value} {vs : List Value} (h : tupleItems true v = some vs) :
    ∃ l, v = .tuple l vs := by
  cases v <;> cases h
  exact ⟨_, rfl⟩

theorem setItems_strict {v : Value} {vs : List Value} (h : setItems true v = some vs) :
    ∃ l, v = .set l vs := by
  cases v <;> cases h
  exact ⟨_, rfl⟩

theorem frozensetItems_strict {v : Value} {vs : List Value} (h : frozensetItems true v = some vs) :
    ∃ l, v = .frozenset l vs := by
  cases v <;> cases h
  exact ⟨_, rfl⟩

section Strict

variable {apply : Caller}

/-- Whether a rule makes no points, or a value holds no dictionaries to make them of. -/
def NoModels (apply : Caller) (r : Rule) (v : Value) : Prop :=
  r.Each (Rule.IsNoModel apply) ∨ v.Each Value.IsNoDict

mutual

/-- **Strict checks alter nothing.** What passes a rule in a strict check is what went in, apart
from the labels of containers. By recursion on how it passes. -/
theorem Passes.unaltered {r : Rule} {v w : Value} {s t : Session} : Passes apply true r v s w t →
    r.Each (Rule.IsExact apply) → v.Each Value.IsSound → NoModels apply r v →
    w.unlabelled = v.unlabelled
  | .any, _, _, _ => rfl
  | .read h, exact, sound, _ =>
    congrArg Value.unlabelled (Rule.reading?_strict h exact.head sound.head)
  | .point h, _, _, models =>
    congrArg Value.unlabelled (applyPoint_unaltered h (models.resolve_left id).head)
  | .nothing, _, _, _ => rfl
  | .present _ inner, exact, sound, models =>
    inner.unaltered exact.2 sound (models.imp And.right id)
  | .list found few enough each, exact, sound, models => by
    obtain ⟨l, rfl⟩ := listItems_strict found
    have same := each.unaltered (.replicate exact.2 _) sound.2
      (models.imp (fun h => .replicate h.2 _) And.right)
    rw [Value.unlabelled, Value.unlabelled, unlabelledAll_eq_map, unlabelledAll_eq_map, same]
  | .set found each hashable, exact, sound, models => by
    obtain ⟨l, rfl⟩ := setItems_strict found
    have same := each.unaltered (.replicate exact.2 _) sound.2
      (models.imp (fun h => .replicate h.2 _) And.right)
    have differ : Differ _ := Differ.of_unlabelled same sound.1
    rw [distinct_of_differ differ, Value.unlabelled, Value.unlabelled, unlabelledAll_eq_map,
      unlabelledAll_eq_map, same]
  | .frozenset found each hashable, exact, sound, models => by
    obtain ⟨l, rfl⟩ := frozensetItems_strict found
    have same := each.unaltered (.replicate exact.2 _) sound.2
      (models.imp (fun h => .replicate h.2 _) And.right)
    have differ : Differ _ := Differ.of_unlabelled same sound.1
    rw [distinct_of_differ differ, Value.unlabelled, Value.unlabelled, unlabelledAll_eq_map,
      unlabelledAll_eq_map, same]
  | .variadic found each, exact, sound, models => by
    obtain ⟨l, rfl⟩ := tupleItems_strict found
    have same := each.unaltered (.replicate exact.2 _) sound.2
      (models.imp (fun h => .replicate h.2 _) And.right)
    rw [Value.unlabelled, Value.unlabelled, unlabelledAll_eq_map, unlabelledAll_eq_map, same]
  | .fixed found each, exact, sound, models => by
    obtain ⟨l, rfl⟩ := tupleItems_strict found
    have same := each.unaltered exact.2 sound.2 (models.imp And.right And.right)
    rw [Value.unlabelled, Value.unlabelled, unlabelledAll_eq_map, unlabelledAll_eq_map, same]
  | .dict each, exact, sound, models => by
    obtain ⟨same, keys⟩ := each.unaltered exact.2.1 exact.2.2 sound.2
      (models.imp And.right And.right)
    have differ : Differ _ := Differ.of_unlabelled keys sound.1
    rw [putEntries_of_differ differ, Value.unlabelled, Value.unlabelled, unlabelledEntries_eq_map,
      unlabelledEntries_eq_map, same]
  | .limited inner _, exact, sound, models =>
    inner.unaltered exact.2 sound (models.imp And.right id)
  | .after inner _ _, exact, sound, models =>
    inner.unaltered exact.2 sound (models.imp And.right id)
  | .call _ _, exact, _, _ => exact.elim
  | .own answered, exact, sound, models =>
    models.elim (fun returns => returns _ _ _ _ sound answered)
      fun noDict => exact _ _ _ _ ⟨sound, noDict⟩ answered

theorem PassEach.unaltered {rs : List Rule} {vs ws : List Value} {s t : Session} :
    PassEach apply true rs vs s ws t → EachOf (Rule.IsExact apply) rs → EachValue Value.IsSound vs →
    EachOf (Rule.IsNoModel apply) rs ∨ EachValue Value.IsNoDict vs →
    ws.map Value.unlabelled = vs.map Value.unlabelled
  | .nil, _, _, _ => rfl
  | .cons first rest, exact, sound, models => by
    have head := first.unaltered exact.1 sound.1 (models.imp And.left And.left)
    have tail := rest.unaltered exact.2 sound.2 (models.imp And.right And.right)
    rw [List.map_cons, List.map_cons, head, tail]

theorem PassEntries.unaltered {rk rv : Rule} {es fs : List (Value × Value)} {s t : Session} :
    PassEntries apply true rk rv es s fs t → rk.Each (Rule.IsExact apply) →
    rv.Each (Rule.IsExact apply) → EachEntry Value.IsSound es →
    (rk.Each (Rule.IsNoModel apply) ∧ rv.Each (Rule.IsNoModel apply)) ∨
      EachEntry Value.IsNoDict es →
    fs.map (fun e => (e.1.unlabelled, e.2.unlabelled)) =
        es.map (fun e => (e.1.unlabelled, e.2.unlabelled)) ∧
      (fs.map Prod.fst).map Value.unlabelled = (es.map Prod.fst).map Value.unlabelled
  | .nil, _, _, _, _ => ⟨rfl, rfl⟩
  | .cons first second _ rest, exactKey, exactValue, sound, models => by
    have key := first.unaltered exactKey sound.1.1 (models.imp And.left fun h => h.1.1)
    have value := second.unaltered exactValue sound.1.2 (models.imp And.right fun h => h.1.2)
    obtain ⟨entries, keys⟩ := rest.unaltered exactKey exactValue sound.2 (models.imp id And.right)
    constructor
    · rw [List.map_cons, List.map_cons, key, value, entries]
    · rw [List.map_cons, List.map_cons, List.map_cons, List.map_cons, key, keys]

end

/-- The validator of alternatives that are tried in order returns what it accepts if checks by the
alternatives alter nothing. -/
theorem Caller.Returns.of_alternatives {type : Value} {rs : List Rule} {P : Value → Prop}
    {depth : Nat} (found : type.alternatives? = some rs)
    (asks : ∀ r ∈ rs, r.AsksOnly (callWithin depth).Tells)
    (exact : ∀ r ∈ rs, r.Each (Rule.IsExact (callWithin depth)))
    (sound : ∀ v, P v → v.Each Value.IsSound)
    (models : ∀ r ∈ rs, ∀ v, P v → NoModels (callWithin depth) r v) :
    (callWithin (depth + 1)).Returns type P := by
  intro v w s t hv answered
  rw [ask_alternatives found] at answered
  obtain ⟨r, mem, u, accepted⟩ := firstAccepted_eq_ok answered
  have passed := (Rule.passes_iff (asks r mem)).mp accepted
  exact passed.unaltered (exact r mem) (sound v hv) (models r mem v hv)

/-- What it takes for a strict check by a schema to leave a value as it is, if it accepts it. -/
structure Leaves (apply : Caller) (schema v : Value) (s : Session) : Prop where
  /-- The adapter in store, if there is one, checks as the rule of the schema does. -/
  serves : AdapterStore.Serves apply (promote schema) s.adapters
  /-- Errors of the engine that a predicate or validator lets through have an issue at least. -/
  tells : Gives (Rule.AsksOnly apply.Tells) (promote schema).rule
  /-- The schema makes no doubles and calls no functions in place of types, and the validators that
  it asks alter no values. -/
  exact : Gives (Rule.Each (Rule.IsExact apply)) (promote schema).rule
  /-- The value holds neither modes nor boundaries, and its sets and dictionaries are in order. -/
  sound : v.Each Value.IsSound
  /-- Nothing that the schema asks for is made of dictionaries, or the value holds none. -/
  models : Gives (fun r => NoModels apply r v) (promote schema).rule

/-- A lookup does not change how strict checks are. -/
theorem strictness_after_lookup {S : Schema} {strict : Option Bool} {b : Bool} {s u x : Session}
    {a : Adapter} (strictly : ((strictness strict).exec s).1 = .ok b)
    (found : S.adapter.exec s = (.ok a, u)) {b' : Bool}
    (asked : (strictness strict).exec u = (.ok b', x)) : b' = b := by
  obtain ⟨store, made, hu⟩ := S.adapter_session s
  obtain rfl : u = s.withStore store made := by rw [← hu, found]
  rw [strictness_blind strict s store made, strictly] at asked
  exact (Except.ok.inj (Prod.mk.inj asked).1).symm

theorem validate_unaltered {schema v w : Value} {s t : Session} (leaves : Leaves apply schema v s)
    {strict : Option Bool} (strictly : ((strictness strict).exec s).1 = .ok true)
    (accepted : (validate apply schema v strict).exec s = (.ok w, t)) :
    w.unlabelled = v.unlabelled := by
  obtain ⟨a, r, b, u, x, found, rule, asked, passed⟩ :=
    (validate_iff_passes leaves.tells leaves.serves).mp accepted
  obtain rfl := strictness_after_lookup strictly found asked
  exact passed.unaltered (leaves.exact r rule) leaves.sound (leaves.models r rule)

/-- Whether a strict gate accepts a value, and the check leaves what it accepts as it is. -/
def Contract.Conforms (apply : Caller) (schema v : Value) (s : Session) : Prop :=
  (Settings.activeStrict.exec s).1 = .ok true ∧ Leaves apply schema v s ∧
    ∃ w t, (validate apply schema v none).exec s = (.ok w, t)

theorem Contract.Conforms.unaltered {schema v : Value} {s : Session}
    (conforms : Conforms apply schema v s) :
    ∃ w t, (validate apply schema v none).exec s = (.ok w, t) ∧ w.unlabelled = v.unlabelled := by
  obtain ⟨strictly, leaves, w, t, accepted⟩ := conforms
  have strictly : ((strictness none).exec s).1 = .ok true := strictly
  exact ⟨w, t, accepted, validate_unaltered leaves strictly accepted⟩

/-- What is a tuple without labels is a tuple. -/
theorem eq_tuple_of_unlabelled {w : Value} {l : Label} {xs : List Value}
    (h : w.unlabelled = (Value.tuple l xs).unlabelled) :
    ∃ l' ys, w = .tuple l' ys ∧ ys.map Value.unlabelled = xs.map Value.unlabelled := by
  cases w with
  | tuple l' ys =>
    rw [Value.unlabelled, Value.unlabelled, unlabelledAll_eq_map, unlabelledAll_eq_map] at h
    exact ⟨l', ys, rfl, (Value.tuple.inj h).2⟩
  | _ => cases h

end Strict

/-- **Strict gates cannot be noticed.** What comes out of a strict check equals what went in. So if
the strict gates of a contract accept the arguments of a call, which are all given by position, and
then the result of the implementation, the implementation is entered with arguments that equal
those of the caller, and the caller gets a result that equals that of the implementation. How the
functions and validators are called that this calls in turn, does not matter. -/
theorem gates_unaltered (apply : Caller) :
    (∀ schema v w strict s t, Leaves apply schema v s →
      ((strictness strict).exec s).1 = .ok true →
      (validate apply schema v strict).exec s = (.ok w, t) →
      w.unlabelled = v.unlabelled ∧ w.same v = v.same v) ∧
    ∀ (c : Contract) (m : Mode) (id : Nat) (implementation : Value) (face : Face)
      (args : List Value) (s : Session), c.mode = .known m →
      (m.enforces .args = true →
        Contract.Conforms apply c.args.toValue (.tuple .fresh args) s) →
      ∃ xs t, Contract.Enters apply c m face (fun body =>
          (Contract.pipeline apply (.contract c) face args [] body).exec s) xs [] t ∧
        xs.map Value.unlabelled = args.map Value.unlabelled ∧
        sameItems xs args = sameItems args args ∧
        ∀ r u, (apply implementation xs []).exec t = (.ok r, u) →
          (m.enforces .result = true → Contract.Conforms apply c.returns.toValue r u) →
          ∃ w x, ((Function.checked id (.contract c) implementation face).callBy apply args
              []).exec s = (.ok w, x) ∧
            w.unlabelled = r.unlabelled ∧ w.same r = r.same r := by
  constructor
  · intro schema v w strict s t leaves strictly accepted
    have same := validate_unaltered leaves strictly accepted
    exact ⟨same, same_eq_of_unlabelled_eq same rfl⟩
  intro c m id implementation face args s known accepted
  -- The way in leaves the arguments as they are.
  obtain ⟨xs, t, passed, same⟩ : ∃ xs t,
      (Contract.inward apply c m face args []).exec s = (.ok (xs, []), t) ∧
        xs.map Value.unlabelled = args.map Value.unlabelled := by
    cases on : m.enforces .args with
    | false =>
      refine ⟨args, s, ?_, rfl⟩
      rw [Contract.inward, on]
      rfl
    | true =>
      obtain ⟨w, t, checked, alike⟩ := (accepted on).unaltered
      obtain ⟨l, xs, rfl, same⟩ := eq_tuple_of_unlabelled alike
      exact ⟨xs, t, Contract.exec_inward_accepted on rfl checked, same⟩
  have enters := Contract.enters_of_inward known rfl passed
  have alike : (Value.tuple .fresh xs).unlabelled = (Value.tuple .fresh args).unlabelled := by
    rw [Value.unlabelled, Value.unlabelled, unlabelledAll_eq_map, unlabelledAll_eq_map, same]
  refine ⟨xs, t, enters, same, ?_, fun r u returned conforms => ?_⟩
  · have tuples := same_eq_of_unlabelled_eq alike (rfl : (Value.tuple .fresh args).unlabelled = _)
    simpa only [Value.same] using tuples
  · rw [Function.callBy, Contract.call_eq_pipeline]
    cases on : m.enforces .result with
    | false => exact ⟨r, u, enters.result on _ r u returned, rfl, rfl⟩
    | true =>
      obtain ⟨w, x, checked, same⟩ := (conforms on).unaltered
      exact ⟨w, x, enters.accepted on _ r u w x returned checked, same,
        same_eq_of_unlabelled_eq same rfl⟩

theorem gates_unaltered_choosing :
    let s := { Session.start with active := some strictSettings }
    let len := Value.function (.builtin .len)
    let apply := callWithin 1
    (∃ xs t, Contract.Enters apply (choosing .args) .args len.face (fun body =>
        (Contract.pipeline apply (.contract (choosing .args)) len.face [.text "ab"] [] body).exec
          s) xs [] t ∧
      xs.map Value.unlabelled = [.text "ab"]) ∧
    ∃ w x, (callWithin 2 (.function (.checked 0 (.contract (choosing .ret)) len len.face))
        [.text "ab"] []).exec s = (.ok w, x) ∧
      w.unlabelled = .int 2 ∧ w.same (.int 2) = true := by
  intro s len apply
  have strictly : (Settings.activeStrict.exec s).1 = .ok true := rfl
  have asked : apply.Tells len := len_tells 1
  have arguments : Contract.Conforms apply (choosing .args).args.toValue
      (.tuple .fresh [.text "ab"]) s := by
    refine ⟨strictly, ⟨AdapterStore.serves_nil _ _, ?_, ?_, ⟨trivial, trivial, trivial⟩, ?_⟩,
      _, _, rfl⟩ <;> rintro _ ⟨⟩
    · exact ⟨⟨trivial, asked⟩, trivial⟩
    · exact ⟨trivial, ⟨trivial, trivial⟩, trivial⟩
    · exact .inr ⟨trivial, trivial, trivial⟩
  have returned (P : Value → Prop) (sound : ∀ v, P v → v.Each Value.IsSound) :
      apply.Returns textElseInt P :=
    .of_alternatives textElseInt_alternatives (by simp [Rule.AsksOnly])
      (by simp [Rule.Each, Rule.IsExact]) sound
      fun r mem v _ => .inl (by revert r; simp [Rule.Each, Rule.IsNoModel])
  have result : Contract.Conforms apply (choosing .ret).returns.toValue (.int 2) s := by
    refine ⟨strictly, ⟨AdapterStore.serves_nil _ _, ?_, ?_, trivial, ?_⟩, _, _, rfl⟩ <;>
      rintro _ ⟨⟩
    · exact textElseInt_tells 0
    · exact returned _ fun _ sound => sound.1
    · exact .inl (returned _ fun _ sound => sound)
  have gates := (gates_unaltered apply).2
  constructor
  · obtain ⟨xs, t, enters, same, -⟩ := gates (choosing .args) .args 0 len len.face [.text "ab"] s
      rfl fun _ => arguments
    exact ⟨xs, t, enters, same⟩
  · obtain ⟨xs, t, enters, same, -, back⟩ := gates (choosing .ret) .ret 0 len len.face
      [.text "ab"] s rfl fun h => by cases h
    -- Without a gate for the arguments, they are those of the caller.
    have ungated : Contract.Enters apply (choosing .ret) .ret len.face (fun body =>
        (Contract.pipeline apply (.contract (choosing .ret)) len.face [.text "ab"] [] body).exec
          s) [.text "ab"] [] s := (Contract.pipeline_conduct rfl rfl).ungated rfl
    obtain ⟨rfl, -, rfl⟩ := enters.unique ungated
    obtain ⟨w, x, called, alike, equal⟩ := back (.int 2) s rfl fun _ => result
    exact ⟨w, x, called, alike, equal.trans (by simp [Value.same, Value.numeral?, Numeral.same,
      Numeral.compare?])⟩

/-- What is left out above does not hold. A function in place of a type makes something else of a
value, and a dictionary with the coordinates of a point becomes a point. -/
theorem point_from_dict_altered :
    let outcome (type v : Value) :=
      ((validate call (.schema (.primitive .fresh type)) v (some true)).exec Session.start).1
    outcome stretch (.tuple .fresh []) = .ok (.tuple .fresh [.int 1]) ∧
      outcome (.type .point) (.dict .fresh [(.text "x", .int 1)]) =
        .ok (.point .fresh (.int 1) (.int 0) []) ∧
      (Value.point .fresh (.int 1) (.int 0) []).same (.dict .fresh [(.text "x", .int 1)]) = false
    := by
  intro outcome
  have afresh (type v : Value) (r : Rule)
      (hashable : (Schema.primitive .fresh type).isHashable = true)
      (rule : (Schema.primitive .fresh type).rule = .ok r) : outcome type v = _ :=
    congrArg Prod.fst (validate_of_new (s := Session.start) hashable rule rfl v (some true))
  have point : applyPoint true (.dict .fresh [(.text "x", .int 1)]) =
      .ok (.point .fresh (.int 1) (.int 0) []) := by
    simp [applyPoint, coordinate, lookupEntry, Value.same, Value.text?, Scalar.int,
      Verdict.ofReading, Except.mapError]
  refine ⟨?_, ?_, ?_⟩
  · rw [afresh stretch _ _ rfl stretch_rule]
    rfl
  · rw [afresh (.type .point) _ .point rfl rfl, Rule.judge, strictness, pure_bind, Rule.apply,
      point]
    rfl
  · simp only [Value.same]

end CallContract
