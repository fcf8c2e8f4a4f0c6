import CallContract.Proofs.Supplying
import CallContract.Proofs.Transparent

/-!
# Calls in other words

Calls that supply the same are put in the same words before the gate of the arguments, whether they
give values by position or by name. The function is called by these words as by those of the call,
and so the gate and all that comes after it are the same for such calls.
-/

namespace CallContract

/-- `Owns sig f`: the signature `sig` of the function `f` is its own, not that of something else
that it is said to wrap. -/
inductive Value.Owns : Signature → Value → Prop where
  /-- A definition: a function, or an object that is called like one. The object takes the place of
  the parameter `self`. -/
  | defined {sig : Signature} {id : Nat} {d : Definition} : d.parameters = sig →
    Fields.Unstated d.attributes → (d.kind = .object → ∀ p ∈ sig, p.name ≠ "self") →
    Owns sig (.function (.defined id d))
  /-- A partial application. -/
  | applied {sig : Signature} {id : Nat} {inner : Value} {fields : Fields} :
    Fields.Unstated fields → Owns sig inner → Owns sig (.function (.applied id inner fields))
  /-- A function that exists from the start. -/
  | builtin {sig : Signature} {b : Builtin} : b.signature? = some sig →
    Owns sig (.function (.builtin b))
  /-- A predicate. -/
  | predicate {name : String} {body : Expr} {fields : Fields} : Fields.Unstated fields →
    Owns Predicate.parameters (.function (.predicate name body fields))
  /-- A type that is called to make its values. -/
  | type {sig : Signature} {t : BaseType} : t.signature? = some sig → Owns sig (.type t)

theorem Value.Owns.signature {sig : Signature} {f : Value} (owns : f.Owns sig) :
    f.signature? = some sig := by
  induction owns with
  | defined parameters unstated _ => rw [signature?_defined _ unstated, parameters]
  | applied unstated _ ih => rw [signature?_applied _ _ unstated, ih]
  | builtin h => rwa [Value.signature?, Function.signature?]
  | predicate unstated => exact signature?_predicate _ _ unstated
  | type h => rwa [Value.signature?]

section Rebound

variable {sig : Signature} {args : List Value} {kw : Keywords} {bs : Bindings}

/-- A call without keywords is given back as it is. -/
theorem rebound_nil (regular : sig.Regular) (bound : bind sig args [] = .ok bs) :
    bs.positional = args ∧ bs.named = [] := by
  have same := Contract.bindKeywords_of_bind regular bound
  have here : Contract.bindKeywords (some sig) args [] = .ok (args, []) := rfl
  rw [here] at same
  obtain ⟨hargs, hkw⟩ := Prod.mk.inj (Except.ok.inj same)
  exact ⟨hargs.symm, hkw.symm⟩

/-- Where keywords are left that no parameter takes by its name, there is a parameter that collects
them. -/
theorem collects_of_surplus (regular : sig.Regular) (bound : bind sig args kw = .ok bs)
    (left : surplus sig kw ≠ []) : ∃ p ∈ sig, p.kind = .keywords := by
  have entered := enter_of_bind regular.distinct bound
  by_contra none
  have refused : surplus sig kw ≠ [] ∧ (!sig.any fun p => p.kind = .keywords) = true :=
    ⟨left, by simpa using none⟩
  unfold enter at entered
  simp only [if_pos refused, Option.isSome_none, Bool.false_eq_true] at entered

/-- Keywords that no parameter takes by its name are given back. -/
theorem mem_named_of_surplus (regular : sig.Regular) (bound : bind sig args kw = .ok bs)
    {e : String × Value} (among : e ∈ surplus sig kw) : e ∈ bs.named := by
  have left : surplus sig kw ≠ [] := List.ne_nil_of_mem among
  obtain ⟨p, hp, hk⟩ := collects_of_surplus regular bound left
  have collected : (p, some (.named (surplus sig kw))) ∈ bs := by
    obtain ⟨i, hi⟩ := List.mem_iff_getElem?.mp hp
    have indexed : (p, i) ∈ sig.zipIdx :=
      List.mem_iff_getElem?.mpr ⟨i, by rw [List.getElem?_zipIdx, hi, Nat.zero_add]; rfl⟩
    rw [bind_eq_supplied regular bound]
    exact List.mem_map.mpr ⟨(p, i), indexed, by simp [share, hk, left]⟩
  have late : (p, some (.named (surplus sig kw))) ∈ bs.dropWhile Bindings.placed := by
    rw [← List.takeWhile_append_dropWhile (p := Bindings.placed) (l := bs)] at collected
    rcases List.mem_append.mp collected with early | late
    · have placed := List.mem_takeWhile_imp early
      simp [Bindings.placed, hk] at placed
    · exact late
  rw [Bindings.named_eq_asKeywords]
  exact Bindings.mem_asKeywords.mpr ⟨_, late, .inr ⟨_, rfl, among⟩⟩

/-- A name that no parameter has is given back among the names exactly if it was given. -/
theorem has_named_of_unnamed (regular : sig.Regular) (bound : bind sig args kw = .ok bs)
    {n : String} (unnamed : ∀ p ∈ sig, p.name ≠ n) : bs.named.has n = kw.has n := by
  cases given : kw.has n with
  | false =>
    exact (Contract.bindKeywords_among (Contract.bindKeywords_of_bind regular bound)).not_has given
  | true =>
    obtain ⟨e, he, rfl⟩ := Keywords.has_iff.mp given
    have among : e ∈ surplus sig kw := by
      refine List.mem_filter.mpr ⟨he, ?_⟩
      simp only [Bool.not_eq_true', List.any_eq_false, Bool.and_eq_true, beq_iff_eq, not_and]
      exact fun p hp _ => unnamed p hp
    exact Keywords.has_iff.mpr ⟨e, mem_named_of_surplus regular bound among, rfl⟩

end Rebound

/-! ### Types that are called -/

/-- A point is made from the keywords by the names of its coordinates. -/
theorem lookupEntry_keywords (kw : Keywords) (n : String) :
    lookupEntry (.text n) (kw.map fun (m, v) => (Value.text m, v)) = kw.lookup n := by
  induction kw with
  | nil => rfl
  | cons e kw ih =>
    obtain ⟨m, v⟩ := e
    have same : (Value.text m).same (.text n) = (n == m) := by simp [Value.same, Value.text?]
    rw [List.lookup_cons, ← ih]
    unfold lookupEntry
    rw [List.map_cons, List.find?_cons]
    dsimp only
    rw [same]
    cases n == m <;> rfl

/-- Points are made alike from keywords that give the same coordinates. -/
theorem callPoint_congr {kw ks : Keywords} (x : ks.lookup "x" = kw.lookup "x")
    (y : ks.lookup "y" = kw.lookup "y") (given : (kw.lookup "x").isSome = true) :
    callPoint [] ks = callPoint [] kw := by
  obtain ⟨v, given⟩ := Option.isSome_iff_exists.mp given
  simp only [callPoint, applyPoint, coordinate, lookupEntry_keywords, x, y, given]

section Types

variable {sig : Signature} {args : List Value} {kw : Keywords} {bs : Bindings}

/-- A signature in which nothing can be given by name admits no keywords. -/
theorem keywords_nil_of_bind (regular : sig.Regular) (bound : bind sig args kw = .ok bs)
    (unnamed : ∀ p ∈ sig, p.kind.byName = false ∧ p.kind ≠ .keywords) : kw = [] := by
  have all : surplus sig kw = kw := by
    refine List.filter_eq_self.mpr fun e _ => ?_
    simp only [Bool.not_eq_true', List.any_eq_false, Bool.and_eq_true, not_and]
    exact fun p hp byName => absurd byName (by simp [(unnamed p hp).1])
  by_contra some
  obtain ⟨p, hp, hk⟩ := collects_of_surplus regular bound (all.symm ▸ some)
  exact (unnamed p hp).2 hk

/-- A type is called alike by what is given back. -/
theorem type_rebound {t : BaseType} (signature : t.signature? = some sig) (regular : sig.Regular)
    (bound : bind sig args kw = .ok bs) (apply : Caller) :
    (Value.type t).callBy apply bs.positional bs.named = (Value.type t).callBy apply args kw := by
  have plain (none : kw = []) :
      (Value.type t).callBy apply bs.positional bs.named = (Value.type t).callBy apply args kw := by
    subst none
    obtain ⟨hargs, hkw⟩ := rebound_nil regular bound
    rw [hargs, hkw]
  have unnamed (h : ∀ p ∈ sig, p.kind.byName = false ∧ p.kind ≠ .keywords) :=
    plain (keywords_nil_of_bind regular bound h)
  cases t with
  | float | list | tuple | object =>
    cases signature
    exact unnamed (by simp [ParameterKind.byName])
  | any | callable =>
    -- All that is given is collected, and given back as it was.
    cases signature
    have all : surplus [required "args" .variadic, required "kwargs" .keywords] kw = kw :=
      List.filter_eq_self.mpr fun _ _ => rfl
    have words := bind_eq_supplied regular bound
    rw [Signature.supplied, all] at words
    have given : bs.positional = args ∧ bs.named = kw := by
      rw [words]
      cases args <;> cases kw <;>
        simp [share, required, Bindings.positional, Bindings.named, Bindings.asKeywords]
    rw [given.1, given.2]
  | point =>
    cases signature
    have words := bind_eq_supplied regular bound
    obtain ⟨fields, entered⟩ :=
      Option.isSome_iff_exists.mp (enter_of_bind regular.distinct bound)
    unfold enter at entered
    dsimp only at entered
    split_ifs at entered
    obtain rfl : args = [] := eq_nil_of_fill (by simp [required]) entered
    cases x : kw.lookup "x" with
    | none => simp [fill, required, x] at entered
    | some v =>
      have given : bs.positional = [] ∧ bs.named.lookup "x" = some v ∧
          bs.named.lookup "y" = kw.lookup "y" := by
        rw [words]
        cases y : kw.lookup "y" <;>
          simp [Signature.supplied, share, required, Bindings.positional, Bindings.named,
            Bindings.asKeywords, x, y, List.lookup_cons]
      rw [given.1]
      exact congrArg Run.lift
        (callPoint_congr (given.2.1.trans x.symm) given.2.2 (by rw [x]; rfl))
  | _ => cases signature

end Types

/-! ### Functions that are called -/

section Called

variable {sig : Signature} {f : Value} {args : List Value} {kw : Keywords} {bs : Bindings}

/-- A function is called alike by what is given back. -/
theorem Value.Owns.callWithin_rebound (owns : f.Owns sig) (regular : sig.Regular)
    (distinct : (kw.map Prod.fst).Nodup) (bound : bind sig args kw = .ok bs) (depth : Nat) :
    callWithin depth f bs.positional bs.named = callWithin depth f args kw := by
  obtain ⟨fields, entered⟩ :=
    Option.isSome_iff_exists.mp (enter_of_bind regular.distinct bound)
  have same : enter sig bs.positional bs.named = enter sig args kw :=
    (enter_rebound regular.toProper bound entered).trans entered.symm
  induction owns generalizing depth with
  | defined parameters _ free =>
    subst parameters
    have self (object : _) := has_named_of_unnamed regular bound (free object)
    refine callWithin_congr (fun depth => ?_) depth
    exact Definition.call_congr same self _
  | applied _ _ ih =>
    refine callWithin_congr (fun depth => ?_) depth
    exact ih regular bound depth entered same
  | predicate _ =>
    refine callWithin_congr (fun depth => ?_) depth
    exact Predicate.call_congr same _ _ _
  | type signature =>
    refine callWithin_congr (fun depth => ?_) depth
    exact type_rebound signature regular bound _
  | builtin signature =>
    rcases Builtin.takes_cases signature (by rw [entered]; rfl) distinct with
      rfl | ⟨v, start, rfl, rfl, rfl⟩
    · obtain ⟨hargs, hkw⟩ := rebound_nil regular bound
      rw [hargs, hkw]
    · cases signature
      cases bound
      refine callWithin_congr (fun depth => ?_) depth
      rfl

end Called

namespace Contract

/-- **Binding preserves the call, and the spelling does not count.** A call that the signature of a
function admits is put in words by which each parameter gets the value that it gets by the call, and
the function is called alike. Calls that supply the same to the same parameters are put in the same
words. So whatever is gated, they come out of the gate of the arguments alike; and if no keyword is
named `self`, so do the calls of a checked function whose arguments are gated. -/
theorem bindKeywords_preserves {sig : Signature} (regular : sig.Regular) {f : Value}
    (owns : f.Owns sig) {args : List Value} {kw : Keywords} (admits : sig.Admits args kw)
    (distinct : (kw.map Prod.fst).Nodup) :
    (∃ xs ks fields, bindKeywords f.signature? args kw = .ok (xs, ks) ∧
      enter sig args kw = some fields ∧ enter sig xs ks = some fields ∧
        ∀ depth, callWithin depth f xs ks = callWithin depth f args kw) ∧
    ∀ args' kw', sig.Admits args' kw' → sig.supplied args' kw' = sig.supplied args kw →
      bindKeywords f.signature? args' kw' = bindKeywords f.signature? args kw ∧
      (∀ apply c, gateArgs apply c f.face args' kw' = gateArgs apply c f.face args kw) ∧
      ∀ depth id (c : Contract) m, c.mode = .known m → m.enforces .args = true →
        kw.has "self" = false → kw'.has "self" = false →
        callWithin depth (.function (.checked id (.contract c) f f.face)) args' kw' =
          callWithin depth (.function (.checked id (.contract c) f f.face)) args kw := by
  obtain ⟨bs, bound⟩ := admits.bound regular
  have words := bindKeywords_of_bind regular bound
  constructor
  · obtain ⟨fields, entered⟩ :=
      Option.isSome_iff_exists.mp (enter_of_bind regular.distinct bound)
    refine ⟨bs.positional, bs.named, fields, ?_, entered, ?_, ?_⟩
    · rw [owns.signature, words]
    · exact enter_rebound regular.toProper bound entered
    · exact owns.callWithin_rebound regular distinct bound
  · intro args' kw' admits' supplied
    obtain ⟨bs', bound'⟩ := admits'.bound regular
    have same : bs' = bs := by
      rw [bind_eq_supplied regular bound, bind_eq_supplied regular bound', supplied]
    have spelled : bindKeywords f.signature? args' kw' = bindKeywords f.signature? args kw := by
      rw [owns.signature, words, bindKeywords_of_bind regular bound', same]
    have gated (apply : Caller) (c : Value) :
        gateArgs apply c f.face args' kw' = gateArgs apply c f.face args kw := by
      unfold gateArgs
      rw [Value.face, spelled]
    refine ⟨spelled, gated, fun depth id c m known on noSelf noSelf' => ?_⟩
    cases depth with
    | zero => rfl
    | succ depth =>
      rw [callWithin_eq_stages depth id f f.face args known noSelf,
        callWithin_eq_stages depth id f f.face args' known noSelf']
      simp only [inward, on, if_true, gated]

theorem optionalTail_regular : Signature.Regular optionalTail :=
  ⟨⟨optionalTail_wellFormed, by decide⟩, by decide⟩

theorem bindKeywords_preserves_optionalTail :
    let f := Value.function (.checked 0 (.contract oneNumber) echo echo.face)
    (∃ fields, bindKeywords echo.signature? [.int 1] [("b", .int 5)] = .ok ([.int 1, .int 5], []) ∧
      enter optionalTail [.int 1, .int 5] [] = some fields) ∧
    ∀ depth, callWithin depth f [.int 1, .int 5] [] =
      callWithin depth f [.int 1] [("b", .int 5)] := by
  intro f
  have owns : echo.Owns optionalTail :=
    .defined rfl ⟨rfl, rfl⟩ fun object => DefinitionKind.noConfusion object
  have admits : Signature.Admits optionalTail [.int 1] [("b", .int 5)] := .inl ⟨_, rfl⟩
  have byPosition : Signature.Admits optionalTail [.int 1, .int 5] [] := .inr ⟨rfl, rfl⟩
  obtain ⟨⟨xs, ks, fields, words, -, again, -⟩, others⟩ :=
    bindKeywords_preserves optionalTail_regular owns admits (List.nodup_singleton _)
  obtain ⟨-, -, calls⟩ := others _ _ byPosition rfl
  constructor
  · have given := words
    rw [owns.signature] at given
    cases given
    exact ⟨fields, words, again⟩
  · exact fun depth => calls depth 0 oneNumber .args rfl rfl rfl rfl

/-- A function that gives back its argument, which is called `self`. -/
def itself : Value :=
  .function (.defined Label.firstFree
    { kind := .function, name := "h", ownName := "h", path := "h"
      parameters := [required "self" .standard], body := .var "self", scope := [], doc := .null
      home := .text homeName, annotations := .dict .fresh [], attributes := [] })

/-- A value is accepted by position and refused by the name `self`, although both calls supply the
same and are put in the same words: the checked function itself takes the place of that keyword. -/
theorem itself_refused_by_name :
    let sig : Signature := [required "self" .standard]
    let f := Value.function (.checked 0 (.contract oneNumber) itself itself.face)
    sig.supplied [] [("self", .int 1)] = sig.supplied [.int 1] [] ∧
      bindKeywords (some sig) [] [("self", .int 1)] = bindKeywords (some sig) [.int 1] [] ∧
      ((CallContract.call f [.int 1] []).exec settled).1 = .ok (.int 1) ∧
      ((CallContract.call f [] [("self", .int 1)]).exec settled).1 = .error .wrongType :=
  ⟨rfl, rfl, rfl, rfl⟩

end Contract

end CallContract
