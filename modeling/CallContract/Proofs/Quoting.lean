import CallContract.Proofs.Examining
import CallContract.Proofs.History
import CallContract.Proofs.Nesting
import CallContract.Proofs.Reporting

/-!
# Where broken texts come from

The text of a failure has one line for each issue unless it quotes a text that is broken into lines.
The check of a value quotes such a text only if the schema or the value has one: a message, a limit,
a parameter or an error of a predicate or validator on the one side (`Rule.Plain`), a key or the
word for a type on the other (`Value.Plain`). If all these are single lines, then so are all entries
of a failure with which the check ends (`Rule.quotes`), and a gate adds a heading that is a single
line if the name of the function is.

A predicate that checks a value itself is a case of its own. Its failure is quoted with all its
lines, so that one with several issues breaks the layout of the failure that quotes it
(`nested_failure_broken`).
-/

namespace CallContract

/-! ### What a schema and a value bring in -/

/-- The texts that the complaints of a limit quote. -/
def Limit.texts : Limit → List String
  | .bound _ n => [n.plainText]
  | .among vs => [choiceText (vs.map Value.shown)]
  | _ => []

/-- Whether the issues that a fault of a predicate or validator becomes quote no broken text. -/
def Fault.Plain (e : Fault) : Prop :=
  ∀ v is, e.issues? v = some is → ∀ i ∈ is, i.Unbroken

/-- Whether a rule brings no broken text into a failure by itself: no limit, no message, no fault of
a predicate or validator, and no name of a parameter is broken, nor is a failure that comes from a
function in place of a type. -/
def Rule.Plain (apply : Caller) : Rule → Prop
  | .limited _ ls => ∀ l ∈ ls, ∀ t ∈ l.texts, OneLine t
  | .after _ p m => (∀ t, m.text? = some t → OneLine t) ∧
    ∀ args kw s e t, (apply p args kw).exec s = (.error e, t) → e.Plain
  | .call sig f => (∀ p ∈ sig, OneLine p.name) ∧
    ∀ args kw s e t, (apply f args kw).exec s = (.error (.invalid e), t) → e.Unbroken
  | .own type => ∀ b args kw s e t,
    (apply (type.validator b) args kw).exec s = (.error e, t) → e.Plain
  | _ => True

/-- What a check of a value can come across in it. -/
inductive Value.Reaches (v : Value) : Value → Prop
  | self : Reaches v v
  | element {w x : Value} {xs : List Value} : Reaches v w → w.elements? = some xs → x ∈ xs →
    Reaches v x
  | key {l : Label} {es : List (Value × Value)} {e : Value × Value} : Reaches v (.dict l es) →
    e ∈ es → Reaches v e.1
  | entry {l : Label} {es : List (Value × Value)} {e : Value × Value} : Reaches v (.dict l es) →
    e ∈ es → Reaches v e.2

/-- Whether a value brings no broken text into a failure by itself: neither the word for its type
nor, in a dictionary, a key. -/
structure Value.Plain (v : Value) : Prop where
  kind : OneLine v.kindName
  keys : ∀ l es, v = .dict l es → ∀ e ∈ es, OneLine (keyPlace e.1).text

/-- Whether nothing in a value brings a broken text into a failure. -/
def Value.PlainAll (v : Value) : Prop := ∀ w, v.Reaches w → w.Plain

namespace Value

theorem Reaches.trans {u v w : Value} (first : u.Reaches v) (second : v.Reaches w) :
    u.Reaches w := by
  induction second with
  | self => exact first
  | element _ held item ih => exact ih.element held item
  | key _ item ih => exact ih.key item
  | entry _ item ih => exact ih.entry item

variable {v x : Value} {xs : List Value}

theorem PlainAll.head (plain : v.PlainAll) : v.Plain := plain v .self

theorem PlainAll.element (plain : v.PlainAll) (held : v.elements? = some xs) (item : x ∈ xs) :
    x.PlainAll :=
  fun w reaches => plain w ((Reaches.element .self held item).trans reaches)

theorem PlainAll.entry {l : Label} {es : List (Value × Value)} (plain : (Value.dict l es).PlainAll)
    {e : Value × Value} (item : e ∈ es) :
    OneLine (keyPlace e.1).text ∧ e.1.PlainAll ∧ e.2.PlainAll :=
  ⟨plain.head.keys l es rfl e item,
    fun w reaches => plain w ((Reaches.key .self item).trans reaches),
    fun w reaches => plain w ((Reaches.entry .self item).trans reaches)⟩

end Value

/-! ### Issues -/

/-- An issue about a whole value quotes what its complaint quotes. -/
theorem Issue.unbroken_here {c : Complaint} {v : Value}
    (plain : ∀ t ∈ c.texts v.kindName, OneLine t) : (Issue.here c v).Unbroken :=
  ⟨List.forall_mem_nil _, plain⟩

theorem Issue.Unbroken.within {i : Issue} (plain : i.Unbroken) {p : Place}
    (place : OneLine p.text) : (i.within p).Unbroken :=
  ⟨List.forall_mem_cons.mpr ⟨place, plain.place⟩, plain.message⟩

theorem Place.oneLine_index (i : Int) : OneLine (Place.index i).text := oneLine_int i

/-- Whether the issues of a verdict quote no broken text. -/
def Verdict.Unbroken (x : Verdict) : Prop := ∀ i ∈ x.issues, i.Unbroken

namespace Verdict

variable {v : Value}

theorem unbroken_ok (w : Value) : Unbroken (.ok w) := List.forall_mem_nil _

theorem unbroken_refuse {c : Complaint} (plain : ∀ t ∈ c.texts v.kindName, OneLine t) :
    (refuse c v).Unbroken :=
  List.forall_mem_singleton.mpr (Issue.unbroken_here plain)

theorem unbroken_mismatch (kind : OneLine v.kindName) (e : Expected) :
    (refuse (.mismatch e) v).Unbroken :=
  unbroken_refuse (List.forall_mem_singleton.mpr kind)

theorem unbroken_ofParts {issues : List Issue} (plain : ∀ i ∈ issues, i.Unbroken) (w : Value) :
    (ofParts issues w).Unbroken := by
  unfold ofParts
  split
  · exact unbroken_ok w
  · exact plain

end Verdict

/-! ### Readings -/

/-- Whether a complaint quotes nothing but the word for the type of what was received. -/
def Complaint.Simple (c : Complaint) : Prop := ∀ received, ∀ t ∈ c.texts received, t = received

/-- Whether a reading has no other complaint. -/
def Scalar.Simple (x : Reading) : Prop := ∀ c, x = .error c → c.Simple

namespace Scalar

theorem simple_ok (w : Value) : Simple (.ok w) := nofun

theorem simple_error {c : Complaint} (simple : c.Simple) : Simple (.error c) := by
  rintro _ ⟨⟩
  exact simple

theorem simple_mismatch (e : Expected) : Simple (.error (.mismatch e)) :=
  simple_error fun _ _ quoted => List.mem_singleton.mp quoted

theorem simple_readWhole (cs : List Char) : Simple (readWhole cs) := by
  unfold readWhole readDigits
  dsimp only
  repeat' split
  all_goals first | exact simple_ok _ | exact simple_error nofun

theorem simple_readDouble (cs : List Char) : Simple (readDouble cs) := by
  unfold readDouble
  split
  · exact simple_ok _
  · exact simple_error nofun

theorem simple_readBool (cs : List Char) : Simple (readBool cs) := by
  unfold readBool
  dsimp only
  repeat' split
  all_goals first | exact simple_ok _ | exact simple_error nofun

theorem simple_wholeOfDouble (d : Double) : Simple (wholeOfDouble d) := by
  unfold wholeOfDouble
  repeat' split
  all_goals first | exact simple_ok _ | exact simple_error nofun

theorem simple_doubleOfInt (i : Int) : Simple (doubleOfInt i) := by
  unfold doubleOfInt
  split
  · exact simple_ok _
  · exact simple_mismatch _

theorem simple_int (b : Bool) (v : Value) : Simple (int b v) := by
  unfold int
  repeat' split
  all_goals first
    | exact simple_ok _
    | exact simple_mismatch _
    | exact simple_wholeOfDouble _
    | exact simple_readWhole _
    | exact simple_error nofun

theorem simple_float (b : Bool) (v : Value) : Simple (float b v) := by
  unfold float
  repeat' split
  all_goals first
    | exact simple_ok _
    | exact simple_mismatch _
    | exact simple_doubleOfInt _
    | exact simple_readDouble _
    | exact simple_error nofun

theorem simple_bool (b : Bool) (v : Value) : Simple (bool b v) := by
  unfold bool
  repeat' split
  all_goals first
    | exact simple_ok _
    | exact simple_mismatch _
    | exact simple_readBool _
    | exact simple_error nofun

theorem simple_text (b : Bool) (v : Value) : Simple (text b v) := by
  unfold text
  cases v.text? with
  | some s => exact simple_ok _
  | none =>
    cases v with
    | bytes bs =>
      dsimp only
      split
      · exact simple_mismatch _
      · cases decode? bs with
        | some s => exact simple_ok _
        | none => exact simple_error nofun
    | _ => exact simple_mismatch _

theorem simple_bytes (b : Bool) (v : Value) : Simple (bytes b v) := by
  unfold bytes
  repeat' split
  all_goals first
    | exact simple_ok _
    | exact simple_mismatch _

theorem simple_null (v : Value) : Simple (null v) := by
  unfold null
  split
  · exact simple_ok _
  · exact simple_mismatch _

theorem simple_callable (v : Value) : Simple (callable v) := by
  unfold callable
  split
  · exact simple_ok _
  · exact simple_mismatch _

end Scalar

/-- A reading of a value brings in no more than the word for its type. -/
theorem Verdict.unbroken_ofReading {v : Value} (kind : OneLine v.kindName) {x : Reading}
    (simple : Scalar.Simple x) : (Verdict.ofReading v x).Unbroken := by
  cases x with
  | ok w => exact unbroken_ok w
  | error c =>
    refine List.forall_mem_singleton.mpr (Issue.unbroken_here fun t quoted => ?_)
    rw [simple c rfl _ t quoted]
    exact kind

/-! ### Points and arguments -/

theorem unbroken_coordinate {b : Bool} {l : Label} {es : List (Value × Value)}
    (plain : (Value.dict l es).PlainAll) {name : String} (word : OneLine name) {missing : Verdict}
    (other : missing.Unbroken) : (coordinate b es name missing).Unbroken := by
  -- Issues are only moved below the name of the coordinate.
  have moved {x : Verdict} (hx : x.Unbroken) :
      Verdict.Unbroken (x.mapError fun is => is.map (Issue.within (.key name))) := by
    cases x with
    | ok w => exact Verdict.unbroken_ok w
    | error is => exact List.forall_mem_map.mpr fun i found => (hx i found).within word
  unfold coordinate
  refine moved ?_
  split
  · next v found =>
    unfold lookupEntry at found
    obtain ⟨e, entry, rfl⟩ := Option.map_eq_some_iff.mp found
    have value := (plain.entry (List.mem_of_find?_eq_some entry)).2.2
    exact Verdict.unbroken_ofReading value.head.kind (Scalar.simple_int b _)
  · exact other

theorem unbroken_applyPoint (b : Bool) {v : Value} (plain : v.PlainAll) :
    (applyPoint b v).Unbroken := by
  unfold applyPoint
  split
  · exact Verdict.unbroken_ok _
  · next l es =>
    have x : (coordinate b es "x" (.refuse .missing (.dict l es))).Unbroken :=
      unbroken_coordinate plain (by decide) (Verdict.unbroken_refuse (List.forall_mem_nil _))
    have y : (coordinate b es "y" (.ok (.int 0))).Unbroken :=
      unbroken_coordinate plain (by decide) (Verdict.unbroken_ok _)
    dsimp only
    split
    · exact Verdict.unbroken_ok _
    · exact List.forall_mem_append.mpr ⟨x, y⟩
  · exact Verdict.unbroken_refuse (List.forall_mem_nil _)

namespace Gathered

/-- Whether the issues found so far quote no broken text. -/
def Unbroken (g : Gathered) : Prop := ∀ i ∈ g.issues, i.Unbroken

theorem Unbroken.complain {g : Gathered} (h : g.Unbroken) {c : Complaint} {p : Place}
    (v : Value) (texts : c.texts v.kindName = []) (place : OneLine p.text) :
    (g.complain c p v).Unbroken := by
  have here : (Issue.here c v).Unbroken := Issue.unbroken_here (texts ▸ List.forall_mem_nil _)
  exact List.forall_mem_append.mpr ⟨h, List.forall_mem_singleton.mpr (here.within place)⟩

end Gathered

section Arguments

variable {g : Gathered} {whole : Value} {args : List Value} {kw : List (Value × Value)}

theorem unbroken_gatherOne (h : g.Unbroken) (index : Nat) {p : Parameter Value}
    (name : OneLine p.name) : (gatherOne whole args kw g index p).Unbroken := by
  unfold gatherOne
  dsimp only
  repeat' split
  all_goals first
    | exact h
    | exact h.complain _ rfl name
    | exact h.complain _ rfl (Place.oneLine_index _)

theorem unbroken_gatherExtra (collects : Bool) {g : Gathered} (h : g.Unbroken) (i : Nat)
    (vs : List Value) : (gatherExtra collects g i vs).Unbroken := by
  induction vs generalizing g i with
  | nil => exact h
  | cons v vs ih =>
    unfold gatherExtra
    refine ih ?_ (i + 1)
    split
    · exact h
    · exact h.complain v rfl (Place.oneLine_index _)

theorem keyPlace_of_text {k : Value} {n : String} (text : k.text? = some n) :
    keyPlace k = .key n := by
  cases k <;> cases text <;> rfl

theorem unbroken_gatherNamed (collects : Bool) (taken : List String) {g : Gathered}
    (h : g.Unbroken) {es : List (Value × Value)}
    (keys : ∀ e ∈ es, OneLine (keyPlace e.1).text) :
    (gatherNamed collects taken g es).Unbroken := by
  induction es generalizing g with
  | nil => exact h
  | cons e es ih =>
    obtain ⟨k, v⟩ := e
    obtain ⟨key, rest⟩ := List.forall_mem_cons.mp keys
    unfold gatherNamed
    refine ih ?_ rest
    split
    · exact h.complain k rfl key
    · next n text =>
      rw [keyPlace_of_text text] at key
      repeat' split
      all_goals first
        | exact h
        | exact h.complain v rfl key

theorem unbroken_argumentsOf {sig : List (Parameter Value)} (names : ∀ p ∈ sig, OneLine p.name)
    {v : Value} (plain : v.PlainAll) {is : List Issue} (refused : argumentsOf sig v = .error is) :
    ∀ i ∈ is, i.Unbroken := by
  unfold argumentsOf at refused
  split at refused
  · obtain rfl := Except.error.inj refused
    exact List.forall_mem_singleton.mpr (Issue.unbroken_here (List.forall_mem_nil _))
  · next args kw given =>
    have keys : ∀ e ∈ kw, OneLine (keyPlace e.1).text := by
      cases v <;> cases given <;> first
        | exact List.forall_mem_nil _
        | exact plain.head.keys _ _ rfl
    dsimp only at refused
    split at refused
    · cases refused
    · obtain rfl := Except.error.inj refused
      refine unbroken_gatherNamed _ _ (unbroken_gatherExtra _ ?_ _ _) keys
      refine List.foldlRecOn _ _ (List.forall_mem_nil _) fun g h p found => ?_
      have member := (List.mem_filter.mp (List.fst_mem_of_mem_zipIdx found)).1
      exact unbroken_gatherOne h _ (names _ member)

end Arguments

/-! ### Checks -/

/-- Whether what a run gives has a property, and a failure with which it ends quotes no broken
text. -/
def Run.Quotes {α : Type} (P : α → Prop) (m : Run α) : Prop :=
  ∀ s, (∀ a t, m.exec s = (.ok a, t) → P a) ∧
    ∀ f t, m.exec s = (.error (.invalid f), t) → f.Unbroken

namespace Run.Quotes

variable {α β : Type} {P : α → Prop} {Q : β → Prop}

theorem pure {a : α} (h : P a) : (Pure.pure a : Run α).Quotes P := by
  refine fun s => ⟨?_, nofun⟩
  rintro _ _ ⟨⟩
  exact h

theorem throw {e : Fault} (other : ∀ f, e ≠ .invalid f) :
    (MonadExcept.throw e : Run α).Quotes P := by
  refine fun s => ⟨nofun, ?_⟩
  rintro f _ ⟨⟩
  exact absurd rfl (other f)

theorem bind {m : Run α} {k : α → Run β} (first : m.Quotes P)
    (rest : ∀ a, P a → (k a).Quotes Q) : (m >>= k).Quotes Q := by
  intro s
  rcases ran : m.exec s with ⟨e | a, t⟩
  · rw [Run.exec_bind_of_error ran]
    refine ⟨nofun, ?_⟩
    rintro f _ ⟨⟩
    exact (first s).2 f t ran
  · rw [Run.exec_bind_of_ok ran]
    exact rest a ((first s).1 a t ran) t

theorem map {g : α → β} {m : Run α} (first : m.Quotes P) (rest : ∀ a, P a → Q (g a)) :
    (g <$> m).Quotes Q := by
  rw [← bind_pure_comp]
  exact first.bind fun a h => .pure (rest a h)

end Run.Quotes

section Rules

variable {apply : Caller}

/-- Parts of a container whose issues quote no broken text. -/
abbrev UnbrokenParts {α : Type} (parts : List Issue × α) : Prop := ∀ i ∈ parts.1, i.Unbroken

theorem unbroken_addPart {place : Place} (word : OneLine place.text) {x : Verdict}
    (plain : x.Unbroken) {rest : List Issue × List Value} (others : UnbrokenParts rest) :
    UnbrokenParts (addPart place x rest) := by
  cases x with
  | ok w => exact others
  | error is =>
    refine List.forall_mem_append.mpr ⟨?_, others⟩
    exact List.forall_mem_map.mpr fun i found => (plain i found).within word

theorem quotes_applyItems {check : Value → Run Verdict} {vs : List Value}
    (checks : ∀ v ∈ vs, (check v).Quotes Verdict.Unbroken) (i : Nat) :
    (applyItems check i vs).Quotes UnbrokenParts := by
  induction vs generalizing i with
  | nil => exact .pure (List.forall_mem_nil _)
  | cons v vs ih =>
    obtain ⟨first, rest⟩ := List.forall_mem_cons.mp checks
    exact first.bind fun x plain => (ih rest (i + 1)).bind fun parts others =>
      .pure (unbroken_addPart (Place.oneLine_index _) plain others)

theorem quotes_applyEntries {checkKey checkValue : Value → Run Verdict}
    {es : List (Value × Value)} (keys : ∀ e ∈ es, OneLine (keyPlace e.1).text)
    (checkKeys : ∀ e ∈ es, (checkKey e.1).Quotes Verdict.Unbroken)
    (checkValues : ∀ e ∈ es, (checkValue e.2).Quotes Verdict.Unbroken) :
    (applyEntries checkKey checkValue es).Quotes UnbrokenParts := by
  induction es with
  | nil => exact .pure (List.forall_mem_nil _)
  | cons e es ih =>
    obtain ⟨k, v⟩ := e
    obtain ⟨key, keys⟩ := List.forall_mem_cons.mp keys
    obtain ⟨checkedKey, checkKeys⟩ := List.forall_mem_cons.mp checkKeys
    obtain ⟨checkedValue, checkValues⟩ := List.forall_mem_cons.mp checkValues
    have rest := ih keys checkKeys checkValues
    have found {x y : Verdict} (hx : x.Unbroken) (hy : y.Unbroken)
        {parts : List Issue × List (Value × Value)} (others : UnbrokenParts parts) :
        ∀ i ∈ (x.issues.map fun i => (i.within (.key "[key]")).within (keyPlace k)) ++
          y.issues.map (Issue.within (keyPlace k)) ++ parts.1, i.Unbroken := by
      refine List.forall_mem_append.mpr ⟨List.forall_mem_append.mpr ⟨?_, ?_⟩, others⟩
      · exact List.forall_mem_map.mpr fun i h => ((hx i h).within (by decide)).within key
      · exact List.forall_mem_map.mpr fun i h => (hy i h).within key
    refine checkedKey.bind fun x hx => checkedValue.bind fun y hy => ?_
    cases x with
    | error is => exact rest.bind fun parts others => .pure (found hx hy others)
    | ok k' =>
      cases y with
      | error is => exact rest.bind fun parts others => .pure (found hx hy others)
      | ok v' =>
        dsimp only
        split
        · have unhashable : (throw .wrongType : Run PUnit).Quotes fun _ => True := .throw nofun
          exact unhashable.bind fun _ _ => rest.bind fun parts others => .pure others
        · exact rest.bind fun parts others => .pure others

theorem quotes_narrow {p m v w : Value}
    (message : ∀ t, m.text? = some t → OneLine t)
    (faults : ∀ args kw s e t, (apply p args kw).exec s = (.error e, t) → e.Plain) :
    (narrow apply p m v w).Quotes Verdict.Unbroken := by
  intro s
  rw [exec_narrow]
  split
  · split
    · refine ⟨?_, nofun⟩
      rintro _ _ ⟨⟩
      exact Verdict.unbroken_ok w
    · split
      · next text told =>
        refine ⟨?_, nofun⟩
        rintro _ _ ⟨⟩
        exact Verdict.unbroken_refuse (List.forall_mem_singleton.mpr (message text told))
      · exact ⟨nofun, nofun⟩
  · next e t asked =>
    split
    · next is becomes =>
      refine ⟨?_, nofun⟩
      rintro _ _ ⟨⟩
      exact faults [w] [] s e t asked v is becomes
    · next silent =>
      refine ⟨nofun, ?_⟩
      -- A failure of the predicate becomes an issue and does not end the check.
      rintro f _ ⟨⟩
      cases silent

theorem quotes_consult {p v : Value}
    (faults : ∀ args kw s e t, (apply p args kw).exec s = (.error e, t) → e.Plain) :
    (consult apply p v).Quotes Verdict.Unbroken := by
  intro s
  rw [exec_consult]
  split
  · refine ⟨?_, nofun⟩
    rintro _ _ ⟨⟩
    exact Verdict.unbroken_ok _
  · next e t asked =>
    split
    · next is becomes =>
      refine ⟨?_, nofun⟩
      rintro _ _ ⟨⟩
      exact faults [v] [] s e t asked v is becomes
    · next silent =>
      refine ⟨nofun, ?_⟩
      rintro f _ ⟨⟩
      cases silent

theorem texts_of_lengthComplaint {short : Bool} {n : Nat} {w : Value} {c : Complaint}
    (complains : Limit.lengthComplaint? short n w = some c) (received : String) :
    c.texts received = [] := by
  unfold Limit.lengthComplaint? at complains
  dsimp only at complains
  repeat' split at complains
  all_goals cases complains
  all_goals rfl

/-- A limit complains with its own texts. -/
theorem Limit.texts_of_complaint {l : Limit} {w : Value} {c : Complaint}
    (complains : l.complaint? w = some c) (received : String) :
    ∀ t ∈ c.texts received, t ∈ l.texts := by
  have none {c : Complaint} (texts : c.texts received = []) :
      ∀ t ∈ c.texts received, t ∈ l.texts := texts ▸ List.forall_mem_nil _
  cases l with
  | shortest n | longest n => exact none (texts_of_lengthComplaint complains received)
  | bound b n | multiple d | among vs =>
    unfold Limit.complaint? at complains
    dsimp only at complains
    repeat' split at complains
    all_goals cases complains
    all_goals exact fun t quoted => quoted

theorem oneLine_firstComplaint {ls : List Limit} (plain : ∀ l ∈ ls, ∀ t ∈ l.texts, OneLine t)
    {w : Value} {c : Complaint} (found : firstComplaint? ls w = some c) (received : String) :
    ∀ t ∈ c.texts received, OneLine t := by
  obtain ⟨l, member, complains⟩ := List.exists_of_findSome?_eq_some found
  exact fun t quoted => plain l member t (Limit.texts_of_complaint complains received t quoted)

theorem unbroken_asMember {x : Verdict} (plain : x.Unbroken) (v : Value) :
    (asMember v x).Unbroken := by
  unfold asMember
  split
  · split
    · exact Verdict.unbroken_ok _
    · exact Verdict.unbroken_refuse (List.forall_mem_nil _)
  · exact plain

theorem mem_of_withinLimit {most : Option Nat} {xs : List Value} {x : Value}
    (item : x ∈ withinLimit most xs) : x ∈ xs := by
  cases most with
  | none => exact item
  | some m => exact List.mem_of_mem_take item

mutual

/-- **Where broken texts come from.** A check by a rule quotes no broken text if neither the rule
nor the value brings one in. By recursion on the rule; a rule in it checks parts of the value. -/
theorem Rule.quotes (b : Bool) : ∀ r : Rule, r.Each (Rule.Plain apply) → ∀ {v : Value},
    v.PlainAll → (r.apply apply b v).Quotes Verdict.Unbroken
  | .any, _, _, _ => .pure (Verdict.unbroken_ok _)
  | .null, _, _, plain => .pure (Verdict.unbroken_ofReading plain.head.kind (Scalar.simple_null _))
  | .bool, _, _, plain =>
    .pure (Verdict.unbroken_ofReading plain.head.kind (Scalar.simple_bool b _))
  | .int, _, _, plain => .pure (Verdict.unbroken_ofReading plain.head.kind (Scalar.simple_int b _))
  | .float, _, _, plain =>
    .pure (Verdict.unbroken_ofReading plain.head.kind (Scalar.simple_float b _))
  | .text, _, _, plain =>
    .pure (Verdict.unbroken_ofReading plain.head.kind (Scalar.simple_text b _))
  | .bytes, _, _, plain =>
    .pure (Verdict.unbroken_ofReading plain.head.kind (Scalar.simple_bytes b _))
  | .callable, _, _, plain =>
    .pure (Verdict.unbroken_ofReading plain.head.kind (Scalar.simple_callable _))
  | .point, _, _, plain => .pure (unbroken_applyPoint b plain)
  | .unresolved, _, _, _ => .throw nofun
  | .optional r, rules, v, plain => by
    cases v <;> first | exact .pure (Verdict.unbroken_ok _) | exact quotes b r rules.2 plain
  | .list r least most, rules, v, plain => by
    rw [Rule.apply]
    split
    · exact .pure (Verdict.unbroken_mismatch plain.head.kind _)
    · next xs held =>
      have items (x : Value) (item : x ∈ withinLimit most xs) :=
        quotes b r rules.2 (plain.element (elements_of_listItems held) (mem_of_withinLimit item))
      refine (quotes_applyItems items 0).bind fun parts unbroken => ?_
      dsimp only
      repeat' split
      · exact .pure (Verdict.unbroken_refuse (List.forall_mem_nil _))
      · exact .pure unbroken
      · exact .pure (Verdict.unbroken_refuse (List.forall_mem_nil _))
      · exact .pure (Verdict.unbroken_ok _)
  | .set r, rules, v, plain => by
    rw [Rule.apply]
    split
    · exact .pure (Verdict.unbroken_mismatch plain.head.kind _)
    · next xs held =>
      have items (x : Value) (item : x ∈ xs) :=
        (quotes b r rules.2 (plain.element (elements_of_setItems held) item)).map
          fun _ unbroken => unbroken_asMember unbroken x
      exact (quotes_applyItems items 0).bind fun parts unbroken =>
        .pure (Verdict.unbroken_ofParts unbroken _)
  | .frozenset r, rules, v, plain => by
    rw [Rule.apply]
    split
    · exact .pure (Verdict.unbroken_mismatch plain.head.kind _)
    · next xs held =>
      have items (x : Value) (item : x ∈ xs) :=
        (quotes b r rules.2 (plain.element (elements_of_frozensetItems held) item)).map
          fun _ unbroken => unbroken_asMember unbroken x
      exact (quotes_applyItems items 0).bind fun parts unbroken =>
        .pure (Verdict.unbroken_ofParts unbroken _)
  | .variadic r, rules, v, plain => by
    rw [Rule.apply]
    split
    · exact .pure (Verdict.unbroken_mismatch plain.head.kind _)
    · next xs held =>
      have items (x : Value) (item : x ∈ xs) :=
        quotes b r rules.2 (plain.element (elements_of_tupleItems held) item)
      exact (quotes_applyItems items 0).bind fun parts unbroken =>
        .pure (Verdict.unbroken_ofParts unbroken _)
  | .fixed rs, rules, v, plain => by
    rw [Rule.apply]
    split
    · exact .pure (Verdict.unbroken_mismatch plain.head.kind _)
    · next xs held =>
      have items (x : Value) (item : x ∈ xs) := plain.element (elements_of_tupleItems held) item
      refine (quotesFixed b v rs rules.2 0 items).bind fun parts unbroken => ?_
      dsimp only
      split
      · exact .pure (Verdict.unbroken_refuse (List.forall_mem_nil _))
      · exact .pure (Verdict.unbroken_ofParts unbroken _)
  | .dict rk rv, rules, v, plain => by
    cases v with
    | dict l es =>
      rw [Rule.apply]
      have entries := quotes_applyEntries (fun e item => (plain.entry item).1)
        (fun e item => quotes b rk rules.2.1 (plain.entry item).2.1)
        (fun e item => quotes b rv rules.2.2 (plain.entry item).2.2)
      exact entries.bind fun parts unbroken => .pure (Verdict.unbroken_ofParts unbroken _)
    | _ => exact .pure (Verdict.unbroken_mismatch plain.head.kind _)
  | .limited r ls, rules, v, plain => by
    rw [Rule.apply]
    refine (quotes b r rules.2 plain).bind fun x unbroken => ?_
    split
    · exact .pure unbroken
    · split
      · next c found =>
        exact .pure (Verdict.unbroken_refuse (oneLine_firstComplaint rules.1 found _))
      · exact .pure (Verdict.unbroken_ok _)
  | .after r p m, rules, v, plain => by
    rw [Rule.apply]
    refine (quotes b r rules.2 plain).bind fun x unbroken => ?_
    split
    · exact .pure unbroken
    · exact quotes_narrow rules.1.1 rules.1.2
  | .call sig f, rules, v, plain => by
    rw [Rule.apply]
    split
    · next refused => exact .pure (unbroken_argumentsOf rules.1 plain refused)
    · next args kw _ =>
      refine Run.Quotes.map (P := fun _ => True) (fun s => ⟨fun _ _ _ => trivial, ?_⟩)
        fun w _ => Verdict.unbroken_ok w
      exact fun e t failed => rules.2 args kw s e t failed
  | .own type, rules, _, _ => quotes_consult (rules b)

theorem Rule.quotesFixed (b : Bool) (whole : Value) : ∀ rs : List Rule,
    EachOf (Rule.Plain apply) rs → ∀ (i : Nat) {vs : List Value}, (∀ v ∈ vs, v.PlainAll) →
      (applyFixed apply b whole rs i vs).Quotes UnbrokenParts
  | [], _, _, _, _ => .pure (List.forall_mem_nil _)
  | _ :: rs, rules, i, [], plain =>
    (quotesFixed b whole rs rules.2 (i + 1) plain).bind fun parts others =>
      .pure (unbroken_addPart (Place.oneLine_index _)
        (Verdict.unbroken_refuse (List.forall_mem_nil _)) others)
  | r :: rs, rules, i, v :: vs, plain => by
    obtain ⟨first, rest⟩ := List.forall_mem_cons.mp plain
    exact (quotes b r rules.1 first).bind fun x unbroken =>
      (quotesFixed b whole rs rules.2 (i + 1) rest).bind fun parts others =>
        .pure (unbroken_addPart (Place.oneLine_index _) unbroken others)

end

end Rules

/-! ### Failures of checks and gates -/

/-- The name in a heading is a single line if what is written of the name is. -/
theorem Failure.oneLine_nameShown (f : Failure) (b : Boundary) {name : Value}
    (word : OneLine name.print) : OneLine (f.withContext b name).nameShown := by
  unfold nameShown withContext
  dsimp only
  cases truthy : name.isTruthy with
  | true =>
    rw [if_pos rfl]
    split
    · decide
    · exact word
  | false =>
    -- The only text that counts as false is empty.
    have nameless : name.text?.getD "" = "" := by
      cases name <;> simp_all [Value.isTruthy, Value.text?]
    rw [if_neg Bool.false_ne_true, nameless]
    decide

/-- Whether a check of a value by a schema brings no broken text into its failures. The check has
got as far as looking at the value, and goes by the rule of the schema. -/
structure PlainCheck (apply : Caller) (schema v : Value) (strict : Option Bool) (s : Session) :
    Prop where
  serves : AdapterStore.Serves apply (promote schema) s.adapters
  prepared : ∃ b t, ((promote schema).prepare strict).exec s = (.ok b, t)
  rules : Gives (Rule.Each (Rule.Plain apply)) (promote schema).rule
  value : v.PlainAll

section Failures

variable {apply : Caller} {schema v : Value} {strict : Option Bool} {s t : Session} {f : Failure}

/-- A failure with which such a check ends quotes no broken text. -/
theorem PlainCheck.unbroken (plain : PlainCheck apply schema v strict s)
    (failed : (validate apply schema v strict).exec s = (.error (.invalid f), t)) :
    f.Unbroken := by
  obtain ⟨b, u, prepared⟩ := plain.prepared
  obtain ⟨a, u', found, -⟩ := Run.exec_bind_eq_ok.mp prepared
  obtain ⟨r, rule, -⟩ := Schema.rule_of_adapter plain.serves found
  have examined : ((promote schema).examine apply b v).Quotes Verdict.Unbroken := by
    rw [Schema.examine, rule, Run.lift_ok, pure_bind]
    exact r.quotes b (plain.rules r rule) plain.value
  have settled : ((promote schema).examine apply b v >>= Verdict.settle).Quotes fun _ => True := by
    refine examined.bind fun x unbroken => ?_
    cases x with
    | ok w => exact .pure trivial
    | error is =>
      refine fun s => ⟨fun _ _ _ => trivial, ?_⟩
      rintro f _ ⟨⟩
      exact ⟨unbroken, fun bounded => absurd rfl bounded⟩
  have promoted :
      validate apply schema v strict = validate apply (.schema (promote schema)) v strict := by
    rw [validate, validate, promote_schema]
  rw [promoted, validate_of_prepared plain.serves prepared] at failed
  exact (settled u).2 f t failed

/-- A failure with which a gate ends quotes the name of the function as well. -/
theorem PlainCheck.unbroken_gate {b : Boundary} {name : Value}
    (plain : PlainCheck apply schema v none s) (word : OneLine name.print)
    (failed : (Contract.gate apply b name schema v).exec s = (.error (.invalid f), t)) :
    f.Unbroken := by
  obtain ⟨f', u, checked, rfl⟩ := Contract.exec_gate_eq_invalid failed
  exact ⟨(plain.unbroken checked).issues, fun _ => f'.oneLine_nameShown b word⟩

end Failures

/-- **One line for each issue.** The text of a failure consists of the lines of its heading and of
the entries of its issues, in their order. There is a heading unless a lone issue has no boundary.
It has one line for each of them exactly if it quotes no text that is broken into lines, and then
each entry is a line. So it is for the failures with which checks and gates end, if neither the
schema nor the value nor the name of the function brings a broken text in. -/
theorem failure_lines (apply : Caller) :
    (∀ f : Failure,
      (f.heading? = none ↔ f.boundary = none ∧ f.issues.length = 1) ∧
      textLines f.text = f.layout.flatMap textLines ∧
      ((textLines f.text).length = f.issues.length + (if f.heading?.isSome then 1 else 0) ↔
        f.Unbroken) ∧
      (f.Unbroken → textLines f.text = f.layout)) ∧
    (∀ schema v strict s t f, PlainCheck apply schema v strict s →
      (validate apply schema v strict).exec s = (.error (.invalid f), t) →
      textLines f.text = f.layout) ∧
    ∀ b name schema v s t f, PlainCheck apply schema v none s → OneLine name.print →
      (Contract.gate apply b name schema v).exec s = (.error (.invalid f), t) →
      textLines f.text = f.layout := by
  have each (f : Failure) := f.textLines_text
  refine ⟨fun f => ⟨Failure.heading?_eq_none, (each f).1, (each f).2.2.1, (each f).2.2.2⟩,
    fun schema v strict s t f plain failed => ?_, fun b name schema v s t f plain word failed => ?_⟩
  · exact (each f).2.2.2 (plain.unbroken failed)
  · exact (each f).2.2.2 (plain.unbroken_gate word failed)

/-- A value that holds nothing brings in no more than the word for its type. -/
theorem Value.plainAll_of_single {v : Value} (kind : OneLine v.kindName) (held : v.elements? = none)
    (noDict : ∀ l es, v ≠ .dict l es) : v.PlainAll := by
  have alone (w : Value) (reaches : v.Reaches w) : w = v := by
    induction reaches with
    | self => rfl
    | element _ held' _ ih =>
      rw [ih, held] at held'
      cases held'
    | key _ _ ih | entry _ _ ih => exact absurd ih.symm (noDict _ _)
  intro w reaches
  obtain rfl := alone w reaches
  exact ⟨kind, fun l es dict => absurd dict (noDict l es)⟩

/-- The only fault of `len` becomes no issue. -/
theorem length_plain (args : List Value) (kw : Keywords) (s : Session) (e : Fault) (t : Session)
    (failed : (call (.function (.builtin .len)) args kw).exec s = (.error e, t)) : e.Plain := by
  have wrong : Fault.wrongType.Plain := nofun
  match args, kw with
  | [v], [] =>
    replace failed : (Run.lift v.len).exec s = (.error e, t) := failed
    rw [Run.exec_lift, Prod.mk.injEq] at failed
    obtain ⟨failed, -⟩ := failed
    unfold Value.len at failed
    repeat' split at failed
    all_goals cases failed
    exact wrong
  | [], _ | _ :: _ :: _, _ | [_], _ :: _ =>
    cases failed
    exact wrong

theorem failure_lines_emptyText :
    let S := Value.schema nonemptyText
    let v := Value.text ""
    ∃ f t, PlainCheck call S v (some true) .start ∧
      (validate call S v (some true)).exec .start = (.error (.invalid f), t) ∧
      textLines f.text = ["Invalid input"] := by
  intro S v
  have value : v.PlainAll := Value.plainAll_of_single (by decide) rfl nofun
  have rules : Gives (Rule.Each (Rule.Plain call)) (promote S).rule := by
    rintro _ ⟨⟩
    refine ⟨⟨?_, length_plain⟩, trivial⟩
    rintro _ ⟨⟩
    decide
  have plain : PlainCheck call S v (some true) .start :=
    ⟨AdapterStore.serves_nil _ _, ⟨true, _, rfl⟩, rules, value⟩
  refine ⟨_, _, plain, rfl, ?_⟩
  exact (failure_lines call).2.1 _ _ _ _ _ _ plain rfl

/-- The arguments of a function of one whole number. -/
def wholeNumber : Schema := .tuple .fresh [.primitive .fresh (.type .int)]

/-- The function `len` with a gate that takes a whole number. -/
def gatedLength : Value :=
  Contract.withBoth wholeNumber (.schema .anything) (.function (.builtin .len)) 3

/-- The texts that this function agrees to. -/
def gatedText : Schema := .refined .fresh (.primitive .fresh (.type .text)) gatedLength (.text "m")

/-- A predicate that checks a value itself ends its check with two lines, and the failure of the
value quotes both of them for one issue. -/
theorem nested_failure_broken :
    let quoted : Failure := ⟨[⟨[.index 0], .mismatch .int, .text "x"⟩], some .args, some "len"⟩
    let f : Failure := ⟨[⟨[], .valueError quoted.text, .text "x"⟩], none, none⟩
    let s := { Session.start with active := some strictSettings }
    ((validate call (.schema gatedText) (.text "x") (some true)).exec s).1 =
        .error (.invalid f) ∧
      textLines f.text = ["Value error, Invalid args for len:",
        "  - 0: Expected integer, received str"] := by
  intro quoted f s
  let r := Rule.after .text gatedLength (.text "m")
  let u := { s with adapters := [(gatedText, ⟨0, r⟩)], adaptersMade := 1 }
  have found : gatedText.adapter.exec s = (.ok ⟨0, r⟩, u) := rfl
  -- The adapter in store is not that of the gate.
  have taken : AdapterStore.take? wholeNumber u.adapters = none := by
    simp [u, AdapterStore.take?, gatedText, wholeNumber, Schema.same]
  have made := Schema.exec_adapter_of_missing (S := wholeNumber) (s := u) rfl taken
  let c := Contract.ofParts wholeNumber (.schema .anything) .both
  let face := (Value.function (.builtin .len)).face
  have refused : ∃ w, (validate (callWithin 2999) c.args.toValue (.tuple .fresh [.text "x"])
      none).exec u = (.error (.invalid ⟨quoted.issues, none, none⟩), w) := by
    show ∃ w, (validate (callWithin 2999) (.schema wholeNumber) _ _).exec u = _
    rw [validate, promote_schema, Run.exec_bind_of_ok made]
    exact ⟨_, rfl⟩
  obtain ⟨w, refused⟩ := refused
  have bound : Contract.bindKeywords face.signature [.text "x"] [] = .ok ([.text "x"], []) := rfl
  have ended := Contract.exec_inward_refused (show Mode.both.enforces .args = true from rfl) bound
    refused
  have asked : ∃ t, (call gatedLength [.text "x"] []).exec u = (.error (.invalid quoted), t) := by
    rw [call, callDepth, gatedLength, Contract.withBoth,
      Contract.callWithin_eq_stages _ _ _ _ _ rfl rfl]
    exact ⟨_, Run.exec_bind_of_error ended⟩
  obtain ⟨t, asked⟩ := asked
  have narrowed : (narrow call gatedLength (.text "m") (.text "x") (.text "x")).exec u =
      (.ok (.error f.issues), t) := by
    rw [exec_narrow, Caller.ask, asked]
    rfl
  have applied : (r.apply call true (.text "x")).exec u = (.ok (.error f.issues), t) := by
    rw [Rule.apply]
    exact narrowed
  refine ⟨?_, by decide +kernel⟩
  rw [validate, promote_schema, Run.exec_bind_of_ok found, strictness, pure_bind,
    Run.exec_bind_of_ok applied]
  rfl

end CallContract
