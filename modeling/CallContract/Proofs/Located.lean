import CallContract.Proofs.Examining

/-!
# Where issues are

A check finds all issues of a value and not only the first. Those of a tuple or a list are the
issues of its items, one item after another, each with the index of the item in front of its place
(`Schema.issues_tuple`, `Schema.issues_array`). A refinement adds issues only where what it refines
has none (`Schema.issues_refined`). Nothing but the place of an issue changes on the way from a part
to the whole, however deep the part is (`Schema.Part.issues_among`).
-/

namespace CallContract

/-- The issues that a check by a schema finds with a value, none if it accepts the value. -/
def Schema.issues (apply : Caller) (b : Bool) (S : Schema) (v : Value) : Run (List Issue) :=
  Verdict.issues <$> S.examine apply b v

/-- The issues of parts, of which the first has index `i`, as seen from the whole. -/
def located : Nat → List (List Issue) → List Issue
  | _, [] => []
  | i, is :: rest => is.map (Issue.within (.index i)) ++ located (i + 1) rest

/-- What an issue says apart from its place: its code, its message and what was found. -/
def Issue.content (i : Issue) : String × String × Value := (i.complaint.code, i.message, i.input)

/-- The issue as seen from outside, where its value is found by going along a path. -/
def Issue.along (path : List Place) (i : Issue) : Issue := { i with place := path ++ i.place }

@[simp] theorem Issue.along_nil (i : Issue) : i.along [] = i := rfl

@[simp] theorem Issue.within_along (p : Place) (path : List Place) (i : Issue) :
    (i.along path).within p = i.along (p :: path) := rfl

@[simp] theorem Issue.content_within (p : Place) (i : Issue) : (i.within p).content = i.content :=
  rfl

/-- Locating issues changes nothing else about them. -/
theorem located_content (i : Nat) (parts : List (List Issue)) :
    (located i parts).map Issue.content = parts.flatten.map Issue.content := by
  induction parts generalizing i with
  | nil => rfl
  | cons is parts ih =>
    simp only [located, List.map_append, List.map_map, List.flatten_cons, ih]
    rfl

/-! ### Issues of parts -/

section Parts

variable {apply : Caller} {b : Bool}

/-- A container that is built anew has the issues of its parts. -/
theorem issues_ofParts (issues : List Issue) (whole : Value) :
    (Verdict.ofParts issues whole).issues = issues := by
  cases issues <;> rfl

theorem addPart_fst (p : Place) (verdict : Verdict) (rest : List Issue × List Value) :
    (addPart p verdict rest).1 = verdict.issues.map (Issue.within p) ++ rest.1 := by
  cases verdict <;> rfl

/-- A first part that is checked by itself, before the others. -/
theorem issues_addPart (check : Run Verdict) (others : Run (List Issue × List Value)) (i : Nat)
    {located' : Run (List (List Issue))}
    (rest : Prod.fst <$> others = located (i + 1) <$> located') :
    Prod.fst <$> (do
        let verdict ← check
        let rest ← others
        return addPart (.index i) verdict rest) =
      located i <$> (do
        let is ← Verdict.issues <$> check
        let rest ← located'
        return is :: rest) := by
  have each (verdict : Verdict) : (do
        let rest ← others
        return verdict.issues.map (Issue.within (.index i)) ++ rest.1) =
      (do
        let rest ← located'
        return verdict.issues.map (Issue.within (.index i)) ++ located (i + 1) rest) := by
    have mapped := congrArg (fun m : Run (List Issue) =>
      (verdict.issues.map (Issue.within (.index i)) ++ ·) <$> m) rest
    simpa only [← bind_pure_comp, bind_assoc, pure_bind] using mapped
  simp only [map_bind, bind_map_left, map_pure, addPart_fst, located, each]

/-- The issues with the items of a list. -/
theorem issues_applyItems (check : Value → Run Verdict) (i : Nat) (vs : List Value) :
    Prod.fst <$> applyItems check i vs =
      located i <$> vs.mapM fun v => Verdict.issues <$> check v := by
  induction vs generalizing i with
  | nil => simp [applyItems, located]
  | cons v vs ih =>
    rw [applyItems, List.mapM_cons]
    exact issues_addPart _ _ i (ih (i + 1))

/-- The issues with the items of a tuple that has one for each rule. -/
theorem issues_applyFixed (whole : Value) {rs : List Rule} {vs : List Value}
    (length : vs.length = rs.length) (i : Nat) :
    Prod.fst <$> applyFixed apply b whole rs i vs =
      located i <$> (rs.zip vs).mapM fun e => Verdict.issues <$> e.1.apply apply b e.2 := by
  induction rs generalizing i vs with
  | nil => simp [applyFixed, located]
  | cons r rs ih =>
    cases vs with
    | nil => cases length
    | cons v vs =>
      rw [applyFixed, List.zip_cons_cons, List.mapM_cons]
      exact issues_addPart _ _ i (ih (Nat.succ.inj length) (i + 1))

/-! ### Issues of schemas with parts -/

namespace Schema

variable {l : Label} {v : Value} {xs : List Value}

/-- The issues with a value where the rule of the schema is known. -/
theorem issues_of_translation {S : Schema} {r : Rule} (h : S.translation = .ok r) (v : Value) :
    S.issues apply b v = Verdict.issues <$> r.apply apply b v := by
  rw [issues, examine_of_translation apply b h]

theorem mapM_issues {items : List Schema} {rs : List Rule}
    (translated : List.Forall₂ (fun S r => Schema.translation S = .ok r) items rs)
    (xs : List Value) :
    ((items.zip xs).mapM fun e => e.1.issues apply b e.2) =
      (rs.zip xs).mapM fun e => Verdict.issues <$> e.1.apply apply b e.2 := by
  induction translated generalizing xs with
  | nil => rfl
  | cons h _ ih =>
    cases xs with
    | nil => rfl
    | cons x xs =>
      simp only [List.zip_cons_cons, List.mapM_cons, issues_of_translation h, ih]

/-- The issues with a tuple of the right length are those of its elements, in order. -/
theorem issues_tuple {items : List Schema} (resolved : (Schema.tuple l items).Resolved)
    (found : tupleItems b v = some xs) (length : xs.length = items.length) :
    (Schema.tuple l items).issues apply b v =
      located 0 <$> (items.zip xs).mapM fun e => e.1.issues apply b e.2 := by
  obtain ⟨r, h⟩ := resolved
  obtain ⟨rs, translated, rfl⟩ := translation_tuple h
  have length : xs.length = rs.length := length.trans translated.length_eq
  have verdict (parts : List Issue × List Value) :
      (tupleVerdict rs.length v xs.length parts).issues = parts.1 := by
    rw [tupleVerdict, length, show exceeds rs.length (some rs.length) = none by simp [exceeds]]
    exact issues_ofParts ..
  have report : Verdict.issues <$> (Rule.fixed rs).apply apply b v =
      Prod.fst <$> applyFixed apply b v rs 0 xs := by
    simp only [Rule.apply_fixed rs found, Functor.map_map, verdict]
  rw [issues_of_translation h, report, mapM_issues translated, issues_applyFixed v length]

/-- The issues with a list of a permitted length are those of its items, in order. -/
theorem issues_array {element : Schema} {n lo hi : Option Numeral}
    (resolved : (Schema.array l element n lo hi).Resolved) (item : element.Resolved)
    (found : listItems b v = some xs) (fits : LengthFits n lo hi xs.length) :
    (Schema.array l element n lo hi).issues apply b v =
      located 0 <$> xs.mapM (element.issues apply b) := by
  obtain ⟨r, h⟩ := resolved
  obtain ⟨r₀, helement⟩ := item
  obtain ⟨r₁, least, most, hleast, hmost, rfl, helement' | ⟨l', l'', types, rfl, -⟩⟩ :=
    translation_array h
  · obtain rfl := Except.ok.inj (helement.symm.trans helement')
    obtain ⟨few, enough⟩ := (lengthFits_iff hleast hmost _).mp fits
    have verdict (parts : List Issue × List Value) :
        (listVerdict least most v xs.length parts).issues = parts.1 := by
      obtain ⟨issues, ws⟩ := parts
      cases issues <;> simp [listVerdict, few, enough, Verdict.issues]
    have report : Verdict.issues <$> (Rule.list r₀ least most).apply apply b v =
        Prod.fst <$> applyItems (r₀.apply apply b) 0 xs := by
      simp only [Rule.apply_list r₀ least most found, Functor.map_map, verdict,
        withinLimit_of_few few]
    have each : element.issues apply b = fun x => Verdict.issues <$> r₀.apply apply b x :=
      funext (issues_of_translation helement)
    rw [issues_of_translation h, report, each, issues_applyItems]
  · -- A bare tuple of types has no rule.
    cases translation_primitive helement

section Refined

variable {base : Schema} {p m : Value} (resolved : (Schema.refined l base p m).Resolved)

include resolved

/-- The issues with a refined value are those of the base, if it has any, or else those of asking
the predicate. -/
theorem issues_refined (v : Value) : (Schema.refined l base p m).issues apply b v = (do
      match ← base.examine apply b v with
      | .error is => return is
      | .ok w => Verdict.issues <$> narrow apply p m v w) := by
  obtain ⟨r, h⟩ := resolved
  obtain ⟨r₀, hbase, rfl⟩ := translation_refined h
  rw [issues_of_translation h, examine_of_translation apply b hbase, Rule.apply, map_bind]
  refine bind_congr fun verdict => ?_
  cases verdict <;> rfl

variable {s t u : Session} {w : Value}

theorem exec_issues_of_refused {is : List Issue}
    (refused : (base.examine apply b v).exec s = (.ok (.error is), t)) :
    ((Schema.refined l base p m).issues apply b v).exec s = (.ok is, t) := by
  rw [issues_refined resolved, Run.exec_bind_of_ok refused, Run.exec_pure]

variable (accepted : (base.examine apply b v).exec s = (.ok (.ok w), t))

include accepted

theorem exec_issues_of_accepted : ((Schema.refined l base p m).issues apply b v).exec s =
    (Verdict.issues <$> narrow apply p m v w).exec t := by
  rw [issues_refined resolved, Run.exec_bind_of_ok accepted]

theorem exec_issues_of_agreed {answer : Value} (asked : (apply.ask p w).exec t = (.ok answer, u))
    (truthy : answer.isTruthy = true) :
    ((Schema.refined l base p m).issues apply b v).exec s = (.ok [], u) := by
  rw [exec_issues_of_accepted resolved accepted, Run.exec_map, exec_narrow, asked]
  simp only [truthy, if_true]
  rfl

theorem exec_issues_of_disagreed {answer : Value} {text : String}
    (asked : (apply.ask p w).exec t = (.ok answer, u)) (falsy : answer.isTruthy = false)
    (message : m.text? = some text) :
    ((Schema.refined l base p m).issues apply b v).exec s = (.ok [⟨[], .refused text, v⟩], u) := by
  rw [exec_issues_of_accepted resolved accepted, Run.exec_map, exec_narrow, asked]
  simp only [falsy, Bool.false_eq_true, if_false, message]
  rfl

theorem exec_issues_of_raised {e : Fault} {is : List Issue}
    (asked : (apply.ask p w).exec t = (.error e, u)) (said : e.issues? v = some is) :
    ((Schema.refined l base p m).issues apply b v).exec s = (.ok is, u) := by
  rw [exec_issues_of_accepted resolved accepted, Run.exec_map, exec_narrow, asked]
  simp only [said]
  rfl

end Refined

end Schema

/-! ### Parts of parts -/

/-- `Schema.Part b S v path T x`: a check by `S` looks at the value `x` by the schema `T`, and `x`
is found in `v` by going along the path. Refinements are looked through; tuples have the right
lengths, and lists permitted ones. -/
inductive Schema.Part (b : Bool) : Schema → Value → List Place → Schema → Value → Prop where
  /-- The whole. -/
  | whole {S : Schema} {v : Value} : Part b S v [] S v
  /-- A part of what is refined. -/
  | base {l : Label} {S T : Schema} {p m v x : Value} {path : List Place} : Part b S v path T x →
    Part b (.refined l S p m) v path T x
  /-- A part of an element of a tuple. -/
  | element {l : Label} {items : List Schema} {S T : Schema} {v y x : Value} {xs : List Value}
    {i : Nat} {path : List Place} : tupleItems b v = some xs → xs.length = items.length →
    items[i]? = some S → xs[i]? = some y → Part b S y path T x →
    Part b (.tuple l items) v (.index i :: path) T x
  /-- A part of an item of a list. -/
  | item {l : Label} {S T : Schema} {n lo hi : Option Numeral} {v y x : Value} {xs : List Value}
    {i : Nat} {path : List Place} : listItems b v = some xs → LengthFits n lo hi xs.length →
    S.Resolved → xs[i]? = some y → Part b S y path T x →
    Part b (.array l S n lo hi) v (.index i :: path) T x

/-- Among the results of some runs, one after another, are those of each. -/
theorem Run.exec_mapM_eq_ok {α β : Type} {f : α → Run β} {xs : List α} {ys : List β}
    {s t : Session} (h : (xs.mapM f).exec s = (.ok ys, t)) {i : Nat} {x : α}
    (hx : xs[i]? = some x) :
    ∃ y s' t', ys[i]? = some y ∧ (f x).exec s' = (.ok y, t') := by
  induction xs generalizing ys s i with
  | nil => cases hx
  | cons x' xs ih =>
    rw [List.mapM_cons] at h
    obtain ⟨y, u, first, h⟩ := Run.exec_bind_eq_ok.mp h
    obtain ⟨ys', u', rest, h⟩ := Run.exec_bind_eq_ok.mp h
    obtain ⟨rfl, rfl⟩ := Run.exec_pure_eq_ok.mp h
    cases i with
    | zero =>
      obtain rfl := Option.some.inj hx
      exact ⟨y, s, u, rfl, first⟩
    | succ i => exact ih rest hx

/-- The issues of each part are among those of the whole, side by side. -/
theorem among_located {parts : List (List Issue)} {i : Nat} {is : List Issue} (k : Nat)
    (h : parts[i]? = some is) :
    is.map (Issue.within (.index (k + i : Nat))) <:+: located k parts := by
  induction parts generalizing i k with
  | nil => cases h
  | cons is' parts ih =>
    cases i with
    | zero =>
      obtain rfl := Option.some.inj h
      exact ⟨[], located (k + 1) parts, rfl⟩
    | succ i =>
      have later := ih (k + 1) h
      rw [Nat.add_right_comm] at later
      exact later.trans (List.suffix_append _ _).isInfix

theorem map_along_cons (p : Place) (path : List Place) (found : List Issue) :
    found.map (Issue.along (p :: path)) = (found.map (Issue.along path)).map (Issue.within p) := by
  rw [List.map_map]
  rfl

/-- The issues of an item of a tuple or list are among those of the whole, with its index in front
of their places. -/
theorem exec_located_among {α : Type} {f : α → Run (List Issue)} {xs : List α} {is : List Issue}
    {s t : Session} (h : (located 0 <$> xs.mapM f).exec s = (.ok is, t)) {i : Nat} {x : α}
    (hx : xs[i]? = some x) :
    ∃ found s' t', (f x).exec s' = (.ok found, t') ∧
      found.map (Issue.within (.index i)) <:+: is := by
  rw [← bind_pure_comp] at h
  obtain ⟨parts, u, gone, h⟩ := Run.exec_bind_eq_ok.mp h
  obtain ⟨rfl, rfl⟩ := Run.exec_pure_eq_ok.mp h
  obtain ⟨found, s', t', part, checked⟩ := Run.exec_mapM_eq_ok gone hx
  have within := among_located 0 part
  rw [Nat.zero_add] at within
  exact ⟨found, s', t', checked, within⟩

/-- **Issues of parts are kept.** Whatever the depth of a part, the issues that are found with it
are among those of the whole, side by side and in their order. Only their places are longer, by the
path to the part. -/
theorem Schema.Part.issues_among {S T : Schema} {v x : Value} {path : List Place}
    (part : Part b S v path T x) (resolved : S.Resolved) {s t : Session} {is : List Issue}
    (h : (S.issues apply b v).exec s = (.ok is, t)) :
    ∃ found s' t', (T.issues apply b x).exec s' = (.ok found, t') ∧
      found.map (Issue.along path) <:+: is := by
  induction part generalizing s t is with
  | whole =>
    have same : is.map (Issue.along []) = is := List.map_id is
    exact ⟨is, s, t, h, [], [], by rw [List.nil_append, List.append_nil, same]⟩
  | @base l S T p m v x path _ ih =>
    obtain ⟨r, hr⟩ := resolved
    obtain ⟨r₀, hbase, -⟩ := translation_refined hr
    rw [issues_refined ⟨r, hr⟩] at h
    obtain ⟨verdict, u, examined, h⟩ := Run.exec_bind_eq_ok.mp h
    have checked : (S.issues apply b v).exec s = (.ok verdict.issues, u) := by
      rw [issues, Run.exec_map, examined]
    obtain ⟨found, s', t', inner, within⟩ := ih ⟨r₀, hbase⟩ checked
    refine ⟨found, s', t', inner, ?_⟩
    cases verdict with
    | error is' =>
      obtain ⟨rfl, -⟩ := Run.exec_pure_eq_ok.mp h
      exact within
    | ok w =>
      -- The base has no issues, and so has no part of it.
      obtain rfl := List.map_eq_nil_iff.mp (List.eq_nil_of_infix_nil within)
      exact ⟨[], is, rfl⟩
  | @element l items S T v y x xs i path found length hS hy _ ih =>
    obtain ⟨r, hr⟩ := resolved
    obtain ⟨rs, translated, -⟩ := translation_tuple hr
    rw [issues_tuple ⟨r, hr⟩ found length] at h
    have pair : (items.zip xs)[i]? = some (S, y) := by
      rw [List.getElem?_zip_eq_some]
      exact ⟨hS, hy⟩
    obtain ⟨found, s', t', checked, outer⟩ := exec_located_among h pair
    obtain ⟨r', -, hr'⟩ := getElem?_of_forall₂ translated hS
    obtain ⟨found', s'', t'', inner, within⟩ := ih ⟨r', hr'⟩ checked
    refine ⟨found', s'', t'', inner, ?_⟩
    rw [map_along_cons]
    exact (within.map _).trans outer
  | @item l S T n lo hi v y x xs i path found fits item hy _ ih =>
    rw [issues_array resolved item found fits] at h
    obtain ⟨found, s', t', checked, outer⟩ := exec_located_among h hy
    obtain ⟨found', s'', t'', inner, within⟩ := ih item checked
    refine ⟨found', s'', t'', inner, ?_⟩
    rw [map_along_cons]
    exact (within.map _).trans outer

end Parts

/-- An error about a value is an issue with that value. -/
theorem Fault.issues?_of_remark {e : Fault} {c : Complaint} (h : e.remark? = some c) (v : Value) :
    e.issues? v = some [⟨[], c, v⟩] := by
  unfold issues?
  split
  · cases h
  · rw [h]
    rfl

/-! ### All issues, each in its place -/

/-- **Issues are complete and in their places.** Once an adapter is had, a check ends with exactly
the issues that are found, if any. Those of a tuple of the right length and of a list of a permitted
length are those of the items, one item after another, with the index in front. Those of a
refinement are those of the base, or else those of asking the predicate: none if it agrees, one with
the message if it does not, one if it raises an error about the value, and those of an error of the
engine that it lets through. Each issue of a part, however deep, is among those of the whole, and
only its place changes on the way. -/
theorem issues_located (apply : Caller) (b : Bool) :
    (∀ S v s t, AdapterStore.Serves apply S s.adapters →
      (S.prepare (some b)).exec s = (.ok b, t) →
      (validate apply (.schema S) v (some b)).exec s =
        (S.examine apply b v >>= Verdict.settle).exec t) ∧
    (∀ l items v xs, (Schema.tuple l items).Resolved → tupleItems b v = some xs →
      xs.length = items.length → (Schema.tuple l items).issues apply b v =
        located 0 <$> (items.zip xs).mapM fun e => e.1.issues apply b e.2) ∧
    (∀ l element n lo hi v xs, (Schema.array l element n lo hi).Resolved → element.Resolved →
      listItems b v = some xs → LengthFits n lo hi xs.length →
      (Schema.array l element n lo hi).issues apply b v =
        located 0 <$> xs.mapM (element.issues apply b)) ∧
    (∀ l base p m v s, (Schema.refined l base p m).Resolved →
      (∀ is t, (base.examine apply b v).exec s = (.ok (.error is), t) →
        ((Schema.refined l base p m).issues apply b v).exec s = (.ok is, t)) ∧
      ∀ w t, (base.examine apply b v).exec s = (.ok (.ok w), t) →
        (∀ answer u, (apply.ask p w).exec t = (.ok answer, u) → answer.isTruthy = true →
          ((Schema.refined l base p m).issues apply b v).exec s = (.ok [], u)) ∧
        (∀ answer text u, (apply.ask p w).exec t = (.ok answer, u) → answer.isTruthy = false →
          m.text? = some text → ∃ i : Issue,
            ((Schema.refined l base p m).issues apply b v).exec s = (.ok [i], u) ∧
            i.place = [] ∧ i.content = ("refinement_failed", text, v)) ∧
        (∀ e c u, (apply.ask p w).exec t = (.error e, u) → e.remark? = some c →
          ((Schema.refined l base p m).issues apply b v).exec s = (.ok [⟨[], c, v⟩], u)) ∧
        (∀ is u, (apply.ask p w).exec t = (.error (.unfit is), u) →
          ((Schema.refined l base p m).issues apply b v).exec s = (.ok is, u))) ∧
    (∀ i parts, (located i parts).map Issue.content = parts.flatten.map Issue.content) ∧
    (∀ S T v x path s t is, Schema.Part b S v path T x → S.Resolved →
      (S.issues apply b v).exec s = (.ok is, t) →
      ∃ found s' t', (T.issues apply b x).exec s' = (.ok found, t') ∧
        found.map (Issue.along path) <:+: is ∧
        (found.map (Issue.along path)).map Issue.content = found.map Issue.content) := by
  refine ⟨fun S v s t serves prepared => validate_of_prepared serves prepared,
    fun l items v xs => Schema.issues_tuple, fun l element n lo hi v xs => Schema.issues_array,
    fun l base p m v s resolved => ?_, located_content,
    fun S T v x path s t is part resolved h => ?_⟩
  · refine ⟨fun is t => Schema.exec_issues_of_refused resolved,
      fun w t accepted => ⟨?_, ?_, ?_, ?_⟩⟩
    · exact fun answer u => Schema.exec_issues_of_agreed resolved accepted
    · exact fun answer text u asked falsy message =>
        ⟨_, Schema.exec_issues_of_disagreed resolved accepted asked falsy message, rfl, rfl⟩
    · exact fun e c u asked remark =>
        Schema.exec_issues_of_raised resolved accepted asked (Fault.issues?_of_remark remark v)
    · exact fun is u asked => Schema.exec_issues_of_raised resolved accepted asked rfl
  · obtain ⟨found, s', t', inner, within⟩ := part.issues_among resolved h
    refine ⟨found, s', t', inner, within, ?_⟩
    rw [List.map_map]
    rfl

/-- Texts that are not empty. -/
def nonemptyTexts : Schema := .array .fresh nonemptyText none none none

/-- Texts that are not empty, and a whole number. -/
def textsAndNumber : Schema := .tuple .fresh [nonemptyTexts, .primitive .fresh (.type .int)]

theorem issues_located_textsAndNumber :
    let texts : Value := .list .fresh [.text "ab", .text ""]
    let v : Value := .tuple .fresh [texts, .text "x"]
    (textsAndNumber.examine call true v >>= Verdict.settle).exec
        (textsAndNumber.adapter.exec .start).2 =
      (validate call (.schema textsAndNumber) v (some true)).exec .start ∧
    textsAndNumber.issues call true v = located 0 <$>
      [(nonemptyTexts, texts), (.primitive .fresh (.type .int), .text "x")].mapM
        (fun e => e.1.issues call true e.2) ∧
    nonemptyTexts.issues call true texts = located 0 <$>
      [.text "ab", .text ""].mapM (nonemptyText.issues call true) ∧
    (∃ i : Issue, (nonemptyText.issues call true (.text "")).exec .start = (.ok [i], .start) ∧
      i.place = [] ∧ i.content = ("refinement_failed", "Invalid input", .text "")) ∧
    ∃ is t found s' t', (textsAndNumber.issues call true v).exec .start = (.ok is, t) ∧
      (nonemptyText.issues call true (.text "")).exec s' = (.ok found, t') ∧
      found.map (Issue.along [.index 0, .index 1]) <:+: is := by
  intro texts v
  have resolved : textsAndNumber.Resolved := ⟨_, rfl⟩
  have inner : nonemptyTexts.Resolved := ⟨_, rfl⟩
  have item : nonemptyText.Resolved := ⟨_, rfl⟩
  have fits : LengthFits none none none 2 := ⟨fun _ => nofun, fun _ => nofun⟩
  obtain ⟨checked, tuple, array, refined, -, parts⟩ := issues_located call true
  have part : Schema.Part true textsAndNumber v [.index 0, .index 1] nonemptyText (.text "") :=
    .element rfl rfl (i := 0) rfl rfl (.item rfl fits item (i := 1) rfl .whole)
  obtain ⟨found, s', t', found', within, -⟩ :=
    parts textsAndNumber nonemptyText v (.text "") _ .start _ _ part resolved rfl
  refine ⟨(checked _ v _ _ (AdapterStore.serves_nil _ _) rfl).symm, tuple _ _ v _ resolved rfl rfl,
    array _ _ _ _ _ texts _ inner item rfl fits, ?_, _, _, found, s', t', rfl, found', within⟩
  exact (refined _ _ _ _ (.text "") .start item).2 _ _ rfl |>.2.1 (.int 0) _ _ rfl rfl rfl

/-- A predicate that makes a point without coordinates, which the engine refuses to make. -/
def pointMaker : Value := .function (.predicate "p" (.call (.const (.type .point)) []) [])

/-- Whole numbers, refined by that predicate. -/
def pointMade : Schema :=
  .refined .fresh (.primitive .fresh (.type .int)) pointMaker Schema.defaultMessage

/-- An error of the engine that a predicate lets through has issues of its own, with other places
and other values than the one that the predicate was asked about. -/
theorem pointMade_issue_elsewhere :
    ((Schema.primitive .fresh (.type .int)).examine call true (.int 1)).exec .start =
      (.ok (.ok (.int 1)), .start) ∧
    ∃ i : Issue, ((validate call (.schema pointMade) (.int 1) (some true)).exec .start).1 =
        .error (.invalid ⟨[i], none, none⟩) ∧ i.place ≠ [] ∧ i.input ≠ .int 1 := by
  refine ⟨rfl, ⟨[.key "x"], .missing, .dict .fresh []⟩, rfl, ?_, ?_⟩
  · exact List.cons_ne_nil _ _
  · nofun

end CallContract
