import CallContract.Proofs.Examining
import Mathlib.Data.List.Nodup

/-!
# What predicates are asked

A refinement inside a schema may come to many values: one for each way to its place in the schema
and in the value, a site. This module says which questions a check asks, and when. At each site the
predicate is asked at most once, right after the base has accepted the part of the value there, and
about what the base has made of it. Inner refinements come before outer ones, and items in their
order. A check that accepts the value has asked at all sites (`validate_inquiry`).
-/

namespace CallContract

/-! ### Sites -/

/-- One step from a schema to a schema that it is made of. -/
inductive Turn where
  | base
  | item (i : Nat)
  deriving DecidableEq, Repr

/-- A place in a schema, and in a value that is checked by it. -/
abbrev Site := List Turn

/-- The schema at a site, and the part of the value that is checked by it. -/
def Schema.locate (b : Bool) : Site → Schema → Value → Option (Schema × Value)
  | [], S, v => some (S, v)
  | .base :: site, .refined _ base _ _, v => locate b site base v
  | .item i :: site, .tuple _ items, v => do
    let S ← items[i]?
    let xs ← tupleItems b v
    let x ← xs[i]?
    locate b site S x
  | .item i :: site, .array _ element .., v => do
    let xs ← listItems b v
    let x ← xs[i]?
    locate b site element x
  | _, _, _ => none

/-- The order of sites: what is inside comes before the whole, and an item before later ones. -/
def Site.Before : Site → Site → Prop
  | _ :: _, [] => True
  | .base :: site, .base :: site' => Before site site'
  | .item i :: site, .item j :: site' => i < j ∨ i = j ∧ Before site site'
  | _, _ => False

theorem Site.Before.irrefl : ∀ site : Site, ¬ Before site site
  | [] => id
  | .base :: site => irrefl site
  | .item _ :: site => fun h => h.elim (Nat.lt_irrefl _) fun h => irrefl site h.2

theorem Site.Before.ne {site site' : Site} (h : Before site site') : site ≠ site' := by
  rintro rfl
  exact irrefl site h

/-! ### Questions -/

/-- A question to the predicate of a refinement. -/
structure Question where
  /-- Where the refinement is. -/
  site : Site
  predicate : Value
  /-- The value that the predicate is asked about. -/
  subject : Value

namespace Question

/-- The question as seen from outside a step. -/
def under (turn : Turn) (q : Question) : Question := { q with site := turn :: q.site }

/-- The question as seen from outside the refinement at a site, where it stands in the base. -/
def below (site : Site) (q : Question) : Question := { q with site := site ++ .base :: q.site }

end Question

/-- The questions about the items of a row, of which the first has index `i`. -/
def rowQuestions : Nat → List (List Question) → List Question
  | _, [] => []
  | i, qs :: rest => qs.map (.under (.item i)) ++ rowQuestions (i + 1) rest

mutual

/-- All questions of a check by a schema that makes a value of another one: the predicates of a
refinement are asked about what is made, which is what its base has made, after all questions of the
base. -/
def Schema.questions : Schema → Value → List Question
  | .refined _ base p _, w => (base.questions w).map (.under .base) ++ [⟨[], p, w⟩]
  | .tuple _ items, .tuple _ ws => rowQuestions 0 (questionsEach items ws)
  | .array _ element .., .list _ ws => rowQuestions 0 (ws.map fun w => element.questions w)
  | _, _ => []

/-- The questions for each item of a row. -/
def questionsEach : List Schema → List Value → List (List Question)
  | S :: Ss, w :: ws => S.questions w :: questionsEach Ss ws
  | _, _ => []

end

/-! ### Logs -/

/-- What comes to pass in a check. -/
inductive Event where
  /-- A value is checked by a rule of the type at a site. -/
  | read (site : Site) (r : Rule) (v : Value)
  /-- The predicate of a refinement is asked. -/
  | ask (q : Question)

namespace Event

/-- Where an event comes to pass. -/
def site : Event → Site
  | .read site .. => site
  | .ask q => q.site

/-- The question that an event is. -/
def question? : Event → Option Question
  | .read .. => none
  | .ask q => some q

/-- The event as seen from outside a step. -/
def under (turn : Turn) : Event → Event
  | .read site r v => .read (turn :: site) r v
  | .ask q => .ask (q.under turn)

/-- The session after an event. -/
def after (apply : Caller) (b : Bool) (s : Session) : Event → Session
  | .read _ r v => ((r.apply apply b v).exec s).2
  | .ask q => ((apply.ask q.predicate q.subject).exec s).2

@[simp] theorem site_under (turn : Turn) (e : Event) : (e.under turn).site = turn :: e.site := by
  cases e <;> rfl

end Event

/-- What comes to pass in a check, in order. -/
abbrev Log := List Event

namespace Log

/-- The questions in a log. -/
def questions (log : Log) : List Question := log.filterMap Event.question?

/-- The log as seen from outside a step. -/
def under (turn : Turn) (log : Log) : Log := log.map (Event.under turn)

/-- The session after the events of a log, one after another. -/
def after (apply : Caller) (b : Bool) (log : Log) (s : Session) : Session :=
  log.foldl (Event.after apply b) s

variable {apply : Caller} {b : Bool} (log log' : Log)

@[simp] theorem questions_append : questions (log ++ log') = questions log ++ questions log' :=
  List.filterMap_append

@[simp] theorem after_append (s : Session) :
    after apply b (log ++ log') s = after apply b log' (after apply b log s) :=
  List.foldl_append

@[simp] theorem questions_under (turn : Turn) :
    questions (log.under turn) = (questions log).map (Question.under turn) := by
  rw [questions, under, questions, List.filterMap_map, List.map_filterMap]
  exact congrArg (List.filterMap · log) (funext fun e => by cases e <;> rfl)

/-- Where events come to pass does not matter to the session. -/
@[simp] theorem after_under (turn : Turn) (s : Session) :
    after apply b (log.under turn) s = after apply b log s := by
  rw [after, under, List.foldl_map]
  exact congrArg (List.foldl · s log) (funext fun s => funext fun e => by cases e <;> rfl)

theorem site_of_mem_under {turn : Turn} {e : Event} (h : e ∈ log.under turn) :
    ∃ site, e.site = turn :: site := by
  obtain ⟨e₀, -, rfl⟩ := List.mem_map.mp h
  exact ⟨e₀.site, e₀.site_under turn⟩

/-- The questions of a log are at different sites if its events are. -/
theorem nodup_questions (h : log.Pairwise fun e e' => e.site ≠ e'.site) :
    ((questions log).map Question.site).Nodup := by
  induction h with
  | nil => exact .nil
  | @cons e log apart _ ih =>
    cases e with
    | read => exact ih
    | ask q =>
      refine List.nodup_cons.mpr ⟨fun among => ?_, ih⟩
      obtain ⟨q', hq', same⟩ := List.mem_map.mp among
      obtain ⟨e', he', asked⟩ := List.mem_filterMap.mp hq'
      cases e' with
      | read => cases asked
      | ask q'' =>
        obtain rfl := Option.some.inj asked
        exact apart _ he' same.symm

/-- If each event leaves certain entries in the trace, these are what is found there after it. -/
theorem trace_after {entries : Event → List Entry} (writes : ∀ s e,
      (Event.after apply b s e).trace = s.trace ++ entries e) (s : Session) :
    (after apply b log s).trace = s.trace ++ log.flatMap entries := by
  induction log generalizing s with
  | nil => exact (List.append_nil _).symm
  | cons e log ih =>
    show (after apply b log (Event.after apply b s e)).trace = _
    rw [ih, writes, List.append_assoc]
    rfl

end Log

/-- Whether values are checked by a rule where the schema stands alone, or where it is the element
of an array schema. -/
def Schema.Ruled (S : Schema) (r : Rule) : Prop :=
  S.translation = .ok r ∨ ∃ l l' types, S = .primitive l (.tuple l' types) ∧
    (.type (.tuple l' types) : Annotation).asItem.toRule = .ok r

/-- What is no schema of a type has a rule of its own. -/
theorem Schema.Ruled.translation {S : Schema} {r : Rule} (ruled : S.Ruled r)
    (other : ∀ l type, S ≠ .primitive l type) : S.translation = .ok r := by
  obtain h | ⟨l, l', types, rfl, -⟩ := ruled
  · exact h
  · exact absurd rfl (other l _)

/-- An item of two lists, one after another, is one of the first or one of the second. -/
theorem split_append {α : Type} {xs ys before after : List α} {x : α}
    (h : xs ++ ys = before ++ x :: after) :
    (∃ left, xs = before ++ x :: left ∧ after = left ++ ys) ∨
      ∃ right, before = xs ++ right ∧ ys = right ++ x :: after := by
  obtain ⟨right, rfl, rest⟩ | ⟨left, rfl, rest⟩ := List.append_eq_append_iff.mp h
  · exact .inr ⟨right, rfl, rest⟩
  · cases left with
    | nil => exact .inr ⟨[], (List.append_nil _).symm ▸ (List.append_nil _).symm, rest.symm⟩
    | cons y left =>
      obtain ⟨rfl, rfl⟩ := List.cons.inj rest
      exact .inl ⟨left, rfl, rfl⟩

section Accounts

variable {apply : Caller} {b : Bool} {s t u : Session} {log log' before : Log} {e : Event}
  {find find' : Site → Option (Schema × Value)}

/-- Whether there is a reason for an event after those before it, from the session `s` on. A value
is checked by a rule of a type where that stands alone for that part of the value. A predicate is
asked where there is a refinement with it, whose base has just accepted the part of the value there,
with all questions of its own, and made the subject of it. -/
inductive Founded (apply : Caller) (b : Bool) (find : Site → Option (Schema × Value)) (s : Session)
    (before : Log) : Event → Prop where
  | read {site : Site} {l : Label} {type v : Value} {r : Rule} :
    find site = some (.primitive l type, v) → (Schema.primitive l type).Ruled r →
    Founded apply b find s before (.read site r v)
  | ask {q : Question} {l : Label} {base : Schema} {m x : Value} {earlier inner : Log} :
    find q.site = some (.refined l base q.predicate m, x) → before = earlier ++ inner →
    inner.questions = (base.questions q.subject).map (Question.below q.site) →
    (base.examine apply b x).exec (earlier.after apply b s) =
      (.ok (.ok q.subject), before.after apply b s) → Founded apply b find s before (.ask q)

/-- An account of what comes to pass between two sessions, where `find` knows the sites. -/
structure Account (apply : Caller) (b : Bool) (find : Site → Option (Schema × Value)) (s : Session)
    (log : Log) (t : Session) : Prop where
  /-- The events lead from one session to the other. -/
  leads : log.after apply b s = t
  /-- There is a reason for each event. -/
  founded : ∀ before e after, log = before ++ e :: after → Founded apply b find s before e
  /-- The events are in the order of their sites. -/
  ordered : log.Pairwise fun e e' => e.site.Before e'.site

namespace Founded

theorem under {turn : Turn} (h : Founded apply b find s before e)
    (step : ∀ site, find' (turn :: site) = find site) :
    Founded apply b find' s (before.under turn) (e.under turn) := by
  cases h with
  | read found ruled => exact .read ((step _).trans found) ruled
  | @ask q l base m x earlier inner found whole asked examined =>
    subst whole
    have split : Log.under turn (earlier ++ inner) = earlier.under turn ++ inner.under turn :=
      List.map_append
    refine .ask ((step q.site).trans found) split ?_ ?_
    · rw [Log.questions_under, asked, List.map_map]
      rfl
    · rw [Log.after_under, Log.after_under]
      exact examined

theorem prepend (h : Founded apply b find t before e) (first : log.after apply b s = t) :
    Founded apply b find s (log ++ before) e := by
  subst first
  cases h with
  | read found ruled => exact .read found ruled
  | ask found whole asked examined =>
    subst whole
    refine .ask found (List.append_assoc ..).symm asked ?_
    simpa only [Log.after_append] using examined

end Founded

namespace Account

theorem nil : Account apply b find s [] s where
  leads := rfl
  founded before e after split := by simp at split
  ordered := .nil

/-- A single event. -/
theorem single (founded : Founded apply b find s [] e) :
    Account apply b find s [e] (e.after apply b s) where
  leads := rfl
  founded before e' after split := by
    obtain ⟨rfl, rfl, -⟩ : before = [] ∧ e' = e ∧ after = [] := by
      cases before <;> simp_all
    exact founded
  ordered := List.pairwise_singleton ..

/-- An account of a part, as seen from the whole. -/
theorem under {turn : Turn} (h : Account apply b find s log t)
    (step : ∀ site, find' (turn :: site) = find site)
    (same : ∀ site site', Site.Before (turn :: site) (turn :: site') ↔ Site.Before site site') :
    Account apply b find' s (log.under turn) t where
  leads := (Log.after_under ..).trans h.leads
  founded before e after split := by
    obtain ⟨before', rest, rfl, rfl, hrest⟩ := List.map_eq_append_iff.mp split
    obtain ⟨e', after', rfl, rfl, rfl⟩ := List.map_eq_cons_iff.mp hrest
    exact (h.founded before' e' after' rfl).under step
  ordered := by
    refine List.pairwise_map.mpr (h.ordered.imp fun before => ?_)
    rw [Event.site_under, Event.site_under]
    exact (same _ _).mpr before

/-- One account after another. -/
theorem append (h : Account apply b find s log t)
    (h' : ∀ before e after, log' = before ++ e :: after →
      Founded apply b find s (log ++ before) e)
    (leads : log'.after apply b t = u) (ordered : log'.Pairwise fun e e' => e.site.Before e'.site)
    (apart : ∀ e ∈ log, ∀ e' ∈ log', e.site.Before e'.site) :
    Account apply b find s (log ++ log') u where
  leads := by rw [Log.after_append, h.leads, leads]
  founded before e after split := by
    obtain ⟨left, first, rfl⟩ | ⟨right, rfl, second⟩ := split_append split
    · exact h.founded before e left first
    · exact h' right e after second
  ordered := List.pairwise_append.mpr ⟨h.ordered, ordered, apart⟩

/-- The account of a refinement whose base has accepted a value. -/
theorem refined {l : Label} {base : Schema} {p m v w : Value}
    (h : Account apply b (base.locate b · v) s log t) (all : log.questions = base.questions w)
    (accepted : (base.examine apply b v).exec s = (.ok (.ok w), t)) :
    Account apply b ((Schema.refined l base p m).locate b · v) s
      (log.under .base ++ [.ask ⟨[], p, w⟩]) ((apply.ask p w).exec t).2 := by
  have inner : Account apply b ((Schema.refined l base p m).locate b · v) s (log.under .base) t :=
    h.under (fun _ => rfl) fun _ _ => Iff.rfl
  refine inner.append (fun before e after split => ?_) rfl (List.pairwise_singleton ..) ?_
  · -- The question about the whole comes last.
    obtain ⟨rfl, rfl, rfl⟩ : before = [] ∧ e = .ask ⟨[], p, w⟩ ∧ after = [] := by
      cases before <;> simp_all
    rw [List.append_nil]
    have whole : log.under .base = [] ++ log.under .base := rfl
    refine .ask rfl whole ?_ ?_
    · rw [Log.questions_under, all]
      rfl
    · rw [inner.leads]
      exact accepted
  · intro e he e' he'
    obtain ⟨site, hsite⟩ := Log.site_of_mem_under log he
    obtain rfl := List.mem_singleton.mp he'
    rw [hsite]
    trivial

end Account

/-! ### Rows -/

/-- Whether all checks by a rule have an account by a schema. If they accept a value, they have
asked all questions of the schema that there are then. -/
def Rule.Accounts (apply : Caller) (b : Bool) (r : Rule) (S : Schema) : Prop :=
  ∀ v s, ∃ log, Account apply b (S.locate b · v) s log ((r.apply apply b v).exec s).2 ∧
    ∀ w, ((r.apply apply b v).exec s).1 = .ok (.ok w) → log.questions = S.questions w

theorem getElem?_of_withinLimit {most : Option Nat} {xs : List Value} {i : Nat} {x : Value}
    (h : (withinLimit most xs)[i]? = some x) : xs[i]? = some x := by
  cases most with
  | none => exact h
  | some m =>
    rw [withinLimit, List.getElem?_take] at h
    split at h
    · exact h
    · cases h

/-- A row of items is checked by one rule as it is by a list of that rule, over and over. -/
theorem applyItems_eq_applyFixed (r : Rule) (whole : Value) (i : Nat) (vs : List Value) :
    applyItems (r.apply apply b) i vs =
      applyFixed apply b whole (.replicate vs.length r) i vs := by
  induction vs generalizing i with
  | nil => rfl
  | cons v vs ih =>
    rw [applyItems, ih (i + 1)]
    rfl

/-- Whether `find` knows the sites in the items of a row, of which the first has index `k`. -/
def KnowsRow (b : Bool) (find : Site → Option (Schema × Value)) (k : Nat) (Ss : List Schema)
    (vs : List Value) : Prop :=
  ∀ i S v, Ss[i]? = some S → vs[i]? = some v →
    ∀ site, find (.item (k + i) :: site) = S.locate b site v

theorem KnowsRow.tail {k : Nat} {S : Schema} {Ss : List Schema} {v : Value} {vs : List Value}
    (h : KnowsRow b find k (S :: Ss) (v :: vs)) : KnowsRow b find (k + 1) Ss vs := by
  intro i S' v' hS hv site
  rw [Nat.add_right_comm, Nat.add_assoc]
  exact h (i + 1) S' v' hS hv site

/-- An account of the first item of a row, and one of the others. -/
theorem Account.cons {k : Nat} {find₀ : Site → Option (Schema × Value)} {t : Session}
    (first : Account apply b find₀ s log t) (step : ∀ site, find (.item k :: site) = find₀ site)
    (rest : Account apply b find t log' u)
    (later : ∀ e ∈ log', ∃ i site, k < i ∧ e.site = .item i :: site) :
    Account apply b find s (log.under (.item k) ++ log') u := by
  have same (site site' : Site) :
      Site.Before (.item k :: site) (.item k :: site') ↔ Site.Before site site' := by
    simp [Site.Before]
  have head := first.under step same
  refine head.append (fun before e after split => ?_) rest.leads rest.ordered fun e he e' he' => ?_
  · exact (rest.founded before e after split).prepend head.leads
  · obtain ⟨site, hsite⟩ := Log.site_of_mem_under log he
    obtain ⟨i, site', lt, hsite'⟩ := later e' he'
    rw [hsite, hsite']
    exact .inl lt

/-- The checks of a row have an account. If they find no issue, they have asked all questions that
there are for the items. -/
theorem row_account {rs : List Rule} {Ss : List Schema}
    (accounts : List.Forall₂ (Rule.Accounts apply b) rs Ss) (asks : AskOnly apply.Tells rs)
    (whole : Value) {k : Nat} {vs : List Value} (knows : KnowsRow b find k Ss vs) (s : Session) :
    ∃ log, Account apply b find s log ((applyFixed apply b whole rs k vs).exec s).2 ∧
      (∀ e ∈ log, ∃ i site, k ≤ i ∧ e.site = .item i :: site) ∧
      ∀ ws, ((applyFixed apply b whole rs k vs).exec s).1 = .ok ([], ws) →
        log.questions = rowQuestions k (questionsEach Ss ws) := by
  induction accounts generalizing k vs s with
  | nil =>
    refine ⟨[], .nil, fun e he => absurd he List.not_mem_nil, fun ws h => ?_⟩
    cases ws <;> rfl
  | @cons r S rs Ss first _ ih =>
    cases vs with
    | nil =>
      -- An item that is missing is an issue.
      have knows : KnowsRow b find (k + 1) Ss [] := fun i S' v hS hv => by cases hv
      obtain ⟨log, account, later, -⟩ := ih asks.2 knows s
      rw [applyFixed, bind_pure_comp]
      refine ⟨log, ?_, fun e he => ?_, fun ws h => ?_⟩
      · rwa [Run.exec_map_snd]
      · obtain ⟨i, site, le, hsite⟩ := later e he
        exact ⟨i, site, Nat.le_of_succ_le le, hsite⟩
      · rw [Run.exec_map_fst] at h
        obtain ⟨rest, -, h⟩ := map_eq_ok.mp h
        cases h
    | cons v vs =>
      have known (site : Site) : find (.item k :: site) = S.locate b site v :=
        knows 0 S v rfl rfl site
      obtain ⟨log, account, all⟩ := first v s
      rcases checked : (r.apply apply b v).exec s with ⟨e | verdict, t⟩ <;>
        rw [checked] at account all
      · rw [applyFixed, Run.exec_bind_of_error checked]
        refine ⟨log.under (.item k) ++ [], account.cons known .nil nofun, fun e he => ?_, nofun⟩
        rw [List.append_nil] at he
        obtain ⟨site, hsite⟩ := Log.site_of_mem_under log he
        exact ⟨k, site, Nat.le_refl k, hsite⟩
      · obtain ⟨log', account', later, all'⟩ := ih asks.2 knows.tail t
        rw [applyFixed, Run.exec_bind_of_ok checked, bind_pure_comp]
        refine ⟨log.under (.item k) ++ log', ?_, fun e he => ?_, fun ws h => ?_⟩
        · rw [Run.exec_map_snd]
          exact account.cons known account' later
        · rcases List.mem_append.mp he with he | he
          · obtain ⟨site, hsite⟩ := Log.site_of_mem_under log he
            exact ⟨k, site, Nat.le_refl k, hsite⟩
          · obtain ⟨i, site, le, hsite⟩ := later e he
            exact ⟨i, site, Nat.le_of_succ_le le, hsite⟩
        · rw [Run.exec_map_fst] at h
          obtain ⟨rest, others, h⟩ := map_eq_ok.mp h
          have reasons (is : List Issue) (refused : verdict = .error is) : is ≠ [] := by
            rw [refused] at checked
            exact r.issues_ne_nil b asks.1 checked
          obtain ⟨w, ws', rfl, rfl, rfl⟩ := (addPart_eq_nil reasons).mp h
          rw [Log.questions_append, Log.questions_under, all w rfl, all' ws' others]
          rfl

/-! ### Schemas -/

/-- Asking a predicate is all that comes to pass after the check of the base. -/
theorem exec_narrow_snd (p m v w : Value) (s : Session) :
    ((narrow apply p m v w).exec s).2 = ((apply.ask p w).exec s).2 := by
  rw [exec_narrow_eq]

theorem narrow_accepts {p m v w w' : Value} (h : ((narrow apply p m v w).exec s).1 = .ok (.ok w')) :
    w' = w := by
  rw [exec_narrow] at h
  split at h
  · split at h
    · exact (Except.ok.inj (Except.ok.inj h)).symm
    · split at h <;> cases h
  · split at h <;> cases h

theorem PassEach.length_eq {rs : List Rule} {vs ws : List Value} : ∀ {s t : Session},
    PassEach apply b rs vs s ws t → rs.length = ws.length
  | _, _, .nil => rfl
  | _, _, .cons _ rest => congrArg (· + 1) rest.length_eq

/-- The items of a list are all asked about in the same way. -/
theorem questionsEach_replicate {S : Schema} {k : Nat} {ws : List Value} (h : ws.length ≤ k) :
    questionsEach (.replicate k S) ws = ws.map fun w => S.questions w := by
  induction ws generalizing k with
  | nil => cases k <;> rfl
  | cons w ws ih =>
    cases k with
    | zero => cases h
    | succ k =>
      rw [List.replicate_succ, questionsEach, ih (Nat.le_of_succ_le_succ h)]
      rfl

namespace Rule.Accounts

variable {l : Label} {r : Rule}

theorem primitive {type : Value} (ruled : (Schema.primitive l type).Ruled r) :
    r.Accounts apply b (.primitive l type) :=
  fun v _ => ⟨[.read [] r v], .single (.read rfl ruled), fun _ _ => rfl⟩

theorem refined {base : Schema} {r₀ : Rule} (h : base.translation = .ok r₀)
    (accounts : r₀.Accounts apply b base) (p m : Value) :
    (Rule.after r₀ p m).Accounts apply b (.refined l base p m) := by
  intro v s
  obtain ⟨log, account, all⟩ := accounts v s
  have inner : Account apply b ((Schema.refined l base p m).locate b · v) s
      (log.under .base) ((r₀.apply apply b v).exec s).2 :=
    account.under (fun _ => rfl) fun _ _ => Iff.rfl
  rw [Rule.apply]
  rcases checked : (r₀.apply apply b v).exec s with ⟨e | is | w, t⟩ <;>
    rw [checked] at account inner all
  · rw [Run.exec_bind_of_error checked]
    exact ⟨_, inner, nofun⟩
  · rw [Run.exec_bind_of_ok checked]
    exact ⟨_, inner, nofun⟩
  · rw [Run.exec_bind_of_ok checked]
    have asked := all w rfl
    have examined : (base.examine apply b v).exec s = (.ok (.ok w), t) := by
      rw [Schema.examine_of_translation apply b h, checked]
    refine ⟨log.under .base ++ [.ask ⟨[], p, w⟩], ?_, fun w' h => ?_⟩
    · dsimp only
      rw [exec_narrow_snd]
      exact account.refined asked examined
    · rw [narrow_accepts h, Log.questions_append, Log.questions_under, asked]
      rfl

theorem array {element : Schema} {r₀ : Rule} (accounts : r₀.Accounts apply b element)
    (asks : r₀.AsksOnly apply.Tells) (n lo hi : Option Numeral) (least most : Option Nat) :
    (Rule.list r₀ least most).Accounts apply b (.array l element n lo hi) := by
  intro v s
  cases found : listItems b v with
  | none =>
    rw [Rule.apply_list_of_none r₀ least most found]
    exact ⟨[], .nil, nofun⟩
  | some xs =>
    have knows : KnowsRow b ((Schema.array l element n lo hi).locate b · v) 0
        (.replicate (withinLimit most xs).length element) (withinLimit most xs) := by
      intro i S x hS hx site
      obtain rfl := List.eq_of_mem_replicate (List.mem_of_getElem? hS)
      have item : xs[i]? = some x := getElem?_of_withinLimit hx
      rw [Nat.zero_add]
      simp [Schema.locate, found, item]
    obtain ⟨log, account, -, all⟩ :=
      row_account (forall₂_replicate accounts _) (.replicate asks _) v knows s
    rw [← applyItems_eq_applyFixed] at account all
    rw [Rule.apply_list r₀ least most found]
    refine ⟨log, by rwa [Run.exec_map_snd], fun w h => ?_⟩
    rw [Run.exec_map_fst] at h
    obtain ⟨⟨issues, ws⟩, gone, h⟩ := map_eq_ok.mp h
    obtain ⟨few, rfl, enough, rfl⟩ := listVerdict_eq_ok h
    have passed := (applyItems_iff (Rule.telling asks) (Rule.checks r₀ asks) 0 _).mp
      (Prod.ext gone rfl)
    have length := passed.1.length_eq
    rw [List.length_replicate] at length
    rw [all ws gone, Schema.questions, questionsEach_replicate (Nat.le_of_eq length.symm)]

theorem tuple {items : List Schema} {rs : List Rule}
    (accounts : List.Forall₂ (Rule.Accounts apply b) rs items) (asks : AskOnly apply.Tells rs) :
    (Rule.fixed rs).Accounts apply b (.tuple l items) := by
  intro v s
  cases found : tupleItems b v with
  | none =>
    rw [Rule.apply_fixed_of_none rs found]
    exact ⟨[], .nil, nofun⟩
  | some xs =>
    have knows : KnowsRow b ((Schema.tuple l items).locate b · v) 0 items xs := by
      intro i S x hS hx site
      rw [Nat.zero_add]
      simp [Schema.locate, found, hS, hx]
    obtain ⟨log, account, -, all⟩ := row_account accounts asks v knows s
    rw [Rule.apply_fixed rs found]
    refine ⟨log, by rwa [Run.exec_map_snd], fun w h => ?_⟩
    rw [Run.exec_map_fst] at h
    obtain ⟨⟨issues, ws⟩, gone, h⟩ := map_eq_ok.mp h
    obtain ⟨-, rfl, rfl⟩ := tupleVerdict_eq_ok h
    exact all ws gone

end Rule.Accounts

mutual

/-- All checks by the rule of a schema have an account. By recursion on the schema. -/
theorem Schema.accounts : ∀ (S : Schema) {r : Rule}, S.Ruled r → r.AsksOnly apply.Tells →
    r.Accounts apply b S
  | .bare .., _, ruled, _ => by cases ruled.translation fun _ _ => nofun
  | .foreign _, _, ruled, _ => by cases ruled.translation fun _ _ => nofun
  | .any _, _, ruled, _ => by
    cases ruled.translation fun _ _ => nofun
    exact fun _ _ => ⟨[], .nil, fun _ _ => rfl⟩
  | .function .., _, ruled, _ => by
    cases ruled.translation fun _ _ => nofun
    exact fun _ _ => ⟨[], .nil, fun _ _ => rfl⟩
  | .primitive l type, _, ruled, _ => .primitive ruled
  | .refined l base p m, _, ruled, asks => by
    obtain ⟨r₀, hbase, rfl⟩ := translation_refined (ruled.translation fun _ _ => nofun)
    exact .refined hbase (accounts base (.inl hbase) asks.1) p m
  | .array l element n lo hi, _, ruled, asks => by
    obtain ⟨r₀, least, most, -, -, rfl, item⟩ :=
      translation_array (ruled.translation fun _ _ => nofun)
    have asks : r₀.AsksOnly apply.Tells := asks
    exact .array (accounts element item asks) asks n lo hi least most
  | .tuple l items, _, ruled, asks => by
    obtain ⟨rs, translated, rfl⟩ := translation_tuple (ruled.translation fun _ _ => nofun)
    exact .tuple (accountsEach items translated asks) asks

theorem Schema.accountsEach : ∀ (Ss : List Schema) {rs : List Rule},
    List.Forall₂ (fun S r => Schema.translation S = .ok r) Ss rs → AskOnly apply.Tells rs →
    List.Forall₂ (Rule.Accounts apply b) rs Ss
  | [], _, .nil, _ => .nil
  | S :: Ss, _, .cons first rest, asks =>
    .cons (accounts S (.inl first) asks.1) (accountsEach Ss rest asks.2)

end

/-! ### All sites -/

theorem PassEach.getElem? {rs : List Rule} {vs ws : List Value} : ∀ {s t : Session} {i : Nat}
    {r : Rule} {v : Value}, PassEach apply b rs vs s ws t → rs[i]? = some r → vs[i]? = some v →
    ∃ w s' t', ws[i]? = some w ∧ Passes apply b r v s' w t'
  | _, _, 0, _, _, .cons first _, hr, hv => by
    obtain rfl := Option.some.inj hr
    obtain rfl := Option.some.inj hv
    exact ⟨_, _, _, rfl, first⟩
  | _, _, _ + 1, _, _, .cons _ rest, hr, hv => rest.getElem? hr hv

theorem mem_rowQuestions {row : List (List Question)} {i : Nat} {qs : List Question} {q : Question}
    (k : Nat) (h : row[i]? = some qs) (hq : q ∈ qs) :
    q.under (.item (k + i)) ∈ rowQuestions k row := by
  induction row generalizing i k with
  | nil => cases h
  | cons qs' row ih =>
    rw [rowQuestions, List.mem_append]
    cases i with
    | zero =>
      obtain rfl := Option.some.inj h
      exact .inl (List.mem_map_of_mem hq)
    | succ i =>
      have later := ih (k + 1) h
      rw [Nat.add_right_comm] at later
      exact .inr later

theorem questionsEach_getElem? {Ss : List Schema} {ws : List Value} {i : Nat} {S : Schema}
    {w : Value} (hS : Ss[i]? = some S) (hw : ws[i]? = some w) :
    (questionsEach Ss ws)[i]? = some (S.questions w) := by
  induction Ss generalizing ws i with
  | nil => cases hS
  | cons S' Ss ih =>
    cases ws with
    | nil => cases hw
    | cons w' ws =>
      cases i with
      | zero =>
        obtain rfl := Option.some.inj hS
        obtain rfl := Option.some.inj hw
        rfl
      | succ i => exact ih hS hw

/-- If a value is accepted, there is a question for each site of a refinement. -/
theorem Schema.mem_questions {S : Schema} {r : Rule} (ruled : S.Ruled r) {v w : Value}
    {s t : Session} (passed : Passes apply b r v s w t) {site : Site} {l : Label} {base : Schema}
    {p m x : Value} (found : S.locate b site v = some (.refined l base p m, x)) :
    ∃ y, ⟨site, p, y⟩ ∈ S.questions w := by
  induction site generalizing S r v w s t with
  | nil =>
    cases found
    exact ⟨w, List.mem_append_right _ (List.mem_singleton.mpr rfl)⟩
  | cons turn site ih =>
    unfold Schema.locate at found
    split at found
    · contradiction
    · next site' l' base' p' m' heq =>
      obtain ⟨rfl, rfl⟩ := List.cons.inj heq
      obtain ⟨r₀, hbase, rfl⟩ := translation_refined (ruled.translation fun _ _ => nofun)
      cases passed with
      | read h => cases h
      | after inner _ _ =>
        obtain ⟨y, hy⟩ := ih (.inl hbase) inner found
        exact ⟨y, List.mem_append_left _ (List.mem_map_of_mem hy)⟩
    · next i site' l' items heq =>
      obtain ⟨rfl, rfl⟩ := List.cons.inj heq
      obtain ⟨S, hS, found⟩ := Option.bind_eq_some_iff.mp found
      obtain ⟨xs, hxs, found⟩ := Option.bind_eq_some_iff.mp found
      obtain ⟨x', hx, found⟩ := Option.bind_eq_some_iff.mp found
      obtain ⟨rs, translated, rfl⟩ := translation_tuple (ruled.translation fun _ _ => nofun)
      obtain ⟨r₀, hr₀, item⟩ := getElem?_of_forall₂ translated hS
      cases passed with
      | read h => cases h
      | fixed own each =>
        obtain rfl := Option.some.inj (hxs.symm.trans own)
        obtain ⟨w, s', t', hw, inner⟩ := each.getElem? hr₀ hx
        obtain ⟨y, hy⟩ := ih (.inl item) inner found
        have among := mem_rowQuestions 0 (questionsEach_getElem? hS hw) hy
        rw [Nat.zero_add] at among
        exact ⟨y, among⟩
    · next i site' l' element n lo hi heq =>
      obtain ⟨rfl, rfl⟩ := List.cons.inj heq
      obtain ⟨xs, hxs, found⟩ := Option.bind_eq_some_iff.mp found
      obtain ⟨x', hx, found⟩ := Option.bind_eq_some_iff.mp found
      obtain ⟨r₀, least, most, -, -, rfl, item⟩ :=
        translation_array (ruled.translation fun _ _ => nofun)
      cases passed with
      | read h => cases h
      | @list _ _ _ _ vs ws _ _ own few enough each =>
        obtain rfl := Option.some.inj (hxs.symm.trans own)
        have hr₀ : (List.replicate xs.length r₀)[i]? = some r₀ := by
          rw [List.getElem?_replicate_of_lt (List.getElem?_eq_some_iff.mp hx).1]
        obtain ⟨w, s', t', hw, inner⟩ := each.getElem? hr₀ hx
        obtain ⟨y, hy⟩ := ih item inner found
        have row : (ws.map fun w => element.questions w)[i]? = some (element.questions w) := by
          rw [List.getElem?_map, hw]
          rfl
        have among := mem_rowQuestions 0 row hy
        rw [Nat.zero_add] at among
        exact ⟨y, among⟩
    · cases found

/-- All checks by a schema have an account. -/
theorem Schema.examine_account (b : Bool) (S : Schema)
    (tells : Gives (Rule.AsksOnly apply.Tells) S.rule) (v : Value) (s : Session) :
    ∃ log, Account apply b (S.locate b · v) s log ((S.examine apply b v).exec s).2 ∧
      ∀ w t, (S.examine apply b v).exec s = (.ok (.ok w), t) → log.questions = S.questions w ∧
        ∀ site l base p m x, S.locate b site v = some (.refined l base p m, x) →
          ∃ y, ⟨site, p, y⟩ ∈ S.questions w := by
  cases rule : S.rule with
  | error e =>
    rw [examine, rule]
    exact ⟨[], .nil, fun w t accepted => by cases accepted⟩
  | ok r =>
    by_cases named : r = .unresolved
    · subst named
      rw [examine, rule]
      exact ⟨[], .nil, fun w t accepted => by cases accepted⟩
    · have ruled : S.Ruled r := .inl (translation_of_rule rule named)
      have asks := tells r rule
      obtain ⟨log, account, all⟩ := S.accounts ruled asks v s
      rw [examine, rule, Run.lift_ok, pure_bind]
      refine ⟨log, account, fun w t accepted => ⟨all w (congrArg Prod.fst accepted), ?_⟩⟩
      exact fun site l base p m x => S.mem_questions ruled ((Rule.passes_iff asks).mp accepted)

end Accounts

/-- **Predicates see what the base has accepted.** What comes to pass in a check can be told in
order, from the session in which it begins to look at the value. Each question to a predicate comes
at a refinement inside the schema, right after the base has accepted the part of the value there,
with all questions that the base has in turn; it is about what the base has made. All is in the
order of the sites, so there is at most one question for each. If the check accepts the value, there
is one for each site of a refinement. What is in the trace after the check has come there in this
order. -/
theorem validate_inquiry {apply : Caller} {S : Schema}
    (tells : Gives (Rule.AsksOnly apply.Tells) S.rule) {s t : Session}
    (serves : AdapterStore.Serves apply S s.adapters) {strict : Option Bool} {b : Bool}
    (prepared : (S.prepare strict).exec s = (.ok b, t)) (v : Value) :
    let checked := (validate apply (.schema S) v strict).exec s
    ∃ log : Log, Account apply b (S.locate b · v) t log checked.2 ∧
      (log.questions.map Question.site).Nodup ∧
      (∀ w, checked.1 = .ok w → log.questions = S.questions w ∧
        ∀ site l base p m x, S.locate b site v = some (.refined l base p m, x) →
          (log.questions.map Question.site).count site = 1) ∧
      ∀ entries : Event → List Entry,
        (∀ s e, (Event.after apply b s e).trace = s.trace ++ entries e) →
        checked.2.trace = t.trace ++ log.flatMap entries := by
  intro checked
  have examined : checked = (S.examine apply b v >>= Verdict.settle).exec t :=
    validate_of_prepared serves prepared
  obtain ⟨log, account, all⟩ := S.examine_account b tells v t
  rw [examined, exec_settle_snd]
  have distinct : (log.questions.map Question.site).Nodup :=
    log.nodup_questions (account.ordered.imp fun before => before.ne)
  refine ⟨log, account, distinct, fun w accepted => ?_, fun entries writes => ?_⟩
  · obtain ⟨same, complete⟩ := all w _ (exec_settle_eq_ok.mp (Prod.ext accepted rfl))
    refine ⟨same, fun site l base p m x found => ?_⟩
    obtain ⟨y, asked⟩ := complete site l base p m x found
    rw [← same] at asked
    exact List.count_eq_one_of_mem distinct (List.mem_map_of_mem asked)
  · rw [← account.leads]
    exact log.trace_after writes t

theorem validate_inquiry_textsAndCallback :
    let len : Value := .function (.builtin .len)
    let v : Value := .tuple .fresh [.list .fresh [.text "a", .text "b"], len]
    let checked := (validate call (.schema textsAndCallback) v (some true)).exec .start
    checked.1 = .ok v ∧ ∃ log : Log,
      log.after call true (textsAndCallback.adapter.exec .start).2 = checked.2 ∧
      log.questions =
        [⟨[.item 0, .item 0], len, .text "a"⟩, ⟨[.item 0, .item 1], len, .text "b"⟩] := by
  intro len v checked
  have tells : Gives (Rule.AsksOnly call.Tells) textsAndCallback.rule := by
    rintro _ ⟨⟩
    exact ⟨⟨trivial, len_tells callDepth⟩, trivial, trivial⟩
  have prepared : (textsAndCallback.prepare (some true)).exec .start =
    (.ok true, (textsAndCallback.adapter.exec .start).2) := rfl
  have accepted : checked.1 = .ok v := rfl
  obtain ⟨log, account, -, all, -⟩ :=
    validate_inquiry tells (AdapterStore.serves_nil _ _) prepared v
  exact ⟨accepted, log, account.leads, (all v accepted).1⟩

end CallContract
