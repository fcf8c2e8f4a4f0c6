import CallContract.Issue

/-!
# The lines of a failure

The text of a failure is laid out as a heading and one entry for each issue, in their order; a lone
issue without a boundary has no heading (`Failure.layout`). The entries are joined by line feeds, so
that each of them is one line unless it quotes a text that has a line feed itself. What an entry
quotes are the steps of a place, the message of a predicate or of its error, the word for a type,
and the limits that a number or a choice has to keep to (`Complaint.texts`). The text has as many
lines as the layout has entries exactly if none of the texts that it quotes is broken
(`Failure.textLines_text`).
-/

namespace CallContract

/-! ### Lines -/

/-- Whether a text has no line feed in it. -/
def OneLine (s : String) : Prop := '\n' ∉ s.toList

instance (s : String) : Decidable (OneLine s) := inferInstanceAs (Decidable ('\n' ∉ s.toList))

/-- The lines of a text. -/
def textLines (s : String) : List String := (s.toList.splitOn '\n').map String.ofList

/-- So the characters of a text that is written out are looked at one by one. -/
theorem oneLine_ofList {cs : List Char} (plain : '\n' ∉ cs) : OneLine (String.ofList cs) := by
  rwa [OneLine, String.toList_ofList]

@[simp] theorem oneLine_append {s t : String} : OneLine (s ++ t) ↔ OneLine s ∧ OneLine t := by
  simp [OneLine, not_or]

/-- Joined by a text of one line, texts are one line if each of them is. -/
theorem oneLine_intercalate {sep : String} (plain : OneLine sep) (ls : List String) :
    OneLine (sep.intercalate ls) ↔ ∀ l ∈ ls, OneLine l := by
  induction ls with
  | nil => simp [OneLine]
  | cons l ls ih =>
    cases ls with
    | nil => simp
    | cons m ms =>
      rw [String.intercalate_cons_cons, oneLine_append, oneLine_append, ih, List.forall_mem_cons]
      simp [plain]

@[simp] theorem oneLine_nat (n : Nat) : OneLine n.repr := by
  intro feed
  have digit : '\n'.isDigit = true := by
    refine Nat.isDigit_of_mem_toDigits (b := 10) (n := n) (by decide) (by decide) ?_
    simpa [Nat.repr] using feed
  exact absurd digit (by decide)

@[simp] theorem oneLine_int (i : Int) : OneLine i.repr := by
  cases i with
  | ofNat n => exact oneLine_nat n
  | negSucc n => exact oneLine_append.mpr ⟨by decide, oneLine_nat (n + 1)⟩

/-- A text without a line feed is its only line. -/
theorem textLines_of_oneLine {s : String} (plain : OneLine s) : textLines s = [s] := by
  rw [textLines, List.splitOn_eq_singleton plain, List.map_singleton, String.ofList_toList]

/-- Texts on both sides of a line feed have their own lines. -/
theorem textLines_append (s t : String) :
    textLines (s ++ "\n" ++ t) = textLines s ++ textLines t := by
  have parts : (s ++ "\n" ++ t).toList = s.toList ++ '\n' :: t.toList := by simp
  rw [textLines, parts, List.splitOn_append_cons_self, List.map_append]
  rfl

theorem textLines_length_pos (s : String) : 0 < (textLines s).length := by
  rw [textLines, List.length_map, List.length_pos_iff]
  exact List.splitOn_ne_nil _ _

theorem textLines_length_eq_one {s : String} : (textLines s).length = 1 ↔ OneLine s := by
  constructor
  · intro single feed
    obtain ⟨before, after, parts⟩ := List.append_of_mem feed
    have several : s = String.ofList before ++ "\n" ++ String.ofList after := by
      apply String.toList_injective
      simp [parts]
    rw [several, textLines_append, List.length_append] at single
    have := textLines_length_pos (String.ofList before)
    have := textLines_length_pos (String.ofList after)
    omega
  · intro plain
    rw [textLines_of_oneLine plain, List.length_singleton]

/-- Texts that are joined by line feeds have the lines of each of them. -/
theorem textLines_intercalate {ls : List String} (given : ls ≠ []) :
    textLines ("\n".intercalate ls) = ls.flatMap textLines := by
  induction ls with
  | nil => exact absurd rfl given
  | cons l ls ih =>
    cases ls with
    | nil => simp
    | cons m ms =>
      rw [String.intercalate_cons_cons, textLines_append, ih nofun]
      rfl

/-- They have as many lines as there are texts exactly if each of them is one line. -/
theorem length_flatMap_textLines (ls : List String) :
    ls.length ≤ (ls.flatMap textLines).length ∧
      ((ls.flatMap textLines).length = ls.length ↔ ∀ l ∈ ls, OneLine l) := by
  induction ls with
  | nil => simp
  | cons l ls ih =>
    obtain ⟨least, tight⟩ := ih
    rw [List.flatMap_cons, List.length_append, List.length_cons, List.forall_mem_cons, ← tight,
      ← textLines_length_eq_one]
    have := textLines_length_pos l
    constructor
    · omega
    · constructor
      · intro h
        constructor <;> omega
      · rintro ⟨one, rest⟩
        omega

theorem flatMap_textLines {ls : List String} (plain : ∀ l ∈ ls, OneLine l) :
    ls.flatMap textLines = ls := by
  induction ls with
  | nil => rfl
  | cons l ls ih =>
    obtain ⟨first, rest⟩ := List.forall_mem_cons.mp plain
    rw [List.flatMap_cons, textLines_of_oneLine first, ih rest]
    rfl

/-! ### What messages quote -/

namespace Complaint

/-- The texts that the message of a complaint quotes. -/
def texts (received : String) : Complaint → List String
  | mismatch _ => [received]
  | refused m => [m]
  | valueError t => [t]
  | assertionError t => [t]
  | outOfBound _ limit => [limit]
  | notAmong choices => [choices]
  | _ => []

theorem oneLine_counted (n : Nat) {word : String} (plain : OneLine word) :
    OneLine (counted n word) := by
  unfold counted
  split <;> simp +decide [plain]

/-- All else in a message is one line. -/
theorem oneLine_message (received : String) (c : Complaint) :
    OneLine (c.message received) ↔ ∀ t ∈ c.texts received, OneLine t := by
  cases c with
  | mismatch e =>
    have word : OneLine e.word := by cases e <;> decide
    show OneLine ("Expected " ++ e.word ++ ", received " ++ received) ↔ ∀ t ∈ [received], OneLine t
    simp +decide [word]
  | tooLong what limit actual =>
    have word : OneLine what.word := by cases what <;> decide
    have items : OneLine (itemCount limit) := oneLine_counted limit (by decide)
    have length : OneLine (lengthWord actual) := by cases actual <;> simp +decide [lengthWord]
    refine iff_of_true ?_ (List.forall_mem_nil _)
    show OneLine (what.word ++ " should have at most " ++ itemCount limit ++
      " after validation, not " ++ lengthWord actual)
    simp +decide [word, items, length]
  | tooShort limit actual =>
    have items : OneLine (itemCount limit) := oneLine_counted limit (by decide)
    refine iff_of_true ?_ (List.forall_mem_nil _)
    show OneLine ("List should have at least " ++ itemCount limit ++ " after validation, not " ++
      toString actual)
    simp +decide [items]
  | outOfBound b limit =>
    have words : OneLine b.words := by cases b <;> decide
    show OneLine ("Input should be " ++ b.words ++ " " ++ limit) ↔ ∀ t ∈ [limit], OneLine t
    simp +decide [words]
  | textLength short n =>
    have words : OneLine (limitWords short) := by cases short <;> decide
    refine iff_of_true ?_ (List.forall_mem_nil _)
    show OneLine ("String should have " ++ limitWords short ++ counted n "character")
    simp +decide [words, oneLine_counted]
  | dataLength short n =>
    have words : OneLine (limitWords short) := by cases short <;> decide
    refine iff_of_true ?_ (List.forall_mem_nil _)
    show OneLine ("Data should have " ++ limitWords short ++ counted n "byte")
    simp +decide [words, oneLine_counted]
  | notMultiple d =>
    refine iff_of_true ?_ (List.forall_mem_nil _)
    show OneLine ("Input should be a multiple of " ++ toString d)
    simp +decide
  | refused m =>
    show OneLine m ↔ ∀ t ∈ [m], OneLine t
    simp
  | valueError t =>
    show OneLine ("Value error, " ++ t) ↔ ∀ u ∈ [t], OneLine u
    simp +decide
  | assertionError t =>
    show OneLine ("Assertion failed, " ++ t) ↔ ∀ u ∈ [t], OneLine u
    simp +decide
  | notAmong choices =>
    show OneLine ("Input should be " ++ choices) ↔ ∀ t ∈ [choices], OneLine t
    simp +decide
  | _ => exact iff_of_true (oneLine_ofList (by decide)) (List.forall_mem_nil _)

end Complaint

/-! ### The layout of a failure -/

/-- Whether no text is broken that the entry of an issue quotes. -/
structure Issue.Unbroken (i : Issue) : Prop where
  place : ∀ p ∈ i.place, OneLine p.text
  message : ∀ t ∈ i.complaint.texts i.input.kindName, OneLine t

/-- The entry of an issue is one line exactly if it quotes no broken text. -/
theorem Issue.oneLine_line (i : Issue) : OneLine (Failure.line i) ↔ i.Unbroken := by
  have dot : OneLine "." := oneLine_ofList (by decide)
  have places := oneLine_intercalate dot (i.place.map Place.text)
  rw [List.forall_mem_map] at places
  have message : OneLine i.message ↔ _ := Complaint.oneLine_message _ _
  unfold Failure.line issueLine
  dsimp only
  split
  · next empty =>
    rw [empty] at places
    exact ⟨fun plain => ⟨places.mp (by decide), message.mp plain⟩, fun h => message.mpr h.message⟩
  · rw [oneLine_append, oneLine_append, places, message]
    exact ⟨fun ⟨⟨place, _⟩, plain⟩ => ⟨place, plain⟩,
      fun h => ⟨⟨h.place, by decide⟩, h.message⟩⟩

namespace Failure

/-- The name of the function in a heading. -/
def nameShown (f : Failure) : String :=
  let name := f.function.getD ""
  if name = "" then "<function>" else name

/-- The heading, if there is one: it tells the boundary, or that there is not exactly one issue. -/
def heading? (f : Failure) : Option String :=
  match f.boundary, f.issues with
  | some b, _ => some ("Invalid " ++ b.word ++ " for " ++ f.nameShown ++ ":")
  | none, [_] => none
  | none, _ => some "Validation failed:"

/-- The heading and the entries of the issues, in their order. -/
def layout (f : Failure) : List String :=
  match f.heading? with
  | none => f.issues.map line
  | some heading => heading :: f.issues.map fun i => "  - " ++ line i

/-- Whether a failure quotes no broken text. -/
structure Unbroken (f : Failure) : Prop where
  issues : ∀ i ∈ f.issues, i.Unbroken
  name : f.boundary ≠ none → OneLine f.nameShown

/-- There is no heading for a lone issue without a boundary, and for nothing else. -/
theorem heading?_eq_none {f : Failure} :
    f.heading? = none ↔ f.boundary = none ∧ f.issues.length = 1 := by
  obtain ⟨issues, boundary, function⟩ := f
  cases boundary with
  | some b => exact iff_of_false nofun (nofun ∘ And.left)
  | none =>
    match issues with
    | [] | _ :: _ :: _ => exact iff_of_false nofun fun ⟨_, lone⟩ => by simp at lone
    | [_] => exact iff_of_true rfl ⟨rfl, rfl⟩

/-- The text of a failure is its layout, joined by line feeds. -/
theorem text_eq_layout (f : Failure) : f.text = "\n".intercalate f.layout := by
  obtain ⟨issues, boundary, function⟩ := f
  have entries : (issues.map line).map ("  - " ++ ·) = issues.map fun i => "  - " ++ line i :=
    List.map_map
  unfold text layout
  cases boundary with
  | some b =>
    show "\n".intercalate (_ :: (issues.map line).map ("  - " ++ ·)) = _
    rw [entries]
    rfl
  | none =>
    match issues with
    | [] => rfl
    | [i] => exact String.intercalate_singleton.symm
    | i :: j :: rest =>
      show "\n".intercalate (("Validation failed" ++ ":") :: _) = "\n".intercalate (_ :: _)
      have heading : "Validation failed" ++ ":" = "Validation failed:" := by decide
      rw [heading, ← entries]

theorem layout_ne_nil (f : Failure) : f.layout ≠ [] := by
  unfold layout
  split
  · next none =>
    obtain ⟨-, lone⟩ := heading?_eq_none.mp none
    exact List.ne_nil_of_length_pos (by simp [lone])
  · exact List.cons_ne_nil _ _

theorem length_layout (f : Failure) :
    f.layout.length = f.issues.length + if f.heading?.isSome then 1 else 0 := by
  unfold layout
  cases f.heading? <;> simp

theorem oneLine_heading {f : Failure} {heading : String} (shown : f.heading? = some heading) :
    OneLine heading ↔ (f.boundary ≠ none → OneLine f.nameShown) := by
  unfold heading? at shown
  split at shown
  · next b bounded =>
    have word : OneLine b.word := by cases b <;> decide
    obtain rfl := Option.some.inj shown
    simp +decide [word, bounded]
  · cases shown
  · next unbound _ =>
    obtain rfl := Option.some.inj shown
    exact iff_of_true (by decide) fun bounded => absurd unbound bounded

/-- A failure quotes no broken text exactly if each entry of its layout is one line. -/
theorem unbroken_iff (f : Failure) : f.Unbroken ↔ ∀ l ∈ f.layout, OneLine l := by
  have indented (i : Issue) : OneLine ("  - " ++ line i) ↔ i.Unbroken := by
    rw [oneLine_append, Issue.oneLine_line]
    simp +decide
  unfold layout
  cases heading : f.heading? with
  | none =>
    obtain ⟨unbound, -⟩ := heading?_eq_none.mp heading
    simp only [List.forall_mem_map, Issue.oneLine_line]
    exact ⟨fun h => h.issues, fun h => ⟨h, fun bounded => absurd unbound bounded⟩⟩
  | some text =>
    simp only [List.forall_mem_cons, List.forall_mem_map, indented, oneLine_heading heading]
    exact ⟨fun h => ⟨h.name, h.issues⟩, fun ⟨name, issues⟩ => ⟨issues, name⟩⟩

/-- **The lines of a failure.** The text of a failure has the lines of its heading, if it has one,
and those of the entries of its issues, in their order. These are at least as many lines as there
are issues and headings, and exactly as many if and only if the failure quotes no broken text; then
each entry is a line. -/
theorem textLines_text (f : Failure) :
    textLines f.text = f.layout.flatMap textLines ∧
      f.issues.length + (if f.heading?.isSome then 1 else 0) ≤ (textLines f.text).length ∧
      ((textLines f.text).length = f.issues.length + (if f.heading?.isSome then 1 else 0) ↔
        f.Unbroken) ∧
      (f.Unbroken → textLines f.text = f.layout) := by
  have lines : textLines f.text = f.layout.flatMap textLines := by
    rw [text_eq_layout, textLines_intercalate f.layout_ne_nil]
  obtain ⟨least, tight⟩ := length_flatMap_textLines f.layout
  rw [lines, ← length_layout, unbroken_iff]
  exact ⟨rfl, least, tight, flatMap_textLines⟩

end Failure

end CallContract
