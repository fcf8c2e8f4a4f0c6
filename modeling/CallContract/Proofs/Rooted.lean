import CallContract.Proofs.Legible

/-!
# The root of a file of settings

A file whose text is well formed holds one document, and the root of a document is any value
(`Rooted`). A mapping gives the file its entries. A root that counts as false gives none
(`Value.Hollow`): that of an empty document is one, and so are zero, the empty text and the empty
sequence. Such a file is loaded as if it were not there (`load_of_hollow`), whatever its shape.
Every other root is refused by a configuration error that names the file, on its own and as a layer.
-/

namespace CallContract

/-- The values that count as false: nothing, zero, and all that is empty. -/
inductive Value.Hollow : Value → Prop
  | null : Hollow .null
  | no : Hollow (.bool false)
  | zero : Hollow (.int 0)
  | real {d : Double} (zero : d.isZero = true) : Hollow (.float d)
  | text : Hollow (.text "")
  | bytes : Hollow (.bytes [])
  | list (l : Label) : Hollow (.list l [])
  | tuple (l : Label) : Hollow (.tuple l [])
  | set (l : Label) : Hollow (.set l [])
  | frozenset (l : Label) : Hollow (.frozenset l [])
  | dict (l : Label) : Hollow (.dict l [])

theorem Value.isTruthy_eq_false_iff {v : Value} : v.isTruthy = false ↔ v.Hollow := by
  constructor
  · intro h
    cases v with
    | null => exact .null
    | bool b =>
      obtain rfl : b = false := h
      exact .no
    | int i =>
      obtain rfl : i = 0 := by simpa [isTruthy] using h
      exact .zero
    | float d => exact .real (by simpa [isTruthy] using h)
    | text s =>
      obtain rfl : s = "" := by simpa [isTruthy] using h
      exact .text
    | bytes bs =>
      obtain rfl : bs = [] := by simpa [isTruthy] using h
      exact .bytes
    | list l xs =>
      obtain rfl : xs = [] := by simpa [isTruthy] using h
      exact .list l
    | tuple l xs =>
      obtain rfl : xs = [] := by simpa [isTruthy] using h
      exact .tuple l
    | set l xs =>
      obtain rfl : xs = [] := by simpa [isTruthy] using h
      exact .set l
    | frozenset l xs =>
      obtain rfl : xs = [] := by simpa [isTruthy] using h
      exact .frozenset l
    | dict l es =>
      obtain rfl : es = [] := by simpa [isTruthy] using h
      exact .dict l
    | _ => cases h
  · intro h
    cases h with
    | real zero => simp [isTruthy, zero]
    | _ => rfl

namespace Settings

/-- Whether a file holds a text that is well formed, with this root. -/
def Rooted (files : FileTree) (path : Path) (root : Value) : Prop :=
  ∃ content text, files.find? path = .ok (some (.file content)) ∧
    Scalar.decode? content = some text ∧ Yaml.read text = .ok root

section Root

variable {path : Path} {s : Session} {root : Value}

theorem loadFile_of_mapping {l : Label} {es : List (Value × Value)}
    (rooted : Rooted s.files path (.dict l es)) : ((loadFile path).exec s).1 = .ok es := by
  obtain ⟨content, text, found, decoded, read⟩ := rooted
  refine loadFile_of_holds ⟨content, text, _, found, decoded, read, ?_⟩
  split
  · exact ⟨l, rfl⟩
  · next falsy =>
    cases Value.isTruthy_eq_false_iff.mp (Bool.not_eq_true _ ▸ falsy)
    rfl

theorem loadFile_of_hollow (rooted : Rooted s.files path root) (hollow : root.Hollow) :
    ((loadFile path).exec s).1 = .ok [] := by
  obtain ⟨content, text, found, decoded, read⟩ := rooted
  refine loadFile_of_holds ⟨content, text, root, found, decoded, read, ?_⟩
  rw [Value.isTruthy_eq_false_iff.mpr hollow, if_neg Bool.false_ne_true]

theorem loadFile_of_misshapen (rooted : Rooted s.files path root) (solid : ¬ root.Hollow)
    (shape : ∀ l es, root ≠ .dict l es) :
    ((loadFile path).exec s).1 = .error (.config ⟨.notMapping, some path.text⟩) := by
  obtain ⟨content, text, found, decoded, read⟩ := rooted
  have truthy : root.isTruthy = true := by
    rw [← Bool.not_eq_false, Value.isTruthy_eq_false_iff]
    exact solid
  rw [exec_loadFile_fst, found]
  dsimp only
  rw [decoded]
  dsimp only
  rw [read]
  dsimp only
  rw [truthy, if_pos rfl]
  split
  · exact absurd rfl (shape _ _)
  · rfl

/-! ### As a layer -/

/-- What is no variable for the layer of the environment can be left out. -/
theorem environmentLayer_without {environment : List (String × String)} {name : String}
    (mode : modeVariable ≠ name) (strict : strictVariable ≠ name) :
    environmentLayer (without environment name) = environmentLayer environment := by
  rw [environmentLayer, environmentLayer, setting?_without, setting?_without, if_neg mode,
    if_neg strict]

theorem userFile?_without (environment : List (String × String)) :
    userFile? none (without environment pathVariable) = none := by
  rw [userFile?, setting?_without, if_pos rfl]
  rfl

variable {given : Option Path} {environment : List (String × String)}

/-- A file with a hollow root is loaded as if no file were there. -/
theorem load_of_hollow (rooted : Rooted s.files path root) (hollow : root.Hollow)
    (inUse : userFile? given environment = some path) (st : Settings) :
    ((load given environment).exec s).1 = .ok st ↔
      ((load none (without environment pathVariable)).exec s).1 = .ok st := by
  have reads : Reads s.files given environment [] := by
    obtain ⟨content, text, found, decoded, read⟩ := rooted
    rw [Reads, inUse]
    refine ⟨content, text, root, found, decoded, read, ?_⟩
    rw [Value.isTruthy_eq_false_iff.mpr hollow, if_neg Bool.false_ne_true]
  have bare : Reads s.files none (without environment pathVariable) [] := by
    rw [Reads, userFile?_without]
  rw [exec_load_fst reads, exec_load_fst bare, environmentLayer_without (by decide) (by decide)]

/-- A root that is neither a mapping nor hollow ends loading, whatever the environment says. -/
theorem load_of_misshapen (rooted : Rooted s.files path root) (solid : ¬ root.Hollow)
    (shape : ∀ l es, root ≠ .dict l es) (inUse : userFile? given environment = some path) :
    ((load given environment).exec s).1 = .error (.config ⟨.notMapping, some path.text⟩) := by
  have refused := loadFile_of_misshapen (s := (loadStandard.exec s).2) rooted solid shape
  rw [exec_load, inUse]
  dsimp only
  rw [Run.exec_bind_of_error (Prod.ext refused rfl)]

/-- **What the root of a file comes to.** A file gives entries exactly if its root is a mapping with
these, or a hollow root and there are none; any other root, and no other reason, ends it with the
configuration error that names the file. As a layer of the settings, a file with a hollow root is
ignored: loading gives just the settings that it gives without a file. A root that is neither
a mapping nor hollow is never ignored: it ends loading, whatever the environment says. -/
theorem load_rooted (rooted : Rooted s.files path root) :
    (∀ es, ((loadFile path).exec s).1 = .ok es ↔
      (∃ l, root = .dict l es) ∨ root.Hollow ∧ es = []) ∧
    (∀ e, ((loadFile path).exec s).1 = .error e ↔
      e = .config ⟨.notMapping, some path.text⟩ ∧ ¬ root.Hollow ∧ ∀ l es, root ≠ .dict l es) ∧
    ∀ (given : Option Path) (environment : List (String × String)),
      userFile? given environment = some path →
      (root.Hollow → ∀ st, ((load given environment).exec s).1 = .ok st ↔
        ((load none (without environment pathVariable)).exec s).1 = .ok st) ∧
      (¬ root.Hollow → (∀ l es, root ≠ .dict l es) →
        ((load given environment).exec s).1 = .error (.config ⟨.notMapping, some path.text⟩)) := by
  refine and_assoc.mp ⟨?_, fun given environment inUse =>
    ⟨fun hollow => load_of_hollow rooted hollow inUse,
      fun solid shape => load_of_misshapen rooted solid shape inUse⟩⟩
  by_cases mapping : ∃ l es, root = .dict l es
  · obtain ⟨l, es, rfl⟩ := mapping
    rw [loadFile_of_mapping rooted]
    refine ⟨fun es' => ⟨?_, ?_⟩, fun e => ⟨nofun, fun ⟨_, _, shape⟩ => absurd rfl (shape l es)⟩⟩
    · rintro ⟨⟩
      exact .inl ⟨l, rfl⟩
    · rintro (⟨_, ⟨⟩⟩ | ⟨⟨⟩, rfl⟩) <;> rfl
  · have shape : ∀ l es, root ≠ .dict l es := fun l es h => mapping ⟨l, es, h⟩
    by_cases hollow : root.Hollow
    · rw [loadFile_of_hollow rooted hollow]
      refine ⟨fun es' => ⟨?_, ?_⟩, fun e => ⟨nofun, fun ⟨_, solid, _⟩ => absurd hollow solid⟩⟩
      · rintro ⟨⟩
        exact .inr ⟨hollow, rfl⟩
      · rintro (⟨l, h⟩ | ⟨-, rfl⟩)
        · exact absurd h (shape l es')
        · rfl
    · rw [loadFile_of_misshapen rooted hollow shape]
      refine ⟨fun es' => ⟨nofun, ?_⟩, fun e => ⟨?_, ?_⟩⟩
      · rintro (⟨l, h⟩ | ⟨solid, -⟩)
        · exact absurd h (shape l es')
        · exact absurd solid hollow
      · rintro ⟨⟩
        exact ⟨rfl, hollow, shape⟩
      · rintro ⟨rfl, -⟩
        rfl

end Root

/-- A folder with a file that holds a sequence of one word. -/
def sequenceFiles : FileTree := ⟨[], [(["a.yaml"], "- strict\n".toUTF8.toList)]⟩

/-- The word of a document that is a sequence of one word. -/
def onlyWord? : Except Yaml.Defect Value → Option String
  | .ok (.list .fresh [.text word]) => some word
  | _ => none

theorem rooted_sequenceFiles :
    Rooted sequenceFiles ⟨"", ["a.yaml"]⟩ (.list .fresh [.text "strict"]) := by
  refine ⟨"- strict\n".toUTF8.toList, "- strict\n", by rfl, by decide +kernel, ?_⟩
  have read : onlyWord? (Yaml.read "- strict\n") = some "strict" := by decide +kernel
  unfold onlyWord? at read
  split at read
  · next whole =>
    cases read
    exact whole
  · cases read

theorem load_rooted_sequence :
    Rooted sequenceFiles ⟨"", ["a.yaml"]⟩ (.list .fresh [.text "strict"]) ∧
      ((load (some ⟨"", ["a.yaml"]⟩) argsEnvironment).exec
        { Session.start with files := sequenceFiles }).1 =
          .error (.config ⟨.notMapping, some (Path.mk "" ["a.yaml"]).text⟩) := by
  refine ⟨rooted_sequenceFiles, ?_⟩
  exact ((load_rooted (s := { Session.start with files := sequenceFiles })
    rooted_sequenceFiles).2.2 (some ⟨"", ["a.yaml"]⟩) argsEnvironment rfl).2 nofun nofun

/-- A folder with files that hold an empty sequence, an empty text and a truth value. -/
def hollowFiles : FileTree :=
  ⟨[], [(["a.yaml"], "[]\n".toUTF8.toList), (["b.yaml"], "''\n".toUTF8.toList),
    (["c.yaml"], "false\n".toUTF8.toList)]⟩

/-- The word for the type of the root of a file. -/
def rootKind? (files : FileTree) (path : Path) : Option String :=
  match files.find? path with
  | .ok (some (.file content)) =>
    match (Scalar.decode? content).map Yaml.read with
    | some (.ok root) => some root.kindName
    | _ => none
  | _ => none

/-- Whether a file gave entries, and none. -/
def givesNothing : Except Fault (List (Value × Value)) → Bool
  | .ok [] => true
  | _ => false

/-- Whether loading gave the standard settings. -/
def isStandard : Except Fault Settings → Bool
  | .ok st => st == standard
  | .error _ => false

/-- None of these files holds a mapping or nothing, and none of them is refused, on its own or as a
layer. -/
theorem load_hollowFiles :
    let paths := ["a.yaml", "b.yaml", "c.yaml"].map fun n => Path.mk "" [n]
    let s := { Session.start with files := hollowFiles }
    paths.map (rootKind? hollowFiles) = [some "list", some "str", some "bool"] ∧
      (paths.all fun p => givesNothing ((loadFile p).exec s).1) = true ∧
      (paths.all fun p => isStandard ((load (some p) []).exec s).1) = true := by
  decide +kernel

end Settings

end CallContract
