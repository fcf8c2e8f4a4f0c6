import CallContract.Proofs.Layering

/-!
# Faults of loading

A file of settings is found, decoded and read, and its document has to be a mapping. Where there is
no file, or the text is malformed, or the document is no mapping, loading ends with a configuration
error that names the file (`Misfit`). A path that cannot be followed, bytes that are no text, and
scalars or keys for which there is no value end it with faults of other sorts (`Illegible`), which
nothing on the way turns into a configuration error. A file is legible if it has none of these.
-/

namespace CallContract

namespace Settings

/-- The causes for which a file is refused by a configuration error. -/
inductive Misfit (files : FileTree) (path : Path) : ConfigCause → Prop
  /-- Nothing is there. -/
  | notFound (found : files.find? path = .ok none) : Misfit files path .notFound
  /-- A folder is there. -/
  | isFolder (found : files.find? path = .ok (some .folder)) : Misfit files path .isFolder
  /-- The text is malformed. -/
  | notYaml {content : List UInt8} {text : String}
      (found : files.find? path = .ok (some (.file content)))
      (decoded : Scalar.decode? content = some text)
      (malformed : Yaml.read text = .error .malformed) : Misfit files path .notYaml
  /-- The document is no mapping, and does not count as false. -/
  | notMapping {content : List UInt8} {text : String} {v : Value}
      (found : files.find? path = .ok (some (.file content)))
      (decoded : Scalar.decode? content = some text) (read : Yaml.read text = .ok v)
      (truthy : v.isTruthy = true) (shape : ∀ l es, v ≠ .dict l es) :
      Misfit files path .notMapping

/-- The faults other than configuration errors that a file gives. -/
inductive Illegible (files : FileTree) (path : Path) : Fault → Prop
  /-- The path cannot be followed. -/
  | path {d : PathDefect} (found : files.find? path = .error d) : Illegible files path (.path d)
  /-- The bytes are no text. -/
  | notText {content : List UInt8} (found : files.find? path = .ok (some (.file content)))
      (decoded : Scalar.decode? content = none) :
      Illegible files path (.notText ((utf8Defect? content).getD ""))
  /-- The text is well formed, and there is no value for it. -/
  | noValue {content : List UInt8} {text : String} {d : Yaml.Defect}
      (found : files.find? path = .ok (some (.file content)))
      (decoded : Scalar.decode? content = some text) (read : Yaml.read text = .error d)
      (formed : d ≠ .malformed) : Illegible files path (defectFault path d)

/-- Whether a path can be followed, and what is there, if it is a file, is a text that is malformed
or has a value. -/
def Legible (files : FileTree) (path : Path) : Prop :=
  ∃ node, files.find? path = .ok node ∧ ∀ content, node = some (.file content) →
    ∃ text, Scalar.decode? content = some text ∧
      ∀ d, Yaml.read text = .error d → d = .malformed

/-- Of the defects of documents only a malformed text is a configuration error. -/
theorem defectFault_ne_config {d : Yaml.Defect} (formed : d ≠ .malformed) (path : Path)
    (f : ConfigFault) : defectFault path d ≠ .config f := by
  cases d with
  | malformed => exact absurd rfl formed
  | _ => exact Fault.noConfusion

theorem Illegible.ne_config {files : FileTree} {path : Path} {e : Fault}
    (h : Illegible files path e) (f : ConfigFault) : e ≠ .config f := by
  cases h with
  | path => exact Fault.noConfusion
  | notText => exact Fault.noConfusion
  | noValue _ _ _ formed => exact defectFault_ne_config formed path f

theorem legible_iff {files : FileTree} {path : Path} :
    Legible files path ↔ ∀ e, ¬ Illegible files path e := by
  constructor
  · rintro ⟨node, here, legible⟩ e illegible
    cases illegible with
    | path found => cases here.symm.trans found
    | notText found decoded =>
      cases here.symm.trans found
      obtain ⟨text, known, _⟩ := legible _ rfl
      cases decoded.symm.trans known
    | noValue found decoded read formed =>
      cases here.symm.trans found
      obtain ⟨text, known, only⟩ := legible _ rfl
      cases decoded.symm.trans known
      exact formed (only _ read)
  · intro none
    cases found : files.find? path with
    | error d => exact absurd (.path found) (none _)
    | ok node =>
      refine ⟨node, found, ?_⟩
      rintro content rfl
      cases decoded : Scalar.decode? content with
      | none => exact absurd (.notText found decoded) (none _)
      | some text =>
        refine ⟨text, rfl, fun d read => ?_⟩
        by_contra formed
        exact none _ (.noValue found decoded read formed)

/-! ### One file -/

theorem exec_loadFile_fst (path : Path) (s : Session) :
    ((loadFile path).exec s).1 = match s.files.find? path with
      | .error d => .error (.path d)
      | .ok none => .error (.config ⟨.notFound, some path.text⟩)
      | .ok (some .folder) => .error (.config ⟨.isFolder, some path.text⟩)
      | .ok (some (.file content)) =>
        match Scalar.decode? content with
        | none => .error (.notText ((utf8Defect? content).getD ""))
        | some text =>
          match Yaml.read text with
          | .error d => .error (defectFault path d)
          | .ok v =>
            match if v.isTruthy then v else .dict .fresh [] with
            | .dict _ es => .ok es
            | _ => .error (.config ⟨.notMapping, some path.text⟩) := by
  unfold loadFile
  rw [Run.exec_bind_of_ok (Run.exec_get s)]
  cases s.files.find? path with
  | error d => rfl
  | ok node =>
    change ((pure node >>= _ : Run _).exec s).1 = _
    rw [Run.exec_bind_of_ok (Run.exec_pure ..)]
    cases node with
    | none => rfl
    | some node =>
      cases node with
      | folder => rfl
      | file content =>
        dsimp only
        cases Scalar.decode? content with
        | none => rfl
        | some text =>
          dsimp only
          cases Yaml.read text with
          | error d => rfl
          | ok v =>
            dsimp only
            generalize (if v.isTruthy then v else .dict .fresh []) = w
            cases w <;> rfl

/-- A file gives its entries, or is refused by a configuration error that names it, or gives one of
the other faults. -/
theorem loadFile_cases (path : Path) (s : Session) :
    (∃ es, ((loadFile path).exec s).1 = .ok es ∧ Holds s.files path es) ∨
      (∃ cause, ((loadFile path).exec s).1 = .error (.config ⟨cause, some path.text⟩) ∧
        Misfit s.files path cause) ∨
      ∃ e, ((loadFile path).exec s).1 = .error e ∧ Illegible s.files path e := by
  rw [exec_loadFile_fst]
  cases found : s.files.find? path with
  | error d => exact .inr (.inr ⟨_, rfl, .path found⟩)
  | ok node =>
    cases node with
    | none => exact .inr (.inl ⟨_, rfl, .notFound found⟩)
    | some node =>
      cases node with
      | folder => exact .inr (.inl ⟨_, rfl, .isFolder found⟩)
      | file content =>
        dsimp only
        cases decoded : Scalar.decode? content with
        | none => exact .inr (.inr ⟨_, rfl, .notText found decoded⟩)
        | some text =>
          dsimp only
          cases read : Yaml.read text with
          | error d =>
            by_cases formed : d = .malformed
            · subst formed
              exact .inr (.inl ⟨_, rfl, .notYaml found decoded read⟩)
            · exact .inr (.inr ⟨_, rfl, .noValue found decoded read formed⟩)
          | ok v =>
            dsimp only
            cases truthy : v.isTruthy with
            | false => exact .inl ⟨_, rfl, content, text, v, found, decoded, read, by simp [truthy]⟩
            | true =>
              rw [if_pos rfl]
              split
              · exact .inl ⟨_, rfl, content, text, _, found, decoded, read, by simp [truthy]⟩
              · rename_i shape
                exact .inr (.inl ⟨_, rfl, .notMapping found decoded read truthy shape⟩)

theorem loadFile_of_illegible {path : Path} {s : Session} {e : Fault}
    (h : Illegible s.files path e) : ((loadFile path).exec s).1 = .error e := by
  rw [exec_loadFile_fst]
  cases h with
  | path found => rw [found]
  | notText found decoded =>
    rw [found]
    dsimp only
    rw [decoded]
  | noValue found decoded read _ =>
    rw [found]
    dsimp only
    rw [decoded]
    dsimp only
    rw [read]

/-- The faults of a file other than configuration errors are those of an illegible one. -/
theorem loadFile_eq_error_iff {path : Path} {s : Session} {e : Fault} (h : ∀ f, e ≠ .config f) :
    ((loadFile path).exec s).1 = .error e ↔ Illegible s.files path e := by
  refine ⟨fun ended => ?_, loadFile_of_illegible⟩
  rcases loadFile_cases path s with ⟨es, ok, _⟩ | ⟨cause, refused, _⟩ | ⟨e', other, illegible⟩
  · cases ended.symm.trans ok
  · cases ended.symm.trans refused
    exact absurd rfl (h _)
  · cases ended.symm.trans other
    exact illegible

/-! ### All layers -/

/-- The merged layers give settings, or are refused by a configuration error. -/
theorem mergeLayers_cases (path : Option Path) (environment : List (String × String))
    (file : List (Value × Value)) (s : Session) :
    (∃ st, ((mergeLayers path environment file).exec s).1 = .ok st) ∨
      ∃ f, ((mergeLayers path environment file).exec s).1 = .error (.config f) := by
  unfold mergeLayers
  cases given : environmentLayer environment with
  | error cause =>
    unfold loadEnvironment
    rw [given]
    exact .inr ⟨_, rfl⟩
  | ok layer =>
    obtain ⟨t, ht⟩ := loadEnvironment_of_ok given s
    rw [Run.exec_bind_of_ok ht]
    cases ofEntries (overlay (overlay standardLayer file) layer) with
    | ok st => exact .inl ⟨_, rfl⟩
    | error issues => exact .inr ⟨_, rfl⟩

/-- Loading settings gives some, or ends with a configuration error, or with another fault that the
file in use gives. -/
theorem load_cases (path : Option Path) (environment : List (String × String)) (s : Session) :
    (∃ st, ((load path environment).exec s).1 = .ok st) ∨
      (∃ f, ((load path environment).exec s).1 = .error (.config f)) ∨
      ∃ p e, userFile? path environment = some p ∧ Illegible s.files p e ∧
        ((load path environment).exec s).1 = .error e := by
  have merged := mergeLayers_cases (userFile? path environment) environment
  rw [exec_load]
  cases given : userFile? path environment with
  | none =>
    rw [given] at merged
    rcases merged [] (loadStandard.exec s).2 with ok | refused
    · exact .inl ok
    · exact .inr (.inl refused)
  | some p =>
    rw [given] at merged
    dsimp only
    rcases loadFile_cases p (loadStandard.exec s).2 with
      ⟨es, loaded, _⟩ | ⟨cause, loaded, _⟩ | ⟨e, loaded, illegible⟩
    · rw [Run.exec_bind_of_ok (Prod.ext loaded rfl)]
      rcases merged es _ with ok | refused
      · exact .inl ok
      · exact .inr (.inl refused)
    · rw [Run.exec_bind_of_error (Prod.ext loaded rfl)]
      exact .inr (.inl ⟨_, rfl⟩)
    · rw [Run.exec_bind_of_error (Prod.ext loaded rfl)]
      exact .inr (.inr ⟨p, e, rfl, illegible, rfl⟩)

theorem load_of_illegible {path : Option Path} {environment : List (String × String)} {p : Path}
    {e : Fault} {s : Session} (given : userFile? path environment = some p)
    (illegible : Illegible s.files p e) : ((load path environment).exec s).1 = .error e := by
  have loaded := loadFile_of_illegible (s := (loadStandard.exec s).2) illegible
  rw [exec_load, given]
  dsimp only
  rw [Run.exec_bind_of_error (Prod.ext loaded rfl)]

/-- The faults of loading other than configuration errors are those of the file in use. -/
theorem load_eq_error_iff {path : Option Path} {environment : List (String × String)} {s : Session}
    {e : Fault} (h : ∀ f, e ≠ .config f) :
    ((load path environment).exec s).1 = .error e ↔
      ∃ p, userFile? path environment = some p ∧ Illegible s.files p e := by
  refine ⟨fun ended => ?_, fun ⟨p, given, illegible⟩ => load_of_illegible given illegible⟩
  rcases load_cases path environment s with
    ⟨st, ok⟩ | ⟨f, refused⟩ | ⟨p, e', given, illegible, other⟩
  · cases ended.symm.trans ok
  · cases ended.symm.trans refused
    exact absurd rfl (h _)
  · cases ended.symm.trans other
    exact ⟨p, given, illegible⟩

/-- **Which faults loading can end with.** A file gives its entries, or is refused by a
configuration error that names it, exactly if it is legible; otherwise it gives the fault for which
it is illegible. Settings are loaded, or refused by a configuration error, exactly if the file in
use is legible, whatever it and the environment say; otherwise loading ends with the fault of that
file. -/
theorem load_faults (path : Path) (given : Option Path) (environment : List (String × String))
    (s : Session) :
    ((∃ es, ((loadFile path).exec s).1 = .ok es) ∨
        (∃ cause, ((loadFile path).exec s).1 = .error (.config ⟨cause, some path.text⟩) ∧
          Misfit s.files path cause) ↔ Legible s.files path) ∧
      (∀ e, (∀ f, e ≠ .config f) →
        (((loadFile path).exec s).1 = .error e ↔ Illegible s.files path e)) ∧
      ((∃ st, ((load given environment).exec s).1 = .ok st) ∨
        (∃ f, ((load given environment).exec s).1 = .error (.config f)) ↔
          ∀ p, userFile? given environment = some p → Legible s.files p) ∧
      ∀ e, (∀ f, e ≠ .config f) → (((load given environment).exec s).1 = .error e ↔
        ∃ p, userFile? given environment = some p ∧ Illegible s.files p e) := by
  refine ⟨?_, fun e => loadFile_eq_error_iff, ?_, fun e => load_eq_error_iff⟩
  · rw [legible_iff]
    constructor
    · rintro (⟨es, ok⟩ | ⟨cause, refused, _⟩) e illegible
      · cases ok.symm.trans (loadFile_of_illegible illegible)
      · cases refused.symm.trans (loadFile_of_illegible illegible)
        exact illegible.ne_config _ rfl
    · intro legible
      rcases loadFile_cases path s with ⟨es, ok, _⟩ | refused | ⟨e, _, illegible⟩
      · exact .inl ⟨es, ok⟩
      · exact .inr refused
      · exact absurd illegible (legible e)
  · constructor
    · rintro (⟨st, ok⟩ | ⟨f, refused⟩) p inUse
      · refine legible_iff.mpr fun e illegible => ?_
        cases ok.symm.trans (load_of_illegible inUse illegible)
      · refine legible_iff.mpr fun e illegible => ?_
        cases refused.symm.trans (load_of_illegible inUse illegible)
        exact illegible.ne_config _ rfl
    · intro legible
      rcases load_cases given environment s with ok | refused | ⟨p, e, inUse, illegible, _⟩
      · exact .inl ok
      · exact .inr refused
      · exact absurd illegible (legible_iff.mp (legible p inUse) e)

/-- A folder with a file whose bytes are no text, one with a word marked as a truth value that is
none, and one with a word marked as a number. -/
def illegibleFiles : FileTree :=
  ⟨[], [(["a.yaml"], [0xFF, 0xFE]), (["b.yaml"], "strict: !!bool maybe\n".toUTF8.toList),
    (["c.yaml"], "strict: !!int x\n".toUTF8.toList)]⟩

/-- Whether loading ended with a configuration error or not at all. -/
def endsOwn {α : Type} : Except Fault α → Bool
  | .ok _ => true
  | .error (.config _) => true
  | .error _ => false

/-- None of these files is refused by a configuration error, on its own or as a layer. -/
theorem load_illegibleFiles :
    let names := ["a.yaml", "b.yaml", "c.yaml"]
    let s := { Session.start with files := illegibleFiles }
    names.map (fun n => endsOwn ((loadFile ⟨"", [n]⟩).exec s).1) = [false, false, false] ∧
      names.map (fun n => endsOwn ((load (some ⟨"", [n]⟩) []).exec s).1) =
        [false, false, false] := by
  decide +kernel

end Settings

end CallContract
