import CallContract.Proofs.Interchange
import CallContract.Proofs.Loading
import Mathlib.Data.List.Induction

/-!
# The layers of settings

Settings are loaded from three layers: the standard ones, a file, and the environment. Each field
has the value of the highest layer that sets it, read as by `Value.asMode` and `Scalar.bool`; no
layer below that one matters for the field. What is no field is refused in whichever layer it is.
-/

namespace CallContract

/-! ### Fields among entries -/

/-- A key that is a text equals what is that text. -/
theorem Value.same_iff_of_text {k w : Value} {n : String} (hw : w.text? = some n) :
    k.same w = true ↔ k.text? = some n := by
  constructor
  · exact fun same => (text?_eq_of_same same).trans hw
  · intro hk
    cases k <;> cases hk <;> simp [Value.same, hw]

theorem lookupEntry_text (n : String) (es : List (Value × Value)) :
    lookupEntry (.text n) es = (es.find? fun e => e.1.text? = some n).map Prod.snd := by
  unfold lookupEntry
  congr 2
  funext e
  exact Bool.eq_iff_iff.mpr (by simp [Value.same_iff_of_text (n := n) (w := .text n) rfl])

/-- Putting in an entry under an equal key changes what is found there. -/
theorem find?_map_update (n : String) (es : List (Value × Value)) (k v : Value) :
    ((es.map fun (k', v') => if k'.same k then (k', v) else (k', v')).find?
        fun e => e.1.text? = some n) =
      (es.find? fun e => e.1.text? = some n).map
        fun (k', v') => if k'.same k then (k', v) else (k', v') := by
  rw [List.find?_map]
  congr 2
  funext e
  dsimp only [Function.comp]
  split <;> rfl

/-- What a text finds after an entry has been put in: the new value if that is its key, and
otherwise what it found before. -/
theorem lookupEntry_putEntry (n : String) (es : List (Value × Value)) (k v : Value) :
    lookupEntry (.text n) (putEntry es k v) =
      if k.text? = some n then some v else lookupEntry (.text n) es := by
  rw [lookupEntry_text, lookupEntry_text]
  cases taken : es.any fun (k', _) => k'.same k with
  | false =>
    rw [putEntry, taken, if_neg Bool.false_ne_true, List.find?_append]
    by_cases isName : k.text? = some n
    · have absent : (es.find? fun e => e.1.text? = some n) = none := by
        refine List.find?_eq_none.mpr fun e he hn => ?_
        have same := (Value.same_iff_of_text isName).mpr (of_decide_eq_true hn)
        exact List.any_eq_false.mp taken e he same
      simp [absent, isName]
    · simp [isName]
  | true =>
    rw [putEntry, taken, if_pos rfl, find?_map_update]
    by_cases isName : k.text? = some n
    · obtain ⟨e, he, same⟩ := List.any_eq_true.mp taken
      obtain ⟨e', found⟩ : ∃ e', (es.find? fun e => e.1.text? = some n) = some e' := by
        refine Option.isSome_iff_exists.mp (List.find?_isSome.mpr ⟨e, he, decide_eq_true ?_⟩)
        exact (Value.same_iff_of_text isName).mp same
      have name : e'.1.text? = some n := by simpa using List.find?_some found
      simp [found, isName, (Value.same_iff_of_text isName).mpr name]
    · rw [if_neg isName]
      cases found : es.find? fun e => e.1.text? = some n with
      | none => rfl
      | some e =>
        have name : e.1.text? = some n := by simpa using List.find?_some found
        have differ : e.1.same k ≠ true :=
          fun same => isName ((text?_eq_of_same same).symm.trans name)
        simp [differ]

namespace Settings

/-- The value that entries give a field: the last one under its name. -/
def field? (name : String) (es : List (Value × Value)) : Option Value :=
  lookupEntry (.text name) es.reverse

theorem field?_concat (name : String) (es : List (Value × Value)) (k v : Value) :
    field? name (es ++ [(k, v)]) = if k.text? = some name then some v else field? name es := by
  rw [field?, field?, lookupEntry_text, lookupEntry_text, List.reverse_concat, List.find?_cons]
  split <;> simp_all

/-- A field of merged entries has the value of the upper layer, or else that of the lower one. -/
theorem lookupEntry_overlay (name : String) (lower upper : List (Value × Value)) :
    lookupEntry (.text name) (overlay lower upper) =
      (field? name upper).or (lookupEntry (.text name) lower) := by
  unfold overlay
  induction upper using List.reverseRecOn with
  | nil => rfl
  | append_singleton upper e ih =>
    rw [List.foldl_concat, lookupEntry_putEntry, field?_concat, ih]
    split <;> rfl

/-- Whether a key names a field. -/
def IsField (k : Value) : Prop := k = .text modeField ∨ k = .text strictField

/-- The names of the fields are the words of no mode and no boundary. -/
theorem isField_iff {k : Value} :
    IsField k ↔ k.text? = some modeField ∨ k.text? = some strictField := by
  unfold IsField
  cases k with
  | text s => simp [Value.text?]
  | mode m => cases m <;> simp [Value.text?, Mode.word, modeField, strictField]
  | boundary b => cases b <;> simp [Value.text?, Boundary.word, modeField, strictField]
  | _ => simp [Value.text?]

/-- The keys of the entries are names of fields. -/
def Fits (es : List (Value × Value)) : Prop := ∀ e ∈ es, IsField e.1

theorem fits_putEntry {es : List (Value × Value)} {k v : Value} :
    Fits (putEntry es k v) ↔ Fits es ∧ IsField k := by
  cases taken : es.any fun (k', _) => k'.same k with
  | false =>
    rw [putEntry, taken, if_neg Bool.false_ne_true]
    simp only [Fits, List.forall_mem_append, List.forall_mem_singleton]
  | true =>
    obtain ⟨e, he, same⟩ := List.any_eq_true.mp taken
    -- The keys stay, and the new one equals one of them.
    have covered (fits : Fits es) : IsField k := by
      rw [isField_iff, ← text?_eq_of_same same]
      exact isField_iff.mp (fits e he)
    have keys (e : Value × Value) : (if e.1.same k then (e.1, v) else (e.1, e.2)).1 = e.1 := by
      split <;> rfl
    rw [putEntry, taken, if_pos rfl]
    simp only [Fits, List.forall_mem_map, keys]
    exact ⟨fun fits => ⟨fits, covered fits⟩, And.left⟩

theorem fits_overlay {lower upper : List (Value × Value)} :
    Fits (overlay lower upper) ↔ Fits lower ∧ Fits upper := by
  unfold overlay
  induction upper using List.reverseRecOn with
  | nil => simp [Fits]
  | append_singleton upper e ih =>
    rw [List.foldl_concat, fits_putEntry, ih, and_assoc]
    simp only [Fits, List.forall_mem_append, List.forall_mem_singleton]

/-! ### Reading the merged layers -/

theorem readMode_eq_ok_iff {v : Value} {m : Mode} : readMode v = .ok m ↔ v.asMode = .ok m := by
  unfold readMode
  split <;> simp_all

theorem readStrict_eq_ok_iff {v : Value} {b : Bool} :
    readStrict v = .ok b ↔ Scalar.bool false v = .ok (.bool b) := by
  unfold readStrict
  split
  · simp_all
  · rename_i w _ given
    cases b <;> simp_all
  · simp_all

theorem keyIssue?_eq_none_iff {e : Value × Value} : keyIssue? e = none ↔ IsField e.1 := by
  obtain ⟨k, v⟩ := e
  cases k <;> simp [keyIssue?, IsField, or_iff_not_imp_left]

/-- Entries are read exactly if both fields can be read and there are no other keys. -/
theorem ofEntries_eq_ok_iff {es : List (Value × Value)} {st : Settings} :
    ofEntries es = .ok st ↔
      readField es modeField standard.mode readMode = .ok st.mode ∧
        readField es strictField standard.strict readStrict = .ok st.strict ∧ Fits es := by
  have extra : es.filterMap keyIssue? = [] ↔ Fits es := by
    simp only [List.filterMap_eq_nil_iff, keyIssue?_eq_none_iff, Fits]
  rw [← extra]
  obtain ⟨mode, strict⟩ := st
  dsimp only [ofEntries]
  generalize readField es modeField standard.mode readMode = m
  generalize readField es strictField standard.strict readStrict = s
  generalize es.filterMap keyIssue? = is
  cases m <;> cases s <;> cases is <;> simp

/-! ### The layer of the environment -/

/-- Whether a text is one of the words for a truth value, in any case and with blanks around it. -/
def IsSwitch (w : String) : Prop :=
  ∃ word ∈ trueWords ++ falseWords, (trimBy isBlank w.toList).map Char.toLower = word.toList

theorem switch?_isSome_iff {w : String} : (switch? w).isSome = true ↔ IsSwitch w := by
  have named (words : List String) :
      words.contains (String.ofList ((trimBy isBlank w.toList).map Char.toLower)) = true ↔
        ∃ word ∈ words, (trimBy isBlank w.toList).map Char.toLower = word.toList := by
    simp only [List.contains_iff_mem]
    constructor
    · exact fun h => ⟨_, h, String.toList_ofList.symm⟩
    · rintro ⟨word, h, eq⟩
      rwa [eq, String.ofList_toList]
  unfold IsSwitch
  rw [← named, List.contains_append, Bool.or_eq_true]
  dsimp only [switch?]
  split
  · simp_all
  · split <;> simp_all

/-- An environment without a variable. -/
def without (environment : List (String × String)) (name : String) : List (String × String) :=
  environment.filter (·.1 != name)

theorem lookup_without (environment : List (String × String)) (name other : String) :
    (without environment name).lookup other =
      if other = name then none else environment.lookup other := by
  induction environment with
  | nil => simp [without]
  | cons e rest ih =>
    obtain ⟨n, text⟩ := e
    unfold without at ih ⊢
    by_cases dropped : n = name
    · rw [List.filter_cons_of_neg (by simpa using dropped), ih]
      by_cases same : other = name
      · rw [if_pos same, if_pos same]
      · rw [if_neg same, if_neg same, List.lookup_cons, dropped, beq_eq_false_iff_ne.mpr same]
    · rw [List.filter_cons_of_pos (by simpa using dropped), List.lookup_cons, ih, List.lookup_cons]
      cases found : other == n with
      | true => exact (if_neg ((eq_of_beq found).trans_ne dropped)).symm
      | false => rfl

theorem setting?_without (environment : List (String × String)) (name other : String) :
    setting? (without environment name) other =
      if other = name then none else setting? environment other := by
  rw [setting?, setting?, lookup_without]
  split <;> rfl

/-- The mode that the environment sets. -/
def environmentMode? (environment : List (String × String)) : Option Value :=
  (setting? environment modeVariable).map Value.text

/-- The strictness that the environment sets. -/
def environmentStrict? (environment : List (String × String)) : Option Value :=
  ((setting? environment strictVariable).bind switch?).map Value.bool

/-- There is a layer of the environment exactly if the variable for strictness holds a word for a
truth value, or nothing. -/
theorem environmentLayer_isOk_iff {environment : List (String × String)} :
    (∃ layer, environmentLayer environment = .ok layer) ↔
      ∀ w, setting? environment strictVariable = some w → IsSwitch w := by
  simp only [← switch?_isSome_iff]
  dsimp only [environmentLayer]
  cases setting? environment strictVariable with
  | none => simp
  | some w => cases h : switch? w <;> simp [h]

theorem environmentLayer_fields {environment : List (String × String)}
    {layer : List (Value × Value)} (h : environmentLayer environment = .ok layer) :
    field? modeField layer = environmentMode? environment ∧
      field? strictField layer = environmentStrict? environment ∧ Fits layer := by
  dsimp only [environmentLayer] at h
  unfold environmentMode? environmentStrict?
  cases hm : setting? environment modeVariable <;>
    cases hs : setting? environment strictVariable with
    | none =>
      rw [hm, hs] at h
      cases h
      simp [Fits, IsField, field?, lookupEntry, Value.same, Value.text?, modeField, strictField]
    | some w =>
      rw [hm, hs] at h
      cases hw : switch? w with
      | none => simp [hw] at h
      | some b =>
        simp only [hw] at h
        cases h
        simp [hw, Fits, IsField, field?, lookupEntry, Value.same, Value.text?, modeField,
          strictField]

/-! ### The layer of a file -/

/-- The file that settings are loaded from: the given one, or else the one that the environment
names. -/
def userFile? (path : Option Path) (environment : List (String × String)) : Option Path :=
  path.or ((setting? environment pathVariable).map Path.ofText)

/-- Whether a file holds a mapping with these entries. A document that counts as false is taken
for an empty mapping. -/
def Holds (files : FileTree) (path : Path) (entries : List (Value × Value)) : Prop :=
  ∃ content text v, files.find? path = .ok (some (.file content)) ∧
    Scalar.decode? content = some text ∧ Yaml.read text = .ok v ∧
      if v.isTruthy then ∃ l, v = .dict l entries else entries = []

/-- Whether the file that settings are loaded from, if there is one, holds a mapping with these
entries. -/
def Reads (files : FileTree) (path : Option Path) (environment : List (String × String))
    (entries : List (Value × Value)) : Prop :=
  match userFile? path environment with
  | some p => Holds files p entries
  | none => entries = []

theorem loadFile_of_holds {s : Session} {path : Path} {entries : List (Value × Value)}
    (h : Holds s.files path entries) : ((loadFile path).exec s).1 = .ok entries := by
  obtain ⟨content, text, v, found, decoded, read, holds⟩ := h
  unfold loadFile
  rw [Run.exec_bind_of_ok (Run.exec_get s), found]
  change ((pure (some (FileNode.file content)) >>= _ : Run _).exec s).1 = _
  rw [Run.exec_bind_of_ok (Run.exec_pure ..)]
  simp only [decoded, read]
  cases truthy : v.isTruthy with
  | true =>
    rw [truthy, if_pos rfl] at holds
    obtain ⟨l, rfl⟩ := holds
    rfl
  | false =>
    rw [truthy, if_neg Bool.false_ne_true] at holds
    subst holds
    rfl

/-! ### What is loaded -/

/-- The value that decides the mode: of the environment, or else of the file, or else the standard
one. -/
def layeredMode (environment : List (String × String)) (file : List (Value × Value)) : Value :=
  ((environmentMode? environment).or (field? modeField file)).getD (.text standard.mode.word)

/-- The value that decides strictness: of the environment, or else of the file, or else the standard
one. -/
def layeredStrict (environment : List (String × String)) (file : List (Value × Value)) : Value :=
  ((environmentStrict? environment).or (field? strictField file)).getD (.bool standard.strict)

/-- The entries of the standard settings. -/
def standardLayer : List (Value × Value) :=
  [(.text modeField, .text standard.mode.word), (.text strictField, .bool standard.strict)]

/-- The fields of the merged layers are read from the values that decide them. -/
theorem ofEntries_layers {environment : List (String × String)}
    {file layer : List (Value × Value)} (h : environmentLayer environment = .ok layer)
    (st : Settings) :
    ofEntries (overlay (overlay standardLayer file) layer) = .ok st ↔
      Fits file ∧ (layeredMode environment file).asMode = .ok st.mode ∧
        Scalar.bool false (layeredStrict environment file) = .ok (.bool st.strict) := by
  obtain ⟨mode, strict, fits⟩ := environmentLayer_fields h
  have fitsStandard : Fits standardLayer := by simp [Fits, IsField, standardLayer]
  have merged (name : String) (base : Value)
      (lower : lookupEntry (.text name) standardLayer = some base) :
      lookupEntry (.text name) (overlay (overlay standardLayer file) layer) =
        some (((field? name layer).or (field? name file)).getD base) := by
    rw [lookupEntry_overlay, lookupEntry_overlay, lower]
    cases field? name layer <;> cases field? name file <;> rfl
  rw [ofEntries_eq_ok_iff, fits_overlay, fits_overlay, readField, readField,
    merged modeField (.text standard.mode.word) (by simp [standardLayer, lookupEntry_text,
      Value.text?]),
    merged strictField (.bool standard.strict) (by simp [standardLayer, lookupEntry_text,
      Value.text?, modeField, strictField]), mode, strict]
  simp only [readMode_eq_ok_iff, readStrict_eq_ok_iff, fitsStandard, fits, layeredMode,
    layeredStrict]
  tauto

/-- The last part of loading: the layer of the environment is put over that of a file, and the
merged layers are read. -/
def mergeLayers (path : Option Path) (environment : List (String × String))
    (file : List (Value × Value)) : Run Settings := do
  let layer ← loadEnvironment environment
  match ofEntries (overlay (overlay standardLayer file) layer) with
  | .ok s => return s
  | .error issues => fail (.unfit issues) path

/-- A layer of the environment is loaded with at most a record. -/
theorem loadEnvironment_of_ok {environment : List (String × String)} {layer : List (Value × Value)}
    (h : environmentLayer environment = .ok layer) (s : Session) :
    ∃ t, (loadEnvironment environment).exec s = (.ok layer, t) := by
  unfold loadEnvironment
  rw [h]
  cases layer <;> exact ⟨_, rfl⟩

theorem exec_mergeLayers_fst (path : Option Path) (environment : List (String × String))
    (file : List (Value × Value)) (s : Session) (st : Settings) :
    ((mergeLayers path environment file).exec s).1 = .ok st ↔
      ∃ layer, environmentLayer environment = .ok layer ∧
        ofEntries (overlay (overlay standardLayer file) layer) = .ok st := by
  unfold mergeLayers
  cases given : environmentLayer environment with
  | error cause =>
    unfold loadEnvironment
    rw [given]
    exact ⟨nofun, nofun⟩
  | ok layer =>
    obtain ⟨t, ht⟩ := loadEnvironment_of_ok given s
    rw [Run.exec_bind_of_ok ht]
    cases read : ofEntries (overlay (overlay standardLayer file) layer) <;>
      simp [read, fail]

/-- Loading goes from the standard settings to the file in use, if there is one, and merges the
layers. -/
theorem exec_load (path : Option Path) (environment : List (String × String)) (s : Session) :
    (load path environment).exec s =
      ((match userFile? path environment with
        | some p => loadFile p
        | none => pure []) >>= mergeLayers (userFile? path environment) environment).exec
          (loadStandard.exec s).2 := by
  have start : loadStandard.exec s = (.ok standardLayer, (loadStandard.exec s).2) := rfl
  unfold load
  rw [Run.exec_bind_of_ok start]
  dsimp only
  change ((match userFile? path environment with
    | some p => loadFile p >>= mergeLayers (userFile? path environment) environment
    | none => pure [] >>= mergeLayers (userFile? path environment) environment).exec _) = _
  cases userFile? path environment <;> rfl

/-- With a file that holds a mapping, or without one, loading comes to reading the merged layers. -/
theorem exec_load_fst {path : Option Path} {environment : List (String × String)}
    {s : Session} {file : List (Value × Value)} (reads : Reads s.files path environment file)
    (st : Settings) :
    ((load path environment).exec s).1 = .ok st ↔
      ∃ layer, environmentLayer environment = .ok layer ∧
        ofEntries (overlay (overlay standardLayer file) layer) = .ok st := by
  rw [exec_load]
  unfold Reads at reads
  cases given : userFile? path environment with
  | none =>
    rw [given] at reads
    subst reads
    exact exec_mergeLayers_fst ..
  | some p =>
    rw [given] at reads
    have loaded := loadFile_of_holds (s := (loadStandard.exec s).2) reads
    dsimp only
    rw [Run.exec_bind_of_ok (Prod.ext loaded rfl)]
    exact exec_mergeLayers_fst ..

/-- **The highest layer that sets a field decides it.** With a file that holds a mapping, or without
one, settings are loaded exactly if the variable for strictness holds a word for a truth value or
nothing, the keys of the file are names of fields, and for each field the value of the highest
layer that sets it can be read; and then the field is what is read from that value. So a lower layer
may set a field to anything, as long as a higher one sets it too. -/
theorem load_layered {path : Option Path} {environment : List (String × String)} {s : Session}
    {file : List (Value × Value)} (reads : Reads s.files path environment file) (st : Settings) :
    ((load path environment).exec s).1 = .ok st ↔
      (∀ w, setting? environment strictVariable = some w → IsSwitch w) ∧
        (∀ e ∈ file, e.1 = .text modeField ∨ e.1 = .text strictField) ∧
        (layeredMode environment file).asMode = .ok st.mode ∧
        Scalar.bool false (layeredStrict environment file) = .ok (.bool st.strict) := by
  rw [exec_load_fst reads, ← environmentLayer_isOk_iff]
  constructor
  · rintro ⟨layer, given, read⟩
    exact ⟨⟨layer, given⟩, (ofEntries_layers given st).mp read⟩
  · rintro ⟨⟨layer, given⟩, fields⟩
    exact ⟨layer, given, (ofEntries_layers given st).mpr fields⟩

/-- A document with a mode that there is not. -/
def oddModeText : String := "default_mode: never\nstrict: 'off'\n"

/-- What the document holds. -/
def oddModeEntries : List (Value × Value) :=
  [(.text modeField, .text "never"), (.text strictField, .text "off")]

/-- The entries of a dictionary of texts. -/
def textEntries? : List (Value × Value) → Option (List (String × String))
  | [] => some []
  | (.text k, .text v) :: rest => (textEntries? rest).map ((k, v) :: ·)
  | _ => none

theorem eq_of_textEntries? {entries : List (Value × Value)} {texts : List (String × String)}
    (h : textEntries? entries = some texts) :
    entries = texts.map fun (k, v) => (.text k, .text v) := by
  fun_induction textEntries? entries generalizing texts with
  | case1 =>
    cases h
    rfl
  | case2 k v rest ih =>
    obtain ⟨others, found, rfl⟩ := Option.map_eq_some_iff.mp h
    rw [ih found]
    rfl
  | case3 => cases h

/-- The texts in a document that is a new dictionary of texts. -/
def documentTexts? : Except Yaml.Defect Value → Option (List (String × String))
  | .ok (.dict .fresh entries) => textEntries? entries
  | _ => none

theorem read_oddModeText : Yaml.read oddModeText = .ok (.dict .fresh oddModeEntries) := by
  have texts : documentTexts? (Yaml.read oddModeText) =
      some [(modeField, "never"), (strictField, "off")] := by decide +kernel
  unfold documentTexts? at texts
  split at texts
  · rename_i entries read
    rw [read, eq_of_textEntries? texts]
    rfl
  · cases texts

/-- A folder with one file. -/
def oddModeFiles : FileTree := ⟨[], [(["c.yaml"], oddModeText.toUTF8.toList)]⟩

/-- An environment that names another file and sets the mode. -/
def argsEnvironment : List (String × String) :=
  [(pathVariable, "other.yaml"), (modeVariable, " Args")]

theorem load_layered_oddMode :
    ((load (some ⟨"", ["c.yaml"]⟩) argsEnvironment).exec
      { Session.start with files := oddModeFiles }).1 = .ok ⟨.args, false⟩ := by
  have strict : layeredStrict argsEnvironment oddModeEntries = .text "off" := by
    have unset : environmentStrict? argsEnvironment = none := rfl
    simp [layeredStrict, unset, field?, lookupEntry_text, oddModeEntries, Value.text?]
  have reads : Reads oddModeFiles (some ⟨"", ["c.yaml"]⟩) argsEnvironment oddModeEntries :=
    ⟨oddModeText.toUTF8.toList, oddModeText, _, by rfl, by decide +kernel, read_oddModeText,
      ⟨_, rfl⟩⟩
  refine (load_layered reads _).mpr ⟨?_, ?_, ?_, ?_⟩
  · intro w hw
    cases hw
  · simp [oddModeEntries]
  · rfl
  · rw [strict]
    rfl

end Settings

end CallContract
