import Remap.Proofs.Config.Size
import Remap.Proofs.Json.Field
import Remap.Proofs.Json.Written
import Remap.Proofs.Loading
import Remap.Proofs.Path
import Remap.Proofs.Text.Utf8

/-!
# Loading a configuration

A configuration is loaded as a whole or not at all: if the file is an object of which every field
counts as what it should be, then each field is what is written or the standard value, and
otherwise all of them are standard. `Loads` is this table of cases, with what is logged in each of
them; `load_exact` says that loading follows it if nothing stands in the way of reading the file,
and that the result is always one that the server can work with.
-/

namespace Remap.Config

open Json Text

variable {tree : FileTree} {path : Wide} {text : List Char} {fields : List (Wide × Json)}
  {config : Config} {value : Json} {result : Logged Config}

/-! What a configuration file says. -/

/-- A number that is zero or more. -/
inductive AtLeastZero : Binary64 → Prop where
  | zero (negative : Bool) : AtLeastZero (.finite negative 0)
  | finite (ticks : Nat) : AtLeastZero (.finite false ticks)
  | infinite : AtLeastZero (.infinite false)

/-- What counts as a quiet period: a number that is zero or more. -/
def IsPeriod (value : Json) (period : Binary64) : Prop :=
  IsNumber value period ∧ AtLeastZero period

/-- The configuration that the fields of an object describe. -/
structure Describes (fields : List (Wide × Json)) (config : Config) : Prop where
  disabledCodes :
    Says fields "disabled_codes" standard.disabledCodes IsTexts config.disabledCodes
  debounceSeconds :
    Says fields "debounce_seconds" standard.debounceSeconds IsPeriod config.debounceSeconds
  extraFunctionsPath :
    Says fields "extra_functions_path" standard.extraFunctionsPath IsNullableText
      config.extraFunctionsPath
  playgroundUrl :
    Says fields "playground_url" standard.playgroundUrl IsText config.playgroundUrl
  indentSize : Says fields "indent_size" standard.indentSize IsSize config.indentSize

/-- A value that describes no configuration: no object, or one with a field that is spoiled. -/
inductive Unfit : Json → Prop where
  | noObject {value : Json} : (∀ fields, value ≠ .obj fields) → Unfit value
  | disabledCodes {fields : List (Wide × Json)} :
      Spoiled fields "disabled_codes" IsTexts → Unfit (.obj fields)
  | debounceSeconds {fields : List (Wide × Json)} :
      Spoiled fields "debounce_seconds" IsPeriod → Unfit (.obj fields)
  | extraFunctionsPath {fields : List (Wide × Json)} :
      Spoiled fields "extra_functions_path" IsNullableText → Unfit (.obj fields)
  | playgroundUrl {fields : List (Wide × Json)} :
      Spoiled fields "playground_url" IsText → Unfit (.obj fields)
  | indentSize {fields : List (Wide × Json)} :
      Spoiled fields "indent_size" IsSize → Unfit (.obj fields)

/-- The test for a number that is not negative says whether it is at least zero. -/
lemma isNonneg_iff {x : Binary64} : x.isNonneg = true ↔ AtLeastZero x := by
  refine ⟨?_, ?_⟩
  · intro h
    cases x with
    | finite negative ticks =>
      rw [Binary64.isNonneg, Bool.or_eq_true, Bool.not_eq_true', beq_iff_eq] at h
      obtain rfl | rfl := h
      · exact .finite ticks
      · exact .zero negative
    | infinite negative =>
      rw [Binary64.isNonneg, Bool.not_eq_true'] at h
      rw [h]
      exact .infinite
    | nan => cases h
  · intro h
    cases h with
    | zero negative => exact Bool.or_true _
    | finite => rfl
    | infinite => rfl

/-- A period is read from a value exactly if the value counts as it. -/
lemma debounceOfJson?_eq_some_iff {period : Binary64} :
    debounceOfJson? value = some period ↔ IsPeriod value period := by
  rw [debounceOfJson?, Option.filter_eq_some_iff, asNumber?_eq_some_iff, isNonneg_iff]
  exact Iff.rfl

/-- The settings that are read from an object are those that it describes. -/
lemma ofJson?_obj_eq_some_iff : ofJson? (.obj fields) = some config ↔ Describes fields config := by
  unfold ofJson?
  simp only [Option.pure_def, Option.bind_eq_bind, Option.bind_eq_some_iff, Option.some.injEq,
    optional?_eq_some_iff fun _ _ => asListOf?_asWide?_eq_some_iff,
    optional?_eq_some_iff fun _ _ => debounceOfJson?_eq_some_iff,
    optional?_eq_some_iff fun _ _ => asNullable?_asWide?_eq_some_iff,
    optional?_eq_some_iff fun _ _ => asWide?_eq_some_iff,
    optional?_eq_some_iff fun _ _ => indentOfJson?_eq_some_iff]
  refine ⟨?_, ?_⟩
  · rintro ⟨codes, hcodes, seconds, hseconds, extra, hextra, url, hurl, size, hsize, rfl⟩
    exact ⟨hcodes, hseconds, hextra, hurl, hsize⟩
  · rintro ⟨hcodes, hseconds, hextra, hurl, hsize⟩
    exact ⟨_, hcodes, _, hseconds, _, hextra, _, hurl, _, hsize, rfl⟩

/-- An object with a field that does not fit describes no settings. -/
lemma Unfit.not_describes (h : Unfit (.obj fields)) : ¬ Describes fields config := by
  intro hdescribes
  cases h with
  | noObject hne => exact hne fields rfl
  | disabledCodes h => exact h.not_says hdescribes.disabledCodes
  | debounceSeconds h => exact h.not_says hdescribes.debounceSeconds
  | extraFunctionsPath h => exact h.not_says hdescribes.extraFunctionsPath
  | playgroundUrl h => exact h.not_says hdescribes.playgroundUrl
  | indentSize h => exact h.not_says hdescribes.indentSize

/-- An object describes a configuration, or a field of it is spoiled. -/
lemma describes_or_unfit (fields : List (Wide × Json)) :
    (∃ config, Describes fields config) ∨ Unfit (.obj fields) := by
  obtain ⟨codes, hcodes⟩ | h :=
    says_or_spoiled fields "disabled_codes" standard.disabledCodes IsTexts
  · obtain ⟨seconds, hseconds⟩ | h :=
      says_or_spoiled fields "debounce_seconds" standard.debounceSeconds IsPeriod
    · obtain ⟨extra, hextra⟩ | h :=
        says_or_spoiled fields "extra_functions_path" standard.extraFunctionsPath IsNullableText
      · obtain ⟨url, hurl⟩ | h :=
          says_or_spoiled fields "playground_url" standard.playgroundUrl IsText
        · obtain ⟨size, hsize⟩ | h :=
            says_or_spoiled fields "indent_size" standard.indentSize IsSize
          · exact .inl ⟨⟨codes, seconds, extra, url, size⟩, hcodes, hseconds, hextra, hurl, hsize⟩
          · exact .inr (.indentSize h)
        · exact .inr (.playgroundUrl h)
      · exact .inr (.extraFunctionsPath h)
    · exact .inr (.debounceSeconds h)
  · exact .inr (.disabledCodes h)

/-- What a value describes is read, and from nothing else a configuration is. -/
lemma ofJson?_eq_none_iff : ofJson? value = none ↔ Unfit value := by
  by_cases hobj : ∃ fields, value = .obj fields
  · obtain ⟨fields, rfl⟩ := hobj
    refine ⟨?_, ?_⟩
    · intro h
      refine (describes_or_unfit fields).resolve_left ?_
      rintro ⟨config, hdescribes⟩
      rw [ofJson?_obj_eq_some_iff.2 hdescribes] at h
      cases h
    · intro h
      refine Option.eq_none_iff_forall_ne_some.2 fun config hread => ?_
      exact h.not_describes (ofJson?_obj_eq_some_iff.1 hread)
  · refine iff_of_true ?_ (.noObject fun fields hvalue => hobj ⟨fields, hvalue⟩)
    cases value with
    | obj fields => exact absurd ⟨fields, rfl⟩ hobj
    | _ => rfl

/-! Where further functions are. -/

/--
The path to further functions as it is meant in a configuration file: a relative one starts at the
directory of the file, whose own path starts at the working directory if not at the root.
-/
inductive Located (tree : FileTree) (path : Wide) : Option Wide → Option Wide → Prop where
  | none : Located tree path none none
  | empty : Located tree path (some []) (some [])
  | absolute {extra : Wide} : Path.isAbsolute extra = true →
      Located tree path (some extra) (some extra)
  | relative {extra file : Wide} : extra ≠ [] → Path.isAbsolute extra = false →
      file = Path.join tree.currentPath path →
        Located tree path (some extra) (some (Path.rootOf file ++
          Path.ofNames ((Path.steps file).dropLast ++ [extra])))

/-- A path from the root stays as it is. -/
lemma resolvePath_of_absolute {extra : Wide} (h : Path.isAbsolute extra = true) :
    resolvePath tree path extra = extra := by
  rw [resolvePath, Path.join, if_pos h, ite_self]

/-- A relative path starts at the directory of the file. -/
lemma resolvePath_of_relative {extra : Wide} (hne : extra ≠ [])
    (h : Path.isAbsolute extra = false) :
    resolvePath tree path extra = Path.rootOf (Path.join tree.currentPath path) ++
      Path.ofNames ((Path.steps (Path.join tree.currentPath path)).dropLast ++ [extra]) := by
  rw [resolvePath, if_neg, Path.join_parent _ path h]
  rwa [List.isEmpty_iff]

/-- Where further functions are is found as it is meant. -/
lemma located_iff {extra located : Option Wide} :
    Located tree path extra located ↔ extra.map (resolvePath tree path) = located := by
  refine ⟨?_, ?_⟩
  · intro h
    cases h with
    | none => rfl
    | empty => rfl
    | absolute h => rw [Option.map_some, resolvePath_of_absolute h]
    | relative hne h hfile => rw [Option.map_some, resolvePath_of_relative hne h, hfile]
  · rintro rfl
    cases extra with
    | none => exact .none
    | some extra =>
      rw [Option.map_some]
      obtain rfl | hne := eq_or_ne extra []
      · exact .empty
      · cases habsolute : Path.isAbsolute extra with
        | true =>
          rw [resolvePath_of_absolute habsolute]
          exact .absolute habsolute
        | false =>
          rw [resolvePath_of_relative hne habsolute]
          exact .relative hne habsolute rfl

/-! Loading. -/

/-- What is loaded, and what is logged, for each thing that a path can be or lead to. -/
inductive Loads (tree : FileTree) : Option Wide → Logged Config → Prop where
  | absent : Loads tree none ⟨standard, []⟩
  | empty : Loads tree (some []) ⟨standard, []⟩
  | missing {path : Wide} : path ≠ [] → tree.read path = .error .notFound →
      Loads tree (some path) ⟨standard, [.info]⟩
  | unreadable {path : Wide} {error : AccessError} :
      tree.read path = .error error → error ≠ .notFound →
        Loads tree (some path) ⟨standard, [.error]⟩
  | noText {path : Wide} {bytes : List UInt8} :
      tree.read path = .ok bytes → (∀ text, bytes ≠ Utf8.encode text) →
        Loads tree (some path) ⟨standard, [.error]⟩
  | noJson {path : Wide} {text : List Char} :
      tree.read path = .ok (Utf8.encode text) → (∀ value, ¬ StandsFor text value) →
        Loads tree (some path) ⟨standard, [.error]⟩
  | unfit {path : Wide} {text : List Char} {value : Json} :
      tree.read path = .ok (Utf8.encode text) → StandsFor text value → Unfit value →
        Loads tree (some path) ⟨standard, [.error]⟩
  | applied {path : Wide} {text : List Char} {fields : List (Wide × Json)} {config : Config}
      {located : Option Wide} :
      tree.read path = .ok (Utf8.encode text) → StandsFor text (.obj fields) →
      Describes fields config → Located tree path config.extraFunctionsPath located →
        Loads tree (some path) ⟨{ config with extraFunctionsPath := located }, [.info]⟩

/-- What is loaded, and logged, from what is found at a path. -/
def outcome (tree : FileTree) (path : Wide) : JsonFile → Logged Config
  | .missing => ⟨standard, [.info]⟩
  | .unreadable => ⟨standard, [.error]⟩
  | .json value =>
    match ofJson? value with
    | none => ⟨standard, [.error]⟩
    | some config => ⟨config.relativeTo tree path, [.info]⟩

/-- The file that a path names is read, and its outcome decides the settings. -/
lemma load_some (hne : path ≠ []) :
    load tree (some path) = (tree.readJson path).map (outcome tree path) := by
  rw [load]
  case x => exact hne
  cases tree.readJson path with
  | error error => rfl
  | ok file =>
    cases file with
    | missing => rfl
    | unreadable => rfl
    | json value =>
      dsimp only [Except.map, outcome]
      cases ofJson? value <;> rfl

/-! What is found at a path. -/

/-- A file that cannot be read is unreadable, unless it is missing. -/
lemma readJson_of_error {error : AccessError} (hread : tree.read path = .error error)
    (hfree : ∀ error, ¬ Obstacle tree path error) (hfound : error ≠ .notFound) :
    tree.readJson path = .ok .unreadable := by
  have hnull : tree.read path ≠ .error .nullInPath := by
    intro hnull
    obtain ⟨hencodable, hmem⟩ := FileTree.read_eq_nullInPath_iff.1 hnull
    exact hfree _ (.null hencodable hmem)
  have hencodes : ∀ fault, tree.read path ≠ .error (.unencodable fault) :=
    fun fault hfault => hfree _ (.unencodable (FileTree.read_eq_unencodable_iff.1 hfault))
  rw [FileTree.readJson, hread]
  rw [hread] at hnull hencodes
  cases error with
  | unencodable fault => exact absurd rfl (hencodes fault)
  | nullInPath => exact absurd rfl hnull
  | notFound => exact absurd rfl hfound
  | _ => rfl

/-- A file that is not UTF-8 is unreadable. -/
lemma readJson_of_noText {bytes : List UInt8} (hread : tree.read path = .ok bytes)
    (hbytes : ∀ text, bytes ≠ Utf8.encode text) : tree.readJson path = .ok .unreadable := by
  have hnone : Utf8.decode? bytes = none :=
    Option.eq_none_iff_forall_ne_some.2 fun text htext =>
      hbytes text (Utf8.decode?_eq_some_iff.1 htext)
  rw [FileTree.readJson, hread]
  dsimp only
  rw [JsonFile.ofBytes, hnone]

/-- A file that holds the text of a value gives the value. -/
lemma readJson_of_encode (hread : tree.read path = .ok (Utf8.encode text))
    (h : StandsFor text value) : tree.readJson path = .ok (.json value) := by
  rw [FileTree.readJson, hread]
  dsimp only
  rw [JsonFile.ofBytes, Utf8.decode?_eq_some_iff.2 rfl]
  dsimp only
  rw [ofText_eq_ok_iff.2 h]

/-- A text that stands for nothing is no JSON, unless an integer in it stands in the way. -/
lemma readJson_of_noJson (hread : tree.read path = .ok (Utf8.encode text))
    (hvalue : ∀ value, ¬ StandsFor text value) (hfree : ∀ error, ¬ Obstacle tree path error) :
    tree.readJson path = .ok .unreadable := by
  have hdecode : Utf8.decode? (Utf8.encode text) = some text := Utf8.decode?_eq_some_iff.2 rfl
  rw [FileTree.readJson, hread]
  dsimp only
  rw [JsonFile.ofBytes, hdecode]
  dsimp only
  cases htext : ofText text with
  | ok value => exact absurd (ofText_eq_ok_iff.1 htext) (hvalue value)
  | error refusal =>
    cases refusal with
    | malformed => rfl
    | integerTooLong digits => exact absurd (.integer hread hdecode htext) (hfree _)

/-- If nothing stands in the way, what `Loads` says is loaded. -/
lemma Loads.load_eq_ok (h : Loads tree (some path) result)
    (hfree : ∀ error, ¬ Obstacle tree path error) : load tree (some path) = .ok result := by
  have hne : ∀ {bytes : List UInt8}, tree.read path = .ok bytes → path ≠ [] := by
    rintro _ hread rfl
    cases hread
  cases h with
  | empty => rfl
  | missing hname hread =>
    rw [load_some hname, FileTree.readJson, hread]
    rfl
  | @unreadable _ error hread hfound =>
    have hname : path ≠ [] := by
      rintro rfl
      cases hread
      exact hfound rfl
    rw [load_some hname, readJson_of_error hread hfree hfound]
    rfl
  | noText hread hbytes =>
    rw [load_some (hne hread), readJson_of_noText hread hbytes]
    rfl
  | noJson hread hvalue =>
    rw [load_some (hne hread), readJson_of_noJson hread hvalue hfree]
    rfl
  | unfit hread hvalue hunfit =>
    rw [load_some (hne hread), readJson_of_encode hread hvalue, Except.map, outcome,
      ofJson?_eq_none_iff.2 hunfit]
  | applied hread hvalue hdescribes hlocated =>
    rw [load_some (hne hread), readJson_of_encode hread hvalue, Except.map, outcome,
      ofJson?_obj_eq_some_iff.2 hdescribes, ← located_iff.1 hlocated]
    rfl

/-- One of the cases is there. -/
lemma exists_loads (tree : FileTree) (path : Option Wide) :
    ∃ result, Loads tree path result := by
  cases path with
  | none => exact ⟨_, .absent⟩
  | some path =>
    obtain rfl | hne := eq_or_ne path []
    · exact ⟨_, .empty⟩
    · cases hread : tree.read path with
      | error error =>
        obtain rfl | hfound := eq_or_ne error .notFound
        · exact ⟨_, .missing hne hread⟩
        · exact ⟨_, .unreadable hread hfound⟩
      | ok bytes =>
        by_cases htext : ∃ text, bytes = Utf8.encode text
        case neg => exact ⟨_, .noText hread (not_exists.1 htext)⟩
        obtain ⟨text, rfl⟩ := htext
        by_cases hvalue : ∃ value, StandsFor text value
        case neg => exact ⟨_, .noJson hread (not_exists.1 hvalue)⟩
        obtain ⟨value, hvalue⟩ := hvalue
        by_cases hobj : ∃ fields, value = .obj fields
        case neg => exact ⟨_, .unfit hread hvalue (.noObject (not_exists.1 hobj))⟩
        obtain ⟨fields, rfl⟩ := hobj
        obtain ⟨config, hdescribes⟩ | hunfit := describes_or_unfit fields
        · exact ⟨_, .applied hread hvalue hdescribes (located_iff.2 rfl)⟩
        · exact ⟨_, .unfit hread hvalue hunfit⟩

/-! What is loaded is valid. -/

/-- A configuration that the server can work with. -/
structure Valid (config : Config) : Prop where
  indentSize : 1 ≤ config.indentSize ∧ config.indentSize ≤ 8
  debounceSeconds : AtLeastZero config.debounceSeconds
  extraFunctionsPath : ∀ extra, config.extraFunctionsPath = some extra →
    extra = [] ∨ Path.isAbsolute extra = true

/-- A size is between one and eight. -/
lemma IsSize.bounds {size : Int} (h : IsSize value size) : 1 ≤ size ∧ size ≤ 8 := by
  cases h <;> omega

/-- A located path is empty or absolute. -/
lemma Located.absolute_of_ne {extra located : Option Wide} (h : Located tree path extra located) :
    ∀ name, located = some name → name = [] ∨ Path.isAbsolute name = true := by
  rintro name rfl
  cases h with
  | empty => exact .inl rfl
  | absolute h => exact .inr h
  | relative => exact .inr (Path.isAbsolute_root_append (Path.rootOf_eq _) _)

/-- The defaults are valid. -/
lemma valid_standard : Valid standard where
  indentSize := by decide
  debounceSeconds := .finite _
  extraFunctionsPath := nofun

/-- Settings that an object describes are valid once their path is located. -/
lemma Describes.valid {located : Option Wide} (h : Describes fields config)
    (hlocated : Located tree path config.extraFunctionsPath located) :
    Valid { config with extraFunctionsPath := located } where
  indentSize := by
    obtain husual | ⟨value, -, hcounts⟩ := h.indentSize.eq_usual_or
    · exact husual ▸ valid_standard.indentSize
    · exact hcounts.bounds
  debounceSeconds := by
    obtain husual | ⟨value, -, hcounts⟩ := h.debounceSeconds.eq_usual_or
    · exact husual ▸ valid_standard.debounceSeconds
    · exact hcounts.2
  extraFunctionsPath := hlocated.absolute_of_ne

/-- Settings that are loaded are valid. -/
lemma Loads.valid {path : Option Wide} (h : Loads tree path result) : Valid result.value := by
  cases h with
  | applied _ _ hdescribes hlocated => exact hdescribes.valid hlocated
  | _ => exact valid_standard

/--
If nothing stands in the way of reading the file, a configuration is loaded, and it is valid. What
is loaded, and logged, is what `Loads` says and nothing else: either the standard configuration, or
what every field of the file counts as, a field that is absent being as usual.
-/
theorem load_exact (tree : FileTree) (path : Option Wide)
    (hfree : ∀ name error, path = some name → ¬ Obstacle tree name error) :
    ∃ result, load tree path = .ok result ∧ Valid result.value ∧
      ∀ other, Loads tree path other ↔ other = result := by
  have hload : ∀ other, Loads tree path other → load tree path = .ok other := by
    intro other h
    cases path with
    | none =>
      cases h
      rfl
    | some path => exact h.load_eq_ok fun error => hfree path error rfl
  obtain ⟨result, hloads⟩ := exists_loads tree path
  refine ⟨result, hload result hloads, hloads.valid, fun other => ⟨?_, ?_⟩⟩
  · intro hother
    have heq := (hload other hother).symm.trans (hload result hloads)
    rwa [Except.ok.injEq] at heq
  · rintro rfl
    exact hloads

/-- A working directory with a configuration that names functions next to it. -/
def settings : FileTree :=
  ⟨[⟨["d", "c.json"], some (Utf8.encode
      ("\x7b\"x\": \"\\ud800\", \"indent_size\": \" 04.0\", " ++
        "\"extra_functions_path\": \"f.json\"\x7d").toList)⟩], [], ["d"]⟩

/-- The configuration of the working directory is loaded, with half of a surrogate pair in it. -/
theorem load_exact_settings :
    (∀ name error, some (Wide.ofString "./c.json") = some name → ¬ Obstacle settings name error) ∧
      ∃ result, load settings (some "./c.json") = .ok result ∧ Valid result.value ∧
        (∀ other, Loads settings (some "./c.json") other ↔ other = result) ∧
        result = ⟨{ standard with indentSize := 4, extraFunctionsPath := some "/d/f.json" },
          [.info]⟩ := by
  have hload : load settings (some "./c.json") =
      .ok ⟨{ standard with indentSize := 4, extraFunctionsPath := some "/d/f.json" }, [.info]⟩ := by
    decide +kernel
  have hfree : ∀ name error, some (Wide.ofString "./c.json") = some name →
      ¬ Obstacle settings name error := by
    intro name error hname hobstacle
    have herror := load_eq_error_iff.2 ⟨name, hname, hobstacle⟩
    rw [hload] at herror
    cases herror
  obtain ⟨result, hresult, hvalid, hloads⟩ := load_exact settings (some "./c.json") hfree
  refine ⟨hfree, result, hresult, hvalid, hloads, ?_⟩
  rwa [hload, Except.ok.injEq, eq_comm] at hresult

/-! Sizes that are not written as integers are. -/

/-- An integer as it is written elsewhere: digits, with a sign before and zeros after a point. -/
inductive PlainInteger : List Char → Prop where
  | mk {before sign digits fraction after : List Char} {negative : Bool} :
      AllMargin before → IsSign negative sign → digits ≠ [] → AllDigits digits →
      ZeroFraction fraction → AllMargin after →
        PlainInteger (before ++ ((sign ++ (digits ++ fraction)) ++ after))

/-- No underscore stands in a plain integer. -/
lemma PlainInteger.notMem_underscore (h : PlainInteger text) : '_' ∉ text := by
  obtain ⟨hbefore, hsign, -, hdigits, hfraction, hafter⟩ := h
  simp only [List.mem_append, not_or]
  refine ⟨hbefore.notMem_underscore, ⟨?_, ?_, ?_⟩, hafter.notMem_underscore⟩
  · cases hsign <;> decide
  · exact fun h => absurd (hdigits _ h) (by decide)
  · cases hfraction with
    | none => exact List.not_mem_nil
    | zeros _ hzeros =>
      rw [List.mem_cons, not_or]
      exact ⟨by decide, fun h => absurd (hzeros _ h) (by decide)⟩

/-- A tree with a configuration in which an underscore stands in the size of indentation. -/
def underscored : FileTree :=
  ⟨[⟨["c.json"], some (Utf8.encode "\x7b\"indent_size\": \"0_4\"\x7d".toList)⟩], [], []⟩

/--
A size of indentation may be written as an integer is not written elsewhere; and loading fails if an
integer is too long, or if half of a surrogate pair in the path stands for no byte, though neither
path holds the null character.
-/
theorem load_beyond_integers :
    ¬ PlainInteger "0_4".toList ∧
      load underscored (some "/c.json") = .ok ⟨{ standard with indentSize := 4 }, [.info]⟩ ∧
      '\x00' ∉ "/c.json".toList ∧
      load (ones 4301) (some "/c.json") = .error (.integerTooLong 4301) ∧
      load underscored (some (Wide.ofString "/c.json" ++ [.surrogate ⟨0⟩])) =
        .error (.unencodable ⟨7, [⟨0⟩]⟩) := by
  refine ⟨fun h => h.notMem_underscore (by decide), by decide +kernel, by decide, ?_, ?_⟩
  · exact load_eq_error_iff.2 ⟨_, rfl, obstacle_ones (by decide)⟩
  · exact load_eq_error_iff.2 ⟨_, rfl, obstacle_half "/c.json"⟩

end Remap.Config
