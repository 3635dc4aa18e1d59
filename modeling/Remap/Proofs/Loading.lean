import Remap.Proofs.Json.Reader
import Remap.Proofs.Server.Step
import Remap.Proofs.Text.Wide

/-!
# When loading fails

A file that is missing, that cannot be read, or that does not hold what it should is not in the way
of loading: the problem is logged, and the configuration is the standard one, or there are no
further functions. Three things are in the way: a path with half of a surrogate pair that stands for
no byte, a path with the null character, and an integer that has more digits than can be read.
`loading_fails_iff` says that nothing else is, for the two kinds of files and for the start of the
server, which loads both, one named by the other.
-/

namespace Remap

namespace FileTree

variable {tree : FileTree} {path : Wide} {bytes : List UInt8}

/-- What is wrong with the text of a path is found before the path is walked. -/
def InText (error : AccessError) : Prop :=
  error = .nullInPath ∨ ∃ fault, error = .unencodable fault

/-- What can be wrong on the way along a path. -/
inductive OnTheWay : AccessError → Prop where
  | notFound : OnTheWay .notFound
  | notDirectory : OnTheWay .notDirectory
  | nameTooLong : OnTheWay .nameTooLong

/-- What is wrong on the way is not wrong with the text of the path. -/
lemma OnTheWay.not_inText {error : AccessError} (h : OnTheWay error) : ¬ InText error := by
  rintro (rfl | ⟨fault, rfl⟩) <;> cases h

/-- Going to a name finds out only what is wrong on the way. -/
lemma onTheWay_of_enter {place : List FileName} {name : FileName} {error : AccessError}
    (h : tree.enter place name = .error error) : OnTheWay error := by
  rw [enter] at h
  split at h
  case h_1 =>
    cases h
    exact .notFound
  case h_2 =>
    cases h
    exact .notDirectory
  case h_3 =>
    -- the empty name, one point and two points lead on; another name may be wrong in two ways
    split at h
    · cases h
    split at h
    · cases h
    split at h
    · cases h
      exact .nameTooLong
    split at h
    · cases h
      exact .notFound
    · cases h

/-- Walking along names finds out only what is wrong on the way. -/
lemma onTheWay_of_foldlM {names place : List FileName} {error : AccessError}
    (h : names.foldlM tree.enter place = .error error) : OnTheWay error := by
  induction names generalizing place with
  | nil => cases h
  | cons name names ih =>
    rw [List.foldlM_cons] at h
    cases hstep : tree.enter place name with
    | error refusal =>
      rw [hstep] at h
      cases h
      exact onTheWay_of_enter hstep
    | ok next =>
      rw [hstep] at h
      exact ih h

/-- The null byte in a path is found first. -/
lemma resolveBytes_of_zero (h : 0 ∈ bytes) : tree.resolveBytes bytes = .error .nullInPath := by
  rw [resolveBytes, if_pos (List.contains_iff_mem.2 h)]
  rfl

/-- Without the null byte a path is only wrong in what is on the way. -/
lemma onTheWay_of_resolveBytes {error : AccessError} (hzero : 0 ∉ bytes)
    (h : tree.resolveBytes bytes = .error error) : OnTheWay error := by
  rw [resolveBytes, if_neg fun hcontains => hzero (List.contains_iff_mem.1 hcontains)] at h
  dsimp only [pure, bind, Except.pure, Except.bind] at h
  split at h
  case isTrue =>
    cases h
    exact .notFound
  case isFalse =>
    split at h
    case isTrue =>
      cases h
      exact .nameTooLong
    case isFalse =>
      cases hwalk : tree.walk bytes with
      | error refusal =>
        rw [hwalk] at h
        cases h
        exact onTheWay_of_foldlM hwalk
      | ok place =>
        rw [hwalk] at h
        dsimp only at h
        split at h
        case h_1 => cases h
        case h_2 =>
          cases h
          exact .notFound

/-- A path cannot be brought into bytes exactly if it has a fault. -/
lemma resolve_eq_unencodable_iff {fault : Wide.Unencodable} :
    tree.resolve path = .error (.unencodable fault) ↔ Wide.FirstFault path fault := by
  rw [← Wide.encode_eq_error_iff, resolve]
  cases path.encode with
  | error first =>
    dsimp only
    rw [Except.error.injEq, Except.error.injEq, AccessError.unencodable.injEq]
  | ok bytes =>
    refine iff_of_false ?_ nofun
    intro h
    dsimp only at h
    by_cases hzero : 0 ∈ bytes
    · rw [resolveBytes_of_zero hzero] at h
      cases h
    · exact (onTheWay_of_resolveBytes hzero h).not_inText (.inr ⟨fault, rfl⟩)

/-- The null character is found in a path that can be brought into bytes. -/
lemma resolve_eq_nullInPath_iff :
    tree.resolve path = .error .nullInPath ↔ path.Encodable ∧ .char '\x00' ∈ path := by
  rw [resolve]
  cases hencode : path.encode with
  | error first =>
    refine iff_of_false nofun fun h => ?_
    obtain ⟨bytes, hbytes⟩ := h.1.exists_encodes
    rw [Wide.encode_eq_ok_iff.2 hbytes] at hencode
    cases hencode
  | ok bytes =>
    have hencodes := Wide.encode_eq_ok_iff.1 hencode
    rw [and_iff_right hencodes.encodable, ← hencodes.zero_mem_iff]
    refine ⟨fun h => ?_, resolveBytes_of_zero⟩
    by_contra hzero
    exact (onTheWay_of_resolveBytes hzero h).not_inText (.inl rfl)

/-- What is wrong with the text of a path is found when a file is read and when it is looked for. -/
lemma read_eq_error_iff {error : AccessError} (htext : InText error) :
    tree.read path = .error error ↔ tree.resolve path = .error error := by
  rw [read]
  cases tree.resolve path with
  | error refusal =>
    show (Except.error refusal : Except AccessError (List UInt8)) = _ ↔ _
    rw [Except.error.injEq, Except.error.injEq]
  | ok node =>
    refine iff_of_false ?_ nofun
    intro h
    obtain rfl | ⟨fault, rfl⟩ := htext
    · cases node with
      | directory => cases h
      | file bytes => cases bytes <;> cases h
    · cases node with
      | directory => cases h
      | file bytes => cases bytes <;> cases h

/-- Reading stops at a path that cannot be brought into bytes. -/
lemma read_eq_unencodable_iff {fault : Wide.Unencodable} :
    tree.read path = .error (.unencodable fault) ↔ Wide.FirstFault path fault :=
  (read_eq_error_iff (.inr ⟨fault, rfl⟩)).trans resolve_eq_unencodable_iff

/-- Reading stops at a path with the null character. -/
lemma read_eq_nullInPath_iff :
    tree.read path = .error .nullInPath ↔ path.Encodable ∧ .char '\x00' ∈ path :=
  (read_eq_error_iff (.inl rfl)).trans resolve_eq_nullInPath_iff

end FileTree

/-- What stands in the way of reading a JSON file. -/
inductive Obstacle (tree : FileTree) (path : Wide) : LoadError → Prop where
  /-- The path holds half of a surrogate pair that stands for no byte. -/
  | unencodable {fault : Wide.Unencodable} :
    Wide.FirstFault path fault → Obstacle tree path (.unencodable fault)
  /-- The path holds the null character, and it can be brought into bytes. -/
  | null : path.Encodable → .char '\x00' ∈ path → Obstacle tree path .nullInPath
  /-- The reader of JSON comes upon an integer that is too long. -/
  | integer {bytes : List UInt8} {text : List Char} {digits : Nat} :
    tree.read path = .ok bytes → Text.Utf8.decode? bytes = some text →
      Json.ofText text = .error (.integerTooLong digits) →
        Obstacle tree path (.integerTooLong digits)

variable {tree : FileTree} {path : Wide} {error : LoadError}

/-- Reading bytes fails at a number that is too long and at nothing else. -/
lemma ofBytes_eq_error_iff {bytes : List UInt8} :
    JsonFile.ofBytes bytes = .error error ↔
      ∃ text digits, Text.Utf8.decode? bytes = some text ∧
        Json.ofText text = .error (.integerTooLong digits) ∧ error = .integerTooLong digits := by
  rw [JsonFile.ofBytes]
  cases hdecode : Text.Utf8.decode? bytes with
  | none => simp
  | some text =>
    cases htext : Json.ofText text with
    | ok value => simp [htext]
    | error refusal => cases refusal <;> simp [htext, eq_comm]

/-- The reading of a JSON file fails exactly if something stands in its way. -/
lemma readJson_eq_error_iff : tree.readJson path = .error error ↔ Obstacle tree path error := by
  rw [FileTree.readJson]
  refine ⟨?_, ?_⟩
  · intro h
    split at h
    case h_1 fault hread =>
      cases h
      exact .unencodable (FileTree.read_eq_unencodable_iff.1 hread)
    case h_2 hread =>
      cases h
      obtain ⟨hencodable, hnull⟩ := FileTree.read_eq_nullInPath_iff.1 hread
      exact .null hencodable hnull
    case h_3 => cases h
    case h_4 => cases h
    case h_5 bytes hread =>
      obtain ⟨text, digits, hdecode, htext, rfl⟩ := ofBytes_eq_error_iff.1 h
      exact .integer hread hdecode htext
  · intro h
    cases h with
    | unencodable hfault => rw [FileTree.read_eq_unencodable_iff.2 hfault]
    | null hencodable hnull => rw [FileTree.read_eq_nullInPath_iff.2 ⟨hencodable, hnull⟩]
    | integer hread hdecode htext =>
      rw [hread]
      exact ofBytes_eq_error_iff.2 ⟨_, _, hdecode, htext, rfl⟩

/-- Nothing stands in the way of a path that is empty, as nothing is read. -/
lemma not_obstacle_empty : ¬ Obstacle tree [] error := by
  intro h
  rw [← readJson_eq_error_iff] at h
  cases h

/-! Configurations and functions. -/

/-- Settings are not loaded if an obstacle is at the path that is given. -/
lemma Config.load_eq_error_iff {path : Option Wide} :
    Config.load tree path = .error error ↔ ∃ name, path = some name ∧ Obstacle tree name error := by
  unfold Config.load
  split
  case h_1 =>
    refine iff_of_false nofun ?_
    rintro ⟨name, hname, -⟩
    cases hname
  case h_2 =>
    refine iff_of_false nofun ?_
    rintro ⟨name, hname, hobstacle⟩
    cases hname
    exact not_obstacle_empty hobstacle
  case h_3 name hne =>
    simp only [Option.some.injEq, exists_eq_left', ← readJson_eq_error_iff]
    cases tree.readJson name with
    | error refusal => simp
    | ok file =>
      refine iff_of_false ?_ nofun
      cases file with
      | missing => nofun
      | unreadable => nofun
      | json value =>
        dsimp only
        split <;> nofun

/-- Functions are not loaded if an obstacle is at the path. -/
lemma FunctionSpec.load_eq_error_iff :
    FunctionSpec.load tree path = .error error ↔ Obstacle tree path error := by
  rw [FunctionSpec.load, ← readJson_eq_error_iff]
  cases tree.readJson path with
  | error refusal => simp
  | ok file =>
    refine iff_of_false ?_ nofun
    cases file with
    | missing => nofun
    | unreadable => nofun
    | json value =>
      dsimp only
      split <;> nofun

namespace Server

/-- Extra functions are not loaded if an obstacle is at the path in the settings. -/
lemma extraFunctions_eq_error_iff {config : Config} :
    extraFunctions tree config = .error error ↔
      ∃ name, config.extraFunctionsPath = some name ∧ Obstacle tree name error := by
  rw [extraFunctions]
  split
  case h_1 hpath =>
    refine iff_of_false nofun ?_
    rintro ⟨name, hname, -⟩
    rw [hpath] at hname
    cases hname
  case h_2 hpath =>
    refine iff_of_false nofun ?_
    rintro ⟨name, hname, hobstacle⟩
    rw [hpath] at hname
    cases hname
    exact not_obstacle_empty hobstacle
  case h_3 name hne hpath =>
    simp only [hpath, Option.some.injEq, exists_eq_left']
    exact FunctionSpec.load_eq_error_iff

/-- The server with the configuration of a file, if nothing stands in the way of loading it. -/
def configure (s : Server) (tree : FileTree) (path : Option Wide) : Except LoadError Server :=
  match Config.load tree path with
  | .error error => .error error
  | .ok config =>
    match extraFunctions tree config.value with
    | .error error => .error error
    | .ok extra => .ok (s.install config.value extra.value)

/-- A server is not configured if its settings or its functions are not loaded. -/
lemma configure_eq_error_iff {s : Server} {path : Option Wide} :
    s.configure tree path = .error error ↔
      Config.load tree path = .error error ∨
        ∃ config, Config.load tree path = .ok config ∧
          extraFunctions tree config.value = .error error := by
  rw [configure]
  cases Config.load tree path with
  | error refusal => simp
  | ok config =>
    dsimp only
    cases hextra : extraFunctions tree config.value with
    | error refusal => simp [hextra]
    | ok extra => simp [hextra]

end Server

/-- An obstacle can be seen in the path or in the text of the file. -/
lemma Obstacle.visible (h : Obstacle tree path error) :
    (∃ fault, error = .unencodable fault ∧ Wide.FirstFault path fault) ∨
      (error = .nullInPath ∧ .char '\x00' ∈ path) ∨
        ∃ bytes text digits, error = .integerTooLong digits ∧ tree.read path = .ok bytes ∧
          Text.Utf8.decode? bytes = some text ∧ Json.HoldsLong text digits := by
  cases h with
  | unencodable hfault => exact .inl ⟨_, rfl, hfault⟩
  | null _ hnull => exact .inr (.inl ⟨rfl, hnull⟩)
  | integer hread hdecode htext =>
    exact .inr (.inr ⟨_, _, _, rfl, hread, hdecode, Json.holdsLong_of_ofText htext⟩)

/--
Loading a configuration, or functions, fails exactly if something stands in the way of reading the
file, and the start of the server with a configuration exactly if something stands in the way of the
configuration or of the functions that it names. This is half of a surrogate pair in the path that
stands for no byte, a null character in the path, or an integer in the file that has more digits
than can be read.
-/
theorem loading_fails_iff (tree : FileTree) (s : Server) (path : Option Wide) (file : Wide)
    (error : LoadError) :
    (Config.load tree path = .error error ↔ ∃ name, path = some name ∧ Obstacle tree name error) ∧
    (FunctionSpec.load tree file = .error error ↔ Obstacle tree file error) ∧
    (s.configure tree path = .error error ↔
      (∃ name, path = some name ∧ Obstacle tree name error) ∨
        ∃ config name, Config.load tree path = .ok config ∧
          config.value.extraFunctionsPath = some name ∧ Obstacle tree name error) ∧
    (Obstacle tree file error →
      (∃ fault, error = .unencodable fault ∧ Wide.FirstFault file fault) ∨
        (error = .nullInPath ∧ .char '\x00' ∈ file) ∨
          ∃ bytes text digits, error = .integerTooLong digits ∧ tree.read file = .ok bytes ∧
            Text.Utf8.decode? bytes = some text ∧ Json.HoldsLong text digits) := by
  refine ⟨Config.load_eq_error_iff, FunctionSpec.load_eq_error_iff, ?_, Obstacle.visible⟩
  rw [Server.configure_eq_error_iff, Config.load_eq_error_iff]
  simp only [Server.extraFunctions_eq_error_iff, exists_and_left]

/-! Files that cannot be loaded. -/

namespace Text.Utf8

/-- Between two characters a byte below 128 is a character of its own. -/
lemma foldl_step_of_ascii {bytes : List UInt8} (h : ∀ b ∈ bytes, b.toNat ≤ 0x7F)
    (pieces : List (Option Char)) :
    bytes.foldl Decoder.step ⟨.start, pieces⟩ =
      ⟨.start, (bytes.map fun b => some (Char.ofNat b.toNat)).reverse ++ pieces⟩ := by
  induction bytes generalizing pieces with
  | nil => rfl
  | cons b bytes ih =>
    rw [List.forall_mem_cons] at h
    have hstep : Decoder.step ⟨.start, pieces⟩ b =
        ⟨.start, some (Char.ofNat b.toNat) :: pieces⟩ := if_pos h.1
    rw [List.foldl_cons, hstep, ih h.2, List.map_cons, List.reverse_cons, List.append_assoc,
      List.singleton_append]

/-- Bytes below 128 are decoded one by one. -/
lemma decode?_of_ascii {bytes : List UInt8} (h : ∀ b ∈ bytes, b.toNat ≤ 0x7F) :
    decode? bytes = some (bytes.map fun b => Char.ofNat b.toNat) := by
  have hpieces : pieces bytes = bytes.map fun b => some (Char.ofNat b.toNat) := by
    rw [pieces, foldl_step_of_ascii h, Decoder.finish, List.append_nil,
      List.reverse_reverse]
  rw [decode?, hpieces]
  simp [List.all_map, List.filterMap_map, Function.comp_def]

end Text.Utf8

/-- A tree with one file, in which the digit 1 is written so many times. -/
def ones (count : Nat) : FileTree :=
  ⟨[⟨["c.json"], some (List.replicate count 0x31)⟩], [], []⟩

/-- A file with a row of ones that is too long is an obstacle. -/
lemma obstacle_ones {count : Nat} (hlong : maxDigits < count) :
    Obstacle (ones count) "/c.json" (.integerTooLong count) := by
  have hread : (ones count).read "/c.json" = .ok (List.replicate count 0x31) := rfl
  have hdecode : Text.Utf8.decode? (List.replicate count 0x31) =
      some (List.replicate count '1') := by
    rw [Text.Utf8.decode?_of_ascii, List.map_replicate]
    · rfl
    · intro b hb
      rw [List.eq_of_mem_replicate hb]
      decide
  have htext : Json.ofText (List.replicate count '1') = .error (.integerTooLong count) := by
    have hlength : (List.replicate count '1').length = count := List.length_replicate
    rw [Json.ofText_of_digits, hlength]
    · intro c hc
      rw [List.eq_of_mem_replicate hc]
      decide
    · cases count with
      | zero => nofun
      | succ count => simp [List.replicate_succ]
    · rw [hlength]
      exact hlong
  exact .integer hread hdecode htext

/-- One digit too many in a file stands in the way of the configuration and of the start. -/
theorem loading_fails_iff_long_integer :
    Config.load (ones 4301) (some "/c.json") = .error (.integerTooLong 4301) ∧
      FunctionSpec.load (ones 4301) "/c.json" = .error (.integerTooLong 4301) ∧
      Server.start.configure (ones 4301) (some "/c.json") = .error (.integerTooLong 4301) ∧
      ∃ bytes text, (ones 4301).read "/c.json" = .ok bytes ∧
        Text.Utf8.decode? bytes = some text ∧ Json.HoldsLong text 4301 := by
  have hlong : Obstacle (ones 4301) "/c.json" (.integerTooLong 4301) := obstacle_ones (by decide)
  obtain ⟨hconfig, hfunctions, hstart, hvisible⟩ := loading_fails_iff (ones 4301) Server.start
    (some "/c.json") "/c.json" (.integerTooLong 4301)
  refine ⟨hconfig.2 ⟨_, rfl, hlong⟩, hfunctions.2 hlong, hstart.2 (.inl ⟨_, rfl, hlong⟩), ?_⟩
  obtain ⟨fault, herror, -⟩ | ⟨herror, -⟩ | ⟨bytes, text, digits, herror, hread, hdecode, hholds⟩ :=
    hvisible hlong
  · cases herror
  · cases herror
  · cases herror
    exact ⟨bytes, text, hread, hdecode, hholds⟩

/-- A tree with configurations that name files with the null character or with half a pair. -/
def hollow : FileTree :=
  ⟨[⟨["c.json"], some (Text.Utf8.encode
      "\x7b\"extra_functions_path\": \"a\\u0000b\"\x7d".toList)⟩,
    ⟨["d.json"], some (Text.Utf8.encode
      "\x7b\"extra_functions_path\": \"a\\ud800\"\x7d".toList)⟩], [], []⟩

/-- A configuration that names a file with the null character is loaded. -/
lemma load_hollow : Config.load hollow (some "/c.json") =
    .ok ⟨{ Config.standard with extraFunctionsPath := some "/a\x00b" }, [.info]⟩ := by
  decide +kernel

/-- A configuration that names a file with half of a surrogate pair is loaded. -/
lemma load_hollow_half : Config.load hollow (some "/d.json") =
    .ok ⟨{ Config.standard with
      extraFunctionsPath := some [.char '/', .char 'a', .surrogate ⟨0⟩] }, [.info]⟩ := by
  decide +kernel

/-- The null character stands in the way of any file. -/
lemma obstacle_null {tree : FileTree} {path : String} (h : '\x00' ∈ path.toList) :
    Obstacle tree path .nullInPath := by
  refine .null ?_ (List.mem_map_of_mem h)
  intro s hs
  obtain ⟨c, -, hc⟩ := List.mem_map.1 hs
  cases hc

/-- Half of a pair at the end of a path that stands for no byte is in the way of any file. -/
lemma obstacle_half {tree : FileTree} (path : String) :
    Obstacle tree (Wide.ofString path ++ [.surrogate ⟨0⟩])
      (.unencodable ⟨path.toList.length, [⟨0⟩]⟩) := by
  refine .unencodable ?_
  have hbefore : Wide.Encodable (Wide.ofString path) := by
    intro s hs
    obtain ⟨c, -, hc⟩ := List.mem_map.1 hs
    cases hc
  have hlength : (Wide.ofString path).length = path.toList.length := List.length_map _
  rw [← hlength]
  exact @Wide.FirstFault.mk (Wide.ofString path) [] ⟨0⟩ [] hbefore (by decide) (by simp)

/--
The server does not start with a configuration that names a file with the null character, or with
half of a surrogate pair, though the configuration itself is loaded; and neither a path with one of
these nor a file with an integer of 4301 digits can be loaded.
-/
theorem loading_can_fail :
    (∃ config, Config.load hollow (some "/c.json") = .ok config) ∧
      Server.start.configure hollow (some "/c.json") = .error .nullInPath ∧
      Config.load hollow (some "a\x00b") = .error .nullInPath ∧
      FunctionSpec.load hollow "a\x00b" = .error .nullInPath ∧
      Server.start.configure hollow (some "/d.json") = .error (.unencodable ⟨2, [⟨0⟩]⟩) ∧
      Config.load (ones 4301) (some "/c.json") = .error (.integerTooLong 4301) := by
  refine ⟨⟨_, load_hollow⟩, ?_, ?_, ?_, ?_, ?_⟩
  · refine Server.configure_eq_error_iff.2 (.inr ⟨_, load_hollow, ?_⟩)
    exact Server.extraFunctions_eq_error_iff.2 ⟨_, rfl, obstacle_null (by decide)⟩
  · exact Config.load_eq_error_iff.2 ⟨_, rfl, obstacle_null (by decide)⟩
  · exact FunctionSpec.load_eq_error_iff.2 (obstacle_null (by decide))
  · refine Server.configure_eq_error_iff.2 (.inr ⟨_, load_hollow_half, ?_⟩)
    exact Server.extraFunctions_eq_error_iff.2 ⟨_, rfl, obstacle_half "/a"⟩
  · exact Config.load_eq_error_iff.2 ⟨_, rfl, obstacle_ones (by decide)⟩

end Remap
