import Mathlib.Data.List.Infix
import Remap.Proofs.Text.Utf8
import Remap.Text.Wide

/-!
# What wide texts stand for

A pair of halves that follow each other is one character, and a half that is not in a pair stays
what it is: `Joined` says so without a word about where the joining starts, and `joinPairs_iff` that
this is what the joining gives. A path is brought into bytes unless half of a pair in it stands for
no byte: `encode_eq_ok_iff` and `encode_eq_error_iff` say which bytes these are, and which halves
are named if there are none. Every byte sequence is that of a path (`encode_decode`).
-/

namespace Remap

namespace Surrogate

/-- The half of a pair stands for a byte in a path. -/
def IsByte (s : Surrogate) : Prop :=
  0xDC80 ≤ s.code ∧ s.code ≤ 0xDCFF

instance (s : Surrogate) : Decidable s.IsByte :=
  inferInstanceAs (Decidable (_ ∧ _))

/-- A half has a byte if it stands for one. -/
lemma byte?_eq_some_iff {s : Surrogate} {byte : UInt8} :
    s.byte? = some byte ↔ s.IsByte ∧ byte = UInt8.ofNat (s.code - 0xDC00) := by
  rw [byte?, Option.ite_none_right_eq_some, Option.some.injEq, @eq_comm _ byte]
  exact Iff.rfl

/-- A half has no byte if it stands for none. -/
lemma byte?_eq_none_iff {s : Surrogate} : s.byte? = none ↔ ¬ s.IsByte := by
  rw [byte?]
  split
  case isTrue h => exact iff_of_false nofun (not_not_intro h)
  case isFalse h => exact iff_of_true rfl h

end Surrogate

namespace Wide

variable {wide rest path : Wide} {bytes : List UInt8} {fault : Unencodable}

/-! Texts without halves of pairs. -/

/-- All code points are characters exactly if they are those of a text. -/
lemma mapM_char?_eq_some_iff {chars : List Char} :
    wide.mapM CodePoint.char? = some chars ↔ wide = chars.map .char := by
  induction wide generalizing chars with
  | nil => cases chars <;> simp
  | cons point rest ih =>
    simp only [List.mapM_cons, Option.bind_eq_bind, Option.bind_eq_some_iff, ih, Option.pure_def,
      Option.some.injEq]
    cases point with
    | char c => cases chars <;> simp [CodePoint.char?, and_comm]
    | surrogate s => cases chars <;> simp [CodePoint.char?]

/-- A wide text without halves of pairs is that of a text. -/
lemma text?_eq_some_iff {text : String} : wide.text? = some text ↔ wide = ofString text := by
  rw [text?, Option.map_eq_some_iff]
  simp only [mapM_char?_eq_some_iff]
  refine ⟨?_, ?_⟩
  · rintro ⟨chars, rfl, rfl⟩
    rw [ofString, String.toList_ofList]
  · rintro rfl
    exact ⟨text.toList, rfl, String.ofList_toList⟩

/-- A text is the text of its wide form. -/
@[simp] lemma text?_ofString (text : String) : (ofString text).text? = some text :=
  text?_eq_some_iff.2 rfl

/-! Pairs. -/

/-- The code points of a string, and what it is when the pairs in it are joined. -/
inductive Joined : Wide → Wide → Prop where
  | nil : Joined [] []
  | char (c : Char) {points joined : Wide} :
      Joined points joined → Joined (.char c :: points) (.char c :: joined)
  | pair {high low : Surrogate} {points joined : Wide} :
      high.isHigh = true → low.isHigh = false → Joined points joined →
        Joined (.surrogate high :: .surrogate low :: points) (.char (high.pairChar low) :: joined)
  | alone (s : Surrogate) {points joined : Wide} :
      (∀ low, points.head? = some (.surrogate low) → s.isHigh = true → low.isHigh = true) →
        Joined points joined → Joined (.surrogate s :: points) (.surrogate s :: joined)

/-- What joining the pairs gives is the string with its pairs joined. -/
lemma joined_joinPairs (wide : Wide) : Joined wide wide.joinPairs := by
  fun_induction joinPairs wide with
  | case1 high low rest hpair ih =>
    rw [Bool.and_eq_true, Bool.not_eq_true'] at hpair
    exact .pair hpair.1 hpair.2 ih
  | case2 high low rest hpair ih =>
    refine .alone high ?_ ih
    rintro _ ⟨⟩ hhigh
    simpa [hhigh] using hpair
  | case3 point rest hne ih =>
    cases point with
    | char c => exact .char c ih
    | surrogate s =>
      refine .alone s ?_ ih
      intro low hlow
      obtain ⟨more, rfl⟩ := List.head?_eq_some_iff.1 hlow
      exact absurd rfl (hne s low more rfl)
  | case4 => exact .nil

/-- The pairs of a string can be joined in one way only. -/
lemma joinPairs_iff {joined : Wide} : Joined wide joined ↔ wide.joinPairs = joined := by
  refine ⟨?_, fun h => h ▸ joined_joinPairs wide⟩
  intro h
  induction h with
  | nil => rfl
  | char c _ ih => rw [joinPairs, ih]; exact nofun
  | pair hhigh hlow _ ih => rw [joinPairs, hhigh, hlow, ih]; rfl
  | @alone s points joined hnext _ ih =>
    cases points with
    | nil => rw [← ih]; rfl
    | cons point points =>
      cases point with
      | char c => rw [joinPairs, ih]; exact nofun
      | surrogate low =>
        rw [joinPairs, if_neg, ih]
        simpa using hnext low rfl

/-! Paths as bytes. -/

/-- Every half of a pair in the path stands for a byte. -/
def Encodable (path : Wide) : Prop :=
  ∀ s, CodePoint.surrogate s ∈ path → s.IsByte

/-- The bytes of a path: those of each character, and the byte that a half of a pair stands for. -/
inductive Encodes : Wide → List UInt8 → Prop where
  | nil : Encodes [] []
  | char (c : Char) {path : Wide} {bytes : List UInt8} :
      Encodes path bytes → Encodes (.char c :: path) (String.utf8EncodeChar c ++ bytes)
  | byte {s : Surrogate} {path : Wide} {bytes : List UInt8} :
      s.IsByte → Encodes path bytes →
        Encodes (.surrogate s :: path) (UInt8.ofNat (s.code - 0xDC00) :: bytes)

/--
The first half of a pair in the path that stands for no byte, by where it is, with all halves that
directly follow it.
-/
inductive FirstFault : Wide → Unencodable → Prop where
  | mk {before after : Wide} {s : Surrogate} {more : List Surrogate} :
      Encodable before → ¬ s.IsByte →
      (∀ t, after.head? ≠ some (.surrogate t)) →
        FirstFault (before ++ ((s :: more).map .surrogate ++ after)) ⟨before.length, s :: more⟩

/-- A path is encodable from its first code point on. -/
lemma encodable_cons {point : CodePoint} : Encodable (point :: path) ↔
    (∀ s, point = .surrogate s → s.IsByte) ∧ Encodable path := by
  refine ⟨fun h => ⟨?_, ?_⟩, fun h s hs => ?_⟩
  · rintro s rfl
    exact h s List.mem_cons_self
  · exact fun s hs => h s (List.mem_cons_of_mem point hs)
  · obtain rfl | hs := List.mem_cons.1 hs
    · exact h.1 s rfl
    · exact h.2 s hs

/-- Nothing stands in the way of the encoding of an empty path. -/
lemma encodable_nil : Encodable [] :=
  fun _ h => absurd h List.not_mem_nil

/-- The bytes of a path are what it is encoded as. -/
lemma Encodes.encodeFrom (h : Encodes path bytes) (position : Nat) :
    encodeFrom position path = .ok bytes := by
  induction h generalizing position with
  | nil => rfl
  | char c _ ih =>
    rw [Wide.encodeFrom, ih]
    rfl
  | byte hs _ ih =>
    rw [Wide.encodeFrom, Surrogate.byte?_eq_some_iff.2 ⟨hs, rfl⟩]
    dsimp only
    rw [ih]
    rfl

/-- A path with bytes is encodable. -/
lemma Encodes.encodable (h : Encodes path bytes) : Encodable path := by
  induction h with
  | nil => exact encodable_nil
  | char c _ ih => exact encodable_cons.2 ⟨nofun, ih⟩
  | byte hs _ ih =>
    refine encodable_cons.2 ⟨?_, ih⟩
    rintro _ ⟨⟩
    exact hs

/-- An encodable path has bytes. -/
lemma Encodable.exists_encodes (h : Encodable path) : ∃ bytes, Encodes path bytes := by
  induction path with
  | nil => exact ⟨[], .nil⟩
  | cons point path ih =>
    rw [encodable_cons] at h
    obtain ⟨bytes, hbytes⟩ := ih h.2
    cases point with
    | char c => exact ⟨_, .char c hbytes⟩
    | surrogate s => exact ⟨_, .byte (h.1 s rfl) hbytes⟩

/-- No byte after the first one of a character is null. -/
lemma zero_notMem_trail (owed v : Nat) : 0 ∉ Text.Utf8.trail owed v := by
  induction owed with
  | zero => exact List.not_mem_nil
  | succ owed ih =>
    have hrange := Text.Utf8.mem_range_trailByte owed v
    have hlt : Text.Utf8.trailByte owed v < 256 := by omega
    rw [Text.Utf8.trail, List.mem_cons, not_or]
    refine ⟨?_, ih⟩
    intro h
    have hzero : 0 = (UInt8.ofNat (Text.Utf8.trailByte owed v)).toNat := congrArg UInt8.toNat h
    rw [UInt8.toNat_ofNat_of_lt' hlt] at hzero
    omega

/-- Only the null character has the null byte among its bytes. -/
lemma zero_mem_utf8EncodeChar_iff {c : Char} : 0 ∈ String.utf8EncodeChar c ↔ c = '\x00' := by
  refine ⟨?_, ?_⟩
  · intro h
    rw [Text.Utf8.utf8EncodeChar_eq, List.mem_cons] at h
    have hfirst := congrArg UInt8.toNat (h.resolve_right (zero_notMem_trail _ _)).symm
    rw [UInt8.toNat_ofNat_of_lt' (Text.Utf8.lead_lt (Text.Utf8.valid_toNat c))] at hfirst
    have hlead : Text.Utf8.lead c.toNat = 0 := hfirst
    have hc : c.toNat = 0 := by
      unfold Text.Utf8.lead at hlead
      split_ifs at hlead
      all_goals omega
    exact Char.toNat_inj.1 hc
  · rintro rfl
    decide

/-- The null byte is among the bytes of a path if the null character is in it. -/
lemma Encodes.zero_mem_iff (h : Encodes path bytes) : 0 ∈ bytes ↔ .char '\x00' ∈ path := by
  induction h with
  | nil => exact iff_of_false List.not_mem_nil List.not_mem_nil
  | char c _ ih =>
    rw [List.mem_append, zero_mem_utf8EncodeChar_iff, ih, List.mem_cons, CodePoint.char.injEq,
      eq_comm]
  | @byte s path bytes hs _ ih =>
    have hzero : 0 ≠ UInt8.ofNat (s.code - 0xDC00) := by
      intro h
      have hbyte : 0 = (UInt8.ofNat (s.code - 0xDC00)).toNat := congrArg UInt8.toNat h
      obtain ⟨hlow, hhigh⟩ := hs
      have hlt : s.code - 0xDC00 < 256 := by omega
      rw [UInt8.toNat_ofNat_of_lt' hlt] at hbyte
      omega
    rw [List.mem_cons, or_iff_right hzero, ih, List.mem_cons, or_iff_right nofun]

/-! Paths without bytes. -/

/-- The halves at the start of a text, up to a code point that is none. -/
lemma exists_after_surrogates (path : Wide) :
    ∃ after : Wide, path = path.surrogates.map .surrogate ++ after ∧
      ∀ t, after.head? ≠ some (.surrogate t) := by
  fun_induction surrogates path with
  | case1 s rest ih =>
    obtain ⟨after, hrest, hafter⟩ := ih
    exact ⟨after, congrArg (.surrogate s :: ·) hrest, hafter⟩
  | case2 path hne =>
    refine ⟨path, rfl, ?_⟩
    intro t ht
    obtain ⟨more, rfl⟩ := List.head?_eq_some_iff.1 ht
    exact hne t more rfl

/-- All halves before a code point that is none are found. -/
lemma surrogates_append {after : Wide} (hafter : ∀ t, after.head? ≠ some (.surrogate t))
    (run : List Surrogate) : surrogates (run.map .surrogate ++ after) = run := by
  induction run with
  | nil =>
    cases after with
    | nil => rfl
    | cons point after =>
      cases point with
      | char c => rfl
      | surrogate t => exact absurd rfl (hafter t)
  | cons s run ih => rw [List.map_cons, List.cons_append, surrogates, ih]

/-- The encoding stops at the first fault of a path. -/
lemma FirstFault.encodeFrom (h : FirstFault path fault) (position : Nat) :
    encodeFrom position path = .error ⟨position + fault.position, fault.run⟩ := by
  obtain @⟨before, after, s, more, hbefore, hs, hafter⟩ := h
  induction before generalizing position with
  | nil =>
    rw [List.nil_append, List.map_cons, List.cons_append, Wide.encodeFrom,
      Surrogate.byte?_eq_none_iff.2 hs, surrogates_append hafter]
    rfl
  | cons point before ih =>
    rw [encodable_cons] at hbefore
    have hrest := ih (position + 1) hbefore.2
    rw [List.length_cons, Nat.add_comm _ 1, ← Nat.add_assoc]
    cases point with
    | char c =>
      rw [List.cons_append, Wide.encodeFrom, hrest]
      rfl
    | surrogate t =>
      rw [List.cons_append, Wide.encodeFrom, Surrogate.byte?_eq_some_iff.2 ⟨hbefore.1 t rfl, rfl⟩]
      dsimp only
      rw [hrest]
      rfl

/-- The first fault of a path is also the first one behind what can be encoded. -/
lemma FirstFault.cons {point : CodePoint} (h : FirstFault path fault)
    (hpoint : ∀ s, point = .surrogate s → s.IsByte) :
    FirstFault (point :: path) ⟨fault.position + 1, fault.run⟩ := by
  obtain ⟨hbefore, hs, hafter⟩ := h
  exact .mk (encodable_cons.2 ⟨hpoint, hbefore⟩) hs hafter

/-- A path has bytes, or a first fault. -/
lemma encodable_or_firstFault (path : Wide) : Encodable path ∨ ∃ fault, FirstFault path fault := by
  induction path with
  | nil => exact .inl encodable_nil
  | cons point path ih =>
    by_cases hpoint : ∀ s, point = .surrogate s → s.IsByte
    case pos =>
      obtain h | ⟨fault, hfault⟩ := ih
      · exact .inl (encodable_cons.2 ⟨hpoint, h⟩)
      · exact .inr ⟨_, hfault.cons hpoint⟩
    case neg =>
      simp only [not_forall] at hpoint
      obtain ⟨s, rfl, hs⟩ := hpoint
      obtain ⟨after, hpath, hafter⟩ := exists_after_surrogates path
      rw [hpath]
      exact .inr ⟨_, .mk encodable_nil hs hafter⟩

/-- A path is encoded as its bytes and as nothing else. -/
lemma encode_eq_ok_iff : path.encode = .ok bytes ↔ Encodes path bytes := by
  refine ⟨?_, fun h => h.encodeFrom 0⟩
  intro h
  obtain hencodable | ⟨fault, hfault⟩ := encodable_or_firstFault path
  · obtain ⟨found, hfound⟩ := hencodable.exists_encodes
    rw [encode, hfound.encodeFrom 0, Except.ok.injEq] at h
    exact h ▸ hfound
  · rw [encode, hfault.encodeFrom 0] at h
    cases h

/-- A path is not encoded exactly if it has a fault, and the first one is named. -/
lemma encode_eq_error_iff : path.encode = .error fault ↔ FirstFault path fault := by
  have hfirst : ∀ {first : Unencodable}, FirstFault path first →
      path.encode = .error first := by
    intro first h
    rw [encode, h.encodeFrom 0, Nat.zero_add]
  refine ⟨?_, hfirst⟩
  intro h
  obtain hencodable | ⟨first, hfault⟩ := encodable_or_firstFault path
  · obtain ⟨found, hfound⟩ := hencodable.exists_encodes
    rw [encode_eq_ok_iff.2 hfound] at h
    cases h
  · rw [hfirst hfault, Except.error.injEq] at h
    exact h ▸ hfault

/-! Bytes as paths. -/

/-- The character that stands first in some bytes is where they begin. -/
lemma prefix_of_firstChar? {c : Char} (h : firstChar? bytes = some c) :
    String.utf8EncodeChar c <+: bytes := by
  obtain ⟨count, -, hcount⟩ := List.exists_of_findSome?_eq_some h
  split at hcount
  case h_1 d hdecode =>
    cases hcount
    have htake := Text.Utf8.decode?_eq_some_iff.1 hdecode
    rw [Text.Utf8.encode, List.flatMap_singleton] at htake
    exact htake ▸ List.take_prefix count bytes
  case h_2 => cases hcount

/-- Where no character stands first, the first byte is one from 128 on. -/
lemma le_of_firstChar?_eq_none {byte : UInt8} {rest : List UInt8}
    (h : firstChar? (byte :: rest) = none) : 0x80 ≤ byte.toNat := by
  by_contra hlow
  have hascii := @Text.Utf8.utf8EncodeChar_ascii byte (by omega)
  have hdecode : Text.Utf8.decode? ((byte :: rest).take 1) = some [Char.ofNat byte.toNat] := by
    rw [Text.Utf8.decode?_eq_some_iff, Text.Utf8.encode, List.flatMap_singleton, hascii]
    rfl
  have hnone := List.findSome?_eq_none_iff.1 h 1 List.mem_cons_self
  rw [hdecode] at hnone
  cases hnone

/-- The half that stands for a byte from 128 on. -/
lemma isByte_ofByte {byte : UInt8} (h : 0x80 ≤ byte.toNat) :
    (Surrogate.ofByte byte).IsByte ∧
      UInt8.ofNat ((Surrogate.ofByte byte).code - 0xDC00) = byte := by
  have hlt := byte.toNat_lt
  have hcode : (Surrogate.ofByte byte).code = 0xDC00 + byte.toNat := by
    show 0xD800 + (0x400 + byte.toNat) = 0xDC00 + byte.toNat
    omega
  refine ⟨?_, ?_⟩
  · unfold Surrogate.IsByte
    omega
  · rw [hcode, Nat.add_sub_cancel_left, UInt8.ofNat_toNat]

/-- The path with some bytes has these bytes. -/
lemma encodes_decodeAfter (skipped : Nat) (bytes : List UInt8) :
    Encodes (decodeAfter skipped bytes) (bytes.drop skipped) := by
  fun_induction decodeAfter skipped bytes with
  | case1 =>
    rw [List.drop_nil]
    exact .nil
  | case2 skipped byte rest ih => exact ih
  | case3 byte rest c hc ih =>
    obtain ⟨more, hmore⟩ := prefix_of_firstChar? hc
    -- of the bytes of the character one has been taken off, and the others are skipped
    have hlength : c.utf8Size = (String.utf8EncodeChar c).length := by simp
    have hrest : rest.drop (c.utf8Size - 1) = more := by
      have hdrop : (byte :: rest).drop c.utf8Size = more := by
        rw [← hmore, hlength, List.drop_left]
      rw [← hdrop]
      obtain ⟨n, hn⟩ := Nat.exists_eq_succ_of_ne_zero c.utf8Size_pos.ne'
      rw [hn]
      rfl
    rw [List.drop_zero, ← hmore, ← hrest]
    exact .char c ih
  | case4 byte rest hnone ih =>
    obtain ⟨hbyte, hvalue⟩ := isByte_ofByte (le_of_firstChar?_eq_none hnone)
    have hencodes := Encodes.byte hbyte ih
    rwa [hvalue] at hencodes

/-- Every byte sequence is that of a path. -/
theorem encode_decode (bytes : List UInt8) : (decode bytes).encode = .ok bytes :=
  encode_eq_ok_iff.2 (encodes_decodeAfter 0 bytes)

-- a byte that begins a character which does not follow, and a character of two bytes
example : decode [0xC3, 0x2F, 0xC3, 0xA9] =
    [.surrogate (.ofByte 0xC3), .char '/', .char 'é'] := by decide

end Wide

end Remap
