import Toolsmith.Schema.Document
import Toolsmith.Proofs.Json.Reader
import Toolsmith.Proofs.Stepwise
import Toolsmith.Proofs.Text.Utf8
/-!
# What comes of a schema document

A schema that is read is complete: it has a name, a description, and of each flag a name and a
type.  What is wrong with a document is a failure of the framework's own kind, but four accidents
are not caught (`Upset`): a null character in the path, bytes that spell no text, a numeral that is
too long, and a value that nests too deep.  They are the only ones, and each of them is what comes
of the document (`load_eq_accident_iff`).
-/

namespace Toolsmith

/-! ## 1. Files -/

theorem Files.locate_eq_error {files : Files} {path : String} {fault : Files.Fault}
    (h : files.locate path = .error fault) :
    (∃ reason, fault = .refused reason path) ∨
      fault = .nullCharacter ∧ '\x00' ∈ path.toList := by
  unfold Files.locate at h
  split at h
  · next null =>
    cases h
    exact .inr ⟨rfl, by simpa using null⟩
  · split at h
    · cases h
      exact .inl ⟨_, rfl⟩
    · split at h
      · cases h
        exact .inl ⟨_, rfl⟩
      · dsimp only at h
        split at h
        · cases h
        · cases h
          exact .inl ⟨_, rfl⟩

theorem Files.read_eq_error {files : Files} {path : Path} {fault : Files.Fault}
    (h : files.read path = .error fault) :
    (∃ reason, fault = .refused reason path.text) ∨
      fault = .nullCharacter ∧ '\x00' ∈ path.text.toList := by
  unfold Files.read at h
  cases found : files.locate path.text with
  | error first =>
    rw [found] at h
    cases h
    exact Files.locate_eq_error found
  | ok place =>
    rw [found] at h
    match place, h with
    | (_, some (.directory _)), h =>
      cases h
      exact .inl ⟨_, rfl⟩
    | (_, none), h =>
      cases h
      exact .inl ⟨_, rfl⟩

theorem Files.read_of_null {files : Files} {path : Path} (null : '\x00' ∈ path.text.toList) :
    files.read path = .error .nullCharacter := by
  have found : files.locate path.text = .error .nullCharacter :=
    if_pos (by simpa using null)
  unfold Files.read
  rw [found]
  rfl

namespace Schema

/-! ## 2. Complete schemas -/

/-- A schema has a name, a description, and of each flag a name and a type. -/
structure Complete (schema : Schema) : Prop where
  name : schema.name ≠ ""
  description : schema.description ≠ ""
  args : ∀ arg ∈ schema.args, arg.name ≠ "" ∧ arg.type ≠ ""

theorem named_of_argOfJson {index : Nat} {item : Json} {arg : Arg}
    (h : argOfJson index item = .ok arg) : arg.name ≠ "" ∧ arg.type ≠ "" := by
  unfold argOfJson at h
  split at h
  · dsimp only at h
    split_ifs at h with unnamed
    · obtain rfl := Except.ok.inj h
      exact ⟨unnamed, by simp⟩
    · obtain rfl := Except.ok.inj h
      exact ⟨unnamed, by assumption⟩
  · cases h

theorem named_of_argsOfJson {items : List Json} {index : Nat} {args : List Arg}
    (h : argsOfJson index items = .ok args) : ∀ arg ∈ args, arg.name ≠ "" ∧ arg.type ≠ "" := by
  induction items generalizing index args with
  | nil =>
    cases h
    simp
  | cons item items ih =>
    obtain ⟨first, read, h⟩ := bind_eq_ok_iff.mp h
    obtain ⟨others, readOthers, h⟩ := bind_eq_ok_iff.mp h
    cases h
    intro arg harg
    rcases List.mem_cons.mp harg with rfl | harg
    · exact named_of_argOfJson read
    · exact ih readOthers arg harg

theorem lone_of_ofJson {document : Json} {source : Option Path} {lone : Text.StandIns}
    {schema : Schema} (h : ofJson document source lone = .ok schema) : schema.lone = lone := by
  unfold ofJson at h
  split at h
  · obtain ⟨-, h⟩ := refusal_eq_ok_iff.mp h
    obtain ⟨-, h⟩ := refusal_eq_ok_iff.mp h
    dsimp only at h
    split at h
    · cases h
      rfl
    · cases h
      rfl
    · obtain ⟨args, -, h⟩ := bind_eq_ok_iff.mp h
      cases h
      rfl
    · cases h
  · cases h

theorem complete_of_ofJson {document : Json} {source : Option Path} {lone : Text.StandIns}
    {schema : Schema} (h : ofJson document source lone = .ok schema) : schema.Complete := by
  unfold ofJson at h
  split at h
  · obtain ⟨named, h⟩ := refusal_eq_ok_iff.mp h
    obtain ⟨described, h⟩ := refusal_eq_ok_iff.mp h
    dsimp only at h
    split at h
    · obtain rfl := Except.ok.inj h
      exact ⟨named, described, fun arg harg => absurd harg List.not_mem_nil⟩
    · obtain rfl := Except.ok.inj h
      exact ⟨named, described, fun arg harg => absurd harg List.not_mem_nil⟩
    · obtain ⟨args, read, h⟩ := bind_eq_ok_iff.mp h
      obtain rfl := Except.ok.inj h
      exact ⟨named, described, named_of_argsOfJson read⟩
    · cases h
  · cases h

theorem lone_of_load {files : Files} {path : Path} {lone : Text.StandIns} {schema : Schema}
    (h : load files path lone = .ok schema) : schema.lone = lone := by
  unfold load at h
  split at h
  · unfold ofBytes at h
    dsimp only at h
    split at h
    · cases h
    · split at h
      · cases h
      · cases h
      · cases h
      · split at h
        · next denoted =>
          cases h
          exact lone_of_ofJson denoted
        · cases h
  · cases h
  · cases h

/-! ## 3. Accidents -/

/-- What befalls the reading of a schema and is not reported as a failure of the schema: the path
holds a null character, or the file holds bytes that spell no text, or a text with a numeral that
is too long or a value that nests too deep. -/
inductive Upset (files : Files) (path : Path) (lone : Text.StandIns) : Accident → Prop
  | null (h : '\x00' ∈ path.text.toList) : Upset files path lone (.files .nullCharacter)
  | encoding {bytes fault} (read : files.read path = .ok bytes)
    (undecoded : Text.Utf8.decode bytes = .error fault) :
    Upset files path lone (.encoding fault)
  | numeral {bytes cs fault} (read : files.read path = .ok bytes)
    (decoded : Text.Utf8.decode bytes = .ok cs)
    (fails : Json.read (Text.unifyNewlines cs) lone = .error (.numeral fault)) :
    Upset files path lone (.numeral fault)
  | nesting {bytes cs isArray} (read : files.read path = .ok bytes)
    (decoded : Text.Utf8.decode bytes = .ok cs)
    (fails : Json.read (Text.unifyNewlines cs) lone = .error (.tooDeep isArray)) :
    Upset files path lone (.nesting isArray)

variable {files : Files} {path : Path} {lone : Text.StandIns}

theorem load_of_upset {accident : Accident} (h : Upset files path lone accident) :
    load files path lone = .error (.accident accident) := by
  cases h with
  | null null =>
    unfold load
    rw [Files.read_of_null null]
  | encoding read undecoded =>
    unfold load ofBytes
    rw [read]
    dsimp only
    rw [undecoded]
  | numeral read decoded fails =>
    unfold load ofBytes
    rw [read]
    dsimp only
    rw [decoded]
    dsimp only
    rw [fails]
  | nesting read decoded fails =>
    unfold load ofBytes
    rw [read]
    dsimp only
    rw [decoded]
    dsimp only
    rw [fails]

theorem Upset.null_or_read {accident : Accident} (h : Upset files path lone accident) :
    '\x00' ∈ path.text.toList ∨ ∃ bytes, files.read path = .ok bytes := by
  cases h with
  | null null => exact .inl null
  | encoding read => exact .inr ⟨_, read⟩
  | numeral read => exact .inr ⟨_, read⟩
  | nesting read => exact .inr ⟨_, read⟩

theorem settled_or_upset (files : Files) (path : Path) (lone : Text.StandIns) :
    Settled Complete (load files path lone) ∨ ∃ accident, Upset files path lone accident := by
  unfold load
  split
  · next bytes read =>
    unfold ofBytes
    dsimp only
    split
    · next fault undecoded => exact .inr ⟨_, .encoding read undecoded⟩
    · next cs decoded =>
      split
      · exact .inl ⟨_, rfl⟩
      · next fails => exact .inr ⟨_, .numeral read decoded fails⟩
      · next fails => exact .inr ⟨_, .nesting read decoded fails⟩
      · next document =>
        split
        · next denoted => exact .inl (complete_of_ofJson denoted)
        · exact .inl ⟨_, rfl⟩
  · exact .inl ⟨_, rfl⟩
  · next fault unrefused failed =>
    rcases Files.read_eq_error failed with ⟨reason, rfl⟩ | ⟨-, null⟩
    · exact absurd rfl (unrefused _ _)
    · exact .inr ⟨_, .null null⟩

theorem settled_iff_not_upset :
    Settled Complete (load files path lone) ↔ ∀ accident, ¬Upset files path lone accident := by
  constructor
  · intro settled accident upset
    rw [load_of_upset upset] at settled
    exact not_settled_accident _ _ settled
  · intro calm
    exact (settled_or_upset files path lone).resolve_right fun ⟨_, upset⟩ => calm _ upset

/-- The accidents that befall the reading of a schema are these and no others. -/
theorem load_eq_accident_iff {accident : Accident} :
    load files path lone = .error (.accident accident) ↔ Upset files path lone accident := by
  refine ⟨fun h => ?_, load_of_upset⟩
  rcases settled_or_upset files path lone with settled | ⟨other, upset⟩
  · rw [h] at settled
    exact absurd settled (not_settled_accident _ _)
  · cases (load_of_upset upset).symm.trans h
    exact upset

/-! ## 4. Legible files -/

/-- Bytes that spell a text of which the reader of JSON complains, if at all, for a break of the
grammar. -/
def Legible (bytes : List UInt8) (lone : Text.StandIns) : Prop :=
  ∃ text : String, bytes = Text.Utf8.encode text ∧
    ∀ fault, Json.read (Text.unifyNewlines text.toList) lone = .error fault →
      ∃ complaint left, fault = .malformed complaint left

theorem legible_of_decode {bytes : List UInt8} {cs : List Char}
    (decoded : Text.Utf8.decode bytes = .ok cs)
    (numeral : ∀ fault, Json.read (Text.unifyNewlines cs) lone ≠ .error (.numeral fault))
    (nesting : ∀ isArray, Json.read (Text.unifyNewlines cs) lone ≠ .error (.tooDeep isArray)) :
    Legible bytes lone := by
  refine ⟨String.ofList cs, Text.Utf8.decode_eq_ok_iff.mp decoded, fun fault fails => ?_⟩
  rw [String.toList_ofList] at fails
  match fault, fails with
  | .malformed complaint left, _ => exact ⟨complaint, left, rfl⟩
  | .numeral fault, fails => exact absurd fails (numeral fault)
  | .tooDeep isArray, fails => exact absurd fails (nesting isArray)

theorem legible_of_modest {text : String}
    (modest : Json.Modest (Text.unifyNewlines text.toList)) :
    Legible (Text.Utf8.encode text) lone :=
  ⟨text, rfl, fun _ fails => Json.exists_malformed_of_read modest fails⟩

theorem Legible.not_upset {bytes : List UInt8} {accident : Accident}
    (legible : Legible bytes lone) (read : files.read path = .ok bytes) :
    ¬Upset files path lone accident := by
  obtain ⟨text, rfl, only⟩ := legible
  have decoded := Text.Utf8.decode_encode text
  intro upset
  cases upset with
  | null null =>
    rw [Files.read_of_null null] at read
    cases read
  | encoding read' undecoded =>
    cases read.symm.trans read'
    cases decoded.symm.trans undecoded
  | numeral read' decoded' fails =>
    cases read.symm.trans read'
    cases decoded.symm.trans decoded'
    obtain ⟨_, _, same⟩ := only _ fails
    cases same
  | nesting read' decoded' fails =>
    cases read.symm.trans read'
    cases decoded.symm.trans decoded'
    obtain ⟨_, _, same⟩ := only _ fails
    cases same

/-- The reading of a schema gives a complete schema or a failure for schemas if and only if the
path holds no null character and what the file holds, if it is read, is legible.  Legible is every
text in which rows of digits are short and few brackets open. -/
theorem load_settled_iff (files : Files) (path : Path) (lone : Text.StandIns) :
    (Settled Complete (load files path lone) ↔
      '\x00' ∉ path.text.toList ∧
        ∀ bytes, files.read path = .ok bytes → Legible bytes lone) ∧
      ∀ text : String, Json.Modest (Text.unifyNewlines text.toList) →
        Legible (Text.Utf8.encode text) lone := by
  refine ⟨settled_iff_not_upset.trans ⟨fun calm => ⟨fun null => calm _ (.null null), ?_⟩, ?_⟩,
    fun text => legible_of_modest⟩
  · intro bytes read
    cases decoded : Text.Utf8.decode bytes with
    | error fault => exact absurd (.encoding read decoded) (calm _)
    | ok cs =>
      exact legible_of_decode decoded (fun _ fails => calm _ (.numeral read decoded fails))
        fun _ fails => calm _ (.nesting read decoded fails)
  · rintro ⟨null, legible⟩ accident upset
    rcases upset.null_or_read with h | ⟨bytes, read⟩
    · exact null h
    · exact (legible bytes read).not_upset read upset

def directoryOf (bytes : List UInt8) : Files :=
  ⟨.directory [("schema.json", .file bytes false)], []⟩

def greeting : String :=
  "\x7b\"name\": \"greet\", \"description\": \"Greet\", \"args\": [\x7b\"name\": \"loud\"\x7d]\x7d"

theorem load_settled_greeting :
    Json.Modest (Text.unifyNewlines greeting.toList) ∧
      Settled Complete
        (load (directoryOf (Text.Utf8.encode greeting)) (Path.ofText "schema.json") []) := by
  have modest : Json.Modest (Text.unifyNewlines greeting.toList) :=
    Json.modest_of_length (by decide +kernel)
  have ⟨settled, legible⟩ :=
    load_settled_iff (directoryOf (Text.Utf8.encode greeting)) (Path.ofText "schema.json") []
  refine ⟨modest, settled.mpr ⟨by decide +kernel, fun bytes read => ?_⟩⟩
  have held : (directoryOf (Text.Utf8.encode greeting)).read (Path.ofText "schema.json") =
      .ok (Text.Utf8.encode greeting) := by decide +kernel
  cases held.symm.trans read
  exact legible greeting modest

-- A byte that begins no character is reported as an accident.
theorem load_not_settled_strayByte :
    ¬Settled Complete (load (directoryOf [0xFF]) (Path.ofText "schema.json") []) := by
  have upset : load (directoryOf [0xFF]) (Path.ofText "schema.json") [] =
      .error (.accident (.encoding ⟨0, 1, 0xFF, .startByte⟩)) := by
    decide +kernel
  rw [upset]
  exact not_settled_accident _ _

end Schema

end Toolsmith
