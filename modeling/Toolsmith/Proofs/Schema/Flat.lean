import Mathlib
import Toolsmith.Proofs.Json.Grammar
import Toolsmith.Proofs.Schema.Document
/-!
# The flat shape of schema documents

Of a document the reader of schemas sees the scalars under a few names, and the items of the flags
with the scalars under a few names of theirs.  Two documents that agree in these denote the same
schema or are refused for the same reason, at whatever place they are read, if both fit
(`load_eq_of_alike`).  A document told in another order, or with fields that are unknown or nested,
agrees with itself.  A document that does not fit is an accident, also where what is too large is
passed over otherwise (`Holds.load_of_not_fits`).
-/

namespace Toolsmith

variable {fields fields' : List (String × Json)} {names : List String} {name : String}

/-! ## 1. Fields -/

namespace Json

@[simp] theorem field?_append (front back : List (String × Json)) (name : String) :
    field? (front ++ back) name = (field? back name).or (field? front name) := by
  unfold field?
  rw [List.reverse_append, List.lookup_append]

theorem field?_cons (field : String × Json) (fields : List (String × Json)) (name : String) :
    field? (field :: fields) name =
      (field? fields name).or (if name = field.1 then some field.2 else none) := by
  have single : field? [field] name = if name = field.1 then some field.2 else none := by
    show List.lookup name [field] = _
    by_cases same : name = field.1
    · rw [if_pos same, same, List.lookup_cons_self]
    · rw [if_neg same, List.lookup_cons, beq_eq_false_iff_ne.mpr same]
      rfl
  rw [← single]
  exact field?_append [field] fields name

theorem field?_eq_none_iff : field? fields name = none ↔ name ∉ fields.map Prod.fst := by
  unfold field?
  rw [List.lookup_eq_none_iff]
  constructor
  · rintro absent present
    obtain ⟨field, hfield, rfl⟩ := List.mem_map.mp present
    exact absurd rfl (bne_iff_ne.mp (absent field (List.mem_reverse.mpr hfield)))
  · rintro absent field hfield
    refine bne_iff_ne.mpr ?_
    rintro rfl
    exact absent (List.mem_map_of_mem (List.mem_reverse.mp hfield))

-- Under distinct names the order does not decide which field counts.
theorem field?_eq_some_iff (distinct : (fields.map Prod.fst).Nodup) {value : Json} :
    field? fields name = some value ↔ (name, value) ∈ fields := by
  have backwards : (fields.reverse.map Prod.fst).Nodup := by
    rw [List.map_reverse]
    exact List.nodup_reverse.mpr distinct
  exact (Table.lookup_eq_some_iff backwards).trans List.mem_reverse

theorem field?_eq_of_perm (distinct : (fields.map Prod.fst).Nodup) (perm : fields.Perm fields')
    (name : String) : field? fields name = field? fields' name := by
  have distinct' : (fields'.map Prod.fst).Nodup := (perm.map Prod.fst).nodup distinct
  refine Option.ext fun value => ?_
  rw [field?_eq_some_iff distinct, field?_eq_some_iff distinct', perm.mem_iff]

-- A field under another name is passed over.
theorem field?_insert {front back : List (String × Json)} {other : String} {value : Json}
    (h : name ≠ other) :
    field? (front ++ (other, value) :: back) name = field? (front ++ back) name := by
  rw [field?_append, field?_cons, if_neg h, Option.or_none, ← field?_append]

theorem scalar?_insert_nested {front back : List (String × Json)} {value : Json}
    (absent : name ∉ (front ++ back).map Prod.fst) (nested : value.isScalar = false) :
    scalar? (front ++ (name, value) :: back) name = scalar? (front ++ back) name := by
  have before : field? (front ++ back) name = none := field?_eq_none_iff.mpr absent
  have after : field? (front ++ (name, value) :: back) name = some value := by
    rw [field?_append, Option.or_eq_none_iff] at before
    rw [field?_append, field?_cons, if_pos rfl, before.1]
    rfl
  unfold scalar?
  rw [before, after, Option.filter_some, nested]
  rfl

end Json

/-- A list of fields told otherwise: in another order, or with one more field, either under a name
that is not read at all or with a nested value under a name that is read for its scalar. -/
inductive Retold (names scalars : List String) :
    List (String × Json) → List (String × Json) → Prop
  | reordered {fields fields' : List (String × Json)} (distinct : (fields.map Prod.fst).Nodup)
      (perm : fields.Perm fields') : Retold names scalars fields fields'
  | unknown {front back : List (String × Json)} {name : String} {value : Json}
      (unread : name ∉ names) :
      Retold names scalars (front ++ back) (front ++ (name, value) :: back)
  | nested {front back : List (String × Json)} {name : String} {value : Json}
      (scalar : name ∈ scalars) (absent : name ∉ (front ++ back).map Prod.fst)
      (nested : value.isScalar = false) :
      Retold names scalars (front ++ back) (front ++ (name, value) :: back)

namespace Retold

variable {scalars : List String}

theorem scalar?_eq {scalars : List String} (known : name ∈ names)
    (told : Retold names scalars fields fields') :
    Json.scalar? fields name = Json.scalar? fields' name := by
  cases told with
  | reordered distinct perm =>
    unfold Json.scalar?
    rw [Json.field?_eq_of_perm distinct perm]
  | unknown unread =>
    unfold Json.scalar?
    rw [Json.field?_insert (ne_of_mem_of_not_mem known unread)]
  | @nested front back other value scalar absent nested =>
    by_cases same : name = other
    · subst same
      exact (Json.scalar?_insert_nested absent nested).symm
    · unfold Json.scalar?
      rw [Json.field?_insert same]

theorem field?_eq {scalars : List String} (known : name ∈ names) (whole : name ∉ scalars)
    (told : Retold names scalars fields fields') :
    Json.field? fields name = Json.field? fields' name := by
  cases told with
  | reordered distinct perm => exact Json.field?_eq_of_perm distinct perm name
  | unknown unread => exact (Json.field?_insert (ne_of_mem_of_not_mem known unread)).symm
  | nested scalar => exact (Json.field?_insert (ne_of_mem_of_not_mem scalar whole).symm).symm

-- What one retelling keeps, any number of them keeps, there and back.
theorem eq_of_eqvGen {β : Type} {look : List (String × Json) → β}
    (step : ∀ a b, Retold names scalars a b → look a = look b)
    (told : Relation.EqvGen (Retold names scalars) fields fields') : look fields = look fields' :=
  congrArg (Quot.lift look step) (Quot.eqvGen_sound told)

end Retold

namespace Schema

/-- Fields with the same scalars under some names, where an array or object counts as absent. -/
def SameScalars (names : List String) (fields fields' : List (String × Json)) : Prop :=
  ∀ name ∈ names, Json.scalar? fields name = Json.scalar? fields' name

theorem SameScalars.fieldText (same : SameScalars names fields fields') (name : String)
    (h : name ∈ names) : fieldText fields name = fieldText fields' name := by
  unfold Schema.fieldText
  rw [same name h]

theorem SameScalars.fieldHolds (same : SameScalars names fields fields') (name : String)
    (h : name ∈ names) : fieldHolds fields name = fieldHolds fields' name := by
  unfold Schema.fieldHolds
  rw [same name h]

/-! ## 2. Items -/

def argNames : List String := ["name", "short", "type", "required", "default", "help"]

/-- Items of the flags that cannot be told apart: objects with the same scalars under the names
that are read, or no objects. -/
inductive ItemsAlike : Json → Json → Prop
  | objects {fields fields' : List (String × Json)} (same : SameScalars argNames fields fields') :
      ItemsAlike (.object fields) (.object fields')
  | others {item item' : Json} (other : ∀ fields, item ≠ .object fields)
      (other' : ∀ fields, item' ≠ .object fields) : ItemsAlike item item'

theorem argOfJson_of_ne {item : Json} (other : ∀ fields, item ≠ .object fields) (index : Nat) :
    argOfJson index item = .error (.argNotObject index) := by
  cases item with
  | object fields => exact absurd rfl (other fields)
  | _ => rfl

theorem ItemsAlike.argOfJson_eq {item item' : Json} (alike : ItemsAlike item item')
    (index : Nat) : argOfJson index item = argOfJson index item' := by
  cases alike with
  | objects same =>
    have text := same.fieldText
    unfold argOfJson
    dsimp only
    rw [text "name" (by decide), text "short" (by decide), text "type" (by decide),
      same.fieldHolds "required" (by decide), text "default" (by decide), text "help" (by decide)]
  | others other other' => rw [argOfJson_of_ne other, argOfJson_of_ne other']

theorem argsOfJson_eq {items items' : List Json} (alike : List.Forall₂ ItemsAlike items items')
    (index : Nat) : argsOfJson index items = argsOfJson index items' := by
  induction alike generalizing index with
  | nil => rfl
  | cons first _ ih =>
    unfold argsOfJson
    rw [first.argOfJson_eq, ih]

/-- The flag that the fields of an item speak of: its texts are those of the scalars, without the
blanks around the names and the type, and a type that is not given is that of any text. -/
def spokenOf (fields : List (String × Json)) : Arg where
  name := Text.trim (fieldText fields "name")
  short := Text.trim (fieldText fields "short")
  type := if Text.trim (fieldText fields "type") = "" then "string"
    else Text.trim (fieldText fields "type")
  required := fieldHolds fields "required"
  default := fieldText fields "default"
  help := fieldText fields "help"

/-- An item declares the flag that its fields speak of if that has a name. -/
inductive Declares : Json → Arg → Prop
  | object {fields : List (String × Json)} (named : (spokenOf fields).name ≠ "") :
      Declares (.object fields) (spokenOf fields)

theorem declares_of_argOfJson {index : Nat} {item : Json} {arg : Arg}
    (h : argOfJson index item = .ok arg) : Declares item arg := by
  cases item with
  | object fields =>
    unfold argOfJson at h
    dsimp only at h
    split at h
    next => cases h
    next named =>
      obtain rfl := Except.ok.inj h
      exact .object named
  | _ => cases h

theorem declares_of_argsOfJson {items : List Json} {index : Nat} {args : List Arg}
    (h : argsOfJson index items = .ok args) : List.Forall₂ Declares items args := by
  induction items generalizing index args with
  | nil =>
    cases h
    exact .nil
  | cons item items ih =>
    obtain ⟨first, read, h⟩ := bind_eq_ok_iff.mp h
    obtain ⟨others, readOthers, h⟩ := bind_eq_ok_iff.mp h
    cases h
    exact .cons (declares_of_argOfJson read) (ih readOthers)

/-! ## 3. Documents -/

def topNames : List String := ["name", "description", "args"]

def topScalars : List String := ["name", "description"]

/-- What stands for the flags, and cannot be told apart: nothing or null, or arrays of items alike
one by one, or something else. -/
inductive ArgsAlike : Option Json → Option Json → Prop
  | void {args args' : Option Json} (empty : args = none ∨ args = some .null)
      (empty' : args' = none ∨ args' = some .null) : ArgsAlike args args'
  | arrays {items items' : List Json} (each : List.Forall₂ ItemsAlike items items') :
      ArgsAlike (some (.array items)) (some (.array items'))
  | others {value value' : Json} (other : value ≠ .null ∧ ∀ items, value ≠ .array items)
      (other' : value' ≠ .null ∧ ∀ items, value' ≠ .array items) :
      ArgsAlike (some value) (some value')

theorem ItemsAlike.refl (item : Json) : ItemsAlike item item := by
  cases item with
  | object fields => exact .objects fun _ _ => rfl
  | _ => exact .others nofun nofun

theorem ArgsAlike.refl (args : Option Json) : ArgsAlike args args := by
  match args with
  | none => exact .void (.inl rfl) (.inl rfl)
  | some .null => exact .void (.inr rfl) (.inr rfl)
  | some (.array items) => exact .arrays (List.forall₂_same.mpr fun item _ => ItemsAlike.refl item)
  | some (.bool _) | some (.integer _) | some (.float _) | some (.string _) | some (.object _) =>
    exact .others ⟨nofun, nofun⟩ ⟨nofun, nofun⟩

/-- Documents that cannot be told apart. -/
structure Alike (fields fields' : List (String × Json)) : Prop where
  scalars : SameScalars topScalars fields fields'
  args : ArgsAlike (Json.field? fields "args") (Json.field? fields' "args")

theorem alike_of_retold (told : Relation.EqvGen (Retold topNames topScalars) fields fields') :
    Alike fields fields' := by
  refine ⟨fun name h => ?_, ?_⟩
  · have known : name ∈ topNames := List.mem_append_left ["args"] h
    exact Retold.eq_of_eqvGen (fun _ _ => Retold.scalar?_eq known) told
  · have known : "args" ∈ topNames := by decide
    have whole : "args" ∉ topScalars := by decide
    have step (a b : List (String × Json)) (h : Retold topNames topScalars a b) :
        Json.field? a "args" = Json.field? b "args" := h.field?_eq known whole
    rw [Retold.eq_of_eqvGen step told]
    exact ArgsAlike.refl _

theorem itemsAlike_of_retold (told : Relation.EqvGen (Retold argNames argNames) fields fields') :
    ItemsAlike (.object fields) (.object fields') :=
  .objects fun _ known => Retold.eq_of_eqvGen (fun _ _ => Retold.scalar?_eq known) told

def argsOf : Option Json → Except SchemaComplaint (List Arg)
  | none | some .null => .ok []
  | some (.array items) => argsOfJson 0 items
  | some _ => .error .argsNotArray

theorem argsOf_of_ne {value : Json} (other : value ≠ .null ∧ ∀ items, value ≠ .array items) :
    argsOf (some value) = .error .argsNotArray := by
  cases value with
  | null => exact absurd rfl other.1
  | array items => exact absurd rfl (other.2 items)
  | _ => rfl

theorem ArgsAlike.argsOf_eq {args args' : Option Json} (alike : ArgsAlike args args') :
    argsOf args = argsOf args' := by
  cases alike with
  | void empty empty' => rcases empty with rfl | rfl <;> rcases empty' with rfl | rfl <;> rfl
  | arrays each => exact argsOfJson_eq each 0
  | others other other' => rw [argsOf_of_ne other, argsOf_of_ne other']

theorem ofJson_object (fields : List (String × Json)) (source : Option Path)
    (lone : Text.StandIns) :
    ofJson (.object fields) source lone =
      if Text.trim (fieldText fields "name") = "" then .error (.noField "name")
      else if Text.trim (fieldText fields "description") = "" then .error (.noField "description")
      else (argsOf (Json.field? fields "args")).map fun args =>
        { name := Text.trim (fieldText fields "name")
          description := Text.trim (fieldText fields "description")
          args, source, lone } := by
  unfold ofJson
  dsimp only
  split
  · rfl
  · split
    · rfl
    · unfold argsOf
      cases Json.field? fields "args" with
      | none => rfl
      | some value =>
        cases value with
        | array items => cases argsOfJson 0 items <;> rfl
        | _ => rfl

theorem Alike.ofJson_eq (alike : Alike fields fields') (source : Option Path)
    (lone : Text.StandIns) :
    ofJson (.object fields) source lone = ofJson (.object fields') source lone := by
  rw [ofJson_object, ofJson_object, alike.scalars.fieldText "name" (by decide),
    alike.scalars.fieldText "description" (by decide), alike.args.argsOf_eq]

def itemsOf (fields : List (String × Json)) : List Json :=
  match Json.field? fields "args" with
  | some (.array items) => items
  | _ => []

theorem declares_of_ofJson {source : Option Path} {lone : Text.StandIns} {schema : Schema}
    (h : ofJson (.object fields) source lone = .ok schema) :
    List.Forall₂ Declares (itemsOf fields) schema.args := by
  rw [ofJson_object] at h
  split at h
  · cases h
  · split at h
    · cases h
    · obtain ⟨args, read, rfl⟩ := map_eq_ok_iff.mp h
      unfold itemsOf
      unfold argsOf at read
      split at read
      next none => cases read; rw [none]; exact .nil
      next null => cases read; rw [null]; exact .nil
      next items array => rw [array]; exact declares_of_argsOfJson read
      next => cases read

/-! ## 4. Files -/

/-- The file at a path holds a text that denotes a document. -/
def Holds (files : Files) (path : Path) (lone : Text.StandIns) (document : Json) : Prop :=
  ∃ text : String, files.read path = .ok (Text.Utf8.encode text) ∧
    Json.Denotes lone text.toList document

variable {files files' : Files} {path : Path} {lone : Text.StandIns} {document : Json}

theorem Holds.load_eq (held : Holds files path lone document)
    (fits : document.Fits Json.depthLimit) :
    load files path lone =
      match ofJson document (some path) lone with
      | .ok schema => .ok schema
      | .error complaint => .error (.schema (.document path.text complaint)) := by
  obtain ⟨text, read, denoted⟩ := held
  have whole := denoted.unifyNewlines.read_eq.read fits
  unfold load ofBytes
  cases outcome : ofJson document (some path) lone with
  | ok schema => simp only [read, Text.Utf8.decode_encode, whole, outcome]
  | error complaint => simp only [read, Text.Utf8.decode_encode, whole, outcome]

-- A document is read as a whole, and too large a part of it is too large anywhere.
theorem Holds.load_of_not_fits (held : Holds files path lone document)
    (large : ¬document.Fits Json.depthLimit) :
    ∃ accident, load files path lone = .error (.accident accident) := by
  obtain ⟨text, read, denoted⟩ := held
  obtain ⟨fault, refused, size⟩ := denoted.unifyNewlines.read_eq.refused large
  have decoded := Text.Utf8.decode_encode text
  match fault, refused, size with
  | .numeral fault, refused, _ => exact ⟨_, load_of_upset (.numeral read decoded refused)⟩
  | .tooDeep isArray, refused, _ => exact ⟨_, load_of_upset (.nesting read decoded refused)⟩

/-- Of two files at one path that hold documents alike, the same schema is read, or both are
refused for the same reason, if the documents fit.  Documents are alike in whatever order their
fields and those of the items are told, as long as none is told twice, and whatever other fields and
nested values there are.  If a schema is read, its flags are declared by the items of the document,
one by one and in their order. -/
theorem load_eq_of_alike (held : Holds files path lone (.object fields))
    (held' : Holds files' path lone (.object fields'))
    (fits : Json.Fits Json.depthLimit (.object fields))
    (fits' : Json.Fits Json.depthLimit (.object fields')) (alike : Alike fields fields') :
    load files path lone = load files' path lone ∧
      (∀ told, Relation.EqvGen (Retold topNames topScalars) fields told → Alike fields told) ∧
      (∀ item told, Relation.EqvGen (Retold argNames argNames) item told →
        ItemsAlike (.object item) (.object told)) ∧
      ∀ schema, load files path lone = .ok schema →
        List.Forall₂ Declares (itemsOf fields) schema.args := by
  refine ⟨?_, fun _ => alike_of_retold, fun _ _ => itemsAlike_of_retold, ?_⟩
  · rw [held.load_eq fits, held'.load_eq fits', alike.ofJson_eq]
  · intro schema read
    rw [held.load_eq fits] at read
    split at read
    next denoted =>
      cases read
      exact declares_of_ofJson denoted
    next => cases read

theorem holds_of_text {text : String} (denoted : Json.Denotes [] text.toList document) :
    Holds (directoryOf (Text.Utf8.encode text)) (Path.ofText "schema.json") [] document := by
  refine ⟨text, ?_, denoted⟩
  cases Text.Utf8.encode text <;> rfl

theorem holds_of_read {text : String} (read : Json.read text.toList [] = .ok document) :
    Holds (directoryOf (Text.Utf8.encode text)) (Path.ofText "schema.json") [] document ∧
      document.Fits Json.depthLimit := by
  obtain ⟨denoted, fits⟩ := Json.read_eq_ok_iff.mp read
  exact ⟨holds_of_text denoted, fits⟩

-- The same command, told plainly and with much that is passed over.
def plainText : String :=
  "\x7b\"name\": \"greet\", \"description\": \"Greet\", \"args\": " ++
    "[\x7b\"name\": \" loud\", \"type\": \"bool\"\x7d]\x7d"

def plainFields : List (String × Json) :=
  [("name", .string "greet"), ("description", .string "Greet"),
    ("args", .array [.object [("name", .string " loud"), ("type", .string "bool")]])]

def ornateText : String :=
  "\x7b\"tags\": [true], \"args\": " ++
    "[\x7b\"type\": \"bool\", \"help\": \x7b\"x\": null\x7d, \"name\": \" loud\"\x7d], " ++
    "\"description\": \"Greet\", \"name\": \"greet\"\x7d"

def ornateFields : List (String × Json) :=
  [("tags", .array [.bool true]),
    ("args", .array [.object [("type", .string "bool"), ("help", .object [("x", .null)]),
      ("name", .string " loud")]]),
    ("description", .string "Greet"), ("name", .string "greet")]

theorem read_plainText : Json.read plainText.toList [] = .ok (.object plainFields) := by cbv

theorem read_ornateText : Json.read ornateText.toList [] = .ok (.object ornateFields) := by cbv

theorem alike_ornateFields : Alike plainFields ornateFields := by
  refine ⟨?_, .arrays (.cons (.objects ?_) .nil)⟩
  · simp only [SameScalars, topScalars, List.forall_mem_cons]
    exact ⟨rfl, rfl, nofun⟩
  · simp only [SameScalars, argNames, List.forall_mem_cons]
    exact ⟨rfl, rfl, rfl, rfl, rfl, rfl, nofun⟩

theorem load_ornateText :
    let path := Path.ofText "schema.json"
    let plain := directoryOf (Text.Utf8.encode plainText)
    let ornate := directoryOf (Text.Utf8.encode ornateText)
    Holds plain path [] (.object plainFields) ∧ Holds ornate path [] (.object ornateFields) ∧
      Json.Fits Json.depthLimit (.object plainFields) ∧
      Json.Fits Json.depthLimit (.object ornateFields) ∧ Alike plainFields ornateFields ∧
      load plain path = load ornate path ∧
      (load ornate path).map Schema.args = .ok [{ name := "loud", type := "bool" }] := by
  obtain ⟨held, fits⟩ := holds_of_read read_plainText
  obtain ⟨held', fits'⟩ := holds_of_read read_ornateText
  have same := (load_eq_of_alike held held' fits fits' alike_ornateFields).1
  exact ⟨held, held', fits, fits', alike_ornateFields, same, by decide +kernel⟩

-- Null stands for no flags, and a truth value does not, though neither is an array.
def nullText : String :=
  "\x7b\"name\": \"greet\", \"description\": \"Greet\", \"args\": null\x7d"

def nullFields : List (String × Json) :=
  [("name", .string "greet"), ("description", .string "Greet"), ("args", .null)]

def truthText : String :=
  "\x7b\"name\": \"greet\", \"description\": \"Greet\", \"args\": true\x7d"

def truthFields : List (String × Json) :=
  [("name", .string "greet"), ("description", .string "Greet"), ("args", .bool true)]

theorem read_nullText : Json.read nullText.toList [] = .ok (.object nullFields) := by cbv

theorem read_truthText : Json.read truthText.toList [] = .ok (.object truthFields) := by cbv

-- The plain command with a value in front that is passed over.
def besideText (value : List Char) : String :=
  String.ofList ('{' :: ("\"tags\":".toList ++ (value ++ ',' :: plainText.toList.tail)))

def besideFields (value : Json) : List (String × Json) := ("tags", value) :: plainFields

theorem holds_besideText {value : List Char} {v : Json}
    (spelled : ∀ rest, Json.Spells [] (value ++ rest) (.value v) rest) :
    Holds (directoryOf (Text.Utf8.encode (besideText value))) (Path.ofText "schema.json") []
      (.object (besideFields v)) := by
  have named (rest : List Char) :
      Json.SpellsName [] ("\"tags\":".toList ++ rest) "tags" rest :=
    .name .refl (.plain (by decide) (by decide) (by decide) (.plain (by decide) (by decide)
      (by decide) (.plain (by decide) (by decide) (by decide) (.plain (by decide) (by decide)
        (by decide) .close)))) .refl .refl
  have others : Json.readFields [] 200 1 plainText.toList.tail [] = .ok (plainFields, []) := by cbv
  obtain ⟨_, rfl, each⟩ := (Json.spells_of_readers [] 200).2.2 .refl others
  have text : (besideText value).toList =
      '{' :: ("\"tags\":".toList ++ (value ++ ',' :: plainText.toList.tail)) :=
    String.toList_ofList
  refine holds_of_text ⟨_, [], .refl, ?_, .refl⟩
  rw [text]
  exact .object (.nextField (named _) (spelled _) .refl each)

theorem alike_besideFields (value : Json) : Alike plainFields (besideFields value) := by
  refine ⟨?_, ArgsAlike.refl _⟩
  simp only [SameScalars, topScalars, List.forall_mem_cons]
  exact ⟨rfl, rfl, nofun⟩

theorem load_besideText_ne {value : List Char} {v : Json}
    (spelled : ∀ rest, Json.Spells [] (value ++ rest) (.value v) rest)
    (large : ¬v.Fits (Json.depthLimit - 1)) :
    load (directoryOf (Text.Utf8.encode plainText)) (Path.ofText "schema.json") ≠
      load (directoryOf (Text.Utf8.encode (besideText value))) (Path.ofText "schema.json") := by
  have whole : ¬Json.Fits Json.depthLimit (.object (besideFields v)) := fun fits =>
    large (Json.fits_object_iff.mp fits _ List.mem_cons_self)
  obtain ⟨accident, failed⟩ := (holds_besideText spelled).load_of_not_fits whole
  have read : (load (directoryOf (Text.Utf8.encode plainText)) (Path.ofText "schema.json")).isOk =
      true := by decide +kernel
  intro same
  rw [same, failed] at read
  cases read

-- One digit more than are read.
def longDigits : List Char := '1' :: List.replicate Decimal.digitLimit '0'

theorem spellsWhole_longDigits : Json.SpellsWhole longDigits := by
  refine .digits (by decide) ?_
  rw [List.all_cons, List.all_replicate]
  decide

theorem spells_longDigits (rest : List Char) :
    Json.Spells [] (longDigits ++ rest) (.value (.integer (Decimal.integerOfChars longDigits)))
      rest := .number spellsWhole_longDigits.spellsNumeral

theorem not_fits_longDigits {room : Nat} :
    ¬Json.Fits room (.integer (Decimal.integerOfChars longDigits)) := by
  have size := spellsWhole_longDigits.natAbs_integerOfChars false
  rw [show Json.sign false ++ longDigits = longDigits from rfl] at size
  rw [Json.fits_integer_iff, size, spellsWhole_longDigits.rowValue_lt_iff (by decide), longDigits,
    List.length_cons, List.length_replicate]
  omega

-- An empty array inside of so many others.
def nested : Nat → Json
  | 0 => .array []
  | n + 1 => .array [nested n]

def brackets (n : Nat) : List Char := List.replicate (n + 1) '[' ++ List.replicate (n + 1) ']'

theorem spells_brackets (n : Nat) (rest : List Char) :
    Json.Spells [] (brackets n ++ rest) (.value (nested n)) rest := by
  induction n generalizing rest with
  | zero => exact .noItems .refl
  | succ n ih =>
    have inner : Json.Spells [] (brackets n ++ ']' :: rest) (.items [nested n]) rest :=
      .lastItem .refl (ih _) .refl
    have text : brackets (n + 1) ++ rest = '[' :: (brackets n ++ ']' :: rest) := by
      unfold brackets
      rw [List.replicate_succ, @List.replicate_succ' (n + 1) _ ']']
      simp only [List.append_assoc, List.cons_append, List.nil_append]
    rw [text]
    exact .array inner

theorem not_fits_nested (n : Nat) : ¬(nested n).Fits n := by
  induction n with
  | zero => nofun
  | succ n ih => exact fun fits => ih (Json.fits_array_iff.mp fits _ List.mem_cons_self)

/-- Null and another value that is no array are told apart, and so are documents alike of which one
holds a number that is too long, or nests too deep, where it is passed over. -/
theorem load_told_apart :
    (¬∀ (files files' : Files) (path : Path) (fields fields' : List (String × Json)),
      Holds files path [] (.object fields) → Holds files' path [] (.object fields') →
      SameScalars topScalars fields fields' →
      (∃ value value', Json.field? fields "args" = some value ∧
        Json.field? fields' "args" = some value' ∧
        (∀ items, value ≠ .array items) ∧ ∀ items, value' ≠ .array items) →
      load files path = load files' path) ∧
    let path := Path.ofText "schema.json"
    let plain := directoryOf (Text.Utf8.encode plainText)
    ∀ value ∈ [longDigits, brackets (Json.depthLimit - 1)], ∃ v,
      let beside := directoryOf (Text.Utf8.encode (besideText value))
      Holds plain path [] (.object plainFields) ∧ Holds beside path [] (.object (besideFields v)) ∧
        Alike plainFields (besideFields v) ∧ load plain path ≠ load beside path := by
  constructor
  · intro law
    have scalars : SameScalars topScalars nullFields truthFields := by
      simp only [SameScalars, topScalars, List.forall_mem_cons]
      exact ⟨rfl, rfl, nofun⟩
    have same := law _ _ _ _ _ (holds_of_read read_nullText).1 (holds_of_read read_truthText).1
      scalars ⟨.null, .bool true, rfl, rfl, nofun, nofun⟩
    revert same
    decide +kernel
  · have held := (holds_of_read read_plainText).1
    simp only [List.forall_mem_cons]
    have number := spells_longDigits
    have deep := spells_brackets (Json.depthLimit - 1)
    exact ⟨⟨_, held, holds_besideText number, alike_besideFields _,
        load_besideText_ne number not_fits_longDigits⟩,
      ⟨_, held, holds_besideText deep, alike_besideFields _,
        load_besideText_ne deep (not_fits_nested _)⟩, nofun⟩

end Schema

end Toolsmith
