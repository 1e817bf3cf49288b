import Mathlib.Data.List.TakeWhile
import Toolsmith.Artifact.Installer
import Toolsmith.Proofs.Artifact.Registrations
import Toolsmith.Proofs.Base64
/-!
# Installers read back

Of the lines of an installer exactly one is the mark that begins the payload and exactly one the
mark that ends it.  The lines in front of the payload do not begin as the marks do, whatever valid
name the program has, and the lines of the payload hold no underscore.  So `payload` gives back the
payload (`payload_script`), and the lines that it reads are also those that the script cuts out of
itself when it is run.  Of other texts it reads what stands between the first two marks, if they
are there and nothing between them is beyond ASCII.
-/

namespace Toolsmith

/-! ## 1. The name -/

theorem Text.replaceFrom_eq_self {c : Char} {old : List Char} (new : List Char) {cs : List Char}
    (absent : c ∉ cs) : replaceFrom (c :: old) new 0 cs = cs := by
  induction cs with
  | nil => rfl
  | cons d cs ih =>
    rw [List.mem_cons, not_or] at absent
    have other : (c :: old).isPrefixOf (d :: cs) = false := by
      rw [List.isPrefixOf_cons_cons, beq_false_of_ne absent.1]
      rfl
    rw [replaceFrom, other, ih absent.2]
    rfl

namespace Installer

-- No valid name holds the character that the marks in the template begin with.
theorem shownName_of_isName {name : String} (named : Check.isName name = true) :
    shownName name = name := by
  have absent : '@' ∉ name.toList := by
    intro h
    have := Check.isNameChar_of_mem named h
    revert this
    decide
  have kept {old : String} {rest : List Char} (new : String) (begins : old.toList = '@' :: rest) :
      Text.replaceAll old new name = name := by
    rw [Text.replaceAll, begins, Text.replaceFrom_eq_self _ absent, String.ofList_toList]
  rw [shownName, kept Tool.version rfl, kept defaultDirectory rfl]

/-! ## 2. The lines of the script -/

/-- A line that begins otherwise than the marks. -/
structure Plain (line : List Char) : Prop where
  unbroken : Text.Unbroken line
  begins : line.head? ≠ some '_'

instance (line : List Char) : Decidable (Plain line) :=
  decidable_of_iff (Text.Unbroken line ∧ line.head? ≠ some '_')
    ⟨fun h => ⟨h.1, h.2⟩, fun h => ⟨h.unbroken, h.begins⟩⟩

-- The characters of a literal are there at once, and need not be decoded.
theorem Plain.ofList {cs : List Char} (h : Plain cs) : Plain (String.ofList cs).toList := by
  rw [String.toList_ofList]
  exact h

theorem Plain.append {start rest : List Char} (h : Plain start) (nonempty : start ≠ [])
    (unbroken : Text.Unbroken rest) : Plain (start ++ rest) := by
  refine ⟨Text.unbroken_append.mpr ⟨h.unbroken, unbroken⟩, ?_⟩
  rw [List.head?_append_of_ne_nil start nonempty]
  exact h.begins

theorem plain_fixed :
    ∀ line ∈ functions ++ unpacking ++ advice ++ call, Plain line.toList := by
  simp only [functions, unpacking, advice, call, List.cons_append, List.nil_append,
    List.forall_mem_cons, List.not_mem_nil, false_imp_iff, implies_true, and_true]
  and_intros
  all_goals
    apply Plain.ofList
    decide +kernel

theorem plain_settings {name : String} (unbroken : Text.Unbroken name.toList) :
    ∀ line ∈ settings name, Plain line.toList := by
  have around {start rest : String} (h : Plain start.toList) (nonempty : start ≠ "")
      (others : Text.Unbroken rest.toList) : Plain (start ++ name ++ rest).toList := by
    rw [String.toList_append, String.toList_append, List.append_assoc]
    exact h.append (by simpa using nonempty) (Text.unbroken_append.mpr ⟨unbroken, others⟩)
  have title : Plain ("# Installer for " ++ name ++ ", generated by schemacli " ++
      Tool.version ++ ".").toList := by
    rw [String.append_assoc, String.append_assoc]
    exact around (.ofList (by decide)) (by decide) (by decide +kernel)
  have usage : Plain ("#   sh " ++ name ++ "-install.sh").toList :=
    around (.ofList (by decide)) (by decide) (by decide +kernel)
  have default : Plain ("#   CLI_NAME     - Name for the installed binary (default: " ++ name ++
      ")").toList := around (.ofList (by decide)) (by decide) (by decide +kernel)
  have setting : Plain ("CLI_NAME=\"$\x7bCLI_NAME:-" ++ name ++ "\x7d\"").toList :=
    around (.ofList (by decide)) (by decide) (by decide +kernel)
  have directory : Plain ("DEFAULT_INSTALL_DIR=\"" ++ defaultDirectory ++ "\"").toList := by
    decide +kernel
  simp only [settings, List.forall_mem_cons, List.not_mem_nil, false_imp_iff, implies_true,
    and_true, true_and, title, usage, default, setting, directory]
  and_intros
  all_goals
    apply Plain.ofList
    decide +kernel

theorem plain_header {name : String} (named : Check.isName name = true) :
    ∀ line ∈ header name, Plain line.toList := by
  have parts : header name = settings name ++ (functions ++ unpacking ++ advice ++ call) := by
    rw [header, shownName_of_isName named]
    simp only [List.append_assoc]
  rw [parts, List.forall_mem_append]
  exact ⟨plain_settings (Registrations.unbroken_of_isName named), plain_fixed⟩

/-! ## 3. The lines of the payload -/

def bodyLines (bytes : List UInt8) : List String :=
  (Base64.groups bytes).map fun group => String.ofList (Base64.encode group)

theorem written_of_mem_bodyLines {bytes : List UInt8} {line : String}
    (h : line ∈ bodyLines bytes) : line.length ≤ 76 ∧ Base64.Written line.toList := by
  obtain ⟨group, hgroup, rfl⟩ := List.mem_map.mp h
  rw [String.length_ofList, String.toList_ofList, Base64.length_encode]
  have short : group.length ≤ 57 := Base64.length_le_of_mem_groups hgroup
  exact ⟨by omega, Base64.written_encode group⟩

theorem length_of_mem_dropLast_bodyLines {bytes : List UInt8} {line : String}
    (h : line ∈ (bodyLines bytes).dropLast) : line.length = 76 := by
  rw [bodyLines, ← List.map_dropLast] at h
  obtain ⟨group, hgroup, rfl⟩ := List.mem_map.mp h
  have full : group.length = 57 := Base64.length_of_mem_dropLast_groups hgroup
  rw [String.length_ofList, Base64.length_encode, full]

theorem flatMap_bodyLines (bytes : List UInt8) :
    (bodyLines bytes).flatMap String.toList = Base64.encode bytes := by
  rw [bodyLines, List.flatMap_map]
  simp only [String.toList_ofList]
  exact Base64.flatMap_encode_groups bytes

theorem unbroken_of_mem_bodyLines {bytes : List UInt8} {line : String}
    (h : line ∈ bodyLines bytes) : Text.Unbroken line.toList :=
  (written_of_mem_bodyLines h).2.forall (by decide) rfl

-- An underscore is no character of the alphabet.
theorem not_mem_bodyLines (bytes : List UInt8) {mark : String} (underscore : '_' ∈ mark.toList) :
    mark ∉ bodyLines bytes := by
  intro h
  have other : ∀ c ∈ mark.toList, c ≠ '_' :=
    (written_of_mem_bodyLines h).2.forall (by decide) (by decide)
  exact other '_' underscore rfl

theorem not_mem_header {name : String} (named : Check.isName name = true) {mark : String}
    (underscore : mark.toList.head? = some '_') : mark ∉ header name :=
  fun h => (plain_header named mark h).begins underscore

/-! ## 4. The script as a whole -/

def allLines (bytes : List UInt8) (name : String) : List String :=
  header name ++ beginMark :: (bodyLines bytes ++ [endMark])

theorem toList_script (bytes : List UInt8) (name : String) :
    (script bytes name).toList =
      (allLines bytes name).flatMap fun line => line.toList ++ ['\n'] := by
  have joined_toList (lines : List String) :
      (joined lines).toList = lines.flatMap fun line => line.toList ++ ['\n'] := by
    rw [joined, String.toList_join, List.flatMap_map]
    simp
  have body : Base64.encodeLines bytes =
      (bodyLines bytes).flatMap fun line => line.toList ++ ['\n'] := by
    rw [bodyLines, List.flatMap_map]
    simp [Base64.encodeLines]
  rw [script, String.toList_append, String.toList_append, joined_toList, joined_toList,
    String.toList_ofList, body]
  simp [allLines]

theorem unbroken_allLines (bytes : List UInt8) {name : String}
    (named : Check.isName name = true) :
    ∀ line ∈ allLines bytes name, Text.Unbroken line.toList := by
  intro line h
  rw [allLines, List.mem_append, List.mem_cons, List.mem_append, List.mem_singleton] at h
  rcases h with h | rfl | h | rfl
  · exact (plain_header named line h).unbroken
  · decide +kernel
  · exact unbroken_of_mem_bodyLines h
  · decide +kernel

/-- Some lines are the payload among others: they stand between the first line that begins a payload
and the next one that ends it. -/
def Marked (lines body : List String) : Prop :=
  ∃ front back, lines = front ++ beginMark :: (body ++ endMark :: back) ∧
    beginMark ∉ front ∧ endMark ∉ body

theorem dropWhile_ne_mark {mark : String} {front : List String} (absent : mark ∉ front)
    (rest : List String) : (front ++ mark :: rest).dropWhile (· ≠ mark) = mark :: rest := by
  rw [List.dropWhile_append_of_pos]
  · simp
  · intro line hline
    exact decide_eq_true (ne_of_mem_of_not_mem hline absent)

theorem payloadLines?_marked {front body back : List String} (before : beginMark ∉ front)
    (between : endMark ∉ body) :
    payloadLines? (front ++ beginMark :: (body ++ endMark :: back)) = some body := by
  have taken : (body ++ endMark :: back).takeWhile (· ≠ endMark) = body := by
    rw [List.takeWhile_append_of_pos]
    · simp
    · intro line hline
      exact decide_eq_true (ne_of_mem_of_not_mem hline between)
  rw [payloadLines?, dropWhile_ne_mark before]
  dsimp only
  rw [taken]
  simp

theorem payloadLines?_eq_some_iff {lines body : List String} :
    payloadLines? lines = some body ↔ Marked lines body := by
  constructor
  · intro found
    -- Lines in which a mark is missing have no payload.
    by_cases begins : beginMark ∈ lines
    · obtain ⟨front, rest, rfl, before⟩ := List.eq_append_cons_of_mem begins
      by_cases ends : endMark ∈ rest
      · obtain ⟨inside, back, rfl, between⟩ := List.eq_append_cons_of_mem ends
        rw [payloadLines?_marked before between] at found
        obtain rfl := Option.some.inj found
        exact ⟨front, back, rfl, before, between⟩
      · rw [payloadLines?, dropWhile_ne_mark before] at found
        simp [ends] at found
    · have skipped : lines.dropWhile (· ≠ beginMark) = [] := by
        rw [List.dropWhile_eq_nil_iff]
        intro line hline
        exact decide_eq_true (ne_of_mem_of_not_mem hline begins)
      rw [payloadLines?, skipped] at found
      cases found
  · rintro ⟨front, back, rfl, before, between⟩
    exact payloadLines?_marked before between

/-! ## 5. What the script cuts out of itself -/

-- The lines of a text for a tool that knows no end of a line but the line feed.
def fed (text : String) : List String :=
  let pieces := Text.split '\n' text
  if pieces.getLast? = some "" then pieces.dropLast else pieces

-- What is printed of the ranges between two marks: a line like the first mark opens a range, and
-- the next line after it that is like the last mark closes it.
def printed (first last : String) : Bool → List String → List String
  | _, [] => []
  | true, line :: lines => line :: printed first last (line ≠ last) lines
  | false, line :: lines =>
    if line = first then line :: printed first last true lines
    else printed first last false lines

/-- What an installer cuts out of itself when it runs: the lines that are printed, without the first
and the last of them. -/
def cutOut (script : String) : List String :=
  ((printed beginMark endMark false (fed script)).drop 1).dropLast

theorem printed_append {first last : String} {front : List String} (absent : first ∉ front)
    (rest : List String) :
    printed first last false (front ++ rest) = printed first last false rest := by
  induction front with
  | nil => rfl
  | cons line front ih =>
    rw [List.mem_cons, not_or] at absent
    rw [List.cons_append, printed, if_neg (Ne.symm absent.1), ih absent.2]

theorem printed_inside {first last : String} {body : List String} (absent : last ∉ body) :
    printed first last true (body ++ [last]) = body ++ [last] := by
  induction body with
  | nil => rfl
  | cons line body ih =>
    rw [List.mem_cons, not_or] at absent
    have still : decide (line ≠ last) = true := decide_eq_true (Ne.symm absent.1)
    rw [List.cons_append, printed, still, ih absent.2]

theorem cutOut_marked {script : String} {front body : List String}
    (lines : fed script = front ++ beginMark :: (body ++ [endMark]))
    (before : beginMark ∉ front) (between : endMark ∉ body) : cutOut script = body := by
  rw [cutOut, lines, printed_append before, printed, if_pos rfl, printed_inside between,
    List.drop_one, List.tail_cons, List.dropLast_concat]

theorem fed_script (bytes : List UInt8) {name : String} (named : Check.isName name = true) :
    fed (script bytes name) = allLines bytes name := by
  have pieces := Text.split_of_chars (toList_script bytes name) fun line hline =>
    Text.feed_not_mem_of_unbroken (unbroken_allLines bytes named line hline)
  rw [fed, pieces]
  simp

/-- The payload of an installer is read back.  In the installer of a program with a valid name one
line is the mark that begins the payload and one, the last, is the mark that ends it.  The lines
between them are the payload in base64: they have 76 characters, the last of them perhaps fewer, and
when the script runs it cuts these lines out of itself. -/
theorem payload_script (bytes : List UInt8) {name : String} (named : Check.isName name = true) :
    payload (script bytes name) = .ok bytes ∧
      (Text.lines (script bytes name)).count beginMark = 1 ∧
      (Text.lines (script bytes name)).count endMark = 1 ∧
      ∃ front body, Text.lines (script bytes name) = front ++ beginMark :: (body ++ [endMark]) ∧
        (∀ line ∈ body, line.length ≤ 76 ∧ Base64.Written line.toList) ∧
        (∀ line ∈ body.dropLast, line.length = 76) ∧
        body.flatMap String.toList = Base64.encode bytes ∧
        cutOut (script bytes name) = body := by
  have lines : Text.lines (script bytes name) = allLines bytes name :=
    Text.lines_eq (toList_script bytes name) (unbroken_allLines bytes named)
  have begin_front : beginMark ∉ header name := not_mem_header named (by decide +kernel)
  have end_front : endMark ∉ header name := not_mem_header named (by decide +kernel)
  have begin_body : beginMark ∉ bodyLines bytes := not_mem_bodyLines bytes (by decide +kernel)
  have end_body : endMark ∉ bodyLines bytes := not_mem_bodyLines bytes (by decide +kernel)
  have differ : beginMark ≠ endMark := by decide
  rw [lines]
  refine ⟨?_, ?_, ?_, header name, bodyLines bytes, rfl, fun _ => written_of_mem_bodyLines,
    fun _ => length_of_mem_dropLast_bodyLines, flatMap_bodyLines bytes,
    cutOut_marked (fed_script bytes named) begin_front end_body⟩
  · have ascii : ((Base64.encode bytes).any fun c => c.toNat ≥ 128) = false := by
      rw [List.any_eq_false]
      exact (Base64.written_encode bytes).forall (by decide) (by decide)
    rw [payload, lines, allLines, payloadLines?_marked begin_front end_body]
    dsimp only
    rw [flatMap_bodyLines, ascii, Base64.decode_encode]
    rfl
  · rw [allLines, List.count_append, List.count_cons_self, List.count_append,
      List.count_eq_zero_of_not_mem begin_front, List.count_eq_zero_of_not_mem begin_body,
      List.count_singleton, beq_false_of_ne differ.symm]
    rfl
  · rw [allLines, List.count_append, List.count_cons_of_ne differ, List.count_append,
      List.count_eq_zero_of_not_mem end_front, List.count_eq_zero_of_not_mem end_body,
      List.count_singleton_self]

-- A hundred bytes take two lines.
theorem payload_script_tool :
    Check.isName "my-tool_2" = true ∧
      payload (script (List.replicate 100 7) "my-tool_2") = .ok (List.replicate 100 7) ∧
      (Text.lines (script (List.replicate 100 7) "my-tool_2")).count beginMark = 1 ∧
      (Text.lines (script (List.replicate 100 7) "my-tool_2")).count endMark = 1 :=
  have named : Check.isName "my-tool_2" = true := by decide
  have read := payload_script (List.replicate 100 7) named
  ⟨named, read.1, read.2.1, read.2.2.1⟩

/-! ## 6. Texts that are no installers -/

/-- Bytes that the lines between the marks of a text denote. -/
def Enclosed (text : String) (bytes : List UInt8) : Prop :=
  ∃ body, Marked (Text.lines text) body ∧ Base64.decode (body.flatMap String.toList) = .ok bytes

-- Characters outside ASCII are noticed before anything is decoded.
theorem payload_of_foreign {text : String} {body : List String}
    (marked : Marked (Text.lines text) body) {line : String} (hline : line ∈ body) {c : Char}
    (hc : c ∈ line.toList) (foreign : 128 ≤ c.toNat) :
    payload text = .error (.accident .notAscii) := by
  have found : ((body.flatMap String.toList).any fun c => c.toNat ≥ 128) = true :=
    List.any_eq_true.mpr ⟨c, List.mem_flatMap.mpr ⟨line, hline, hc⟩, decide_eq_true foreign⟩
  rw [payload, payloadLines?_eq_some_iff.mpr marked]
  dsimp only
  rw [found]
  rfl

theorem settled_of_ascii {text : String} {body : List String}
    (marked : Marked (Text.lines text) body)
    (ascii : ∀ line ∈ body, ∀ c ∈ line.toList, c.toNat < 128) :
    Settled (Enclosed text) (payload text) := by
  have none : ((body.flatMap String.toList).any fun c => c.toNat ≥ 128) = false := by
    rw [List.any_eq_false]
    intro c hc
    obtain ⟨line, hline, hc⟩ := List.mem_flatMap.mp hc
    have := ascii line hline c hc
    simp only [ge_iff_le, decide_eq_true_eq]
    omega
  rw [payload, payloadLines?_eq_some_iff.mpr marked]
  dsimp only
  rw [none]
  cases decoded : Base64.decode (body.flatMap String.toList) with
  | ok bytes => exact ⟨body, marked, decoded⟩
  | error fault => exact ⟨.badPayload fault.text, rfl⟩

theorem settled_of_unmarked {text : String} (unmarked : ∀ body, ¬Marked (Text.lines text) body) :
    Settled (Enclosed text) (payload text) := by
  have none : payloadLines? (Text.lines text) = none := by
    rw [Option.eq_none_iff_forall_not_mem]
    intro body found
    exact unmarked body (payloadLines?_eq_some_iff.mp found)
  rw [payload, none]
  exact ⟨.noPayload, rfl⟩

/-- What is taken out of a text are the bytes between its marks, or the fault is one of the
installer, if and only if no character outside ASCII stands between the marks. -/
theorem payload_settled_iff (text : String) :
    Settled (Enclosed text) (payload text) ↔
      ∀ body, Marked (Text.lines text) body →
        ∀ line ∈ body, ∀ c ∈ line.toList, c.toNat < 128 := by
  constructor
  · intro settled body marked line hline c hc
    by_contra foreign
    rw [payload_of_foreign marked hline hc (Nat.le_of_not_lt foreign)] at settled
    exact not_settled_accident _ _ settled
  · intro ascii
    by_cases marked : ∃ body, Marked (Text.lines text) body
    · obtain ⟨body, marked⟩ := marked
      exact settled_of_ascii marked (ascii body marked)
    · exact settled_of_unmarked (not_exists.mp marked)

/-- A letter with an accent between the marks. -/
theorem not_settled_accent :
    payload "__PAYLOAD_BEGIN__\né\n__PAYLOAD_END__\n" = .error (.accident .notAscii) ∧
      ¬Settled (Enclosed "__PAYLOAD_BEGIN__\né\n__PAYLOAD_END__\n")
        (payload "__PAYLOAD_BEGIN__\né\n__PAYLOAD_END__\n") := by
  have accident : payload "__PAYLOAD_BEGIN__\né\n__PAYLOAD_END__\n" =
      .error (.accident .notAscii) := by
    decide +kernel
  refine ⟨accident, ?_⟩
  rw [accident]
  exact not_settled_accident _ _

end Installer

end Toolsmith
