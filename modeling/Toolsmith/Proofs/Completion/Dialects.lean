import Toolsmith.Completion.Scripts
import Toolsmith.Proofs.Completion.ZshArms
/-!
# The values in both scripts

The two scripts are written by different rules and from different parts of the model.  The arm of a
command is looked up in each of them and read back: in the one for bash into slots, in the one for
zsh into option specifications.  Both have for each flag what its type lets them offer, and for
nothing else (`dialects_agree`).
-/

namespace Toolsmith.Completion

open ShellWords

/-! ## 1. Commands -/

theorem mem_spellings {flag : Flag} {text : String} :
    text ∈ flag.spellings ↔
      text = "--" ++ flag.long ∨ flag.short ≠ "" ∧ text = "-" ++ flag.short := by
  unfold Flag.spellings Flag.spellingsOf
  by_cases none : flag.short = "" <;> simp [none]

theorem long_ne_short (flag : Flag) {other : Flag} (named : other.Spellable)
    (some : other.short ≠ "") : "--" ++ flag.long ≠ "-" ++ other.short := by
  obtain ⟨c, letter, single⟩ := named.short some
  intro same
  have chars := congrArg String.toList same
  rw [String.toList_append, String.toList_append, single] at chars
  exact letter (List.cons.inj (List.cons.inj chars).2).1.symm

theorem spellings_nodup {flags : List Flag} (named : ∀ flag ∈ flags, flag.Spellable)
    (apart : flags.Pairwise fun older flag =>
      older.long ≠ flag.long ∧ (flag.short ≠ "" → older.short ≠ flag.short)) :
    (flags.flatMap Flag.spellings).Nodup := by
  refine List.nodup_flatMap.mpr ⟨?_, apart.imp_of_mem ?_⟩
  · intro flag hflag
    unfold Flag.spellings Flag.spellingsOf
    split
    · exact List.nodup_singleton _
    · next some =>
      have differ := long_ne_short flag (named flag hflag) some
      exact List.nodup_cons.mpr ⟨fun same => differ (List.mem_singleton.mp same),
        List.nodup_singleton _⟩
  · rintro older flag holder hflag ⟨longs, shorts⟩ text first second
    rcases mem_spellings.mp first with rfl | ⟨some, rfl⟩ <;>
      rcases mem_spellings.mp second with same | ⟨some', same⟩
    · exact longs (String.append_right_inj _ |>.mp same)
    · exact long_ne_short older (named flag hflag) some' same
    · exact long_ne_short flag (named older holder) some same.symm
    · exact shorts some' (String.append_right_inj _ |>.mp same)

theorem bar_not_mem_spellings {flag : Flag} (long : Check.isName flag.long = true)
    (short : flag.short ≠ "" → Compiler.isShortName flag.short = true) :
    ∀ spelling ∈ flag.spellings, '|' ∉ spelling.toList := by
  intro spelling hspelling bar
  rcases mem_spellings.mp hspelling with rfl | ⟨some, rfl⟩ <;>
    rw [String.toList_append, List.mem_append] at bar <;> rcases bar with dash | bar
  · revert dash
    decide
  · have := Check.isNameChar_of_mem long bar
    revert this
    decide
  · revert dash
    decide
  · obtain ⟨c, alnum, single⟩ := Compiler.exists_of_isShortName (short some)
    rw [single] at bar
    obtain rfl := List.mem_singleton.mp bar
    revert alnum
    decide

/-- A command whose flags can be told apart by each of their spellings, and that offers words only
that stay words. -/
structure Told (e : Catalogue.Entry) : Prop where
  topic : Bash.CleanTopic e.topic
  typed : ∀ flag ∈ e.flags, flag.Typed
  unbarred : ∀ flag ∈ e.flags, ∀ spelling ∈ flag.spellings, '|' ∉ spelling.toList
  flags : e.flags.Nodup
  spellings : (e.flags.flatMap Flag.spellings).Nodup

theorem told_compileAll (schemas : List (Schema × Path)) :
    ∀ e ∈ (Compiler.fresh.compileAll schemas).entries, Told e := by
  have consistent := Compiler.consistent_compileAll schemas
  -- Which program it is does not matter for its commands.
  have named : Check.isName "a" = true := by decide
  have clean := Bash.cleanModel_compileAll schemas named
  intro e he
  have topic : Bash.CleanTopic e.topic := clean.topics _ (List.mem_map_of_mem he)
  have flags : e.flags.Nodup := (consistent.listed_entries.longs e he).of_map _
  have typed := consistent.typed e he
  rcases List.mem_append.mp he with builtin | accepted
  · have unbarred : ∀ e ∈ Catalogue.builtinEntries, ∀ flag ∈ e.flags,
        ∀ spelling ∈ flag.spellings, '|' ∉ spelling.toList := by decide
    have spellings : ∀ e ∈ Catalogue.builtinEntries, (e.flags.flatMap Flag.spellings).Nodup := by
      decide
    exact ⟨topic, typed, unbarred e builtin, flags, spellings e builtin⟩
  · obtain ⟨command, hcommand, rfl⟩ := List.mem_map.mp accepted
    have checked := (consistent.checked command hcommand).flags
    have spellable : ∀ flag ∈ command.flags, flag.Spellable :=
      fun flag hflag => (Compiler.spelled_of_mapM_checkArg checked hflag).1
    refine ⟨topic, typed, ?_, flags, spellings_nodup spellable (consistent.flags_apart hcommand)⟩
    intro flag hflag
    obtain ⟨arg, -, passed⟩ := exists_of_mem_mapM checked hflag
    obtain ⟨long, short, type, -, -, default, -, rfl⟩ := Compiler.checkArg_eq_ok_iff.mp passed
    exact bar_not_mem_spellings long short

theorem map_offer_slot? (flag : Flag) : flag.slot?.map Slot.offer = flag.offer? := by
  rw [Flag.slot?, Option.map_map]
  exact Option.map_id'

section Flags

variable {e : Catalogue.Entry} (told : Told e)
include told

-- No two flags of a command share a spelling.
theorem Told.apart {flag other : Flag} (hflag : flag ∈ e.flags) (hother : other ∈ e.flags)
    (differ : other ≠ flag) : ∀ spelling ∈ flag.spellings, spelling ∉ other.spellings := by
  have disjoint := (List.nodup_flatMap.mp told.spellings).2
  have : Std.Symm (Function.onFun List.Disjoint Flag.spellings) :=
    ⟨fun _ _ apart _ first second => apart second first⟩
  intro spelling own
  exact disjoint.forall hflag hother (Ne.symm differ) own

theorem Told.readable : ∀ slot ∈ e.topic.slots, Bash.Readable slot := by
  intro slot hslot
  obtain ⟨flag, hflag, found⟩ := List.mem_filterMap.mp hslot
  obtain ⟨offer, -, rfl⟩ := Option.map_eq_some_iff.mp found
  refine ⟨?_, ?_, told.topic.offers _ hslot⟩
  · exact List.ne_nil_of_mem (mem_spellings.mpr (.inl rfl))
  · exact fun spelling hspelling =>
      ⟨told.topic.spellings _ hslot spelling hspelling, told.unbarred flag hflag spelling hspelling⟩

/-- Of the slots of a command, those with a spelling of a flag are the flag's own. -/
theorem Told.filter_slots {flag : Flag} (hflag : flag ∈ e.flags) :
    e.topic.slots.filter (fun slot => slot.spellings.any flag.spellings.contains) =
      flag.slot?.toList := by
  let shared (slot : Slot) : Bool := slot.spellings.any flag.spellings.contains
  have others : ∀ other ∈ e.flags, other ≠ flag → other.slot?.toList.filter shared = [] := by
    intro other hother differ
    rw [List.filter_eq_nil_iff]
    intro slot hslot common
    obtain ⟨offer, -, rfl⟩ := Option.map_eq_some_iff.mp (Option.mem_toList.mp hslot)
    obtain ⟨spelling, theirs, own⟩ := List.any_eq_true.mp common
    exact told.apart hflag hother differ spelling (List.contains_iff_mem.mp own) theirs
  have own : flag.slot?.toList.filter shared = flag.slot?.toList := by
    rw [List.filter_eq_self]
    intro slot hslot
    obtain ⟨offer, -, rfl⟩ := Option.map_eq_some_iff.mp (Option.mem_toList.mp hslot)
    have long : "--" ++ flag.long ∈ flag.spellings := mem_spellings.mpr (.inl rfl)
    exact List.any_eq_true.mpr ⟨_, long, List.contains_iff_mem.mpr long⟩
  show (e.flags.filterMap Flag.slot?).filter shared = _
  rw [List.filterMap_eq_flatMap_toList, List.filter_flatMap, flatMap_only told.flags hflag others,
    own]

/-- Of the specifications of a command, one is of a spelling of a flag. -/
theorem Told.filter_specified {flag : Flag} (hflag : flag ∈ e.flags) {spelling : String}
    (hspelling : spelling ∈ flag.spellings) :
    (e.topic.spellings.map Zsh.specified).filter (fun option => option.text = spelling) =
      [⟨spelling, describedBy flag.long flag.help, flag.offer?⟩] := by
  let specs (flag : Flag) : List Zsh.OptionSpec := flag.described.map Zsh.specified
  have shape : ∀ flag : Flag, (specs flag).filter (fun option => option.text = spelling) =
      (flag.spellings.filter (· = spelling)).map fun text =>
        ⟨text, describedBy flag.long flag.help, flag.offer?⟩ := by
    intro flag
    show ((flag.spellings.map _).map Zsh.specified).filter _ = _
    rw [List.map_map, List.filter_map, ← map_offer_slot?]
    rfl
  have others : ∀ other ∈ e.flags, other ≠ flag →
      (specs other).filter (fun option => option.text = spelling) = [] := by
    intro other hother differ
    have absent := told.apart hflag hother differ spelling hspelling
    rw [shape, List.filter_eq_nil_iff.mpr]
    · rfl
    · intro text htext same
      exact absent (of_decide_eq_true same ▸ htext)
  have once : flag.spellings.filter (· = spelling) = [spelling] := by
    have nodup := (List.nodup_flatMap.mp told.spellings).1 flag hflag
    rw [List.filter_eq, List.count_eq_one_of_mem nodup hspelling]
    rfl
  show ((e.flags.flatMap Flag.described).map Zsh.specified).filter _ = _
  rw [List.map_flatMap, List.filter_flatMap, flatMap_only told.flags hflag others, shape, once]
  rfl

end Flags

/-! ## 2. Both scripts -/

/-- What the arms of a command have for one of its flags, read as slots in one script and as
specifications in the other: a slot with all spellings of the flag if its type offers something, and
none with any of them otherwise; and for each spelling one specification, with the same offer. -/
structure Offered (slots : List Slot) (options : List Zsh.OptionSpec) (flag : Flag) : Prop where
  typed : flag.Typed
  slot : slots.filter (fun slot => slot.spellings.any flag.spellings.contains) =
    (flag.offer?.map (Slot.mk flag.spellings)).toList
  options : ∀ spelling ∈ flag.spellings, options.filter (fun option => option.text = spelling) =
    [⟨spelling, describedBy flag.long flag.help, flag.offer?⟩]

def toneFlag : Flag := { long := "tone", short := "t", type := "enum:warm:cold", scope := "greet" }

end Toolsmith.Completion
