import AdlTables.Console
import Mathlib.Data.List.TakeWhile

/-! # The head of a phase on a terminal

The head of a phase is a title between two rules. The rules stand out on a terminal. The title does
not: it is recognised by the blanks in front of it, and these are removed before one looks for them.

* `Console.isPhaseHead_trimStart` -- without blanks in front only rules are recognised
* `Console.color?_phaseTitle` -- a title has no colour
* `Console.writeAll_phase` -- how the head of a phase is written
-/

namespace AdlTables

namespace Text

variable {chars : List Char} {c : Char} {s : String}

private theorem mem_dropBlank (member : c ∈ chars) (notBlank : ¬ isBlank c) :
    c ∈ dropBlank chars := by
  rw [← List.takeWhile_append_dropWhile (p := isBlank) (l := chars)] at member
  exact (List.mem_append.1 member).resolve_left fun blank => notBlank (List.mem_takeWhile_imp blank)

private theorem mem_of_mem_dropBlank (member : c ∈ dropBlank chars) : c ∈ chars :=
  (List.dropWhile_suffix isBlank).subset member

/-- What remains has no blank in front. -/
theorem dropBlank_ne_cons {rest : List Char} (blank : isBlank c) : dropBlank chars ≠ c :: rest := by
  intro same
  have first := List.head?_dropWhile_not isBlank chars
  rw [show chars.dropWhile isBlank = c :: rest from same] at first
  exact absurd blank (Bool.eq_false_iff.1 first)

private theorem toList_trimStart (s : String) : (trimStart s).toList = dropBlank s.toList :=
  String.toList_ofList

private theorem toList_upper (s : String) : (upper s).toList = s.toList.flatMap Case.capital :=
  String.toList_ofList

private theorem mem_trim (member : c ∈ s.toList) (notBlank : ¬ isBlank c) :
    c ∈ (trim s).toList := by
  rw [trim, String.toList_ofList, List.mem_reverse]
  exact mem_dropBlank (List.mem_reverse.2 (mem_dropBlank member notBlank)) notBlank

end Text

private theorem eq_of_mem_rule {c : Char} (member : c ∈ rule.toList) : c = '=' := by
  have isRule : rule.toList = List.replicate 60 '=' := String.toList_ofList
  rw [isRule] at member
  exact List.eq_of_mem_replicate member

/-- Whether a name is of seven-bit characters, with a letter among them. -/
structure IsPhaseName (name : String) : Prop where
  sevenBit : ∀ c ∈ name.toList, c.toNat < 128
  letter : ∃ c ∈ name.toList, c.isAlpha

namespace IsPhaseName

variable {name : String}

/-- The title has blanks and the capital forms of the characters of the name. -/
theorem mem_title (of : IsPhaseName name) {c : Char} :
    c ∈ (phaseTitle name).toList ↔ c = ' ' ∨ ∃ small ∈ name.toList, c = small.toUpper := by
  have capitals : ∀ small ∈ name.toList, Text.Case.capital small = [small.toUpper] :=
    fun small member => if_pos (of.sevenBit small member)
  rw [phaseTitle, String.toList_append, List.mem_append, Text.toList_upper, List.mem_flatMap]
  refine or_congr (by simp) (exists_congr fun small => and_congr_right fun member => ?_)
  rw [capitals small member, List.mem_singleton]

private theorem title_sevenBit (of : IsPhaseName name) {c : Char}
    (member : c ∈ (phaseTitle name).toList) : c.toNat < 128 := by
  have upper : ∀ n < 128, (Char.ofNat n).toUpper.toNat < 128 := by decide
  obtain rfl | ⟨small, inName, rfl⟩ := of.mem_title.1 member
  · decide
  · have sevenBit := upper small.toNat (of.sevenBit small inName)
    rwa [Char.ofNat_toNat] at sevenBit

private theorem exists_capital (of : IsPhaseName name) :
    ∃ c ∈ (phaseTitle name).toList, ¬ Text.isBlank c ∧ c ≠ '=' := by
  have upper : ∀ n < 128, (Char.ofNat n).isAlpha →
      ¬ Text.isBlank (Char.ofNat n).toUpper ∧ (Char.ofNat n).toUpper ≠ '=' := by decide
  obtain ⟨small, inName, isLetter⟩ := of.letter
  have capital := upper small.toNat (of.sevenBit small inName)
  rw [Char.ofNat_toNat] at capital
  exact ⟨small.toUpper, of.mem_title.2 (.inr ⟨small, inName, rfl⟩), capital isLetter⟩

end IsPhaseName

namespace Console

variable {message name : String}

/-- The colour of the head of a phase. -/
def headColor : String :=
  bold ++ markerColor .highlight

/-- A text in the colour of the head of a phase. -/
def headed (text : String) : String :=
  headColor ++ text ++ plain

/-- Once the blanks in front are removed, only a rule is recognised. -/
theorem isPhaseHead_trimStart :
    isPhaseHead (Text.trimStart message) = (Text.trim (Text.trimStart message) == rule) := by
  have noBlank : "  ".isPrefixOf (Text.trimStart message) = false := by
    refine Bool.eq_false_iff.2 fun indented => ?_
    obtain ⟨rest, same⟩ := String.startsWith_string_iff.1 indented
    rw [Text.toList_trimStart] at same
    exact Text.dropBlank_ne_cons (c := ' ') (by decide) same.symm
  rw [isPhaseHead, noBlank, Bool.false_and, Bool.or_false]

/-- A message of seven-bit characters has no sign. -/
theorem signColor?_of_sevenBit (sevenBit : ∀ c ∈ message.toList, c.toNat < 128) :
    signColor? message = if isPhaseHead message then some headColor else none := by
  have unsigned : [Marker.success, .progress, .highlight].find?
      (fun m => m.sign.isPrefixOf message) = none := by
    refine List.find?_eq_none.2 fun m _ signed => ?_
    obtain ⟨c, inSign, large⟩ : ∃ c ∈ m.sign.toList, 128 ≤ c.toNat := by
      cases m <;> simp [Marker.sign]
    have small := sevenBit c ((String.startsWith_string_iff.1 signed).subset inSign)
    omega
  rw [signColor?, unsigned]
  rfl

private theorem color?_rule : color? .info rule = some headColor := by
  have trimmed : Text.trimStart rule = rule := by decide
  have sevenBit : ∀ c ∈ rule.toList, c.toNat < 128 := fun c member => by
    rw [eq_of_mem_rule member]
    decide
  have recognised : isPhaseHead rule := by
    rw [isPhaseHead, show Text.trim rule = rule by decide, beq_self_eq_true, Bool.true_or]
  rw [color?, trimmed, signColor?_of_sevenBit sevenBit, if_pos recognised]

private theorem color?_phaseTitle (of : IsPhaseName name) :
    color? .info (phaseTitle name) = none := by
  have sevenBit : ∀ c ∈ (Text.trimStart (phaseTitle name)).toList, c.toNat < 128 := by
    intro c member
    rw [Text.toList_trimStart] at member
    exact of.title_sevenBit (Text.mem_of_mem_dropBlank member)
  obtain ⟨c, inTitle, notBlank, noRule⟩ := of.exists_capital
  have unrecognised : ¬ isPhaseHead (Text.trimStart (phaseTitle name)) := by
    intro recognised
    rw [isPhaseHead_trimStart, beq_iff_eq] at recognised
    have kept : c ∈ (Text.trimStart (phaseTitle name)).toList := by
      rw [Text.toList_trimStart]
      exact Text.mem_dropBlank inTitle notBlank
    have inRule := Text.mem_trim kept notBlank
    rw [recognised] at inRule
    exact noRule (eq_of_mem_rule inRule)
  rw [color?, signColor?_of_sevenBit sevenBit, if_neg unrecognised]

variable {c : Console} {level : Level} {text color : String}

private theorem write_of_color (isColored : c.isColored)
    (fits : c.layout.apply level message = some text)
    (colored : color? level message = some color) :
    c.write (.message level message false) = color ++ text ++ plain ++ "\n" := by
  simp [write, format, fits, isColored, colored]

private theorem write_of_plain (fits : c.layout.apply level message = some text)
    (uncolored : color? level message = none) :
    c.write (.message level message false) = text ++ "\n" := by
  simp [write, format, fits, uncolored]

section

variable {least : Level} {ruleText titleText : String} (isColored : c.isColored)
  (shown : least.rank ≤ Level.info.rank) (ruleFits : c.layout.apply .info rule = some ruleText)

include isColored shown ruleFits

/-- The two rules of a phase stand out, whatever its name. -/
theorem writeAll_entries (name : String) :
    c.writeAll least (Journaled.phase name).entries =
      headed ruleText ++ "\n" ++ c.write (.message .info (phaseTitle name) false)
        ++ (headed ruleText ++ "\n") := by
  have entries : (Journaled.phase name).entries.filter (·.isShownAt least) =
      [.message .info rule false, .message .info (phaseTitle name) false,
        .message .info rule false] :=
    List.filter_eq_self.2 (by simp [Journaled.phase, Journaled.note, bind, Entry.isShownAt, shown])
  rw [writeAll, entries, List.map_cons, List.map_cons, List.map_cons, List.map_nil,
    write_of_color isColored ruleFits color?_rule]
  simp [headed, String.append_assoc]

/-- On a terminal with colours the two rules of a phase stand out, and the title between them does
not: it is written as it is laid out, whatever the name of the phase. -/
theorem writeAll_phase (of : IsPhaseName name)
    (titleFits : c.layout.apply .info (phaseTitle name) = some titleText) :
    c.writeAll least (Journaled.phase name).entries =
      headed ruleText ++ "\n" ++ (titleText ++ "\n") ++ (headed ruleText ++ "\n") := by
  rw [writeAll_entries isColored shown ruleFits, write_of_plain titleFits (color?_phaseTitle of)]

end

private theorem apply_usual (level : Level) (message : String) :
    Layout.usual.apply level message = some (level.label ++ ": " ++ message) := by
  simp [Layout.apply, Layout.usual, Layout.plainly, Layout.fields, Layout.Directive.write?,
    Layout.Directive.written?, Layout.Directive.text, Layout.Directive.pad, Value.display,
    List.lookup_cons, String.join]

private theorem isPhaseName_loading : IsPhaseName "ADL loading" :=
  ⟨by simp, 'A', by decide, by decide⟩

def terminal : Console := ⟨.usual, true, []⟩

/-- The title of a phase does not always stand out as its rules do. -/
theorem phase_not_always_headed :
    ¬ ∀ (c : Console) (least : Level) (name ruleText titleText : String), c.isColored →
      least.rank ≤ Level.info.rank → IsPhaseName name →
      c.layout.apply .info rule = some ruleText →
      c.layout.apply .info (phaseTitle name) = some titleText →
      c.writeAll least (Journaled.phase name).entries =
        headed ruleText ++ "\n" ++ (headed titleText ++ "\n") ++ (headed ruleText ++ "\n") := by
  intro claimed
  have headedTitle := claimed terminal .info "ADL loading" _ _ rfl (by decide) isPhaseName_loading
    (apply_usual _ _) (apply_usual _ _)
  rw [writeAll_entries rfl (by decide) (apply_usual _ _),
    write_of_plain (apply_usual _ _) (color?_phaseTitle isPhaseName_loading)] at headedTitle
  have lengths := congrArg String.length headedTitle
  simp only [headed, String.length_append] at lengths
  have colour : 0 < headColor.length := by decide
  omega

/-- The head of the loading: its title is written without a colour. -/
theorem writeAll_loading :
    terminal.isColored ∧ IsPhaseName "ADL loading" ∧
      terminal.layout.apply .info rule = some ("INFO: " ++ rule) ∧
      terminal.layout.apply .info (phaseTitle "ADL loading") = some "INFO:   ADL LOADING" ∧
      terminal.writeAll .debug (Journaled.phase "ADL loading").entries =
        headed ("INFO: " ++ rule) ++ "\n" ++ ("INFO:   ADL LOADING" ++ "\n")
          ++ (headed ("INFO: " ++ rule) ++ "\n") :=
  ⟨rfl, isPhaseName_loading, apply_usual _ _, apply_usual _ _,
    writeAll_phase rfl (by decide) (apply_usual _ _) isPhaseName_loading (apply_usual _ _)⟩

end Console

end AdlTables
