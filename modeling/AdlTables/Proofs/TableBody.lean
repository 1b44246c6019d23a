import AdlTables.Script
import AdlTables.Proofs.Outcome
import Mathlib.Data.List.DropRight
import Mathlib.Data.List.Infix

/-! # The body of a table

The body of a table can be read back. The comma of a line stands before its spaces and its comment,
so that cutting the line at the first dashes leaves the code with the comma, whether the code ends
before the column of comments or behind it, and what follows the dashes is the comment.

* `dropInfix?_append` -- a list is cut at a separator that does not begin earlier
* `ColumnLine.exists_write` -- a line is written so that its code and its comment can be read
* `ColumnLine.exists_writeAll` -- what is read of a body: codes with their commas, and comments
-/

namespace AdlTables

section

variable {α : Type} {front back sep : List α} {last c : α}

/-- What ends in another item than a list occurs before the end of the list, if at all. -/
theorem not_infix_concat (absent : ¬ sep <:+: front) (ends : sep.getLast? = some last)
    (differ : last ≠ c) : ¬ sep <:+: front ++ [c] := by
  intro found
  obtain atEnd | before := List.infix_concat_iff.1 found
  · obtain rfl | ⟨rest, rfl, _⟩ := List.suffix_concat_iff.1 atEnd
    · cases ends
    · rw [List.getLast?_concat] at ends
      exact differ (Option.some.inj ends).symm
  · exact absent before

private theorem rdropWhile_append_replicate {p : α → Bool} (holds : p c) (width : Nat) :
    (front ++ List.replicate width c).rdropWhile p = front.rdropWhile p := by
  induction width with
  | zero => rw [List.replicate_zero, List.append_nil]
  | succ width ih =>
    rw [List.replicate_succ', ← List.append_assoc, List.rdropWhile_concat_pos p _ c holds, ih]

variable [BEq α] [LawfulBEq α]

/-- A list is cut at a separator if none is complete before the last item of that one. -/
theorem dropInfix?_append (absent : ¬ sep <:+: front ++ sep.dropLast) :
    (front ++ sep ++ back).dropInfix? sep = some (front, back) := by
  have notNil : sep ≠ [] := by
    rintro rfl
    exact absent List.nil_infix
  refine List.dropInfix?_eq_some_iff.2 ⟨⟨sep, rfl, beq_self_eq_true sep⟩, ?_⟩
  intro earlier found rest cut same
  obtain rfl := eq_of_beq same
  by_contra shorter
  have within : earlier ++ found <+: front ++ found.dropLast := by
    refine List.prefix_of_prefix_length_le (List.prefix_append _ rest) ?_ ?_
    · rw [← cut]
      exact ((List.prefix_append_right_inj front).2 (List.dropLast_prefix found)).trans
        (List.prefix_append _ back)
    · have := List.length_pos_of_ne_nil notNil
      rw [List.length_append, List.length_append, List.length_dropLast]
      omega
  exact absent ((List.suffix_append earlier found).isInfix.trans within.isInfix)

private theorem dropInfix?_eq_none (absent : ¬ sep <:+: front) :
    front.dropInfix? sep = none := by
  refine Option.eq_none_iff_forall_ne_some.2 fun (before, after) found => absent ?_
  obtain ⟨⟨sep', cut, same⟩, _⟩ := List.dropInfix?_eq_some_iff.1 found
  obtain rfl := eq_of_beq same
  exact ⟨before, after, cut.symm⟩

end

namespace ColumnLine

/-- The dashes that begin a comment. -/
def dashes : List Char := ['-', '-']

/-- The code of a line without its indent: what stands before the first dashes, if there are any,
without the spaces at its end. -/
def codeOf (text : List Char) : List Char :=
  (((text.dropInfix? dashes).map Prod.fst).getD text).rdropWhile (· == ' ')

/-- The comment of a line: what follows the first dashes with a space. -/
def commentOf (text : List Char) : Option (List Char) :=
  (text.dropInfix? (dashes ++ [' '])).map Prod.snd

/-- The code and the comment of a line that is indented. -/
def read? (written : String) : Option (String × Option String) :=
  (written.toList.dropPrefix? [' ', ' ']).map fun text =>
    (.ofList (codeOf text), (commentOf text).map .ofList)

/-- The comment of a line, if it has one that is not empty. -/
def comment? (line : ColumnLine) : Option String :=
  if line.comment.isEmpty then none else line.comment.text?

/-- A code with a comma, unless it is the last. -/
def punctuate (code : String) (last : Bool) : String :=
  if last then code else code ++ ","

/-- Codes with a comma each, but the last. -/
def punctuated (codes : List String) : List String :=
  codes.dropLast.map (· ++ ",") ++ codes.getLast?.toList

/-- Whether a code has no dashes, does not end in a space and stands in one line. -/
structure IsCode (code : List Char) : Prop where
  noDashes : ¬ dashes <:+: code
  trimmed : code.getLast? ≠ some ' '
  oneLine : '\n' ∉ code

instance (code : List Char) : Decidable (IsCode code) :=
  decidable_of_iff (¬ dashes <:+: code ∧ code.getLast? ≠ some ' ' ∧ '\n' ∉ code)
    ⟨fun ⟨noDashes, trimmed, oneLine⟩ => ⟨noDashes, trimmed, oneLine⟩,
      fun of => ⟨of.noDashes, of.trimmed, of.oneLine⟩⟩

/-- Whether the code of a line can be told from a comment, and the comment, if the line has one, is
a text in one line. -/
structure IsPlain (line : ColumnLine) : Prop where
  code : IsCode line.code.toList
  comment : line.comment = .null ∨ ∃ s, line.comment = .text s ∧ '\n' ∉ s.toList

private theorem punctuated_cons (code : String) (codes : List String) :
    punctuated (code :: codes) = punctuate code codes.isEmpty :: punctuated codes := by
  cases codes <;> rfl

namespace IsCode

variable {code : List Char}

private theorem concat_comma (of : IsCode code) : IsCode (code ++ [',']) where
  noDashes := not_infix_concat of.noDashes rfl (by decide)
  trimmed := by simp
  oneLine := by simp [of.oneLine]

private theorem punctuate {code : String} (of : IsCode code.toList) (last : Bool) :
    IsCode (punctuate code last).toList := by
  cases last with
  | true => exact of
  | false =>
    rw [ColumnLine.punctuate, if_neg Bool.false_ne_true, String.toList_append]
    exact of.concat_comma

private theorem rdropWhile_eq (of : IsCode code) : code.rdropWhile (· == ' ') = code := by
  refine List.rdropWhile_eq_self_iff.2 fun notNil blank => of.trimmed ?_
  rw [List.getLast?_eq_some_getLast notNil, eq_of_beq blank]

/-- No dashes begin in a code or in the spaces behind it. -/
theorem noDashes_padded (of : IsCode code) (width : Nat) :
    ¬ dashes <:+: code ++ List.replicate width ' ' := by
  induction width with
  | zero =>
    rw [List.replicate_zero, List.append_nil]
    exact of.noDashes
  | succ width ih =>
    rw [List.replicate_succ', ← List.append_assoc]
    exact not_infix_concat ih rfl (by decide)

private theorem codeOf_self (of : IsCode code) : codeOf code = code := by
  rw [codeOf, dropInfix?_eq_none of.noDashes]
  exact of.rdropWhile_eq

private theorem commentOf_self (of : IsCode code) : commentOf code = none := by
  have absent : ¬ dashes ++ [' '] <:+: code := fun found =>
    of.noDashes ((List.prefix_append dashes _).isInfix.trans found)
  rw [commentOf, dropInfix?_eq_none absent]
  rfl

section

variable (of : IsCode code) (width : Nat) (comment : List Char)

include of

/-- The spaces before a comment are cut off with it. -/
theorem codeOf_commented :
    codeOf (code ++ List.replicate (width + 1) ' ' ++ dashes ++ ' ' :: comment) = code := by
  have absent : ¬ dashes <:+: code ++ List.replicate (width + 1) ' ' ++ ['-'] := by
    intro found
    obtain ⟨before, atEnd⟩ | before := List.infix_concat_iff.1 found
    · -- The item before the last one is a space.
      have same : before ++ dashes = code ++ List.replicate width ' ' ++ [' ', '-'] := by
        rw [atEnd, List.replicate_succ', ← List.append_assoc, List.append_assoc _ [' ']]
        rfl
      exact absurd (List.append_inj' same rfl).2 (by decide)
    · exact of.noDashes_padded (width + 1) before
  rw [codeOf, dropInfix?_append absent, Option.map_some, Option.getD_some,
    rdropWhile_append_replicate rfl, of.rdropWhile_eq]

private theorem commentOf_commented :
    commentOf (code ++ List.replicate (width + 1) ' ' ++ dashes ++ ' ' :: comment)
      = some comment := by
  have noDashes := of.noDashes_padded (width + 1)
  have absent : ¬ dashes ++ [' '] <:+: code ++ List.replicate (width + 1) ' ' ++ dashes := by
    have before : ¬ dashes ++ [' '] <:+: code ++ List.replicate (width + 1) ' ' := fun found =>
      noDashes ((List.prefix_append dashes _).isInfix.trans found)
    have between := not_infix_concat (c := '-') before rfl (by decide)
    have after := not_infix_concat (c := '-') between rfl (by decide)
    rwa [List.append_assoc _ ['-'] ['-']] at after
  rw [commentOf, List.append_cons, List.append_assoc _ dashes, dropInfix?_append absent]
  rfl

end

end IsCode

variable {line : ColumnLine}

private theorem read?_indent (text : String) :
    read? ("  " ++ text) =
      some (.ofList (codeOf text.toList), (commentOf text.toList).map .ofList) := by
  rw [read?, String.toList_append, List.dropPrefix?_append_of_beq text.toList (by decide)]
  rfl

private theorem write_of_isEmpty (noComment : line.comment.isEmpty) (last : Bool) :
    line.write last = .ok ("  " ++ punctuate line.code last) := by
  rw [write, if_pos noComment]
  rfl

/-- A comment stands behind the spaces that are missing to its column, and one more. -/
theorem write_of_text {s : String} (commented : line.comment = .text s) (notNil : s ≠ "")
    (last : Bool) :
    line.write last = .ok ("  " ++ .ofList ((punctuate line.code last).toList
      ++ List.replicate (commentColumn - (punctuate line.code last).length + 1) ' '
      ++ dashes ++ ' ' :: s.toList)) := by
  have present : ¬ line.comment.isEmpty := by
    rw [commented]
    exact fun isNil => notNil (eq_of_beq isNil)
  rw [write, if_neg present, commented]
  refine congrArg Except.ok (String.toList_injective ?_)
  simp [padRight, punctuate, dashes, String.toList_append, List.replicate_succ']

/-- A line is written in one line, and its code and comment can be read from it. -/
theorem exists_write (plain : line.IsPlain) (last : Bool) :
    ∃ written, line.write last = .ok written ∧ '\n' ∉ written.toList ∧
      read? written = some (punctuate line.code last, line.comment?) := by
  have of : IsCode (punctuate line.code last).toList := plain.code.punctuate last
  by_cases noComment : line.comment.isEmpty
  · refine ⟨_, write_of_isEmpty noComment last, ?_, ?_⟩
    · simp [String.toList_append, of.oneLine]
    · rw [read?_indent, of.codeOf_self, of.commentOf_self, String.ofList_toList, comment?,
        if_pos noComment]
      rfl
  · obtain null | ⟨s, commented, oneLine⟩ := plain.comment
    · rw [null] at noComment
      exact absurd rfl noComment
    · have notNil : s ≠ "" := by
        rintro rfl
        rw [commented] at noComment
        exact noComment rfl
      refine ⟨_, write_of_text commented notNil last, ?_, ?_⟩
      · simp [String.toList_append, of.oneLine, oneLine, dashes]
      · rw [read?_indent, String.toList_ofList, of.codeOf_commented, of.commentOf_commented,
          Option.map_some, String.ofList_toList, String.ofList_toList, comment?, if_neg noComment,
          commented]
        rfl

namespace Account

/-- The body of a table: a code that reaches the column of comments, with dashes in its comment,
one with a single dash, and one without a comment. -/
def lines : List ColumnLine := [
  ⟨"account_holder_identifier nvarchar(64) not null", .text "Reference -- to a holder"⟩,
  ⟨"balance integer default -1", .text "Integer"⟩,
  ⟨"primary key(id)", .null⟩]

private theorem isPlain_of_mem : ∀ line ∈ lines, line.IsPlain := by
  refine List.forall_mem_cons.2 ⟨⟨by decide, .inr ⟨_, rfl, by decide⟩⟩, ?_⟩
  refine List.forall_mem_cons.2 ⟨⟨by decide, .inr ⟨_, rfl, by decide⟩⟩, ?_⟩
  exact List.forall_mem_singleton.2 ⟨by decide, .inl rfl⟩

end Account

/-- The body of a table has a line for each of its lines. Each of them is one line, and what can be
read of them are the codes, each with a comma but the last, and the comments. -/
theorem exists_writeAll {lines : List ColumnLine} (plain : ∀ line ∈ lines, line.IsPlain) :
    ∃ written, writeAll lines = .ok written ∧ written.length = lines.length ∧
      (∀ w ∈ written, '\n' ∉ w.toList) ∧
      ∃ read, written.mapM read? = some read ∧
        read.map Prod.fst = punctuated (lines.map (·.code)) ∧
        read.map Prod.snd = lines.map comment? := by
  induction lines with
  | nil => exact ⟨[], rfl, rfl, by simp, [], rfl, rfl, rfl⟩
  | cons line rest ih =>
    obtain ⟨first, isFirst, oneLine, readFirst⟩ :=
      exists_write (plain line List.mem_cons_self) rest.isEmpty
    obtain ⟨written, isRest, lengths, oneLines, read, readRest, codes, comments⟩ :=
      ih fun line member => plain line (List.mem_cons_of_mem _ member)
    refine ⟨first :: written, ?_, ?_, ?_,
      (punctuate line.code rest.isEmpty, line.comment?) :: read, ?_, ?_, ?_⟩
    · rw [writeAll, isFirst, isRest]
      rfl
    · rw [List.length_cons, List.length_cons, lengths]
    · exact List.forall_mem_cons.2 ⟨oneLine, oneLines⟩
    · rw [List.mapM_cons, readFirst, readRest]
      rfl
    · rw [List.map_cons, List.map_cons, punctuated_cons, List.isEmpty_map, codes]
    · rw [List.map_cons, List.map_cons, comments]

/-- Dashes in a comment hide no comma, nor does a code that reaches the column of comments. -/
theorem exists_writeAll_account :
    (∀ line ∈ Account.lines, line.IsPlain) ∧
      ∃ written, writeAll Account.lines = .ok written ∧ written.length = 3 ∧
        (∀ w ∈ written, '\n' ∉ w.toList) ∧
        ∃ read, written.mapM read? = some read ∧
          read.map Prod.fst = ["account_holder_identifier nvarchar(64) not null,",
            "balance integer default -1,", "primary key(id)"] ∧
          read.map Prod.snd = [some "Reference -- to a holder", some "Integer", none] :=
  ⟨Account.isPlain_of_mem, exists_writeAll Account.isPlain_of_mem⟩

end ColumnLine

end AdlTables
