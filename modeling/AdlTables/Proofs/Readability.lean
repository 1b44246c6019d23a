import AdlTables.Proofs.Kind
import AdlTables.Proofs.Entries
import Mathlib.Data.Bool.AllAny

/-! # Reading the text of a type

In comments a type is written with its arguments in angle brackets and commas between them. If no
name has one of these characters, the text can be read in one way only: a name goes up to the first
of them, and an argument up to the comma or bracket that ends it. What is read is the tree of the
unqualified names, with the two types apart that comments name with their module. Nothing else is
told by the text, neither the module of another declaration nor whether a name is one of a
declaration, of a primitive or of a parameter.
-/

namespace AdlTables

/-- Lists are told from what stands behind them if none of their items is a mark, and nothing stands
behind them or a mark comes first. -/
theorem append_inj_of_mark {α : Type} {isMark : α → Prop} {front front' back back' : List α}
    (plain : ∀ x ∈ front, ¬ isMark x) (plain' : ∀ x ∈ front', ¬ isMark x)
    (marked : ∀ x ∈ back.head?, isMark x) (marked' : ∀ x ∈ back'.head?, isMark x)
    (joined : front ++ back = front' ++ back') : front = front' ∧ back = back' := by
  induction front generalizing front' with
  | nil =>
    cases front' with
    | nil => exact ⟨rfl, joined⟩
    | cons x rest =>
      obtain rfl : back = x :: (rest ++ back') := joined
      exact (plain' x List.mem_cons_self (marked x rfl)).elim
  | cons x rest ih =>
    cases front' with
    | nil =>
      obtain rfl : x :: (rest ++ back) = back' := joined
      exact (plain x List.mem_cons_self (marked' x rfl)).elim
    | cons y rest' =>
      obtain ⟨rfl, later⟩ := List.cons.inj joined
      obtain ⟨rfl, same⟩ := ih (fun x member => plain x (List.mem_cons_of_mem _ member))
        (fun x member => plain' x (List.mem_cons_of_mem _ member)) later
      exact ⟨rfl, same⟩

namespace ScopedName

variable {name name' : ScopedName}

/-- The types that comments name with their module. -/
def qualified : List ScopedName := [.dbKey, .instant]

private theorem isText_of_mem (member : name ∈ qualified) : name.IsText := by
  obtain rfl | rfl := List.mem_pair.1 member
  · exact ⟨_, _, rfl⟩
  · exact ⟨_, _, rfl⟩

private theorem point_mem_display (member : name ∈ qualified) : '.' ∈ name.display.toList := by
  obtain rfl | rfl := List.mem_pair.1 member <;> decide

private theorem display_inj_of_mem (member : name ∈ qualified) (member' : name' ∈ qualified)
    (same : name.display = name'.display) : name = name' := by
  obtain rfl | rfl := List.mem_pair.1 member <;> obtain rfl | rfl := List.mem_pair.1 member'
  · rfl
  · exact absurd same (by decide)
  · exact absurd same (by decide)
  · rfl

end ScopedName

namespace TypeRef

open ScopedName

variable {head head' : TypeRef} {v v' : Value}

def marks : List Char := ['<', '>', ',']

/-- Whether a text has no marks and no points. -/
def IsPlain (s : String) : Prop :=
  ∀ c ∈ s.toList, c ∉ marks ∧ c ≠ '.'

-- The instance is given, since the search may find one that goes through all characters there are.
instance : DecidablePred IsPlain := fun s => List.decidableBAll _ s.toList

/-- Whether the unqualified name at a head is a text without marks and points. -/
def HasPlainName (head : TypeRef) : Prop :=
  ∃ s ∈ head.shortName.text?, IsPlain s

instance : DecidablePred HasPlainName := fun head =>
  inferInstanceAs (Decidable (∃ s ∈ head.shortName.text?, IsPlain s))

/-- Names that comments write with their module have no marks. -/
theorem unmarked_display {name : ScopedName} (member : name ∈ qualified) :
    ∀ c ∈ name.display.toList, c ∉ marks := by
  obtain rfl | rfl := List.mem_pair.1 member
  · exact List.all_iff_forall_prop.1 (by decide)
  · exact List.all_iff_forall_prop.1 (by decide)

/-- Heads with one unqualified name of which both or neither refer to each of the types that
comments name with their module. -/
def ReadsLike (head head' : TypeRef) : Prop :=
  head.shortName = head'.shortName ∧
    ∀ name ∈ [ScopedName.dbKey, .instant], head = .reference name ↔ head' = .reference name

/-- The name that a comment has for a head. -/
theorem label_comment_eq_ok (named : head.label .comment = .ok v) :
    (∃ name ∈ qualified, head = .reference name ∧ v = .text name.display) ∨
      (∀ name ∈ qualified, head ≠ .reference name) ∧ v = head.shortName := by
  cases head with
  | primitive name | parameter name =>
    obtain rfl := Except.ok.inj named
    exact .inr ⟨nofun, rfl⟩
  | reference name =>
    rw [label] at named
    split at named
    · obtain rfl := Except.ok.inj named
      cases found : qualified.find? name.same with
      | some known =>
        have member := List.mem_of_find?_eq_some found
        obtain ⟨moduleName, decl, rfl⟩ := isText_of_mem member
        obtain rfl := eq_of_same (List.find?_some found)
        refine .inl ⟨_, member, rfl, ?_⟩
        rw [commentName?, ← qualified, found]
        rfl
      | none =>
        refine .inr ⟨fun known member here => ?_, ?_⟩
        · obtain rfl : name = known := by simpa using here
          have unlike := List.find?_eq_none.1 found _ member
          obtain ⟨moduleName, decl, rfl⟩ := isText_of_mem member
          simp [ScopedName.same, ofTexts] at unlike
        · rw [commentName?, ← qualified, found]
          rfl
    · cases named

/-- A plain name is shown as it is, or with its module, and has no marks in it. -/
theorem HasPlainName.eq_text (plain : head.HasPlainName) (named : head.label .comment = .ok v) :
    ∃ name : String, v = .text name ∧ ∀ c ∈ name.toList, c ∉ marks := by
  obtain ⟨name, member, -, rfl⟩ | ⟨-, rfl⟩ := label_comment_eq_ok named
  · exact ⟨name.display, rfl, unmarked_display member⟩
  · obtain ⟨name, isText, chars⟩ := plain
    exact ⟨name, Value.text?_eq_some.1 isText, fun c member => (chars c member).1⟩

/-- Only a type that comments name with its module is named in this way. -/
theorem HasPlainName.eq_display_iff {name : ScopedName} (plain : head.HasPlainName)
    (named : head.label .comment = .ok v) (member : name ∈ qualified) :
    v = .text name.display ↔ head = .reference name := by
  obtain ⟨known, member', rfl, rfl⟩ | ⟨other, rfl⟩ := label_comment_eq_ok named
  · simp only [Value.text.injEq, reference.injEq]
    constructor
    · exact display_inj_of_mem member' member
    · rintro rfl
      rfl
  · refine iff_of_false (fun same => ?_) (other name member)
    obtain ⟨short, isText, chars⟩ := plain
    obtain rfl : name.display = short := by simpa [same, Value.text?] using isText
    exact (chars '.' (point_mem_display member)).2 rfl

/-- Comments have one name for two heads exactly if these read alike. -/
theorem label_comment_eq_iff (plain : head.HasPlainName) (plain' : head'.HasPlainName)
    (named : head.label .comment = .ok v) (named' : head'.label .comment = .ok v') :
    v = v' ↔ head.ReadsLike head' := by
  constructor
  · rintro rfl
    have agree (name : ScopedName) (member : name ∈ qualified) :
        head = .reference name ↔ head' = .reference name :=
      (plain.eq_display_iff named member).symm.trans (plain'.eq_display_iff named' member)
    refine ⟨?_, agree⟩
    obtain ⟨name, member, here, -⟩ | ⟨-, short⟩ := label_comment_eq_ok named
    · rw [here, (agree name member).1 here]
    obtain ⟨name, member, here, -⟩ | ⟨-, short'⟩ := label_comment_eq_ok named'
    · rw [here, (agree name member).2 here]
    · exact short.symm.trans short'
  · rintro ⟨short, agree⟩
    obtain ⟨name, member, here, rfl⟩ | ⟨other, rfl⟩ := label_comment_eq_ok named
    · exact ((plain'.eq_display_iff named' member).2 ((agree name member).1 here)).symm
    obtain ⟨name, member, here, -⟩ | ⟨-, rfl⟩ := label_comment_eq_ok named'
    · exact (other name member ((agree name member).2 here)).elim
    · exact short

end TypeRef

namespace TypeExpr

variable {t t' : TypeExpr} {head : TypeRef} {args args' : List TypeExpr} {s s' : String}
  {written written' : List String} {rest rest' : List Char}

/-- Types of one shape, with heads that read alike. -/
inductive ReadsLike : TypeExpr → TypeExpr → Prop
  | node {head head' : TypeRef} {args args' : List TypeExpr} : head.ReadsLike head' →
    List.Forall₂ ReadsLike args args' → ReadsLike (.node head args) (.node head' args')

/-- Whether all unqualified names in a type are texts without marks and points. -/
def HasPlainNames (t : TypeExpr) : Prop :=
  t.Everywhere fun head _ => head.HasPlainName

instance : DecidablePred HasPlainNames := fun t =>
  inferInstanceAs (Decidable (t.Everywhere fun head _ => head.HasPlainName))

/-- A type has a text in comments. -/
def Shows (t : TypeExpr) (s : String) : Prop :=
  t.label .comment = .ok (.text s)

/-- Texts with a comma in front of each. -/
def listed (texts : List String) : List Char :=
  texts.flatMap fun s => ',' :: s.toList

/-- Texts in angle brackets with commas between them, if there are any. -/
def bracketed : List String → List Char
  | [] => []
  | s :: rest => '<' :: s.toList ++ listed rest ++ ['>']

private theorem toList_intercalate_comma (s : String) (rest : List String) :
    (",".intercalate (s :: rest)).toList = s.toList ++ listed rest := by
  rw [String.toList_intercalate, List.map_cons]
  induction rest generalizing s with
  | nil => simp [listed]
  | cons next rest ih =>
    rw [List.map_cons, List.intercalate_cons_cons, ih]
    simp [listed]

private theorem labels_eq_mapM (style : NameStyle) (ts : List TypeExpr) :
    labels style ts = ts.mapM (label style) := by
  induction ts with
  | nil => rfl
  | cons t rest ih => rw [labels, ih, List.mapM_cons]

/-- The text of a type is the name of its head with the texts of its arguments in brackets. -/
theorem Shows.parts (shows : (node head args).Shows s) (plain : head.HasPlainName) :
    ∃ name written, head.label .comment = .ok (.text name) ∧ List.Forall₂ Shows args written ∧
      s.toList = name.toList ++ bracketed written := by
  rw [Shows, label] at shows
  obtain ⟨v, named, shown⟩ := Outcome.bind_eq_ok.1 shows
  obtain ⟨name, rfl, -⟩ := plain.eq_text named
  cases args with
  | nil =>
    obtain rfl : name = s := by simpa using shown
    exact ⟨name, [], named, .nil, by simp [bracketed]⟩
  | cons t rest =>
    rw [List.isEmpty_cons, if_neg Bool.false_ne_true] at shown
    obtain ⟨values, labelled, shown⟩ := Outcome.bind_eq_ok.1 shown
    obtain ⟨written, texts, shown⟩ := Outcome.bind_eq_ok.1 shown
    obtain rfl := allTexts_eq_ok.1 texts
    obtain rfl : name ++ "<" ++ ",".intercalate written ++ ">" = s := by simpa using shown
    rw [labels_eq_mapM, Outcome.mapM_eq_ok, List.forall₂_map_right_iff] at labelled
    refine ⟨name, written, named, labelled, ?_⟩
    obtain ⟨first, others, -, -, rfl⟩ := List.forall₂_cons_left_iff.1 labelled
    simp only [String.toList_append, toList_intercalate_comma, bracketed, List.append_assoc]
    rfl

/-- What may stand behind the text of a type: nothing, or what ends an argument. -/
def Ends (rest : List Char) : Prop :=
  ∀ c ∈ rest.head?, c = ',' ∨ c = '>'

private theorem ends_listed (texts : List String) (rest : List Char) :
    Ends (listed texts ++ '>' :: rest) := by
  cases texts <;> simp [Ends, listed]

/-- What stands behind a name in the text of a type starts with a mark if the text is followed by
what ends an argument. -/
theorem marked_bracketed (ends : Ends rest) :
    ∀ c ∈ (bracketed written ++ rest).head?, c ∈ TypeRef.marks := by
  intro c first
  cases written with
  | nil =>
    obtain rfl | rfl := ends c first
    · decide
    · decide
  | cons _ _ =>
    obtain rfl : '<' = c := by simpa [bracketed] using first
    decide

private theorem ne_bracketed (ends : Ends rest) (texts : List String) :
    rest ≠ bracketed (s :: texts) ++ rest' := by
  rintro rfl
  simp [Ends, bracketed] at ends

/-- Where the text of a type stands in front of what ends an argument, the type is told from it and
the rest as well. -/
def IsReadable (t : TypeExpr) : Prop :=
  ∀ ⦃t' s s' rest rest'⦄, t'.HasPlainNames → t.Shows s → t'.Shows s' → Ends rest → Ends rest' →
    s.toList ++ rest = s'.toList ++ rest' → t.ReadsLike t' ∧ rest = rest'

/-- Arguments are told one after another, up to the bracket behind them. -/
theorem readsLike_of_listed (readable : ∀ t ∈ args, t.IsReadable)
    (plain' : ∀ t ∈ args', t.HasPlainNames) (shows : List.Forall₂ Shows args written)
    (shows' : List.Forall₂ Shows args' written')
    (same : listed written ++ '>' :: rest = listed written' ++ '>' :: rest') :
    List.Forall₂ ReadsLike args args' ∧ rest = rest' := by
  induction shows generalizing args' written' with
  | nil =>
    cases shows' with
    | nil => exact ⟨.nil, (List.cons.inj same).2⟩
    | cons _ _ => simp [listed] at same
  | @cons t s args written first _ ih =>
    cases shows' with
    | nil => simp [listed] at same
    | @cons t' s' args' written' first' later' =>
      have behind : s.toList ++ (listed written ++ '>' :: rest) =
          s'.toList ++ (listed written' ++ '>' :: rest') := by
        simpa [listed] using same
      obtain ⟨alike, same⟩ := readable t List.mem_cons_self (plain' t' List.mem_cons_self) first
        first' (ends_listed _ _) (ends_listed _ _) behind
      obtain ⟨others, done⟩ := ih (fun t member => readable t (List.mem_cons_of_mem _ member))
        (fun t member => plain' t (List.mem_cons_of_mem _ member)) later' same
      exact ⟨.cons alike others, done⟩

/-- Every type with plain names is told from what stands behind its text. -/
theorem HasPlainNames.isReadable (plain : t.HasPlainNames) : t.IsReadable := by
  induction t with
  | node head args ih =>
    intro t' s s' rest rest' plain' shows shows' ends ends' same
    obtain ⟨head', args'⟩ := t'
    obtain ⟨plainHead, plainArgs⟩ := everywhere_node.1 plain
    obtain ⟨plainHead', plainArgs'⟩ := everywhere_node.1 plain'
    obtain ⟨name, written, named, each, parts⟩ := shows.parts plainHead
    obtain ⟨name', written', named', each', parts'⟩ := shows'.parts plainHead'
    rw [parts, parts', List.append_assoc, List.append_assoc] at same
    obtain ⟨_, ⟨⟩, unmarked⟩ := plainHead.eq_text named
    obtain ⟨_, ⟨⟩, unmarked'⟩ := plainHead'.eq_text named'
    obtain ⟨names, behind⟩ := append_inj_of_mark unmarked unmarked' (marked_bracketed ends)
      (marked_bracketed ends') same
    have heads : head.ReadsLike head' :=
      (TypeRef.label_comment_eq_iff plainHead plainHead' named named').1
        (congrArg Value.text (String.toList_inj.1 names))
    cases each with
    | nil =>
      cases each' with
      | nil => exact ⟨.node heads .nil, behind⟩
      | cons _ _ => exact (ne_bracketed ends _ behind).elim
    | @cons _ s _ written first later =>
      cases each' with
      | nil => exact (ne_bracketed ends' _ behind.symm).elim
      | @cons _ s' _ written' first' later' =>
        have inside : listed (s :: written) ++ '>' :: rest =
            listed (s' :: written') ++ '>' :: rest' := by
          simpa [bracketed, listed] using behind
        obtain ⟨alike, done⟩ := readsLike_of_listed
          (fun t member => ih t member (plainArgs t member)) plainArgs' (.cons first later)
          (.cons first' later') inside
        exact ⟨.node heads alike, done⟩

private theorem texts_eq (alike : List.Forall₂ ReadsLike args args')
    (shows : List.Forall₂ Shows args written) (shows' : List.Forall₂ Shows args' written')
    (each : ∀ t ∈ args, ∀ t' ∈ args', ∀ s s', t.ReadsLike t' → t.Shows s → t'.Shows s' → s = s') :
    written = written' := by
  induction alike generalizing written written' with
  | nil =>
    cases shows
    cases shows'
    rfl
  | cons heads _ ih =>
    obtain ⟨s, written, first, later, rfl⟩ := List.forall₂_cons_left_iff.1 shows
    obtain ⟨s', written', first', later', rfl⟩ := List.forall₂_cons_left_iff.1 shows'
    obtain rfl := each _ List.mem_cons_self _ List.mem_cons_self s s' heads first first'
    rw [ih later later' fun t member t' member' =>
      each t (List.mem_cons_of_mem _ member) t' (List.mem_cons_of_mem _ member')]

/-- Types that read alike have one text. -/
theorem ReadsLike.eq_of_shows (alike : t.ReadsLike t') (plain : t.HasPlainNames)
    (plain' : t'.HasPlainNames) (shows : t.Shows s) (shows' : t'.Shows s') : s = s' := by
  induction t generalizing t' s s' with
  | node head args ih =>
    obtain ⟨heads, alike⟩ := alike
    obtain ⟨plainHead, plainArgs⟩ := everywhere_node.1 plain
    obtain ⟨plainHead', plainArgs'⟩ := everywhere_node.1 plain'
    obtain ⟨name, written, named, each, parts⟩ := shows.parts plainHead
    obtain ⟨name', written', named', each', parts'⟩ := shows'.parts plainHead'
    cases (TypeRef.label_comment_eq_iff plainHead plainHead' named named').2 heads
    have same : written = written' := texts_eq alike each each' fun t member t' member' _ _ reads =>
      ih t member reads (plainArgs t member) (plainArgs' t' member')
    rw [← String.toList_inj, parts, parts', same]

/-- Two types with plain names have one text in comments exactly if they read alike. -/
theorem comment_eq_iff_readsLike (plain : t.HasPlainNames) (plain' : t'.HasPlainNames)
    (shows : t.label .comment = .ok (.text s)) (shows' : t'.label .comment = .ok (.text s')) :
    s = s' ↔ t.ReadsLike t' := by
  constructor
  · rintro rfl
    have alone : s.toList ++ [] = s.toList ++ [] := rfl
    have ends : Ends [] := by simp [Ends]
    exact (plain.isReadable plain' shows shows' ends ends alone).1
  · exact fun alike => alike.eq_of_shows plain plain' shows shows'

namespace Visits

/-- A key and a moment of a visit, by declarations. -/
def declared : TypeExpr :=
  .reference (.ofTexts "shop" "Visit") [.reference .dbKey [.reference (.ofTexts "shop" "Guest") []],
    .primitive "Vector" [.reference .instant []]]

/-- The same of another module, by a type parameter and a reference to a list. -/
def generic : TypeExpr :=
  .reference (.ofTexts "fair" "Visit") [.reference .dbKey [.parameter "Guest"],
    .reference (.ofTexts "lists" "Vector") [.reference .instant []]]

/-- The text of both. -/
def comment : String := "Visit<common.db.DbKey<Guest>,Vector<common.Instant>>"

end Visits

open Visits

/-- Two types of one text read alike. -/
theorem declared_readsLike_generic : declared.HasPlainNames ∧ generic.HasPlainNames ∧
    declared.label .comment = .ok (.text comment) ∧ generic.label .comment = .ok (.text comment) ∧
      declared.ReadsLike generic := by
  have plain : declared.HasPlainNames := by decide
  have plain' : generic.HasPlainNames := by decide
  have shows : declared.label .comment = .ok (.text comment) := by rfl
  have shows' : generic.label .comment = .ok (.text comment) := by rfl
  exact ⟨plain, plain', shows, shows', (comment_eq_iff_readsLike plain plain' shows shows').1 rfl⟩

end TypeExpr

end AdlTables
