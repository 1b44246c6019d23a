import AdlTables.SnakeCase
import Mathlib.Data.List.Forall2

/-! # Snake case in one pass

The three passes that mark the words of a name come to one pass, which looks at the two characters
in front of a capital and at the one behind it. A match of the first pass may hide the next one, but
it ends in a small letter, so the third pass finds the capital behind it; and the second pass takes
back what the first one puts behind an underscore. Only underscores come and go, and none is put
beside another.
-/

namespace AdlTables.SnakeCase

/-- What is done to the underscores in front of a character. -/
inductive Change where
  | insert
  | leave
  | delete
deriving DecidableEq, Repr

/-- What is done in front of a character, by the characters before it, the nearest one first, and
those behind it. -/
def change (before : List Char) (c : Char) (after : List Char) : Change :=
  if isCapital c then
    match before with
    | [] => .leave
    | '_' :: '_' :: _ => if startsSmall after then .leave else .delete
    | '_' :: _ => .leave
    | '\n' :: _ => .leave
    | b :: _ => if endsWord b || startsSmall after then .insert else .leave
  else .leave

/-- What is written in front of a character where one character was held back. -/
def Change.apply (held : List Char) : Change → List Char
  | insert => held ++ ['_']
  | leave => held
  | delete => []

/-- The rest of a name with its words marked. The character before the place that is reached is held
back, since it may be an underscore that is deleted. -/
def markFrom (before : List Char) : List Char → List Char
  | [] => before.take 1
  | c :: after => (change before c after).apply (before.take 1) ++ markFrom (c :: before) after

/-- A name with its words marked in one pass. -/
def markOnce (chars : List Char) : List Char :=
  markFrom [] chars

/-- The numbers of underscores in front of each other character and at the end. -/
def gaps : List Char → List Nat
  | [] => [0]
  | c :: rest => if c = '_' then (gaps rest).modifyHead (· + 1) else 0 :: gaps rest

section Classes

variable {c : Char}

private theorem not_endsWord_of_isCapital (capital : isCapital c) : endsWord c = false := by
  obtain ⟨low, high⟩ : 'A' ≤ c ∧ c ≤ 'Z' := by simpa [isCapital] using capital
  have notSmall : ¬ 'a' ≤ c := fun small => absurd (Char.le_trans small high) (by decide)
  have notDigit : ¬ c ≤ '9' := fun digit => absurd (Char.le_trans low digit) (by decide)
  simp [endsWord, isSmall, notSmall, notDigit]

private theorem not_isSmall_of_isCapital (capital : isCapital c) : isSmall c = false := by
  have other := not_endsWord_of_isCapital capital
  rw [endsWord, Bool.or_eq_false_iff] at other
  exact other.1

private theorem not_isCapital_of_isSmall (small : isSmall c) : isCapital c = false := by
  cases capital : isCapital c with
  | false => rfl
  | true => simp [not_isSmall_of_isCapital capital] at small

private theorem ne_underscore_of_isCapital (capital : isCapital c) : c ≠ '_' := by
  rintro rfl
  exact absurd capital (by decide)

@[simp] theorem isCapital_underscore : isCapital '_' = false := by decide

@[simp] theorem endsWord_underscore : endsWord '_' = false := by decide

end Classes

def startsCapital (chars : List Char) : Bool :=
  chars.head?.any isCapital

/-- Whether characters start with a capital that a small letter follows. -/
def startsWord : List Char → Bool
  | [] => false
  | c :: rest => isCapital c && startsSmall rest

/-- Whether characters start with a capital that no small letter follows. -/
def startsLone (chars : List Char) : Bool :=
  startsCapital chars && !startsWord chars

private theorem startsWord_of_startsSmall {chars : List Char} (small : startsSmall chars) :
    startsWord chars = false := by
  cases chars with
  | nil => rfl
  | cons c rest => rw [startsWord, not_isCapital_of_isSmall small, Bool.false_and]

section Words

variable {c d : Char} {rest tail : List Char}

private theorem head?_markWords (inWord : Bool) (chars : List Char) :
    (markWords inWord chars).head? = chars.head? := by
  cases chars with
  | nil => rfl
  | cons c rest =>
    rw [markWords.eq_def]
    dsimp only
    split
    · rfl
    · split
      · split <;> rfl
      · rfl

private theorem markWords_inWord (small : isSmall c) :
    markWords true (c :: rest) = c :: markWords true rest := by
  rw [markWords.eq_def]
  simp [small]

/-- Only a small letter goes on with a word. -/
theorem markWords_of_not_isSmall (other : isSmall c = false) (inWord : Bool) :
    markWords inWord (c :: rest) = markWords false (c :: rest) := by
  rw [markWords.eq_def, markWords.eq_def]
  simp [other]

private theorem markWords_word (sameLine : c ≠ '\n') (word : startsWord (d :: tail)) :
    markWords false (c :: d :: tail) = c :: '_' :: d :: markWords true tail := by
  rw [startsWord, Bool.and_eq_true] at word
  rw [markWords.eq_def]
  simp [sameLine, word]

private theorem markWords_plain (plain : c = '\n' ∨ startsWord rest = false) :
    markWords false (c :: rest) = c :: markWords false rest := by
  cases rest with
  | nil => rfl
  | cons d tail =>
    rw [startsWord] at plain
    rw [markWords.eq_def]
    obtain rfl | other := plain
    · simp
    · simp [Bool.and_assoc, other]

/-- Nothing is marked behind the capital of a word. -/
theorem markWords_capital (word : startsWord (d :: tail)) (inWord : Bool) :
    markWords inWord (d :: tail) = d :: markWords false tail := by
  rw [startsWord, Bool.and_eq_true] at word
  rw [markWords_of_not_isSmall (not_isSmall_of_isCapital word.1),
    markWords_plain (.inr (startsWord_of_startsSmall word.2))]

end Words

/-- An underscore is left out in front of another one that a capital follows. -/
theorem mergeMarks_cons (c : Char) (rest : List Char) : mergeMarks (c :: rest) =
    if c = '_' ∧ rest.head? = some '_' ∧ startsCapital rest.tail then mergeMarks rest
    else c :: mergeMarks rest := by
  by_cases doubled : c = '_' ∧ rest.head? = some '_'
  · obtain ⟨rfl, isMark⟩ := doubled
    obtain ⟨tail, rfl⟩ := List.head?_eq_some_iff.1 isMark
    cases tail with
    | nil => rfl
    | cons d tail =>
      cases capital : isCapital d with
      | false => simp [mergeMarks, startsCapital, capital]
      | true =>
        have apart : d ≠ '_' := ne_underscore_of_isCapital capital
        simp [mergeMarks, startsCapital, capital, apart]
  · have single : mergeMarks (c :: rest) = c :: mergeMarks rest := by
      rw [mergeMarks]
      rintro d tail rfl rfl
      exact doubled ⟨rfl, rfl⟩
    rw [single, if_neg fun both => doubled ⟨both.1, both.2.1⟩]

private theorem head?_mergeMarks (chars : List Char) : (mergeMarks chars).head? = chars.head? := by
  induction chars with
  | nil => rfl
  | cons c rest ih =>
    rw [mergeMarks_cons]
    split
    · rename_i both
      rw [ih, both.2.1, both.1, List.head?_cons]
    · rfl

/-- A mark is put between a small letter or digit and a capital. -/
theorem markCapitals_cons (c : Char) (rest : List Char) : markCapitals (c :: rest) =
    c :: if endsWord c ∧ startsCapital rest then '_' :: markCapitals rest
      else markCapitals rest := by
  cases rest with
  | nil => simp [markCapitals, startsCapital]
  | cons d tail =>
    rw [markCapitals]
    cases capital : isCapital d with
    | false => simp [startsCapital, capital]
    | true =>
      -- a capital ends no word, so no mark follows it
      have next : markCapitals (d :: tail) = d :: markCapitals tail := by
        cases tail with
        | nil => rfl
        | cons e tail => simp [markCapitals, not_endsWord_of_isCapital capital]
      cases ends : endsWord c <;> simp [startsCapital, capital, next]

/-- What the second and the third pass make of a name. -/
def mend (chars : List Char) : List Char :=
  markCapitals (mergeMarks chars)

private theorem mend_cons (c : Char) (rest : List Char) : mend (c :: rest) =
    if c = '_' ∧ rest.head? = some '_' ∧ startsCapital rest.tail then mend rest
    else c :: if endsWord c ∧ startsCapital rest then '_' :: mend rest else mend rest := by
  have starts : startsCapital (mergeMarks rest) = startsCapital rest := by
    rw [startsCapital, head?_mergeMarks, startsCapital]
  rw [mend, mergeMarks_cons]
  split
  · rfl
  · rw [markCapitals_cons, starts]
    rfl

private theorem mend_cons_of_ne {c : Char} (apart : c ≠ '_') (rest : List Char) : mend (c :: rest) =
    c :: if endsWord c ∧ startsCapital rest then '_' :: mend rest else mend rest := by
  rw [mend_cons, if_neg fun both => apart both.1]

private theorem mend_capital {d : Char} (capital : isCapital d) (rest : List Char) :
    mend (d :: rest) = d :: mend rest := by
  rw [mend_cons_of_ne (ne_underscore_of_isCapital capital)]
  simp [not_endsWord_of_isCapital capital]

private theorem mend_mark {d : Char} (capital : isCapital d) (rest : List Char) :
    mend ('_' :: d :: rest) = '_' :: mend (d :: rest) := by
  rw [mend_cons]
  simp [ne_underscore_of_isCapital capital]

private theorem startsCapital_markWords (inWord : Bool) (chars : List Char) :
    startsCapital (markWords inWord chars) = startsCapital chars := by
  rw [startsCapital, head?_markWords, startsCapital]

/-- A word that hides another one ends in a small letter, so what is hidden is marked as well. -/
theorem mend_markWords : ∀ chars : List Char,
    mend (markWords true chars) = mend (markWords false chars)
  | [] => rfl
  | [c] => by cases small : isSmall c <;> simp [markWords, small]
  | c :: d :: tail => by
    cases small : isSmall c with
    | false => rw [markWords_of_not_isSmall small true]
    | true =>
      have apart : c ≠ '_' := by
        rintro rfl
        exact absurd small (by decide)
      have sameLine : c ≠ '\n' := by
        rintro rfl
        exact absurd small (by decide)
      have ends : endsWord c := by simp [endsWord, small]
      rw [markWords_inWord small, mend_cons_of_ne apart, startsCapital_markWords]
      cases word : startsWord (d :: tail) with
      | false =>
        rw [markWords_plain (.inr word), mend_cons_of_ne apart, startsCapital_markWords,
          mend_markWords (d :: tail)]
      | true =>
        obtain ⟨capital, -⟩ := (Bool.and_eq_true _ _ ▸ word : isCapital d ∧ startsSmall tail)
        rw [markWords_word sameLine word, mend_cons_of_ne apart, mend_mark capital,
          markWords_capital word, mend_capital capital, mend_capital capital, mend_markWords tail]
        simp [ends, startsCapital, capital]

/-- Behind an underscore stands a capital after the first pass if no word starts there. -/
theorem startsCapital_tail_markWords (tail : List Char) :
    startsCapital (markWords false ('_' :: tail)).tail = startsLone tail := by
  cases word : startsWord tail with
  | false =>
    rw [markWords_plain (.inr word), List.tail_cons, startsCapital_markWords, startsLone, word]
    simp
  | true =>
    cases tail with
    | nil => cases word
    | cons d tail =>
      rw [markWords_word (by decide) word, startsLone, word]
      simp [startsCapital]

/-- Whether a mark is put between a character and those behind it. -/
def parts (c : Char) (rest : List Char) : Bool :=
  endsWord c && startsCapital rest || c != '_' && c != '\n' && startsWord rest

/-- What the three passes make of a character: an underscore is left out in front of another one
that a capital alone follows, and any other character stays, with a mark behind it or without. -/
theorem mark_cons (c : Char) (rest : List Char) : mark (c :: rest) =
    if c = '_' ∧ rest.head? = some '_' ∧ startsLone rest.tail then mark rest
    else c :: if parts c rest then '_' :: mark rest else mark rest := by
  change mend (markWords false (c :: rest)) =
    if c = '_' ∧ rest.head? = some '_' ∧ startsLone rest.tail then mend (markWords false rest)
    else c :: if parts c rest then '_' :: mend (markWords false rest)
      else mend (markWords false rest)
  by_cases plain : c = '\n' ∨ startsWord rest = false
  · have marked : parts c rest = (endsWord c && startsCapital rest) := by
      obtain rfl | noWord := plain
      · simp [parts]
      · simp [parts, noWord]
    have doubled : (c = '_' ∧ rest.head? = some '_' ∧ startsCapital (markWords false rest).tail) ↔
        c = '_' ∧ rest.head? = some '_' ∧ startsLone rest.tail := by
      refine and_congr_right fun _ => and_congr_right fun isMark => ?_
      obtain ⟨tail, rfl⟩ := List.head?_eq_some_iff.1 isMark
      rw [startsCapital_tail_markWords, List.tail_cons]
    rw [markWords_plain plain, mend_cons, head?_markWords, startsCapital_markWords, marked]
    simp only [doubled, Bool.and_eq_true]
  · obtain ⟨sameLine, word⟩ := not_or.1 plain
    cases rest with
    | nil => exact (word rfl).elim
    | cons d tail =>
      rw [Bool.not_eq_false] at word
      obtain ⟨capital, -⟩ := (Bool.and_eq_true _ _ ▸ word : isCapital d ∧ startsSmall tail)
      have rest : mend (markWords false (d :: tail)) = mend (d :: markWords true tail) := by
        rw [markWords_capital word, mend_capital capital, mend_capital capital, mend_markWords]
      rw [markWords_word sameLine word, rest]
      by_cases isMark : c = '_'
      · -- the mark that the first pass puts behind an underscore is taken back
        subst isMark
        rw [mend_cons, mend_mark capital]
        simp [startsCapital, capital, parts, ne_underscore_of_isCapital capital]
      · rw [mend_cons_of_ne isMark, mend_mark capital]
        simp [startsCapital, parts, isMark, sameLine, word]

/-- In front of a capital one of two underscores goes if the capital is alone, and behind another
character a mark comes where the passes put one. -/
theorem change_capital {c : Char} (capital : isCapital c) (before : List Char) (b : Char)
    (after : List Char) : change (b :: before) c after =
      if b = '_' ∧ before.head? = some '_' ∧ startsLone (c :: after) then .delete
      else if parts b (c :: after) then .insert else .leave := by
  have lone : startsLone (c :: after) = !startsSmall after := by
    simp [startsLone, startsCapital, startsWord, capital]
  have marked : parts b (c :: after) =
      (endsWord b || b != '_' && b != '\n' && startsSmall after) := by
    simp [parts, startsCapital, startsWord, capital]
  by_cases isMark : b = '_'
  · subst isMark
    by_cases two : before.head? = some '_'
    · obtain ⟨tail, rfl⟩ := List.head?_eq_some_iff.1 two
      cases small : startsSmall after <;> simp [change, capital, lone, marked, small]
    · have left : change ('_' :: before) c after = .leave := by
        rw [change, if_pos capital]
        rintro tail rfl
        exact two rfl
      simp [left, two, marked]
  · by_cases lineBreak : b = '\n'
    · subst lineBreak
      have noEnd : endsWord '\n' = false := by decide
      simp [change, marked, noEnd]
    · have other : change (b :: before) c after =
          if endsWord b || startsSmall after then .insert else .leave := by
        rw [change, if_pos capital] <;> simp [isMark, lineBreak]
      simp [other, isMark, marked, lineBreak]

private theorem mark_underscore {rest : List Char} (lone : startsLone rest) :
    mark ('_' :: rest) = '_' :: mark rest := by
  cases rest with
  | nil => cases lone
  | cons d tail =>
    have capital : isCapital d := by
      rw [startsLone, Bool.and_eq_true] at lone
      exact lone.1
    rw [mark_cons]
    simp [parts, ne_underscore_of_isCapital capital]

/-- What is left of a name in one pass, where one character is held back. -/
theorem markFrom_cons (before : List Char) (b : Char) (rest : List Char) :
    markFrom (b :: before) rest =
      if b = '_' ∧ before.head? = some '_' ∧ startsLone rest then mark rest
      else mark (b :: rest) := by
  induction rest generalizing before b with
  | nil => simp [markFrom, startsLone, startsCapital, mark, markWords, mergeMarks, markCapitals]
  | cons c after ih =>
    rw [markFrom, ih, mark_cons b]
    cases capital : isCapital c with
    | false =>
      have lone : startsLone (c :: after) = false := by simp [startsLone, startsCapital, capital]
      have unmarked : parts b (c :: after) = false := by
        simp [parts, startsCapital, startsWord, capital]
      have left : change (b :: before) c after = .leave := by simp [change, capital]
      rw [left, lone, unmarked]
      by_cases two : c = '_' ∧ b = '_' ∧ startsLone after
      · obtain ⟨rfl, rfl, alone⟩ := two
        simp [Change.apply, alone, mark_underscore alone]
      · have two' : ¬ (b = '_' ∧ c = '_' ∧ startsLone after) := by tauto
        simp [Change.apply, two, two']
    | true =>
      have apart : c ≠ '_' := ne_underscore_of_isCapital capital
      have one : ¬ (b = '_' ∧ (c :: after).head? = some '_' ∧ startsLone (c :: after).tail) := by
        simp [apart]
      rw [change_capital capital, if_neg (show ¬ (c = '_' ∧ _) from fun both => apart both.1),
        if_neg one]
      split
      · rfl
      · split <;> simp [Change.apply, *]

private theorem markOnce_eq (chars : List Char) : markOnce chars = mark chars := by
  cases chars with
  | nil => rfl
  | cons c after =>
    have first : change [] c after = .leave := by
      rw [change]
      split <;> rfl
    rw [markOnce, markFrom, markFrom_cons, first]
    simp [Change.apply]

private theorem filter_mark (chars : List Char) :
    (mark chars).filter (· != '_') = chars.filter (· != '_') := by
  induction chars with
  | nil => rfl
  | cons c rest ih =>
    rw [mark_cons]
    split
    · rename_i two
      simp [two.1, ih]
    · split <;> simp [List.filter_cons, ih]

@[simp] theorem gaps_underscore (rest : List Char) :
    gaps ('_' :: rest) = (gaps rest).modifyHead (· + 1) :=
  if_pos rfl

@[simp] theorem gaps_of_ne {c : Char} (apart : c ≠ '_') (rest : List Char) :
    gaps (c :: rest) = 0 :: gaps rest :=
  if_neg apart

private theorem startsCapital_of_parts {c : Char} {rest : List Char} (marked : parts c rest) :
    startsCapital rest := by
  cases rest with
  | nil => simp [parts, startsCapital, startsWord] at marked
  | cons d tail =>
    cases capital : isCapital d with
    | false => simp [parts, startsCapital, startsWord, capital] at marked
    | true => exact capital

private theorem gaps_of_startsCapital {chars : List Char} (capital : startsCapital chars) :
    ∃ olds, gaps chars = 0 :: olds := by
  cases chars with
  | nil => cases capital
  | cons d tail => exact ⟨gaps tail, gaps_of_ne (ne_underscore_of_isCapital capital) tail⟩

/-- The first gap of a name does not grow, and any other one that was not empty. -/
theorem gaps_mark (chars : List Char) : ∃ new news old olds, gaps (mark chars) = new :: news ∧
    gaps chars = old :: olds ∧ new ≤ old ∧ List.Forall₂ (fun n o => n ≤ max o 1) news olds := by
  induction chars with
  | nil => exact ⟨0, [], 0, [], rfl, rfl, Nat.le_refl 0, .nil⟩
  | cons c rest ih =>
    obtain ⟨new, news, old, olds, ours, theirs, first, others⟩ := ih
    by_cases isMark : c = '_'
    · subst isMark
      have unmarked : parts '_' rest = false := by simp [parts]
      rw [mark_cons, gaps_underscore, theirs, unmarked]
      split
      · exact ⟨new, news, old + 1, olds, ours, rfl, by omega, others⟩
      · exact ⟨new + 1, news, old + 1, olds, by simp [ours], rfl, by omega, others⟩
    · rw [mark_cons, if_neg fun two => isMark two.1, gaps_of_ne isMark, gaps_of_ne isMark, theirs]
      refine ⟨0, _, 0, _, rfl, rfl, Nat.le_refl 0, ?_⟩
      split
      · rename_i marked
        -- a capital comes next, so there was no underscore here
        obtain ⟨olds', empty⟩ := gaps_of_startsCapital (startsCapital_of_parts marked)
        obtain ⟨rfl, -⟩ := List.cons.inj (theirs.symm.trans empty)
        rw [gaps_underscore, ours]
        exact .cons (by dsimp only; omega) others
      · rw [ours]
        exact .cons (by omega) others

/-- A name in snake case is the name with its words marked in one pass, in small letters. The pass
keeps all characters but underscores in their order, and of the gaps between them only those grow
that were empty, by one underscore. -/
theorem ofValue_text_eq_markOnce (s : String) :
    ofValue (.text s) = .ok (Text.lower (String.ofList (markOnce s.toList))) ∧
    (markOnce s.toList).filter (· != '_') = s.toList.filter (· != '_') ∧
    List.Forall₂ (fun new old => new ≤ max old 1) (gaps (markOnce s.toList)) (gaps s.toList) := by
  rw [markOnce_eq]
  refine ⟨rfl, filter_mark s.toList, ?_⟩
  obtain ⟨new, news, old, olds, ours, theirs, first, others⟩ := gaps_mark s.toList
  rw [ours, theirs]
  exact .cons (by omega) others

example : markOnce "HTTP__XMLFile2B".toList = "HTTP_XML_File2_B".toList := by decide

end AdlTables.SnakeCase
