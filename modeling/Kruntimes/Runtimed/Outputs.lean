import Kruntimes.Runtimed.Invocations
import Kruntimes.Runtimed.Status
import Mathlib.Algebra.BigOperators.Ring.Finset
import Mathlib.Data.List.DropRight

/-!
# The outputs file

`readOutputs` parses the file line by line and keeps a running total of its bytes.
The specification says what a line means by what its text looks like, and is a fold over
`Invocation.Line` that knows no running total.
-/

namespace Kruntimes.Runtimed

open Api Data Invocation

/-- The lines that `ReadString` delivers, without their newline; a last line may lack it. -/
def fileLines : List UInt8 → List (List UInt8)
  | [] => []
  | byte :: rest =>
    if byte = 10 then [] :: fileLines rest
    else
      match fileLines rest with
      | [] => [[byte]]
      | line :: lines => (byte :: line) :: lines

/-- The key and the value in a text, nothing in a blank line or a comment, or the end of the
error message. -/
def parseText (text : List Char) : Except String (Option (String × String)) :=
  let trimmed := trimSpace text
  if trimmed = [] ∨ trimmed.head? = some '#' then .ok none
  else if '=' ∉ trimmed then .error " must use KEY=VALUE format"
  else
    let key := trimSpace (trimmed.takeWhile (· != '='))
    let value := trimSpace (trimmed.dropWhile (· != '=')).tail
    if key = [] then .error " has an empty key"
    else .ok (some (String.ofList key, String.ofList value))

def parseLine (line : List UInt8) : Except String (Option (String × String)) :=
  let line := if line.getLast? = some 13 then line.dropLast else line
  match String.fromUTF8? line.toByteArray with
  | none => .error " is not valid UTF-8"
  | some text => parseText text.toList

/-- The variables of the loop. -/
structure OutputsReader where
  outputs : Labels := ∅
  totalBytes : Int := 0
  lineNumber : Nat := 0

section

-- `quote` is the verb `%q`.
variable (quote : String → String)

def readOutputLine (reader : OutputsReader) (line : List UInt8) :
    Except OutputsError OutputsReader :=
  let number := reader.lineNumber + 1
  match parseLine line with
  | .error fault => .error (.invalid ("outputs line " ++ toString number ++ fault))
  | .ok none => .ok { reader with lineNumber := number }
  | .ok (some (key, value)) =>
    if 128 < key.utf8ByteSize then
      .error (.tooLarge ("output key on line " ++ toString number ++ " exceeds 128 bytes"))
    else if 8192 < value.utf8ByteSize then
      .error (.tooLarge ("output value for " ++ quote key ++ " exceeds 8192 bytes"))
    else if reader.outputs.lookup key = none ∧ 64 ≤ reader.outputs.keys.length then
      .error (.tooLarge "outputs exceed 64 keys")
    else
      let released := (reader.outputs.lookup key).elim 0 fun previous =>
        (key.utf8ByteSize + previous.utf8ByteSize : Int)
      let total := reader.totalBytes - released + (key.utf8ByteSize + value.utf8ByteSize)
      if 65536 < total then .error (.tooLarge "outputs exceed 65536 bytes")
      else .ok ⟨reader.outputs.insert key value, total, number⟩

/-- An absent file is an empty one. -/
def readOutputs (file : List UInt8) : Except OutputsError Labels :=
  OutputsReader.outputs <$> (fileLines file).foldlM (readOutputLine quote) {}

end

def isOutputsTooLarge : OutputsError → Bool
  | .tooLarge _ => true
  | .invalid _ => false

/-! ## The specification -/

/-- The lines of a file: every one ends with a newline, which the last one may lack. -/
structure Segments (file : List UInt8) (lines : List (List UInt8)) : Prop where
  unbroken : ∀ line ∈ lines, 10 ∉ line
  joined : file = lines.flatMap (· ++ [10]) ∨ ∃ front last, last ≠ [] ∧ lines = front ++ [last] ∧
    file = front.flatMap (· ++ [10]) ++ last

def White (text : List Char) : Prop := ∀ char ∈ text, isSpace char = true

/-- White space around a text that neither starts nor ends with white space. -/
structure Padded (core text : List Char) : Prop where
  around : ∃ front behind, White front ∧ White behind ∧ text = front ++ core ++ behind
  starts : ∀ char, core.head? = some char → isSpace char = false
  ends : ∀ char, core.getLast? = some char → isSpace char = false

def Comment (text : List Char) : Prop := ∃ front rest, White front ∧ text = front ++ '#' :: rest

/-- What a text means. -/
inductive TextSays : List Char → Line → Prop
  | blank {text : List Char} (white : White text) : TextSays text .ignored
  | comment {text : List Char} (comment : Comment text) : TextSays text .ignored
  | assignment {text before after key value : List Char} (split : text = before ++ '=' :: after)
      (first : '=' ∉ before) (plain : ¬ Comment text) (named : key ≠ [])
      (keyed : Padded key before) (valued : Padded value after) :
      TextSays text (.assignment (String.ofList key) (String.ofList value))
  | noKey {text before after : List Char} (split : text = before ++ '=' :: after)
      (white : White before) : TextSays text .malformed
  | noSign {text : List Char} (black : ¬ White text) (plain : ¬ Comment text)
      (unsigned : '=' ∉ text) : TextSays text .malformed

/-- What a line means: it is a text in UTF-8, up to a carriage return at its end. -/
def Says (line : List UInt8) (said : Line) : Prop :=
  ∃ content, (line = content ++ [13] ∨ line = content ∧ content.getLast? ≠ some 13) ∧
    match String.fromUTF8? content.toByteArray with
    | none => said = .malformed
    | some text => TextSays text.toList said

/-- What a file means, line by line. -/
def FileSays (file : List UInt8) (said : List Line) : Prop :=
  ∃ lines, Segments file lines ∧ List.Forall₂ Says lines said

def assign (outputs : Labels) : Line → Labels
  | .assignment key value => outputs.insert key value
  | _ => outputs

/-- Whether a line is refused after `outputs`, and if so whether for a limit. -/
def lineFault (outputs : Labels) : Line → Option Bool
  | .malformed => some false
  | .ignored => none
  | .assignment key value =>
    let next := outputs.insert key value
    if 128 < key.utf8ByteSize ∨ 8192 < value.utf8ByteSize ∨ 64 < next.keys.length ∨
        65536 < Invocation.totalBytes next then
      some true
    else
      none

/-- The fault of the first line that is refused. -/
def firstFault (outputs : Labels) : List Line → Option Bool
  | [] => none
  | line :: rest => (lineFault outputs line).or (firstFault (assign outputs line) rest)

/-! ## Lines and texts -/

theorem segments_fileLines (file : List UInt8) : Segments file (fileLines file) := by
  induction file with
  | nil => exact ⟨nofun, .inl rfl⟩
  | cons byte rest ih =>
    obtain ⟨unbroken, joined⟩ := ih
    rw [fileLines]
    split
    next newline =>
      subst newline
      refine ⟨List.forall_mem_cons.mpr ⟨List.not_mem_nil, unbroken⟩, ?_⟩
      rcases joined with whole | ⟨front, last, nonempty, lines, whole⟩
      · exact .inl (by rw [List.flatMap_cons, ← whole]; rfl)
      · refine .inr ⟨[] :: front, last, nonempty, by rw [lines]; rfl, ?_⟩
        rw [List.flatMap_cons, List.append_assoc, ← whole]
        rfl
    next other =>
      have apart : 10 ≠ byte := Ne.symm other
      split
      next none =>
        have empty : rest = [] := by
          rcases joined with whole | ⟨front, last, nonempty, lines, whole⟩
          · rw [whole, none]
            rfl
          · rw [none] at lines
            simp at lines
        subst empty
        exact ⟨by simpa using apart, .inr ⟨[], [byte], by simp, rfl, rfl⟩⟩
      next line lines some =>
        rw [some] at unbroken joined
        obtain ⟨first, others⟩ := List.forall_mem_cons.mp unbroken
        refine ⟨List.forall_mem_cons.mpr ⟨?_, others⟩, ?_⟩
        · exact fun mem => (List.mem_cons.mp mem).elim apart first
        rcases joined with whole | ⟨front, last, nonempty, same, whole⟩
        · exact .inl (by rw [whole, List.flatMap_cons, List.flatMap_cons]; rfl)
        · cases front with
          | nil =>
            cases same
            exact .inr ⟨[], byte :: line, by simp, rfl, by rw [whole]; rfl⟩
          | cons start front =>
            cases same
            exact .inr ⟨(byte :: line) :: front, last, nonempty, rfl, by rw [whole]; rfl⟩

theorem fileLines_newline {line : List UInt8} (unbroken : 10 ∉ line) (rest : List UInt8) :
    fileLines (line ++ 10 :: rest) = line :: fileLines rest := by
  induction line with
  | nil => rw [List.nil_append, fileLines, if_pos rfl]
  | cons byte line ih =>
    rw [List.mem_cons, not_or] at unbroken
    rw [List.cons_append, fileLines, if_neg (Ne.symm unbroken.1), ih unbroken.2]

theorem fileLines_last {line : List UInt8} (unbroken : 10 ∉ line) (nonempty : line ≠ []) :
    fileLines line = [line] := by
  induction line with
  | nil => exact absurd rfl nonempty
  | cons byte line ih =>
    rw [List.mem_cons, not_or] at unbroken
    rw [fileLines, if_neg (Ne.symm unbroken.1)]
    cases line with
    | nil => rfl
    | cons next line => rw [ih unbroken.2 (by simp)]

/-- A file has one sequence of lines. -/
theorem Segments.eq_fileLines {file : List UInt8} {lines : List (List UInt8)}
    (segments : Segments file lines) : lines = fileLines file := by
  have front : ∀ {lines : List (List UInt8)} rest, (∀ line ∈ lines, 10 ∉ line) →
      fileLines (lines.flatMap (· ++ [10]) ++ rest) = lines ++ fileLines rest := by
    intro lines rest unbroken
    induction lines with
    | nil => rfl
    | cons line lines ih =>
      obtain ⟨first, others⟩ := List.forall_mem_cons.mp unbroken
      rw [List.flatMap_cons, List.append_assoc, List.append_assoc, List.singleton_append,
        fileLines_newline first, ih others, List.cons_append]
  obtain ⟨unbroken, rfl | ⟨lines, last, nonempty, rfl, rfl⟩⟩ := segments
  · have := front [] unbroken
    rw [List.append_nil] at this
    rw [this, fileLines, List.append_nil]
  · rw [front last fun line mem => unbroken line (List.mem_append_left _ mem),
      fileLines_last (unbroken last (by simp)) nonempty]

theorem padded_trimSpace (text : List Char) : Padded (trimSpace text) text := by
  have trimmed : trimSpace text = (text.dropWhile isSpace).rdropWhile isSpace := rfl
  constructor
  · refine ⟨text.takeWhile isSpace, (text.dropWhile isSpace).rtakeWhile isSpace, ?_, ?_, ?_⟩
    · exact fun char mem => List.mem_takeWhile_imp mem
    · exact fun char mem => List.mem_rtakeWhile_imp mem
    · rw [trimmed, List.append_assoc, List.rdropWhile_append_rtakeWhile,
        List.takeWhile_append_dropWhile]
  · intro char starts
    obtain ⟨rest, same⟩ := List.rdropWhile_prefix isSpace (text.dropWhile isSpace)
    have head : (text.dropWhile isSpace).head? = some char := by
      rw [← same, List.head?_append, ← trimmed, starts]
      rfl
    have first := List.head?_dropWhile_not isSpace text
    rw [head] at first
    exact first
  · intro char ends
    have nonempty : (text.dropWhile isSpace).rdropWhile isSpace ≠ [] := by
      rintro none
      rw [trimmed, none] at ends
      cases ends
    rw [trimmed, List.getLast?_eq_some_getLast nonempty] at ends
    cases ends
    exact Bool.eq_false_iff.mpr (List.rdropWhile_last_not _ _ nonempty)

/-- What white space surrounds is found. -/
theorem Padded.eq_trimSpace {core text : List Char} (padded : Padded core text) :
    core = trimSpace text := by
  obtain ⟨⟨front, behind, white, space, rfl⟩, starts, ends⟩ := padded
  rw [trimSpace, List.append_assoc, List.dropWhile_append_of_pos white]
  have all : ∀ text : List Char, White text → text.dropWhile isSpace = [] := fun text white =>
    List.dropWhile_eq_nil_iff.mpr white
  cases core with
  | nil => rw [List.nil_append, all _ space]; rfl
  | cons first rest =>
    rw [List.cons_append, List.dropWhile_cons_of_neg (by simp [starts first rfl]),
      ← List.cons_append, List.reverse_append,
      List.dropWhile_append_of_pos fun char mem => space char (List.mem_reverse.mp mem)]
    cases last : (first :: rest).reverse with
    | nil => simp at last
    | cons final others =>
      have same : (first :: rest).getLast? = some final := by
        rw [← List.head?_reverse, last]
        rfl
      rw [List.dropWhile_cons_of_neg (by simp [ends final same]), ← last, List.reverse_reverse]

theorem White.append {front behind : List Char} (white : White front) (space : White behind) :
    White (front ++ behind) := fun char mem =>
  (List.mem_append.mp mem).elim (white char) (space char)

theorem White.sign_notMem {text : List Char} (white : White text) : '=' ∉ text := fun mem =>
  absurd (white '=' mem) (by decide)

section Padded

variable {core text space : List Char} (padded : Padded core text) (white : White space)

include padded white

theorem Padded.pad_left : Padded core (space ++ text) := by
  obtain ⟨⟨front, behind, before, after, rfl⟩, starts, ends⟩ := padded
  exact ⟨⟨space ++ front, behind, white.append before, after, by simp⟩, starts, ends⟩

theorem Padded.pad_right : Padded core (text ++ space) := by
  obtain ⟨⟨front, behind, before, after, rfl⟩, starts, ends⟩ := padded
  exact ⟨⟨front, behind ++ space, before, after.append white, by simp⟩, starts, ends⟩

end Padded

theorem white_iff {text : List Char} : White text ↔ trimSpace text = [] := by
  obtain ⟨⟨front, behind, white, space, whole⟩, starts, -⟩ := padded_trimSpace text
  constructor
  · intro all
    cases trimmed : trimSpace text with
    | nil => rfl
    | cons first =>
      rw [trimmed] at whole starts
      have black := starts first rfl
      rw [all first (by rw [whole]; simp)] at black
      cases black
  · intro none
    rw [none, List.append_nil] at whole
    rw [whole]
    exact white.append space

/-- A trimmed text starts with the first character that is no white space. -/
theorem head?_trimSpace {front rest : List Char} {char : Char} (white : White front)
    (black : isSpace char = false) : (trimSpace (front ++ char :: rest)).head? = some char := by
  have padded := padded_trimSpace (char :: rest)
  rw [← (padded.pad_left white).eq_trimSpace]
  obtain ⟨⟨before, behind, space, blank, whole⟩, -, -⟩ := padded
  have outside : ∀ {text : List Char}, White text → text.head? ≠ some char := by
    intro text white starts
    rw [white char (List.mem_of_head? starts)] at black
    cases black
  have first := congrArg List.head? whole
  rw [List.append_assoc, List.head?_append, List.head?_append, List.head?_cons] at first
  cases starts : before.head? with
  | some other =>
    rw [starts] at first
    cases first
    exact absurd starts (outside space)
  | none =>
    rw [starts] at first
    cases trimmed : (trimSpace (char :: rest)).head? with
    | some other =>
      rw [trimmed] at first
      exact first.symm
    | none =>
      rw [trimmed] at first
      exact absurd first.symm (outside blank)

theorem comment_iff {text : List Char} : Comment text ↔ (trimSpace text).head? = some '#' := by
  constructor
  · rintro ⟨front, rest, white, rfl⟩
    exact head?_trimSpace white (by decide)
  · intro sharp
    obtain ⟨⟨front, behind, white, -, whole⟩, -, -⟩ := padded_trimSpace text
    obtain ⟨rest, trimmed⟩ := List.head?_eq_some_iff.mp sharp
    exact ⟨front, rest ++ behind, white, by rw [whole, trimmed]; simp⟩

/-- What the reader takes a parsed line for. -/
def Line.ofParsed : Except String (Option (String × String)) → Line
  | .error _ => .malformed
  | .ok none => .ignored
  | .ok (some (key, value)) => .assignment key value

theorem textSays_parseText (text : List Char) :
    TextSays text (Line.ofParsed (parseText text)) := by
  obtain ⟨⟨front, behind, white, space, whole⟩, -, -⟩ := padded_trimSpace text
  unfold parseText
  dsimp only
  split
  next plain =>
    rcases plain with none | sharp
    · exact .blank (white_iff.mpr none)
    · exact .comment (comment_iff.mpr sharp)
  rename_i plain
  rw [not_or] at plain
  have uncommented : ¬ Comment text := fun comment => plain.2 (comment_iff.mp comment)
  split
  next unsigned =>
    refine .noSign (fun all => plain.1 (white_iff.mp all)) uncommented ?_
    rw [whole, List.mem_append, List.mem_append]
    rintro ((before | inside) | after)
    · exact white.sign_notMem before
    · exact unsigned inside
    · exact space.sign_notMem after
  next signed =>
    -- the sign is the first one of the whole text
    obtain ⟨sign, rest, cut⟩ : ∃ sign rest, (trimSpace text).dropWhile (· != '=') =
        sign :: rest := by
      cases cut : (trimSpace text).dropWhile (· != '=') with
      | nil =>
        have none := List.dropWhile_eq_nil_iff.mp cut '=' (not_not.mp signed)
        simp at none
      | cons sign rest => exact ⟨sign, rest, rfl⟩
    have first := List.head?_dropWhile_not (· != '=') (trimSpace text)
    rw [cut] at first
    obtain rfl : sign = '=' := by simpa using first
    have parts := List.takeWhile_append_dropWhile (p := (· != '=')) (l := trimSpace text)
    have fresh : '=' ∉ (trimSpace text).takeWhile (· != '=') := fun mem => by
      simpa using List.mem_takeWhile_imp mem
    rw [cut] at parts
    rw [cut, List.tail_cons]
    have split : text = (front ++ (trimSpace text).takeWhile (· != '=')) ++ '=' ::
        (rest ++ behind) := by
      nth_rewrite 1 [whole]
      nth_rewrite 1 [← parts]
      simp
    split
    next empty => exact .noKey split (white.append (white_iff.mpr empty))
    next named =>
      refine .assignment split ?_ uncommented named ((padded_trimSpace _).pad_left white)
        ((padded_trimSpace _).pad_right space)
      rw [List.mem_append, not_or]
      exact ⟨white.sign_notMem, fresh⟩

/-- A text has one first sign. -/
theorem first_sign {before after other behind : List Char} (fresh : '=' ∉ before)
    (new : '=' ∉ other) (same : before ++ '=' :: after = other ++ '=' :: behind) :
    before = other ∧ after = behind := by
  have cut : ∀ {before after : List Char}, '=' ∉ before →
      (before ++ '=' :: after).takeWhile (· != '=') = before := by
    intro before after fresh
    rw [List.takeWhile_append_of_pos, List.takeWhile_cons_of_neg (by simp), List.append_nil]
    rintro char mem
    exact bne_iff_ne.mpr (ne_of_mem_of_not_mem mem fresh)
  have front : (before ++ '=' :: after).takeWhile (· != '=') = before := cut fresh
  rw [same, cut new] at front
  subst front
  exact ⟨rfl, (List.cons.inj (List.append_cancel_left same)).2⟩

/-- A text means one thing. -/
theorem TextSays.unique {text : List Char} {one two : Line} (first : TextSays text one)
    (second : TextSays text two) : one = two := by
  have sign : ∀ {before after : List Char}, text = before ++ '=' :: after → '=' ∈ text := by
    rintro before after rfl
    simp
  -- a text that starts with the sign is no comment
  have unnamed : ∀ {before after : List Char}, text = before ++ '=' :: after → White before →
      ¬ Comment text := by
    rintro before after rfl white comment
    rw [comment_iff, head?_trimSpace white (by decide)] at comment
    simp at comment
  have keyless : ∀ {before after other behind key : List Char}, text = before ++ '=' :: after →
      White before → text = other ++ '=' :: behind → '=' ∉ other → key ≠ [] →
        ¬ Padded key other := by
    rintro before after other behind key rfl white same fresh named padded
    obtain ⟨rfl, -⟩ := first_sign white.sign_notMem fresh same
    exact named (padded.eq_trimSpace.trans (white_iff.mp white))
  cases first with
  | blank white =>
    cases second with
    | blank => rfl
    | comment => rfl
    | assignment split => exact absurd (sign split) white.sign_notMem
    | noKey split => exact absurd (sign split) white.sign_notMem
    | noSign black => exact absurd white black
  | comment comment =>
    cases second with
    | blank => rfl
    | comment => rfl
    | assignment _ _ plain => exact absurd comment plain
    | noKey split white => exact absurd comment (unnamed split white)
    | noSign _ plain => exact absurd comment plain
  | assignment split fresh plain named keyed valued =>
    cases second with
    | blank white => exact absurd (sign split) white.sign_notMem
    | comment comment => exact absurd comment plain
    | assignment other new _ _ keyed' valued' =>
      subst split
      obtain ⟨rfl, rfl⟩ := first_sign fresh new other
      rw [keyed.eq_trimSpace, valued.eq_trimSpace, keyed'.eq_trimSpace, valued'.eq_trimSpace]
    | noKey other white => exact absurd keyed (keyless other white split fresh named)
    | noSign _ _ unsigned => exact absurd (sign split) unsigned
  | noKey split white =>
    cases second with
    | blank all => exact absurd (sign split) all.sign_notMem
    | comment comment => exact absurd comment (unnamed split white)
    | assignment other fresh _ named keyed =>
      exact absurd keyed (keyless split white other fresh named)
    | noKey => rfl
    | noSign => rfl
  | noSign black plain unsigned =>
    cases second with
    | blank white => exact absurd white black
    | comment comment => exact absurd comment plain
    | assignment split => exact absurd (sign split) unsigned
    | noKey => rfl
    | noSign => rfl

/-- What the reader takes a line for. -/
def lineOf (line : List UInt8) : Line := Line.ofParsed (parseLine line)

/-- The reader takes every line for what it means. -/
theorem says_iff {line : List UInt8} {said : Line} : Says line said ↔ lineOf line = said := by
  have content : ∀ {content : List UInt8},
      line = content ++ [13] ∨ line = content ∧ content.getLast? ≠ some 13 →
      content = if line.getLast? = some 13 then line.dropLast else line := by
    rintro content (rfl | ⟨rfl, other⟩)
    · simp
    · rw [if_neg other]
  unfold lineOf parseLine
  dsimp only
  constructor
  · rintro ⟨_, cut, meaning⟩
    rw [← content cut]
    revert meaning
    cases String.fromUTF8? _ with
    | none => exact Eq.symm
    | some text => exact (textSays_parseText _).unique
  · rintro rfl
    refine ⟨if line.getLast? = some 13 then line.dropLast else line, ?_, ?_⟩
    · split
      next ends => exact .inl (List.dropLast_append_getLast? 13 ends).symm
      next other => exact .inr ⟨rfl, other⟩
    · cases String.fromUTF8? _ with
      | none => rfl
      | some text => exact textSays_parseText _

theorem forall₂_says_iff {lines : List (List UInt8)} {said : List Line} :
    List.Forall₂ Says lines said ↔ said = lines.map lineOf := by
  have same : Says = fun line said => lineOf line = said := by
    ext line said
    exact says_iff
  rw [same, ← List.forall₂_map_left_iff (f := lineOf) (R := Eq), List.forall₂_eq_eq_eq, eq_comm]

theorem fileSays_iff {file : List UInt8} {said : List Line} :
    FileSays file said ↔ said = (fileLines file).map lineOf := by
  constructor
  · rintro ⟨lines, segments, meanings⟩
    rw [← segments.eq_fileLines, forall₂_says_iff.mp meanings]
  · rintro rfl
    exact ⟨fileLines file, segments_fileLines file, forall₂_says_iff.mpr rfl⟩

/-! ## The reader meets it -/

theorem totalBytes_insert (outputs : Labels) (key value : String) :
    (Invocation.totalBytes (outputs.insert key value) : Int) = Invocation.totalBytes outputs -
        ((outputs.lookup key).elim 0 fun previous =>
          (key.utf8ByteSize + previous.utf8ByteSize : Int)) +
        (key.utf8ByteSize + value.utf8ByteSize) := by
  have cast : ∀ table : Labels, (Invocation.totalBytes table : Int) =
      table.total fun key value => (key.utf8ByteSize + value.utf8ByteSize : Int) := by
    intro table
    rw [Invocation.totalBytes, Table.total, Nat.cast_list_sum, List.map_map]
    rfl
  rw [cast, cast, Table.total_insert]

/-- The loop invariant. -/
structure OutputsReader.Exact (reader : OutputsReader) : Prop where
  total : reader.totalBytes = Invocation.totalBytes reader.outputs
  bounded : reader.outputs.keys.length ≤ 64

/-- The result of reading has `outputs`, unless there is a fault. -/
def Reads (fault : Option Bool) (outputs : Labels) (result : Except OutputsError OutputsReader) :
    Prop :=
  match fault with
  | none => ∃ next : OutputsReader, result = .ok next ∧ next.Exact ∧ next.outputs = outputs
  | some large => ∃ error, result = .error error ∧ isOutputsTooLarge error = large

section

variable {reader : OutputsReader} (quote : String → String) (exact : reader.Exact)

include exact

/-- The tests on the reader are those on the next outputs. -/
theorem reads_assignment {key value : String} (line : List UInt8)
    (parsed : parseLine line = .ok (some (key, value))) :
    Reads (lineFault reader.outputs (.assignment key value)) (reader.outputs.insert key value)
      (readOutputLine quote reader line) := by
  have count : 64 < (reader.outputs.insert key value).keys.length ↔
      reader.outputs.lookup key = none ∧ 64 ≤ reader.outputs.keys.length := by
    have bounded := exact.bounded
    rw [AList.keys_insert, List.length_cons, List.length_erase, AList.lookup_eq_none,
      AList.mem_keys]
    by_cases mem : key ∈ reader.outputs.keys
    · simp only [mem, if_true, not_true_eq_false, false_and, iff_false]
      omega
    · simp only [mem, if_false, not_false_eq_true, true_and]
      omega
  have total := totalBytes_insert reader.outputs key value
  rw [← exact.total] at total
  have size : (65536 : Int) < Invocation.totalBytes (reader.outputs.insert key value) ↔
      65536 < Invocation.totalBytes (reader.outputs.insert key value) := by
    omega
  rw [lineFault, readOutputLine, parsed]
  simp only [← total, count, size, ite_or]
  split_ifs with long wide many large
  iterate 4 exact ⟨_, rfl, rfl⟩
  exact ⟨_, rfl, ⟨rfl, not_lt.mp fun more => many (count.mp more)⟩, rfl⟩

theorem reads_line (line : List UInt8) :
    Reads (lineFault reader.outputs (lineOf line)) (assign reader.outputs (lineOf line))
      (readOutputLine quote reader line) := by
  rw [lineOf]
  match parsed : parseLine line with
  | .error fault =>
    rw [readOutputLine, parsed]
    exact ⟨_, rfl, rfl⟩
  | .ok none =>
    rw [readOutputLine, parsed]
    exact ⟨_, rfl, ⟨exact.total, exact.bounded⟩, rfl⟩
  | .ok (some (key, value)) => exact reads_assignment quote exact line parsed

end

/-- The fold reads what the specification says, from any reader that is exact. -/
theorem reads_lines (quote : String → String) (lines : List (List UInt8)) :
    ∀ reader : OutputsReader, reader.Exact → Reads (firstFault reader.outputs (lines.map lineOf))
        ((lines.map lineOf).foldl assign reader.outputs)
        (lines.foldlM (readOutputLine quote) reader) := by
  induction lines with
  | nil => exact fun reader exact => ⟨reader, rfl, exact, rfl⟩
  | cons line rest ih =>
    intro reader exact
    have read := reads_line quote exact line
    rw [List.foldlM_cons, List.map_cons, firstFault, List.foldl_cons]
    cases fault : lineFault reader.outputs (lineOf line) with
    | some large =>
      rw [fault] at read
      obtain ⟨error, failed, kind⟩ := read
      rw [failed]
      exact ⟨error, rfl, kind⟩
    | none =>
      rw [fault] at read
      obtain ⟨next, done, nextExact, outputs⟩ := read
      rw [done, ← outputs]
      exact ih next nextExact

theorem exact_start : OutputsReader.Exact {} := ⟨rfl, by decide⟩

theorem reads_file (quote : String → String) (file : List UInt8) :
    match firstFault ∅ ((fileLines file).map lineOf) with
    | none => readOutputs quote file = .ok (((fileLines file).map lineOf).foldl assign ∅)
    | some large =>
      ∃ error, readOutputs quote file = .error error ∧ isOutputsTooLarge error = large := by
  have reads := reads_lines quote (fileLines file) {} exact_start
  rw [readOutputs]
  cases fault : firstFault ∅ ((fileLines file).map lineOf) with
  | none =>
    rw [fault] at reads
    obtain ⟨next, done, -, outputs⟩ := reads
    rw [done, ← outputs]
    rfl
  | some large =>
    rw [fault] at reads
    obtain ⟨error, failed, kind⟩ := reads
    rw [failed]
    exact ⟨error, rfl, kind⟩

/-- A file has one meaning, and the reader folds it with the limits, so that the last value of
a key wins. The running total is the size of the map. -/
theorem readOutputs_spec (quote : String → String) (file : List UInt8) :
    (∃ said, FileSays file said ∧ (∀ other, FileSays file other → other = said) ∧
      match firstFault ∅ said with
      | none => readOutputs quote file = .ok (said.foldl assign ∅)
      | some large =>
        ∃ error, readOutputs quote file = .error error ∧ isOutputsTooLarge error = large) ∧
    ∀ (read : List (List UInt8)) reader, read.foldlM (readOutputLine quote) {} = .ok reader →
      reader.totalBytes = Invocation.totalBytes reader.outputs := by
  constructor
  · exact ⟨_, fileSays_iff.mpr rfl, fun other => fileSays_iff.mp, reads_file quote file⟩
  · intro read reader done
    have reads := reads_lines quote read {} exact_start
    rw [done] at reads
    cases fault : firstFault ∅ (read.map lineOf) with
    | none =>
      rw [fault] at reads
      obtain ⟨_, same, exact, -⟩ := reads
      cases same
      exact exact.total
    | some =>
      rw [fault] at reads
      obtain ⟨_, failed, -⟩ := reads
      cases failed

/-! ## The lines a proxy reads -/

theorem readLine_eq (outputs : Labels) {line : Line}
    (named : ∀ key value, line = .assignment key value → key ≠ "") :
    Invocation.readLine outputs line =
      if lineFault outputs line = none then some (assign outputs line) else none := by
  cases line with
  | ignored => rfl
  | malformed => rfl
  | assignment key value =>
    have keys : (outputs.insert key value).entries.length =
        (outputs.insert key value).keys.length := (List.length_map _).symm
    simp only [Invocation.readLine, lineFault, assign, keys, ite_eq_right_iff, reduceCtorEq,
      imp_false, not_or, not_lt, ne_eq, named key value rfl, not_false_eq_true, true_and]

theorem foldlM_readLine {lines : List Line}
    (named : ∀ key value, .assignment key value ∈ lines → key ≠ "") (outputs : Labels) :
    lines.foldlM Invocation.readLine outputs =
      if firstFault outputs lines = none then some (lines.foldl assign outputs) else none := by
  induction lines generalizing outputs with
  | nil => rfl
  | cons line rest ih =>
    rw [List.foldlM_cons, firstFault,
      readLine_eq outputs fun key value same => named key value (same ▸ List.mem_cons_self)]
    cases lineFault outputs line with
    | some large => rfl
    | none => exact ih (fun key value mem => named key value (List.mem_cons_of_mem _ mem)) _

theorem ne_empty_of_lineOf {line : List UInt8} {key value : String}
    (said : lineOf line = .assignment key value) : key ≠ "" := by
  obtain ⟨content, -, meaning⟩ := says_iff.mpr said
  revert meaning
  cases String.fromUTF8? content.toByteArray with
  | none => exact fun other => by cases other
  | some text =>
    rintro ⟨⟩
    rename_i named _ _
    simpa using named

/-- The invocations read the lines of the file that the Task reader reads. -/
theorem toOption_readOutputs (quote : String → String) (file : List UInt8) :
    (readOutputs quote file).toOption = Invocation.readOutputs ((fileLines file).map lineOf) := by
  have named : ∀ key value, .assignment key value ∈ (fileLines file).map lineOf → key ≠ "" := by
    intro key value mem
    obtain ⟨line, -, said⟩ := List.mem_map.mp mem
    exact ne_empty_of_lineOf said
  rw [Invocation.readOutputs, foldlM_readLine named]
  have read := reads_file quote file
  cases fault : firstFault ∅ ((fileLines file).map lineOf) with
  | none =>
    rw [fault] at read
    rw [show readOutputs quote file = _ from read]
    rfl
  | some large =>
    rw [fault] at read
    obtain ⟨error, failed, -⟩ := read
    rw [failed]
    rfl

end Kruntimes.Runtimed
